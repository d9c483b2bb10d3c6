import HakRobot.Proc.Machine
import Mathlib.Logic.Function.Basic
import Mathlib.Data.List.Induction

/-!
# Interleaving

Any family of programs over one shared state, scheduled operation by operation
in any order. A run records which thread did what:

* `Run.thread_steps` — what one thread did in a run of the pool is a run of its
  program against an environment that may answer anything, so facts about all
  answers transfer to every schedule;
* `Run.invariant` — a shared invariant, tied to a local phase of every thread
  that follows that thread's own answers, holds after every schedule if each
  operation a thread may perform in its phase keeps it.
-/

namespace HakRobot.Proc

/-- An operation with the result it had. -/
abbrev Event (σ : Sig) := (o : σ.Op) × σ.Res o

/-- Programs next to each other on a shared state. -/
structure Pool (σ : Sig) (S ε α ι : Type) where
  shared : S
  thread : ι → Prog σ ε α

namespace Pool

variable {σ : Sig} {S ε α ι L : Type} [DecidableEq ι]

/-- What happened, oldest first, and which thread did it. -/
abbrev History (σ : Sig) (ι : Type) := List (ι × Event σ)

/-- One operation of one thread. -/
inductive Step (M : Machine σ S) (R : M.Rely) :
    Pool σ S ε α ι → ι × Event σ → Pool σ S ε α ι → Prop
  | op {P : Pool σ S ε α ι} {i : ι} {o : σ.Op} {k : σ.Res o → Prog σ ε α}
      (hi : P.thread i = .op o k) (c : M.Choice o) (hc : R P.shared o c) :
      Step M R P (i, ⟨o, (M.exec o c P.shared).1⟩)
        { shared := (M.exec o c P.shared).2
          thread := Function.update P.thread i (k (M.exec o c P.shared).1) }

/-- A schedule of any length, with its history. -/
inductive Run (M : Machine σ S) (R : M.Rely) (P : Pool σ S ε α ι) :
    History σ ι → Pool σ S ε α ι → Prop
  | nil : Run M R P [] P
  | snoc {h : History σ ι} {P' P'' : Pool σ S ε α ι} {e : ι × Event σ} :
      Run M R P h P' → Step M R P' e P'' → Run M R P (h ++ [e]) P''

/-- What thread `i` did. -/
def History.of (i : ι) (h : History σ ι) : List (Event σ) :=
  h.filterMap fun e => if e.1 = i then some e.2 else none

/-- The local phases after a history. -/
def History.phases (δ : L → (o : σ.Op) → σ.Res o → L) (ℓ : ι → L) (h : History σ ι) : ι → L :=
  h.foldl (fun ℓ e => Function.update ℓ e.1 (δ (ℓ e.1) e.2.1 e.2.2)) ℓ

theorem History.phases_snoc (δ : L → (o : σ.Op) → σ.Res o → L) (ℓ : ι → L)
    (h : History σ ι) (e : ι × Event σ) :
    History.phases δ ℓ (h ++ [e]) =
      Function.update (History.phases δ ℓ h) e.1
        (δ (History.phases δ ℓ h e.1) e.2.1 e.2.2) := by
  simp [History.phases, List.foldl_append]

/-- A thread's phase depends on its own events only. -/
theorem History.phases_of (δ : L → (o : σ.Op) → σ.Res o → L) (ℓ : ι → L)
    (h : History σ ι) (i : ι) :
    History.phases δ ℓ h i = (h.of i).foldl (fun ℓ e => δ ℓ e.1 e.2) (ℓ i) := by
  induction h using List.reverseRecOn with
  | nil => rfl
  | append_singleton h e ih =>
      rw [History.phases_snoc]
      by_cases he : e.1 = i
      · subst he
        simp [History.of, List.filterMap_append, ih]
      · simp [History.of, List.filterMap_append, he, Function.update_of_ne (Ne.symm he), ih]

/-- A coarser phase can be read off a finer one. -/
theorem History.phases_map {L' : Type} {δ : L → (o : σ.Op) → σ.Res o → L}
    {δ' : L' → (o : σ.Op) → σ.Res o → L'} {f : L → L'}
    (hf : ∀ ℓ o r, f (δ ℓ o r) = δ' (f ℓ) o r) (ℓ : ι → L) (h : History σ ι) (i : ι) :
    f (History.phases δ ℓ h i) = History.phases δ' (fun j => f (ℓ j)) h i := by
  rw [History.phases_of, History.phases_of]
  generalize ℓ i = ℓ₀
  induction h.of i generalizing ℓ₀ with
  | nil => rfl
  | cons e es ih =>
      rw [List.foldl_cons, List.foldl_cons, ih, hf]

variable {M : Machine σ S} {R : M.Rely} {P P' : Pool σ S ε α ι} {h : History σ ι}

/-- The part of a run one thread sees is a run of its own program against an
environment that may answer anything. -/
theorem Run.thread_steps (hrun : Run M R P h P')
    (δ : L → (o : σ.Op) → σ.Res o → L) (ℓ : ι → L) (i : ι) :
    (Machine.monitor σ δ).Steps (Machine.anyChoice _) (P.thread i, ℓ i)
      (P'.thread i, History.phases δ ℓ h i) := by
  induction hrun with
  | nil => exact .refl
  | snoc _ hstep ih =>
      cases hstep with
      | @op j o k hj c hc =>
          rw [History.phases_snoc]
          by_cases hij : i = j
          · subst hij
            rw [hj] at ih
            simp only [Function.update_self]
            exact ih.tail (.op (M := Machine.monitor σ δ) _ trivial)
          · simpa only [Function.update_of_ne hij] using ih

/-- A schedule in which every operation is performed in a state of the whole pool
that meets `C`: the condition may speak of what the other threads do next. -/
inductive RunWith (M : Machine σ S) (R : M.Rely) (C : Pool σ S ε α ι → ι → σ.Op → Prop)
    (P : Pool σ S ε α ι) : History σ ι → Pool σ S ε α ι → Prop
  | nil : RunWith M R C P [] P
  | snoc {h : History σ ι} {P' P'' : Pool σ S ε α ι} {e : ι × Event σ} :
      RunWith M R C P h P' → C P' e.1 e.2.1 → Step M R P' e P'' →
      RunWith M R C P (h ++ [e]) P''

variable {C : Pool σ S ε α ι → ι → σ.Op → Prop}

theorem RunWith.run (hrun : RunWith M R C P h P') : Run M R P h P' := by
  induction hrun with
  | nil => exact .nil
  | snoc _ _ hstep ih => exact ih.snoc hstep

theorem Run.runWith (hrun : Run M R P h P') (hC : ∀ P i o, C P i o) : RunWith M R C P h P' := by
  induction hrun with
  | nil => exact .nil
  | snoc _ hstep ih => exact ih.snoc (hC _ _ _) hstep

/-- The rule of `Run.invariant`, for a condition on the pool and an invariant that
may speak of what has happened. A step may use what every thread is left to do in
its phase. -/
theorem RunWith.invariant_history (hrun : RunWith M R C P h P')
    {δ : L → (o : σ.Op) → σ.Res o → L} {G : L → σ.Op → Prop}
    {Q : α → L → Prop} {E : ε → L → Prop} {I : History σ ι → S → (ι → L) → Prop} {ℓ : ι → L}
    (hI : I [] P.shared ℓ)
    (hP : ∀ i, (Machine.monitor σ δ).wp (Machine.anyChoice _) G (P.thread i) Q E (ℓ i))
    (hstep : ∀ h (P : Pool σ S ε α ι) ℓ i o c, I h P.shared ℓ →
      (∀ j, (Machine.monitor σ δ).wp (Machine.anyChoice _) G (P.thread j) Q E (ℓ j)) →
      C P i o → R P.shared o c → G (ℓ i) o →
      I (h ++ [(i, ⟨o, (M.exec o c P.shared).1⟩)]) (M.exec o c P.shared).2
        (Function.update ℓ i (δ (ℓ i) o (M.exec o c P.shared).1))) :
    I h P'.shared (History.phases δ ℓ h) := by
  induction hrun with
  | nil => exact hI
  | @snoc h P₁ P₂ e hrun₁ hC hstep₁ ih =>
      have hwp := fun j => Machine.wp_steps (c := (P.thread j, ℓ j)) (hP j)
        (hrun₁.run.thread_steps δ ℓ j)
      cases hstep₁ with
      | @op i o k hi c hc =>
          have hnow := hwp i
          rw [hi] at hnow
          rw [History.phases_snoc]
          exact hstep _ _ _ i o c ih hwp hC hc hnow.1

theorem RunWith.invariant (hrun : RunWith M R C P h P')
    {δ : L → (o : σ.Op) → σ.Res o → L} {G : L → σ.Op → Prop}
    {Q : α → L → Prop} {E : ε → L → Prop} {I : S → (ι → L) → Prop} {ℓ : ι → L}
    (hI : I P.shared ℓ)
    (hP : ∀ i, (Machine.monitor σ δ).wp (Machine.anyChoice _) G (P.thread i) Q E (ℓ i))
    (hstep : ∀ (P : Pool σ S ε α ι) ℓ i o c, I P.shared ℓ →
      (∀ j, (Machine.monitor σ δ).wp (Machine.anyChoice _) G (P.thread j) Q E (ℓ j)) →
      C P i o → R P.shared o c → G (ℓ i) o →
      I (M.exec o c P.shared).2 (Function.update ℓ i (δ (ℓ i) o (M.exec o c P.shared).1))) :
    I P'.shared (History.phases δ ℓ h) :=
  hrun.invariant_history (I := fun _ => I) hI hP fun _ P ℓ i o c => hstep P ℓ i o c

/-- See the module docstring. -/
theorem Run.invariant (hrun : Run M R P h P')
    {δ : L → (o : σ.Op) → σ.Res o → L} {G : L → σ.Op → Prop}
    {Q : α → L → Prop} {E : ε → L → Prop} {I : S → (ι → L) → Prop} {ℓ : ι → L}
    (hI : I P.shared ℓ)
    (hP : ∀ i, (Machine.monitor σ δ).wp (Machine.anyChoice _) G (P.thread i) Q E (ℓ i))
    (hstep : ∀ s ℓ i o c, I s ℓ → R s o c → G (ℓ i) o →
      I (M.exec o c s).2 (Function.update ℓ i (δ (ℓ i) o (M.exec o c s).1))) :
    I P'.shared (History.phases δ ℓ h) :=
  (hrun.runWith (C := fun _ _ _ => True) fun _ _ _ => trivial).invariant hI hP
    fun P ℓ i o c h _ _ hc hG => hstep P.shared ℓ i o c h hc hG

/-! ## Running a fixed schedule -/

/-- Let thread `i` perform its next operation, if it has one. -/
def advance (M : Machine σ S) (i : ι) (pick : (o : σ.Op) → M.Choice o)
    (c : History σ ι × Pool σ S ε α ι) : History σ ι × Pool σ S ε α ι :=
  match c.2.thread i with
  | .op o k =>
      let r := M.exec o (pick o) c.2.shared
      (c.1 ++ [(i, ⟨o, r.1⟩)],
        { shared := r.2, thread := Function.update c.2.thread i (k r.1) })
  | _ => c

/-- Let the threads take turns as listed. -/
def schedule (M : Machine σ S) (turns : List (ι × ((o : σ.Op) → M.Choice o)))
    (P : Pool σ S ε α ι) : History σ ι × Pool σ S ε α ι :=
  turns.foldl (fun c t => advance M t.1 t.2 c) ([], P)

/-- The turn of thread `i` meets the condition on the outside world. -/
def Ready (M : Machine σ S) (R : M.Rely) (i : ι) (pick : (o : σ.Op) → M.Choice o)
    (P : Pool σ S ε α ι) : Prop :=
  match P.thread i with
  | .op o _ => R P.shared o (pick o)
  | _ => True

instance {M : Machine σ S} {R : M.Rely} [∀ s o c, Decidable (R s o c)] {i : ι}
    {pick : (o : σ.Op) → M.Choice o} {P : Pool σ S ε α ι} : Decidable (Ready M R i pick P) := by
  unfold Ready
  split <;> infer_instance

/-- Every turn of the list does. -/
def AllReady (M : Machine σ S) (R : M.Rely) :
    List (ι × ((o : σ.Op) → M.Choice o)) → History σ ι × Pool σ S ε α ι → Prop
  | [], _ => True
  | t :: ts, c => Ready M R t.1 t.2 c.2 ∧ AllReady M R ts (advance M t.1 t.2 c)

instance decidableAllReady {M : Machine σ S} {R : M.Rely} [∀ s o c, Decidable (R s o c)] :
    ∀ (turns : List (ι × ((o : σ.Op) → M.Choice o))) (c : History σ ι × Pool σ S ε α ι),
      Decidable (AllReady M R turns c)
  | [], _ => inferInstanceAs (Decidable True)
  | t :: ts, c =>
      have := decidableAllReady (R := R) ts (advance M t.1 t.2 c)
      inferInstanceAs (Decidable (_ ∧ _))

theorem advance_run {pick : (o : σ.Op) → M.Choice o} {i : ι}
    {c : History σ ι × Pool σ S ε α ι} (hready : Ready M R i pick c.2)
    (hc : Run M R P c.1 c.2) :
    Run M R P (advance M i pick c).1 (advance M i pick c).2 := by
  unfold advance
  split
  · rename_i o k hi
    unfold Ready at hready
    rw [hi] at hready
    exact hc.snoc (.op hi (pick o) hready)
  · exact hc

theorem schedule_run_of_ready {turns : List (ι × ((o : σ.Op) → M.Choice o))}
    {P : Pool σ S ε α ι} (hready : AllReady M R turns ([], P)) :
    Run M R P (schedule M turns P).1 (schedule M turns P).2 := by
  unfold schedule
  suffices hc : ∀ c : History σ ι × Pool σ S ε α ι, AllReady M R turns c → Run M R P c.1 c.2 →
      Run M R P (turns.foldl (fun c t => advance M t.1 t.2 c) c).1
        (turns.foldl (fun c t => advance M t.1 t.2 c) c).2 from hc _ hready .nil
  clear hready
  induction turns with
  | nil => exact fun c _ hc => hc
  | cons t ts ih => exact fun c hready hc => ih _ hready.2 (advance_run hready.1 hc)

theorem schedule_run {turns : List (ι × ((o : σ.Op) → M.Choice o))} (P : Pool σ S ε α ι) :
    Run M M.anyChoice P (schedule M turns P).1 (schedule M turns P).2 := by
  refine schedule_run_of_ready ?_
  generalize (([], P) : History σ ι × Pool σ S ε α ι) = c
  induction turns generalizing c with
  | nil => exact trivial
  | cons t ts ih =>
      refine ⟨?_, ih _⟩
      unfold Ready
      split <;> exact trivial

/-- The next operation of thread `i`, if it has one, meets `C`. -/
def Fits (C : Pool σ S ε α ι → ι → σ.Op → Prop) (i : ι) (P : Pool σ S ε α ι) : Prop :=
  match P.thread i with
  | .op o _ => C P i o
  | _ => True

instance [∀ P i o, Decidable (C P i o)] {i : ι} : Decidable (Fits C i P) := by
  unfold Fits
  split <;> infer_instance

/-- Every turn of the list does. -/
def AllFit (M : Machine σ S) (C : Pool σ S ε α ι → ι → σ.Op → Prop) :
    List (ι × ((o : σ.Op) → M.Choice o)) → History σ ι × Pool σ S ε α ι → Prop
  | [], _ => True
  | t :: ts, c => Fits C t.1 c.2 ∧ AllFit M C ts (advance M t.1 t.2 c)

instance decidableAllFit [∀ P i o, Decidable (C P i o)] :
    ∀ (turns : List (ι × ((o : σ.Op) → M.Choice o))) (c : History σ ι × Pool σ S ε α ι),
      Decidable (AllFit M C turns c)
  | [], _ => inferInstanceAs (Decidable True)
  | t :: ts, c =>
      have := decidableAllFit ts (advance M t.1 t.2 c)
      inferInstanceAs (Decidable (Fits C t.1 c.2 ∧ AllFit M C ts (advance M t.1 t.2 c)))

theorem advance_runWith {pick : (o : σ.Op) → M.Choice o} {i : ι}
    {c : History σ ι × Pool σ S ε α ι} (hfit : Fits C i c.2)
    (hc : RunWith M M.anyChoice C P c.1 c.2) :
    RunWith M M.anyChoice C P (advance M i pick c).1 (advance M i pick c).2 := by
  unfold advance
  split
  · rename_i o k hi
    unfold Fits at hfit
    rw [hi] at hfit
    exact hc.snoc hfit (.op hi (pick o) trivial)
  · exact hc

theorem schedule_runWith {turns : List (ι × ((o : σ.Op) → M.Choice o))}
    {P : Pool σ S ε α ι} (hfit : AllFit M C turns ([], P)) :
    RunWith M M.anyChoice C P (schedule M turns P).1 (schedule M turns P).2 := by
  unfold schedule
  suffices hc : ∀ c : History σ ι × Pool σ S ε α ι, AllFit M C turns c →
      RunWith M M.anyChoice C P c.1 c.2 →
      RunWith M M.anyChoice C P (turns.foldl (fun c t => advance M t.1 t.2 c) c).1
        (turns.foldl (fun c t => advance M t.1 t.2 c) c).2 from hc _ hfit .nil
  clear hfit
  induction turns with
  | nil => exact fun c _ hc => hc
  | cons t ts ih => exact fun c hfit hc => ih _ hfit.2 (advance_runWith hfit.1 hc)

end Pool

end HakRobot.Proc
