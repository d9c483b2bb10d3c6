import HakRobot.Proc.Pool

/-!
# Interference

A program that runs next to threads which only act on the state by actions of a
known kind runs as if it were alone on a machine where any of these actions may
precede an operation (`Pool.Run.interfered_steps`). If the actions commute with
all operations of a program, what it does alone is what it does there
(`Machine.wp_interfered`): the actions can wait until it has ended.
-/

namespace HakRobot.Proc

variable {σ : Sig} {S A ε α ι : Type}

namespace Machine

/-- The state after the actions of others, oldest first. -/
def disturb (env : A → S → S) (as : List A) (s : S) : S := as.foldl (fun s a => env a s) s

@[simp] theorem disturb_nil (env : A → S → S) (s : S) : disturb env [] s = s := rfl

theorem disturb_append (env : A → S → S) (as bs : List A) (s : S) :
    disturb env (as ++ bs) s = disturb env bs (disturb env as s) :=
  List.foldl_append

/-- What the actions of others do not change. -/
theorem disturb_congr {β : Type} {env : A → S → S} {f : S → β} (hf : ∀ a s, f (env a s) = f s)
    (as : List A) (s : S) : f (disturb env as s) = f s := by
  induction as generalizing s with
  | nil => rfl
  | cons a as ih => exact (ih (env a s)).trans (hf a s)

/-- The machine on which others may act before every operation. -/
def interfered (M : Machine σ S) (env : A → S → S) : Machine σ S where
  Choice o := List A × M.Choice o
  exec o c s := M.exec o c.2 (disturb env c.1 s)

/-- The operation neither sees nor hinders the actions of others. -/
def Commutes (M : Machine σ S) (env : A → S → S) (o : σ.Op) : Prop :=
  ∀ a c s, M.exec o c (env a s) = ((M.exec o c s).1, env a (M.exec o c s).2)

variable {M : Machine σ S} {env : A → S → S}

theorem Commutes.disturb {o : σ.Op} (ho : Commutes M env o) (as : List A) (c : M.Choice o)
    (s : S) :
    M.exec o c (disturb env as s) =
      ((M.exec o c s).1, Machine.disturb env as (M.exec o c s).2) := by
  induction as generalizing s with
  | nil => rfl
  | cons a as ih =>
      show M.exec o c (Machine.disturb env as (env a s)) = _
      rw [ih, ho a c s]
      rfl

/-- Actions that commute with a program wait until it has ended. -/
theorem wp_interfered {p : Prog σ ε α} (hp : p.Uses (Commutes M env)) {Q : α → S → Prop}
    {E : ε → S → Prop} {s : S} (h : M.Ends M.anyChoice p Q E s) (as : List A) :
    (M.interfered env).Ends (anyChoice _) p (fun a t => ∃ as t₀, Q a t₀ ∧ t = disturb env as t₀)
      (fun e t => ∃ as t₀, E e t₀ ∧ t = disturb env as t₀) (disturb env as s) := by
  induction p generalizing s as with
  | ret a => exact ⟨as, s, h, rfl⟩
  | raise e => exact ⟨as, s, h, rfl⟩
  | op o k ih =>
      refine ⟨trivial, fun c _ => ?_⟩
      have hexec : (M.interfered env).exec o c (disturb env as s) =
          ((M.exec o c.2 s).1, disturb env (as ++ c.1) (M.exec o c.2 s).2) := by
        show M.exec o c.2 (disturb env c.1 (disturb env as s)) = _
        rw [← disturb_append]
        exact hp.1.disturb _ _ _
      rw [hexec]
      exact ih _ (hp.2 _) (h.2 c.2 trivial) (as ++ c.1)

/-- Others need not act. -/
theorem Steps.interfered {c d : Prog σ ε α × S} (hsteps : M.Steps M.anyChoice c d) :
    (M.interfered env).Steps (anyChoice _) c d := by
  induction hsteps with
  | refl => exact .refl
  | tail _ hstep ih =>
      cases hstep with
      | op x hx => exact ih.tail (.op (M := M.interfered env) ([], x) trivial)

end Machine

/-- The operation is an action of others, whatever the outside world does. -/
def Acts (M : Machine σ S) (env : A → S → S) (o : σ.Op) : Prop :=
  ∃ a, ∀ c s, (M.exec o c s).2 = env a s

/-- The steps of one thread, next to threads that only act. -/
theorem Pool.Run.interfered_steps [DecidableEq ι] {M : Machine σ S} {env : A → S → S}
    {P P' : Pool σ S ε α ι} {h : Pool.History σ ι} (hrun : Pool.Run M M.anyChoice P h P') {i : ι}
    (hothers : ∀ j, j ≠ i → (P.thread j).Uses (Acts M env)) :
    (∀ j, j ≠ i → (P'.thread j).Uses (Acts M env)) ∧
    ∃ s as, (M.interfered env).Steps (Machine.anyChoice _) (P.thread i, P.shared)
      (P'.thread i, s) ∧ P'.shared = Machine.disturb env as s := by
  induction hrun with
  | nil => exact ⟨hothers, P.shared, [], .refl, rfl⟩
  | @snoc h P₁ P₂ e hrun₁ hstep₁ ih =>
      obtain ⟨hacts, s, as, hsteps, hshared⟩ := ih
      cases hstep₁ with
      | @op j o k hj c hc =>
          by_cases hij : j = i
          · subst hij
            refine ⟨fun l hl => ?_, (M.exec o c P₁.shared).2, [], ?_, rfl⟩
            · simpa only [Function.update_of_ne hl] using hacts l hl
            · rw [hj] at hsteps
              simp only [Function.update_self]
              rw [hshared]
              exact hsteps.tail (.op (M := M.interfered env) (as, c) trivial)
          · have hother := hacts j hij
            rw [hj] at hother
            obtain ⟨a, ha⟩ := hother.1
            refine ⟨fun l hl => ?_, s, as ++ [a], ?_, ?_⟩
            · by_cases hlj : l = j
              · subst hlj
                simpa only [Function.update_self] using hother.2 _
              · simpa only [Function.update_of_ne hlj] using hacts l hl
            · simpa only [Function.update_of_ne (Ne.symm hij)] using hsteps
            · show (M.exec o c P₁.shared).2 = _
              rw [ha, hshared, Machine.disturb_append]
              rfl

end HakRobot.Proc
