import Mathlib.Tactic.Common

/-!
# Runs of a step function

A system whose actions may be disabled is a function `step s a : Option S`.
`Reach step C` are its runs in which every step meets `C`, a condition on the
state before the step and the action. `Reach.invariant` is the induction, and
`follow` runs a fixed list of actions.
-/

namespace HakRobot.Proc

variable {S A : Type}

/-- `t` is reached from `s` by steps that all meet `C`. -/
inductive Reach (step : S → A → Option S) (C : S → A → Prop) (s : S) : S → Prop
  | refl : Reach step C s s
  | tail {t u : S} (a : A) (h : Reach step C s t) (hC : C t a) (hstep : step t a = some u) :
      Reach step C s u

variable {step : S → A → Option S} {C : S → A → Prop} {s t : S}

/-- What every step keeps, every run keeps. -/
theorem Reach.invariant {I : S → Prop} (hs : I s)
    (hI : ∀ t a u, I t → C t a → step t a = some u → I u) (h : Reach step C s t) : I t := by
  induction h with
  | refl => exact hs
  | tail a _ hC hstep ih => exact hI _ a _ ih hC hstep

/-! ## Fixed runs -/

/-- One action; a disabled one changes nothing. -/
def act (step : S → A → Option S) (s : S) (a : A) : S := (step s a).getD s

/-- A list of actions, one after another. -/
def follow (step : S → A → Option S) (s : S) (as : List A) : S := as.foldl (act step) s

/-- Every action of the list meets `C` when its turn comes. -/
def Meets (step : S → A → Option S) (C : S → A → Prop) : List A → S → Prop
  | [], _ => True
  | a :: as, s => C s a ∧ Meets step C as (act step s a)

instance decidableMeets [∀ s a, Decidable (C s a)] :
    ∀ (as : List A) (s : S), Decidable (Meets step C as s)
  | [], _ => inferInstanceAs (Decidable True)
  | a :: as, s =>
      have : Decidable (Meets step C as (act step s a)) := decidableMeets as _
      inferInstanceAs (Decidable (C s a ∧ Meets step C as (act step s a)))

theorem Reach.act {a : A} (h : Reach step C s t) (hC : C t a) :
    Reach step C s (act step t a) := by
  unfold Proc.act
  cases hstep : step t a with
  | none => exact h
  | some u => exact h.tail a hC hstep

theorem follow_reach {as : List A} (hC : Meets step C as s) :
    Reach step C s (follow step s as) := by
  unfold follow
  suffices hall : ∀ t, Reach step C s t → Meets step C as t →
      Reach step C s (as.foldl (Proc.act step) t) from hall s .refl hC
  clear hC
  induction as with
  | nil => exact fun t h _ => h
  | cons a as ih => exact fun t h hC => ih _ (h.act hC.1) hC.2

theorem meets_true (as : List A) (s : S) : Meets step (fun _ _ => True) as s := by
  induction as generalizing s with
  | nil => exact trivial
  | cons a as ih => exact ⟨trivial, ih _⟩

end HakRobot.Proc
