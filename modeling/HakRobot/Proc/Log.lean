import Mathlib.Tactic.Common

/-!
# Logs

A log lists events, the newest first. A condition on an event may speak of what
was logged before it; `Always` asks it of every event.
-/

namespace HakRobot.Proc

variable {E : Type} {ok ok' : E → List E → Prop}

/-- Every event met `ok` at the moment it was logged. -/
def Always (ok : E → List E → Prop) : List E → Prop
  | [] => True
  | e :: past => ok e past ∧ Always ok past

instance decidableAlways [∀ e past, Decidable (ok e past)] :
    ∀ log : List E, Decidable (Always ok log)
  | [] => inferInstanceAs (Decidable True)
  | e :: past =>
      have := decidableAlways past
      inferInstanceAs (Decidable (ok e past ∧ Always ok past))

@[simp] theorem always_nil : Always ok [] := trivial

@[simp] theorem always_cons (e : E) (past : List E) :
    Always ok (e :: past) ↔ ok e past ∧ Always ok past := Iff.rfl

theorem Always.mono (h : ∀ e past, ok e past → ok' e past) {log : List E}
    (hlog : Always ok log) : Always ok' log := by
  induction log with
  | nil => exact trivial
  | cons e past ih => exact ⟨h e past hlog.1, ih hlog.2⟩

end HakRobot.Proc
