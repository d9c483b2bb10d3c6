import HakRobot.Gripper.Debounce

/-!
# The slider script on a bus that fails

A Modbus write that raises, on the bus or because `write_long` refuses a position
outside its range, leaves the callback between `l2.append` and `l2.pop`. The
position then counts as accepted, and `l2` stays one element longer for good.

* `attempts_debounced` — for every pattern of failures the positions that the script
  attempts to write are the debounced positions, no one of them twice in a row, so a
  position that failed is not tried again until another one came between;
* and `l2` has one element more for every callback whose write failed.
-/

namespace HakRobot.Gripper

variable {fl : ℚ → Option ℚ} {s : SliderState} {a : JointState × Outcome} {p : ℤ}

/-- The positions `write_position` was called with, the oldest first. -/
def attempts (log : List ModbusWrite) : List ℤ :=
  log.reverse.filterMap fun
    | .position p _ => some p
    | .trigger _ => none

theorem attempts_append (log past : List ModbusWrite) :
    attempts (log ++ past) = attempts past ++ attempts log := by
  simp [attempts]

@[simp] theorem attempts_nil : attempts [] = [] := rfl

@[simp] theorem attempts_commandLog (p : ℤ) (x : Outcome) : attempts (commandLog p x) = [p] := by
  unfold commandLog
  split <;> rfl

/-- 1 for a callback that raised on the bus. -/
def failedOnBus : Except CallbackError Unit → Nat
  | .error .modbus => 1
  | _ => 0

/-- How many of the callbacks raised on the bus. -/
def busFailures (fl : ℚ → Option ℚ) : SliderState → List (JointState × Outcome) → Nat
  | _, [] => 0
  | s, a :: samples =>
      failedOnBus (Script.exec (callback fl a.1 a.2) s).1 + busFailures fl (s.step fl a) samples

theorem computePosition_ne_modbus (data : JointState) :
    computePosition fl data ≠ .error .modbus := by
  intro h
  unfold computePosition at h
  split at h
  · cases h
  · cases h
  · split at h
    · cases h
    · cases h

/-- One callback adds an element to `l2` exactly when it raises on the bus. -/
theorem step_l2_length (hl : s.l2 ≠ []) :
    (s.step fl a).l2.length =
      s.l2.length + failedOnBus (Script.exec (callback fl a.1 a.2) s).1 := by
  have hpos := List.length_pos_iff.mpr hl
  have hslept : failedOnBus (if a.2.sleepOk then .ok () else .error .rosInterrupt) = 0 := by
    split <;> rfl
  rw [SliderState.step, callback_exec]
  cases hp : computePosition fl a.1 with
  | error e =>
      cases e with
      | modbus => exact absurd hp (computePosition_ne_modbus a.1)
      | _ => rfl
  | ok p =>
      by_cases hmajor : (shift s.l1 p).count p ≥ 3
      · by_cases hold : s.l2.getLast? = some p
        · simp only [hmajor, hold, if_true, hslept, List.length_tail, List.length_append,
            List.length_singleton]
          omega
        · by_cases hdone : commandOk p a.2 = true
          · simp only [hmajor, hold, hdone, if_true, if_false, hslept, List.length_tail,
              List.length_append, List.length_singleton]
            omega
          · simp [hmajor, hold, hdone, failedOnBus]
      · simp [hmajor, hslept]

/-- The script after the positions `ps`, whatever the bus did. -/
structure Attempted (ps : List ℤ) (s : SliderState) : Prop where
  l1_eq : s.l1 = lastFive ps
  accepted_eq : s.l2.getLast? = some (lastKept ps)
  attempts_eq : attempts s.log = debounced ps

variable {ps : List ℤ}

theorem Attempted.l2_ne_nil (hs : Attempted ps s) : s.l2 ≠ [] := by
  intro hnil
  have haccepted := hs.accepted_eq
  rw [hnil] at haccepted
  cases haccepted

/-- **Step.** A callback with one more position, whether its writes go through or not. -/
theorem Attempted.step (hs : Attempted ps s) (hp : computePosition fl a.1 = .ok p) :
    Attempted (ps ++ [p]) (s.step fl a) := by
  have hwindow : shift s.l1 p = lastFive (ps ++ [p]) := by rw [hs.l1_eq, shift_lastFive]
  by_cases hmajor : (lastFive (ps ++ [p])).count p ≥ 3
  · have hlast : s.l2.getLast? = some p ↔ lastKept ps = p := by simp [hs.accepted_eq]
    obtain ⟨haccepted, hlog⟩ := step_major hp (hwindow ▸ hmajor) hs.l2_ne_nil
    refine ⟨(step_window hp).trans hwindow, ?_, ?_⟩
    · rw [haccepted, lastKept_concat, if_pos hmajor]
    · rw [hlog, attempts_append, hs.attempts_eq, debounced_concat_major hmajor]
      by_cases hold : lastKept ps = p
      · rw [if_pos (hlast.mpr hold), if_pos hold, attempts_nil]
      · rw [if_neg (hlast.not.mpr hold), if_neg hold, attempts_commandLog]
  · rw [step_minor hp (hwindow ▸ hmajor)]
    refine ⟨hwindow, ?_, ?_⟩
    · rw [lastKept_concat, if_neg hmajor]
      exact hs.accepted_eq
    · rw [debounced_concat_minor hmajor]
      exact hs.attempts_eq

/-- **Run.** -/
theorem Attempted.run {samples : List (JointState × Outcome)} (hs : Attempted ps s) :
    Attempted (ps ++ computed fl samples) (samples.foldl (·.step fl ·) s) ∧
      (samples.foldl (·.step fl ·) s).l2.length = s.l2.length + busFailures fl s samples := by
  induction samples generalizing ps s with
  | nil => exact ⟨by simpa [computed] using hs, rfl⟩
  | cons a samples ih =>
      have hlength : (s.step fl a).l2.length = s.l2.length + _ := step_l2_length hs.l2_ne_nil
      rw [List.foldl_cons, busFailures, ← Nat.add_assoc, ← hlength]
      cases hp : computePosition fl a.1 with
      | error e =>
          have hsame := step_error hp (s := s)
          obtain ⟨hrun, hcount⟩ := ih (hsame ▸ hs)
          exact ⟨by simpa [computed, hp, Except.toOption] using hrun, hcount⟩
      | ok p =>
          obtain ⟨hrun, hcount⟩ := ih (hs.step hp)
          exact ⟨by simpa [computed, hp, Except.toOption] using hrun, hcount⟩

end HakRobot.Gripper
