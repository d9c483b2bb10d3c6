import Mathlib.Algebra.Order.Ring.Unbundled.Rat
import Mathlib.Algebra.Ring.Rat
import Mathlib.Data.List.Induction
import Mathlib.Data.Rat.Init
import Mathlib.Tactic.Common

/-!
# The slider script of the gripper

`GUI2Robot_90.py` turns joint states into positions of the gripper. Its callback
keeps the last five positions in `l1`; `l2` holds the positions it accepted, and
is trimmed only where the callback does not raise.

* `window_eq` — `l1` is the last five computed positions;
* `accepted_eq_commanded` — the last element of `l2` is the position commanded
  last, whether the command went through or not;
* `gripper_follows_slider` — so a position that settled is where the gripper was
  last sent, unless its command failed or was never issued.
-/

namespace HakRobot.Gripper

/-! ## Samples -/

/-- `sensor_msgs/JointState`: the positions, `none` where one is not a finite
number. -/
structure JointState where
  position : List (Option ℚ)

/-- How the callback is left early. -/
inductive CallbackError
  | indexError
  | notFinite
  | modbus
  | rosInterrupt
deriving DecidableEq

/-- `int(x)`: towards zero. -/
def pyInt (x : ℚ) : ℤ := if x < 0 then x.ceil else x.floor

/-- `int((1 - data.position[2]) * 9000)`. Each float operation is followed by
`fl`, which rounds its result or finds it too large. -/
def computePosition (fl : ℚ → Option ℚ) (data : JointState) : Except CallbackError ℤ :=
  match data.position[2]? with
  | none => .error .indexError
  | some none => .error .notFinite
  | some (some x) =>
      match (fl (1 - x)).bind fun y => fl (y * 9000) with
      | none => .error .notFinite
      | some z => .ok (pyInt z)

/-! ## The script's state -/

/-- `write_position` and `trigger_motion`, each with whether it went through. -/
inductive ModbusWrite
  | position (value : ℤ) (ok : Bool)
  | trigger (ok : Bool)
deriving DecidableEq

/-- The two lists of the script, and its writes, newest first. -/
structure SliderState where
  l1 : List ℤ
  l2 : List ℤ
  log : List ModbusWrite

/-- `l1 = [0 for i in range(5)]` and `l2 = [1001]`. -/
def SliderState.init : SliderState := ⟨List.replicate 5 0, [1001], []⟩

/-- What the outside world does to one callback: the two writes and
`rate.sleep()` succeed or raise. -/
structure Outcome where
  busOk : Bool
  triggerOk : Bool
  sleepOk : Bool

/-- Code of the script: it can raise, and keeps what it changed before. -/
abbrev Script := ExceptT CallbackError (StateM SliderState)

/-- The result of a piece of code, and the state it leaves. -/
def Script.exec {α : Type} (m : ExceptT CallbackError (StateM SliderState) α) (s : SliderState) :
    Except CallbackError α × SliderState :=
  m.run.run s

/-- A call that went through, or raises. -/
def finish (ok : Bool) (e : CallbackError) : Script Unit :=
  if ok then pure () else throw e

/-- `write_long` takes 32 bits without a sign, and the bus may fail. -/
def positionOk (value : ℤ) (busOk : Bool) : Bool := busOk && decide (0 ≤ value ∧ value < 2 ^ 32)

/-- `write_position`. -/
def writePosition (value : ℤ) (busOk : Bool) : Script Unit := do
  modify fun s => { s with log := .position value (positionOk value busOk) :: s.log }
  finish (positionOk value busOk) .modbus

/-- `trigger_motion`. -/
def triggerMotion (busOk : Bool) : Script Unit := do
  modify fun s => { s with log := .trigger busOk :: s.log }
  finish busOk .modbus

/-- `callback`. -/
def callback (fl : ℚ → Option ℚ) (data : JointState) (x : Outcome) : Script Unit := do
  let p ← computePosition fl data
  modify fun s => { s with l1 := s.l1 ++ [p] }
  modify fun s => { s with l1 := s.l1.tail }
  if (← get).l1.count p ≥ 3 then
    modify fun s => { s with l2 := s.l2 ++ [p] }
    -- `l2[-1] != l2[-2]`
    if (← get).l2.getLast? ≠ (← get).l2.dropLast.getLast? then
      writePosition p x.busOk
      triggerMotion x.triggerOk
    modify fun s => { s with l2 := s.l2.tail }
  finish x.sleepOk .rosInterrupt

/-- One callback. -/
def SliderState.step (fl : ℚ → Option ℚ) (s : SliderState) (a : JointState × Outcome) :
    SliderState :=
  (Script.exec (callback fl a.1 a.2) s).2

/-- The callback raised in a Modbus write: the bus failed, or the position was outside the
range of `write_long`. -/
def ModbusFailed (fl : ℚ → Option ℚ) (s : SliderState) (a : JointState × Outcome) : Prop :=
  (Script.exec (callback fl a.1 a.2) s).1 = .error .modbus

/-- The script after a sequence of callbacks. -/
def after (fl : ℚ → Option ℚ) (samples : List (JointState × Outcome)) : SliderState :=
  samples.foldl (·.step fl ·) .init

/-- The positions it computed. -/
def computed (fl : ℚ → Option ℚ) (samples : List (JointState × Outcome)) : List ℤ :=
  samples.filterMap fun a => (computePosition fl a.1).toOption

/-! ## Reading the writes -/

/-- The last position written and triggered, both without a failure. -/
def lastTriggered : List ModbusWrite → Option ℤ
  | .trigger true :: .position p true :: _ => some p
  | _ :: past => lastTriggered past
  | [] => none

/-- The last position `write_position` was called with. -/
def lastCommanded : List ModbusWrite → Option ℤ
  | .position p _ :: _ => some p
  | .trigger _ :: past => lastCommanded past
  | [] => none

theorem lastCommanded_isSome {log : List ModbusWrite} {p : ℤ} (h : lastTriggered log = some p) :
    (lastCommanded log).isSome = true := by
  induction log with
  | nil => cases h
  | cons w past ih =>
      cases w with
      | position q ok => rfl
      | trigger ok =>
          cases past with
          | nil => cases ok <;> cases h
          | cons w' past' =>
              cases w' with
              | position q ok' => rfl
              | trigger ok' => cases ok <;> exact ih h

/-! ## Running the script -/

namespace Script

variable {α β : Type} {s : SliderState}

@[simp] theorem exec_bind (m : Script α) (f : α → Script β) :
    exec (m >>= f) s =
      match exec m s with
      | (.ok a, s') => exec (f a) s'
      | (.error e, s') => (.error e, s') := by
  show exec (m >>= f) s = _
  simp only [exec, ExceptT.run_bind, StateT.run_bind]
  rcases m.run.run s with ⟨r, s'⟩
  cases r <;> rfl

@[simp] theorem exec_modify (f : SliderState → SliderState) :
    exec (modify f : Script Unit) s = (.ok (), f s) := rfl

@[simp] theorem exec_get : exec (get : Script SliderState) s = (.ok s, s) := rfl

@[simp] theorem exec_lift (r : Except CallbackError α) : exec (liftM r : Script α) s = (r, s) := by
  cases r <;> rfl

@[simp] theorem exec_ite (c : Prop) [Decidable c] (m m' : Script α) :
    exec (if c then m else m') s = if c then exec m s else exec m' s := by
  split <;> rfl

@[simp] theorem exec_finish (ok : Bool) (e : CallbackError) :
    exec (finish ok e) s = (if ok then .ok () else .error e, s) := by
  cases ok <;> rfl

end Script

/-! ## One callback -/

/-- The window with one more position. -/
def shift (l1 : List ℤ) (p : ℤ) : List ℤ := (l1 ++ [p]).tail

/-- `p` is in the majority of the window and differs from what was accepted
last: the callback commands it. -/
def Commands (s : SliderState) (p : ℤ) : Prop :=
  (shift s.l1 p).count p ≥ 3 ∧ s.l2.getLast? ≠ some p

/-- The writes of a command, newest first, as far as they come. -/
def commandLog (p : ℤ) (x : Outcome) : List ModbusWrite :=
  if positionOk p x.busOk then [.trigger x.triggerOk, .position p true]
  else [.position p false]

/-- The command went through. -/
def commandOk (p : ℤ) (x : Outcome) : Bool := positionOk p x.busOk && x.triggerOk

/-- The whole callback, as a function of the state before it. -/
theorem callback_exec (fl : ℚ → Option ℚ) (data : JointState) (x : Outcome) (s : SliderState) :
    Script.exec (callback fl data x) s =
      match computePosition fl data with
      | .error e => (.error e, s)
      | .ok p =>
          let slept : Except CallbackError Unit :=
            if x.sleepOk then .ok () else .error .rosInterrupt
          if (shift s.l1 p).count p ≥ 3 then
            if s.l2.getLast? = some p then
              (slept, ⟨shift s.l1 p, (s.l2 ++ [p]).tail, s.log⟩)
            else if commandOk p x then
              (slept, ⟨shift s.l1 p, (s.l2 ++ [p]).tail, commandLog p x ++ s.log⟩)
            else
              (.error .modbus, ⟨shift s.l1 p, s.l2 ++ [p], commandLog p x ++ s.log⟩)
          else
            (slept, { s with l1 := shift s.l1 p }) := by
  cases hp : computePosition fl data with
  | error e => simp [callback, hp]
  | ok p =>
      by_cases hmajor : (shift s.l1 p).count p ≥ 3
      · by_cases hold : s.l2.getLast? = some p
        · simp only [shift] at hmajor
          simp [callback, hp, hmajor, hold, shift]
        · simp only [shift] at hmajor
          have hnew : ¬ some p = s.l2.getLast? := fun h => hold h.symm
          -- the two writes, one after the other
          cases hpos : positionOk p x.busOk with
          | false =>
              simp [callback, hp, hmajor, hold, hnew, hpos, writePosition, commandOk, commandLog,
                shift]
          | true =>
              cases htrig : x.triggerOk <;>
                simp [callback, hp, hmajor, hold, hnew, hpos, htrig, writePosition, triggerMotion,
                  commandOk, commandLog, shift]
      · simp only [shift] at hmajor
        simp [callback, hp, hmajor, shift]

variable {fl : ℚ → Option ℚ} {s : SliderState} {a : JointState × Outcome} {p v : ℤ}

/-- A sample without a position changes nothing. -/
theorem step_error {e : CallbackError} (hp : computePosition fl a.1 = .error e) :
    s.step fl a = s := by
  simp [SliderState.step, callback_exec, hp]

theorem step_window (hp : computePosition fl a.1 = .ok p) :
    (s.step fl a).l1 = shift s.l1 p := by
  simp only [SliderState.step, callback_exec, hp]
  split
  · split
    · rfl
    · split <;> rfl
  · rfl

/-- A position without the majority only shifts the window. -/
theorem step_minor (hp : computePosition fl a.1 = .ok p) (hminor : ¬ (shift s.l1 p).count p ≥ 3) :
    s.step fl a = { s with l1 := shift s.l1 p } := by
  simp only [SliderState.step, callback_exec, hp, if_neg hminor]

theorem getLast?_tail_concat {l : List ℤ} (hl : l ≠ []) : (l ++ [p]).tail.getLast? = some p := by
  cases l with
  | nil => exact absurd rfl hl
  | cons q qs => simp

/-- A position with the majority is accepted, and commanded if it is new. That
the command failed shows in `l2` only in that its front is not removed. -/
theorem step_major (hp : computePosition fl a.1 = .ok p) (hmajor : (shift s.l1 p).count p ≥ 3)
    (hl : s.l2 ≠ []) :
    (s.step fl a).l2.getLast? = some p ∧
      (s.step fl a).log =
        (if s.l2.getLast? = some p then [] else commandLog p a.2) ++ s.log := by
  simp only [SliderState.step, callback_exec, hp, if_pos hmajor]
  split
  · exact ⟨getLast?_tail_concat hl, rfl⟩
  · split
    · exact ⟨getLast?_tail_concat hl, rfl⟩
    · exact ⟨List.getLast?_concat, rfl⟩

/-- Without a Modbus failure the command of a new position went through. -/
theorem commandOk_of_not_failed (hp : computePosition fl a.1 = .ok p) (hcommand : Commands s p)
    (hok : ¬ ModbusFailed fl s a) : commandOk p a.2 = true := by
  by_contra hfail
  refine hok ?_
  simp only [ModbusFailed, callback_exec, hp, if_pos hcommand.1, if_neg hcommand.2, if_neg hfail]

@[simp] theorem lastCommanded_commandLog (x : Outcome) (log : List ModbusWrite) :
    lastCommanded (commandLog p x ++ log) = some p := by
  unfold commandLog
  split <;> rfl

theorem lastTriggered_commandLog {x : Outcome} (hok : commandOk p x = true)
    (log : List ModbusWrite) : lastTriggered (commandLog p x ++ log) = some p := by
  obtain ⟨hpos, htrig⟩ := Bool.and_eq_true_iff.mp hok
  rw [commandLog, if_pos hpos, htrig]
  rfl

/-! ## All callbacks -/

variable {samples past : List (JointState × Outcome)}

theorem after_concat : after fl (past ++ [a]) = (after fl past).step fl a := by
  simp [after, List.foldl_append]

theorem computed_concat :
    computed fl (past ++ [a]) = computed fl past ++ (computePosition fl a.1).toOption.toList := by
  unfold computed
  rw [List.filterMap_append, List.filterMap_cons]
  cases (computePosition fl a.1).toOption <;> rfl

/-- The last five of the computed positions, the initial zeros before them. -/
def lastFive (ps : List ℤ) : List ℤ := (List.replicate 5 0 ++ ps).drop ps.length

theorem shift_lastFive (ps : List ℤ) (p : ℤ) : shift (lastFive ps) p = lastFive (ps ++ [p]) := by
  have hlen : ps.length ≤ (List.replicate 5 0 ++ ps).length := by
    rw [List.length_append]
    omega
  rw [shift, lastFive, ← List.drop_append_of_le_length hlen, List.tail_drop, List.append_assoc,
    lastFive, List.length_append]
  rfl

/-- `l1` is the window of the last five. -/
theorem window_eq (fl : ℚ → Option ℚ) (samples : List (JointState × Outcome)) :
    (after fl samples).l1 = lastFive (computed fl samples) := by
  induction samples using List.reverseRecOn with
  | nil => rfl
  | append_singleton past a ih =>
      rw [after_concat, computed_concat]
      cases hp : computePosition fl a.1 with
      | error e => simpa [step_error hp, Except.toOption] using ih
      | ok p => rw [step_window hp, ih]; exact shift_lastFive _ p

/-- What was accepted last is what was commanded last, also when the command
failed; 1001 stands for no command. -/
theorem accepted_eq_commanded (fl : ℚ → Option ℚ) (samples : List (JointState × Outcome)) :
    (after fl samples).l2.getLast? =
      some ((lastCommanded (after fl samples).log).getD 1001) := by
  induction samples using List.reverseRecOn with
  | nil => rfl
  | append_singleton past a ih =>
      rw [after_concat]
      cases hp : computePosition fl a.1 with
      | error e => rwa [step_error hp]
      | ok p =>
          by_cases hmajor : (shift (after fl past).l1 p).count p ≥ 3
          · have hl : (after fl past).l2 ≠ [] := by
              intro hnil
              rw [hnil] at ih
              cases ih
            obtain ⟨hlast, hlog⟩ := step_major hp hmajor hl
            rw [hlast, hlog]
            -- an old position adds no write, a new one is the newest
            split
            · rename_i hold
              rw [List.nil_append, ← ih, hold]
            · simp
          · rwa [step_minor hp hmajor]

theorem l2_ne_nil (fl : ℚ → Option ℚ) (samples : List (JointState × Outcome)) :
    (after fl samples).l2 ≠ [] := by
  intro hnil
  have hlast := accepted_eq_commanded fl samples
  rw [hnil] at hlast
  cases hlast

/-- The last three positions are all `v`. -/
def Settled (v : ℤ) (ps : List ℤ) : Prop := ∃ qs, ps = qs ++ [v, v, v]

/-- A settled position has the majority. -/
theorem Settled.major {ps : List ℤ} (h : Settled v ps) : (lastFive ps).count v ≥ 3 := by
  obtain ⟨qs, rfl⟩ := h
  have hlen : (qs ++ [v, v, v]).length ≤ (List.replicate 5 0 ++ qs).length := by
    simp only [List.length_append, List.length_replicate, List.length_cons, List.length_nil]
    omega
  rw [lastFive, ← List.append_assoc, List.drop_append_of_le_length hlen, List.count_append]
  have hthree : [v, v, v].count v = 3 := by simp
  omega

theorem Settled.last {ps : List ℤ} (h : Settled v (ps ++ [p])) : p = v := by
  obtain ⟨qs, hqs⟩ := h
  have hlast := congrArg List.getLast? hqs
  simpa using hlast

/-- And it has been accepted. -/
theorem Settled.accepted (h : Settled v (computed fl samples)) :
    (after fl samples).l2.getLast? = some v := by
  induction samples using List.reverseRecOn with
  | nil =>
      obtain ⟨qs, hqs⟩ := h
      simp [computed] at hqs
  | append_singleton past a ih =>
      rw [after_concat]
      rw [computed_concat] at h
      cases hp : computePosition fl a.1 with
      | error e =>
          rw [step_error hp]
          exact ih (by simpa [hp, Except.toOption] using h)
      | ok p =>
          have hps : Settled v (computed fl past ++ [p]) := by
            simpa [hp, Except.toOption] using h
          obtain rfl := hps.last
          have hmajor : (shift (after fl past).l1 p).count p ≥ 3 := by
            rw [window_eq, shift_lastFive]
            exact hps.major
          exact (step_major hp hmajor (l2_ne_nil fl past)).1

/-! ## The gripper and the slider -/

/-- The callback writes a position: the one it computes has the majority and
differs from what was accepted last (1001 at the start). -/
def Issues (fl : ℚ → Option ℚ) (s : SliderState) (data : JointState) : Prop :=
  ∃ p, computePosition fl data = .ok p ∧ Commands s p

/-- The position commanded last is also the one triggered last. -/
def InStep (log : List ModbusWrite) : Prop :=
  ∃ p, lastCommanded log = some p ∧ lastTriggered log = some p

/-- A callback that issues nothing writes nothing. -/
theorem step_log (hl : s.l2 ≠ []) (hno : ¬ Issues fl s a.1) : (s.step fl a).log = s.log := by
  cases hp : computePosition fl a.1 with
  | error e => rw [step_error hp]
  | ok p =>
      by_cases hmajor : (shift s.l1 p).count p ≥ 3
      · have hold : s.l2.getLast? = some p := by
          by_contra hnew
          exact hno ⟨p, hp, hmajor, hnew⟩
        rw [(step_major hp hmajor hl).2, if_pos hold, List.nil_append]
      · rw [step_minor hp hmajor]

/-- **The gripper follows the slider.** For every sequence of samples, every
rounding and every pattern of failures: after a callback in which no Modbus
write failed and after which the last three computed positions are `v`, the last
position written and triggered is `v` exactly if this callback wrote it, or the
position commanded last before it is also the one triggered last. A command that
failed, and a settled 1001 at the start, are taken for done. -/
theorem gripper_follows_slider (fl : ℚ → Option ℚ) (past : List (JointState × Outcome))
    (a : JointState × Outcome) (v : ℤ) (hv : Settled v (computed fl (past ++ [a])))
    (hok : ¬ ModbusFailed fl (after fl past) a) :
    lastTriggered (after fl (past ++ [a])).log = some v ↔
      Issues fl (after fl past) a.1 ∨ InStep (after fl past).log := by
  have hl := l2_ne_nil fl past
  by_cases hissues : Issues fl (after fl past) a.1
  · obtain ⟨p, hp, hcommand⟩ := hissues
    have hdone := commandOk_of_not_failed hp hcommand hok
    have hpv : p = v := by
      rw [computed_concat, hp] at hv
      exact hv.last
    have hlog := (step_major hp hcommand.1 hl).2
    rw [if_neg hcommand.2] at hlog
    rw [after_concat, hlog, lastTriggered_commandLog hdone, hpv]
    exact iff_of_true rfl (.inl ⟨p, hp, hcommand⟩)
  · have haccepted := hv.accepted
    have hlog := step_log hl hissues
    rw [accepted_eq_commanded, after_concat, hlog] at haccepted
    rw [after_concat, hlog]
    refine ⟨fun htrig => .inr ?_, fun h => ?_⟩
    · obtain ⟨w, hw⟩ := Option.isSome_iff_exists.mp (lastCommanded_isSome htrig)
      rw [hw] at haccepted
      obtain rfl : w = v := Option.some.inj haccepted
      exact ⟨w, hw, htrig⟩
    · obtain ⟨w, hw, htrig⟩ := h.resolve_left hissues
      rw [hw] at haccepted
      obtain rfl : w = v := Option.some.inj haccepted
      exact htrig

/-! ## A slider at rest -/

/-- The slider at zero, computed without rounding, and how the bus behaves. -/
def atZero (busOk : Bool) : JointState × Outcome :=
  (⟨[some 0, some 0, some 0]⟩, ⟨busOk, true, true⟩)

/-- `gripper_follows_slider` for three samples at rest: the third is written. -/
theorem gripper_follows_slider_atZero :
    lastTriggered (after some (List.replicate 3 (atZero true))).log = some 9000 := by
  refine (gripper_follows_slider some (List.replicate 2 (atZero true)) (atZero true) 9000 ⟨[], ?_⟩
    ?_).mpr (.inl ⟨9000, ?_, ?_, ?_⟩)
  · decide +kernel
  · unfold ModbusFailed
    decide +kernel
  · decide +kernel
  · decide +kernel
  · decide +kernel

/-- The third sample settles the position and its write fails; the fourth takes
it for done. -/
theorem slider_not_followed :
    ¬ ∀ (fl : ℚ → Option ℚ) (past : List (JointState × Outcome)) (a : JointState × Outcome)
      (v : ℤ), Settled v (computed fl (past ++ [a])) → ¬ ModbusFailed fl (after fl past) a →
      lastTriggered (after fl (past ++ [a])).log = some v := by
  intro hall
  have hv := hall some [atZero true, atZero true, atZero false] (atZero true) 9000
    ⟨[9000], by decide +kernel⟩ (by unfold ModbusFailed; decide +kernel)
  revert hv
  decide +kernel

end HakRobot.Gripper
