import Mathlib.Algebra.Ring.Rat
import Mathlib.Data.Rat.Init
import Mathlib.Tactic.Common

/-!
# Resetting the camera

`Camera::reset` writes the settings of the camera again, `nRet = set(...) || nRet`
for each. The call stores its own status in `nRet`, and the right side of `||` is
read after the call, so a failure lasts until the next call.

* `reset_run` — `reset` makes every call, whatever the others returned, and
  returns true exactly when the last one failed;
* `reset_reports_iff` — so its result tells whether some call failed exactly when
  the last one did or none before it.
-/

namespace HakRobot.Camera

/-! ## The settings -/

/-- `CamerProperties`. -/
inductive CamerProperties
  | framerateEnable
  | framerate
  | burstFrameCount
  | height
  | width
  | exposureTime
  | gammaEnable
  | gamma
  | gain
  | saturationEnable
  | saturation
  | offsetX
  | offsetY
  | triggerMode
  | triggerSource
  | lineSelector
deriving DecidableEq, Repr

/-- Which of the SDK's functions a setting is written with. -/
inductive SetFunction
  | boolValue
  | intValue
  | floatValue
  | enumValue
deriving DecidableEq, Repr

/-- One call `MV_CC_Set…Value(handle, key, value)`, with the `float` the caller
passes. -/
structure SetCall where
  function : SetFunction
  key : String
  value : ℚ
deriving DecidableEq

/-- The cases of `Camera::set`. Every property has one, so `default` is not
reached. -/
def CamerProperties.call (value : ℚ) : CamerProperties → SetCall
  | .framerateEnable => ⟨.boolValue, "AcquisitionFrameRateEnable", value⟩
  | .framerate => ⟨.floatValue, "AcquisitionFrameRate", value⟩
  | .burstFrameCount => ⟨.intValue, "AcquisitionBurstFrameCount", value⟩
  | .height => ⟨.intValue, "Height", value⟩
  | .width => ⟨.intValue, "Width", value⟩
  | .offsetX => ⟨.intValue, "OffsetX", value⟩
  | .offsetY => ⟨.intValue, "OffsetY", value⟩
  | .exposureTime => ⟨.floatValue, "ExposureTime", value⟩
  | .gammaEnable => ⟨.boolValue, "GammaEnable", value⟩
  | .gamma => ⟨.floatValue, "Gamma", value⟩
  | .gain => ⟨.floatValue, "Gain", value⟩
  | .saturationEnable => ⟨.boolValue, "SaturationEnable", value⟩
  | .saturation => ⟨.intValue, "Saturation", value⟩
  | .triggerMode => ⟨.enumValue, "TriggerMode", value⟩
  | .triggerSource => ⟨.enumValue, "TriggerSource", value⟩
  | .lineSelector => ⟨.enumValue, "LineSelector", value⟩

/-- The fields of `Camera` that `reset` reads. -/
structure Settings where
  width : Int
  height : Int
  offsetX : Int
  offsetY : Int
  frameRateEnable : Bool
  frameRate : Int
  exposureTime : Int
  gammaEnable : Bool
  gamma : ℚ
  gain : ℚ
  saturationEnable : Bool
  saturation : Int
  triggerMode : Int
  triggerSource : Int
  lineSelector : Int

/-- The defaults of the constructor. -/
def Settings.default : Settings where
  width := 3072
  height := 2048
  offsetX := 0
  offsetY := 0
  frameRateEnable := false
  frameRate := 10
  exposureTime := 150000
  gammaEnable := false
  gamma := 0.7
  gain := 15
  saturationEnable := false
  saturation := 128
  triggerMode := 1
  triggerSource := 2
  lineSelector := 2

/-! ## The code -/

/-- `MV_OK` of the SDK. -/
def MV_OK : Int32 := 0

/-- The member `nRet`, and the calls so far with what the SDK returned. -/
structure ResetState where
  nRet : Int32
  calls : List (SetCall × Int32)
deriving DecidableEq

/-- Code of `Camera`, where the SDK returns `codes k` for call number `k`. -/
abbrev CameraM := ReaderT (Nat → Int32) (StateM ResetState)

/-- A call of the SDK. -/
def callSdk (call : SetCall) : CameraM Int32 := fun codes s =>
  (codes s.calls.length, { s with calls := s.calls ++ [(call, codes s.calls.length)] })

/-- `Camera::set`. The `int` that it returns is converted to `bool`. -/
def set (type : CamerProperties) (value : ℚ) : CameraM Bool := do
  let status ← callSdk (type.call value)
  modify fun s => { s with nRet := status }
  return (← get).nRet != 0

/-- `nRet = b` for a `bool`. -/
def assignRet (b : Bool) : CameraM Unit :=
  modify fun s => { s with nRet := if b then 1 else 0 }

/-- `nRet = this->set(type, value)`. -/
def setFirst (type : CamerProperties) (value : ℚ) : CameraM Unit := do
  assignRet (← set type value)

/-- `nRet = this->set(type, value) || nRet`. -/
def setOr (type : CamerProperties) (value : ℚ) : CameraM Unit := do
  if ← set type value then
    assignRet true
  else
    assignRet ((← get).nRet != 0)

/-- `Camera::reset`. -/
def reset (f : Settings) : CameraM Bool := do
  setFirst .framerateEnable f.frameRateEnable.toNat
  setOr .framerate f.frameRate
  setOr .height f.height
  setOr .width f.width
  setOr .offsetX f.offsetX
  setOr .offsetY f.offsetY
  setOr .exposureTime f.exposureTime
  setOr .gammaEnable f.gammaEnable.toNat
  if f.gammaEnable then
    setOr .gamma f.gamma
  setOr .gain f.gain
  if f.saturationEnable then
    setOr .saturationEnable f.saturationEnable.toNat
    setOr .saturation f.saturation
  setOr .triggerMode f.triggerMode
  setOr .triggerSource f.triggerSource
  setOr .lineSelector f.lineSelector
  return (← get).nRet != 0

/-! ## Running the code -/

namespace CameraM

variable {α β : Type} {codes : Nat → Int32} {s : ResetState}

/-- The result of a piece of code, and the state it leaves. -/
def exec (m : CameraM α) (codes : Nat → Int32) (s : ResetState) : α × ResetState := m codes s

@[simp] theorem exec_bind (m : CameraM α) (g : α → CameraM β) :
    exec (m >>= g) codes s = exec (g (exec m codes s).1) codes (exec m codes s).2 := rfl

@[simp] theorem exec_map (g : α → β) (m : CameraM α) :
    exec (g <$> m) codes s = (g (exec m codes s).1, (exec m codes s).2) := rfl

@[simp] theorem exec_modify (g : ResetState → ResetState) :
    exec (modify g) codes s = ((), g s) := rfl

@[simp] theorem exec_get : exec (get : CameraM ResetState) codes s = (s, s) := rfl

@[simp] theorem exec_ite (c : Prop) [Decidable c] (m m' : CameraM α) :
    exec (if c then m else m') codes s = if c then exec m codes s else exec m' codes s := by
  split <;> rfl

@[simp] theorem exec_callSdk (call : SetCall) :
    exec (callSdk call) codes s =
      (codes s.calls.length, { s with calls := s.calls ++ [(call, codes s.calls.length)] }) := rfl

end CameraM

open CameraM

variable {codes : Nat → Int32} {s : ResetState}

/-- One line of `reset`: the status of its call alone decides `nRet`. -/
def ResetState.noted (codes : Nat → Int32) (s : ResetState) (call : SetCall) : ResetState where
  nRet := if codes s.calls.length = MV_OK then 0 else 1
  calls := s.calls ++ [(call, codes s.calls.length)]

@[simp] theorem noted_calls (call : SetCall) :
    (s.noted codes call).calls = s.calls ++ [(call, codes s.calls.length)] := rfl

/-- `set` returns whether its call failed, and leaves the status in `nRet`. -/
@[simp] theorem exec_set (type : CamerProperties) (value : ℚ) :
    exec (set type value) codes s =
      (codes s.calls.length != MV_OK,
        ⟨codes s.calls.length, s.calls ++ [(type.call value, codes s.calls.length)]⟩) := by
  simp [set, MV_OK]

@[simp] theorem exec_setFirst (type : CamerProperties) (value : ℚ) :
    exec (setFirst type value) codes s = ((), s.noted codes (type.call value)) := by
  by_cases hok : codes s.calls.length = MV_OK
  · simp [setFirst, assignRet, ResetState.noted, hok]
  · simp [setFirst, assignRet, ResetState.noted, hok]

/-- The right side of `||` is read when the call returned false, and then it is
the status of that call, 0. -/
@[simp] theorem exec_setOr (type : CamerProperties) (value : ℚ) :
    exec (setOr type value) codes s = ((), s.noted codes (type.call value)) := by
  by_cases hok : codes s.calls.length = MV_OK
  · simp [setOr, assignRet, ResetState.noted, MV_OK, hok]
  · simp [setOr, assignRet, ResetState.noted, hok]

/-- The calls of `reset` before the last. -/
def Settings.earlier (f : Settings) : List SetCall :=
  [CamerProperties.framerateEnable.call f.frameRateEnable.toNat,
    CamerProperties.framerate.call f.frameRate, CamerProperties.height.call f.height,
    CamerProperties.width.call f.width, CamerProperties.offsetX.call f.offsetX,
    CamerProperties.offsetY.call f.offsetY, CamerProperties.exposureTime.call f.exposureTime,
    CamerProperties.gammaEnable.call f.gammaEnable.toNat] ++
  (if f.gammaEnable then [CamerProperties.gamma.call f.gamma] else []) ++
  [CamerProperties.gain.call f.gain] ++
  (if f.saturationEnable then
    [CamerProperties.saturationEnable.call f.saturationEnable.toNat,
      CamerProperties.saturation.call f.saturation] else []) ++
  [CamerProperties.triggerMode.call f.triggerMode,
    CamerProperties.triggerSource.call f.triggerSource]

/-- The last. -/
def Settings.last (f : Settings) : SetCall := CamerProperties.lineSelector.call f.lineSelector

theorem noted_nRet_ne_zero {call : SetCall} :
    (s.noted codes call).nRet ≠ 0 ↔ codes s.calls.length ≠ MV_OK := by
  by_cases hok : codes s.calls.length = MV_OK
  · simp [ResetState.noted, hok]
  · simp [ResetState.noted, hok]

theorem exec_reset (f : Settings) :
    exec (reset f) codes s =
      let t := (f.earlier.foldl (·.noted codes ·) s).noted codes f.last
      (t.nRet != 0, t) := by
  cases hgamma : f.gammaEnable <;> cases hsaturation : f.saturationEnable <;>
    simp [reset, Settings.earlier, Settings.last, hgamma, hsaturation]

/-! ## What the result tells -/

/-- The calls so far have the statuses `codes 0`, `codes 1` and so on. -/
def Recorded (codes : Nat → Int32) (s : ResetState) : Prop :=
  s.calls.map (·.2) = (List.range s.calls.length).map codes

theorem Recorded.noted (hs : Recorded codes s) (call : SetCall) :
    Recorded codes (s.noted codes call) := by
  have hbefore : s.calls.map (·.2) = (List.range s.calls.length).map codes := hs
  simp [Recorded, List.range_succ, hbefore]

/-- Whatever the calls return, each of them is made. -/
theorem foldl_noted (calls : List SetCall) (hs : Recorded codes s) :
    Recorded codes (calls.foldl (·.noted codes ·) s) ∧
      (calls.foldl (·.noted codes ·) s).calls.map (·.1) = s.calls.map (·.1) ++ calls := by
  induction calls generalizing s with
  | nil => exact ⟨hs, (List.append_nil _).symm⟩
  | cons call calls ih =>
      obtain ⟨hrecorded, hcalls⟩ := ih (hs.noted call)
      refine ⟨hrecorded, ?_⟩
      rw [List.foldl_cons, hcalls]
      simp [ResetState.noted]

/-- The number of the call that writes `LineSelector`. -/
def Settings.lastCall (f : Settings) : Nat :=
  11 + f.gammaEnable.toNat + 2 * f.saturationEnable.toNat

theorem length_earlier (f : Settings) : f.earlier.length = f.lastCall := by
  cases hgamma : f.gammaEnable <;> cases hsaturation : f.saturationEnable <;>
    simp [Settings.earlier, Settings.lastCall, hgamma, hsaturation]

/-- **What `reset` does.** It makes all its calls, and its result is the status of
the last. -/
theorem reset_run (codes : Nat → Int32) (f : Settings) (nRet : Int32) :
    let r := exec (reset f) codes ⟨nRet, []⟩
    r.2.calls.map (·.1) = f.earlier ++ [f.last] ∧
      r.2.calls.map (·.2) = (List.range (f.lastCall + 1)).map codes ∧
      (r.1 = true ↔ codes f.lastCall ≠ MV_OK) := by
  have hstart : Recorded codes ⟨nRet, []⟩ := rfl
  obtain ⟨hrecorded, hcalls⟩ := foldl_noted f.earlier hstart
  rw [exec_reset]
  generalize f.earlier.foldl (·.noted codes ·) (⟨nRet, []⟩ : ResetState) = t at hrecorded hcalls ⊢
  have hlength : t.calls.length = f.lastCall := by
    have hmap := congrArg List.length hcalls
    simpa [length_earlier] using hmap
  have hlast := hrecorded.noted f.last
  refine ⟨?_, ?_, ?_⟩
  · simp [hcalls]
  · simpa [Recorded, hlength] using hlast
  · rw [bne_iff_ne, noted_nRet_ne_zero, hlength]

theorem exists_failed_iff {calls : List (SetCall × Int32)} {n : Nat}
    (hcodes : calls.map (·.2) = (List.range n).map codes) :
    (∃ x ∈ calls, x.2 ≠ MV_OK) ↔ ∃ k < n, codes k ≠ MV_OK := by
  constructor
  · rintro ⟨x, hx, hfail⟩
    have hmem : x.2 ∈ (List.range n).map codes := hcodes ▸ List.mem_map_of_mem hx
    obtain ⟨k, hk, hcode⟩ := List.mem_map.mp hmem
    exact ⟨k, List.mem_range.mp hk, hcode ▸ hfail⟩
  · rintro ⟨k, hk, hfail⟩
    have hmem : codes k ∈ calls.map (·.2) :=
      hcodes ▸ List.mem_map_of_mem (List.mem_range.mpr hk)
    obtain ⟨x, hx, hcode⟩ := List.mem_map.mp hmem
    exact ⟨x, hx, hcode ▸ hfail⟩

/-- **The result tells of the last call.** It is true exactly when some call failed,
if and only if the write of `LineSelector` failed or no write before it did. -/
theorem reset_reports_iff (codes : Nat → Int32) (f : Settings) (nRet : Int32) :
    let r := exec (reset f) codes ⟨nRet, []⟩
    (r.1 = true ↔ ∃ x ∈ r.2.calls, x.2 ≠ MV_OK) ↔
      codes f.lastCall ≠ MV_OK ∨ ∀ k < f.lastCall, codes k = MV_OK := by
  intro r
  obtain ⟨-, hcodes, hresult⟩ := reset_run codes f nRet
  rw [hresult, exists_failed_iff hcodes]
  constructor
  · intro hiff
    by_cases hlast : codes f.lastCall = MV_OK
    · right
      intro k hk
      by_contra hfail
      exact hiff.mpr ⟨k, by omega, hfail⟩ hlast
    · exact .inl hlast
  · intro hcondition
    constructor
    · exact fun hlast => ⟨f.lastCall, by omega, hlast⟩
    · rintro ⟨k, hk, hfail⟩
      rcases hcondition with hlast | hnone
      · exact hlast
      · -- the call that failed can only be the last
        by_cases hearlier : k < f.lastCall
        · exact absurd (hnone k hearlier) hfail
        · obtain rfl : k = f.lastCall := by omega
          exact hfail

/-- The first call finds its node not writable; no other fails. -/
def firstFails : Nat → Int32
  | 0 => 0x80000106
  | _ => MV_OK

/-- `reset` takes this for a success. -/
theorem reset_loses_first :
    ¬ ∀ (codes : Nat → Int32) (f : Settings) (nRet : Int32),
      let r := exec (reset f) codes ⟨nRet, []⟩
      r.1 = true ↔ ∃ x ∈ r.2.calls, x.2 ≠ MV_OK := by
  intro hall
  have hreports := hall firstFails .default 0
  revert hreports
  decide +kernel

end HakRobot.Camera
