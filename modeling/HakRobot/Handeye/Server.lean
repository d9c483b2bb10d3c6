import HakRobot.Geometry.Quaternion
import HakRobot.Proc.Reach
import Mathlib.Algebra.Field.Rat
import Mathlib.Data.List.Nodup

/-!
# The calibration server

`HandeyeServer`, its sampler and its backend. An algorithm has a name of two parts,
`backend/algorithm`: `list_algorithms` joins them and `set_algorithm` and
`compute_calibration` split them again.

* `setAlgorithm_iff` — what is listed is what can be set, for any table of backends;
* `server_algorithm` — after any requests the current algorithm is one of the list, so
  that nothing but the libraries makes a calibration raise.
-/

namespace HakRobot.Handeye

open HakRobot.Geometry HakRobot.Proc

abbrev Str := List Char

/-! ## Backends -/

/-- `calibration_backends`: a dictionary, of names that contain no slash. -/
structure Backends where
  table : List (Str × List Str)
  keys : (table.map Prod.fst).Nodup
  plain : ∀ backend ∈ table, '/' ∉ backend.1 ∧ ∀ alg ∈ backend.2, '/' ∉ alg

/-- `AVAILABLE_ALGORITHMS`. -/
def availableAlgorithms : List Str :=
  ["Tsai-Lenz".toList, "Park".toList, "Horaud".toList, "Andreff".toList, "Daniilidis".toList]

/-- The server's only backend. -/
def openCV : Backends where
  table := [("OpenCV".toList, availableAlgorithms)]
  keys := by decide
  plain := by decide

/-- `self.calibration_backends[bckname].AVAILABLE_ALGORITHMS`. -/
def Backends.algorithms (b : Backends) (bckname : Str) : Option (List Str) := b.table.lookup bckname

/-- The names of `list_algorithms`. -/
def Backends.listed (b : Backends) : List Str :=
  b.table.flatMap fun backend => backend.2.map fun alg => backend.1 ++ '/' :: alg

/-- The tests of `set_algorithm`. -/
def Backends.accepts (b : Backends) (alg_to_set : Str) : Bool :=
  match alg_to_set.splitOn '/' with
  | [bckname, algname] =>
      match b.algorithms bckname with
      | none => false
      | some algs => algname ∈ algs
  | _ => false

/-! ## The server -/

/-- `geometry_msgs/Transform`. -/
structure Transform where
  translation : Vec3 ℚ
  rotation : Quat ℚ
deriving DecidableEq

/-- What the server reads of `HandeyeCalibrationParameters`. -/
structure Parameters where
  namespaceName : Str
  eyeOnHand : Bool
  robotBaseFrame : Str
  robotEffectorFrame : Str
  trackingBaseFrame : Str
  trackingMarkerFrame : Str
deriving DecidableEq

/-- A sample of `HandeyeSampler`. -/
structure Sample where
  robot : Transform
  optical : Transform
deriving DecidableEq

/-- `HandeyeCalibration`. -/
structure Calibration where
  parameters : Parameters
  frameId : Str
  childFrameId : Str
  transform : Transform
deriving DecidableEq

inductive ServerError
  | tfException
  | cvError
  | conversionError
  | keyError
  | valueError
  | assertionError
  | typeError
deriving DecidableEq

/-- `tfBuffer.lookup_transform`; `none` is an exception. -/
abbrev Lookup := Str → Str → Option Transform

/-- A rotation matrix and a translation, as OpenCV has them. -/
abbrev RotTr := Mat3 ℚ × Vec3 ℚ

/-- The libraries of the backend: `tfs.quaternions.quat2mat`; `cv2.calibrateHandEye`, for a
method, the hand's poses and the marker's; and what `compose`, `mat2quat` and `float` make
of its result. `none` is an exception. -/
structure Libraries where
  quat2mat : Quat ℚ → Mat3 ℚ
  calibrateHandEye : Str → List RotTr → List RotTr → Option RotTr
  toTransform : RotTr → Option Transform

/-- `_get_transforms`. -/
def getTransforms (p : Parameters) (lookup : Lookup) : Except ServerError Sample :=
  match if p.eyeOnHand then lookup p.robotBaseFrame p.robotEffectorFrame
      else lookup p.robotEffectorFrame p.robotBaseFrame with
  | none => .error .tfException
  | some rob =>
      match lookup p.trackingBaseFrame p.trackingMarkerFrame with
      | none => .error .tfException
      | some opt => .ok ⟨rob, opt⟩

/-- The constructor of `HandeyeCalibration`. -/
def Calibration.make (p : Parameters) (transformation : Transform) : Calibration where
  parameters := p
  frameId := if p.eyeOnHand then p.robotEffectorFrame else p.robotBaseFrame
  childFrameId := p.trackingBaseFrame
  transform := transformation

/-- `_msg_to_opencv`. -/
def msgToOpencv (cv : Libraries) (msg : Transform) : RotTr :=
  (cv.quat2mat msg.rotation, msg.translation)

/-- The hand's poses of `_get_opencv_samples`. -/
def handWorld (cv : Libraries) (samples : List Sample) : List RotTr :=
  samples.map fun s => msgToOpencv cv s.robot

/-- The marker's poses of `_get_opencv_samples`. -/
def markerCamera (cv : Libraries) (samples : List Sample) : List RotTr :=
  samples.map fun s => msgToOpencv cv s.optical

/-- `HandeyeCalibrationBackendOpenCV.compute_calibration`. -/
def backendCalibration (cv : Libraries) (algs : List Str) (p : Parameters)
    (samples : List Sample) (algorithm : Str) : Except ServerError (Option Calibration) :=
  if samples.length < 2 then
    .ok none
  else if (handWorld cv samples).length ≠ (markerCamera cv samples).length then
    .error .assertionError
  else if algorithm ∈ algs then
    match cv.calibrateHandEye algorithm (handWorld cv samples) (markerCamera cv samples) with
    | none => .error .cvError
    | some handCamera =>
        match cv.toTransform handCamera with
        | none => .error .conversionError
        | some result => .ok (some (.make p result))
  else
    .error .keyError

/-- The attributes of `HandeyeServer`. -/
structure Server where
  parameters : Parameters
  samples : List Sample
  calibrationAlgorithm : Str
  lastCalibration : Option Calibration

/-- `__init__`. -/
def Server.init (p : Parameters) : Server := ⟨p, [], "OpenCV/Tsai-Lenz".toList, none⟩

variable (b : Backends) (cv : Libraries)

/-- `set_algorithm`. -/
def Server.setAlgorithm (s : Server) (newAlgorithm : Str) : Bool × Server :=
  if b.accepts newAlgorithm then (true, { s with calibrationAlgorithm := newAlgorithm })
  else (false, s)

/-- `take_sample`. -/
def Server.takeSample (s : Server) (lookup : Lookup) : Except ServerError Server :=
  match getTransforms s.parameters lookup with
  | .error e => .error e
  | .ok sample => .ok { s with samples := s.samples ++ [sample] }

/-- `remove_sample`. -/
def Server.removeSample (s : Server) (index : ℤ) : Server :=
  if 0 ≤ index ∧ index < s.samples.length then
    { s with samples := s.samples.eraseIdx index.toNat }
  else s

/-- The computation of `compute_calibration`, with the two parts of the algorithm's
name. -/
def Server.calibration (s : Server) : Except ServerError (Option Calibration) :=
  match s.calibrationAlgorithm.splitOn '/' with
  | [bckname, algname] =>
      match b.algorithms bckname with
      | none => .error .keyError
      | some algs => backendCalibration cv algs s.parameters s.samples algname
  | _ => .error .valueError

/-- `compute_calibration`; the answer is `valid`. -/
def Server.computeCalibration (s : Server) : Except ServerError (Bool × Server) :=
  match s.calibration b cv with
  | .error e => .error e
  | .ok last => .ok (last.isSome, { s with lastCalibration := last })

/-- Everything that changes the server. A message on the topic that removes samples calls
`remove_last_sample`, which takes no message. -/
inductive ServerRequest
  | setAlgorithm (newAlgorithm : Str)
  | takeSample (lookup : Lookup)
  | removeSample (index : ℤ)
  | computeCalibration
  | removeLastSample

/-- The server after a request; an exception leaves it as it was. -/
def Server.serve (s : Server) : ServerRequest → Server
  | .setAlgorithm new => (s.setAlgorithm b new).2
  | .takeSample lookup => (s.takeSample lookup).toOption.getD s
  | .removeSample index => s.removeSample index
  | .computeCalibration => ((s.computeCalibration b cv).map Prod.snd).toOption.getD s
  | .removeLastSample => s

/-! ## Names of two parts -/

theorem splitOn_eq_pair {name bckname algname : Str} (hbck : '/' ∉ bckname)
    (halg : '/' ∉ algname) :
    name.splitOn '/' = [bckname, algname] ↔ name = bckname ++ '/' :: algname := by
  constructor
  · intro h
    have hjoin : ['/'].intercalate (name.splitOn '/') = name := List.intercalate_splitOn '/'
    rw [h] at hjoin
    simpa [List.intercalate] using hjoin.symm
  · rintro rfl
    rw [List.splitOn_append_cons_self_of_not_mem hbck, List.splitOn_eq_singleton]
    simpa using halg

variable {b cv}

/-- The entry of a key, where the keys differ. -/
theorem Backends.lookup_iff {bckname : Str} {algs : List Str} :
    b.algorithms bckname = some algs ↔ (bckname, algs) ∈ b.table := by
  rw [algorithms, List.lookup_eq_some_iff]
  constructor
  · rintro ⟨before, after, htable, -⟩
    rw [htable]
    simp
  · intro h
    obtain ⟨before, after, htable⟩ := List.append_of_mem h
    refine ⟨before, after, htable, fun backend hbackend => ?_⟩
    have hkeys := b.keys
    rw [htable, List.map_append, List.map_cons, List.nodup_append] at hkeys
    have hne := hkeys.2.2 backend.1 (List.mem_map_of_mem hbackend) bckname List.mem_cons_self
    simpa using Ne.symm hne

theorem Backends.mem_listed {name : Str} :
    name ∈ b.listed ↔ ∃ bckname algs algname, (bckname, algs) ∈ b.table ∧ algname ∈ algs ∧
      name = bckname ++ '/' :: algname := by
  simp only [listed, List.mem_flatMap, List.mem_map, Prod.exists]
  constructor
  · rintro ⟨bckname, algs, htable, algname, halg, rfl⟩
    exact ⟨bckname, algs, algname, htable, halg, rfl⟩
  · rintro ⟨bckname, algs, algname, htable, halg, rfl⟩
    exact ⟨bckname, algs, htable, algname, halg, rfl⟩

/-- What is listed splits into its parts. -/
theorem Backends.splitOn_listed {bckname algname : Str} {algs : List Str}
    (htable : (bckname, algs) ∈ b.table) (halg : algname ∈ algs) :
    (bckname ++ '/' :: algname).splitOn '/' = [bckname, algname] :=
  (splitOn_eq_pair (b.plain _ htable).1 ((b.plain _ htable).2 _ halg)).mpr rfl

theorem Backends.accepts_iff {name : Str} : b.accepts name = true ↔ name ∈ b.listed := by
  rw [mem_listed]
  constructor
  · intro h
    unfold accepts at h
    split at h
    · rename_i bckname algname hsplit
      cases halgs : b.algorithms bckname with
      | none =>
          rw [halgs] at h
          cases h
      | some algs =>
          rw [halgs] at h
          have htable := lookup_iff.mp halgs
          have halg : algname ∈ algs := of_decide_eq_true h
          exact ⟨bckname, algs, algname, htable, halg,
            (splitOn_eq_pair (b.plain _ htable).1 ((b.plain _ htable).2 _ halg)).mp hsplit⟩
    · cases h
  · rintro ⟨bckname, algs, algname, htable, halg, rfl⟩
    unfold accepts
    rw [splitOn_listed htable halg]
    simp [lookup_iff.mpr htable, halg]

theorem Server.setAlgorithm_iff (s : Server) (name : Str) :
    (s.setAlgorithm b name).1 = true ↔ name ∈ b.listed := by
  rw [← b.accepts_iff]
  unfold setAlgorithm
  split <;> simp_all

/-! ## Requests -/

variable {s t : Server}

/-- With a listed algorithm the backend finds its method. -/
theorem Server.calibration_listed (cv : Libraries) (h : s.calibrationAlgorithm ∈ b.listed) :
    ∃ bckname algs algname, (bckname, algs) ∈ b.table ∧ algname ∈ algs ∧
      s.calibration b cv = backendCalibration cv algs s.parameters s.samples algname := by
  obtain ⟨bckname, algs, algname, htable, halg, hname⟩ := Backends.mem_listed.mp h
  refine ⟨bckname, algs, algname, htable, halg, ?_⟩
  unfold calibration
  rw [hname, Backends.splitOn_listed htable halg]
  simp [Backends.lookup_iff.mpr htable]

/-- A calibration that is what OpenCV computed of the samples. -/
def ComputedFrom (cv : Libraries) (p : Parameters) (alg : Str) (samples : List Sample)
    (c : Calibration) : Prop :=
  2 ≤ samples.length ∧ c = .make p c.transform ∧
    ∃ handCamera, cv.toTransform handCamera = some c.transform ∧
      cv.calibrateHandEye alg (handWorld cv samples) (markerCamera cv samples) = some handCamera

/-- An exception of OpenCV, or of what converts its result. -/
def LibraryError (e : ServerError) : Prop := e = .cvError ∨ e = .conversionError

/-- What a computation with one of the methods comes to. -/
theorem backendCalibration_cases (cv : Libraries) {algs : List Str} {algname : Str}
    (halg : algname ∈ algs) (p : Parameters) (samples : List Sample) :
    (samples.length < 2 ∧ backendCalibration cv algs p samples algname = .ok none) ∨
    (∃ e, 2 ≤ samples.length ∧ LibraryError e ∧
      backendCalibration cv algs p samples algname = .error e) ∨
    ∃ c, ComputedFrom cv p algname samples c ∧
      backendCalibration cv algs p samples algname = .ok (some c) := by
  unfold backendCalibration
  by_cases hfew : samples.length < 2
  · rw [if_pos hfew]
    exact .inl ⟨hfew, rfl⟩
  · have hlength : (handWorld cv samples).length = (markerCamera cv samples).length := by
      simp [handWorld, markerCamera]
    rw [if_neg hfew, if_neg (not_not.mpr hlength), if_pos halg]
    refine .inr ?_
    cases hcv : cv.calibrateHandEye algname (handWorld cv samples) (markerCamera cv samples) with
    | none => exact .inl ⟨.cvError, by omega, .inl rfl, rfl⟩
    | some handCamera =>
        cases hresult : cv.toTransform handCamera with
        | none => exact .inl ⟨.conversionError, by omega, .inr rfl, by simp [hresult]⟩
        | some result =>
            refine .inr ⟨.make p result, ⟨by omega, rfl, handCamera, hresult, hcv⟩, ?_⟩
            simp [hresult]

/-- `compute_calibration`, where the algorithm is listed: too few samples, an exception of
the libraries, or a calibration. -/
theorem Server.computeCalibration_cases (cv : Libraries)
    (h : s.calibrationAlgorithm ∈ b.listed) :
    (s.samples.length < 2 ∧
      s.computeCalibration b cv = .ok (false, { s with lastCalibration := none })) ∨
    (∃ e, 2 ≤ s.samples.length ∧ LibraryError e ∧ s.computeCalibration b cv = .error e) ∨
    ∃ bckname algs algname c, (bckname, algs) ∈ b.table ∧ algname ∈ algs ∧
      ComputedFrom cv s.parameters algname s.samples c ∧
      s.computeCalibration b cv = .ok (true, { s with lastCalibration := some c }) := by
  obtain ⟨bckname, algs, algname, htable, halg, heq⟩ := calibration_listed cv h
  unfold computeCalibration
  rw [heq]
  rcases backendCalibration_cases cv halg s.parameters s.samples with
    ⟨hfew, hresult⟩ | ⟨e, hmany, he, hresult⟩ | ⟨c, hc, hresult⟩
  · rw [hresult]
    exact .inl ⟨hfew, rfl⟩
  · rw [hresult]
    exact .inr (.inl ⟨e, hmany, he, rfl⟩)
  · rw [hresult]
    exact .inr (.inr ⟨bckname, algs, algname, c, htable, halg, hc, rfl⟩)

/-- What a server keeps: its algorithm is listed, and its calibration was computed with
such an algorithm. -/
structure Server.Sound (b : Backends) (cv : Libraries) (p : Parameters) (s : Server) :
    Prop where
  parameters : s.parameters = p
  algorithm : s.calibrationAlgorithm ∈ b.listed
  last : ∀ c, s.lastCalibration = some c → ∃ bckname algs algname samples,
    (bckname, algs) ∈ b.table ∧ algname ∈ algs ∧ ComputedFrom cv p algname samples c

variable {p : Parameters}

/-- **Step of the server.** -/
theorem Server.Sound.serve (h : s.Sound b cv p) (q : ServerRequest) :
    (s.serve b cv q).Sound b cv p := by
  cases q with
  | removeLastSample => exact h
  | setAlgorithm new =>
      show (s.setAlgorithm b new).2.Sound b cv p
      unfold setAlgorithm
      split
      · rename_i haccepts
        exact ⟨h.parameters, Backends.accepts_iff.mp haccepts, h.last⟩
      · exact h
  | removeSample index =>
      show (s.removeSample index).Sound b cv p
      unfold removeSample
      split
      · exact ⟨h.parameters, h.algorithm, h.last⟩
      · exact h
  | takeSample lookup =>
      show ((s.takeSample lookup).toOption.getD s).Sound b cv p
      unfold takeSample
      cases getTransforms s.parameters lookup with
      | error e => exact h
      | ok sample => exact ⟨h.parameters, h.algorithm, h.last⟩
  | computeCalibration =>
      show (((s.computeCalibration b cv).map Prod.snd).toOption.getD s).Sound b cv p
      rcases computeCalibration_cases cv h.algorithm with
        ⟨-, hresult⟩ | ⟨e, -, -, hresult⟩ |
          ⟨bckname, algs, algname, c, htable, halg, hc, hresult⟩
      · rw [hresult]
        exact ⟨h.parameters, h.algorithm, fun c hc => by cases hc⟩
      · rw [hresult]
        exact h
      · rw [hresult]
        refine ⟨h.parameters, h.algorithm, fun c' hc' => ?_⟩
        obtain rfl : c = c' := Option.some.inj hc'
        rw [h.parameters] at hc
        exact ⟨bckname, algs, algname, s.samples, htable, halg, hc⟩

/-- The server with the one backend it has. -/
def serverStep (cv : Libraries) (s : Server) (q : ServerRequest) : Option Server :=
  some (s.serve openCV cv q)

theorem mem_openCV {bckname : Str} {algs : List Str} (h : (bckname, algs) ∈ openCV.table) :
    algs = availableAlgorithms :=
  (Prod.mk.inj (List.mem_singleton.mp h)).2

theorem sound_init : (Server.init p).Sound openCV cv p :=
  ⟨rfl, by show "OpenCV/Tsai-Lenz".toList ∈ openCV.listed; decide, fun c hc => by cases hc⟩

theorem sound_of_reach (h : Reach (serverStep cv) (fun _ _ => True) (.init p) t) :
    t.Sound openCV cv p := by
  refine h.invariant sound_init ?_
  rintro s q _ hs - hstep
  obtain rfl := Option.some.inj hstep
  exact hs.serve q

/-- **The server's algorithm.** After any requests, served one after another, with any
names, indices and answers of tf and the libraries: the current algorithm is listed;
exactly the listed names can be set; a computation fails only with an exception of OpenCV
or of what converts its result, and otherwise is valid exactly with two samples or more;
and the last calibration is what OpenCV computed with an available algorithm, in the
frames of the parameters. -/
theorem server_algorithm (h : Reach (serverStep cv) (fun _ _ => True) (.init p) t) :
    t.calibrationAlgorithm ∈ openCV.listed ∧
    (∀ name, (t.setAlgorithm openCV name).1 = true ↔ name ∈ openCV.listed) ∧
    (∀ e, t.computeCalibration openCV cv = .error e → LibraryError e) ∧
    (∀ valid t', t.computeCalibration openCV cv = .ok (valid, t') →
      (valid = true ↔ 2 ≤ t.samples.length)) ∧
    ∀ c, t.lastCalibration = some c → ∃ alg ∈ availableAlgorithms, ∃ samples,
      ComputedFrom cv p alg samples c := by
  have hsound := sound_of_reach h
  have hcases := Server.computeCalibration_cases cv hsound.algorithm
  refine ⟨hsound.algorithm, t.setAlgorithm_iff, fun e he => ?_, fun valid t' hvalid => ?_,
    fun c hc => ?_⟩
  · rcases hcases with ⟨-, hresult⟩ | ⟨e', -, he', hresult⟩ | ⟨_, _, _, _, -, -, -, hresult⟩
    · rw [hresult] at he
      cases he
    · rw [hresult] at he
      rwa [← Except.error.inj he]
    · rw [hresult] at he
      cases he
  · rcases hcases with ⟨hfew, hresult⟩ | ⟨_, -, -, hresult⟩ | ⟨_, _, _, _, -, -, hc, hresult⟩
    · rw [hresult] at hvalid
      obtain ⟨rfl, -⟩ := Prod.mk.inj (Except.ok.inj hvalid)
      simp only [Bool.false_eq_true, false_iff]
      omega
    · rw [hresult] at hvalid
      cases hvalid
    · rw [hresult] at hvalid
      obtain ⟨rfl, -⟩ := Prod.mk.inj (Except.ok.inj hvalid)
      exact iff_of_true rfl hc.1
  · obtain ⟨bckname, algs, algname, samples, htable, halg, hcomputed⟩ := hsound.last c hc
    rw [mem_openCV htable] at halg
    exact ⟨algname, halg, samples, hcomputed⟩

/-! ## A run -/

def eyeInHand : Parameters where
  namespaceName := "/hak/".toList
  eyeOnHand := true
  robotBaseFrame := "base_link".toList
  robotEffectorFrame := "link_6".toList
  trackingBaseFrame := "hikrobot_camera".toList
  trackingMarkerFrame := "camera_marker".toList

def noTransform : Transform := ⟨⟨0, 0, 0⟩, ⟨0, 0, 0, 1⟩⟩

/-- The hand turned by `q` about the marker, with the camera in the hand's frame. -/
def turned (q : Quat ℚ) : Lookup := fun target source =>
  if target = eyeInHand.robotBaseFrame ∧ source = eyeInHand.robotEffectorFrame then
    some ⟨⟨0, 0, 0⟩, q⟩
  else if target = eyeInHand.trackingBaseFrame ∧ source = eyeInHand.trackingMarkerFrame then
    some ⟨⟨0, 0, 0⟩, q.conj⟩
  else none

/-- What fits every sample of `turned`, and its conversion. -/
def sameFrame : Libraries where
  quat2mat := Quat.matrix
  calibrateHandEye _ _ _ := some ((⟨0, 0, 0, 1⟩ : Quat ℚ).matrix, ⟨0, 0, 0⟩)
  toTransform handCamera := some ⟨handCamera.2, ⟨0, 0, 0, 1⟩⟩

/-- An algorithm is chosen, an unknown one is refused, and three samples are taken. -/
def parkRun : Server :=
  follow (serverStep sameFrame) (.init eyeInHand)
    [.setAlgorithm "OpenCV/Park".toList, .setAlgorithm "OpenCV/Newton".toList,
      .takeSample (turned ⟨0, 0, 0, 1⟩), .takeSample (turned ⟨3 / 5, 0, 0, 4 / 5⟩),
      .takeSample (turned ⟨0, 3 / 5, 0, 4 / 5⟩), .computeCalibration]

/-- `server_algorithm` for this run. -/
theorem server_algorithm_park :
    parkRun.calibrationAlgorithm = "OpenCV/Park".toList ∧
    ∃ alg ∈ availableAlgorithms, ∃ samples,
      ComputedFrom sameFrame eyeInHand alg samples (.make eyeInHand noTransform) :=
  ⟨by decide +kernel,
    (server_algorithm (follow_reach (meets_true _ _))).2.2.2.2 _
      (show parkRun.lastCalibration = _ by decide +kernel)⟩

end HakRobot.Handeye
