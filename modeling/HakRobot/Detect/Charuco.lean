import HakRobot.Grab.World
import HakRobot.Proc.Trace

/-!
# The board detectors of the calibration

`charuco_detector.py` and `charuco_detectortwo.py`. `info_callback` keeps the first
`CameraInfo`: it stores the matrix and then, in a second assignment, the distortion
coefficients. `image_callback` runs in a thread of its own and tests the matrix only, so
an image can be evaluated between the two.

* `infoThread_follows`, `imageThread_follows` — what a thread does, whatever it is
  answered;
* `transforms_calibrated` — every transform was computed with the matrix of the first
  `CameraInfo`, and with the coefficients that the thread read last: those of that
  message, or none if it read them before the second assignment.
-/

namespace HakRobot.Detect.Charuco

open HakRobot.Geometry HakRobot.Proc
open HakRobot.Grab (called)

/-! ## The code -/

/-- What the callbacks read of a `CameraInfo`. -/
structure CameraInfo where
  K : List ℚ
  D : List ℚ
deriving DecidableEq

/-- `aruco.CharucoBoard`. -/
structure Board where
  squares : Nat × Nat
  squareLength : ℚ
  markerLength : ℚ
deriving DecidableEq

/-- The constants of a script. -/
structure Script where
  dict : String
  board : Board
  frameId : String

/-- `charuco_detector.py`. -/
def charucoDetector : Script where
  dict := "DICT_5X5_100"
  board := ⟨(10, 7), 0.03, 0.021⟩
  frameId := "hikrobot_camera"

/-- `charuco_detectortwo.py`. -/
def charucoDetectorTwo : Script where
  dict := "DICT_4X4_100"
  board := ⟨(9, 5), 0.015, 0.011⟩
  frameId := "camera_color_optical_frame"

/-- `rvec` and `tvec`, as a quaternion and a vector. -/
structure BoardPose where
  translation : Vec3 ℚ
  rotation : Quat ℚ

/-- `geometry_msgs/TransformStamped`, without its stamp. -/
structure TransformStamped where
  frameId : String
  childFrameId : String
  transform : BoardPose

/-- The operations of the callbacks, where each read and each assignment of an attribute
is one. -/
inductive CharucoOp
  | camMatrix
  | distCoeffs
  | setCamMatrix (k : List ℚ)
  | setDistCoeffs (d : List ℚ)
  | imgmsgToCv2
  | detectMarkers (dict : String)
  | interpolateCorners (board : Board)
  | estimatePose (board : Board) (k d : Option (List ℚ))
  | sendTransform (t : TransformStamped)
  | drawFrameAxes (k d : Option (List ℚ))
  | imshow

/-- Markers and corners are counted; `none` is Python's. -/
abbrev CharucoOp.Res : CharucoOp → Type
  | .camMatrix | .distCoeffs => Option (List ℚ)
  | .setCamMatrix _ | .setDistCoeffs _ => Unit
  | .detectMarkers _ | .interpolateCorners _ => Except PyException (Option Nat)
  | .estimatePose _ _ _ => Except PyException (Option BoardPose)
  | .imgmsgToCv2 | .sendTransform _ | .drawFrameAxes _ _ | .imshow => Except PyException Unit

abbrev charucoSig : Sig := ⟨CharucoOp, CharucoOp.Res⟩

/-- A callback of the node. -/
abbrev Callback (α : Type) := Prog charucoSig PyException α

/-- One operation that cannot raise. -/
def does (o : CharucoOp) : Callback o.Res := Prog.perform (σ := charucoSig) o

/-- `info_callback`. -/
def infoCallback (msg : CameraInfo) : Callback Unit := do
  let camMatrix ← does .camMatrix
  if camMatrix.isNone then
    does (.setCamMatrix msg.K)
    does (.setDistCoeffs msg.D)

def imshow : Callback Unit := (does .imshow).bind .ofExcept

/-- `image_callback`, from `interpolateCornersCharuco` on. -/
def evaluateCorners (s : Script) : Callback Unit := do
  let charucoIds ← (does (.interpolateCorners s.board)).bind .ofExcept
  -- `charuco_ids is None or len(charuco_ids) < 4`
  if charucoIds.getD 0 < 4 then
    imshow
  else
    let k ← does .camMatrix
    let d ← does .distCoeffs
    match ← (does (.estimatePose s.board k d)).bind .ofExcept with
    | none => imshow
    | some pose =>
        (does (.sendTransform ⟨s.frameId, "camera_marker", pose⟩)).bind .ofExcept
        let k ← does .camMatrix
        let d ← does .distCoeffs
        (does (.drawFrameAxes k d)).bind .ofExcept
        imshow

/-- `image_callback`. -/
def imageCallback (s : Script) : Callback Unit := do
  let camMatrix ← does .camMatrix
  if camMatrix.isNone then
    return ()
  match ← does .imgmsgToCv2 with
  | .error _ => return ()
  | .ok _ =>
      let ids ← (does (.detectMarkers s.dict)).bind .ofExcept
      if ids.getD 0 = 0 then
        imshow
      else
        evaluateCorners s

/-- The thread of one publisher: an exception ends a callback, not the thread. -/
def subscriber {γ : Type} (callback : γ → Callback Unit) (msgs : List γ) : Callback Unit :=
  Prog.forEach (fun msg => (callback msg).tryCatch fun _ => .ret ()) msgs

/-- `cam_matrix` and `dist_coeffs`. -/
structure CharucoState where
  camMatrix : Option (List ℚ)
  distCoeffs : Option (List ℚ)

/-- How the outside world ends a call; `none` is an exception. -/
abbrev CharucoOp.Choice : CharucoOp → Type
  | .camMatrix | .distCoeffs | .setCamMatrix _ | .setDistCoeffs _ => Unit
  | .detectMarkers _ | .interpolateCorners _ => Option (Option Nat)
  | .estimatePose _ _ _ => Option (Option BoardPose)
  | .imgmsgToCv2 | .sendTransform _ | .drawFrameAxes _ _ | .imshow => Option Unit

def charuco : Machine charucoSig CharucoState where
  Choice := CharucoOp.Choice
  exec
    | .camMatrix, _, s => (s.camMatrix, s)
    | .distCoeffs, _, s => (s.distCoeffs, s)
    | .setCamMatrix k, _, s => ((), { s with camMatrix := some k })
    | .setDistCoeffs d, _, s => ((), { s with distCoeffs := some d })
    | .imgmsgToCv2, x, s => (called x, s)
    | .detectMarkers _, x, s => (called x, s)
    | .interpolateCorners _, x, s => (called x, s)
    | .estimatePose _ _ _, x, s => (called x, s)
    | .sendTransform _, x, s => (called x, s)
    | .drawFrameAxes _ _, x, s => (called x, s)
    | .imshow, x, s => (called x, s)

variable {ι : Type}

/-- The node with one publisher of `CameraInfo`, whose first message is `first`, and any
publishers of images; publisher `i` sends `n i` of them. -/
def charucoPool (s : Script) (first : CameraInfo) (rest : List CameraInfo) (n : ι → Nat) :
    Pool charucoSig CharucoState PyException Unit (Option ι) where
  shared := ⟨none, none⟩
  thread
    | none => subscriber infoCallback (first :: rest)
    | some i => subscriber (fun _ => imageCallback s) (List.range (n i))

/-! ## Views -/

/-- How far the publisher's thread is with the first message; `broken` is a thread that
was answered as no attribute ever answers. -/
inductive InfoView
  | fresh
  | accepted
  | half
  | full
  | broken
deriving DecidableEq

/-- What an image's thread has read and computed last, with no `d` before it reads one.
`tested` says that the matrix was there once. -/
structure ImageView where
  tested : Bool
  k : Option (List ℚ)
  d : Option (Option (List ℚ))
  estimate : Option (Option (List ℚ) × Option (List ℚ) × BoardPose)

abbrev View := InfoView ⊕ ImageView

def InfoView.next (v : InfoView) : (o : CharucoOp) → o.Res → InfoView
  | .camMatrix, none => if v = .fresh then .accepted else .broken
  | .camMatrix, some _ => if v = .full then .full else .broken
  | .setCamMatrix _, _ => if v = .accepted then .half else .broken
  | .setDistCoeffs _, _ => if v = .half then .full else .broken
  | _, _ => v

def ImageView.next (v : ImageView) : (o : CharucoOp) → o.Res → ImageView
  | .camMatrix, k => { v with k := k, tested := v.tested || (k : Option (List ℚ)).isSome }
  | .distCoeffs, d => { v with d := some d }
  | .estimatePose _ k d, .ok (some pose) => { v with estimate := some (k, d, pose) }
  | _, _ => v

def View.next (v : View) (o : CharucoOp) (r : o.Res) : View :=
  match v with
  | .inl v => .inl (v.next o r)
  | .inr v => .inr (v.next o r)

variable (s : Script) (first : CameraInfo)

def InfoView.Allows (v : InfoView) : CharucoOp → Prop
  | .camMatrix => v ≠ .accepted ∧ v ≠ .half
  | .setCamMatrix k => v = .broken ∨ v = .accepted ∧ k = first.K
  | .setDistCoeffs d => v = .broken ∨ v = .half ∧ d = first.D
  | _ => False

def ImageView.Allows (v : ImageView) : CharucoOp → Prop
  | .setCamMatrix _ | .setDistCoeffs _ => False
  | .estimatePose board k d => board = s.board ∧ v.tested = true ∧ k = v.k ∧ v.d = some d
  | .sendTransform t => t.frameId = s.frameId ∧ t.childFrameId = "camera_marker" ∧
      ∃ k d, v.estimate = some (k, d, t.transform)
  | _ => True

def View.Allows : View → CharucoOp → Prop
  | .inl v => v.Allows first
  | .inr v => v.Allows s

/-- From view `v`, `p` does only what its views allow, and ends in `Q`, returning or
not. -/
abbrev Follows {α : Type} (p : Callback α) (Q : View → Prop) (v : View) : Prop :=
  (Machine.monitor charucoSig View.next).wp (Machine.anyChoice _) (View.Allows s first) p
    (fun _ => Q) (fun _ => Q) v

variable {s first}

/-! ## The publisher of `CameraInfo` -/

/-- The view after a message. -/
def InfoDone (v : View) : Prop := v = .inl .full ∨ v = .inl .broken

theorem infoCallback_first :
    Follows s first (infoCallback first) InfoDone (.inl .fresh) := by
  refine ⟨⟨by simp, by simp⟩, fun (camMatrix : Option (List ℚ)) _ => ?_⟩
  cases camMatrix with
  | none => exact ⟨.inr ⟨rfl, rfl⟩, fun _ _ => ⟨.inr ⟨rfl, rfl⟩, fun _ _ => .inl rfl⟩⟩
  | some k => exact .inr rfl

theorem infoCallback_again (msg : CameraInfo) {v : View} (hv : InfoDone v) :
    Follows s first (infoCallback msg) InfoDone v := by
  rcases hv with rfl | rfl
  · refine ⟨⟨by simp, by simp⟩, fun (camMatrix : Option (List ℚ)) _ => ?_⟩
    cases camMatrix with
    | none => exact ⟨.inl rfl, fun _ _ => ⟨.inl rfl, fun _ _ => .inr rfl⟩⟩
    | some k => exact .inl rfl
  · refine ⟨⟨by simp, by simp⟩, fun (camMatrix : Option (List ℚ)) _ => ?_⟩
    cases camMatrix with
    | none => exact ⟨.inl rfl, fun _ _ => ⟨.inl rfl, fun _ _ => .inr rfl⟩⟩
    | some k => exact .inr rfl

/-- A callback whose exceptions are caught. -/
theorem guarded_follows {p : Callback Unit} {Q : View → Prop} {v : View}
    (h : Follows s first p Q v) :
    Follows s first (p.tryCatch fun _ => .ret ()) Q v :=
  Machine.wp_catch h fun _ _ hq => hq

theorem infoThread_follows (rest : List CameraInfo) :
    Follows s first (subscriber infoCallback (first :: rest)) InfoDone (.inl .fresh) := by
  refine Machine.wp_seq (guarded_follows infoCallback_first) ?_ fun _ _ he => he
  intro _ v hv
  exact Machine.wp_forEach (I := InfoDone)
    (fun msg _ hv => guarded_follows (infoCallback_again msg hv)) rest hv

/-! ## The publishers of images -/

/-- A view of an image's thread. -/
def Images (v : View) : Prop := ∃ w : ImageView, v = .inr w

theorem ofExcept_follows {α : Type} {Q : View → Prop} {v : View} (hv : Q v)
    (r : Except PyException α) : Follows s first (.ofExcept r) Q v := by
  cases r with
  | ok a => exact hv
  | error e => exact hv

theorem imshow_follows (w : ImageView) : Follows s first imshow Images (.inr w) :=
  ⟨trivial, fun r _ => ofExcept_follows ⟨_, rfl⟩ r⟩

theorem evaluateCorners_follows {w : ImageView} (hw : w.tested = true) :
    Follows s first (evaluateCorners s) Images (.inr w) := by
  refine ⟨trivial, fun (charucoIds : Except PyException (Option Nat)) _ => ?_⟩
  cases charucoIds with
  | error e => exact ⟨_, rfl⟩
  | ok charucoIds =>
      show Follows s first (if charucoIds.getD 0 < 4 then imshow else _) Images (.inr w)
      by_cases hfew : charucoIds.getD 0 < 4
      · rw [if_pos hfew]
        exact imshow_follows _
      · rw [if_neg hfew]
        refine ⟨trivial, fun (k : Option (List ℚ)) _ => ?_⟩
        refine ⟨trivial, fun (d : Option (List ℚ)) _ => ?_⟩
        have htested : (w.tested || k.isSome) = true := by rw [hw, Bool.true_or]
        refine ⟨⟨rfl, htested, rfl, rfl⟩, fun (pose : Except PyException (Option BoardPose)) _ => ?_⟩
        cases pose with
        | error e => exact ⟨_, rfl⟩
        | ok pose =>
            cases pose with
            | none => exact imshow_follows _
            | some pose =>
                refine ⟨⟨rfl, rfl, k, d, rfl⟩, fun (sent : Except PyException Unit) _ => ?_⟩
                cases sent with
                | error e => exact ⟨_, rfl⟩
                | ok _ =>
                    refine ⟨trivial, fun k' _ => ⟨trivial, fun d' _ => ⟨trivial, ?_⟩⟩⟩
                    intro (drawn : Except PyException Unit) _
                    cases drawn with
                    | error e => exact ⟨_, rfl⟩
                    | ok _ => exact imshow_follows _

theorem imageCallback_follows (w : ImageView) :
    Follows s first (imageCallback s) Images (.inr w) := by
  refine ⟨trivial, fun (camMatrix : Option (List ℚ)) _ => ?_⟩
  cases camMatrix with
  | none => exact ⟨_, rfl⟩
  | some k =>
      refine ⟨trivial, fun (converted : Except PyException Unit) _ => ?_⟩
      cases converted with
      | error e => exact ⟨_, rfl⟩
      | ok _ =>
          refine ⟨trivial, fun (ids : Except PyException (Option Nat)) _ => ?_⟩
          cases ids with
          | error e => exact ⟨_, rfl⟩
          | ok ids =>
              show Follows s first (if ids.getD 0 = 0 then imshow else evaluateCorners s) Images _
              split
              · exact imshow_follows _
              · exact evaluateCorners_follows (Bool.or_true _)

theorem imageThread_follows (n : Nat) (w : ImageView) :
    Follows s first (subscriber (fun _ => imageCallback s) (List.range n)) Images (.inr w) := by
  refine Machine.wp_forEach (I := Images) ?_ _ ⟨w, rfl⟩
  rintro _ _ ⟨w, rfl⟩
  exact guarded_follows (imageCallback_follows w)

/-! ## Runs -/

/-- What happened, by the publisher of `CameraInfo` and those of images. -/
abbrev History (ι : Type) := Pool.History charucoSig (Option ι)

/-- The coefficients of the first message, or none. -/
def Known (first : CameraInfo) (d : Option (List ℚ)) : Prop := d = none ∨ d = some first.D

/-- `dist_coeffs` has been assigned. -/
def Written (hist : History ι) : Prop :=
  ∃ e ∈ hist, ∃ d, e.2 = (⟨.setDistCoeffs d, ()⟩ : Event charucoSig)

/-- The last answer that a thread got for `dist_coeffs` is `d`: the coefficients of the
first message, or none if it asked before they were assigned. -/
def LastRead (first : CameraInfo) (past : History ι) (i : Option ι) (d : Option (List ℚ)) :
    Prop :=
  ∃ before after, past = before ++ (i, ⟨.distCoeffs, d⟩) :: after ∧
    (∀ e ∈ after, e.1 = i → e.2.1 ≠ .distCoeffs) ∧
    (d = some first.D ∨ d = none ∧ ¬ Written before)

/-- What is said of an event and what happened before it: a pose is estimated with the
first message's matrix and the coefficients that the thread read last; a transform was
estimated so by the same thread; and coefficients that are read after they were assigned
are those of that message. -/
def Calibrated (s : Script) (first : CameraInfo) (past : History ι) :
    Option ι × Event charucoSig → Prop
  | (i, ⟨.sendTransform t, _⟩) => t.frameId = s.frameId ∧ t.childFrameId = "camera_marker" ∧
      ∃ d, Known first d ∧
        (i, ⟨.estimatePose s.board (some first.K) d, .ok (some t.transform)⟩) ∈ past
  | (i, ⟨.estimatePose board k d, _⟩) => board = s.board ∧ k = some first.K ∧
      LastRead first past i d
  | (_, ⟨.distCoeffs, d⟩) => Written past → d = some first.D
  | _ => True

/-- The attributes, for the view of the publisher's thread. -/
def InfoHolds (first : CameraInfo) (st : CharucoState) : InfoView → Prop
  | .fresh | .accepted => st = ⟨none, none⟩
  | .half => st = ⟨some first.K, none⟩
  | .full => st = ⟨some first.K, some first.D⟩
  | .broken => False

/-- What the thread of images `i` knows is so. -/
structure ImageHolds (s : Script) (first : CameraInfo) (hist : History ι) (i : ι)
    (st : CharucoState) (w : ImageView) : Prop where
  tested : w.tested = true → w.k = some first.K ∧ st.camMatrix = some first.K
  read : ∀ d, w.d = some d → LastRead first hist (some i) d
  estimate : ∀ k d pose, w.estimate = some (k, d, pose) → k = some first.K ∧ Known first d ∧
    (some i, ⟨.estimatePose s.board k d, .ok (some pose)⟩) ∈ hist

structure Consistent (s : Script) (first : CameraInfo) (hist : History ι) (st : CharucoState)
    (ℓ : Option ι → View) : Prop where
  info : ∃ v, ℓ none = .inl v ∧ InfoHolds first st v ∧ (Written hist → v = .full)
  image : ∀ i, ∃ w, ℓ (some i) = .inr w ∧ ImageHolds s first hist i st w
  events : hist.Each (Calibrated s first)

variable {hist : History ι} {st st' : CharucoState} {i : ι} {w : ImageView}
  {ℓ : Option ι → View}

theorem written_snoc {e : Option ι × Event charucoSig}
    (he : ∀ d, e.2 ≠ (⟨.setDistCoeffs d, ()⟩ : Event charucoSig)) :
    Written (hist ++ [e]) ↔ Written hist := by
  simp only [Written, List.mem_append, List.mem_singleton]
  constructor
  · rintro ⟨e', hold | rfl, d, hd⟩
    · exact ⟨e', hold, d, hd⟩
    · exact absurd hd (he d)
  · rintro ⟨e', hold, d, hd⟩
    exact ⟨e', .inl hold, d, hd⟩

/-- The attributes are empty or those of the first message. -/
theorem InfoHolds.known {v : InfoView} (h : InfoHolds first st v) :
    (st.camMatrix = none ∨ st.camMatrix = some first.K) ∧ Known first st.distCoeffs := by
  cases v with
  | broken => exact h.elim
  | fresh =>
      obtain rfl : st = _ := h
      exact ⟨.inl rfl, .inl rfl⟩
  | accepted =>
      obtain rfl : st = _ := h
      exact ⟨.inl rfl, .inl rfl⟩
  | half =>
      obtain rfl : st = _ := h
      exact ⟨.inr rfl, .inl rfl⟩
  | full =>
      obtain rfl : st = _ := h
      exact ⟨.inr rfl, .inr rfl⟩

theorem LastRead.known {j : Option ι} {d : Option (List ℚ)} (h : LastRead first hist j d) :
    Known first d := by
  obtain ⟨before, after, -, -, hd⟩ := h
  rcases hd with hd | ⟨hd, -⟩
  · exact .inr hd
  · exact .inl hd

/-- Nothing but another answer to the same thread changes its last answer. -/
theorem LastRead.snoc {j : Option ι} {d : Option (List ℚ)} (h : LastRead first hist j d)
    {e : Option ι × Event charucoSig} (he : e.1 = j → e.2.1 ≠ .distCoeffs) :
    LastRead first (hist ++ [e]) j d := by
  obtain ⟨before, after, rfl, hafter, hd⟩ := h
  refine ⟨before, after ++ [e], by simp, fun e' he' => ?_, hd⟩
  rcases List.mem_append.mp he' with hold | hnew
  · exact hafter e' hold
  · rw [List.mem_singleton.mp hnew]
    exact he

/-- A thread of images that reads no coefficients, while the matrix stays or is
assigned. -/
theorem ImageHolds.keep (h : ImageHolds s first hist i st w)
    (hst : st.camMatrix = some first.K → st'.camMatrix = some first.K)
    {e : Option ι × Event charucoSig} (he : e.1 = some i → e.2.1 ≠ .distCoeffs) :
    ImageHolds s first (hist ++ [e]) i st' w := by
  refine ⟨fun ht => ⟨(h.tested ht).1, hst (h.tested ht).2⟩, fun d hd => (h.read d hd).snoc he,
    fun k d pose hest => ?_⟩
  obtain ⟨hk, hd, hmem⟩ := h.estimate k d pose hest
  exact ⟨hk, hd, List.mem_append_left _ hmem⟩

variable [DecidableEq ι]

/-- **Step of the publisher of `CameraInfo`.** -/
theorem Consistent.info_step (h : Consistent s first hist st ℓ) {v : InfoView}
    (hv : ℓ none = .inl v) {o : CharucoOp} (x : charuco.Choice o) (hallow : v.Allows first o) :
    Consistent s first (hist ++ [(none, ⟨o, (charuco.exec o x st).1⟩)]) (charuco.exec o x st).2
      (Function.update ℓ none (.inl (v.next o (charuco.exec o x st).1))) := by
  obtain ⟨v', hv', hholds, hwritten⟩ := h.info
  obtain rfl : v' = v := Sum.inl.inj (hv'.symm.trans hv)
  have himage : ∀ st' : CharucoState, (st.camMatrix = some first.K → st'.camMatrix = some first.K) →
      ∀ (e : Event charucoSig) (v' : View) i, ∃ w, Function.update ℓ none v' (some i) = .inr w ∧
        ImageHolds s first (hist ++ [(none, e)]) i st' w := by
    intro st' hst e v' i
    obtain ⟨w, hw, himage⟩ := h.image i
    exact ⟨w, by rw [Function.update_of_ne (by simp), hw], himage.keep hst (by simp)⟩
  cases o with
  | camMatrix =>
      refine ⟨⟨_, Function.update_self _ _ _, ?_, ?_⟩, himage st id _ _, h.events.snoc trivial⟩
      · cases v' with
        | broken => exact hholds.elim
        | accepted => exact absurd rfl hallow.1
        | half => exact absurd rfl hallow.2
        | fresh =>
            obtain rfl : st = _ := hholds
            rfl
        | full =>
            obtain rfl : st = _ := hholds
            rfl
      · intro hw
        rw [written_snoc (by simp)] at hw
        obtain rfl := hwritten hw
        obtain rfl : st = _ := hholds
        rfl
  | setCamMatrix k =>
      rcases hallow with rfl | ⟨rfl, rfl⟩
      · exact hholds.elim
      · obtain rfl : st = _ := hholds
        refine ⟨⟨_, Function.update_self _ _ _, rfl, ?_⟩, himage _ (fun _ => rfl) _ _,
          h.events.snoc trivial⟩
        intro hw
        rw [written_snoc (by simp)] at hw
        cases hwritten hw
  | setDistCoeffs d =>
      rcases hallow with rfl | ⟨rfl, rfl⟩
      · exact hholds.elim
      · obtain rfl : st = _ := hholds
        exact ⟨⟨_, Function.update_self _ _ _, rfl, fun _ => rfl⟩, himage _ (fun _ => rfl) _ _,
          h.events.snoc trivial⟩
  | distCoeffs => exact hallow.elim
  | imgmsgToCv2 => exact hallow.elim
  | detectMarkers dict => exact hallow.elim
  | interpolateCorners board => exact hallow.elim
  | estimatePose board k d => exact hallow.elim
  | sendTransform t => exact hallow.elim
  | drawFrameAxes k d => exact hallow.elim
  | imshow => exact hallow.elim

/-- **Step of a publisher of images.** It changes no attribute. -/
theorem Consistent.image_step (h : Consistent s first hist st ℓ) (hw : ℓ (some i) = .inr w)
    {o : CharucoOp} (x : charuco.Choice o) (hallow : w.Allows s o) :
    Consistent s first (hist ++ [(some i, ⟨o, (charuco.exec o x st).1⟩)]) (charuco.exec o x st).2
      (Function.update ℓ (some i) (.inr (w.next o (charuco.exec o x st).1))) := by
  obtain ⟨v, hv, hholds, hwritten⟩ := h.info
  obtain ⟨w', hw', hmine⟩ := h.image i
  obtain rfl : w' = w := Sum.inr.inj (hw'.symm.trans hw)
  obtain ⟨hcam, hdist⟩ := hholds.known
  -- what is left to say of the operation
  suffices hnew : (charuco.exec o x st).2 = st ∧
      (∀ d, (⟨o, (charuco.exec o x st).1⟩ : Event charucoSig) ≠ ⟨.setDistCoeffs d, ()⟩) ∧
      Calibrated s first hist (some i, ⟨o, (charuco.exec o x st).1⟩) ∧
      ImageHolds s first (hist ++ [(some i, ⟨o, (charuco.exec o x st).1⟩)]) i st
        (w'.next o (charuco.exec o x st).1) by
    obtain ⟨hst, hset, hevent, hview⟩ := hnew
    rw [hst]
    refine ⟨⟨v, ?_, hholds, ?_⟩, fun j => ?_, h.events.snoc hevent⟩
    · rw [Function.update_of_ne (by simp), hv]
    · rwa [written_snoc hset]
    · by_cases hji : j = i
      · subst hji
        exact ⟨_, Function.update_self _ _ _, hview⟩
      · obtain ⟨w'', hw'', hother⟩ := h.image j
        refine ⟨w'', by rw [Function.update_of_ne (by simpa using hji), hw''], hother.keep id ?_⟩
        exact fun heq => absurd (Option.some.inj heq).symm hji
  cases o with
  | camMatrix =>
      have hview : ImageHolds s first (hist ++ [(some i, ⟨.camMatrix, st.camMatrix⟩)]) i st w' :=
        hmine.keep id fun _ => by simp
      refine ⟨rfl, by simp, trivial, fun ht => ?_, hview.read, hview.estimate⟩
      show st.camMatrix = some first.K ∧ st.camMatrix = some first.K
      rcases hcam with hnone | hsome
      · have ht' : (w'.tested || st.camMatrix.isSome) = true := ht
        rw [hnone, Option.isSome_none, Bool.or_false] at ht'
        have hsome := (hmine.tested ht').2
        exact ⟨hsome, hsome⟩
      · exact ⟨hsome, hsome⟩
  | distCoeffs =>
      have hset : Written hist → st.distCoeffs = some first.D := by
        intro hset
        obtain rfl := hwritten hset
        obtain rfl : st = _ := hholds
        rfl
      refine ⟨rfl, by simp, hset, hmine.tested, fun d hd => ?_, fun k d pose hest => ?_⟩
      · obtain rfl : st.distCoeffs = d := Option.some.inj hd
        refine ⟨hist, [], rfl, by simp, ?_⟩
        -- what is read as none was read before it was assigned
        rcases hdist with hnone | hsome
        · refine .inr ⟨hnone, fun hw => ?_⟩
          have hsome := hset hw
          rw [hnone] at hsome
          cases hsome
        · exact .inl hsome
      · obtain ⟨hk, hd, hmem⟩ := hmine.estimate k d pose hest
        exact ⟨hk, hd, List.mem_append_left _ hmem⟩
  | estimatePose board k d =>
      obtain ⟨rfl, ht, rfl, hd⟩ := hallow
      have hk := (hmine.tested ht).1
      have hread := hmine.read d hd
      have hview : ImageHolds s first
          (hist ++ [(some i, ⟨.estimatePose s.board w'.k d, called x⟩)]) i st w' :=
        hmine.keep id fun _ => by simp
      refine ⟨rfl, by simp, ⟨rfl, hk, hread⟩, ?_⟩
      cases hx : (x : Option (Option BoardPose)) with
      | none =>
          subst hx
          exact hview
      | some found =>
          subst hx
          cases found with
          | none => exact hview
          | some pose =>
              refine ⟨hview.tested, hview.read, fun k d' pose' hest => ?_⟩
              have hlast : some (w'.k, d, pose) = some (k, d', pose') := hest
              obtain ⟨rfl, rfl, rfl⟩ : w'.k = k ∧ d = d' ∧ pose = pose' := by
                simpa using hlast
              exact ⟨hk, hread.known, List.mem_append_right _ (List.mem_singleton.mpr rfl)⟩
  | sendTransform t =>
      obtain ⟨hframe, hchild, k, d, hest⟩ := hallow
      obtain ⟨rfl, hd, hmem⟩ := hmine.estimate k d t.transform hest
      exact ⟨rfl, by simp, ⟨hframe, hchild, d, hd, hmem⟩, hmine.keep id fun _ => by simp⟩
  | imgmsgToCv2 => exact ⟨rfl, by simp, trivial, hmine.keep id fun _ => by simp⟩
  | detectMarkers dict => exact ⟨rfl, by simp, trivial, hmine.keep id fun _ => by simp⟩
  | interpolateCorners board => exact ⟨rfl, by simp, trivial, hmine.keep id fun _ => by simp⟩
  | drawFrameAxes k d => exact ⟨rfl, by simp, trivial, hmine.keep id fun _ => by simp⟩
  | imshow => exact ⟨rfl, by simp, trivial, hmine.keep id fun _ => by simp⟩
  | setCamMatrix k => exact hallow.elim
  | setDistCoeffs d => exact hallow.elim

/-- The views at the start. -/
def startViews : Option ι → View
  | none => .inl .fresh
  | some _ => .inr ⟨false, none, none, none⟩

variable {rest : List CameraInfo} {n : ι → Nat}
  {P : Pool charucoSig CharucoState PyException Unit (Option ι)}

/-- **Calibrated transforms.** In every interleaving of the publisher of `CameraInfo` and
any publishers of images, whatever the calls return: every pose is estimated with the
matrix of the first message and with the coefficients that the same thread read last,
which are those of that message, or none if they were read before the assignment; and
every transform that is sent is a pose the same thread estimated so. -/
theorem transforms_calibrated
    (hrun : Pool.Run charuco charuco.anyChoice (charucoPool s first rest n) hist P) :
    hist.Each (Calibrated s first) := by
  have hfollows : ∀ i, Follows s first ((charucoPool s first rest n).thread i) (fun _ => True)
      (startViews i) := by
    intro i
    cases i with
    | none =>
        exact Machine.wp_mono (fun _ _ _ => trivial) (fun _ _ _ => trivial)
          (infoThread_follows rest)
    | some i =>
        exact Machine.wp_mono (fun _ _ _ => trivial) (fun _ _ _ => trivial)
          (imageThread_follows (n i) _)
  have hstart : Consistent s first ([] : History ι) ⟨none, none⟩ startViews := by
    refine ⟨⟨.fresh, rfl, rfl, ?_⟩, fun i => ⟨_, rfl, ?_, ?_, ?_⟩, Pool.History.each_nil⟩
    · rintro ⟨e, he, -⟩
      exact absurd he List.not_mem_nil
    · exact fun ht => absurd ht Bool.false_ne_true
    · exact fun d hd => absurd hd (by simp)
    · exact fun k d pose hest => absurd hest (by simp)
  have hrun' := hrun.runWith (C := fun _ _ _ => True) fun _ _ _ => trivial
  have hconsistent := hrun'.invariant_history
    (I := fun hist st ℓ => Consistent s first hist st ℓ) hstart hfollows ?_
  · exact hconsistent.events
  · intro hist P ℓ i o x h _ _ _ hallow
    cases i with
    | none =>
        obtain ⟨v, hv, -⟩ := h.info
        rw [hv] at hallow ⊢
        exact h.info_step hv x hallow
    | some i =>
        obtain ⟨w, hw, -⟩ := h.image i
        rw [hw] at hallow ⊢
        exact h.image_step hw x hallow

/-! ## An image between the two assignments -/

/-- What `hikrobot_camera.cpp` publishes. -/
def hikrobotInfo : CameraInfo where
  K := [4732.80839, 0, 1484.88015, 0, 4728.1779, 1149.38858, 0, 0, 1]
  D := [0.076691, -0.169797, 0.004726, 0.006745, 0]

/-- A board in front of the camera. -/
def inFront : BoardPose := ⟨⟨0, 0, 1⟩, ⟨0, 0, 0, 1⟩⟩

/-- Every call succeeds, and finds the board. -/
def boardSeen : (o : CharucoOp) → o.Choice
  | .camMatrix | .distCoeffs | .setCamMatrix _ | .setDistCoeffs _ => ()
  | .detectMarkers _ => some (some 35)
  | .interpolateCorners _ => some (some 54)
  | .estimatePose _ _ _ => some (some inFront)
  | .imgmsgToCv2 | .sendTransform _ | .drawFrameAxes _ _ | .imshow => some ()

/-- The coefficients are assigned after the first of two images has read them and before
its pose is estimated. -/
def betweenAssignments :
    History Unit × Pool charucoSig CharucoState PyException Unit (Option Unit) :=
  Pool.schedule charuco
    (List.replicate 2 (none, boardSeen) ++ List.replicate 6 (some (), boardSeen) ++
      [(none, boardSeen)] ++ List.replicate 18 (some (), boardSeen))
    (charucoPool charucoDetector hikrobotInfo [] fun _ => 2)

/-- `transforms_calibrated` for this run: the first pose is estimated without
coefficients, although they are there by then, and the second with them. -/
theorem transforms_calibrated_between :
    betweenAssignments.1[8]? = some (none, ⟨.setDistCoeffs hikrobotInfo.D, ()⟩) ∧
    betweenAssignments.1[9]? = some (some (),
      ⟨.estimatePose charucoDetector.board (some hikrobotInfo.K) none, .ok (some inFront)⟩) ∧
    betweenAssignments.1[21]? = some (some (),
      ⟨.estimatePose charucoDetector.board (some hikrobotInfo.K) (some hikrobotInfo.D),
        .ok (some inFront)⟩) ∧
    betweenAssignments.1.Each (Calibrated charucoDetector hikrobotInfo) :=
  ⟨rfl, rfl, rfl, transforms_calibrated (Pool.schedule_run _)⟩

end HakRobot.Detect.Charuco
