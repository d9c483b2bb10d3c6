import HakRobot.Detect.CameraModel
import HakRobot.Grab.World

/-!
# The detector node

`image_callback` and `process_image` of `vi_catch_yolov8.py`. Images are
numbered in the order they arrive. A published detection is kept together with
the number of its image, which the message itself does not carry: `ObjectInfo`
has no time stamp.
-/

namespace HakRobot.Detect

open HakRobot.Grab HakRobot.Proc

/-- `TARGET_CLASS`. -/
def TARGET_CLASS : String := "bottle"

/-- `Z_PLANE`. -/
def Z_PLANE : ℚ := 1.15

/-- A message and the image it was computed from. -/
structure Detection where
  msg : ObjectInfo
  image : Nat
deriving DecidableEq

/-- `result.boxes`, each box with the name of its class. -/
abbrev Boxes := Option (List (String × Box ℚ))

/-- `latest_image`, and the image that `process_image` copied last. -/
structure DetectorState where
  latestImage : Option Nat
  taken : Option Nat

/-- The atomic operations of `process_image`. -/
inductive DetectOp
  | latestImageIsNone
  | copyLatestImage
  | predict (colorImage : Nat)
  | publish (d : Detection)
  | imshow

/-- The results of the operations. -/
abbrev DetectOp.Res : DetectOp → Type
  | .latestImageIsNone => Bool
  | .copyLatestImage => Except PyException Nat
  | .predict _ => Except PyException Boxes
  | .publish _ | .imshow => Except PyException Unit

/-- What is left to the outside world: the result of a call, if it does not
raise. -/
abbrev DetectOp.Choice : DetectOp → Type
  | .latestImageIsNone | .copyLatestImage => Unit
  | .predict _ => Option Boxes
  | .publish _ | .imshow => Option Unit

/-- Operations of the detector node. -/
abbrev detectSig : Sig := ⟨DetectOp, DetectOp.Res⟩

/-- A function of the detector node. -/
abbrev Detecting := Prog detectSig PyException

/-- The detector node's machine. -/
def detector : Machine detectSig DetectorState where
  Choice := DetectOp.Choice
  exec
    | .latestImageIsNone, _, s => (s.latestImage.isNone, s)
    | .copyLatestImage, _, s =>
        match s.latestImage with
        | none => (.error .attributeError, s)
        | some k => (.ok k, { s with taken := some k })
    | .predict _, x, s => (called x, s)
    | .publish _, x, s => (called x, s)
    | .imshow, x, s => (called x, s)

/-- One operation that cannot raise. -/
def does (o : DetectOp) : Detecting o.Res := Prog.perform (σ := detectSig) o

/-- `image_callback`: an image that cannot be converted is logged and dropped. -/
def imageCallback (msg : Nat) (converted : Bool) (s : DetectorState) : DetectorState :=
  if converted then { s with latestImage := some msg } else s

/-- `latest_image.copy()`. -/
def copyLatestImage : Detecting Nat := (does .copyLatestImage).bind .ofExcept

/-- `model.predict(color_image, ...)` and `result.plot()`. -/
def predict (colorImage : Nat) : Detecting Boxes := (does (.predict colorImage)).bind .ofExcept

/-- `object_pub.publish(msg)`. -/
def publish (d : Detection) : Detecting Unit := (does (.publish d)).bind .ofExcept

/-- `cv2.imshow("detection", canvas)`. -/
def imshow : Detecting Unit := (does .imshow).bind .ofExcept

/-- The body of the loop over the boxes. -/
def handleBox (colorImage : Nat) (box : String × Box ℚ) : Detecting Unit :=
  if box.1 ≠ TARGET_CLASS then
    return ()
  else
    let p := detectedPoint box.2 Z_PLANE
    publish ⟨⟨box.1, p.x, p.y, p.z⟩, colorImage⟩

/-- `process_image`. -/
def processImage : Detecting Unit := do
  if ← does .latestImageIsNone then
    return ()
  let colorImage ← copyLatestImage
  let boxes ← predict colorImage
  -- `boxes is None or len(boxes) == 0`
  if (boxes.getD []).length = 0 then
    imshow
  else
    Prog.forEach (handleBox colorImage) (boxes.getD [])
    imshow

/-- What an operation with result `r` puts on the topic. -/
def publishedDetections (o : DetectOp) (r : o.Res) : List Detection :=
  match o, r with
  | .publish d, .ok _ => [d]
  | _, _ => []

/-- `latest_image` is copied. -/
def DetectOp.copiesImage : DetectOp → Bool
  | .copyLatestImage => true
  | _ => false

/-! ## What is published -/

/-- The image copied last, after the result of one more operation. -/
def copied (taken : Option Nat) (o : DetectOp) (r : o.Res) : Option Nat :=
  match o, r with
  | .copyLatestImage, .ok k => some k
  | _, _ => taken

/-- Only detections of the copied image are published. -/
def OfCopied (taken : Option Nat) : DetectOp → Prop
  | .publish d => taken = some d.image
  | _ => True

theorem taken_exec (o : DetectOp) (x : detector.Choice o) (s : DetectorState) :
    (detector.exec o x s).2.taken = copied s.taken o (detector.exec o x s).1 := by
  cases o with
  | copyLatestImage =>
      simp only [detector]
      cases s.latestImage with
      | none => rfl
      | some k => rfl
  | _ => rfl

theorem latestImage_exec (o : DetectOp) (x : detector.Choice o) (s : DetectorState) :
    (detector.exec o x s).2.latestImage = s.latestImage := by
  cases o with
  | copyLatestImage =>
      simp only [detector]
      split <;> rfl
  | _ => rfl

/-- An image is copied from `latest_image`. -/
theorem copied_exec {o : DetectOp} {x : detector.Choice o} {s : DetectorState} {k : Nat}
    (hk : (detector.exec o x s).2.taken = some k) :
    s.taken = some k ∨ (o.copiesImage = true ∧ s.latestImage = some k) := by
  cases o with
  | copyLatestImage =>
      revert hk
      simp only [detector]
      cases hlatest : s.latestImage with
      | none => exact .inl
      | some j => exact fun hk => .inr ⟨rfl, hk⟩
  | _ => exact .inl hk

theorem OfCopied.published {taken : Option Nat} {o : DetectOp} (h : OfCopied taken o) (r : o.Res) :
    ∀ d ∈ publishedDetections o r, taken = some d.image := by
  intro d hd
  cases o with
  | publish d' =>
      cases r with
      | error e => exact absurd hd List.not_mem_nil
      | ok _ =>
          rw [List.mem_singleton.mp hd]
          exact h
  | _ => exact absurd hd List.not_mem_nil

/-- What `process_image` does once it has copied image `k`. -/
def AfterCopy (k : Nat) : DetectOp → Prop
  | .publish d => d.image = k
  | .imshow => True
  | _ => False

theorem imshow_uses (k : Nat) : imshow.Uses (AfterCopy k) :=
  ⟨trivial, fun r => Prog.uses_ofExcept r⟩

theorem handleBoxes_uses (k : Nat) (boxes : List (String × Box ℚ)) :
    (Prog.forEach (handleBox k) boxes).Uses (AfterCopy k) := by
  induction boxes with
  | nil => exact trivial
  | cons box boxes ih =>
      refine Prog.uses_bind ?_ fun _ => ih
      unfold handleBox
      split
      · exact trivial
      · exact ⟨rfl, fun r => Prog.uses_ofExcept r⟩

/-- `process_image` publishes detections of the image it copied, and of no
other. -/
theorem processImage_spec (taken : Option Nat) :
    (Machine.monitor detectSig copied).wp (Machine.anyChoice _) OfCopied processImage
      (fun _ _ => True) (fun _ _ => True) taken := by
  refine ⟨trivial, fun (none : Bool) _ => ?_⟩
  cases none with
  | true => exact trivial
  | false =>
      refine ⟨trivial, fun (image : Except PyException Nat) _ => ?_⟩
      cases image with
      | error e => exact trivial
      | ok k =>
          refine ⟨trivial, fun (boxes : Except PyException Boxes) _ => ?_⟩
          cases boxes with
          | error e => exact trivial
          | ok boxes =>
              have huses : (if (boxes.getD []).length = 0 then imshow else do
                  Prog.forEach (handleBox k) (boxes.getD [])
                  imshow).Uses (AfterCopy k) := by
                split
                · exact imshow_uses k
                · exact Prog.uses_bind (handleBoxes_uses k _) fun _ => imshow_uses k
              refine Machine.wp_mono (fun _ _ _ => trivial) (fun _ _ _ => trivial)
                (Machine.wp_of_uses (I := fun taken => taken = some k) ?_ huses rfl)
              intro taken o htaken ho
              cases o with
              | publish d => exact ⟨htaken.trans (congrArg some ho.symm), fun _ _ => htaken⟩
              | imshow => exact ⟨trivial, fun _ _ => htaken⟩
              | _ => exact ho.elim

end HakRobot.Detect
