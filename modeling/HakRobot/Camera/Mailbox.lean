import HakRobot.Proc.Reach

/-!
# The frame between the camera's two loops

`HKWorkThread` grabs a frame, converts it into a buffer it reuses, and stores a
copy in `camera::frame` under the mutex; the main loop takes it with `ReadImg`.
The result of the conversion is not looked at, so a frame whose conversion
failed is stored with its own size and whatever the buffer holds.

* `numbered` — whatever the SDK does, the images that are published belong to
  different frames, in the order of the frames, each the newest when it was read;
* `fresh_images` — and they are the conversions of these frames, if no frame
  whose conversion failed is read.
-/

namespace HakRobot.Camera

open HakRobot.Proc

/-! ## Frames and images -/

/-- What `MV_CC_GetOneFrameTimeout` leaves in `m_pBufForDriver` and
`stImageInfo`. -/
structure RawFrame where
  nWidth : Nat
  nHeight : Nat
  enPixelType : Nat
  data : List UInt8
deriving DecidableEq

/-- `cv::Mat` of type `CV_8UC3`. -/
structure Mat where
  rows : Nat
  cols : Nat
  data : List UInt8
deriving DecidableEq

/-- `cv::Mat()`. -/
def Mat.none : Mat := ⟨0, 0, []⟩

/-- `Mat::empty`. -/
def Mat.empty (m : Mat) : Bool := m.rows * m.cols == 0

/-- The bytes of an image of the frame's size. -/
def RawFrame.bgrSize (f : RawFrame) : Nat := f.nHeight * f.nWidth * 3

/-- The conversion of the SDK to BGR, three bytes for each pixel. -/
structure PixelConverter where
  bgr : RawFrame → List UInt8
  length_bgr : ∀ f, (bgr f).length = f.bgrSize

/-- The BGR conversion of a frame. -/
def PixelConverter.image (conv : PixelConverter) (f : RawFrame) : Mat :=
  ⟨f.nHeight, f.nWidth, conv.bgr f⟩

/-- `MAX_IMAGE_DATA_SIZE`. -/
def MAX_IMAGE_DATA_SIZE : Nat := 4 * 2048 * 3072

/-! ## The two loops -/

/-- Where `HKWorkThread` is between its calls. -/
inductive WorkPhase
  | idle
  | grabbed (f : RawFrame)
  | converted (f : RawFrame) (ok : Bool)
deriving DecidableEq

/-- A frame that was stored, and whether its conversion had succeeded. -/
structure Stored where
  raw : RawFrame
  converted : Bool
deriving DecidableEq

/-- An image given to the publisher, and the frames stored until then. A frame
`HKWorkThread` is still working on is not among them. -/
structure Published where
  image : Mat
  seen : List Stored
deriving DecidableEq

/-- The variables of the two loops. The lists record what happened, newest
first; no step reads them. -/
structure CameraState where
  saveImage : List UInt8
  frame : Mat
  frameEmpty : Bool
  phase : WorkPhase
  stored : List Stored
  published : List Published

/-- Before the first frame, with a buffer fresh from `malloc`. -/
def CameraState.init (garbage : List UInt8) : CameraState :=
  ⟨garbage, .none, false, .idle, [], []⟩

/-- How `MV_CC_ConvertPixelType` ends; after a failure the buffer may hold
anything. -/
inductive ConvertResult
  | ok
  | failed (left : List UInt8)
deriving DecidableEq

/-- One step of either loop. -/
inductive CameraAction
  | grab (result : Option RawFrame)
  | convert (result : ConvertResult)
  | store
  | read
deriving DecidableEq

namespace CameraState

/-- `ReadImg`, the section under the mutex. -/
def readImg (s : CameraState) : Mat × CameraState :=
  if s.frameEmpty then (.none, s) else (s.frame, { s with frameEmpty := true })

/-- The main loop after `ReadImg`. -/
def publish (image : Mat) (s : CameraState) : CameraState :=
  if image.empty then s else { s with published := ⟨image, s.stored⟩ :: s.published }

/-- The section of `HKWorkThread` under the mutex. -/
def store (f : RawFrame) (ok : Bool) (s : CameraState) : CameraState :=
  { s with
    frame := ⟨f.nHeight, f.nWidth, s.saveImage.take f.bgrSize⟩
    frameEmpty := false
    phase := .idle
    stored := ⟨f, ok⟩ :: s.stored }

/-- The step function; `none` when the action is not possible. -/
def step (conv : PixelConverter) (s : CameraState) : CameraAction → Option CameraState
  | .grab result =>
      match s.phase, result with
      | .idle, none => some s
      | .idle, some f => some { s with phase := .grabbed f }
      | _, _ => none
  | .convert result =>
      match s.phase, result with
      | .grabbed f, .ok =>
          -- the call fails when the buffer is too small
          if f.bgrSize ≤ MAX_IMAGE_DATA_SIZE then
            some { s with
              saveImage := conv.bgr f ++ s.saveImage.drop f.bgrSize
              phase := .converted f true }
          else none
      | .grabbed f, .failed left =>
          some { s with saveImage := left, phase := .converted f false }
      | _, _ => none
  | .store =>
      match s.phase with
      | .converted f ok => some (s.store f ok)
      | _ => none
  | .read => some (s.readImg.2.publish s.readImg.1)

end CameraState

/-- `frame_empty` is set when the frame whose conversion failed is read. -/
def ReadsConverted (s : CameraState) : CameraAction → Prop
  | .read => s.frameEmpty = false → ∀ f ∈ s.stored.head?, f.converted = true
  | _ => True

instance (s : CameraState) (a : CameraAction) : Decidable (ReadsConverted s a) := by
  unfold ReadsConverted
  split <;> infer_instance

/-! ## What is published -/

/-- The image is the conversion of the newest frame stored when it was read. -/
def Published.Converts (conv : PixelConverter) (e : Published) : Prop :=
  ∃ f rest, e.seen = f :: rest ∧ e.image = conv.image f.raw

/-- The images belong to different frames, in the order of the frames, and have
their sizes. -/
structure Numbered (s : CameraState) : Prop where
  sized : ∀ e ∈ s.published, ∃ f rest, e.seen = f :: rest ∧
    e.image.rows = f.raw.nHeight ∧ e.image.cols = f.raw.nWidth
  suffix : ∀ e ∈ s.published, e.seen <:+ s.stored
  newer : s.published.Pairwise fun later earlier => earlier.seen.length < later.seen.length

/-- The mailbox between the steps: a frame that is still to be read has its own
size, is newer than every image published, and holds its conversion unless that
failed. -/
structure Mailbox (conv : PixelConverter) (s : CameraState) : Prop where
  buffer : ∀ f, s.phase = .converted f true → s.saveImage.take f.bgrSize = conv.bgr f
  full : s.frameEmpty = false → s.frame = .none ∨ ∃ f rest, s.stored = f :: rest ∧
    (s.frame.rows = f.raw.nHeight ∧ s.frame.cols = f.raw.nWidth) ∧
    (f.converted = true → s.frame = conv.image f.raw) ∧
    ∀ e ∈ s.published, e.seen.length < s.stored.length
  numbered : Numbered s

variable {conv : PixelConverter} {garbage : List UInt8} {s t : CameraState}

theorem mailbox_init : Mailbox conv (.init garbage) :=
  ⟨nofun, fun _ => .inl rfl, nofun, nofun, .nil⟩

/-- A step that publishes and stores nothing keeps the numbering. -/
theorem Numbered.congr (h : Numbered s) (hstored : t.stored = s.stored)
    (hpub : t.published = s.published) : Numbered t := by
  refine ⟨?_, ?_, ?_⟩
  · rw [hpub]
    exact h.sized
  · rw [hpub, hstored]
    exact h.suffix
  · rw [hpub]
    exact h.newer

theorem Mailbox.store (h : Mailbox conv s) {f : RawFrame} {ok : Bool}
    (hphase : s.phase = .converted f ok) : Mailbox conv (s.store f ok) := by
  refine ⟨nofun, fun _ => .inr ⟨⟨f, ok⟩, s.stored, rfl, ⟨rfl, rfl⟩, fun hok => ?_, ?_⟩,
    h.numbered.sized, ?_, h.numbered.newer⟩
  · obtain rfl : ok = true := hok
    show (⟨f.nHeight, f.nWidth, s.saveImage.take f.bgrSize⟩ : Mat) = conv.image f
    rw [h.buffer f hphase]
    rfl
  · intro e he
    have hle := (h.numbered.suffix e he).length_le
    show e.seen.length < s.stored.length + 1
    omega
  · intro e he
    exact (h.numbered.suffix e he).trans (List.suffix_cons _ _)

/-- `ReadImg` either publishes nothing, or the frame in the mailbox. -/
theorem read_cases (s : CameraState) :
    (s.readImg.2.publish s.readImg.1 = s.readImg.2) ∨
    (s.frameEmpty = false ∧ s.frame ≠ .none ∧ s.readImg.2.publish s.readImg.1 =
      { s with frameEmpty := true, published := ⟨s.frame, s.stored⟩ :: s.published }) := by
  unfold CameraState.readImg
  cases hempty : s.frameEmpty with
  | true => exact .inl rfl
  | false =>
      simp only [Bool.false_eq_true, if_false]
      unfold CameraState.publish
      split
      · exact .inl rfl
      · rename_i himage
        refine .inr ⟨trivial, ?_, rfl⟩
        intro hnone
        exact himage (by rw [hnone]; rfl)

theorem readImg_frameEmpty (s : CameraState) : s.readImg.2 = { s with frameEmpty := true } := by
  unfold CameraState.readImg
  cases hempty : s.frameEmpty with
  | true =>
      show s = { s with frameEmpty := true }
      rw [← hempty]
  | false => rfl

theorem Mailbox.read (h : Mailbox conv s) :
    Mailbox conv (s.readImg.2.publish s.readImg.1) := by
  rcases read_cases s with heq | ⟨hfull, hframe, heq⟩
  · rw [heq, readImg_frameEmpty]
    exact ⟨h.buffer, nofun, h.numbered.congr rfl rfl⟩
  · rw [heq]
    obtain ⟨f, rest, hstored, hsize, -, hnewer⟩ := (h.full hfull).resolve_left hframe
    refine ⟨h.buffer, nofun, ?_, ?_, ?_⟩
    · exact List.forall_mem_cons.mpr ⟨⟨f, rest, hstored, hsize⟩, h.numbered.sized⟩
    · exact List.forall_mem_cons.mpr ⟨List.suffix_rfl, h.numbered.suffix⟩
    · exact List.pairwise_cons.mpr ⟨hnewer, h.numbered.newer⟩

/-- **Step.** Whatever the SDK answers. -/
theorem Mailbox.step (h : Mailbox conv s) {a : CameraAction} (hstep : s.step conv a = some t) :
    Mailbox conv t := by
  cases a with
  | grab result =>
      simp only [CameraState.step] at hstep
      split at hstep
      · obtain rfl := Option.some.inj hstep
        exact h
      · obtain rfl := Option.some.inj hstep
        exact ⟨nofun, h.full, h.numbered.congr rfl rfl⟩
      · cases hstep
  | convert result =>
      simp only [CameraState.step] at hstep
      split at hstep
      · rename_i f _
        split at hstep
        · obtain rfl := Option.some.inj hstep
          refine ⟨fun f' hf' => ?_, h.full, h.numbered.congr rfl rfl⟩
          obtain rfl : f = f' := by simpa using hf'
          exact List.take_left' (conv.length_bgr f)
        · cases hstep
      · obtain rfl := Option.some.inj hstep
        refine ⟨fun f' hf' => ?_, h.full, h.numbered.congr rfl rfl⟩
        simp at hf'
      · cases hstep
  | store =>
      simp only [CameraState.step] at hstep
      split at hstep
      · rename_i f ok hphase
        obtain rfl := Option.some.inj hstep
        exact h.store hphase
      · cases hstep
  | read =>
      obtain rfl := Option.some.inj hstep
      exact h.read

/-- Only a read publishes. -/
theorem step_published {a : CameraAction} (ha : a ≠ .read) (hstep : s.step conv a = some t) :
    t.published = s.published := by
  cases a with
  | read => exact absurd rfl ha
  | store =>
      simp only [CameraState.step] at hstep
      split at hstep
      · obtain rfl := Option.some.inj hstep
        rfl
      · cases hstep
  | grab result =>
      simp only [CameraState.step] at hstep
      split at hstep
      · obtain rfl := Option.some.inj hstep
        rfl
      · obtain rfl := Option.some.inj hstep
        rfl
      · cases hstep
  | convert result =>
      simp only [CameraState.step] at hstep
      split at hstep
      · split at hstep
        · obtain rfl := Option.some.inj hstep
          rfl
        · cases hstep
      · obtain rfl := Option.some.inj hstep
        rfl
      · cases hstep

/-- **Distinct and in order.** For every interleaving and every outcome of the
SDK calls: no frame is published twice or after a later one, and each is the
newest one stored when it is read. -/
theorem numbered (hrun : Reach (CameraState.step conv) (fun _ _ => True) (.init garbage) s) :
    Numbered s :=
  (hrun.invariant (I := Mailbox conv) mailbox_init fun _ _ _ h _ hstep => h.step hstep).numbered

/-- **Fresh images.** For every interleaving of the two loops and every outcome
of the SDK calls: if no frame whose conversion failed is read, every image given
to the publisher is the BGR conversion of the newest frame stored when it was
read, in that frame's size, and no frame is published twice or after a later
one. -/
theorem fresh_images (hrun : Reach (CameraState.step conv) ReadsConverted (.init garbage) s) :
    (∀ e ∈ s.published, e.Converts conv) ∧ Numbered s := by
  have hinv : Mailbox conv s ∧ ∀ e ∈ s.published, e.Converts conv := by
    refine hrun.invariant (I := fun s => Mailbox conv s ∧ ∀ e ∈ s.published, e.Converts conv)
      ⟨mailbox_init, fun _ he => absurd he List.not_mem_nil⟩ ?_
    intro s a t hs hC hstep
    refine ⟨hs.1.step hstep, ?_⟩
    by_cases ha : a = .read
    · subst ha
      obtain rfl := Option.some.inj hstep
      rcases read_cases s with heq | ⟨hfull, hframe, heq⟩
      · rw [heq, readImg_frameEmpty]
        exact hs.2
      · rw [heq]
        obtain ⟨f, rest, hstored, -, himage, -⟩ := (hs.1.full hfull).resolve_left hframe
        have hok : f.converted = true := hC hfull f (by rw [hstored]; rfl)
        exact List.forall_mem_cons.mpr ⟨⟨f, rest, hstored, himage hok⟩, hs.2⟩
    · rw [step_published ha hstep]
      exact hs.2
  exact ⟨hinv.2, hinv.1.numbered⟩

/-! ## A conversion that fails -/

/-- A converter that copies the bytes it is given, as far as they go. -/
def copying : PixelConverter where
  bgr f := (f.data ++ List.replicate f.bgrSize 0).take f.bgrSize
  length_bgr f := by
    rw [List.length_take, List.length_append, List.length_replicate]
    omega

/-- A frame of one pixel. -/
def onePixel (b : UInt8) : RawFrame := ⟨1, 1, 0, [b, b, b]⟩

/-- Two frames, each grabbed, converted, stored and read; the conversion of the
second one ends with `result`. -/
def twoFrames (result : ConvertResult) : List CameraAction :=
  [.read, .grab (some (onePixel 1)), .convert .ok, .store, .read,
    .grab none, .grab (some (onePixel 2)), .convert result, .store, .read, .read]

/-- The camera after these two frames. -/
def afterTwo (result : ConvertResult) : CameraState :=
  follow (CameraState.step copying) (.init []) (twoFrames result)

/-- `fresh_images` for two frames that are converted. -/
theorem fresh_images_twoFrames :
    (afterTwo .ok).published.length = 2 ∧
    (∀ e ∈ (afterTwo .ok).published, e.Converts copying) ∧ Numbered (afterTwo .ok) := by
  have hreach : Reach (CameraState.step copying) (ReadsConverted) (.init [])
      (afterTwo .ok) := follow_reach (by decide +kernel)
  exact ⟨by decide +kernel, fresh_images hreach⟩

/-- The second conversion fails and leaves the buffer as it was: the first frame
is published once more, as the second. -/
theorem stale_image :
    ¬ ∀ (conv : PixelConverter) (garbage : List UInt8) (s : CameraState),
      Reach (CameraState.step conv) (fun _ _ => True) (.init garbage) s →
      (∀ e ∈ s.published, e.Converts conv) ∧ Numbered s := by
  intro hall
  have hfresh := (hall copying [] (afterTwo (.failed [1, 1, 1]))
    (follow_reach (meets_true _ _))).1
  have himage : (afterTwo (.failed [1, 1, 1])).published.head? =
      some ⟨⟨1, 1, [1, 1, 1]⟩, [⟨onePixel 2, false⟩, ⟨onePixel 1, true⟩]⟩ := by decide +kernel
  obtain ⟨f, rest, hseen, hf⟩ := hfresh _ (List.mem_of_mem_head? himage)
  obtain ⟨rfl, rfl⟩ := List.cons.inj hseen
  revert hf
  decide +kernel

end HakRobot.Camera
