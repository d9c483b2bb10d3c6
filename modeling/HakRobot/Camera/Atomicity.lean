import HakRobot.Camera.Views

/-!
# The critical sections are atomic

`HakRobot.Camera.Mailbox` takes each critical section for one step, and the publisher
gets the image in the step that reads it. In the threads an access to the frame is one
operation and the flag another, and the worker thread can store several frames between
a read and its publication.

* `Linked.main`, `Linked.work` — each operation of a thread is a step of the mailbox or
  none;
* `images_sublist` — so the images of the publisher belong to frames the camera gave, in
  their order and none of them twice, and they are the conversions of these frames when
  no conversion fails.
-/

namespace HakRobot.Camera

open HakRobot.Proc

/-! ## The mailbox behind the threads -/

/-- The phase of the mailbox's worker. -/
def WorkView.phase : WorkView → WorkPhase
  | .grabbed f => .grabbed f
  | .converted f ok | .locked f ok => .converted f ok
  | .waiting | .idle | .stored | .flagged | .ended => .idle

/-- The frame was read, and `frame_empty` is not set yet. -/
def MainView.tookFrame : MainView → Bool
  | .took _ => true
  | _ => false

/-- The flag of the mailbox: it changes with the frame, one operation before
`frame_empty` is written. -/
def flagOf (s : Shared) (m : MainView) (w : WorkView) : Bool :=
  if m.tookFrame then true else if w = .stored then false else s.frameEmpty

/-- The image that was read and is not published yet. -/
def MainView.inFlight : MainView → List Mat
  | .took image | .marked image => if image.empty then [] else [image]
  | .carrying image => [image]
  | _ => []

/-- The frame that was grabbed and is not stored yet. -/
def WorkView.inHand : WorkView → List RawFrame
  | .grabbed f => [f]
  | .converted f _ | .locked f _ => [f]
  | .waiting | .idle | .stored | .flagged | .ended => []

/-- The mailbox `a` is in the state of the threads. -/
structure Linked (s : Shared) (m : MainView) (w : WorkView) (a : CameraState) : Prop where
  buffer : a.saveImage = s.saveImage
  frame : a.frame = s.frame
  flag : a.frameEmpty = flagOf s m w
  phase : a.phase = w.phase
  seen : ∀ b, m = .seen b → s.frameEmpty = b
  published : a.published.map (·.image) = m.inFlight ++ s.published

/-! ## What was grabbed and converted -/

/-- The frame that an operation got from the camera. -/
def frameOf : Event cameraSig → List RawFrame
  | ⟨.getOneFrame, frame⟩ => (frame : Option RawFrame).toList
  | _ => []

/-- The frames the camera gave, the oldest first. -/
def grabbed (hist : Pool.History cameraSig Caller) : List RawFrame :=
  hist.flatMap fun e => frameOf e.2

/-- A conversion that failed. -/
def FailedConversion : Event cameraSig → Prop
  | ⟨.convertPixelType _, ok⟩ => ok = false
  | _ => False

/-- No conversion failed. -/
def AllConverted (hist : Pool.History cameraSig Caller) : Prop :=
  ∀ e ∈ hist, ¬ FailedConversion e.2

/-- The frames of the mailbox are the frames that were grabbed, except the one in hand,
and they are converted when no conversion failed. -/
structure Accounted (hist : Pool.History cameraSig Caller) (w : WorkView) (a : CameraState) :
    Prop where
  frames : (a.stored.map (·.raw)).reverse ++ w.inHand = grabbed hist
  converted : AllConverted hist → ∀ f ∈ a.stored, f.converted = true
  inHand : AllConverted hist → ∀ f, a.phase ≠ .converted f false

variable {hist : Pool.History cameraSig Caller} {e : Caller × Event cameraSig} {s : Shared}
  {m : MainView} {w w' : WorkView} {a a' : CameraState} {conv : PixelConverter}

theorem grabbed_snoc : grabbed (hist ++ [e]) = grabbed hist ++ frameOf e.2 := by
  simp [grabbed]

theorem allConverted_snoc :
    AllConverted (hist ++ [e]) ↔ AllConverted hist ∧ ¬ FailedConversion e.2 := by
  simp [AllConverted, or_imp, forall_and]

/-- An operation that neither gets a frame nor stores one. -/
theorem Accounted.keep (h : Accounted hist w a) (hframe : frameOf e.2 = [])
    (hhand : w'.inHand = w.inHand) (hstored : a'.stored = a.stored) (hphase : a'.phase = a.phase) :
    Accounted (hist ++ [e]) w' a' := by
  refine ⟨?_, fun hall => ?_, fun hall => ?_⟩
  · rw [grabbed_snoc, hframe, List.append_nil, hstored, hhand]
    exact h.frames
  · rw [hstored]
    exact h.converted (allConverted_snoc.mp hall).1
  · rw [hphase]
    exact h.inHand (allConverted_snoc.mp hall).1

/-- `a'` is reached in at most one step. -/
def AtMostOneStep (conv : PixelConverter) (a a' : CameraState) : Prop :=
  a' = a ∨ ∃ action, a.step conv action = some a'

/-- What a call does leaves the frame alone. -/
theorem effect_frame (c : StatusCall) :
    (c.effect s).saveImage = s.saveImage ∧ (c.effect s).frame = s.frame ∧
      (c.effect s).frameEmpty = s.frameEmpty ∧ (c.effect s).published = s.published := by
  cases c <;> exact ⟨rfl, rfl, rfl, rfl⟩

theorem flagOf_of_not_took (hm : m.tookFrame = false) :
    flagOf s m w = if w = .stored then false else s.frameEmpty := by
  simp [flagOf, hm]

/-- A view outside `ReadImg` with nothing to publish. -/
def MainView.idle : MainView → Bool
  | .locked | .seen _ | .took _ | .marked _ | .carrying _ => false
  | _ => true

theorem idle_spec (hm : m.idle = true) :
    m.inFlight = [] ∧ m.tookFrame = false ∧ ∀ b, m ≠ .seen b := by
  cases m <;> cases hm <;> exact ⟨rfl, rfl, by simp⟩

/-- The main thread goes from one such view to another. -/
theorem Linked.idle {t : Shared} {m' : MainView} (h : Linked s m w a) (hm : m.idle = true)
    (hm' : m'.idle = true) (hbuffer : t.saveImage = s.saveImage) (hframe : t.frame = s.frame)
    (hflag : t.frameEmpty = s.frameEmpty) (hpub : t.published = s.published) :
    Linked t m' w a := by
  obtain ⟨hflight, htook, -⟩ := idle_spec hm
  obtain ⟨hflight', htook', hseen⟩ := idle_spec hm'
  refine ⟨h.buffer.trans hbuffer.symm, h.frame.trans hframe.symm, ?_, h.phase, ?_, ?_⟩
  · rw [h.flag, flagOf_of_not_took htook, flagOf_of_not_took htook', hflag]
  · exact fun b hb => absurd hb (hseen b)
  · rw [h.published, hflight, hflight', hpub]

theorem before_idle (c : StatusCall) : c.before.idle = true := by
  cases c <;> rfl

theorem after_idle (c : StatusCall) : c.after.idle = true := by
  cases c <;> rfl

/-- The worker thread is not between its two writes while the main thread has the mutex. -/
theorem Coupled.not_stored (h : Coupled s m w) (hm : m.inSection = true) : w ≠ .stored := by
  rintro rfl
  exact absurd (h.apart hm) (by simp [WorkView.inSection])

/-- **Step of the main thread.** The mailbox is read when the frame is. -/
theorem Linked.main (conv : PixelConverter) (h : Linked s m w a) (hc : Coupled s m w)
    {o : CameraOp} (c : o.Choice) (hallow : m.Allows o) :
    ∃ a', AtMostOneStep conv a a' ∧
      Linked (cameraExec conv s o c).2 (m.next o (cameraExec conv s o c).1) w a' ∧
      a'.stored = a.stored ∧ a'.phase = a.phase := by
  cases o with
  | enumDevices => exact ⟨a, .inl rfl, h, rfl, rfl⟩
  | rosOk => exact ⟨a, .inl rfl, h, rfl, rfl⟩
  | sleepSpin => exact ⟨a, .inl rfl, h, rfl, rfl⟩
  | call call =>
      obtain rfl : m = call.before := hallow
      refine ⟨a, .inl rfl, ?_, rfl, rfl⟩
      show Linked (if (c : Int32) = MV_OK then call.effect s else s)
        (if (c : Int32) = MV_OK then call.after else call.before) w a
      by_cases hok : (c : Int32) = MV_OK
      · obtain ⟨hbuffer, hframe, hflag, hpub⟩ := effect_frame (s := s) call
        rw [if_pos hok, if_pos hok]
        exact h.idle (before_idle call) (after_idle call) hbuffer hframe hflag hpub
      · rw [if_neg hok, if_neg hok]
        exact h
  | lock who =>
      obtain ⟨rfl, rfl⟩ := hallow
      refine ⟨a, .inl rfl, ⟨h.buffer, h.frame, h.flag, h.phase, ?_, h.published⟩, rfl, rfl⟩
      exact fun b hb => by cases hb
  | readFrameEmpty =>
      obtain rfl := hallow
      refine ⟨a, .inl rfl, ⟨h.buffer, h.frame, h.flag, h.phase, ?_, h.published⟩, rfl, rfl⟩
      exact fun b hb => MainView.seen.inj hb
  | cloneFrame =>
      obtain rfl := hallow
      have hflag : a.frameEmpty = false := by
        rw [h.flag, flagOf_of_not_took rfl, if_neg (hc.not_stored rfl)]
        exact h.seen false rfl
      have hread : a.readImg = (s.frame, { a with frameEmpty := true }) := by
        rw [CameraState.readImg, hflag, ← h.frame]
        rfl
      have hpub : a.published.map (·.image) = s.published := h.published
      refine ⟨a.readImg.2.publish a.readImg.1, .inr ⟨.read, rfl⟩, ?_⟩
      rw [hread]
      unfold CameraState.publish
      by_cases hempty : s.frame.empty = true
      · rw [if_pos hempty]
        refine ⟨⟨h.buffer, h.frame, rfl, h.phase, fun b hb => (by cases hb), ?_⟩, rfl, rfl⟩
        show a.published.map (·.image) = (if s.frame.empty then [] else [s.frame]) ++ s.published
        rw [hpub, if_pos hempty]
        rfl
      · rw [if_neg hempty]
        refine ⟨⟨h.buffer, h.frame, rfl, h.phase, fun b hb => (by cases hb), ?_⟩, rfl, rfl⟩
        show s.frame :: a.published.map (·.image) =
          (if s.frame.empty then [] else [s.frame]) ++ s.published
        rw [hpub, if_neg hempty]
        rfl
  | setFrameEmpty b =>
      obtain ⟨rfl, image, rfl⟩ := hallow
      refine ⟨a, .inl rfl, ⟨h.buffer, h.frame, ?_, h.phase, ?_, h.published⟩, rfl, rfl⟩
      · rw [h.flag]
        exact (if_neg (hc.not_stored rfl)).symm
      · exact fun b hb => by cases hb
  | unlock who =>
      refine ⟨a, .inl rfl, ?_, rfl, rfl⟩
      obtain ⟨rfl, rfl | ⟨image, rfl⟩⟩ := hallow
      · exact ⟨h.buffer, h.frame, h.flag, h.phase, fun b hb => (by cases hb), h.published⟩
      · show Linked { s with mutex := .free } (if image.empty then .looping else .carrying image) w a
        have hpub : a.published.map (·.image) =
            (if image.empty then [] else [image]) ++ s.published := h.published
        by_cases hempty : image.empty = true
        · rw [if_pos hempty] at hpub ⊢
          exact ⟨h.buffer, h.frame, h.flag, h.phase, fun b hb => (by cases hb), hpub⟩
        · rw [if_neg hempty] at hpub ⊢
          exact ⟨h.buffer, h.frame, h.flag, h.phase, fun b hb => (by cases hb), hpub⟩
  | publish image =>
      obtain rfl := hallow
      refine ⟨a, .inl rfl, ⟨h.buffer, h.frame, h.flag, h.phase, ?_, h.published⟩, rfl, rfl⟩
      exact fun b hb => by cases hb
  | joinThread =>
      obtain rfl := hallow
      exact ⟨a, .inl rfl, h.idle rfl rfl rfl rfl rfl rfl, rfl, rfl⟩
  | destroyMutex =>
      obtain rfl := hallow
      exact ⟨a, .inl rfl, h.idle rfl rfl rfl rfl rfl rfl, rfl, rfl⟩
  | storeFrame f => exact hallow.elim
  | getOneFrame => exact hallow.elim
  | convertPixelType f => exact hallow.elim
  | beginWork => exact hallow.elim
  | endWork => exact hallow.elim

/-! The steps of the mailbox's worker. -/

theorem step_grab {f : RawFrame} (h : a.phase = .idle) :
    a.step conv (.grab (some f)) = some { a with phase := .grabbed f } := by
  simp [CameraState.step, h]

theorem step_convert_ok {f : RawFrame} (h : a.phase = .grabbed f)
    (hfits : f.bgrSize ≤ MAX_IMAGE_DATA_SIZE) :
    a.step conv (.convert .ok) = some { a with
      saveImage := conv.bgr f ++ a.saveImage.drop f.bgrSize
      phase := .converted f true } := by
  simp [CameraState.step, h, hfits]

theorem step_convert_failed {f : RawFrame} {left : List UInt8} (h : a.phase = .grabbed f) :
    a.step conv (.convert (.failed left)) =
      some { a with saveImage := left, phase := .converted f false } := by
  simp [CameraState.step, h]

theorem step_store {f : RawFrame} {ok : Bool} (h : a.phase = .converted f ok) :
    a.step conv .store = some (a.store f ok) := by
  simp [CameraState.step, h]

theorem not_took_of_not_inSection (hm : m.inSection = false) : m.tookFrame = false := by
  cases m <;> first | rfl | cases hm

/-- The main thread has not the mutex while the worker thread has it. -/
theorem Coupled.not_inSection (h : Coupled s m w) (hw : w.inSection = true) :
    m.inSection = false := by
  cases hm : m.inSection with
  | false => rfl
  | true => exact absurd (hw.symm.trans (h.apart hm)) (by simp)

/-- The worker thread goes from one view to another and leaves the frame alone. -/
theorem Linked.other {t : Shared} (h : Linked s m w a) (hw : w ≠ .stored) (hw' : w' ≠ .stored)
    (ha : a'.frame = a.frame ∧ a'.frameEmpty = a.frameEmpty ∧ a'.published = a.published)
    (ht : t.frame = s.frame ∧ t.frameEmpty = s.frameEmpty ∧ t.published = s.published)
    (hbuffer : a'.saveImage = t.saveImage) (hphase : a'.phase = w'.phase) :
    Linked t m w' a' := by
  refine ⟨hbuffer, ?_, ?_, hphase, ?_, ?_⟩
  · rw [ha.1, h.frame, ht.1]
  · rw [ha.2.1, h.flag, flagOf, flagOf, if_neg hw, if_neg hw', ht.2.1]
  · rw [ht.2.1]
    exact h.seen
  · rw [ha.2.2, h.published, ht.2.2]

/-- **Step of the worker thread.** A frame is stored in the mailbox when `frame` is
written. -/
theorem Linked.work (conv : PixelConverter) (h : Linked s m w a) (hc : Coupled s m w)
    (ha : Accounted hist w a) {o : CameraOp} {c : o.Choice} (hend : CanEnd s o c)
    (hallow : w.Allows o) :
    ∃ a', AtMostOneStep conv a a' ∧
      Linked (cameraExec conv s o c).2 m (w.next o (cameraExec conv s o c).1) a' ∧
      Accounted (hist ++ [(.worker, ⟨o, (cameraExec conv s o c).1⟩)])
        (w.next o (cameraExec conv s o c).1) a' := by
  cases o with
  | beginWork =>
      obtain rfl := hallow
      exact ⟨a, .inl rfl, h.other (by simp) (fun hw => by cases hw) ⟨rfl, rfl, rfl⟩
        ⟨rfl, rfl, rfl⟩ h.buffer h.phase, ha.keep rfl rfl rfl rfl⟩
  | rosOk => exact ⟨a, .inl rfl, h, ha.keep rfl rfl rfl rfl⟩
  | getOneFrame =>
      obtain rfl := hallow
      cases hframe : (c : Option RawFrame) with
      | none => exact ⟨a, .inl rfl, h, ha.keep rfl rfl rfl rfl⟩
      | some f =>
          have hphase : a.phase = .idle := h.phase
          refine ⟨{ a with phase := .grabbed f }, .inr ⟨.grab (some f), step_grab hphase⟩, ?_, ?_, ?_,
            ?_⟩
          · exact h.other (by simp) (fun hw => by cases hw) ⟨rfl, rfl, rfl⟩ ⟨rfl, rfl, rfl⟩
              h.buffer rfl
          · have hframes : (a.stored.map (·.raw)).reverse ++ [] = grabbed hist := ha.frames
            rw [grabbed_snoc, ← hframes, List.append_nil]
            rfl
          · exact fun hall => ha.converted (allConverted_snoc.mp hall).1
          · exact fun _ f' hf' => by cases hf'
  | convertPixelType f =>
      obtain rfl := hallow
      have hphase : a.phase = .grabbed f := h.phase
      cases hresult : (c : ConvertResult) with
      | ok =>
          subst hresult
          refine ⟨{ a with
              saveImage := conv.bgr f ++ a.saveImage.drop f.bgrSize
              phase := .converted f true }, .inr ⟨.convert .ok, step_convert_ok hphase hend⟩, ?_, ?_,
            ?_, ?_⟩
          · refine h.other (by simp) (fun hw => by cases hw) ⟨rfl, rfl, rfl⟩ ⟨rfl, rfl, rfl⟩ ?_ rfl
            show conv.bgr f ++ a.saveImage.drop f.bgrSize = conv.bgr f ++ s.saveImage.drop f.bgrSize
            rw [h.buffer]
          · rw [grabbed_snoc]
            exact ha.frames.trans (List.append_nil _).symm
          · exact fun hall => ha.converted (allConverted_snoc.mp hall).1
          · exact fun _ f' hf' => by cases hf'
      | failed left =>
          subst hresult
          refine ⟨{ a with saveImage := left, phase := .converted f false },
            .inr ⟨.convert (.failed left), step_convert_failed hphase⟩, ?_, ?_, ?_, ?_⟩
          · exact h.other (by simp) (fun hw => by cases hw) ⟨rfl, rfl, rfl⟩ ⟨rfl, rfl, rfl⟩ rfl rfl
          · rw [grabbed_snoc]
            exact ha.frames.trans (List.append_nil _).symm
          · exact fun hall => ha.converted (allConverted_snoc.mp hall).1
          · exact fun hall => absurd rfl (allConverted_snoc.mp hall).2
  | lock who =>
      obtain ⟨rfl, f, ok, rfl⟩ := hallow
      exact ⟨a, .inl rfl, h.other (by simp) (fun hw => by cases hw) ⟨rfl, rfl, rfl⟩
        ⟨rfl, rfl, rfl⟩ h.buffer h.phase, ha.keep rfl rfl rfl rfl⟩
  | storeFrame f =>
      obtain ⟨ok, rfl⟩ := hallow
      have hphase : a.phase = .converted f ok := h.phase
      have hout := hc.not_inSection rfl
      refine ⟨a.store f ok, .inr ⟨.store, step_store hphase⟩,
        ⟨h.buffer, ?_, ?_, rfl, h.seen, h.published⟩, ?_, ?_, ?_⟩
      · show (⟨f.nHeight, f.nWidth, a.saveImage.take f.bgrSize⟩ : Mat) = ⟨_, _, _⟩
        rw [h.buffer]
      · show false = flagOf _ m .stored
        rw [flagOf_of_not_took (not_took_of_not_inSection hout), if_pos rfl]
      · have hframes : (a.stored.map (·.raw)).reverse ++ [f] = grabbed hist := ha.frames
        rw [grabbed_snoc, ← hframes]
        simp [CameraState.store, WorkView.next, WorkView.inHand, frameOf]
      · intro hall f' hf'
        obtain ⟨hbefore, -⟩ := allConverted_snoc.mp hall
        rcases List.mem_cons.mp hf' with rfl | hold
        · cases ok with
          | true => rfl
          | false => exact absurd hphase (ha.inHand hbefore f)
        · exact ha.converted hbefore f' hold
      · exact fun _ f' hf' => by cases hf'
  | setFrameEmpty b =>
      obtain ⟨rfl, rfl⟩ := hallow
      have hout := hc.not_inSection rfl
      have htook := not_took_of_not_inSection hout
      refine ⟨a, .inl rfl, ⟨h.buffer, h.frame, ?_, h.phase, ?_, h.published⟩, ha.keep rfl rfl rfl rfl⟩
      · rw [h.flag, flagOf_of_not_took htook, if_pos rfl]
        show false = flagOf _ m .flagged
        rw [flagOf_of_not_took htook, if_neg (by simp)]
        rfl
      · rintro b rfl
        cases hout
  | unlock who =>
      obtain ⟨rfl, rfl⟩ := hallow
      exact ⟨a, .inl rfl, h.other (by simp) (fun hw => by cases hw) ⟨rfl, rfl, rfl⟩
        ⟨rfl, rfl, rfl⟩ h.buffer h.phase, ha.keep rfl rfl rfl rfl⟩
  | endWork =>
      obtain rfl := hallow
      exact ⟨a, .inl rfl, h.other (by simp) (fun hw => by cases hw) ⟨rfl, rfl, rfl⟩
        ⟨rfl, rfl, rfl⟩ h.buffer h.phase, ha.keep rfl rfl rfl rfl⟩
  | enumDevices => exact hallow.elim
  | call call => exact hallow.elim
  | sleepSpin => exact hallow.elim
  | readFrameEmpty => exact hallow.elim
  | cloneFrame => exact hallow.elim
  | publish image => exact hallow.elim
  | joinThread => exact hallow.elim
  | destroyMutex => exact hallow.elim

/-! ## The images -/

/-- A step that reads takes a converted frame when every frame in the mailbox is. -/
theorem images_step (hbox : Mailbox conv a) (hall : ∀ f ∈ a.stored, f.converted = true)
    (himages : ∀ e ∈ a.published, e.Converts conv) (hstep : AtMostOneStep conv a a') :
    ∀ e ∈ a'.published, e.Converts conv := by
  rcases hstep with rfl | ⟨action, hstep⟩
  · exact himages
  · by_cases hread : action = .read
    · subst hread
      obtain rfl := Option.some.inj hstep
      rcases read_cases a with heq | ⟨hfull, hframe, heq⟩
      · rw [heq, readImg_frameEmpty]
        exact himages
      · rw [heq]
        obtain ⟨f, rest, hstored, -, himage, -⟩ := (hbox.full hfull).resolve_left hframe
        have hok : f.converted = true := hall f (hstored ▸ List.mem_cons_self)
        exact List.forall_mem_cons.mpr ⟨⟨f, rest, hstored, himage hok⟩, himages⟩
    · rw [step_published hread hstep]
      exact himages

/-- Of lists that are each a suffix of one list, every one shorter than the one before,
the heads are a sublist of it. -/
theorem heads_sublist {α β γ : Type} {s : α → List β} {φ : α → γ} {ψ : β → γ} {l : List α}
    {all : List β} (hsuffix : ∀ e ∈ l, s e <:+ all)
    (hshorter : l.Pairwise fun e e' => (s e').length < (s e).length)
    (hhead : ∀ e ∈ l, ∃ f rest, s e = f :: rest ∧ φ e = ψ f) :
    (l.map φ).Sublist (all.map ψ) := by
  induction l generalizing all with
  | nil => exact List.nil_sublist _
  | cons e l ih =>
      obtain ⟨f, rest, hseen, hφ⟩ := hhead e List.mem_cons_self
      have hmine : f :: rest <:+ all := hseen ▸ hsuffix e List.mem_cons_self
      rw [List.pairwise_cons] at hshorter
      have hrest : ∀ e' ∈ l, s e' <:+ rest := by
        intro e' he'
        have hlt := hshorter.1 e' he'
        rw [hseen, List.length_cons] at hlt
        have hsub : s e' <:+ f :: rest :=
          List.suffix_of_suffix_length_le (hsuffix e' (List.mem_cons_of_mem _ he')) hmine
            (by rw [List.length_cons]; omega)
        rcases List.suffix_cons_iff.mp hsub with heq | hsub
        · rw [heq, List.length_cons] at hlt
          omega
        · exact hsub
      have htail := ih hrest hshorter.2 fun e' he' => hhead e' (List.mem_cons_of_mem _ he')
      rw [List.map_cons, hφ]
      exact (htail.cons_cons (ψ f)).trans (hmine.sublist.map ψ)

/-! ## Runs -/

variable {camera_ip : List Char} {f : Settings} {n k : Nat} {garbage : List UInt8}
  {P : Pool cameraSig Shared SelectError Unit Caller}

/-- The mailbox can do what it likes. -/
abbrev Mailboxed (conv : PixelConverter) (garbage : List UInt8) (a : CameraState) : Prop :=
  Reach (CameraState.step conv) (fun _ _ => True) (.init garbage) a

theorem Mailboxed.step (h : Mailboxed conv garbage a) (hstep : AtMostOneStep conv a a') :
    Mailboxed conv garbage a' := by
  rcases hstep with rfl | ⟨action, hstep⟩
  · exact h
  · exact h.tail action trivial hstep

theorem Mailboxed.mailbox (h : Mailboxed conv garbage a) : Mailbox conv a :=
  h.invariant mailbox_init fun _ _ _ h _ hstep => h.step hstep

/-- The threads, the mailbox behind them and what happened so far. -/
structure Simulated (conv : PixelConverter) (garbage : List UInt8)
    (hist : Pool.History cameraSig Caller) (s : Shared) (m : MainView) (w : WorkView)
    (a : CameraState) : Prop where
  coupled : Coupled s m w
  linked : Linked s m w a
  accounted : Accounted hist w a
  mailboxed : Mailboxed conv garbage a
  images : AllConverted hist → ∀ e ∈ a.published, e.Converts conv

theorem Simulated.images_snoc (h : Simulated conv garbage hist s m w a)
    (hstep : AtMostOneStep conv a a') :
    AllConverted (hist ++ [e]) → ∀ e ∈ a'.published, e.Converts conv := by
  intro hall
  obtain ⟨hbefore, -⟩ := allConverted_snoc.mp hall
  exact images_step h.mailboxed.mailbox (h.accounted.converted hbefore) (h.images hbefore) hstep

theorem Simulated.main (h : Simulated conv garbage hist s m w a) {o : CameraOp} {c : o.Choice}
    (hend : CanEnd s o c) (hallow : m.Allows o) :
    ∃ a', Simulated conv garbage (hist ++ [(.main, ⟨o, (cameraExec conv s o c).1⟩)])
      (cameraExec conv s o c).2 (m.next o (cameraExec conv s o c).1) w a' := by
  obtain ⟨a', hstep, hlinked, hstored, hphase⟩ := h.linked.main conv h.coupled c hallow
  have hnothing : frameOf ⟨o, (cameraExec conv s o c).1⟩ = [] := by
    cases o <;> first | rfl | exact hallow.elim
  exact ⟨a', h.coupled.main hend hallow, hlinked, h.accounted.keep hnothing rfl hstored hphase,
    h.mailboxed.step hstep, h.images_snoc hstep⟩

theorem Simulated.work (h : Simulated conv garbage hist s m w a) {o : CameraOp} {c : o.Choice}
    (hend : CanEnd s o c) (hallow : w.Allows o) :
    ∃ a', Simulated conv garbage (hist ++ [(.worker, ⟨o, (cameraExec conv s o c).1⟩)])
      (cameraExec conv s o c).2 m (w.next o (cameraExec conv s o c).1) a' := by
  obtain ⟨a', hstep, hlinked, haccounted⟩ := h.linked.work conv h.coupled h.accounted hend hallow
  exact ⟨a', h.coupled.work hend hallow, hlinked, haccounted, h.mailboxed.step hstep,
    h.images_snoc hstep⟩

/-- **Run.** Behind every run of the threads is a run of the mailbox. -/
theorem run_simulated
    (hrun : Pool.Run (cameraNode conv) (blocking conv) (cameraPool camera_ip f n k garbage)
      hist P) :
    ∃ m w a, Simulated conv garbage hist P.shared m w a := by
  let I (hist : Pool.History cameraSig Caller) (s : Shared) (ℓ : Caller → View) : Prop :=
    ∃ m w a, ℓ .main = .inl m ∧ ℓ .worker = .inr w ∧ Simulated conv garbage hist s m w a
  have hstart : I [] (cameraPool camera_ip f n k garbage).shared startViews := by
    refine ⟨.fresh, .waiting, .init garbage, rfl, rfl, coupled_init garbage, ?_, ?_, .refl, ?_⟩
    · exact ⟨rfl, rfl, rfl, rfl, fun b hb => (by cases hb), rfl⟩
    · exact ⟨rfl, fun _ f hf => absurd hf List.not_mem_nil, fun _ f hf => by cases hf⟩
    · exact fun _ e he => absurd he List.not_mem_nil
  have hall := (hrun.runWith (C := fun _ _ _ => True) fun _ _ _ => trivial).invariant_history
    (I := I) hstart thread_allowed ?_
  · obtain ⟨m, w, a, -, -, h⟩ := hall
    exact ⟨m, w, a, h⟩
  · rintro hist P ℓ i o c ⟨m, w, a, hm, hw, h⟩ - - hend hallow
    cases i with
    | main =>
        rw [hm] at hallow ⊢
        obtain ⟨a', h'⟩ := h.main hend hallow
        refine ⟨_, w, a', Function.update_self _ _ _, ?_, h'⟩
        rw [Function.update_of_ne (by simp), hw]
    | worker =>
        rw [hw] at hallow ⊢
        obtain ⟨a', h'⟩ := h.work hend hallow
        refine ⟨m, _, a', ?_, Function.update_self _ _ _, h'⟩
        rw [Function.update_of_ne (by simp), hm]

/-- **The images of the publisher.** For every parameter, every number of rounds and
every interleaving of the two threads, whatever the calls return: the images given to
the publisher are images of a run of the mailbox; their sizes are the sizes of frames the
camera gave, in the order of the frames and each frame once at most; and the images are
the conversions of these frames, when no conversion failed. -/
theorem images_sublist
    (hrun : Pool.Run (cameraNode conv) (blocking conv) (cameraPool camera_ip f n k garbage)
      hist P) :
    (∃ a, Mailboxed conv garbage a ∧ P.shared.published <:+ a.published.map (·.image)) ∧
    (P.shared.published.reverse.map fun image => (image.rows, image.cols)).Sublist
      ((grabbed hist).map fun f => (f.nHeight, f.nWidth)) ∧
    (AllConverted hist → P.shared.published.reverse.Sublist ((grabbed hist).map conv.image)) := by
  obtain ⟨m, w, a, h⟩ := run_simulated hrun
  have hnumbered := h.mailboxed.mailbox.numbered
  have hpublished : P.shared.published <:+ a.published.map (·.image) :=
    ⟨m.inFlight, h.linked.published.symm⟩
  have hstored : (a.stored.map (·.raw)).reverse <+: grabbed hist :=
    ⟨w.inHand, h.accounted.frames⟩
  -- a sublist of the mailbox's frames, newest first, is one of the grabbed ones, oldest first
  have horder : ∀ {β : Type} (φ : Mat → β) (ψ : RawFrame → β),
      (a.published.map fun e => φ e.image).Sublist (a.stored.map fun f => ψ f.raw) →
      (P.shared.published.reverse.map φ).Sublist ((grabbed hist).map ψ) := by
    intro β φ ψ hsub
    have himages : (P.shared.published.map φ).Sublist (a.published.map fun e => φ e.image) := by
      have hmap := hpublished.sublist.map φ
      rwa [List.map_map] at hmap
    have hframes : ((a.stored.map fun f => ψ f.raw).reverse).Sublist ((grabbed hist).map ψ) := by
      have hmap := hstored.sublist.map ψ
      rwa [List.map_reverse, List.map_map] at hmap
    rw [List.map_reverse]
    exact (himages.trans hsub).reverse.trans hframes
  refine ⟨⟨a, h.mailboxed, hpublished⟩, ?_, fun hall => ?_⟩
  · refine horder (fun image => (image.rows, image.cols)) (fun f => (f.nHeight, f.nWidth)) ?_
    refine heads_sublist (s := Published.seen) hnumbered.suffix hnumbered.newer fun e he => ?_
    obtain ⟨f, rest, hseen, hrows, hcols⟩ := hnumbered.sized e he
    exact ⟨f, rest, hseen, by rw [hrows, hcols]⟩
  · have himages := horder id conv.image
      (heads_sublist (s := Published.seen) hnumbered.suffix hnumbered.newer (h.images hall))
    rwa [List.map_id] at himages

instance decidableFailedConversion : (e : Event cameraSig) → Decidable (FailedConversion e)
  | ⟨.convertPixelType _, ok⟩ => inferInstanceAs (Decidable ((ok : Bool) = false))
  | ⟨.enumDevices, _⟩ | ⟨.call _, _⟩ | ⟨.rosOk, _⟩ | ⟨.sleepSpin, _⟩ | ⟨.lock _, _⟩
  | ⟨.unlock _, _⟩ | ⟨.readFrameEmpty, _⟩ | ⟨.setFrameEmpty _, _⟩ | ⟨.cloneFrame, _⟩
  | ⟨.storeFrame _, _⟩ | ⟨.publish _, _⟩ | ⟨.getOneFrame, _⟩ | ⟨.beginWork, _⟩ | ⟨.endWork, _⟩
  | ⟨.joinThread, _⟩ | ⟨.destroyMutex, _⟩ => inferInstanceAs (Decidable False)

/-- `images_sublist` for the three frames, of which the first is never read. -/
theorem images_sublist_threeFrames :
    threeFrames.2.shared.published.reverse =
      [onePixel 2, onePixel 3].map copying.image ∧
    threeFrames.2.shared.published.reverse.Sublist ((grabbed threeFrames.1).map copying.image) := by
  have hall : AllConverted threeFrames.1 := by
    unfold AllConverted
    decide +kernel
  exact ⟨by decide +kernel, (images_sublist threeFrames_run).2.2 hall⟩

end HakRobot.Camera
