import HakRobot.Camera.Threads

/-!
# The views of the two threads

Neither thread tests whether the handle is open or the mutex there: the order of the
constructor, the loops and the destructor has to see to it. Each thread is followed
through its own events (`MainView`, `WorkView`), and `Coupled` says what the shared
variables are for a pair of views.

* `mainThread_follows`, `hkWorkThread_follows` — what each thread does in which view,
  whatever the calls return;
* `Coupled.main`, `Coupled.work` — an operation of either thread keeps the coupling;
* `run_coupled` — so a run of both keeps it.
-/

namespace HakRobot.Camera

open HakRobot.Proc

/-! ## Views -/

/-- Where the main thread is. -/
inductive MainView
  | fresh
  | created
  | opened
  | grabbing
  | armed
  | looping
  | locked
  | seen (frameEmpty : Bool)
  | took (image : Mat)
  | marked (image : Mat)
  | carrying (image : Mat)
  | joined
  | stopped
  | closed
  | destroyed
  | over
deriving DecidableEq

/-- Where the worker thread is; `ok` says whether the conversion succeeded. -/
inductive WorkView
  | waiting
  | idle
  | grabbed (f : RawFrame)
  | converted (f : RawFrame) (ok : Bool)
  | locked (f : RawFrame) (ok : Bool)
  | stored
  | flagged
  | ended
deriving DecidableEq

/-- The view a call of the main thread is made in. -/
def StatusCall.before : StatusCall → MainView
  | .createHandle _ => .fresh
  | .openDevice => .created
  | .setValue _ => .opened
  | .getPixelFormat => .opened
  | .startGrabbing => .opened
  | .mutexInit => .grabbing
  | .createThread => .armed
  | .stopGrabbing => .joined
  | .closeDevice => .stopped
  | .destroyHandle => .closed

/-- And the view it leads to when its status is `MV_OK`. -/
def StatusCall.after : StatusCall → MainView
  | .createHandle _ => .created
  | .openDevice => .opened
  | .setValue _ => .opened
  | .getPixelFormat => .opened
  | .startGrabbing => .grabbing
  | .mutexInit => .armed
  | .createThread => .looping
  | .stopGrabbing => .stopped
  | .closeDevice => .closed
  | .destroyHandle => .destroyed

/-- After `ReadImg`. -/
def MainView.unlocked : MainView → MainView
  | .marked image => if image.empty then .looping else .carrying image
  | _ => .looping

def MainView.next (v : MainView) : (o : CameraOp) → o.Res → MainView
  | .call c, nRet => if nRet = MV_OK then c.after else v
  | .lock _, _ => .locked
  | .readFrameEmpty, b => .seen b
  | .cloneFrame, image => .took image
  | .setFrameEmpty _, _ => match v with
    | .took image => .marked image
    | v => v
  | .unlock _, _ => v.unlocked
  | .publish _, _ => .looping
  | .joinThread, _ => .joined
  | .destroyMutex, _ => .over
  | _, _ => v

/-- What the main thread does in which view. -/
def MainView.Allows (v : MainView) : CameraOp → Prop
  | .enumDevices => v = .fresh
  | .call c => v = c.before
  | .rosOk | .sleepSpin => v = .looping
  | .lock who => who = .main ∧ v = .looping
  | .readFrameEmpty => v = .locked
  | .cloneFrame => v = .seen false
  | .setFrameEmpty b => b = true ∧ ∃ image, v = .took image
  | .unlock who => who = .main ∧ (v = .seen true ∨ ∃ image, v = .marked image)
  | .publish image => v = .carrying image
  | .joinThread => v = .looping
  | .destroyMutex => v = .destroyed
  | .storeFrame _ | .getOneFrame | .convertPixelType _ | .beginWork | .endWork => False

def WorkView.next (v : WorkView) : (o : CameraOp) → o.Res → WorkView
  | .beginWork, _ => .idle
  | .getOneFrame, some f => .grabbed f
  | .convertPixelType f, ok => .converted f ok
  | .lock _, _ => match v with
    | .converted f ok => .locked f ok
    | v => v
  | .storeFrame _, _ => .stored
  | .setFrameEmpty _, _ => .flagged
  | .unlock _, _ => .idle
  | .endWork, _ => .ended
  | _, _ => v

/-- What the worker thread does in which view. -/
def WorkView.Allows (v : WorkView) : CameraOp → Prop
  | .beginWork => v = .waiting
  | .rosOk | .getOneFrame => v = .idle
  | .convertPixelType f => v = .grabbed f
  | .lock who => who = .worker ∧ ∃ f ok, v = .converted f ok
  | .storeFrame f => ∃ ok, v = .locked f ok
  | .setFrameEmpty b => b = false ∧ v = .stored
  | .unlock who => who = .worker ∧ v = .flagged
  | .endWork => v = .idle
  | .enumDevices | .call _ | .sleepSpin | .readFrameEmpty | .cloneFrame | .publish _
  | .joinThread | .destroyMutex => False

abbrev View := MainView ⊕ WorkView

def View.next (v : View) (o : CameraOp) (r : o.Res) : View :=
  match v with
  | .inl m => .inl (m.next o r)
  | .inr w => .inr (w.next o r)

def View.Allows : View → CameraOp → Prop
  | .inl m => m.Allows
  | .inr w => w.Allows

/-! ## The threads in their views -/

/-- From view `v`, `p` does only what its views allow, and ends in `Q` or, when the
process exits, in `E`. -/
abbrev Follows {α : Type} (p : Code α) (Q : α → View → Prop) (E : View → Prop) (v : View) :
    Prop :=
  (Machine.monitor cameraSig View.next).wp (Machine.anyChoice _) View.Allows p Q (fun _ => E) v

/-- The views in which the process can exit. -/
def MainView.exits : MainView → Bool
  | .fresh | .created | .opened | .grabbing | .armed | .joined | .stopped | .closed => true
  | _ => false

def Exits (v : View) : Prop := ∃ m : MainView, v = .inl m ∧ m.exits = true

theorem before_exits (c : StatusCall) : c.before.exits = true := by
  cases c <;> rfl

theorem must_follows (c : StatusCall) :
    Follows (must c) (fun _ v => v = .inl c.after) Exits (.inl c.before) := by
  refine ⟨rfl, fun (nRet : Int32) _ => ?_⟩
  show Follows (if nRet ≠ MV_OK then .raise .exit else .ret ()) _ _
    (.inl (if nRet = MV_OK then c.after else c.before))
  by_cases hok : nRet = MV_OK
  · simp only [hok, ne_eq, not_true_eq_false, if_true, if_false]
    rfl
  · simp only [hok, ne_eq, not_false_eq_true, if_true, if_false]
    exact ⟨c.before, rfl, before_exits c⟩

theorem attempt_follows {c : StatusCall} (hc : c.after = c.before) :
    Follows (attempt c) (fun _ v => v = .inl c.before) Exits (.inl c.before) := by
  refine ⟨rfl, fun (nRet : Int32) _ => ?_⟩
  show (.inl (if nRet = MV_OK then c.after else c.before) : View) = .inl c.before
  rw [hc, ite_self]

theorem configure_follows (f : Settings) :
    Follows (configure f) (fun _ v => v = .inl .opened) Exits (.inl .opened) := by
  have hcalls : Follows (Prog.forEach (fun call => attempt (.setValue call)) f.constructorCalls)
      (fun _ v => v = .inl .opened) Exits (.inl .opened) := by
    refine Machine.wp_forEach (I := (· = (.inl .opened : View))) ?_ _ rfl
    rintro call _ rfl
    exact attempt_follows (c := .setValue call) rfl
  refine Machine.wp_seq hcalls ?_ fun _ _ he => he
  rintro - _ rfl
  exact attempt_follows (c := .getPixelFormat) rfl

/-- A call after whose failure the process exits, and the code after it. -/
theorem must_then {α : Type} (c : StatusCall) {k : Unit → Code α} {Q : α → View → Prop}
    (hk : Follows (k ()) Q Exits (.inl c.after)) :
    Follows ((must c).bind k) Q Exits (.inl c.before) := by
  refine Machine.wp_seq (must_follows c) ?_ fun _ _ he => he
  rintro ⟨⟩ _ rfl
  exact hk

theorem constructor_follows (camera_ip : List Char) (f : Settings) :
    Follows (constructor camera_ip f) (fun _ v => v = .inl .looping) Exits (.inl .fresh) := by
  have hexits : Exits (.inl .fresh) := ⟨.fresh, rfl, rfl⟩
  refine ⟨rfl, fun (found : Option (List (Option DeviceInfo))) _ => ?_⟩
  cases found with
  | none => exact hexits
  | some devices =>
      show Follows (Prog.bind (Prog.ofExcept (selectDevice camera_ip devices)) _) _ _ (.inl .fresh)
      cases selectDevice camera_ip devices with
      | error e => exact hexits
      | ok nIndex =>
          refine must_then (.createHandle nIndex) (must_then .openDevice ?_)
          refine Machine.wp_seq (configure_follows f) ?_ fun _ _ he => he
          rintro - _ rfl
          exact must_then .startGrabbing (must_then .mutexInit (must_follows .createThread))

theorem destructor_follows :
    Follows destructor (fun _ v => v = .inl .over) Exits (.inl .looping) := by
  refine ⟨rfl, fun _ _ => ?_⟩
  refine must_then .stopGrabbing (must_then .closeDevice (must_then .destroyHandle ?_))
  exact ⟨rfl, fun _ _ => rfl⟩

theorem readImg_follows :
    Follows readImg
      (fun image v => v = .inl (if image.empty then .looping else .carrying image)) Exits
      (.inl .looping) := by
  refine ⟨⟨rfl, rfl⟩, fun _ _ => ⟨rfl, fun (frameEmpty : Bool) _ => ?_⟩⟩
  cases frameEmpty with
  | true => exact ⟨⟨rfl, .inl rfl⟩, fun _ _ => rfl⟩
  | false =>
      refine ⟨rfl, fun (image : Mat) _ => ⟨⟨rfl, image, rfl⟩, fun _ _ => ?_⟩⟩
      exact ⟨⟨rfl, .inr ⟨image, rfl⟩⟩, fun _ _ => rfl⟩

theorem mainLoop_follows (n : Nat) :
    Follows (mainLoop n) (fun _ v => v = .inl .looping) Exits (.inl .looping) := by
  induction n with
  | zero => exact rfl
  | succ n ih =>
      refine ⟨rfl, fun (ok : Bool) _ => ?_⟩
      cases ok with
      | false => exact rfl
      | true =>
          refine ⟨rfl, fun _ _ => ?_⟩
          show Follows (Prog.bind readImg _) _ _ (.inl .looping)
          refine Machine.wp_seq readImg_follows ?_ fun _ _ he => he
          rintro src _ rfl
          by_cases hempty : src.empty = true
          · simp only [hempty, if_true]
            exact ih
          · simp only [hempty]
            exact ⟨rfl, fun _ _ => ih⟩

/-- **The main thread**, for every list of devices and every status. -/
theorem mainThread_follows (camera_ip : List Char) (f : Settings) (n : Nat) :
    Follows (mainThread camera_ip f n) (fun _ v => v = .inl .over) Exits (.inl .fresh) := by
  refine Machine.wp_seq (constructor_follows camera_ip f) ?_ fun _ _ he => he
  rintro - _ rfl
  refine Machine.wp_seq (mainLoop_follows n) ?_ fun _ _ he => he
  rintro - _ rfl
  exact destructor_follows

theorem workLoop_follows (m : Nat) :
    Follows (workLoop m) (fun _ v => v = .inr .idle) Exits (.inr .idle) := by
  induction m with
  | zero => exact rfl
  | succ m ih =>
      refine ⟨rfl, fun (ok : Bool) _ => ?_⟩
      cases ok with
      | false => exact rfl
      | true =>
          refine ⟨rfl, fun (frame : Option RawFrame) _ => ?_⟩
          cases frame with
          | none => exact ih
          | some f =>
              refine ⟨rfl, fun (ok : Bool) _ => ⟨⟨rfl, f, ok, rfl⟩, fun _ _ => ⟨⟨ok, rfl⟩, ?_⟩⟩⟩
              exact fun _ _ => ⟨⟨rfl, rfl⟩, fun _ _ => ⟨⟨rfl, rfl⟩, fun _ _ => ih⟩⟩

/-- **The worker thread**, for every frame and every outcome of a conversion. -/
theorem hkWorkThread_follows (m : Nat) :
    Follows (hkWorkThread m) (fun _ v => v = .inr .ended) Exits (.inr .waiting) := by
  refine ⟨rfl, fun _ _ => ?_⟩
  show Follows (Prog.bind (workLoop m) _) _ _ (.inr .idle)
  refine Machine.wp_seq (workLoop_follows m) ?_ fun _ _ he => he
  rintro - _ rfl
  exact ⟨rfl, fun _ _ => rfl⟩

/-! ## What the shared variables are -/

/-- The handle in each view of the main thread. -/
def MainView.handle : MainView → HandleState
  | .fresh => .null
  | .created => .created
  | .opened => .opened
  | .stopped => .opened
  | .closed => .created
  | .destroyed | .over => .destroyed
  | .grabbing | .armed | .looping | .locked | .seen _ | .took _ | .marked _ | .carrying _
  | .joined => .grabbing

/-- Before the worker thread is created. -/
def MainView.early : MainView → Bool
  | .fresh | .created | .opened | .grabbing | .armed => true
  | _ => false

/-- After it was joined. -/
def MainView.late : MainView → Bool
  | .joined | .stopped | .closed | .destroyed | .over => true
  | _ => false

/-- Between `pthread_mutex_lock` and `pthread_mutex_unlock`. -/
def MainView.inSection : MainView → Bool
  | .locked | .seen _ | .took _ | .marked _ => true
  | _ => false

def WorkView.inSection : WorkView → Bool
  | .locked _ _ | .stored | .flagged => true
  | _ => false

def mutexOf (m : MainView) (w : WorkView) : MutexState :=
  match m with
  | .fresh | .created | .opened | .grabbing => .raw
  | .over => .destroyed
  | m => if m.inSection then .held .main else if w.inSection then .held .worker else .free

def workerOf (m : MainView) (w : WorkView) : WorkerState :=
  if m.early then .notCreated else if w = .ended then .ended else .running

/-- The shared variables for a pair of views. -/
structure Coupled (s : Shared) (m : MainView) (w : WorkView) : Prop where
  handle : s.handle = m.handle
  mutex : s.mutex = mutexOf m w
  worker : s.worker = workerOf m w
  early : m.early = true → w = .waiting
  late : m.late = true → w = .ended
  apart : m.inSection = true → w.inSection = false

variable {s : Shared} {m : MainView} {w : WorkView} {conv : PixelConverter}

theorem coupled_init (garbage : List UInt8) : Coupled (.init garbage) .fresh .waiting :=
  ⟨rfl, rfl, rfl, fun _ => rfl, fun h => absurd h Bool.false_ne_true, fun _ => rfl⟩

/-- A call of the main thread that succeeds. -/
theorem Coupled.call {c : StatusCall} (h : Coupled s c.before w) :
    Coupled (c.effect s) c.after w := by
  have hmutex := h.mutex
  have hworker := h.worker
  have hearly := h.early
  have hlate := h.late
  cases c with
  | createHandle nIndex => exact ⟨rfl, hmutex, hworker, hearly, hlate, h.apart⟩
  | openDevice => exact ⟨rfl, hmutex, hworker, hearly, hlate, h.apart⟩
  | setValue call => exact h
  | getPixelFormat => exact h
  | startGrabbing => exact ⟨rfl, hmutex, hworker, hearly, hlate, h.apart⟩
  | mutexInit =>
      obtain rfl := hearly rfl
      exact ⟨h.handle, rfl, hworker, fun _ => rfl, hlate, fun _ => rfl⟩
  | createThread =>
      obtain rfl := hearly rfl
      exact ⟨h.handle, hmutex, rfl, fun _ => rfl, fun hl => absurd hl Bool.false_ne_true,
        fun _ => rfl⟩
  | stopGrabbing =>
      obtain rfl := hlate rfl
      exact ⟨rfl, hmutex, hworker, hearly, fun _ => rfl, fun _ => rfl⟩
  | closeDevice =>
      obtain rfl := hlate rfl
      exact ⟨rfl, hmutex, hworker, hearly, fun _ => rfl, fun _ => rfl⟩
  | destroyHandle =>
      obtain rfl := hlate rfl
      exact ⟨rfl, hmutex, hworker, hearly, fun _ => rfl, fun _ => rfl⟩

/-- The main thread is in its loop, with or without the mutex. -/
def MainView.Busy (m : MainView) : Prop := m.early = false ∧ m.late = false

/-- Another view inside the loop, with the mutex it says. -/
theorem Coupled.within {t : Shared} {m' : MainView} (h : Coupled s m w) (hm : m.Busy)
    (hm' : m'.Busy) (hhandle : t.handle = s.handle) (hworker : t.worker = s.worker)
    (hmutex : t.mutex = mutexOf m' w) (hapart : m'.inSection = true → w.inSection = false) :
    Coupled t m' w := by
  have hsame : m'.handle = m.handle := by
    obtain ⟨he, hl⟩ := hm
    obtain ⟨he', hl'⟩ := hm'
    cases m <;> cases he <;> cases hl <;> cases m' <;> cases he' <;> cases hl' <;> rfl
  refine ⟨?_, hmutex, ?_, ?_, ?_, hapart⟩
  · rw [hhandle, h.handle, hsame]
  · rw [hworker, h.worker, workerOf, workerOf, hm.1, hm'.1]
  · exact fun he => absurd (hm'.1.symm.trans he) Bool.false_ne_true
  · exact fun hl => absurd (hm'.2.symm.trans hl) Bool.false_ne_true

theorem unlocked_busy (m : MainView) : m.unlocked.Busy ∧ m.unlocked.inSection = false := by
  unfold MainView.unlocked
  split
  · split
    · exact ⟨⟨rfl, rfl⟩, rfl⟩
    · exact ⟨⟨rfl, rfl⟩, rfl⟩
  · exact ⟨⟨rfl, rfl⟩, rfl⟩

/-- The mutex while the main thread is in its loop. -/
theorem mutexOf_busy (hm : m.Busy) : mutexOf m w =
    if m.inSection then .held .main else if w.inSection then .held .worker else .free := by
  obtain ⟨he, hl⟩ := hm
  cases m <;> cases he <;> cases hl <;> rfl

/-- **Step of the main thread.** -/
theorem Coupled.main (h : Coupled s m w) {o : CameraOp} {c : o.Choice} (hend : CanEnd s o c)
    (hallow : m.Allows o) :
    Coupled (cameraExec conv s o c).2 (m.next o (cameraExec conv s o c).1) w := by
  cases o with
  | enumDevices => exact h
  | rosOk => exact h
  | sleepSpin => exact h
  | call call =>
      obtain rfl : m = call.before := hallow
      show Coupled (if (c : Int32) = MV_OK then call.effect s else s)
        (if (c : Int32) = MV_OK then call.after else call.before) w
      by_cases hok : (c : Int32) = MV_OK
      · rw [if_pos hok, if_pos hok]
        exact h.call
      · rw [if_neg hok, if_neg hok]
        exact h
  | lock who =>
      obtain ⟨rfl, rfl⟩ := hallow
      have hfree : w.inSection = false := by
        cases hw : w.inSection with
        | false => rfl
        | true =>
            refine absurd ?_ (hend .worker)
            rw [h.mutex, mutexOf_busy ⟨rfl, rfl⟩, hw]
            rfl
      exact h.within ⟨rfl, rfl⟩ ⟨rfl, rfl⟩ rfl rfl rfl fun _ => hfree
  | readFrameEmpty =>
      obtain rfl := hallow
      exact h.within ⟨rfl, rfl⟩ ⟨rfl, rfl⟩ rfl rfl h.mutex fun _ => h.apart rfl
  | cloneFrame =>
      obtain rfl := hallow
      exact h.within ⟨rfl, rfl⟩ ⟨rfl, rfl⟩ rfl rfl h.mutex fun _ => h.apart rfl
  | setFrameEmpty b =>
      obtain ⟨rfl, image, rfl⟩ := hallow
      exact h.within ⟨rfl, rfl⟩ ⟨rfl, rfl⟩ rfl rfl h.mutex fun _ => h.apart rfl
  | unlock who =>
      obtain ⟨hbusy, hout⟩ := unlocked_busy m
      have hin : m.Busy ∧ m.inSection = true := by
        obtain ⟨-, rfl | ⟨image, rfl⟩⟩ := hallow
        · exact ⟨⟨rfl, rfl⟩, rfl⟩
        · exact ⟨⟨rfl, rfl⟩, rfl⟩
      refine h.within hin.1 hbusy rfl rfl ?_ fun hin' =>
        absurd (hout.symm.trans hin') Bool.false_ne_true
      show MutexState.free = mutexOf m.unlocked w
      rw [mutexOf_busy hbusy, hout, h.apart hin.2]
      rfl
  | publish image =>
      obtain rfl := hallow
      exact h.within ⟨rfl, rfl⟩ ⟨rfl, rfl⟩ rfl rfl h.mutex fun hin => absurd hin Bool.false_ne_true
  | joinThread =>
      obtain rfl := hallow
      have hended : w = .ended := by
        by_contra hw
        refine hend ?_
        rw [h.worker, workerOf, if_neg hw]
        rfl
      subst hended
      exact ⟨h.handle, h.mutex, h.worker, fun he => absurd he Bool.false_ne_true, fun _ => rfl,
        fun _ => rfl⟩
  | destroyMutex =>
      obtain rfl := hallow
      obtain rfl := h.late rfl
      exact ⟨h.handle, rfl, h.worker, fun he => absurd he Bool.false_ne_true, fun _ => rfl,
        fun _ => rfl⟩
  | storeFrame f => exact hallow.elim
  | getOneFrame => exact hallow.elim
  | convertPixelType f => exact hallow.elim
  | beginWork => exact hallow.elim
  | endWork => exact hallow.elim

/-- A worker thread that runs finds the main thread in its loop. -/
theorem Coupled.busy (h : Coupled s m w) (hw : w ≠ .waiting) (hw' : w ≠ .ended) : m.Busy := by
  refine ⟨?_, ?_⟩
  · cases he : m.early with
    | false => rfl
    | true => exact absurd (h.early he) hw
  · cases hl : m.late with
    | false => rfl
    | true => exact absurd (h.late hl) hw'

/-- Another view of the worker thread, while the main thread is in its loop. -/
theorem Coupled.working {t : Shared} {w' : WorkView} (h : Coupled s m w) (hm : m.Busy)
    (hhandle : t.handle = s.handle) (hworker : t.worker = if w' = .ended then .ended else .running)
    (hmutex : t.mutex = mutexOf m w') (hapart : m.inSection = true → w'.inSection = false) :
    Coupled t m w' := by
  refine ⟨hhandle.trans h.handle, hmutex, ?_, ?_, ?_, hapart⟩
  · rw [hworker, workerOf, hm.1]
    rfl
  · exact fun he => absurd (hm.1.symm.trans he) Bool.false_ne_true
  · exact fun hl => absurd (hm.2.symm.trans hl) Bool.false_ne_true

theorem Coupled.running (h : Coupled s m w) (hm : m.Busy) (hw : w ≠ .ended) :
    s.worker = .running := by
  rw [h.worker, workerOf, hm.1, if_neg hw]
  rfl

/-- The mutex is the same for two views of the worker thread that both have it or both
do not. -/
theorem mutexOf_congr {w' : WorkView} (hm : m.Busy) (hw : w.inSection = w'.inSection) :
    mutexOf m w = mutexOf m w' := by
  rw [mutexOf_busy hm, mutexOf_busy hm, hw]

/-- **Step of the worker thread.** -/
theorem Coupled.work (h : Coupled s m w) {o : CameraOp} {c : o.Choice} (hend : CanEnd s o c)
    (hallow : w.Allows o) :
    Coupled (cameraExec conv s o c).2 m (w.next o (cameraExec conv s o c).1) := by
  cases o with
  | beginWork =>
      obtain rfl := hallow
      have hrunning : s.worker = .running := hend
      have hm : m.Busy := by
        refine ⟨?_, ?_⟩
        · cases he : m.early with
          | false => rfl
          | true =>
              rw [h.worker, workerOf, he] at hrunning
              cases hrunning
        · cases hl : m.late with
          | false => rfl
          | true => cases h.late hl
      exact h.working hm rfl hrunning (h.mutex.trans (mutexOf_congr hm rfl)) fun _ => rfl
  | rosOk => exact h
  | getOneFrame =>
      obtain rfl := hallow
      have hm := h.busy (by simp) (by simp)
      cases (c : Option RawFrame) with
      | none => exact h
      | some f =>
          exact h.working hm rfl (h.running hm (by simp)) (h.mutex.trans (mutexOf_congr hm rfl))
            fun _ => rfl
  | convertPixelType f =>
      obtain rfl := hallow
      have hm := h.busy (by simp) (by simp)
      have hrunning := h.running hm (by simp)
      have hmutex : ∀ ok, s.mutex = mutexOf m (.converted f ok) := fun ok =>
        h.mutex.trans (mutexOf_congr hm rfl)
      cases (c : ConvertResult) with
      | ok => exact h.working hm rfl hrunning (hmutex true) fun _ => rfl
      | failed left => exact h.working hm rfl hrunning (hmutex false) fun _ => rfl
  | lock who =>
      obtain ⟨rfl, f, ok, rfl⟩ := hallow
      have hm := h.busy (by simp) (by simp)
      have hfree : m.inSection = false := by
        cases hin : m.inSection with
        | false => rfl
        | true =>
            refine absurd ?_ (hend .main)
            rw [h.mutex, mutexOf_busy hm, hin]
            rfl
      refine h.working hm rfl (h.running hm (by simp)) ?_ fun hin =>
        absurd (hfree.symm.trans hin) Bool.false_ne_true
      rw [mutexOf_busy hm, hfree]
      rfl
  | storeFrame f =>
      obtain ⟨ok, rfl⟩ := hallow
      have hm := h.busy (by simp) (by simp)
      refine h.working hm rfl (h.running hm (by simp)) (h.mutex.trans (mutexOf_congr hm rfl)) ?_
      exact fun hin => absurd (h.apart hin) (by simp [WorkView.inSection])
  | setFrameEmpty b =>
      obtain ⟨rfl, rfl⟩ := hallow
      have hm := h.busy (by simp) (by simp)
      refine h.working hm rfl (h.running hm (by simp)) (h.mutex.trans (mutexOf_congr hm rfl)) ?_
      exact fun hin => absurd (h.apart hin) (by simp [WorkView.inSection])
  | unlock who =>
      obtain ⟨rfl, rfl⟩ := hallow
      have hm := h.busy (by simp) (by simp)
      have hout : m.inSection = false := by
        cases hin : m.inSection with
        | false => rfl
        | true => exact absurd (h.apart hin) (by simp [WorkView.inSection])
      refine h.working hm rfl (h.running hm (by simp)) ?_ fun _ => rfl
      rw [mutexOf_busy hm, hout]
      rfl
  | endWork =>
      obtain rfl := hallow
      have hm := h.busy (by simp) (by simp)
      exact h.working hm rfl rfl (h.mutex.trans (mutexOf_congr hm rfl)) fun _ => rfl
  | enumDevices => exact hallow.elim
  | call call => exact hallow.elim
  | sleepSpin => exact hallow.elim
  | readFrameEmpty => exact hallow.elim
  | cloneFrame => exact hallow.elim
  | publish image => exact hallow.elim
  | joinThread => exact hallow.elim
  | destroyMutex => exact hallow.elim

/-! ## Runs -/

/-- The views at the start. -/
def startViews : Caller → View
  | .main => .inl .fresh
  | .worker => .inr .waiting

variable {camera_ip : List Char} {f : Settings} {n k : Nat} {garbage : List UInt8}
  {hist : Pool.History cameraSig Caller} {P : Pool cameraSig Shared SelectError Unit Caller}

theorem thread_allowed (i : Caller) :
    Follows ((cameraPool camera_ip f n k garbage).thread i) (fun _ _ => True) (fun _ => True)
      (startViews i) := by
  cases i with
  | main =>
      exact Machine.wp_mono (fun _ _ _ => trivial) (fun _ _ _ => trivial)
        (mainThread_follows camera_ip f n)
  | worker =>
      exact Machine.wp_mono (fun _ _ _ => trivial) (fun _ _ _ => trivial) (hkWorkThread_follows k)

/-- **Run.** The shared variables are coupled to the views, and what is left of each
thread follows its view. -/
theorem run_coupled
    (hrun : Pool.Run (cameraNode conv) (blocking conv) (cameraPool camera_ip f n k garbage)
      hist P) :
    ∃ m w, Coupled P.shared m w ∧
      Follows (P.thread .main) (fun _ v => v = .inl .over) Exits (.inl m) ∧
      Follows (P.thread .worker) (fun _ v => v = .inr .ended) Exits (.inr w) := by
  let I (s : Shared) (ℓ : Caller → View) : Prop :=
    ∃ m w, ℓ .main = .inl m ∧ ℓ .worker = .inr w ∧ Coupled s m w
  have hstart : I (cameraPool camera_ip f n k garbage).shared startViews :=
    ⟨.fresh, .waiting, rfl, rfl, coupled_init garbage⟩
  have hstep : ∀ s ℓ i (o : CameraOp) (c : o.Choice), I s ℓ → CanEnd s o c → (ℓ i).Allows o →
      I (cameraExec conv s o c).2
        (Function.update ℓ i ((ℓ i).next o (cameraExec conv s o c).1)) := by
    rintro s ℓ i o c ⟨m, w, hm, hw, h⟩ hend hallow
    cases i with
    | main =>
        rw [hm] at hallow ⊢
        refine ⟨_, w, Function.update_self _ _ _, ?_, h.main hend hallow⟩
        rw [Function.update_of_ne (by simp), hw]
    | worker =>
        rw [hw] at hallow ⊢
        refine ⟨m, _, ?_, Function.update_self _ _ _, h.work hend hallow⟩
        rw [Function.update_of_ne (by simp), hm]
  obtain ⟨m, w, hm, hw, h⟩ := hrun.invariant hstart thread_allowed hstep
  have hmain := Machine.wp_steps (mainThread_follows camera_ip f n)
    (hrun.thread_steps View.next startViews .main)
  have hwork := Machine.wp_steps (hkWorkThread_follows k)
    (hrun.thread_steps View.next startViews .worker)
  rw [hm] at hmain
  rw [hw] at hwork
  exact ⟨m, w, h, hmain, hwork⟩

/-! ## A run -/

instance (s : Shared) : Decidable (∀ who, s.mutex ≠ .held who) :=
  decidable_of_iff (s.mutex ≠ .held .main ∧ s.mutex ≠ .held .worker)
    ⟨fun h who => by cases who <;> simp [h], fun h => ⟨h .main, h .worker⟩⟩

instance decidableCanEnd (s : Shared) : (o : CameraOp) → (c : o.Choice) → Decidable (CanEnd s o c)
  | .lock _, _ => inferInstanceAs (Decidable (∀ who, s.mutex ≠ .held who))
  | .joinThread, _ => inferInstanceAs (Decidable (s.worker ≠ .running))
  | .beginWork, _ => inferInstanceAs (Decidable (s.worker = .running))
  | .convertPixelType f, .ok => inferInstanceAs (Decidable (f.bgrSize ≤ MAX_IMAGE_DATA_SIZE))
  | .convertPixelType _, .failed _ | .enumDevices, _ | .call _, _ | .rosOk, _ | .sleepSpin, _
  | .unlock _, _ | .readFrameEmpty, _ | .setFrameEmpty _, _ | .cloneFrame, _ | .storeFrame _, _
  | .publish _, _ | .getOneFrame, _ | .endWork, _ | .destroyMutex, _ =>
      inferInstanceAs (Decidable True)

instance (s : Shared) (o : cameraSig.Op) (c : (cameraNode conv).Choice o) :
    Decidable (blocking conv s o c) :=
  decidableCanEnd s o c

/-- One camera, whose calls all succeed and whose next frame is of this colour. -/
def healthy (b : UInt8) : (o : CameraOp) → o.Choice
  | .enumDevices => some [some ⟨MV_GIGE_DEVICE, 0xC0A80002⟩]
  | .call _ => MV_OK
  | .rosOk => true
  | .getOneFrame => some (onePixel b)
  | .convertPixelType _ => .ok
  | .readFrameEmpty | .cloneFrame | .sleepSpin | .lock _ | .unlock _ | .setFrameEmpty _
  | .storeFrame _ | .publish _ | .beginWork | .endWork | .joinThread | .destroyMutex => ()

/-- The camera is constructed, and the main thread reads before the first frame. Then
the worker thread stores two frames before the next read, and the third one between that
read and its publication; the camera is destroyed after the third. -/
def threeFrames : Pool.History cameraSig Caller × Pool cameraSig Shared SelectError Unit Caller :=
  Pool.schedule (cameraNode copying)
    (List.replicate 25 (.main, healthy 0) ++ List.replicate 8 (.worker, healthy 1) ++
      List.replicate 7 (.worker, healthy 2) ++ List.replicate 7 (.main, healthy 0) ++
      List.replicate 7 (.worker, healthy 3) ++ List.replicate 9 (.main, healthy 0) ++
      [(.worker, healthy 0)] ++ List.replicate 5 (.main, healthy 0))
    (cameraPool [] .default 3 3 [])

theorem threeFrames_run :
    Pool.Run (cameraNode copying) (blocking copying) (cameraPool [] .default 3 3 [])
      threeFrames.1 threeFrames.2 :=
  Pool.schedule_run_of_ready (by decide +kernel)

end HakRobot.Camera
