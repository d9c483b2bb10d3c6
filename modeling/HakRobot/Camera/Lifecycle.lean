import HakRobot.Camera.Views

/-!
# The life of the camera's handle, mutex and thread

* `Coupled.main_permitted`, `Coupled.work_permitted` — the coupling gives every call
  what the SDK and pthreads ask for;
* `Coupled.progress` — and a thread that can go on;
* `camera_lifecycle` — so every call of a run finds what it needs, no run gets stuck, and
  `main` returns with everything released.
-/

namespace HakRobot.Camera

open HakRobot.Proc

variable {s : Shared} {m : MainView} {w : WorkView} {conv : PixelConverter}

/-! ## What the calls need -/

/-- What the SDK and pthreads ask of an operation that thread `who` performs: a handle
in the right state, a mutex that is there and not held by the caller itself, and the
mutex for an access to the frame. While the worker thread runs, nothing it uses is
closed or destroyed. -/
def Permitted (s : Shared) (who : Caller) : CameraOp → Prop
  | .call (.createHandle _) => s.handle = .null
  | .call .openDevice => s.handle = .created
  | .call (.setValue _) => s.handle = .opened
  | .call .getPixelFormat => s.handle = .opened
  | .call .startGrabbing => s.handle = .opened
  | .call .mutexInit => s.mutex = .raw
  | .call .createThread => s.worker = .notCreated ∧ s.handle = .grabbing ∧ s.mutex = .free
  | .call .stopGrabbing => s.handle = .grabbing ∧ s.worker = .ended
  | .call .closeDevice => s.handle = .opened ∧ s.worker = .ended
  | .call .destroyHandle => s.handle = .created ∧ s.worker = .ended
  | .getOneFrame | .convertPixelType _ => s.handle = .grabbing
  | .lock me => me = who ∧ (s.mutex = .free ∨ ∃ other, other ≠ who ∧ s.mutex = .held other)
  | .unlock me => me = who ∧ s.mutex = .held who
  | .readFrameEmpty | .setFrameEmpty _ | .cloneFrame | .storeFrame _ => s.mutex = .held who
  | .joinThread => s.worker ≠ .notCreated
  | .destroyMutex => s.mutex = .free ∧ s.worker = .ended
  | .enumDevices | .rosOk | .sleepSpin | .publish _ | .beginWork | .endWork => True

theorem handle_busy (hm : m.Busy) : m.handle = .grabbing := by
  obtain ⟨he, hl⟩ := hm
  cases m <;> cases he <;> cases hl <;> rfl

theorem Coupled.call_permitted {c : StatusCall} (h : Coupled s c.before w) :
    Permitted s .main (.call c) := by
  cases c with
  | createHandle nIndex => exact h.handle
  | openDevice => exact h.handle
  | setValue call => exact h.handle
  | getPixelFormat => exact h.handle
  | startGrabbing => exact h.handle
  | mutexInit => exact h.mutex
  | createThread =>
      obtain rfl := h.early rfl
      exact ⟨h.worker, h.handle, h.mutex⟩
  | stopGrabbing =>
      obtain rfl := h.late rfl
      exact ⟨h.handle, h.worker⟩
  | closeDevice =>
      obtain rfl := h.late rfl
      exact ⟨h.handle, h.worker⟩
  | destroyHandle =>
      obtain rfl := h.late rfl
      exact ⟨h.handle, h.worker⟩

theorem Coupled.main_permitted (h : Coupled s m w) {o : CameraOp} (hallow : m.Allows o) :
    Permitted s .main o := by
  cases o with
  | call call =>
      obtain rfl : m = call.before := hallow
      exact h.call_permitted
  | lock who =>
      obtain ⟨rfl, rfl⟩ := hallow
      have hmutex : s.mutex = if w.inSection then .held .worker else .free := h.mutex
      refine ⟨rfl, ?_⟩
      cases hw : w.inSection with
      | false => exact .inl (by simpa [hw] using hmutex)
      | true => exact .inr ⟨.worker, by simp, by simpa [hw] using hmutex⟩
  | unlock who =>
      obtain ⟨rfl, rfl | ⟨image, rfl⟩⟩ := hallow
      · exact ⟨rfl, h.mutex⟩
      · exact ⟨rfl, h.mutex⟩
  | readFrameEmpty =>
      obtain rfl := hallow
      exact h.mutex
  | setFrameEmpty b =>
      obtain ⟨-, image, rfl⟩ := hallow
      exact h.mutex
  | cloneFrame =>
      obtain rfl := hallow
      exact h.mutex
  | joinThread =>
      obtain rfl := hallow
      show s.worker ≠ .notCreated
      rw [h.worker, workerOf]
      by_cases hw : w = .ended <;> simp [hw, MainView.early]
  | destroyMutex =>
      obtain rfl := hallow
      obtain rfl := h.late rfl
      exact ⟨h.mutex, h.worker⟩
  | enumDevices => exact trivial
  | rosOk => exact trivial
  | sleepSpin => exact trivial
  | publish image => exact trivial
  | storeFrame f => exact hallow.elim
  | getOneFrame => exact hallow.elim
  | convertPixelType f => exact hallow.elim
  | beginWork => exact hallow.elim
  | endWork => exact hallow.elim

/-- The worker thread has the mutex. -/
theorem Coupled.held (h : Coupled s m w) (hm : m.Busy) (hw : w.inSection = true) :
    s.mutex = .held .worker := by
  have hout : m.inSection = false := by
    cases hin : m.inSection with
    | false => rfl
    | true => exact absurd (hw.symm.trans (h.apart hin)) (by simp)
  rw [h.mutex, mutexOf_busy hm, hout, hw]
  rfl

theorem Coupled.work_permitted (h : Coupled s m w) {o : CameraOp} (hallow : w.Allows o) :
    Permitted s .worker o := by
  cases o with
  | getOneFrame =>
      obtain rfl := hallow
      exact h.handle.trans (handle_busy (h.busy (by simp) (by simp)))
  | convertPixelType f =>
      obtain rfl := hallow
      exact h.handle.trans (handle_busy (h.busy (by simp) (by simp)))
  | lock who =>
      obtain ⟨rfl, f, ok, rfl⟩ := hallow
      have hmutex := h.mutex
      rw [mutexOf_busy (h.busy (by simp) (by simp))] at hmutex
      refine ⟨rfl, ?_⟩
      cases hm : m.inSection with
      | false => exact .inl (by simpa [hm, WorkView.inSection] using hmutex)
      | true => exact .inr ⟨.main, by simp, by simpa [hm] using hmutex⟩
  | storeFrame f =>
      obtain ⟨ok, rfl⟩ := hallow
      exact h.held (h.busy (by simp) (by simp)) rfl
  | setFrameEmpty b =>
      obtain ⟨rfl, rfl⟩ := hallow
      exact h.held (h.busy (by simp) (by simp)) rfl
  | unlock who =>
      obtain ⟨rfl, rfl⟩ := hallow
      exact ⟨rfl, h.held (h.busy (by simp) (by simp)) rfl⟩
  | beginWork => exact trivial
  | rosOk => exact trivial
  | endWork => exact trivial
  | enumDevices => exact hallow.elim
  | call call => exact hallow.elim
  | sleepSpin => exact hallow.elim
  | readFrameEmpty => exact hallow.elim
  | cloneFrame => exact hallow.elim
  | publish image => exact hallow.elim
  | joinThread => exact hallow.elim
  | destroyMutex => exact hallow.elim

/-! ## No run gets stuck -/

/-- An answer that `CanEnd` never forbids by itself. -/
def CameraOp.anyAnswer : (o : CameraOp) → o.Choice
  | .enumDevices => none
  | .call _ => 0
  | .rosOk => false
  | .getOneFrame => none
  | .convertPixelType _ => .failed []
  | .readFrameEmpty | .cloneFrame | .sleepSpin | .lock _ | .unlock _ | .setFrameEmpty _
  | .storeFrame _ | .publish _ | .beginWork | .endWork | .joinThread | .destroyMutex => ()

/-- The worker thread can always go on, unless it waits for the mutex. -/
theorem Coupled.work_canEnd (h : Coupled s m w) {o : CameraOp} (hallow : w.Allows o)
    (hbusy : m.Busy) (hfree : m.inSection = false) : CanEnd s o o.anyAnswer := by
  cases o with
  | beginWork =>
      obtain rfl := hallow
      exact h.running hbusy (by simp)
  | lock who =>
      obtain ⟨rfl, f, ok, rfl⟩ := hallow
      intro other
      rw [h.mutex, mutexOf_busy hbusy, hfree]
      simp [WorkView.inSection]
  | joinThread => exact hallow.elim
  | _ => exact trivial

/-- A thread that follows its views and is not done has a next operation, which its view
allows. -/
theorem Follows.next {Q : Unit → View → Prop} {p : Code Unit} {v : View}
    (h : Follows p Q Exits v) (hp : ¬ p.Done) : ∃ o, p.next = some o ∧ v.Allows o := by
  cases p with
  | ret a => exact absurd trivial hp
  | raise e => exact absurd trivial hp
  | op o k => exact ⟨o, rfl, h.1⟩

/-- A worker thread that is done has ended. -/
theorem work_ended {q : Code Unit} (h : Follows q (fun _ v => v = .inr .ended) Exits (.inr w))
    (hq : q.Done) : w = .ended := by
  cases q with
  | ret a => exact Sum.inr.inj h
  | raise e =>
      obtain ⟨m, hm, -⟩ := h
      cases hm
  | op o k => exact hq.elim

/-- Unless the main thread is done, one of the threads can go on. -/
theorem Coupled.progress (h : Coupled s m w) {p q : Code Unit}
    (hp : Follows p (fun _ v => v = .inl .over) Exits (.inl m))
    (hq : Follows q (fun _ v => v = .inr .ended) Exits (.inr w)) (hdone : ¬ p.Done) :
    (∃ o, p.next = some o ∧ CanEnd s o o.anyAnswer) ∨
      ∃ o, q.next = some o ∧ CanEnd s o o.anyAnswer := by
  obtain ⟨o, ho, hallow⟩ := hp.next hdone
  -- while the main thread waits in its loop, a worker thread that has not ended goes on
  have hworker : m = .looping → w ≠ .ended → ∃ o, q.next = some o ∧ CanEnd s o o.anyAnswer := by
    rintro rfl hw
    obtain ⟨o', ho', hallow'⟩ := hq.next fun hdone' => hw (work_ended hq hdone')
    exact ⟨o', ho', h.work_canEnd hallow' ⟨rfl, rfl⟩ rfl⟩
  cases o with
  | lock who =>
      have hm : m = .looping := hallow.2
      cases hw : w.inSection with
      | true =>
          right
          refine hworker hm ?_
          rintro rfl
          cases hw
      | false =>
          left
          refine ⟨_, ho, fun other => ?_⟩
          subst hm
          rw [h.mutex, mutexOf_busy ⟨rfl, rfl⟩, hw]
          simp [MainView.inSection]
  | joinThread =>
      have hm : m = .looping := hallow
      by_cases hw : w = .ended
      · left
        refine ⟨_, ho, ?_⟩
        subst hm
        show s.worker ≠ .running
        rw [h.worker, workerOf, if_pos hw]
        simp [MainView.early]
      · exact .inr (hworker hm hw)
  | beginWork => exact hallow.elim
  | convertPixelType f => exact hallow.elim
  | _ => exact .inl ⟨_, ho, trivial⟩

/-! ## Runs -/

variable {camera_ip : List Char} {f : Settings} {n k : Nat} {garbage : List UInt8}
  {hist : Pool.History cameraSig Caller} {P : Pool cameraSig Shared SelectError Unit Caller}

/-- Where the process exits, the worker thread does not run. -/
theorem Coupled.exits (h : Coupled s m w) (hm : m.exits = true) : s.worker ≠ .running := by
  have hside : m.early = true ∨ m.late = true := by
    cases m <;> simp_all [MainView.exits, MainView.early, MainView.late]
  rw [h.worker, workerOf]
  rcases hside with he | hl
  · simp [he]
  · rw [h.late hl]
    cases m.early <;> simp

/-- **The life of the camera.** For every parameter, every number of rounds and every
interleaving of the two threads, whatever the calls return: an operation is performed
only when the SDK and pthreads permit it; until the main thread is done one of the
threads can go on; when `main` returns, the handle and the mutex are destroyed and the
worker thread has ended; and when the process exits, the worker thread does not run. -/
theorem camera_lifecycle
    (hrun : Pool.Run (cameraNode conv) (blocking conv) (cameraPool camera_ip f n k garbage)
      hist P) :
    (∀ who o, (P.thread who).next = some o → Permitted P.shared who o) ∧
    (¬ (P.thread .main).Done →
      ∃ who o c, (P.thread who).next = some o ∧ CanEnd P.shared o c) ∧
    ((P.thread .main).outcome = some (.ok ()) →
      P.shared.handle = .destroyed ∧ P.shared.mutex = .destroyed ∧ P.shared.worker = .ended) ∧
    ∀ e, (P.thread .main).outcome = some (.error e) → P.shared.worker ≠ .running := by
  obtain ⟨m, w, h, hmain, hwork⟩ := run_coupled hrun
  refine ⟨?_, ?_, ?_, ?_⟩
  · intro who o hnext
    cases who with
    | main => exact h.main_permitted (Machine.wp_next (G := View.Allows) (s := .inl m) hmain hnext)
    | worker => exact h.work_permitted (Machine.wp_next (G := View.Allows) (s := .inr w) hwork hnext)
  · intro hdone
    rcases h.progress hmain hwork hdone with ⟨o, ho, hend⟩ | ⟨o, ho, hend⟩
    · exact ⟨.main, o, _, ho, hend⟩
    · exact ⟨.worker, o, _, ho, hend⟩
  · intro hreturned
    rw [Prog.eq_ret_of_outcome hreturned] at hmain
    obtain rfl : m = .over := Sum.inl.inj hmain
    obtain rfl := h.late rfl
    exact ⟨h.handle, h.mutex, h.worker⟩
  · intro e hexited
    cases hp : P.thread .main with
    | ret a =>
        rw [hp] at hexited
        cases hexited
    | op o k =>
        rw [hp] at hexited
        cases hexited
    | raise e' =>
        rw [hp] at hmain
        obtain ⟨m', hm, hexits⟩ := hmain
        obtain rfl := Sum.inl.inj hm
        exact h.exits hexits

/-- `camera_lifecycle` for the three frames. -/
theorem camera_lifecycle_threeFrames :
    (threeFrames.2.thread .main).outcome = some (.ok ()) ∧
    threeFrames.2.shared.handle = .destroyed ∧ threeFrames.2.shared.mutex = .destroyed ∧
    threeFrames.2.shared.worker = .ended := by
  have hreturned : (threeFrames.2.thread .main).outcome = some (.ok ()) := by decide +kernel
  exact ⟨hreturned, (camera_lifecycle threeFrames_run).2.2.1 hreturned⟩

end HakRobot.Camera
