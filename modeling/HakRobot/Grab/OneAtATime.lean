import HakRobot.Grab.GripperCommands
import HakRobot.Grab.OneTask
import HakRobot.Proc.Pool

/-!
# One task at a time

`rospy` runs the callbacks of each publisher of `object_pose` in a thread of its
own, and `object_pose_callback` guards the task with `is_busy`: a test, a
comparison, a set, and two resets when the object is out of range.

* `idle_not_busy` — whatever the schedule, the flag is clear while no callback is
  being handled;
* `one_task_at_a_time` — if every set finds the flag still clear and no other
  callback about to reset it, at most one task is in progress;
* neither half of that condition can be dropped: two callbacks can pass the
  test together (`two_tasks`), and the second reset of an object out of range can
  clear the flag of another callback (`two_tasks_after_reset`).
-/

namespace HakRobot.Grab

open HakRobot.Geometry HakRobot.Proc

variable {ι : Type} [DecidableEq ι]

/-! ## The callbacks as threads -/

/-- The callbacks of one publisher, one after another. An exception ends the
callback, not the thread. -/
def publisherThread (detections : List ObjectInfo) : Routine Unit :=
  Prog.forEach (fun data => (objectPoseCallback data).tryCatch fun _ => .ret ()) detections

/-- One thread for each publisher. -/
def callbackPool (s : VisionState) (detections : ι → List ObjectInfo) :
    Pool visionSig VisionState PyException Unit ι :=
  ⟨s, fun i => publisherThread (detections i)⟩

/-- The thread is inside a callback: it has something to do other than to enter
the next one. -/
def Handling (p : Routine Unit) : Bool :=
  match p.next with
  | none => false
  | some (.mark (.callback _)) => false
  | some _ => true

/-- A task is in progress after an operation. -/
def openTask (inTask : Bool) (o : VisionOp) (_ : o.Res) : Bool :=
  o.startsTask || (inTask && !o.endsTask)

/-- A task of thread `i` was entered and not left. -/
def InTask (i : ι) (h : Pool.History visionSig ι) : Prop :=
  h.phases openTask (fun _ => false) i = true

instance (i : ι) (h : Pool.History visionSig ι) : Decidable (InTask i h) :=
  inferInstanceAs (Decidable (_ = true))

/-- `is_busy = False` comes next. -/
def ResetsNext (p : Routine Unit) : Bool :=
  match p.next with
  | some (.writeIsBusy false) => true
  | _ => false

/-- `is_busy = True` finds the flag still clear, and no other callback about to
reset it. -/
def SetsAlone (P : Pool visionSig VisionState PyException Unit ι) (i : ι) : VisionOp → Prop
  | .writeIsBusy true => P.shared.isBusy = false ∧ ∀ j, j ≠ i → ResetsNext (P.thread j) = false
  | _ => True

/-! ## How far a thread is in its callback -/

/-- `clear` outside the guarded part; then the last thing the thread did to the
flag and to its task. -/
inductive FlagPhase
  | clear
  | set
  | inTask
  | ended
  | clearedOnce
deriving DecidableEq

namespace FlagPhase

/-- The phase after an operation. -/
def next (ℓ : FlagPhase) (o : VisionOp) (_ : o.Res) : FlagPhase :=
  match ℓ, o with
  | _, .mark (.taskStarted _) => .inTask
  | _, .mark (.taskReturned _) => .ended
  | _, .mark .taskRaised => .ended
  | .inTask, _ => .inTask
  | _, .writeIsBusy true => .set
  | .set, .writeIsBusy false => .clearedOnce
  | _, .writeIsBusy false => .clear
  | ℓ, _ => ℓ

/-- What a thread may do in its phase. -/
def Allows : FlagPhase → VisionOp → Prop
  | ℓ, .mark (.callback _) => ℓ = .clear
  | ℓ, .mark (.taskStarted _) => ℓ = .set
  | ℓ, .mark (.taskReturned _) => ℓ = .inTask
  | ℓ, .mark .taskRaised => ℓ = .inTask
  | ℓ, .writeIsBusy true => ℓ = .clear
  | ℓ, .writeIsBusy false => ℓ = .set ∨ ℓ = .ended ∨ ℓ = .clearedOnce
  | ℓ, _ => ℓ ≠ .clearedOnce

/-- The thread has set the flag and not reset it since. -/
def Owes (ℓ : FlagPhase) : Prop := ℓ ≠ .clear ∧ ℓ ≠ .clearedOnce

/-- The steps of a task keep the phase, and most phases allow them. -/
theorem next_taskStep (ℓ : FlagPhase) {o : VisionOp} (ho : o.TaskStep) :
    (∀ r : o.Res, ℓ.next o r = ℓ) ∧ (ℓ ≠ .clearedOnce → ℓ.Allows o) := by
  cases o with
  | mark e =>
      cases e with
      | callback data => exact ho.elim
      | taskStarted base => exact ho.elim
      | taskReturned b => exact ho.elim
      | taskRaised => exact ho.elim
      | _ => exact ⟨fun _ => by cases ℓ <;> rfl, id⟩
  | writeIsBusy b => exact ho.elim
  | _ => exact ⟨fun _ => by cases ℓ <;> rfl, id⟩

/-- Only a reset may follow the first reset of an object out of range. -/
theorem Allows.of_clearedOnce {o : VisionOp} (h : clearedOnce.Allows o) :
    o = .writeIsBusy false := by
  cases o with
  | mark e =>
      cases e with
      | callback data => cases h
      | taskStarted base => cases h
      | taskReturned b => cases h
      | taskRaised => cases h
      | _ => exact absurd rfl h
  | writeIsBusy b =>
      cases b with
      | true => cases h
      | false => rfl
  | _ => exact absurd rfl h

theorem next_inTask (ℓ : FlagPhase) (o : VisionOp) (r : o.Res) :
    decide (ℓ.next o r = .inTask) = openTask (decide (ℓ = .inTask)) o r := by
  cases o with
  | mark e => cases e <;> cases ℓ <;> rfl
  | writeIsBusy b => cases b <;> cases ℓ <;> rfl
  | _ => cases ℓ <;> rfl

end FlagPhase

/-- `p` does what its phase allows and ends in a `Q`. -/
abbrev Follows {α : Type} (p : Routine α) (Q : FlagPhase → Prop) (ℓ : FlagPhase) : Prop :=
  (Machine.monitor visionSig FlagPhase.next).wp (Machine.anyChoice _) FlagPhase.Allows p
    (fun _ => Q) (fun _ => Q) ℓ

/-! ## The callback -/

theorem taskStep_follows {α : Type} {p : Routine α} (hp : p.Uses VisionOp.TaskStep)
    {ℓ : FlagPhase} (hℓ : ℓ ≠ .clearedOnce) : Follows p (fun ℓ' => ℓ' = ℓ) ℓ := by
  refine Machine.wp_of_uses (I := fun ℓ' => ℓ' = ℓ) ?_ hp rfl
  intro ℓ' o hℓ' ho
  subst hℓ'
  obtain ⟨hkeep, hallow⟩ := FlagPhase.next_taskStep ℓ' ho
  exact ⟨hallow hℓ, fun r _ => hkeep r⟩

/-- However the task ends, its end is marked. -/
theorem pickAndPlaceTask_follows (base : Vec3 ℚ) :
    Follows (pickAndPlaceTask base) (fun ℓ => ℓ = .ended) .set := by
  have hrest : Follows (do
      let b ← (pickAndPlaceSteps base).tryCatch fun e => (mark .taskRaised).bind fun _ => .raise e
      mark (.taskReturned b)
      return b : Routine Bool) (fun ℓ => ℓ = .ended) .inTask := by
    have hsteps := taskStep_follows (pickAndPlaceSteps_taskStep base)
      (show FlagPhase.inTask ≠ .clearedOnce by decide)
    refine Machine.wp_seq (P := fun _ ℓ => ℓ = .inTask) (Machine.wp_catch hsteps ?_) ?_
      fun _ _ he => he
    · intro e ℓ hℓ
      subst hℓ
      exact ⟨rfl, fun _ _ => rfl⟩
    · intro b ℓ hℓ
      subst hℓ
      exact ⟨rfl, fun _ _ => rfl⟩
  exact ⟨rfl, fun _ _ => hrest⟩

/-- The flag is reset on every way out: once after a task, twice for an object
out of range. -/
theorem graspDetection_follows (data : ObjectInfo) :
    Follows (exceptException (graspDetection data)) (fun ℓ => ℓ = .ended ∨ ℓ = .clearedOnce)
      .set := by
  refine Machine.wp_catch (F := fun _ ℓ => ℓ = .ended ∨ ℓ = .clearedOnce) ?_ ?_
  · unfold graspDetection
    dsimp only
    split
    · exact ⟨.inl rfl, fun _ _ => .inr rfl⟩
    · exact Machine.wp_seq (pickAndPlaceTask_follows _) (fun _ _ hℓ => .inl hℓ)
        fun _ _ hℓ => .inl hℓ
  · intro e ℓ hℓ
    split <;> exact hℓ

theorem objectPoseCallback_follows (data : ObjectInfo) :
    Follows (objectPoseCallback data) (fun ℓ => ℓ = .clear) .clear := by
  have hreset : ∀ ℓ : FlagPhase, ℓ = .ended ∨ ℓ = .clearedOnce →
      Follows (does (.writeIsBusy false)) (fun ℓ' => ℓ' = .clear) ℓ := by
    intro ℓ hℓ
    rcases hℓ with hℓ | hℓ
    · subst hℓ
      exact ⟨.inr (.inl rfl), fun _ _ => rfl⟩
    · subst hℓ
      exact ⟨.inr (.inr rfl), fun _ _ => rfl⟩
  refine ⟨rfl, fun _ _ => ⟨nofun, fun (objectMsg : Option String) _ => ?_⟩⟩
  show Follows (if objectMsg = none then _ else _) _ FlagPhase.clear
  split
  · exact rfl
  refine ⟨nofun, fun (isBusy : Bool) _ => ?_⟩
  show Follows (if isBusy then _ else _) _ FlagPhase.clear
  split
  · exact rfl
  split
  · exact rfl
  refine ⟨rfl, fun _ _ => ?_⟩
  refine (Machine.wp_tryFinally _ _ _ _ _).mpr ?_
  exact Machine.wp_mono (fun _ ℓ hℓ => hreset ℓ hℓ) (fun _ ℓ hℓ => hreset ℓ hℓ)
    (graspDetection_follows data)

theorem publisherThread_follows (detections : List ObjectInfo) :
    Follows (publisherThread detections) (fun ℓ => ℓ = .clear) .clear := by
  refine Machine.wp_forEach (I := fun ℓ => ℓ = FlagPhase.clear) (fun data ℓ hℓ => ?_) detections rfl
  subst hℓ
  exact Machine.wp_catch (objectPoseCallback_follows data) fun _ _ hℓ => hℓ

/-- Outside a callback the thread owes nothing. -/
theorem clear_of_not_handling {p : Routine Unit} {ℓ : FlagPhase}
    (h : Follows p (fun ℓ => ℓ = .clear) ℓ) (hp : Handling p = false) : ℓ = .clear := by
  cases p with
  | ret a => exact h
  | raise e => exact h
  | op o k =>
      cases o with
      | mark e =>
          cases e with
          | callback data => exact h.1
          | _ => exact absurd hp nofun
      | _ => exact absurd hp nofun

/-- After its first reset a callback has its second one to do next. -/
theorem resetsNext_of_clearedOnce {p : Routine Unit} {ℓ : FlagPhase}
    (h : Follows p (fun ℓ => ℓ = .clear) ℓ) (hℓ : ℓ = .clearedOnce) : ResetsNext p = true := by
  subst hℓ
  cases p with
  | ret a => exact absurd h nofun
  | raise e => exact absurd h nofun
  | op o k =>
      obtain rfl := h.1.of_clearedOnce
      rfl

/-! ## The flag and the threads -/

/-- The flag is set by a thread that still owes a reset. -/
def SetByOwner (s : VisionState) (ℓ : ι → FlagPhase) : Prop :=
  s.isBusy = true → ∃ i, (ℓ i).Owes

/-- One thread at most is in the guarded part, and the flag says so until its
first reset. -/
structure Exclusive (s : VisionState) (ℓ : ι → FlagPhase) : Prop where
  alone : ∀ i j, ℓ i ≠ .clear → ℓ j ≠ .clear → i = j
  busy : ∀ i, (ℓ i).Owes → s.isBusy = true

/-- Only a write changes the flag. -/
theorem exec_isBusy {o : VisionOp} (ho : ∀ b, o ≠ .writeIsBusy b) (x : vision.Choice o)
    (s : VisionState) : (vision.exec o x s).2.isBusy = s.isBusy := by
  cases o with
  | writeIsBusy b => exact absurd rfl (ho b)
  | writeRegister address value =>
      show (s.writeRegister address value x).isBusy = s.isBusy
      simp only [VisionState.writeRegister, VisionState.noteWrite, VisionState.note]
      split <;> split <;> rfl
  | writeLong address value =>
      show (s.writeLong address value x).isBusy = s.isBusy
      simp only [VisionState.writeLong]
      split <;> rfl
  | plan => cases x <;> rfl
  | publish msg => cases x <;> rfl
  | _ => rfl

/-- An operation other than a write of the flag moves its thread inside the
guarded part, or not at all. -/
theorem FlagPhase.next_inside {ℓ : FlagPhase} {o : VisionOp} (hℓ : ℓ.Allows o)
    (ho : ∀ b, o ≠ .writeIsBusy b) (r : o.Res) :
    (ℓ.next o r = .clear ↔ ℓ = .clear) ∧ ((ℓ.next o r).Owes ↔ ℓ.Owes) := by
  cases o with
  | writeIsBusy b => exact absurd rfl (ho b)
  | mark e =>
      cases e with
      | taskStarted base => cases hℓ; simp [next, Owes]
      | taskReturned b => cases hℓ; simp [next, Owes]
      | taskRaised => cases hℓ; simp [next, Owes]
      | _ => cases ℓ <;> simp [next]
  | _ => cases ℓ <;> simp [next]

/-- **Step** of the first invariant, for any operation a thread may do. -/
theorem SetByOwner.step {s : VisionState} {ℓ : ι → FlagPhase} (h : SetByOwner s ℓ) {i : ι}
    {o : VisionOp} (x : vision.Choice o) (hi : (ℓ i).Allows o) :
    SetByOwner (vision.exec o x s).2
      (Function.update ℓ i ((ℓ i).next o (vision.exec o x s).1)) := by
  intro hbusy
  by_cases ho : ∃ b, o = .writeIsBusy b
  · obtain ⟨b, rfl⟩ := ho
    have hb : b = true := hbusy
    subst hb
    refine ⟨i, ?_⟩
    rw [Function.update_self, show ℓ i = .clear from hi]
    exact ⟨nofun, nofun⟩
  · rw [exec_isBusy (fun b hb => ho ⟨b, hb⟩)] at hbusy
    obtain ⟨j, hj⟩ := h hbusy
    refine ⟨j, ?_⟩
    by_cases hij : j = i
    · subst hij
      rw [Function.update_self]
      exact (FlagPhase.next_inside hi (fun b hb => ho ⟨b, hb⟩) _).2.mpr hj
    · rwa [Function.update_of_ne hij]

namespace Exclusive

variable {s : VisionState} {ℓ : ι → FlagPhase}

/-- A thread that sets the flag when nobody owes a reset is alone. -/
theorem step_set (i : ι) (hothers : ∀ j, j ≠ i → ℓ j = .clear) :
    Exclusive { s with isBusy := true } (Function.update ℓ i .set) := by
  have hout : ∀ j, Function.update ℓ i .set j ≠ .clear → j = i := by
    intro j hj
    by_contra hji
    rw [Function.update_of_ne hji] at hj
    exact hj (hothers j hji)
  exact ⟨fun j k hj hk => (hout j hj).trans (hout k hk).symm, fun _ _ => rfl⟩

/-- A reset by the thread in the guarded part. -/
theorem step_reset (h : Exclusive s ℓ) {i : ι} (hi : ℓ i ≠ .clear) {ℓ₁ : FlagPhase}
    (hℓ₁ : ¬ ℓ₁.Owes) : Exclusive { s with isBusy := false } (Function.update ℓ i ℓ₁) := by
  have hothers : ∀ j, j ≠ i → ℓ j = .clear := by
    intro j hji
    by_contra hj
    exact hji (h.alone j i hj hi)
  have hout : ∀ j, Function.update ℓ i ℓ₁ j ≠ .clear → j = i := by
    intro j hj
    by_contra hji
    rw [Function.update_of_ne hji] at hj
    exact hj (hothers j hji)
  refine ⟨fun j k hj hk => (hout j hj).trans (hout k hk).symm, fun j hj => ?_⟩
  obtain rfl := hout j hj.1
  rw [Function.update_self] at hj
  exact absurd hj hℓ₁

/-- Any other operation. -/
theorem step_inside (h : Exclusive s ℓ) {i : ι} {t : VisionState} (ht : t.isBusy = s.isBusy)
    {ℓ₁ : FlagPhase} (hclear : ℓ₁ = .clear ↔ ℓ i = .clear) (howes : ℓ₁.Owes ↔ (ℓ i).Owes) :
    Exclusive t (Function.update ℓ i ℓ₁) := by
  have hsame : ∀ j, (Function.update ℓ i ℓ₁ j = .clear ↔ ℓ j = .clear) ∧
      ((Function.update ℓ i ℓ₁ j).Owes ↔ (ℓ j).Owes) := by
    intro j
    by_cases hji : j = i
    · subst hji
      rw [Function.update_self]
      exact ⟨hclear, howes⟩
    · rw [Function.update_of_ne hji]
      exact ⟨Iff.rfl, Iff.rfl⟩
  refine ⟨fun j k hj hk => h.alone j k ?_ ?_, fun j hj => ?_⟩
  · exact fun hjc => hj ((hsame j).1.mpr hjc)
  · exact fun hkc => hk ((hsame k).1.mpr hkc)
  · rw [ht]
    exact h.busy j ((hsame j).2.mp hj)

/-- **Step** of the second invariant: a set finds nobody in the guarded part,
since an owner keeps the flag set and a thread between its two resets has the
second one to do next. -/
theorem step {P : Pool visionSig VisionState PyException Unit ι} (h : Exclusive P.shared ℓ)
    (hthreads : ∀ j, Follows (P.thread j) (fun ℓ => ℓ = .clear) (ℓ j)) {i : ι} {o : VisionOp}
    (x : vision.Choice o) (hC : SetsAlone P i o) (hi : (ℓ i).Allows o) :
    Exclusive (vision.exec o x P.shared).2
      (Function.update ℓ i ((ℓ i).next o (vision.exec o x P.shared).1)) := by
  by_cases ho : ∃ b, o = .writeIsBusy b
  · obtain ⟨b, rfl⟩ := ho
    cases b with
    | true =>
        obtain ⟨hclear, hnoreset⟩ := hC
        have hset : (ℓ i).next (.writeIsBusy true) () = .set := by
          rw [show ℓ i = .clear from hi]
          rfl
        show Exclusive { P.shared with isBusy := true } (Function.update ℓ i _)
        rw [show (ℓ i).next (.writeIsBusy true) (vision.exec (.writeIsBusy true) x P.shared).1 =
          .set from hset]
        refine step_set i fun j hji => ?_
        by_contra hj
        by_cases hone : ℓ j = .clearedOnce
        · have hnext := resetsNext_of_clearedOnce (hthreads j) hone
          exact absurd ((hnoreset j hji).symm.trans hnext) Bool.false_ne_true
        · exact absurd (hclear.symm.trans (h.busy j ⟨hj, hone⟩)) Bool.false_ne_true
    | false =>
        have hin : ℓ i ≠ .clear := by
          intro hc
          rw [hc] at hi
          rcases hi with hi | hi | hi <;> cases hi
        have hout : ¬ ((ℓ i).next (.writeIsBusy false) ()).Owes := by
          intro howes
          rcases hi with hi | hi | hi <;> rw [hi] at howes
          · exact howes.2 rfl
          · exact howes.1 rfl
          · exact howes.1 rfl
        exact h.step_reset hin hout
  · have hno : ∀ b, o ≠ .writeIsBusy b := fun b hb => ho ⟨b, hb⟩
    obtain ⟨hclear, howes⟩ := FlagPhase.next_inside hi hno (vision.exec o x P.shared).1
    exact h.step_inside (exec_isBusy hno x P.shared) hclear howes

end Exclusive

/-! ## Every schedule -/

/-- The start-up leaves the flag alone. -/
theorem startUp_isBusy {regs : Nat → Nat} {s : VisionState}
    (hs : vision.Steps vision.anyChoice (startUp, .init regs) (.ret (), s)) :
    s.isBusy = false := by
  let Other (o : VisionOp) : Prop := ∀ b, o ≠ .writeIsBusy b
  have hopen : gripperOpen.Uses Other :=
    gripperOpen_taskStep.mono fun o ho b hb => by rw [hb] at ho; exact ho
  have hinit : gripperInit.Uses Other :=
    Prog.uses_bind ⟨nofun, fun r => Prog.uses_ofExcept r⟩ fun _ =>
      Prog.uses_bind ⟨nofun, fun r => Prog.uses_ofExcept r⟩ fun _ =>
        ⟨nofun, fun r => Prog.uses_ofExcept r⟩
  have huses : startUp.Uses Other := by
    refine Prog.uses_bind (Prog.uses_tryCatch (Prog.uses_bind hinit fun _ => hopen) ?_) fun _ => ?_
    · exact fun _ => trivial
    refine Prog.uses_bind (Prog.uses_tryCatch ⟨nofun, fun r => Prog.uses_ofExcept r⟩ ?_) fun _ => ?_
    · exact fun _ => trivial
    refine Prog.uses_bind ⟨nofun, fun r => Prog.uses_ofExcept r⟩ fun _ => ?_
    refine Prog.uses_bind ⟨nofun, fun r => Prog.uses_ofExcept r⟩ fun _ => ?_
    exact ⟨nofun, fun _ => trivial⟩
  have hwp : vision.Ends vision.anyChoice startUp (fun _ s => s.isBusy = false)
      (fun _ s => s.isBusy = false) (.init regs) := by
    refine Machine.wp_of_uses (I := fun s : VisionState => s.isBusy = false) ?_ huses rfl
    intro s o hbusy ho
    exact ⟨trivial, fun x _ => (exec_isBusy ho x s).trans hbusy⟩
  exact Machine.wp_returns (Q := fun _ s => s.isBusy = false) hwp hs

variable {regs : Nat → Nat} {s : VisionState} {detections : ι → List ObjectInfo}
  {h : Pool.History visionSig ι} {P' : Pool visionSig VisionState PyException Unit ι}

/-- Where each thread of a run stands. -/
theorem run_follows (hrun : Pool.Run vision vision.anyChoice (callbackPool s detections) h P')
    (i : ι) :
    Follows (P'.thread i) (fun ℓ => ℓ = .clear)
      (h.phases FlagPhase.next (fun _ => .clear) i) :=
  Machine.wp_steps (c := (publisherThread (detections i), FlagPhase.clear))
    (publisherThread_follows (detections i)) (hrun.thread_steps FlagPhase.next (fun _ => .clear) i)

/-- **No stuck flag.** For every number of publishers, every list of detections,
every schedule and every pattern of failures: while no callback is being
handled, the flag is clear. -/
theorem idle_not_busy
    (hs : vision.Steps vision.anyChoice (startUp, .init regs) (.ret (), s))
    (hrun : Pool.Run vision vision.anyChoice (callbackPool s detections) h P')
    (hidle : ∀ i, Handling (P'.thread i) = false) : P'.shared.isBusy = false := by
  have howner : SetByOwner P'.shared (h.phases FlagPhase.next fun _ => .clear) := by
    refine hrun.invariant (I := SetByOwner) ?_
      (fun i => publisherThread_follows (detections i))
      fun s ℓ i o x hinv _ hi => hinv.step x hi
    exact fun hbusy => absurd ((startUp_isBusy hs).symm.trans hbusy) Bool.false_ne_true
  by_contra hbusy
  obtain ⟨i, hi⟩ := howner (by simpa using hbusy)
  exact hi.1 (clear_of_not_handling (run_follows hrun i) (hidle i))

/-- **One task at a time.** For every number of publishers, every list of
detections and every pattern of failures: in every schedule in which each set of
the flag finds it still clear and no other callback about to reset it, at most
one task is in progress, and the flag is clear while no callback is being
handled. -/
theorem one_task_at_a_time
    (hs : vision.Steps vision.anyChoice (startUp, .init regs) (.ret (), s))
    (hrun : Pool.RunWith vision vision.anyChoice SetsAlone (callbackPool s detections) h P') :
    (∀ i j, InTask i h → InTask j h → i = j) ∧
    ((∀ i, Handling (P'.thread i) = false) → P'.shared.isBusy = false) := by
  have hinv : Exclusive P'.shared (h.phases FlagPhase.next fun _ => .clear) := by
    refine hrun.invariant (I := Exclusive) ?_
      (fun i => publisherThread_follows (detections i))
      fun P ℓ i o x hinv hthreads hC _ hi => hinv.step hthreads x hC hi
    exact ⟨fun _ _ hi => absurd rfl hi, fun _ hi => absurd rfl hi.1⟩
  have hphase : ∀ i, InTask i h → h.phases FlagPhase.next (fun _ => .clear) i ≠ .clear := by
    intro i hi hclear
    have hmap : decide (h.phases FlagPhase.next (fun _ => .clear) i = .inTask) =
        h.phases openTask (fun _ => false) i :=
      Pool.History.phases_map (f := fun ℓ : FlagPhase => decide (ℓ = .inTask))
        FlagPhase.next_inTask (fun _ => .clear) h i
    rw [hclear] at hmap
    exact absurd (hmap.trans hi) (by decide)
  exact ⟨fun i j hi hj => hinv.alone i j (hphase i hi) (hphase j hj), idle_not_busy hs hrun.run⟩

/-! ## Two publishers -/

/-- The node after a start-up without failures, asked for a bottle. -/
def ready : VisionState := (vision.run (fun _ => VisionOp.success) startUp (.init fun _ => 0)).2

theorem ready_steps :
    vision.Steps vision.anyChoice (startUp, .init fun _ => 0) (.ret (), ready) := by
  have hsteps : vision.Steps vision.anyChoice (startUp, .init fun _ => 0)
      (.ofExcept (vision.run (fun _ => VisionOp.success) startUp (.init fun _ => 0)).1, ready) :=
    Machine.run_steps (fun _ _ => trivial) _ _
  exact hsteps

/-- Turns of threads whose calls all succeed. -/
def turns {n : Nat} (order : List (Fin n)) :
    List (Fin n × ((o : visionSig.Op) → vision.Choice o)) :=
  order.map fun i => (i, VisionOp.success)

/-! The numbers of the threads. -/

local instance neZero_two : NeZero 2 := ⟨Nat.succ_ne_zero 1⟩

local instance neZero_three : NeZero 3 := ⟨Nat.succ_ne_zero 2⟩

/-- Each of two publishers reports the bottle. -/
def twoBottles (_ : Fin 2) : List ObjectInfo := [bottle]

/-- The second callback starts while the task of the first is in progress. -/
def duringTask : List (Fin 2) := List.replicate 10 0 ++ List.replicate 5 1

instance {n : Nat} (P : Pool visionSig VisionState PyException Unit (Fin n)) (i : Fin n)
    (o : VisionOp) : Decidable (SetsAlone P i o) := by
  unfold SetsAlone
  split <;> infer_instance

/-- `one_task_at_a_time` for a detection that is turned away. -/
theorem one_task_at_a_time_duringTask :
    let r := Pool.schedule vision (turns duringTask) (callbackPool ready twoBottles)
    InTask 0 r.1 ∧ (∀ i j, InTask i r.1 → InTask j r.1 → i = j) ∧
      ((∀ i, Handling (r.2.thread i) = false) → r.2.shared.isBusy = false) :=
  ⟨by decide +kernel,
    one_task_at_a_time ready_steps (Pool.schedule_runWith (by decide +kernel))⟩

/-- Both callbacks test the flag before one of them sets it. -/
def bothTest : List (Fin 2) := [0, 0, 0, 1, 1, 1, 0, 0, 1, 1]

/-- Without the condition two tasks can be in progress. -/
theorem two_tasks :
    ¬ ∀ (regs : Nat → Nat) (s : VisionState) (detections : Fin 2 → List ObjectInfo)
      (h : Pool.History visionSig (Fin 2))
      (P' : Pool visionSig VisionState PyException Unit (Fin 2)),
      vision.Steps vision.anyChoice (startUp, .init regs) (.ret (), s) →
      Pool.Run vision vision.anyChoice (callbackPool s detections) h P' →
      (∀ i j, InTask i h → InTask j h → i = j) ∧
        ((∀ i, Handling (P'.thread i) = false) → P'.shared.isBusy = false) := by
  intro hall
  let r := Pool.schedule vision (turns bothTest) (callbackPool ready twoBottles)
  have hone := (hall (fun _ => 0) ready twoBottles r.1 r.2 ready_steps
    (Pool.schedule_run _)).1 0 1 (by decide +kernel) (by decide +kernel)
  exact absurd hone (by decide)

/-- An object at the height of the camera, and two bottles. -/
def oneTooHigh : Fin 3 → List ObjectInfo
  | 0 => [⟨"bottle", 0, 0, 0⟩]
  | _ => [bottle]

/-- Between the two resets of the object out of range the second callback passes
the test and starts its task; the third one starts after both resets. -/
def betweenResets : List (Fin 3) := [0, 0, 0, 0, 0, 1, 1, 1, 1, 1, 0, 2, 2, 2, 2, 2]

/-- A set finds the flag still clear. -/
def SetsClear {n : Nat} (P : Pool visionSig VisionState PyException Unit (Fin n)) (_ : Fin n) :
    VisionOp → Prop
  | .writeIsBusy true => P.shared.isBusy = false
  | _ => True

instance {n : Nat} (P : Pool visionSig VisionState PyException Unit (Fin n)) (i : Fin n)
    (o : VisionOp) : Decidable (SetsClear P i o) := by
  unfold SetsClear
  split <;> infer_instance

/-- Nor is it enough that every set finds the flag still clear. -/
theorem two_tasks_after_reset :
    ¬ ∀ (regs : Nat → Nat) (s : VisionState) (detections : Fin 3 → List ObjectInfo)
      (h : Pool.History visionSig (Fin 3))
      (P' : Pool visionSig VisionState PyException Unit (Fin 3)),
      vision.Steps vision.anyChoice (startUp, .init regs) (.ret (), s) →
      Pool.RunWith vision vision.anyChoice SetsClear (callbackPool s detections) h P' →
      ∀ i j, InTask i h → InTask j h → i = j := by
  intro hall
  let r := Pool.schedule vision (turns betweenResets) (callbackPool ready oneTooHigh)
  have hone := hall (fun _ => 0) ready oneTooHigh r.1 r.2 ready_steps
    (Pool.schedule_runWith (by decide +kernel)) 1 2 (by decide +kernel) (by decide +kernel)
  exact absurd hone (by decide)

end HakRobot.Grab
