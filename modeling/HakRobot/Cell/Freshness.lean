import HakRobot.Detect.Node
import HakRobot.Grab.GripperCommands
import HakRobot.Grab.OneTask
import HakRobot.Proc.Log
import HakRobot.Proc.Reach
import HakRobot.Proc.Topic

/-!
# The detector node and the grasp node together

A detection passes three buffers on its way to a task: `latest_image`, the
`object_pose` topic, and the subscription, which keeps the newest message that
arrived. `rospy` hands a message to the callback when the one before it has
returned, so the callback never finds `is_busy` set: a detection that arrives
during a task is not dropped, it waits until the task is over.

* `fresh_tasks` — if no detection waits anywhere when a task ends, and
  `process_image` waits for a new image after it, every task starts from an
  image that arrived after the task before it;
* `stale_task` — two bottles in one image are enough for the second task to
  start from an image older than the first.
-/

namespace HakRobot.Cell

open HakRobot.Detect HakRobot.Grab HakRobot.Proc

/-- What the property is about: an image that `image_callback` stored, a task
that starts from a detection in image `k`, a task that ends. -/
inductive CellEvent
  | image (k : Nat)
  | taskStarted (k : Nat)
  | taskEnded
deriving DecidableEq

/-- Both nodes and the topic between them. -/
structure GraspCell where
  /-- how many images have arrived -/
  arrived : Nat
  detectNode : DetectorState
  /-- what is left of `process_image` -/
  processing : Detecting Unit
  /-- `object_pose` -/
  topic : Topic Detection
  /-- the image behind the detection of the callback -/
  handled : Nat
  /-- what is left of `object_pose_callback` -/
  callback : Routine Unit
  graspNode : VisionState
  /-- the newest event first -/
  history : List CellEvent

/-- Before the first image, with the grasp node ready for detections. -/
def GraspCell.start (graspNode : VisionState) : GraspCell where
  arrived := 0
  detectNode := ⟨none, none⟩
  processing := .ret ()
  topic := .empty
  handled := 0
  callback := .ret ()
  graspNode := graspNode
  history := []

/-- One step of the cell. -/
inductive CellAction
  | image (converted : Bool)
  | tick
  | process (pick : (o : DetectOp) → o.Choice)
  | transport (x : Transport)
  | deliver
  | grasp (pick : (o : VisionOp) → o.Choice)

/-- What an operation of the callback adds to the history. -/
def taskEvents (handled : Nat) (o : VisionOp) : List CellEvent :=
  if o.startsTask then [.taskStarted handled] else if o.endsTask then [.taskEnded] else []

namespace GraspCell

/-- The step function; `none` when the action is not possible. -/
def step (s : GraspCell) : CellAction → Option GraspCell
  | .image converted => some { s with
      arrived := s.arrived + 1
      detectNode := imageCallback s.arrived converted s.detectNode
      history := if converted then .image s.arrived :: s.history else s.history }
  | .tick =>
      match s.processing with
      | .ret _ => some { s with
          processing := processImage
          detectNode := { s.detectNode with taken := none } }
      -- an exception has ended the node
      | _ => none
  | .process pick =>
      match s.processing with
      | .op o k => some { s with
          processing := k (detector.exec o (pick o) s.detectNode).1
          detectNode := (detector.exec o (pick o) s.detectNode).2
          topic := s.topic.publish
            (publishedDetections o (detector.exec o (pick o) s.detectNode).1) }
      | _ => none
  | .transport x => (s.topic.move x).map fun topic => { s with topic := topic }
  | .deliver =>
      match s.callback, s.topic.take with
      -- the callback before this one is still running
      | .op _ _, _ => none
      | _, none => none
      | _, some (d, topic) => some { s with
          topic := topic
          handled := d.image
          callback := objectPoseCallback d.msg }
  | .grasp pick =>
      match s.callback with
      | .op o k => some { s with
          callback := k (vision.exec o (pick o) s.graspNode).1
          graspNode := (vision.exec o (pick o) s.graspNode).2
          history := taskEvents s.handled o ++ s.history }
      | _ => none

end GraspCell

/-! ## Freshness -/

/-- The events since the last task ended. -/
def sinceTask (h : List CellEvent) : List CellEvent := h.takeWhile (· ≠ .taskEnded)

/-- Image `k` arrived after the last task ended. -/
def Recent (h : List CellEvent) (k : Nat) : Prop := .taskEnded ∈ h → .image k ∈ sinceTask h

instance (h : List CellEvent) (k : Nat) : Decidable (Recent h k) :=
  inferInstanceAs (Decidable (_ → _))

/-- Every task starts from a recent image. -/
def FreshOk : CellEvent → List CellEvent → Prop
  | .taskStarted k, past => Recent past k
  | _, _ => True

instance (e : CellEvent) (past : List CellEvent) : Decidable (FreshOk e past) := by
  unfold FreshOk
  split <;> infer_instance

/-- The image that arrived last. -/
def newestImage : List CellEvent → Option Nat
  | [] => none
  | .image k :: _ => some k
  | _ :: past => newestImage past

theorem Recent.cons {h : List CellEvent} {k : Nat} {e : CellEvent} (hk : Recent h k)
    (he : e ≠ .taskEnded) : Recent (e :: h) k := by
  intro hmem
  rcases List.mem_cons.mp hmem with hmem | hmem
  · exact absurd hmem.symm he
  · simpa [sinceTask, he] using List.mem_cons_of_mem e (hk hmem)

theorem recent_image (h : List CellEvent) (k : Nat) : Recent (.image k :: h) k := by
  intro _
  simp [sinceTask]

/-- The newest image is recent when any image is. -/
theorem recent_newest {h : List CellEvent} {k : Nat} (hk : newestImage h = some k)
    (hsome : .taskEnded ∈ h → (newestImage (sinceTask h)).isSome = true) : Recent h k := by
  induction h with
  | nil => exact absurd hk (by simp [newestImage])
  | cons e past ih =>
      cases e with
      | image j =>
          obtain rfl : j = k := by simpa [newestImage] using hk
          exact recent_image past j
      | taskStarted j =>
          refine Recent.cons (ih hk fun hmem => ?_) (by simp)
          simpa [sinceTask, newestImage] using hsome (List.mem_cons_of_mem _ hmem)
      | taskEnded => exact absurd (hsome List.mem_cons_self) (by simp [sinceTask, newestImage])

/-! ## The condition -/

/-- No detection is queued, on its way or being computed. -/
structure GraspCell.Clear (s : GraspCell) : Prop where
  topic : s.topic = .empty
  processing : s.processing.Done ∨ s.detectNode.taken = none

/-- A task ends only when the cell is clear, and after that `latest_image` is
copied only once a new image has arrived. -/
def Timely (s : GraspCell) : CellAction → Prop
  | .grasp _ => ∀ o ∈ s.callback.next, o.endsTask = true → s.Clear
  | .process _ => ∀ o ∈ s.processing.next, o.copiesImage = true → .taskEnded ∈ s.history →
      (newestImage (sinceTask s.history)).isSome = true
  | _ => True

instance (s : GraspCell) : Decidable s.Clear :=
  decidable_of_iff (s.topic = .empty ∧ (s.processing.Done ∨ s.detectNode.taken = none))
    ⟨fun h => ⟨h.1, h.2⟩, fun h => ⟨h.topic, h.processing⟩⟩

instance (s : GraspCell) (a : CellAction) : Decidable (Timely s a) := by
  cases a <;> unfold Timely <;> infer_instance

/-! ## The invariant -/

/-- Whatever is in a buffer is recent. -/
structure Fresh (s : GraspCell) : Prop where
  latest : s.detectNode.latestImage = newestImage s.history
  taken : ¬ s.processing.Done → ∀ k, s.detectNode.taken = some k → Recent s.history k
  topic : s.topic.All (Recent s.history ·.image)
  processing : (Machine.monitor detectSig copied).wp (Machine.anyChoice _) OfCopied s.processing
    (fun _ _ => True) (fun _ _ => True) s.detectNode.taken
  /-- until its task has ended -/
  callback : ∃ ended, StartsOnce s.callback ended ∧ (ended = false → Recent s.history s.handled)
  history : Always FreshOk s.history

theorem fresh_start (graspNode : VisionState) : Fresh (.start graspNode) where
  latest := rfl
  taken h := absurd trivial h
  topic := Topic.all_empty
  processing := trivial
  callback := ⟨true, trivial, fun h => absurd h.symm Bool.false_ne_true⟩
  history := trivial

variable {s t : GraspCell}

/-- An event that ends no task leaves everything recent. -/
theorem Fresh.note (h : Fresh s) {e : CellEvent} (he : e ≠ .taskEnded) (hok : FreshOk e s.history)
    (arrived : Nat) {latest : Option Nat} (hlatest : latest = newestImage (e :: s.history)) :
    Fresh { s with
      arrived := arrived
      detectNode := { s.detectNode with latestImage := latest }
      history := e :: s.history } where
  latest := hlatest
  taken hrun k hk := (h.taken hrun k hk).cons he
  topic := h.topic.mono fun _ hd => hd.cons he
  processing := h.processing
  callback := by
    obtain ⟨ended, hstarts, hrecent⟩ := h.callback
    exact ⟨ended, hstarts, fun hended => (hrecent hended).cons he⟩
  history := ⟨hok, h.history⟩

/-- One operation of `process_image`. -/
theorem Fresh.process (h : Fresh s) {o : DetectOp} {k : o.Res → Detecting Unit}
    (hprocessing : s.processing = .op o k) (x : detector.Choice o)
    (htimely : o.copiesImage = true → .taskEnded ∈ s.history →
      (newestImage (sinceTask s.history)).isSome = true) :
    Fresh { s with
      processing := k (detector.exec o x s.detectNode).1
      detectNode := (detector.exec o x s.detectNode).2
      topic := s.topic.publish (publishedDetections o (detector.exec o x s.detectNode).1) } := by
  have hwp := h.processing
  rw [hprocessing] at hwp
  have hrun : ¬ s.processing.Done := by
    rw [hprocessing]
    exact id
  refine ⟨(latestImage_exec o x _).trans h.latest, ?_, ?_, ?_, h.callback, h.history⟩
  · intro _ j hj
    rcases copied_exec hj with hj | ⟨hcopy, hj⟩
    · exact h.taken hrun j hj
    · exact recent_newest (h.latest.symm.trans hj) (htimely hcopy)
  · -- what is published comes from the image that was taken
    exact h.topic.publish fun d hd => h.taken hrun d.image (OfCopied.published hwp.1 _ d hd)
  · rw [taken_exec]
    exact hwp.2 _ trivial

/-- One operation of the callback. -/
theorem Fresh.grasp (h : Fresh s) {o : VisionOp} {k : o.Res → Routine Unit}
    (hcallback : s.callback = .op o k) (x : vision.Choice o)
    (htimely : o.endsTask = true → s.Clear) :
    Fresh { s with
      callback := k (vision.exec o x s.graspNode).1
      graspNode := (vision.exec o x s.graspNode).2
      history := taskEvents s.handled o ++ s.history } := by
  obtain ⟨ended, hstarts, hrecent⟩ := h.callback
  rw [hcallback] at hstarts
  have hnext : StartsOnce (k (vision.exec o x s.graspNode).1) (ended || o.endsTask) :=
    hstarts.2 _ trivial
  by_cases hends : o.endsTask = true
  · -- nothing is left that could be stale
    have hstart : o.startsTask = false := by
      cases o with
      | mark e => cases e <;> first | rfl | exact absurd hends Bool.false_ne_true
      | _ => rfl
    obtain ⟨htopic, hprocessing⟩ := htimely hends
    simp only [taskEvents, hstart, hends, Bool.false_eq_true, if_false, if_true]
    refine ⟨h.latest, ?_, ?_, h.processing, ⟨true, ?_, by simp⟩, trivial, h.history⟩
    · -- `latest_image` may be stale now, but it has not been copied yet
      intro hrun j hj
      rcases hprocessing with hdone | hnone
      · exact absurd hdone hrun
      · exact absurd (hnone.symm.trans hj) (by simp)
    · show s.topic.All _
      rw [htopic]
      exact Topic.all_empty
    · rw [hends, Bool.or_true] at hnext
      exact hnext
  · rw [Bool.not_eq_true] at hends
    rw [hends, Bool.or_false] at hnext
    have hs : Fresh { s with
        callback := k (vision.exec o x s.graspNode).1
        graspNode := (vision.exec o x s.graspNode).2 } :=
      ⟨h.latest, h.taken, h.topic, h.processing, ⟨ended, hnext, hrecent⟩, h.history⟩
    by_cases hstart : o.startsTask = true
    · simp only [taskEvents, hstart, if_true]
      have hok : FreshOk (.taskStarted s.handled) s.history := hrecent (hstarts.1 hstart)
      exact hs.note (by simp) hok s.arrived h.latest
    · rw [Bool.not_eq_true] at hstart
      simp only [taskEvents, hstart, hends, Bool.false_eq_true, if_false, List.nil_append]
      exact hs

/-- One step, by the action. -/
theorem Fresh.step (h : Fresh s) {a : CellAction} (htimely : Timely s a)
    (hstep : s.step a = some t) : Fresh t := by
  cases a with
  | image converted =>
      obtain rfl := Option.some.inj hstep
      cases converted with
      | true => exact h.note (e := .image s.arrived) (by simp) trivial (s.arrived + 1) rfl
      | false => exact ⟨h.latest, h.taken, h.topic, h.processing, h.callback, h.history⟩
  | tick =>
      simp only [GraspCell.step] at hstep
      split at hstep
      · obtain rfl := Option.some.inj hstep
        refine ⟨h.latest, ?_, h.topic, processImage_spec none, h.callback, h.history⟩
        exact fun _ k hk => absurd hk (by simp)
      · exact absurd hstep (by simp)
  | process pick =>
      simp only [GraspCell.step] at hstep
      split at hstep
      · rename_i o k hprocessing
        obtain rfl := Option.some.inj hstep
        exact h.process hprocessing (pick o) (htimely o (by rw [hprocessing]; rfl))
      · exact absurd hstep (by simp)
  | transport x =>
      obtain ⟨topic, hmove, rfl⟩ := Option.map_eq_some_iff.mp hstep
      exact ⟨h.latest, h.taken, h.topic.move hmove, h.processing, h.callback, h.history⟩
  | deliver =>
      simp only [GraspCell.step] at hstep
      split at hstep
      · exact absurd hstep (by simp)
      · exact absurd hstep (by simp)
      · rename_i d topic htake _
        obtain rfl := Option.some.inj hstep
        obtain ⟨hd, htopic⟩ := h.topic.take htake
        exact ⟨h.latest, h.taken, htopic, h.processing,
          ⟨false, objectPoseCallback_startsOnce d.msg, fun _ => hd⟩, h.history⟩
  | grasp pick =>
      simp only [GraspCell.step] at hstep
      split at hstep
      · rename_i o k hcallback
        obtain rfl := Option.some.inj hstep
        exact h.grasp hcallback (pick o) (htimely o (by rw [hcallback]; rfl))
      · exact absurd hstep (by simp)

/-- **Fresh tasks.** In every run in which a task ends only while no detection is
queued, on its way or being computed, and `latest_image` is copied after that
only once a new image has arrived, every task starts from a detection in an
image that arrived after the task before it had ended. -/
theorem fresh_tasks (graspNode : VisionState) {s : GraspCell}
    (hrun : Reach GraspCell.step Timely (.start graspNode) s) : Always FreshOk s.history :=
  (Reach.invariant (I := Fresh) (fresh_start graspNode)
    (fun _ _ _ h htimely hstep => h.step htimely hstep) hrun).history

/-! ## Two bottles -/

/-- Every call of the detector succeeds, and it finds bottles in `boxes`. -/
def finds (boxes : List (Box ℚ)) : (o : DetectOp) → o.Choice
  | .latestImageIsNone | .copyLatestImage => ()
  | .predict _ => some (some (boxes.map fun box => (TARGET_CLASS, box)))
  | .publish _ | .imshow => some ()

/-- A new image, and `process_image` on it. -/
def looks (boxes : List (Box ℚ)) : List CellAction :=
  .image true :: .tick :: List.replicate (4 + boxes.length) (.process (finds boxes))

/-- `n` operations of the callback, all successful; a whole callback has 93. -/
def grasps (n : Nat) : List CellAction := List.replicate n (.grasp VisionOp.success)

/-- The grasp node after a start-up for bottles. -/
def readyForBottles : VisionState :=
  { VisionState.init (fun _ => 0) with objectMsg := some "bottle" }

/-- A box near the centre of the image. -/
def nearCentre : Box ℚ := ⟨1600, 900, 1640, 980⟩

/-- A box to the right of it. -/
def besideCentre : Box ℚ := ⟨1700, 900, 1740, 980⟩

/-- One bottle is grasped, and then another one from a new image. -/
def oneByOne : List CellAction :=
  looks [nearCentre] ++ [.transport .arrive, .deliver] ++ grasps 93 ++
    looks [besideCentre] ++ [.transport .arrive, .deliver] ++ grasps 93

/-- Both bottles are in one image, and the second detection arrives while the
first is being grasped. -/
def bothAtOnce : List CellAction :=
  looks [nearCentre, besideCentre] ++ [.transport .arrive, .deliver, .transport .arrive] ++
    grasps 93 ++ [.deliver] ++ grasps 93

theorem oneByOne_timely : Meets GraspCell.step Timely oneByOne (.start readyForBottles) := by
  decide +kernel

/-- The cell after these actions. Irreducible, so that only the kernel runs it. -/
@[irreducible]
def after (as : List CellAction) : GraspCell := follow GraspCell.step (.start readyForBottles) as

theorem after_reach {C : GraspCell → CellAction → Prop} {as : List CellAction}
    (hC : Meets GraspCell.step C as (.start readyForBottles)) :
    Reach GraspCell.step C (.start readyForBottles) (after as) := by
  unfold after
  exact follow_reach hC

/-- `fresh_tasks` for two bottles in two images. -/
theorem fresh_tasks_oneByOne :
    (after oneByOne).history =
      [.taskEnded, .taskStarted 1, .image 1, .taskEnded, .taskStarted 0, .image 0] ∧
    Always FreshOk (after oneByOne).history :=
  ⟨by decide +kernel, fresh_tasks readyForBottles (after_reach oneByOne_timely)⟩

/-- The second detection is not dropped, it waits in the queue; by the time its
task starts, its image is older than the end of the first task. -/
theorem stale_task :
    ¬ ∀ (graspNode : VisionState) (s : GraspCell),
      Reach GraspCell.step (fun _ _ => True) (.start graspNode) s → Always FreshOk s.history := by
  intro hall
  have hfresh := hall readyForBottles _ (after_reach (meets_true bothAtOnce _))
  revert hfresh
  decide +kernel

end HakRobot.Cell
