import HakRobot.Grab.Task
import HakRobot.Proc.Log

/-!
# What the functions of the grasp node log

One specification for each function, over any condition `ok` on the events of
the log that holds of the events no theorem speaks of (`Neutral`). `Safe` says
that the log meets `ok` before every operation; every specification also keeps
it to both exits.
-/

namespace HakRobot.Grab

open HakRobot.Geometry HakRobot.Proc

variable {R : vision.Rely} {ok : VisionEvent → List VisionEvent → Prop} {α : Type}

/-- `p` from `s` meets `ok` throughout, and ends in `Q` or raises in `E`. -/
abbrev Safe (R : vision.Rely) (ok : VisionEvent → List VisionEvent → Prop) (p : Routine α)
    (Q : α → VisionState → Prop) (E : VisionState → Prop) (s : VisionState) : Prop :=
  vision.wp R (fun s _ => Always ok s.log) p (fun a s' => Always ok s'.log ∧ Q a s')
    (fun _ s' => Always ok s'.log ∧ E s') s

/-- Sequencing. -/
theorem Safe.seq {β : Type} {p : Routine α} {f : α → Routine β} {P : α → VisionState → Prop}
    {Q : β → VisionState → Prop} {E F : VisionState → Prop} {s : VisionState}
    (hp : Safe R ok p P F s)
    (hf : ∀ a s', Always ok s'.log → P a s' → Safe R ok (f a) Q E s')
    (hE : ∀ s', F s' → E s') : Safe R ok (p.bind f) Q E s :=
  Machine.wp_seq hp (fun a s' h => hf a s' h.1 h.2) fun _ s' h => ⟨h.1, hE s' h.2⟩

theorem Safe.mono {p : Routine α} {P Q : α → VisionState → Prop} {E F : VisionState → Prop}
    {s : VisionState} (hp : Safe R ok p P F s) (hQ : ∀ a s', P a s' → Q a s')
    (hE : ∀ s', F s' → E s') : Safe R ok p Q E s :=
  Machine.wp_mono (fun a s' h => ⟨h.1, hQ a s' h.2⟩) (fun _ s' h => ⟨h.1, hE s' h.2⟩) hp

/-- The events that no condition of this development restricts. -/
def VisionEvent.Neutral : VisionEvent → Prop
  | .trigger _ _ | .gripperOpenCalled | .graspCalled | .taskReturned _ => False
  | _ => True

/-! ## Single operations -/

theorem mark_spec {e : VisionEvent} {s : VisionState} (hs : Always ok s.log) (he : ok e s.log) :
    Safe R ok (mark e) (fun _ s' => s'.log = e :: s.log) (fun _ => False) s :=
  ⟨hs, fun _ _ => ⟨⟨he, hs⟩, rfl⟩⟩

/-- An operation that leaves the registers and the log alone. -/
def Silent : VisionOp → Prop
  | .writeRegister _ _ | .writeLong _ _ | .plan | .publish _ | .mark _ => False
  | _ => True

theorem Silent.log_eq {o : VisionOp} (h : Silent o) (x : vision.Choice o) (s : VisionState) :
    (vision.exec o x s).2.log = s.log := by
  cases o with
  | writeRegister _ _ => exact h.elim
  | writeLong _ _ => exact h.elim
  | plan => exact h.elim
  | publish _ => exact h.elim
  | mark _ => exact h.elim
  | _ => rfl

theorem silent_spec {p : Routine α} (hp : p.Uses Silent) {s : VisionState}
    (hs : Always ok s.log) :
    Safe R ok p (fun _ s' => s'.log = s.log) (fun s' => s'.log = s.log) s := by
  have hlog : ∀ s' : VisionState, s'.log = s.log → Always ok s'.log ∧ s'.log = s.log :=
    fun s' h => ⟨h ▸ hs, h⟩
  refine Machine.wp_mono (Q := fun _ s' => s'.log = s.log) (E := fun _ s' => s'.log = s.log)
    (fun _ s' h => hlog s' h) (fun _ s' h => hlog s' h) ?_
  refine Machine.wp_of_uses (I := fun s' : VisionState => s'.log = s.log) ?_ hp rfl
  intro s' o h ho
  exact ⟨(hlog s' h).1, fun x _ => (ho.log_eq x s').trans h⟩

theorem rospySleep_silent (seconds : ℚ) : (rospySleep seconds).Uses Silent :=
  ⟨trivial, fun r => Prog.uses_ofExcept r⟩

theorem countdown_silent (n : Nat) : (countdown n).Uses Silent := by
  induction n with
  | zero => exact trivial
  | succ n ih => exact Prog.uses_bind (rospySleep_silent 1) fun _ => ih

/-! ## The gripper -/

/-- The registers that `force`, `speed` and `position` are written to. -/
def settingFor (force speed position : Nat) : GripperSetting :=
  ⟨force, speed, position / 65536, position % 65536⟩

/-- A sleep that raises keeps the state. -/
theorem rospySleep_spec (seconds : ℚ) {s : VisionState} (hs : Always ok s.log) :
    Safe R ok (rospySleep seconds) (fun _ s' => s'.log = s.log)
      (fun s' => s' = s ∧ R s (.rospySleep seconds) none) s := by
  refine ⟨hs, fun (x : Option Unit) hx => ?_⟩
  cases x with
  | none => exact ⟨hs, rfl, hx⟩
  | some _ => exact ⟨hs, rfl⟩

theorem writeRegister_spec {address value : Nat} (ha : address ≠ MOTION_TRIGGER)
    {s : VisionState} (hs : Always ok s.log) :
    Safe R ok (writeRegister address value)
      (fun _ s' => s'.log = s.log ∧ s'.regs = Function.update s.regs address value)
      (fun s' => s'.log = s.log) s := by
  refine ⟨hs, fun (x : WriteOutcome) _ => ?_⟩
  have hwrite : s.noteWrite address x = s := if_neg ha
  show vision.wp R _ (Prog.ofExcept x.result) _ _ (s.writeRegister address value x)
  unfold VisionState.writeRegister
  rw [hwrite]
  cases x with
  | ok => exact ⟨hs, rfl, rfl⟩
  | raised applied => cases applied <;> exact ⟨hs, rfl⟩

theorem writeLong_spec {address value : Nat} {s : VisionState} (hs : Always ok s.log) :
    Safe R ok (writeLong address value)
      (fun _ s' => s'.log = s.log ∧ s'.regs = Function.update
        (Function.update s.regs address (value / 65536)) (address + 1) (value % 65536))
      (fun s' => s'.log = s.log) s := by
  refine ⟨hs, fun (x : WriteOutcome) _ => ?_⟩
  cases x with
  | ok => exact ⟨hs, rfl, rfl⟩
  | raised applied => cases applied <;> exact ⟨hs, rfl⟩

/-- The write that starts a motion is logged with the registers it found. -/
theorem trigger_spec {s : VisionState} (hs : Always ok s.log)
    (hok : ∀ outcome, ok (.trigger s.setting outcome) s.log) :
    Safe R ok (writeRegister MOTION_TRIGGER 1)
      (fun _ s' => s'.log = .trigger s.setting .ok :: s.log)
      (fun s' => ∃ applied, R s (.writeRegister MOTION_TRIGGER 1) (.raised applied) ∧
        s'.log = .trigger s.setting (.raised applied) :: s.log) s := by
  refine ⟨hs, fun (x : WriteOutcome) hx => ?_⟩
  cases x with
  | ok => exact ⟨⟨hok .ok, hs⟩, rfl⟩
  | raised applied =>
      have hlog : (s.writeRegister MOTION_TRIGGER 1 (.raised applied)).log =
          .trigger s.setting (.raised applied) :: s.log := by
        cases applied <;> rfl
      refine ⟨?_, applied, hx, hlog⟩
      show Always ok (s.writeRegister MOTION_TRIGGER 1 (.raised applied)).log
      rw [hlog]
      exact ⟨hok _, hs⟩

/-- How a gripper command that raised left the log: no motion was triggered, or
the trigger itself raised, or the wait after it. -/
inductive CommandFailed (R : vision.Rely) (setting : GripperSetting) (seconds : ℚ)
    (log log' : List VisionEvent) : Prop
  | before (h : log' = log)
  | trigger (t : VisionState) (applied : Bool) (ht : t.log = log) (hset : t.setting = setting)
      (hR : R t (.writeRegister MOTION_TRIGGER 1) (.raised applied))
      (h : log' = .trigger setting (.raised applied) :: log)
  | wait (t : VisionState) (ht : t.log = log') (hR : R t (.rospySleep seconds) none)
      (h : log' = .trigger setting .ok :: log)

/-- Force, speed and position are written before the trigger, so a command that
gets to its trigger finds its own setting in the registers, whatever was there
before. -/
theorem command_spec (force speed position : Nat) (seconds : ℚ) {s : VisionState}
    (hs : Always ok s.log)
    (hok : ∀ outcome, ok (.trigger (settingFor force speed position) outcome) s.log) :
    Safe R ok
      (do gripperSetForce force; gripperSetSpeed speed; gripperMoveTo position
          rospySleep seconds)
      (fun _ s' => s'.log = .trigger (settingFor force speed position) .ok :: s.log)
      (fun s' => CommandFailed R (settingFor force speed position) seconds s.log s'.log) s := by
  refine Safe.seq (writeRegister_spec (by decide) hs) ?_ fun _ h => .before h
  intro _ s₁ hs₁ hpost
  rcases hpost with ⟨hlog₁, hregs₁⟩
  refine Safe.seq (writeRegister_spec (by decide) hs₁) ?_ fun _ h => .before (h.trans hlog₁)
  intro _ s₂ hs₂ hpost
  rcases hpost with ⟨hlog₂, hregs₂⟩
  have hlog : s₂.log = s.log := hlog₂.trans hlog₁
  refine Safe.seq
    (P := fun _ s' => s'.log = .trigger (settingFor force speed position) .ok :: s.log)
    (F := fun s' => CommandFailed R (settingFor force speed position) seconds s.log s'.log)
    ?_ ?_ fun _ h => h
  · refine Safe.seq (writeLong_spec hs₂) ?_ fun _ h => .before (h.trans hlog)
    intro _ s₃ hs₃ hpost
    rcases hpost with ⟨hlog₃, hregs₃⟩
    have hset : s₃.setting = settingFor force speed position := by
      simp [VisionState.setting, settingFor, hregs₃, hregs₂, hregs₁, FORCE, SPEED,
        POSITION_HIGH_8, POSITION_LOW_8, Function.update]
    rw [hlog] at hlog₃
    refine Safe.mono (trigger_spec hs₃ ?_) ?_ ?_
    · rw [hset, hlog₃]
      exact hok
    · intro _ s' h
      rw [h, hset, hlog₃]
    · intro s' hpost
      rcases hpost with ⟨applied, hR, h⟩
      rw [hset, hlog₃] at h
      exact .trigger s₃ applied hlog₃ hset hR h
  · intro _ s₄ hs₄ hlog₄
    refine Safe.mono (rospySleep_spec seconds hs₄) ?_ ?_
    · exact fun _ s' h => h.trans hlog₄
    · intro s' hpost
      rcases hpost with ⟨rfl, hR⟩
      exact .wait s' rfl hR hlog₄

/-- The setting of `gripper_open`. -/
def openSetting : GripperSetting :=
  settingFor GRIPPER_FORCE_FULL GRIPPER_SPEED GRIPPER_OPEN_POSITION

/-- The setting of `gripper_grasp_gentle`. -/
def gentleSetting : GripperSetting :=
  settingFor GRIPPER_FORCE_GENTLE 50 GRIPPER_CLOSE_POSITION

theorem gripperOpen_spec {s : VisionState} (hs : Always ok s.log)
    (hcall : ok .gripperOpenCalled s.log)
    (htrigger : ∀ outcome, ok (.trigger openSetting outcome) (.gripperOpenCalled :: s.log)) :
    Safe R ok gripperOpen
      (fun _ s' => s'.log = .trigger openSetting .ok :: .gripperOpenCalled :: s.log)
      (fun s' => CommandFailed R openSetting 2 (.gripperOpenCalled :: s.log) s'.log) s := by
  refine Safe.seq (mark_spec hs hcall) ?_ fun _ h => h.elim
  intro _ s₁ hs₁ hlog₁
  rw [← hlog₁] at htrigger ⊢
  exact command_spec _ _ _ _ hs₁ htrigger

theorem gripperGraspGentle_spec {s : VisionState} (hs : Always ok s.log)
    (hcall : ok .graspCalled s.log)
    (htrigger : ∀ outcome, ok (.trigger gentleSetting outcome) (.graspCalled :: s.log)) :
    Safe R ok gripperGraspGentle
      (fun _ s' => s'.log = .trigger gentleSetting .ok :: .graspCalled :: s.log)
      (fun s' => CommandFailed R gentleSetting 4 (.graspCalled :: s.log) s'.log) s := by
  refine Safe.seq (mark_spec hs hcall) ?_ fun _ h => h.elim
  intro _ s₁ hs₁ hlog₁
  rw [← hlog₁] at htrigger ⊢
  exact command_spec _ _ _ _ hs₁ htrigger

/-! ## Motions -/

/-- A plan received or a message published. -/
def VisionEvent.Planning : VisionEvent → Prop
  | .planned _ | .published _ => True
  | _ => False

/-- `msg` asks for the last point of the plan of `result`, and for nothing else. -/
def EndPointOf (result : PlanResult) (msg : JointTrajectory) : Prop :=
  ∃ last, result.plan.points.getLast? = some last ∧ msg.points = [last]

/-- How the body of a motion that returned `b` changed the log. -/
def BodyLog (b : Bool) (log log' : List VisionEvent) : Prop :=
  ∃ mid, log' = mid ++ log ∧ (∀ e ∈ mid, e.Planning) ∧
    (b = true → ∃ result msg, EndPointOf result msg ∧ mid = [.published msg, .planned result])

/-- How a body that raised changed it. -/
def BodyFailed (log log' : List VisionEvent) : Prop :=
  ∃ mid, log' = mid ++ log ∧ ∀ e ∈ mid, e.Planning

theorem BodyFailed.of_eq {log log' : List VisionEvent} (h : log' = log) : BodyFailed log log' :=
  ⟨[], h, fun _ he => absurd he List.not_mem_nil⟩

/-- How a motion that returned `b` changed the log. -/
def MotionLog (m : ArmMotion) (b : Bool) (log log' : List VisionEvent) : Prop :=
  ∃ inner, BodyLog b (.motionRequested m :: log) inner ∧ log' = .motionReturned m b :: inner

/-- How a motion that raised changed it. -/
abbrev MotionFailed (m : ArmMotion) (log log' : List VisionEvent) : Prop :=
  BodyFailed (.motionRequested m :: log) log'

section Motions

variable (hneutral : ∀ e past, VisionEvent.Neutral e → ok e past)

include hneutral

theorem plan_spec {s : VisionState} (hs : Always ok s.log) :
    Safe R ok plan (fun result s' => s'.log = .planned result :: s.log)
      (fun s' => s'.log = s.log) s := by
  refine ⟨hs, fun (x : Option PlanResult) _ => ?_⟩
  cases x with
  | none => exact ⟨hs, rfl⟩
  | some result => exact ⟨⟨hneutral _ _ trivial, hs⟩, rfl⟩

theorem publish_spec (msg : JointTrajectory) {s : VisionState} (hs : Always ok s.log) :
    Safe R ok (publish msg) (fun _ s' => s'.log = .published msg :: s.log)
      (fun s' => s'.log = s.log) s := by
  refine ⟨hs, fun (x : Option Unit) _ => ?_⟩
  cases x with
  | none => exact ⟨hs, rfl⟩
  | some _ => exact ⟨⟨hneutral _ _ trivial, hs⟩, rfl⟩

/-- `True` means that the end point was published. -/
theorem publishToHkDriver_spec (result : PlanResult) {s : VisionState} (hs : Always ok s.log) :
    Safe R ok (publishToHkDriver result.plan)
      (fun b s' => (b = false ∧ s'.log = s.log) ∨
        (b = true ∧ ∃ msg, EndPointOf result msg ∧ s'.log = .published msg :: s.log))
      (fun s' => s'.log = s.log ∨ ∃ msg, s'.log = .published msg :: s.log) s := by
  unfold publishToHkDriver
  split
  · exact ⟨hs, .inl ⟨rfl, rfl⟩⟩
  · dsimp only
    split
    · exact ⟨hs, .inl ⟨rfl, rfl⟩⟩
    · rename_i hne
      obtain ⟨last, hlast⟩ : ∃ last, result.plan.points.getLast? = some last := by
        cases hl : result.plan.points.getLast? with
        | none => simp [downsampleTrajectoryPoints, hl] at hne
        | some last => exact ⟨last, rfl⟩
      refine Safe.seq (silent_spec (p := timeNow) ⟨trivial, fun r => Prog.uses_ofExcept r⟩ hs)
        ?_ fun _ h => .inl h
      intro stamp s₁ hs₁ hlog₁
      refine Safe.seq (silent_spec (p := execute _) ⟨trivial, fun r => Prog.uses_ofExcept r⟩ hs₁)
        ?_ fun _ h => .inl (h.trans hlog₁)
      intro _ s₂ hs₂ hlog₂
      rw [hlog₁] at hlog₂
      refine Safe.seq (publish_spec hneutral _ hs₂) ?_ fun _ h => .inl (h.trans hlog₂)
      intro _ s₃ hs₃ hlog₃
      rw [hlog₂] at hlog₃
      refine Safe.seq (silent_spec (rospySleep_silent _) hs₃) ?_ fun _ h =>
        .inr ⟨_, h.trans hlog₃⟩
      intro _ s₄ hs₄ hlog₄
      refine ⟨hs₄, .inr ⟨rfl, _, ⟨last, hlast, ?_⟩, hlog₄.trans hlog₃⟩⟩
      simp [downsampleTrajectoryPoints, hlast]

/-- What both motions do with a plan. -/
theorem usePlan_spec (result : PlanResult) {log : List VisionEvent} {s : VisionState}
    (hs : Always ok s.log) (hlog : s.log = .planned result :: log) :
    Safe R ok (if result.success then publishToHkDriver result.plan else return false)
      (fun b s' => BodyLog b log s'.log) (fun s' => BodyFailed log s'.log) s := by
  split
  · refine Safe.mono (publishToHkDriver_spec hneutral result hs) ?_ ?_
    · intro b s' hpost
      rcases hpost with ⟨rfl, h⟩ | ⟨rfl, msg, hmsg, h⟩
      · refine ⟨[.planned result], h.trans hlog, ?_, fun hb => absurd hb Bool.false_ne_true⟩
        exact List.forall_mem_singleton.mpr trivial
      · refine ⟨[.published msg, .planned result], ?_, ?_, fun _ => ⟨result, msg, hmsg, rfl⟩⟩
        · rw [h, hlog]
          rfl
        · simp [VisionEvent.Planning]
    · intro s' hpost
      rcases hpost with h | ⟨msg, h⟩
      · exact ⟨[.planned result], h.trans hlog, List.forall_mem_singleton.mpr trivial⟩
      · refine ⟨[.published msg, .planned result], ?_, by simp [VisionEvent.Planning]⟩
        rw [h, hlog]
        rfl
  · refine ⟨hs, [.planned result], hlog, ?_, fun hb => absurd hb Bool.false_ne_true⟩
    exact List.forall_mem_singleton.mpr trivial

theorem planToPose_spec (x y z : ℚ) {s : VisionState} (hs : Always ok s.log) :
    Safe R ok (planToPose x y z) (fun b s' => BodyLog b s.log s'.log)
      (fun s' => BodyFailed s.log s'.log) s := by
  have hflange : (tcpToFlange x y z).Uses Silent :=
    Prog.uses_bind ⟨trivial, fun r => Prog.uses_ofExcept r⟩ fun _ => trivial
  refine Safe.seq (silent_spec hflange hs) ?_ fun _ h => .of_eq h
  intro flange s₁ hs₁ hlog₁
  refine Safe.seq (silent_spec (p := getCurrentPose) ⟨trivial, fun r => Prog.uses_ofExcept r⟩ hs₁)
    ?_ fun _ h => .of_eq (h.trans hlog₁)
  intro currentPose s₂ hs₂ hlog₂
  rw [hlog₁] at hlog₂
  refine Safe.seq (silent_spec (p := setStartStateToCurrentState)
    ⟨trivial, fun r => Prog.uses_ofExcept r⟩ hs₂) ?_ fun _ h => .of_eq (h.trans hlog₂)
  intro _ s₃ hs₃ hlog₃
  rw [hlog₂] at hlog₃
  refine Safe.seq (silent_spec (p := setPoseTarget _)
    ⟨trivial, fun r => Prog.uses_ofExcept r⟩ hs₃) ?_ fun _ h => .of_eq (h.trans hlog₃)
  intro _ s₄ hs₄ hlog₄
  rw [hlog₃] at hlog₄
  refine Safe.seq (plan_spec hneutral hs₄) ?_ fun _ h => .of_eq (h.trans hlog₄)
  intro result s₅ hs₅ hlog₅
  rw [hlog₄] at hlog₅
  refine Safe.seq (silent_spec (p := clearPoseTargets)
    ⟨trivial, fun r => Prog.uses_ofExcept r⟩ hs₅) ?_ ?_
  · intro _ s₆ hs₆ hlog₆
    exact usePlan_spec hneutral result hs₆ (hlog₆.trans hlog₅)
  · exact fun _ h => ⟨[.planned result], h.trans hlog₅, List.forall_mem_singleton.mpr trivial⟩

theorem planToJointValues_spec (jointValues : List ℚ) {s : VisionState} (hs : Always ok s.log) :
    Safe R ok (planToJointValues jointValues) (fun b s' => BodyLog b s.log s'.log)
      (fun s' => BodyFailed s.log s'.log) s := by
  refine Safe.seq (silent_spec (p := setStartStateToCurrentState)
    ⟨trivial, fun r => Prog.uses_ofExcept r⟩ hs) ?_ fun _ h => .of_eq h
  intro _ s₁ hs₁ hlog₁
  refine Safe.seq (silent_spec (p := setJointValueTarget _)
    ⟨trivial, fun r => Prog.uses_ofExcept r⟩ hs₁) ?_ fun _ h => .of_eq (h.trans hlog₁)
  intro _ s₂ hs₂ hlog₂
  rw [hlog₁] at hlog₂
  refine Safe.seq (plan_spec hneutral hs₂) ?_ fun _ h => .of_eq (h.trans hlog₂)
  intro result s₃ hs₃ hlog₃
  rw [hlog₂] at hlog₃
  exact usePlan_spec hneutral result hs₃ hlog₃

/-- A motion logs its request, what its body logs, and its return. -/
theorem motion_spec (m : ArmMotion) {body : Routine Bool} {s : VisionState}
    (hbody : ∀ s' : VisionState, Always ok s'.log → Safe R ok body
      (fun b t => BodyLog b s'.log t.log) (fun t => BodyFailed s'.log t.log) s')
    (hs : Always ok s.log) :
    Safe R ok (motion m body) (fun b s' => MotionLog m b s.log s'.log)
      (fun s' => MotionFailed m s.log s'.log) s := by
  refine Safe.seq (mark_spec hs (hneutral _ _ trivial)) ?_ fun _ h => h.elim
  intro _ s₁ hs₁ hlog₁
  have hbody₁ := hbody s₁ hs₁
  rw [hlog₁] at hbody₁
  refine Safe.seq hbody₁ ?_ fun _ h => h
  intro b s₂ hs₂ hb
  refine Safe.seq (mark_spec hs₂ (hneutral _ _ trivial)) ?_ fun _ h => h.elim
  intro _ s₃ hs₃ hlog₃
  exact ⟨hs₃, s₂.log, hb, hlog₃⟩

theorem moveToPoseJointSpace_spec (x y z : ℚ) {s : VisionState} (hs : Always ok s.log) :
    Safe R ok (moveToPoseJointSpace x y z) (fun b s' => MotionLog (.pose x y z) b s.log s'.log)
      (fun s' => MotionFailed (.pose x y z) s.log s'.log) s :=
  motion_spec hneutral _ (fun _ h => planToPose_spec hneutral x y z h) hs

theorem moveToJointValues_spec (jointValues : List ℚ) {s : VisionState} (hs : Always ok s.log) :
    Safe R ok (moveToJointValues jointValues)
      (fun b s' => MotionLog (.joints jointValues) b s.log s'.log)
      (fun s' => MotionFailed (.joints jointValues) s.log s'.log) s :=
  motion_spec hneutral _ (fun _ h => planToJointValues_spec hneutral jointValues h) hs

end Motions

/-! ## The task -/

/-- A task logs its start and its end around its steps. -/
theorem pickAndPlaceTask_spec (hneutral : ∀ e past, VisionEvent.Neutral e → ok e past)
    (base : Vec3 ℚ) {P : Bool → List VisionEvent → Prop} {F : List VisionEvent → Prop}
    {s : VisionState} (hs : Always ok s.log)
    (hsteps : ∀ s' : VisionState, Always ok s'.log → s'.log = .taskStarted base :: s.log →
      Safe R ok (pickAndPlaceSteps base) (fun b t => P b t.log) (fun t => F t.log) s')
    (hreturn : ∀ b log, P b log → ok (.taskReturned b) log) :
    Safe R ok (pickAndPlaceTask base)
      (fun b s' => ∃ log, P b log ∧ s'.log = .taskReturned b :: log)
      (fun s' => ∃ log, F log ∧ s'.log = .taskRaised :: log) s := by
  refine Safe.seq (mark_spec hs (hneutral _ _ trivial)) ?_ fun _ h => h.elim
  intro _ s₁ hs₁ hlog₁
  have hcaught : Safe R ok
      ((pickAndPlaceSteps base).tryCatch fun e => (mark .taskRaised).bind fun _ => .raise e)
      (fun b t => P b t.log) (fun t => ∃ log, F log ∧ t.log = .taskRaised :: log) s₁ := by
    refine Machine.wp_catch (hsteps s₁ hs₁ hlog₁) fun e t ht => ?_
    refine Machine.wp_seq (mark_spec ht.1 (hneutral _ _ trivial)) ?_ fun _ _ h => h.2.elim
    exact fun _ t' ht' => ⟨ht'.1, t.log, ht.2, ht'.2⟩
  refine Safe.seq hcaught ?_ fun _ h => h
  intro b s₂ hs₂ hP
  refine Safe.seq (mark_spec hs₂ (hreturn b _ hP)) ?_ fun _ h => h.elim
  exact fun _ s₃ hs₃ hlog₃ => ⟨hs₃, s₂.log, hP, hlog₃⟩

/-! ## The callback and the main program -/

theorem writeIsBusy_spec (b : Bool) {s : VisionState} (hs : Always ok s.log) :
    Safe R ok (does (.writeIsBusy b)) (fun _ s' => s'.log = s.log) (fun _ => False) s :=
  ⟨hs, fun _ _ => ⟨hs, rfl⟩⟩

/-- A callback keeps what its task keeps: the `try` block lets no exception of
the task out, and nothing outside the task is logged but the detection. -/
theorem objectPoseCallback_spec {I : List VisionEvent → Prop}
    (hneutral : ∀ e past, VisionEvent.Neutral e → ok e past) (data : ObjectInfo)
    {s : VisionState} (hs : Always ok s.log) (hI : I (.callback data :: s.log))
    (htask : ∀ s' : VisionState, Always ok s'.log → s'.log = .callback data :: s.log →
      0 ≤ (convertCameraToBase data.x data.y data.z).z →
      (convertCameraToBase data.x data.y data.z).z ≤ 0.8 →
      Safe R ok (pickAndPlaceTask (convertCameraToBase data.x data.y data.z))
        (fun _ t => I t.log) (fun t => I t.log) s') :
    Safe R ok (objectPoseCallback data) (fun _ s' => I s'.log) (fun s' => I s'.log) s := by
  refine Safe.seq (mark_spec hs (hneutral _ _ trivial)) ?_ fun _ h => h.elim
  intro _ s₁ hs₁ hlog₁
  rw [← hlog₁] at hI
  refine Safe.seq (silent_spec (p := does .readObjectMsg) ⟨trivial, fun _ => trivial⟩ hs₁) ?_
    fun _ h => h ▸ hI
  intro objectMsg s₂ hs₂ hlog₂
  rw [← hlog₂] at hI
  split
  · exact ⟨hs₂, hI⟩
  refine Safe.seq (silent_spec (p := does .readIsBusy) ⟨trivial, fun _ => trivial⟩ hs₂) ?_
    fun _ h => h ▸ hI
  intro isBusy s₃ hs₃ hlog₃
  rw [← hlog₃] at hI
  split
  · exact ⟨hs₃, hI⟩
  split
  · exact ⟨hs₃, hI⟩
  refine Safe.seq (writeIsBusy_spec true hs₃) ?_ fun _ h => h.elim
  intro _ s₄ hs₄ hlog₄
  have hlog : s₄.log = .callback data :: s.log :=
    hlog₄.trans (hlog₃.trans (hlog₂.trans hlog₁))
  rw [← hlog₄] at hI
  have hfinally : ∀ s' : VisionState, Always ok s'.log ∧ I s'.log →
      Safe R ok (does (.writeIsBusy false)) (fun _ t => I t.log) (fun t => I t.log) s' := by
    intro s' h
    refine Safe.mono (writeIsBusy_spec false h.1) ?_ fun _ hf => hf.elim
    intro _ t ht
    rw [ht]
    exact h.2
  have hbody : Safe R ok (exceptException (graspDetection data)) (fun _ t => I t.log)
      (fun t => I t.log) s₄ := by
    refine Machine.wp_catch (F := fun _ t => Always ok t.log ∧ I t.log) ?_ ?_
    · unfold graspDetection
      dsimp only
      split
      · exact hfinally s₄ ⟨hs₄, hI⟩
      · rename_i hz
        obtain ⟨hlow, hhigh⟩ := not_or.mp hz
        refine Safe.seq (htask s₄ hs₄ hlog (not_lt.mp hlow) (not_lt.mp hhigh)) ?_ fun _ h => h
        exact fun _ s₅ hs₅ h => ⟨hs₅, h⟩
    · intro e t ht
      dsimp only
      split
      · exact ht
      · exact ht
  refine (Machine.wp_tryFinally _ _ _ _ _).mpr ?_
  exact Machine.wp_mono (fun _ t h => hfinally t h) (fun _ t h => hfinally t h) hbody

/-- What the start-up logs when it succeeds. -/
def startUpLog : List VisionEvent := [.trigger openSetting .ok, .gripperOpenCalled]

theorem startUp_spec {s : VisionState} (hs : s.log = []) (hcall : ok .gripperOpenCalled [])
    (htrigger : ∀ outcome, ok (.trigger openSetting outcome) [.gripperOpenCalled]) :
    Safe R ok startUp (fun _ s' => s'.log = startUpLog) (fun _ => True) s := by
  have hok : Always ok s.log := by
    rw [hs]
    exact trivial
  have hgripper : Safe R ok (do gripperInit; gripperOpen) (fun _ s' => s'.log = startUpLog)
      (fun _ => True) s := by
    have hinit : Safe R ok gripperInit (fun _ s' => s'.log = s.log) (fun _ => True) s := by
      refine Safe.seq (silent_spec (p := (does .openInstrument).bind .ofExcept)
        ⟨trivial, fun r => Prog.uses_ofExcept r⟩ hok) ?_ fun _ _ => trivial
      intro _ s₁ hs₁ hlog₁
      refine Safe.seq (writeRegister_spec (by decide) hs₁) ?_ fun _ _ => trivial
      intro _ s₂ hs₂ hpost
      rcases hpost with ⟨hlog₂, _⟩
      refine Safe.mono (silent_spec (rospySleep_silent _) hs₂) ?_ fun _ _ => trivial
      exact fun _ s₃ h => h.trans (hlog₂.trans hlog₁)
    refine Safe.seq hinit ?_ fun _ _ => trivial
    intro _ s₁ hs₁ hlog₁
    rw [hs] at hlog₁
    refine Safe.mono (gripperOpen_spec hs₁ (hlog₁ ▸ hcall) ?_) ?_ fun _ _ => trivial
    · rw [hlog₁]
      exact htrigger
    · intro _ s₂ h
      rw [h, hlog₁]
      rfl
  refine Safe.seq (F := fun _ => True) (P := fun _ s' => s'.log = startUpLog) ?_ ?_
    fun _ _ => trivial
  · exact Machine.wp_catch hgripper fun _ t ht => ⟨ht.1, trivial⟩
  intro _ s₁ hs₁ hlog₁
  refine Safe.seq (F := fun _ => True) (P := fun _ s' => s'.log = s₁.log) ?_ ?_ fun _ _ => trivial
  · exact Machine.wp_catch (silent_spec (p := (does .initMoveIt).bind .ofExcept)
      ⟨trivial, fun r => Prog.uses_ofExcept r⟩ hs₁) fun _ t ht => ⟨ht.1, trivial⟩
  intro _ s₂ hs₂ hlog₂
  refine Safe.seq (silent_spec (rospySleep_silent _) hs₂) ?_ fun _ _ => trivial
  intro _ s₃ hs₃ hlog₃
  refine Safe.seq (silent_spec (p := (does .waitForMessage).bind .ofExcept)
    ⟨trivial, fun r => Prog.uses_ofExcept r⟩ hs₃) ?_ fun _ _ => trivial
  intro choice s₄ hs₄ hlog₄
  refine Safe.mono (silent_spec (p := does (.writeObjectMsg choice))
    ⟨trivial, fun _ => trivial⟩ hs₄) ?_ fun _ _ => trivial
  exact fun _ s₅ h => h.trans (hlog₄.trans (hlog₃.trans (hlog₂.trans hlog₁)))

/-- Any number of callbacks after the start-up. -/
theorem main_spec {I : List VisionEvent → Prop} (regs : Nat → Nat)
    (hcall : ok .gripperOpenCalled [])
    (htrigger : ∀ outcome, ok (.trigger openSetting outcome) [.gripperOpenCalled])
    (hstart : I startUpLog)
    (hcallback : ∀ data s, Always ok s.log → I s.log →
      Safe R ok (objectPoseCallback data) (fun _ s' => I s'.log) (fun s' => I s'.log) s)
    (detections : List ObjectInfo) :
    Safe R ok (main detections) (fun _ _ => True) (fun _ => True) (.init regs) := by
  refine Safe.seq (startUp_spec rfl hcall htrigger) ?_ fun _ _ => trivial
  intro _ s₁ hs₁ hlog₁
  refine Machine.wp_mono (Q := fun _ s' => Always ok s'.log ∧ I s'.log)
    (E := fun _ s' => Always ok s'.log ∧ I s'.log) (fun _ _ h => ⟨h.1, trivial⟩)
    (fun _ _ h => ⟨h.1, trivial⟩) ?_
  exact Machine.wp_forEach (I := fun s' : VisionState => Always ok s'.log ∧ I s'.log)
    (fun data s' h => hcallback data s' h.1 h.2) detections ⟨hs₁, hlog₁ ▸ hstart⟩

end HakRobot.Grab
