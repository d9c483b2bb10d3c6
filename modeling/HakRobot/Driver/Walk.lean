import HakRobot.Driver.Threads

/-!
# A walk over the methods of the driver

A property of methods that composes, holds of the operations outside `connect`
and holds of `connect` itself holds of everything a thread of the node does:
`Compositional.thread`. Only the facts about `connect` differ from one property
to the next.
-/

namespace HakRobot.Driver

open HakRobot.Proc

/-- An operation that is no part of `connect`. -/
def OutsideConnect : DriverOp → Prop
  | .newSocket | .socketConnect | .writeConnected _ => False
  | _ => True

/-- The property `D` composes, and holds of the parts. -/
structure Compositional (D : ∀ α : Type, Method α → Prop) : Prop where
  bind : ∀ {α β : Type} {p : Method α} {f : α → Method β},
    D α p → (∀ a, D β (f a)) → D β (p.bind f)
  tryCatch : ∀ {α : Type} {p : Method α} {h : PyException → Method α},
    D α p → (∀ e, D α (h e)) → D α (p.tryCatch h)
  of_uses : ∀ {α : Type} {p : Method α}, p.Uses OutsideConnect → D α p
  connect : ∀ timeout, D Bool (connect timeout)

namespace Compositional

variable {D : ∀ α : Type, Method α → Prop} {α : Type} {c : ℚ}

theorem ret (hD : Compositional D) (a : α) : D α (.ret a) := hD.of_uses (Prog.uses_ret a)

theorem reconnect (hD : Compositional D) (n : Nat) : D Bool (Driver.reconnect n) := by
  have hattempts : ∀ n, D Bool (reconnectAttempts n) := by
    intro n
    induction n with
    | zero => exact hD.ret false
    | succ n ih =>
        refine hD.bind (hD.connect 5) fun b => ?_
        cases b with
        | true => exact hD.ret true
        | false => exact hD.bind (p := sleep 2) (hD.of_uses ⟨trivial, fun _ => trivial⟩) fun _ => ih
  exact hD.bind (p := Driver.disconnect) (hD.of_uses ⟨trivial, fun _ => trivial⟩)
    fun _ => hattempts n

theorem lockedSendall (hD : Compositional D) (raw : List Char) :
    D Bool (Driver.lockedSendall raw) :=
  hD.of_uses ⟨trivial, fun r => Prog.uses_ofExcept r⟩

theorem sendJointPositions (hD : Compositional D) (jointPositions : List ℚ) :
    D Bool (Driver.sendJointPositions c jointPositions) := by
  refine hD.bind (p := readConnected) (hD.of_uses ⟨trivial, fun _ => trivial⟩) fun connected => ?_
  split
  · exact hD.ret false
  · split
    · exact hD.ret false
    · exact hD.lockedSendall _

theorem sendCommand (hD : Compositional D) (command : List Char) :
    D Bool (Driver.sendCommand command) := by
  refine hD.bind (p := readConnected) (hD.of_uses ⟨trivial, fun _ => trivial⟩) fun connected => ?_
  split
  · exact hD.ret false
  · dsimp only
    -- with or without the newline that is added
    split
    all_goals
      split
      · exact hD.lockedSendall _
      · exact hD.of_uses (Prog.uses_raise _)

theorem receiveResponse (hD : Compositional D) (bufferSize : Nat) (timeout : ℚ) :
    D _ (Driver.receiveResponse bufferSize timeout) := by
  refine hD.bind (p := readConnected) (hD.of_uses ⟨trivial, fun _ => trivial⟩) fun connected => ?_
  split
  · exact hD.ret none
  · exact hD.of_uses ⟨trivial, fun r => Prog.uses_ofExcept r⟩

/-- The handler itself has no part in `connect`. -/
theorem of_handler (hD : Compositional D) {p : Method α} (hp : p.Uses HandlerOp) : D α p := by
  refine hD.of_uses (hp.mono fun o ho => ?_)
  cases o with
  | newSocket => exact ho.elim
  | socketConnect => exact ho.elim
  | writeConnected b => exact ho.elim
  | _ => exact trivial

theorem sendPoints (hD : Compositional D) (h : TrajectoryHandler) (total i : Nat)
    (points : List JointTrajectoryPoint) : D Bool (Driver.sendPoints c h total i points) := by
  have hend : ∀ b : Bool, D Bool (do writeExecuting h false; return b) := fun b =>
    hD.bind (hD.of_handler (writeExecuting_uses h false)) fun _ => hD.ret b
  induction points generalizing i with
  | nil => exact hend true
  | cons point rest ih =>
      have hnext := hD.bind (hD.of_handler (pauseAfter_uses h i total)) fun _ => ih (i + 1)
      refine hD.bind (hD.of_handler (interrupted_uses h)) fun stop => ?_
      split
      · exact hend false
      · split
        · exact ih (i + 1)
        · refine hD.bind (hD.sendJointPositions _) fun first => ?_
          split
          · exact hnext
          · refine hD.bind (hD.reconnect 3) fun reconnected => ?_
            split
            · exact hend false
            · refine hD.bind (hD.sendJointPositions _) fun second => ?_
              split
              · exact ih (i + 1)
              · exact hnext

theorem executeTrajectory (hD : Compositional D) (h : TrajectoryHandler)
    (trajectory : JointTrajectory) : D Bool (Driver.executeTrajectory c h trajectory) := by
  refine hD.bind (p := isConnected) (hD.of_uses ⟨trivial, fun _ => trivial⟩) fun connected => ?_
  split
  · exact hD.ret false
  · split
    · exact hD.ret false
    · exact hD.bind (hD.of_handler (writeExecuting_uses h true)) fun _ => hD.sendPoints h _ 0 _

theorem startUp (hD : Compositional D) : D Unit Driver.startUp := by
  refine hD.bind (hD.connect 5) fun connected => ?_
  split
  · refine hD.bind (hD.reconnect 5) fun reconnected => ?_
    split
    · exact hD.of_uses (Prog.uses_raise _)
    · exact hD.ret ()
  · exact hD.ret ()

theorem discard (hD : Compositional D) {p : Method α} (hp : D α p) : D Unit p.discard :=
  hD.bind hp fun _ => hD.ret ()

theorem job (hD : Compositional D) (job : ClientJob) : D Unit (job.method c) := by
  cases job with
  | startUp => exact hD.startUp
  | send jointPositions => exact hD.discard (hD.sendJointPositions jointPositions)
  | command text => exact hD.discard (hD.sendCommand text)
  | receive bufferSize timeout => exact hD.discard (hD.receiveResponse bufferSize timeout)
  | connect timeout => exact hD.discard (hD.connect timeout)
  | disconnect => exact hD.of_uses ⟨trivial, fun _ => trivial⟩
  | reconnect maxAttempts => exact hD.discard (hD.reconnect maxAttempts)
  | trajectory h msg => exact hD.discard (hD.executeTrajectory h msg)

/-- See the module docstring. -/
theorem thread (hD : Compositional D) (jobs : List ClientJob) : D Unit (Driver.thread c jobs) := by
  induction jobs with
  | nil => exact hD.ret ()
  | cons job jobs ih => exact hD.bind (hD.tryCatch (hD.job job) fun _ => hD.ret ()) fun _ => ih

end Compositional

end HakRobot.Driver
