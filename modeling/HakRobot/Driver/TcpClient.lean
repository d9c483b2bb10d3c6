import HakRobot.Driver.Line
import HakRobot.Proc.Machine
import HakRobot.Ros
import Mathlib.Logic.Function.Basic

/-!
# The TCP client of the robot

`HKTcpClient` of `tcp_client.py`. An operation is what one thread does without
another thread in between: a read or a write of a field, one call on
`self.socket`, or a whole `with self.lock` section. `connect` and the test of
`self.connected` are outside the lock, so they are several operations.

The state keeps every socket the client ever created and every `sendall` call
in order. `connecting` and the list of calls are bookkeeping that no operation
reads.
-/

namespace HakRobot.Driver

open HakRobot.Proc

/-- A socket the client created. -/
structure Sock where
  established : Bool
  closed : Bool
deriving DecidableEq, Repr

/-- One `sendall` call: the socket (`none` for a `self.socket` of `None`), its
argument, and, when the call raised, how many characters had gone out. -/
structure Send where
  sock : Option Nat
  line : List Char
  cut : Option Nat
deriving DecidableEq, Repr

/-- The characters the call wrote. -/
def Send.written (x : Send) : List Char :=
  match x.cut with
  | none => x.line
  | some k => x.line.take k

/-- The call returned, so its whole argument was written. -/
def Send.Whole (x : Send) : Prop := x.cut = none

instance (x : Send) : Decidable x.Whole := inferInstanceAs (Decidable (_ = _))

/-- The two trajectory handlers of the driver node, each with its own
`executing` flag. -/
inductive HandlerId
  | topic
  | action
deriving DecidableEq, Repr

/-- The client, the sockets behind it, and the flags of the handlers. -/
structure ClientState where
  socket : Option Nat
  connected : Bool
  socks : Nat → Sock
  created : Nat
  sends : List Send
  executing : HandlerId → Bool
  shutdown : Bool
  /-- a `connect` call is between its first line and its write of `connected` -/
  connecting : Bool
  socket_lt : ∀ i ∈ socket, i < created

/-- `HKTcpClient.__init__`. -/
def ClientState.init : ClientState where
  socket := none
  connected := false
  socks := fun _ => ⟨false, false⟩
  created := 0
  sends := []
  executing := fun _ => false
  shutdown := false
  connecting := false
  socket_lt := by simp

/-- The atomic operations of the driver. -/
inductive DriverOp
  | readConnected
  | writeConnected (b : Bool)
  | newSocket
  | setsockopt
  | settimeout (timeout : ℚ)
  | socketConnect
  | lockedSendall (raw : List Char)
  | lockedRecv (bufferSize : Nat) (timeout : ℚ)
  | lockedDisconnect
  | sleep (seconds : ℚ)
  | rospySleep (seconds : ℚ)
  | isShutdown
  | readExecuting (h : HandlerId)
  | writeExecuting (h : HandlerId) (b : Bool)
deriving DecidableEq

/-- The results of the operations; an `Except` can be a raised exception. -/
abbrev DriverOp.Res : DriverOp → Type
  | .readConnected | .isShutdown | .readExecuting _ => Bool
  | .newSocket | .setsockopt | .settimeout _ | .socketConnect | .rospySleep _ =>
      Except PyException Unit
  | .lockedSendall _ => Except PyException Bool
  | .lockedRecv _ _ => Except PyException (Option (List Char))
  | .writeConnected _ | .lockedDisconnect | .sleep _ | .writeExecuting _ _ => Unit

/-- Operations of the driver node. -/
abbrev driverSig : Sig := ⟨DriverOp, DriverOp.Res⟩

/-- A method of the driver node. -/
abbrev Method := Prog driverSig PyException

/-- One operation that cannot raise. -/
def does (o : DriverOp) : Method o.Res := Prog.perform (σ := driverSig) o

/-! ## What the outside world decides -/

/-- The whole argument is written, or `socket.error` after a strict prefix. -/
inductive SendOutcome (len : Nat)
  | whole
  | cut (k : Fin len)

/-- How much went out before the call raised, if it did. A socket that is not
an open connection takes nothing. -/
def SendOutcome.cutOn {len : Nat} (usable : Bool) : SendOutcome len → Option Nat
  | .whole => if usable then none else some 0
  | .cut k => some (if usable then k else 0)

/-- What `recv` does. -/
inductive RecvOutcome
  | data (cs : List Char)
  | timeout
  | error

/-- What is left to the outside world: whether a socket call succeeds, whether
`shutdown` succeeds in `disconnect`, whether ROS is shut down by now, whether
`rospy.sleep` is interrupted. -/
abbrev DriverOp.Choice : DriverOp → Type
  | .newSocket | .setsockopt | .settimeout _ | .socketConnect => Bool
  | .lockedSendall raw => SendOutcome raw.length
  | .lockedRecv _ _ => RecvOutcome
  | .lockedDisconnect | .isShutdown | .rospySleep _ => Bool
  | _ => Unit

/-! ## Effects -/

namespace ClientState

/-- `self.socket = socket.socket(...)`. -/
def openSocket (ok : Bool) (s : ClientState) : Except PyException Unit × ClientState :=
  if ok then
    (.ok (), { s with
      socket := some s.created
      socks := Function.update s.socks s.created ⟨false, false⟩
      created := s.created + 1
      connecting := true
      socket_lt := by simp })
  else (.error .socketError, { s with connecting := true })

/-- `self.socket.setsockopt(...)`, `self.socket.settimeout(...)`. -/
def configure (ok : Bool) (s : ClientState) : Except PyException Unit × ClientState :=
  match s.socket with
  | none => (.error .attributeError, s)
  | some _ => if ok then (.ok (), s) else (.error .socketError, s)

/-- `self.socket.connect(...)`: a second `connect` on a socket fails. -/
def connectSocket (ok : Bool) (s : ClientState) : Except PyException Unit × ClientState :=
  match s.socket with
  | none => (.error .attributeError, s)
  | some i =>
      if ok && !(s.socks i).established && !(s.socks i).closed then
        (.ok (), { s with
          socks := Function.update s.socks i { s.socks i with established := true } })
      else (.error .socketError, s)

/-- Socket `i` is an open connection. -/
def usable (s : ClientState) (i : Nat) : Bool := (s.socks i).established && !(s.socks i).closed

/-- The `with self.lock` section of `send_joint_positions` and `send_command`. -/
def sendallLocked (raw : List Char) (out : SendOutcome raw.length) (s : ClientState) :
    Except PyException Bool × ClientState :=
  match s.socket with
  | none => (.error .attributeError, { s with sends := s.sends ++ [⟨none, raw, some 0⟩] })
  | some i =>
      match out.cutOn (s.usable i) with
      | none => (.ok true, { s with sends := s.sends ++ [⟨some i, raw, none⟩] })
      | some k => (.ok false, { s with
          connected := false
          sends := s.sends ++ [⟨some i, raw, some k⟩] })

/-- The `with self.lock` section of `receive_response`. -/
def recvLocked (out : RecvOutcome) (s : ClientState) :
    Except PyException (Option (List Char)) × ClientState :=
  match s.socket with
  | none => (.error .attributeError, s)
  | some _ =>
      match out with
      | .data cs => (.ok (some cs), s)
      | .timeout => (.ok none, s)
      | .error => (.ok none, { s with connected := false })

/-- The `with self.lock` section of `disconnect`: `close` is reached only when
`shutdown` does not raise, and every exception is swallowed. -/
def disconnectLocked (shutdownOk : Bool) (s : ClientState) : ClientState :=
  match s.socket with
  | none => { s with connected := false }
  | some i => { s with
      socket := none
      socket_lt := by simp
      connected := false
      socks := Function.update s.socks i
        { s.socks i with closed := (s.socks i).closed || shutdownOk } }

section Frame

variable (s : ClientState)

@[simp] theorem configure_snd (ok : Bool) : (s.configure ok).2 = s := by
  unfold configure
  repeat' split
  all_goals rfl

@[simp] theorem openSocket_sends (ok : Bool) : (s.openSocket ok).2.sends = s.sends := by
  unfold openSocket
  split <;> rfl

@[simp] theorem openSocket_shutdown (ok : Bool) : (s.openSocket ok).2.shutdown = s.shutdown := by
  unfold openSocket
  split <;> rfl

@[simp] theorem connectSocket_sends (ok : Bool) : (s.connectSocket ok).2.sends = s.sends := by
  unfold connectSocket
  repeat' split
  all_goals rfl

@[simp] theorem connectSocket_shutdown (ok : Bool) :
    (s.connectSocket ok).2.shutdown = s.shutdown := by
  unfold connectSocket
  repeat' split
  all_goals rfl

@[simp] theorem sendallLocked_shutdown {raw : List Char} (out : SendOutcome raw.length) :
    (s.sendallLocked raw out).2.shutdown = s.shutdown := by
  unfold sendallLocked
  repeat' split
  all_goals rfl

@[simp] theorem recvLocked_sends (out : RecvOutcome) : (s.recvLocked out).2.sends = s.sends := by
  unfold recvLocked
  repeat' split
  all_goals rfl

@[simp] theorem recvLocked_shutdown (out : RecvOutcome) :
    (s.recvLocked out).2.shutdown = s.shutdown := by
  unfold recvLocked
  repeat' split
  all_goals rfl

@[simp] theorem disconnectLocked_sends (ok : Bool) : (s.disconnectLocked ok).sends = s.sends := by
  unfold disconnectLocked
  split <;> rfl

@[simp] theorem disconnectLocked_shutdown (ok : Bool) :
    (s.disconnectLocked ok).shutdown = s.shutdown := by
  unfold disconnectLocked
  split <;> rfl

end Frame

end ClientState

/-- `rospy.sleep` raises when it is interrupted. -/
def rospySleepResult (interrupted : Bool) : Except PyException Unit :=
  if interrupted then .error .rosInterrupt else .ok ()

/-- The driver's machine. -/
def driver : Machine driverSig ClientState where
  Choice := DriverOp.Choice
  exec
    | .readConnected, _, s => (s.connected, s)
    | .writeConnected b, _, s => ((), { s with connected := b, connecting := false })
    | .newSocket, ok, s => s.openSocket ok
    | .setsockopt, ok, s => s.configure ok
    | .settimeout _, ok, s => s.configure ok
    | .socketConnect, ok, s => s.connectSocket ok
    | .lockedSendall raw, out, s => s.sendallLocked raw out
    | .lockedRecv _ _, out, s => s.recvLocked out
    | .lockedDisconnect, shutdownOk, s => ((), s.disconnectLocked shutdownOk)
    | .sleep _, _, s => ((), s)
    | .rospySleep _, interrupted, s =>
        (rospySleepResult interrupted, s)
    | .isShutdown, now, s =>
        (s.shutdown || (now : Bool), { s with shutdown := s.shutdown || (now : Bool) })
    | .readExecuting h, _, s => (s.executing h, s)
    | .writeExecuting h b, _, s => ((), { s with executing := Function.update s.executing h b })

section Exec

variable (s : ClientState)

@[simp] theorem driver_newSocket (ok : Bool) :
    driver.exec .newSocket ok s = s.openSocket ok := rfl

@[simp] theorem driver_setsockopt (ok : Bool) :
    driver.exec .setsockopt ok s = s.configure ok := rfl

@[simp] theorem driver_settimeout (timeout : ℚ) (ok : Bool) :
    driver.exec (.settimeout timeout) ok s = s.configure ok := rfl

@[simp] theorem driver_socketConnect (ok : Bool) :
    driver.exec .socketConnect ok s = s.connectSocket ok := rfl

@[simp] theorem driver_lockedSendall (raw : List Char) (out : SendOutcome raw.length) :
    driver.exec (.lockedSendall raw) out s = s.sendallLocked raw out := rfl

@[simp] theorem driver_rospySleep (seconds : ℚ) (interrupted : Bool) :
    driver.exec (.rospySleep seconds) interrupted s = (rospySleepResult interrupted, s) := rfl

/-- Only a `sendall` adds to the calls. -/
theorem exec_sends {o : DriverOp} (x : driver.Choice o) (ho : ∀ raw, o ≠ .lockedSendall raw) :
    (driver.exec o x s).2.sends = s.sends := by
  cases o with
  | newSocket => exact s.openSocket_sends x
  | setsockopt => exact congrArg ClientState.sends (s.configure_snd x)
  | settimeout _ => exact congrArg ClientState.sends (s.configure_snd x)
  | socketConnect => exact s.connectSocket_sends x
  | lockedSendall raw => exact absurd rfl (ho raw)
  | lockedRecv _ _ => exact s.recvLocked_sends x
  | lockedDisconnect => exact s.disconnectLocked_sends x
  | _ => rfl

end Exec

/-! ## The methods -/

/-- `except socket.error`. -/
def exceptSocketError {α : Type} (p handler : Method α) : Method α :=
  p.tryCatch fun e => if e = .socketError then handler else .raise e

/-- `self.socket = socket.socket(...)`. -/
def newSocket : Method Unit := (does .newSocket).bind .ofExcept

/-- `self.socket.setsockopt(...)`. -/
def setsockopt : Method Unit := (does .setsockopt).bind .ofExcept

/-- `self.socket.settimeout(timeout)`. -/
def settimeout (timeout : ℚ) : Method Unit := (does (.settimeout timeout)).bind .ofExcept

/-- `self.socket.connect(...)`. -/
def socketConnect : Method Unit := (does .socketConnect).bind .ofExcept

/-- The locked section around `sendall`. -/
def lockedSendall (raw : List Char) : Method Bool :=
  (does (.lockedSendall raw)).bind .ofExcept

/-- `self.connected`. -/
def readConnected : Method Bool := does .readConnected

/-- `self.connected = b`. -/
def writeConnected (b : Bool) : Method Unit := does (.writeConnected b)

/-- `time.sleep`. -/
def sleep (seconds : ℚ) : Method Unit := does (.sleep seconds)

/-- `connect_wait`, in seconds. -/
def connectWait : ℚ := 2

/-- `HKTcpClient.connect`. -/
def connect (timeout : ℚ) : Method Bool :=
  exceptSocketError
    (do
      newSocket
      setsockopt
      settimeout timeout
      socketConnect
      writeConnected true
      sleep connectWait
      return true)
    (do
      writeConnected false
      return false)

/-- `HKTcpClient.disconnect`. -/
def disconnect : Method Unit := does .lockedDisconnect

/-- `HKTcpClient.send_joint_positions`; `c` is the factor of `math.degrees`. -/
def sendJointPositions (c : ℚ) (jointPositions : List ℚ) : Method Bool := do
  if !(← readConnected) then
    return false
  if jointPositions.length ≠ 6 then
    return false
  lockedSendall (encodeLine c jointPositions)

/-- `HKTcpClient.send_command`; a character outside ASCII raises before
anything is sent. -/
def sendCommand (command : List Char) : Method Bool := do
  if !(← readConnected) then
    return false
  let command := if command.getLast? = some '\n' then command else command ++ ['\n']
  if command.all (·.toNat < 128) then
    lockedSendall command
  else
    .raise .unicodeError

/-- `HKTcpClient.receive_response`. -/
def receiveResponse (bufferSize : Nat) (timeout : ℚ) : Method (Option (List Char)) := do
  if !(← readConnected) then
    return none
  (does (.lockedRecv bufferSize timeout)).bind .ofExcept

/-- `HKTcpClient.is_connected`. -/
def isConnected : Method Bool := readConnected

/-- The loop of `reconnect`, with the attempts that are left. -/
def reconnectAttempts : Nat → Method Bool
  | 0 => return false
  | n + 1 => do
      if ← connect 5 then
        return true
      sleep 2
      reconnectAttempts n

/-- `HKTcpClient.reconnect`. -/
def reconnect (maxAttempts : Nat) : Method Bool := do
  disconnect
  reconnectAttempts maxAttempts

/-! ## The rule for a send -/

/-- `T` holds once the client is seen connected. -/
theorem sendJointPositions_enter {S : Type} {M : Machine driverSig S} {R : M.Rely}
    {I : S → DriverOp → Prop} {Q : Bool → S → Prop} {E : PyException → S → Prop} {T : S → Prop}
    {c : ℚ} {jointPositions : List ℚ} {s : S}
    (htest : M.wp R I readConnected
      (fun b s' => (b = false → Q false s') ∧ (b = true → T s')) E s)
    (hcount : jointPositions.length ≠ 6 → ∀ t, T t → Q false t)
    (hsend : jointPositions.length = 6 → ∀ t, T t →
      M.wp R I (lockedSendall (encodeLine c jointPositions)) Q E t) :
    M.wp R I (sendJointPositions c jointPositions) Q E s := by
  refine Machine.wp_seq htest ?_ fun _ _ he => he
  intro connected s₁ h₁
  cases connected with
  | false => exact h₁.1 rfl
  | true =>
      by_cases h6 : jointPositions.length = 6
      · simp only [h6, Bool.not_true, ne_eq, not_true_eq_false, if_false, Bool.false_eq_true]
        exact hsend h6 s₁ (h₁.2 rfl)
      · simp only [h6, Bool.not_true, ne_eq, not_false_eq_true, if_true, if_false,
          Bool.false_eq_true]
        exact hcount h6 s₁ (h₁.2 rfl)

/-! ## The operations of a reconnection -/

/-- An operation of `connect` or `reconnect`. -/
def ConnectOp : DriverOp → Prop
  | .newSocket | .setsockopt | .settimeout _ | .socketConnect | .writeConnected _ | .sleep _
  | .lockedDisconnect => True
  | _ => False

theorem connect_uses (timeout : ℚ) : (connect timeout).Uses ConnectOp := by
  refine Prog.uses_tryCatch ?_ fun e => ?_
  · refine Prog.uses_bind ⟨trivial, fun r => Prog.uses_ofExcept r⟩ fun _ => ?_
    refine Prog.uses_bind ⟨trivial, fun r => Prog.uses_ofExcept r⟩ fun _ => ?_
    refine Prog.uses_bind ⟨trivial, fun r => Prog.uses_ofExcept r⟩ fun _ => ?_
    refine Prog.uses_bind ⟨trivial, fun r => Prog.uses_ofExcept r⟩ fun _ => ?_
    exact ⟨trivial, fun _ => ⟨trivial, fun _ => trivial⟩⟩
  · split
    · exact ⟨trivial, fun _ => trivial⟩
    · exact trivial

theorem reconnect_uses (n : Nat) : (reconnect n).Uses ConnectOp := by
  have hattempts : ∀ n, (reconnectAttempts n).Uses ConnectOp := by
    intro n
    induction n with
    | zero => exact trivial
    | succ n ih =>
        refine Prog.uses_bind (connect_uses 5) fun b => ?_
        cases b with
        | true => exact trivial
        | false => exact ⟨trivial, fun _ => ih⟩
  exact ⟨trivial, fun _ => hattempts n⟩

end HakRobot.Driver
