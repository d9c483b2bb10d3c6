import HakRobot.Driver.Delivery
import HakRobot.Proc.Ghost

/-!
# The sockets the client drops

`connect` stores a new socket over the old one, and `disconnect` clears
`self.socket` also when `shutdown` raised and `close` was skipped. Every dropped
socket is noted beside the state.

* `sockets_closed_iff` — in any sequence of calls, with any socket errors, no
  socket was dropped before its `close` and none but `self.socket` is open,
  exactly when every new socket found `self.socket` to be `None` and no
  `shutdown` of a `disconnect` raised.
-/

namespace HakRobot.Driver

open HakRobot.Proc

/-! ## Dropped sockets -/

/-- The socket that `self.socket` stops to refer to without a `close`. -/
def dropped (s s' : ClientState) : Option Nat :=
  s.socket.filter fun i => s'.socket ≠ some i && !(s'.socks i).closed

/-- A new socket finds no old one, and a `shutdown` does not raise. -/
def Spares (s : ClientState) : (o : DriverOp) → driver.Choice o → Bool
  | .newSocket, ok => s.socket.isNone || !ok
  | .lockedDisconnect, shutdownOk => s.socket.isNone || shutdownOk
  | _, _ => true

/-- The sockets dropped before their `close`, and whether every operation so far
`Spares` them. -/
structure DropNotes where
  dropped : List Nat
  spared : Bool

/-- The client and its dropped sockets. -/
abbrev Watched := ClientState × DropNotes

/-- The driver with its dropped sockets noted. -/
def watched : Machine driverSig Watched :=
  driver.ghost fun s o x n =>
    ⟨(dropped s (driver.exec o x s).2).toList ++ n.dropped, n.spared && Spares s o x⟩

/-- A new client. -/
def Watched.init : Watched := (.init, ⟨[], true⟩)

/-- No socket is open but `self.socket`. -/
def OnlyOpen (s : ClientState) : Prop :=
  ∀ i < s.created, (s.socks i).closed = false → s.socket = some i

/-! ## What an operation does to the sockets -/

/-- The sockets before and after an operation. The index tells whether the
operation spares them. -/
inductive SocketEffect (s : ClientState) : Bool → ClientState → Prop
  | kept {s' : ClientState} (hsocket : s'.socket = s.socket) (hcreated : s'.created = s.created)
      (hclosed : ∀ i, (s'.socks i).closed = (s.socks i).closed) : SocketEffect s true s'
  | opened {s' : ClientState} (hsocket : s'.socket = some s.created)
      (hcreated : s'.created = s.created + 1)
      (hclosed : ∀ i ≠ s.created, (s'.socks i).closed = (s.socks i).closed)
      (hnew : (s'.socks s.created).closed = false) : SocketEffect s s.socket.isNone s'
  | cleared {s' : ClientState} {i : Nat} (shutdownOk : Bool) (hi : s.socket = some i)
      (hsocket : s'.socket = none) (hcreated : s'.created = s.created)
      (hclosed : ∀ j ≠ i, (s'.socks j).closed = (s.socks j).closed)
      (hlast : (s'.socks i).closed = ((s.socks i).closed || shutdownOk)) :
      SocketEffect s shutdownOk s'

theorem SocketEffect.refl (s : ClientState) : SocketEffect s true s :=
  .kept rfl rfl fun _ => rfl

theorem connectSocket_effect (ok : Bool) (s : ClientState) :
    SocketEffect s true (s.connectSocket ok).2 := by
  unfold ClientState.connectSocket
  split
  · exact .refl s
  · rename_i i hi
    split
    · refine .kept rfl rfl ?_
      intro j
      by_cases hj : j = i
      · subst hj
        simp
      · simp [hj]
    · exact .refl s

theorem disconnectLocked_effect (ok : Bool) (s : ClientState) :
    SocketEffect s (s.socket.isNone || ok) (s.disconnectLocked ok) := by
  unfold ClientState.disconnectLocked
  split
  · rename_i hnone
    have hspares : (s.socket.isNone || ok) = true := by simp [hnone]
    rw [hspares]
    exact .kept rfl rfl fun _ => rfl
  · rename_i i hi
    have hspares : (s.socket.isNone || ok) = ok := by simp [hi]
    rw [hspares]
    refine .cleared ok hi rfl rfl ?_ ?_
    · intro j hj
      simp [hj]
    · simp

/-- Only `connect` and `disconnect` touch the sockets. -/
theorem exec_effect {o : DriverOp} (x : driver.Choice o) (s : ClientState) :
    SocketEffect s (Spares s o x) (driver.exec o x s).2 := by
  cases o with
  | newSocket =>
      cases (x : Bool) with
      | false => simpa [Spares, driver, ClientState.openSocket] using .kept rfl rfl fun _ => rfl
      | true =>
          simp only [Spares, Bool.not_true, Bool.or_false]
          refine .opened rfl rfl ?_ ?_
          · intro i hi
            simp [driver, ClientState.openSocket, hi]
          · simp [driver, ClientState.openSocket]
  | setsockopt => exact (s.configure_snd x).symm ▸ .refl s
  | settimeout timeout => exact (s.configure_snd x).symm ▸ .refl s
  | socketConnect => exact connectSocket_effect x s
  | lockedSendall raw =>
      show SocketEffect s true (s.sendallLocked raw x).2
      unfold ClientState.sendallLocked
      repeat' split
      all_goals exact .kept rfl rfl fun _ => rfl
  | lockedRecv bufferSize timeout =>
      show SocketEffect s true (s.recvLocked x).2
      unfold ClientState.recvLocked
      repeat' split
      all_goals exact .kept rfl rfl fun _ => rfl
  | lockedDisconnect => exact disconnectLocked_effect x s
  | _ => exact .kept rfl rfl fun _ => rfl

/-! ## Every run -/

/-- `self.socket` is not a closed socket. -/
def InUseOpen (s : ClientState) : Prop := ∀ i, s.socket = some i → (s.socks i).closed = false

/-- An operation drops a socket exactly when it does not spare the sockets. -/
theorem SocketEffect.dropped_eq {s s' : ClientState} {spares : Bool}
    (heffect : SocketEffect s spares s') (hopen : InUseOpen s) :
    dropped s s' = none ↔ spares = true := by
  rw [dropped, Option.filter_eq_none_iff]
  cases heffect with
  | kept hsocket hcreated hclosed =>
      rw [hsocket]
      refine iff_of_true ?_ rfl
      intro i hi
      simp [hi]
  | opened hsocket hcreated hclosed hnew =>
      cases hold : s.socket with
      | none => simp
      | some i =>
          -- the new socket is another one
          have hne : i ≠ s.created := by
            have hlt := s.socket_lt i hold
            omega
          simp [hsocket, hclosed i hne, hopen i hold, hne.symm]
  | cleared _ hi hsocket hcreated hclosed hlast => simp [hi, hsocket, hlast, hopen _ hi]

theorem SocketEffect.inUseOpen {s s' : ClientState} {spares : Bool}
    (heffect : SocketEffect s spares s') (hopen : InUseOpen s) : InUseOpen s' := by
  intro i hi
  cases heffect with
  | kept hsocket hcreated hclosed =>
      rw [hclosed i]
      exact hopen i (hsocket ▸ hi)
  | opened hsocket hcreated hclosed hnew =>
      obtain rfl := Option.some.inj (hsocket.symm.trans hi)
      exact hnew
  | cleared _ _ hsocket _ _ _ =>
      rw [hsocket] at hi
      cases hi

theorem SocketEffect.onlyOpen {s s' : ClientState} {spares : Bool}
    (heffect : SocketEffect s spares s') (hspares : spares = true) (honly : OnlyOpen s) :
    OnlyOpen s' := by
  intro j hj hj'
  cases heffect with
  | kept hsocket hcreated hclosed =>
      rw [hsocket]
      exact honly j (hcreated ▸ hj) (hclosed j ▸ hj')
  | opened hsocket hcreated hclosed hnew =>
      by_cases hlatest : j = s.created
      · rw [hsocket, hlatest]
      · -- an older open socket would have been `self.socket`
        rw [hclosed j hlatest] at hj'
        have hold := honly j (by omega) hj'
        rw [hold] at hspares
        cases hspares
  | @cleared _ i _ hi hsocket hcreated hclosed hlast =>
      by_cases hji : j = i
      · rw [hji, hlast, hspares, Bool.or_true] at hj'
        cases hj'
      · rw [hclosed j hji] at hj'
        have hold := honly j (hcreated ▸ hj) hj'
        exact absurd (Option.some.inj (hold.symm.trans hi)) hji

/-- Something was dropped exactly when some operation did not spare the sockets. -/
structure DropInv (s : Watched) : Prop where
  in_use_open : InUseOpen s.1
  dropped_iff : s.2.dropped = [] ↔ s.2.spared = true
  only_open : s.2.spared = true → OnlyOpen s.1

theorem DropInv.init : DropInv .init where
  in_use_open := nofun
  dropped_iff := iff_of_true rfl rfl
  only_open _ i hi := absurd hi (Nat.not_lt_zero i)

/-- **Step.** -/
theorem DropInv.exec {s : Watched} (hs : DropInv s) {o : DriverOp} (x : driver.Choice o) :
    DropInv (watched.exec o x s).2 := by
  have heffect := exec_effect x s.1
  refine ⟨heffect.inUseOpen hs.in_use_open, ?_, ?_⟩
  · show (dropped s.1 (driver.exec o x s.1).2).toList ++ s.2.dropped = [] ↔
      (s.2.spared && Spares s.1 o x) = true
    rw [List.append_eq_nil_iff, Option.toList_eq_nil_iff, heffect.dropped_eq hs.in_use_open,
      hs.dropped_iff, Bool.and_eq_true, and_comm]
  · intro hspared
    obtain ⟨hbefore, hspares⟩ := Bool.and_eq_true_iff.mp hspared
    exact heffect.onlyOpen hspares (hs.only_open hbefore)

/-- **Run.** -/
theorem DropInv.steps {α : Type} {p q : Method α} {s : Watched}
    (h : watched.Steps watched.anyChoice (p, .init) (q, s)) : DropInv s :=
  Machine.Steps.invariant (M := watched)
    (fun _ _ x hs _ => hs.exec x) h .init

/-! ## Sequences of calls -/

/-- A call on the client. -/
inductive SocketCall
  | connect (timeout : ℚ)
  | disconnect
  | reconnect (maxAttempts : Nat)
  | sendJointPositions (jointPositions : List ℚ)
  | sendCommand (command : List Char)
  | receiveResponse (bufferSize : Nat) (timeout : ℚ)

/-- The method a call runs. -/
def SocketCall.method (c : ℚ) : SocketCall → Method Unit
  | .connect timeout => (Driver.connect timeout).discard
  | .disconnect => Driver.disconnect
  | .reconnect maxAttempts => (Driver.reconnect maxAttempts).discard
  | .sendJointPositions jointPositions => (Driver.sendJointPositions c jointPositions).discard
  | .sendCommand command => (Driver.sendCommand command).discard
  | .receiveResponse bufferSize timeout => (Driver.receiveResponse bufferSize timeout).discard

/-- One call after another, also after one that raised. -/
def session (c : ℚ) (calls : List SocketCall) : Method Unit :=
  Prog.forEach (fun k => (k.method c).tryCatch fun _ => .ret ()) calls

/-- **The sockets are closed when they are spared.** In every state that a
sequence of calls reaches, no socket was dropped before its `close` and none but
`self.socket` is open, exactly when so far every new socket found `self.socket`
to be `None` and no `shutdown` of a `disconnect` raised. -/
theorem sockets_closed_iff {c : ℚ} {calls : List SocketCall} {q : Method Unit} {s : Watched}
    (h : watched.Steps watched.anyChoice (session c calls, .init) (q, s)) :
    s.2.dropped = [] ∧ OnlyOpen s.1 ↔ s.2.spared = true := by
  have hinv := DropInv.steps h
  constructor
  · intro hclosed
    exact hinv.dropped_iff.mp hclosed.1
  · intro hspared
    exact ⟨hinv.dropped_iff.mpr hspared, hinv.only_open hspared⟩

/-! ## A robot that went away -/

/-- A sequence of calls in which every operation has the outcome `pick` gives it. -/
def sessionWith (pick : Watched → (o : DriverOp) → o.Choice) (calls : List SocketCall) :
    Except PyException Unit × Watched :=
  watched.run pick (session 57 calls) .init

theorem sessionWith_steps (pick : Watched → (o : DriverOp) → o.Choice)
    (calls : List SocketCall) :
    watched.Steps watched.anyChoice (session 57 calls, .init)
      (.ofExcept (sessionWith pick calls).1, (sessionWith pick calls).2) :=
  Machine.run_steps (M := watched) (fun _ _ => trivial) _ _

/-- A connection that is used and closed. -/
def closedOnce : Watched :=
  (sessionWith (fun _ => DriverOp.success) [.connect 5, .sendCommand ['S'], .disconnect]).2

/-- `sockets_closed_iff` for it. -/
theorem sockets_closed_once :
    closedOnce.1.created = 1 ∧ closedOnce.2.dropped = [] ∧ OnlyOpen closedOnce.1 :=
  ⟨by decide +kernel, (sockets_closed_iff (sessionWith_steps _ _)).mpr (by decide +kernel)⟩

/-- The first connection is accepted. Then the robot is gone, and `shutdown`
raises on the broken connection. -/
def goneAfterFirst (s : Watched) : (o : DriverOp) → o.Choice
  | .socketConnect => s.1.created == 1
  | .lockedDisconnect => false
  | .lockedSendall (_ :: _) => .cut 0
  | o => o.success

/-- A command is cut, and `reconnect` tries twice. -/
def brokenOnce : Watched :=
  (sessionWith goneAfterFirst [.connect 5, .sendCommand ['S'], .reconnect 2]).2

/-- The broken connection and the socket of the first attempt are dropped open. -/
theorem sockets_dropped_open :
    ¬ ∀ (c : ℚ) (calls : List SocketCall) (q : Method Unit) (s : Watched),
      watched.Steps watched.anyChoice (session c calls, .init) (q, s) →
      s.2.dropped = [] ∧ OnlyOpen s.1 := by
  intro hall
  have hdropped : brokenOnce.2.dropped = [1, 0] := by decide +kernel
  have hnone : brokenOnce.2.dropped = [] := (hall _ _ _ _ (sessionWith_steps _ _)).1
  rw [hdropped] at hnone
  cases hnone

end HakRobot.Driver
