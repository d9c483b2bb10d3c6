import HakRobot.Driver.Delivery
import HakRobot.Proc.Ghost

/-!
# The connection state

One thread makes any sequence of the six calls of `HKTcpClient`, and every socket
operation succeeds or raises. Which operation failed on which socket is noted
beside the state, since a `recv` that timed out and one that failed have the same
answer.

* `connect_truthful`, `reconnect_truthful`, `send_truthful`, ... — one
  specification for each call, through every failure exit;
* `connection_truthful` — after every call of every sequence, `connected` is
  `True` only over the latest socket, connected and without a failure, and the
  result of the call tells what it left behind.
-/

namespace HakRobot.Driver

open HakRobot.Proc

variable {c : ℚ}

/-! ## Failures -/

/-- The socket the operation fails on, if it does. A receive that timed out did not
fail; a `shutdown` whose exception `disconnect` swallows did. -/
def failsOn (s : ClientState) : (o : DriverOp) → driver.Choice o → Option Nat
  | .setsockopt, false | .settimeout _, false | .lockedDisconnect, false => s.socket
  | .socketConnect, ok =>
      match (s.connectSocket ok).1 with
      | .ok _ => none
      | .error _ => s.socket
  | .lockedSendall raw, out =>
      match (s.sendallLocked raw out).1 with
      | .ok true => none
      | _ => s.socket
  | .lockedRecv _ _, .error => s.socket
  | _, _ => none

/-- The client and the sockets an operation failed on. -/
abbrev Noted := ClientState × List Nat

/-- The driver with its failures noted. -/
def noted : Machine driverSig Noted :=
  driver.ghost fun s o x failed => (failsOn s o x).toList ++ failed

/-- `connected` is set only over the latest socket the client created, an open
connection on which nothing failed. -/
def Truthful (s : Noted) : Prop :=
  s.1.connected = true →
    ∃ i, s.1.socket = some i ∧ i + 1 = s.1.created ∧ s.1.usable i = true ∧ i ∉ s.2

theorem Truthful.of_disconnected {s : Noted} (hdis : s.1.connected = false) : Truthful s :=
  fun hconnected => absurd (hdis.symm.trans hconnected) Bool.false_ne_true

/-- The failures are on sockets the client created. -/
def Known (s : Noted) : Prop := ∀ i ∈ s.2, i < s.1.created

theorem Known.fail {s : Noted} (hs : Known s) {i : Nat} (hi : s.1.socket = some i) :
    Known (s.1, i :: s.2) := by
  intro j hj
  rcases List.mem_cons.mp hj with rfl | hj
  · exact s.1.socket_lt j hi
  · exact hs j hj

variable {R : noted.Rely}

/-! ## Connecting -/

theorem newSocket_noted {s : Noted} (hs : Known s) :
    noted.Ends R newSocket
      (fun _ s' => Known s' ∧ s'.1.socket = some s.1.created ∧
        s.1.created + 1 = s'.1.created ∧ s'.1.socks s.1.created = ⟨false, false⟩ ∧
        s.1.created ∉ s'.2)
      (fun e s' => e = .socketError ∧ Known s') s := by
  refine ⟨trivial, fun (ok : Bool) _ => ?_⟩
  cases ok with
  | false => exact ⟨rfl, hs⟩
  | true =>
      refine ⟨fun i hi => ?_, rfl, rfl, Function.update_self _ _ _, fun hmem => ?_⟩
      · have hlt := hs i hi
        show i < s.1.created + 1
        omega
      · have hlt := hs _ hmem
        omega

theorem configure_noted {s : Noted} (hs : Known s) {i : Nat} (hi : s.1.socket = some i)
    (ok : Bool) :
    noted.Ends R (Prog.ofExcept (s.1.configure ok).1) (fun _ s' => s' = s)
      (fun e s' => e = .socketError ∧ Known s')
      ((s.1.configure ok).2, (if ok then none else s.1.socket).toList ++ s.2) := by
  cases ok with
  | false => simpa [Machine.Ends, ClientState.configure, hi] using hs.fail hi
  | true => simp [Machine.Ends, ClientState.configure, hi]

theorem setsockopt_noted {s : Noted} (hs : Known s) {i : Nat} (hi : s.1.socket = some i) :
    noted.Ends R setsockopt (fun _ s' => s' = s)
      (fun e s' => e = .socketError ∧ Known s') s := by
  refine ⟨trivial, fun (ok : Bool) _ => ?_⟩
  have hpost := configure_noted (R := R) hs hi ok
  cases ok with
  | false => exact hpost
  | true => exact hpost

theorem settimeout_noted {s : Noted} (hs : Known s) {i : Nat} (hi : s.1.socket = some i)
    (timeout : ℚ) :
    noted.Ends R (settimeout timeout) (fun _ s' => s' = s)
      (fun e s' => e = .socketError ∧ Known s') s := by
  refine ⟨trivial, fun (ok : Bool) _ => ?_⟩
  have hpost := configure_noted (R := R) hs hi ok
  cases ok with
  | false => exact hpost
  | true => exact hpost

theorem socketConnect_noted {s : Noted} (hs : Known s) {i : Nat} (hi : s.1.socket = some i)
    (hfresh : s.1.socks i = ⟨false, false⟩) :
    noted.Ends R socketConnect
      (fun _ s' => s'.1.socket = some i ∧ s'.1.created = s.1.created ∧
        s'.1.usable i = true ∧ s'.2 = s.2)
      (fun e s' => e = .socketError ∧ Known s') s := by
  refine ⟨trivial, fun (ok : Bool) _ => ?_⟩
  show noted.wp R _ (Prog.ofExcept (s.1.connectSocket ok).1) _ _
    ((s.1.connectSocket ok).2, (failsOn s.1 .socketConnect ok).toList ++ s.2)
  cases ok with
  | false => simpa [ClientState.connectSocket, failsOn, hi] using hs.fail hi
  | true => simp [ClientState.connectSocket, failsOn, hi, hfresh, ClientState.usable]

/-- What a call that connects leaves behind, by its result. -/
def ConnectsAs (b : Bool) (s' : Noted) : Prop :=
  s'.1.connected = b ∧ Known s' ∧ Truthful s'

/-- A disconnected client tells the truth. -/
theorem connectsAs_false {s : Noted} (hs : Known s) (hdis : s.1.connected = false) :
    ConnectsAs false s :=
  ⟨hdis, hs, .of_disconnected hdis⟩

theorem connect_truthful (timeout : ℚ) {s : Noted} (hs : Known s) :
    noted.Ends R (connect timeout) ConnectsAs (fun _ _ => False) s := by
  refine Machine.wp_catch (F := fun e s' => e = .socketError ∧ Known s') ?_ ?_
  · refine Machine.wp_seq (newSocket_noted hs) ?_ fun _ _ he => he
    intro _ s₁ hpost
    rcases hpost with ⟨hs₁, hi, hlatest, hfresh, hclean⟩
    refine Machine.wp_seq (setsockopt_noted hs₁ hi) ?_ fun _ _ he => he
    rintro _ s₂ rfl
    refine Machine.wp_seq (settimeout_noted hs₁ hi timeout) ?_ fun _ _ he => he
    rintro _ s₃ rfl
    refine Machine.wp_seq (socketConnect_noted hs₁ hi hfresh) ?_ fun _ _ he => he
    intro _ s₄ hpost
    rcases hpost with ⟨hi₄, hcreated, huse, hfailed⟩
    refine ⟨trivial, fun _ _ => ⟨trivial, fun _ _ => ⟨rfl, ?_, ?_⟩⟩⟩
    · intro j hj
      have hlt := hs₁ j (hfailed ▸ hj)
      exact hcreated ▸ hlt
    · exact fun _ => ⟨s.1.created, hi₄, hlatest.trans hcreated.symm, huse, hfailed ▸ hclean⟩
  · intro e s' hpost
    rcases hpost with ⟨rfl, hs'⟩
    exact ⟨trivial, fun _ _ => connectsAs_false hs' rfl⟩

theorem disconnect_truthful {s : Noted} (hs : Known s) :
    noted.Ends R disconnect (fun _ => ConnectsAs false) (fun _ _ => False) s := by
  refine ⟨trivial, fun (ok : Bool) _ => ?_⟩
  show ConnectsAs false
    (s.1.disconnectLocked ok, (failsOn s.1 .lockedDisconnect ok).toList ++ s.2)
  have hcreated : (s.1.disconnectLocked ok).created = s.1.created := by
    unfold ClientState.disconnectLocked
    split <;> rfl
  have hdis : (s.1.disconnectLocked ok).connected = false := by
    unfold ClientState.disconnectLocked
    split <;> rfl
  refine connectsAs_false ?_ hdis
  intro j hj
  rw [hcreated]
  rcases List.mem_append.mp hj with hj | hj
  · -- a `shutdown` that raised is noted for the socket it raised on
    cases ok with
    | false => exact s.1.socket_lt j (Option.mem_toList.mp hj)
    | true => exact absurd hj List.not_mem_nil
  · exact hs j hj

/-- Every attempt starts disconnected, so a loop that gives up ends so. -/
theorem reconnectAttempts_truthful (n : Nat) {s : Noted} (hs : Known s)
    (hdis : s.1.connected = false) :
    noted.Ends R (reconnectAttempts n) ConnectsAs (fun _ _ => False) s := by
  induction n generalizing s with
  | zero => exact connectsAs_false hs hdis
  | succ n ih =>
      refine Machine.wp_seq (connect_truthful 5 hs) ?_ fun _ _ he => he
      intro b s₁ h₁
      cases b with
      | true => exact h₁
      | false => exact ⟨trivial, fun _ _ => ih h₁.2.1 h₁.1⟩

theorem reconnect_truthful (n : Nat) {s : Noted} (hs : Known s) :
    noted.Ends R (reconnect n) ConnectsAs (fun _ _ => False) s := by
  refine Machine.wp_seq (disconnect_truthful hs) ?_ fun _ _ he => he
  intro _ s₁ h₁
  exact reconnectAttempts_truthful n h₁.2.1 h₁.1

/-! ## Sending -/

/-- What the `sendall` calls wrote. -/
def appended (tries : List Send) : List Char := tries.flatMap Send.written

/-- What a send call did, by its result: its `sendall` calls are on the socket in
use; it returned `True` exactly when they wrote the whole message, and otherwise
they wrote a strict prefix, and a call that tried is disconnected. -/
def SendReport (message : List Char) (s : ClientState) (b : Bool) (s' : ClientState) : Prop :=
  ∃ tries : List Send, s'.sends = s.sends ++ tries ∧ s'.socket = s.socket ∧
    (∀ x ∈ tries, ∃ i, x.sock = some i ∧ s.socket = some i ∧ i + 1 = s.created ∧
      s.usable i = true) ∧
    (b = true ↔ appended tries = message) ∧
    (b = false → ∃ rest, rest ≠ [] ∧ appended tries ++ rest = message) ∧
    (b = false → tries ≠ [] → s'.connected = false)

/-- A call that was refused before it tried. -/
theorem sendReport_refused {message : List Char} (hmessage : message ≠ []) (s : ClientState) :
    SendReport message s false s := by
  refine ⟨[], (List.append_nil _).symm, rfl, fun x hx => absurd hx List.not_mem_nil, ?_, ?_, ?_⟩
  · exact ⟨fun hb => absurd hb Bool.false_ne_true, fun hnil => absurd hnil.symm hmessage⟩
  · exact fun _ => ⟨message, hmessage, rfl⟩
  · exact fun _ htries => absurd rfl htries

/-- Everything a run of calls keeps. -/
def Inv (s : Noted) : Prop := Known s ∧ Truthful s

theorem lockedSendall_truthful (raw : List Char) {s : Noted} (hs : Inv s)
    (hc : s.1.connected = true) :
    noted.Ends R (lockedSendall raw) (fun b s' => Inv s' ∧ SendReport raw s.1 b s'.1)
      (fun _ _ => False) s := by
  obtain ⟨hknown, htruth⟩ := hs
  obtain ⟨i, hi, hlatest, huse, hclean⟩ := htruth hc
  refine ⟨trivial, fun (out : SendOutcome raw.length) _ => ?_⟩
  show noted.wp R _ (Prog.ofExcept (s.1.sendallLocked raw out).1) _ _
    ((s.1.sendallLocked raw out).2, (failsOn s.1 (.lockedSendall raw) out).toList ++ s.2)
  cases out with
  | whole =>
      have hexec : s.1.sendallLocked raw .whole =
          (.ok true, { s.1 with sends := s.1.sends ++ [⟨some i, raw, none⟩] }) := by
        simp [ClientState.sendallLocked, hi, huse, SendOutcome.cutOn]
      have hnone : failsOn s.1 (.lockedSendall raw) .whole = none := by
        simp [failsOn, hexec]
      rw [hexec, hnone]
      refine ⟨⟨hknown, htruth⟩, [⟨some i, raw, none⟩], rfl, rfl, ?_, ?_, ?_, ?_⟩
      · intro x hx
        rw [List.mem_singleton.mp hx]
        exact ⟨i, rfl, hi, hlatest, huse⟩
      · simp [appended, Send.written]
      · exact fun hb => absurd hb.symm Bool.false_ne_true
      · exact fun hb => absurd hb.symm Bool.false_ne_true
  | cut k =>
      have hexec : s.1.sendallLocked raw (.cut k) =
          (.ok false, { s.1 with
            connected := false
            sends := s.1.sends ++ [⟨some i, raw, some k⟩] }) := by
        simp [ClientState.sendallLocked, hi, huse, SendOutcome.cutOn]
      have hfails : failsOn s.1 (.lockedSendall raw) (.cut k) = some i := by
        simp [failsOn, hexec, hi]
      have hwritten : appended [⟨some i, raw, some k⟩] = raw.take k := by
        simp [appended, Send.written]
      have hrest : raw.drop k ≠ [] := by
        intro hnil
        have hle := List.drop_eq_nil_iff.mp hnil
        have hlt := k.isLt
        omega
      rw [hexec, hfails]
      refine ⟨⟨hknown.fail hi, .of_disconnected rfl⟩, [⟨some i, raw, some k⟩], rfl, rfl, ?_, ?_, ?_, ?_⟩
      · intro x hx
        rw [List.mem_singleton.mp hx]
        exact ⟨i, rfl, hi, hlatest, huse⟩
      · refine ⟨fun hb => absurd hb Bool.false_ne_true, fun hall => ?_⟩
        rw [hwritten] at hall
        have hsplit := List.take_append_drop (k : Nat) raw
        rw [hall] at hsplit
        exact absurd (List.append_right_eq_self.mp hsplit) hrest
      · exact fun _ => ⟨raw.drop k, hrest, hwritten ▸ List.take_append_drop (k : Nat) raw⟩
      · exact fun _ _ => rfl

theorem sendJointPositions_truthful (jointPositions : List ℚ) {s : Noted} (hs : Inv s) :
    noted.Ends R (sendJointPositions c jointPositions)
      (fun b s' => Inv s' ∧ SendReport (encodeLine c jointPositions) s.1 b s'.1)
      (fun _ _ => False) s := by
  have hmessage : encodeLine c jointPositions ≠ [] := by simp [encodeLine]
  have hrefused := sendReport_refused hmessage s.1
  refine sendJointPositions_enter (T := fun t => t = s ∧ s.1.connected = true) ?_ ?_ ?_
  · exact ⟨trivial, fun _ _ => ⟨fun _ => ⟨hs, hrefused⟩, fun hc => ⟨rfl, hc⟩⟩⟩
  · rintro _ _ ⟨rfl, _⟩
    exact ⟨hs, hrefused⟩
  · rintro _ s ⟨rfl, hc⟩
    exact lockedSendall_truthful _ hs hc

/-- The line of a command. -/
def commandLine (command : List Char) : List Char :=
  if command.getLast? = some '\n' then command else command ++ ['\n']

theorem commandLine_ne_nil (command : List Char) : commandLine command ≠ [] := by
  unfold commandLine
  split
  · rename_i hlast
    intro hnil
    rw [hnil] at hlast
    cases hlast
  · simp

theorem commandLine_ascii {command : List Char} (h : command.all (·.toNat < 128) = true) :
    (commandLine command).all (·.toNat < 128) = true := by
  unfold commandLine
  split
  · exact h
  · rw [List.all_append, h]
    rfl

theorem sendCommand_truthful {command : List Char} (hascii : command.all (·.toNat < 128) = true)
    {s : Noted} (hs : Inv s) :
    noted.Ends R (sendCommand command)
      (fun b s' => Inv s' ∧ SendReport (commandLine command) s.1 b s'.1)
      (fun _ _ => False) s := by
  refine ⟨trivial, fun _ _ => ?_⟩
  show noted.wp R _ (if !s.1.connected then _ else
    if (commandLine command).all (·.toNat < 128) then lockedSendall (commandLine command)
    else .raise .unicodeError) _ _ s
  rw [commandLine_ascii hascii]
  cases hc : s.1.connected with
  | false => exact ⟨hs, sendReport_refused (commandLine_ne_nil command) s.1⟩
  | true => exact lockedSendall_truthful _ hs hc

/-! ## Receiving -/

theorem receiveResponse_truthful (bufferSize : Nat) (timeout : ℚ) {s : Noted} (hs : Inv s) :
    noted.Ends R (receiveResponse bufferSize timeout) (fun _ => Inv) (fun _ _ => False) s := by
  refine ⟨trivial, fun _ _ => ?_⟩
  show noted.wp R _ (if !s.1.connected then _ else _) _ _ s
  cases hc : s.1.connected with
  | false => exact hs
  | true =>
      obtain ⟨i, hi, -⟩ := hs.2 hc
      refine ⟨trivial, fun (out : RecvOutcome) _ => ?_⟩
      show noted.wp R _ (Prog.ofExcept (s.1.recvLocked out).1) _ _
        ((s.1.recvLocked out).2, (failsOn s.1 (.lockedRecv bufferSize timeout) out).toList ++ s.2)
      cases out with
      | data cs =>
          have hexec : s.1.recvLocked (.data cs) = (.ok (some cs), s.1) := by
            simp [ClientState.recvLocked, hi]
          rw [hexec]
          exact hs
      | timeout =>
          have hexec : s.1.recvLocked .timeout = (.ok none, s.1) := by
            simp [ClientState.recvLocked, hi]
          rw [hexec]
          exact hs
      | error =>
          have hexec : s.1.recvLocked .error = (.ok none, { s.1 with connected := false }) := by
            simp [ClientState.recvLocked, hi]
          have hfails : failsOn s.1 (.lockedRecv bufferSize timeout) .error = some i := hi
          rw [hexec, hfails]
          exact ⟨hs.1.fail hi, .of_disconnected rfl⟩

/-! ## Sequences of calls -/

/-- A call of one thread; a command is ASCII text. -/
inductive ClientCall
  | connect (timeout : ℚ)
  | disconnect
  | reconnect (maxAttempts : Nat)
  | sendJointPositions (jointPositions : List ℚ)
  | sendCommand (command : { text : List Char // text.all (·.toNat < 128) = true })
  | receiveResponse (bufferSize : Nat) (timeout : ℚ)

/-- What a call returns. -/
inductive CallValue
  | none
  | bool (b : Bool)
  | response (text : Option (List Char))

/-- The method a call runs. -/
def ClientCall.method (c : ℚ) : ClientCall → Method CallValue
  | .connect timeout => do return .bool (← Driver.connect timeout)
  | .disconnect => do
      Driver.disconnect
      return .none
  | .reconnect maxAttempts => do return .bool (← Driver.reconnect maxAttempts)
  | .sendJointPositions jointPositions => do
      return .bool (← Driver.sendJointPositions c jointPositions)
  | .sendCommand command => do return .bool (← Driver.sendCommand command.1)
  | .receiveResponse bufferSize timeout => do
      return .response (← Driver.receiveResponse bufferSize timeout)

/-- What a call tells about the states before and after it. -/
def ClientCall.Report (c : ℚ) (s : ClientState) (v : CallValue) (s' : ClientState) :
    ClientCall → Prop
  | .connect _ | .reconnect _ => v = .bool s'.connected
  | .disconnect => v = .none
  | .sendJointPositions jointPositions =>
      ∃ b, v = .bool b ∧ SendReport (encodeLine c jointPositions) s b s'
  | .sendCommand command => ∃ b, v = .bool b ∧ SendReport (commandLine command.1) s b s'
  | .receiveResponse _ _ => ∃ text, v = .response text

theorem ClientCall.method_truthful (k : ClientCall) {s : Noted} (hs : Inv s) :
    noted.Ends R (k.method c) (fun v s' => Inv s' ∧ k.Report c s.1 v s'.1)
      (fun _ _ => False) s := by
  cases k with
  | connect timeout =>
      refine Machine.wp_seq (connect_truthful timeout hs.1) ?_ fun _ _ he => he
      exact fun b s' h => ⟨h.2, congrArg CallValue.bool h.1.symm⟩
  | disconnect =>
      refine Machine.wp_seq (disconnect_truthful hs.1) ?_ fun _ _ he => he
      exact fun _ s' h => ⟨h.2, rfl⟩
  | reconnect maxAttempts =>
      refine Machine.wp_seq (reconnect_truthful maxAttempts hs.1) ?_ fun _ _ he => he
      exact fun b s' h => ⟨h.2, congrArg CallValue.bool h.1.symm⟩
  | sendJointPositions jointPositions =>
      refine Machine.wp_seq (sendJointPositions_truthful jointPositions hs) ?_ fun _ _ he => he
      exact fun b s' h => ⟨h.1, b, rfl, h.2⟩
  | sendCommand command =>
      refine Machine.wp_seq (sendCommand_truthful command.2 hs) ?_ fun _ _ he => he
      exact fun b s' h => ⟨h.1, b, rfl, h.2⟩
  | receiveResponse bufferSize timeout =>
      refine Machine.wp_seq (receiveResponse_truthful bufferSize timeout hs) ?_ fun _ _ he => he
      exact fun text s' h => ⟨h, text, rfl⟩

/-- The call ran to its end, which may be an exception. -/
def Call (c : ℚ) (k : ClientCall) (s : Noted) (r : Except PyException CallValue)
    (s' : Noted) : Prop :=
  noted.Steps noted.anyChoice (k.method c, s) (.ofExcept r, s')

/-- A call on the noting driver is a run of the method on the driver. -/
theorem Call.steps {k : ClientCall} {s s' : Noted} {r : Except PyException CallValue}
    (hcall : Call c k s r s') :
    driver.Steps driver.anyChoice (k.method c, s.1) (.ofExcept r, s'.1) :=
  Machine.ghost_steps hcall

/-- Every run of the method is such a call. -/
theorem call_of_steps {k : ClientCall} {s s' : ClientState} {r : Except PyException CallValue}
    (h : driver.Steps driver.anyChoice (k.method c, s) (.ofExcept r, s')) (failed : List Nat) :
    ∃ failed', Call c k (s, failed) r (s', failed') :=
  h.ghost failed

/-- A sequence of calls on a new client. -/
inductive Calls (c : ℚ) : List (ClientCall × Except PyException CallValue) → Noted → Prop
  | nil : Calls c [] (.init, [])
  | snoc {ks : List (ClientCall × Except PyException CallValue)} {s s' : Noted}
      {k : ClientCall} {r : Except PyException CallValue} (h : Calls c ks s)
      (hcall : Call c k s r s') : Calls c (ks ++ [(k, r)]) s'

/-- **Step.** A call does not raise, keeps the invariant and reports. -/
theorem Call.truthful {k : ClientCall} {s s' : Noted} {r : Except PyException CallValue}
    (hcall : Call c k s r s') (hs : Inv s) :
    Inv s' ∧ ∃ v, r = .ok v ∧ k.Report c s.1 v s'.1 := by
  have hwp := Machine.wp_steps (c := (k.method c, s)) (k.method_truthful hs) hcall
  cases r with
  | ok v => exact ⟨hwp.1, v, rfl, hwp.2⟩
  | error e => exact hwp.elim

/-- **Run.** -/
theorem Calls.inv {ks : List (ClientCall × Except PyException CallValue)} {s : Noted}
    (h : Calls c ks s) : Inv s := by
  induction h with
  | nil => exact ⟨fun i hi => absurd hi List.not_mem_nil, .of_disconnected rfl⟩
  | snoc _ hcall ih => exact (hcall.truthful ih).1

/-- **The connection state is truthful** after every call of every sequence: it
did not raise, `connected` is `True` only over the latest connection, without a
failure, and the result of the call tells what it left behind. -/
theorem connection_truthful {ks : List (ClientCall × Except PyException CallValue)}
    {k : ClientCall} {s s' : Noted} {r : Except PyException CallValue} (hrun : Calls c ks s)
    (hcall : Call c k s r s') :
    Truthful s' ∧ ∃ v, r = .ok v ∧ k.Report c s.1 v s'.1 := by
  obtain ⟨hinv, hreport⟩ := hcall.truthful hrun.inv
  exact ⟨hinv.2, hreport⟩

/-! ## A send that is cut -/

/-- A call in which every operation has the outcome `pick` gives it. -/
def called (pick : (o : DriverOp) → o.Choice) (k : ClientCall) (s : Noted) :
    Except PyException CallValue × Noted :=
  noted.run (fun _ => pick) (k.method 57) s

theorem called_call (pick : (o : DriverOp) → o.Choice) (k : ClientCall) (s : Noted) :
    Call 57 k s (called pick k s).1 (called pick k s).2 :=
  Machine.run_steps (M := noted) (fun _ _ => trivial) _ _

/-- The client after a connection. -/
def connectedClient : Noted := (called DriverOp.success (.connect 5) (.init, [])).2

/-- A command that is cut. -/
def cutCommand : Except PyException CallValue × Noted :=
  called DriverOp.unreachable (.sendCommand ⟨['S'], by decide⟩) connectedClient

/-- `connection_truthful` for a command that is cut: the client is disconnected, and
the failure is noted for its socket. -/
theorem connection_truthful_cut :
    cutCommand.2.1.connected = false ∧ cutCommand.2.2 = [0] ∧ Truthful cutCommand.2 ∧
      ∃ v, cutCommand.1 = .ok v ∧
        (ClientCall.sendCommand ⟨['S'], by decide⟩).Report 57 connectedClient.1 v cutCommand.2.1 :=
  ⟨by decide +kernel, by decide +kernel,
    connection_truthful (Calls.nil.snoc (called_call _ _ _)) (called_call _ _ _)⟩

end HakRobot.Driver
