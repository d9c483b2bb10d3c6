import HakRobot.Driver.Walk
import Mathlib.Data.Fintype.Basic

/-!
# The wait of a new connection

`connect` sets `self.connected` before it waits for the robot, and it does not
take the lock. A sender that sees the flag, or saw it for the connection before,
can write while another thread is still in the wait.

* `WaitLog` — which connection each thread has made and not waited for, and
  which ones have been waited for, read off the history of a run;
* `run_waitInv` — in every schedule, a connection was waited for or the thread
  that made it is on its way to the end of its wait;
* `lines_after_wait` — the lines of a schedule in which nobody is on that way
  when one of them is sent.
-/

namespace HakRobot.Driver

open HakRobot.Proc

variable {ι : Type} {c : ℚ} {α β : Type}

/-! ## How far a thread is in its wait -/

/-- `linked` after `self.socket.connect`, `waiting` before the wait. -/
inductive WaitPhase
  | idle
  | linked
  | waiting
deriving DecidableEq

/-- The phase after an operation, from its answer. -/
def WaitPhase.next (ℓ : WaitPhase) (o : DriverOp) (r : o.Res) : WaitPhase :=
  match o, r with
  | .socketConnect, .ok _ => .linked
  | .writeConnected _, _ => if ℓ = .linked then .waiting else ℓ
  | .sleep _, _ => .idle
  | _, _ => ℓ

/-- A thread that has connected does nothing before it has waited but to set
`connected`. -/
def WaitPhase.Allows : WaitPhase → DriverOp → Prop
  | .idle, _ => True
  | .linked, o => o = .writeConnected true
  | .waiting, o => o = .sleep connectWait

/-- `p` is not left between a connection and its wait. -/
def Waits (p : Method α) : Prop :=
  (Machine.monitor driverSig WaitPhase.next).wp (Machine.anyChoice _) WaitPhase.Allows p
    (fun _ ℓ => ℓ = .idle) (fun _ ℓ => ℓ = .idle) .idle

theorem Waits.bind {p : Method α} {f : α → Method β} (hp : Waits p) (hf : ∀ a, Waits (f a)) :
    Waits (p.bind f) := by
  refine Machine.wp_seq hp ?_ fun _ _ h => h
  intro a ℓ hℓ
  rw [hℓ]
  exact hf a

theorem Waits.tryCatch {p : Method α} {h : PyException → Method α} (hp : Waits p)
    (hh : ∀ e, Waits (h e)) : Waits (p.tryCatch h) := by
  refine Machine.wp_catch hp ?_
  intro e ℓ hℓ
  rw [hℓ]
  exact hh e

theorem Waits.of_uses {p : Method α} (hp : p.Uses OutsideConnect) : Waits p := by
  refine Machine.wp_of_uses (I := (· = WaitPhase.idle)) ?_ hp rfl
  intro ℓ o hℓ ho
  rw [hℓ]
  refine ⟨trivial, fun (r : o.Res) _ => ?_⟩
  show WaitPhase.idle.next o r = .idle
  cases o with
  | socketConnect => exact ho.elim
  | writeConnected b => exact ho.elim
  | _ => rfl

theorem newSocket_waits : Waits newSocket := by
  refine ⟨trivial, fun (r : Except PyException Unit) _ => ?_⟩
  cases r with
  | ok _ => exact rfl
  | error e => exact rfl

theorem connect_waits (timeout : ℚ) : Waits (connect timeout) := by
  refine Waits.tryCatch ?_ fun e => ?_
  · refine newSocket_waits.bind fun _ => ?_
    refine Waits.bind (p := setsockopt) (.of_uses ⟨trivial, fun r => Prog.uses_ofExcept r⟩)
      fun _ => ?_
    refine Waits.bind (p := settimeout timeout)
      (.of_uses ⟨trivial, fun r => Prog.uses_ofExcept r⟩) fun _ => ?_
    refine ⟨trivial, fun (r : Except PyException Unit) _ => ?_⟩
    cases r with
    | ok _ => exact ⟨rfl, fun _ _ => ⟨rfl, fun _ _ => rfl⟩⟩
    | error e => exact rfl
  · split
    · exact ⟨trivial, fun _ _ => rfl⟩
    · exact rfl

/-- No method is left between a connection and its wait. -/
theorem waits_compositional : Compositional fun _ p => Waits p where
  bind := Waits.bind
  tryCatch := Waits.tryCatch
  of_uses := Waits.of_uses
  connect := connect_waits

/-! ## The waits of a history -/

/-- The client's socket and how many it created, as in the state; the connection
each thread has made and not yet waited for; the connections that were waited
for; and for each `sendall` so far whether it was on one of these. -/
structure WaitLog (ι : Type) where
  current : Option Nat
  created : Nat
  awaited : ι → Option Nat
  elapsed : List Nat
  calls : List Bool

/-- Before the first operation. -/
def WaitLog.init : WaitLog ι := ⟨none, 0, fun _ => none, [], []⟩

/-- The connection of `self.socket` was waited for. -/
def WaitLog.Elapsed (w : WaitLog ι) : Bool := w.current.any (· ∈ w.elapsed)

variable [DecidableEq ι]

/-- The log after an operation of thread `i`. -/
def WaitLog.next (w : WaitLog ι) (i : ι) (o : DriverOp) (r : o.Res) : WaitLog ι :=
  match o, r with
  | .newSocket, .ok _ => { w with current := some w.created, created := w.created + 1 }
  | .lockedDisconnect, _ => { w with current := none }
  | .socketConnect, .ok _ => { w with awaited := Function.update w.awaited i w.current }
  | .sleep _, _ =>
      { w with
        awaited := Function.update w.awaited i none
        elapsed := w.elapsed ++ (w.awaited i).toList }
  | .lockedSendall _, _ => { w with calls := w.calls ++ [w.Elapsed] }
  | _, _ => w

/-- The log of a history. -/
def waitLog (h : Pool.History driverSig ι) : WaitLog ι :=
  h.foldl (fun w e => w.next e.1 e.2.1 e.2.2) .init

theorem waitLog_snoc (h : Pool.History driverSig ι) (i : ι) (o : DriverOp) (r : o.Res) :
    waitLog (h ++ [(i, ⟨o, r⟩)]) = (waitLog h).next i o r := by
  simp [waitLog, List.foldl_append]

/-- What holds between the operations: a connection was waited for, or the thread
that made it is on its way to the end of its wait. -/
structure WaitInv (w : WaitLog ι) (s : ClientState) (ℓ : ι → WaitPhase) : Prop where
  current : w.current = s.socket
  created : w.created = s.created
  idle : ∀ k, ℓ k = .idle → w.awaited k = none
  waited : ∀ j, (s.socks j).established = true → j ∈ w.elapsed ∨ ∃ k, w.awaited k = some j

namespace WaitInv

variable {w : WaitLog ι} {s : ClientState} {ℓ : ι → WaitPhase} {i : ι}

/-- An operation that changes neither the socket nor what is waited for. -/
theorem keep {s' : ClientState} (h : WaitInv w s ℓ) (hsocket : s'.socket = s.socket)
    (hcreated : s'.created = s.created) (hsocks : s'.socks = s.socks) :
    WaitInv w s' (Function.update ℓ i (ℓ i)) := by
  rw [Function.update_eq_self]
  exact ⟨h.current.trans hsocket.symm, h.created.trans hcreated.symm, h.idle, hsocks ▸ h.waited⟩

theorem step_newSocket (h : WaitInv w s ℓ) (ok : Bool) :
    WaitInv (w.next i .newSocket (s.openSocket ok).1) (s.openSocket ok).2
      (Function.update ℓ i ((ℓ i).next .newSocket (s.openSocket ok).1)) := by
  cases ok with
  | false => exact h.keep rfl rfl rfl
  | true =>
      show WaitInv _ _ (Function.update ℓ i (ℓ i))
      rw [Function.update_eq_self]
      refine ⟨congrArg some h.created, congrArg (· + 1) h.created, h.idle, ?_⟩
      intro j hj
      -- the new socket is not a connection yet
      by_cases hnew : j = s.created
      · subst hnew
        simp [ClientState.openSocket] at hj
      · have hold : (s.openSocket true).2.socks j = s.socks j := Function.update_of_ne hnew _ _
        exact h.waited j (hold ▸ hj)

theorem step_lockedDisconnect (h : WaitInv w s ℓ) (ok : Bool) :
    WaitInv (w.next i .lockedDisconnect ()) (s.disconnectLocked ok)
      (Function.update ℓ i (ℓ i)) := by
  rw [Function.update_eq_self]
  cases hs : s.socket with
  | none =>
      have hkeep : s.disconnectLocked ok = { s with connected := false } := by
        simp [ClientState.disconnectLocked, hs]
      rw [hkeep]
      exact ⟨hs.symm, h.created, h.idle, h.waited⟩
  | some j =>
      have hsocks : ∀ k,
          ((s.disconnectLocked ok).socks k).established = (s.socks k).established := by
        intro k
        simp only [ClientState.disconnectLocked]
        split
        · rfl
        · rename_i j' hj
          by_cases hk : k = j'
          · subst hk
            simp
          · simp [Function.update_of_ne hk]
      refine ⟨?_, ?_, h.idle, fun k hk => h.waited k (hsocks k ▸ hk)⟩
      · show none = (s.disconnectLocked ok).socket
        simp only [ClientState.disconnectLocked]
        split
        · rename_i hnone
          rw [hs] at hnone
          cases hnone
        · rfl
      · show w.created = (s.disconnectLocked ok).created
        simp only [ClientState.disconnectLocked]
        split
        · exact h.created
        · exact h.created

theorem step_socketConnect (h : WaitInv w s ℓ) (hi : (ℓ i).Allows .socketConnect) (ok : Bool) :
    WaitInv (w.next i .socketConnect (s.connectSocket ok).1) (s.connectSocket ok).2
      (Function.update ℓ i ((ℓ i).next .socketConnect (s.connectSocket ok).1)) := by
  have hfree : w.awaited i = none := by
    apply h.idle
    cases hℓ : ℓ i with
    | idle => rfl
    | linked =>
        rw [hℓ] at hi
        cases hi
    | waiting =>
        rw [hℓ] at hi
        cases hi
  unfold ClientState.connectSocket
  split
  · exact h.keep rfl rfl rfl
  · rename_i j hj
    split
    · refine ⟨h.current, h.created, ?_, ?_⟩
      · intro k hk
        by_cases hki : k = i
        · subst hki
          rw [Function.update_self] at hk
          cases hk
        · rw [Function.update_of_ne hki] at hk
          show Function.update w.awaited i w.current k = none
          rw [Function.update_of_ne hki]
          exact h.idle k hk
      · intro k hk
        show k ∈ w.elapsed ∨ ∃ l, Function.update w.awaited i w.current l = some k
        by_cases hkj : k = j
        · right
          refine ⟨i, ?_⟩
          rw [Function.update_self, h.current, hj, hkj]
        · have hold : (s.socks k).established = true := by
            simpa [Function.update_of_ne hkj] using hk
          rcases h.waited k hold with hdone | ⟨l, hl⟩
          · exact .inl hdone
          · right
            refine ⟨l, ?_⟩
            have hli : l ≠ i := by
              intro hli
              subst hli
              rw [hfree] at hl
              cases hl
            rw [Function.update_of_ne hli, hl]
    · exact h.keep rfl rfl rfl

theorem step_writeConnected (h : WaitInv w s ℓ) (b : Bool) :
    WaitInv w { s with connected := b, connecting := false }
      (Function.update ℓ i (if ℓ i = .linked then .waiting else ℓ i)) := by
  refine ⟨h.current, h.created, ?_, h.waited⟩
  intro k hk
  by_cases hki : k = i
  · subst hki
    rw [Function.update_self] at hk
    split at hk
    · exact absurd hk nofun
    · exact h.idle k hk
  · rw [Function.update_of_ne hki] at hk
    exact h.idle k hk

theorem step_sleep (h : WaitInv w s ℓ) (seconds : ℚ) :
    WaitInv (w.next i (.sleep seconds) ()) s (Function.update ℓ i .idle) := by
  refine ⟨h.current, h.created, ?_, ?_⟩
  · intro k hk
    show Function.update w.awaited i none k = none
    by_cases hki : k = i
    · rw [hki, Function.update_self]
    · rw [Function.update_of_ne hki] at hk ⊢
      exact h.idle k hk
  · intro j hj
    show j ∈ w.elapsed ++ (w.awaited i).toList ∨ ∃ k, Function.update w.awaited i none k = some j
    rcases h.waited j hj with hdone | ⟨k, hk⟩
    · exact .inl (List.mem_append_left _ hdone)
    · by_cases hki : k = i
      · left
        apply List.mem_append_right
        rw [← hki, hk]
        exact List.mem_singleton_self j
      · exact .inr ⟨k, by rw [Function.update_of_ne hki, hk]⟩

/-- A `sendall` only adds to the list of calls. -/
theorem step_lockedSendall (h : WaitInv w s ℓ) (raw : List Char) (out : SendOutcome raw.length) :
    WaitInv (w.next i (.lockedSendall raw) (s.sendallLocked raw out).1)
      (s.sendallLocked raw out).2 (Function.update ℓ i (ℓ i)) := by
  have hcalls : WaitInv { w with calls := w.calls ++ [w.Elapsed] } s ℓ :=
    ⟨h.current, h.created, h.idle, h.waited⟩
  unfold ClientState.sendallLocked
  split
  · exact hcalls.keep rfl rfl rfl
  · split
    · exact hcalls.keep rfl rfl rfl
    · exact hcalls.keep rfl rfl rfl

theorem step_lockedRecv (h : WaitInv w s ℓ) (out : RecvOutcome) :
    WaitInv w (s.recvLocked out).2 (Function.update ℓ i (ℓ i)) := by
  unfold ClientState.recvLocked
  split
  · exact h.keep rfl rfl rfl
  · split
    · exact h.keep rfl rfl rfl
    · exact h.keep rfl rfl rfl
    · exact h.keep rfl rfl rfl

theorem step_configure (h : WaitInv w s ℓ) (ok : Bool) :
    WaitInv w (s.configure ok).2 (Function.update ℓ i (ℓ i)) := by
  rw [ClientState.configure_snd]
  exact h.keep rfl rfl rfl

/-- **Step.** An operation a thread may do in its phase keeps the invariant. -/
theorem step (h : WaitInv w s ℓ) {o : DriverOp} (x : driver.Choice o) (hi : (ℓ i).Allows o) :
    WaitInv (w.next i o (driver.exec o x s).1) (driver.exec o x s).2
      (Function.update ℓ i ((ℓ i).next o (driver.exec o x s).1)) := by
  cases o with
  | newSocket => exact h.step_newSocket x
  | socketConnect => exact h.step_socketConnect hi x
  | writeConnected b => exact h.step_writeConnected b
  | sleep seconds => exact h.step_sleep seconds
  | lockedDisconnect => exact h.step_lockedDisconnect x
  | lockedSendall raw => exact h.step_lockedSendall raw x
  | setsockopt => exact h.step_configure x
  | settimeout _ => exact h.step_configure x
  | lockedRecv _ _ => exact h.step_lockedRecv x
  | _ => exact h.keep rfl rfl rfl

end WaitInv

/-! ## Every schedule -/

section Runs

variable {jobs : ι → List ClientJob} {h : Pool.History driverSig ι}
  {P' : Pool driverSig ClientState PyException Unit ι}

theorem run_waitInv (hrun : Pool.Run driver driver.anyChoice (clientPool c .init jobs) h P') :
    WaitInv (waitLog h) P'.shared (Pool.History.phases WaitPhase.next (fun _ => .idle) h) := by
  have hinit : WaitInv (waitLog []) ClientState.init fun _ : ι => WaitPhase.idle :=
    ⟨rfl, rfl, fun _ _ => rfl, fun _ hj => absurd hj Bool.false_ne_true⟩
  refine (hrun.runWith (C := fun _ _ _ => True) fun _ _ _ => trivial).invariant_history
    (I := fun h s ℓ => WaitInv (waitLog h) s ℓ) hinit
    (fun i => waits_compositional.thread (jobs i)) ?_
  intro h P ℓ i o x hinv _ _ _ hi
  rw [waitLog_snoc]
  exact hinv.step x hi

/-- The operation sends one of the lines `J`. -/
def SendsLine (J : List Char → Prop) : DriverOp → Prop
  | .lockedSendall raw => J raw
  | _ => False

instance (J : List Char → Prop) [DecidablePred J] : DecidablePred (SendsLine J) := by
  intro o
  cases o <;> unfold SendsLine <;> infer_instance

/-- Whenever one of the lines `J` is sent, no thread is between the return of its
`self.socket.connect` and the end of its wait. -/
def Guarded (J : List Char → Prop) : WaitLog ι → Pool.History driverSig ι → Prop
  | _, [] => True
  | w, e :: h =>
      (SendsLine J e.2.1 → ∀ k, w.awaited k = none) ∧ Guarded J (w.next e.1 e.2.1 e.2.2) h

instance decidableGuarded {J : List Char → Prop} [DecidablePred J] [Fintype ι] :
    ∀ (w : WaitLog ι) (h : Pool.History driverSig ι), Decidable (Guarded J w h)
  | _, [] => inferInstanceAs (Decidable True)
  | w, e :: h =>
      have := decidableGuarded (J := J) (w.next e.1 e.2.1 e.2.2) h
      inferInstanceAs (Decidable
        ((SendsLine J e.2.1 → ∀ k, w.awaited k = none) ∧ Guarded J (w.next e.1 e.2.1 e.2.2) h))

theorem Guarded.mono {J J' : List Char → Prop} (hJ : ∀ raw, J raw → J' raw) {w : WaitLog ι}
    {h : Pool.History driverSig ι} (hg : Guarded J' w h) : Guarded J w h := by
  induction h generalizing w with
  | nil => exact trivial
  | cons e h ih =>
      refine ⟨fun hsends => hg.1 ?_, ih hg.2⟩
      obtain ⟨i, o, r⟩ := e
      cases o with
      | lockedSendall raw => exact hJ raw hsends
      | _ => exact hsends.elim

theorem Guarded.snoc {J : List Char → Prop} {w : WaitLog ι} {h : Pool.History driverSig ι}
    {e : ι × Event driverSig} (hg : Guarded J w (h ++ [e])) :
    Guarded J w h ∧ (SendsLine J e.2.1 →
      ∀ k, (h.foldl (fun w e => w.next e.1 e.2.1 e.2.2) w).awaited k = none) := by
  induction h generalizing w with
  | nil => exact ⟨trivial, hg.1⟩
  | cons e' h ih => exact ⟨⟨hg.1, (ih hg.2).1⟩, (ih hg.2).2⟩

/-- A line of `J` that was written, in whole or in part, was written to a
connection that had been waited for. -/
def AfterWait (J : List Char → Prop) (x : Send) (waited : Bool) : Prop :=
  J x.line → x.written ≠ [] → waited = true

theorem sendallLocked_call (s : ClientState) {raw : List Char} (out : SendOutcome raw.length) :
    ∃ x : Send, (s.sendallLocked raw out).2.sends = s.sends ++ [x] ∧ x.line = raw ∧
      (x.written ≠ [] → ∃ j, s.socket = some j ∧ (s.socks j).established = true) := by
  have hnothing : ∀ sock, (⟨sock, raw, some 0⟩ : Send).written = [] := fun _ => rfl
  unfold ClientState.sendallLocked
  split
  · exact ⟨_, rfl, rfl, fun hwritten => absurd (hnothing none) hwritten⟩
  · rename_i j hj
    by_cases huse : s.usable j = true
    · have hest : (s.socks j).established = true := by
        simp only [ClientState.usable, Bool.and_eq_true] at huse
        exact huse.1
      split
      · exact ⟨_, rfl, rfl, fun _ => ⟨j, hj, hest⟩⟩
      · exact ⟨_, rfl, rfl, fun _ => ⟨j, hj, hest⟩⟩
    · have hcut : out.cutOn (s.usable j) = some 0 := by
        simp only [Bool.not_eq_true] at huse
        rw [huse]
        cases out with
        | whole => rfl
        | cut k => rfl
      rw [hcut]
      exact ⟨_, rfl, rfl, fun hwritten => absurd (hnothing (some j)) hwritten⟩

theorem next_calls {w : WaitLog ι} {i : ι} {o : DriverOp} (r : o.Res)
    (ho : ∀ raw, o ≠ .lockedSendall raw) : (w.next i o r).calls = w.calls := by
  cases o with
  | newSocket =>
      cases (r : Except PyException Unit) with
      | ok _ => rfl
      | error e => rfl
  | socketConnect =>
      cases (r : Except PyException Unit) with
      | ok _ => rfl
      | error e => rfl
  | lockedSendall raw => exact absurd rfl (ho raw)
  | _ => rfl

theorem lines_after_wait {J : List Char → Prop}
    (hrun : Pool.Run driver driver.anyChoice (clientPool c .init jobs) h P')
    (hguard : Guarded J .init h) :
    List.Forall₂ (AfterWait J) P'.shared.sends (waitLog h).calls := by
  induction hrun with
  | nil => exact .nil
  | @snoc h P₁ P₂ e hrun₁ hstep₁ ih =>
      have hinv := run_waitInv hrun₁
      cases hstep₁ with
      | @op i o k hi x hx =>
          obtain ⟨hguard₁, hnow⟩ := hguard.snoc
          have hlines := ih hguard₁
          rw [waitLog_snoc]
          by_cases ho : ∃ raw, o = .lockedSendall raw
          · obtain ⟨raw, rfl⟩ := ho
            obtain ⟨call, hsends, hline, hon⟩ := sendallLocked_call P₁.shared x
            show List.Forall₂ _ (P₁.shared.sendallLocked raw x).2.sends
              ((waitLog h).calls ++ [(waitLog h).Elapsed])
            rw [hsends]
            refine List.rel_append hlines (.cons ?_ .nil)
            intro hJ hwritten
            obtain ⟨j, hj, hest⟩ := hon hwritten
            rcases hinv.waited j hest with hdone | ⟨k, hk⟩
            · simpa [WaitLog.Elapsed, hinv.current, hj] using hdone
            · exact absurd ((hnow (hline ▸ hJ : J raw) k).symm.trans hk) nofun
          · have ho' : ∀ raw, o ≠ .lockedSendall raw := fun raw h => ho ⟨raw, h⟩
            show List.Forall₂ _ (driver.exec o x P₁.shared).2.sends _
            rw [exec_sends _ x ho', next_calls _ ho']
            exact hlines

end Runs

/-- The line of some joint angles. -/
def JointLine (c : ℚ) (raw : List Char) : Prop :=
  ∃ jointPositions : List ℚ, jointPositions.length = 6 ∧ raw = encodeLine c jointPositions

/-- **No early command.** For every number of threads, whatever jobs they do, and
every pattern of failures: in every schedule in which no thread is between the
return of its `self.socket.connect` and the end of its wait when a joint line is
sent, every joint line that was written, in whole or in part, was written to a
connection whose wait had elapsed. -/
theorem joint_lines_after_wait {jobs : ι → List ClientJob} {h : Pool.History driverSig ι}
    {P' : Pool driverSig ClientState PyException Unit ι}
    (hrun : Pool.Run driver driver.anyChoice (clientPool c .init jobs) h P')
    (hguard : Guarded (JointLine c) .init h) :
    List.Forall₂ (AfterWait (JointLine c)) P'.shared.sends (waitLog h).calls :=
  lines_after_wait hrun hguard

/-! ## A send during the wait -/

instance fintypeHandlerId : Fintype HandlerId where
  elems := {.topic, .action}
  complete id := by cases id <;> simp

/-- A line of the trajectory is cut and it takes `n` more steps, to its `reconnect` or
through it; then the goal sends its first line. -/
def goalAfter (n : Nat) :
    Pool.History driverSig HandlerId × Pool driverSig ClientState PyException Unit HandlerId :=
  Pool.schedule driver
    (succeeding 13 .topic ++ [(.topic, DriverOp.halfway)] ++ succeeding n .topic ++
      succeeding 8 .action)
    (clientPool 57 .init topicAndGoal)

/-- The line of the second of the three points. -/
def secondLine : List Char := encodeLine 57 [1 / 4, -1 / 2, 1, 0, 3 / 4, 2]

/-- `joint_lines_after_wait` for a goal after the wait, the seventh step of `reconnect`. -/
theorem joint_lines_after_wait_reconnected :
    (goalAfter 7).2.shared.sends =
      [⟨some 0, secondLine, some 24⟩, ⟨some 1, secondLine, none⟩] ∧
    List.Forall₂ (AfterWait (JointLine 57)) (goalAfter 7).2.shared.sends
      (waitLog (goalAfter 7).1).calls := by
  have hguard : Guarded (fun _ => True) .init (goalAfter 7).1 := by decide +kernel
  exact ⟨by decide +kernel,
    joint_lines_after_wait (Pool.schedule_run _) (hguard.mono fun _ _ => trivial)⟩

/-- Without the condition the goal can write its line before the wait of the
trajectory's new connection begins. -/
theorem joint_line_before_wait :
    ¬ ∀ (c : ℚ) (jobs : HandlerId → List ClientJob) (h : Pool.History driverSig HandlerId)
      (P' : Pool driverSig ClientState PyException Unit HandlerId),
      Pool.Run driver driver.anyChoice (clientPool c .init jobs) h P' →
      List.Forall₂ (AfterWait (JointLine c)) P'.shared.sends (waitLog h).calls := by
  intro hall
  have hearly := hall 57 topicAndGoal (goalAfter 6).1 (goalAfter 6).2 (Pool.schedule_run _)
  have hsends : (goalAfter 6).2.shared.sends =
      [⟨some 0, secondLine, some 24⟩, ⟨some 1, secondLine, none⟩] := by decide +kernel
  have hcalls : (waitLog (goalAfter 6).1).calls = [true, false] := by decide +kernel
  have hwritten : secondLine ≠ [] := by decide +kernel
  rw [hsends, hcalls, List.forall₂_cons, List.forall₂_cons] at hearly
  have hline : JointLine 57 secondLine := ⟨[1 / 4, -1 / 2, 1, 0, 3 / 4, 2], rfl, rfl⟩
  exact Bool.false_ne_true (hearly.2.1 hline hwritten)

end HakRobot.Driver
