import HakRobot.Driver.Walk

/-!
# Integrity of the byte stream under concurrent senders

`send_joint_positions` tests `self.connected` before it takes the lock, and
`connect` does not take it at all. So a send can start on a socket on which
another one has just been cut, or on no socket.

* `StreamInv` — the shared invariant, tied to how far each thread is in a
  `connect` call;
* `streamInv_step` — an operation that starts in a state it was meant for
  (`Timely`) keeps it;
* `streams_intact` — every schedule whose operations are all timely keeps every
  connection intact.
-/

namespace HakRobot.Driver

open HakRobot.Proc

variable {ι : Type} {c : ℚ} {α β : Type}

/-- The calls on one socket, in order. -/
def ClientState.callsOn (s : ClientState) (j : Nat) : List Send :=
  s.sends.filter fun x => x.sock = some j

/-- The characters that went into one connection. -/
def ClientState.stream (s : ClientState) (j : Nat) : List Char :=
  (s.callsOn j).flatMap Send.written

/-- Every `sendall` was on a socket, and on none where an earlier one failed. -/
structure StreamsIntact (s : ClientState) : Prop where
  onSocket : ∀ x ∈ s.sends, x.sock ≠ none
  afterWhole : s.sends.Pairwise fun x y => x.sock = y.sock → x.Whole

/-- Calls of which only the last can be cut are lines and a truncated rest. -/
theorem pairwise_whole {xs : List Send} {j : Nat} (hsock : ∀ x ∈ xs, x.sock = some j)
    (h : xs.Pairwise fun x y => x.sock = y.sock → x.Whole) :
    ∃ whole last, xs = whole ++ last ∧ (∀ x ∈ whole, x.Whole) ∧ last.length ≤ 1 := by
  induction xs with
  | nil => exact ⟨[], [], rfl, by simp, by simp⟩
  | cons x xs ih =>
      obtain ⟨hx, hxs⟩ := List.pairwise_cons.mp h
      obtain ⟨hxj, hxsj⟩ := List.forall_mem_cons.mp hsock
      cases xs with
      | nil => exact ⟨[], [x], rfl, by simp, by simp⟩
      | cons y ys =>
          obtain ⟨whole, last, heq, hwhole, hlast⟩ := ih hxsj hxs
          have hxw : x.Whole := hx y List.mem_cons_self
            (hxj.trans (hxsj y List.mem_cons_self).symm)
          refine ⟨x :: whole, last, by rw [heq, List.cons_append], ?_, hlast⟩
          exact List.forall_mem_cons.mpr ⟨hxw, hwhole⟩

/-- Every connection carries complete lines and then at most one that was cut. -/
theorem StreamsIntact.stream {s : ClientState} (h : StreamsIntact s) (j : Nat) :
    ∃ whole last : List Send, s.callsOn j = whole ++ last ∧ last.length ≤ 1 ∧
      s.stream j = whole.flatMap Send.line ++ last.flatMap Send.written := by
  have hsock : ∀ x ∈ s.callsOn j, x.sock = some j := fun x hx =>
    of_decide_eq_true (List.mem_filter.mp hx).2
  obtain ⟨whole, last, heq, hwhole, hlast⟩ := pairwise_whole hsock (h.afterWhole.filter _)
  refine ⟨whole, last, heq, hlast, ?_⟩
  have hlines : whole.flatMap Send.written = whole.flatMap Send.line := by
    refine List.flatMap_congr fun x hx => ?_
    have hx' : x.cut = none := hwhole x hx
    rw [Send.written, hx']
  rw [ClientState.stream, heq, List.flatMap_append, hlines]

/-! ## How far a thread is in `connect` -/

/-- `idle` outside `connect`; then what the thread's last step did. -/
inductive ConnectPhase
  | idle
  | refused
  | opened
  | linked
deriving DecidableEq

/-- The phase after an operation, from its answer. -/
def ConnectPhase.next (ℓ : ConnectPhase) (o : DriverOp) (r : o.Res) : ConnectPhase :=
  match o, r with
  | .newSocket, .ok _ => .opened
  | .newSocket, .error _ => .refused
  | .socketConnect, .ok _ => .linked
  | .writeConnected _, _ => .idle
  | _, _ => ℓ

/-- What a thread may do in its phase. -/
def ConnectPhase.Allows : ConnectPhase → DriverOp → Prop
  | ℓ, .socketConnect => ℓ = .opened
  | ℓ, .writeConnected true => ℓ = .linked
  | ℓ, .writeConnected false => ℓ ≠ .idle
  | _, _ => True

/-- From every phase `p` does only what the phase allows. -/
def Disciplined (p : Method α) : Prop :=
  ∀ ℓ, (Machine.monitor driverSig ConnectPhase.next).wp (Machine.anyChoice _)
    ConnectPhase.Allows p (fun _ _ => True) (fun _ _ => True) ℓ

theorem Disciplined.bind {p : Method α} {f : α → Method β} (hp : Disciplined p)
    (hf : ∀ a, Disciplined (f a)) : Disciplined (p.bind f) := fun ℓ =>
  Machine.wp_seq (hp ℓ) (fun a ℓ' _ => hf a ℓ') fun _ _ _ => trivial

theorem Disciplined.tryCatch {p : Method α} {h : PyException → Method α} (hp : Disciplined p)
    (hh : ∀ e, Disciplined (h e)) : Disciplined (p.tryCatch h) := fun ℓ =>
  Machine.wp_catch (hp ℓ) fun e ℓ' _ => hh e ℓ'

theorem OutsideConnect.allows {o : DriverOp} (h : OutsideConnect o) (ℓ : ConnectPhase) :
    ℓ.Allows o := by
  cases o with
  | socketConnect => exact h.elim
  | writeConnected b => exact h.elim
  | _ => exact trivial

theorem Disciplined.of_uses {p : Method α} (hp : p.Uses OutsideConnect) : Disciplined p := fun _ =>
  Machine.wp_of_uses (I := fun _ => True)
    (fun ℓ _ _ ho => ⟨ho.allows ℓ, fun _ _ => trivial⟩) hp trivial

/-! ## The methods -/

theorem newSocket_phase (ℓ : ConnectPhase) :
    (Machine.monitor driverSig ConnectPhase.next).wp (Machine.anyChoice _) ConnectPhase.Allows
      newSocket (fun _ ℓ' => ℓ' = .opened) (fun _ ℓ' => ℓ' ≠ .idle) ℓ := by
  refine ⟨trivial, fun (r : Except PyException Unit) _ => ?_⟩
  cases r with
  | ok _ => exact rfl
  | error e => exact ConnectPhase.noConfusion

/-- A call that is no part of the handshake keeps the phase. -/
theorem keep_phase {p : Method α} (hp : p.Uses OutsideConnect) (ℓ : ConnectPhase) :
    (Machine.monitor driverSig ConnectPhase.next).wp (Machine.anyChoice _) ConnectPhase.Allows
      p (fun _ ℓ' => ℓ' = ℓ) (fun _ ℓ' => ℓ' = ℓ) ℓ := by
  refine Machine.wp_of_uses (I := fun ℓ' => ℓ' = ℓ) ?_ hp rfl
  rintro ℓ' o rfl ho
  refine ⟨OutsideConnect.allows ho ℓ', fun (r : o.Res) _ => ?_⟩
  show ℓ'.next o r = ℓ'
  cases o with
  | newSocket => exact ho.elim
  | socketConnect => exact ho.elim
  | writeConnected b => exact ho.elim
  | _ => rfl

theorem socketConnect_phase :
    (Machine.monitor driverSig ConnectPhase.next).wp (Machine.anyChoice _) ConnectPhase.Allows
      socketConnect (fun _ ℓ' => ℓ' = .linked) (fun _ ℓ' => ℓ' ≠ .idle) .opened := by
  refine ⟨rfl, fun (r : Except PyException Unit) _ => ?_⟩
  cases r with
  | ok _ => exact rfl
  | error e => exact ConnectPhase.noConfusion

theorem connect_disciplined (timeout : ℚ) : Disciplined (connect timeout) := by
  intro ℓ
  refine Machine.wp_catch (F := fun _ ℓ' => ℓ' ≠ .idle) ?_ ?_
  · have hset : setsockopt.Uses OutsideConnect := ⟨trivial, fun r => by cases r <;> trivial⟩
    have htime : (settimeout timeout).Uses OutsideConnect :=
      ⟨trivial, fun r => by cases r <;> trivial⟩
    refine Machine.wp_seq (newSocket_phase ℓ) ?_ fun _ _ he => he
    rintro _ _ rfl
    refine Machine.wp_seq (keep_phase hset .opened) ?_ (by rintro _ _ rfl; exact nofun)
    rintro _ _ rfl
    refine Machine.wp_seq (keep_phase htime .opened) ?_ (by rintro _ _ rfl; exact nofun)
    rintro _ _ rfl
    refine Machine.wp_seq socketConnect_phase ?_ fun _ _ he => he
    rintro _ _ rfl
    exact ⟨rfl, fun _ _ => ⟨trivial, fun _ _ => trivial⟩⟩
  · intro e ℓ' hℓ
    by_cases he : e = .socketError
    · simp only [he, if_true]
      exact ⟨hℓ, fun _ _ => trivial⟩
    · simp only [he, if_false]
      exact trivial

/-- Every method keeps to its phase. -/
theorem disciplined_compositional : Compositional fun _ p => Disciplined p where
  bind := Disciplined.bind
  tryCatch := Disciplined.tryCatch
  of_uses := Disciplined.of_uses
  connect := connect_disciplined

theorem thread_disciplined (jobs : List ClientJob) : Disciplined (thread c jobs) :=
  disciplined_compositional.thread jobs

/-! ## The shared invariant -/

/-- No `sendall` was made on socket `j`. -/
def ClientState.Unused (s : ClientState) (j : Nat) : Prop := ∀ x ∈ s.sends, x.sock ≠ some j

/-- What holds between the operations: one thread at most is in `connect`, its
socket is new, and `connected` stands for a connection on which nothing was
cut. -/
structure StreamInv (s : ClientState) (ℓ : ι → ConnectPhase) : Prop where
  alone : ∀ i k, ℓ i ≠ .idle → ℓ k ≠ .idle → i = k
  connecting : ∀ i, ℓ i ≠ .idle → s.connecting = true
  opened : ∀ i, ℓ i = .opened →
    ∃ j, s.socket = some j ∧ s.socks j = ⟨false, false⟩ ∧ s.Unused j
  linked : ∀ i, ℓ i = .linked → ∃ j, s.socket = some j ∧ s.usable j = true ∧ s.Unused j
  connected : s.connected = true → s.connecting = false ∧
    ∃ j, s.socket = some j ∧ s.usable j = true ∧ ∀ x ∈ s.sends, x.sock = some j → x.Whole
  below : ∀ x ∈ s.sends, ∃ j, x.sock = some j ∧ j < s.created
  afterWhole : s.sends.Pairwise fun x y => x.sock = y.sock → x.Whole

/-- The states an operation was meant for: `sendall` and `connect` start as
their last test saw the client, and nothing else interferes with a `connect`. -/
def Timely (s : ClientState) : DriverOp → Prop
  | .lockedSendall _ => s.connected = true
  | .newSocket => s.connected = false ∧ s.connecting = false
  | .lockedDisconnect => s.connecting = false
  | _ => True

instance (s : ClientState) : (o : DriverOp) → Decidable (Timely s o)
  | .lockedSendall _ => inferInstanceAs (Decidable (_ = _))
  | .newSocket => inferInstanceAs (Decidable (_ ∧ _))
  | .lockedDisconnect => inferInstanceAs (Decidable (_ = _))
  | .readConnected | .writeConnected _ | .setsockopt | .settimeout _ | .socketConnect
  | .lockedRecv _ _ | .sleep _ | .rospySleep _ | .isShutdown | .readExecuting _
  | .writeExecuting _ _ => inferInstanceAs (Decidable True)

/-- Every operation starts in a state it was meant for. -/
def timely : driver.Rely := fun s o _ => Timely s o

instance (s : ClientState) (o : DriverOp) (x : driver.Choice o) : Decidable (timely s o x) :=
  inferInstanceAs (Decidable (Timely s o))

namespace StreamInv

variable {s : ClientState} {ℓ : ι → ConnectPhase}

theorem intact (h : StreamInv s ℓ) : StreamsIntact s := by
  refine ⟨fun x hx => ?_, h.afterWhole⟩
  obtain ⟨j, hj, _⟩ := h.below x hx
  rw [hj]
  exact Option.some_ne_none j

/-- Nobody is in `connect`. -/
theorem all_idle (h : StreamInv s ℓ) (hs : s.connecting = false) (i : ι) : ℓ i = .idle := by
  by_contra hi
  exact Bool.false_ne_true (hs.symm.trans (h.connecting i hi))

theorem not_connected (h : StreamInv s ℓ) {i : ι} (hi : ℓ i ≠ .idle) : s.connected = false := by
  by_contra hc
  have hs := (h.connected (by simpa using hc)).1
  exact hi (h.all_idle hs i)

/-- `self.connected = False`. -/
theorem clear (h : StreamInv s ℓ) : StreamInv { s with connected := false } ℓ :=
  ⟨h.alone, h.connecting, h.opened, h.linked, fun hc => absurd hc Bool.false_ne_true, h.below,
    h.afterWhole⟩

theorem step_lockedSendall (h : StreamInv s ℓ) {raw : List Char} (hs : s.connected = true)
    (out : SendOutcome raw.length) : StreamInv (s.sendallLocked raw out).2 ℓ := by
  obtain ⟨hidle, j, hj, huse, hclean⟩ := h.connected hs
  have hall := h.all_idle hidle
  -- the new call is on socket `j`, where every earlier one was whole
  have happend : ∀ x : Send, x.sock = some j →
      (∀ y ∈ s.sends ++ [x], ∃ k, y.sock = some k ∧ k < s.created) ∧
      (s.sends ++ [x]).Pairwise fun x y => x.sock = y.sock → x.Whole := by
    intro x hx
    refine ⟨fun y hy => ?_,
      List.pairwise_append.mpr ⟨h.afterWhole, List.pairwise_singleton _ _, ?_⟩⟩
    · rcases List.mem_append.mp hy with hy | hy
      · exact h.below y hy
      · obtain rfl := List.mem_singleton.mp hy
        exact ⟨j, hx, s.socket_lt j hj⟩
    · intro y hy z hz heq
      obtain rfl := List.mem_singleton.mp hz
      exact hclean y hy (heq.trans hx)
  have hfree : ∀ {P : ι → Prop} {ph : ConnectPhase}, ph ≠ .idle → ∀ k, ℓ k = ph → P k :=
    fun hph k hk => absurd (hk.symm.trans (hall k)) hph
  unfold ClientState.sendallLocked
  split
  · rename_i hnone
    exact absurd (hnone.symm.trans hj) nofun
  · rename_i k hk
    obtain rfl : k = j := Option.some.inj (hk.symm.trans hj)
    split
    · obtain ⟨hbelow, hpair⟩ := happend ⟨some k, raw, none⟩ rfl
      refine ⟨h.alone, h.connecting, hfree nofun, hfree nofun, fun _ => ⟨hidle, k, hj, huse, ?_⟩,
        hbelow, hpair⟩
      intro x hx hxk
      rcases List.mem_append.mp hx with hx | hx
      · exact hclean x hx hxk
      · obtain rfl := List.mem_singleton.mp hx
        rfl
    · rename_i n _
      obtain ⟨hbelow, hpair⟩ := happend ⟨some k, raw, some n⟩ rfl
      exact ⟨h.alone, h.connecting, hfree nofun, hfree nofun,
        fun hc => absurd hc Bool.false_ne_true, hbelow, hpair⟩

theorem step_lockedDisconnect (h : StreamInv s ℓ) (hs : s.connecting = false) (ok : Bool) :
    StreamInv (s.disconnectLocked ok) ℓ := by
  have hall := h.all_idle hs
  have hfree : ∀ {P : ι → Prop} {ph : ConnectPhase}, ph ≠ .idle → ∀ k, ℓ k = ph → P k :=
    fun hph k hk => absurd (hk.symm.trans (hall k)) hph
  unfold ClientState.disconnectLocked
  split
  · exact h.clear
  · exact ⟨h.alone, h.connecting, hfree nofun, hfree nofun,
      fun hc => absurd hc Bool.false_ne_true, h.below, h.afterWhole⟩

theorem step_lockedRecv (h : StreamInv s ℓ) (out : RecvOutcome) :
    StreamInv (s.recvLocked out).2 ℓ := by
  unfold ClientState.recvLocked
  split
  · exact h
  · split
    · exact h
    · exact h
    · exact h.clear

variable [DecidableEq ι]

theorem step_newSocket (h : StreamInv s ℓ) (hs : Timely s .newSocket) (i : ι) (ok : Bool) :
    StreamInv (s.openSocket ok).2
      (Function.update ℓ i ((ℓ i).next .newSocket (s.openSocket ok).1)) := by
  obtain ⟨hcon, hidle⟩ := hs
  have hothers : ∀ ℓ₁ k, Function.update ℓ i ℓ₁ k ≠ .idle → k = i := by
    intro ℓ₁ k hk
    by_contra hki
    rw [Function.update_of_ne hki] at hk
    exact hk (h.all_idle hidle k)
  cases ok with
  | false =>
      refine ⟨fun k k' hk hk' => (hothers _ k hk).trans (hothers _ k' hk').symm, fun _ _ => rfl,
        fun k hk => ?_, fun k hk => ?_, fun hc => ?_, h.below, h.afterWhole⟩
      · obtain rfl := hothers _ k (by rw [hk]; exact nofun)
        rw [Function.update_self] at hk
        cases hk
      · obtain rfl := hothers _ k (by rw [hk]; exact nofun)
        rw [Function.update_self] at hk
        cases hk
      · exact absurd (hcon.symm.trans hc) Bool.false_ne_true
  | true =>
      refine ⟨fun k k' hk hk' => (hothers _ k hk).trans (hothers _ k' hk').symm, fun _ _ => rfl,
        fun _ _ => ⟨s.created, rfl, Function.update_self _ _ _, ?_⟩, fun k hk => ?_, fun hc => ?_,
        fun x hx => ?_, h.afterWhole⟩
      · intro x hx heq
        obtain ⟨j, hj, hlt⟩ := h.below x hx
        rw [hj, Option.some.injEq] at heq
        omega
      · obtain rfl := hothers _ k (by rw [hk]; exact nofun)
        rw [Function.update_self] at hk
        cases hk
      · exact absurd (hcon.symm.trans hc) Bool.false_ne_true
      · obtain ⟨j, hj, hlt⟩ := h.below x hx
        exact ⟨j, hj, Nat.lt_succ_of_lt hlt⟩

theorem step_socketConnect (h : StreamInv s ℓ) {i : ι} (hi : ℓ i = .opened) (ok : Bool) :
    StreamInv (s.connectSocket ok).2
      (Function.update ℓ i ((ℓ i).next .socketConnect (s.connectSocket ok).1)) := by
  obtain ⟨j, hj, hnew, hunused⟩ := h.opened i hi
  have hbusy : ℓ i ≠ .idle := by rw [hi]; exact nofun
  have hothers : ∀ k, ℓ k ≠ .idle → k = i := fun k hk => h.alone k i hk hbusy
  cases ok with
  | false =>
      have hfail : s.connectSocket false = (.error .socketError, s) := by
        simp [ClientState.connectSocket, hj]
      rw [hfail]
      show StreamInv s (Function.update ℓ i (ℓ i))
      rwa [Function.update_eq_self]
  | true =>
      have hconnect : s.connectSocket true =
          (.ok (), { s with socks := Function.update s.socks j ⟨true, false⟩ }) := by
        simp [ClientState.connectSocket, hj, hnew]
      rw [hconnect]
      have hphase : ∀ k, Function.update ℓ i .linked k ≠ .idle → k = i := by
        intro k hk
        by_contra hki
        rw [Function.update_of_ne hki] at hk
        exact hki (hothers k hk)
      refine ⟨fun k k' hk hk' => (hphase k hk).trans (hphase k' hk').symm,
        fun _ _ => h.connecting i hbusy, fun k hk => ?_, fun _ _ => ⟨j, hj, ?_, hunused⟩,
        fun hc => ?_, h.below, h.afterWhole⟩
      · obtain rfl := hphase k (by
          show Function.update ℓ i .linked k ≠ .idle
          rw [show Function.update ℓ i .linked k = .opened from hk]
          exact nofun)
        rw [Function.update_self] at hk
        cases hk
      · simp [ClientState.usable]
      · exact absurd ((h.not_connected hbusy).symm.trans hc) Bool.false_ne_true

theorem step_writeConnected (h : StreamInv s ℓ) {i : ι} (b : Bool)
    (hi : (ℓ i).Allows (.writeConnected b)) :
    StreamInv { s with connected := b, connecting := false } (Function.update ℓ i .idle) := by
  have hbusy : ℓ i ≠ .idle := by
    cases b with
    | false => exact hi
    | true => rw [show ℓ i = .linked from hi]; exact nofun
  have hidle : ∀ k, Function.update ℓ i .idle k = .idle := by
    intro k
    by_cases hki : k = i
    · rw [hki, Function.update_self]
    · rw [Function.update_of_ne hki]
      by_contra hk
      exact hki (h.alone k i hk hbusy)
  refine ⟨fun k _ hk => absurd (hidle k) hk, fun k hk => absurd (hidle k) hk,
    fun k hk => absurd ((hidle k).symm.trans hk) nofun,
    fun k hk => absurd ((hidle k).symm.trans hk) nofun, fun hc => ⟨rfl, ?_⟩, h.below,
    h.afterWhole⟩
  have hb : b = true := hc
  subst hb
  obtain ⟨j, hj, huse, hunused⟩ := h.linked i hi
  exact ⟨j, hj, huse, fun x hx hxj => absurd hxj (hunused x hx)⟩

/-- **Step.** An operation a thread may do in its phase, and that starts in a
state it was meant for, keeps the invariant. -/
theorem step (h : StreamInv s ℓ) {i : ι} {o : DriverOp} (x : driver.Choice o) (hs : Timely s o)
    (hi : (ℓ i).Allows o) :
    StreamInv (driver.exec o x s).2
      (Function.update ℓ i ((ℓ i).next o (driver.exec o x s).1)) := by
  have hkeep : ∀ t : ClientState, StreamInv t ℓ → StreamInv t (Function.update ℓ i (ℓ i)) := by
    intro t ht
    rwa [Function.update_eq_self]
  cases o with
  | newSocket => exact h.step_newSocket hs i x
  | socketConnect => exact h.step_socketConnect hi x
  | writeConnected b => exact h.step_writeConnected b hi
  | lockedSendall raw => exact hkeep _ (h.step_lockedSendall hs x)
  | lockedDisconnect => exact hkeep _ (h.step_lockedDisconnect hs x)
  | lockedRecv _ _ => exact hkeep _ (h.step_lockedRecv x)
  | setsockopt => exact hkeep _ ((s.configure_snd x).symm ▸ h)
  | settimeout _ => exact hkeep _ ((s.configure_snd x).symm ▸ h)
  | isShutdown =>
      exact hkeep _ ⟨h.alone, h.connecting, h.opened, h.linked, h.connected, h.below, h.afterWhole⟩
  | writeExecuting _ _ =>
      exact hkeep _ ⟨h.alone, h.connecting, h.opened, h.linked, h.connected, h.below, h.afterWhole⟩
  | _ => exact hkeep _ h

end StreamInv

/-- **Stream integrity.** For every number of threads, whatever jobs they do,
and every pattern of failures: in every schedule whose operations all start in a
state they were meant for, every `sendall` is made on a socket on which no
earlier one failed, so every connection carries complete lines and then at most
one that was cut. -/
theorem streams_intact [DecidableEq ι] {jobs : ι → List ClientJob}
    {h : Pool.History driverSig ι} {P' : Pool driverSig ClientState PyException Unit ι}
    (hrun : Pool.Run driver timely (clientPool c .init jobs) h P') :
    StreamsIntact P'.shared ∧ ∀ j, ∃ whole last : List Send,
      P'.shared.callsOn j = whole ++ last ∧ last.length ≤ 1 ∧
      P'.shared.stream j = whole.flatMap Send.line ++ last.flatMap Send.written := by
  have hinit : StreamInv ClientState.init (fun _ : ι => ConnectPhase.idle) := by
    refine ⟨fun _ _ hi => absurd rfl hi, fun _ hi => absurd rfl hi, nofun, nofun, nofun, ?_, ?_⟩
    · exact fun x hx => absurd hx List.not_mem_nil
    · exact List.Pairwise.nil
  have hinv : StreamInv P'.shared (h.phases ConnectPhase.next fun _ => .idle) :=
    hrun.invariant (I := StreamInv) hinit (fun i => thread_disciplined (jobs i) .idle)
      fun s ℓ i o x hs hR hi => hs.step x hR hi
  exact ⟨hinv.intact, hinv.intact.stream⟩

/-! ## A line cut beside a second sender -/

/-- The goal writes its first line, the trajectory has its own cut and reconnects
while the goal goes on to its next test, and both send again. -/
def cutBeside : List (HandlerId × ((o : driverSig.Op) → driver.Choice o)) :=
  succeeding 6 .topic ++ succeeding 8 .action ++ succeeding 7 .topic ++
    [(.topic, DriverOp.halfway)] ++ succeeding 2 .action ++ succeeding 3 .topic ++
    succeeding 1 .action ++ succeeding 4 .topic ++ succeeding 2 .action ++ succeeding 2 .topic

/-- The run of these turns. -/
def cutBesideRun :
    Pool.History driverSig HandlerId × Pool driverSig ClientState PyException Unit HandlerId :=
  Pool.schedule driver cutBeside (clientPool 57 .init topicAndGoal)

/-- `streams_intact` for these turns: the first connection carries a line and half
of one, the second connection two lines. -/
theorem streams_intact_cutBeside :
    (cutBesideRun.2.shared.callsOn 0).map Send.cut = [none, some 24] ∧
    (cutBesideRun.2.shared.callsOn 1).map Send.cut = [none, none] ∧
    StreamsIntact cutBesideRun.2.shared ∧ ∀ j, ∃ whole last : List Send,
      cutBesideRun.2.shared.callsOn j = whole ++ last ∧ last.length ≤ 1 ∧
      cutBesideRun.2.shared.stream j =
        whole.flatMap Send.line ++ last.flatMap Send.written :=
  ⟨by decide +kernel, by decide +kernel,
    streams_intact (Pool.schedule_run_of_ready (by decide +kernel))⟩

/-! ## A send that starts too late -/

/-- The start-up, and two threads that send one command each. -/
def twoSenders : Fin 3 → List ClientJob
  | 0 => [.startUp]
  | 1 => [.send (List.replicate 6 0)]
  | 2 => [.send (List.replicate 6 1)]

/-- Both senders test `connected` before the send of the first one fails. -/
def tooLate : List (Fin 3 × ((o : driverSig.Op) → driver.Choice o)) :=
  (List.replicate 6 (0 : Fin 3) ++ [1, 2]).map (fun i => (i, DriverOp.success)) ++
    [(1, DriverOp.halfway), (2, DriverOp.success)]

/-- A run of the three threads. -/
def senderRun (turns : List (Fin 3 × ((o : driverSig.Op) → driver.Choice o))) :
    Pool.History driverSig (Fin 3) × Pool driverSig ClientState PyException Unit (Fin 3) :=
  Pool.schedule driver turns (clientPool 57 .init twoSenders)

/-- Without the condition the second line can follow half of the first one on
the same connection. -/
theorem streams_glued :
    ¬ ∀ (c : ℚ) (jobs : Fin 3 → List ClientJob) (h : Pool.History driverSig (Fin 3))
      (P' : Pool driverSig ClientState PyException Unit (Fin 3)),
      Pool.Run driver driver.anyChoice (clientPool c .init jobs) h P' →
      StreamsIntact P'.shared := by
  intro hall
  have hclean := (hall 57 twoSenders (senderRun tooLate).1 (senderRun tooLate).2
    (Pool.schedule_run _)).afterWhole
  revert hclean
  decide +kernel

end HakRobot.Driver
