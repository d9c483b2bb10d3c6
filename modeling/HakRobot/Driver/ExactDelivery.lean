import HakRobot.Driver.Delivery
import HakRobot.Proc.Interference

/-!
# The delivery of one trajectory, whatever its result

One thread runs `execute_trajectory`; others may call `stop_execution` at any
moment, and ROS may be shut down at any moment. Every point of the trajectory
has one of five fates, and the state says why.

* `Execution` — the rounds of the loop, by the calls of the client they made;
* `sendPoints_execution` — every run of the loop is one, by induction on the
  points;
* `executeTrajectory_exactly` — the complete lines are those of the points
  written, in order, and every other point has its reason.
-/

namespace HakRobot.Driver

open HakRobot.Proc

variable {c : ℚ} {α : Type}

/-! ## Stop requests -/

/-- `stop_execution` of the handler `id`, in another thread. -/
def stopRequest (id : HandlerId) (s : ClientState) : ClientState :=
  { s with executing := Function.update s.executing id false }

/-- The driver when `stop_execution` may run before every operation. -/
abbrev stoppable : Machine driverSig ClientState := driver.interfered stopRequest

/-- An operation of a thread that only calls `stop_execution`. -/
def StopOp : DriverOp → Prop
  | .writeExecuting _ false => True
  | _ => False

theorem StopOp.acts {o : DriverOp} (ho : StopOp o) : Acts driver stopRequest o := by
  cases o with
  | writeExecuting id b =>
      cases b with
      | false => exact ⟨id, fun _ _ => rfl⟩
      | true => exact ho.elim
  | _ => exact ho.elim

/-- An operation of the client: it leaves the `executing` flags alone. -/
def ClientOp : DriverOp → Prop
  | .readExecuting _ | .writeExecuting _ _ => False
  | _ => True

theorem configure_stopRequest (id : HandlerId) (ok : Bool) (s : ClientState) :
    (stopRequest id s).configure ok = ((s.configure ok).1, stopRequest id (s.configure ok).2) := by
  obtain ⟨_ | i⟩ := s
  · rfl
  · cases ok <;> rfl

theorem connectSocket_stopRequest (id : HandlerId) (ok : Bool) (s : ClientState) :
    (stopRequest id s).connectSocket ok =
      ((s.connectSocket ok).1, stopRequest id (s.connectSocket ok).2) := by
  cases hs : s.socket with
  | none => simp [ClientState.connectSocket, stopRequest, hs]
  | some i =>
      by_cases hnew : (ok && !(s.socks i).established && !(s.socks i).closed) = true
      · simp [ClientState.connectSocket, stopRequest, hs, hnew]
      · simp [ClientState.connectSocket, stopRequest, hs, hnew]

theorem sendallLocked_stopRequest (id : HandlerId) {raw : List Char}
    (out : SendOutcome raw.length) (s : ClientState) :
    (stopRequest id s).sendallLocked raw out =
      ((s.sendallLocked raw out).1, stopRequest id (s.sendallLocked raw out).2) := by
  cases hs : s.socket with
  | none => simp [ClientState.sendallLocked, stopRequest, hs]
  | some i =>
      cases hcut : out.cutOn ((s.socks i).established && !(s.socks i).closed) with
      | none => simp [ClientState.sendallLocked, ClientState.usable, stopRequest, hs, hcut]
      | some k => simp [ClientState.sendallLocked, ClientState.usable, stopRequest, hs, hcut]

theorem ClientOp.commutes {o : DriverOp} (ho : ClientOp o) :
    Machine.Commutes driver stopRequest o := by
  intro id x s
  cases o with
  | readExecuting h => exact ho.elim
  | writeExecuting h b => exact ho.elim
  | newSocket =>
      cases (x : Bool) with
      | true => rfl
      | false => rfl
  | setsockopt => exact configure_stopRequest id x s
  | settimeout timeout => exact configure_stopRequest id x s
  | socketConnect => exact connectSocket_stopRequest id x s
  | lockedSendall raw => exact sendallLocked_stopRequest id x s
  | lockedRecv n timeout =>
      obtain ⟨_ | i⟩ := s
      · rfl
      · cases (x : RecvOutcome) <;> rfl
  | lockedDisconnect =>
      obtain ⟨_ | i⟩ := s
      · rfl
      · rfl
  | _ => rfl

/-! ## The client next to stop requests -/

theorem reconnect_clientOp (n : Nat) : (reconnect n).Uses ClientOp := by
  refine (reconnect_uses n).mono fun o ho => ?_
  cases o <;> first | exact trivial | exact ho.elim

theorem sendJointPositions_clientOp (jointPositions : List ℚ) :
    (sendJointPositions c jointPositions).Uses ClientOp := by
  refine Prog.uses_bind ⟨trivial, fun _ => trivial⟩ fun connected => ?_
  split
  · exact trivial
  · split
    · exact trivial
    · exact ⟨trivial, fun r => Prog.uses_ofExcept r⟩

/-- What the client does alone it does next to stop requests. -/
theorem client_wp {p : Method α} (hp : p.Uses ClientOp) {Q : α → ClientState → Prop}
    {E : PyException → ClientState → Prop} {s : ClientState}
    (h : driver.Ends driver.anyChoice p Q E s) :
    stoppable.Ends (Machine.anyChoice _) p
      (fun a t => ∃ ids t₀, Q a t₀ ∧ t = Machine.disturb stopRequest ids t₀)
      (fun e t => ∃ ids t₀, E e t₀ ∧ t = Machine.disturb stopRequest ids t₀) s :=
  Machine.wp_interfered (hp.mono fun _ ho => ho.commutes) h []

/-- `s'` has the same calls and the same connection state as `s`. -/
structure ClientState.SameWire (s s' : ClientState) : Prop where
  sends : s'.sends = s.sends
  connected : s'.connected = s.connected

/-- Stop requests keep what each of them keeps. -/
theorem stopRequest_keeps {β : Type} {f : ClientState → β}
    (hf : ∀ id s, f (stopRequest id s) = f s) (ids : List HandlerId) (s : ClientState) :
    f (Machine.disturb stopRequest ids s) = f s :=
  Machine.disturb_congr hf ids s

theorem disturb_sameWire (ids : List HandlerId) (s : ClientState) :
    s.SameWire (Machine.disturb stopRequest ids s) :=
  ⟨stopRequest_keeps (f := ClientState.sends) (fun _ _ => rfl) ids s,
    stopRequest_keeps (f := ClientState.connected) (fun _ _ => rfl) ids s⟩

/-- A call of `send_joint_positions` that wrote the line of `point`. -/
def Sends (c : ℚ) (point : JointTrajectoryPoint) (s s' : ClientState) : Prop :=
  ∃ x : Send, x.line = encodeLine c point.positions ∧ x.Whole ∧ s'.sends = s.sends ++ [x]

/-- A call of `send_joint_positions` that failed: the client was not connected,
or the line was cut. -/
def SendFails (c : ℚ) (point : JointTrajectoryPoint) (s s' : ClientState) : Prop :=
  s'.connected = false ∧
    ((s.connected = false ∧ s'.sends = s.sends) ∨
      (s.connected = true ∧ ∃ x, FailedFor c point x ∧ s'.sends = s.sends ++ [x]))

/-- A call of `reconnect` that succeeded. -/
structure ClientState.Reconnects (s s' : ClientState) : Prop where
  sends : s'.sends = s.sends
  connected : s'.connected = true
  reopened : s.Reopened s'

/-- A send, by its result. -/
theorem send_outcome {point : JointTrajectoryPoint} (hcount : point.positions.length = 6)
    (s : ClientState) :
    stoppable.Ends (Machine.anyChoice _) (sendJointPositions c point.positions)
      (fun b s' => (b = true → Sends c point s s') ∧ (b = false → SendFails c point s s'))
      (fun _ _ => True) s := by
  refine Machine.wp_mono ?_ (fun _ _ _ => trivial) (client_wp
    (sendJointPositions_clientOp point.positions)
    (sendJointPositions_spec c point.positions s))
  intro b s' hpost
  obtain ⟨ids, t, ⟨-, hcases⟩, rfl⟩ := hpost
  have hsame := disturb_sameWire ids t
  rcases hcases with ⟨hc, -, x, hline, -, hwhole, rfl⟩ | ⟨hne, rfl, rfl⟩
  · refine ⟨fun hb => ⟨x, hline, hwhole.mp hb, hsame.sends⟩, fun hb => ?_⟩
    subst hb
    refine ⟨hsame.connected, .inr ⟨hc, x, ⟨hline, fun hx => ?_⟩, hsame.sends⟩⟩
    exact Bool.false_ne_true (hwhole.mpr hx)
  · have hs : t.connected = false := hne.resolve_right fun h => h hcount
    exact ⟨nofun, fun _ => ⟨hsame.connected.trans hs, .inl ⟨hs, hsame.sends⟩⟩⟩

theorem ClientState.SameWire.refl (s : ClientState) : s.SameWire s := ⟨rfl, rfl⟩

theorem Sends.congr {point : JointTrajectoryPoint} {s s₁ s₂ s₃ : ClientState}
    (h : Sends c point s₁ s₂) (h₁ : s.SameWire s₁) (h₃ : s₂.SameWire s₃) : Sends c point s s₃ := by
  obtain ⟨x, hline, hwhole, hs⟩ := h
  exact ⟨x, hline, hwhole, by rw [h₃.sends, hs, h₁.sends]⟩

theorem SendFails.congr {point : JointTrajectoryPoint} {s s₁ s₂ : ClientState}
    (h : SendFails c point s₁ s₂) (h₁ : s.SameWire s₁) : SendFails c point s s₂ := by
  rwa [SendFails, h₁.sends, h₁.connected] at h

/-- A reconnection, by its result. -/
theorem reconnect_outcome (n : Nat) (s : ClientState) :
    stoppable.Ends (Machine.anyChoice _) (reconnect n)
      (fun b s' => (b = true → s.Reconnects s') ∧ s'.sends = s.sends) (fun _ _ => True) s := by
  refine Machine.wp_mono ?_ (fun _ _ _ => trivial)
    (client_wp (reconnect_clientOp n) (reconnect_spec n s))
  intro b s' hpost
  obtain ⟨ids, t, h, rfl⟩ := hpost
  have hsame := disturb_sameWire ids t
  refine ⟨fun hb => ⟨hsame.sends.trans h.quiet.sends, ?_, ?_⟩, hsame.sends.trans h.quiet.sends⟩
  · rw [hsame.connected, h.connected, hb]
  · obtain ⟨i, hi, hsocket, huse⟩ := h.reopened hb
    have hsocket' : (Machine.disturb stopRequest ids t).socket = t.socket :=
      stopRequest_keeps (f := ClientState.socket) (fun _ _ => rfl) ids t
    have huse' : (Machine.disturb stopRequest ids t).usable i = t.usable i :=
      stopRequest_keeps (f := fun s : ClientState => s.usable i) (fun _ _ => rfl) ids t
    exact ⟨i, hi, hsocket'.trans hsocket, huse'.trans huse⟩

/-- The handler itself leaves the wire alone. -/
theorem handler_outcome {p : Method α} (hp : p.Uses HandlerOp) (s : ClientState) :
    stoppable.Ends (Machine.anyChoice _) p (fun _ s' => s.SameWire s')
      (fun _ s' => s.SameWire s') s := by
  refine Machine.wp_of_uses (I := s.SameWire) ?_ hp ⟨rfl, rfl⟩
  intro t o ht ho
  refine ⟨trivial, fun (x : List HandlerId × driver.Choice o) _ => ?_⟩
  have hsame := disturb_sameWire x.1 t
  have hkeep : s.SameWire (Machine.disturb stopRequest x.1 t) :=
    ⟨hsame.sends.trans ht.sends, hsame.connected.trans ht.connected⟩
  show s.SameWire (driver.exec o x.2 (Machine.disturb stopRequest x.1 t)).2
  cases o with
  | isShutdown => exact ⟨hkeep.sends, hkeep.connected⟩
  | readExecuting id => exact hkeep
  | writeExecuting id b => exact ⟨hkeep.sends, hkeep.connected⟩
  | rospySleep seconds => exact hkeep
  | _ => exact ho.elim

/-! ## Executions -/

/-- What becomes of one point: it is left out for its number of positions, its
line is written, both tries fail, or the call stops at it or before. -/
inductive PointFate
  | skipped
  | written
  | lost
  | unreached
deriving DecidableEq

/-- The rounds of the loop from a state to its end, with the result. -/
inductive Execution (c : ℚ) :
    List JointTrajectoryPoint → List PointFate → ClientState → Bool → ClientState → Prop
  | finished {s s' : ClientState} (hs : s'.sends = s.sends) : Execution c [] [] s true s'
  | stopped {points : List JointTrajectoryPoint} {s s' : ClientState}
      (hs : s'.sends = s.sends) :
      Execution c points (List.replicate points.length .unreached) s false s'
  | skipped {point : JointTrajectoryPoint} {rest : List JointTrajectoryPoint}
      {fates : List PointFate} {s s₁ s' : ClientState} {b : Bool}
      (hcount : point.positions.length ≠ 6) (hs : s.SameWire s₁)
      (hrest : Execution c rest fates s₁ b s') :
      Execution c (point :: rest) (.skipped :: fates) s b s'
  | written {point : JointTrajectoryPoint} {rest : List JointTrajectoryPoint}
      {fates : List PointFate} {s s₁ s' : ClientState} {b : Bool}
      (hcount : point.positions.length = 6) (hsend : Sends c point s s₁)
      (hrest : Execution c rest fates s₁ b s') :
      Execution c (point :: rest) (.written :: fates) s b s'
  | resent {point : JointTrajectoryPoint} {rest : List JointTrajectoryPoint}
      {fates : List PointFate} {s s₁ s₂ s₃ s' : ClientState} {b : Bool}
      (hcount : point.positions.length = 6) (hsend : SendFails c point s s₁)
      (hreconnect : s₁.Reconnects s₂) (hresend : Sends c point s₂ s₃)
      (hrest : Execution c rest fates s₃ b s') :
      Execution c (point :: rest) (.written :: fates) s b s'
  | lost {point : JointTrajectoryPoint} {rest : List JointTrajectoryPoint}
      {fates : List PointFate} {s s₁ s₂ s₃ s' : ClientState} {b : Bool}
      (hcount : point.positions.length = 6) (hsend : SendFails c point s s₁)
      (hreconnect : s₁.Reconnects s₂) (hresend : SendFails c point s₂ s₃)
      (hrest : Execution c rest fates s₃ b s') :
      Execution c (point :: rest) (.lost :: fates) s b s'
  | gaveUp {point : JointTrajectoryPoint} {rest : List JointTrajectoryPoint}
      {s s₁ s' : ClientState} (hcount : point.positions.length = 6)
      (hsend : SendFails c point s s₁) (hs : s'.sends = s₁.sends) :
      Execution c (point :: rest) (List.replicate (rest.length + 1) .unreached) s false s'

/-- Only the calls and the connection state of the start matter. -/
theorem Execution.congr {points : List JointTrajectoryPoint} {fates : List PointFate}
    {s t s' : ClientState} {b : Bool} (h : Execution c points fates t b s') (hs : s.SameWire t) :
    Execution c points fates s b s' := by
  cases h with
  | finished ht => exact .finished (ht.trans hs.sends)
  | stopped ht => exact .stopped (ht.trans hs.sends)
  | skipped hcount ht hrest =>
      exact .skipped hcount ⟨ht.sends.trans hs.sends, ht.connected.trans hs.connected⟩ hrest
  | written hcount hsend hrest => exact .written hcount (hsend.congr hs (.refl _)) hrest
  | resent hcount hsend hreconnect hresend hrest =>
      exact .resent hcount (hsend.congr hs) hreconnect hresend hrest
  | lost hcount hsend hreconnect hresend hrest =>
      exact .lost hcount (hsend.congr hs) hreconnect hresend hrest
  | gaveUp hcount hsend ht => exact .gaveUp hcount (hsend.congr hs) ht

/-- And only the calls of the end. -/
theorem Execution.congr_end {points : List JointTrajectoryPoint} {fates : List PointFate}
    {s s' t : ClientState} {b : Bool} (h : Execution c points fates s b s')
    (ht : t.sends = s'.sends) : Execution c points fates s b t := by
  induction h with
  | finished hs => exact .finished (ht.trans hs)
  | stopped hs => exact .stopped (ht.trans hs)
  | skipped hcount hs _ ih => exact .skipped hcount hs (ih ht)
  | written hcount hsend _ ih => exact .written hcount hsend (ih ht)
  | resent hcount hsend hreconnect hresend _ ih =>
      exact .resent hcount hsend hreconnect hresend (ih ht)
  | lost hcount hsend hreconnect hresend _ ih =>
      exact .lost hcount hsend hreconnect hresend (ih ht)
  | gaveUp hcount hsend hs => exact .gaveUp hcount hsend (ht.trans hs)

/-! ## What an execution writes -/

/-- The points whose line was written, in trajectory order. -/
def writtenPoints (points : List JointTrajectoryPoint) (fates : List PointFate) :
    List JointTrajectoryPoint :=
  ((points.zip fates).filter (·.2 = .written)).map Prod.fst

/-- The complete lines are those of the points written; a point of six positions
that is missing was lost, or the call returned `False` at it or before. -/
structure Exact (c : ℚ) (points : List JointTrajectoryPoint) (fates : List PointFate)
    (b : Bool) (w : List Send) : Prop where
  length : fates.length = points.length
  lines : completeLines w = (writtenPoints points fates).map (encodeLine c ·.positions)
  six : ∀ point ∈ writtenPoints points fates, point.positions.length = 6
  missing : ∀ pf ∈ points.zip fates, pf.1.positions.length = 6 →
    pf.2 = .written ∨ pf.2 = .lost ∨ (pf.2 = .unreached ∧ b = false)
  suffix : ∃ reached n, fates = reached ++ List.replicate n .unreached ∧ .unreached ∉ reached

theorem writtenPoints_cons (point : JointTrajectoryPoint) (rest : List JointTrajectoryPoint)
    (fate : PointFate) (fates : List PointFate) :
    writtenPoints (point :: rest) (fate :: fates) =
      (if fate = .written then [point] else []) ++ writtenPoints rest fates := by
  by_cases hfate : fate = .written
  · simp [writtenPoints, hfate]
  · simp [writtenPoints, hfate]

theorem mem_zip_unreached {points : List JointTrajectoryPoint} {n : Nat}
    {pf : JointTrajectoryPoint × PointFate} (h : pf ∈ points.zip (List.replicate n .unreached)) :
    pf.2 = .unreached :=
  List.eq_of_mem_replicate (List.of_mem_zip (a := pf.1) (b := pf.2) h).2

theorem writtenPoints_unreached (points : List JointTrajectoryPoint) (n : Nat) :
    writtenPoints points (List.replicate n .unreached) = [] := by
  have hnone :
      (points.zip (List.replicate n PointFate.unreached)).filter (·.2 = .written) = [] := by
    rw [List.filter_eq_nil_iff]
    intro pf hpf
    simp [mem_zip_unreached hpf]
  rw [writtenPoints, hnone, List.map_nil]

/-- A call that stops at the first of `points` or before. -/
theorem Exact.unreached {points : List JointTrajectoryPoint} {w : List Send}
    (hw : completeLines w = []) :
    Exact c points (List.replicate points.length .unreached) false w := by
  refine ⟨List.length_replicate, ?_, ?_, ?_, [], points.length, rfl, List.not_mem_nil⟩
  · rw [hw, writtenPoints_unreached, List.map_nil]
  · rw [writtenPoints_unreached]
    exact nofun
  · exact fun pf hpf _ => .inr (.inr ⟨mem_zip_unreached hpf, rfl⟩)

/-- One more point in front of the rest. -/
theorem Exact.cons {point : JointTrajectoryPoint} {rest : List JointTrajectoryPoint}
    {fate : PointFate} {fates : List PointFate} {b : Bool} {v w : List Send}
    (h : Exact c rest fates b w) (hreached : fate ≠ .unreached)
    (hv : completeLines v = if fate = .written then [encodeLine c point.positions] else [])
    (hsix : fate = .written → point.positions.length = 6)
    (hmissing : point.positions.length = 6 → fate = .written ∨ fate = .lost) :
    Exact c (point :: rest) (fate :: fates) b (v ++ w) := by
  refine ⟨congrArg (· + 1) h.length, ?_, ?_, ?_, ?_⟩
  · rw [completeLines_append, hv, h.lines, writtenPoints_cons, List.map_append]
    split <;> rfl
  · rw [writtenPoints_cons]
    intro q hq
    rcases List.mem_append.mp hq with hq | hq
    · split at hq
      · rename_i hfate
        obtain rfl := List.mem_singleton.mp hq
        exact hsix hfate
      · exact absurd hq List.not_mem_nil
    · exact h.six q hq
  · rw [List.zip_cons_cons]
    refine List.forall_mem_cons.mpr ⟨fun hcount => ?_, h.missing⟩
    rcases hmissing hcount with hfate | hfate
    · exact .inl hfate
    · exact .inr (.inl hfate)
  · obtain ⟨reached, n, hfates, hmem⟩ := h.suffix
    refine ⟨fate :: reached, n, by rw [hfates, List.cons_append], ?_⟩
    intro hu
    rcases List.mem_cons.mp hu with hu | hu
    · exact hreached hu.symm
    · exact hmem hu

theorem SendFails.calls {point : JointTrajectoryPoint} {s s' : ClientState}
    (h : SendFails c point s s') : ∃ v, s'.sends = s.sends ++ v ∧ completeLines v = [] := by
  rcases h.2 with ⟨-, hs⟩ | ⟨-, x, hx, hs⟩
  · exact ⟨[], by rw [hs, List.append_nil], rfl⟩
  · exact ⟨[x], hs, completeLines_failed (by simpa using hx)⟩

theorem Sends.calls {point : JointTrajectoryPoint} {s s' : ClientState} (h : Sends c point s s') :
    ∃ v, s'.sends = s.sends ++ v ∧ completeLines v = [encodeLine c point.positions] := by
  obtain ⟨x, hline, hwhole, hs⟩ := h
  exact ⟨[x], hs, by simp [completeLines, hwhole, hline]⟩

/-- The calls of two tries, by what the second one wrote. -/
theorem SendFails.again {point : JointTrajectoryPoint} {s s₁ s₂ s₃ : ClientState}
    {lines : List (List Char)} (h : SendFails c point s s₁) (hreconnect : s₁.Reconnects s₂)
    (hagain : ∃ v, s₃.sends = s₂.sends ++ v ∧ completeLines v = lines) :
    ∃ v, s₃.sends = s.sends ++ v ∧ completeLines v = lines := by
  obtain ⟨v₁, hs₁, hv₁⟩ := h.calls
  obtain ⟨v₂, hs₂, hv₂⟩ := hagain
  refine ⟨v₁ ++ v₂, ?_, ?_⟩
  · rw [hs₂, hreconnect.sends, hs₁, List.append_assoc]
  · rw [completeLines_append, hv₁, hv₂, List.nil_append]

/-- Every execution is exact. -/
theorem Execution.exact {points : List JointTrajectoryPoint} {fates : List PointFate}
    {s s' : ClientState} {b : Bool} (h : Execution c points fates s b s') :
    ∃ w, s'.sends = s.sends ++ w ∧ Exact c points fates b w := by
  induction h with
  | finished hs =>
      refine ⟨[], by rw [hs, List.append_nil], rfl, rfl, nofun, nofun, [], 0, rfl, ?_⟩
      exact List.not_mem_nil
  | stopped hs => exact ⟨[], by rw [hs, List.append_nil], .unreached rfl⟩
  | skipped hcount hs _ ih =>
      obtain ⟨w, hw, hexact⟩ := ih
      refine ⟨w, by rw [hw, hs.sends], ?_⟩
      exact hexact.cons (v := []) (by decide) rfl nofun fun hsix => absurd hsix hcount
  | written hcount hsend _ ih =>
      obtain ⟨w, hw, hexact⟩ := ih
      obtain ⟨v, hs₁, hv⟩ := hsend.calls
      refine ⟨v ++ w, by rw [hw, hs₁, List.append_assoc], ?_⟩
      exact hexact.cons (by decide) hv (fun _ => hcount) fun _ => .inl rfl
  | resent hcount hsend hreconnect hresend _ ih =>
      obtain ⟨w, hw, hexact⟩ := ih
      obtain ⟨v, hs₃, hv⟩ := hsend.again hreconnect hresend.calls
      refine ⟨v ++ w, by rw [hw, hs₃, List.append_assoc], ?_⟩
      exact hexact.cons (by decide) hv (fun _ => hcount) fun _ => .inl rfl
  | lost hcount hsend hreconnect hresend _ ih =>
      obtain ⟨w, hw, hexact⟩ := ih
      obtain ⟨v, hs₃, hv⟩ := hsend.again hreconnect hresend.calls
      refine ⟨v ++ w, by rw [hw, hs₃, List.append_assoc], ?_⟩
      exact hexact.cons (by decide) hv nofun fun _ => .inr rfl
  | gaveUp hcount hsend hs =>
      obtain ⟨v, hs₁, hv⟩ := hsend.calls
      exact ⟨v, hs.trans hs₁, .unreached hv⟩

/-! ## The loop -/

/-- The fates of the points in every run that returned. -/
def Returns (c : ℚ) (points : List JointTrajectoryPoint) (s : ClientState) (b : Bool)
    (s' : ClientState) : Prop :=
  ∃ fates, Execution c points fates s b s'

/-- With the executions of the rest from `t`, the loop over `point :: rest` is told
from `s`. -/
def GoesOn (c : ℚ) (point : JointTrajectoryPoint) (rest : List JointTrajectoryPoint)
    (s t : ClientState) : Prop :=
  ∀ b s', Returns c rest t b s' → Returns c (point :: rest) s b s'

/-- **Loop.** One round by the path it takes, and then the rest. -/
theorem sendPoints_execution (h : TrajectoryHandler) (total i : Nat)
    (points : List JointTrajectoryPoint) (s : ClientState) :
    stoppable.Ends (Machine.anyChoice _) (sendPoints c h total i points) (Returns c points s)
      (fun _ _ => True) s := by
  induction points generalizing i s with
  | nil =>
      refine Machine.wp_seq (handler_outcome (writeExecuting_uses h false) s) ?_
        fun _ _ _ => trivial
      intro _ s₁ h₁
      exact ⟨[], .finished h₁.sends⟩
  | cons point rest ih =>
      have hrest : ∀ t, GoesOn c point rest s t → stoppable.Ends (Machine.anyChoice _)
          (sendPoints c h total (i + 1) rest) (Returns c (point :: rest) s)
          (fun _ _ => True) t :=
        fun t ht => Machine.wp_mono ht (fun _ _ _ => trivial) (ih (i + 1) t)
      -- the loop is left in `t`
      let Leaves (t : ClientState) : Prop :=
        ∀ t' : ClientState, t.SameWire t' → Returns c (point :: rest) s false t'
      refine sendPoints_round (T := s.SameWire) (F := SendFails c point s)
        (A := fun u => ∃ t : ClientState, SendFails c point s t ∧ t.Reconnects u)
        (W := fun t => ∀ t' : ClientState, t.SameWire t' → GoesOn c point rest s t')
        (L := GoesOn c point rest s) (X := Leaves) ?_ ?_ ?_ ?_ ?_ ?_ ?_ ?_
      · -- the test
        refine Machine.wp_mono ?_ (fun _ _ _ => trivial)
          (handler_outcome (interrupted_uses h) s)
        intro stop t ht
        exact ⟨fun _ t' ht' => ⟨_, .stopped (ht'.sends.trans ht.sends)⟩, fun _ => ht⟩
      · -- skipped
        intro hcount t ht
        refine hrest t fun b s' hb => ?_
        obtain ⟨fates, hexec⟩ := hb
        exact ⟨_, .skipped hcount ht hexec⟩
      · -- the first send
        intro hcount t ht
        refine Machine.wp_mono ?_ (fun _ _ _ => trivial) (send_outcome hcount t)
        intro b t' hsend
        refine ⟨fun hb u hu b s' hret => ?_, fun hb => (hsend.2 hb).congr ht⟩
        obtain ⟨fates, hexec⟩ := hret
        exact ⟨_, .written hcount ((hsend.1 hb).congr ht hu) hexec⟩
      · -- the reconnection; a call that gives up is told by its failed send
        intro hcount t ht
        refine Machine.wp_mono ?_ (fun _ _ _ => trivial) (reconnect_outcome 3 t)
        intro b u hu
        refine ⟨fun hb => ⟨t, ht, hu.1 hb⟩, fun _ u' hu' => ?_⟩
        exact ⟨_, .gaveUp hcount ht (hu'.sends.trans hu.2)⟩
      · -- the resend
        intro hcount u hu
        obtain ⟨t, hfails, hnew⟩ := hu
        refine Machine.wp_mono ?_ (fun _ _ _ => trivial) (send_outcome hcount u)
        intro b u' hsend
        constructor
        · intro hb v hv b s' hret
          obtain ⟨fates, hexec⟩ := hret
          exact ⟨_, .resent hcount hfails hnew ((hsend.1 hb).congr (.refl u) hv) hexec⟩
        · intro hb b s' hret
          obtain ⟨fates, hexec⟩ := hret
          exact ⟨_, .lost hcount hfails hnew (hsend.2 hb) hexec⟩
      · -- the pause
        intro _ t ht
        refine Machine.wp_seq (handler_outcome (pauseAfter_uses h i total) t) ?_
          fun _ _ _ => trivial
        exact fun _ t' ht' => hrest t' (ht t' ht')
      · exact fun _ t ht => hrest t ht
      · intro t ht
        refine Machine.wp_seq (handler_outcome (writeExecuting_uses h false) t) ?_
          fun _ _ _ => trivial
        exact fun _ t' ht' => ht t' ht'

theorem executeTrajectory_execution (h : TrajectoryHandler) (trajectory : JointTrajectory)
    (s : ClientState) :
    stoppable.Ends (Machine.anyChoice _) (executeTrajectory c h trajectory)
      (Returns c trajectory.points s) (fun _ _ => True) s := by
  have hread : isConnected.Uses ClientOp := ⟨trivial, fun _ => trivial⟩
  have hsame : stoppable.Ends (Machine.anyChoice _) isConnected (fun _ s' => s.SameWire s')
      (fun _ _ => True) s := by
    refine Machine.wp_mono ?_ (fun _ _ _ => trivial) (client_wp hread
      (Q := fun _ s' => s' = s) (E := fun _ _ => True) ⟨trivial, fun _ _ => rfl⟩)
    intro _ s' hpost
    obtain ⟨ids, t, rfl, rfl⟩ := hpost
    exact disturb_sameWire ids t
  refine executeTrajectory_enter (T := s.SameWire) ?_ ?_ ?_
  · refine Machine.wp_mono ?_ (fun _ _ _ => trivial) hsame
    exact fun _ s₁ h₁ => ⟨fun _ => ⟨_, .stopped h₁.sends⟩, fun _ => h₁⟩
  · exact fun _ s₁ h₁ => ⟨_, .stopped h₁.sends⟩
  · intro _ s₁ h₁
    refine Machine.wp_seq (handler_outcome (writeExecuting_uses h true) s₁) ?_
      fun _ _ _ => trivial
    intro _ s₂ h₂
    refine Machine.wp_mono ?_ (fun _ _ _ => trivial)
      (sendPoints_execution h trajectory.points.length 0 trajectory.points s₂)
    intro b s' hb
    obtain ⟨fates, hexec⟩ := hb
    exact ⟨fates, hexec.congr ⟨h₂.sends.trans h₁.sends, h₂.connected.trans h₁.connected⟩⟩

variable {ι : Type} [DecidableEq ι]

/-- **Exact delivery.** For every trajectory, every starting state, every
pattern of socket outcomes, and stop requests and a shutdown at any moment: when
`execute_trajectory` returned in the only thread that runs it, the points have
fates that an execution explains, the complete lines it wrote are those of the
points written, in trajectory order and each once, and a point of six positions
is missing only if its send and its resend after a successful reconnection both
failed, or the call returned `False` at it or before. -/
theorem executeTrajectory_exactly {P P' : Pool driverSig ClientState PyException Bool ι}
    {history : Pool.History driverSig ι} (hrun : Pool.Run driver driver.anyChoice P history P')
    {i : ι} {h : TrajectoryHandler} {trajectory : JointTrajectory} {b : Bool}
    (hthread : P.thread i = executeTrajectory c h trajectory)
    (hothers : ∀ j, j ≠ i → (P.thread j).Uses StopOp) (hret : P'.thread i = .ret b) :
    ∃ fates w, Execution c trajectory.points fates P.shared b P'.shared ∧
      P'.shared.sends = P.shared.sends ++ w ∧ Exact c trajectory.points fates b w := by
  obtain ⟨-, s, ids, hsteps, hshared⟩ :=
    hrun.interfered_steps fun j hj => (hothers j hj).mono fun _ ho => ho.acts
  rw [hthread, hret] at hsteps
  obtain ⟨fates, hexec⟩ :=
    Machine.wp_returns (executeTrajectory_execution h trajectory P.shared) hsteps
  have hexec' : Execution c trajectory.points fates P.shared b P'.shared := by
    refine hexec.congr_end ?_
    rw [hshared]
    exact (disturb_sameWire ids s).sends
  obtain ⟨w, hw, hexact⟩ := hexec'.exact
  exact ⟨fates, w, hexec', hw, hexact⟩

/-! ## A stop between two points -/

/-- Two points, the first of which is cut and resent. -/
def twoPointTrajectory : JointTrajectory :=
  ⟨0, [], [⟨List.replicate 6 0, [], [], 1⟩, ⟨List.replicate 6 1, [], [], 2⟩]⟩

/-- One thread executes the trajectory, the other one stops it. -/
def stoppedPool : Pool driverSig ClientState PyException Bool Bool :=
  ⟨started, fun i =>
    if i then executeTrajectory 57 (topicHandler 0.05) twoPointTrajectory
    else (stopExecution (topicHandler 0.05)).bind fun _ => .ret true⟩

/-- A turn of a thread, with its outcome. -/
abbrev DriverTurn (ι : Type) := ι × ((o : driverSig.Op) → driver.Choice o)

/-- The first send is cut, its resend on the new connection is whole, and the
stop request comes before the second point. -/
def stoppedTurns : List (DriverTurn Bool) :=
  List.replicate 5 (true, DriverOp.success) ++ [(true, DriverOp.unreachable)] ++
    List.replicate 10 (true, DriverOp.success) ++ [(false, DriverOp.success)] ++
    List.replicate 4 (true, DriverOp.success)

/-- The run of these turns. -/
def stoppedRun : Pool.History driverSig Bool × Pool driverSig ClientState PyException Bool Bool :=
  Pool.schedule driver stoppedTurns stoppedPool

/-- `executeTrajectory_exactly` for this run: one line is complete. -/
theorem executeTrajectory_exactly_stopped :
    completeLines stoppedRun.2.shared.sends = [encodeLine 57 (List.replicate 6 0)] ∧
    ∃ fates w, Execution 57 twoPointTrajectory.points fates started false stoppedRun.2.shared ∧
      stoppedRun.2.shared.sends = started.sends ++ w ∧
      Exact 57 twoPointTrajectory.points fates false w := by
  have hrun : Pool.Run driver driver.anyChoice stoppedPool stoppedRun.1 stoppedRun.2 :=
    Pool.schedule_run _
  refine ⟨by decide +kernel, executeTrajectory_exactly (i := true) hrun rfl ?_
    (Prog.eq_ret_of_outcome (by decide +kernel))⟩
  intro j hj
  obtain rfl : j = false := by simpa using hj
  exact ⟨trivial, fun _ => trivial⟩

end HakRobot.Driver
