import HakRobot.Driver.TrajectoryHandler

/-!
# What the methods of the client do alone

One specification for each method of `HKTcpClient`, for a thread that runs
without another thread in between, and for every pattern of failures of the
socket calls. The callers use these and never look into a method.

* `reconnect_spec` — a reconnection sends nothing, and it ends with an open
  connection exactly when it returns `True`;
* `sendJointPositions_spec` — a call makes at most one `sendall`, and a call
  that returns `False` leaves the client disconnected or had the wrong number
  of positions.
-/

namespace HakRobot.Driver

open HakRobot.Proc

variable {R : driver.Rely}

/-- `s'` differs from `s` in the connection only. -/
structure ClientState.Quiet (s s' : ClientState) : Prop where
  sends : s'.sends = s.sends
  executing : s'.executing = s.executing
  shutdown : s'.shutdown = s.shutdown
  created : s.created ≤ s'.created

namespace ClientState

theorem Quiet.refl (s : ClientState) : s.Quiet s := ⟨rfl, rfl, rfl, le_rfl⟩

theorem Quiet.trans {s t u : ClientState} (h : s.Quiet t) (h' : t.Quiet u) : s.Quiet u :=
  ⟨h'.sends.trans h.sends, h'.executing.trans h.executing, h'.shutdown.trans h.shutdown,
    h.created.trans h'.created⟩

/-- The socket is an open connection. -/
def Open (s : ClientState) : Prop := ∃ i, s.socket = some i ∧ s.usable i = true

/-- The socket is an open connection made after `s`. -/
def Reopened (s s' : ClientState) : Prop :=
  ∃ i, s.created ≤ i ∧ s'.socket = some i ∧ s'.usable i = true

theorem Reopened.isOpen {s s' : ClientState} (h : s.Reopened s') : s'.Open := by
  obtain ⟨i, _, hi, huse⟩ := h
  exact ⟨i, hi, huse⟩

theorem Quiet.reopened {s t s' : ClientState} (h : s.Quiet t) (h' : t.Reopened s') :
    s.Reopened s' := by
  obtain ⟨i, hle, hi⟩ := h'
  exact ⟨i, h.created.trans hle, hi⟩

/-- `connected` is only set over an open connection. -/
def Linked (s : ClientState) : Prop := s.connected = true → s.Open

end ClientState

/-! ## Connecting -/

theorem newSocket_spec (s : ClientState) :
    driver.Ends R newSocket
      (fun _ s' => s.Quiet s' ∧ s'.socket = some s.created ∧
        s'.socks s.created = ⟨false, false⟩)
      (fun e s' => e = .socketError ∧ s.Quiet s') s := by
  refine ⟨trivial, fun ok _ => ?_⟩
  cases ok with
  | false => exact ⟨rfl, rfl, rfl, rfl, le_rfl⟩
  | true => exact ⟨⟨rfl, rfl, rfl, Nat.le_succ _⟩, rfl, Function.update_self _ _ _⟩

theorem configure_spec {s : ClientState} {i : Nat} (hi : s.socket = some i) (ok : Bool) :
    driver.Ends R (Prog.ofExcept (s.configure ok).1) (fun _ s' => s' = s)
      (fun e s' => e = .socketError ∧ s.Quiet s') (s.configure ok).2 := by
  cases ok with
  | false => simp [Machine.Ends, ClientState.configure, hi, ClientState.Quiet.refl]
  | true => simp [Machine.Ends, ClientState.configure, hi]

theorem setsockopt_spec {s : ClientState} {i : Nat} (hi : s.socket = some i) :
    driver.Ends R setsockopt (fun _ s' => s' = s)
      (fun e s' => e = .socketError ∧ s.Quiet s') s :=
  ⟨trivial, fun ok _ => configure_spec hi ok⟩

theorem settimeout_spec {s : ClientState} {i : Nat} (hi : s.socket = some i) (timeout : ℚ) :
    driver.Ends R (settimeout timeout) (fun _ s' => s' = s)
      (fun e s' => e = .socketError ∧ s.Quiet s') s :=
  ⟨trivial, fun ok _ => configure_spec hi ok⟩

theorem socketConnect_spec {s : ClientState} {i : Nat} (hi : s.socket = some i)
    (hfresh : s.socks i = ⟨false, false⟩) :
    driver.Ends R socketConnect
      (fun _ s' => s.Quiet s' ∧ s'.socket = some i ∧ s'.usable i = true)
      (fun e s' => e = .socketError ∧ s.Quiet s') s := by
  refine ⟨trivial, fun ok _ => ?_⟩
  cases ok with
  | false =>
      simp [ClientState.connectSocket, hi, ClientState.Quiet.refl]
  | true =>
      have hconnect : s.connectSocket true =
          (.ok (), { s with socks := Function.update s.socks i ⟨true, false⟩ }) := by
        simp [ClientState.connectSocket, hi, hfresh]
      rw [driver_socketConnect, hconnect]
      exact ⟨⟨rfl, rfl, rfl, le_rfl⟩, hi, by simp [ClientState.usable]⟩

/-- What a call that connects leaves behind, by its result. -/
structure ClientState.Connects (s : ClientState) (b : Bool) (s' : ClientState) : Prop where
  quiet : s.Quiet s'
  connected : s'.connected = b
  reopened : b = true → s.Reopened s'

theorem ClientState.Connects.linked {s s' : ClientState} {b : Bool} (h : s.Connects b s') :
    s'.Linked := by
  intro hc
  exact (h.reopened (h.connected.symm.trans hc)).isOpen

theorem ClientState.Quiet.connects {s t s' : ClientState} {b : Bool} (h : s.Quiet t)
    (h' : t.Connects b s') : s.Connects b s' :=
  ⟨h.trans h'.quiet, h'.connected, fun hb => h.reopened (h'.reopened hb)⟩

/-- `connect` ends with a new open connection exactly when it returns `True`. -/
theorem connect_spec (timeout : ℚ) (s : ClientState) :
    driver.Ends R (connect timeout) s.Connects (fun _ _ => False) s := by
  refine Machine.wp_catch (F := fun e s' => e = .socketError ∧ s.Quiet s') ?_ ?_
  · refine Machine.wp_seq (newSocket_spec s) ?_ fun _ _ he => he
    intro _ s₁ hpost
    rcases hpost with ⟨hq₁, hi, hfresh⟩
    have hquiet : ∀ e s', e = PyException.socketError ∧ s₁.Quiet s' →
        e = .socketError ∧ s.Quiet s' := fun e s' he => ⟨he.1, hq₁.trans he.2⟩
    refine Machine.wp_seq (setsockopt_spec hi) ?_ hquiet
    rintro _ s₂ rfl
    refine Machine.wp_seq (settimeout_spec hi timeout) ?_ hquiet
    rintro _ s₃ rfl
    refine Machine.wp_seq (socketConnect_spec hi hfresh) ?_ hquiet
    intro _ s₄ hpost
    rcases hpost with ⟨hq₄, hi₄, huse⟩
    -- the write of `connected` and the wait touch nothing else
    refine ⟨trivial, fun _ _ => ⟨trivial, fun _ _ => ⟨?_, rfl, ?_⟩⟩⟩
    · exact hq₁.trans ⟨hq₄.sends, hq₄.executing, hq₄.shutdown, hq₄.created⟩
    · exact fun _ => ⟨s.created, le_rfl, hi₄, huse⟩
  · intro e s' hpost
    rcases hpost with ⟨rfl, hq⟩
    refine ⟨trivial, fun _ _ => ⟨?_, rfl, fun hb => absurd hb Bool.false_ne_true⟩⟩
    exact ⟨hq.sends, hq.executing, hq.shutdown, hq.created⟩

theorem disconnect_spec (s : ClientState) :
    driver.Ends R disconnect (fun _ s' => s.Quiet s' ∧ s'.connected = false)
      (fun _ _ => False) s := by
  refine ⟨trivial, fun ok _ => ?_⟩
  show s.Quiet (s.disconnectLocked ok) ∧ (s.disconnectLocked ok).connected = false
  unfold ClientState.disconnectLocked
  split
  · exact ⟨⟨rfl, rfl, rfl, le_rfl⟩, rfl⟩
  · exact ⟨⟨rfl, rfl, rfl, le_rfl⟩, rfl⟩

/-- Every attempt starts disconnected, so a loop that gives up ends so. -/
theorem reconnectAttempts_spec (n : Nat) {s : ClientState} (hs : s.connected = false) :
    driver.Ends R (reconnectAttempts n) s.Connects (fun _ _ => False) s := by
  induction n generalizing s with
  | zero => exact ⟨.refl s, hs, fun hb => absurd hb Bool.false_ne_true⟩
  | succ n ih =>
      refine Machine.wp_seq (connect_spec 5 s) ?_ fun _ _ he => he
      intro b s₁ h₁
      cases b with
      | true => exact h₁
      | false =>
          refine ⟨trivial, fun _ _ => ?_⟩
          exact Machine.wp_mono (fun _ _ h₂ => h₁.quiet.connects h₂) (fun _ _ he => he)
            (ih h₁.connected)

theorem reconnect_spec (n : Nat) (s : ClientState) :
    driver.Ends R (reconnect n) s.Connects (fun _ _ => False) s := by
  refine Machine.wp_seq (disconnect_spec s) ?_ fun _ _ he => he
  intro _ s₁ hpost
  rcases hpost with ⟨hq, hdis⟩
  exact Machine.wp_mono (fun _ _ h => hq.connects h) (fun _ _ he => he)
    (reconnectAttempts_spec n hdis)

/-! ## Sending -/

/-- One locked `sendall` is one call, and `connected` is cleared exactly when
it fails. A `self.socket` of `None` raises. -/
theorem lockedSendall_spec (raw : List Char) (s : ClientState) :
    driver.Ends R (lockedSendall raw)
      (fun b s' => ∃ x : Send, x.line = raw ∧ (∃ i, x.sock = some i ∧ s.socket = some i) ∧
        (b = true ↔ x.Whole) ∧
        s' = { s with sends := s.sends ++ [x], connected := s.connected && b })
      (fun _ s' => s.Linked → s'.Linked) s := by
  refine ⟨trivial, fun (out : SendOutcome raw.length) _ => ?_⟩
  show driver.wp R _ (Prog.ofExcept (s.sendallLocked raw out).1) _ _ (s.sendallLocked raw out).2
  unfold ClientState.sendallLocked
  split
  · rename_i hnone
    intro hlink hc
    obtain ⟨i, hi, _⟩ := hlink hc
    rw [hnone] at hi
    exact absurd hi (by simp)
  · rename_i i hi
    split
    · exact ⟨⟨some i, raw, none⟩, rfl, ⟨i, rfl, hi⟩, by simp [Send.Whole], by simp⟩
    · rename_i k _
      exact ⟨⟨some i, raw, some k⟩, rfl, ⟨i, rfl, hi⟩, by simp [Send.Whole], by simp⟩

/-- A call makes one `sendall` when the client is connected and the number of
positions is right, and none otherwise. -/
theorem sendJointPositions_spec (c : ℚ) (jointPositions : List ℚ) (s : ClientState) :
    driver.Ends R (sendJointPositions c jointPositions)
      (fun b s' => (s.Linked → s'.Linked) ∧
        ((s.connected = true ∧ jointPositions.length = 6 ∧
          ∃ x : Send, x.line = encodeLine c jointPositions ∧
            (∃ i, x.sock = some i ∧ s.socket = some i) ∧ (b = true ↔ x.Whole) ∧
            s' = { s with sends := s.sends ++ [x], connected := b }) ∨
        ((s.connected = false ∨ jointPositions.length ≠ 6) ∧ b = false ∧ s' = s)))
      (fun _ s' => s.Linked → s'.Linked) s := by
  refine sendJointPositions_enter (T := fun t => t = s ∧ s.connected = true) ?_ ?_ ?_
  · exact ⟨trivial, fun _ _ => ⟨fun hdis => ⟨id, .inr ⟨.inl hdis, rfl, rfl⟩⟩, fun hc => ⟨rfl, hc⟩⟩⟩
  · rintro h6 _ ⟨rfl, _⟩
    exact ⟨id, .inr ⟨.inr h6, rfl, rfl⟩⟩
  · rintro h6 s ⟨rfl, hc⟩
    refine Machine.wp_mono ?_ (fun _ _ he => he) (lockedSendall_spec _ s)
    intro b s' hpost
    rcases hpost with ⟨x, hline, hsock, hwhole, rfl⟩
    refine ⟨fun hlink _ => hlink hc, .inl ⟨hc, h6, x, hline, hsock, hwhole, ?_⟩⟩
    simp [hc]

end HakRobot.Driver
