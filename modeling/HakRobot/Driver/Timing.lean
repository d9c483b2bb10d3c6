import HakRobot.Driver.StopRequest
import Mathlib.Algebra.Field.Rat
import Mathlib.Algebra.Order.Field.Rat
import Mathlib.Tactic.Linarith
import Mathlib.Tactic.NormNum
import Mathlib.Tactic.Ring

/-!
# How fast and how long an execution sends

`execute_trajectory` sleeps for `send_interval` after every point it wrote, except
the last one, and a point that fails is tried again after at most one reconnection.

* `lines_spaced` — two lines of one execution are at least `send_interval` of sleep
  apart, whatever failed in between and whatever other threads do;
* `executeTrajectory_budget` — an execution never calls a socket without a timeout,
  and it blocks for 31.2 seconds a point at most, apart from the intervals.
-/

namespace HakRobot.Driver

open HakRobot.Proc

variable {c : ℚ} {α : Type}

/-! ## The sleep between two lines -/

/-- Whether a line has been written, and the seconds slept since the last one. -/
structure SinceLine where
  written : Bool
  slept : ℚ

/-- The seconds an operation slept, if it was not interrupted. -/
def sleptFor (o : DriverOp) (r : o.Res) : ℚ :=
  match o, r with
  | .sleep seconds, _ => seconds
  | .rospySleep seconds, .ok _ => seconds
  | _, _ => 0

/-- The phase after an operation, from its answer. -/
def SinceLine.next (p : SinceLine) (o : DriverOp) (r : o.Res) : SinceLine :=
  match o, r with
  | .lockedSendall _, .ok true => ⟨true, 0⟩
  | o, r => { p with slept := p.slept + sleptFor o r }

/-- The interval has been slept since the last line. -/
def SinceLine.Rested (interval : ℚ) (p : SinceLine) : Prop :=
  p.written = true → interval ≤ p.slept

/-- A line is only sent by an execution that has rested. -/
def SinceLine.Allows (interval : ℚ) (p : SinceLine) : DriverOp → Prop
  | .lockedSendall _ => p.Rested interval
  | _ => True

/-- `p` rests for `interval` between its lines. -/
abbrev Spaced (interval : ℚ) (p : Method α) (Q : α → SinceLine → Prop) (s : SinceLine) : Prop :=
  (Machine.monitor driverSig SinceLine.next).wp (Machine.anyChoice _) (SinceLine.Allows interval)
    p Q (fun _ _ => True) s

/-- An operation that sends nothing and sleeps for no negative time. -/
def Rests : DriverOp → Prop
  | .lockedSendall _ => False
  | .sleep seconds | .rospySleep seconds => 0 ≤ seconds
  | _ => True

theorem Rests.sleptFor {o : DriverOp} (ho : Rests o) (r : o.Res) : 0 ≤ sleptFor o r := by
  unfold Driver.sleptFor
  split
  · exact ho
  · exact ho
  · exact le_rfl

theorem Rests.next {o : DriverOp} (ho : Rests o) (p : SinceLine) (r : o.Res) :
    p.next o r = { p with slept := p.slept + Driver.sleptFor o r } := by
  unfold SinceLine.next
  split
  · exact ho.elim
  · rfl

variable {interval : ℚ} {s : SinceLine}

theorem rests_spaced {p : Method α} (hp : p.Uses Rests) (hs : s.Rested interval) :
    Spaced interval p (fun _ s' => s'.Rested interval) s := by
  refine Machine.wp_mono (fun _ _ h => h) (fun _ _ _ => trivial)
    (Machine.wp_of_uses (I := fun s' : SinceLine => s'.Rested interval) ?_ hp hs)
  intro s' o hs' ho
  refine ⟨?_, fun (r : o.Res) _ => ?_⟩
  · cases o <;> first | exact trivial | exact ho.elim
  · show (s'.next o r).Rested interval
    rw [ho.next]
    intro hwritten
    have hslept := hs' hwritten
    have hmore := ho.sleptFor r
    show interval ≤ s'.slept + sleptFor o r
    linarith

theorem connect_rests (timeout : ℚ) : (connect timeout).Uses Rests := by
  refine Prog.uses_tryCatch ?_ fun e => ?_
  · refine Prog.uses_bind ⟨trivial, fun r => Prog.uses_ofExcept r⟩ fun _ => ?_
    refine Prog.uses_bind ⟨trivial, fun r => Prog.uses_ofExcept r⟩ fun _ => ?_
    refine Prog.uses_bind ⟨trivial, fun r => Prog.uses_ofExcept r⟩ fun _ => ?_
    refine Prog.uses_bind ⟨trivial, fun r => Prog.uses_ofExcept r⟩ fun _ => ?_
    refine ⟨trivial, fun _ => ⟨?_, fun _ => trivial⟩⟩
    show (0 : ℚ) ≤ 2
    norm_num
  · split
    · exact ⟨trivial, fun _ => trivial⟩
    · exact trivial

theorem reconnect_rests (n : Nat) : (reconnect n).Uses Rests := by
  have hattempts : ∀ n, (reconnectAttempts n).Uses Rests := by
    intro n
    induction n with
    | zero => exact trivial
    | succ n ih =>
        refine Prog.uses_bind (connect_rests 5) fun b => ?_
        cases b with
        | true => exact trivial
        | false =>
            refine ⟨?_, fun _ => ih⟩
            show (0 : ℚ) ≤ 2
            norm_num
  exact ⟨trivial, fun _ => hattempts n⟩

theorem interrupted_rests (h : TrajectoryHandler) : (interrupted h).Uses Rests := by
  refine ⟨trivial, fun now => ?_⟩
  cases (now : Bool) with
  | true => exact trivial
  | false => exact ⟨trivial, fun _ => trivial⟩

/-- A send that wrote its line starts the time anew. -/
theorem send_spaced (jointPositions : List ℚ) (hs : s.Rested interval) :
    Spaced interval (sendJointPositions c jointPositions)
      (fun b s' => (b = true → s' = ⟨true, 0⟩) ∧ (b = false → s'.Rested interval)) s := by
  refine sendJointPositions_enter (T := (· = s)) ?_ ?_ ?_
  · refine ⟨trivial, fun connected _ => ⟨fun _ => ⟨fun h => absurd h Bool.false_ne_true,
      fun _ => ?_⟩, fun _ => ?_⟩⟩
    · intro hwritten
      exact (hs hwritten).trans (le_of_eq (add_zero s.slept).symm)
    · show (⟨s.written, s.slept + 0⟩ : SinceLine) = s
      rw [add_zero]
  · rintro _ _ rfl
    exact ⟨fun h => absurd h Bool.false_ne_true, fun _ => hs⟩
  · rintro _ _ rfl
    refine ⟨hs, fun (r : Except PyException Bool) _ => ?_⟩
    cases r with
    | error e => exact trivial
    | ok b =>
        cases b with
        | true => exact ⟨fun _ => rfl, fun h => absurd h.symm Bool.false_ne_true⟩
        | false =>
            refine ⟨fun h => absurd h Bool.false_ne_true, fun _ hwritten => ?_⟩
            exact (hs hwritten).trans (le_of_eq (add_zero _).symm)

/-- **Loop.** After a line that is not the last one the interval is slept. -/
theorem sendPoints_spaced (h : TrajectoryHandler) {total i : Nat}
    {points : List JointTrajectoryPoint} (htotal : i + points.length = total)
    (hs : s.Rested h.sendInterval) :
    Spaced h.sendInterval (sendPoints c h total i points) (fun _ _ => True) s := by
  induction points generalizing i s with
  | nil => exact ⟨trivial, fun _ _ => trivial⟩
  | cons point rest ih =>
      have hnext : i + 1 + rest.length = total := by
        simp only [List.length_cons] at htotal
        omega
      have hwritten : ∀ t : SinceLine, t = ⟨true, 0⟩ → Spaced h.sendInterval
          (do pauseAfter h i total; sendPoints c h total (i + 1) rest) (fun _ _ => True) t := by
        rintro _ rfl
        unfold pauseAfter
        split
        · refine ⟨trivial, fun (r : Except PyException Unit) _ => ?_⟩
          cases r with
          | error e => exact trivial
          | ok _ =>
              refine ih hnext fun _ => ?_
              show h.sendInterval ≤ 0 + h.sendInterval
              rw [zero_add]
        · -- the last point: nothing is left to send
          have hnone : rest = [] := by
            apply List.eq_nil_of_length_eq_zero
            omega
          subst hnone
          exact ⟨trivial, fun _ _ => trivial⟩
      let Ready (t : SinceLine) : Prop := t.Rested h.sendInterval
      refine sendPoints_round (T := Ready) (F := Ready) (A := Ready) (W := (· = ⟨true, 0⟩))
        (L := Ready) (X := fun _ => True) ?_ ?_ ?_ ?_ ?_ ?_ ?_ ?_
      · refine Machine.wp_mono ?_ (fun _ _ he => he) (rests_spaced (interrupted_rests h) hs)
        exact fun _ _ hrested => ⟨fun _ => trivial, fun _ => hrested⟩
      · exact fun _ t ht => ih hnext ht
      · exact fun _ t ht => send_spaced point.positions ht
      · intro _ t ht
        refine Machine.wp_mono ?_ (fun _ _ he => he) (rests_spaced (reconnect_rests 3) ht)
        exact fun _ _ hrested => ⟨fun _ => hrested, fun _ => trivial⟩
      · exact fun _ t ht => send_spaced point.positions ht
      · exact fun _ => hwritten
      · exact fun _ t ht => ih hnext ht
      · exact fun _ _ => ⟨trivial, fun _ _ => trivial⟩

theorem executeTrajectory_spaced (h : TrajectoryHandler) (trajectory : JointTrajectory) :
    Spaced h.sendInterval (executeTrajectory c h trajectory) (fun _ _ => True) ⟨false, 0⟩ := by
  refine executeTrajectory_enter (T := fun t => t.written = false) ?_ (fun _ _ _ => trivial) ?_
  · exact ⟨trivial, fun _ _ => ⟨fun _ => trivial, fun _ => rfl⟩⟩
  · intro _ t ht
    refine ⟨trivial, fun _ _ => sendPoints_spaced h (Nat.zero_add _) fun hwritten => ?_⟩
    exact absurd (ht.symm.trans hwritten) Bool.false_ne_true

/-- The seconds slept in the events. -/
def sleptIn (es : List (Event driverSig)) : ℚ := (es.map fun e => sleptFor e.1 e.2).sum

/-- While no line is written the seconds add up. -/
theorem phaseAfter_slept {es : List (Event driverSig)} (hes : linesIn es = []) (p : SinceLine) :
    phaseAfter SinceLine.next p es = { p with slept := p.slept + sleptIn es } := by
  induction es generalizing p with
  | nil =>
      show p = { p with slept := p.slept + 0 }
      rw [add_zero]
  | cons e es ih =>
      obtain ⟨o, r⟩ := e
      rw [linesIn_cons, List.append_eq_nil_iff] at hes
      have hnext : p.next o r = { p with slept := p.slept + sleptFor o r } := by
        unfold SinceLine.next
        split
        · exact absurd hes.1 (by simp [writtenLine])
        · rfl
      rw [phaseAfter_cons, hnext, ih hes.2, sleptIn, sleptIn, List.map_cons, List.sum_cons,
        add_assoc]

variable {ι : Type} [DecidableEq ι]

/-- **Spacing.** In every interleaving of any threads, and whatever fails: between a
complete line of an execution and its next attempt to send one, the execution has
slept for `send_interval` at least. -/
theorem lines_spaced {h : TrajectoryHandler} {trajectory : JointTrajectory}
    {P P' : Pool driverSig ClientState PyException Bool ι} {i : ι}
    {history : Pool.History driverSig ι}
    (hthread : P.thread i = executeTrajectory c h trajectory)
    (hrun : Pool.Run driver driver.anyChoice P history P')
    {before between after : List (Event driverSig)} {line raw : List Char}
    {r : Except PyException Bool}
    (hevents : history.of i = before ++ ⟨.lockedSendall line, .ok true⟩ ::
      (between ++ ⟨.lockedSendall raw, r⟩ :: after))
    (hbetween : linesIn between = []) :
    h.sendInterval ≤ sleptIn between := by
  have htrace := hrun.trace i
  rw [hthread, hevents] at htrace
  have halong := wp_trace (executeTrajectory_spaced h trajectory) htrace
  have hrest := halong.append_right.2.append_right
  have hrested := hrest.1
  rw [phaseAfter_slept hbetween] at hrested
  have hslept : h.sendInterval ≤ 0 + sleptIn between := hrested rfl
  rwa [zero_add] at hslept

/-- The events of an execution that writes both its points, with no stop. -/
def bothWritten : List (Event driverSig) := (beforeStop twoPointTrajectory 11).1.of true

/-- `lines_spaced` for it, with the interval of the topic's handler. -/
theorem lines_spaced_both : 0.05 ≤ sleptIn ((bothWritten.drop 6).take 4) := by
  have hrun : Pool.Run driver driver.anyChoice (stopPool twoPointTrajectory)
      (beforeStop twoPointTrajectory 11).1 (beforeStop twoPointTrajectory 11).2 :=
    Pool.schedule_run _
  have hevents : bothWritten = bothWritten.take 5 ++
      ⟨.lockedSendall (encodeLine 57 (List.replicate 6 0)), .ok true⟩ ::
        ((bothWritten.drop 6).take 4 ++
          [⟨.lockedSendall (encodeLine 57 (List.replicate 6 1)), .ok true⟩]) := by
    rfl
  exact lines_spaced (h := topicHandler 0.05) rfl hrun hevents rfl

/-! ## The time an execution can take -/

/-- The timeout of the socket, if it has one, and the seconds the operations so far
can have blocked. -/
structure Clock where
  timeout : Option ℚ
  spent : ℚ

/-- The clock after an operation, from its answer. A new socket has no timeout; the
0.2 seconds are those of `disconnect`. -/
def Clock.next (p : Clock) (o : DriverOp) (r : o.Res) : Clock :=
  match o, r with
  | .newSocket, .ok _ => { p with timeout := none }
  | .settimeout timeout, .ok _ => { p with timeout := some timeout }
  | .lockedRecv _ timeout, _ => ⟨some timeout, p.spent + timeout⟩
  | .socketConnect, _ | .lockedSendall _, _ => { p with spent := p.spent + p.timeout.getD 0 }
  | .sleep seconds, _ | .rospySleep seconds, _ => { p with spent := p.spent + seconds }
  | .lockedDisconnect, _ => { p with spent := p.spent + 0.2 }
  | _, _ => p

/-- No call waits without a timeout, and the time is within the budget. -/
structure Clock.Within (budget : ℚ) (p : Clock) (o : DriverOp) : Prop where
  timed : (o = .socketConnect ∨ ∃ raw, o = .lockedSendall raw) → p.timeout ≠ none
  spent : p.spent ≤ budget

/-- `p` keeps within the budget. -/
abbrev Timed (budget : ℚ) (p : Method α) (Q : α → Clock → Prop) (s : Clock) : Prop :=
  (Machine.monitor driverSig Clock.next).wp (Machine.anyChoice _) (Clock.Within budget) p Q
    (fun _ s' => s'.spent ≤ budget) s

/-- An operation that takes no time. -/
def Instant : DriverOp → Prop
  | .readConnected | .writeConnected _ | .isShutdown | .readExecuting _ | .writeExecuting _ _ =>
      True
  | _ => False

variable {budget : ℚ} {t : Clock}

theorem Instant.within {o : DriverOp} (ho : Instant o) (ht : t.spent ≤ budget) :
    t.Within budget o := by
  refine ⟨fun h => ?_, ht⟩
  rcases h with rfl | ⟨raw, rfl⟩
  · exact ho.elim
  · exact ho.elim

theorem instant_timed {p : Method α} (hp : p.Uses Instant) (ht : t.spent ≤ budget) :
    Timed budget p (fun _ t' => t' = t) t := by
  refine Machine.wp_mono (fun _ _ h => h) (fun _ t' h => ?_)
    (Machine.wp_of_uses (I := (· = t)) ?_ hp rfl)
  · rw [h]
    exact ht
  · rintro t' o rfl ho
    refine ⟨ho.within ht, fun (r : o.Res) _ => ?_⟩
    show t'.next o r = t'
    cases o <;> first | rfl | exact ho.elim

/-- `connect` takes 5 seconds when it fails and 7 when it succeeds, and a connection
it made has a timeout. -/
theorem connect_timed (ht : t.spent + 7 ≤ budget) :
    Timed budget (connect 5)
      (fun b t' => (b = true → t'.timeout = some 5 ∧ t'.spent ≤ t.spent + 7) ∧
        (b = false → t'.spent ≤ t.spent + 5)) t := by
  have hnow : t.spent ≤ t.spent + 5 := by linarith
  have hbudget : t.spent ≤ budget := by linarith
  refine Machine.wp_catch (F := fun _ t' => t'.spent ≤ t.spent + 5) ?_ ?_
  · refine ⟨⟨by simp, hbudget⟩, fun (r : Except PyException Unit) _ => ?_⟩
    cases r with
    | error e => exact hnow
    | ok _ =>
        refine ⟨⟨by simp, hbudget⟩, fun (r : Except PyException Unit) _ => ?_⟩
        cases r with
        | error e => exact hnow
        | ok _ =>
            refine ⟨⟨by simp, hbudget⟩, fun (r : Except PyException Unit) _ => ?_⟩
            cases r with
            | error e => exact hnow
            | ok _ =>
                -- the timeout of 5 seconds is set when `connect` is called
                refine ⟨⟨fun _ => by simp [Machine.monitor, Clock.next], hbudget⟩,
                  fun (r : Except PyException Unit) _ => ?_⟩
                have hspent : t.spent + 5 ≤ budget := by linarith
                cases r with
                | error e => exact le_refl (t.spent + 5)
                | ok _ =>
                    refine ⟨⟨by simp, hspent⟩, fun _ _ => ⟨⟨by simp, hspent⟩, fun _ _ => ?_⟩⟩
                    refine ⟨fun _ => ⟨rfl, ?_⟩, fun h => absurd h.symm Bool.false_ne_true⟩
                    show t.spent + 5 + connectWait ≤ t.spent + 7
                    rw [connectWait]
                    linarith
  · intro e t' ht'
    have hspent : t'.spent ≤ budget := by linarith
    split
    · refine ⟨⟨by simp, hspent⟩, fun _ _ => ?_⟩
      exact ⟨fun h => absurd h Bool.false_ne_true, fun _ => ht'⟩
    · exact hspent

theorem reconnectAttempts_timed (n : Nat) (ht : t.spent + 7 * n ≤ budget) :
    Timed budget (reconnectAttempts n)
      (fun b t' => (b = true → t'.timeout = some 5) ∧ t'.spent ≤ t.spent + 7 * n) t := by
  induction n generalizing t with
  | zero =>
      refine ⟨fun h => absurd h Bool.false_ne_true, ?_⟩
      show t.spent ≤ t.spent + 7 * ((0 : Nat) : ℚ)
      simp
  | succ n ih =>
      push_cast at ht ⊢
      have hn : (0 : ℚ) ≤ n := Nat.cast_nonneg n
      refine Machine.wp_seq (connect_timed (t := t) (by linarith)) ?_ fun _ _ he => he
      intro b t₁ hpost
      rcases hpost with ⟨htrue, hfalse⟩
      cases b with
      | true =>
          obtain ⟨htimeout, hspent⟩ := htrue rfl
          exact ⟨fun _ => htimeout, by linarith⟩
      | false =>
          have hspent := hfalse rfl
          refine ⟨⟨by simp, by linarith⟩, fun _ _ => ?_⟩
          have hslept : t₁.spent + 2 + 7 * n ≤ budget := by linarith
          refine Machine.wp_mono ?_ (fun _ _ he => he)
            (ih (t := ⟨t₁.timeout, t₁.spent + 2⟩) hslept)
          intro b t₂ h
          refine ⟨h.1, ?_⟩
          have hlast : t₂.spent ≤ t₁.spent + 2 + 7 * n := h.2
          linarith

theorem reconnect_timed (ht : t.spent + 21.2 ≤ budget) :
    Timed budget (reconnect 3)
      (fun b t' => (b = true → t'.timeout = some 5) ∧ t'.spent ≤ t.spent + 21.2) t := by
  refine ⟨⟨by simp, by linarith⟩, fun _ _ => ?_⟩
  refine Machine.wp_mono ?_ (fun _ _ he => he)
    (reconnectAttempts_timed (t := ⟨t.timeout, t.spent + 0.2⟩) 3 (by norm_num; linarith))
  intro b t' h
  refine ⟨h.1, ?_⟩
  have hlast : t'.spent ≤ t.spent + 0.2 + 7 * ((3 : Nat) : ℚ) := h.2
  norm_num at hlast
  linarith

theorem send_timed (jointPositions : List ℚ) (htimeout : t.timeout = some 5)
    (ht : t.spent + 5 ≤ budget) :
    Timed budget (sendJointPositions c jointPositions)
      (fun _ t' => t'.timeout = some 5 ∧ t'.spent ≤ t.spent + 5) t := by
  have hnow : t.spent ≤ t.spent + 5 := by linarith
  refine sendJointPositions_enter (T := (· = t)) ?_ ?_ ?_
  · refine Machine.wp_mono ?_ (fun _ _ he => he)
      (instant_timed (p := readConnected) ⟨trivial, fun _ => trivial⟩ (by linarith))
    rintro _ _ rfl
    exact ⟨fun _ => ⟨htimeout, hnow⟩, fun _ => rfl⟩
  · rintro _ _ rfl
    exact ⟨htimeout, hnow⟩
  · rintro _ t rfl
    refine ⟨⟨fun _ h => ?_, by linarith⟩, fun (r : Except PyException Bool) _ => ?_⟩
    · rw [htimeout] at h
      cases h
    · have hspent : t.spent + t.timeout.getD 0 ≤ t.spent + 5 := by
        rw [htimeout]
        exact le_rfl
      cases r with
      | error e => exact hspent.trans ht
      | ok b => exact ⟨htimeout, hspent⟩

/-- What `n` points can take: for each of them two sends and a reconnection, and the
interval after each but the last. -/
def pointsBudget (interval : ℚ) : Nat → ℚ
  | 0 => 0
  | 1 => 31.2
  | n + 2 => 31.2 + interval + pointsBudget interval (n + 1)

theorem pointsBudget_nonneg {interval : ℚ} (hinterval : 0 ≤ interval) (n : Nat) :
    0 ≤ pointsBudget interval n := by
  induction n using pointsBudget.induct with
  | case1 => exact le_rfl
  | case2 => norm_num [pointsBudget]
  | case3 n ih =>
      rw [pointsBudget]
      linarith

/-- A point that is followed by others leaves their budget when it is paused after. -/
theorem pointsBudget_succ {interval : ℚ} (hinterval : 0 ≤ interval) (n : Nat) :
    31.2 + pointsBudget interval n ≤ pointsBudget interval (n + 1) := by
  cases n with
  | zero => norm_num [pointsBudget]
  | succ n =>
      rw [pointsBudget.eq_3]
      linarith

/-- **Loop.** Every point has its share. -/
theorem sendPoints_timed (h : TrajectoryHandler) (hinterval : 0 ≤ h.sendInterval) {total i : Nat}
    {points : List JointTrajectoryPoint} (htotal : i + points.length = total)
    (htimeout : t.timeout = some 5)
    (ht : t.spent + pointsBudget h.sendInterval points.length ≤ budget) :
    Timed budget (sendPoints c h total i points) (fun _ t' => t'.spent ≤ budget) t := by
  have hend : ∀ (b : Bool) {t : Clock}, t.spent ≤ budget →
      Timed budget (do writeExecuting h false; return b) (fun _ t' => t'.spent ≤ budget) t := by
    intro b t ht
    exact ⟨Instant.within (o := .writeExecuting h.id false) trivial ht, fun _ _ => ht⟩
  induction points generalizing i t with
  | nil =>
      have hspent : t.spent ≤ budget := by
        have hzero : t.spent + 0 ≤ budget := ht
        linarith
      exact hend true hspent
  | cons point rest ih =>
      have hnext : i + 1 + rest.length = total := by
        simp only [List.length_cons] at htotal
        omega
      have hrest := pointsBudget_nonneg hinterval rest.length
      have hshare := pointsBudget_succ hinterval rest.length
      rw [List.length_cons] at ht
      -- what follows a point, in the time that is left
      have hgo : ∀ u : Clock, u.timeout = some 5 ∧ u.spent ≤ t.spent + 31.2 →
          Timed budget (sendPoints c h total (i + 1) rest) (fun _ t' => t'.spent ≤ budget) u := by
        intro u hu
        refine ih hnext hu.1 ?_
        have hspent := hu.2
        linarith
      have hwritten : ∀ u : Clock, u.timeout = some 5 ∧ u.spent ≤ t.spent + 31.2 →
          Timed budget (do pauseAfter h i total; sendPoints c h total (i + 1) rest)
            (fun _ t' => t'.spent ≤ budget) u := by
        intro u hu
        have hspent := hu.2
        unfold pauseAfter
        split
        · obtain ⟨m, hm⟩ : ∃ m, rest.length = m + 1 := Nat.exists_eq_succ_of_ne_zero (by omega)
          rw [hm, pointsBudget.eq_3] at ht
          rw [hm] at hrest
          refine ⟨⟨by simp, by linarith⟩, fun (r : Except PyException Unit) _ => ?_⟩
          have hslept : u.spent + h.sendInterval ≤ budget := by linarith
          cases r with
          | error e => exact hslept
          | ok _ =>
              refine ih (t := ⟨u.timeout, u.spent + h.sendInterval⟩) hnext hu.1 ?_
              rw [hm]
              show u.spent + h.sendInterval + _ ≤ budget
              linarith
        · exact hgo u hu
      refine sendPoints_round (T := (· = t))
        (F := fun u => u.timeout = some 5 ∧ u.spent ≤ t.spent + 5)
        (A := fun u => u.timeout = some 5 ∧ u.spent ≤ t.spent + 26.2)
        (W := fun u => u.timeout = some 5 ∧ u.spent ≤ t.spent + 31.2)
        (L := fun u => u.timeout = some 5 ∧ u.spent ≤ t.spent + 31.2)
        (X := fun u => u.spent ≤ budget) ?_ ?_ ?_ ?_ ?_ (fun _ => hwritten) (fun _ => hgo) ?_
      · have htest : (interrupted h).Uses Instant := by
          refine ⟨trivial, fun now => ?_⟩
          cases (now : Bool) with
          | true => exact trivial
          | false => exact ⟨trivial, fun _ => trivial⟩
        refine Machine.wp_mono ?_ (fun _ _ he => he) (instant_timed htest (by linarith))
        rintro _ _ rfl
        exact ⟨fun _ => by linarith, fun _ => rfl⟩
      · rintro _ _ rfl
        exact hgo _ ⟨htimeout, by linarith⟩
      · rintro _ _ rfl
        refine Machine.wp_mono ?_ (fun _ _ he => he)
          (send_timed point.positions htimeout (by linarith))
        exact fun _ u hu => ⟨fun _ => ⟨hu.1, by linarith [hu.2]⟩, fun _ => hu⟩
      · intro _ u hu
        have hspent := hu.2
        refine Machine.wp_mono ?_ (fun _ _ he => he) (reconnect_timed (t := u) (by linarith))
        intro b v hv
        have hlast := hv.2
        exact ⟨fun hb => ⟨hv.1 hb, by linarith⟩, fun _ => by linarith⟩
      · intro _ u hu
        have hspent := hu.2
        refine Machine.wp_mono ?_ (fun _ _ he => he)
          (send_timed point.positions hu.1 (by linarith))
        intro b v hv
        have hlast := hv.2
        exact ⟨fun _ => ⟨hv.1, by linarith⟩, fun _ => ⟨hv.1, by linarith⟩⟩
      · exact fun u hu => hend false hu

theorem executeTrajectory_timed {h : TrajectoryHandler} (hinterval : 0 ≤ h.sendInterval)
    (trajectory : JointTrajectory) (htimeout : t.timeout = some 5)
    (ht : t.spent + pointsBudget h.sendInterval trajectory.points.length ≤ budget) :
    Timed budget (executeTrajectory c h trajectory) (fun _ t' => t'.spent ≤ budget) t := by
  have hnonneg := pointsBudget_nonneg hinterval trajectory.points.length
  have hnow : t.spent ≤ budget := by linarith
  refine executeTrajectory_enter (T := (· = t)) ?_ ?_ ?_
  · refine Machine.wp_mono ?_ (fun _ _ he => he)
      (instant_timed (p := isConnected) ⟨trivial, fun _ => trivial⟩ hnow)
    rintro _ _ rfl
    exact ⟨fun _ => hnow, fun _ => rfl⟩
  · rintro _ _ rfl
    exact hnow
  · rintro _ t rfl
    refine ⟨Instant.within (o := .writeExecuting h.id true) trivial hnow, fun _ _ => ?_⟩
    exact sendPoints_timed h hinterval (Nat.zero_add _) htimeout ht

/-- The clock of a connection that `connect(5.0)` made, when the execution starts. -/
def Clock.atStart : Clock := ⟨some 5, 0⟩

/-- **Time.** Whatever fails, on a connection with the timeout of 5 seconds an
execution with no other thread beside it connects and sends only on a socket that
has a timeout, and at every moment it has blocked for no more than the budget of
its points. -/
theorem executeTrajectory_budget {h : TrajectoryHandler} (hinterval : 0 ≤ h.sendInterval)
    {trajectory : JointTrajectory} {es : List (Event driverSig)} {left : Method Bool}
    (htrace : (executeTrajectory c h trajectory).Trace es left) :
    (phaseAfter Clock.next Clock.atStart es).spent ≤
        pointsBudget h.sendInterval trajectory.points.length ∧
      ((left.next = some .socketConnect ∨ ∃ raw, left.next = some (.lockedSendall raw)) →
        (phaseAfter Clock.next Clock.atStart es).timeout ≠ none) := by
  have htimed : Timed (pointsBudget h.sendInterval trajectory.points.length)
      (executeTrajectory c h trajectory)
      (fun _ t' => t'.spent ≤ pointsBudget h.sendInterval trajectory.points.length)
      .atStart := executeTrajectory_timed hinterval trajectory rfl (le_of_eq (zero_add _))
  have hrest := wp_trace_rest htimed htrace
  cases left with
  | ret b => exact ⟨hrest, fun hnext => absurd hnext (by simp [Prog.next])⟩
  | raise e => exact ⟨hrest, fun hnext => absurd hnext (by simp [Prog.next])⟩
  | op o k =>
      refine ⟨hrest.1.spent, fun hnext => hrest.1.timed ?_⟩
      simpa [Prog.next] using hnext

/-- The events of an execution whose first line is cut, up to its resend on the new
connection. -/
def resending : List (Event driverSig) :=
  (Pool.schedule driver (stoppedTurns.take 14) stoppedPool).1.of true

/-- `executeTrajectory_budget` before that resend: 5 s for the send that failed and
7.2 s for the reconnection. -/
theorem executeTrajectory_budget_resending :
    (phaseAfter Clock.next Clock.atStart resending).spent = 12.2 ∧
      (phaseAfter Clock.next Clock.atStart resending).spent ≤ pointsBudget 0.05 2 ∧
      (phaseAfter Clock.next Clock.atStart resending).timeout ≠ none := by
  have hrun : Pool.Run driver driver.anyChoice stoppedPool
      (Pool.schedule driver (stoppedTurns.take 14) stoppedPool).1
      (Pool.schedule driver (stoppedTurns.take 14) stoppedPool).2 := Pool.schedule_run _
  have htrace := hrun.trace true
  have hinterval : 0 ≤ (topicHandler 0.05).sendInterval := by norm_num [topicHandler]
  have hboth := executeTrajectory_budget hinterval htrace
  have hnext : ((Pool.schedule driver (stoppedTurns.take 14) stoppedPool).2.thread true).next =
      some (.lockedSendall (encodeLine 57 (List.replicate 6 0))) := by decide +kernel
  exact ⟨by decide +kernel, hboth.1, hboth.2 (.inr ⟨_, hnext⟩)⟩

end HakRobot.Driver
