import HakRobot.Driver.Threads
import HakRobot.Proc.Jobs

/-!
# Trajectories on one wire

The lock of the client covers one `sendall`, so the unit that cannot be split is
a line, not a trajectory. The lines here are those whose `sendall` returned, in
the order in which they were written.

* `run_linesOf` — what one thread writes is, in order, what its trajectories
  allow;
* `trajectories_in_order` — the lines of an execution that no execution of
  another thread overlaps are contiguous;
* `trajectories_interleave` — those of executions that overlap need not be.
-/

namespace HakRobot.Driver

open HakRobot.Proc

variable {c : ℚ} {α β : Type}

/-- The lines a trajectory can write. -/
def trajectoryLines (c : ℚ) (trajectory : JointTrajectory) : List (List Char) :=
  (trajectory.points.filter (·.positions.length = 6)).map (encodeLine c ·.positions)

/-! ## Lines added by a program -/

/-- `ℓ'` is `ℓ` and then some of `lines`, in their order. -/
def Extends (ℓ lines ℓ' : List (List Char)) : Prop := ∃ v, ℓ' = ℓ ++ v ∧ v.Sublist lines

theorem Extends.refl (ℓ lines : List (List Char)) : Extends ℓ lines ℓ :=
  ⟨[], (List.append_nil ℓ).symm, List.nil_sublist lines⟩

theorem Extends.trans {ℓ ℓ₁ ℓ₂ l₁ l₂ : List (List Char)} (h₁ : Extends ℓ l₁ ℓ₁)
    (h₂ : Extends ℓ₁ l₂ ℓ₂) : Extends ℓ (l₁ ++ l₂) ℓ₂ := by
  obtain ⟨v₁, rfl, hv₁⟩ := h₁
  obtain ⟨v₂, rfl, hv₂⟩ := h₂
  exact ⟨v₁ ++ v₂, List.append_assoc _ _ _, hv₁.append hv₂⟩

theorem Extends.mono {ℓ ℓ' l l' : List (List Char)} (h : Extends ℓ l ℓ') (hl : l.Sublist l') :
    Extends ℓ l' ℓ' := by
  obtain ⟨v, hv, hsub⟩ := h
  exact ⟨v, hv, hsub.trans hl⟩

/-- The lines a thread wrote, from the answers it got. -/
def lineMonitor : Machine driverSig (List (List Char)) :=
  Machine.monitor driverSig fun ℓ o r => ℓ ++ writtenLine o r

/-- At every moment `p` has added some of `lines`, in their order. -/
def WritesWithin (lines : List (List Char)) (p : Method α) : Prop :=
  ∀ ℓ, lineMonitor.wp (Machine.anyChoice _) (fun ℓ' _ => Extends ℓ lines ℓ') p
    (fun _ ℓ' => Extends ℓ lines ℓ') (fun _ ℓ' => Extends ℓ lines ℓ') ℓ

/-- A run that added `l₁` so far adds within `l₁ ++ l₂`. -/
theorem WritesWithin.after {l₁ l₂ : List (List Char)} {p : Method α} (hp : WritesWithin l₂ p)
    {ℓ ℓ₁ : List (List Char)} (h : Extends ℓ l₁ ℓ₁) :
    lineMonitor.wp (Machine.anyChoice _) (fun ℓ' _ => Extends ℓ (l₁ ++ l₂) ℓ') p
      (fun _ ℓ' => Extends ℓ (l₁ ++ l₂) ℓ') (fun _ ℓ' => Extends ℓ (l₁ ++ l₂) ℓ') ℓ₁ :=
  Machine.wp_weaken (fun _ _ h' => h.trans h') (fun _ _ h' => h.trans h')
    (fun _ _ h' => h.trans h') (hp ℓ₁)

theorem WritesWithin.mono {l l' : List (List Char)} {p : Method α} (hp : WritesWithin l p)
    (hl : l.Sublist l') : WritesWithin l' p := fun ℓ =>
  Machine.wp_weaken (fun _ _ h => h.mono hl) (fun _ _ h => h.mono hl)
    (fun _ _ h => h.mono hl) (hp ℓ)

theorem WritesWithin.bind {l₁ l₂ : List (List Char)} {p : Method α} {f : α → Method β}
    (hp : WritesWithin l₁ p) (hf : ∀ a, WritesWithin l₂ (f a)) :
    WritesWithin (l₁ ++ l₂) (p.bind f) := by
  intro ℓ
  refine Machine.wp_seq (Machine.wp_weaken ?_ (fun _ _ h => h) (fun _ _ h => h) (hp ℓ)) ?_ ?_
  · exact fun _ _ h => h.mono (List.sublist_append_left l₁ l₂)
  · exact fun a ℓ₁ h => (hf a).after h
  · exact fun _ _ h => h.mono (List.sublist_append_left l₁ l₂)

theorem WritesWithin.tryCatch {l : List (List Char)} {p : Method Unit} (hp : WritesWithin l p) :
    WritesWithin l (p.tryCatch fun _ => .ret ()) := by
  intro ℓ
  exact Machine.wp_catch (hp ℓ) fun _ _ h => h

/-! ## The methods -/

/-- An operation other than a `sendall`. -/
def NoSend (o : DriverOp) : Prop := ∀ raw, o ≠ .lockedSendall raw

theorem NoSend.writtenLine {o : DriverOp} (h : NoSend o) (r : o.Res) : writtenLine o r = [] := by
  unfold Driver.writtenLine
  split
  · exact absurd rfl (h _)
  · rfl

/-- A program without a `sendall` adds nothing. -/
theorem silent_wp {p : Method α} (hp : p.Uses NoSend) (ℓ : List (List Char)) :
    lineMonitor.wp (Machine.anyChoice _) (fun ℓ' _ => ℓ' = ℓ) p (fun _ ℓ' => ℓ' = ℓ)
      (fun _ ℓ' => ℓ' = ℓ) ℓ := by
  refine Machine.wp_of_uses (I := fun ℓ' => ℓ' = ℓ) ?_ hp rfl
  rintro ℓ' o rfl ho
  refine ⟨rfl, fun (r : o.Res) _ => ?_⟩
  show ℓ' ++ writtenLine o r = ℓ'
  rw [ho.writtenLine, List.append_nil]

theorem reconnect_noSend (n : Nat) : (reconnect n).Uses NoSend := by
  refine (reconnect_uses n).mono fun o ho => ?_
  cases o with
  | lockedSendall raw => exact ho.elim
  | _ => simp [NoSend]

/-- The handler itself sends nothing. -/
theorem handler_noSend {p : Method α} (hp : p.Uses HandlerOp) : p.Uses NoSend := by
  refine hp.mono fun o ho => ?_
  cases o with
  | lockedSendall raw => exact ho.elim
  | _ => simp [NoSend]

/-- A send adds its line exactly when it returns `True`. -/
theorem sendJointPositions_lines (jointPositions : List ℚ) (ℓ : List (List Char)) :
    lineMonitor.wp (Machine.anyChoice _) (fun ℓ' _ => ℓ' = ℓ)
      (sendJointPositions c jointPositions)
      (fun b ℓ' => ℓ' = ℓ ++ if b then [encodeLine c jointPositions] else [])
      (fun _ ℓ' => ℓ' = ℓ) ℓ := by
  have hread : (readConnected : Method Bool).Uses NoSend := ⟨by simp [NoSend], fun _ => trivial⟩
  refine sendJointPositions_enter (T := (· = ℓ)) ?_ ?_ ?_
  · refine Machine.wp_mono ?_ (fun _ _ he => he) (silent_wp hread ℓ)
    rintro _ _ rfl
    exact ⟨fun _ => (List.append_nil _).symm, fun _ => rfl⟩
  · rintro _ _ rfl
    exact (List.append_nil _).symm
  · rintro _ _ rfl
    refine ⟨rfl, fun (r : Except PyException Bool) _ => ?_⟩
    cases r with
    | error e => exact List.append_nil _
    | ok b =>
        cases b with
        | true => exact rfl
        | false => exact rfl

theorem WritesWithin.of_silent {p : Method α} (hp : p.Uses NoSend) (lines : List (List Char)) :
    WritesWithin lines p := by
  intro ℓ
  have hrefl : ∀ ℓ', ℓ' = ℓ → Extends ℓ lines ℓ' := by
    rintro _ rfl
    exact .refl _ _
  exact Machine.wp_weaken (fun ℓ' _ h => hrefl ℓ' h) (fun _ ℓ' h => hrefl ℓ' h)
    (fun _ ℓ' h => hrefl ℓ' h) (silent_wp hp ℓ)

/-- After a silent part. -/
theorem WritesWithin.silent_bind {lines : List (List Char)} {p : Method α} {f : α → Method β}
    (hp : p.Uses NoSend) (hf : ∀ a, WritesWithin lines (f a)) :
    WritesWithin lines (p.bind f) :=
  (WritesWithin.of_silent hp []).bind hf

/-- After a send: its line is used up only if it returned `True`. -/
theorem WritesWithin.send_bind {lines : List (List Char)} {jointPositions : List ℚ}
    {f : Bool → Method β} (htrue : WritesWithin lines (f true))
    (hfalse : WritesWithin (encodeLine c jointPositions :: lines) (f false)) :
    WritesWithin (encodeLine c jointPositions :: lines)
      ((sendJointPositions c jointPositions).bind f) := by
  intro ℓ
  have hrefl : ∀ ℓ', ℓ' = ℓ → Extends ℓ (encodeLine c jointPositions :: lines) ℓ' := by
    rintro _ rfl
    exact .refl _ _
  refine Machine.wp_seq (Machine.wp_weaken (fun ℓ' _ h => hrefl ℓ' h) (fun _ _ h => h)
    (fun _ ℓ' h => hrefl ℓ' h) (sendJointPositions_lines jointPositions ℓ)) ?_ fun _ _ h => h
  rintro b _ rfl
  cases b with
  | true =>
      have hsent : Extends ℓ [encodeLine c jointPositions] (ℓ ++ [encodeLine c jointPositions]) :=
        ⟨_, rfl, List.Sublist.refl _⟩
      exact htrue.after hsent
  | false =>
      simp only [Bool.false_eq_true, if_false, List.append_nil]
      exact hfalse ℓ

/-- One point adds its line at most once, also when it is sent again. -/
theorem sendPoints_lines (h : TrajectoryHandler) (total i : Nat)
    (points : List JointTrajectoryPoint) :
    WritesWithin ((points.filter (·.positions.length = 6)).map (encodeLine c ·.positions))
      (sendPoints c h total i points) := by
  have hend : ∀ b : Bool, (do writeExecuting h false; return b : Method Bool).Uses NoSend :=
    fun b => Prog.uses_bind (handler_noSend (writeExecuting_uses h false)) fun _ => Prog.uses_ret b
  induction points generalizing i with
  | nil => exact .of_silent (hend true) _
  | cons point rest ih =>
      refine .silent_bind (handler_noSend (interrupted_uses h)) fun stop => ?_
      cases stop with
      | true => exact .of_silent (hend false) _
      | false =>
          by_cases hcount : point.positions.length = 6
          · simp only [hcount, List.filter_cons_of_pos, decide_true, List.map_cons, ne_eq,
              not_true_eq_false, if_false, Bool.false_eq_true]
            have hskip :=
              (ih (i + 1)).mono (List.sublist_cons_self (encodeLine c point.positions) _)
            have hnext :=
              WritesWithin.silent_bind (handler_noSend (pauseAfter_uses h i total))
                fun _ => ih (i + 1)
            refine .send_bind hnext (.silent_bind (reconnect_noSend 3) fun reconnected => ?_)
            cases reconnected with
            | false => exact .of_silent (hend false) _
            | true => exact .send_bind hnext hskip
          · simpa [hcount] using ih (i + 1)

theorem executeTrajectory_lines (h : TrajectoryHandler) (trajectory : JointTrajectory) :
    WritesWithin (trajectoryLines c trajectory) (executeTrajectory c h trajectory) := by
  refine .silent_bind (p := isConnected) ⟨by simp [NoSend], fun _ => trivial⟩ fun connected => ?_
  cases connected with
  | false => exact .of_silent (Prog.uses_ret false) _
  | true =>
      by_cases hempty : trajectory.points.length = 0
      · simp only [hempty, Bool.not_true, Bool.false_eq_true, if_false, if_true]
        exact .of_silent (Prog.uses_ret false) _
      · simp only [hempty, Bool.not_true, Bool.false_eq_true, if_false]
        exact .silent_bind (handler_noSend (writeExecuting_uses h true)) fun _ =>
          sendPoints_lines h _ 0 trajectory.points

/-! ## Any number of threads -/

variable {ι : Type} [DecidableEq ι]

/-- The jobs of a thread that executes trajectories. -/
def deliveryJobs (deliveries : List (TrajectoryHandler × JointTrajectory)) : List ClientJob :=
  deliveries.map fun d => .trajectory d.1 d.2

/-- The job of one delivery. -/
theorem delivery_lines (d : TrajectoryHandler × JointTrajectory) :
    WritesWithin (trajectoryLines c d.2)
      (((ClientJob.trajectory d.1 d.2).method c).tryCatch fun _ => .ret ()) := by
  have hret := (executeTrajectory_lines (c := c) d.1 d.2).bind fun _ =>
    WritesWithin.of_silent (Prog.uses_ret ()) []
  rw [List.append_nil] at hret
  exact hret.tryCatch

theorem thread_lines (deliveries : List (TrajectoryHandler × JointTrajectory)) :
    WritesWithin (deliveries.flatMap fun d => trajectoryLines c d.2)
      (thread c (deliveryJobs deliveries)) := by
  induction deliveries with
  | nil => exact .of_silent (Prog.uses_ret ()) _
  | cons d ds ih => exact (delivery_lines d).bind fun _ => ih

theorem foldl_writtenLine (es : List (Event driverSig)) (ℓ : List (List Char)) :
    es.foldl (fun ℓ e => ℓ ++ writtenLine e.1 e.2) ℓ =
      ℓ ++ es.flatMap fun e => writtenLine e.1 e.2 := by
  induction es generalizing ℓ with
  | nil => simp
  | cons e es ih => simp [ih]

/-- The lines of a thread, from its events. -/
theorem phases_lines (h : Pool.History driverSig ι) (i : ι) :
    h.phases (fun ℓ o r => ℓ ++ writtenLine o r) (fun _ => []) i = linesOf i h := by
  rw [Pool.History.phases_of, foldl_writtenLine]
  rfl

/-- Whatever the schedule, a thread wrote some of the lines of its trajectories,
in their order. -/
theorem run_linesOf {s : ClientState}
    {deliveries : ι → List (TrajectoryHandler × JointTrajectory)}
    {h : Pool.History driverSig ι} {P' : Pool driverSig ClientState PyException Unit ι}
    (hrun : Pool.Run driver driver.anyChoice
      (clientPool c s fun i => deliveryJobs (deliveries i)) h P') (i : ι) :
    (linesOf i h).Sublist ((deliveries i).flatMap fun d => trajectoryLines c d.2) := by
  have hsteps := hrun.thread_steps (fun ℓ o r => ℓ ++ writtenLine o r) (fun _ => []) i
  obtain ⟨v, hv, hsub⟩ := Machine.wp_invariant (thread_lines (deliveries i) []) hsteps
  rw [phases_lines, List.nil_append] at hv
  subst hv
  exact hsub

/-- What is left out of a concatenation is left out of its parts. -/
theorem sublist_flatten_parts {v : List α} {L : List (List α)} (h : v.Sublist L.flatten) :
    ∃ parts : List (List α), v = parts.flatten ∧ List.Forall₂ List.Sublist parts L := by
  induction L generalizing v with
  | nil => exact ⟨[], List.sublist_nil.mp h, .nil⟩
  | cons l L ih =>
      obtain ⟨v₁, v₂, rfl, h₁, h₂⟩ := List.sublist_append_iff.mp h
      obtain ⟨parts, rfl, hparts⟩ := ih h₂
      exact ⟨v₁ :: parts, rfl, .cons h₁ hparts⟩

/-! ## Executions -/

/-- `t` numbers the events of `h` by the executions of `deliveries` that they belong to. -/
abbrev Executions (c : ℚ) (deliveries : ι → List (TrajectoryHandler × JointTrajectory))
    (h : Pool.History driverSig ι) (t : Tagged driverSig ι) : Prop :=
  JobHistory (fun job : ClientJob => (job.method c).tryCatch fun _ => .ret ())
    (fun i => deliveryJobs (deliveries i)) h t

/-- The lines that were written, with the executions that wrote them. -/
def writtenLines (t : Tagged driverSig ι) : List ((ι × ℕ) × List Char) :=
  t.flatMap fun x => (writtenLine x.2.1 x.2.2).map (x.1, ·)

omit [DecidableEq ι] in
theorem writtenLines_snd {h : Pool.History driverSig ι} {t : Tagged driverSig ι}
    (ht : t.map (fun x => (x.1.1, x.2)) = h) :
    (writtenLines t).map Prod.snd = h.flatMap fun e => writtenLine e.2.1 e.2.2 := by
  subst ht
  simp [writtenLines, List.map_flatMap, List.flatMap_map, Function.comp_def]

/-- The lines of one execution are those of its events. -/
theorem writtenLines_filter (t : Tagged driverSig ι) (a : ι × ℕ) :
    ((writtenLines t).filter (·.1 = a)).map Prod.snd =
      (t.eventsOf a).flatMap fun e => writtenLine e.1 e.2 := by
  induction t with
  | nil => rfl
  | cons x t ih =>
      unfold writtenLines Tagged.eventsOf at ih ⊢
      by_cases hx : x.1 = a
      · simp [List.filter_append, List.filter_map, Function.comp_def, hx, ih]
      · simp [List.filter_append, List.filter_map, Function.comp_def, hx, ih]

/-- What a program wrote so far is within what it can write. -/
theorem WritesWithin.trace {lines : List (List Char)} {p q : Method α} (hp : WritesWithin lines p)
    {es : List (Event driverSig)} (htrace : p.Trace es q) :
    (es.flatMap fun e => writtenLine e.1 e.2).Sublist lines := by
  have hnow := Machine.wp_now (wp_trace_rest (hp []) htrace)
  obtain ⟨v, hv, hsub⟩ := hnow
  rw [phaseAfter, foldl_writtenLine, List.nil_append, List.nil_append] at hv
  subst hv
  exact hsub

/-- An execution writes some of the lines of its trajectory, in their order. -/
theorem execution_lines {deliveries : ι → List (TrajectoryHandler × JointTrajectory)}
    {h : Pool.History driverSig ι} {t : Tagged driverSig ι} (ht : Executions c deliveries h t)
    {i : ι} {k : ℕ} {d : TrajectoryHandler × JointTrajectory}
    (hd : (deliveries i)[k]? = some d) :
    (((writtenLines t).filter (·.1 = (i, k))).map Prod.snd).Sublist (trajectoryLines c d.2) := by
  have hjob : (deliveryJobs (deliveries i))[k]? = some (.trajectory d.1 d.2) := by
    rw [deliveryJobs, List.getElem?_map, hd]
    rfl
  obtain ⟨q, htrace⟩ := ht.trace hjob
  rw [writtenLines_filter]
  exact (delivery_lines d).trace htrace

/-- The lines of an execution that is apart from those of the other threads. -/
theorem execution_contiguous {deliveries : ι → List (TrajectoryHandler × JointTrajectory)}
    {h : Pool.History driverSig ι} {t : Tagged driverSig ι} (ht : Executions c deliveries h t)
    {i : ι} {k : ℕ} (happart : ∀ j l, j ≠ i → t.Apart (i, k) (j, l)) :
    (writtenLines t).filter (·.1 = (i, k)) <:+: writtenLines t := by
  obtain ⟨pre, mid, post, rfl, hpre, hmid, hpost⟩ := ht.contiguous happart
  -- only the middle part wrote lines of the execution, and nothing else
  have hnone : ∀ es : Tagged driverSig ι, (∀ x ∈ es, x.1 ≠ (i, k)) →
      (writtenLines es).filter (·.1 = (i, k)) = [] := by
    intro es hes
    refine List.filter_eq_nil_iff.mpr fun y hy => ?_
    obtain ⟨x, hx, hline⟩ := List.mem_flatMap.mp hy
    obtain ⟨line, -, rfl⟩ := List.mem_map.mp hline
    simpa using hes x hx
  have hall : (writtenLines mid).filter (·.1 = (i, k)) = writtenLines mid := by
    refine List.filter_eq_self.mpr fun y hy => ?_
    obtain ⟨x, hx, hline⟩ := List.mem_flatMap.mp hy
    obtain ⟨line, -, rfl⟩ := List.mem_map.mp hline
    simpa using hmid x hx
  have hsplit : writtenLines (pre ++ mid ++ post) =
      writtenLines pre ++ writtenLines mid ++ writtenLines post := by
    simp [writtenLines]
  rw [hsplit, List.filter_append, List.filter_append, hnone pre hpre, hall, hnone post hpost,
    List.nil_append, List.append_nil]
  exact List.infix_append _ _ _

/-- **Order on the wire.** For every number of threads, every list of
trajectories each of them executes, every schedule and every pattern of
failures: the lines whose `sendall` returned are those the threads wrote, one
line at a time, and the lines of each thread are its trajectories one after
another, each with some of its lines in their order. So the trajectories of one
thread are never mixed. The events of a run belong to executions; an execution
writes lines of its own trajectory, in their order, and when none of another
thread overlaps with it, its lines are contiguous. -/
theorem trajectories_in_order {s : ClientState}
    {deliveries : ι → List (TrajectoryHandler × JointTrajectory)}
    {h : Pool.History driverSig ι} {P' : Pool driverSig ClientState PyException Unit ι}
    (hrun : Pool.Run driver driver.anyChoice
      (clientPool c s fun i => deliveryJobs (deliveries i)) h P') :
    completeLines P'.shared.sends =
      completeLines s.sends ++ h.flatMap (fun e => writtenLine e.2.1 e.2.2) ∧
    (∀ i, ∃ parts : List (List (List Char)), linesOf i h = parts.flatten ∧
      List.Forall₂ List.Sublist parts ((deliveries i).map fun d => trajectoryLines c d.2)) ∧
    (∃ t, Executions c deliveries h t) ∧
    ∀ t, Executions c deliveries h t →
      (writtenLines t).map Prod.snd = h.flatMap (fun e => writtenLine e.2.1 e.2.2) ∧
      (∀ i k d, (deliveries i)[k]? = some d →
        (((writtenLines t).filter (·.1 = (i, k))).map Prod.snd).Sublist
          (trajectoryLines c d.2)) ∧
      ∀ i k, (∀ j l, j ≠ i → t.Apart (i, k) (j, l)) →
        (writtenLines t).filter (·.1 = (i, k)) <:+: writtenLines t := by
  refine ⟨run_completeLines hrun, fun i => ?_, hrun.jobHistory fun _ => rfl, fun t ht => ?_⟩
  · refine sublist_flatten_parts ?_
    rw [← List.flatMap_def]
    exact run_linesOf hrun i
  · refine ⟨writtenLines_snd ht.history, fun i k d hd => execution_lines ht hd, ?_⟩
    exact fun i k happart => execution_contiguous ht happart

/-! ## Two threads -/

/-- Two points, one for the topic and another one for the action server. -/
def twoPoints (id : HandlerId) : JointTrajectory :=
  let point (q : ℚ) : JointTrajectoryPoint := ⟨List.replicate 6 q, [], [], 1⟩
  match id with
  | .topic => ⟨0, [], [point 0, point 1]⟩
  | .action => ⟨0, [], [point 2, point 3]⟩

/-- Each of the two threads executes its trajectory. -/
def twoDeliveries (id : HandlerId) : List (TrajectoryHandler × JointTrajectory) :=
  [(⟨id, 0.05⟩, twoPoints id)]

/-- The action server runs while the topic callback sleeps after its first
point. -/
def duringSleep :
    Pool.History driverSig HandlerId × Pool driverSig ClientState PyException Unit HandlerId :=
  Pool.schedule driver
    ((List.replicate 7 HandlerId.topic ++ List.replicate 12 HandlerId.action ++
      List.replicate 5 HandlerId.topic).map fun id => (id, DriverOp.success))
    (clientPool 57 started fun id => deliveryJobs (twoDeliveries id))

/-- The lines of a trajectory need not be contiguous: here those of the action
server stand between the two of the topic. -/
theorem trajectories_interleave :
    ¬ ∀ (c : ℚ) (s : ClientState) (trajectory : HandlerId → JointTrajectory)
      (h : Pool.History driverSig HandlerId)
      (P' : Pool driverSig ClientState PyException Unit HandlerId),
      driver.Steps driver.anyChoice (startUp, .init) (.ret (), s) →
      Pool.Run driver driver.anyChoice
        (clientPool c s fun id => [.trajectory ⟨id, 0.05⟩ (trajectory id)]) h P' →
      ∀ id, linesOf id h <:+: h.flatMap fun e => writtenLine e.2.1 e.2.2 := by
  intro hall
  have hinfix := hall 57 started twoPoints duringSleep.1 duringSleep.2
    (smoothly_steps (fun _ _ => trivial) startUp .init) (Pool.schedule_run _) .topic
  revert hinfix
  decide +kernel

/-- The two threads of `duringSleep` and one more publisher of the topic. -/
def threeDeliveries : Option HandlerId → List (TrajectoryHandler × JointTrajectory)
  | some id => twoDeliveries id
  | none => [(⟨.topic, 0.05⟩, twoPoints .action)]

/-- The first two threads as in `duringSleep`, and then the third one. -/
def afterwards : Pool.History driverSig (Option HandlerId) ×
    Pool driverSig ClientState PyException Unit (Option HandlerId) :=
  Pool.schedule driver
    ((List.replicate 7 (some HandlerId.topic) ++ List.replicate 12 (some HandlerId.action) ++
      List.replicate 5 (some HandlerId.topic) ++ List.replicate 12 none).map
        fun id => (id, DriverOp.success))
    (clientPool 57 started fun id => deliveryJobs (threeDeliveries id))

/-- `trajectories_in_order` for this schedule: the lines of the third thread are in one
piece. -/
theorem trajectories_in_order_afterwards :
    (completeLines afterwards.2.shared.sends).length = 6 ∧
    ∃ t, Executions 57 threeDeliveries afterwards.1 t ∧
      (writtenLines t).map Prod.snd =
        afterwards.1.flatMap (fun e => writtenLine e.2.1 e.2.2) ∧
      (writtenLines t).filter (·.1 = (none, 0)) <:+: writtenLines t := by
  have hrun : Pool.Run driver driver.anyChoice
      (clientPool 57 started fun id => deliveryJobs (threeDeliveries id)) afterwards.1
      afterwards.2 := Pool.schedule_run _
  obtain ⟨-, -, ⟨t, ht⟩, hall⟩ := trajectories_in_order hrun
  refine ⟨by decide +kernel, t, ht, (hall t ht).1, (hall t ht).2.2 none 0 fun j l hj => ?_⟩
  refine ht.apart_threads ?_ 0 l
  cases j with
  | none => exact absurd rfl hj
  | some id =>
      cases id with
      | topic => decide +kernel
      | action => decide +kernel

end HakRobot.Driver
