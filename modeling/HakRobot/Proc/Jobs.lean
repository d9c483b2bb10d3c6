import HakRobot.Proc.Trace
import Mathlib.Data.List.Pairwise

/-!
# Threads that run jobs

A thread with a list of jobs runs them one after another. In a run of a pool of such
threads each event belongs to one job of one thread, and a history can be numbered so
that it says to which:

* `Run.jobHistory` — every history can be numbered;
* `JobHistory.trace` — the events with one number are a trace of that job;
* `JobHistory.contiguous` — a job that is apart from the jobs of all other threads, which
  means that one has ended before the other begins, has its events in one piece.
-/

namespace HakRobot.Proc

variable {σ : Sig} {S ε α β γ δ ι : Type}

/-! ## The events of a list of jobs -/

/-- A trace of a composition is one of the first part, or of both. -/
theorem Prog.trace_bind_cases {p : Prog σ ε α} {f : α → Prog σ ε β} {es : List (Event σ)}
    {q : Prog σ ε β} (h : (p.bind f).Trace es q) :
    (∃ q₁, p.Trace es q₁ ∧ q = q₁.bind f) ∨
    ∃ es₁ es₂ a, es = es₁ ++ es₂ ∧ p.Trace es₁ (.ret a) ∧ (f a).Trace es₂ q := by
  induction p generalizing es with
  | ret a => exact .inr ⟨[], es, a, rfl, .nil _, h⟩
  | raise e =>
      cases h
      exact .inl ⟨.raise e, .nil _, rfl⟩
  | op o k ih =>
      cases h with
      | nil => exact .inl ⟨.op o k, .nil _, rfl⟩
      | @cons _ _ r es' _ h =>
          rcases ih r h with ⟨q₁, hq₁, rfl⟩ | ⟨es₁, es₂, a, rfl, h₁, h₂⟩
          · exact .inl ⟨q₁, .cons hq₁, rfl⟩
          · exact .inr ⟨⟨o, r⟩ :: es₁, es₂, a, rfl, .cons h₁, h₂⟩

/-- The events of each of the jobs that have begun: all of them but the last have
returned. -/
inductive Segments (f : γ → Prog σ ε Unit) : List γ → List (List (Event σ)) → Prop
  | nil (xs : List γ) : Segments f xs []
  | last {x : γ} {xs : List γ} {es : List (Event σ)} {q : Prog σ ε Unit}
      (h : (f x).Trace es q) : Segments f (x :: xs) [es]
  | cons {x : γ} {xs : List γ} {es : List (Event σ)} {parts : List (List (Event σ))}
      (h : (f x).Trace es (.ret ())) (hrest : Segments f xs parts) :
      Segments f (x :: xs) (es :: parts)

variable {f : γ → Prog σ ε Unit}

theorem exists_segments {xs : List γ} {es : List (Event σ)} {q : Prog σ ε Unit}
    (h : (Prog.forEach f xs).Trace es q) : ∃ parts, Segments f xs parts ∧ parts.flatten = es := by
  induction xs generalizing es with
  | nil =>
      cases h
      exact ⟨[], .nil _, rfl⟩
  | cons x xs ih =>
      rcases Prog.trace_bind_cases h with ⟨q₁, hq₁, -⟩ | ⟨es₁, es₂, a, rfl, h₁, h₂⟩
      · exact ⟨[es], .last hq₁, by simp⟩
      · obtain ⟨parts, hparts, rfl⟩ := ih h₂
        exact ⟨es₁ :: parts, .cons h₁ hparts, rfl⟩

/-- The events of a job that has begun are a trace of it. -/
theorem Segments.trace {xs : List γ} {parts : List (List (Event σ))} (h : Segments f xs parts)
    {k : ℕ} {x : γ} (hx : xs[k]? = some x) : ∃ q, (f x).Trace (parts.getD k []) q := by
  induction h generalizing k with
  | nil xs => exact ⟨f x, .nil _⟩
  | @last x' xs es q h =>
      cases k with
      | zero =>
          obtain rfl : x' = x := Option.some.inj hx
          exact ⟨q, h⟩
      | succ k => exact ⟨f x, .nil _⟩
  | @cons x' xs es parts h _ ih =>
      cases k with
      | zero =>
          obtain rfl : x' = x := Option.some.inj hx
          exact ⟨_, h⟩
      | succ k => exact ih hx

/-- The parts, one after another, each element with the number of its part. -/
def numbered : ℕ → List (List δ) → List (ℕ × δ)
  | _, [] => []
  | n, es :: parts => es.map (n, ·) ++ numbered (n + 1) parts

theorem numbered_snd (n : ℕ) (parts : List (List δ)) :
    (numbered n parts).map Prod.snd = parts.flatten := by
  induction parts generalizing n with
  | nil => rfl
  | cons es parts ih => simp [numbered, ih, Function.comp_def]

theorem le_of_mem_numbered {n : ℕ} {parts : List (List δ)} {x : ℕ × δ}
    (h : x ∈ numbered n parts) : n ≤ x.1 := by
  induction parts generalizing n with
  | nil => cases h
  | cons es parts ih =>
      rcases List.mem_append.mp h with h | h
      · obtain ⟨e, -, rfl⟩ := List.mem_map.mp h
        exact Nat.le_refl n
      · have hnext := ih h
        omega

theorem numbered_sorted (n : ℕ) (parts : List (List δ)) :
    (numbered n parts).Pairwise fun x y => x.1 ≤ y.1 := by
  induction parts generalizing n with
  | nil => exact List.Pairwise.nil
  | cons es parts ih =>
      refine List.pairwise_append.mpr ⟨?_, ih (n + 1), ?_⟩
      · exact List.pairwise_map.mpr (List.pairwise_of_forall fun _ _ => Nat.le_refl n)
      · intro x hx y hy
        obtain ⟨e, -, rfl⟩ := List.mem_map.mp hx
        have hlater := le_of_mem_numbered hy
        show n ≤ y.1
        omega

theorem numbered_filter (n k : ℕ) (parts : List (List δ)) :
    ((numbered n parts).filter (·.1 = n + k)).map Prod.snd = parts.getD k [] := by
  induction parts generalizing n k with
  | nil => rfl
  | cons es parts ih =>
      cases k with
      | zero =>
          have hlater : (numbered (n + 1) parts).filter (·.1 = n) = [] := by
            refine List.filter_eq_nil_iff.mpr fun x hx => ?_
            have hle := le_of_mem_numbered hx
            simp only [decide_eq_true_eq]
            omega
          simp [numbered, List.filter_append, List.filter_map, Function.comp_def, hlater]
      | succ k =>
          have hnext := ih (n + 1) k
          rw [show n + 1 + k = n + (k + 1) by omega] at hnext
          simp [numbered, List.filter_append, List.filter_map, Function.comp_def, hnext]

/-! ## Numbered histories -/

/-- A history in which each event has the number of its job. -/
abbrev Tagged (σ : Sig) (ι : Type) := List ((ι × ℕ) × Event σ)

namespace Tagged

variable [DecidableEq ι] {t : Tagged σ ι} {a b : ι × ℕ}

/-- The events of thread `i`, numbered. -/
def of (i : ι) (t : Tagged σ ι) : List (ℕ × Event σ) :=
  t.filterMap fun x => if x.1.1 = i then some (x.1.2, x.2) else none

/-- The events of one job. -/
def eventsOf (a : ι × ℕ) (t : Tagged σ ι) : List (Event σ) := (t.filter (·.1 = a)).map Prod.snd

/-- One of the two jobs has ended before the other begins. -/
def Apart (t : Tagged σ ι) (a b : ι × ℕ) : Prop :=
  t.Pairwise (fun x y => ¬ (x.1 = b ∧ y.1 = a)) ∨ t.Pairwise (fun x y => ¬ (x.1 = a ∧ y.1 = b))

theorem eventsOf_of (i : ι) (k : ℕ) (t : Tagged σ ι) :
    t.eventsOf (i, k) = ((t.of i).filter (·.1 = k)).map Prod.snd := by
  induction t with
  | nil => rfl
  | cons x t ih =>
      obtain ⟨⟨j, l⟩, e⟩ := x
      unfold eventsOf of at ih ⊢
      by_cases hj : j = i
      · subst hj
        by_cases hl : l = k
        · subst hl
          simp [ih]
        · simp [hl, ih]
      · simp [hj, ih]

/-- A job that is apart from all others is in one piece. -/
theorem split_of_apart (h : ∀ b, b ≠ a → t.Apart a b) :
    ∃ pre mid post, t = pre ++ mid ++ post ∧ (∀ x ∈ pre, x.1 ≠ a) ∧ (∀ x ∈ mid, x.1 = a) ∧
      ∀ x ∈ post, x.1 ≠ a := by
  induction t with
  | nil => exact ⟨[], [], [], rfl, by simp, by simp, by simp⟩
  | cons x t ih =>
      have htail : ∀ b, b ≠ a → Apart t a b := fun b hb =>
        (h b hb).imp (fun hp => (List.pairwise_cons.mp hp).2) fun hp => (List.pairwise_cons.mp hp).2
      obtain ⟨pre, mid, post, rfl, hpre, hmid, hpost⟩ := ih htail
      by_cases hx : x.1 = a
      · cases pre with
        | nil =>
            refine ⟨[], x :: mid, post, rfl, by simp, ?_, hpost⟩
            exact List.forall_mem_cons.mpr ⟨hx, hmid⟩
        | cons y pre =>
            -- between two events of the job there is none of another
            have hnone : mid = [] := by
              refine List.eq_nil_iff_forall_not_mem.mpr fun z hz => ?_
              have hy : y.1 ≠ a := hpre y List.mem_cons_self
              rcases h y.1 hy with hp | hp
              · have hyz := (List.pairwise_cons.mp (List.pairwise_cons.mp hp).2).1 z (by simp [hz])
                exact hyz ⟨rfl, hmid z hz⟩
              · exact (List.pairwise_cons.mp hp).1 y (by simp) ⟨hx, rfl⟩
            subst hnone
            refine ⟨[], [x], y :: pre ++ post, by simp, by simp, by simp [hx], ?_⟩
            intro z hz
            rcases List.mem_append.mp hz with hz | hz
            · exact hpre z hz
            · exact hpost z hz
      · refine ⟨x :: pre, mid, post, rfl, ?_, hmid, hpost⟩
        exact List.forall_mem_cons.mpr ⟨hx, hpre⟩

end Tagged

/-- `t` numbers the events of `h` by the job of `jobs` that they belong to. -/
structure JobHistory [DecidableEq ι] (f : γ → Prog σ ε Unit) (jobs : ι → List γ)
    (h : Pool.History σ ι) (t : Tagged σ ι) : Prop where
  history : t.map (fun x => (x.1.1, x.2)) = h
  segments : ∀ i, ∃ parts, Segments f (jobs i) parts ∧ t.of i = numbered 0 parts

section Pool

variable [DecidableEq ι] {jobs : ι → List γ} {h : Pool.History σ ι} {t : Tagged σ ι}

/-- The events of a job are a trace of it. -/
theorem JobHistory.trace (ht : JobHistory f jobs h t) {i : ι} {k : ℕ} {x : γ}
    (hx : (jobs i)[k]? = some x) : ∃ q, (f x).Trace (t.eventsOf (i, k)) q := by
  obtain ⟨parts, hparts, hof⟩ := ht.segments i
  have hevents := numbered_filter 0 k parts
  rw [Nat.zero_add] at hevents
  rw [Tagged.eventsOf_of, hof, hevents]
  exact hparts.trace hx

/-- Jobs of two threads are apart when one of the threads did all of its part first. -/
theorem JobHistory.apart_threads (ht : JobHistory f jobs h t) {i j : ι}
    (horder : h.Pairwise fun x y => ¬ (x.1 = i ∧ y.1 = j)) (k l : ℕ) :
    t.Apart (i, k) (j, l) := by
  rw [← ht.history, List.pairwise_map] at horder
  refine .inr (horder.imp fun {x y} hxy hboth => hxy ?_)
  exact ⟨congrArg Prod.fst hboth.1, congrArg Prod.fst hboth.2⟩

/-- Two jobs of one thread are apart. -/
theorem JobHistory.apart_self (ht : JobHistory f jobs h t) (i : ι) {k l : ℕ} (hkl : l ≠ k) :
    t.Apart (i, k) (i, l) := by
  obtain ⟨parts, -, hof⟩ := ht.segments i
  have hsorted := numbered_sorted 0 parts
  rw [← hof, Tagged.of, List.pairwise_filterMap] at hsorted
  -- the numbers of a thread only grow
  have horder : ∀ m n : ℕ, m < n →
      t.Pairwise fun x y => ¬ (x.1 = (i, n) ∧ y.1 = (i, m)) := by
    intro m n hmn
    refine hsorted.imp fun {x y} hxy hboth => ?_
    have hle : n ≤ m := hxy (n, x.2) (by simp [hboth.1]) (m, y.2) (by simp [hboth.2])
    omega
  rcases Nat.lt_or_gt_of_ne hkl with hlt | hlt
  · exact .inr (horder l k hlt)
  · exact .inl (horder k l hlt)

/-- A job that is apart from the jobs of the other threads is in one piece. -/
theorem JobHistory.contiguous (ht : JobHistory f jobs h t) {i : ι} {k : ℕ}
    (happart : ∀ j l, j ≠ i → t.Apart (i, k) (j, l)) :
    ∃ pre mid post, t = pre ++ mid ++ post ∧ (∀ x ∈ pre, x.1 ≠ (i, k)) ∧
      (∀ x ∈ mid, x.1 = (i, k)) ∧ ∀ x ∈ post, x.1 ≠ (i, k) := by
  refine Tagged.split_of_apart ?_
  rintro ⟨j, l⟩ hne
  by_cases hj : j = i
  · subst hj
    exact ht.apart_self j fun hl => hne (by rw [hl])
  · exact happart j l hj

/-- A history can be numbered thread by thread. -/
theorem exists_tagged (h : Pool.History σ ι) (u : ι → List (ℕ × Event σ))
    (hu : ∀ i, (u i).map Prod.snd = h.of i) :
    ∃ t : Tagged σ ι, t.map (fun x => (x.1.1, x.2)) = h ∧ ∀ i, t.of i = u i := by
  induction h generalizing u with
  | nil => exact ⟨[], rfl, fun i => (List.map_eq_nil_iff.mp (hu i)).symm⟩
  | cons e h ih =>
      obtain ⟨i, e⟩ := e
      have hi := hu i
      rw [Pool.History.of_cons_self] at hi
      cases hfirst : u i with
      | nil =>
          rw [hfirst] at hi
          cases hi
      | cons x rest =>
          -- the first event takes the first number that its thread has left
          obtain ⟨k, e'⟩ := x
          rw [hfirst] at hi
          obtain ⟨rfl, hrest⟩ := List.cons.inj hi
          obtain ⟨t, rfl, hof⟩ := ih (Function.update u i rest) fun j => by
            by_cases hj : j = i
            · subst hj
              rw [Function.update_self]
              exact hrest
            · rw [Function.update_of_ne hj, hu j, Pool.History.of_cons_ne (Ne.symm hj)]
          refine ⟨((i, k), e') :: t, rfl, fun j => ?_⟩
          by_cases hj : j = i
          · subst hj
            have hself := hof j
            rw [Function.update_self] at hself
            rw [hfirst, ← hself]
            simp [Tagged.of]
          · have hother := hof j
            rw [Function.update_of_ne hj] at hother
            rw [← hother]
            simp [Tagged.of, Ne.symm hj]

/-- The history of a pool of such threads can be numbered. -/
theorem Pool.Run.jobHistory {M : Machine σ S} {R : M.Rely} {P P' : Pool σ S ε Unit ι}
    (hrun : Pool.Run M R P h P') (hjobs : ∀ i, P.thread i = Prog.forEach f (jobs i)) :
    ∃ t, JobHistory f jobs h t := by
  have hparts : ∀ i, ∃ parts, Segments f (jobs i) parts ∧ parts.flatten = h.of i := by
    intro i
    have htrace := hrun.trace i
    rw [hjobs i] at htrace
    exact exists_segments htrace
  choose parts hsegments hflatten using hparts
  obtain ⟨t, ht, hof⟩ := exists_tagged h (fun i => numbered 0 (parts i)) fun i => by
    rw [numbered_snd, hflatten i]
  exact ⟨t, ht, fun i => ⟨parts i, hsegments i, hof i⟩⟩

end Pool

end HakRobot.Proc
