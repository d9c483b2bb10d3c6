import HakRobot.Gripper.Slider
import Mathlib.Data.List.Destutter
import Mathlib.Data.List.Infix

/-!
# The debounce filter of the slider

What the callback of `GUI2Robot_90.py` writes, as a function of all positions it
computed: the positions with a majority among the last five, with equal
neighbours collapsed. The invariant ties both lists of the script to all earlier
samples.

* `debounce_refines` — after every callback, if no Modbus write failed, `l1` is
  the last five positions, `l2` has one element, and the writes are those of the
  specification, each followed by its trigger.

A write fails when the bus does, and also when the position is outside the range
that `write_long` accepts: both raise, at the same place.
-/

namespace HakRobot.Gripper

/-! ## Collapsing equal neighbours -/

/-- One more element survives exactly when it differs from the last. -/
theorem destutter'_concat {α : Type} [DecidableEq α] (a b : α) (l : List α) :
    (l ++ [b]).destutter' (· ≠ ·) a =
      l.destutter' (· ≠ ·) a ++ if l.getLastD a = b then [] else [b] := by
  induction l generalizing a with
  | nil =>
      by_cases hab : a = b
      · simp [hab]
      · simp [hab]
  | cons c l ih =>
      rw [List.cons_append, List.getLastD_cons]
      by_cases hac : a = c
      · rw [List.destutter'_cons_neg _ (not_not.mpr hac), List.destutter'_cons_neg _
          (not_not.mpr hac), hac, ih c]
      · rw [List.destutter'_cons_pos _ hac, List.destutter'_cons_pos _ hac, ih c,
          List.cons_append]

/-! ## The specification -/

/-- The positions that were a majority of the last five when they were computed. -/
def kept (ps : List ℤ) : List ℤ :=
  ps.inits.filterMap fun past => past.getLast?.filter fun p => (lastFive past).count p ≥ 3

/-- The positions to write: those kept, without the repetitions, where 1001 comes
before the first. -/
def debounced (ps : List ℤ) : List ℤ := ((1001 :: kept ps).destutter (· ≠ ·)).tail

/-- The two writes of a position. -/
def command (p : ℤ) : List ModbusWrite := [.position p true, .trigger true]

variable {ps : List ℤ} {p : ℤ}

theorem kept_concat (ps : List ℤ) (p : ℤ) :
    kept (ps ++ [p]) =
      kept ps ++ if (lastFive (ps ++ [p])).count p ≥ 3 then [p] else [] := by
  rw [kept, List.inits_append, List.filterMap_append, kept]
  congr 1
  show List.filterMap _ [ps ++ [p]] = _
  rw [List.filterMap_cons, List.getLast?_concat, Option.filter_some]
  by_cases hmajor : (lastFive (ps ++ [p])).count p ≥ 3
  · simp only [hmajor, decide_true, if_true, List.filterMap_nil]
  · simp only [hmajor, decide_false, if_false, List.filterMap_nil, Bool.false_eq_true]

/-- The position that was kept last. -/
def lastKept (ps : List ℤ) : ℤ := (kept ps).getLastD 1001

theorem debounced_concat_minor (hminor : ¬ (lastFive (ps ++ [p])).count p ≥ 3) :
    debounced (ps ++ [p]) = debounced ps := by
  rw [debounced, kept_concat, if_neg hminor, List.append_nil, debounced]

theorem debounced_concat_major (hmajor : (lastFive (ps ++ [p])).count p ≥ 3) :
    debounced (ps ++ [p]) = debounced ps ++ if lastKept ps = p then [] else [p] := by
  rw [debounced, kept_concat, if_pos hmajor, List.destutter_cons', destutter'_concat,
    List.tail_append_of_ne_nil (List.destutter'_ne_nil _ _)]
  rfl

theorem lastKept_concat (ps : List ℤ) (p : ℤ) :
    lastKept (ps ++ [p]) = if (lastFive (ps ++ [p])).count p ≥ 3 then p else lastKept ps := by
  rw [lastKept, kept_concat]
  split
  · exact List.getLastD_concat
  · rw [List.append_nil, lastKept]

/-! ## One callback -/

variable {fl : ℚ → Option ℚ} {s : SliderState} {a : JointState × Outcome}

/-- A callback that accepts a position and does not fail on the bus. -/
theorem step_accepted (hp : computePosition fl a.1 = .ok p)
    (hmajor : (shift s.l1 p).count p ≥ 3) (hok : ¬ ModbusFailed fl s a) :
    s.step fl a = ⟨shift s.l1 p, (s.l2 ++ [p]).tail,
      (if s.l2.getLast? = some p then [] else (command p).reverse) ++ s.log⟩ := by
  by_cases hold : s.l2.getLast? = some p
  · simp only [SliderState.step, callback_exec, hp, if_pos hmajor, if_pos hold, List.nil_append]
  · have hdone := commandOk_of_not_failed hp ⟨hmajor, hold⟩ hok
    obtain ⟨hpos, htrig⟩ := Bool.and_eq_true_iff.mp hdone
    have hlog : commandLog p a.2 = (command p).reverse := by
      rw [commandLog, if_pos hpos, htrig]
      rfl
    simp only [SliderState.step, callback_exec, hp, if_pos hmajor, if_neg hold, if_pos hdone, hlog]

/-- The script after the positions `ps`. -/
structure Debounces (ps : List ℤ) (s : SliderState) : Prop where
  l1_eq : s.l1 = lastFive ps
  l2_eq : s.l2 = [lastKept ps]
  log_eq : s.log.reverse = (debounced ps).flatMap command

theorem Debounces.init : Debounces [] .init := ⟨rfl, rfl, rfl⟩

/-- **Step.** A callback with one more position. -/
theorem Debounces.step (hs : Debounces ps s) (hp : computePosition fl a.1 = .ok p)
    (hok : ¬ ModbusFailed fl s a) : Debounces (ps ++ [p]) (s.step fl a) := by
  obtain ⟨hl1, hl2, hlog⟩ := hs
  have hwindow : shift s.l1 p = lastFive (ps ++ [p]) := by rw [hl1, shift_lastFive]
  by_cases hmajor : (lastFive (ps ++ [p])).count p ≥ 3
  · have hlast : s.l2.getLast? = some p ↔ lastKept ps = p := by simp [hl2]
    rw [step_accepted hp (hwindow ▸ hmajor) hok]
    refine ⟨hwindow, ?_, ?_⟩
    · rw [lastKept_concat, if_pos hmajor, hl2]
      rfl
    · show ((if s.l2.getLast? = some p then [] else (command p).reverse) ++ s.log).reverse = _
      rw [debounced_concat_major hmajor, List.flatMap_append, List.reverse_append, hlog]
      by_cases hold : lastKept ps = p
      · rw [if_pos (hlast.mpr hold), if_pos hold]
        rfl
      · rw [if_neg (hlast.not.mpr hold), if_neg hold, List.reverse_reverse]
        rfl
  · rw [step_minor hp (hwindow ▸ hmajor)]
    refine ⟨hwindow, ?_, ?_⟩
    · rw [lastKept_concat, if_neg hmajor]
      exact hl2
    · rw [debounced_concat_minor hmajor]
      exact hlog

/-! ## All callbacks -/

/-- No callback failed on the bus. -/
def BusSound (fl : ℚ → Option ℚ) : SliderState → List (JointState × Outcome) → Prop
  | _, [] => True
  | s, a :: samples => ¬ ModbusFailed fl s a ∧ BusSound fl (s.step fl a) samples

/-- **Run.** -/
theorem Debounces.run {samples : List (JointState × Outcome)} (hs : Debounces ps s)
    (hbus : BusSound fl s samples) :
    Debounces (ps ++ computed fl samples) (samples.foldl (·.step fl ·) s) := by
  induction samples generalizing ps s with
  | nil => simpa [computed] using hs
  | cons a samples ih =>
      obtain ⟨hok, hrest⟩ := hbus
      rw [List.foldl_cons]
      cases hp : computePosition fl a.1 with
      | error e =>
          rw [step_error hp] at hrest ⊢
          simpa [computed, hp, Except.toOption] using ih hs hrest
      | ok p =>
          simpa [computed, hp, Except.toOption] using ih (hs.step hp hok) hrest

/-- **The filter refines its specification.** After every sequence of callbacks in
which no Modbus write failed, by the bus or for its range, `l1` holds the last five
computed positions, `l2` one element, and what was written are the debounced positions
in their order, each followed by its trigger. -/
theorem debounce_refines {fl : ℚ → Option ℚ} {samples : List (JointState × Outcome)}
    (hbus : BusSound fl .init samples) :
    (after fl samples).l1 = lastFive (computed fl samples) ∧
    (after fl samples).l2.length = 1 ∧
    (after fl samples).log.reverse = (debounced (computed fl samples)).flatMap command := by
  obtain ⟨hl1, hl2, hlog⟩ := Debounces.init.run hbus
  exact ⟨hl1, congrArg List.length hl2, hlog⟩

/-! ## A slider that bounces -/

/-- The slider at `x`, computed without rounding. -/
def slidAt (x : ℚ) : JointState × Outcome := (⟨[some 0, some 0, some x]⟩, ⟨true, true, true⟩)

/-- It settles at 0, bounces to 1 and comes back, and settles at 1. -/
def bouncing : List (JointState × Outcome) :=
  [0, 0, 0, 1, 0, 1, 0, 1, 1, 1].map slidAt

/-- `debounce_refines` for it: two positions are written. -/
theorem debounce_refines_bouncing :
    BusSound some .init bouncing ∧
      (after some bouncing).log.reverse = [9000, 0].flatMap command := by
  have hbus : BusSound some .init bouncing := by
    simp only [bouncing, List.map, BusSound, ModbusFailed]
    decide +kernel
  have hspec : debounced (computed some bouncing) = [9000, 0] := by
    decide +kernel
  exact ⟨hbus, hspec ▸ (debounce_refines hbus).2.2⟩

end HakRobot.Gripper
