import HakRobot.Text.Decimal
import HakRobot.Text.Framing

/-!
# The command line of the robot

`send_joint_positions` turns six joint angles into one line of text: degrees
with four decimals, a comma between them, a newline at the end. The robot reads
the lines back from one stream of characters.

`readStream_lines` is the round trip for any number of concatenated lines, and
`commandStream_roundTrip` states what it means for the angles: nothing is lost
or split, every field is within half a unit of the fourth decimal, and two
commands further apart than one unit keep their order.
-/

namespace HakRobot.Driver

open HakRobot.Text

/-- Decimals of one field (`f"{d:.4f}"`). -/
def precision : Nat := 4

/-- The line `send_joint_positions` builds from its argument, where `c` is the
factor of `math.degrees`. -/
def encodeLine (c : ℚ) (jointPositions : List ℚ) : List Char :=
  let degPositions := jointPositions.map (c * ·)
  [','].intercalate (degPositions.map (formatFixed precision)) ++ ['\n']

/-- One record of the documented format: comma-separated signed decimals. -/
def readRecord (record : List Char) : Option (List ℚ) :=
  (record.splitOn ',').mapM parseFixed

/-- The documented format: records that end at a newline. -/
def readStream (stream : List Char) : Option (List (List ℚ)) :=
  (splitTerminated '\n' stream).bind fun records => records.mapM readRecord

example : encodeLine 1 [-17.4268, -0.0286, 0, -17.3982, 0, 0] =
    "-17.4268,-0.0286,0.0000,-17.3982,0.0000,0.0000\n".toList := by decide +kernel

/-- The fields of a line, with the commas between them. -/
def lineBody (c : ℚ) (jointPositions : List ℚ) : List Char :=
  [','].intercalate ((jointPositions.map (c * ·)).map (formatFixed precision))

theorem encodeLine_eq (c : ℚ) (jointPositions : List ℚ) :
    encodeLine c jointPositions = lineBody c jointPositions ++ ['\n'] := rfl

/-- The body of a line holds no newline. -/
theorem newline_notMem_lineBody (c : ℚ) (jointPositions : List ℚ) :
    '\n' ∉ lineBody c jointPositions := by
  induction jointPositions with
  | nil => simp [lineBody]
  | cons q qs ih =>
      have hq : '\n' ∉ formatFixed precision (c * q) :=
        not_mem_formatFixed (by decide) (by decide) (by decide)
      cases qs with
      | nil => simpa [lineBody] using hq
      | cons q' qs =>
          have htail : '\n' ∉ [','].intercalate
              (((q' :: qs).map (c * ·)).map (formatFixed precision)) := ih
          simp only [lineBody, List.map_cons, List.intercalate_cons_cons, List.mem_append,
            List.mem_cons, List.not_mem_nil, or_false, not_or] at htail ⊢
          exact ⟨⟨hq, by decide⟩, htail⟩

/-- What one field shows of an angle. -/
def shownAngle (c q : ℚ) : List Char := formatFixed precision (c * q)

theorem splitOn_lineBody (c : ℚ) {jointPositions : List ℚ} (hne : jointPositions ≠ []) :
    (lineBody c jointPositions).splitOn ',' = jointPositions.map (shownAngle c) := by
  have hfields : (jointPositions.map (c * ·)).map (formatFixed precision) =
      jointPositions.map (shownAngle c) := List.map_map
  rw [lineBody, hfields]
  refine List.splitOn_intercalate ',' ?_ (by simpa using hne)
  intro field hfield
  obtain ⟨q, _, rfl⟩ := List.mem_map.mp hfield
  exact not_mem_formatFixed (by decide) (by decide) (by decide)

/-- Two lines are the same when their fields show the same. -/
theorem encodeLine_inj {c : ℚ} {xs ys : List ℚ} (hxs : xs ≠ []) (hys : ys ≠ []) :
    encodeLine c xs = encodeLine c ys ↔ xs.map (shownAngle c) = ys.map (shownAngle c) := by
  rw [encodeLine_eq, encodeLine_eq, List.append_left_inj]
  constructor
  · intro h
    rw [← splitOn_lineBody c hxs, h, splitOn_lineBody c hys]
  · intro h
    simp only [lineBody, List.map_map]
    exact congrArg _ h

/-- A non-empty record is read back as the shown values. -/
theorem readRecord_lineBody (c : ℚ) {jointPositions : List ℚ} (hne : jointPositions ≠ []) :
    readRecord (lineBody c jointPositions) =
      some (jointPositions.map fun q => fixedValue precision (c * q)) := by
  rw [readRecord, splitOn_lineBody c hne]
  exact mapM_map_of_forall fun q _ => parseFixed_formatFixed (by decide) (c * q)

/-- The stream of any number of lines is read back as the shown values. -/
theorem readStream_lines (c : ℚ) {commands : List (List ℚ)}
    (hne : ∀ cmd ∈ commands, cmd ≠ []) :
    readStream (commands.flatMap (encodeLine c)) =
      some (commands.map fun cmd => cmd.map fun q => fixedValue precision (c * q)) := by
  have hstream : commands.flatMap (encodeLine c) =
      terminated '\n' (commands.map (lineBody c)) := by
    rw [terminated, List.flatMap_map]
    rfl
  have hrecords : ∀ r ∈ commands.map (lineBody c), '\n' ∉ r := by
    intro r hr
    obtain ⟨cmd, _, rfl⟩ := List.mem_map.mp hr
    exact newline_notMem_lineBody c cmd
  rw [readStream, hstream, splitTerminated_terminated hrecords, Option.bind_some]
  exact mapM_map_of_forall fun cmd hcmd => readRecord_lineBody c (hne cmd hcmd)

/-- **Command stream round trip.** Concatenating the lines of any sequence of
six-angle commands and reading the stream back gives as many records, of six
fields each; every field is within `0.00005` of the commanded degrees, and two
commands more than `0.0001` degrees apart at a joint are read back in the same
strict order there. -/
theorem commandStream_roundTrip (c : ℚ) (commands : List (Fin 6 → ℚ)) :
    ∃ records : List (Fin 6 → ℚ),
      readStream (commands.flatMap fun cmd => encodeLine c (List.ofFn cmd)) =
        some (records.map List.ofFn) ∧
      records.length = commands.length ∧
      (∀ (i : Nat) (hr : i < records.length) (hc : i < commands.length) (j : Fin 6),
        |records[i] j - c * commands[i] j| ≤ 0.00005) ∧
      (∀ (i i' : Nat) (hr : i < records.length) (hc : i < commands.length)
        (hr' : i' < records.length) (hc' : i' < commands.length) (j : Fin 6),
        0.0001 < c * commands[i] j - c * commands[i'] j →
          records[i'] j < records[i] j) := by
  refine ⟨commands.map fun cmd j => fixedValue precision (c * cmd j), ?_, ?_, ?_, ?_⟩
  · have hne : ∀ cmd ∈ commands.map List.ofFn, cmd ≠ [] := by
      intro cmd hcmd
      obtain ⟨f, _, rfl⟩ := List.mem_map.mp hcmd
      simp [List.ofFn_succ]
    have hread := readStream_lines c hne
    rw [List.flatMap_map] at hread
    rw [hread, List.map_map, List.map_map]
    refine congrArg some (List.map_congr_left fun cmd _ => ?_)
    simp only [Function.comp_apply, List.map_ofFn]
    rfl
  · exact List.length_map _
  · intro i _ hc j
    have herr := fixedValue_error precision (c * commands[i] j)
    rw [List.getElem_map]
    exact herr.trans (by norm_num [precision])
  · intro i i' _ hc _ hc' j hgap
    rw [List.getElem_map, List.getElem_map]
    refine fixedValue_lt (lt_of_le_of_lt ?_ hgap)
    norm_num [precision]

end HakRobot.Driver
