import Mathlib.Data.List.Basic

/-!
# Records and fields

A stream of records, each ended by a terminator, and records of fields with a
separator between them. Splitting gives the records back when no record holds
the terminator, whatever their number.
-/

namespace HakRobot.Text

variable {α β γ : Type}

/-- Each record followed by `sep`. -/
def terminated (sep : α) (records : List (List α)) : List α :=
  records.flatMap (· ++ [sep])

/-- The records of a stream, or nothing when the stream stops inside one. -/
def splitTerminated [DecidableEq α] (sep : α) (stream : List α) : Option (List (List α)) :=
  if (stream.splitOn sep).getLast? = some [] then some (stream.splitOn sep).dropLast else none

theorem terminated_cons (sep : α) (r : List α) (rs : List (List α)) :
    terminated sep (r :: rs) = r ++ sep :: terminated sep rs := by
  simp [terminated]

theorem splitOn_terminated [DecidableEq α] {sep : α} {records : List (List α)}
    (h : ∀ r ∈ records, sep ∉ r) :
    (terminated sep records).splitOn sep = records ++ [[]] := by
  induction records with
  | nil => rfl
  | cons r rs ih =>
      rw [terminated_cons, List.splitOn_append_cons_self_of_not_mem (h r List.mem_cons_self),
        ih fun r' hr' => h r' (List.mem_cons_of_mem _ hr'), List.cons_append]

/-- A terminated stream splits into its records. -/
theorem splitTerminated_terminated [DecidableEq α] {sep : α} {records : List (List α)}
    (h : ∀ r ∈ records, sep ∉ r) :
    splitTerminated sep (terminated sep records) = some records := by
  simp [splitTerminated, splitOn_terminated h]

/-- Reading what was written item by item, when each item is read back. -/
theorem mapM_map_of_forall {f : α → β} {g : β → Option γ} {v : α → γ} {xs : List α}
    (h : ∀ a ∈ xs, g (f a) = some (v a)) : (xs.map f).mapM g = some (xs.map v) := by
  induction xs with
  | nil => rfl
  | cons a as ih =>
      have htail := ih fun b hb => h b (List.mem_cons_of_mem _ hb)
      rw [List.map_cons, List.mapM_cons, h a List.mem_cons_self, htail]
      rfl

end HakRobot.Text
