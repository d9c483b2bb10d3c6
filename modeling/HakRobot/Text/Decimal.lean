import Mathlib.Algebra.Order.Floor.Ring
import Mathlib.Data.Rat.Floor
import Mathlib.Tactic.Linarith
import Mathlib.Tactic.FieldSimp
import Mathlib.Tactic.Push

/-!
# Fixed-point decimals

Rational numbers printed with a fixed number of decimals, rounding ties to
even, and read back.

* `roundHalfEven_error` — rounding moves a number by at most one half;
* `parseFixed_formatFixed` — reading a printed number gives `fixedValue`, the
  rounded value with its sign;
* `fixedValue_error`, `fixedValue_lt` — that value is within half a unit of the
  last decimal, and numbers further apart than one unit keep their order.
-/

namespace HakRobot.Text

/-- The nearest integer, ties to even. -/
def roundHalfEven (q : ℚ) : ℤ :=
  if q - ⌊q⌋ < 1 / 2 then ⌊q⌋
  else if 1 / 2 < q - ⌊q⌋ then ⌊q⌋ + 1
  else if 2 ∣ ⌊q⌋ then ⌊q⌋
  else ⌊q⌋ + 1

theorem roundHalfEven_error (q : ℚ) : |(roundHalfEven q : ℚ) - q| ≤ 1 / 2 := by
  have hlo := Int.floor_le q
  have hhi := Int.lt_floor_add_one q
  unfold roundHalfEven
  split_ifs <;> push_cast <;> rw [abs_le] <;> constructor <;> linarith

theorem roundHalfEven_nonneg {q : ℚ} (hq : 0 ≤ q) : 0 ≤ roundHalfEven q := by
  have hfloor := Int.floor_nonneg.mpr hq
  unfold roundHalfEven
  split_ifs <;> omega

/-- The digits of `m`, with leading zeros up to `p` places. -/
def padDigits (p m : Nat) : List Char :=
  List.replicate (p - (Nat.toDigits 10 m).length) '0' ++ Nat.toDigits 10 m

/-- `q` in units of the last of `p` decimals, without its sign. -/
def fixedUnits (p : Nat) (q : ℚ) : Nat := (roundHalfEven (|q| * 10 ^ p)).toNat

/-- `q` with `p` decimals (for `0 < p`). The sign is that of `q`, so a negative
number that rounds to zero keeps it. -/
def formatFixed (p : Nat) (q : ℚ) : List Char :=
  (if q < 0 then ['-'] else []) ++ Nat.toDigits 10 (fixedUnits p q / 10 ^ p) ++
    '.' :: padDigits p (fixedUnits p q % 10 ^ p)

/-- The number that `formatFixed p q` shows. -/
def fixedValue (p : Nat) (q : ℚ) : ℚ :=
  if q < 0 then -(fixedUnits p q / 10 ^ p) else fixedUnits p q / 10 ^ p

/-- Digits, a point, digits. -/
def parseUnsigned (cs : List Char) : Option ℚ :=
  match cs.splitOn '.' with
  | [whole, decimals] =>
      if whole ≠ [] ∧ decimals ≠ [] ∧ (whole ++ decimals).all Char.isDigit then
        some (Nat.ofDigitChars 10 (whole ++ decimals) 0 / 10 ^ decimals.length)
      else none
  | _ => none

/-- An unsigned decimal, possibly after a minus sign. -/
def parseFixed : List Char → Option ℚ
  | '-' :: cs => (parseUnsigned cs).map Neg.neg
  | cs => parseUnsigned cs

/-! ## Digits -/

theorem isDigit_of_mem_toDigits {m : Nat} {c : Char} (hc : c ∈ Nat.toDigits 10 m) :
    c.isDigit = true :=
  Nat.isDigit_of_mem_toDigits (by decide) (by decide) hc

theorem isDigit_of_mem_padDigits {p m : Nat} {c : Char} (hc : c ∈ padDigits p m) :
    c.isDigit = true := by
  rcases List.mem_append.mp hc with hc | hc
  · rw [List.eq_of_mem_replicate hc]
    rfl
  · exact isDigit_of_mem_toDigits hc

theorem padDigits_length {p m : Nat} (hp : 0 < p) (hm : m < 10 ^ p) :
    (padDigits p m).length = p := by
  have hlen := (Nat.length_toDigits_le_iff (b := 10) (by decide) hp).mpr hm
  simp only [padDigits, List.length_append, List.length_replicate]
  omega

theorem ofDigitChars_padDigits (p m init : Nat) :
    Nat.ofDigitChars 10 (padDigits p m) init =
      10 ^ (padDigits p m).length * init + m := by
  rw [Nat.ofDigitChars_eq_ofDigitChars_zero, padDigits, Nat.ofDigitChars_append,
    Nat.ofDigitChars_replicate_zero, Nat.mul_zero, Nat.ofDigitChars_ten_toDigits]

/-- A printed number has digits, points and minus signs only. -/
theorem mem_formatFixed {p : Nat} {q : ℚ} {c : Char} (hc : c ∈ formatFixed p q) :
    c = '-' ∨ c = '.' ∨ c.isDigit = true := by
  simp only [formatFixed, List.mem_append, List.mem_cons] at hc
  rcases hc with (hc | hc) | hc | hc
  · split at hc
    · exact .inl (List.mem_singleton.mp hc)
    · simp at hc
  · exact .inr (.inr (isDigit_of_mem_toDigits hc))
  · exact .inr (.inl hc)
  · exact .inr (.inr (isDigit_of_mem_padDigits hc))

theorem not_mem_formatFixed {p : Nat} {q : ℚ} {c : Char} (hminus : c ≠ '-') (hpoint : c ≠ '.')
    (hdigit : c.isDigit = false) : c ∉ formatFixed p q := by
  intro hc
  rcases mem_formatFixed hc with h | h | h
  · exact hminus h
  · exact hpoint h
  · rw [hdigit] at h
    exact Bool.false_ne_true h

/-! ## Reading back -/

theorem parseUnsigned_units {p : Nat} (hp : 0 < p) (n : Nat) :
    parseUnsigned (Nat.toDigits 10 (n / 10 ^ p) ++ '.' :: padDigits p (n % 10 ^ p)) =
      some ((n : ℚ) / 10 ^ p) := by
  have hlen : (padDigits p (n % 10 ^ p)).length = p :=
    padDigits_length hp (Nat.mod_lt _ (by positivity))
  have hsplit : (Nat.toDigits 10 (n / 10 ^ p) ++ '.' :: padDigits p (n % 10 ^ p)).splitOn '.' =
      [Nat.toDigits 10 (n / 10 ^ p), padDigits p (n % 10 ^ p)] := by
    rw [List.splitOn_append_cons_self_of_not_mem, List.splitOn_eq_singleton]
    · exact fun h => absurd (isDigit_of_mem_padDigits h) (by decide)
    · exact fun h => absurd (isDigit_of_mem_toDigits h) (by decide)
  have hdigits : (Nat.toDigits 10 (n / 10 ^ p) ++ padDigits p (n % 10 ^ p)).all Char.isDigit := by
    rw [List.all_eq_true]
    intro c hc
    rcases List.mem_append.mp hc with hc | hc
    · exact isDigit_of_mem_toDigits hc
    · exact isDigit_of_mem_padDigits hc
  have hne : padDigits p (n % 10 ^ p) ≠ [] := by
    intro h
    rw [h] at hlen
    simp at hlen
    omega
  have hvalue : Nat.ofDigitChars 10
      (Nat.toDigits 10 (n / 10 ^ p) ++ padDigits p (n % 10 ^ p)) 0 = n := by
    rw [Nat.ofDigitChars_append, Nat.ofDigitChars_ten_toDigits, ofDigitChars_padDigits, hlen]
    exact Nat.div_add_mod n (10 ^ p)
  simp only [parseUnsigned, hsplit, hvalue, hlen, hdigits, hne, ne_eq, Nat.toDigits_ne_nil,
    not_false_eq_true, and_self, if_true]

/-- The first character of an unsigned number is no minus sign. -/
theorem toDigits_append_ne_minus (m : Nat) (cs rest : List Char) :
    Nat.toDigits 10 m ++ cs ≠ '-' :: rest := by
  intro h
  cases hd : Nat.toDigits 10 m with
  | nil => exact Nat.toDigits_ne_nil hd
  | cons c ds =>
      rw [hd, List.cons_append, List.cons.injEq] at h
      have hc : c.isDigit = true := isDigit_of_mem_toDigits (m := m) (by simp [hd])
      rw [h.1] at hc
      exact absurd hc (by decide)

/-- Reading a printed number gives its rounded value. -/
theorem parseFixed_formatFixed {p : Nat} (hp : 0 < p) (q : ℚ) :
    parseFixed (formatFixed p q) = some (fixedValue p q) := by
  by_cases hq : q < 0
  · simp [formatFixed, fixedValue, hq, parseFixed, parseUnsigned_units hp]
  · simp only [formatFixed, fixedValue, hq, if_false, List.nil_append]
    rw [parseFixed, parseUnsigned_units hp]
    exact fun rest => toDigits_append_ne_minus _ _ rest

/-! ## Error and order -/

theorem fixedUnits_error (p : Nat) (q : ℚ) :
    |(fixedUnits p q : ℚ) - |q| * 10 ^ p| ≤ 1 / 2 := by
  have hcast : (fixedUnits p q : ℚ) = roundHalfEven (|q| * 10 ^ p) := by
    have hnonneg := roundHalfEven_nonneg (q := |q| * 10 ^ p) (by positivity)
    rw [fixedUnits]
    exact_mod_cast Int.toNat_of_nonneg hnonneg
  rw [hcast]
  exact roundHalfEven_error _

/-- The shown value is within half a unit of the last decimal. -/
theorem fixedValue_error (p : Nat) (q : ℚ) :
    |fixedValue p q - q| ≤ 1 / 2 / 10 ^ p := by
  have hpos : (0 : ℚ) < 10 ^ p := by positivity
  have herr := abs_le.mp (fixedUnits_error p q)
  have hscale : |fixedValue p q - q| * 10 ^ p = |(fixedValue p q - q) * 10 ^ p| := by
    rw [abs_mul, abs_of_pos hpos]
  rw [le_div_iff₀ hpos, hscale, abs_le]
  by_cases hq : q < 0
  · have hscaled : (fixedValue p q - q) * 10 ^ p = -(fixedUnits p q - |q| * 10 ^ p) := by
      rw [abs_of_neg hq, fixedValue, if_pos hq]
      field_simp
      ring
    rw [hscaled]
    constructor <;> linarith
  · have hscaled : (fixedValue p q - q) * 10 ^ p = fixedUnits p q - |q| * 10 ^ p := by
      rw [abs_of_nonneg (not_lt.mp hq), fixedValue, if_neg hq]
      field_simp
    rw [hscaled]
    exact herr

/-- Numbers more than one unit of the last decimal apart keep their order. -/
theorem fixedValue_lt {p : Nat} {a b : ℚ} (h : 1 / 10 ^ p < a - b) :
    fixedValue p b < fixedValue p a := by
  have ha := (abs_le.mp (fixedValue_error p a)).1
  have hb := (abs_le.mp (fixedValue_error p b)).2
  have hunit : (1 : ℚ) / 2 / 10 ^ p + 1 / 2 / 10 ^ p = 1 / 10 ^ p := by ring
  linarith

example : formatFixed 4 (-3 / 200000) = "-0.0000".toList := by decide +kernel

example : formatFixed 4 (19999995 / 1000000) = "20.0000".toList := by decide +kernel

end HakRobot.Text
