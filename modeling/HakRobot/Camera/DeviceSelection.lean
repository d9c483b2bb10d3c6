import Mathlib.Data.List.Basic
import Mathlib.Data.UInt
import Mathlib.Tactic.Common

/-!
# Which camera is opened

With the parameter `camera_ip` the constructor of `Camera` prints the address of
every GigE device into `ip_str`, a buffer of 16 characters, and takes the first
device whose text is the parameter. Unlike the loop that lists the devices, this one
does not test for a null pointer.

* `dottedQuad_injective` — different addresses have different texts;
* `dottedQuad_length` — and a text fits into the buffer with its terminator;
* `selectDevice_ok_iff` — so it is the first device with the address that is taken,
  or device 0 when no device has it.
-/

namespace HakRobot.Camera

/-! ## Addresses as text -/

/-- The bytes `(nIp >> 24) & 0xFF`, `(nIp >> 16) & 0xFF`, `(nIp >> 8) & 0xFF` and
`nIp & 0xFF`. -/
def octets (nIp : UInt32) : List Nat :=
  [(nIp >>> 24 &&& 0xFF).toNat, (nIp >>> 16 &&& 0xFF).toNat, (nIp >>> 8 &&& 0xFF).toNat,
    (nIp &&& 0xFF).toNat]

/-- `sprintf(ip_str, "%d.%d.%d.%d", ...)`. -/
def dottedQuad (nIp : UInt32) : List Char :=
  ['.'].intercalate ((octets nIp).map (Nat.toDigits 10))

theorem octets_eq (nIp : UInt32) :
    octets nIp = [nIp.toNat / 2 ^ 24 % 256, nIp.toNat / 2 ^ 16 % 256, nIp.toNat / 2 ^ 8 % 256,
      nIp.toNat % 256] := by
  have hmask : ∀ n : Nat, n &&& 255 = n % 256 := fun n => Nat.and_two_pow_sub_one_eq_mod n 8
  simp [octets, Nat.shiftRight_eq_div_pow, hmask]

theorem octets_lt (nIp : UInt32) : ∀ n ∈ octets nIp, n < 256 := by
  intro n hn
  rw [octets_eq] at hn
  simp only [List.mem_cons, List.not_mem_nil, or_false] at hn
  omega

theorem octets_injective {a b : UInt32} (h : octets a = octets b) : a = b := by
  rw [octets_eq, octets_eq] at h
  simp only [List.cons.injEq, and_true] at h
  obtain ⟨h₁, h₂, h₃, h₄⟩ := h
  have ha := a.toNat_lt
  have hb := b.toNat_lt
  exact UInt32.toNat_inj.mp (by omega)

/-- The fields between the points are the digits of the bytes. -/
theorem splitOn_dottedQuad (nIp : UInt32) :
    (dottedQuad nIp).splitOn '.' = (octets nIp).map (Nat.toDigits 10) := by
  refine List.splitOn_intercalate '.' ?_ (by simp [octets])
  intro field hfield hpoint
  obtain ⟨n, -, rfl⟩ := List.mem_map.mp hfield
  have hdigit := Nat.isDigit_of_mem_toDigits (by decide) (by decide) hpoint
  revert hdigit
  decide

/-- Different addresses have different texts. -/
theorem dottedQuad_injective {a b : UInt32} (h : dottedQuad a = dottedQuad b) : a = b := by
  have hfields := congrArg (List.splitOn '.') h
  rw [splitOn_dottedQuad, splitOn_dottedQuad] at hfields
  have hread := congrArg (List.map fun field => Nat.ofDigitChars 10 field 0) hfields
  simp only [List.map_map] at hread
  have hvalue : (fun field => Nat.ofDigitChars 10 field 0) ∘ Nat.toDigits 10 = id :=
    funext fun n => Nat.ofDigitChars_ten_toDigits
  rw [hvalue, List.map_id, List.map_id] at hread
  exact octets_injective hread

/-- The text and its terminator fit into `char ip_str[16]`. -/
theorem dottedQuad_length (nIp : UInt32) : (dottedQuad nIp).length + 1 ≤ 16 := by
  have hdigits : ∀ n ∈ octets nIp, (Nat.toDigits 10 n).length ≤ 3 := by
    intro n hn
    have hlt := octets_lt nIp n hn
    exact (Nat.length_toDigits_le_iff (by decide) (by decide)).mpr (by omega)
  have h₁ := hdigits _ (List.mem_cons_self)
  have h₂ := hdigits (nIp >>> 16 &&& 0xFF).toNat (by simp [octets])
  have h₃ := hdigits (nIp >>> 8 &&& 0xFF).toNat (by simp [octets])
  have h₄ := hdigits (nIp &&& 0xFF).toNat (by simp [octets])
  simp only [dottedQuad, octets, List.map_cons, List.map_nil, List.intercalate_cons_cons,
    List.intercalate_singleton, List.length_append, List.length_singleton]
  omega

/-! ## The search -/

/-- `MV_GIGE_DEVICE`. -/
def MV_GIGE_DEVICE : UInt32 := 1

/-- What the constructor reads of a `MV_CC_DEVICE_INFO`. -/
structure DeviceInfo where
  nTLayerType : UInt32
  nCurrentIp : UInt32
deriving DecidableEq

/-- How the constructor ends before it has chosen a device. -/
inductive SelectError
  | exit
  | nullPointer
deriving DecidableEq

/-- The loop over `stDeviceList.pDeviceInfo`, from index `i` on; its entries can be
null. -/
def findDevice (camera_ip : List Char) : Nat → List (Option DeviceInfo) →
    Except SelectError (Option Nat)
  | _, [] => .ok none
  | _, none :: _ => .error .nullPointer
  | i, some d :: rest =>
      if d.nTLayerType = MV_GIGE_DEVICE then
        if camera_ip = dottedQuad d.nCurrentIp then .ok (some i)
        else findDevice camera_ip (i + 1) rest
      else findDevice camera_ip (i + 1) rest

/-- `nIndex`, from the parameter and the list of devices. -/
def selectDevice (camera_ip : List Char) (devices : List (Option DeviceInfo)) :
    Except SelectError Nat :=
  if devices.length > 0 then
    if camera_ip ≠ [] then
      (findDevice camera_ip 0 devices).map (·.getD 0)
    else .ok 0
  else .error .exit

/-- A GigE device with this address. -/
def DeviceInfo.At (nIp : UInt32) (d : DeviceInfo) : Prop :=
  d.nTLayerType = MV_GIGE_DEVICE ∧ d.nCurrentIp = nIp

/-- An entry that the loop passes: a device without this address. -/
def Passed (nIp : UInt32) (entry : Option DeviceInfo) : Prop := ∃ d, entry = some d ∧ ¬ d.At nIp

variable {nIp : UInt32} {devices rest : List (Option DeviceInfo)} {i k : Nat}

theorem findDevice_at {d : DeviceInfo} (hd : d.At nIp) :
    findDevice (dottedQuad nIp) i (some d :: rest) = .ok (some i) := by
  simp [findDevice, hd.1, hd.2]

theorem findDevice_passed {d : DeviceInfo} (hd : ¬ d.At nIp) :
    findDevice (dottedQuad nIp) i (some d :: rest) = findDevice (dottedQuad nIp) (i + 1) rest := by
  by_cases hlayer : d.nTLayerType = MV_GIGE_DEVICE
  · have hother : dottedQuad nIp ≠ dottedQuad d.nCurrentIp := fun h =>
      hd ⟨hlayer, (dottedQuad_injective h).symm⟩
    simp [findDevice, hlayer, hother]
  · simp [findDevice, hlayer]

/-- The loop finds the first device with the address. -/
theorem findDevice_some_iff :
    findDevice (dottedQuad nIp) i devices = .ok (some k) ↔
      ∃ before d after, devices = before ++ some d :: after ∧ k = i + before.length ∧
        d.At nIp ∧ ∀ entry ∈ before, Passed nIp entry := by
  induction devices generalizing i with
  | nil => simp [findDevice]
  | cons entry devices ih =>
      cases entry with
      | none =>
          refine ⟨fun h => (by cases h), ?_⟩
          rintro ⟨before, d, after, heq, -, -, hbefore⟩
          cases before with
          | nil => cases heq
          | cons entry before =>
              obtain ⟨rfl, -⟩ := List.cons.inj heq
              obtain ⟨d', hnone, -⟩ := hbefore none List.mem_cons_self
              cases hnone
      | some d =>
          by_cases hd : d.At nIp
          · rw [findDevice_at hd]
            constructor
            · intro h
              obtain rfl : i = k := Option.some.inj (Except.ok.inj h)
              exact ⟨[], d, devices, rfl, rfl, hd, fun _ he => absurd he List.not_mem_nil⟩
            · rintro ⟨before, d', after, heq, rfl, -, hbefore⟩
              cases before with
              | nil => rfl
              | cons entry before =>
                  -- the device itself would have been passed
                  obtain ⟨rfl, -⟩ := List.cons.inj heq
                  obtain ⟨d'', hsome, hnot⟩ := hbefore (some d) List.mem_cons_self
                  obtain rfl := Option.some.inj hsome
                  exact absurd hd hnot
          · rw [findDevice_passed hd, ih]
            constructor
            · rintro ⟨before, d', after, rfl, rfl, hd', hbefore⟩
              refine ⟨some d :: before, d', after, rfl, ?_, hd', ?_⟩
              · rw [List.length_cons]
                omega
              · exact List.forall_mem_cons.mpr ⟨⟨d, rfl, hd⟩, hbefore⟩
            · rintro ⟨before, d', after, heq, rfl, hd', hbefore⟩
              cases before with
              | nil =>
                  obtain ⟨hsome, -⟩ := List.cons.inj heq
                  obtain rfl := Option.some.inj hsome
                  exact absurd hd' hd
              | cons entry before =>
                  obtain ⟨-, rfl⟩ := List.cons.inj heq
                  refine ⟨before, d', after, rfl, ?_, hd', ?_⟩
                  · rw [List.length_cons]
                    omega
                  · exact fun e he => hbefore e (List.mem_cons_of_mem _ he)

/-- It ends without one when it passes every entry. -/
theorem findDevice_none_iff :
    findDevice (dottedQuad nIp) i devices = .ok none ↔ ∀ entry ∈ devices, Passed nIp entry := by
  induction devices generalizing i with
  | nil => simp [findDevice]
  | cons entry devices ih =>
      rw [List.forall_mem_cons]
      cases entry with
      | none => simp [findDevice, Passed]
      | some d =>
          by_cases hd : d.At nIp
          · rw [findDevice_at hd]
            refine ⟨fun h => (by cases h), ?_⟩
            rintro ⟨⟨d', hsome, hnot⟩, -⟩
            obtain rfl := Option.some.inj hsome
            exact absurd hd hnot
          · rw [findDevice_passed hd, ih]
            exact ⟨fun h => ⟨⟨d, rfl, hd⟩, h⟩, And.right⟩

theorem dottedQuad_ne_nil (nIp : UInt32) : dottedQuad nIp ≠ [] := by
  simp [dottedQuad, octets]

/-- **Device selection.** For every list of devices and every address: with the text of
the address as `camera_ip`, every text that is printed fits into `ip_str`, and device
`k` is taken exactly when it is the first GigE device with this address, or `k` is 0 and
no device has it; in both cases no null pointer comes before the search ends. -/
theorem selectDevice_ok_iff (nIp : UInt32) (devices : List (Option DeviceInfo)) (k : Nat) :
    (∀ d, some d ∈ devices → (dottedQuad d.nCurrentIp).length + 1 ≤ 16) ∧
    (selectDevice (dottedQuad nIp) devices = .ok k ↔
      (∃ before d after, devices = before ++ some d :: after ∧ k = before.length ∧
        d.At nIp ∧ ∀ entry ∈ before, Passed nIp entry) ∨
      (k = 0 ∧ devices ≠ [] ∧ ∀ entry ∈ devices, Passed nIp entry)) := by
  refine ⟨fun d _ => dottedQuad_length d.nCurrentIp, ?_⟩
  have hnone : findDevice (dottedQuad nIp) 0 devices = .ok none ↔
      ∀ entry ∈ devices, Passed nIp entry := findDevice_none_iff
  have hsome : findDevice (dottedQuad nIp) 0 devices = .ok (some k) ↔ _ := findDevice_some_iff
  simp only [Nat.zero_add] at hsome
  rw [← hsome, ← hnone]
  cases devices with
  | nil => simp [selectDevice, findDevice]
  | cons entry devices =>
      have hselect : selectDevice (dottedQuad nIp) (entry :: devices) =
          (findDevice (dottedQuad nIp) 0 (entry :: devices)).map (·.getD 0) := by
        simp [selectDevice, dottedQuad_ne_nil]
      rw [hselect]
      cases findDevice (dottedQuad nIp) 0 (entry :: devices) with
      | error e => simp [Except.map]
      | ok found =>
          cases found with
          | none => simp [Except.map, eq_comm]
          | some j => simp [Except.map]

end HakRobot.Camera
