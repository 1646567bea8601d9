import Mathlib.Data.Nat.Digits.Lemmas

/-!
# Strings of JavaScript

A string is the list of its UTF-16 code units, well formed or not. The functions
are `charCodeAt`, `toString(16)`, `parseInt(text, 16)` and `fromCharCode` as far as the
console uses them.

Results:

* `parseHex_hexText`: a number is read from its hexadecimal digits.
* `length_hexText_le`: a code unit that is read from digits has no more digits itself.
-/

namespace ChatmanEcosystem.Js

/-- A string of JavaScript. -/
abbrev Utf16 := List UInt16

/-- The code units of a text. -/
def utf16 (text : String) : Utf16 :=
  text.toList.flatMap fun c =>
    if c.toNat < 0x10000 then [UInt16.ofNat c.toNat]
    else [UInt16.ofNat (0xD800 + (c.toNat - 0x10000) / 0x400),
      UInt16.ofNat (0xDC00 + (c.toNat - 0x10000) % 0x400)]

/-! ## Numbers -/

/-- The double next to a natural number, ties to the even one; `none` is infinity. -/
def toDouble (n : ℕ) : Option ℕ :=
  if n < 2 ^ 53 then some n
  else
    let shift := n.log2 - 52
    let kept := n / 2 ^ shift
    let rest := n % 2 ^ shift
    let half := 2 ^ (shift - 1)
    let rounded := if half < rest ∨ rest = half ∧ kept % 2 = 1 then kept + 1 else kept
    if rounded * 2 ^ shift < 2 ^ 1024 then some (rounded * 2 ^ shift) else none

/-- The code unit of `String.fromCharCode(n)`: the double modulo 2¹⁶, and 0 for infinity. -/
def fromCharCode (n : ℕ) : UInt16 := UInt16.ofNat ((toDouble n).getD 0)

theorem fromCharCode_of_lt {n : ℕ} (h : n < 2 ^ 53) : fromCharCode n = UInt16.ofNat n := by
  rw [fromCharCode, toDouble, if_pos h, Option.getD_some]

theorem fromCharCode_toNat (unit : UInt16) : fromCharCode unit.toNat = unit := by
  have hunit := unit.toNat_lt
  rw [fromCharCode_of_lt (by omega), UInt16.ofNat_toNat]

/-! ## Hexadecimal digits -/

/-- `[0-9a-f]`. -/
def isHexDigit (unit : UInt16) : Bool :=
  (48 ≤ unit && unit ≤ 57) || (97 ≤ unit && unit ≤ 102)

/-- The digit of a number below 16. -/
def hexUnit (d : ℕ) : UInt16 := if d < 10 then UInt16.ofNat (48 + d) else UInt16.ofNat (87 + d)

/-- The number of a digit. -/
def hexUnitValue (unit : UInt16) : ℕ :=
  if unit ≤ 57 then unit.toNat - 48 else unit.toNat - 87

/-- `n.toString(16)`. -/
def hexText (n : ℕ) : Utf16 :=
  if n = 0 then [hexUnit 0] else ((Nat.digits 16 n).map hexUnit).reverse

/-- `parseInt(text, 16)` of a text of digits, before it is made a double. -/
def parseHex (text : Utf16) : ℕ := Nat.ofDigits 16 (text.reverse.map hexUnitValue)

theorem isHexDigit_hexUnit {d : ℕ} (h : d < 16) : isHexDigit (hexUnit d) = true := by
  revert d
  decide

theorem hexUnitValue_hexUnit {d : ℕ} (h : d < 16) : hexUnitValue (hexUnit d) = d := by
  revert d
  decide

theorem hexUnitValue_lt {unit : UInt16} (h : isHexDigit unit = true) : hexUnitValue unit < 16 := by
  unfold isHexDigit at h
  unfold hexUnitValue
  simp only [Bool.or_eq_true, Bool.and_eq_true, decide_eq_true_eq, UInt16.le_iff_toNat_le] at h ⊢
  simp only [UInt16.reduceToNat] at h ⊢
  split_ifs <;> omega

theorem isHexDigit_of_mem_hexText {n : ℕ} {unit : UInt16} (h : unit ∈ hexText n) :
    isHexDigit unit = true := by
  unfold hexText at h
  split_ifs at h with hn
  · rw [List.mem_singleton.mp h]
    exact isHexDigit_hexUnit (by decide)
  · obtain ⟨d, hd, rfl⟩ := List.mem_map.mp (List.mem_reverse.mp h)
    exact isHexDigit_hexUnit (Nat.digits_lt_base (by decide) hd)

theorem hexText_ne_nil (n : ℕ) : hexText n ≠ [] := by
  unfold hexText
  split_ifs with hn
  · simp
  · simpa [Nat.digits_eq_nil_iff_eq_zero] using hn

/-- A number is read from its hexadecimal digits. -/
theorem parseHex_hexText (n : ℕ) : parseHex (hexText n) = n := by
  unfold parseHex hexText
  split_ifs with hn
  · rw [hn]
    rfl
  · have hvalues : ((Nat.digits 16 n).map hexUnit).map hexUnitValue = Nat.digits 16 n := by
      rw [List.map_map]
      conv_rhs => rw [← List.map_id (Nat.digits 16 n)]
      refine List.map_congr_left fun d hd => ?_
      exact hexUnitValue_hexUnit (Nat.digits_lt_base (by decide) hd)
    rw [List.reverse_reverse, hvalues, Nat.ofDigits_digits]

theorem length_hexText {n k : ℕ} (hk : 0 < k) (h : n < 16 ^ k) : (hexText n).length ≤ k := by
  unfold hexText
  split_ifs with hn
  · exact hk
  · rw [List.length_reverse, List.length_map]
    exact (Nat.digits_length_le_iff (by decide) n).mpr h

/-- A code unit that is read from digits has no more digits itself. -/
theorem length_hexText_le {text : Utf16} (hne : text ≠ [])
    (hdigits : ∀ unit ∈ text, isHexDigit unit = true) :
    (hexText (fromCharCode (parseHex text)).toNat).length ≤ text.length := by
  have hunit := (fromCharCode (parseHex text)).toNat_lt
  have hpos : 0 < text.length := List.length_pos_of_ne_nil hne
  refine length_hexText hpos ?_
  by_cases hlong : 4 ≤ text.length
  · calc (fromCharCode (parseHex text)).toNat < 16 ^ 4 := hunit
      _ ≤ 16 ^ text.length := Nat.pow_le_pow_right (by decide) hlong
  · have hvalue : parseHex text < 16 ^ text.length := by
      have hbound := Nat.ofDigits_lt_base_pow_length (b := 16)
        (l := text.reverse.map hexUnitValue) (by decide) ?_
      · rwa [List.length_map, List.length_reverse] at hbound
      · intro d hd
        obtain ⟨unit, hmem, rfl⟩ := List.mem_map.mp hd
        exact hexUnitValue_lt (hdigits unit (List.mem_reverse.mp hmem))
    have hsmall : 16 ^ text.length ≤ 16 ^ 3 := Nat.pow_le_pow_right (by decide) (by omega)
    rw [fromCharCode_of_lt (by omega), UInt16.toNat_ofNat']
    exact (Nat.mod_le _ _).trans_lt hvalue

end ChatmanEcosystem.Js
