import Mathlib.Algebra.GroupWithZero.Nat
import Mathlib.Algebra.Order.Group.Int
import Mathlib.Data.String.Basic

/-!
# Rust strings

The `str` and `char` functions the crates call, on Lean strings. A Rust `char`
is a Unicode scalar value, as Lean's `Char` is, and both order strings by the
code points of their characters, so `BTreeMap<String, _>` is a
`Std.ExtTreeMap String _`.
-/

namespace ChatmanEcosystem.Rust

/-- `str::as_bytes`: the UTF-8 bytes. -/
def asBytes (s : String) : List UInt8 := s.toByteArray.data.toList

theorem asBytes_inj {s t : String} : asBytes s = asBytes t ↔ s = t := by
  refine ⟨fun h => ?_, fun h => h ▸ rfl⟩
  exact String.toByteArray_inj.mp (ByteArray.ext (Array.toList_inj.mp h))

/-- `str::starts_with`. -/
def startsWith (s p : String) : Bool := p.toList.isPrefixOf s.toList

@[simp] theorem startsWith_iff {s p : String} : startsWith s p = true ↔ p.toList <+: s.toList := by
  simp [startsWith]

/-- `char::is_whitespace`: the Unicode property `White_Space`. -/
def isWhitespace (c : Char) : Bool :=
  let n := c.toNat
  (0x09 ≤ n && n ≤ 0x0d) || n == 0x20 || n == 0x85 || n == 0xa0 || n == 0x1680 ||
    (0x2000 ≤ n && n ≤ 0x200a) || n == 0x2028 || n == 0x2029 || n == 0x202f || n == 0x205f ||
    n == 0x3000

/-- `value.trim().is_empty()`: nothing but white space. -/
def isBlank (s : String) : Bool := s.toList.all isWhitespace

theorem not_isBlank_append {s : String} (t : String) (h : isBlank s = false) :
    isBlank (s ++ t) = false := by
  rw [isBlank] at h ⊢
  rw [String.toList_append, List.all_append, h, Bool.false_and]

/-- `char::is_ascii_hexdigit`. -/
def isAsciiHexdigit (c : Char) : Bool :=
  let n := c.toNat
  (0x30 ≤ n && n ≤ 0x39) || (0x41 ≤ n && n ≤ 0x46) || (0x61 ≤ n && n ≤ 0x66)

/-- `str::len`: the number of UTF-8 bytes. -/
def utf8Len (cs : List Char) : ℕ := (cs.map Char.utf8Size).sum

theorem utf8Size_of_isAsciiHexdigit {c : Char} (h : isAsciiHexdigit c = true) : c.utf8Size = 1 := by
  have hlt : c.toNat < 128 := by
    unfold isAsciiHexdigit at h
    simp only [Bool.or_eq_true, Bool.and_eq_true, decide_eq_true_eq] at h
    omega
  have hval : c.val ≤ 127 := by
    rw [UInt32.le_iff_toNat_le]
    exact Nat.lt_succ_iff.mp hlt
  exact Char.utf8Size_eq_one_iff.mpr hval

theorem utf8Len_of_hexdigits {cs : List Char} (h : ∀ c ∈ cs, isAsciiHexdigit c = true) :
    utf8Len cs = cs.length := by
  induction cs with
  | nil => rfl
  | cons c cs ih =>
    have hc := utf8Size_of_isAsciiHexdigit (h c (by simp))
    have hcs := ih fun d hd => h d (by simp [hd])
    simp only [utf8Len, List.map_cons, List.sum_cons, List.length_cons] at hcs ⊢
    omega

/-- `str::strip_prefix`, with the rest as a list of characters. -/
def stripPrefix (s p : String) : Option (List Char) :=
  if p.toList.isPrefixOf s.toList then some (s.toList.drop p.toList.length) else none

theorem stripPrefix_append (p s : String) : stripPrefix (p ++ s) p = some s.toList := by
  simp [stripPrefix]

theorem stripPrefix_eq_some {s p : String} {rest : List Char} :
    stripPrefix s p = some rest ↔ s = p ++ String.ofList rest := by
  constructor
  · intro h
    unfold stripPrefix at h
    split_ifs at h with hprefix
    obtain ⟨suffix, hsuffix⟩ := List.isPrefixOf_iff_prefix.mp hprefix
    rw [← hsuffix, List.drop_left, Option.some.injEq] at h
    rw [← String.toList_inj, String.toList_append, String.toList_ofList, ← hsuffix, h]
  · rintro rfl
    rw [stripPrefix_append, String.toList_ofList]

/-! ## `i32` as a decimal text

`i32::to_string` and `str::parse::<i32>`, which reads what the other writes
(`parseI32_i32Text`).
-/

section

/-- `i32::to_string`. -/
def i32Text (value : Int32) : String :=
  if value.toInt < 0 then "-" ++ value.toInt.natAbs.repr else value.toInt.natAbs.repr

/-- The sign of a text, and what follows it. -/
def splitSign : List Char → Bool × List Char
  | '-' :: digits => (true, digits)
  | '+' :: digits => (false, digits)
  | digits => (false, digits)

/-- `str::parse::<i32>`. -/
def parseI32 (text : String) : Option Int32 :=
  let (negative, digits) := splitSign text.toList
  if digits = [] ∨ digits.all Char.isDigit = false then none
  else
    let size : ℤ := Nat.ofDigitChars 10 digits 0
    let value := if negative then -size else size
    if -2 ^ 31 ≤ value ∧ value < 2 ^ 31 then some (Int32.ofInt value) else none

theorem splitSign_digits {digits : List Char} (h : digits.all Char.isDigit = true) :
    splitSign digits = (false, digits) := by
  unfold splitSign
  split
  · exact absurd (List.all_eq_true.mp h '-' List.mem_cons_self) (by decide)
  · exact absurd (List.all_eq_true.mp h '+' List.mem_cons_self) (by decide)
  · rfl

/-- What is written is read back. -/
theorem parseI32_i32Text (value : Int32) : parseI32 (i32Text value) = some value := by
  have hdigits : (Nat.toDigits 10 value.toInt.natAbs).all Char.isDigit = true :=
    List.all_eq_true.mpr fun c hc => Nat.isDigit_of_mem_toDigits (by decide) (by decide) hc
  have hbounds : -2147483648 ≤ value.toInt ∧ value.toInt < 2147483648 :=
    ⟨value.le_toInt, value.toInt_lt⟩
  unfold parseI32 i32Text
  by_cases hneg : value.toInt < 0
  · have hsplit : splitSign ("-" ++ value.toInt.natAbs.repr).toList =
        (true, Nat.toDigits 10 value.toInt.natAbs) := by
      rw [String.toList_append, Nat.toList_repr]
      rfl
    have habs : -(value.toInt.natAbs : ℤ) = value.toInt := by omega
    rw [if_pos hneg, hsplit]
    generalize value.toInt.natAbs = n at hdigits habs
    simp [Nat.toDigits_ne_nil, hdigits, Nat.ofDigitChars_ten_toDigits, habs, hbounds]
  · have hsplit : splitSign value.toInt.natAbs.repr.toList =
        (false, Nat.toDigits 10 value.toInt.natAbs) := by
      rw [Nat.toList_repr]
      exact splitSign_digits hdigits
    have habs : (value.toInt.natAbs : ℤ) = value.toInt := by omega
    rw [if_neg hneg, hsplit]
    generalize value.toInt.natAbs = n at hdigits habs
    simp [Nat.toDigits_ne_nil, hdigits, Nat.ofDigitChars_ten_toDigits, habs, hbounds]

end

end ChatmanEcosystem.Rust
