import ChatmanEcosystem.Rust.Text
import Mathlib.Data.Rat.Floor

/-!
# What the console takes from JavaScript

Dates, the collation and the trimming of strings, and the text of numbers. A `Date`
is an instant in milliseconds since 1970; `NaN` is `none`. `Date.parse` reads whatever
format an implementation knows and `localeCompare` depends on the locale, so both are
parameters (`JsRuntime`). `gregorian` is an instance with the ISO format that
ECMAScript fixes.
-/

namespace ChatmanEcosystem.Js

/-- The built-ins that the console calls. -/
structure JsRuntime where
  /-- `Date.parse(text)`. -/
  dateParse : String → Option ℤ
  /-- `new Date(instant).toISOString()`. -/
  toISOString : ℤ → String
  /-- `a.localeCompare(b)`. -/
  localeCompare : String → String → ℤ

/-! ## The ISO format -/

/-- Days from 1970-01-01 to a date of the proleptic Gregorian calendar. -/
def daysFromCivil (year month day : ℤ) : ℤ :=
  let y := if month ≤ 2 then year - 1 else year
  let era := y / 400
  let yearOfEra := y - era * 400
  let shifted := if 2 < month then month - 3 else month + 9
  let dayOfYear := (153 * shifted + 2) / 5 + day - 1
  let dayOfEra := yearOfEra * 365 + yearOfEra / 4 - yearOfEra / 100 + dayOfYear
  era * 146097 + dayOfEra - 719468

/-- The date that is a number of days after 1970-01-01: year, month and day. -/
def civilFromDays (days : ℤ) : ℤ × ℤ × ℤ :=
  let z := days + 719468
  let era := z / 146097
  let dayOfEra := z - era * 146097
  let yearOfEra := (dayOfEra - dayOfEra / 1460 + dayOfEra / 36524 - dayOfEra / 146096) / 365
  let dayOfYear := dayOfEra - (365 * yearOfEra + yearOfEra / 4 - yearOfEra / 100)
  let shifted := (5 * dayOfYear + 2) / 153
  let month := if shifted < 10 then shifted + 3 else shifted - 9
  let year := yearOfEra + era * 400 + (if month ≤ 2 then 1 else 0)
  (year, month, dayOfYear - (153 * shifted + 2) / 5 + 1)

/-- The value of a text of decimal digits. -/
def digits? (text : List Char) : Option ℤ :=
  if text.all Char.isDigit then
    some (text.foldl (fun value c => value * 10 + ((c.toNat : ℤ) - 48)) 0)
  else none

/-- The last `width` decimal digits of a number. -/
def padded (width : ℕ) (value : ℤ) : String :=
  String.ofList ((List.range width).map fun i =>
    Char.ofNat (48 + (value.toNat / 10 ^ (width - 1 - i) % 10)))

/-- `Date.parse` of `YYYY-MM-DDTHH:MM:SS.sssZ`, the format that `toISOString` writes
for the years 0 to 9999. -/
def isoParse (text : String) : Option ℤ := do
  let chars := text.toList
  let field (start width : ℕ) := digits? ((chars.drop start).take width)
  guard (chars.length = 24 ∧ [chars[4]?, chars[7]?, chars[10]?, chars[13]?, chars[16]?,
    chars[19]?, chars[23]?] = [some '-', some '-', some 'T', some ':', some ':', some '.',
      some 'Z'])
  let year ← field 0 4
  let month ← field 5 2
  let day ← field 8 2
  let hour ← field 11 2
  let minute ← field 14 2
  let second ← field 17 2
  let milli ← field 20 3
  guard (1 ≤ month ∧ month ≤ 12 ∧ 1 ≤ day ∧ day ≤ 31 ∧ hour < 24 ∧ minute < 60 ∧ second < 60)
  return (((daysFromCivil year month day * 24 + hour) * 60 + minute) * 60 + second) * 1000 + milli

/-- `toISOString` of an instant of the years 0 to 9999. -/
def isoFormat (instant : ℤ) : String :=
  let seconds := instant / 1000
  let (year, month, day) := civilFromDays (seconds / 86400)
  padded 4 year ++ "-" ++ padded 2 month ++ "-" ++ padded 2 day ++ "T" ++
    padded 2 (seconds / 3600 % 24) ++ ":" ++ padded 2 (seconds / 60 % 60) ++ ":" ++
    padded 2 (seconds % 60) ++ "." ++ padded 3 (instant % 1000) ++ "Z"

theorem space_notMem_padded (width : ℕ) (value : ℤ) : ' ' ∉ (padded width value).toList := by
  have hdigit : ∀ d < 10, Char.ofNat (48 + d) ≠ ' ' := by decide
  rw [padded, String.toList_ofList]
  intro h
  obtain ⟨i, -, hi⟩ := List.mem_map.mp h
  exact hdigit _ (Nat.mod_lt _ (by decide)) hi

/-- There is no space in an ISO date. -/
theorem space_notMem_isoFormat (instant : ℤ) : ' ' ∉ (isoFormat instant).toList := by
  simp [isoFormat, space_notMem_padded]

/-- ISO dates, and the collation by code points. -/
def gregorian : JsRuntime where
  dateParse := isoParse
  toISOString := isoFormat
  localeCompare a b := if a < b then -1 else if b < a then 1 else 0

/-- `new Date(time)`: the instant in whole milliseconds, if it is in the range of dates. -/
def timeClip (time : ℚ) : Option ℤ :=
  if |time| ≤ 8640000000000000 then some (time.num.tdiv time.den) else none

/-- `value.toFixed(digits)`, for at least one digit: the nearest decimal, ties away from zero. -/
def toFixed (digits : ℕ) (value : ℚ) : String :=
  let scaled := (⌊|value| * 10 ^ digits + 1 / 2⌋).toNat
  (if value < 0 then "-" else "") ++ toString (scaled / 10 ^ digits) ++ "." ++
    padded digits (scaled % 10 ^ digits : ℕ)

/-! ## Strings -/

/-- The white space and the line terminators of ECMAScript. -/
def isWhiteSpace (c : Char) : Bool :=
  let n := c.toNat
  (9 ≤ n && n ≤ 13) || n = 0x20 || n = 0xA0 || n = 0x1680 || (0x2000 ≤ n && n ≤ 0x200A) ||
    n = 0x2028 || n = 0x2029 || n = 0x202F || n = 0x205F || n = 0x3000 || n = 0xFEFF

/-- `text.trim()`. -/
def trim (text : String) : String :=
  String.ofList (((text.toList.dropWhile isWhiteSpace).reverse.dropWhile isWhiteSpace).reverse)

/-- A text is what is trimmed, between white space. -/
theorem exists_trim (text : String) : ∃ before after,
    (∀ c ∈ before, isWhiteSpace c = true) ∧ (∀ c ∈ after, isWhiteSpace c = true) ∧
      text.toList = before ++ (trim text).toList ++ after := by
  refine ⟨text.toList.takeWhile isWhiteSpace,
    ((text.toList.dropWhile isWhiteSpace).reverse.takeWhile isWhiteSpace).reverse, ?_, ?_, ?_⟩
  · intro c hc
    exact List.all_eq_true.mp List.all_takeWhile c hc
  · intro c hc
    exact List.all_eq_true.mp List.all_takeWhile c (List.mem_reverse.mp hc)
  · rw [trim, String.toList_ofList, List.append_assoc, ← List.reverse_append,
      List.takeWhile_append_dropWhile, List.reverse_reverse, List.takeWhile_append_dropWhile]

/-- White space around a text that starts and ends with something else is trimmed. -/
theorem trim_eq {text : String} {before core after : List Char}
    (htext : text.toList = before ++ core ++ after)
    (hbefore : ∀ c ∈ before, isWhiteSpace c = true) (hafter : ∀ c ∈ after, isWhiteSpace c = true)
    (hfirst : ∃ c rest, core = c :: rest ∧ isWhiteSpace c = false)
    (hlast : ∃ rest c, core = rest ++ [c] ∧ isWhiteSpace c = false) :
    (trim text).toList = core := by
  have hleft : (before ++ core ++ after).dropWhile isWhiteSpace = core ++ after := by
    obtain ⟨c, rest, rfl, hc⟩ := hfirst
    rw [List.append_assoc, List.dropWhile_append_of_pos hbefore]
    simp [hc]
  have hright : (core ++ after).reverse.dropWhile isWhiteSpace = core.reverse := by
    obtain ⟨rest, c, rfl, hc⟩ := hlast
    rw [List.reverse_append, List.dropWhile_append_of_pos (by simpa using hafter)]
    simp [hc]
  rw [trim, String.toList_ofList, htext, hleft, hright, List.reverse_reverse]

/-- `text.slice(0, i)` and `text.slice(i + 1)` for `i = text.lastIndexOf(c)`, unless that is -1. -/
def splitLast (c : Char) (text : List Char) : Option (List Char × List Char) :=
  match text.reverse.dropWhile (· ≠ c) with
  | [] => none
  | _ :: before => some (before.reverse, (text.reverse.takeWhile (· ≠ c)).reverse)

variable {c : Char}

/-- The last occurrence is where nothing after it is one. -/
theorem splitLast_append (before : List Char) {rest : List Char} (h : c ∉ rest) :
    splitLast c (before ++ c :: rest) = some (before, rest) := by
  have hrest : ∀ d ∈ rest.reverse, decide (d ≠ c) = true := by
    intro d hd
    exact decide_eq_true fun hdc => h (hdc ▸ List.mem_reverse.mp hd)
  have hdrop : (before ++ c :: rest).reverse.dropWhile (· ≠ c) = c :: before.reverse := by
    rw [List.reverse_append, List.reverse_cons, List.append_assoc,
      List.dropWhile_append_of_pos hrest]
    simp
  have htake : (before ++ c :: rest).reverse.takeWhile (· ≠ c) = rest.reverse := by
    rw [List.reverse_append, List.reverse_cons, List.append_assoc,
      List.takeWhile_append_of_pos hrest]
    simp
  rw [splitLast, hdrop, htake]
  simp

/-! ## Numbers -/

theorem exists_digitChar (h : c.isDigit = true) : ∃ k < 10, c = Nat.digitChar k := by
  have hchar : ∀ k < 10, Char.ofNat (48 + k) = Nat.digitChar k := by decide
  simp only [Char.isDigit, Bool.and_eq_true, decide_eq_true_eq] at h
  have hlow : 48 ≤ c.toNat := h.1
  have hhigh : c.toNat ≤ 57 := h.2
  refine ⟨c.toNat - 48, by omega, ?_⟩
  rw [← hchar _ (by omega), Nat.add_sub_cancel' hlow, Char.ofNat_toNat]

/-- `String(value)` of an integer, below the magnitude at which exponents are written. -/
def numberToString (value : ℤ) : String := toString value

theorem mem_numberToString {value : ℤ} (h : c ∈ (numberToString value).toList) :
    c.isDigit = true ∨ c = '-' := by
  have hdigits : ∀ n : ℕ, c ∈ n.repr.toList → c.isDigit = true := by
    intro n hmem
    rw [Nat.toList_repr] at hmem
    exact Nat.isDigit_of_mem_toDigits (by decide) (by decide) hmem
  cases value with
  | ofNat n => exact .inl (hdigits n h)
  | negSucc n =>
    have hsign : (numberToString (.negSucc n)).toList = '-' :: (n + 1).repr.toList := by
      show ("-" ++ (n + 1).repr).toList = _
      rw [String.toList_append]
      rfl
    rw [hsign] at h
    rcases List.mem_cons.mp h with rfl | hmem
    · exact .inr rfl
    · exact .inl (hdigits _ hmem)

theorem isDigit_of_mem_repr {n : ℕ} (h : c ∈ n.repr.toList) : c.isDigit = true := by
  rw [Nat.toList_repr] at h
  exact Nat.isDigit_of_mem_toDigits (by decide) (by decide) h

theorem repr_inj {n m : ℕ} (h : n.repr = m.repr) : n = m := by
  have hdigits := congrArg String.toList h
  rw [Nat.toList_repr, Nat.toList_repr] at hdigits
  have hvalue := congrArg (Nat.ofDigitChars 10 · 0) hdigits
  simpa only [Nat.ofDigitChars_toDigits (by decide : 1 < 10) (by decide)] using hvalue

theorem numberToString_inj {a b : ℤ} (h : numberToString a = numberToString b) : a = b := by
  have hsign : ∀ n m : ℕ, n.repr ≠ "-" ++ (m + 1).repr := by
    intro n m heq
    have hmem : '-' ∈ n.repr.toList := by
      rw [heq, String.toList_append]
      exact List.mem_cons_self
    rw [Nat.toList_repr] at hmem
    exact absurd (Nat.isDigit_of_mem_toDigits (by decide) (by decide) hmem) (by decide)
  cases a with
  | ofNat n =>
    cases b with
    | ofNat m => exact congrArg Int.ofNat (repr_inj h)
    | negSucc m => exact absurd h (hsign n m)
  | negSucc n =>
    cases b with
    | ofNat m => exact absurd h.symm (hsign m n)
    | negSucc m =>
      have htail : (n + 1).repr = (m + 1).repr := (String.append_right_inj _).mp h
      exact congrArg Int.negSucc (Nat.succ.inj (repr_inj htail))

theorem numberToString_ne_empty (value : ℤ) : numberToString value ≠ "" := by
  have hdigits : ∀ n : ℕ, n.repr ≠ "" := by
    intro n h
    have hlist := congrArg String.toList h
    rw [Nat.toList_repr] at hlist
    exact Nat.toDigits_ne_nil hlist
  cases value with
  | ofNat n => exact hdigits n
  | negSucc n =>
    intro h
    have hlist := congrArg String.toList (show "-" ++ (n + 1).repr = "" from h)
    rw [String.toList_append] at hlist
    cases hlist

example : isoFormat 1798675200000 = "2026-12-31T00:00:00.000Z" := by decide +kernel

example : isoParse "2026-12-31T00:00:00.000Z" = some 1798675200000 := by decide +kernel

/-- A sum over digits in the integers is the sum in the naturals. -/
theorem foldl_digits {text : List Char} (h : ∀ c ∈ text, c.isDigit = true) (value : ℕ) :
    text.foldl (fun (value : ℤ) c => value * 10 + ((c.toNat : ℤ) - 48)) value =
      (Nat.ofDigitChars 10 text value : ℕ) := by
  induction text generalizing value with
  | nil => rfl
  | cons c rest ih =>
    obtain ⟨hc, hrest⟩ := List.forall_mem_cons.mp h
    have hge : 48 ≤ c.toNat := by
      simp only [Char.isDigit, Bool.and_eq_true, decide_eq_true_eq] at hc
      exact hc.1
    have hdigit : (value : ℤ) * 10 + ((c.toNat : ℤ) - 48) = (10 * value + (c.toNat - 48) : ℕ) := by
      omega
    rw [List.foldl_cons, Nat.ofDigitChars_cons, hdigit]
    exact ih hrest _

/-- A number is read from its digits. -/
theorem digits?_numberToString (n : ℕ) : digits? (numberToString n).toList = some (n : ℤ) := by
  have htext : (numberToString n).toList = Nat.toDigits 10 n := Nat.toList_repr
  have hdigits : ∀ c ∈ Nat.toDigits 10 n, c.isDigit = true :=
    fun _ hc => Nat.isDigit_of_mem_toDigits (by decide) (by decide) hc
  rw [htext, digits?, if_pos (List.all_eq_true.mpr hdigits)]
  have hvalue := foldl_digits hdigits 0
  rw [Nat.ofDigitChars_ten_toDigits] at hvalue
  exact congrArg some hvalue

end ChatmanEcosystem.Js
