import ChatmanEcosystem.Js.Utf16

/-!
# Keys of identifiers

Model of `encodeIdentifierKey` and `decodeIdentifierKey`
(`platform-console/app/lib/authz.ts`, lines 77–91): an identifier as a key of a
ConfigMap. A unit that is not allowed in a key is escaped as `-xHH-`, but the
units of such an escape are themselves allowed, and stay as they are.

Results:

* `length_encode_decode_le`: no key is shorter than the key of what it is read as.
* `decode_encode_iff`: an identifier is read back exactly when it has no text in it
  that reads like an escape.
-/

namespace ChatmanEcosystem.Console

open Js

/-! ## The two functions -/

/-- `-`. -/
def dash : UInt16 := 45

/-- `x`. -/
def ex : UInt16 := 120

/-- `[-._a-zA-Z0-9]`. -/
def isKeyUnit (unit : UInt16) : Bool :=
  unit == 45 || unit == 46 || unit == 95 || (97 ≤ unit && unit ≤ 122) ||
    (65 ≤ unit && unit ≤ 90) || (48 ≤ unit && unit ≤ 57)

/-- `-x${ch.charCodeAt(0).toString(16)}-`. -/
def escapeUnit (unit : UInt16) : Utf16 := dash :: ex :: (hexText unit.toNat ++ [dash])

/-- `encodeIdentifierKey` (lines 84–86). -/
def encodeIdentifierKey (identifier : Utf16) : Utf16 :=
  identifier.flatMap fun unit => if isKeyUnit unit then [unit] else escapeUnit unit

/-- The digits of the match of `/-x([0-9a-f]+)-/` at the start of a text, if there is one. -/
def matchEscape : Utf16 → Option Utf16
  | a :: b :: rest =>
    let digits := rest.takeWhile isHexDigit
    if a = dash ∧ b = ex ∧ digits ≠ [] ∧ (rest.dropWhile isHexDigit).head? = some dash then
      some digits
    else none
  | _ => none

/-- `key.replace(/-x([0-9a-f]+)-/g, …)`, after `skip` more units of a match. -/
def decodeFrom : ℕ → Utf16 → Utf16
  | _, [] => []
  | skip + 1, _ :: rest => decodeFrom skip rest
  | 0, unit :: rest =>
    match matchEscape (unit :: rest) with
    | some digits => fromCharCode (parseHex digits) :: decodeFrom (digits.length + 2) rest
    | none => unit :: decodeFrom 0 rest

/-- `decodeIdentifierKey` (lines 87–91). -/
def decodeIdentifierKey (key : Utf16) : Utf16 := decodeFrom 0 key

theorem matchEscape_cons_cons (a b : UInt16) (rest : Utf16) :
    matchEscape (a :: b :: rest) =
      if a = dash ∧ b = ex ∧ rest.takeWhile isHexDigit ≠ [] ∧
          (rest.dropWhile isHexDigit).head? = some dash then
        some (rest.takeWhile isHexDigit)
      else none := rfl

@[simp] theorem decodeFrom_nil (skip : ℕ) : decodeFrom skip [] = [] := by
  cases skip <;> rfl

theorem decodeFrom_zero_cons (unit : UInt16) (rest : Utf16) :
    decodeFrom 0 (unit :: rest) =
      match matchEscape (unit :: rest) with
      | some digits => fromCharCode (parseHex digits) :: decodeFrom (digits.length + 2) rest
      | none => unit :: decodeFrom 0 rest := rfl

@[simp] theorem decodeIdentifierKey_nil : decodeIdentifierKey [] = [] := rfl

/-! ## Texts that read like an escape -/

/-- The text starts with `-x`, digits and a unit that is `-` or is escaped. -/
def OpensEscape : Utf16 → Bool
  | a :: b :: rest =>
    a == dash && b == ex && rest.takeWhile isHexDigit != [] &&
      (rest.dropWhile isHexDigit).head?.any fun unit => unit == dash || !isKeyUnit unit
  | _ => false

/-- Nowhere in the identifier does a text start that reads like an escape in its key. -/
def Clean (identifier : Utf16) : Prop := ∀ text ∈ identifier.tails, OpensEscape text = false

instance : DecidablePred Clean := fun identifier => by
  unfold Clean
  infer_instance

/-! ## Encoding -/

@[simp] theorem encodeIdentifierKey_nil : encodeIdentifierKey [] = [] := rfl

theorem encodeIdentifierKey_cons (unit : UInt16) (rest : Utf16) :
    encodeIdentifierKey (unit :: rest) =
      (if isKeyUnit unit then [unit] else escapeUnit unit) ++ encodeIdentifierKey rest :=
  List.flatMap_cons

variable {unit : UInt16}

theorem encodeIdentifierKey_of_keyUnit (h : isKeyUnit unit = true) (rest : Utf16) :
    encodeIdentifierKey (unit :: rest) = unit :: encodeIdentifierKey rest := by
  rw [encodeIdentifierKey_cons, if_pos h]
  rfl

theorem encodeIdentifierKey_of_not_keyUnit (h : isKeyUnit unit = false) (rest : Utf16) :
    encodeIdentifierKey (unit :: rest) =
      dash :: ex :: (hexText unit.toNat ++ dash :: encodeIdentifierKey rest) := by
  rw [encodeIdentifierKey_cons, if_neg (by simp [h]), escapeUnit]
  simp

theorem isKeyUnit_of_isHexDigit (h : isHexDigit unit = true) :
    isKeyUnit unit = true := by
  unfold isHexDigit at h
  unfold isKeyUnit
  simp only [Bool.or_eq_true, Bool.and_eq_true, decide_eq_true_eq, UInt16.le_iff_toNat_le,
    UInt16.reduceToNat] at h ⊢
  omega

/-- A key has key units only. -/
theorem isKeyUnit_of_mem_encode {identifier : Utf16} (h : unit ∈ encodeIdentifierKey identifier) :
    isKeyUnit unit = true := by
  obtain ⟨source, -, hunit⟩ := List.mem_flatMap.mp h
  split_ifs at hunit with hkey
  · rw [List.mem_singleton.mp hunit]
    exact hkey
  · simp only [escapeUnit, List.mem_cons, List.mem_append, List.not_mem_nil, or_false] at hunit
    rcases hunit with rfl | rfl | hdigit | rfl
    · decide
    · decide
    · exact isKeyUnit_of_isHexDigit (isHexDigit_of_mem_hexText hdigit)
    · decide

theorem isHexDigit_of_not_keyUnit (h : isKeyUnit unit = false) :
    isHexDigit unit = false := by
  by_contra hdigit
  rw [isKeyUnit_of_isHexDigit (by simpa using hdigit)] at h
  cases h

/-- The digits at the start of a key are those of the identifier. -/
theorem takeWhile_encode (identifier : Utf16) :
    (encodeIdentifierKey identifier).takeWhile isHexDigit = identifier.takeWhile isHexDigit := by
  induction identifier with
  | nil => rfl
  | cons unit rest ih =>
    cases hkey : isKeyUnit unit with
    | true =>
      rw [encodeIdentifierKey_of_keyUnit hkey, List.takeWhile_cons, List.takeWhile_cons, ih]
    | false =>
      rw [encodeIdentifierKey_of_not_keyUnit hkey, List.takeWhile_cons_of_neg (by decide),
        List.takeWhile_cons_of_neg (by simp [isHexDigit_of_not_keyUnit hkey])]

/-- What comes after those digits is the unit of the identifier, or the start of its escape. -/
theorem head?_dropWhile_encode (identifier : Utf16) :
    ((encodeIdentifierKey identifier).dropWhile isHexDigit).head? =
      (identifier.dropWhile isHexDigit).head?.map fun unit =>
        if isKeyUnit unit then unit else dash := by
  induction identifier with
  | nil => rfl
  | cons unit rest ih =>
    cases hkey : isKeyUnit unit with
    | true =>
      rw [encodeIdentifierKey_of_keyUnit hkey, List.dropWhile_cons, List.dropWhile_cons]
      split_ifs with hdigit
      · exact ih
      · simp [hkey]
    | false =>
      rw [encodeIdentifierKey_of_not_keyUnit hkey, List.dropWhile_cons_of_neg (by decide),
        List.dropWhile_cons_of_neg (by simp [isHexDigit_of_not_keyUnit hkey])]
      simp [hkey]

/-! ## Decoding -/

theorem matchEscape_eq_some {text digits : Utf16} :
    matchEscape text = some digits ↔ digits ≠ [] ∧ (∀ unit ∈ digits, isHexDigit unit = true) ∧
      ∃ rest, text = dash :: ex :: (digits ++ dash :: rest) := by
  constructor
  · intro h
    match text, h with
    | a :: b :: rest, h =>
      rw [matchEscape_cons_cons] at h
      split_ifs at h with hmatch
      obtain ⟨rfl, rfl, hne, hdash⟩ := hmatch
      obtain rfl := Option.some.inj h
      obtain ⟨after, hafter⟩ := List.head?_eq_some_iff.mp hdash
      refine ⟨hne, fun unit hunit => List.all_eq_true.mp List.all_takeWhile unit hunit, after, ?_⟩
      rw [← hafter, List.takeWhile_append_dropWhile]
  · rintro ⟨hne, hdigits, rest, rfl⟩
    have htake : (digits ++ dash :: rest).takeWhile isHexDigit = digits := by
      rw [List.takeWhile_append_of_pos hdigits, List.takeWhile_cons_of_neg (by decide),
        List.append_nil]
    have hdrop : (digits ++ dash :: rest).dropWhile isHexDigit = dash :: rest := by
      rw [List.dropWhile_append_of_pos hdigits, List.dropWhile_cons_of_neg (by decide)]
    rw [matchEscape_cons_cons, htake, hdrop, if_pos ⟨rfl, rfl, hne, rfl⟩]

theorem decodeFrom_eq_drop (skip : ℕ) (text : Utf16) :
    decodeFrom skip text = decodeFrom 0 (text.drop skip) := by
  induction text generalizing skip with
  | nil => simp
  | cons unit rest ih =>
    cases skip with
    | zero => rfl
    | succ skip => exact ih skip

theorem decode_of_match {digits : Utf16} (hne : digits ≠ [])
    (hdigits : ∀ unit ∈ digits, isHexDigit unit = true) (rest : Utf16) :
    decodeIdentifierKey (dash :: ex :: (digits ++ dash :: rest)) =
      fromCharCode (parseHex digits) :: decodeIdentifierKey rest := by
  have hmatch := matchEscape_eq_some.mpr ⟨hne, hdigits, rest, rfl⟩
  rw [decodeIdentifierKey, decodeFrom_zero_cons, hmatch]
  show fromCharCode (parseHex digits) :: decodeFrom (digits.length + 2) _ = _
  rw [decodeFrom_eq_drop]
  simp [decodeIdentifierKey]

theorem decode_of_no_match {rest : Utf16} (h : matchEscape (unit :: rest) = none) :
    decodeIdentifierKey (unit :: rest) = unit :: decodeIdentifierKey rest := by
  rw [decodeIdentifierKey, decodeFrom_zero_cons, h]
  rfl

/-- No key is shorter than the key of what it is read as. -/
theorem length_encode_decode_le (key : Utf16) (h : ∀ unit ∈ key, isKeyUnit unit = true) :
    (encodeIdentifierKey (decodeIdentifierKey key)).length ≤ key.length := by
  induction hlength : key.length using Nat.strong_induction_on generalizing key with
  | _ n ih =>
    cases key with
    | nil => simp
    | cons unit rest =>
      cases hmatch : matchEscape (unit :: rest) with
      | none =>
        have hrest := ih rest.length (by simp [← hlength]) rest
          (fun u hu => h u (List.mem_cons_of_mem _ hu)) rfl
        rw [decode_of_no_match hmatch, encodeIdentifierKey_of_keyUnit (h unit List.mem_cons_self),
          List.length_cons, ← hlength, List.length_cons]
        omega
      | some digits =>
        obtain ⟨hne, hdigits, after, htext⟩ := matchEscape_eq_some.mp hmatch
        have hkeyLength : n = digits.length + after.length + 3 := by
          rw [← hlength, htext]
          simp
          omega
        have hafter := ih after.length (by omega) after
          (fun u hu => h u (by rw [htext]; simp [hu])) rfl
        -- the escape of a unit is no longer than the digits that it was read from
        have hunit := length_hexText_le hne hdigits
        rw [htext, decode_of_match hne hdigits, encodeIdentifierKey_cons, List.length_append]
        split_ifs
        · rw [List.length_singleton]
          omega
        · simp only [escapeUnit, List.length_cons, List.length_append, List.length_nil]
          omega

/-! ## Reading identifiers back -/

/-- A key unit starts an escape in the key exactly when the identifier reads like one there. -/
theorem matchEscape_encode (h : isKeyUnit unit = true) (rest : Utf16) :
    matchEscape (encodeIdentifierKey (unit :: rest)) ≠ none ↔
      OpensEscape (unit :: rest) = true := by
  rw [encodeIdentifierKey_of_keyUnit h]
  cases rest with
  | nil => simp [matchEscape, OpensEscape]
  | cons second rest =>
    cases hkey : isKeyUnit second with
    | true =>
      rw [encodeIdentifierKey_of_keyUnit hkey]
      simp only [matchEscape_cons_cons, OpensEscape, takeWhile_encode, head?_dropWhile_encode]
      cases (rest.dropWhile isHexDigit).head? with
      | none => simp
      | some next =>
        cases hnext : isKeyUnit next with
        | true => simp [hnext, and_assoc]
        | false => simp [hnext, and_assoc]
    | false =>
      rw [encodeIdentifierKey_of_not_keyUnit hkey]
      have hex : second ≠ ex := by
        rintro rfl
        cases hkey
      have hdash : dash ≠ ex := by decide
      simp [matchEscape_cons_cons, OpensEscape, hex, hdash]

theorem clean_cons {rest : Utf16} :
    Clean (unit :: rest) ↔ OpensEscape (unit :: rest) = false ∧ Clean rest := by
  simp [Clean]

/-- An identifier is read back from its key exactly when no text in it reads like an escape. -/
theorem decode_encode_iff (identifier : Utf16) :
    decodeIdentifierKey (encodeIdentifierKey identifier) = identifier ↔ Clean identifier := by
  induction identifier with
  | nil => simp [Clean, OpensEscape]
  | cons unit rest ih =>
    rw [clean_cons]
    cases hkey : isKeyUnit unit with
    | false =>
      have hopens : OpensEscape (unit :: rest) = false := by
        cases rest with
        | nil => rfl
        | cons second rest =>
          have hdash : unit ≠ dash := by
            rintro rfl
            cases hkey
          simp [OpensEscape, hdash]
      rw [encodeIdentifierKey_of_not_keyUnit hkey, decode_of_match (hexText_ne_nil _)
        (fun _ => isHexDigit_of_mem_hexText), parseHex_hexText, fromCharCode_toNat, List.cons.injEq,
        ih]
      simp [hopens]
    | true =>
      cases hopens : OpensEscape (unit :: rest) with
      | false =>
        have hmatch : matchEscape (unit :: encodeIdentifierKey rest) = none := by
          rw [← encodeIdentifierKey_of_keyUnit hkey]
          by_contra hne
          rw [(matchEscape_encode hkey rest).mp hne] at hopens
          cases hopens
        rw [encodeIdentifierKey_of_keyUnit hkey, decode_of_no_match hmatch, List.cons.injEq, ih]
        simp
      | true =>
        refine iff_of_false (fun hback => ?_) (by simp)
        obtain ⟨digits, hdigits⟩ :=
          Option.ne_none_iff_exists'.mp ((matchEscape_encode hkey rest).mpr hopens)
        obtain ⟨hne, hhex, after, htext⟩ := matchEscape_eq_some.mp hdigits
        have hunit : unit = dash := by
          rw [encodeIdentifierKey_of_keyUnit hkey] at htext
          exact (List.cons.inj htext).1
        have hafter : ∀ u ∈ after, isKeyUnit u = true := by
          intro u hu
          have hencode : u ∈ encodeIdentifierKey (unit :: rest) := by rw [htext]; simp [hu]
          exact isKeyUnit_of_mem_encode hencode
        -- the escape is read as a dash, whose key is shorter
        have hread := hback
        rw [htext, decode_of_match hne hhex, hunit] at hread
        have hcode : fromCharCode (parseHex digits) = dash := (List.cons.inj hread).1
        have hle := length_encode_decode_le after hafter
        have hlength := congrArg (fun text => (encodeIdentifierKey text).length) hback
        simp only [htext, decode_of_match hne hhex, hcode] at hlength
        rw [encodeIdentifierKey_of_keyUnit (by decide)] at hlength
        simp only [List.length_cons, List.length_append] at hlength
        omega

end ChatmanEcosystem.Console
