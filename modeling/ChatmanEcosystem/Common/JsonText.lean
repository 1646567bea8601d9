import Mathlib.Data.String.Basic

/-!
# Texts of the JSON grammar

`decode` reads a text by the JSON grammar: white space between the tokens, the
literals, strings with all their escapes (two surrogates make one character, a
single one makes none), numbers, arrays and objects. A number is kept as its text
and an object as its members in the order of the text.

Programs write JSON in different ways. `print` writes a value without white space
and with any spelling of the characters that the grammar reads back (`Spells`).

Results:

* `decode_print`: what is written is read back, whatever the spelling.
-/

namespace ChatmanEcosystem.Common

/-- A value of the grammar. -/
inductive JsonValue
  | null
  | bool (value : Bool)
  | number (text : List Char)
  | string (text : String)
  | array (items : List JsonValue)
  | object (members : List (String × JsonValue))

namespace JsonValue

/-- The names of the members of an object. -/
def names : JsonValue → List String
  | object members => members.map Prod.fst
  | _ => []

/-- The first member of an object with a name. -/
def field (value : JsonValue) (name : String) : Option JsonValue :=
  match value with
  | object members => members.lookup name
  | _ => none

/-- The natural number that decimal digits denote. -/
def toNat? : JsonValue → Option ℕ
  | number text => if text.all Char.isDigit then some (Nat.ofDigitChars 10 text 0) else none
  | _ => none

theorem toNat?_toDigits (n : ℕ) : (number (Nat.toDigits 10 n)).toNat? = some n := by
  have hdigits : (Nat.toDigits 10 n).all Char.isDigit = true :=
    List.all_eq_true.mpr fun _ hc => Nat.isDigit_of_mem_toDigits (by decide) (by decide) hc
  show (if (Nat.toDigits 10 n).all Char.isDigit then
    some (Nat.ofDigitChars 10 (Nat.toDigits 10 n) 0) else none) = some n
  rw [if_pos hdigits, Nat.ofDigitChars_ten_toDigits]

end JsonValue

namespace JsonText

/-! ## Strings -/

/-- The value of a hexadecimal digit, in either case. -/
def hexValue (c : Char) : Option ℕ :=
  let n := c.toNat
  if 0x30 ≤ n ∧ n ≤ 0x39 then some (n - 0x30)
  else if 0x41 ≤ n ∧ n ≤ 0x46 then some (n - 0x37)
  else if 0x61 ≤ n ∧ n ≤ 0x66 then some (n - 0x57)
  else none

/-- The four digits of a UTF-16 unit. -/
def readUnit : List Char → Option (ℕ × List Char)
  | a :: b :: c :: d :: rest => do
    let a ← hexValue a
    let b ← hexValue b
    let c ← hexValue c
    let d ← hexValue d
    return (((a * 16 + b) * 16 + c) * 16 + d, rest)
  | _ => none

def isHighSurrogate (unit : ℕ) : Bool := 0xd800 ≤ unit && unit < 0xdc00

def isLowSurrogate (unit : ℕ) : Bool := 0xdc00 ≤ unit && unit < 0xe000

/-- What stands behind `\u`: a unit, or the first of two that make a character. -/
def readUnicode (text : List Char) : Option (Char × List Char) := do
  let (unit, rest) ← readUnit text
  if isHighSurrogate unit then
    match rest with
    | '\\' :: 'u' :: rest => do
      let (low, rest) ← readUnit rest
      if isLowSurrogate low then
        some (Char.ofNat (0x10000 + (unit - 0xd800) * 0x400 + (low - 0xdc00)), rest)
      else none
    | _ => none
  else if isLowSurrogate unit then none
  else some (Char.ofNat unit, rest)

/-- The escapes of one letter. -/
def shortEscape : Char → Option Char
  | '"' => some '"'
  | '\\' => some '\\'
  | '/' => some '/'
  | 'b' => some (Char.ofNat 0x08)
  | 'f' => some (Char.ofNat 0x0c)
  | 'n' => some '\n'
  | 'r' => some '\r'
  | 't' => some '\t'
  | _ => none

/-- Reads one character of a string. -/
def readChar : List Char → Option (Char × List Char)
  | '\\' :: 'u' :: rest => readUnicode rest
  | '\\' :: c :: rest => (shortEscape c).map fun read => (read, rest)
  | c :: rest => if c = '"' ∨ c = '\\' ∨ c.toNat < 0x20 then none else some (c, rest)
  | [] => none

/-- Reads the characters of a string up to its quotation mark, at most `fuel` of them. -/
def readChars : ℕ → List Char → Option (List Char × List Char)
  | 0, _ => none
  | _ + 1, '"' :: rest => some ([], rest)
  | fuel + 1, text => do
    let (c, rest) ← readChar text
    let (cs, rest) ← readChars fuel rest
    return (c :: cs, rest)

/-- Reads a string behind its first quotation mark. Every character takes one of the text. -/
def readString (text : List Char) : Option (String × List Char) :=
  (readChars text.length text).map fun (cs, rest) => (String.ofList cs, rest)

/-! ## Numbers -/

def isNumberChar (c : Char) : Bool :=
  c.isDigit || c == '-' || c == '+' || c == '.' || c == 'e' || c == 'E'

/-- `exp`: what may stand behind the digits of a number. -/
def isExponent : List Char → Bool
  | [] => true
  | 'e' :: '+' :: digits | 'e' :: '-' :: digits | 'E' :: '+' :: digits | 'E' :: '-' :: digits
  | 'e' :: digits | 'E' :: digits => digits != [] && digits.all Char.isDigit
  | _ => false

/-- `frac`: a point with digits, or nothing. -/
def isFraction : List Char → Bool
  | '.' :: c :: rest => c.isDigit && isExponent (rest.dropWhile Char.isDigit)
  | rest => isExponent rest

/-- `int`: a zero, or digits that do not start with one. -/
def isInteger : List Char → Bool
  | '0' :: rest => isFraction rest
  | c :: rest => c.isDigit && isFraction (rest.dropWhile Char.isDigit)
  | [] => false

/-- The texts of the production `number`. -/
def isNumber : List Char → Bool
  | '-' :: rest => isInteger rest
  | rest => isInteger rest

/-- Reads the longest run of characters that occur in numbers. -/
def readNumber (text : List Char) : Option (JsonValue × List Char) :=
  let word := text.takeWhile isNumberChar
  if isNumber word then some (.number word, text.dropWhile isNumberChar) else none

/-! ## Values -/

def isSpace (c : Char) : Bool := c == ' ' || c == '\t' || c == '\n' || c == '\r'

def skipSpace (text : List Char) : List Char := text.dropWhile isSpace

/-- Reads a value that contains no other. -/
def readScalar : List Char → Option (JsonValue × List Char)
  | 'n' :: 'u' :: 'l' :: 'l' :: rest => some (.null, rest)
  | 't' :: 'r' :: 'u' :: 'e' :: rest => some (.bool true, rest)
  | 'f' :: 'a' :: 'l' :: 's' :: 'e' :: rest => some (.bool false, rest)
  | '"' :: rest => (readString rest).map fun (s, rest) => (.string s, rest)
  | text => readNumber text

mutual

/-- Reads a value, white space before it included. -/
def readValue : ℕ → List Char → Option (JsonValue × List Char)
  | 0, _ => none
  | fuel + 1, text =>
    match skipSpace text with
    | '[' :: rest =>
      match skipSpace rest with
      | ']' :: rest => some (.array [], rest)
      | rest => (readItems fuel rest).map fun (items, rest) => (.array items, rest)
    | '{' :: rest =>
      match skipSpace rest with
      | '}' :: rest => some (.object [], rest)
      | rest => (readMembers fuel rest).map fun (members, rest) => (.object members, rest)
    | text => readScalar text

/-- Reads the items of an array up to its bracket. -/
def readItems : ℕ → List Char → Option (List JsonValue × List Char)
  | 0, _ => none
  | fuel + 1, text => do
    let (item, rest) ← readValue fuel text
    match skipSpace rest with
    | ',' :: rest => do
      let (items, rest) ← readItems fuel rest
      return (item :: items, rest)
    | ']' :: rest => return ([item], rest)
    | _ => none

/-- Reads the members of an object up to its brace. -/
def readMembers : ℕ → List Char → Option (List (String × JsonValue) × List Char)
  | 0, _ => none
  | fuel + 1, text =>
    match skipSpace text with
    | '"' :: rest => do
      let (key, rest) ← readString rest
      match skipSpace rest with
      | ':' :: rest => do
        let (value, rest) ← readValue fuel rest
        match skipSpace rest with
        | ',' :: rest => do
          let (members, rest) ← readMembers fuel rest
          return ((key, value) :: members, rest)
        | '}' :: rest => return ([(key, value)], rest)
        | _ => none
      | _ => none
    | _ => none

end

/-- Reads a whole text. Between two characters of it there are at most two calls. -/
def decode (text : List Char) : Option JsonValue := do
  let (value, rest) ← readValue (2 * text.length) text
  if skipSpace rest = [] then some value else none

/-! ## Writing -/

section Print

variable (spell : Char → List Char)

/-- A string between quotation marks. -/
def printString (s : String) : List Char := '"' :: s.toList.flatMap spell ++ ['"']

mutual

/-- The text of a value without white space. -/
def print : JsonValue → List Char
  | .null => ['n', 'u', 'l', 'l']
  | .bool true => ['t', 'r', 'u', 'e']
  | .bool false => ['f', 'a', 'l', 's', 'e']
  | .number text => text
  | .string s => printString spell s
  | .array items => '[' :: printItems items ++ [']']
  | .object members => '{' :: printMembers members ++ ['}']

def printItems : List JsonValue → List Char
  | [] => []
  | [item] => print item
  | item :: items => print item ++ ',' :: printItems items

def printMembers : List (String × JsonValue) → List Char
  | [] => []
  | [(key, value)] => printString spell key ++ ':' :: print value
  | (key, value) :: members =>
    printString spell key ++ ':' :: print value ++ ',' :: printMembers members

end

mutual

/-- The numbers of a value are numbers. -/
def Printable : JsonValue → Prop
  | .number text => isNumber text = true ∧ ∀ c ∈ text, isNumberChar c = true
  | .array items => PrintableItems items
  | .object members => PrintableMembers members
  | _ => True

def PrintableItems : List JsonValue → Prop
  | [] => True
  | item :: items => Printable item ∧ PrintableItems items

def PrintableMembers : List (String × JsonValue) → Prop
  | [] => True
  | (_, value) :: members => Printable value ∧ PrintableMembers members

end

mutual

/-- The calls that reading a value takes. -/
def size : JsonValue → ℕ
  | .null | .bool _ | .number _ | .string _ => 1
  | .array items => 1 + sizeItems items
  | .object members => 1 + sizeMembers members

def sizeItems : List JsonValue → ℕ
  | [] => 0
  | item :: items => 1 + size item + sizeItems items

def sizeMembers : List (String × JsonValue) → ℕ
  | [] => 0
  | (_, value) :: members => 1 + size value + sizeMembers members

end

end Print

/-! ## Reading what was written -/

/-- The grammar reads every character back from its spelling. -/
def Spells (spell : Char → List Char) : Prop :=
  ∀ c rest, readChar (spell c ++ rest) = some (c, rest)

/-- A character below `U+0100` may be spelled with the two digits of its code. -/
theorem readUnicode_byte {n : ℕ} (h : n < 0x100) {high low : Char}
    (hhigh : hexValue high = some (n / 16)) (hlow : hexValue low = some (n % 16))
    (rest : List Char) :
    readUnicode ('0' :: '0' :: high :: low :: rest) = some (Char.ofNat n, rest) := by
  have hzero : hexValue '0' = some 0 := by decide
  have hvalue : ((0 * 16 + 0) * 16 + n / 16) * 16 + n % 16 = n := by omega
  have hunit : readUnit ('0' :: '0' :: high :: low :: rest) = some (n, rest) := by
    simp only [readUnit, hzero, hhigh, hlow]
    show some (((0 * 16 + 0) * 16 + n / 16) * 16 + n % 16, rest) = some (n, rest)
    rw [hvalue]
  have hfirst : isHighSurrogate n = false := by
    simp only [isHighSurrogate, Bool.and_eq_false_iff, decide_eq_false_iff_not]
    omega
  have hsecond : isLowSurrogate n = false := by
    simp only [isLowSurrogate, Bool.and_eq_false_iff, decide_eq_false_iff_not]
    omega
  unfold readUnicode
  rw [hunit]
  simp [hfirst, hsecond]

section RoundTrip

variable {spell : Char → List Char}

variable {fuel : ℕ} {text rest : List Char} {c : Char}

theorem readChars_of_readChar (h : readChar text = some (c, rest)) :
    readChars (fuel + 1) text = (readChars fuel rest).map fun (cs, more) => (c :: cs, more) := by
  have hquote : ∀ more, text = '"' :: more → False := by
    intro more htext
    rw [htext] at h
    simp [readChar] at h
  rw [readChars.eq_3 _ _ hquote, h]
  show (readChars fuel rest >>= fun (cs, more) => pure (c :: cs, more)) = _
  cases readChars fuel rest <;> rfl

theorem readChars_flatMap (h : Spells spell) {cs : List Char} (hfuel : cs.length < fuel) :
    readChars fuel (cs.flatMap spell ++ '"' :: rest) = some (cs, rest) := by
  induction cs generalizing fuel with
  | nil =>
    obtain ⟨n, rfl⟩ := Nat.exists_eq_add_of_lt hfuel
    rfl
  | cons c cs ih =>
    obtain ⟨n, rfl⟩ := Nat.exists_eq_add_of_lt hfuel
    have hrest : readChars (cs.length + 1 + n) (cs.flatMap spell ++ '"' :: rest) =
        some (cs, rest) := ih (by omega)
    rw [List.flatMap_cons, List.append_assoc, List.length_cons,
      readChars_of_readChar (h c _), hrest]
    rfl

/-- No spelling is empty. -/
theorem Spells.length_le (h : Spells spell) (cs : List Char) :
    cs.length ≤ (cs.flatMap spell).length := by
  induction cs with
  | nil => simp
  | cons c cs ih =>
    have hne : spell c ≠ [] := by
      intro hempty
      have hread := h c []
      rw [hempty] at hread
      simp [readChar] at hread
    have hpos := List.length_pos_of_ne_nil hne
    rw [List.flatMap_cons, List.length_append, List.length_cons]
    omega

theorem readString_print (h : Spells spell) (s : String) (rest : List Char) :
    readString (s.toList.flatMap spell ++ '"' :: rest) = some (s, rest) := by
  have hlength := h.length_le s.toList
  have hread : readChars (s.toList.flatMap spell ++ '"' :: rest).length
      (s.toList.flatMap spell ++ '"' :: rest) = some (s.toList, rest) := by
    apply readChars_flatMap h
    rw [List.length_append, List.length_cons]
    omega
  unfold readString
  rw [hread]
  show some (String.ofList s.toList, rest) = some (s, rest)
  rw [String.ofList_toList]

/-- What may stand behind a number. -/
def Ends (rest : List Char) : Prop := ∀ c ∈ rest.head?, isNumberChar c = false

variable {word : List Char}

theorem readNumber_append (hnumber : isNumber word = true)
    (hword : ∀ c ∈ word, isNumberChar c = true) (hrest : Ends rest) :
    readNumber (word ++ rest) = some (.number word, rest) := by
  have hstop : rest.takeWhile isNumberChar = [] ∧ rest.dropWhile isNumberChar = rest := by
    cases rest with
    | nil => exact ⟨rfl, rfl⟩
    | cons c rest =>
      have hc : isNumberChar c = false := hrest c rfl
      simp [hc]
  have htake : (word ++ rest).takeWhile isNumberChar = word := by
    rw [List.takeWhile_append_of_pos hword, hstop.1, List.append_nil]
  have hdrop : (word ++ rest).dropWhile isNumberChar = rest := by
    rw [List.dropWhile_append_of_pos hword, hstop.2]
  unfold readNumber
  rw [htake, hdrop, if_pos hnumber]

/-! ### Values -/

/-- A text starts with a character of a token, and not with one that closes a list. -/
def Starts (text : List Char) : Prop :=
  ∃ c more, text = c :: more ∧ isSpace c = false ∧ c ≠ ']' ∧ c ≠ '}'

theorem Starts.append (h : Starts text) (rest : List Char) :
    Starts (text ++ rest) := by
  obtain ⟨c, more, rfl, hspace, hbracket, hbrace⟩ := h
  exact ⟨c, more ++ rest, rfl, hspace, hbracket, hbrace⟩

theorem Starts.skipSpace (h : Starts text) :
    JsonText.skipSpace text = text := by
  obtain ⟨c, more, rfl, hspace, -, -⟩ := h
  unfold JsonText.skipSpace
  rw [List.dropWhile_cons_of_neg]
  rw [hspace]
  decide

theorem isInteger_start (h : isInteger word = true) :
    ∃ c more, word = c :: more ∧ c.isDigit = true := by
  unfold isInteger at h
  split at h
  · exact ⟨'0', _, rfl, by decide⟩
  · rw [Bool.and_eq_true] at h
    exact ⟨_, _, rfl, h.1⟩
  · exact absurd h (by decide)

theorem isNumber_start (h : isNumber word = true) :
    ∃ c more, word = c :: more ∧ (c.isDigit = true ∨ c = '-') := by
  unfold isNumber at h
  split at h
  · exact ⟨'-', _, rfl, .inr rfl⟩
  · obtain ⟨c, more, hword, hdigit⟩ := isInteger_start h
    exact ⟨c, more, hword, .inl hdigit⟩

/-- The first character of a number starts nothing else. -/
theorem ne_of_number_start {d : Char} (h : c.isDigit = true ∨ c = '-') (hdigit : d.isDigit = false)
    (hminus : d ≠ '-') : c ≠ d := by
  intro hcd
  rw [hcd] at h
  rcases h with h | h
  · rw [hdigit] at h
    exact absurd h (by decide)
  · exact hminus h

theorem print_starts {value : JsonValue} (h : Printable value) : Starts (print spell value) := by
  cases value with
  | null => exact ⟨'n', _, rfl, by decide, by decide, by decide⟩
  | bool value =>
    cases value with
    | true => exact ⟨'t', _, rfl, by decide, by decide, by decide⟩
    | false => exact ⟨'f', _, rfl, by decide, by decide, by decide⟩
  | number text =>
    obtain ⟨c, more, htext, hc⟩ := isNumber_start h.1
    refine ⟨c, more, htext, ?_, ne_of_number_start hc (by decide) (by decide),
      ne_of_number_start hc (by decide) (by decide)⟩
    simp [isSpace, ne_of_number_start hc (d := ' ') (by decide) (by decide),
      ne_of_number_start hc (d := '\t') (by decide) (by decide),
      ne_of_number_start hc (d := '\n') (by decide) (by decide),
      ne_of_number_start hc (d := '\r') (by decide) (by decide)]
  | string s => exact ⟨'"', _, rfl, by decide, by decide, by decide⟩
  | array items => exact ⟨'[', _, rfl, by decide, by decide, by decide⟩
  | object members => exact ⟨'{', _, rfl, by decide, by decide, by decide⟩

theorem printItems_cons (item : JsonValue) (items : List JsonValue) :
    ∃ more, printItems spell (item :: items) = print spell item ++ more := by
  cases items with
  | nil => exact ⟨[], (List.append_nil _).symm⟩
  | cons next items => exact ⟨',' :: printItems spell (next :: items), rfl⟩

theorem printMembers_cons (key : String) (value : JsonValue)
    (members : List (String × JsonValue)) :
    ∃ more, printMembers spell ((key, value) :: members) = '"' :: more := by
  cases members with
  | nil => exact ⟨_, rfl⟩
  | cons next members => exact ⟨_, rfl⟩

/-! The four ways in which `readValue` goes on. -/

theorem readValue_array (h : Starts text) :
    readValue (fuel + 1) ('[' :: text) =
      (readItems fuel text).map fun (items, rest) => (.array items, rest) := by
  have hskip : skipSpace ('[' :: text) = '[' :: text := rfl
  obtain ⟨c, more, htext, -, hbracket, -⟩ := id h
  rw [readValue, hskip]
  simp only [h.skipSpace]
  rw [htext]
  split
  · rename_i hclose
    exact absurd (List.cons.inj hclose).1 hbracket
  · rfl

theorem readValue_object (h : Starts text) :
    readValue (fuel + 1) ('{' :: text) =
      (readMembers fuel text).map fun (members, rest) => (.object members, rest) := by
  have hskip : skipSpace ('{' :: text) = '{' :: text := rfl
  obtain ⟨c, more, htext, -, -, hbrace⟩ := id h
  rw [readValue, hskip]
  simp only [h.skipSpace]
  rw [htext]
  split
  · rename_i hclose
    exact absurd (List.cons.inj hclose).1 hbrace
  · rfl

theorem readValue_string (h : Spells spell) (s : String) (rest : List Char) :
    readValue (fuel + 1) (printString spell s ++ rest) = some (.string s, rest) := by
  have hread := readString_print h s rest
  have htext : printString spell s ++ rest = '"' :: (s.toList.flatMap spell ++ '"' :: rest) := by
    simp [printString]
  have hskip : ∀ text, skipSpace ('"' :: text) = '"' :: text := fun _ => rfl
  rw [htext, readValue, hskip]
  show (readString _).map _ = _
  rw [hread]
  rfl

theorem readValue_number (h : Printable (.number word)) (hrest : Ends rest) :
    readValue (fuel + 1) (word ++ rest) = some (.number word, rest) := by
  have hread := readNumber_append h.1 h.2 hrest
  have hstarts : Starts (print (fun c => [c]) (.number word)) := print_starts h
  have hskip : skipSpace (word ++ rest) = word ++ rest := (hstarts.append rest).skipSpace
  obtain ⟨c, more, hword, hc⟩ := isNumber_start h.1
  have hn : c ≠ 'n' := ne_of_number_start hc (by decide) (by decide)
  have ht : c ≠ 't' := ne_of_number_start hc (by decide) (by decide)
  have hf : c ≠ 'f' := ne_of_number_start hc (by decide) (by decide)
  have hquote : c ≠ '"' := ne_of_number_start hc (by decide) (by decide)
  have hbracket : c ≠ '[' := ne_of_number_start hc (by decide) (by decide)
  have hbrace : c ≠ '\x7b' := ne_of_number_start hc (by decide) (by decide)
  have hscalar : readScalar (c :: (more ++ rest)) = readNumber (c :: (more ++ rest)) := by
    unfold readScalar
    split <;> simp_all
  rw [hword, List.cons_append] at hskip hread ⊢
  rw [readValue, hskip]
  split
  · rename_i hopen
    exact absurd (List.cons.inj hopen).1 hbracket
  · rename_i hopen
    exact absurd (List.cons.inj hopen).1 hbrace
  · rw [hscalar, hread]

/-- An item is followed by the next one, or by the bracket. -/
theorem readItems_item {item : JsonValue} (hitem : readValue fuel text = some (item, rest)) :
    readItems (fuel + 1) text =
      match skipSpace rest with
      | ',' :: rest => (readItems fuel rest).map fun (items, rest) => (item :: items, rest)
      | ']' :: rest => some ([item], rest)
      | _ => none := by
  rw [readItems, hitem]
  show (match skipSpace rest with
    | ',' :: rest => do
      let (items, rest) ← readItems fuel rest
      return (item :: items, rest)
    | ']' :: rest => return ([item], rest)
    | _ => none) = _
  split
  · rename_i more _
    cases readItems fuel more <;> rfl
  · rfl
  · rfl

/-- A member is its key, a colon and its value, followed by the next one or by the brace. -/
theorem readMembers_member (hspell : Spells spell) {key : String} {value : JsonValue}
    (hvalue : readValue fuel text = some (value, rest)) :
    readMembers (fuel + 1) (printString spell key ++ ':' :: text) =
      match skipSpace rest with
      | ',' :: rest =>
        (readMembers fuel rest).map fun (members, rest) => ((key, value) :: members, rest)
      | '}' :: rest => some ([(key, value)], rest)
      | _ => none := by
  have hkey := readString_print hspell key (':' :: text)
  have htext : printString spell key ++ ':' :: text =
      '"' :: (key.toList.flatMap spell ++ '"' :: ':' :: text) := by
    simp [printString]
  have hskip : ∀ text, skipSpace ('"' :: text) = '"' :: text := fun _ => rfl
  rw [htext, readMembers, hskip]
  show (readString _ >>= _) = _
  rw [hkey]
  show (readValue fuel text >>= _) = _
  rw [hvalue]
  show (match skipSpace rest with
    | ',' :: rest => do
      let (members, rest) ← readMembers fuel rest
      return ((key, value) :: members, rest)
    | '}' :: rest => return ([(key, value)], rest)
    | _ => none) = _
  split
  · rename_i more _
    cases readMembers fuel more <;> rfl
  · rfl
  · rfl

theorem ends_of_cons (h : isNumberChar c = false) :
    Ends (c :: rest) := by
  intro d hd
  rw [← Option.mem_some.mp hd]
  exact h

mutual

/-- The induction follows the value; the fuel goes down with every call. -/
theorem readValue_print (hspell : Spells spell) : ∀ (value : JsonValue) (fuel : ℕ)
    (rest : List Char), Printable value → size value ≤ fuel → Ends rest →
      readValue fuel (print spell value ++ rest) = some (value, rest)
  | .null, fuel + 1, rest, _, _, _ => rfl
  | .bool true, fuel + 1, rest, _, _, _ => rfl
  | .bool false, fuel + 1, rest, _, _, _ => rfl
  | .number word, fuel + 1, rest, h, _, hrest => readValue_number h hrest
  | .string s, fuel + 1, rest, _, _, _ => readValue_string hspell s rest
  | .array [], fuel + 1, rest, _, _, _ => rfl
  | .array (item :: items), fuel + 1, rest, h, hfuel, _ => by
    obtain ⟨more, hmore⟩ : ∃ more, printItems spell (item :: items) = _ ++ more :=
      printItems_cons item items
    have hstarts : Starts (printItems spell (item :: items) ++ ']' :: rest) := by
      rw [hmore]
      exact ((print_starts h.1).append _).append _
    have hitems := readItems_print hspell (item :: items) fuel rest (by simp) h
      (by rw [size] at hfuel; omega)
    have htext : print spell (.array (item :: items)) ++ rest =
        '[' :: (printItems spell (item :: items) ++ ']' :: rest) := by
      simp [print]
    rw [htext, readValue_array hstarts, hitems]
    rfl
  | .object [], fuel + 1, rest, _, _, _ => rfl
  | .object ((key, value) :: members), fuel + 1, rest, h, hfuel, _ => by
    obtain ⟨more, hmore⟩ : ∃ more, printMembers spell ((key, value) :: members) = '"' :: more :=
      printMembers_cons key value members
    have hstarts : Starts (printMembers spell ((key, value) :: members) ++ '}' :: rest) := by
      rw [hmore]
      exact ⟨'"', _, rfl, by decide, by decide, by decide⟩
    have hmembers := readMembers_print hspell ((key, value) :: members) fuel rest (by simp) h
      (by rw [size] at hfuel; omega)
    have htext : print spell (.object ((key, value) :: members)) ++ rest =
        '{' :: (printMembers spell ((key, value) :: members) ++ '}' :: rest) := by
      simp [print]
    rw [htext, readValue_object hstarts, hmembers]
    rfl
  | value, 0, rest, _, hfuel, _ => by
    cases value <;> simp [size] at hfuel

theorem readItems_print (hspell : Spells spell) : ∀ (items : List JsonValue) (fuel : ℕ)
    (rest : List Char), items ≠ [] → PrintableItems items → sizeItems items ≤ fuel →
      readItems fuel (printItems spell items ++ ']' :: rest) = some (items, rest)
  | [item], fuel + 1, rest, _, h, hfuel => by
    have hitem := readValue_print hspell item fuel (']' :: rest) h.1
      (by rw [sizeItems] at hfuel; omega) (ends_of_cons (by decide))
    exact readItems_item hitem
  | item :: next :: items, fuel + 1, rest, _, h, hfuel => by
    have hitem := readValue_print hspell item fuel
      (',' :: (printItems spell (next :: items) ++ ']' :: rest)) h.1
      (by rw [sizeItems] at hfuel; omega) (ends_of_cons (by decide))
    have hitems := readItems_print hspell (next :: items) fuel rest (by simp) h.2
      (by rw [sizeItems] at hfuel; omega)
    have htext : printItems spell (item :: next :: items) ++ ']' :: rest =
        print spell item ++ ',' :: (printItems spell (next :: items) ++ ']' :: rest) := by
      simp [printItems]
    rw [htext, readItems_item hitem]
    show (readItems fuel (printItems spell (next :: items) ++ ']' :: rest)).map _ = _
    rw [hitems]
    rfl
  | item :: items, 0, rest, _, _, hfuel => by simp [sizeItems] at hfuel

theorem readMembers_print (hspell : Spells spell) : ∀ (members : List (String × JsonValue))
    (fuel : ℕ) (rest : List Char), members ≠ [] → PrintableMembers members →
      sizeMembers members ≤ fuel →
        readMembers fuel (printMembers spell members ++ '}' :: rest) = some (members, rest)
  | [(key, value)], fuel + 1, rest, _, h, hfuel => by
    have hvalue := readValue_print hspell value fuel ('}' :: rest) h.1
      (by rw [sizeMembers] at hfuel; omega) (ends_of_cons (by decide))
    have htext : printMembers spell [(key, value)] ++ '}' :: rest =
        printString spell key ++ ':' :: (print spell value ++ '}' :: rest) := by
      simp [printMembers]
    rw [htext]
    exact readMembers_member hspell hvalue
  | (key, value) :: next :: members, fuel + 1, rest, _, h, hfuel => by
    have hvalue := readValue_print hspell value fuel
      (',' :: (printMembers spell (next :: members) ++ '}' :: rest)) h.1
      (by rw [sizeMembers] at hfuel; omega) (ends_of_cons (by decide))
    have hmembers := readMembers_print hspell (next :: members) fuel rest (by simp) h.2
      (by rw [sizeMembers] at hfuel; omega)
    have htext : printMembers spell ((key, value) :: next :: members) ++ '}' :: rest =
        printString spell key ++ ':' ::
          (print spell value ++ ',' :: (printMembers spell (next :: members) ++ '}' :: rest)) := by
      simp [printMembers]
    rw [htext, readMembers_member hspell hvalue]
    show (readMembers fuel (printMembers spell (next :: members) ++ '}' :: rest)).map _ = _
    rw [hmembers]
    rfl
  | (key, value) :: members, 0, rest, _, _, hfuel => by simp [sizeMembers] at hfuel

end

mutual

/-- A text is long enough to be read with its length as the measure. -/
theorem size_lt_print : ∀ value : JsonValue, Printable value →
    size value < 2 * (print spell value).length
  | .null, _ => by simp [size, print]
  | .bool true, _ => by simp [size, print]
  | .bool false, _ => by simp [size, print]
  | .number word, h => by
    obtain ⟨c, more, hword, -⟩ := isNumber_start h.1
    rw [size, print, hword, List.length_cons]
    omega
  | .string s, _ => by
    rw [size, print, printString, List.cons_append, List.length_cons]
    omega
  | .array items, h => by
    have hitems := sizeItems_le_print items h
    rw [size, print, List.cons_append, List.length_cons, List.length_append]
    omega
  | .object members, h => by
    have hmembers := sizeMembers_le_print members h
    rw [size, print, List.cons_append, List.length_cons, List.length_append]
    omega

theorem sizeItems_le_print : ∀ items : List JsonValue, PrintableItems items →
    sizeItems items ≤ 2 * (printItems spell items).length
  | [], _ => by simp [sizeItems]
  | [item], h => by
    have hitem := size_lt_print item h.1
    rw [sizeItems, sizeItems, printItems]
    omega
  | item :: next :: items, h => by
    have hitem := size_lt_print item h.1
    have hitems := sizeItems_le_print (next :: items) h.2
    have htext : printItems spell (item :: next :: items) =
        print spell item ++ ',' :: printItems spell (next :: items) := rfl
    rw [sizeItems, htext, List.length_append, List.length_cons]
    omega

theorem sizeMembers_le_print : ∀ members : List (String × JsonValue), PrintableMembers members →
    sizeMembers members ≤ 2 * (printMembers spell members).length
  | [], _ => by simp [sizeMembers]
  | [(key, value)], h => by
    have hvalue := size_lt_print value h.1
    rw [sizeMembers, sizeMembers, printMembers, List.length_append, List.length_cons]
    omega
  | (key, value) :: next :: members, h => by
    have hvalue := size_lt_print value h.1
    have hmembers := sizeMembers_le_print (next :: members) h.2
    have htext : printMembers spell ((key, value) :: next :: members) =
        printString spell key ++ ':' :: print spell value ++
          ',' :: printMembers spell (next :: members) := rfl
    rw [sizeMembers, htext, List.length_append, List.length_append, List.length_cons,
      List.length_cons]
    omega

end

theorem decode_print (hspell : Spells spell) {value : JsonValue} (h : Printable value) :
    decode (print spell value) = some value := by
  have hread := readValue_print hspell value (2 * (print spell value).length) [] h
    (size_lt_print value h).le (by simp [Ends])
  rw [List.append_nil] at hread
  unfold decode
  rw [hread]
  rfl

end RoundTrip

/-! ## Decimal numbers -/

/-- The decimal text of a positive number does not start with a zero. -/
theorem exists_toDigits_eq_cons {n : ℕ} (h : 0 < n) :
    ∃ c more, Nat.toDigits 10 n = c :: more ∧ c ≠ '0' := by
  induction n using Nat.strongRecOn with
  | ind n ih =>
    by_cases hsmall : n < 10
    · refine ⟨n.digitChar, [], Nat.toDigits_of_lt_base hsmall, ?_⟩
      rw [Ne, Nat.digitChar_eq_zero]
      omega
    · have hfront : 0 < n / 10 := by omega
      obtain ⟨c, more, htext, hc⟩ := ih (n / 10) (by omega) hfront
      have happend := Nat.toDigits_append_toDigits (by decide) hfront
        (Nat.mod_lt n (by decide : 10 > 0))
      rw [Nat.div_add_mod, htext] at happend
      exact ⟨c, _, happend.symm, hc⟩

theorem isInteger_toDigits (n : ℕ) : isInteger (Nat.toDigits 10 n) = true := by
  have hdigits : ∀ c ∈ Nat.toDigits 10 n, c.isDigit = true :=
    fun _ hc => Nat.isDigit_of_mem_toDigits (by decide) (by decide) hc
  rcases Nat.eq_zero_or_pos n with rfl | hpos
  · decide
  · obtain ⟨c, more, htext, hc⟩ := exists_toDigits_eq_cons hpos
    rw [htext] at hdigits ⊢
    have hmore : more.dropWhile Char.isDigit = [] := by
      have hall : (more ++ []).dropWhile Char.isDigit = [] :=
        List.dropWhile_append_of_pos fun d hd => hdigits d (List.mem_cons_of_mem c hd)
      rwa [List.append_nil] at hall
    rw [isInteger.eq_2 _ _ hc, hmore, hdigits c List.mem_cons_self]
    rfl

theorem printable_toDigits (n : ℕ) : Printable (.number (Nat.toDigits 10 n)) := by
  have hdigits : ∀ c ∈ Nat.toDigits 10 n, c.isDigit = true :=
    fun _ hc => Nat.isDigit_of_mem_toDigits (by decide) (by decide) hc
  refine ⟨?_, fun c hc => by simp [isNumberChar, hdigits c hc]⟩
  obtain ⟨c, more, htext, hc⟩ := isInteger_start (isInteger_toDigits n)
  have hinteger := isInteger_toDigits n
  rw [htext] at hinteger ⊢
  rw [isNumber.eq_2 _ fun rest hminus => ?_]
  · exact hinteger
  · rw [(List.cons.inj hminus).1] at hc
    exact absurd hc (by decide)

theorem printable_int (n : ℤ) : Printable (.number (toString n).toList) := by
  cases n with
  | ofNat n =>
    have htext : (toString (Int.ofNat n)).toList = Nat.toDigits 10 n := Nat.toList_repr
    rw [htext]
    exact printable_toDigits n
  | negSucc n =>
    have htext : (toString (Int.negSucc n)).toList = '-' :: Nat.toDigits 10 (n + 1) := by
      show ("-" ++ (n + 1).repr).toList = _
      rw [String.toList_append, Nat.toList_repr]
      rfl
    rw [htext]
    refine ⟨isInteger_toDigits (n + 1), fun c hc => ?_⟩
    rcases List.mem_cons.mp hc with rfl | hc
    · decide
    · exact (printable_toDigits (n + 1)).2 c hc

end JsonText

end ChatmanEcosystem.Common
