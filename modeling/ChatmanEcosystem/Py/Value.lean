import Mathlib.Algebra.Order.Ring.Rat
import Mathlib.Data.List.Dedup
import Mathlib.Data.List.Sort
import Mathlib.Data.String.Basic

/-!
# Python values

What `json` and `tomllib` load, with the operations of the language that the scripts use on it,
and what the scripts raise. Printing, `json.dumps`, SHA-256, the ISO dates and the tables of
Unicode are parameters (`PyRuntime`).
-/

namespace ChatmanEcosystem.Py

/-- A floating-point number. The two zeros are one value. -/
inductive PyFloat
  | finite (value : ℚ)
  | infinite (negative : Bool)
  | nan
  deriving DecidableEq

/-- A loaded value; `null` is `None`. A dictionary is the list of its items in order of insertion,
a date or a time of TOML has its text. -/
inductive Value
  | null
  | bool (value : Bool)
  | int (value : ℤ)
  | float (value : PyFloat)
  | str (value : String)
  | list (items : List Value)
  | dict (items : List (String × Value))
  | date (text : String)

/-- A dictionary with the keys of a document. -/
abbrev Dict := List (String × Value)

/-- The exceptions of the language. -/
inductive PyError
  | typeError
  | attributeError
  | keyError
  | valueError
  | overflowError
  | recursionError
  | assertionError
  | osError
  deriving DecidableEq

/-- What is raised: a refusal of the program, or an exception of the language. -/
inductive Raised (ρ : Type)
  | refusal (reason : ρ)
  | error (kind : PyError)
  deriving DecidableEq

namespace Value

/-- `bool(value)`. -/
def truthy : Value → Bool
  | null => false
  | bool value => value
  | int value => value ≠ 0
  | float (.finite value) => value ≠ 0
  | float _ => true
  | str value => value ≠ ""
  | list items => !items.isEmpty
  | dict items => !items.isEmpty
  | date _ => true

/-- What may stand in a set. -/
def hashable : Value → Bool
  | list _ => false
  | dict _ => false
  | _ => true

/-- A string. -/
def text? : Value → Option String
  | str value => some value
  | _ => none

/-- The items of a list. -/
def items? : Value → Option (List Value)
  | list items => some items
  | _ => none

/-- A list of strings. -/
def texts? (value : Value) : Option (List String) := value.items?.bind fun items => items.mapM text?

/-- A dictionary. -/
def dict? : Value → Option Dict
  | dict items => some items
  | _ => none

/-- `value is flag`, for a boolean. -/
def isBool (flag : Bool) : Value → Bool
  | bool value => value = flag
  | _ => false

/-- The value of an `int`, a boolean among them. -/
def int? : Value → Option ℤ
  | bool value => some (if value then 1 else 0)
  | int value => some value
  | _ => none

/-- `value[key]`, for a string. -/
def item (key : String) : Value → Except PyError Value
  | dict items => (items.lookup key).elim (.error .keyError) .ok
  | _ => .error .typeError

/-- What JSON has, nested so deep at most. -/
def nested : ℕ → Value → Bool
  | _, date _ => false
  | 0, list _ => false
  | 0, dict _ => false
  | depth + 1, list items => items.all (nested depth)
  | depth + 1, dict items => items.all fun item => nested depth item.2
  | _, _ => true

/-- The numbers, a boolean among them. -/
def number? : Value → Option PyFloat
  | bool value => some (.finite (if value then 1 else 0))
  | int value => some (.finite value)
  | float value => some value
  | _ => none

/-- `==` of two numbers. -/
def numberEq (a b : PyFloat) : Bool := a ≠ .nan && a = b

mutual

/-- `a == b`. -/
def eq : Value → Value → Bool
  | null, null => true
  | str a, str b => a = b
  | list as, list bs => eqItems as bs
  | dict as, dict bs => as.length = bs.length && eqMembers as bs
  | date a, date b => a = b
  | a, b => match a.number?, b.number? with
    | some a, some b => numberEq a b
    | _, _ => false

def eqItems : List Value → List Value → Bool
  | [], [] => true
  | a :: as, b :: bs => eq a b && eqItems as bs
  | _, _ => false

def eqMembers : List (String × Value) → Dict → Bool
  | [], _ => true
  | (key, a) :: as, bs => (match bs.lookup key with
    | some b => eq a b
    | none => false) && eqMembers as bs

end

section

attribute [local simp] eq eqItems eqMembers number?

variable {value : Value} {text : String}

/-- A string equals that string only. -/
theorem eq_str : value.eq (.str text) = true ↔
    value = .str text := by
  cases value <;> simp

theorem str_eq :
    (str text).eq value = true ↔ value = str text := by
  cases value <;> simp [eq_comm]

/-- Equality of numbers is transitive. -/
theorem numberEq_trans {a b c : PyFloat} (hab : numberEq a b = true) (hbc : numberEq b c = true) :
    numberEq a c = true := by
  simp only [numberEq, Bool.and_eq_true, decide_eq_true_eq] at *
  exact ⟨hab.1, hab.2.trans hbc.2⟩

theorem eqItems_trans {as bs cs : List Value}
    (h : ∀ a ∈ as, ∀ b c : Value, a.eq b = true → b.eq c = true → a.eq c = true)
    (hab : eqItems as bs = true) (hbc : eqItems bs cs = true) : eqItems as cs = true := by
  induction as generalizing bs cs with
  | nil =>
    cases bs with
    | nil => exact hbc
    | cons b bs => exact absurd hab (by simp)
  | cons a as ih =>
    cases bs with
    | nil => exact absurd hab (by simp)
    | cons b bs =>
      cases cs with
      | nil => exact absurd hbc (by simp)
      | cons c cs =>
        simp only [eqItems, Bool.and_eq_true] at *
        exact ⟨h a List.mem_cons_self b c hab.1 hbc.1,
          ih (fun x hx => h x (List.mem_cons_of_mem _ hx)) hab.2 hbc.2⟩

theorem eqMembers_iff {as : List (String × Value)} {bs : Dict} :
    eqMembers as bs = true ↔
      ∀ item ∈ as, ∃ b, bs.lookup item.1 = some b ∧ item.2.eq b = true := by
  induction as with
  | nil => simp
  | cons item as ih =>
    obtain ⟨key, a⟩ := item
    rw [eqMembers, Bool.and_eq_true, ih, List.forall_mem_cons]
    refine and_congr_left fun _ => ?_
    cases bs.lookup key with
    | none => simp
    | some b => simp

theorem eqMembers_trans {as : List (String × Value)} {bs cs : Dict}
    (h : ∀ item ∈ as, ∀ b c : Value, item.2.eq b = true → b.eq c = true → item.2.eq c = true)
    (hab : eqMembers as bs = true) (hbc : eqMembers bs cs = true) : eqMembers as cs = true := by
  rw [eqMembers_iff] at *
  intro item hitem
  obtain ⟨b, hlookup, hb⟩ := hab item hitem
  obtain ⟨pre, post, hbs, -⟩ := List.lookup_eq_some_iff.mp hlookup
  obtain ⟨c, hc, hbc⟩ := hbc (item.1, b) (by simp [hbs])
  exact ⟨c, hc, h item hitem b c hb hbc⟩

theorem eq_null : null.eq value = true ↔ value = null := by
  cases value <;> simp

theorem eq_date :
    (date text).eq value = true ↔ value = date text := by
  cases value <;> simp [eq_comm]

theorem eq_list {as : List Value} :
    (list as).eq value = true ↔ ∃ bs, value = list bs ∧ eqItems as bs = true := by
  cases value <;> simp

theorem eq_dict {as : Dict} : (dict as).eq value = true ↔
    ∃ bs : Dict, value = dict bs ∧ as.length = bs.length ∧ eqMembers as bs = true := by
  cases value <;> simp

theorem eq_number {a b : Value} {x : PyFloat} (ha : a.number? = some x) :
    a.eq b = true ↔ ∃ y, b.number? = some y ∧ numberEq x y = true := by
  cases a <;> simp only [number?, Option.some.injEq, reduceCtorEq] at ha <;>
    cases b <;> simp [ha]

end

theorem eq_trans_of_number {a b c : Value} {x : PyFloat} (ha : a.number? = some x)
    (hab : a.eq b = true) (hbc : b.eq c = true) : a.eq c = true := by
  obtain ⟨y, hy, hxy⟩ := (eq_number ha).mp hab
  obtain ⟨z, hz, hyz⟩ := (eq_number hy).mp hbc
  exact (eq_number ha).mpr ⟨z, hz, numberEq_trans hxy hyz⟩

/-- Equality is transitive. -/
theorem eq_trans {a b c : Value} (hab : a.eq b = true) (hbc : b.eq c = true) : a.eq c = true := by
  induction hn : sizeOf a using Nat.strongRecOn generalizing a b c with
  | ind n ih =>
    cases a with
    | null => rwa [eq_null.mp hab] at hbc
    | bool value => exact eq_trans_of_number rfl hab hbc
    | int value => exact eq_trans_of_number rfl hab hbc
    | float value => exact eq_trans_of_number rfl hab hbc
    | str text => rwa [str_eq.mp hab] at hbc
    | date text => rwa [eq_date.mp hab] at hbc
    | list as =>
      obtain ⟨bs, rfl, hbs⟩ := eq_list.mp hab
      obtain ⟨cs, rfl, hcs⟩ := eq_list.mp hbc
      refine eq_list.mpr ⟨cs, rfl, eqItems_trans (fun a ha b c hab hbc => ?_) hbs hcs⟩
      have hlt := List.sizeOf_lt_of_mem ha
      simp only [list.sizeOf_spec] at hn
      exact ih (sizeOf a) (by omega) hab hbc rfl
    | dict as =>
      obtain ⟨bs, rfl, hlength, hbs⟩ := eq_dict.mp hab
      obtain ⟨cs, rfl, hlength', hcs⟩ := eq_dict.mp hbc
      refine eq_dict.mpr ⟨cs, rfl, hlength.trans hlength',
        eqMembers_trans (fun item hitem b c hab hbc => ?_) hbs hcs⟩
      have hlt := List.sizeOf_lt_of_mem hitem
      have hvalue : sizeOf item.2 < sizeOf item := by
        cases item
        simp
      simp only [dict.sizeOf_spec] at hn
      exact ih (sizeOf item.2) (by omega) hab hbc rfl

theorem text_eq_some {value : Value} {text : String} :
    value.text? = some text ↔ value = str text := by
  cases value <;> simp [text?]

theorem mapM_text_eq_some {items : List Value} {texts : List String} :
    items.mapM text? = some texts ↔ items = texts.map str := by
  induction items generalizing texts with
  | nil => cases texts <;> simp
  | cons item items ih =>
    rw [List.mapM_cons, Option.bind_eq_bind, Option.bind_eq_some_iff]
    simp only [Option.bind_eq_bind, Option.bind_eq_some_iff, ih]
    constructor
    · intro ⟨text, htext, rest, hrest, heq⟩
      obtain rfl := Option.some.inj heq
      cases item <;> simp_all [text?]
    · intro h
      cases texts with
      | nil => exact nomatch h
      | cons text texts =>
        obtain ⟨rfl, rfl⟩ := List.cons.inj h
        exact ⟨text, rfl, texts, rfl, rfl⟩

theorem texts_eq_some {value : Value} {texts : List String} :
    value.texts? = some texts ↔ value = .list (texts.map str) := by
  rw [texts?, Option.bind_eq_some_iff]
  cases value <;> simp [items?, mapM_text_eq_some]

end Value

namespace Dict

/-- `items.get(key, default)`. -/
def getD (items : Dict) (key : String) (default : Value) : Value := (items.lookup key).getD default

/-- `items.get(key)`. -/
def get (items : Dict) (key : String) : Value := items.getD key .null

end Dict

/-- `sorted(texts)`. -/
def sorted (texts : List String) : List String := texts.insertionSort (· ≤ ·)

/-- `sorted(set(texts))`. -/
def sortedTexts (texts : List String) : List String := sorted texts.dedup

theorem sorted_perm (texts : List String) : (sorted texts).Perm texts :=
  List.perm_insertionSort _ _

variable {text : String} {texts : List String}

@[simp] theorem mem_sorted :
    text ∈ sorted texts ↔ text ∈ texts :=
  (sorted_perm texts).mem_iff

@[simp] theorem mem_sortedTexts :
    text ∈ sortedTexts texts ↔ text ∈ texts := by
  rw [sortedTexts, mem_sorted, List.mem_dedup]

variable {others : List String}

theorem sorted_eq_of_perm (h : texts.Perm others) :
    sorted texts = sorted others := by
  have hsorted : ∀ texts : List String, (sorted texts).Pairwise (· ≤ ·) := fun texts =>
    List.pairwise_insertionSort (· ≤ ·) texts
  exact ((sorted_perm texts).trans (h.trans (sorted_perm others).symm)).eq_of_pairwise'
    (hsorted texts) (hsorted others)

theorem pairwise_sortedTexts (texts : List String) : (sortedTexts texts).Pairwise (· < ·) := by
  have hsorted : (sortedTexts texts).Pairwise (· ≤ ·) :=
    List.pairwise_insertionSort (· ≤ ·) texts.dedup
  have hnodup : (sortedTexts texts).Nodup :=
    (sorted_perm texts.dedup).nodup_iff.mpr (List.nodup_dedup texts)
  exact hsorted.imp₂ (fun _ _ hle hne => lt_of_le_of_ne hle hne) hnodup

/-- `sorted(set(texts))` depends on the members only. -/
theorem sortedTexts_congr (h : ∀ text, text ∈ texts ↔ text ∈ others) :
    sortedTexts texts = sortedTexts others := by
  refine sorted_eq_of_perm ((List.perm_ext_iff_of_nodup texts.nodup_dedup others.nodup_dedup).mpr
    ?_)
  intro text
  rw [List.mem_dedup, List.mem_dedup, h]

theorem sortedTexts_eq_nil : sortedTexts texts = [] ↔ texts = [] := by
  simp only [List.eq_nil_iff_forall_not_mem, mem_sortedTexts]

/-! ## Iteration -/

namespace Value

/-- `list(value)`. -/
def iterate : Value → Except PyError (List Value)
  | str text => .ok (text.toList.map fun c => str (String.singleton c))
  | list items => .ok items
  | dict items => .ok (items.map fun item => str item.1)
  | _ => .error .typeError

/-- `set(items)`, in the order of the first occurrences. -/
def distinct (items : List Value) : Except PyError (List Value) :=
  if items.all hashable then
    .ok (items.foldl (fun seen item => if seen.any (·.eq item) then seen else seen ++ [item]) [])
  else .error .typeError

/-- `a <= b` of two numbers. -/
def numberLe : PyFloat → PyFloat → Bool
  | .finite a, .finite b => a ≤ b
  | .infinite true, .finite _ => true
  | .finite _, .infinite false => true
  | .infinite a, .infinite b => a || !b
  | _, _ => false

/-- `sorted(items)`: texts, or numbers. -/
def sort (items : List Value) : Except PyError (List Value) :=
  if items.length ≤ 1 then .ok items
  else match items.mapM text? with
    | some texts => .ok ((sorted texts).map str)
    | none =>
      if items.all (·.number?.isSome) then
        .ok (items.insertionSort fun a b =>
          numberLe (a.number?.getD .nan) (b.number?.getD .nan) = true)
      else .error .typeError

/-- `sorted(set(value))`. -/
def sortedSet (value : Value) : Except PyError (List Value) := do
  let items ← value.iterate
  let items ← distinct items
  sort items

end Value

/-- `datetime.fromisoformat(text).astimezone(timezone.utc)`, in microseconds. -/
inductive IsoTime
  | invalid
  | naive
  | outOfRange
  | instant (value : ℤ)
  deriving DecidableEq

/-- `datetime.fromisoformat(text)`, in microseconds: of UTC where the text has an offset, of the
wall clock where it has none. -/
structure DateTime where
  aware : Bool
  micros : ℤ
  deriving DecidableEq

/-- What is not written out of the runtime. -/
structure PyRuntime where
  /-- `str.isalnum` of a character. -/
  isAlnum : Char → Bool
  repr : Value → String
  /-- `str` of a value that is not a string. -/
  print : Value → String
  /-- `json.dumps(value, sort_keys=True, separators=(",", ":"), ensure_ascii=True)`. -/
  dumps : Value → Except PyError String
  /-- `json.dumps(value, indent=2, sort_keys=True, ensure_ascii=True)`. -/
  dumpsIndented : Value → Except PyError String
  /-- The digit that a character is, in any script. -/
  digit : Char → Option ℕ
  /-- The hexadecimal SHA-256 of a text in UTF-8. -/
  sha256 : String → String
  isoTime : String → IsoTime
  /-- `none` where the text is no date. -/
  dateTime : String → Option DateTime
  /-- The SHA-1 that git gives a text as a blob. -/
  gitBlob : String → String
  /-- `str.upper()`. -/
  upper : String → String
  /-- `str.lower()`. -/
  lower : String → String
  /-- The hexadecimal SHA-256 of bytes. -/
  sha256Bytes : List UInt8 → String
  /-- How many calls deep a function may recurse. -/
  recursionLimit : ℕ

/-- `str(value)`. -/
def PyRuntime.str (py : PyRuntime) : Value → String
  | .str text => text
  | value => py.print value

/-! ## A sample runtime -/

mutual

/-- The compact JSON of a value with texts that need no escapes. -/
def compact : Value → String
  | .null => "null"
  | .bool value => if value then "true" else "false"
  | .int value => toString value
  | .float (.finite value) => toString value
  | .float (.infinite negative) => if negative then "-Infinity" else "Infinity"
  | .float .nan => "NaN"
  | .str text => "\"" ++ text ++ "\""
  | .list items => "[" ++ ",".intercalate (compactItems items) ++ "]"
  | .dict items => "\x7b" ++ ",".intercalate (sorted (compactMembers items)) ++ "\x7d"
  | .date text => text

def compactItems : List Value → List String
  | [] => []
  | item :: items => compact item :: compactItems items

def compactMembers : List (String × Value) → List String
  | [] => []
  | (key, value) :: items => ("\"" ++ key ++ "\":" ++ compact value) :: compactMembers items

end

/-- A stand-in to run the model with: ASCII texts without escapes, a sum for the hash, and times
in microseconds. -/
def samplePyRuntime : PyRuntime where
  isAlnum := Char.isAlphanum
  repr
    | .str text => "'" ++ text ++ "'"
    | value => compact value
  print := compact
  dumps value := .ok (compact value)
  dumpsIndented value := .ok (compact value)
  digit c := if c.isDigit then some (c.toNat - 48) else none
  sha256 text := toString (text.toList.foldl (fun sum c => (31 * sum + c.toNat) % 2 ^ 61) 7)
  isoTime text :=
    if text.toList.all Char.isDigit then
      .instant (text.toList.foldl (fun value c => 10 * value + ((c.toNat : ℤ) - 48)) 0)
    else .invalid
  dateTime text :=
    if text ≠ "" ∧ text.toList.all Char.isDigit then
      some ⟨true, text.toList.foldl (fun value c => 10 * value + ((c.toNat : ℤ) - 48)) 0⟩
    else none
  gitBlob text := toString (text.toList.foldl (fun sum c => (33 * sum + c.toNat) % 2 ^ 61) 5)
  upper text := String.ofList (text.toList.map Char.toUpper)
  lower text := String.ofList (text.toList.map Char.toLower)
  sha256Bytes bytes := toString (bytes.foldl (fun sum b => (31 * sum + b.toNat) % 2 ^ 61) 7)
  recursionLimit := 1000

end ChatmanEcosystem.Py
