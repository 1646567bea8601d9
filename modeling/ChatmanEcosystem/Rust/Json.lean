import ChatmanEcosystem.Common.JsonText
import ChatmanEcosystem.Common.Lines
import Mathlib.Data.String.Basic
import Std.Data.String.ToInt

/-!
# JSON documents and their compact text

`Json` is a parsed or a to-be-written document; an object is the list of its
members in writing order. `render` is `serde_json::to_string`: no white space,
the members as listed, and in strings an escape for the quotation mark, the
backslash and the control characters below U+0020.

Results:

* `quote_append_inj`: a string value can be cut off the front of a text.
* `num_append_inj`: so can a number, up to the comma or bracket behind it.
-/

namespace ChatmanEcosystem.Rust

open Common

inductive Json
  | null
  | bool (value : Bool)
  | num (value : ℤ)
  | str (value : String)
  | arr (items : List Json)
  | obj (members : List (String × Json))

namespace Json

/-- A lowercase hexadecimal digit. -/
def hexDigit (n : ℕ) : Char := if n < 10 then Char.ofNat (0x30 + n) else Char.ofNat (0x57 + n)

/-- One character of a string value. -/
def escape (c : Char) : List Char :=
  if c = '"' then ['\\', '"']
  else if c = '\\' then ['\\', '\\']
  else if c.toNat = 0x08 then ['\\', 'b']
  else if c.toNat = 0x0c then ['\\', 'f']
  else if c.toNat = 0x0a then ['\\', 'n']
  else if c.toNat = 0x0d then ['\\', 'r']
  else if c.toNat = 0x09 then ['\\', 't']
  else if c.toNat < 0x20 then
    ['\\', 'u', '0', '0', hexDigit (c.toNat / 16), hexDigit (c.toNat % 16)]
  else [c]

/-- A string value between quotation marks. -/
def quote (s : String) : List Char := '"' :: s.toList.flatMap escape ++ ['"']

mutual

/-- The compact text of a document. -/
def renderChars : Json → List Char
  | null => ['n', 'u', 'l', 'l']
  | bool true => ['t', 'r', 'u', 'e']
  | bool false => ['f', 'a', 'l', 's', 'e']
  | num n => (toString n).toList
  | str s => quote s
  | arr items => '[' :: renderItems items ++ [']']
  | obj members => '{' :: renderMembers members ++ ['}']

def renderItems : List Json → List Char
  | [] => []
  | [item] => renderChars item
  | item :: items => renderChars item ++ ',' :: renderItems items

def renderMembers : List (String × Json) → List Char
  | [] => []
  | [(key, value)] => quote key ++ ':' :: renderChars value
  | (key, value) :: members => quote key ++ ':' :: renderChars value ++ ',' :: renderMembers members

end

def render (j : Json) : String := String.ofList j.renderChars

/-- `null` for `None`. -/
def opt {α : Type*} (f : α → Json) : Option α → Json
  | none => null
  | some a => f a

example : (arr [str "a\"b\n", num (-3), null, bool true]).render =
    "[\"a\\\"b\\n\",-3,null,true]" := by decide +kernel

/-! ## Reading a text from the front -/

/-- The value of a lowercase hexadecimal digit. -/
def hexValue (c : Char) : ℕ := if c.toNat < 0x40 then c.toNat - 0x30 else c.toNat - 0x57

/-- Reads one character of a string value. -/
def unescape : List Char → Option (Char × List Char)
  | '\\' :: '"' :: rest => some ('"', rest)
  | '\\' :: '\\' :: rest => some ('\\', rest)
  | '\\' :: 'b' :: rest => some (Char.ofNat 0x08, rest)
  | '\\' :: 'f' :: rest => some (Char.ofNat 0x0c, rest)
  | '\\' :: 'n' :: rest => some ('\n', rest)
  | '\\' :: 'r' :: rest => some ('\r', rest)
  | '\\' :: 't' :: rest => some ('\t', rest)
  | '\\' :: 'u' :: '0' :: '0' :: hi :: lo :: rest =>
    some (Char.ofNat (hexValue hi * 16 + hexValue lo), rest)
  | c :: rest => if c = '"' ∨ c = '\\' then none else some (c, rest)
  | [] => none

theorem hexValue_hexDigit {n : ℕ} (h : n < 16) : hexValue (hexDigit n) = n := by
  have hdigits : ∀ d : Fin 16, hexValue (hexDigit d) = d := by decide
  exact hdigits ⟨n, h⟩

theorem unescape_escape (c : Char) (rest : List Char) :
    unescape (escape c ++ rest) = some (c, rest) := by
  have hc : ∀ n, c.toNat = n → c = Char.ofNat n := fun n h => by rw [← h, Char.ofNat_toNat]
  unfold escape
  split_ifs with hquote hslash h08 h0c h0a h0d h09 hcontrol
  · rw [hquote]; rfl
  · rw [hslash]; rfl
  · rw [hc _ h08]; rfl
  · rw [hc _ h0c]; rfl
  · rw [hc _ h0a]; rfl
  · rw [hc _ h0d]; rfl
  · rw [hc _ h09]; rfl
  · have hlt : c.toNat / 16 < 16 := by omega
    simp only [List.cons_append, List.nil_append, unescape, hexValue_hexDigit hlt,
      hexValue_hexDigit (Nat.mod_lt _ (by decide : 0 < 16))]
    rw [Nat.div_add_mod', Char.ofNat_toNat]
  · simp only [List.cons_append, List.nil_append]
    unfold unescape
    split <;> simp_all

theorem flatMap_escape_append_inj {cs ds x y : List Char}
    (h : cs.flatMap escape ++ '"' :: x = ds.flatMap escape ++ '"' :: y) : cs = ds ∧ x = y := by
  -- a quotation mark by itself is not the text of a character
  have hclose : ∀ (c : Char) (rest z : List Char), '"' :: z ≠ escape c ++ rest := by
    intro c rest z h
    have hread := unescape_escape c rest
    rw [← h] at hread
    cases hread
  induction cs generalizing ds with
  | nil =>
    cases ds with
    | nil => exact ⟨rfl, (List.cons.inj h).2⟩
    | cons d ds => rw [List.flatMap_cons, List.append_assoc] at h; exact absurd h (hclose _ _ _)
  | cons c cs ih =>
    cases ds with
    | nil => rw [List.flatMap_cons, List.append_assoc] at h; exact absurd h.symm (hclose _ _ _)
    | cons d ds =>
      simp only [List.flatMap_cons, List.append_assoc] at h
      have hread := congrArg unescape h
      rw [unescape_escape, unescape_escape] at hread
      obtain ⟨rfl, hrest⟩ := Prod.mk.inj (Option.some.inj hread)
      obtain ⟨rfl, hxy⟩ := ih hrest
      exact ⟨rfl, hxy⟩

/-- The text after a string value starts where its quotation mark closes. -/
theorem quote_append_inj {s t : String} {x y : List Char} (h : quote s ++ x = quote t ++ y) :
    s = t ∧ x = y := by
  simp only [quote, List.cons_append, List.append_assoc, List.nil_append] at h
  obtain ⟨hst, hxy⟩ := flatMap_escape_append_inj (List.cons.inj h).2
  exact ⟨String.toList_inj.mp hst, hxy⟩

/-- A natural number ends at the first character that is not a digit. -/
theorem num_append_inj {n m : ℕ} {c : Char} {x y : List Char} (hc : c.isDigit = false)
    (h : (toString (n : ℤ)).toList ++ c :: x = (toString (m : ℤ)).toList ++ c :: y) :
    n = m ∧ x = y := by
  have hdigits : ∀ k : ℕ, c ∉ k.repr.toList := by
    intro k hmem
    rw [Nat.toList_repr] at hmem
    rw [Nat.isDigit_of_mem_toDigits (by decide) (by decide) hmem] at hc
    cases hc
  obtain ⟨hnm, hxy⟩ := (append_sep_inj (hdigits n) (hdigits m)).mp h
  rw [Nat.toList_repr, Nat.toList_repr] at hnm
  have hvalue := congrArg (Nat.ofDigitChars 10 · 0) hnm
  simp only [Nat.ofDigitChars_toDigits (by decide : 1 < 10) (by decide)] at hvalue
  exact ⟨hvalue, hxy⟩

end Json

end ChatmanEcosystem.Rust

/-! ## The compact text of a document determines it

`Json.render` is one of the spellings that the JSON grammar reads back
(`decode_render`), so two documents with the same text are the same
(`render_injective`).
-/

namespace ChatmanEcosystem.Rust.Json

open Common Common.JsonText

/-! ## Escapes -/

theorem hexValue_hexDigit' {n : ℕ} (h : n < 16) : JsonText.hexValue (hexDigit n) = some n := by
  have hall : ∀ m : Fin 16, JsonText.hexValue (hexDigit m) = some m.val := by decide
  exact hall ⟨n, h⟩

theorem escape_spells : Spells escape := by
  have hc : ∀ c : Char, ∀ n, c.toNat = n → c = Char.ofNat n := fun c n h => by
    rw [← h, Char.ofNat_toNat]
  intro c rest
  unfold escape
  split_ifs with hquote hslash h08 h0c h0a h0d h09 hcontrol
  · rw [hquote]
    rfl
  · rw [hslash]
    rfl
  · rw [hc c _ h08]
    rfl
  · rw [hc c _ h0c]
    rfl
  · rw [hc c _ h0a]
    rfl
  · rw [hc c _ h0d]
    rfl
  · rw [hc c _ h09]
    rfl
  · have hread := readUnicode_byte (n := c.toNat) (by omega)
      (hexValue_hexDigit' (by omega : c.toNat / 16 < 16))
      (hexValue_hexDigit' (by omega : c.toNat % 16 < 16)) rest
    rw [Char.ofNat_toNat] at hread
    exact hread
  · unfold readChar
    split <;> simp_all

/-! ## Documents -/

mutual

/-- The value of the grammar that a document stands for. -/
def toValue : Json → JsonValue
  | null => .null
  | bool value => .bool value
  | num n => .number (toString n).toList
  | str s => .string s
  | arr items => .array (toValues items)
  | obj members => .object (toMembers members)

def toValues : List Json → List JsonValue
  | [] => []
  | item :: items => toValue item :: toValues items

def toMembers : List (String × Json) → List (String × JsonValue)
  | [] => []
  | (key, value) :: members => (key, toValue value) :: toMembers members

end

mutual

theorem renderChars_eq : ∀ document : Json,
    document.renderChars = print escape document.toValue
  | null => rfl
  | bool true => rfl
  | bool false => rfl
  | num _ => rfl
  | str _ => rfl
  | arr items => by rw [renderChars, toValue, print, renderItems_eq items]
  | obj members => by rw [renderChars, toValue, print, renderMembers_eq members]

theorem renderItems_eq : ∀ items : List Json,
    renderItems items = printItems escape (toValues items)
  | [] => rfl
  | [item] => renderChars_eq item
  | item :: next :: items => by
    have htext : renderItems (item :: next :: items) =
        renderChars item ++ ',' :: renderItems (next :: items) := rfl
    rw [htext, renderChars_eq item, renderItems_eq (next :: items)]
    rfl

theorem renderMembers_eq : ∀ members : List (String × Json),
    renderMembers members = printMembers escape (toMembers members)
  | [] => rfl
  | [(key, value)] => by
    rw [renderMembers, renderChars_eq value]
    rfl
  | (key, value) :: next :: members => by
    have htext : renderMembers ((key, value) :: next :: members) =
        quote key ++ ':' :: renderChars value ++ ',' :: renderMembers (next :: members) := rfl
    rw [htext, renderChars_eq value, renderMembers_eq (next :: members)]
    rfl

end

mutual

theorem printable_toValue : ∀ document : Json, Printable document.toValue
  | null | bool _ | str _ => trivial
  | num n => printable_int n
  | arr items => printable_toValues items
  | obj members => printable_toMembers members

theorem printable_toValues : ∀ items : List Json, PrintableItems (toValues items)
  | [] => trivial
  | item :: items => ⟨printable_toValue item, printable_toValues items⟩

theorem printable_toMembers : ∀ members : List (String × Json),
    PrintableMembers (toMembers members)
  | [] => trivial
  | (_, value) :: members => ⟨printable_toValue value, printable_toMembers members⟩

end

mutual

theorem toValue_inj : ∀ {a b : Json}, a.toValue = b.toValue → a = b
  | null, b, h => by cases b <;> simp [toValue] at h ⊢
  | bool value, b, h => by cases b <;> simp [toValue] at h ⊢; exact h
  | num n, b, h => by
    cases b <;> simp [toValue] at h ⊢
    exact Int.repr_inj.mp (String.toList_inj.mp h)
  | str s, b, h => by cases b <;> simp [toValue] at h ⊢; exact h
  | arr items, b, h => by
    cases b <;> simp [toValue] at h ⊢
    exact toValues_inj h
  | obj members, b, h => by
    cases b <;> simp [toValue] at h ⊢
    exact toMembers_inj h

theorem toValues_inj : ∀ {as bs : List Json}, toValues as = toValues bs → as = bs
  | [], [], _ => rfl
  | [], b :: bs, h => by simp [toValues] at h
  | a :: as, [], h => by simp [toValues] at h
  | a :: as, b :: bs, h => by
    simp only [toValues, List.cons.injEq] at h
    rw [toValue_inj h.1, toValues_inj h.2]

theorem toMembers_inj : ∀ {as bs : List (String × Json)}, toMembers as = toMembers bs → as = bs
  | [], [], _ => rfl
  | [], (_, _) :: bs, h => by simp [toMembers] at h
  | (_, _) :: as, [], h => by simp [toMembers] at h
  | (key, a) :: as, (key', b) :: bs, h => by
    simp only [toMembers, List.cons.injEq, Prod.mk.injEq] at h
    rw [h.1.1, toValue_inj h.1.2, toMembers_inj h.2]

end

/-- What is rendered is read back by the grammar. -/
theorem decode_render (document : Json) :
    decode document.render.toList = some document.toValue := by
  unfold render
  rw [String.toList_ofList, renderChars_eq]
  exact decode_print escape_spells (printable_toValue document)

theorem render_injective {a b : Json} (h : a.render = b.render) : a = b := by
  have hread := decode_render a
  rw [h, decode_render b] at hread
  exact (toValue_inj (Option.some.inj hread)).symm

end ChatmanEcosystem.Rust.Json
