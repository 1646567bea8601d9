import ChatmanEcosystem.Common.JsonText
import ChatmanEcosystem.Gall.Broker

/-!
# The JSON of a crown report

Model of `Checkpoint`, `GallReport` and their JSON projection
(`crates/gall/src/lib.rs`, lines 80–181). The projection is written by
concatenation: the names and brackets are part of format texts, and `json_escape`
spells the characters of the values.

Results:

* `escapeChar_spells`: the grammar reads every character back, the controls included.
* `toJson_eq_print`: the concatenation is the text of one object.
* `toJson_decodes`: so every string value, and every report, is read back.
-/

namespace ChatmanEcosystem.Gall

open Common Common.JsonText

/-! ## Escapes -/

/-- `char::is_control`: the Unicode category `Cc`. -/
def isControl (c : Char) : Bool := c.toNat < 0x20 || (0x7f ≤ c.toNat && c.toNat < 0xa0)

/-- `{:04x}`. -/
def hex4 (n : ℕ) : List Char := (Nat.toDigits 16 n).leftpad 4 '0'

/-- One turn of the loop in `json_escape` (lines 168–178). -/
def escapeChar (c : Char) : List Char :=
  if c = '"' then ['\\', '"']
  else if c = '\\' then ['\\', '\\']
  else if c = '\n' then ['\\', 'n']
  else if c = '\r' then ['\\', 'r']
  else if c = '\t' then ['\\', 't']
  else if isControl c then '\\' :: 'u' :: hex4 c.toNat
  else [c]

/-- `json_escape` (lines 165–181). -/
def jsonEscape (value : String) : String := String.ofList (value.toList.flatMap escapeChar)

theorem toList_jsonEscape (value : String) :
    (jsonEscape value).toList = value.toList.flatMap escapeChar :=
  String.toList_ofList

/-! ## Reports -/

/-- `struct Checkpoint` (lines 80–89). -/
structure Checkpoint where
  id : String
  phase : UInt8
  name : String
  standing : Standing
  receiptHash : String
  evidence : String
  deriving DecidableEq

/-- `struct GallReport` (lines 91–96). -/
structure GallReport where
  checkpoints : List Checkpoint
  rootReceipt : String
  deriving DecidableEq

/-- The text of a checkpoint (lines 140–153). -/
def Checkpoint.toJson (checkpoint : Checkpoint) : String :=
  "\x7b\"id\":\"" ++ jsonEscape checkpoint.id ++ "\",\"phase\":" ++
    checkpoint.phase.toNat.repr ++ ",\"name\":\"" ++ jsonEscape checkpoint.name ++
    "\",\"standing\":\"" ++ checkpoint.standing.text ++ "\",\"receipt_hash\":\"" ++
    jsonEscape checkpoint.receiptHash ++ "\",\"evidence\":\"" ++ jsonEscape checkpoint.evidence ++
    "\"\x7d"

namespace GallReport

/-- `GallReport::standing` (lines 104–115). -/
def standing (report : GallReport) : Standing :=
  match report.checkpoints.find? (·.standing ≠ .alive) with
  | some checkpoint => checkpoint.standing
  | none => if report.checkpoints.isEmpty then .unknown else .alive

/-- `GallReport::to_json` (lines 135–162). -/
def toJson (report : GallReport) : String :=
  let checkpoints := String.intercalate "," (report.checkpoints.map Checkpoint.toJson)
  "\x7b\"standing\":\"" ++ report.standing.text ++ "\",\"root_receipt\":\"" ++
    jsonEscape report.rootReceipt ++ "\",\"checkpoints\":[" ++ checkpoints ++ "]\x7d"

end GallReport

/-! ## The grammar reads the escapes -/

/-- A control character has two digits or fewer. -/
theorem hex4_control {n : ℕ} (h : n < 0xa0) :
    hex4 n = ['0', '0', (n / 16).digitChar, (n % 16).digitChar] := by
  have hhigh : n / 16 < 16 := by omega
  have hlow : n % 16 < 16 := by omega
  unfold hex4
  rcases Nat.eq_zero_or_pos (n / 16) with hzero | hpos
  · have hsmall : n < 16 := by omega
    rw [Nat.toDigits_of_lt_base hsmall, hzero, Nat.mod_eq_of_lt hsmall]
    rfl
  · have happend := Nat.toDigits_append_toDigits (by decide) hpos hlow
    rw [Nat.div_add_mod, Nat.toDigits_of_lt_base hhigh, Nat.toDigits_of_lt_base hlow] at happend
    rw [← happend]
    rfl

theorem hexValue_digitChar {n : ℕ} (h : n < 16) : hexValue n.digitChar = some n := by
  have hall : ∀ m : Fin 16, hexValue m.val.digitChar = some m.val := by decide
  exact hall ⟨n, h⟩

theorem escapeChar_spells : Spells escapeChar := by
  intro c rest
  unfold escapeChar
  split_ifs with hquote hslash hnewline hreturn htab hcontrol
  · rw [hquote]
    rfl
  · rw [hslash]
    rfl
  · rw [hnewline]
    rfl
  · rw [hreturn]
    rfl
  · rw [htab]
    rfl
  · have hsmall : c.toNat < 0xa0 := by
      simp only [isControl, Bool.or_eq_true, Bool.and_eq_true, decide_eq_true_eq] at hcontrol
      omega
    have hread := readUnicode_byte (n := c.toNat) (by omega)
      (hexValue_digitChar (by omega : c.toNat / 16 < 16))
      (hexValue_digitChar (by omega : c.toNat % 16 < 16)) rest
    rw [Char.ofNat_toNat] at hread
    rw [hex4_control hsmall]
    exact hread
  · have hplain : ¬ c.toNat < 0x20 := by
      intro hlt
      simp [isControl, hlt] at hcontrol
    unfold readChar
    split <;> simp_all

/-! ## One object -/

/-- The document that a checkpoint is projected to. -/
def Checkpoint.document (checkpoint : Checkpoint) : JsonValue :=
  .object [("id", .string checkpoint.id),
    ("phase", .number (Nat.toDigits 10 checkpoint.phase.toNat)),
    ("name", .string checkpoint.name), ("standing", .string checkpoint.standing.text),
    ("receipt_hash", .string checkpoint.receiptHash), ("evidence", .string checkpoint.evidence)]

/-- The document that a report is projected to. -/
def GallReport.document (report : GallReport) : JsonValue :=
  .object [("standing", .string report.standing.text), ("root_receipt", .string report.rootReceipt),
    ("checkpoints", .array (report.checkpoints.map Checkpoint.document))]

theorem Standing.text_plain (standing : Standing) :
    standing.text.toList.flatMap escapeChar = standing.text.toList := by
  cases standing <;> decide

/-- A name without escapes is written as it is. -/
theorem printString_of_plain (name : String)
    (h : name.toList.flatMap escapeChar = name.toList) :
    printString escapeChar name = '"' :: name.toList ++ ['"'] := by
  unfold printString
  rw [h]

theorem Checkpoint.toJson_eq_print (checkpoint : Checkpoint) :
    checkpoint.toJson.toList = print escapeChar checkpoint.document := by
  have hid := printString_of_plain "id" (by decide)
  have hphase := printString_of_plain "phase" (by decide)
  have hname := printString_of_plain "name" (by decide)
  have hstanding := printString_of_plain "standing" (by decide)
  have hhash := printString_of_plain "receipt_hash" (by decide)
  have hevidence := printString_of_plain "evidence" (by decide)
  have htext := printString_of_plain _ checkpoint.standing.text_plain
  simp only [document, print, printMembers, hid, hphase, hname, hstanding, hhash, hevidence, htext]
  unfold toJson
  simp only [String.toList_append, toList_jsonEscape, printString]
  rw [Nat.toList_repr]
  simp

/-- Texts with a comma between them. -/
theorem printItems_map {α : Type} (document : α → JsonValue) (items : List α) :
    printItems escapeChar (items.map document) =
      [','].intercalate (items.map fun item => print escapeChar (document item)) := by
  induction items with
  | nil => rfl
  | cons item items ih =>
    cases items with
    | nil => simp [printItems]
    | cons next items =>
      have hprint : printItems escapeChar ((item :: next :: items).map document) =
          print escapeChar (document item) ++
            ',' :: printItems escapeChar ((next :: items).map document) := rfl
      rw [hprint, ih]
      simp only [List.map_cons]
      rw [List.intercalate_cons_cons, List.append_assoc]
      rfl

theorem GallReport.toJson_eq_print (report : GallReport) :
    report.toJson.toList = print escapeChar report.document := by
  have hstanding := printString_of_plain "standing" (by decide)
  have hroot := printString_of_plain "root_receipt" (by decide)
  have hcheckpoints := printString_of_plain "checkpoints" (by decide)
  have htext := printString_of_plain _ report.standing.text_plain
  have hitems : (String.intercalate "," (report.checkpoints.map Checkpoint.toJson)).toList =
      printItems escapeChar (report.checkpoints.map Checkpoint.document) := by
    rw [printItems_map, String.toList_intercalate, List.map_map]
    exact congrArg ([','].intercalate ·) (List.map_congr_left fun checkpoint _ =>
      checkpoint.toJson_eq_print)
  simp only [document, print, printMembers, hstanding, hroot, hcheckpoints, htext, ← hitems]
  unfold toJson
  simp only [String.toList_append, toList_jsonEscape, printString]
  simp

/-! ## Reading a report back -/

theorem Checkpoint.printable (checkpoint : Checkpoint) : Printable checkpoint.document :=
  ⟨trivial, printable_toDigits _, trivial, trivial, trivial, trivial, trivial⟩

theorem GallReport.printable (report : GallReport) : Printable report.document := by
  have hitems : ∀ checkpoints : List Checkpoint,
      PrintableItems (checkpoints.map Checkpoint.document) := by
    intro checkpoints
    induction checkpoints with
    | nil => trivial
    | cons checkpoint checkpoints ih => exact ⟨checkpoint.printable, ih⟩
  exact ⟨trivial, trivial, hitems _, trivial⟩

/-- The members of a checkpoint's document are the fields of the checkpoint. -/
structure Checkpoint.Fields (value : JsonValue) (checkpoint : Checkpoint) : Prop where
  names : value.names = ["id", "phase", "name", "standing", "receipt_hash", "evidence"]
  id : value.field "id" = some (.string checkpoint.id)
  phase : (value.field "phase").bind JsonValue.toNat? = some checkpoint.phase.toNat
  name : value.field "name" = some (.string checkpoint.name)
  standing : value.field "standing" = some (.string checkpoint.standing.text)
  receiptHash : value.field "receipt_hash" = some (.string checkpoint.receiptHash)
  evidence : value.field "evidence" = some (.string checkpoint.evidence)

/-- The members of a report's document are its derived standing and its fields. -/
structure GallReport.Fields (value : JsonValue) (report : GallReport) : Prop where
  names : value.names = ["standing", "root_receipt", "checkpoints"]
  standing : value.field "standing" = some (.string report.standing.text)
  rootReceipt : value.field "root_receipt" = some (.string report.rootReceipt)
  checkpoints : ∃ items, value.field "checkpoints" = some (.array items) ∧
    List.Forall₂ Checkpoint.Fields items report.checkpoints

theorem Checkpoint.fields_document (checkpoint : Checkpoint) :
    Checkpoint.Fields checkpoint.document checkpoint where
  names := rfl
  id := rfl
  phase := JsonValue.toNat?_toDigits checkpoint.phase.toNat
  name := rfl
  standing := rfl
  receiptHash := rfl
  evidence := rfl

theorem GallReport.fields_document (report : GallReport) :
    GallReport.Fields report.document report where
  names := rfl
  standing := rfl
  rootReceipt := rfl
  checkpoints := by
    refine ⟨report.checkpoints.map Checkpoint.document, rfl, ?_⟩
    rw [List.forall₂_map_left_iff]
    exact List.forall₂_same.mpr fun checkpoint _ => checkpoint.fields_document

/-- The string value made from an escaped string is that string, and the JSON of a report is one
object whose members are the fields of the report. -/
theorem toJson_decodes :
    (∀ s : String, decode ('"' :: (jsonEscape s).toList ++ ['"']) = some (.string s)) ∧
      ∀ report : GallReport, ∃ members,
        decode report.toJson.toList = some (.object members) ∧
          GallReport.Fields (.object members) report := by
  constructor
  · intro s
    have htext : '"' :: (jsonEscape s).toList ++ ['"'] = print escapeChar (.string s) := by
      rw [toList_jsonEscape]
      rfl
    rw [htext]
    exact decode_print escapeChar_spells trivial
  · intro report
    refine ⟨_, ?_, report.fields_document⟩
    rw [report.toJson_eq_print]
    exact decode_print escapeChar_spells report.printable

end ChatmanEcosystem.Gall
