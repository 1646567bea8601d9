import ChatmanEcosystem.Py.Value

/-!
# Documents with their keys in order

`json.dumps` with `sort_keys` writes the members of a dictionary in the order of their keys, and
`json.loads` reads them in that order.

Results:

* `lookup_orderItems`: the order of the members is not seen by a lookup.
* `orderItems_orderItems`: what is in order stays as it is.
* `lookup_sortKeys`: how a document that was written and read is looked into.
-/

namespace ChatmanEcosystem.Py

variable {β : Type} {items : List (String × β)} {key : String}

/-- `dict(sorted(items.items()))`. -/
def orderItems (items : List (String × β)) : List (String × β) :=
  items.insertionSort fun a b => a.1 ≤ b.1

theorem orderItems_perm (items : List (String × β)) : (orderItems items).Perm items :=
  List.perm_insertionSort _ items

theorem orderItems_orderItems (items : List (String × β)) :
    orderItems (orderItems items) = orderItems items := by
  have htotal : Std.Total fun a b : String × β => a.1 ≤ b.1 := ⟨fun a b => le_total a.1 b.1⟩
  have htrans : IsTrans (String × β) fun a b => a.1 ≤ b.1 := ⟨fun _ _ _ => le_trans⟩
  exact (List.pairwise_insertionSort _ items).insertionSort_eq

theorem lookup_orderedInsert (item : String × β) (items : List (String × β)) (key : String) :
    (items.orderedInsert (fun a b => a.1 ≤ b.1) item).lookup key = (item :: items).lookup key := by
  induction items with
  | nil => rfl
  | cons first items ih =>
    rw [List.orderedInsert_cons]
    by_cases hle : item.1 ≤ first.1
    · rw [if_pos hle]
    · have hne : first.1 ≠ item.1 := fun h => hle h.ge
      rw [if_neg hle, List.lookup_cons, ih, List.lookup_cons, List.lookup_cons, List.lookup_cons]
      by_cases hkey : key = first.1
      · simp [hkey, beq_false_of_ne hne]
      · simp [beq_false_of_ne hkey]

/-- A lookup does not see the order of the members. -/
theorem lookup_orderItems : (orderItems items).lookup key = items.lookup key := by
  induction items with
  | nil => rfl
  | cons item items ih =>
    rw [orderItems, List.insertionSort_cons, lookup_orderedInsert, List.lookup_cons, ← orderItems,
      ih, ← List.lookup_cons]

theorem orderItems_map {γ : Type} (f : β → γ) (items : List (String × β)) :
    orderItems (items.map fun item => (item.1, f item.2)) =
      (orderItems items).map fun item => (item.1, f item.2) := by
  have hmap := List.map_insertionSort (fun a b : String × β => a.1 ≤ b.1)
    (fun a b : String × γ => a.1 ≤ b.1) (fun item : String × β => (item.1, f item.2)) items
    fun _ _ _ _ => Iff.rfl
  exact hmap.symm

mutual

/-- A value with the members of every dictionary in order. -/
def sortKeys : Value → Value
  | .list items => .list (sortKeysItems items)
  | .dict members => .dict (orderItems (sortKeysMembers members))
  | value => value

def sortKeysItems : List Value → List Value
  | [] => []
  | item :: items => sortKeys item :: sortKeysItems items

def sortKeysMembers : List (String × Value) → Dict
  | [] => []
  | (key, value) :: members => (key, sortKeys value) :: sortKeysMembers members

end

theorem sortKeysItems_eq (items : List Value) : sortKeysItems items = items.map sortKeys := by
  induction items with
  | nil => rfl
  | cons item items ih => rw [sortKeysItems, ih, List.map_cons]

theorem sortKeysMembers_eq (members : Dict) :
    sortKeysMembers members = members.map fun member => (member.1, sortKeys member.2) := by
  induction members with
  | nil => rfl
  | cons member members ih => rw [sortKeysMembers, ih, List.map_cons]

theorem sortKeys_list (items : List Value) :
    sortKeys (.list items) = .list (items.map sortKeys) := by
  rw [sortKeys, sortKeysItems_eq]

theorem sortKeys_dict (members : Dict) : sortKeys (.dict members) =
    .dict (orderItems (members.map fun member => (member.1, sortKeys member.2))) := by
  rw [sortKeys, sortKeysMembers_eq]

/-- A document that was written and read has the same members. -/
theorem lookup_sortKeys (members : Dict) (key : String) :
    (orderItems (members.map fun member => (member.1, sortKeys member.2))).lookup key =
      (members.lookup key).map sortKeys := by
  rw [lookup_orderItems]
  induction members with
  | nil => rfl
  | cons member members ih =>
    rw [List.map_cons, List.lookup_cons, List.lookup_cons, ih]
    by_cases hkey : key = member.1
    · simp [hkey]
    · simp [beq_false_of_ne hkey]

end ChatmanEcosystem.Py
