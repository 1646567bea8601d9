import ChatmanEcosystem.Topology.Parts
import Mathlib.Data.List.Infix

/-!
# The inventory

Model of `base_copy` and `cmd_inventory` (`migration/v26925-topology/topology.py`, lines 534–566
and 2054–2085). Discovery itself is left out: the copies that it finds are given.

Results:

* `nodup_paths`: no path has two entries.
* `holdsOnce_iff`: each path has one exactly if no two of them have one slug.
-/

namespace ChatmanEcosystem.Topology

open Common Py

/-- The kinds of working copies (lines 15–16, and the copies that classification keeps). -/
inductive Kind
  | canonical
  | linkedWorktree
  | foreignLinkedWorktree
  | prunableRecord
  | orphanWorktree
  | clone
  | nestedSelfClone
  | submodule
  | submoduleActive
  | embeddedUndeclared
  | vendoredBuildInput
  | nongitResidue
  | degenerateGitResidue
  | fixture
  | foreignClone
  deriving DecidableEq

def Kind.text : Kind → String
  | canonical => "CANONICAL"
  | linkedWorktree => "LINKED_WORKTREE"
  | foreignLinkedWorktree => "FOREIGN_LINKED_WORKTREE"
  | prunableRecord => "PRUNABLE_RECORD"
  | orphanWorktree => "ORPHAN_WORKTREE"
  | clone => "CLONE"
  | nestedSelfClone => "NESTED_SELF_CLONE"
  | submodule => "SUBMODULE"
  | submoduleActive => "SUBMODULE_ACTIVE"
  | embeddedUndeclared => "EMBEDDED_UNDECLARED"
  | vendoredBuildInput => "VENDORED_BUILD_INPUT"
  | nongitResidue => "NONGIT_RESIDUE"
  | degenerateGitResidue => "DEGENERATE_GIT_RESIDUE"
  | fixture => "FIXTURE"
  | foreignClone => "FOREIGN_CLONE"

/-- A working copy: the fields of `base_copy` that the model uses. -/
structure Copy where
  path : String
  kind : Kind
  originNorm : Option String := none
  canonical : Option String := none
  adminDir : Option String := none
  fingerprint : Option String := none
  writerQueue : Option String := none
  /-- `c["blocked"]["reason"]`. -/
  blocked : Option String := none
  /-- `c["retire_mode"] == "deinit"`. -/
  deinit : Bool := false
  retired : Bool := false
  rebaselinedFrom : Option (Option String) := none
  rebaselinedAt : Option String := none
  deriving DecidableEq

/-- `c["copy_id"]` (line 536). -/
def Copy.copyId (c : Copy) : String := slug c.path

/-- `inv["copies"]`, by the ids of the copies. -/
structure Inventory where
  copies : List (String × Copy)
  keyed : ∀ entry ∈ copies, entry.1 = entry.2.copyId
  nodup : (copies.map Prod.fst).Nodup

def Inventory.empty : Inventory := ⟨[], fun _ h => absurd h List.not_mem_nil, List.nodup_nil⟩

/-- `inv["copies"][c["copy_id"]] = c`. -/
def Inventory.put (inv : Inventory) (c : Copy) : Inventory where
  copies := setItem inv.copies c.copyId c
  keyed := by
    intro entry hentry
    rcases mem_setItem hentry with rfl | hold
    · rfl
    · exact inv.keyed entry hold
  nodup := nodup_setItem inv.nodup

/-- The options of the command. -/
structure InventoryArgs where
  only : Option String
  kind : Option String
  merge : Bool

/-- The filters of lines 2059–2062. -/
def InventoryArgs.selects (args : InventoryArgs) (c : Copy) : Bool :=
  args.only.all (fun only => only.toList <:+: c.path.toList) &&
    args.kind.all fun kind => kind = "" || c.kind.text = kind

variable (args : InventoryArgs) (now : String)

/-- One round of the loop (lines 2063–2066). -/
def addCopy (merged : Inventory) (c : Copy) : Inventory :=
  match merged.copies.lookup c.copyId with
  | some old =>
    if args.merge then
      merged.put { c with rebaselinedFrom := some old.fingerprint, rebaselinedAt := some now }
    else merged.put c
  | none => merged.put c

/-- The copies of `cmd_inventory`. -/
def cmdInventory (old : Inventory) (copies : List Copy) : Inventory :=
  (copies.filter args.selects).foldl (addCopy args now) (if args.merge then old else .empty)

/-- The paths that the inventory is to hold: of the copies that were found, and of the old entries
that are merged with them. -/
def knownPaths (old : Inventory) (copies : List Copy) : List String :=
  (if args.merge then old.copies.map (·.2.path) else []) ++
    (copies.filter args.selects).map Copy.path

/-- One entry, and no more, has the path. -/
def HoldsOnce (inv : Inventory) (path : String) : Prop :=
  (inv.copies.filter (·.2.path = path)).length = 1

variable {args now} {old inv : Inventory} {copies : List Copy} {path : String} {c : Copy}

/-- The entry of a path is the one under its slug. -/
theorem mem_paths (inv : Inventory) : path ∈ inv.copies.map (·.2.path) ↔
    (inv.copies.lookup (slug path)).map Copy.path = some path := by
  constructor
  · intro h
    obtain ⟨entry, hentry, rfl⟩ := List.mem_map.mp h
    have hkey := inv.keyed entry hentry
    have hlookup : inv.copies.lookup entry.1 = some entry.2 :=
      (lookup_eq_some_iff inv.nodup).mpr hentry
    rw [hkey] at hlookup
    rw [← Copy.copyId, hlookup]
    rfl
  · intro h
    obtain ⟨c, hc, rfl⟩ := Option.map_eq_some_iff.mp h
    exact List.mem_map.mpr ⟨_, (lookup_eq_some_iff inv.nodup).mp hc, rfl⟩

/-- No path has two entries. -/
theorem nodup_paths (inv : Inventory) : (inv.copies.map (·.2.path)).Nodup := by
  have hkeys : inv.copies.map Prod.fst = (inv.copies.map (·.2.path)).map slug := by
    rw [List.map_map]
    exact List.map_congr_left inv.keyed
  have hnodup := inv.nodup
  rw [hkeys] at hnodup
  exact hnodup.of_map

theorem holdsOnce_iff_mem (inv : Inventory) :
    HoldsOnce inv path ↔ path ∈ inv.copies.map (·.2.path) := by
  have hcount : (inv.copies.filter (·.2.path = path)).length =
      (inv.copies.map (·.2.path)).count path := by
    rw [List.count, List.countP_map, List.countP_eq_length_filter]
    rfl
  rw [HoldsOnce, hcount]
  constructor
  · intro h
    exact List.count_pos_iff.mp (by omega)
  · intro h
    exact List.count_eq_one_of_mem (nodup_paths inv) h

/-- After a round, the copy is under its slug, and the other entries are as they were. -/
theorem lookup_addCopy (merged : Inventory) (key : String) :
    ((addCopy args now merged c).copies.lookup key).map Copy.path =
      if key = c.copyId then some c.path else (merged.copies.lookup key).map Copy.path := by
  have hput : ∀ other : Copy, other.path = c.path →
      ((merged.put other).copies.lookup key).map Copy.path =
        if key = c.copyId then some c.path else (merged.copies.lookup key).map Copy.path := by
    intro other hpath
    have hid : other.copyId = c.copyId := by rw [Copy.copyId, Copy.copyId, hpath]
    rw [Inventory.put, lookup_setItem, hid]
    split_ifs
    · rw [Option.map_some, hpath]
    · rfl
  rw [addCopy]
  cases merged.copies.lookup c.copyId with
  | none => exact hput c rfl
  | some old =>
    by_cases hmerge : args.merge = true
    · simp only [if_pos hmerge]
      exact hput { c with rebaselinedFrom := some old.fingerprint, rebaselinedAt := some now } rfl
    · simp only [if_neg hmerge]
      exact hput c rfl

/-- After the loop, the last copy with a slug is under it. -/
theorem lookup_foldl_addCopy (found : List Copy) (merged : Inventory) (key : String) :
    ((found.foldl (addCopy args now) merged).copies.lookup key).map Copy.path =
      ((found.reverse.find? (·.copyId = key)).map Copy.path).or
        ((merged.copies.lookup key).map Copy.path) := by
  induction found generalizing merged with
  | nil => rfl
  | cons c found ih =>
    rw [List.foldl_cons, ih, lookup_addCopy, List.reverse_cons, List.find?_append]
    cases hlater : found.reverse.find? (·.copyId = key) with
    | some later => rfl
    | none =>
      by_cases hkey : key = c.copyId
      · simp [hkey]
      · simp [hkey, Ne.symm hkey]

/-- The inventory has an entry for each path exactly if no two paths have one slug. -/
theorem holdsOnce_iff : (∀ path ∈ knownPaths args old copies,
      HoldsOnce (cmdInventory args now old copies) path) ↔
    ∀ path ∈ knownPaths args old copies, ∀ other ∈ knownPaths args old copies,
      slug path = slug other → path = other := by
  simp only [holdsOnce_iff_mem, mem_paths]
  constructor
  · intro h path hpath other hother hslug
    have hentry := h path hpath
    rw [hslug, h other hother] at hentry
    exact (Option.some.inj hentry).symm
  · intro h path hpath
    rw [cmdInventory, lookup_foldl_addCopy]
    cases hfind : (copies.filter args.selects).reverse.find? (·.copyId = slug path) with
    | some c =>
      have hc : c ∈ copies.filter args.selects :=
        List.mem_reverse.mp (List.mem_of_find?_eq_some hfind)
      have hfound := List.find?_some hfind
      have hslug : slug c.path = slug path := of_decide_eq_true hfound
      have hknown : c.path ∈ knownPaths args old copies :=
        List.mem_append_right _ (List.mem_map_of_mem hc)
      rw [Option.map_some, h c.path hknown path hpath hslug]
      rfl
    | none =>
      have hmerge : args.merge = true ∧ path ∈ old.copies.map (·.2.path) := by
        rcases List.mem_append.mp hpath with hold | hfound
        · split_ifs at hold with hmerge
          · exact ⟨hmerge, hold⟩
          · cases hold
        · obtain ⟨c, hc, rfl⟩ := List.mem_map.mp hfound
          have hnone := List.find?_eq_none.mp hfind c (List.mem_reverse.mpr hc)
          exact absurd (decide_eq_true rfl) hnone
      rw [if_pos hmerge.1, Option.map_none, Option.none_or]
      exact (mem_paths old).mp hmerge.2

/-! ## The ledger of retirements

Model of `retired_from_ledger` and `mark_retired` (`migration/v26925-topology/topology.py`, lines
210–243). The ledger is the list of the steps on record, the torn lines of the file left out.
-/

section

open Common Py

/-- A line of `steps.jsonl`: the fields that are read back. -/
structure Step where
  step : String
  ok : Bool
  evidence : Value
  atTime : Value
  repo : Value
  rollback : Value
  rollbackSubject : Value
  fingerprint : Value
  gateRunId : Value

/-- What is on record for a retired copy (lines 223–234). -/
structure Retirement where
  copyId : String
  moved : Value
  atTime : Value
  repo : Value
  rollback : Value
  rollbackSubject : Value
  method : String
  fingerprint : Value
  gateRunId : Value

/-- `"retire "`. -/
def retirePrefix : String := "retire "

/-- The copy that a step retires (lines 221–222). -/
def Step.retires (e : Step) : Option String :=
  if retirePrefix.toList <+: e.step.toList ∧ e.ok = true then
    some (String.ofList (e.step.toList.drop retirePrefix.toList.length))
  else none

/-- The evidence of a retirement: a list of moves, or a dictionary that has one (line 226). -/
def Step.moved (e : Step) : Value :=
  match e.evidence with
  | .dict items => Dict.getD items "moved" (.list [])
  | evidence => if evidence.truthy then evidence else .list []

/-- `retired_from_ledger`. -/
def retiredFromLedger (steps : List Step) : List (String × Retirement) :=
  ofPairs (steps.filterMap fun e => e.retires.map fun copyId =>
    (copyId, ⟨copyId, e.moved, e.atTime, e.repo, e.rollback, e.rollbackSubject, "trash-move",
      e.fingerprint, e.gateRunId⟩))

/-- `mark_retired`, on the copies. -/
def markRetired (steps : List Step) (copies : List (String × Copy)) : List (String × Copy) :=
  copies.map fun entry =>
    if ((retiredFromLedger steps).lookup entry.1).isSome then
      (entry.1, { entry.2 with retired := true })
    else entry

variable {steps : List Step} {copyId : String}

theorem retires_retire (e : Step) (hstep : e.step = retirePrefix ++ copyId) (hok : e.ok = true) :
    e.retires = some copyId := by
  have hlist : e.step.toList = retirePrefix.toList ++ copyId.toList := by
    rw [hstep, String.toList_append]
  rw [Step.retires, if_pos ⟨⟨copyId.toList, hlist.symm⟩, hok⟩, hlist, List.drop_left,
    String.ofList_toList]

end

end ChatmanEcosystem.Topology
