import ChatmanEcosystem.Common.Lines
import ChatmanEcosystem.Topology.Inventory

/-!
# The records of the copies

What the commands of the migration write for a copy and read back: the records of `cmd_preserve`
(`migration/v26925-topology/topology.py`, lines 1396 and 1304–1305), the verdicts of `cmd_drill`
(lines 2169–2174) and of `cmd_gate` (line 2139), the steps of `cmd_cleanup` (lines 2221–2242), and
the refs of `set_ref` (lines 1040–1048), which a copy that is preserved anew drops (lines
1263–1270), all under the id of the copy. The values that are written are given.

Results:

* `recordsOf_run`: with ids of their own, the records of a copy are those that were written for it.
* `keeps_copies_iff`: when the inventory and the records keep the copies apart.
-/

namespace ChatmanEcosystem.Topology

open Common Py

/-- `NS` (line 37). -/
def refsNamespace : String := "refs/preserve/v26.9.25"

/-- The state of the migration: the parts of `PRESERVE`, `verify/drill` and `verify/gate`, the
ledger, and the refs of each canonical repository. -/
structure Home where
  preserve : Parts
  drill : Parts
  gate : Parts
  steps : List Step
  refs : String → String → Option String

/-- What a command writes: the records of some copies, or one step or ref of one copy. -/
inductive Write
  | preserve (repo : Option String) (records : List (Copy × Value))
  | drill (part : String) (verdicts : List (Copy × Value))
  | gate (part : String) (verdicts : List (Copy × Value)) (atTime : Value)
  | retire (c : Copy) (e : Step)
  | setRef (c : Copy) (canonical name sha : String)
  | dropRef (c : Copy) (canonical name : String)

/-- A dictionary by the ids of the copies. -/
def byId (records : List (Copy × Value)) : Dict :=
  ofPairs (records.map fun record => (record.1.copyId, record.2))

/-- `{"records": records}`. -/
def preserveObj (records : List (Copy × Value)) : Document where
  items := [("records", .dict (byId records))]
  nodup := List.nodup_singleton _

/-- `{"per_copy": verdicts, "at": at}`. -/
def gateObj (verdicts : List (Copy × Value)) (atTime : Value) : Document where
  items := [("per_copy", .dict (byId verdicts)), ("at", atTime)]
  nodup := by simp

/-- The verdicts of a part with the new ones (lines 2172–2173). -/
def drillObj (prev : Document) (verdicts : List (Copy × Value)) : Document where
  items := update prev.items (byId verdicts)
  nodup := nodup_update prev.nodup nodup_ofPairs

/-- The document of a part. -/
def docOf (parts : Parts) (part : Option String) : Document :=
  (parts.lookup (partFile part)).getD .empty

/-- `f"{NS}/{cid}/{name}"`. -/
def refOf (c : Copy) (name : String) : String := refsNamespace ++ "/" ++ c.copyId ++ "/" ++ name

/-- `git update-ref`. -/
def Home.updateRef (home : Home) (canonical ref : String) (sha : Option String) : Home where
  preserve := home.preserve
  drill := home.drill
  gate := home.gate
  steps := home.steps
  refs repo name := if repo = canonical ∧ name = ref then sha else home.refs repo name

/-- What is written. A ref is created, or is there already, or it is refused. -/
def Home.apply (home : Home) : Write → Home
  | .preserve repo records =>
    { home with preserve := savePart home.preserve repo (preserveObj records) }
  | .drill part verdicts =>
    let prev := docOf home.drill (some part)
    { home with drill := savePart home.drill (some part) (drillObj prev verdicts) }
  | .gate part verdicts atTime =>
    { home with gate := savePart home.gate (some part) (gateObj verdicts atTime) }
  | .retire c e => { home with steps := home.steps ++
    [{ e with step := retirePrefix ++ c.copyId }] }
  | .setRef c canonical name sha =>
    match home.refs canonical (refOf c name) with
    | some _ => home
    | none => home.updateRef canonical (refOf c name) (some sha)
  | .dropRef c canonical name => home.updateRef canonical (refOf c name) none

/-- What is read for a copy. -/
structure CopyRecords where
  preserve : Option Value
  drill : Option Value
  gate : Option Value
  retirement : Option Retirement
  refs : String → String → Option String

/-- `{"records": {}}`. -/
def emptyRecords : Document := ⟨[("records", .dict [])], List.nodup_singleton _⟩

/-- `{"per_copy": {}}`. -/
def emptyVerdicts : Document := ⟨[("per_copy", .dict [])], List.nodup_singleton _⟩

/-- The records of a copy, read under its id. -/
def Home.recordsOf (home : Home) (c : Copy) : CopyRecords where
  preserve := (loadParts none emptyRecords home.preserve).record "records" c.copyId
  drill := (loadParts none .empty home.drill).items.lookup c.copyId
  gate := (loadParts none emptyVerdicts home.gate).record "per_copy" c.copyId
  retirement := (retiredFromLedger home.steps).lookup c.copyId
  refs canonical name := home.refs canonical (refOf c name)

/-- The copies that something is written for. -/
def Write.copies : Write → List Copy
  | preserve _ records => records.map Prod.fst
  | drill _ verdicts => verdicts.map Prod.fst
  | gate _ verdicts _ => verdicts.map Prod.fst
  | retire c _ => [c]
  | setRef c _ _ _ => [c]
  | dropRef c _ _ => [c]

/-- What of it is written for the copy of a path. -/
def Write.only (path : String) : Write → Option Write
  | preserve repo records => some (.preserve repo (records.filter (·.1.path = path)))
  | drill part verdicts => some (.drill part (verdicts.filter (·.1.path = path)))
  | gate part verdicts atTime => some (.gate part (verdicts.filter (·.1.path = path)) atTime)
  | retire c e => if c.path = path then some (.retire c e) else none
  | setRef c canonical name sha => if c.path = path then some (.setRef c canonical name sha)
    else none
  | dropRef c canonical name => if c.path = path then some (.dropRef c canonical name) else none

/-- The records of each copy are those that were written for it, whatever is written for the
others. -/
def RecordsApart (paths : List String) : Prop :=
  ∀ (home : Home) (writes : List Write) (c : Copy), c.path ∈ paths →
    (∀ w ∈ writes, ∀ other ∈ w.copies, other.path ∈ paths) →
      (writes.foldl Home.apply home).recordsOf c =
        ((writes.filterMap (·.only c.path)).foldl Home.apply home).recordsOf c

/-! ## Ids -/

theorem isSlugChar_of_mem_squash {c : Char} {inRun : Bool} {text : List Char}
    (h : c ∈ squash inRun text) : isSlugChar c = true := by
  induction text generalizing inRun with
  | nil => cases h
  | cons d text ih =>
    rw [squash] at h
    split_ifs at h with hd hrun
    · rcases List.mem_cons.mp h with rfl | h
      · exact hd
      · exact ih h
    · exact ih h
    · rcases List.mem_cons.mp h with rfl | h
      · decide
      · exact ih h

/-- A slug is one segment of a ref. -/
theorem slash_not_mem_slug (path : String) : '/' ∉ (slug path).toList := by
  have hstrip : ∀ {text : List Char} {c : Char}, c ∈ stripDashes text → c ∈ text := by
    intro text c hc
    rw [stripDashes, List.mem_reverse] at hc
    have hc := (List.dropWhile_sublist _).subset hc
    rw [List.mem_reverse] at hc
    exact (List.dropWhile_sublist _).subset hc
  intro hslash
  rw [slug] at hslash
  split_ifs at hslash
  · exact absurd hslash (by decide)
  · rw [String.toList_ofList] at hslash
    exact absurd (isSlugChar_of_mem_squash (hstrip hslash)) (by decide)

/-- A ref is of one copy, if ids are. -/
theorem refOf_inj {c other : Copy} {name name' : String} (h : refOf c name = refOf other name') :
    c.copyId = other.copyId ∧ name = name' := by
  have hlist := congrArg String.toList h
  simp only [refOf, String.toList_append, List.append_assoc, List.append_cancel_left_eq] at hlist
  have hsplit := (append_sep_inj (slash_not_mem_slug c.path) (slash_not_mem_slug other.path)).mp
    hlist
  exact ⟨String.toList_injective hsplit.1, String.toList_injective hsplit.2⟩

/-- What is written for the copies of a path is all that is under its id. -/
theorem lookup_byId_filter {c : Copy} {records : List (Copy × Value)}
    (h : ∀ record ∈ records, record.1.copyId = c.copyId → record.1.path = c.path) :
    (byId (records.filter (·.1.path = c.path))).lookup c.copyId =
      (byId records).lookup c.copyId := by
  have hfilter : ∀ records : List (Copy × Value),
      (∀ record ∈ records, record.1.copyId = c.copyId → record.1.path = c.path) →
      ((records.filter (·.1.path = c.path)).map fun record =>
        (record.1.copyId, record.2)).lookup c.copyId =
      (records.map fun record => (record.1.copyId, record.2)).lookup c.copyId := by
    intro records h
    induction records with
    | nil => rfl
    | cons record records ih =>
      obtain ⟨hrecord, hrecords⟩ := List.forall_mem_cons.mp h
      rw [List.map_cons, List.lookup_cons, ← ih hrecords]
      by_cases hpath : record.1.path = c.path
      · rw [List.filter_cons_of_pos (by simpa using hpath), List.map_cons, List.lookup_cons]
      · have hid : c.copyId ≠ record.1.copyId := fun hid => hpath (hrecord hid.symm)
        rw [List.filter_cons_of_neg (by simpa using hpath), beq_false_of_ne hid]
  rw [byId, byId, lookup_ofPairs, lookup_ofPairs, ← List.map_reverse, ← List.map_reverse,
    ← List.filter_reverse]
  exact hfilter records.reverse fun record hrecord => h record (List.mem_reverse.mp hrecord)

/-! ## What is read of the parts -/

section Observed

variable {β : Type} {obs : Document → β} {parts parts' : Parts}

/-- What is read of a merged document goes by what is read of the two documents. -/
def Congruent (obs : Document → β) : Prop := ∀ below below' above above' : Document,
  obs below = obs below' → obs above = obs above' →
    obs (below.merge above) = obs (below'.merge above')

/-- Two directories with the same files, in which the same is read. -/
def Agree (obs : Document → β) (parts parts' : Parts) : Prop :=
  parts.map Prod.fst = parts'.map Prod.fst ∧
    ∀ file, obs ((parts.lookup file).getD .empty) = obs ((parts'.lookup file).getD .empty)

theorem congruent_slot (sect key : String) : Congruent fun doc => doc.slot sect key := by
  intro below below' above above' hbelow habove
  simp only at hbelow habove
  simp only [slot_merge]
  rw [hbelow, habove]

theorem congruent_lookup (sect : String) : Congruent fun doc => doc.items.lookup sect := by
  intro below below' above above' hbelow habove
  simp only at hbelow habove
  simp only [Document.merge, lookup_foldl_setItem above.nodup, lookup_foldl_setItem above'.nodup,
    hbelow, habove]

/-- The same is saved in both. -/
theorem Agree.save (hobs : Congruent obs) (h : Agree obs parts parts') (part : Option String)
    {obj obj' : Document} (hobj : obs obj = obs obj') :
    Agree obs (savePart parts part obj) (savePart parts' part obj') := by
  constructor
  · rw [savePart, savePart, keys_setItem, keys_setItem, h.1]
  · intro file
    rw [savePart, savePart, lookup_setItem, lookup_setItem]
    by_cases hfile : file = partFile part
    · rw [if_pos hfile, if_pos hfile]
      exact hobs _ _ _ _ (h.2 (partFile part)) hobj
    · rw [if_neg hfile, if_neg hfile]
      exact h.2 file

/-- The same is loaded from both. -/
theorem Agree.load (hobs : Congruent obs) (h : Agree obs parts parts') (base : Option Document)
    (default : Document) : obs (loadParts base default parts) =
    obs (loadParts base default parts') := by
  have hfold : ∀ (files : List String) (out out' : Document), obs out = obs out' →
      obs (files.foldl (fun out file => out.merge ((parts.lookup file).getD .empty)) out) =
        obs (files.foldl (fun out file => out.merge ((parts'.lookup file).getD .empty)) out') := by
    intro files
    induction files with
    | nil => exact fun out out' hout => hout
    | cons file files ih => exact fun out out' hout => ih _ _ (hobs _ _ _ _ hout (h.2 file))
  rw [loadParts, loadParts, h.1]
  exact hfold _ _ _ rfl

end Observed

/-! ## What is read for a copy -/

/-- Two states in which the same is read for a copy. -/
structure SameFor (c : Copy) (home home' : Home) : Prop where
  preserve : Agree (fun doc => doc.slot "records" c.copyId) home.preserve home'.preserve
  drill : Agree (fun doc => doc.items.lookup c.copyId) home.drill home'.drill
  gate : Agree (fun doc => doc.slot "per_copy" c.copyId) home.gate home'.gate
  retirement : (retiredFromLedger home.steps).lookup c.copyId =
    (retiredFromLedger home'.steps).lookup c.copyId
  refs : ∀ canonical name,
    home.refs canonical (refOf c name) = home'.refs canonical (refOf c name)

variable {c other : Copy} {home home' : Home}

theorem SameFor.refl (c : Copy) (home : Home) : SameFor c home home :=
  ⟨⟨rfl, fun _ => rfl⟩, ⟨rfl, fun _ => rfl⟩, ⟨rfl, fun _ => rfl⟩, rfl, fun _ _ => rfl⟩

theorem SameFor.recordsOf (h : SameFor c home home') : home.recordsOf c = home'.recordsOf c := by
  have hpreserve := h.preserve.load (congruent_slot _ _) none emptyRecords
  have hdrill := h.drill.load (congruent_lookup _) none .empty
  have hgate := h.gate.load (congruent_slot _ _) none emptyVerdicts
  have hrefs : (fun canonical name => home.refs canonical (refOf c name)) =
      fun canonical name => home'.refs canonical (refOf c name) := by
    funext canonical name
    exact h.refs canonical name
  simp only [Home.recordsOf, Document.record, hpreserve, hdrill, hgate, h.retirement, hrefs]

/-- The retirement of a copy, after one more step. -/
theorem lookup_retiredFromLedger_concat {steps : List Step} {e : Step} {copyId : String} :
    (retiredFromLedger (steps ++ [e])).lookup copyId =
      if e.retires = some copyId then (retiredFromLedger [e]).lookup copyId
      else (retiredFromLedger steps).lookup copyId := by
  simp only [retiredFromLedger, lookup_ofPairs, List.filterMap_append, List.reverse_append,
    List.lookup_append]
  cases hretires : e.retires with
  | none => simp [hretires]
  | some id =>
    by_cases hid : copyId = id
    · simp [hretires, hid]
    · simp [hretires, beq_false_of_ne hid, Ne.symm hid, List.lookup_cons, List.lookup_nil]

theorem retires_of_retire {e : Step} {copyId id : String}
    (h : ({ e with step := retirePrefix ++ copyId } : Step).retires = some id) : id = copyId := by
  have hok : e.ok = true := by
    rw [Step.retires] at h
    split_ifs at h with hcond
    exact hcond.2
  rw [retires_retire { e with step := retirePrefix ++ copyId } rfl hok] at h
  exact (Option.some.inj h).symm

theorem refs_updateRef (canonical ref repo name : String) (sha : Option String) :
    (home.updateRef canonical ref sha).refs repo name =
      if repo = canonical ∧ name = ref then sha else home.refs repo name := rfl

/-- A ref of the copy, in both states. -/
theorem SameFor.updateRef (h : SameFor c home home') (canonical name : String)
    (sha : Option String) : SameFor c (home.updateRef canonical (refOf c name) sha)
      (home'.updateRef canonical (refOf c name) sha) := by
  refine ⟨h.preserve, h.drill, h.gate, h.retirement, fun repo name' => ?_⟩
  rw [refs_updateRef, refs_updateRef, h.refs repo name']

/-- A ref of another copy. -/
theorem SameFor.updateRef_other (h : SameFor c home home') (canonical name : String)
    (sha : Option String) (hid : other.copyId ≠ c.copyId) :
    SameFor c (home.updateRef canonical (refOf other name) sha) home' := by
  refine ⟨h.preserve, h.drill, h.gate, h.retirement, fun repo name' => ?_⟩
  rw [refs_updateRef, if_neg, h.refs repo name']
  exact fun hsame => hid (refOf_inj hsame.2).1.symm

/-- What is written for the others leaves what is read for a copy. -/
theorem SameFor.apply (h : SameFor c home home') (w : Write)
    (hids : ∀ other ∈ w.copies, other.copyId = c.copyId → other.path = c.path) :
    SameFor c (home.apply w) ((w.only c.path).toList.foldl Home.apply home') := by
  have hrecords : ∀ records : List (Copy × Value), records.map Prod.fst = w.copies →
      (byId records).lookup c.copyId =
        (byId (records.filter (·.1.path = c.path))).lookup c.copyId := by
    intro records hcopies
    refine (lookup_byId_filter fun record hrecord => ?_).symm
    exact hids _ (by rw [← hcopies]; exact List.mem_map_of_mem hrecord)
  cases w with
  | preserve repo records =>
    refine { h with preserve := h.preserve.save (congruent_slot _ _) repo ?_ }
    simp only [Document.slot, preserveObj, List.lookup_cons_self, slotOf]
    rw [hrecords records rfl]
  | drill part verdicts =>
    refine { h with drill := h.drill.save (congruent_lookup _) (some part) ?_ }
    have hprev := h.drill.2 (partFile (some part))
    simp only at hprev
    simp only [drillObj, lookup_update, docOf]
    rw [hrecords verdicts rfl, hprev]
  | gate part verdicts atTime =>
    refine { h with gate := h.gate.save (congruent_slot _ _) (some part) ?_ }
    simp only [Document.slot, gateObj, List.lookup_cons_self, slotOf]
    rw [hrecords verdicts rfl]
  | retire other e =>
    by_cases hpath : other.path = c.path
    · rw [Write.only, if_pos hpath]
      refine { h with retirement := ?_ }
      simp only [Home.apply, Option.toList_some, List.foldl_cons, List.foldl_nil]
      rw [lookup_retiredFromLedger_concat, lookup_retiredFromLedger_concat, h.retirement]
    · rw [Write.only, if_neg hpath]
      refine { h with retirement := ?_ }
      simp only [Home.apply, Option.toList_none, List.foldl_nil]
      rw [lookup_retiredFromLedger_concat, if_neg, h.retirement]
      intro hretires
      exact hpath (hids other (by simp [Write.copies]) (retires_of_retire hretires).symm)
  | setRef other canonical name sha =>
    by_cases hpath : other.path = c.path
    · have href : ∀ name, refOf other name = refOf c name := by
        intro name
        rw [refOf, refOf, Copy.copyId, Copy.copyId, hpath]
      rw [Write.only, if_pos hpath]
      simp only [Home.apply, Option.toList_some, List.foldl_cons, List.foldl_nil, href,
        h.refs canonical name]
      cases home'.refs canonical (refOf c name) with
      | some current => exact h
      | none =>
        exact h.updateRef canonical name (some sha)
    · rw [Write.only, if_neg hpath]
      simp only [Home.apply, Option.toList_none, List.foldl_nil]
      cases home.refs canonical (refOf other name) with
      | some current => exact h
      | none =>
        exact h.updateRef_other canonical name (some sha) fun hid =>
          hpath (hids other (by simp [Write.copies]) hid)
  | dropRef other canonical name =>
    by_cases hpath : other.path = c.path
    · have href : ∀ name, refOf other name = refOf c name := by
        intro name
        rw [refOf, refOf, Copy.copyId, Copy.copyId, hpath]
      rw [Write.only, if_pos hpath]
      simp only [Home.apply, Option.toList_some, List.foldl_cons, List.foldl_nil, href]
      exact h.updateRef canonical name none
    · rw [Write.only, if_neg hpath]
      exact h.updateRef_other canonical name none fun hid =>
        hpath (hids other (by simp [Write.copies]) hid)

/-- With ids of their own, the records of the copies are apart. -/
theorem recordsOf_run {paths : List String}
    (hids : ∀ path ∈ paths, ∀ other ∈ paths, slug path = slug other → path = other) :
    RecordsApart paths := by
  intro home writes c hc hwrites
  have hrun : ∀ (writes : List Write) (home home' : Home), SameFor c home home' →
      (∀ w ∈ writes, ∀ other ∈ w.copies, other.path ∈ paths) →
      SameFor c (writes.foldl Home.apply home)
        ((writes.filterMap (·.only c.path)).foldl Home.apply home') := by
    intro writes
    induction writes with
    | nil => exact fun home home' h _ => h
    | cons w writes ih =>
      intro home home' h hwrites
      obtain ⟨hw, hwrites⟩ := List.forall_mem_cons.mp hwrites
      have hstep := h.apply w fun other hother hid => hids _ (hw other hother) _ hc hid
      have hfold := ih _ _ hstep hwrites
      rw [List.filterMap_cons]
      cases honly : w.only c.path with
      | none =>
        rw [honly] at hfold
        exact hfold
      | some w' =>
        rw [honly] at hfold
        exact hfold
  exact (hrun writes home home (.refl c home) hwrites).recordsOf

/-- The migration loses no copy: each path has its entry, and its records are its own. -/
structure KeepsCopies (args : InventoryArgs) (now : String) (old : Inventory) (copies : List Copy) :
    Prop where
  once : ∀ path ∈ knownPaths args old copies,
    HoldsOnce (cmdInventory args now old copies) path
  apart : RecordsApart (knownPaths args old copies)

/-- The copies are kept apart exactly if no two of their paths have one slug. -/
theorem keeps_copies_iff (args : InventoryArgs) (now : String) (old : Inventory)
    (copies : List Copy) : KeepsCopies args now old copies ↔
      ∀ path ∈ knownPaths args old copies, ∀ other ∈ knownPaths args old copies,
        slug path = slug other → path = other := by
  constructor
  · intro h
    exact holdsOnce_iff.mp h.once
  · intro h
    exact ⟨holdsOnce_iff.mpr h, recordsOf_run h⟩

/-- Two worktrees of one id, of which the inventory keeps one. -/
theorem one_id_for_two : ¬ ∀ (args : InventoryArgs) (now : String) (old : Inventory)
    (copies : List Copy), (copies.map Copy.path).Nodup → KeepsCopies args now old copies := by
  intro h
  have hkeeps := h ⟨none, none, false⟩ "" .empty
    [{ path := "/Users/sac/wt/v1.0", kind := .clone },
      { path := "/Users/sac/wt/v1_0", kind := .clone }] (by decide)
  have honce := hkeeps.once "/Users/sac/wt/v1.0" (by simp [knownPaths, InventoryArgs.selects])
  rw [HoldsOnce] at honce
  exact absurd honce (by decide +kernel)

end ChatmanEcosystem.Topology
