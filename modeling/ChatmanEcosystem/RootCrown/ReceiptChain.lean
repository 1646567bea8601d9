import ChatmanEcosystem.Common.DepthFirst
import ChatmanEcosystem.Py.Dict
import ChatmanEcosystem.Py.Text
import ChatmanEcosystem.RootCrown.Types
import Mathlib.Data.List.Chain

/-!
# The chain of committed receipts

Model of `chain.order`, `project` and `parent_of` (`scripts/release_train/root_crown/chain.py`,
lines 28–137) and of `receipt_digest_of` (`crown.py`, lines 53–54). The files under `hardening/`
are the committed receipts, in the order of their paths.

Results:

* `order_eq_chain`: a linear chain is ordered as it is linked.
* `linearChain_of_order`: an order that is linked and complete is a linear chain.
* `readChain_eq_ok`: the projections in which `parent_of` finds a parent.
* `chain_admitted_iff`: both at once, and what `parent_of` returns.
-/

namespace ChatmanEcosystem.RootCrown.ReceiptChain

open Common Py Rust Relation

/-! ## The order -/

/-- A file `run-*/crown-receipt.json` (lines 36–38). -/
structure CommittedReceipt where
  path : String
  receipt : Dict

/-- `receipt_digest_of`. -/
def receiptDigestOf (py : PyRuntime) (receipt : Dict) : Except PyError String := do
  return py.sha256 (← py.dumps (.dict (receipt.filter (·.1 ≠ "receipt_digest"))))

/-- `str(receipt.get("receipt_digest"))`. -/
def digestKey (py : PyRuntime) (file : CommittedReceipt) : String :=
  py.str (file.receipt.get "receipt_digest")

/-- `receipt.get("previous_receipt_digest")`. -/
def previousOf (file : CommittedReceipt) : Value := file.receipt.get "previous_receipt_digest"

/-- `committed_receipts` (lines 34–40). -/
def committedReceipts (py : PyRuntime) (files : List CommittedReceipt) :
    List (String × CommittedReceipt) :=
  ofPairs (files.map fun file => (digestKey py file, file))

/-- `prev if prev in receipts else None` (lines 48–49). -/
def parentKey (receipts : List (String × CommittedReceipt)) (file : CommittedReceipt) :
    Except PyError (Option String) :=
  if (previousOf file).hashable then
    .ok ((previousOf file).text?.filter fun digest => digest ∈ receipts.map Prod.fst)
  else .error .typeError

/-- The digests in the order of the links (lines 45–55). -/
def orderedKeys (py : PyRuntime) (files : List CommittedReceipt) :
    Except PyError (List String) := do
  let receipts := committedReceipts py files
  let parents ← receipts.mapM fun item => do return (item.1, ← parentKey receipts item.2)
  let children := fun parent => sorted ((parents.filter (·.2 = parent)).map Prod.fst)
  return preorder children receipts.length (children none)

/-- An entry of the chain (lines 59–67). -/
structure ChainEntry where
  path : String
  runId : String
  receiptDigest : String
  previousReceiptDigest : Value
  standing : Value
  crownSha : Value
  genesis : Bool

def entryOf (digest : String) (file : CommittedReceipt) : ChainEntry where
  path := file.path
  runId := removePrefix "run-" (((file.path.splitOn "/")[1]?).getD "")
  receiptDigest := digest
  previousReceiptDigest := previousOf file
  standing := file.receipt.get "standing"
  crownSha := file.receipt.get "crown_sha"
  genesis := (file.receipt.get "genesis").truthy

/-- `order` (lines 43–69). -/
def order (py : PyRuntime) (files : List CommittedReceipt) : Except PyError (List ChainEntry) := do
  let keys ← orderedKeys py files
  keys.mapM fun digest =>
    (okOr ((committedReceipts py files).lookup digest) .keyError).map (entryOf digest)

/-- The document `receipts/chain.json`. -/
structure ChainDocument where
  release : String
  entries : List ChainEntry
  head : Option String

/-- `project` (lines 72–80). -/
def project (py : PyRuntime) (files : List CommittedReceipt) (release : String) :
    Except PyError ChainDocument := do
  let entries ← order py files
  return { release, entries, head := entries.getLast?.map ChainEntry.receiptDigest }

/-! ## The parent -/

/-- `ChainResult` (lines 92–96). -/
structure ChainResult where
  parent : Option Dict
  refusals : List String
  blockers : List String

/-- A refusal of a digest or a link. -/
def broken (detail : String) : String := "REFUSED:RECEIPT_CHAIN_BROKEN:PARENT_DIGEST:" ++ detail

/-- What the loop over the entries has found (lines 111–113). -/
structure Reading where
  index : ℕ := 0
  refusals : List String := []
  receipts : List (String × Dict) := []
  previous : Value := .null

/-- One turn of the loop (lines 114–126). -/
def readEntry (py : PyRuntime) (files : List CommittedReceipt) (reading : Reading)
    (entry : ChainEntry) : Except PyError Reading :=
  match files.find? (·.path = entry.path) with
  | none => .ok { reading with
      index := reading.index + 1
      refusals := reading.refusals ++ [broken (entry.path ++ " absent")] }
  | some file => do
    let recomputed ← receiptDigestOf py file.receipt
    let moved := ¬(file.receipt.get "receipt_digest").eq (.str recomputed) ∨
      recomputed ≠ entry.receiptDigest
    let unlinked := 0 < reading.index ∧ ¬(previousOf file).eq reading.previous
    return {
      index := reading.index + 1
      refusals := reading.refusals ++
        (if moved then [broken (entry.path ++ ":recomputed=" ++ recomputed)] else []) ++
        (if unlinked then [broken (entry.path ++ ":link")] else [])
      receipts := setItem reading.receipts entry.receiptDigest file.receipt
      previous := .str entry.receiptDigest }

/-- The part of `parent_of` that reads the chain (lines 104–129): the parent, or why there is
none. -/
def readChain (py : PyRuntime) (files : List CommittedReceipt) (document : ChainDocument) :
    Except PyError (Except (List String) (String × Dict)) :=
  match document.entries.getLast? with
  | none => .ok (.error [broken "chain head is not the last entry"])
  | some last =>
    if document.head ≠ some last.receiptDigest then
      .ok (.error [broken "chain head is not the last entry"])
    else do
      let reading ← document.entries.foldlM (readEntry py files) {}
      match reading.refusals, reading.receipts.lookup last.receiptDigest with
      | [], some parent => return .ok (last.receiptDigest, parent)
      | [], none => return .error [broken "head unreadable"]
      | refusals, _ => return .error refusals

/-- One remaining item that `_untyped` names (lines 86–88). -/
def untypedItem (py : PyRuntime) (item : Value) : Except PyError (List String) := do
  let item ← okOr item.dict? .attributeError
  let code := item.get "code"
  let known ← if ¬code.truthy then pure false
    else if ¬code.hashable then .error .typeError
    else pure (code.text?.any fun code => (failureClass.lookup code).isSome)
  return if ¬known ∨ ¬(item.get "failure_class").truthy ∨ ¬(item.get "broken_term").truthy then
      [py.str (item.get "id") ++ ":" ++ py.str code]
    else []

/-- `_untyped` (lines 83–89). -/
def untyped (py : PyRuntime) (receipt : Dict) : Except PyError (List String) := do
  let items ← (receipt.getD "remaining" (.list [])).iterate
  return (← items.mapM (untypedItem py)).flatten

/-- Why a parent is refused for its standing (lines 131–134). -/
def standingRefusals (py : PyRuntime) (head : String) (parent : Dict) :
    Except PyError (List String) :=
  if (parent.get "standing").eq (.str "REFUSED") then
    .ok ["REFUSED:RECEIPT_CHAIN_BROKEN:PARENT_REFUSED:" ++ head]
  else if (parent.get "standing").eq (.str "BLOCKED") then do
    let items ← untyped py parent
    return if items = [] then []
      else ["REFUSED:RECEIPT_CHAIN_BROKEN:PARENT_UNTYPED_BLOCKED:" ++
        ",".intercalate (items.take 5)]
  else .ok []

/-- Why a parent is refused for its place in the history (lines 135–138). -/
def ancestryRefusals (py : PyRuntime) (ancestry : Option (List String)) (parent : Dict) :
    Except PyError (List String) :=
  match ancestry with
  | none => .ok []
  | some ancestry =>
    let sha := parent.get "crown_sha"
    if ¬sha.hashable then .error .typeError
    else if sha.text?.any (· ∈ ancestry) then .ok []
    else .ok ["REFUSED:RECEIPT_CHAIN_BROKEN:PARENT_NOT_ANCESTOR:" ++ py.str sha]

/-- What is said of an ancestry that nobody observed (line 136). -/
def ancestryBlockers (ancestry : Option (List String)) : List String :=
  if ancestry.isNone then
    ["BLOCKED:OBSERVATION_MISSING:parent ancestry unobserved (no --ancestry)"]
  else []

/-- `parent_of` (lines 104–139), for the document in `chain.json` if there is one. -/
def parentOf (py : PyRuntime) (files : List CommittedReceipt) (document : Option ChainDocument)
    (ancestry : Option (List String)) : Except PyError ChainResult :=
  match document with
  | none => .ok ⟨none, [broken "receipts/chain.json absent"], []⟩
  | some document => do
    match ← readChain py files document with
    | .error refusals => return ⟨none, refusals, []⟩
    | .ok (head, parent) =>
      let refusals := (← standingRefusals py head parent) ++
        (← ancestryRefusals py ancestry parent)
      return ⟨if refusals = [] then some parent else none, refusals, ancestryBlockers ancestry⟩

/-! ## Linear chains -/

variable {py : PyRuntime} {files chain : List CommittedReceipt}

/-- The second receipt has the first one's digest as its link. -/
def Links (py : PyRuntime) (file next : CommittedReceipt) : Prop :=
  previousOf next = .str (digestKey py file)

/-- The receipts one behind the other, the first with a parent outside. -/
structure LinearChain (py : PyRuntime) (files chain : List CommittedReceipt) : Prop where
  perm : chain.Perm files
  distinct : (chain.map (digestKey py)).Nodup
  outside : ∀ first ∈ chain.head?, (previousOf first).hashable = true ∧
    ∀ file ∈ files, previousOf first ≠ .str (digestKey py file)
  linked : chain.IsChain (Links py)

variable {key : String} {file : CommittedReceipt}

theorem mem_committedReceipts (hdistinct : (files.map (digestKey py)).Nodup) :
    (key, file) ∈ committedReceipts py files ↔ file ∈ files ∧ digestKey py file = key := by
  have hkeys : ((files.map fun file => (digestKey py file, file)).reverse.map Prod.fst).Nodup := by
    rw [List.map_reverse, List.nodup_reverse, List.map_map]
    exact hdistinct
  rw [committedReceipts, ← lookup_eq_some_iff nodup_ofPairs, lookup_ofPairs,
    lookup_eq_some_iff hkeys, List.mem_reverse, List.mem_map]
  constructor
  · rintro ⟨other, hother, heq⟩
    obtain ⟨rfl, rfl⟩ := Prod.mk.inj heq
    exact ⟨hother, rfl⟩
  · rintro ⟨hfile, rfl⟩
    exact ⟨file, hfile, rfl⟩

theorem mem_keys_committedReceipts :
    key ∈ (committedReceipts py files).map Prod.fst ↔ ∃ file ∈ files, digestKey py file = key := by
  rw [committedReceipts, mem_keys_ofPairs, List.map_map, List.mem_map]
  rfl

theorem parentKey_eq_some {receipts : List (String × CommittedReceipt)} :
    parentKey receipts file = .ok (some key) ↔
      previousOf file = .str key ∧ key ∈ receipts.map Prod.fst := by
  rw [parentKey]
  cases hprevious : previousOf file <;> simp [Value.hashable, Value.text?,
    Option.filter_eq_some_iff]

theorem map_fst_of_forall₂ {β γ : Type} {items : List (String × β)} {pairs : List (String × γ)}
    (h : List.Forall₂ (fun item pair => pair.1 = item.1) items pairs) :
    pairs.map Prod.fst = items.map Prod.fst := by
  induction h with
  | nil => rfl
  | cons hpair _ ih => rw [List.map_cons, List.map_cons, hpair, ih]

variable {keys : List String}

/-- What the links make of the receipts: a forest that the keys are listed from. -/
theorem orderedKeys_eq_ok (h : orderedKeys py files = .ok keys) :
    ∃ (parent : String → Option String) (children : Option String → List String),
      Hierarchy ((committedReceipts py files).map Prod.fst) parent children ∧
      keys = preorder children (committedReceipts py files).length (children none) ∧
      (∀ item ∈ committedReceipts py files,
        parentKey (committedReceipts py files) item.2 = .ok (parent item.1)) ∧
      ∀ key link, parent key = some link → key ∈ (committedReceipts py files).map Prod.fst := by
  simp only [orderedKeys, bind_eq_ok, pure_eq_ok] at h
  obtain ⟨parents, hparents, rfl⟩ := h
  have hmem : ∀ {key : String} {o : Option String}, (key, o) ∈ parents ↔
      ∃ item ∈ committedReceipts py files, item.1 = key ∧
        parentKey (committedReceipts py files) item.2 = .ok o := by
    intro key o
    rw [mem_of_mapM hparents]
    refine exists_congr fun item => and_congr_right fun _ => ?_
    rw [bind_eq_ok]
    constructor
    · rintro ⟨other, hother, heq⟩
      obtain ⟨rfl, rfl⟩ := Prod.mk.inj (pure_eq_ok.mp heq)
      exact ⟨rfl, hother⟩
    · rintro ⟨rfl, ho⟩
      exact ⟨o, ho, rfl⟩
  have hfst : parents.map Prod.fst = (committedReceipts py files).map Prod.fst := by
    refine map_fst_of_forall₂ ((forall₂_of_mapM hparents).imp fun item pair hpair => ?_)
    rw [bind_eq_ok] at hpair
    obtain ⟨o, _, heq⟩ := hpair
    rw [← pure_eq_ok.mp heq]
  have hnodup : (parents.map Prod.fst).Nodup := hfst ▸ nodup_ofPairs
  refine ⟨fun key => (parents.lookup key).join, _, ⟨?_, fun o => ?_⟩, rfl, ?_, ?_⟩
  · intro o key
    rw [mem_sorted, List.mem_map]
    constructor
    · rintro ⟨item, hitem, rfl⟩
      obtain ⟨hitem, ho⟩ := List.mem_filter.mp hitem
      have hlookup := (lookup_eq_some_iff hnodup).mpr hitem
      rw [← hfst, hlookup]
      exact ⟨List.mem_map_of_mem hitem, of_decide_eq_true ho⟩
    · rintro ⟨hkey, ho⟩
      rw [← hfst] at hkey
      obtain ⟨item, hitem, rfl⟩ := List.mem_map.mp hkey
      have hlookup := (lookup_eq_some_iff hnodup).mpr hitem
      rw [hlookup] at ho
      exact ⟨item, List.mem_filter.mpr ⟨hitem, decide_eq_true ho⟩, rfl⟩
  · exact (sorted_perm _).nodup_iff.mpr (hnodup.sublist (List.filter_sublist.map _))
  · intro item hitem
    obtain ⟨o, ho⟩ := ok_of_mapM hparents hitem
    rw [bind_eq_ok] at ho
    obtain ⟨o, ho, -⟩ := ho
    have hlookup := (lookup_eq_some_iff hnodup).mpr (hmem.mpr ⟨item, hitem, rfl, ho⟩)
    show _ = Except.ok (parents.lookup item.1).join
    rw [hlookup]
    exact ho
  · intro key link hlink
    cases hlookup : parents.lookup key with
    | none => simp [hlookup] at hlink
    | some o =>
      rw [← hfst]
      exact List.mem_map_of_mem ((lookup_eq_some_iff hnodup).mp hlookup)

/-- The order is made unless a link is a list or an object. -/
theorem exists_orderedKeys (h : ∀ item ∈ committedReceipts py files,
    (previousOf item.2).hashable = true) : ∃ keys, orderedKeys py files = .ok keys := by
  simp only [orderedKeys, bind_eq_ok, pure_eq_ok]
  have hparents : ((committedReceipts py files).mapM fun item =>
      (do return (item.1, ← parentKey (committedReceipts py files) item.2) :
        Except PyError (String × Option String))) =
      .ok ((committedReceipts py files).map fun item => (item.1, (previousOf item.2).text?.filter
        fun digest => digest ∈ (committedReceipts py files).map Prod.fst)) := by
    refine mapM_ok fun item hitem => ?_
    rw [parentKey, if_pos (h item hitem)]
    rfl
  exact ⟨_, _, hparents, rfl⟩

variable {α : Type}

/-- Who is not the first of a chain has somebody before it. -/
theorem mem_head_or_linked {R : α → α → Prop} {list : List α} (h : list.IsChain R) {b : α}
    (hb : b ∈ list) : b ∈ list.head? ∨ ∃ a ∈ list, R a b := by
  induction list with
  | nil => exact absurd hb List.not_mem_nil
  | cons a list ih =>
    rw [List.isChain_cons] at h
    rcases List.mem_cons.mp hb with rfl | hb
    · exact .inl rfl
    · rcases ih h.2 hb with hhead | ⟨c, hc, hcb⟩
      · exact .inr ⟨a, List.mem_cons_self, h.1 b hhead⟩
      · exact .inr ⟨c, List.mem_cons_of_mem a hc, hcb⟩

theorem linked_map {κ : Type} {key : α → κ} {parent : κ → Option κ} {list : List α}
    {start : Option κ} (hstart : ∀ a ∈ list.head?, parent (key a) = start)
    (h : list.IsChain fun a b => parent (key b) = some (key a)) :
    Linked some parent start (list.map key) := by
  induction list generalizing start with
  | nil => trivial
  | cons a list ih =>
    rw [List.isChain_cons] at h
    exact ⟨hstart a rfl, ih h.1 h.2⟩

theorem LinearChain.distinct_files (h : LinearChain py files chain) :
    (files.map (digestKey py)).Nodup :=
  (h.perm.map (digestKey py)).nodup_iff.mp h.distinct

theorem orderedKeys_of_linearChain (h : LinearChain py files chain) :
    orderedKeys py files = .ok (chain.map (digestKey py)) := by
  have hmem : ∀ {key : String} {file : CommittedReceipt},
      (key, file) ∈ committedReceipts py files ↔ file ∈ chain ∧ digestKey py file = key :=
    fun {_ _} => by rw [mem_committedReceipts h.distinct_files, h.perm.mem_iff]
  have hhashable : ∀ item ∈ committedReceipts py files, (previousOf item.2).hashable = true := by
    intro item hitem
    rcases mem_head_or_linked h.linked (hmem.mp hitem).1 with hfirst | ⟨file, _, hlink⟩
    · exact (h.outside item.2 hfirst).1
    · rw [show previousOf item.2 = .str (digestKey py file) from hlink]
      rfl
  obtain ⟨keys, hkeys⟩ := exists_orderedKeys hhashable
  obtain ⟨parent, children, hforest, rfl, hparent, -⟩ := orderedKeys_eq_ok hkeys
  have hkey : ∀ file ∈ chain, parentKey (committedReceipts py files) file =
      .ok (parent (digestKey py file)) := fun file hfile =>
        hparent (_, file) (hmem.mpr ⟨hfile, rfl⟩)
  have hkeysPerm : (chain.map (digestKey py)).Perm ((committedReceipts py files).map Prod.fst) := by
    refine (List.perm_ext_iff_of_nodup h.distinct nodup_ofPairs).mpr fun key => ?_
    rw [← committedReceipts, mem_keys_committedReceipts, List.mem_map]
    simp only [h.perm.mem_iff]
  have hlinked : Linked some parent none (chain.map (digestKey py)) := by
    refine linked_map (fun first hfirst => ?_) ?_
    · have hfirstMem := List.mem_of_mem_head? hfirst
      cases hfirstKey : parent (digestKey py first) with
      | none => rfl
      | some key =>
        have hlink := hkey first hfirstMem
        rw [hfirstKey, parentKey_eq_some, mem_keys_committedReceipts] at hlink
        obtain ⟨hprevious, file, hfile, rfl⟩ := hlink
        exact absurd hprevious ((h.outside first hfirst).2 file hfile)
    · refine h.linked.imp_of_mem_imp fun a b ha hb hlink => ?_
      have hsome : parentKey (committedReceipts py files) b = .ok (some (digestKey py a)) :=
        parentKey_eq_some.mpr ⟨hlink, mem_keys_committedReceipts.mpr
          ⟨a, h.perm.mem_iff.mp ha, rfl⟩⟩
      rw [hkey b hb] at hsome
      exact Except.ok.inj hsome
  rw [hkeys, hforest.preorder_eq hkeysPerm h.distinct hlinked]
  have hlength := hkeysPerm.length_eq
  rw [List.length_map, List.length_map] at hlength
  rw [List.length_map, hlength]

/-- The entry of a committed receipt. -/
def entryFor (py : PyRuntime) (file : CommittedReceipt) : ChainEntry :=
  entryOf (digestKey py file) file

/-- A linear chain is ordered as it is linked. -/
theorem order_eq_chain (h : LinearChain py files chain) :
    order py files = .ok (chain.map (entryFor py)) := by
  have hlookup : ∀ file ∈ chain, (committedReceipts py files).lookup (digestKey py file) =
      some file := fun file hfile => (lookup_eq_some_iff nodup_ofPairs).mpr
    ((mem_committedReceipts h.distinct_files).mpr ⟨h.perm.mem_iff.mp hfile, rfl⟩)
  rw [order, bind_eq_ok]
  refine ⟨_, orderedKeys_of_linearChain h, ?_⟩
  rw [List.mapM_map]
  refine mapM_ok fun file hfile => ?_
  show (okOr ((committedReceipts py files).lookup (digestKey py file)) _).map _ = _
  rw [hlookup file hfile]
  rfl

theorem lookup_committedReceipts (h : (committedReceipts py files).lookup key = some file) :
    file ∈ files ∧ digestKey py file = key := by
  rw [committedReceipts, lookup_ofPairs] at h
  obtain ⟨first, last, hpairs, -⟩ := List.lookup_eq_some_iff.mp h
  have hmem : (key, file) ∈ files.map fun file => (digestKey py file, file) := by
    rw [← List.mem_reverse, hpairs]
    simp
  obtain ⟨other, hother, heq⟩ := List.mem_map.mp hmem
  obtain ⟨rfl, rfl⟩ := Prod.mk.inj heq
  exact ⟨hother, rfl⟩

/-- What is ordered are committed receipts, by their digests. -/
theorem order_eq_ok {entries : List ChainEntry} (h : order py files = .ok entries) :
    ∃ chain ⊆ files, entries = chain.map (entryFor py) ∧
      orderedKeys py files = .ok (chain.map (digestKey py)) := by
  rw [order, bind_eq_ok] at h
  obtain ⟨keys, hkeys, hentries⟩ := h
  rw [hkeys]
  have hall := forall₂_of_mapM hentries
  clear hentries hkeys
  induction hall with
  | nil => exact ⟨[], List.nil_subset _, rfl, rfl⟩
  | @cons key entry keys entries hentry _ ih =>
    obtain ⟨chain, hsubset, rfl, hkeys⟩ := ih
    cases hlookup : (committedReceipts py files).lookup key with
    | none => simp [hlookup, okOr, Except.map] at hentry
    | some file =>
      obtain ⟨hfile, rfl⟩ := lookup_committedReceipts hlookup
      rw [hlookup] at hentry
      refine ⟨file :: chain, List.cons_subset.mpr ⟨hfile, hsubset⟩, ?_, ?_⟩
      · rw [List.map_cons, ← Except.ok.inj hentry]
        rfl
      · rw [List.map_cons, ← Except.ok.inj hkeys]

theorem nodup_of_orderedKeys (h : orderedKeys py files = .ok keys) :
    keys.Nodup := by
  obtain ⟨parent, children, hforest, rfl, -⟩ := orderedKeys_eq_ok h
  exact (hforest.preorder_roots (by rw [List.length_map])).1

/-- The first in order has no parent among the receipts. -/
theorem parentKey_first (h : orderedKeys py files = .ok (key :: keys))
    (hfile : (key, file) ∈ committedReceipts py files) :
    parentKey (committedReceipts py files) file = .ok none := by
  obtain ⟨parent, children, hforest, heq, hparent, -⟩ := orderedKeys_eq_ok h
  have hroot : key ∈ children none := by
    generalize (committedReceipts py files).length = fuel at heq
    cases fuel with
    | zero => simp [preorder] at heq
    | succ fuel =>
      cases hchildren : children none with
      | nil => simp [preorder, hchildren] at heq
      | cons root roots =>
        rw [hchildren, preorder] at heq
        rw [(List.cons.inj heq).1]
        exact List.mem_cons_self
  rw [hparent _ hfile, (hforest.mem_children.mp hroot).2]

/-- An order that is linked and has every receipt is a linear chain. -/
theorem linearChain_of_order (h : orderedKeys py files = .ok (chain.map (digestKey py)))
    (hperm : chain.Perm files) (hlinked : chain.IsChain (Links py)) :
    LinearChain py files chain := by
  have hdistinct := nodup_of_orderedKeys h
  have hfiles : (files.map (digestKey py)).Nodup :=
    (hperm.map (digestKey py)).nodup_iff.mp hdistinct
  refine ⟨hperm, hdistinct, fun first hfirst => ?_, hlinked⟩
  obtain ⟨rest, rfl⟩ := List.head?_eq_some_iff.mp hfirst
  have hmem : (digestKey py first, first) ∈ committedReceipts py files :=
    (mem_committedReceipts hfiles).mpr ⟨hperm.mem_iff.mp List.mem_cons_self, rfl⟩
  have hroot := parentKey_first h hmem
  rw [parentKey] at hroot
  split_ifs at hroot with hhashable
  refine ⟨hhashable, fun file hfile hprevious => ?_⟩
  rw [hprevious] at hroot
  have hnone := Option.filter_eq_none_iff.mp (Except.ok.inj hroot) (digestKey py file) rfl
  exact hnone (decide_eq_true (mem_keys_committedReceipts.mpr ⟨file, hfile, rfl⟩))

/-- A receipt with digest `key` has `link` as its link. -/
def Names (py : PyRuntime) (files : List CommittedReceipt) (key link : String) : Prop :=
  ∃ file ∈ files, digestKey py file = key ∧ previousOf file = .str link

/-- Without a cycle of links every receipt is ordered. -/
theorem perm_of_order (hdistinct : (files.map (digestKey py)).Nodup)
    (hacyclic : ∀ key, ¬ TransGen (Names py files) key key)
    (h : orderedKeys py files = .ok (chain.map (digestKey py))) (hsubset : chain ⊆ files) :
    chain.Perm files := by
  have hnodup := nodup_of_orderedKeys h
  obtain ⟨parent, children, hforest, heq, hparent, hkeys⟩ := orderedKeys_eq_ok h
  have hnames : ∀ {a b}, parent a = some b →
      Names py files a b ∧ b ∈ (committedReceipts py files).map Prod.fst := by
    intro a b hb
    obtain ⟨item, hitem, rfl⟩ := List.mem_map.mp (hkeys a b hb)
    obtain ⟨hfile, hkey⟩ := (mem_committedReceipts hdistinct).mp hitem
    have hlink := hparent item hitem
    rw [hb, parentKey_eq_some] at hlink
    exact ⟨⟨item.2, hfile, hkey, hlink.1⟩, hlink.2⟩
  have hfounded : ∀ b, ¬ TransGen (Depends fun a => (parent a).toList) b b := fun b hcycle =>
    hacyclic b (hcycle.lift id fun a c hac => (hnames (by simpa [Depends] using hac)).1)
  have hall : ∀ file ∈ files, digestKey py file ∈ chain.map (digestKey py) := by
    intro file hfile
    have hkey : digestKey py file ∈ (committedReceipts py files).map Prod.fst :=
      mem_keys_committedReceipts.mpr ⟨file, hfile, rfl⟩
    rw [heq]
    refine hforest.mem_preorder (by rw [List.length_map]) (fun a _ b hb => (hnames hb).2) ?_ hkey
    refine acc_of_not_transGen (fun a _ b hb => ?_) hkey hfounded
    exact (hnames (by simpa using hb)).2
  refine (List.perm_ext_iff_of_nodup (hnodup.of_map _) (hdistinct.of_map _)).mpr fun file =>
    ⟨fun hfile => hsubset hfile, fun hfile => ?_⟩
  obtain ⟨other, hother, hkey⟩ := List.mem_map.mp (hall file hfile)
  rwa [← List.inj_on_of_nodup_map hdistinct (hsubset hother) hfile hkey]

/-! ## The parent of a projection -/

/-- The digest in a receipt is the one that its bytes have. -/
def Recomputes (py : PyRuntime) (file : CommittedReceipt) : Prop :=
  ∃ digest, receiptDigestOf py file.receipt = .ok digest ∧
    file.receipt.get "receipt_digest" = .str digest

theorem digestKey_eq_of_get {digest : String}
    (h : file.receipt.get "receipt_digest" = .str digest) :
    digestKey py file = digest := by
  rw [digestKey, h]
  rfl

/-- A turn of the loop for an entry that is projected from a committed receipt. -/
theorem readEntry_eq (hpaths : (files.map CommittedReceipt.path).Nodup) (hfile : file ∈ files)
    (reading : Reading) : readEntry py files reading (entryFor py file) = do
      let recomputed ← receiptDigestOf py file.receipt
      let moved := ¬(file.receipt.get "receipt_digest").eq (.str recomputed) ∨
        recomputed ≠ digestKey py file
      let unlinked := 0 < reading.index ∧ ¬(previousOf file).eq reading.previous
      return {
        index := reading.index + 1
        refusals := reading.refusals ++
          (if moved then [broken (file.path ++ ":recomputed=" ++ recomputed)] else []) ++
          (if unlinked then [broken (file.path ++ ":link")] else [])
        receipts := setItem reading.receipts (digestKey py file) file.receipt
        previous := .str (digestKey py file) } := by
  have hfound : files.find? (·.path = file.path) = some file := by
    obtain ⟨first, last, rfl⟩ := List.append_of_mem hfile
    rw [List.map_append, List.map_cons, List.nodup_append] at hpaths
    rw [List.find?_append, List.find?_eq_none.mpr, Option.none_or, List.find?_cons_of_pos]
    · simp
    · intro other hother
      simpa using hpaths.2.2 other.path (List.mem_map_of_mem hother) file.path (by simp)
  show (match files.find? (·.path = file.path) with | none => _ | some file => _) = _
  rw [hfound]
  rfl

variable {reading reading' : Reading}

/-- What the loop refuses nothing of. -/
theorem refusals_eq_nil_iff (hpaths : (files.map CommittedReceipt.path).Nodup)
    (hsubset : chain ⊆ files) (hprevious : 0 < reading.index → ∃ text, reading.previous = .str text)
    (h : (chain.map (entryFor py)).foldlM (readEntry py files) reading = .ok reading') :
    reading'.refusals = [] ↔ reading.refusals = [] ∧ (∀ file ∈ chain, Recomputes py file) ∧
      (0 < reading.index → ∀ first ∈ chain.head?, previousOf first = reading.previous) ∧
      chain.IsChain (Links py) := by
  induction chain generalizing reading with
  | nil =>
    obtain rfl := Except.ok.inj h
    simp
  | cons file chain ih =>
    obtain ⟨hfile, hsubset⟩ := List.cons_subset.mp hsubset
    rw [List.map_cons, List.foldlM_cons, bind_eq_ok] at h
    obtain ⟨next, hnext, hrest⟩ := h
    rw [readEntry_eq hpaths hfile, bind_eq_ok] at hnext
    obtain ⟨recomputed, hrecomputed, hnext⟩ := hnext
    obtain rfl := pure_eq_ok.mp hnext
    have hdigest : (if ¬((file.receipt.get "receipt_digest").eq (.str recomputed) = true) ∨
        recomputed ≠ digestKey py file then [broken (file.path ++ ":recomputed=" ++ recomputed)]
        else []) = [] ↔ Recomputes py file := by
      rw [ite_eq_right_iff, Value.eq_str]
      simp only [List.cons_ne_nil, imp_false, not_or, not_not]
      constructor
      · rintro ⟨hget, -⟩
        exact ⟨recomputed, hrecomputed, hget⟩
      · rintro ⟨digest, hsame, hget⟩
        obtain rfl := Except.ok.inj (hsame.symm.trans hrecomputed)
        exact ⟨hget, (digestKey_eq_of_get hget).symm⟩
    have hlink : (if 0 < reading.index ∧ ¬((previousOf file).eq reading.previous = true)
        then [broken (file.path ++ ":link")] else []) = [] ↔
        (0 < reading.index → previousOf file = reading.previous) := by
      rw [ite_eq_right_iff]
      simp only [List.cons_ne_nil, imp_false, not_and, not_not]
      refine forall_congr' fun hindex => ?_
      obtain ⟨text, htext⟩ := hprevious hindex
      rw [htext, Value.eq_str]
    rw [ih hsubset (fun _ => ⟨_, rfl⟩) hrest, List.append_eq_nil_iff, List.append_eq_nil_iff,
      hdigest, hlink, List.forall_mem_cons, List.isChain_cons]
    simp only [List.head?_cons, Option.mem_def, Option.some.injEq, forall_eq', Nat.succ_pos,
      forall_const]
    constructor
    · rintro ⟨⟨⟨hnil, hfirst⟩, hprevious⟩, hall, hhead, hchain⟩
      exact ⟨hnil, ⟨hfirst, hall⟩, hprevious, hhead, hchain⟩
    · rintro ⟨hnil, ⟨hfirst, hall⟩, hprevious, hhead, hchain⟩
      exact ⟨⟨⟨hnil, hfirst⟩, hprevious⟩, hall, hhead, hchain⟩

/-- The loop goes through receipts whose digests can be computed. -/
theorem exists_reading (hpaths : (files.map CommittedReceipt.path).Nodup) (hsubset : chain ⊆ files)
    (hall : ∀ file ∈ chain, Recomputes py file) (reading : Reading) :
    ∃ reading', (chain.map (entryFor py)).foldlM (readEntry py files) reading = .ok reading' := by
  induction chain generalizing reading with
  | nil => exact ⟨reading, rfl⟩
  | cons file chain ih =>
    obtain ⟨hfile, hsubset⟩ := List.cons_subset.mp hsubset
    obtain ⟨digest, hdigest, _⟩ := hall file List.mem_cons_self
    obtain ⟨next, hnext⟩ : ∃ next, readEntry py files reading (entryFor py file) = .ok next := by
      rw [readEntry_eq hpaths hfile, hdigest]
      exact ⟨_, rfl⟩
    obtain ⟨reading', hreading⟩ := ih hsubset
      (fun other hother => hall other (List.mem_cons_of_mem _ hother)) next
    exact ⟨reading', by rw [List.map_cons, List.foldlM_cons, hnext]; exact hreading⟩

/-- The last entry's receipt is the one found under its digest. -/
theorem lookup_last (hpaths : (files.map CommittedReceipt.path).Nodup) {last : CommittedReceipt}
    (hlast : last ∈ files)
    (h : ((chain ++ [last]).map (entryFor py)).foldlM (readEntry py files) reading = .ok reading') :
    reading'.receipts.lookup (digestKey py last) = some last.receipt := by
  rw [List.map_append, List.foldlM_append, bind_eq_ok] at h
  obtain ⟨before, -, h⟩ := h
  rw [List.map_singleton, List.foldlM_cons, bind_eq_ok] at h
  obtain ⟨after, hafter, h⟩ := h
  obtain rfl := Except.ok.inj h
  rw [readEntry_eq hpaths hlast, bind_eq_ok] at hafter
  obtain ⟨recomputed, -, hafter⟩ := hafter
  obtain rfl := pure_eq_ok.mp hafter
  rw [lookup_setItem, if_pos rfl]

/-- The projections that a parent is found in: every digest is recomputed and every link leads to
the entry before. -/
theorem readChain_eq_ok (hpaths : (files.map CommittedReceipt.path).Nodup) (hsubset : chain ⊆ files)
    {release head : String} {parent : Dict} :
    readChain py files ⟨release, chain.map (entryFor py),
        (chain.map (entryFor py)).getLast?.map ChainEntry.receiptDigest⟩ =
          .ok (.ok (head, parent)) ↔
      (∀ file ∈ chain, Recomputes py file) ∧ chain.IsChain (Links py) ∧
        ∃ last, chain.getLast? = some last ∧ digestKey py last = head ∧ last.receipt = parent := by
  rcases List.eq_nil_or_concat chain with rfl | ⟨chain, last, rfl⟩
  · simp [readChain]
  rw [List.concat_eq_append] at *
  have hlast : last ∈ files := hsubset (by simp)
  have hgetLast : ((chain ++ [last]).map (entryFor py)).getLast? = some (entryFor py last) := by
    simp
  have hempty : (0 < (0 : ℕ)) → ∀ first ∈ (chain ++ [last]).head?, previousOf first = .null :=
    fun h => absurd h (Nat.lt_irrefl 0)
  simp only [readChain, hgetLast, Option.map_some, List.getLast?_concat, Option.some.injEq,
    exists_eq_left']
  rw [if_neg (not_not.mpr rfl), bind_eq_ok]
  constructor
  · rintro ⟨reading, hreading, hresult⟩
    have hparent := lookup_last hpaths hlast hreading
    have hnil := refusals_eq_nil_iff hpaths hsubset (fun h => absurd h (Nat.lt_irrefl 0)) hreading
    rw [show (entryFor py last).receiptDigest = digestKey py last from rfl, hparent] at hresult
    cases hrefusals : reading.refusals with
    | nil =>
      simp only [hrefusals, pure_eq_ok, Except.ok.injEq, Prod.mk.injEq] at hresult
      obtain ⟨-, hall, -, hchain⟩ := hnil.mp hrefusals
      exact ⟨hall, hchain, hresult⟩
    | cons refusal refusals => simp [hrefusals, pure, Except.pure] at hresult
  · rintro ⟨hall, hchain, rfl, rfl⟩
    obtain ⟨reading, hreading⟩ := exists_reading hpaths hsubset hall {}
    have hparent := lookup_last hpaths hlast hreading
    have hnil := (refusals_eq_nil_iff hpaths hsubset (fun h => absurd h (Nat.lt_irrefl 0))
      hreading).mpr ⟨rfl, hall, hempty, hchain⟩
    refine ⟨reading, hreading, ?_⟩
    rw [show (entryFor py last).receiptDigest = digestKey py last from rfl, hparent, hnil]
    rfl

/-- A receipt that may be a parent: for its standing, and as an ancestor of the attested head. -/
def Admissible (py : PyRuntime) (ancestry : Option (List String)) (file : CommittedReceipt) :
    Prop :=
  standingRefusals py (digestKey py file) file.receipt = .ok [] ∧
    ancestryRefusals py ancestry file.receipt = .ok []

theorem parentOf_eq_ok {document : ChainDocument} {ancestry : Option (List String)}
    {parent : Dict} :
    (∃ blockers, parentOf py files (some document) ancestry = .ok ⟨some parent, [], blockers⟩) ↔
      ∃ head, readChain py files document = .ok (.ok (head, parent)) ∧
        standingRefusals py head parent = .ok [] ∧
          ancestryRefusals py ancestry parent = .ok [] := by
  simp only [parentOf, bind_eq_ok]
  constructor
  · rintro ⟨blockers, result, hresult, h⟩
    cases result with
    | error refusals => simp [pure, Except.pure] at h
    | ok found =>
      obtain ⟨head, found⟩ := found
      simp only [bind_eq_ok] at h
      obtain ⟨standing, hstanding, ancestral, hancestral, h⟩ := h
      simp only [pure_eq_ok, ChainResult.mk.injEq, List.append_eq_nil_iff] at h
      obtain ⟨hparent, ⟨rfl, rfl⟩, -⟩ := h
      obtain rfl := Option.some.inj hparent
      exact ⟨head, hresult, hstanding, hancestral⟩
  · rintro ⟨head, hresult, hstanding, hancestral⟩
    refine ⟨ancestryBlockers ancestry, .ok (head, parent), hresult, ?_⟩
    simp only [hstanding, hancestral]
    rfl

theorem eq_of_map_eq {β : Type} {f : α → β} {xs ys : List α} (h : xs.map f = ys.map f)
    (hinj : ∀ a ∈ xs, ∀ b ∈ ys, f a = f b → a = b) : xs = ys := by
  induction xs generalizing ys with
  | nil => exact (List.map_eq_nil_iff.mp h.symm).symm
  | cons a xs ih =>
    cases ys with
    | nil => cases h
    | cons b ys =>
      obtain ⟨hfirst, hrest⟩ := List.cons.inj h
      rw [hinj a List.mem_cons_self b List.mem_cons_self hfirst, ih hrest fun c hc d hd =>
        hinj c (List.mem_cons_of_mem a hc) d (List.mem_cons_of_mem b hd)]

/-- `order` has every receipt, each linked to the one before, exactly if the receipts are one linear
chain. Of a projection without cycles `parent_of` admits a parent exactly if the receipts are one
linear chain with recomputing digests whose last one is admissible; then that one is the parent. -/
theorem chain_admitted_iff (py : PyRuntime) (files : List CommittedReceipt) :
    (∀ chain : List CommittedReceipt,
      (order py files = .ok (chain.map (entryFor py)) ∧ chain.Perm files ∧
        chain.IsChain (Links py)) ↔ LinearChain py files chain) ∧
    ((files.map CommittedReceipt.path).Nodup → (files.map (digestKey py)).Nodup →
      (∀ key, ¬ TransGen (Names py files) key key) →
      ∀ release document ancestry parent, project py files release = .ok document →
        ((∃ blockers, parentOf py files (some document) ancestry =
            .ok ⟨some parent, [], blockers⟩) ↔
          ∃ chain last, LinearChain py files chain ∧ (∀ file ∈ chain, Recomputes py file) ∧
            chain.getLast? = some last ∧ last.receipt = parent ∧ Admissible py ancestry last)) := by
  constructor
  · intro chain
    constructor
    · rintro ⟨horder, hperm, hlinked⟩
      obtain ⟨others, -, hentries, hkeys⟩ := order_eq_ok horder
      have hdigests := congrArg (List.map ChainEntry.receiptDigest) hentries
      rw [List.map_map, List.map_map] at hdigests
      exact linearChain_of_order (hkeys.trans (congrArg Except.ok hdigests.symm)) hperm hlinked
    · intro h
      exact ⟨order_eq_chain h, h.perm, h.linked⟩
  · intro hpaths hdigests hacyclic release document ancestry parent hproject
    simp only [project, bind_eq_ok, pure_eq_ok] at hproject
    obtain ⟨entries, horder, rfl⟩ := hproject
    obtain ⟨chain, hsubset, rfl, hkeys⟩ := order_eq_ok horder
    have hperm := perm_of_order hdigests hacyclic hkeys hsubset
    rw [parentOf_eq_ok]
    constructor
    · rintro ⟨head, hread, hstanding, hancestral⟩
      obtain ⟨hall, hlinked, last, hlast, rfl, rfl⟩ := (readChain_eq_ok hpaths hsubset).mp hread
      exact ⟨chain, last, linearChain_of_order hkeys hperm hlinked, hall, hlast, rfl, hstanding,
        hancestral⟩
    · rintro ⟨other, last, hchain, hall, hlast, rfl, hstanding, hancestral⟩
      have hsame : other.map (digestKey py) = chain.map (digestKey py) :=
        Except.ok.inj ((orderedKeys_of_linearChain hchain).symm.trans hkeys)
      obtain rfl : other = chain := eq_of_map_eq hsame fun a ha b hb hkey =>
        List.inj_on_of_nodup_map hdigests (hchain.perm.mem_iff.mp ha) (hsubset hb) hkey
      exact ⟨_, (readChain_eq_ok hpaths hsubset).mpr ⟨hall, hchain.linked, last, hlast, rfl, rfl⟩,
        hstanding, hancestral⟩

/-! ## A chain of two -/

/-- A receipt with its own digest. -/
def sealedReceipt (body : Dict) : Dict :=
  body ++ [("receipt_digest", .str (samplePyRuntime.sha256 (compact (.dict body))))]

def firstReceipt : CommittedReceipt where
  path := "receipts/run-1/crown-receipt.json"
  receipt := sealedReceipt [("previous_receipt_digest", .null), ("standing", .str "BLOCKED"),
    ("crown_sha", .str "aa")]

def secondReceipt : CommittedReceipt where
  path := "receipts/run-2/crown-receipt.json"
  receipt := sealedReceipt [("previous_receipt_digest", firstReceipt.receipt.get "receipt_digest"),
    ("standing", .str "ALIVE"), ("crown_sha", .str "bb")]

theorem firstReceipt_ne_secondReceipt :
    digestKey samplePyRuntime firstReceipt ≠ digestKey samplePyRuntime secondReceipt := by
  decide +kernel

theorem linearChain_sample : LinearChain samplePyRuntime [secondReceipt, firstReceipt]
    [firstReceipt, secondReceipt] where
  perm := List.Perm.swap _ _ _
  distinct := by simp [firstReceipt_ne_secondReceipt]
  outside first hfirst := by
    obtain rfl := Option.some.inj hfirst
    exact ⟨rfl, fun file _ => Value.noConfusion⟩
  linked := List.isChain_pair.mpr rfl

theorem acyclic_sample (key : String) :
    ¬ TransGen (Names samplePyRuntime [secondReceipt, firstReceipt]) key key := by
  have hstep : ∀ {a b}, Names samplePyRuntime [secondReceipt, firstReceipt] a b →
      a = digestKey samplePyRuntime secondReceipt ∧ b = digestKey samplePyRuntime firstReceipt := by
    rintro a b ⟨file, hfile, rfl, hlink⟩
    rcases List.mem_pair.mp hfile with rfl | rfl
    · exact ⟨rfl, (Value.str.inj hlink).symm⟩
    · exact Value.noConfusion hlink
  intro hcycle
  obtain ⟨next, hfirst, hrest⟩ := TransGen.head'_iff.mp hcycle
  obtain ⟨last, -, hlast⟩ := TransGen.tail'_iff.mp hcycle
  exact firstReceipt_ne_secondReceipt ((hstep hlast).2.symm.trans (hstep hfirst).1)

/-- The order and the parent of the two receipts, given in the other order. -/
theorem second_admitted :
    (order samplePyRuntime [secondReceipt, firstReceipt] =
      .ok ([firstReceipt, secondReceipt].map (entryFor samplePyRuntime))) ∧
    ∃ document blockers, parentOf samplePyRuntime [secondReceipt, firstReceipt] (some document)
      (some ["bb"]) = .ok ⟨some secondReceipt.receipt, [], blockers⟩ := by
  have horder := ((chain_admitted_iff samplePyRuntime [secondReceipt, firstReceipt]).1
    [firstReceipt, secondReceipt]).mpr linearChain_sample
  obtain ⟨document, hdocument⟩ : ∃ document,
      project samplePyRuntime [secondReceipt, firstReceipt] "v1" = .ok document := by
    rw [project, horder.1]
    exact ⟨_, rfl⟩
  have hall : ∀ file ∈ [firstReceipt, secondReceipt], Recomputes samplePyRuntime file := by
    intro file hfile
    rcases List.mem_pair.mp hfile with rfl | rfl
    · exact ⟨_, rfl, rfl⟩
    · exact ⟨_, rfl, rfl⟩
  exact ⟨horder.1, document, ((chain_admitted_iff samplePyRuntime [secondReceipt, firstReceipt]).2
    (by decide) linearChain_sample.distinct_files acyclic_sample "v1" document (some ["bb"]) _
    hdocument).mpr ⟨_, secondReceipt, linearChain_sample, hall, rfl, rfl, rfl, rfl⟩⟩

/-- A receipt whose digest is none, and one that is its own parent. -/
def forgedReceipt (previous : Value) : CommittedReceipt where
  path := "receipts/run-3/crown-receipt.json"
  receipt := [("previous_receipt_digest", previous), ("receipt_digest", .str "x")]

/-- A receipt of a run that was refused. -/
def refusedReceipt : CommittedReceipt where
  path := "receipts/run-4/crown-receipt.json"
  receipt := sealedReceipt [("previous_receipt_digest", .null), ("standing", .str "REFUSED"),
    ("crown_sha", .str "aa")]

/-- Whether a projection has a parent. -/
def hasParent (files : List CommittedReceipt) (ancestry : Option (List String)) : Option Bool :=
  ((project samplePyRuntime files "v1").toOption.bind fun document =>
    (parentOf samplePyRuntime files (some document) ancestry).toOption).map (·.parent.isSome)

/-- `order` orders a receipt whose digest does not recompute; `parent_of` has no parent in a linear
chain that ends in a refused run; and where one receipt is its own parent, the rest is taken for the
chain. -/
theorem chains_apart :
    (((order samplePyRuntime [forgedReceipt .null]).toOption.map
        (·.map ChainEntry.receiptDigest)) = some ["x"] ∧
      ¬ Recomputes samplePyRuntime (forgedReceipt .null)) ∧
    (LinearChain samplePyRuntime [refusedReceipt] [refusedReceipt] ∧
      Recomputes samplePyRuntime refusedReceipt ∧
      hasParent [refusedReceipt] (some ["aa"]) = some false) ∧
    ((order samplePyRuntime [firstReceipt, forgedReceipt (.str "x")]).toOption.map List.length =
        some 1 ∧
      hasParent [firstReceipt, forgedReceipt (.str "x")] (some ["aa"]) = some true) := by
  obtain ⟨hforged, hdigest, hrefused, hordered, hparent⟩ :
      (order samplePyRuntime [forgedReceipt .null]).toOption.map
          (·.map ChainEntry.receiptDigest) = some ["x"] ∧
        (receiptDigestOf samplePyRuntime (forgedReceipt .null).receipt).toOption ≠ some "x" ∧
        hasParent [refusedReceipt] (some ["aa"]) = some false ∧
        (order samplePyRuntime [firstReceipt, forgedReceipt (.str "x")]).toOption.map List.length =
          some 1 ∧
        hasParent [firstReceipt, forgedReceipt (.str "x")] (some ["aa"]) = some true := by
    decide +kernel
  refine ⟨⟨hforged, ?_⟩, ⟨?_, ⟨_, rfl, rfl⟩, hrefused⟩, hordered, hparent⟩
  · rintro ⟨digest, hsome, hget⟩
    obtain rfl := Value.str.inj hget
    exact hdigest (toOption_eq_some.mpr hsome)
  · refine ⟨.refl _, List.nodup_singleton _, fun first hfirst => ?_, .singleton _⟩
    obtain rfl := Option.some.inj hfirst
    exact ⟨rfl, fun file _ => Value.noConfusion⟩

end ChatmanEcosystem.RootCrown.ReceiptChain
