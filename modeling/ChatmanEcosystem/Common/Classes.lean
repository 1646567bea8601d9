import ChatmanEcosystem.Common.UnionFind
import Mathlib.Data.List.Nodup

/-!
# Classes of a list

The items of a list in the classes that a relation on them generates, found with
a union of every related pair. The classes come in the order of their first
items.

* `mem_classes`: the classes are the connected components of the relation.
* `perm_flatten_classes`: every item is in one class, once.
-/

namespace ChatmanEcosystem.Common

open Relation

variable {α κ : Type*}

/-! ## Groups -/

/-- `groups.setdefault(key, []).append(item)`. -/
def gather [DecidableEq κ] : List (κ × List α) → κ → α → List (κ × List α)
  | [], key, item => [(key, [item])]
  | (other, items) :: groups, key, item =>
    if other = key then (other, items ++ [item]) :: groups
    else (other, items) :: gather groups key item

/-- The items under each key. -/
def gatherAll [DecidableEq κ] (pairs : List (κ × α)) : List (κ × List α) :=
  pairs.foldl (fun groups pair => gather groups pair.1 pair.2) []

section Groups

variable [DecidableEq κ] {groups : List (κ × List α)} {key other : κ} {item : α} {items : List α}

theorem keys_gather : (gather groups key item).map Prod.fst =
    if key ∈ groups.map Prod.fst then groups.map Prod.fst else groups.map Prod.fst ++ [key] := by
  induction groups with
  | nil => rfl
  | cons group groups ih =>
    obtain ⟨other, items⟩ := group
    rw [gather]
    by_cases hkey : other = key
    · simp [hkey]
    · rw [if_neg hkey, List.map_cons, ih]
      by_cases hmem : key ∈ groups.map Prod.fst
      · simp [hmem]
      · simp [hmem, Ne.symm hkey]

theorem gather_of_mem (hnodup : (groups.map Prod.fst).Nodup) (hmem : key ∈ groups.map Prod.fst) :
    gather groups key item =
      groups.map fun group => if group.1 = key then (group.1, group.2 ++ [item]) else group := by
  induction groups with
  | nil => exact absurd hmem List.not_mem_nil
  | cons group groups ih =>
    obtain ⟨other, items⟩ := group
    obtain ⟨hother, hnodup⟩ := List.nodup_cons.mp hnodup
    rw [gather, List.map_cons]
    by_cases hkey : other = key
    · rw [if_pos hkey, if_pos hkey, List.map_congr_left, List.map_id]
      intro group hgroup
      rw [if_neg]
      · rfl
      · intro hsame
        rw [← hsame] at hkey
        exact hother (List.mem_map.mpr ⟨group, hgroup, hkey.symm⟩)
    · rw [if_neg hkey, if_neg hkey, ih hnodup]
      exact (List.mem_cons.mp hmem).resolve_left (Ne.symm hkey)

theorem gather_of_notMem (hmem : key ∉ groups.map Prod.fst) :
    gather groups key item = groups ++ [(key, [item])] := by
  induction groups with
  | nil => rfl
  | cons group groups ih =>
    obtain ⟨hne, hmem⟩ := not_or.mp (mt List.mem_cons.mpr hmem)
    rw [gather, if_neg (Ne.symm hne), ih hmem, List.cons_append]

theorem nodup_gather (hnodup : (groups.map Prod.fst).Nodup) :
    ((gather groups key item).map Prod.fst).Nodup := by
  rw [keys_gather]
  split_ifs with hmem
  · exact hnodup
  · rw [← List.concat_eq_append]
    exact hnodup.concat hmem

variable {pairs : List (κ × α)}

theorem gatherAll_append :
    gatherAll (pairs ++ [(key, item)]) = gather (gatherAll pairs) key item := by
  rw [gatherAll, List.foldl_append, List.foldl_cons, List.foldl_nil, gatherAll]

theorem keys_gatherAll :
    key ∈ (gatherAll pairs).map Prod.fst ↔ key ∈ pairs.map Prod.fst := by
  induction pairs using List.reverseRecOn with
  | nil => rfl
  | append_singleton pairs pair ih =>
    rw [gatherAll_append, keys_gather, List.map_append, List.mem_append, ← ih]
    split_ifs with hmem
    · refine (or_iff_left_of_imp fun hkey => ?_).symm
      rw [List.mem_singleton.mp hkey]
      exact hmem
    · exact List.mem_append

theorem nodup_gatherAll : ((gatherAll pairs).map Prod.fst).Nodup := by
  induction pairs using List.reverseRecOn with
  | nil => exact List.nodup_nil
  | append_singleton pairs pair ih =>
    rw [gatherAll_append]
    exact nodup_gather ih

/-- The group of a key has its items in order. -/
theorem mem_gatherAll : (key, items) ∈ gatherAll pairs ↔
    key ∈ pairs.map Prod.fst ∧ items = (pairs.filter (·.1 = key)).map Prod.snd := by
  induction pairs using List.reverseRecOn generalizing items with
  | nil => simp [gatherAll]
  | append_singleton pairs pair ih =>
    obtain ⟨other, item⟩ := pair
    rw [gatherAll_append, List.map_append, List.mem_append, List.map_singleton, List.mem_singleton,
      List.filter_append, List.map_append]
    by_cases hmem : other ∈ (gatherAll pairs).map Prod.fst
    · rw [gather_of_mem nodup_gatherAll hmem, List.mem_map]
      by_cases hkey : key = other
      · subst hkey
        have hpairs := keys_gatherAll.mp hmem
        simp only [hpairs, true_or, true_and, List.filter_singleton, decide_true, cond_true,
          List.map_singleton]
        constructor
        · rintro ⟨⟨k, before⟩, hgroup, heq⟩
          split_ifs at heq with hk
          · obtain ⟨rfl, rfl⟩ := Prod.mk.inj heq
            rw [(ih.mp hgroup).2]
          · exact absurd (Prod.mk.inj heq).1 hk
        · rintro rfl
          exact ⟨_, ih.mpr ⟨hpairs, rfl⟩, if_pos rfl⟩
      · have hother : decide (other = key) = false := decide_eq_false (Ne.symm hkey)
        rw [or_iff_left hkey, List.filter_singleton, hother, cond_false, List.map_nil,
          List.append_nil, ← ih]
        constructor
        · rintro ⟨⟨k, before⟩, hgroup, heq⟩
          split_ifs at heq with hk
          · exact absurd ((Prod.mk.inj heq).1.symm.trans hk) hkey
          · rwa [heq] at hgroup
        · exact fun hgroup => ⟨_, hgroup, if_neg hkey⟩
    · rw [gather_of_notMem hmem, List.mem_append, List.mem_singleton, ih]
      have hpairs : other ∉ pairs.map Prod.fst := mt keys_gatherAll.mpr hmem
      by_cases hkey : key = other
      · subst hkey
        have hnone : pairs.filter (·.1 = key) = [] := by
          rw [List.filter_eq_nil_iff]
          intro pair hpair hsame
          exact hpairs (List.mem_map.mpr ⟨pair, hpair, of_decide_eq_true hsame⟩)
        simp [hpairs, hnone]
      · have hother : decide (other = key) = false := decide_eq_false (Ne.symm hkey)
        simp [hkey, hother]

/-- The groups have all the items. -/
theorem perm_gather : ((gather groups key item).map Prod.snd).flatten.Perm
    (item :: (groups.map Prod.snd).flatten) := by
  induction groups with
  | nil => exact List.Perm.refl _
  | cons group groups ih =>
    obtain ⟨other, items⟩ := group
    rw [gather]
    split_ifs
    · simp
    · simp only [List.map_cons, List.flatten_cons]
      exact (ih.append_left items).trans List.perm_middle

theorem perm_gatherAll :
    ((gatherAll pairs).map Prod.snd).flatten.Perm (pairs.map Prod.snd) := by
  induction pairs using List.reverseRecOn with
  | nil => exact List.Perm.refl _
  | append_singleton pairs pair ih =>
    rw [gatherAll_append, List.map_append, List.map_singleton]
    exact perm_gather.trans ((ih.cons _).trans (List.perm_append_singleton _ _).symm)

end Groups

/-! ## Classes -/

/-- The pairs of numbers below a size, the smaller one first. -/
def pairsBelow (size : ℕ) : List (ℕ × ℕ) :=
  (List.range size).flatMap fun i => (List.range' (i + 1) (size - (i + 1))).map fun j => (i, j)

/-- The items at a pair of places are related. -/
def relatedAt (related : α → α → Bool) (items : List α) (pair : ℕ × ℕ) : Bool :=
  match items[pair.1]?, items[pair.2]? with
  | some a, some b => related a b
  | _, _ => false

/-- One item goes to the group of its root. -/
def collectRoot (size : ℕ) (state : (ℕ → ℕ) × List (ℕ × List α)) (item : α × ℕ) :
    (ℕ → ℕ) × List (ℕ × List α) :=
  let found := find size state.1 item.2
  (found.1, gather state.2 found.2 item.1)

/-- The classes of the items. -/
def classes (related : α → α → Bool) (items : List α) : List (List α) :=
  let size := items.length
  let parent := ((pairsBelow size).filter (relatedAt related items)).foldl (union size) id
  (items.zipIdx.foldl (collectRoot size) (parent, [])).2.map Prod.snd

/-- Two items are connected by related ones. -/
def Connected (related : α → α → Bool) (items : List α) : α → α → Prop :=
  EqvGen fun a b => a ∈ items ∧ b ∈ items ∧ related a b = true

open Classical in
/-- The items that are connected to an item. -/
noncomputable def component (related : α → α → Bool) (items : List α) (a : α) : List α :=
  items.filter fun b => Connected related items a b

variable {related : α → α → Bool} {items others : List α} {a b : α} {size i j : ℕ}
  {parent parent' : ℕ → ℕ}

theorem mem_component : b ∈ component related items a ↔
    b ∈ items ∧ Connected related items a b := by
  simp only [component, List.mem_filter, decide_eq_true_eq]

theorem mem_pairsBelow {pair : ℕ × ℕ} :
    pair ∈ pairsBelow size ↔ pair.1 < pair.2 ∧ pair.2 < size := by
  obtain ⟨i, j⟩ := pair
  simp only [pairsBelow, List.mem_flatMap, List.mem_range, List.mem_map, List.mem_range'_1,
    Prod.mk.injEq]
  constructor
  · rintro ⟨_, hi, _, hj, rfl, rfl⟩
    omega
  · intro h
    exact ⟨i, by omega, j, by omega, rfl, rfl⟩

theorem relatedAt_eq_true {pair : ℕ × ℕ} : relatedAt related items pair = true ↔
    ∃ a b, items[pair.1]? = some a ∧ items[pair.2]? = some b ∧ related a b = true := by
  unfold relatedAt
  cases items[pair.1]? with
  | none => simp
  | some a =>
    cases items[pair.2]? with
    | none => simp
    | some b => simp

/-! ## Roots -/

/-- The root of a tree is found from every number of it, whichever paths were halved before. -/
theorem find_eq_iff (h : Forest size parent) (hshort : Shortened size parent parent')
    (hi : i < size)
    (hj : j < size) :
    (find size parent i).2 = (find size parent' j).2 ↔ Joined parent i j := by
  have hfirst := find_spec h hi
  have hsecond := find_spec hshort.forest hj
  have hroot := (hshort.roots _).mp hsecond.root
  have hjoined := (hshort.joined _ _).mp hsecond.joined
  constructor
  · intro hsame
    refine hfirst.joined.trans ?_
    rw [hsame]
    exact hjoined.symm
  · intro hij
    exact (hfirst.joined.symm.trans (hij.trans hjoined)).eq_of_root hfirst.root hroot

/-- Collecting halves paths on its way and keeps the roots. -/
theorem foldl_collectRoot (h : Forest size parent) (hshort : Shortened size parent parent')
    {entries : List (α × ℕ)} (hentries : ∀ entry ∈ entries, entry.2 < size)
    (groups : List (ℕ × List α)) :
    (entries.foldl (collectRoot size) (parent', groups)).2 =
      (entries.map fun entry => ((find size parent entry.2).2, entry.1)).foldl
        (fun groups pair => gather groups pair.1 pair.2) groups := by
  induction entries generalizing parent' groups with
  | nil => rfl
  | cons entry entries ih =>
    obtain ⟨hentry, hentries⟩ := List.forall_mem_cons.mp hentries
    have hsame := (find_eq_iff h hshort hentry hentry).mpr (.refl _)
    have hfound := find_spec hshort.forest hentry
    rw [List.foldl_cons, List.map_cons, List.foldl_cons, hsame]
    exact ih (hshort.trans hfound.shortened) hentries _

/-- The forest after all unions. -/
def joinAll (related : α → α → Bool) (items : List α) : ℕ → ℕ :=
  ((pairsBelow items.length).filter (relatedAt related items)).foldl (union items.length) id

theorem forest_joinAll : Forest items.length (joinAll related items) ∧
    ∀ x y, Joined (joinAll related items) x y ↔
      EqvGen (fun x y => (x, y) ∈ (pairsBelow items.length).filter (relatedAt related items)) x
        y := by
  refine joined_unions fun pair hpair => ?_
  obtain ⟨hlt, hsize⟩ := mem_pairsBelow.mp (List.mem_filter.mp hpair).1
  exact ⟨hlt.trans hsize, hsize⟩

/-- Two places are in one tree exactly if their items are connected. -/
theorem joined_joinAll_iff (hsymm : ∀ a b, related a b = related b a) (hnodup : items.Nodup)
    (ha : items[i]? = some a) (hb : items[j]? = some b) :
    Joined (joinAll related items) i j ↔ Connected related items a b := by
  have hplace : ∀ {i j : ℕ} {a : α}, items[i]? = some a → items[j]? = some a → i = j := by
    intro i j a hi hj
    obtain ⟨hlt, -⟩ := List.getElem?_eq_some_iff.mp hi
    exact (List.getElem?_inj hlt hnodup).mp (hi.trans hj.symm)
  have hedge : ∀ {i j : ℕ}, (i, j) ∈ (pairsBelow items.length).filter (relatedAt related items) ↔
      i < j ∧ ∃ a b, items[i]? = some a ∧ items[j]? = some b ∧ related a b = true := by
    intro i j
    rw [List.mem_filter, mem_pairsBelow, relatedAt_eq_true]
    constructor
    · rintro ⟨⟨hlt, -⟩, hrelated⟩
      exact ⟨hlt, hrelated⟩
    · rintro ⟨hlt, a, b, ha, hb, hrelated⟩
      exact ⟨⟨hlt, (List.getElem?_eq_some_iff.mp hb).choose⟩, a, b, ha, hb, hrelated⟩
  rw [forest_joinAll.2]
  constructor
  · intro h
    have hconnected : i = j ∨
        ∃ a b, items[i]? = some a ∧ items[j]? = some b ∧ Connected related items a b := by
      clear ha hb
      induction h with
      | rel x y hmem =>
        obtain ⟨-, a, b, ha, hb, hrelated⟩ := hedge.mp hmem
        exact .inr ⟨a, b, ha, hb, .rel _ _
          ⟨List.mem_of_getElem? ha, List.mem_of_getElem? hb, hrelated⟩⟩
      | refl x => exact .inl rfl
      | symm x y _ ih =>
        rcases ih with rfl | ⟨a, b, ha, hb, hab⟩
        · exact .inl rfl
        · exact .inr ⟨b, a, hb, ha, .symm _ _ hab⟩
      | trans x y z _ _ ih ih' =>
        rcases ih with rfl | ⟨a, b, ha, hb, hab⟩
        · exact ih'
        · rcases ih' with rfl | ⟨b', c, hb', hc, hbc⟩
          · exact .inr ⟨a, b, ha, hb, hab⟩
          · obtain rfl := Option.some.inj (hb.symm.trans hb')
            exact .inr ⟨a, c, ha, hc, .trans _ _ _ hab hbc⟩
    rcases hconnected with rfl | ⟨a', b', ha', hb', hab⟩
    · obtain rfl := Option.some.inj (ha.symm.trans hb)
      exact .refl a
    · obtain rfl := Option.some.inj (ha.symm.trans ha')
      obtain rfl := Option.some.inj (hb.symm.trans hb')
      exact hab
  · intro h
    have hjoined : a = b ∨ ∃ i j, items[i]? = some a ∧ items[j]? = some b ∧
        EqvGen (fun x y => (x, y) ∈ (pairsBelow items.length).filter (relatedAt related items))
          i j := by
      clear ha hb
      induction h with
      | rel a b hmem =>
        obtain ⟨ha, hb, hrelated⟩ := hmem
        obtain ⟨i, hi⟩ := List.mem_iff_getElem?.mp ha
        obtain ⟨j, hj⟩ := List.mem_iff_getElem?.mp hb
        rcases lt_trichotomy i j with hlt | rfl | hlt
        · exact .inr ⟨i, j, hi, hj, .rel _ _ (hedge.mpr ⟨hlt, a, b, hi, hj, hrelated⟩)⟩
        · exact .inl (Option.some.inj (hi.symm.trans hj))
        · rw [hsymm] at hrelated
          exact .inr ⟨i, j, hi, hj, .symm _ _ (.rel _ _ (hedge.mpr ⟨hlt, b, a, hj, hi, hrelated⟩))⟩
      | refl a => exact .inl rfl
      | symm a b _ ih =>
        rcases ih with rfl | ⟨i, j, hi, hj, hij⟩
        · exact .inl rfl
        · exact .inr ⟨j, i, hj, hi, .symm _ _ hij⟩
      | trans a b c _ _ ih ih' =>
        rcases ih with rfl | ⟨i, j, hi, hj, hij⟩
        · exact ih'
        · rcases ih' with rfl | ⟨j', k, hj', hk, hjk⟩
          · exact .inr ⟨i, j, hi, hj, hij⟩
          · obtain rfl := hplace hj hj'
            exact .inr ⟨i, k, hi, hk, .trans _ _ _ hij hjk⟩
    rcases hjoined with rfl | ⟨i', j', hi, hj, hij⟩
    · obtain rfl := hplace ha hb
      exact .refl i
    · obtain rfl := hplace ha hi
      obtain rfl := hplace hb hj
      exact hij

/-- The entries of a list with their roots, as they are collected. -/
def rooted (related : α → α → Bool) (items : List α) : List (ℕ × α) :=
  items.zipIdx.map fun entry => ((find items.length (joinAll related items) entry.2).2, entry.1)

theorem classes_eq : classes related items = (gatherAll (rooted related items)).map Prod.snd := by
  have hentries : ∀ entry ∈ items.zipIdx, entry.2 < items.length := by
    intro entry hentry
    have hget := List.mk_mem_zipIdx_iff_getElem?.mp hentry
    exact (List.getElem?_eq_some_iff.mp hget).choose
  have hforest : Forest items.length (joinAll related items) := forest_joinAll.1
  exact congrArg (List.map Prod.snd) (foldl_collectRoot hforest hforest.shortened hentries [])

theorem map_snd_rooted : (rooted related items).map Prod.snd = items := by
  rw [rooted, List.map_map]
  exact List.zipIdx_map_fst ..

/-- The group of an item's root is the component of the item. -/
theorem filter_rooted (hsymm : ∀ a b, related a b = related b a) (hnodup : items.Nodup)
    (ha : items[i]? = some a) : ((rooted related items).filter fun pair =>
      pair.1 = (find items.length (joinAll related items) i).2).map Prod.snd =
        component related items a := by
  classical
  have hitems : component related items a =
      (items.zipIdx.map Prod.fst).filter fun b => Connected related items a b := by
    rw [List.zipIdx_map_fst, component]
  rw [hitems, rooted, List.filter_map, List.map_map, List.filter_map]
  refine congrArg (List.map Prod.fst) (List.filter_congr fun entry hentry => ?_)
  have hget := List.mem_zipIdx_iff_getElem?.mp hentry
  have hforest : Forest items.length (joinAll related items) := forest_joinAll.1
  have hi := (List.getElem?_eq_some_iff.mp ha).choose
  have hj := (List.getElem?_eq_some_iff.mp hget).choose
  have hsame := (find_eq_iff hforest hforest.shortened hi hj).trans
    (joined_joinAll_iff hsymm hnodup ha hget)
  rw [eq_comm] at hsame
  simp only [Function.comp, hsame]

/-- The classes are the connected components. -/
theorem mem_classes (hsymm : ∀ a b, related a b = related b a) (hnodup : items.Nodup)
    {group : List α} : group ∈ classes related items ↔
      ∃ a ∈ items, group = component related items a := by
  rw [classes_eq, List.mem_map]
  constructor
  · rintro ⟨⟨root, group⟩, hgroup, rfl⟩
    obtain ⟨hroot, hitems⟩ := mem_gatherAll.mp hgroup
    obtain ⟨pair, hpair, rfl⟩ := List.mem_map.mp hroot
    obtain ⟨⟨a, i⟩, hentry, rfl⟩ := List.mem_map.mp hpair
    have ha := List.mk_mem_zipIdx_iff_getElem?.mp hentry
    exact ⟨a, List.mem_of_getElem? ha, hitems.trans (filter_rooted hsymm hnodup ha)⟩
  · rintro ⟨a, ha, rfl⟩
    obtain ⟨i, hi⟩ := List.mem_iff_getElem?.mp ha
    have hentry := List.mk_mem_zipIdx_iff_getElem?.mpr hi
    refine ⟨(_, _), mem_gatherAll.mpr ⟨?_, (filter_rooted hsymm hnodup hi).symm⟩, rfl⟩
    exact List.mem_map.mpr ⟨_, List.mem_map.mpr ⟨_, hentry, rfl⟩, rfl⟩

/-- Every item is in one class, once. -/
theorem perm_flatten_classes : (classes related items).flatten.Perm items := by
  have hperm : ((gatherAll (rooted related items)).map Prod.snd).flatten.Perm
      ((rooted related items).map Prod.snd) := perm_gatherAll
  rwa [map_snd_rooted, ← classes_eq] at hperm

/-- The connected components depend on the members of the list only. -/
theorem connected_congr (h : ∀ a, a ∈ items ↔ a ∈ others) :
    Connected related items = Connected related others := by
  simp only [Connected, h]

theorem mem_component_self (ha : a ∈ items) : a ∈ component related items a :=
  mem_component.mpr ⟨ha, .refl a⟩

/-- Two components with a common item are the same. -/
theorem component_eq (h : Connected related items a b) :
    component related items a = component related items b := by
  unfold component
  refine List.filter_congr fun c _ => decide_eq_decide.mpr ?_
  exact ⟨fun hac => .trans _ _ _ (.symm _ _ h) hac, fun hbc => .trans _ _ _ h hbc⟩

theorem perm_component (h : items.Perm others) :
    (component related items a).Perm (component related others a) := by
  have hsame : Connected related items = Connected related others :=
    connected_congr fun _ => h.mem_iff
  rw [component, component, hsame]
  exact h.filter _

end ChatmanEcosystem.Common
