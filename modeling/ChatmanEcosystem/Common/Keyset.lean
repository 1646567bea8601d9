import Mathlib.Data.List.Nodup
import Mathlib.Order.Lattice

/-!
# Reading a growing collection page by page

A reader asks for the keys after its cursor, the least first and at most `limit`
of them, and moves the cursor to the last key of the page. Keys are added between
the reads, anywhere in the order.

* `page`: what a read returns.
* `Feed`: the keys, the cursor, and what has been delivered so far.
* `Feed.Sound`: nothing is delivered twice, and nothing after the cursor.
* `Feed.Complete`: everything up to the cursor has been delivered.

`Feed.complete_poll` and `Feed.Sound.complete_add` say what a read and an
addition do to completeness, and `Feed.Sound.drained_iff` when an empty page
means that everything has been delivered.
-/

namespace ChatmanEcosystem.Common.Keyset

variable {κ : Type*} [LinearOrder κ]

/-! ## Pages -/

/-- The key comes after the cursor, if there is one. -/
def After (cursor : Option κ) (key : κ) : Prop := ∀ c ∈ cursor, c < key

instance (cursor : Option κ) (key : κ) : Decidable (After cursor key) := by
  unfold After; infer_instance

/-- The first `limit` keys after the cursor. -/
def page (cursor : Option κ) (limit : ℕ) (keys : List κ) : List κ :=
  ((keys.filter (After cursor ·)).mergeSort (· ≤ ·)).take limit

variable {cursor : Option κ} {limit : ℕ} {keys : List κ} {key last : κ}

theorem of_mem_page (h : key ∈ page cursor limit keys) : key ∈ keys ∧ After cursor key := by
  have hmem := List.mem_mergeSort.mp (List.mem_of_mem_take h)
  exact ⟨(List.mem_filter.mp hmem).1, of_decide_eq_true (List.mem_filter.mp hmem).2⟩

theorem pairwise_sorted (cursor : Option κ) (keys : List κ) :
    ((keys.filter (After cursor ·)).mergeSort (· ≤ ·)).Pairwise (· ≤ ·) := by
  have h := @List.pairwise_mergeSort κ (fun a b => decide (a ≤ b))
    (fun a b c hab hbc => decide_eq_true ((of_decide_eq_true hab).trans (of_decide_eq_true hbc)))
    (fun a b => by simpa using le_total a b) (keys.filter (After cursor ·))
  exact h.imp fun hle => of_decide_eq_true hle

theorem pairwise_page : (page cursor limit keys).Pairwise (· ≤ ·) :=
  (pairwise_sorted cursor keys).sublist (List.take_sublist _ _)

theorem nodup_page (h : keys.Nodup) : (page cursor limit keys).Nodup := by
  have hperm := List.mergeSort_perm (keys.filter (After cursor ·)) (· ≤ ·)
  exact (hperm.nodup_iff.mpr (h.filter _)).sublist (List.take_sublist _ _)

/-- The last key of a page is its greatest. -/
theorem le_last (hlast : (page cursor limit keys).getLast? = some last)
    (h : key ∈ page cursor limit keys) : key ≤ last := by
  obtain ⟨init, hpage⟩ := List.getLast?_eq_some_iff.mp hlast
  have hsorted : (page cursor limit keys).Pairwise (· ≤ ·) := pairwise_page
  rw [hpage] at h hsorted
  rcases List.mem_append.mp h with hinit | hsame
  · exact (List.pairwise_append.mp hsorted).2.2 key hinit last List.mem_cons_self
  · exact (List.mem_singleton.mp hsame).le

/-- A page leaves out no key before its last. -/
theorem mem_page_of_le (hlast : (page cursor limit keys).getLast? = some last) (hkey : key ∈ keys)
    (hafter : After cursor key) (hle : key ≤ last) : key ∈ page cursor limit keys := by
  have hsorted := pairwise_sorted cursor keys
  have hmem : key ∈ (keys.filter (After cursor ·)).mergeSort (· ≤ ·) :=
    List.mem_mergeSort.mpr (List.mem_filter.mpr ⟨hkey, decide_eq_true hafter⟩)
  rw [← List.take_append_drop limit ((keys.filter (After cursor ·)).mergeSort (· ≤ ·))]
    at hsorted hmem
  rcases List.mem_append.mp hmem with hpage | hrest
  · exact hpage
  · have hlastMem : last ∈ page cursor limit keys := List.mem_of_getLast? hlast
    have hge : last ≤ key := (List.pairwise_append.mp hsorted).2.2 last hlastMem key hrest
    exact le_antisymm hle hge ▸ hlastMem

/-- A page is empty if none is asked for or no key is left. -/
theorem page_eq_nil : page cursor limit keys = [] ↔
    limit = 0 ∨ ∀ key ∈ keys, ¬ After cursor key := by
  rw [page, List.take_eq_nil_iff, ← List.length_eq_zero_iff, List.length_mergeSort,
    List.length_eq_zero_iff, List.filter_eq_nil_iff]
  simp only [decide_eq_true_eq]

/-! ## The reader -/

/-- The keys so far, the cursor of the reader, and what it has been delivered. -/
structure Feed (κ : Type*) where
  keys : List κ
  cursor : Option κ
  delivered : List κ

namespace Feed

variable {feed : Feed κ}

/-- A key is added. -/
def add (feed : Feed κ) (key : κ) : Feed κ := { feed with keys := feed.keys ++ [key] }

/-- The reader reads a page; after an empty one it keeps its cursor. -/
def poll (feed : Feed κ) (limit : ℕ) : Feed κ :=
  let page := page feed.cursor limit feed.keys
  { feed with
    cursor := page.getLast?.or feed.cursor
    delivered := feed.delivered ++ page }

/-- Keys are different, nothing is delivered twice, and nothing after the cursor. -/
structure Sound (feed : Feed κ) : Prop where
  keys : feed.keys.Nodup
  nodup : feed.delivered.Nodup
  subset : feed.delivered ⊆ feed.keys
  before : ∀ key ∈ feed.delivered, ¬ After feed.cursor key

/-- Every key up to the cursor has been delivered. -/
def Complete (feed : Feed κ) : Prop :=
  ∀ key ∈ feed.keys, ¬ After feed.cursor key → key ∈ feed.delivered

/-- The cursor moves up to the last key of the page. -/
theorem after_poll_iff :
    After (feed.poll limit).cursor key ↔
      After feed.cursor key ∧ ∀ other ∈ page feed.cursor limit feed.keys, other < key := by
  show After ((page feed.cursor limit feed.keys).getLast?.or feed.cursor) key ↔ _
  cases hlast : (page feed.cursor limit feed.keys).getLast? with
  | none =>
    rw [List.getLast?_eq_none_iff.mp hlast]
    simp
  | some last =>
    have hmem : last ∈ page feed.cursor limit feed.keys := List.mem_of_getLast? hlast
    constructor
    · intro hafter
      have hlt : last < key := hafter last rfl
      refine ⟨fun c hc => ((of_mem_page hmem).2 c hc).trans hlt, fun other hother => ?_⟩
      exact (le_last hlast hother).trans_lt hlt
    · rintro ⟨-, hpage⟩ c hc
      exact Option.some.inj hc ▸ hpage last hmem

theorem Sound.add (h : feed.Sound) (hkey : key ∉ feed.keys) : (feed.add key).Sound where
  keys := List.nodup_append.mpr ⟨h.keys, List.nodup_singleton key, fun _ ha _ hb hab =>
    hkey (List.mem_singleton.mp hb ▸ hab ▸ ha)⟩
  nodup := h.nodup
  subset := fun _ hdelivered => List.mem_append_left _ (h.subset hdelivered)
  before := h.before

theorem Sound.poll (h : feed.Sound) (limit : ℕ) : (feed.poll limit).Sound where
  keys := h.keys
  nodup := List.nodup_append.mpr ⟨h.nodup, nodup_page h.keys, fun a ha b hb hab =>
    h.before a ha (hab ▸ (of_mem_page hb).2)⟩
  subset := List.append_subset.mpr ⟨h.subset, fun _ hpage => (of_mem_page hpage).1⟩
  before key hkey hafter := by
    obtain ⟨hold, hpage⟩ := after_poll_iff.mp hafter
    rcases List.mem_append.mp hkey with hdelivered | hnew
    · exact h.before key hdelivered hold
    · exact (hpage key hnew).false

/-- A read keeps a feed complete, and does not make it so. -/
theorem complete_poll (feed : Feed κ) (limit : ℕ) :
    (feed.poll limit).Complete ↔ feed.Complete := by
  constructor
  · intro hcomplete key hkey hbefore
    have hnext := hcomplete key hkey fun hafter => hbefore (after_poll_iff.mp hafter).1
    exact (List.mem_append.mp hnext).resolve_right fun hpage => hbefore (of_mem_page hpage).2
  · intro hcomplete key hkey hbefore
    by_cases hafter : After feed.cursor key
    · -- the key is before the last of the page
      refine List.mem_append_right _ ?_
      cases hlast : (page feed.cursor limit feed.keys).getLast? with
      | none =>
        refine absurd (after_poll_iff.mpr ⟨hafter, fun other hother => ?_⟩) hbefore
        rw [List.getLast?_eq_none_iff.mp hlast] at hother
        cases hother
      | some last =>
        refine mem_page_of_le hlast hkey hafter (le_of_not_gt fun hlt => hbefore ?_)
        exact after_poll_iff.mpr ⟨hafter, fun other hother => (le_last hlast hother).trans_lt hlt⟩
    · exact List.mem_append_left _ (hcomplete key hkey hafter)

/-- A feed stays complete if the new key is after the cursor. -/
theorem Sound.complete_add (h : feed.Sound) (hkey : key ∉ feed.keys) :
    (feed.add key).Complete ↔ feed.Complete ∧ After feed.cursor key := by
  constructor
  · intro hcomplete
    refine ⟨fun other hother => hcomplete other (List.mem_append_left _ hother), ?_⟩
    by_contra hbefore
    exact hkey (h.subset (hcomplete key (List.mem_append_right _ List.mem_cons_self) hbefore))
  · rintro ⟨hcomplete, hafter⟩ other hother hbefore
    rcases List.mem_append.mp hother with hold | hnew
    · exact hcomplete other hold hbefore
    · exact absurd (List.mem_singleton.mp hnew ▸ hafter) hbefore

/-- After an empty page everything has been delivered if the feed is complete and, where no key was
asked for, none is left. -/
theorem Sound.drained_iff (h : feed.Sound) (hpage : page feed.cursor limit feed.keys = []) :
    (∀ key ∈ feed.keys, key ∈ feed.delivered) ↔
      feed.Complete ∧ (limit = 0 → ∀ key ∈ feed.keys, ¬ After feed.cursor key) := by
  constructor
  · intro hall
    exact ⟨fun key hkey _ => hall key hkey, fun _ key hkey => h.before key (hall key hkey)⟩
  · rintro ⟨hcomplete, hzero⟩ key hkey
    refine hcomplete key hkey ?_
    rcases page_eq_nil.mp hpage with hlimit | hnone
    · exact hzero hlimit key hkey
    · exact hnone key hkey

end Feed

end ChatmanEcosystem.Common.Keyset
