import Mathlib.Data.List.Dedup
import Mathlib.Data.List.Induction
import Mathlib.Data.String.Basic

/-!
# Dictionaries

A dictionary is the list of its items, in order of insertion, with a key each.
-/

namespace ChatmanEcosystem.Py

/-! ## What is stored -/

/-- `items[key] = value`. -/
def setItem {β : Type} (items : List (String × β)) (key : String) (value : β) :
    List (String × β) :=
  if key ∈ items.map Prod.fst then items.map fun item => if item.1 = key then (key, value) else item
  else items ++ [(key, value)]

/-- `dict(pairs)`. -/
def ofPairs {β : Type} (pairs : List (String × β)) : List (String × β) :=
  pairs.foldl (fun items pair => setItem items pair.1 pair.2) []

/-- `items.setdefault(key, []).append(value)` for each pair. -/
def collect {β : Type} (pairs : List (String × β)) : List (String × List β) :=
  pairs.foldl (fun items pair => setItem items pair.1 ((items.lookup pair.1).getD [] ++ [pair.2]))
    []

/-- `items.update(others)`. -/
def update {β : Type} (items others : List (String × β)) : List (String × β) :=
  items.map (fun item => (item.1, (others.lookup item.1).getD item.2)) ++
    others.filter (·.1 ∉ items.map Prod.fst)

variable {β : Type} {items pairs : List (String × β)} {key name : String}
  {value : β} {item : String × β}

/-! ## Lookups -/

theorem lookup_setItem :
    (setItem items key value).lookup name =
      if name = key then some value else items.lookup name := by
  have hreplace : ∀ items : List (String × β),
      (items.map fun item => if item.1 = key then (key, value) else item).lookup name =
        if name = key ∧ key ∈ items.map Prod.fst then some value else items.lookup name := by
    intro items
    induction items with
    | nil => simp
    | cons item items ih =>
      obtain ⟨other, old⟩ := item
      rw [List.map_cons, List.lookup_cons, List.lookup_cons, ih]
      by_cases hother : other = key
      · by_cases hname : name = key
        · simp [hother, hname]
        · simp [hother, hname, beq_false_of_ne hname]
      · by_cases hname : name = other
        · simp [hname, hother]
        · have hkey : key ∈ other :: items.map Prod.fst ↔ key ∈ items.map Prod.fst := by
            rw [List.mem_cons]
            exact or_iff_right (Ne.symm hother)
          simp only [if_neg hother, beq_false_of_ne hname, List.map_cons, hkey]
  rw [setItem]
  by_cases hmem : key ∈ items.map Prod.fst
  · rw [if_pos hmem, hreplace]
    simp [hmem]
  · rw [if_neg hmem, List.lookup_append]
    by_cases hname : name = key
    · have hnone : items.lookup name = none := by
        rw [List.lookup_eq_none_iff]
        intro item hitem
        rw [hname, bne_iff_ne]
        exact fun h => hmem (h ▸ List.mem_map_of_mem hitem)
      rw [hnone, if_pos hname, hname]
      simp
    · have hlast : [(key, value)].lookup name = none := by
        rw [List.lookup_cons, beq_false_of_ne hname]
        rfl
      rw [if_neg hname, hlast, Option.or_none]

variable {others : List (String × β)}

theorem lookup_update :
    (update items others).lookup name = (others.lookup name).or (items.lookup name) := by
  have hkept : ∀ items : List (String × β),
      (items.map fun item => (item.1, (others.lookup item.1).getD item.2)).lookup name =
        (items.lookup name).map fun old => (others.lookup name).getD old := by
    intro items
    induction items with
    | nil => rfl
    | cons item items ih =>
      rw [List.map_cons, List.lookup_cons, List.lookup_cons, ih]
      by_cases hname : name = item.1
      · simp [hname]
      · simp [beq_false_of_ne hname]
  have hnew : ∀ others : List (String × β), name ∉ items.map Prod.fst →
      (others.filter (·.1 ∉ items.map Prod.fst)).lookup name = others.lookup name := by
    intro others hname
    induction others with
    | nil => rfl
    | cons other others ih =>
      by_cases hother : other.1 ∈ items.map Prod.fst
      · have hne : name ≠ other.1 := fun h => hname (h ▸ hother)
        rw [List.filter_cons_of_neg (by simpa using hother), ih, List.lookup_cons,
          beq_false_of_ne hne]
      · rw [List.filter_cons_of_pos (by simpa using hother), List.lookup_cons, List.lookup_cons, ih]
  rw [update, List.lookup_append, hkept]
  cases hold : items.lookup name with
  | some old =>
    cases others.lookup name with
    | none => rfl
    | some new => rfl
  | none =>
    have hname : name ∉ items.map Prod.fst := by
      rintro hmem
      obtain ⟨item, hitem, rfl⟩ := List.mem_map.mp hmem
      exact absurd (List.lookup_eq_none_iff.mp hold item hitem) (by simp)
    rw [hnew others hname]
    simp

theorem lookup_ofPairs : (ofPairs pairs).lookup name = pairs.reverse.lookup name := by
  induction pairs using List.reverseRecOn with
  | nil => rfl
  | append_singleton pairs pair ih =>
    rw [ofPairs, List.foldl_append, List.foldl_cons, List.foldl_nil, lookup_setItem, ← ofPairs, ih,
      List.reverse_append, List.reverse_singleton, List.singleton_append, List.lookup_cons]
    by_cases hname : name = pair.1
    · simp [hname]
    · simp [hname, beq_false_of_ne hname]

/-- A dictionary whose values go by the keys. -/
theorem mem_ofPairs {value : String → β} (h : ∀ pair ∈ pairs, pair.2 = value pair.1) :
    item ∈ ofPairs pairs ↔ item.1 ∈ pairs.map Prod.fst ∧ item.2 = value item.1 := by
  have hset : ∀ {items : List (String × β)} {name : String},
      (∀ other, other ∈ items → other.2 = value other.1) → ∀ other : String × β,
      other ∈ setItem items name (value name) ↔ other ∈ items ∨ other = (name, value name) := by
    intro items name hitems other
    rw [setItem]
    by_cases hname : name ∈ items.map Prod.fst
    · rw [if_pos hname]
      have hsame : (items.map fun item => if item.1 = name then (name, value name) else item) =
          items := by
        refine (List.map_congr_left fun item hitem => ?_).trans (List.map_id items)
        by_cases hkey : item.1 = name
        · rw [if_pos hkey, ← hkey, ← hitems item hitem]
          rfl
        · rw [if_neg hkey]
          rfl
      rw [hsame, or_iff_left_of_imp]
      rintro rfl
      obtain ⟨item, hitem, rfl⟩ := List.mem_map.mp hname
      rw [← hitems item hitem]
      exact hitem
    · rw [if_neg hname, List.mem_append, List.mem_singleton]
  induction pairs using List.reverseRecOn generalizing item with
  | nil => simp [ofPairs]
  | append_singleton pairs pair ih =>
    have hbefore : ∀ {item : String × β}, item ∈ ofPairs pairs ↔
        item.1 ∈ pairs.map Prod.fst ∧ item.2 = value item.1 :=
      ih fun pair hpair => h pair (List.mem_append_left _ hpair)
    have hlast : pair.2 = value pair.1 := h pair (by simp)
    have hstep : ofPairs (pairs ++ [pair]) = setItem (ofPairs pairs) pair.1 (value pair.1) := by
      rw [ofPairs, List.foldl_append, List.foldl_cons, List.foldl_nil, hlast]
      rfl
    rw [hstep, hset (fun other hother => (hbefore.mp hother).2), hbefore, List.map_append,
      List.mem_append, List.map_singleton, List.mem_singleton]
    constructor
    · rintro (⟨hkey, hvalue⟩ | rfl)
      · exact ⟨.inl hkey, hvalue⟩
      · exact ⟨.inr rfl, rfl⟩
    · rintro ⟨hkey | hkey, hvalue⟩
      · exact .inl ⟨hkey, hvalue⟩
      · exact .inr (Prod.ext hkey (by rw [hvalue, hkey]))

theorem lookup_collect : (collect pairs).lookup key = if key ∈ pairs.map Prod.fst then
      some ((pairs.filter (·.1 = key)).map Prod.snd) else none := by
  induction pairs using List.reverseRecOn with
  | nil => rfl
  | append_singleton pairs pair ih =>
    have hlast : collect (pairs ++ [pair]) = setItem (collect pairs) pair.1
        (((collect pairs).lookup pair.1).getD [] ++ [pair.2]) := by
      rw [collect, List.foldl_append]
      rfl
    have hfound : ((collect pairs).lookup key).getD [] =
        (pairs.filter (·.1 = key)).map Prod.snd := by
      rw [ih]
      by_cases hmem : key ∈ pairs.map Prod.fst
      · rw [if_pos hmem]
        rfl
      · have hnone : pairs.filter (·.1 = key) = [] := by
          rw [List.filter_eq_nil_iff]
          intro other hother hkey
          exact hmem (List.mem_map.mpr ⟨other, hother, by simpa using hkey⟩)
        rw [if_neg hmem, hnone]
        rfl
    rw [hlast, lookup_setItem]
    by_cases hkey : key = pair.1
    · rw [if_pos hkey, ← hkey, hfound]
      simp [hkey]
    · have hkeys : key ∈ (pairs ++ [pair]).map Prod.fst ↔ key ∈ pairs.map Prod.fst := by
        simp [hkey]
      have hfilter : (pairs ++ [pair]).filter (·.1 = key) = pairs.filter (·.1 = key) := by
        simp [Ne.symm hkey]
      rw [if_neg hkey, ih, hfilter]
      exact (if_congr hkeys rfl rfl).symm

theorem lookup_eq_some_iff (h : (items.map Prod.fst).Nodup) :
    items.lookup key = some value ↔ (key, value) ∈ items := by
  induction items with
  | nil => simp
  | cons item items ih =>
    obtain ⟨name, first⟩ := item
    obtain ⟨hname, hrest⟩ := List.nodup_cons.mp h
    rw [List.lookup_cons]
    by_cases hkey : key = name
    · have hnone : (key, value) ∉ items := fun hmem =>
        hname (List.mem_map.mpr ⟨_, hmem, hkey⟩)
      rw [hkey] at hnone ⊢
      simp [hnone, eq_comm]
    · simp [hkey, beq_false_of_ne hkey, ih hrest]

theorem keys_setItem : (setItem items key value).map Prod.fst =
      if key ∈ items.map Prod.fst then items.map Prod.fst else items.map Prod.fst ++ [key] := by
  rw [setItem]
  by_cases hkey : key ∈ items.map Prod.fst
  · rw [if_pos hkey, if_pos hkey, List.map_map]
    refine List.map_congr_left fun item _ => ?_
    by_cases hitem : item.1 = key
    · simp [hitem]
    · simp [hitem]
  · simp [if_neg hkey]

theorem mem_setItem (h : item ∈ setItem items key value) :
    item = (key, value) ∨ item ∈ items := by
  rw [setItem] at h
  split_ifs at h with hkey
  · obtain ⟨other, hother, rfl⟩ := List.mem_map.mp h
    by_cases hsame : other.1 = key
    · exact .inl (if_pos hsame)
    · rw [if_neg hsame]
      exact .inr hother
  · rcases List.mem_append.mp h with hitem | hitem
    · exact .inr hitem
    · exact .inl (List.mem_singleton.mp hitem)

/-- The keys of a dictionary stay distinct. -/
theorem nodup_setItem (h : (items.map Prod.fst).Nodup) :
    ((setItem items key value).map Prod.fst).Nodup := by
  rw [keys_setItem]
  split_ifs with hkey
  · exact h
  · rw [List.nodup_append]
    refine ⟨h, List.nodup_singleton _, ?_⟩
    intro other hother last hlast hsame
    rw [List.mem_singleton.mp hlast] at hsame
    exact hkey (hsame ▸ hother)

theorem mem_keys_ofPairs : key ∈ (ofPairs pairs).map Prod.fst ↔ key ∈ pairs.map Prod.fst := by
  induction pairs using List.reverseRecOn with
  | nil => rfl
  | append_singleton pairs pair ih =>
    rw [ofPairs, List.foldl_append, List.foldl_cons, List.foldl_nil, ← ofPairs, keys_setItem,
      List.map_append, List.map_singleton, List.mem_append, ← ih]
    split_ifs with hmem
    · refine (or_iff_left_of_imp fun hkey => ?_).symm
      rw [List.mem_singleton.mp hkey]
      exact hmem
    · rw [List.mem_append]

theorem nodup_ofPairs : ((ofPairs pairs).map Prod.fst).Nodup := by
  induction pairs using List.reverseRecOn with
  | nil => exact List.nodup_nil
  | append_singleton pairs pair ih =>
    rw [ofPairs, List.foldl_append]
    exact nodup_setItem ih

theorem nodup_update (h : (items.map Prod.fst).Nodup) (hothers : (others.map Prod.fst).Nodup) :
    ((update items others).map Prod.fst).Nodup := by
  rw [update, List.map_append, List.map_map, List.nodup_append]
  refine ⟨h, hothers.sublist (List.filter_sublist.map _), ?_⟩
  rintro name hname other hother rfl
  obtain ⟨item, hitem, rfl⟩ := List.mem_map.mp hother
  have hnew : item.1 ∉ items.map Prod.fst := by simpa using List.of_mem_filter hitem
  exact hnew hname

theorem nodup_collect : ((collect pairs).map Prod.fst).Nodup := by
  induction pairs using List.reverseRecOn with
  | nil => exact List.nodup_nil
  | append_singleton pairs pair ih =>
    rw [collect, List.foldl_append]
    exact nodup_setItem ih

/-- The groups of pairs with one key. -/
theorem mem_collect {values : List β} : (key, values) ∈ collect pairs ↔
    key ∈ pairs.map Prod.fst ∧ values = (pairs.filter (·.1 = key)).map Prod.snd := by
  rw [← lookup_eq_some_iff nodup_collect, lookup_collect]
  by_cases hkey : key ∈ pairs.map Prod.fst
  · rw [if_pos hkey, Option.some_inj, eq_comm]
    exact (and_iff_right hkey).symm
  · rw [if_neg hkey]
    exact ⟨nofun, fun h => absurd h.1 hkey⟩

end ChatmanEcosystem.Py
