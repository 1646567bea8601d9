import Mathlib.Data.List.Perm.Subperm
import Mathlib.Data.List.Range

/-!
# Union-find

A forest over the numbers below a size is the parent of each number; a root is its own parent.
`find` halves the path on its way to the root, `union` hangs one root below another.

* `Forest`: parents stay in range and no path comes back.
* `Joined`: two numbers are in one tree.
* `find_spec`: `find` comes to the root of the tree and changes no tree.
* `joined_unions`: after the unions of some pairs the trees are the classes that the pairs generate.
-/

namespace ChatmanEcosystem.Common

open Relation

/-! ## The operations -/

/-- `parent[x] = parent[parent[x]]`. -/
def halve (parent : ℕ → ℕ) (x : ℕ) : ℕ → ℕ := Function.update parent x (parent (parent x))

/-- The root of a number, and the parents with the path halved. -/
def find : ℕ → (ℕ → ℕ) → ℕ → (ℕ → ℕ) × ℕ
  | 0, parent, x => (parent, x)
  | fuel + 1, parent, x =>
    if parent x = x then (parent, x) else find fuel (halve parent x) (halve parent x x)

/-- The trees of two numbers become one. -/
def union (size : ℕ) (parent : ℕ → ℕ) (pair : ℕ × ℕ) : ℕ → ℕ :=
  let first := find size parent pair.1
  let second := find size first.1 pair.2
  if first.2 ≠ second.2 then Function.update second.1 second.2 first.2 else second.1

/-! ## Forests -/

/-- A rank falls towards the root. -/
def Ranked (parent rank : ℕ → ℕ) : Prop := ∀ x, parent x ≠ x → rank (parent x) < rank x

/-- Parents are below the size, and a path to the root comes to an end. -/
structure Forest (size : ℕ) (parent : ℕ → ℕ) : Prop where
  below : ∀ x < size, parent x < size
  ranked : ∃ rank, Ranked parent rank

/-- Two numbers are in one tree. -/
def Joined (parent : ℕ → ℕ) : ℕ → ℕ → Prop := EqvGen fun x y => parent x = y

instance joined_equiv (parent : ℕ → ℕ) : IsEquiv ℕ (Joined parent) :=
  inferInstanceAs (IsEquiv ℕ (EqvGen _))

variable {size fuel : ℕ} {parent parent' rank : ℕ → ℕ} {x y a b : ℕ}

theorem joined_parent : Joined parent x (parent x) := .rel _ _ rfl

theorem Joined.trans {z : ℕ} (h : Joined parent x y) (h' : Joined parent y z) :
    Joined parent x z := EqvGen.trans _ _ _ h h'

theorem Joined.symm (h : Joined parent x y) : Joined parent y x := EqvGen.symm _ _ h

/-- Trees that hold every edge of a forest hold its trees. -/
theorem Joined.le (h : Joined parent x y) {rel : ℕ → ℕ → Prop} [IsEquiv ℕ rel]
    (hedges : ∀ x, rel x (parent x)) : rel x y := by
  refine EqvGen.eqvGen_le ?_ x y h
  rintro a _ rfl
  exact hedges a

theorem forest_id : Forest size id := ⟨fun _ h => h, fun x => x, fun _ h => absurd rfl h⟩

theorem joined_id : Joined id x y ↔ x = y := by
  constructor
  · exact fun h => h.le fun _ => rfl
  · rintro rfl
    exact .refl x

/-- A tree has one root. -/
theorem Joined.eq_of_root (h : Joined parent x y) (hx : parent x = x) (hy : parent y = y) :
    x = y := by
  have hequiv := equivalence_join_reflTransGen (r := fun x y => parent x = y)
    fun a b c hb hc => ⟨b, .refl, by rw [← hb, ← hc]⟩
  have hjoin : Join (ReflTransGen fun x y => parent x = y) x y := by
    refine (hequiv.eqvGen_iff).mp (EqvGen.mono ?_ x y h)
    intro a b hab
    exact ⟨b, .single hab, .refl⟩
  have hstay : ∀ {r z}, parent r = r → ReflTransGen (fun x y => parent x = y) r z → z = r := by
    intro r z hr hpath
    induction hpath with
    | refl => rfl
    | tail _ hstep ih => rw [← hstep, ih, hr]
  obtain ⟨z, hxz, hyz⟩ := hjoin
  rw [← hstay hx hxz, ← hstay hy hyz]

/-! ## Finding a root -/

/-- What an operation that only shortens paths keeps. -/
structure Shortened (size : ℕ) (parent parent' : ℕ → ℕ) : Prop where
  forest : Forest size parent'
  joined : ∀ x y, Joined parent' x y ↔ Joined parent x y
  roots : ∀ x, parent' x = x ↔ parent x = x

theorem Forest.shortened (h : Forest size parent) : Shortened size parent parent :=
  ⟨h, fun _ _ => .rfl, fun _ => .rfl⟩

theorem Shortened.trans {parent'' : ℕ → ℕ} (h : Shortened size parent parent')
    (h' : Shortened size parent' parent'') : Shortened size parent parent'' where
  forest := h'.forest
  joined x y := (h'.joined x y).trans (h.joined x y)
  roots x := (h'.roots x).trans (h.roots x)

theorem halve_self : halve parent x x = parent (parent x) := Function.update_self ..

theorem halve_of_ne (h : y ≠ x) : halve parent x y = parent y := Function.update_of_ne h ..

/-- The grandparent of a number that is no root is further up. -/
theorem Ranked.grandparent (h : Ranked parent rank) (hroot : parent x ≠ x) :
    rank (parent (parent x)) < rank x := by
  by_cases hparent : parent (parent x) = parent x
  · rw [hparent]
    exact h x hroot
  · exact (h _ hparent).trans (h x hroot)

theorem Ranked.halve (h : Ranked parent rank) (hroot : parent x ≠ x) :
    Ranked (halve parent x) rank := by
  intro y hy
  by_cases hyx : y = x
  · rw [hyx, halve_self]
    exact h.grandparent hroot
  · rw [halve_of_ne hyx] at hy ⊢
    exact h y hy

theorem shortened_halve (h : Forest size parent) (hx : x < size) (hroot : parent x ≠ x) :
    Shortened size parent (halve parent x) := by
  obtain ⟨rank, hrank⟩ := h.ranked
  constructor
  · refine ⟨fun y hy => ?_, rank, hrank.halve hroot⟩
    by_cases hyx : y = x
    · rw [hyx, halve_self]
      exact h.below _ (h.below x hx)
    · rw [halve_of_ne hyx]
      exact h.below y hy
  · intro y z
    constructor
    · refine fun hjoined => hjoined.le fun w => ?_
      by_cases hwx : w = x
      · rw [hwx, halve_self]
        exact joined_parent.trans joined_parent
      · rw [halve_of_ne hwx]
        exact joined_parent
    · refine fun hjoined => hjoined.le fun w => ?_
      by_cases hwx : w = x
      · have hself : Joined (halve parent x) x (parent (parent x)) := .rel _ _ halve_self
        have hgrand : Joined (halve parent x) (parent x) (parent (parent x)) :=
          .rel _ _ (halve_of_ne hroot)
        rw [hwx]
        exact hself.trans hgrand.symm
      · exact .rel _ _ (halve_of_ne hwx)
  · intro y
    by_cases hyx : y = x
    · rw [hyx, halve_self]
      refine iff_of_false (fun hloop => ?_) hroot
      have hup := hrank.grandparent hroot
      rw [hloop] at hup
      exact lt_irrefl _ hup
    · rw [halve_of_ne hyx]

/-- What `find` returns. -/
structure Finds (size : ℕ) (parent : ℕ → ℕ) (x : ℕ) (result : (ℕ → ℕ) × ℕ) : Prop where
  shortened : Shortened size parent result.1
  below : result.2 < size
  root : parent result.2 = result.2
  joined : Joined parent x result.2

/-- `find` comes to a root before the steps are used up: the numbers that it has passed are below
each other, so there are not more of them than the size. -/
theorem finds_of_seen (h : Forest size parent) (hx : x < size) (hrank : Ranked parent rank)
    {seen : List ℕ} (hseen : ∀ y ∈ seen, y < size ∧ rank x < rank y) (hnodup : seen.Nodup)
    (hfuel : size ≤ fuel + seen.length) : Finds size parent x (find fuel parent x) := by
  have hnew : x ∉ seen := fun hmem => lt_irrefl _ (hseen x hmem).2
  have hnodup' : (x :: seen).Nodup := List.nodup_cons.mpr ⟨hnew, hnodup⟩
  have hbelow : ∀ y ∈ x :: seen, y < size :=
    List.forall_mem_cons.mpr ⟨hx, fun y hy => (hseen y hy).1⟩
  induction fuel generalizing parent x seen with
  | zero =>
    have hsub : x :: seen ⊆ List.range size := fun y hy => List.mem_range.mpr (hbelow y hy)
    have hle := (hnodup'.subperm hsub).length_le
    rw [List.length_cons, List.length_range] at hle
    omega
  | succ fuel ih =>
    rw [find]
    split_ifs with hroot
    · exact ⟨h.shortened, hx, hroot, .refl x⟩
    · have hshort := shortened_halve h hx hroot
      have hup : rank (halve parent x x) < rank x := by
        rw [halve_self]
        exact hrank.grandparent hroot
      have hseen' : ∀ y ∈ x :: seen, y < size ∧ rank (halve parent x x) < rank y :=
        List.forall_mem_cons.mpr ⟨⟨hx, hup⟩, fun y hy => ⟨(hseen y hy).1, hup.trans (hseen y hy).2⟩⟩
      have hnew' : halve parent x x ∉ x :: seen := fun hmem => lt_irrefl _ (hseen' _ hmem).2
      have hx' := hshort.forest.below x hx
      have hfinds := ih hshort.forest hx' (hrank.halve hroot) hseen' hnodup'
        (by rw [List.length_cons]; omega) hnew' (List.nodup_cons.mpr ⟨hnew', hnodup'⟩)
        (List.forall_mem_cons.mpr ⟨hx', hbelow⟩)
      refine ⟨hshort.trans hfinds.shortened, hfinds.below, (hshort.roots _).mp hfinds.root, ?_⟩
      refine (hshort.joined _ _).mp (Joined.trans ?_ hfinds.joined)
      exact joined_parent

theorem find_spec (h : Forest size parent) (hx : x < size) :
    Finds size parent x (find size parent x) := by
  obtain ⟨rank, hrank⟩ := h.ranked
  exact finds_of_seen h hx hrank (fun _ h => absurd h List.not_mem_nil) List.nodup_nil
    (Nat.le_add_right ..)

/-! ## Joining trees -/

/-- A root that is hung below another one. -/
theorem Forest.link (h : Forest size parent) (ha : a < size) (hroot : parent a = a)
    (hroot' : parent b = b) (hne : a ≠ b) : Forest size (Function.update parent b a) := by
  classical
  obtain ⟨rank, hrank⟩ := h.ranked
  have hapart : ¬ Joined parent a b := fun hjoined => hne (hjoined.eq_of_root hroot hroot')
  -- the tree of `b` goes below `a`
  refine ⟨fun y hy => ?_, fun y => if Joined parent y b then rank y + rank a + 1 else rank y,
    fun y hy => ?_⟩
  · by_cases hyb : y = b
    · rw [hyb, Function.update_self]
      exact ha
    · rw [Function.update_of_ne hyb]
      exact h.below y hy
  · by_cases hyb : y = b
    · rw [hyb, Function.update_self]
      simp only [hapart, if_false]
      rw [if_pos (.refl b)]
      omega
    · rw [Function.update_of_ne hyb] at hy ⊢
      have hup := hrank y hy
      have hsame : Joined parent (parent y) b ↔ Joined parent y b :=
        ⟨fun hjoined => joined_parent.trans hjoined, fun hjoined => joined_parent.symm.trans
          hjoined⟩
      simp only [hsame]
      split_ifs
      · omega
      · exact hup

theorem joined_link (hroot' : parent b = b) : Joined (Function.update parent b a) x y ↔
    EqvGen (fun x y => Joined parent x y ∨ x = a ∧ y = b) x y := by
  constructor
  · refine fun hjoined => hjoined.le fun w => ?_
    by_cases hwb : w = b
    · rw [hwb, Function.update_self]
      exact .symm _ _ (.rel _ _ (.inr ⟨rfl, rfl⟩))
    · rw [Function.update_of_ne hwb]
      exact .rel _ _ (.inl joined_parent)
  · refine EqvGen.eqvGen_le ?_ x y
    rintro z w (hjoined | ⟨rfl, rfl⟩)
    · refine hjoined.le fun v => ?_
      by_cases hvb : v = b
      · rw [hvb, hroot']
        exact .refl b
      · exact .rel _ _ (Function.update_of_ne hvb ..)
    · exact Joined.symm (.rel _ _ (Function.update_self ..))

/-- A union joins the trees of the pair and no others. -/
theorem union_spec (h : Forest size parent) {pair : ℕ × ℕ} (ha : pair.1 < size)
    (hb : pair.2 < size) : Forest size (union size parent pair) ∧
      ∀ x y, Joined (union size parent pair) x y ↔
        EqvGen (fun x y => Joined parent x y ∨ (x, y) = pair) x y := by
  have hfirst := find_spec h ha
  have hsecond := find_spec hfirst.shortened.forest hb
  have hshort := hfirst.shortened.trans hsecond.shortened
  have hroot := (hshort.roots _).mpr hfirst.root
  have hroot' := (hsecond.shortened.roots _).mpr hsecond.root
  have hjoined' : Joined parent pair.2 (find size (find size parent pair.1).1 pair.2).2 :=
    (hfirst.shortened.joined _ _).mp hsecond.joined
  simp only [union]
  split_ifs with hne
  · refine ⟨hshort.forest.link hfirst.below hroot hroot' hne, fun x y => ?_⟩
    rw [joined_link hroot']
    constructor
    · refine EqvGen.eqvGen_le ?_ x y
      rintro z w (hjoined | ⟨rfl, rfl⟩)
      · exact .rel _ _ (.inl ((hshort.joined _ _).mp hjoined))
      · have hpair : EqvGen (fun x y => Joined parent x y ∨ (x, y) = pair) pair.1 pair.2 :=
          .rel _ _ (.inr rfl)
        exact .trans _ _ _ (.rel _ _ (.inl hfirst.joined.symm))
          (.trans _ _ _ hpair (.rel _ _ (.inl hjoined')))
    · refine EqvGen.eqvGen_le ?_ x y
      rintro z w (hjoined | rfl)
      · exact .rel _ _ (.inl ((hshort.joined _ _).mpr hjoined))
      · exact .trans _ _ _ (.rel _ _ (.inl ((hshort.joined _ _).mpr hfirst.joined)))
          (.trans _ _ _ (.rel _ _ (.inr ⟨rfl, rfl⟩))
            (.rel _ _ (.inl ((hshort.joined _ _).mpr hjoined'.symm))))
  · refine ⟨hshort.forest, fun x y => (hshort.joined x y).trans ⟨fun hold => ?_, ?_⟩⟩
    · exact .rel _ _ (.inl hold)
    refine EqvGen.eqvGen_le ?_ x y
    rintro z w (hjoined | rfl)
    · exact hjoined
    · refine hfirst.joined.trans ?_
      rw [not_not.mp hne]
      exact hjoined'.symm

/-- After the unions of some pairs the trees are the classes that the pairs generate. -/
theorem joined_unions {pairs : List (ℕ × ℕ)} (h : ∀ pair ∈ pairs, pair.1 < size ∧ pair.2 < size) :
    Forest size (pairs.foldl (union size) id) ∧
      ∀ x y, Joined (pairs.foldl (union size) id) x y ↔
        EqvGen (fun x y => (x, y) ∈ pairs) x y := by
  induction pairs using List.reverseRecOn with
  | nil =>
    refine ⟨forest_id, fun x y => joined_id.trans ⟨?_, fun hgen => ?_⟩⟩
    · rintro rfl
      exact .refl x
    · exact EqvGen.eqvGen_le (fun _ _ hmem => absurd hmem List.not_mem_nil) x y hgen
  | append_singleton pairs pair ih =>
    obtain ⟨hforest, hjoined⟩ := ih fun other hother => h other (List.mem_append_left _ hother)
    obtain ⟨ha, hb⟩ := h pair (List.mem_append_right _ (List.mem_singleton_self pair))
    obtain ⟨hforest', hjoined'⟩ := union_spec hforest ha hb
    rw [List.foldl_append]
    refine ⟨hforest', fun x y => (hjoined' x y).trans ⟨?_, ?_⟩⟩
    · refine EqvGen.eqvGen_le ?_ x y
      rintro z w (hold | hnew)
      · refine EqvGen.mono ?_ z w ((hjoined z w).mp hold)
        exact fun _ _ hmem => List.mem_append_left _ hmem
      · exact .rel _ _ (List.mem_append_right _ (List.mem_singleton.mpr hnew))
    · refine EqvGen.mono ?_ x y
      intro z w hmem
      rcases List.mem_append.mp hmem with hold | hnew
      · exact .inl ((hjoined z w).mpr (.rel _ _ hold))
      · exact .inr (List.mem_singleton.mp hnew)

end ChatmanEcosystem.Common
