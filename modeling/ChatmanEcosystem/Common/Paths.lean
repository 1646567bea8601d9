import Mathlib.Data.List.Infix

/-!
# Paths

A path is the list of its segments. `normalise` gives the names of the directories that an absolute
path goes through: an empty segment and `.` stay where they are, `..` goes up by one.

Results:

* `normalise_append_of_not_climbs`: what a relative path adds to its root.
* `forall_below_iff`: the relative paths that stay below every root.
-/

namespace ChatmanEcosystem.Common

/-- `..`. -/
def parentSegment : List Char := ['.', '.']

/-- A segment that goes somewhere. -/
def Moves (segment : List Char) : Prop := segment ≠ [] ∧ segment ≠ ['.']

instance : DecidablePred Moves := fun _ => inferInstanceAs (Decidable (_ ∧ _))

/-- The names after one more segment. -/
def walk (names : List (List Char)) (segment : List Char) : List (List Char) :=
  if Moves segment then
    if segment = parentSegment then names.dropLast else names ++ [segment]
  else names

/-- The names that an absolute path goes through. -/
def normalise (path : List (List Char)) : List (List Char) := path.foldl walk []

/-- A path below another one. -/
def Below (root path : List (List Char)) : Prop :=
  normalise root <+: normalise path ∧ normalise root ≠ normalise path

/-- A walk that goes above the directory it begins in, when it begins so deep below the root. -/
def Climbs : ℕ → List (List Char) → Prop
  | _, [] => False
  | depth, segment :: segments =>
    if Moves segment then
      if segment = parentSegment then depth = 0 ∨ Climbs (depth - 1) segments
      else Climbs (depth + 1) segments
    else Climbs depth segments

variable {names root segments : List (List Char)} {name segment : List Char}

theorem normalise_append : normalise (root ++ segments) = segments.foldl walk (normalise root) :=
  List.foldl_append

/-- Segments among which there is no `..` only go down. -/
theorem foldl_walk (h : parentSegment ∉ segments) :
    segments.foldl walk names = names ++ segments.filter (Moves ·) := by
  induction segments generalizing names with
  | nil => simp
  | cons segment segments ih =>
    rw [List.mem_cons, not_or] at h
    rw [List.foldl_cons, ih h.2, walk]
    by_cases hmoves : Moves segment
    · rw [if_pos hmoves, if_neg (Ne.symm h.1), List.filter_cons_of_pos (by simpa using hmoves),
        List.append_assoc, List.singleton_append]
    · rw [if_neg hmoves, List.filter_cons_of_neg (by simpa using hmoves)]

theorem mem_foldl_walk (h : name ∈ segments.foldl walk names) : name ∈ names ∨ name ∈ segments := by
  induction segments generalizing names with
  | nil => exact .inl h
  | cons segment segments ih =>
    rw [List.foldl_cons] at h
    rcases ih h with hnames | hsegments
    · rw [walk] at hnames
      split_ifs at hnames
      · exact .inl (List.mem_of_mem_dropLast hnames)
      · rcases List.mem_append.mp hnames with hnames | hlast
        · exact .inl hnames
        · exact .inr (by rw [List.mem_singleton.mp hlast]; exact List.mem_cons_self)
      · exact .inl hnames
    · exact .inr (List.mem_cons_of_mem _ hsegments)

/-- A walk that does not climb leaves the names of the root alone. -/
theorem foldl_walk_append (root : List (List Char)) (h : ¬ Climbs names.length segments) :
    segments.foldl walk (root ++ names) = root ++ segments.foldl walk names := by
  induction segments generalizing names with
  | nil => rfl
  | cons segment segments ih =>
    rw [Climbs] at h
    rw [List.foldl_cons, List.foldl_cons, walk, walk]
    by_cases hmoves : Moves segment
    · rw [if_pos hmoves] at h ⊢
      rw [if_pos hmoves]
      by_cases hparent : segment = parentSegment
      · rw [if_pos hparent] at h ⊢
        rw [if_pos hparent]
        obtain ⟨hlength, hclimbs⟩ := not_or.mp h
        have hne : names ≠ [] := fun hnil => hlength (by rw [hnil]; rfl)
        rw [List.dropLast_append_of_ne_nil hne]
        refine ih ?_
        rw [List.length_dropLast]
        exact hclimbs
      · rw [if_neg hparent] at h ⊢
        rw [if_neg hparent, List.append_assoc]
        refine ih ?_
        rw [List.length_append, List.length_singleton]
        exact h
    · rw [if_neg hmoves] at h ⊢
      rw [if_neg hmoves]
      exact ih h

theorem normalise_append_of_not_climbs (h : ¬ Climbs 0 segments) :
    normalise (root ++ segments) = normalise root ++ normalise segments := by
  have hwalk := @foldl_walk_append [] segments (normalise root) h
  rw [List.append_nil] at hwalk
  rw [normalise_append, hwalk]
  rfl

/-- Where a walk climbs: it comes back to the root and goes up. -/
theorem exists_of_climbs (h : Climbs names.length segments) : ∃ inner outer,
    segments = inner ++ parentSegment :: outer ∧ ¬ Climbs names.length inner ∧
      inner.foldl walk names = [] := by
  induction segments generalizing names with
  | nil => exact absurd h id
  | cons segment segments ih =>
    rw [Climbs] at h
    have hlater : ∀ {later : List (List Char)}, walk names segment = later →
        (∀ inner, ¬ Climbs later.length inner → ¬ Climbs names.length (segment :: inner)) →
        Climbs later.length segments → ∃ inner outer,
          segment :: segments = inner ++ parentSegment :: outer ∧ ¬ Climbs names.length inner ∧
            inner.foldl walk names = [] := by
      intro later hwalk hkeep hclimbs
      obtain ⟨inner, outer, heq, hinner, hnil⟩ := ih hclimbs
      refine ⟨segment :: inner, outer, by rw [heq]; rfl, hkeep inner hinner, ?_⟩
      rw [List.foldl_cons, hwalk]
      exact hnil
    by_cases hmoves : Moves segment
    · rw [if_pos hmoves] at h
      by_cases hparent : segment = parentSegment
      · rw [if_pos hparent] at h
        rcases h with hlength | hclimbs
        · refine ⟨[], segments, by rw [hparent]; rfl, id, ?_⟩
          exact List.length_eq_zero_iff.mp hlength
        · by_cases hlength : names.length = 0
          · exact ⟨[], segments, by rw [hparent]; rfl, id, List.length_eq_zero_iff.mp hlength⟩
          · have hdrop : names.dropLast.length = names.length - 1 := List.length_dropLast
            refine hlater (by rw [walk, if_pos hmoves, if_pos hparent]) (fun inner hinner => ?_)
              (by rw [hdrop]; exact hclimbs)
            rw [Climbs, if_pos hmoves, if_pos hparent, not_or]
            exact ⟨hlength, by rw [← hdrop]; exact hinner⟩
      · rw [if_neg hparent] at h
        have hlength : (names ++ [segment]).length = names.length + 1 := by simp
        refine hlater (by rw [walk, if_pos hmoves, if_neg hparent]) (fun inner hinner => ?_)
          (by rw [hlength]; exact h)
        rw [Climbs, if_pos hmoves, if_neg hparent, ← hlength]
        exact hinner
    · rw [if_neg hmoves] at h
      refine hlater (by rw [walk, if_neg hmoves]) (fun inner hinner => ?_) h
      rw [Climbs, if_neg hmoves]
      exact hinner

/-- A relative path that climbs leaves some root. -/
theorem exists_not_below (h : Climbs 0 segments) : ∃ root, ¬ Below root (root ++ segments) := by
  obtain ⟨inner, outer, rfl, hinner, hnil⟩ := @exists_of_climbs [] segments h
  -- a name longer than all the segments together is none of them
  have hlong : 'd' :: outer.flatten ∉ outer := by
    intro hmem
    have hle : ('d' :: outer.flatten).length ≤ outer.flatten.length :=
      (List.sublist_flatten_of_mem hmem).length_le
    rw [List.length_cons] at hle
    omega
  have hroot : normalise ['d' :: outer.flatten] = ['d' :: outer.flatten] := by
    have hmoves : Moves ('d' :: outer.flatten) := ⟨by simp, by simp⟩
    have hparent : 'd' :: outer.flatten ≠ parentSegment := by simp [parentSegment]
    rw [normalise, List.foldl_cons, List.foldl_nil, walk, if_pos hmoves, if_neg hparent]
    rfl
  have hback : inner.foldl walk ['d' :: outer.flatten] = ['d' :: outer.flatten] := by
    have hwalk := @foldl_walk_append [] inner ['d' :: outer.flatten] hinner
    rw [hnil, List.append_nil] at hwalk
    exact hwalk
  have hup : walk ['d' :: outer.flatten] parentSegment = [] := by
    rw [walk, if_pos (by decide), if_pos rfl]
    rfl
  refine ⟨['d' :: outer.flatten], fun hbelow => ?_⟩
  have hrooted := hbelow.1
  rw [normalise_append, List.foldl_append, List.foldl_cons, hroot, hback, hup] at hrooted
  rcases mem_foldl_walk (hrooted.subset (List.mem_singleton.mpr rfl)) with hmem | hmem
  · cases hmem
  · exact hlong hmem

/-- The relative paths that stay below every root. -/
theorem forall_below_iff :
    (∀ root, Below root (root ++ segments)) ↔ ¬ Climbs 0 segments ∧ normalise segments ≠ [] := by
  constructor
  · intro h
    refine ⟨fun hclimbs => ?_, ?_⟩
    · obtain ⟨root, hroot⟩ := exists_not_below hclimbs
      exact hroot (h root)
    · have hbelow := (h []).2
      rw [List.nil_append] at hbelow
      exact hbelow.symm
  · rintro ⟨hclimbs, hne⟩ root
    rw [Below, normalise_append_of_not_climbs hclimbs]
    exact ⟨List.prefix_append _ _, fun h => hne (List.self_eq_append_right.mp h)⟩

end ChatmanEcosystem.Common
