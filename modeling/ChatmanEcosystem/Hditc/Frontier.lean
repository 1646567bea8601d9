import ChatmanEcosystem.Common.StableSort
import ChatmanEcosystem.Hditc.AtMostOnce

/-!
# The frontier of lawful candidates

Model of `dfcm_frontier` (`crates/hditc/src/lib.rs`, lines 301–364): one loop
sorts the candidates into the ones that project and the ones that are refused,
then both lists are sorted with `slice::sort_by`.

Results:

* `dfcmFrontier_lawful`, `dfcmFrontier_excluded`: no candidate is lost or listed twice.
* `dfcmFrontier_partition`: with that, the lists are sorted, and the order in which the
  candidates arrive does not show if and only if the sort keys tell them apart.
-/

namespace ChatmanEcosystem.Hditc

open Core Rust Common

/-- `struct ExcludedCandidate` (lines 301–305). -/
structure ExcludedCandidate where
  id : String
  reason : RefusalCode
  deriving DecidableEq

/-- `struct DfcmFrontier` (lines 307–313). -/
structure DfcmFrontier where
  lawful : List Candidate
  excluded : List ExcludedCandidate
  deriving DecidableEq

/-- The reason under which a failed candidate is listed (lines 338–345). -/
def Error.reason : Error → RefusalCode
  | .refused code _ => code
  | _ => .constraintClosure

/-- One turn of the loop (lines 335–347). -/
def fileCandidate (prim : Primitives) (world : World)
    (filed : List Candidate × List ExcludedCandidate) (candidate : Candidate) :
    List Candidate × List ExcludedCandidate :=
  match candidate.project prim world with
  | .ok _ => (filed.1 ++ [candidate], filed.2)
  | .error error => (filed.1, filed.2 ++ [{ id := candidate.id, reason := error.reason }])

/-- The comparison of lines 349–360. -/
def Candidate.preference (left right : Candidate) : Ordering :=
  (((compare right.optionPreservation left.optionPreservation).then
    (compare right.informationGainMillibits left.informationGainMillibits)).then
    (compare left.costMicrounits right.costMicrounits)).then
    (compare left.id right.id)

/-- `dfcm_frontier` (lines 328–364). -/
def dfcmFrontier (prim : Primitives) (world : World) (candidates : List Candidate) :
    DfcmFrontier :=
  let filed := candidates.foldl (fileCandidate prim world) ([], [])
  { lawful := sortBy Candidate.preference filed.1
    excluded := sortBy (fun left right => compare left.id right.id) filed.2 }

/-! ## The two orders -/

instance : Std.TransCmp Candidate.preference :=
  inferInstanceAs (Std.TransCmp (compareLex (compareLex (compareLex
    (fun left right : Candidate => compareOn Candidate.optionPreservation right left)
    (fun left right : Candidate => compareOn Candidate.informationGainMillibits right left))
    (compareOn Candidate.costMicrounits)) (compareOn Candidate.id)))

instance : Std.TransCmp fun left right : ExcludedCandidate => compare left.id right.id :=
  inferInstanceAs (Std.TransCmp (compareOn ExcludedCandidate.id))

/-- The four sort keys agree. -/
structure Candidate.SameKeys (a b : Candidate) : Prop where
  optionPreservation : a.optionPreservation = b.optionPreservation
  informationGain : a.informationGainMillibits = b.informationGainMillibits
  cost : a.costMicrounits = b.costMicrounits
  id : a.id = b.id

theorem Candidate.preference_eq {a b : Candidate} : a.preference b = .eq ↔ a.SameKeys b := by
  simp only [preference, Ordering.then_eq_eq, Std.LawfulEqOrd.compare_eq_iff_eq]
  constructor
  · intro h
    exact ⟨h.1.1.1.symm, h.1.1.2.symm, h.1.2, h.2⟩
  · intro h
    exact ⟨⟨⟨h.optionPreservation.symm, h.informationGain.symm⟩, h.cost⟩, h.id⟩

/-! ## The loop -/

/-- The entry of a candidate in `excluded`, if there is one. -/
def Candidate.exclusion (prim : Primitives) (world : World) (candidate : Candidate) :
    Option ExcludedCandidate :=
  match candidate.project prim world with
  | .ok _ => none
  | .error error => some { id := candidate.id, reason := error.reason }

/-- `project` succeeds. -/
def Candidate.admitted (prim : Primitives) (world : World) (candidate : Candidate) : Bool :=
  (candidate.exclusion prim world).isNone

section Loop

variable {prim : Primitives} {world : World}

variable {candidate : Candidate}

theorem Candidate.admitted_iff :
    candidate.admitted prim world = true ↔
      ∃ projected, candidate.project prim world = .ok projected := by
  unfold admitted exclusion
  cases candidate.project prim world <;> simp

variable {entry : ExcludedCandidate}

theorem Candidate.exclusion_eq_some :
    candidate.exclusion prim world = some entry ↔ ∃ error,
      candidate.project prim world = .error error ∧ entry = ⟨candidate.id, error.reason⟩ := by
  unfold exclusion
  cases candidate.project prim world <;> simp [eq_comm]

theorem foldl_fileCandidate (candidates : List Candidate)
    (filed : List Candidate × List ExcludedCandidate) :
    candidates.foldl (fileCandidate prim world) filed =
      (filed.1 ++ candidates.filter (·.admitted prim world),
        filed.2 ++ candidates.filterMap (·.exclusion prim world)) := by
  induction candidates generalizing filed with
  | nil => simp
  | cons candidate candidates ih =>
    rw [List.foldl_cons, ih]
    cases hproject : candidate.project prim world with
    | ok projected =>
      simp [fileCandidate, Candidate.admitted, Candidate.exclusion, hproject]
    | error error =>
      simp [fileCandidate, Candidate.admitted, Candidate.exclusion, hproject]

theorem dfcmFrontier_eq (candidates : List Candidate) : dfcmFrontier prim world candidates =
    { lawful := sortBy Candidate.preference (candidates.filter (·.admitted prim world))
      excluded := sortBy (fun left right => compare left.id right.id)
        (candidates.filterMap (·.exclusion prim world)) } := by
  unfold dfcmFrontier
  rw [foldl_fileCandidate]
  rfl

theorem dfcmFrontier_lawful (candidates : List Candidate) :
    (dfcmFrontier prim world candidates).lawful.Perm
      (candidates.filter (·.admitted prim world)) := by
  rw [dfcmFrontier_eq]
  exact sortBy_perm _ _

theorem dfcmFrontier_excluded (candidates : List Candidate) :
    (dfcmFrontier prim world candidates).excluded.Perm
      (candidates.filterMap (·.exclusion prim world)) := by
  rw [dfcmFrontier_eq]
  exact sortBy_perm _ _

/-! ## The order of arrival -/

/-- The sort keys tell the candidates of a list apart: the admitted ones by all four keys, the
excluded ones, of which only the reason is kept, by their ids. -/
structure Distinguished (prim : Primitives) (world : World) (candidates : List Candidate) :
    Prop where
  lawful : ∀ a ∈ candidates, ∀ b ∈ candidates, a.admitted prim world = true →
    b.admitted prim world = true → a.SameKeys b → a = b
  excluded : ∀ a ∈ candidates, ∀ b ∈ candidates, ∀ left right,
    a.exclusion prim world = some left → b.exclusion prim world = some right →
    a.id = b.id → left.reason = right.reason

theorem exclusion_id (h : candidate.exclusion prim world = some entry) :
    entry.id = candidate.id := by
  obtain ⟨error, -, rfl⟩ := Candidate.exclusion_eq_some.mp h
  rfl

variable {candidates : List Candidate}

theorem dfcmFrontier_eq_of_perm {others : List Candidate}
    (hdistinct : Distinguished prim world candidates) (h : others.Perm candidates) :
    dfcmFrontier prim world others = dfcmFrontier prim world candidates := by
  have hlawful : sortBy Candidate.preference (candidates.filter (·.admitted prim world)) =
      sortBy Candidate.preference (others.filter (·.admitted prim world)) := by
    apply sortBy_eq_of_perm (h.symm.filter _)
    intro a ha b hb hkeys
    obtain ⟨ha, hadmitted⟩ := List.mem_filter.mp ha
    obtain ⟨hb, hadmitted'⟩ := List.mem_filter.mp hb
    exact hdistinct.lawful a ha b hb hadmitted hadmitted' (Candidate.preference_eq.mp hkeys)
  have hexcluded : sortBy (fun left right : ExcludedCandidate => compare left.id right.id)
      (candidates.filterMap (·.exclusion prim world)) =
      sortBy (fun left right : ExcludedCandidate => compare left.id right.id)
        (others.filterMap (·.exclusion prim world)) := by
    apply sortBy_eq_of_perm (h.symm.filterMap _)
    intro left hleft right hright hkeys
    obtain ⟨a, ha, hleft⟩ := List.mem_filterMap.mp hleft
    obtain ⟨b, hb, hright⟩ := List.mem_filterMap.mp hright
    have hid : left.id = right.id := Std.LawfulEqOrd.eq_of_compare hkeys
    have hreason := hdistinct.excluded a ha b hb left right hleft hright
      (by rw [← exclusion_id hleft, ← exclusion_id hright, hid])
    cases left
    cases right
    simp_all
  rw [dfcmFrontier_eq, dfcmFrontier_eq, hlawful, hexcluded]

/-- Two members of a list can be brought to its front in either order. -/
theorem exists_perm_pair {α : Type} {xs : List α} {a b : α} (ha : a ∈ xs) (hb : b ∈ xs)
    (hne : a ≠ b) : ∃ rest, (a :: b :: rest).Perm xs ∧ (b :: a :: rest).Perm xs := by
  obtain ⟨front, back, rfl⟩ := List.append_of_mem ha
  have hmem : b ∈ front ++ back := by
    rcases List.mem_append.mp hb with hb | hb
    · exact List.mem_append_left back hb
    · exact List.mem_append_right front (List.mem_of_ne_of_mem hne.symm hb)
  obtain ⟨first, last, hsplit⟩ := List.append_of_mem hmem
  have hperm : (a :: b :: (first ++ last)).Perm (front ++ a :: back) := by
    refine List.Perm.trans ?_ List.perm_middle.symm
    rw [hsplit]
    exact List.perm_middle.symm.cons a
  exact ⟨first ++ last, hperm, (List.Perm.swap a b _).trans hperm⟩

theorem distinguished_of_perm (h : ∀ others : List Candidate,
      others.Perm candidates → dfcmFrontier prim world others =
        dfcmFrontier prim world candidates) : Distinguished prim world candidates := by
  -- two members in front, in both orders
  have hswap : ∀ a ∈ candidates, ∀ b ∈ candidates, a ≠ b → ∃ rest,
      dfcmFrontier prim world (a :: b :: rest) = dfcmFrontier prim world (b :: a :: rest) := by
    intro a ha b hb hne
    obtain ⟨rest, hfirst, hsecond⟩ := exists_perm_pair ha hb hne
    exact ⟨rest, (h _ hfirst).trans (h _ hsecond).symm⟩
  refine ⟨fun a ha b hb hadmitted hadmitted' hkeys => ?_,
    fun a ha b hb left right hleft hright hid => ?_⟩
  · by_contra hne
    obtain ⟨rest, hrest⟩ := hswap a ha b hb hne
    have hlawful := congrArg DfcmFrontier.lawful hrest
    simp only [dfcmFrontier_eq, List.filter_cons, hadmitted, hadmitted', if_true] at hlawful
    exact hne (eq_of_sortBy_swap (Candidate.preference_eq.mpr hkeys) hlawful)
  · by_contra hne
    have hdiffer : a ≠ b := by
      intro hsame
      rw [hsame, hright] at hleft
      exact hne (congrArg _ (Option.some.inj hleft)).symm
    obtain ⟨rest, hrest⟩ := hswap a ha b hb hdiffer
    have hexcluded := congrArg DfcmFrontier.excluded hrest
    simp only [dfcmFrontier_eq, List.filterMap_cons, hleft, hright] at hexcluded
    have hkeys : compare left.id right.id = .eq := by
      rw [Std.LawfulEqOrd.compare_eq_iff_eq, exclusion_id hleft, exclusion_id hright, hid]
    let byId (left right : ExcludedCandidate) : Ordering := compare left.id right.id
    have hequal : byId left right = .eq := hkeys
    exact hne (congrArg _ (eq_of_sortBy_swap hequal hexcluded))

end Loop

/-- Every candidate is listed once, in `lawful` if it projects and otherwise in `excluded` with
the reason of its refusal; both lists are sorted; and the order of arrival does not show exactly
if the sort keys tell the candidates apart. -/
theorem dfcmFrontier_partition (prim : Primitives) (world : World) (candidates : List Candidate) :
    (dfcmFrontier prim world candidates).lawful.Perm
        (candidates.filter (·.admitted prim world)) ∧
      (dfcmFrontier prim world candidates).excluded.Perm
        (candidates.filterMap (·.exclusion prim world)) ∧
      (dfcmFrontier prim world candidates).lawful.Pairwise
        (fun left right => (left.preference right).isLE = true) ∧
      (dfcmFrontier prim world candidates).excluded.Pairwise
        (fun left right => (compare left.id right.id).isLE = true) ∧
      ((∀ others : List Candidate, others.Perm candidates →
          dfcmFrontier prim world others = dfcmFrontier prim world candidates) ↔
        Distinguished prim world candidates) := by
  refine ⟨dfcmFrontier_lawful candidates, dfcmFrontier_excluded candidates, ?_, ?_, ?_⟩
  · rw [dfcmFrontier_eq]
    exact pairwise_sortBy _
  · rw [dfcmFrontier_eq]
    exact pairwise_sortBy _
  · exact ⟨distinguished_of_perm, fun hdistinct others => dfcmFrontier_eq_of_perm hdistinct⟩

/-! ## Candidates that share all sort keys -/

/-- `project` reads of a command only that it is not blank. -/
theorem Candidate.project_command {candidate : Candidate} {command : String}
    (h : isBlank command = isBlank candidate.command) (prim : Primitives) (world : World) :
    { candidate with command := command }.project prim world = candidate.project prim world := by
  simp only [project, nonempty, h]

/-- The candidate of the tests with another command. -/
def forcedCandidate : Candidate :=
  { fixtureCandidate with command := "set service.state=ready --force" }

/-- Two candidates with one id and different commands come out in the order in which they came
in. -/
theorem dfcmFrontier_arrival :
    fixtureCandidate.admitted samplePrimitives (fixtureWorld "pending") = true ∧
      forcedCandidate.admitted samplePrimitives (fixtureWorld "pending") = true ∧
      [forcedCandidate, fixtureCandidate].Perm [fixtureCandidate, forcedCandidate] ∧
      dfcmFrontier samplePrimitives (fixtureWorld "pending") [forcedCandidate, fixtureCandidate] ≠
        dfcmFrontier samplePrimitives (fixtureWorld "pending")
          [fixtureCandidate, forcedCandidate] := by
  have hproject := fixtureCandidate_project samplePrimitives
  have hother : forcedCandidate.project samplePrimitives (fixtureWorld "pending") = _ :=
    Candidate.project_command (by decide) samplePrimitives (fixtureWorld "pending")
  have hfirst := Candidate.admitted_iff.mpr ⟨_, hproject⟩
  have hsecond := Candidate.admitted_iff.mpr ⟨_, hother.trans hproject⟩
  refine ⟨hfirst, hsecond, List.Perm.swap _ _ _, fun hsame => ?_⟩
  have hkeys : forcedCandidate.preference fixtureCandidate = .eq :=
    Candidate.preference_eq.mpr ⟨rfl, rfl, rfl, rfl⟩
  have hlawful := congrArg DfcmFrontier.lawful hsame
  simp only [dfcmFrontier_eq, List.filter_cons, hfirst, hsecond, if_true] at hlawful
  have hcommand := congrArg Candidate.command (eq_of_sortBy_swap hkeys hlawful)
  revert hcommand
  decide

end ChatmanEcosystem.Hditc
