import ChatmanEcosystem.Common.Fallible
import ChatmanEcosystem.Hditc.AtMostOnce

/-!
# Projections can be taken back

A mutation states the value that it finds and the value that it leaves
(`crates/hditc/src/lib.rs`, lines 182–211). With the two exchanged it is the
mutation that takes it back, and a projection (lines 239–291) is taken back by
the inverses of its mutations in reverse order.

Results:

* `Mutation.inverse_apply`: the inverse of a mutation that applies restores the
  dimensions.
* `Candidate.project_reversible`: from the projected dimensions the inverses lead back to
  those of the world, through every intermediate state of the projection.
-/

namespace ChatmanEcosystem.Hditc

open Core Rust Common

namespace Mutation

/-- The mutation with `before` and `after` exchanged. -/
def inverse (mutation : Mutation) : Mutation :=
  { mutation with before := mutation.after, after := mutation.before }

/-- The dimensions with one of them set to a value, or removed. -/
def store (dimensions : Dimensions) (dimension : String) : Option String → Dimensions
  | some value => dimensions.insert dimension value
  | none => dimensions.erase dimension

theorem getElem?_store (dimensions : Dimensions) (dimension : String) (value : Option String)
    (other : String) :
    (store dimensions dimension value)[other]? =
      if dimension = other then value else dimensions[other]? := by
  cases value with
  | some value => simp [store, Std.ExtTreeMap.getElem?_insert]
  | none => simp [store, Std.ExtTreeMap.getElem?_erase]

/-- Storing what was there before restores the dimensions. -/
theorem store_store (dimensions : Dimensions) (dimension : String) (value : Option String) :
    store (store dimensions dimension value) dimension dimensions[dimension]? = dimensions := by
  apply Std.ExtTreeMap.ext_getElem?
  intro other
  rw [getElem?_store, getElem?_store]
  split_ifs with hsame
  · rw [hsame]
  · rfl

/-- A mutation that applies has found `before` and leaves `after`. -/
theorem apply_eq_ok {prim : Primitives} {mutation : Mutation} {dimensions after : Dimensions} :
    mutation.apply prim dimensions = .ok after ↔ isBlank mutation.dimension = false ∧
      dimensions[mutation.dimension]? = mutation.before ∧
      after = store dimensions mutation.dimension mutation.after := by
  simp only [apply, nonempty, bind_eq_ok, ensure_eq_ok, Bool.not_eq_true', exists_const]
  rw [eq_comm (a := after)]
  cases mutation.after with
  | some value => rw [pure_eq_ok, store]
  | none => rw [pure_eq_ok, store]

theorem inverse_apply (prim : Primitives) :
    TakenBack (fun dimensions mutation => mutation.apply prim dimensions) inverse := by
  intro start middle mutation h
  obtain ⟨hname, hbefore, hafter⟩ := apply_eq_ok.mp h
  apply apply_eq_ok.mpr
  subst hafter
  refine ⟨hname, ?_, ?_⟩
  · show (store start mutation.dimension mutation.after)[mutation.dimension]? = mutation.after
    rw [getElem?_store, if_pos rfl]
  · show start = store (store start mutation.dimension mutation.after) mutation.dimension
      mutation.before
    rw [← hbefore, store_store]

end Mutation

namespace Candidate

/-- Applies mutations one after the other, as `project` does (lines 279–282). -/
def applyAll (prim : Primitives) (mutations : List Mutation) (dimensions : Dimensions) :
    Except Error Dimensions :=
  mutations.foldlM (fun dimensions mutation => mutation.apply prim dimensions) dimensions

theorem applyAll_of_project {prim : Primitives} {candidate : Candidate} {world : World}
    {projected : Dimensions} (h : candidate.project prim world = .ok projected) :
    applyAll prim candidate.mutations world.dimensions = .ok projected := by
  simp only [project, bind_eq_ok, pure_eq_ok] at h
  obtain ⟨_, -, _, -, _, -, _, -, _, -, _, -, _, -, _, -, _, happly, _, -, rfl⟩ := h
  exact happly

/-- The inverses of all mutations lead from the projected dimensions back to those of the
world; those of the last mutations lead back to what these mutations were applied to. -/
theorem project_reversible {prim : Primitives} {candidate : Candidate} {world : World}
    {projected : Dimensions} (h : candidate.project prim world = .ok projected) :
    applyAll prim (inverses Mutation.inverse candidate.mutations) projected =
        .ok world.dimensions ∧
      ∀ front back, candidate.mutations = front ++ back →
        ∃ middle, applyAll prim front world.dimensions = .ok middle ∧
          applyAll prim (inverses Mutation.inverse back) projected = .ok middle := by
  have hrun := applyAll_of_project h
  refine ⟨(Mutation.inverse_apply prim).foldlM hrun, fun front back hsplit => ?_⟩
  rw [hsplit] at hrun
  exact (Mutation.inverse_apply prim).foldlM_append hrun

/-- The projection of the tests is taken back. -/
theorem fixture_reversible :
    ∃ projected, fixtureCandidate.project samplePrimitives (fixtureWorld "pending") =
        .ok projected ∧
      applyAll samplePrimitives (inverses Mutation.inverse fixtureCandidate.mutations) projected =
        .ok (fixtureWorld "pending").dimensions := by
  have hproject := fixtureCandidate_project samplePrimitives
  exact ⟨_, hproject, (project_reversible hproject).1⟩

end Candidate

end ChatmanEcosystem.Hditc
