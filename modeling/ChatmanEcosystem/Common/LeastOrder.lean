import ChatmanEcosystem.Common.DepthFirst
import Mathlib.Data.List.Lex
import Mathlib.Data.List.Sort

/-!
# The least order

The nodes of a network are released one by one: the least of the ready ones is
released, and a node gets ready when all its predecessors are released. The released
nodes are in the order that is lexicographically least among those that respect the
network, and all of them are released if it has no cycle.

Results:

* `foldl_release`: what the release of a node makes ready.
* `Network.releasing_leastOrder`: nothing is released before its predecessors, or in
  the place of a lesser node.
* `Network.length_leastOrder_iff`: everything is released exactly if there is no cycle.
* `Network.leastOrder_le`: no order that respects the network is less.
-/

namespace ChatmanEcosystem.Common

open Relation

variable {α : Type} [LinearOrder α]

/-! ## Releasing -/

/-- One predecessor of a node is released; a node without any left gets ready. -/
def release (state : (α → ℤ) × List α) (next : α) : (α → ℤ) × List α :=
  let left := state.1 next - 1
  (Function.update state.1 next left,
    if left = 0 then (state.2 ++ [next]).insertionSort (· ≤ ·) else state.2)

/-- The least of the ready nodes is released, again and again. -/
def releaseAll (successors : α → List α) : ℕ → (α → ℤ) → List α → List α → List α
  | 0, _, _, released => released
  | _ + 1, _, [], released => released
  | fuel + 1, degree, a :: ready, released =>
    let next := (successors a).foldl release (degree, ready)
    releaseAll successors fuel next.1 next.2 (released ++ [a])

variable {degree : α → ℤ} {ready released order other children : List α} {a b : α} {fuel : ℕ}

/-- What the release of the predecessor of some nodes changes. -/
theorem foldl_release (hchildren : children.Nodup) (hready : ready.Pairwise (· ≤ ·)) :
    (∀ b, (children.foldl release (degree, ready)).1 b =
        degree b - if b ∈ children then 1 else 0) ∧
      (children.foldl release (degree, ready)).2.Pairwise (· ≤ ·) ∧
      (children.foldl release (degree, ready)).2.Perm
        (ready ++ children.filter (degree · = 1)) := by
  induction children generalizing degree ready with
  | nil => simpa using hready
  | cons child children ih =>
    obtain ⟨hchild, hchildren⟩ := List.nodup_cons.mp hchildren
    have hready' : (release (degree, ready) child).2.Pairwise (· ≤ ·) := by
      unfold release
      dsimp only
      split_ifs with hlast
      · exact List.pairwise_insertionSort _ _
      · exact hready
    have hadded : (release (degree, ready) child).2.Perm
        (ready ++ [child].filter (degree · = 1)) := by
      unfold release
      dsimp only
      split_ifs with hlast
      · have hone : degree child = 1 := by omega
        simpa [hone] using List.perm_insertionSort _ _
      · have hone : degree child ≠ 1 := by omega
        simp [hone]
    have hsame : children.filter ((release (degree, ready) child).1 · = 1) =
        children.filter (degree · = 1) := by
      refine List.filter_congr fun b hb => ?_
      have hne : b ≠ child := fun h => hchild (h ▸ hb)
      simp [release, Function.update_of_ne hne]
    obtain ⟨hdegree, hsorted, hperm⟩ := @ih (release (degree, ready) child).1
      (release (degree, ready) child).2 hchildren hready'
    rw [List.foldl_cons]
    refine ⟨fun b => ?_, hsorted, ?_⟩
    · rw [hdegree b]
      by_cases hb : b = child
      · subst hb
        simp [release, hchild]
      · simp [release, hb]
    · rw [hsame] at hperm
      refine hperm.trans ((hadded.append_right _).trans ?_)
      rw [List.append_assoc, ← List.filter_append, List.singleton_append]

/-! ## Networks -/

/-- Nodes with their predecessors and their successors. -/
structure Network (α : Type) where
  nodes : List α
  predecessors : α → List α
  successors : α → List α
  distinct : nodes.Nodup
  predecessors_nodup : ∀ a, (predecessors a).Nodup
  successors_nodup : ∀ a, (successors a).Nodup
  mem_successors : ∀ a b, b ∈ successors a ↔ a ∈ predecessors b
  predecessors_subset : ∀ a, predecessors a ⊆ nodes
  successors_subset : ∀ a, successors a ⊆ nodes

namespace Network

variable (net : Network α)

/-- How many predecessors a node has. -/
def indegree (b : α) : ℤ := (net.predecessors b).length

/-- The nodes in the order in which they are released. -/
def leastOrder : List α :=
  releaseAll net.successors net.nodes.length net.indegree
    ((net.nodes.filter (net.indegree · = 0)).insertionSort (· ≤ ·)) []

/-- No node is in the place of a lesser one. -/
def Greedy (order : List α) : Prop :=
  ∀ front a back, order = front ++ a :: back →
    ∀ b ∈ net.nodes, b ∉ front → net.predecessors b ⊆ front → a ≤ b

/-- What is ready and what is released. -/
structure Releasing (degree : α → ℤ) (ready released : List α) : Prop where
  sorted : ready.Pairwise (· ≤ ·)
  nodup : (released ++ ready).Nodup
  subset : released ++ ready ⊆ net.nodes
  left : ∀ b, degree b = ((net.predecessors b).filter (· ∉ released)).length
  free : ∀ b ∈ net.nodes, b ∈ released ++ ready ↔ degree b = 0
  ordered : Ordered net.predecessors released
  greedy : net.Greedy released

variable {net}

/-- A node has no predecessors left exactly if all are released. -/
theorem Releasing.degree_eq_zero (h : net.Releasing degree ready released) :
    degree b = 0 ↔ net.predecessors b ⊆ released := by
  rw [h.left b, Int.natCast_eq_zero, List.length_eq_zero_iff, List.filter_eq_nil_iff]
  constructor
  · intro hall a ha
    simpa using hall a ha
  · intro hall a ha
    simpa using hall ha

theorem greedy_append_singleton : net.Greedy (released ++ [a]) ↔ net.Greedy released ∧
    ∀ b ∈ net.nodes, b ∉ released → net.predecessors b ⊆ released → a ≤ b :=
  forall_place_append_singleton

/-- One predecessor less is still to be released. -/
theorem length_filter_released (ha : a ∉ released) : (((net.predecessors b).filter
      (· ∉ released ++ [a])).length : ℤ) =
    ((net.predecessors b).filter (· ∉ released)).length - if b ∈ net.successors a then 1
      else 0 := by
  have hnodup : ((net.predecessors b).filter (· ∉ released)).Nodup :=
    (net.predecessors_nodup b).filter _
  have herase : (net.predecessors b).filter (· ∉ released ++ [a]) =
      ((net.predecessors b).filter (· ∉ released)).erase a := by
    rw [hnodup.erase_eq_filter, List.filter_filter]
    refine List.filter_congr fun c _ => ?_
    by_cases hca : c = a <;> simp [hca]
  rw [herase, List.length_erase]
  have hmem : a ∈ (net.predecessors b).filter (· ∉ released) ↔ b ∈ net.successors a := by
    simp [ha, net.mem_successors]
  split_ifs with hin hpred hpred
  · have hpos := List.length_pos_of_mem hin
    omega
  · exact absurd (hmem.mp hin) hpred
  · exact absurd (hmem.mpr hpred) hin
  · omega

/-- The release of the least ready node. -/
theorem Releasing.step (h : net.Releasing degree (a :: ready) released) :
    net.Releasing ((net.successors a).foldl release (degree, ready)).1
      ((net.successors a).foldl release (degree, ready)).2 (released ++ [a]) := by
  obtain ⟨hleast, hready⟩ := List.pairwise_cons.mp h.sorted
  obtain ⟨hdegree, hsorted, hperm⟩ :=
    @foldl_release _ _ degree ready _ (net.successors_nodup a) hready
  have hin : a ∈ released ++ a :: ready := List.mem_append_right _ List.mem_cons_self
  have hfree : net.predecessors a ⊆ released :=
    h.degree_eq_zero.mp ((h.free a (h.subset hin)).mp hin)
  have hnew : a ∉ released := fun hmem =>
    (List.nodup_append.mp h.nodup).2.2 a hmem a List.mem_cons_self rfl
  have hwaiting : ∀ b ∈ net.successors a, degree b ≠ 0 := fun b hb hzero =>
    hnew (h.degree_eq_zero.mp hzero ((net.mem_successors a b).mp hb))
  have hmove : (released ++ [a] ++ ((net.successors a).foldl release (degree, ready)).2).Perm
      (released ++ a :: ready ++ (net.successors a).filter (degree · = 1)) := by
    refine (hperm.append_left _).trans ?_
    simp
  have hmem : ∀ b ∈ net.nodes, b ∈ released ++ [a] ++
      ((net.successors a).foldl release (degree, ready)).2 ↔
        degree b = 0 ∨ b ∈ net.successors a ∧ degree b = 1 := by
    intro b hb
    rw [hmove.mem_iff, List.mem_append, h.free b hb, List.mem_filter, decide_eq_true_iff]
  refine ⟨hsorted, hmove.nodup_iff.mpr ?_, ?_, fun b => ?_, fun b hb => ?_, ?_, ?_⟩
  · refine List.nodup_append.mpr ⟨h.nodup, (net.successors_nodup a).filter _, ?_⟩
    rintro b hb _ hadded rfl
    have hsucc := (List.mem_filter.mp hadded).1
    exact hwaiting b hsucc ((h.free b (h.subset hb)).mp hb)
  · intro b hb
    rcases List.mem_append.mp (hmove.mem_iff.mp hb) with hb | hb
    · exact h.subset hb
    · exact net.successors_subset a (List.mem_filter.mp hb).1
  · rw [hdegree, h.left b, length_filter_released hnew]
  · rw [hmem b hb, hdegree]
    split_ifs with hsucc
    · have hdegree := hwaiting b hsucc
      simp only [hsucc, true_and]
      omega
    · simp [hsucc]
  · exact ordered_append_singleton.mpr ⟨h.ordered, hnew, hfree⟩
  · refine greedy_append_singleton.mpr ⟨h.greedy, fun b hb hreleased hpreds => ?_⟩
    rcases List.mem_append.mp ((h.free b hb).mpr (h.degree_eq_zero.mpr hpreds)) with hb | hb
    · exact absurd hb hreleased
    · rcases List.mem_cons.mp hb with rfl | hb
      · exact le_rfl
      · exact hleast b hb

/-- The nodes are released one by one. -/
theorem Releasing.run (h : net.Releasing degree ready released)
    (hfuel : net.nodes.length ≤ released.length + fuel) : ∃ rest,
      net.Releasing rest [] (releaseAll net.successors fuel degree ready released) := by
  induction fuel generalizing degree ready released with
  | zero =>
    have hlength := (h.nodup.subperm h.subset).length_le
    rw [List.length_append] at hlength
    have hready : ready = [] := List.eq_nil_of_length_eq_zero (by omega)
    subst hready
    exact ⟨degree, h⟩
  | succ fuel ih =>
    cases ready with
    | nil => exact ⟨degree, h⟩
    | cons a ready =>
      refine ih h.step ?_
      rw [List.length_append, List.length_singleton]
      omega

theorem releasing_start : net.Releasing net.indegree
    ((net.nodes.filter (net.indegree · = 0)).insertionSort (· ≤ ·)) [] := by
  have hperm := List.perm_insertionSort (· ≤ ·) (net.nodes.filter (net.indegree · = 0))
  refine ⟨List.pairwise_insertionSort _ _, ?_, ?_, fun b => ?_, fun b hb => ?_, ?_, ?_⟩
  · exact hperm.nodup_iff.mpr (net.distinct.filter _)
  · exact fun b hb => (List.mem_filter.mp (hperm.mem_iff.mp hb)).1
  · simp [indegree]
  · rw [List.nil_append, hperm.mem_iff, List.mem_filter]
    simp [hb]
  · exact ⟨List.nodup_nil, fun front a back h => by simp at h⟩
  · exact fun front a back h => by simp at h

/-- What is released at the end, and that nothing is ready any more. -/
theorem releasing_leastOrder (net : Network α) :
    ∃ degree, net.Releasing degree [] net.leastOrder :=
  releasing_start.run (by simp only [List.length_nil]; omega)

/-- A node whose predecessors are all released is released. -/
theorem mem_leastOrder (hb : b ∈ net.nodes) (hpreds : net.predecessors b ⊆ net.leastOrder) :
    b ∈ net.leastOrder := by
  obtain ⟨degree, h⟩ := releasing_leastOrder net
  simpa using (h.free b hb).mpr (h.degree_eq_zero.mpr hpreds)

theorem leastOrder_subset : net.leastOrder ⊆ net.nodes := by
  obtain ⟨degree, h⟩ := releasing_leastOrder net
  simpa using h.subset

theorem ordered_leastOrder : Ordered net.predecessors net.leastOrder := by
  obtain ⟨degree, h⟩ := releasing_leastOrder net
  exact h.ordered

/-- If all nodes are released, each is released once. -/
theorem leastOrder_perm (h : net.leastOrder.length = net.nodes.length) :
    net.leastOrder.Perm net.nodes :=
  (ordered_leastOrder.nodup.subperm leastOrder_subset).perm_of_length_le h.ge

/-- All nodes are released exactly if there is no cycle. -/
theorem length_leastOrder_iff : net.leastOrder.length = net.nodes.length ↔
    ∀ a, ¬ TransGen (Depends net.predecessors) a a := by
  constructor
  · intro h a hcycle
    obtain ⟨b, hb, -⟩ := TransGen.head'_iff.mp hcycle
    have ha : a ∈ net.nodes := net.successors_subset b ((net.mem_successors b a).mpr hb)
    have hin : a ∈ net.leastOrder := (leastOrder_perm h).mem_iff.mpr ha
    exact not_transGen_of_acc (ordered_leastOrder.acc a hin) hcycle
  · intro hacyclic
    have hall : net.nodes ⊆ net.leastOrder := by
      intro a ha
      by_contra hmissing
      have hacc := acc_of_not_transGen (fun a _ => net.predecessors_subset a) ha hacyclic
      obtain ⟨b, hreach, hb, hpreds⟩ := exists_minimal (· ∈ net.leastOrder) hacc hmissing
      have hin : b ∈ net.nodes := by
        rcases reflTransGen_iff_eq_or_transGen.mp hreach with rfl | hreach
        · exact ha
        · obtain ⟨c, -, hstep⟩ := TransGen.tail'_iff.mp hreach
          exact net.predecessors_subset c hstep
      exact hb (mem_leastOrder hin hpreds)
    exact le_antisymm (ordered_leastOrder.nodup.subperm leastOrder_subset).length_le
      (net.distinct.subperm hall).length_le

theorem greedy_leastOrder : net.Greedy net.leastOrder := by
  obtain ⟨degree, h⟩ := releasing_leastOrder net
  exact h.greedy

/-- Where two orders part, the greedy one has the lesser node. -/
theorem Greedy.suffix_le (hgreedy : net.Greedy order) (hother : Ordered net.predecessors other)
    (hsubset : other ⊆ net.nodes) {front rest rest' : List α} (horder : order = front ++ rest)
    (hrest : other = front ++ rest') (hlength : rest.length = rest'.length) : rest ≤ rest' := by
  induction rest generalizing front rest' with
  | nil =>
    obtain rfl := List.eq_nil_of_length_eq_zero hlength.symm
    exact le_rfl
  | cons a rest ih =>
    cases rest' with
    | nil => simp at hlength
    | cons b rest' =>
      have hb : b ∈ net.nodes := hsubset (hrest ▸ List.mem_append_right _ List.mem_cons_self)
      have hfront : b ∉ front := by
        have hnodup := hother.nodup
        rw [hrest] at hnodup
        exact fun hin => (List.nodup_append.mp hnodup).2.2 b hin b List.mem_cons_self rfl
      have hle := hgreedy front a rest horder b hb hfront (hother.after front b rest' hrest)
      rcases hle.lt_or_eq with hlt | rfl
      · have hless : a :: rest < b :: rest' := List.Lex.rel hlt
        exact hless.le
      · refine List.cons_le_cons a (@ih (front ++ [a]) rest' ?_ ?_ (by simpa using hlength))
        · rw [horder, List.append_assoc, List.singleton_append]
        · rw [hrest, List.append_assoc, List.singleton_append]

/-- An order that respects the network is not less. -/
theorem leastOrder_le (hother : Ordered net.predecessors other) (hperm : other.Perm net.nodes)
    (hall : net.leastOrder.length = net.nodes.length) : net.leastOrder ≤ other := by
  refine greedy_leastOrder.suffix_le hother hperm.subset (List.nil_append _).symm
    (List.nil_append _).symm ?_
  rw [hall, hperm.length_eq]

end Network

end ChatmanEcosystem.Common
