import Mathlib.Order.WellFoundedSet

/-!
# Graphs

A graph is the list of its edges, with an order for what is to be gone through in no order.
`topological` releases a node when no edge into it is left, `descendants` searches breadth-first.

Results:

* `accepts_iff`: every node is released exactly if no node reaches itself.
* `mem_descendants`: what is found is what can be reached, but for the start.
* `leads_iff`: the search of a stack finds its target exactly if it can be reached.
-/

namespace ChatmanEcosystem.Common

open Relation

variable {α : Type*} [DecidableEq α]

/-- The edges of a graph. -/
abbrev Edges (α : Type*) := List (α × α)

namespace Edges

variable (edges : Edges α) (order : List α → List α)

/-- An edge leads from one node to the next. -/
def Step (a b : α) : Prop := (a, b) ∈ edges

/-- The nodes that edges lead to from a node, one for each edge. -/
def children (a : α) : List α := (edges.filter (·.1 = a)).map Prod.snd

/-- The nodes. -/
def nodes : List α := (edges.flatMap fun edge => [edge.1, edge.2]).dedup

/-- How many edges lead to a node. -/
def indegree (a : α) : ℕ := edges.countP (·.2 = a)

/-! ## Releasing nodes -/

/-- One edge into a node is gone. -/
def arrive (state : (α → ℤ) × List α) (child : α) : (α → ℤ) × List α :=
  let left := state.1 child - 1
  (Function.update state.1 child left, if left = 0 then state.2 ++ [child] else state.2)

/-- The nodes of the queue are released one by one, in addition to those that are. -/
def drain : ℕ → (α → ℤ) → List α → List α → List α
  | 0, _, _, seen => seen
  | _ + 1, _, [], seen => seen
  | fuel + 1, counts, a :: queue, seen =>
    let next := (order (edges.children a)).foldl arrive (counts, queue)
    drain fuel next.1 next.2 (seen ++ [a])

/-- The nodes in an order in which they can be released. -/
def topological : List α :=
  edges.drain order edges.nodes.length (fun a => edges.indegree a)
    (order (edges.nodes.filter (edges.indegree · = 0))) []

/-- Every node can be released. -/
def accepts : Bool := (edges.topological order).length = edges.nodes.length

/-! ## Searching -/

/-- A child that is new is one step further off. -/
def discover (depth : ℕ) (state : List (α × ℕ) × List α) (child : α) : List (α × ℕ) × List α :=
  if child ∈ state.1.map Prod.fst then state
  else (state.1 ++ [(child, depth + 1)], state.2 ++ [child])

/-- The children of the nodes of the queue are found, in addition to what is. -/
def search : ℕ → List (α × ℕ) → List α → List (α × ℕ)
  | 0, depths, _ => depths
  | _ + 1, depths, [] => depths
  | fuel + 1, depths, a :: queue =>
    let next := (order (edges.children a)).foldl (discover ((depths.lookup a).getD 0))
      (depths, queue)
    search fuel next.1 next.2

/-- What can be reached from a node, and how far off it is. -/
def descendants (start : α) : List (α × ℕ) :=
  (edges.search order (edges.length + 1) [(start, 0)] [start]).tail

/-- The nodes of a stack and what they lead to are gone through, up to the target. -/
def seek (target : α) : ℕ → List α → List α → Bool
  | 0, _, _ => false
  | _ + 1, [], _ => false
  | fuel + 1, a :: stack, seen =>
    if a = target then true
    else if a ∈ seen then seek target fuel stack seen
    else seek target fuel (order (edges.children a).dedup ++ stack) (a :: seen)

/-- There is a way from a node to another one, of one edge at least. -/
def leads (start target : α) : Bool :=
  edges.seek order target (2 * edges.length + 1) (order (edges.children start).dedup) []

variable {edges} {order} {a b : α}

@[simp] theorem mem_children : b ∈ edges.children a ↔ edges.Step a b := by
  simp [children, Step]

@[simp] theorem mem_nodes : a ∈ edges.nodes ↔ ∃ edge ∈ edges, a = edge.1 ∨ a = edge.2 := by
  simp [nodes]

theorem nodup_nodes : edges.nodes.Nodup := List.nodup_dedup _

theorem Step.left (h : edges.Step a b) : a ∈ edges.nodes := mem_nodes.mpr ⟨_, h, .inl rfl⟩

theorem Step.right (h : edges.Step a b) : b ∈ edges.nodes := mem_nodes.mpr ⟨_, h, .inr rfl⟩

/-! ## What is released -/

/-- What the edges of one node take away, and which nodes have none left. -/
theorem foldl_arrive {children : List α} {counts : α → ℤ} (queue : List α)
    (h : ∀ a, (children.count a : ℤ) ≤ counts a) :
    (∀ a, (children.foldl arrive (counts, queue)).1 a = counts a - children.count a) ∧
      ∃ added, (children.foldl arrive (counts, queue)).2 = queue ++ added ∧ added.Nodup ∧
        ∀ a, a ∈ added ↔ a ∈ children ∧ counts a = children.count a := by
  induction children generalizing counts queue with
  | nil => exact ⟨by simp, [], by simp⟩
  | cons child children ih =>
    have hchild : (children.count child : ℤ) + 1 ≤ counts child := by
      have hcount := h child
      rw [List.count_cons_self] at hcount
      exact_mod_cast hcount
    have hother : ∀ a ≠ child, (children.count a : ℤ) ≤ counts a := by
      intro a ha
      have hcount := h a
      rwa [List.count_cons_of_ne ha.symm] at hcount
    have hrest : ∀ a, (children.count a : ℤ) ≤
        Function.update counts child (counts child - 1) a := by
      intro a
      by_cases ha : a = child
      · rw [ha, Function.update_self]
        omega
      · rw [Function.update_of_ne ha]
        exact hother a ha
    rw [List.foldl_cons]
    obtain ⟨hcounts, added, hqueue, hnodup, hadded⟩ := ih
      (if counts child - 1 = 0 then queue ++ [child] else queue) hrest
    have hself : child ∈ added ↔ child ∈ children ∧ counts child = children.count child + 1 := by
      rw [hadded child, Function.update_self]
      refine and_congr_right fun _ => ?_
      omega
    have hothers : ∀ a ≠ child, a ∈ added ↔ a ∈ children ∧ counts a = children.count a := by
      intro a ha
      rw [hadded a, Function.update_of_ne ha]
    refine ⟨fun a => ?_, ?_⟩
    · rw [arrive, hcounts]
      by_cases ha : a = child
      · rw [ha, Function.update_self, List.count_cons_self]
        omega
      · rw [Function.update_of_ne ha, List.count_cons_of_ne (Ne.symm ha)]
    rw [arrive, hqueue]
    by_cases hlast : counts child - 1 = 0
    · -- the last edge into the child, so that it does not occur again
      have hnone : child ∉ children := by
        rw [← List.count_eq_zero]
        omega
      refine ⟨child :: added, by rw [if_pos hlast, List.append_assoc]; rfl,
        List.nodup_cons.mpr ⟨fun hmem => hnone (hself.mp hmem).1, hnodup⟩, fun a => ?_⟩
      by_cases ha : a = child
      · have hcount : children.count child = 0 := List.count_eq_zero.mpr hnone
        rw [ha, List.count_cons_self, hcount]
        simp
        omega
      · rw [List.mem_cons, List.mem_cons, List.count_cons_of_ne (Ne.symm ha), hothers a ha]
        simp [ha]
    · refine ⟨added, by rw [if_neg hlast], hnodup, fun a => ?_⟩
      by_cases ha : a = child
      · have hmem : counts child = children.count child + 1 → child ∈ children := by
          intro hcount
          rw [← List.count_pos_iff]
          omega
        rw [ha, List.count_cons_self, hself]
        push_cast
        simp only [List.mem_cons, true_or, true_and]
        exact ⟨And.right, fun hcount => ⟨hmem hcount, hcount⟩⟩
      · rw [List.mem_cons, List.count_cons_of_ne (Ne.symm ha), hothers a ha]
        simp [ha]

/-- The nodes that are released or about to be are those that no edge is left to. -/
structure Draining (edges : Edges α) (counts : α → ℤ) (queue seen : List α) : Prop where
  nodup : (seen ++ queue).Nodup
  nodes : ∀ a ∈ seen ++ queue, a ∈ edges.nodes
  left : ∀ a, counts a = edges.countP fun edge => edge.2 = a ∧ edge.1 ∉ seen
  free : ∀ a ∈ edges.nodes, a ∈ seen ++ queue ↔ counts a = 0
  founded : ∀ a ∈ seen ++ queue, Acc edges.Step a

theorem count_children : (edges.children a).count b =
    edges.countP fun edge => edge.1 = a ∧ edge.2 = b := by
  rw [children, List.count, List.countP_map, List.countP_filter]
  congr 1
  funext edge
  by_cases hchild : edge.2 = b <;> simp [hchild]

variable {counts : α → ℤ} {queue seen : List α}

/-- The edges that are left are those of the node that is next, and the others. -/
theorem countP_left (ha : a ∉ seen) : edges.countP (fun edge => edge.2 = b ∧ edge.1 ∉ seen) =
    edges.countP (fun edge => edge.2 = b ∧ edge.1 ∉ seen ++ [a]) + (edges.children a).count b := by
  rw [count_children]
  induction edges with
  | nil => rfl
  | cons edge edges ih =>
    simp only [List.countP_cons, ih]
    by_cases hsource : edge.1 = a
    · simp [hsource, ha]
      split_ifs <;> omega
    · simp [hsource]
      omega

theorem Draining.step (horder : ∀ list : List α, (order list).Perm list)
    (h : Draining edges counts (a :: queue) seen) :
    Draining edges ((order (edges.children a)).foldl arrive (counts, queue)).1
      ((order (edges.children a)).foldl arrive (counts, queue)).2 (seen ++ [a]) := by
  have hnodup := h.nodup
  rw [List.append_cons] at hnodup
  have ha : a ∉ seen := fun hmem =>
    (List.nodup_append.mp (List.nodup_append.mp hnodup).1).2.2 a hmem a List.mem_cons_self rfl
  have hcount : ∀ b, (order (edges.children a)).count b = (edges.children a).count b :=
    fun b => (horder _).count_eq b
  have hleft : ∀ b, counts b = (edges.countP (fun edge => edge.2 = b ∧ edge.1 ∉ seen ++ [a]) : ℤ) +
      (edges.children a).count b := by
    intro b
    rw [h.left, countP_left ha]
    push_cast
    rfl
  have hle : ∀ b, ((order (edges.children a)).count b : ℤ) ≤ counts b := by
    intro b
    rw [hcount, hleft]
    omega
  obtain ⟨hcounts, added, hqueue, hadded, hmem⟩ := foldl_arrive queue hle
  have hnext : ∀ b, b ∈ added ↔ edges.Step a b ∧
      edges.countP (fun edge => edge.2 = b ∧ edge.1 ∉ seen ++ [a]) = 0 := by
    intro b
    rw [hmem, (horder _).mem_iff, mem_children, hcount, hleft]
    exact and_congr_right fun _ => by omega
  have hold : ∀ b ∈ seen ++ a :: queue, ¬ edges.Step a b := by
    intro b hb hstep
    have hzero := (h.free b (h.nodes b hb)).mp hb
    rw [h.left] at hzero
    have hnone := List.countP_eq_zero.mp (Int.ofNat_eq_zero.mp hzero) (a, b) hstep
    simp [ha] at hnone
  rw [hqueue]
  have happend : (seen ++ [a]) ++ (queue ++ added) = (seen ++ a :: queue) ++ added := by simp
  have hsplit : ∀ b, b ∈ (seen ++ [a]) ++ (queue ++ added) ↔
    b ∈ seen ++ a :: queue ∨ b ∈ added := by
    intro b
    rw [happend, List.mem_append]
  refine ⟨?_, ?_, ?_, ?_, ?_⟩
  · rw [happend, List.nodup_append]
    refine ⟨h.nodup, hadded, fun b hb c hc hbc => ?_⟩
    rw [← hbc] at hc
    exact hold b hb ((hnext b).mp hc).1
  · intro b hb
    rcases (hsplit b).mp hb with hb | hb
    · exact h.nodes b hb
    · exact ((hnext b).mp hb).1.right
  · intro b
    rw [hcounts, hcount, hleft]
    omega
  · intro b hb
    have hafter : (List.foldl arrive (counts, queue) (order (edges.children a))).1 b =
        (edges.countP (fun edge => edge.2 = b ∧ edge.1 ∉ seen ++ [a]) : ℤ) := by
      rw [hcounts, hcount, hleft]
      omega
    rw [hsplit, hafter, hnext, h.free b hb, hleft]
    constructor
    · rintro (hzero | ⟨-, hzero⟩)
      · omega
      · omega
    · intro hzero
      by_cases hstep : edges.Step a b
      · exact .inr ⟨hstep, by omega⟩
      · have hnone : (edges.children a).count b = 0 :=
          List.count_eq_zero.mpr fun hmem => hstep (mem_children.mp hmem)
        exact .inl (by omega)
  · intro b hb
    rcases (hsplit b).mp hb with hb | hb
    · exact h.founded b hb
    · have hzero := ((hnext b).mp hb).2
      refine ⟨b, fun c hc => h.founded c ?_⟩
      -- no edge into `b` is left, so that its source is released
      have hdone := List.countP_eq_zero.mp hzero (c, b) hc
      have hsource : c ∈ seen ++ [a] := by
        by_contra hopen
        exact hdone (decide_eq_true ⟨rfl, hopen⟩)
      rw [List.append_cons]
      exact List.mem_append_left queue hsource

/-- With enough fuel the queue is gone through. -/
theorem Draining.drain (horder : ∀ list : List α, (order list).Perm list) {fuel : ℕ}
    (h : Draining edges counts queue seen) (hfuel : edges.nodes.length ≤ fuel + seen.length) :
    ∃ counts', Draining edges counts' [] (edges.drain order fuel counts queue seen) := by
  induction fuel generalizing counts queue seen with
  | zero =>
    have hlength : (seen ++ queue).length ≤ edges.nodes.length :=
      (h.nodup.subperm fun a ha => h.nodes a ha).length_le
    have hqueue : queue = [] := by
      rw [List.length_append] at hlength
      exact List.eq_nil_of_length_eq_zero (by omega)
    rw [hqueue] at h
    exact ⟨counts, h⟩
  | succ fuel ih =>
    cases queue with
    | nil => exact ⟨counts, h⟩
    | cons a queue =>
      refine ih (h.step horder) ?_
      rw [List.length_append, List.length_singleton]
      omega

theorem draining_start (horder : ∀ list : List α, (order list).Perm list) :
    Draining edges (fun a => edges.indegree a)
      (order (edges.nodes.filter (edges.indegree · = 0))) [] := by
  have hmem : ∀ a, a ∈ order (edges.nodes.filter (edges.indegree · = 0)) ↔
      a ∈ edges.nodes ∧ edges.indegree a = 0 := by
    intro a
    rw [(horder _).mem_iff, List.mem_filter, decide_eq_true_iff]
  refine ⟨?_, ?_, ?_, ?_, ?_⟩
  · rw [List.nil_append, (horder _).nodup_iff]
    exact nodup_nodes.filter _
  · intro a ha
    exact ((hmem a).mp ha).1
  · intro a
    simp [indegree]
  · intro a ha
    rw [List.nil_append, hmem]
    exact ⟨fun h => by exact_mod_cast h.2, fun h => ⟨ha, by exact_mod_cast h⟩⟩
  · intro a ha
    refine ⟨a, fun b hstep => ?_⟩
    have hnone := List.countP_eq_zero.mp ((hmem a).mp ha).2 (b, a) hstep
    simp at hnone

/-- Every node can be released exactly if the graph is well founded. -/
theorem accepts_iff_wellFounded (horder : ∀ list : List α, (order list).Perm list) :
    edges.accepts order = true ↔ WellFounded edges.Step := by
  have hfuel : edges.nodes.length ≤ edges.nodes.length + ([] : List α).length := le_rfl
  obtain ⟨counts, h⟩ := (draining_start horder).drain horder hfuel
  rw [accepts, decide_eq_true_iff]
  have hseen : Draining edges counts [] (edges.topological order) := h
  have hsubset : edges.topological order ⊆ edges.nodes := fun a ha =>
    hseen.nodes a (List.mem_append_left [] ha)
  have hnodup : (edges.topological order).Nodup := by simpa using hseen.nodup
  constructor
  · intro hlength
    have hperm : (edges.topological order).Perm edges.nodes :=
      (hnodup.subperm hsubset).perm_of_length_le (by omega)
    refine ⟨fun a => ⟨a, fun b hstep => ?_⟩⟩
    exact hseen.founded b (List.mem_append_left [] (hperm.mem_iff.mpr hstep.left))
  · intro hfounded
    have hall : ∀ a ∈ edges.nodes, a ∈ edges.topological order := by
      intro a
      induction a using hfounded.induction with
      | _ a ih =>
        intro ha
        have hfree := (hseen.free a ha).mpr
        rw [List.append_nil] at hfree
        refine hfree ?_
        rw [hseen.left, Int.ofNat_eq_zero, List.countP_eq_zero]
        rintro ⟨b, c⟩ hstep hleft
        obtain ⟨rfl, hopen⟩ := of_decide_eq_true hleft
        exact hopen (ih b hstep (Step.left hstep))
    have hback : edges.nodes.length ≤ (edges.topological order).length :=
      (nodup_nodes.subperm fun a ha => hall a ha).length_le
    have hforth := (hnodup.subperm hsubset).length_le
    omega

omit [DecidableEq α] in
/-- A finite graph without cycles is well founded. -/
theorem wellFounded_iff : WellFounded edges.Step ↔ ∀ a, ¬ TransGen edges.Step a a := by
  constructor
  · intro hfounded a hcycle
    exact hfounded.transGen.irrefl.irrefl a hcycle
  · intro hacyclic
    have hstrict : IsStrictOrder α (TransGen edges.Step) :=
      { irrefl := hacyclic, trans := fun _ _ _ => TransGen.trans }
    have hends : {a | ∃ edge ∈ edges, a = edge.1 ∨ a = edge.2}.Finite := by
      refine (List.finite_toSet (edges.map Prod.fst ++ edges.map Prod.snd)).subset ?_
      rintro a ⟨edge, hedge, rfl | rfl⟩
      · exact List.mem_append_left _ (List.mem_map_of_mem hedge)
      · exact List.mem_append_right _ (List.mem_map_of_mem hedge)
    have hfounded := Set.wellFoundedOn_iff.mp (hends.wellFoundedOn (r := TransGen edges.Step))
    refine Subrelation.wf (fun {a b} hstep => ?_) hfounded
    exact ⟨.single hstep, ⟨(a, b), hstep, .inl rfl⟩, ⟨(a, b), hstep, .inr rfl⟩⟩

/-- Every node can be released exactly if no node reaches itself. -/
theorem accepts_iff (horder : ∀ list : List α, (order list).Perm list) :
    edges.accepts order = true ↔ ∀ a, ¬ TransGen edges.Step a a := by
  rw [accepts_iff_wellFounded horder, wellFounded_iff]

/-! ## What is found -/

/-- What is found can be reached, and the children of what was gone through are found. -/
structure Searching (edges : Edges α) (start : α) (depths : List (α × ℕ)) (done queue : List α) :
    Prop where
  found : depths.map Prod.fst = done ++ queue
  nodup : (done ++ queue).Nodup
  first : ∃ rest, depths = (start, 0) :: rest
  reached : ∀ a ∈ done ++ queue, ReflTransGen edges.Step start a
  closed : ∀ a ∈ done, ∀ b, edges.Step a b → b ∈ done ++ queue

variable {start : α} {depths : List (α × ℕ)} {done : List α}

/-- What a node's children add. -/
theorem foldl_discover (children : List α) (depth : ℕ) (depths : List (α × ℕ)) (queue : List α) :
    ∃ added : List α, (children.foldl (discover depth) (depths, queue)).1 =
        depths ++ added.map (fun child => (child, depth + 1)) ∧
      (children.foldl (discover depth) (depths, queue)).2 = queue ++ added ∧ added.Nodup ∧
      ∀ a, a ∈ added ↔ a ∈ children ∧ a ∉ depths.map Prod.fst := by
  induction children generalizing depths queue with
  | nil => exact ⟨[], by simp, by simp, List.nodup_nil, by simp⟩
  | cons child children ih =>
    rw [List.foldl_cons]
    by_cases hchild : child ∈ depths.map Prod.fst
    · obtain ⟨added, hdepths, hqueue, hnodup, hadded⟩ := ih depths queue
      refine ⟨added, by rw [discover, if_pos hchild, hdepths],
        by rw [discover, if_pos hchild, hqueue], hnodup, fun a => ?_⟩
      rw [hadded, List.mem_cons]
      constructor
      · rintro ⟨ha, hnew⟩
        exact ⟨.inr ha, hnew⟩
      · rintro ⟨rfl | ha, hnew⟩
        · exact absurd hchild hnew
        · exact ⟨ha, hnew⟩
    · obtain ⟨added, hdepths, hqueue, hnodup, hadded⟩ := ih
        (depths ++ [(child, depth + 1)]) (queue ++ [child])
      have hkeys : (depths ++ [(child, depth + 1)]).map Prod.fst =
        depths.map Prod.fst ++ [child] := by
        simp
      refine ⟨child :: added, ?_, ?_, ?_, fun a => ?_⟩
      · rw [discover, if_neg hchild, hdepths]
        simp
      · rw [discover, if_neg hchild, hqueue]
        simp
      · refine List.nodup_cons.mpr ⟨fun hmem => ?_, hnodup⟩
        have hnew := ((hadded child).mp hmem).2
        rw [hkeys] at hnew
        exact hnew (List.mem_append_right _ List.mem_cons_self)
      · rw [List.mem_cons, hadded, hkeys, List.mem_append, List.mem_singleton, List.mem_cons]
        constructor
        · rintro (rfl | ⟨ha, hnew⟩)
          · exact ⟨.inl rfl, hchild⟩
          · exact ⟨.inr ha, fun hmem => hnew (.inl hmem)⟩
        · rintro ⟨rfl | ha, hnew⟩
          · exact .inl rfl
          · by_cases hself : a = child
            · exact .inl hself
            · exact .inr ⟨ha, fun hmem => hmem.elim hnew hself⟩

theorem Searching.step (horder : ∀ list : List α, (order list).Perm list) {depth : ℕ}
    (h : Searching edges start depths done (a :: queue)) :
    Searching edges start
      ((order (edges.children a)).foldl (discover depth) (depths, queue)).1 (done ++ [a])
      ((order (edges.children a)).foldl (discover depth) (depths, queue)).2 := by
  obtain ⟨added, hdepths, hqueue, hadded, hmem⟩ := foldl_discover
    (order (edges.children a)) depth depths queue
  have happend : (done ++ [a]) ++ (queue ++ added) = (done ++ a :: queue) ++ added := by simp
  have hnew : ∀ b, b ∈ added ↔ edges.Step a b ∧ b ∉ done ++ a :: queue := by
    intro b
    rw [hmem, (horder _).mem_iff, mem_children, h.found]
  rw [hdepths, hqueue]
  refine ⟨?_, ?_, ?_, ?_, ?_⟩
  · rw [List.map_append, h.found, happend, List.map_map]
    exact congrArg _ (List.map_id added)
  · rw [happend, List.nodup_append]
    refine ⟨h.nodup, hadded, fun b hb c hc hbc => ?_⟩
    rw [← hbc] at hc
    exact ((hnew b).mp hc).2 hb
  · obtain ⟨rest, hrest⟩ := h.first
    exact ⟨_, by rw [hrest]; rfl⟩
  · intro b hb
    rw [happend, List.mem_append] at hb
    rcases hb with hb | hb
    · exact h.reached b hb
    · exact (h.reached a (by simp)).tail ((hnew b).mp hb).1
  · intro b hb c hstep
    rw [happend, List.mem_append]
    rcases List.mem_append.mp hb with hb | hb
    · exact .inl (h.closed b hb c hstep)
    · rw [List.mem_singleton.mp hb] at hstep
      by_cases hold : c ∈ done ++ a :: queue
      · exact .inl hold
      · exact .inr ((hnew c).mpr ⟨hstep, hold⟩)

omit [DecidableEq α] in
/-- There are no more nodes to be found than the start and the ends of the edges. -/
theorem Searching.length_le (h : Searching edges start depths done queue) :
    (done ++ queue).length ≤ edges.length + 1 := by
  have hsubset : done ++ queue ⊆ start :: edges.map Prod.snd := by
    intro a ha
    rcases ReflTransGen.cases_tail (h.reached a ha) with rfl | ⟨b, -, hstep⟩
    · exact List.mem_cons_self
    · exact List.mem_cons_of_mem _ (List.mem_map_of_mem hstep)
  have hlength := (h.nodup.subperm hsubset).length_le
  rwa [List.length_cons, List.length_map] at hlength

theorem Searching.search (horder : ∀ list : List α, (order list).Perm list) {fuel : ℕ}
    (h : Searching edges start depths done queue) (hfuel : edges.length + 1 ≤ fuel + done.length) :
    ∃ done', Searching edges start (edges.search order fuel depths queue) done' [] := by
  induction fuel generalizing depths done queue with
  | zero =>
    have hlength := h.length_le
    have hqueue : queue = [] := by
      rw [List.length_append] at hlength
      exact List.eq_nil_of_length_eq_zero (by omega)
    rw [hqueue] at h
    exact ⟨done, by rw [hqueue]; exact h⟩
  | succ fuel ih =>
    cases queue with
    | nil => exact ⟨done, h⟩
    | cons a queue =>
      refine ih (h.step horder) ?_
      rw [List.length_append, List.length_singleton]
      omega

/-- What is found is what can be reached, but for the start. -/
theorem mem_descendants (horder : ∀ list : List α, (order list).Perm list) :
    b ∈ (edges.descendants order start).map Prod.fst ↔
      ReflTransGen edges.Step start b ∧ b ≠ start := by
  have hstart : Searching edges start [(start, 0)] [] [start] :=
    ⟨rfl, by simp, ⟨[], rfl⟩, by simp [ReflTransGen.refl], by simp⟩
  have hfuel : edges.length + 1 ≤ edges.length + 1 + ([] : List α).length := le_rfl
  obtain ⟨done, h⟩ := hstart.search horder hfuel
  obtain ⟨rest, hrest⟩ := h.first
  have hkeys : start :: rest.map Prod.fst = done := by
    have hfound := h.found
    rw [hrest, List.append_nil] at hfound
    exact hfound
  have hnodup := h.nodup
  rw [List.append_nil, ← hkeys, List.nodup_cons] at hnodup
  have hall : ∀ a, ReflTransGen edges.Step start a → a ∈ done := by
    intro a ha
    induction ha with
    | refl => rw [← hkeys]; exact List.mem_cons_self
    | tail _ hstep ih =>
      have hmem := h.closed _ ih _ hstep
      rwa [List.append_nil] at hmem
  rw [descendants, hrest, List.tail_cons]
  constructor
  · intro hb
    refine ⟨h.reached b ?_, fun hself => hnodup.1 (hself ▸ hb)⟩
    rw [List.append_nil, ← hkeys]
    exact List.mem_cons_of_mem _ hb
  · rintro ⟨hreach, hne⟩
    have hb := hall b hreach
    rw [← hkeys] at hb
    exact (List.mem_cons.mp hb).resolve_left hne

/-! ## What is sought -/

/-- The edges of a node are not ahead any more. -/
theorem countP_ahead (ha : a ∉ seen) : edges.countP (fun edge => edge.1 ∉ seen) =
    edges.countP (fun edge => edge.1 ∉ a :: seen) + (edges.children a).length := by
  rw [children, List.length_map, ← List.countP_eq_length_filter]
  induction edges with
  | nil => rfl
  | cons edge edges ih =>
    simp only [List.countP_cons, ih]
    by_cases hsource : edge.1 = a
    · simp [hsource, ha]
      omega
    · simp [hsource]
      omega

/-- Where a search stands: what it has gone through leads to that and to the stack only. -/
structure Seeking (edges : Edges α) (start target : α) (stack seen : List α) : Prop where
  missed : target ∉ seen
  first : ∀ b, edges.Step start b → b ∈ seen ∨ b ∈ stack
  closed : ∀ a ∈ seen, ∀ b, edges.Step a b → b ∈ seen ∨ b ∈ stack
  reached : ∀ b ∈ stack, TransGen edges.Step start b

variable {target : α} {stack : List α}

omit [DecidableEq α] in
/-- What was gone through is all that can be reached when the stack is empty. -/
theorem Seeking.not_transGen (h : Seeking edges start target [] seen) :
    ¬ TransGen edges.Step start target := by
  intro hpath
  have hall : ∀ b, TransGen edges.Step start b → b ∈ seen := by
    intro b hb
    induction hb with
    | single hstep => exact (h.first _ hstep).resolve_right List.not_mem_nil
    | tail _ hstep ih => exact (h.closed _ ih _ hstep).resolve_right List.not_mem_nil
  exact h.missed (hall target hpath)

/-- A search with a step for what is on the stack and for each edge ahead comes to its end. -/
theorem Seeking.seek_iff (horder : ∀ list : List α, (order list).Perm list) {fuel : ℕ}
    (h : Seeking edges start target stack seen)
    (hfuel : stack.length + edges.countP (fun edge => edge.1 ∉ seen) < fuel) :
    edges.seek order target fuel stack seen = true ↔ TransGen edges.Step start target := by
  induction fuel generalizing stack seen with
  | zero => exact absurd hfuel (Nat.not_lt_zero _)
  | succ fuel ih =>
    cases stack with
    | nil => exact iff_of_false Bool.false_ne_true h.not_transGen
    | cons a stack =>
      rw [seek]
      rw [List.length_cons] at hfuel
      split_ifs with htarget hseen
      · exact iff_of_true rfl (htarget ▸ h.reached a List.mem_cons_self)
      · have hdrop : ∀ {b}, b ∈ seen ∨ b ∈ a :: stack → b ∈ seen ∨ b ∈ stack := by
          rintro b (hb | hb)
          · exact .inl hb
          · rcases List.mem_cons.mp hb with rfl | hb
            · exact .inl hseen
            · exact .inr hb
        refine ih ⟨h.missed, fun b hb => hdrop (h.first b hb),
          fun c hc b hb => hdrop (h.closed c hc b hb),
          fun b hb => h.reached b (List.mem_cons_of_mem _ hb)⟩ (by omega)
      · have hpush : ∀ {b}, b ∈ seen ∨ b ∈ a :: stack →
            b ∈ a :: seen ∨ b ∈ order (edges.children a).dedup ++ stack := by
          rintro b (hb | hb)
          · exact .inl (List.mem_cons_of_mem _ hb)
          · rcases List.mem_cons.mp hb with rfl | hb
            · exact .inl List.mem_cons_self
            · exact .inr (List.mem_append_right _ hb)
        have hchild : ∀ {b}, b ∈ order (edges.children a).dedup ↔ edges.Step a b := by
          intro b
          rw [(horder _).mem_iff, List.mem_dedup, mem_children]
        have hlength : (order (edges.children a).dedup).length ≤ (edges.children a).length := by
          rw [(horder _).length_eq]
          exact (List.dedup_sublist _).length_le
        refine ih ⟨?_, fun b hb => hpush (h.first b hb), ?_, ?_⟩ ?_
        · rw [List.mem_cons, not_or]
          exact ⟨Ne.symm htarget, h.missed⟩
        · intro c hc b hb
          rcases List.mem_cons.mp hc with rfl | hc
          · exact .inr (List.mem_append_left _ (hchild.mpr hb))
          · exact hpush (h.closed c hc b hb)
        · intro b hb
          rcases List.mem_append.mp hb with hb | hb
          · exact (h.reached a List.mem_cons_self).tail (hchild.mp hb)
          · exact h.reached b (List.mem_cons_of_mem _ hb)
        · rw [List.length_append]
          have hahead : edges.countP (fun edge => edge.1 ∉ seen) =
              edges.countP (fun edge => edge.1 ∉ a :: seen) + (edges.children a).length :=
            countP_ahead hseen
          omega

/-- A search finds its target exactly if it can be reached. -/
theorem leads_iff (horder : ∀ list : List α, (order list).Perm list) :
    edges.leads order start target = true ↔ TransGen edges.Step start target := by
  have hchild : ∀ {b}, b ∈ order (edges.children start).dedup ↔ edges.Step start b := by
    intro b
    rw [(horder _).mem_iff, List.mem_dedup, mem_children]
  have hlength : (order (edges.children start).dedup).length ≤ edges.length := by
    rw [(horder _).length_eq]
    refine (List.dedup_sublist _).length_le.trans ?_
    rw [children, List.length_map]
    exact List.length_filter_le ..
  have hseeking : Seeking edges start target (order (edges.children start).dedup) [] :=
    ⟨List.not_mem_nil, fun b hb => .inr (hchild.mpr hb), fun a ha => absurd ha List.not_mem_nil,
      fun b hb => .single (hchild.mp hb)⟩
  refine hseeking.seek_iff horder ?_
  have hcount : edges.countP (fun edge => edge.1 ∉ ([] : List α)) ≤ edges.length :=
    List.countP_le_length
  omega

end Edges

end ChatmanEcosystem.Common
