import ChatmanEcosystem.Common.Chain
import ChatmanEcosystem.Common.Dependencies
import ChatmanEcosystem.Rust.Result

/-!
# Depth-first searches

Three searches along what the nodes of a graph depend on. `traverse` appends a node
to the order it makes after everything the node depends on; `lineage` collects what
is below a node along every path; `explore` enters no node twice. The first two know the
path they came on and stop at a cycle. `depth` bounds the recursion; more than the
nodes of the graph are always enough.

Results:

* `postOrder_eq_ok`: an order has what the roots reach, each node once and after
  everything it depends on.
* `postOrder_isOk_iff`: it is made unless the roots reach a cycle.
* `lineage_eq_ok`, `lineage_isOk_iff`: the same of collecting along all paths.
* `mem_explore`: what a walk enters is what can be reached.
* `Hierarchy.preorder_roots`, `Hierarchy.mem_preorder`: a forest is listed without repetition, and
  all of it that hangs on a root.
* `Hierarchy.preorder_eq`: a chain is listed from its root on.
-/

namespace ChatmanEcosystem.Common

open Rust Relation

variable {α : Type} [DecidableEq α] {deps : α → List α} {depth : ℕ}
  {path order order' nodes roots : List α} {a b c root : α}

/-! ## Searches -/

/-- The nodes of `path` are on the way, those of `order` are finished. -/
def traverse (deps : α → List α) : ℕ → List α → List α → α → Except (Stop α) (List α)
  | 0, _, _, _ => .error .tooDeep
  | depth + 1, path, order, a =>
    if a ∈ path then .error (.cycle a)
    else if a ∈ order then .ok order
    else do
      let order ← (deps a).foldlM (traverse deps depth (a :: path)) order
      return order ++ [a]

/-- The order in which the nodes below some roots are finished. -/
def postOrder (deps : α → List α) (depth : ℕ) (roots : List α) : Except (Stop α) (List α) :=
  roots.foldlM (traverse deps depth []) []

/-- What is below a node, along each path. -/
def lineage (deps : α → List α) : ℕ → List α → α → Except (Stop α) (List α)
  | 0, _, _ => .error .tooDeep
  | depth + 1, path, a =>
    if a ∈ path then .error (.cycle a)
    else do
      let above ← (deps a).mapM (lineage deps depth (a :: path))
      return deps a ++ above.flatten

/-- What is entered below a node, where nothing is entered twice. -/
def explore (deps : α → List α) : ℕ → List α → α → List α
  | 0, entered, _ => entered
  | depth + 1, entered, a => (deps a).foldl
      (fun entered b => if b ∈ entered then entered else explore deps depth (b :: entered) b)
        entered

/-! ## Paths -/

omit [DecidableEq α] in
/-- No cycle goes through an element that is well founded. -/
theorem not_transGen_of_acc {r : α → α → Prop} (h : Acc (flip r) a) : ¬ TransGen r a a := by
  have hacc := h.transGen
  clear h
  induction hacc with
  | intro a _ ih => exact fun hcycle => ih a (TransGen.swap _ _ hcycle) hcycle

omit [DecidableEq α] in
theorem not_transGen_of_reachable (h : Acc (flip (Depends deps)) a)
    (hb : ReflTransGen (Depends deps) a b) : ¬ TransGen (Depends deps) b b := by
  intro hcycle
  induction hb using ReflTransGen.head_induction_on with
  | refl => exact not_transGen_of_acc h hcycle
  | head hstep _ ih => exact ih (h.inv hstep)

/-- A path along the graph that leads to a node and is short enough to go on. -/
structure Trail (deps : α → List α) (nodes : List α) (depth : ℕ) (path : List α) (a : α) :
  Prop where
  nodup : path.Nodup
  subset : path ⊆ nodes
  mem : a ∈ nodes
  leads : ∀ b ∈ path, TransGen (Depends deps) b a
  deep : nodes.length < depth + path.length

omit [DecidableEq α] in
theorem Trail.start (ha : a ∈ nodes) (hdepth : nodes.length < depth) :
    Trail deps nodes depth [] a where
  nodup := List.nodup_nil
  subset := List.nil_subset _
  mem := ha
  leads b hb := absurd hb List.not_mem_nil
  deep := by simpa using hdepth

omit [DecidableEq α] in
theorem Trail.next (h : Trail deps nodes (depth + 1) path a) (ha : a ∉ path) (hb : b ∈ deps a)
    (hclosed : ∀ a ∈ nodes, deps a ⊆ nodes) : Trail deps nodes depth (a :: path) b where
  nodup := List.nodup_cons.mpr ⟨ha, h.nodup⟩
  subset := List.cons_subset.mpr ⟨h.mem, h.subset⟩
  mem := hclosed a h.mem hb
  leads := by
    intro c hc
    rcases List.mem_cons.mp hc with rfl | hc
    · exact .single hb
    · exact (h.leads c hc).tail hb
  deep := by
    have hdeep := h.deep
    rw [List.length_cons]
    omega

omit [DecidableEq α] in
/-- A path without repetition is not longer than the graph. -/
theorem Trail.depth_ne_zero (h : Trail deps nodes depth path a) : depth ≠ 0 := by
  have hlength := (h.nodup.subperm h.subset).length_le
  have hdeep := h.deep
  omega

/-- A search stops at a cycle that its node leads to. -/
def Cyclic (deps : α → List α) (a : α) (stop : Stop α) : Prop :=
  ∃ b, stop = .cycle b ∧ ReflTransGen (Depends deps) a b ∧ TransGen (Depends deps) b b

omit [DecidableEq α] in
theorem Cyclic.head {stop : Stop α} (h : Cyclic deps b stop) (hb : b ∈ deps a) :
    Cyclic deps a stop := by
  obtain ⟨c, rfl, hreach, hcycle⟩ := h
  exact ⟨c, rfl, .head hb hreach, hcycle⟩

omit [DecidableEq α] in
theorem Trail.cyclic (h : Trail deps nodes depth path a) (ha : a ∈ path) :
    Cyclic deps a (.cycle a) := ⟨a, rfl, .refl, h.leads a ha⟩

/-! ## Orders -/

/-- Each node of an order comes once, and after everything it depends on. -/
structure Ordered (deps : α → List α) (order : List α) : Prop where
  nodup : order.Nodup
  after : ∀ front a back, order = front ++ a :: back → deps a ⊆ front

omit [DecidableEq α] in
/-- What holds at each place of a longer list holds at the new last one, and before. -/
theorem forall_place_append_singleton {P : List α → α → Prop} :
    (∀ front b back, order ++ [a] = front ++ b :: back → P front b) ↔
      (∀ front b back, order = front ++ b :: back → P front b) ∧ P order a := by
  constructor
  · intro h
    exact ⟨fun front b back horder => h front b (back ++ [a]) (by simp [horder]), h order a [] rfl⟩
  · rintro ⟨h, hlast⟩ front b back horder
    rcases List.eq_nil_or_concat back with rfl | ⟨back, c, rfl⟩
    · obtain ⟨rfl, hab⟩ := List.append_inj' horder rfl
      obtain rfl := List.singleton_inj.mp hab
      exact hlast
    · rw [List.concat_eq_append, ← List.cons_append, ← List.append_assoc] at horder
      exact h front b back (List.append_inj' horder rfl).1

omit [DecidableEq α] in
theorem ordered_append_singleton : Ordered deps (order ++ [a]) ↔
    Ordered deps order ∧ a ∉ order ∧ deps a ⊆ order := by
  have hafter : (∀ front b back, order ++ [a] = front ++ b :: back → deps b ⊆ front) ↔ _ :=
    forall_place_append_singleton
  constructor
  · intro h
    obtain ⟨hnodup, -, hnew⟩ := List.nodup_append.mp h.nodup
    obtain ⟨hbefore, hlast⟩ := hafter.mp h.after
    exact ⟨⟨hnodup, hbefore⟩, fun ha => hnew a ha a List.mem_cons_self rfl, hlast⟩
  · rintro ⟨h, ha, hdeps⟩
    exact ⟨List.concat_eq_append ▸ h.nodup.concat ha, hafter.mpr ⟨h.after, hdeps⟩⟩

omit [DecidableEq α] in
theorem Ordered.closed (h : Ordered deps order) (ha : a ∈ order) : deps a ⊆ order := by
  obtain ⟨front, back, rfl⟩ := List.append_of_mem ha
  exact List.Subset.trans (h.after front a back rfl) (List.subset_append_left _ _)

omit [DecidableEq α] in
/-- What an order holds is well founded. -/
theorem Ordered.acc (h : Ordered deps order) : ∀ a ∈ order, Acc (flip (Depends deps)) a := by
  induction order using List.reverseRecOn with
  | nil => exact fun a ha => absurd ha List.not_mem_nil
  | append_singleton order b ih =>
    obtain ⟨horder, -, hdeps⟩ := ordered_append_singleton.mp h
    intro a ha
    rcases List.mem_append.mp ha with ha | ha
    · exact ih horder a ha
    · obtain rfl := List.mem_singleton.mp ha
      exact ⟨a, fun c hc => ih horder c (hdeps hc)⟩

/-- What traversing from some nodes makes of an order. -/
structure Traversed (deps : α → List α) (path roots order order' : List α) : Prop where
  ordered : Ordered deps order → Ordered deps order'
  mono : order ⊆ order'
  finished : roots ⊆ order'
  reached : ∀ a ∈ order', a ∈ order ∨ ∃ root ∈ roots, ReflTransGen (Depends deps) root a
  apart : ∀ a ∈ path, a ∉ order → a ∉ order'

omit [DecidableEq α] in
/-- One root after the other. -/
theorem Traversed.foldlM {step : List α → α → Except (Stop α) (List α)}
    (hstep : ∀ order order' a, step order a = .ok order' → Traversed deps path [a] order order')
    (h : roots.foldlM step order = .ok order') : Traversed deps path roots order order' := by
  induction roots generalizing order with
  | nil =>
    obtain rfl := Except.ok.inj h
    exact ⟨id, List.Subset.refl _, List.nil_subset _, fun a ha => .inl ha, fun a _ ha => ha⟩
  | cons a roots ih =>
    rw [List.foldlM_cons, bind_eq_ok] at h
    obtain ⟨middle, hfirst, h⟩ := h
    have hone := hstep order middle a hfirst
    have hrest := ih h
    refine ⟨hrest.ordered ∘ hone.ordered, List.Subset.trans hone.mono hrest.mono, ?_,
      fun b hb => ?_, fun b hb hout => hrest.apart b hb (hone.apart b hb hout)⟩
    · exact List.cons_subset.mpr ⟨hrest.mono (hone.finished List.mem_cons_self), hrest.finished⟩
    · rcases hrest.reached b hb with hb | ⟨root, hroot, hreach⟩
      · rcases hone.reached b hb with hb | ⟨root, hroot, hreach⟩
        · exact .inl hb
        · obtain rfl := List.mem_singleton.mp hroot
          exact .inr ⟨root, List.mem_cons_self, hreach⟩
      · exact .inr ⟨root, List.mem_cons_of_mem _ hroot, hreach⟩

theorem traversed_traverse (h : traverse deps depth path order a = .ok order') :
    Traversed deps path [a] order order' := by
  induction depth generalizing path order order' a with
  | zero => exact nomatch h
  | succ depth ih =>
    rw [traverse] at h
    split_ifs at h with hpath horder
    · obtain rfl := Except.ok.inj h
      exact ⟨id, List.Subset.refl _, List.cons_subset.mpr ⟨horder, List.nil_subset _⟩,
        fun b hb => .inl hb, fun b _ hb => hb⟩
    · simp only [bind_eq_ok, pure_eq_ok] at h
      obtain ⟨below, hbelow, rfl⟩ := h
      have hdeps := Traversed.foldlM (fun _ _ _ => ih) hbelow
      refine ⟨fun hord => ?_, ?_, ?_, fun b hb => ?_, fun b hb hout => ?_⟩
      · exact ordered_append_singleton.mpr ⟨hdeps.ordered hord,
          hdeps.apart a List.mem_cons_self horder, hdeps.finished⟩
      · exact List.Subset.trans hdeps.mono (List.subset_append_left _ _)
      · exact List.subset_append_right _ _
      · rcases List.mem_append.mp hb with hb | hb
        · rcases hdeps.reached b hb with hb | ⟨c, hc, hreach⟩
          · exact .inl hb
          · exact .inr ⟨a, List.mem_singleton_self a, .head hc hreach⟩
        · exact .inr ⟨a, List.mem_singleton_self a, List.mem_singleton.mp hb ▸ .refl⟩
      · rw [List.mem_append, List.mem_singleton, not_or]
        exact ⟨hdeps.apart b (List.mem_cons_of_mem _ hb) hout, fun hba => hpath (hba ▸ hb)⟩

/-- A traversal only stops at a cycle. -/
theorem traverse_eq_error {stop : Stop α} (hclosed : ∀ a ∈ nodes, deps a ⊆ nodes)
    (htrail : Trail deps nodes depth path a)
    (h : traverse deps depth path order a = .error stop) : Cyclic deps a stop := by
  induction depth generalizing path order a with
  | zero => exact absurd rfl htrail.depth_ne_zero
  | succ depth ih =>
    rw [traverse] at h
    split_ifs at h with hpath horder
    · obtain rfl := Except.error.inj h
      exact htrail.cyclic hpath
    · cases hbelow : (deps a).foldlM (traverse deps depth (a :: path)) order with
      | ok below => simp [hbelow, bind, Except.bind, pure, Except.pure] at h
      | error below =>
        rw [hbelow] at h
        obtain rfl := Except.error.inj h
        obtain ⟨b, hb, state, hb'⟩ := exists_of_foldlM_eq_error hbelow
        exact (ih (htrail.next hpath hb hclosed) hb').head hb

/-- The order that a traversal from the roots makes. -/
theorem postOrder_eq_ok (h : postOrder deps depth roots = .ok order) : Ordered deps order ∧
    ∀ a, a ∈ order ↔ ∃ root ∈ roots, ReflTransGen (Depends deps) root a := by
  have htraversed := Traversed.foldlM (fun _ _ _ => traversed_traverse) h
  have hordered : Ordered deps order := by
    refine htraversed.ordered ⟨List.nodup_nil, fun front a back horder => ?_⟩
    simp at horder
  refine ⟨hordered, fun a => ⟨fun ha => ?_, ?_⟩⟩
  · exact (htraversed.reached a ha).resolve_left List.not_mem_nil
  · rintro ⟨root, hroot, hreach⟩
    induction hreach with
    | refl => exact htraversed.finished hroot
    | tail _ hstep ih => exact hordered.closed ih hstep

/-- A traversal is finished unless a root leads to a cycle. -/
theorem postOrder_isOk_iff (hclosed : ∀ a ∈ nodes, deps a ⊆ nodes) (hroots : roots ⊆ nodes)
    (hdepth : nodes.length < depth) : (∃ order, postOrder deps depth roots = .ok order) ↔
      ∀ root ∈ roots, ∀ a, ReflTransGen (Depends deps) root a → ¬ TransGen (Depends deps) a a := by
  constructor
  · rintro ⟨order, h⟩ root hroot a hreach
    obtain ⟨hordered, hmem⟩ := postOrder_eq_ok h
    exact not_transGen_of_acc (hordered.acc a ((hmem a).mpr ⟨root, hroot, hreach⟩))
  · intro hacyclic
    cases h : postOrder deps depth roots with
    | ok order => exact ⟨order, rfl⟩
    | error stop =>
      obtain ⟨root, hroot, order, hstop⟩ := exists_of_foldlM_eq_error h
      obtain ⟨a, -, hreach, hcycle⟩ :=
        traverse_eq_error hclosed (Trail.start (hroots hroot) hdepth) hstop
      exact absurd hcycle (hacyclic root hroot a hreach)

/-! ## Lineages -/

omit [DecidableEq α] in
/-- What is below a node: what it depends on, and what is below that. -/
theorem transGen_iff_exists : TransGen (Depends deps) a b ↔
    b ∈ deps a ∨ ∃ c ∈ deps a, TransGen (Depends deps) c b := by
  rw [TransGen.head'_iff]
  constructor
  · rintro ⟨c, hc, hreach⟩
    rcases reflTransGen_iff_eq_or_transGen.mp hreach with rfl | hreach
    · exact .inl hc
    · exact .inr ⟨c, hc, hreach⟩
  · rintro (hb | ⟨c, hc, hreach⟩)
    · exact ⟨b, hb, .refl⟩
    · exact ⟨c, hc, hreach.to_reflTransGen⟩

/-- What is collected is what is below the node, and no cycle is. -/
theorem lineage_eq_ok {above : List α} (h : lineage deps depth path a = .ok above) :
    (∀ b, b ∈ above ↔ TransGen (Depends deps) a b) ∧ Acc (flip (Depends deps)) a := by
  induction depth generalizing path a above with
  | zero => exact nomatch h
  | succ depth ih =>
    rw [lineage] at h
    split_ifs at h with hpath
    simp only [bind_eq_ok, pure_eq_ok] at h
    obtain ⟨lists, hlists, rfl⟩ := h
    refine ⟨fun b => ?_, ⟨a, fun c hc => ?_⟩⟩
    · rw [List.mem_append, transGen_iff_exists, List.mem_flatten]
      refine or_congr_right ⟨?_, ?_⟩
      · rintro ⟨list, hlist, hb⟩
        obtain ⟨c, hc, hlineage⟩ := (mem_of_mapM hlists).mp hlist
        exact ⟨c, hc, ((ih hlineage).1 b).mp hb⟩
      · rintro ⟨c, hc, hreach⟩
        obtain ⟨list, hlineage⟩ := ok_of_mapM hlists hc
        exact ⟨list, (mem_of_mapM hlists).mpr ⟨c, hc, hlineage⟩, ((ih hlineage).1 b).mpr hreach⟩
    · obtain ⟨list, hlineage⟩ := ok_of_mapM hlists hc
      exact (ih hlineage).2

theorem lineage_eq_error {stop : Stop α} (hclosed : ∀ a ∈ nodes, deps a ⊆ nodes)
    (htrail : Trail deps nodes depth path a) (h : lineage deps depth path a = .error stop) :
    Cyclic deps a stop := by
  induction depth generalizing path a with
  | zero => exact absurd rfl htrail.depth_ne_zero
  | succ depth ih =>
    rw [lineage] at h
    split_ifs at h with hpath
    · obtain rfl := Except.error.inj h
      exact htrail.cyclic hpath
    · cases habove : (deps a).mapM (lineage deps depth (a :: path)) with
      | ok lists => simp [habove, bind, Except.bind, pure, Except.pure] at h
      | error below =>
        rw [habove] at h
        obtain rfl := Except.error.inj h
        obtain ⟨b, hb, hstop⟩ := exists_of_mapM_eq_error habove
        exact (ih (htrail.next hpath hb hclosed) hstop).head hb

/-- All is collected unless the node leads to a cycle. -/
theorem lineage_isOk_iff (hclosed : ∀ a ∈ nodes, deps a ⊆ nodes) (ha : a ∈ nodes)
    (hdepth : nodes.length < depth) : (∃ above, lineage deps depth [] a = .ok above) ↔
      ∀ b, ReflTransGen (Depends deps) a b → ¬ TransGen (Depends deps) b b := by
  constructor
  · rintro ⟨above, h⟩ b hreach
    exact not_transGen_of_reachable (lineage_eq_ok h).2 hreach
  · intro hacyclic
    cases h : lineage deps depth [] a with
    | ok above => exact ⟨above, rfl⟩
    | error stop =>
      obtain ⟨b, -, hreach, hcycle⟩ := lineage_eq_error hclosed (Trail.start ha hdepth) h
      exact absurd hcycle (hacyclic b hreach)

/-- In a finite graph without cycles every node is well founded. -/
theorem acc_of_not_transGen (hclosed : ∀ a ∈ nodes, deps a ⊆ nodes) (ha : a ∈ nodes)
    (h : ∀ b, ¬ TransGen (Depends deps) b b) : Acc (flip (Depends deps)) a := by
  obtain ⟨above, habove⟩ := (lineage_isOk_iff hclosed ha (Nat.lt_succ_self _)).mpr fun b _ => h b
  exact (lineage_eq_ok habove).2

/-! ## Walks -/

/-- What is entered below some roots. -/
structure Walked (deps : α → List α) (nodes roots entered entered' : List α) : Prop where
  nodup : entered'.Nodup
  subset : entered' ⊆ nodes
  mono : entered ⊆ entered'
  finished : roots ⊆ entered'
  closed : ∀ a ∈ entered', a ∈ entered ∨ deps a ⊆ entered'
  reached : ∀ a ∈ entered', a ∈ entered ∨ ∃ root ∈ roots, ReflTransGen (Depends deps) root a

omit [DecidableEq α] in
/-- One root after the other, as long as each is entered from every larger set. -/
theorem Walked.foldl {step : List α → α → List α} {entered : List α}
    (hstep : ∀ larger, larger.Nodup → larger ⊆ nodes → entered ⊆ larger → ∀ root ∈ roots,
      Walked deps nodes [root] larger (step larger root))
    (hnodup : entered.Nodup) (hsubset : entered ⊆ nodes) :
    Walked deps nodes roots entered (roots.foldl step entered) := by
  induction roots generalizing entered with
  | nil =>
    exact ⟨hnodup, hsubset, List.Subset.refl _, List.nil_subset _, fun a ha => .inl ha,
      fun a ha => .inl ha⟩
  | cons root roots ih =>
    have hone := hstep entered hnodup hsubset (List.Subset.refl _) root List.mem_cons_self
    have hrest : Walked deps nodes roots (step entered root)
        (roots.foldl step (step entered root)) := by
      refine ih (fun larger hnodup hsubset hlarger a ha => ?_) hone.nodup hone.subset
      exact hstep larger hnodup hsubset (List.Subset.trans hone.mono hlarger) a
        (List.mem_cons_of_mem _ ha)
    refine ⟨hrest.nodup, hrest.subset, List.Subset.trans hone.mono hrest.mono, ?_, fun a ha => ?_,
      fun a ha => ?_⟩
    · exact List.cons_subset.mpr ⟨hrest.mono (hone.finished List.mem_cons_self), hrest.finished⟩
    · rcases hrest.closed a ha with ha | ha
      · exact (hone.closed a ha).imp_right fun hdeps => List.Subset.trans hdeps hrest.mono
      · exact .inr ha
    · rcases hrest.reached a ha with ha | ⟨other, hother, hreach⟩
      · rcases hone.reached a ha with ha | ⟨other, hother, hreach⟩
        · exact .inl ha
        · obtain rfl := List.mem_singleton.mp hother
          exact .inr ⟨other, List.mem_cons_self, hreach⟩
      · exact .inr ⟨other, List.mem_cons_of_mem _ hother, hreach⟩

theorem walked_explore (hclosed : ∀ a ∈ nodes, deps a ⊆ nodes) {entered : List α} (ha : a ∈ nodes)
    (hnodup : entered.Nodup) (hsubset : entered ⊆ nodes)
    (hdeep : nodes.length < depth + entered.length) :
    Walked deps nodes (deps a) entered (explore deps depth entered a) := by
  induction depth generalizing entered a with
  | zero =>
    have hlength := (hnodup.subperm hsubset).length_le
    omega
  | succ depth ih =>
    refine Walked.foldl (fun larger hdistinct hwithin hlarger b hb => ?_) hnodup hsubset
    split_ifs with hentered
    · exact ⟨hdistinct, hwithin, List.Subset.refl _,
        List.cons_subset.mpr ⟨hentered, List.nil_subset _⟩, fun c hc => .inl hc, fun c hc =>
          .inl hc⟩
    · have hin : b ∈ nodes := hclosed a ha hb
      have hlength := (hnodup.subperm hlarger).length_le
      have hwalked : Walked deps nodes (deps b) (b :: larger)
        (explore deps depth (b :: larger) b) := by
        refine ih hin (List.nodup_cons.mpr ⟨hentered, hdistinct⟩)
          (List.cons_subset.mpr ⟨hin, hwithin⟩) ?_
        rw [List.length_cons]
        omega
      refine ⟨hwalked.nodup, hwalked.subset, ?_, ?_, fun c hc => ?_, fun c hc => ?_⟩
      · exact List.Subset.trans (List.subset_cons_self _ _) hwalked.mono
      · exact List.cons_subset.mpr ⟨hwalked.mono List.mem_cons_self, List.nil_subset _⟩
      · rcases hwalked.closed c hc with hc | hc
        · rcases List.mem_cons.mp hc with rfl | hc
          · exact .inr hwalked.finished
          · exact .inl hc
        · exact .inr hc
      · rcases hwalked.reached c hc with hc | ⟨d, hd, hreach⟩
        · rcases List.mem_cons.mp hc with rfl | hc
          · exact .inr ⟨c, List.mem_cons_self, .refl⟩
          · exact .inl hc
        · exact .inr ⟨b, List.mem_cons_self, .head hd hreach⟩

/-- A walk enters what its node leads to. -/
theorem mem_explore (hclosed : ∀ a ∈ nodes, deps a ⊆ nodes) (ha : a ∈ nodes)
    (hdepth : nodes.length < depth) : b ∈ explore deps depth [] a ↔
    TransGen (Depends deps) a b := by
  have hwalked := walked_explore hclosed ha List.nodup_nil (List.nil_subset _)
    (show nodes.length < depth + 0 from hdepth)
  constructor
  · intro hb
    obtain ⟨c, hc, hreach⟩ := (hwalked.reached b hb).resolve_left List.not_mem_nil
    exact .head' hc hreach
  · intro hreach
    induction hreach with
    | single hb => exact hwalked.finished hb
    | tail _ hstep ih => exact (hwalked.closed _ ih).resolve_left List.not_mem_nil hstep

/-! ## Forests

A forest is given by the parent that a node has, if any; `preorder` lists the first node of the
frontier and puts its children in its place. -/

section

variable {parent : α → Option α} {children : Option α → List α} {fuel : ℕ}
  {done frontier : List α}

/-- So many nodes of a forest at most. -/
def preorder (children : Option α → List α) : ℕ → List α → List α
  | 0, _ => []
  | _ + 1, [] => []
  | fuel + 1, a :: frontier => a :: preorder children fuel (children (some a) ++ frontier)

/-- `children` has the nodes of a forest by their parents. -/
structure Hierarchy (nodes : List α) (parent : α → Option α) (children : Option α → List α) :
    Prop where
  mem_children : ∀ {o a}, a ∈ children o ↔ a ∈ nodes ∧ parent a = o
  nodup_children : ∀ o, (children o).Nodup

omit [DecidableEq α] in
/-- From nodes that are listed and a frontier whose parents are among them, everything below the
frontier is listed, and nothing twice. -/
theorem Hierarchy.preorder_spec (h : Hierarchy nodes parent children)
    (hnodup : (done ++ frontier).Nodup)
    (hsubset : done ++ frontier ⊆ nodes)
    (hparent : ∀ a ∈ done ++ frontier, ∀ b, parent a = some b → b ∈ done)
    (hfuel : nodes.length ≤ done.length + fuel) :
    (done ++ preorder children fuel frontier).Nodup ∧
      preorder children fuel frontier ⊆ nodes ∧ frontier ⊆ preorder children fuel frontier ∧
      ∀ a ∈ preorder children fuel frontier,
        children (some a) ⊆ preorder children fuel frontier := by
  induction fuel generalizing done frontier with
  | zero =>
    have hlength := (hnodup.subperm hsubset).length_le
    rw [List.length_append] at hlength
    have hnil : frontier = [] := List.length_eq_zero_iff.mp (by omega)
    subst hnil
    exact ⟨hnodup, List.nil_subset _, List.nil_subset _, fun a ha => absurd ha List.not_mem_nil⟩
  | succ fuel ih =>
    cases frontier with
    | nil =>
      exact ⟨hnodup, List.nil_subset _, List.nil_subset _, fun a ha => absurd ha List.not_mem_nil⟩
    | cons a frontier =>
      have hfresh : a ∉ done := fun ha =>
        List.disjoint_of_nodup_append hnodup ha List.mem_cons_self
      have hmove : done ++ a :: frontier = (done ++ [a]) ++ frontier := by simp
      have hchildren : ∀ b ∈ children (some a), b ∉ done ++ a :: frontier := fun b hb hmem =>
        hfresh (hparent b hmem a (h.mem_children.mp hb).2)
      have hnodup' : (done ++ [a] ++ (children (some a) ++ frontier)).Nodup := by
        have hperm : (done ++ [a] ++ (children (some a) ++ frontier)).Perm
            (children (some a) ++ (done ++ a :: frontier)) := by
          rw [hmove]
          exact List.perm_append_comm_assoc _ _ _
        rw [hperm.nodup_iff, List.nodup_append']
        exact ⟨h.nodup_children _, hnodup, fun b hb hmem => hchildren b hb hmem⟩
      have hmem : ∀ b ∈ done ++ [a] ++ (children (some a) ++ frontier),
          b ∈ done ++ a :: frontier ∨ b ∈ children (some a) := by
        intro b hb
        rw [hmove]
        simp only [List.mem_append] at hb ⊢
        rcases hb with hb | hb | hb
        · exact .inl (.inl hb)
        · exact .inr hb
        · exact .inl (.inr hb)
      have hsubset' : done ++ [a] ++ (children (some a) ++ frontier) ⊆ nodes := by
        intro b hb
        rcases hmem b hb with hb | hb
        · exact hsubset hb
        · exact (h.mem_children.mp hb).1
      have hparent' : ∀ b ∈ done ++ [a] ++ (children (some a) ++ frontier), ∀ c,
          parent b = some c → c ∈ done ++ [a] := by
        intro b hb c hc
        rcases hmem b hb with hb | hb
        · exact List.mem_append_left _ (hparent b hb c hc)
        · have hca : c = a := Option.some.inj (hc.symm.trans (h.mem_children.mp hb).2)
          simp [hca]
      obtain ⟨hdistinct, hwithin, hfront, hclosed⟩ := ih hnodup' hsubset' hparent' (by
        rw [List.length_append, List.length_singleton]
        omega)
      refine ⟨?_, ?_, ?_, ?_⟩
      · rw [preorder, ← List.singleton_append, ← List.append_assoc]
        exact hdistinct
      · exact List.cons_subset.mpr ⟨hsubset (by simp), hwithin⟩
      · refine List.cons_subset.mpr ⟨List.mem_cons_self, fun b hb => List.mem_cons_of_mem _ ?_⟩
        exact hfront (List.mem_append_right _ hb)
      · intro b hb
        rcases List.mem_cons.mp hb with rfl | hb
        · exact fun c hc => List.mem_cons_of_mem _ (hfront (List.mem_append_left _ hc))
        · exact fun c hc => List.mem_cons_of_mem _ (hclosed b hb hc)

omit [DecidableEq α] in
theorem Hierarchy.preorder_roots (h : Hierarchy nodes parent children)
    (hfuel : nodes.length ≤ fuel) :
    (preorder children fuel (children none)).Nodup ∧
      preorder children fuel (children none) ⊆ nodes ∧
      children none ⊆ preorder children fuel (children none) ∧
      ∀ a ∈ preorder children fuel (children none),
        children (some a) ⊆ preorder children fuel (children none) := by
  have hroots : ∀ a ∈ [] ++ children none, ∀ b, parent a = some b → b ∈ ([] : List α) := by
    intro a ha b hb
    rw [(h.mem_children.mp ha).2] at hb
    cases hb
  have hstart : ([] ++ children none).Nodup := h.nodup_children none
  exact h.preorder_spec hstart (fun a ha => (h.mem_children.mp ha).1) hroots (by simpa using hfuel)

omit [DecidableEq α] in
/-- A node is listed that has no cycle above it. -/
theorem Hierarchy.mem_preorder (h : Hierarchy nodes parent children) (hfuel : nodes.length ≤ fuel)
    (hclosed : ∀ a ∈ nodes, ∀ b, parent a = some b → b ∈ nodes)
    (hacc : Acc (flip (Depends fun a => (parent a).toList)) a) (ha : a ∈ nodes) :
    a ∈ preorder children fuel (children none) := by
  obtain ⟨_, _, hroots, hbelow⟩ := h.preorder_roots hfuel
  induction hacc with
  | intro a _ ih =>
    cases hparent : parent a with
    | none => exact hroots (h.mem_children.mpr ⟨ha, hparent⟩)
    | some b =>
      have hb := ih b (by simp [flip, Depends, hparent]) (hclosed a ha b hparent)
      exact hbelow b hb (h.mem_children.mpr ⟨ha, hparent⟩)

omit [DecidableEq α] in
theorem tip_some (list : List α) : tip some none list = list.getLast? := by
  rw [tip]
  cases list.getLast? <;> rfl

omit [DecidableEq α] in
/-- Nobody in a chain hangs on its end. -/
theorem parent_ne_tip (hnodup : done.Nodup) (hlinked : Linked some parent none done)
    (ha : a ∈ done) : parent a ≠ tip some none done := by
  obtain ⟨first, last, rfl⟩ := List.append_of_mem ha
  rw [linked_append] at hlinked
  rw [hlinked.2.1, tip_some, tip_some, List.getLast?_append_of_ne_nil _ (List.cons_ne_nil a last)]
  intro heq
  cases hfirst : first.getLast? with
  | none => simp [hfirst, List.getLast?_cons] at heq
  | some b =>
    have hleft := List.mem_of_getLast? hfirst
    have hright := List.mem_of_getLast? (heq.symm.trans hfirst)
    exact List.disjoint_of_nodup_append hnodup hleft hright

omit [DecidableEq α] in
/-- In a chain nobody shares a parent. -/
theorem eq_of_parent_eq {chain : List α} (hnodup : chain.Nodup)
    (hlinked : Linked some parent none chain) (ha : a ∈ chain) (hb : b ∈ chain)
    (h : parent a = parent b) : a = b := by
  -- the later of the two begins where a chain with the earlier one in it ends
  have hlater : ∀ {a b : α} {first last : List α}, chain = first ++ b :: last → a ∈ first →
      parent a ≠ parent b := by
    rintro a b first last rfl hmem
    rw [linked_append] at hlinked
    rw [hlinked.2.1]
    exact parent_ne_tip (List.Nodup.of_append_left hnodup) hlinked.1 hmem
  obtain ⟨first, last, hchain⟩ := List.append_of_mem ha
  rw [hchain] at hb
  rcases List.mem_append.mp hb with hb | hb
  · exact absurd h.symm (hlater hchain hb)
  rcases List.mem_cons.mp hb with rfl | hb
  · rfl
  · obtain ⟨middle, rest, rfl⟩ := List.append_of_mem hb
    have hsplit : chain = (first ++ a :: middle) ++ b :: rest := by simp [hchain]
    exact absurd h (hlater hsplit (by simp))

omit [DecidableEq α] in
/-- A chain is listed from its root on. -/
theorem Hierarchy.preorder_eq (h : Hierarchy nodes parent children) {chain : List α}
    (hperm : chain.Perm nodes) (hnodup : chain.Nodup) (hlinked : Linked some parent none chain)
    (hfuel : chain.length ≤ fuel) : preorder children fuel (children none) = chain := by
  have hsuffix : ∀ (fuel : ℕ) (done rest : List α), chain = done ++ rest → rest.length ≤ fuel →
      preorder children fuel (children (tip some none done)) = rest := by
    intro fuel done rest hchain hfuel
    induction rest generalizing fuel done with
    | nil =>
      have hnone : children (tip some none done) = [] := by
        refine List.eq_nil_iff_forall_not_mem.mpr fun a ha => ?_
        rw [List.append_nil] at hchain
        subst hchain
        obtain ⟨hmem, hparent⟩ := h.mem_children.mp ha
        exact parent_ne_tip hnodup hlinked (hperm.mem_iff.mpr hmem) hparent
      rw [hnone]
      cases fuel <;> rfl
    | cons a rest ih =>
      have hboth := hlinked
      rw [hchain, linked_append] at hboth
      have hone : children (tip some none done) = [a] := by
        refine List.perm_singleton.mp ((List.perm_ext_iff_of_nodup (h.nodup_children _)
          (List.nodup_singleton a)).mpr fun b => ?_)
        rw [h.mem_children, ← hperm.mem_iff, List.mem_singleton]
        constructor
        · rintro ⟨hb, hparent⟩
          exact eq_of_parent_eq hnodup hlinked hb (by simp [hchain])
            (hparent.trans hboth.2.1.symm)
        · rintro rfl
          exact ⟨by rw [hchain]; simp, hboth.2.1⟩
      obtain ⟨fuel, rfl⟩ : ∃ k, fuel = k + 1 := ⟨fuel - 1, by rw [List.length_cons] at hfuel; omega⟩
      rw [hone, preorder, List.append_nil]
      have hnext := ih fuel (done ++ [a]) (by simp [hchain])
        (by rw [List.length_cons] at hfuel; omega)
      rw [tip_concat] at hnext
      rw [hnext]
  simpa using hsuffix fuel [] chain rfl hfuel

end

end ChatmanEcosystem.Common
