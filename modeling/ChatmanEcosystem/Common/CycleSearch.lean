import ChatmanEcosystem.Common.Dependencies
import ChatmanEcosystem.Rust.Result

/-!
# Depth-first searches that report cycles

A search along a graph that enters no node twice and closes a cycle where it comes back
to a node of the trail that it is on. What it does there may change a state or fail;
`depth` bounds the recursion.

Results:

* `mem_of_foldlM_enter`: a search finishes what its choices reach beside its trail.
* `foldlM_enter_ok_iff`: it succeeds exactly if no trail that it enters is too long and
  every cycle that it comes to can be closed.
* `acc_of_foldlM_enter`: what a search finishes without a cycle is well founded.

`Enters` says without the search which trails those are: a node is entered from the first
choice that reaches it, all earlier choices along the trail being out of reach of it.
-/

namespace ChatmanEcosystem.Common

open Rust Relation

variable {α σ ε : Type}

/-! ## Reaching a node beside a trail -/

/-- `b` is reached from `a` along nodes that are not on the trail. -/
def ReachesBeside (next : α → List α) (trail : List α) (a b : α) : Prop :=
  a ∉ trail ∧ ReflTransGen (fun a b => b ∈ next a ∧ b ∉ trail) a b

/-- The nodes are beside the trail, and lead to nothing but themselves and the trail. -/
def ClosedBeside (next : α → List α) (trail : List α) (nodes : α → Prop) : Prop :=
  ∀ a, nodes a → a ∉ trail ∧ ∀ b ∈ next a, nodes b ∨ b ∈ trail

section Reaching

variable {next : α → List α} {trail : List α} {nodes : α → Prop} {a b c : α}

theorem ReachesBeside.refl (h : a ∉ trail) : ReachesBeside next trail a a := ⟨h, .refl⟩

theorem ReachesBeside.not_mem (h : ReachesBeside next trail a b) : b ∉ trail := by
  obtain ⟨ha, hpath⟩ := h
  cases hpath with
  | refl => exact ha
  | tail _ hlast => exact hlast.2

theorem ReachesBeside.tail (h : ReachesBeside next trail a b) (hc : c ∈ next b)
    (hbeside : c ∉ trail) :
    ReachesBeside next trail a c :=
  ⟨h.1, h.2.tail ⟨hc, hbeside⟩⟩

theorem ReachesBeside.head (h : ReachesBeside next trail b c) (hb : b ∈ next a) (ha : a ∉ trail) :
    ReachesBeside next trail a c :=
  ⟨ha, .head ⟨hb, h.1⟩ h.2⟩

/-- Nothing leads out of a closed set. -/
theorem ReachesBeside.mem_of_closed (h : ReachesBeside next trail a b)
    (hclosed : ClosedBeside next trail nodes) (ha : nodes a) : nodes b := by
  obtain ⟨-, hpath⟩ := h
  induction hpath with
  | refl => exact ha
  | tail _ hlast ih => exact ((hclosed _ ih).2 _ hlast.1).resolve_right hlast.2

/-- A longer trail leaves less to reach. -/
theorem ReachesBeside.of_append {more : List α} (h : ReachesBeside next (trail ++ more) a b) :
    ReachesBeside next trail a b := by
  refine ⟨fun ha => h.1 (List.mem_append_left _ ha), h.2.lift id fun b c hstep => ?_⟩
  exact ⟨hstep.1, fun hc => hstep.2 (List.mem_append_left _ hc)⟩

/-- A node reaches itself, and what is reached from its choices with the node on the trail. -/
theorem reachesBeside_iff (ha : a ∉ trail) : ReachesBeside next trail a b ↔
    b = a ∨ ∃ c ∈ next a, ReachesBeside next (trail ++ [a]) c b := by
  constructor
  · intro ⟨_, hpath⟩
    induction hpath with
    | refl => exact .inl rfl
    | @tail b c _ hlast ih =>
      by_cases hc : c = a
      · exact .inl hc
      · have hbeside : c ∉ trail ++ [a] := by simp [hlast.2, hc]
        rcases ih with rfl | ⟨first, hfirst, hreach⟩
        · exact .inr ⟨c, hlast.1, .refl hbeside⟩
        · exact .inr ⟨first, hfirst, hreach.tail hlast.1 hbeside⟩
  · rintro (rfl | ⟨c, hc, hreach⟩)
    · exact .refl ha
    · exact hreach.of_append.head hc ha

/-- A closed set is closed with what a node reaches. -/
theorem ClosedBeside.reached {visited visited' : List α}
    (h : ClosedBeside next trail (· ∈ visited))
    (hmem : ∀ b, b ∈ visited' ↔ b ∈ visited ∨ ReachesBeside next trail a b) :
    ClosedBeside next trail (· ∈ visited') := by
  intro b hb
  rcases (hmem b).mp hb with hb | hreach
  · exact ⟨(h b hb).1, fun c hc => ((h b hb).2 c hc).imp_left fun hvisited =>
      (hmem c).mpr (.inl hvisited)⟩
  · refine ⟨hreach.not_mem, fun c hc => ?_⟩
    by_cases htrail : c ∈ trail
    · exact .inr htrail
    · exact .inl ((hmem c).mpr (.inr (hreach.tail hc htrail)))

/-- A set that is closed beside a trail without the next node is closed with it. -/
theorem ClosedBeside.append (h : ClosedBeside next trail nodes) (ha : ¬ nodes a) :
    ClosedBeside next (trail ++ [a]) nodes := by
  intro b hb
  have hne : b ≠ a := fun hba => ha (hba ▸ hb)
  refine ⟨by simp [(h b hb).1, hne], fun c hc => ((h b hb).2 c hc).imp_right fun hmem => ?_⟩
  exact List.mem_append_left _ hmem

end Reaching

/-! ## The search -/

section Search

variable [DecidableEq α] (next : α → List α) (stop : ε) (close : List α → α → σ → Except ε σ)

/-- The nodes of `trail` are on the way, those of `visited` are finished. -/
def enter : ℕ → List α → List α × σ → α → Except ε (List α × σ)
  | 0, _, _, _ => .error stop
  | depth + 1, trail, (visited, state), node =>
    if node ∈ visited then .ok (visited, state)
    else if node ∈ trail then (close trail node state).map fun state => (visited, state)
    else do
      let (visited, state) ← (next node).foldlM (enter depth (trail ++ [node])) (visited, state)
      return (visited ++ [node], state)

/-- A search on `trail` that has `seen` some nodes and takes the choices one after the other enters
a node from the trail before it: the nodes that a choice reaches are seen by the later ones. -/
inductive Enters : List α → (α → Prop) → List α → List α → α → Prop
  | here {trail choices : List α} {seen : α → Prop} {a : α} (hnew : a ∉ trail) (hseen : ¬ seen a) :
    Enters trail seen (a :: choices) trail a
  | inside {trail choices trail' : List α} {seen : α → Prop} {a node : α} (hnew : a ∉ trail)
    (hseen : ¬ seen a) (h : Enters (trail ++ [a]) seen (next a) trail' node) :
    Enters trail seen (a :: choices) trail' node
  | later {trail choices trail' : List α} {seen : α → Prop} {a node : α}
    (h : Enters trail (fun b => seen b ∨ ReachesBeside next trail a b) choices trail' node) :
    Enters trail seen (a :: choices) trail' node

/-- The choices at the end of a trail are within the bound, and the cycles that they come to can be
closed. -/
structure SafeChoices (limit : ℕ) (closes : List α → α → Prop) (trail choices : List α) : Prop where
  short : choices = [] ∨ trail.length < limit
  closes : ∀ a ∈ choices, a ∈ trail → closes trail a

end Search

/-! ## What is finished -/

section Finished

variable [DecidableEq α] {next : α → List α} {stop : ε} {close : List α → α → σ → Except ε σ}
  {trail visited visited' choices : List α} {state state' : σ} {a b : α} {depth : ℕ}

omit [DecidableEq α] in
theorem mem_of_foldlM {step : List α × σ → α → Except ε (List α × σ)}
    (hstep : ∀ {visited visited' : List α} {state state' : σ} {a : α},
      ClosedBeside next trail (· ∈ visited) → step (visited, state) a = .ok (visited', state') →
        ∀ b, b ∈ visited' ↔ b ∈ visited ∨ ReachesBeside next trail a b)
    (hclosed : ClosedBeside next trail (· ∈ visited))
    (h : choices.foldlM step (visited, state) = .ok (visited', state')) (b : α) :
    b ∈ visited' ↔ b ∈ visited ∨ ∃ a ∈ choices, ReachesBeside next trail a b := by
  induction choices generalizing visited state with
  | nil =>
    obtain ⟨rfl, -⟩ := Prod.mk.inj (Except.ok.inj h)
    simp
  | cons a choices ih =>
    rw [List.foldlM_cons, bind_eq_ok] at h
    obtain ⟨⟨visited₁, state₁⟩, hfirst, hlater⟩ := h
    have hmem := hstep hclosed hfirst
    rw [ih (hclosed.reached hmem) hlater, hmem]
    simp [or_assoc]

theorem mem_of_enter (hclosed : ClosedBeside next trail (· ∈ visited))
    (h : enter next stop close depth trail (visited, state) a = .ok (visited', state')) (b : α) :
    b ∈ visited' ↔ b ∈ visited ∨ ReachesBeside next trail a b := by
  induction depth generalizing trail visited visited' state state' a b with
  | zero => exact absurd h (by simp [enter])
  | succ depth ih =>
    unfold enter at h
    split_ifs at h with hvisited htrail
    · obtain ⟨rfl, -⟩ := Prod.mk.inj (Except.ok.inj h)
      exact (or_iff_left_of_imp fun hreach => hreach.mem_of_closed hclosed hvisited).symm
    · cases hclose : close trail a state with
      | error raised => rw [hclose] at h; exact absurd h (by simp [Except.map])
      | ok state₁ =>
        rw [hclose] at h
        obtain ⟨rfl, -⟩ := Prod.mk.inj (Except.ok.inj h)
        exact (or_iff_left_of_imp fun hreach => absurd htrail hreach.1).symm
    · rw [bind_eq_ok] at h
      obtain ⟨⟨visited₁, state₁⟩, hbelow, hreturn⟩ := h
      obtain ⟨rfl, -⟩ := Prod.mk.inj (Except.ok.inj hreturn)
      have hmem := mem_of_foldlM (fun hclosed h b => ih hclosed h b) (hclosed.append hvisited)
        hbelow b
      rw [List.mem_append, hmem, List.mem_singleton, reachesBeside_iff htrail, or_assoc]
      exact or_congr_right or_comm

/-- A search finishes what its choices reach beside its trail. -/
theorem mem_of_foldlM_enter (hclosed : ClosedBeside next trail (· ∈ visited))
    (h : choices.foldlM (enter next stop close depth trail) (visited, state) =
      .ok (visited', state')) (b : α) :
    b ∈ visited' ↔ b ∈ visited ∨ ∃ a ∈ choices, ReachesBeside next trail a b :=
  mem_of_foldlM (fun hclosed h b => mem_of_enter hclosed h b) hclosed h b

end Finished

/-! ## When a search succeeds -/

section Success

variable [DecidableEq α] {next : α → List α} {stop : ε} {close : List α → α → σ → Except ε σ}
  {closes : List α → α → Prop} {trail visited choices : List α} {state : σ} {a node : α}
  {seen : α → Prop} {limit depth : ℕ}

omit [DecidableEq α] in
theorem not_enters_nil {trail' : List α} : ¬ Enters next trail seen [] trail' node := nofun

/-- Everything that is entered from some choices is safe. -/
def AllSafe (next : α → List α) (limit : ℕ) (closes : List α → α → Prop) (trail : List α)
    (seen : α → Prop) (choices : List α) : Prop :=
  ∀ trail' node, Enters next trail seen choices trail' node →
    SafeChoices limit closes (trail' ++ [node]) (next node)

omit [DecidableEq α] in
theorem allSafe_cons : AllSafe next limit closes trail seen (a :: choices) ↔
    (a ∉ trail → ¬ seen a → SafeChoices limit closes (trail ++ [a]) (next a) ∧
      AllSafe next limit closes (trail ++ [a]) seen (next a)) ∧
    AllSafe next limit closes trail (fun b => seen b ∨ ReachesBeside next trail a b) choices := by
  constructor
  · intro h
    refine ⟨fun hnew hseen => ⟨h trail a (.here hnew hseen), fun trail' node hentered => ?_⟩,
      fun trail' node hentered => ?_⟩
    · exact h trail' node (.inside hnew hseen hentered)
    · exact h trail' node (.later hentered)
  · intro ⟨hfirst, hlater⟩ trail' node hentered
    cases hentered with
    | here hnew hseen => exact (hfirst hnew hseen).1
    | inside hnew hseen h => exact (hfirst hnew hseen).2 trail' node h
    | later h => exact hlater trail' node h

omit [DecidableEq α] in
/-- A choice that reaches nothing new leaves the later ones what was seen. -/
theorem seen_of_closed (hclosed : ClosedBeside next trail (· ∈ visited))
    (h : a ∈ visited ∨ a ∈ trail) :
    (fun b => b ∈ visited ∨ ReachesBeside next trail a b) = (· ∈ visited) := by
  funext b
  refine propext (or_iff_left_of_imp fun hreach => ?_)
  rcases h with hvisited | htrail
  · exact hreach.mem_of_closed hclosed hvisited
  · exact absurd htrail hreach.1

omit [DecidableEq α] in
theorem safeChoices_cons (hlimit : trail.length < limit) :
    SafeChoices limit closes trail (a :: choices) ↔
      (a ∈ trail → closes trail a) ∧ SafeChoices limit closes trail choices := by
  constructor
  · intro h
    have hcloses := List.forall_mem_cons.mp h.closes
    exact ⟨hcloses.1, .inr hlimit, hcloses.2⟩
  · intro ⟨hfirst, hlater⟩
    exact ⟨.inr hlimit, List.forall_mem_cons.mpr ⟨hfirst, hlater.closes⟩⟩

/-- A search succeeds exactly if everything that it enters is safe. -/
theorem foldlM_enter_ok_iff
    (hclose : ∀ trail node state, (∃ state', close trail node state = .ok state') ↔
      closes trail node)
    (hclosed : ClosedBeside next trail (· ∈ visited)) :
    (∃ finished, choices.foldlM (enter next stop close depth trail) (visited, state) =
        .ok finished) ↔
      SafeChoices (trail.length + depth) closes trail choices ∧
        AllSafe next (trail.length + depth) closes trail (· ∈ visited) choices := by
  induction depth generalizing trail visited choices state with
  | zero =>
    cases choices with
    | nil =>
      exact iff_of_true ⟨_, rfl⟩ ⟨⟨.inl rfl, nofun⟩, fun _ _ h => absurd h not_enters_nil⟩
    | cons a choices =>
      refine iff_of_false ?_ fun h => ?_
      · simp [enter, bind, Except.bind]
      · have hshort := h.1.short.resolve_left (List.cons_ne_nil _ _)
        omega
  | succ depth ih =>
    have hlimit : trail.length < trail.length + (depth + 1) := by omega
    induction choices generalizing visited state with
    | nil =>
      exact iff_of_true ⟨_, rfl⟩ ⟨⟨.inl rfl, nofun⟩, fun _ _ h => absurd h not_enters_nil⟩
    | cons a choices ihc =>
      rw [allSafe_cons, safeChoices_cons hlimit, List.foldlM_cons]
      by_cases hvisited : a ∈ visited
      · have hfirst : enter next stop close (depth + 1) trail (visited, state) a =
            .ok (visited, state) := by
          unfold enter
          exact if_pos hvisited
        rw [hfirst, seen_of_closed hclosed (.inl hvisited)]
        refine (ihc hclosed).trans ?_
        simp [hvisited, (hclosed a hvisited).1]
      by_cases htrail : a ∈ trail
      · have hfirst : enter next stop close (depth + 1) trail (visited, state) a =
            (close trail a state).map fun state => (visited, state) := by
          unfold enter
          rw [if_neg hvisited, if_pos htrail]
        rw [hfirst, seen_of_closed hclosed (.inr htrail)]
        cases hresult : close trail a state with
        | error raised =>
          have hnot : ¬ closes trail a := by
            rw [← hclose trail a state, hresult]
            simp
          simp [Except.map, bind, Except.bind, htrail, hnot]
        | ok state₁ =>
          have hcloses : closes trail a := (hclose trail a state).mp ⟨state₁, hresult⟩
          refine (ihc hclosed).trans ?_
          simp [htrail, hcloses]
      · have hfirst : enter next stop close (depth + 1) trail (visited, state) a = (do
            let (visited, state) ← (next a).foldlM
              (enter next stop close depth (trail ++ [a])) (visited, state)
            return (visited ++ [a], state)) := by
          conv_lhs => unfold enter
          rw [if_neg hvisited, if_neg htrail]
        have hbelow : (∃ finished, (next a).foldlM (enter next stop close depth (trail ++ [a]))
            (visited, state) = .ok finished) ↔ _ := ih (hclosed.append hvisited)
        rw [List.length_append, List.length_singleton, Nat.add_assoc, Nat.add_comm 1] at hbelow
        cases hresult : (next a).foldlM (enter next stop close depth (trail ++ [a]))
            (visited, state) with
        | error raised =>
          have hunsafe : ¬ (SafeChoices (trail.length + (depth + 1)) closes
              (trail ++ [a]) (next a) ∧
              AllSafe next (trail.length + (depth + 1)) closes (trail ++ [a]) (· ∈ visited)
                (next a)) := by
            rw [← hbelow, hresult]
            simp
          refine iff_of_false ?_ fun h => hunsafe (h.2.1 htrail hvisited)
          rw [hfirst, hresult]
          simp [bind, Except.bind]
        | ok finished =>
          obtain ⟨visited₁, state₁⟩ := finished
          have hsafe := hbelow.mp ⟨_, hresult⟩
          have hentered : enter next stop close (depth + 1) trail (visited, state) a =
              .ok (visited₁ ++ [a], state₁) := by
            rw [hfirst, hresult]
            rfl
          have hclosed₁ : ClosedBeside next trail (· ∈ visited₁ ++ [a]) :=
            hclosed.reached (mem_of_enter hclosed hentered)
          have hseen : (fun b => b ∈ visited ∨ ReachesBeside next trail a b) =
              (· ∈ visited₁ ++ [a]) :=
            funext fun b => propext (mem_of_enter hclosed hentered b).symm
          rw [hentered, hseen]
          refine (ihc hclosed₁).trans ?_
          simp [htrail, hvisited, hsafe]

end Success

/-! ## Searches without a cycle -/

section Founded

variable [DecidableEq α] {next : α → List α} {stop : ε} {close : List α → α → σ → Except ε σ}
  {clean : σ → Prop} {trail visited visited' choices : List α} {state state' : σ} {a : α}
  {depth : ℕ}

/-- What a part of a search has finished without a cycle, from where it was. -/
structure Founded (next : α → List α) (visited visited' : List α) (state state' : σ) : Prop where
  state_eq : state' = state
  subset : visited ⊆ visited'
  founded : (∀ a ∈ visited, Acc (flip (Depends next)) a) →
    ∀ a ∈ visited', Acc (flip (Depends next)) a

omit [DecidableEq α] in
theorem founded_of_foldlM {step : List α × σ → α → Except ε (List α × σ)}
    (hstep : ∀ {visited visited' : List α} {state state' : σ} {a : α},
      step (visited, state) a = .ok (visited', state') →
        ¬ clean state' ∨ Founded next visited visited' state state' ∧ a ∈ visited')
    (h : choices.foldlM step (visited, state) = .ok (visited', state')) :
    ¬ clean state' ∨ Founded next visited visited' state state' ∧ choices ⊆ visited' := by
  induction choices generalizing visited state with
  | nil =>
    obtain ⟨rfl, rfl⟩ := Prod.mk.inj (Except.ok.inj h)
    exact .inr ⟨⟨rfl, List.Subset.refl _, id⟩, List.nil_subset _⟩
  | cons a choices ih =>
    rw [List.foldlM_cons, bind_eq_ok] at h
    obtain ⟨⟨visited₁, state₁⟩, hfirst, hlater⟩ := h
    rcases ih hlater with hunclean | ⟨hrest, hsubset⟩
    · exact .inl hunclean
    rcases hstep hfirst with hunclean | ⟨hfounded, hmem⟩
    · exact .inl (hrest.state_eq ▸ hunclean)
    · refine .inr ⟨⟨hrest.state_eq.trans hfounded.state_eq,
        List.Subset.trans hfounded.subset hrest.subset,
        fun hvisited => hrest.founded (hfounded.founded hvisited)⟩, ?_⟩
      exact List.cons_subset.mpr ⟨hrest.subset hmem, hsubset⟩

theorem founded_of_enter
    (hclose : ∀ trail node state state', close trail node state = .ok state' → ¬ clean state')
    (h : enter next stop close depth trail (visited, state) a = .ok (visited', state')) :
    ¬ clean state' ∨ Founded next visited visited' state state' ∧ a ∈ visited' := by
  induction depth generalizing trail visited visited' state state' a with
  | zero => exact absurd h (by simp [enter])
  | succ depth ih =>
    unfold enter at h
    split_ifs at h with hvisited htrail
    · obtain ⟨rfl, rfl⟩ := Prod.mk.inj (Except.ok.inj h)
      exact .inr ⟨⟨rfl, List.Subset.refl _, id⟩, hvisited⟩
    · cases hresult : close trail a state with
      | error raised => rw [hresult] at h; exact absurd h (by simp [Except.map])
      | ok state₁ =>
        rw [hresult] at h
        obtain ⟨-, rfl⟩ := Prod.mk.inj (Except.ok.inj h)
        exact .inl (hclose trail a state state₁ hresult)
    · rw [bind_eq_ok] at h
      obtain ⟨⟨visited₁, state₁⟩, hbelow, hreturn⟩ := h
      obtain ⟨rfl, rfl⟩ := Prod.mk.inj (Except.ok.inj hreturn)
      rcases founded_of_foldlM (fun h => ih h) hbelow with hunclean | ⟨hfounded, hsubset⟩
      · exact .inl hunclean
      · refine .inr ⟨⟨hfounded.state_eq, ?_, fun hvisited b hb => ?_⟩, by simp⟩
        · exact List.Subset.trans hfounded.subset (List.subset_append_left _ _)
        · have hbefore := hfounded.founded hvisited
          rcases List.mem_append.mp hb with hb | hb
          · exact hbefore b hb
          · rw [List.mem_singleton.mp hb]
            exact ⟨a, fun c hc => hbefore c (hsubset hc)⟩

/-- What a search finishes without a cycle is well founded. -/
theorem acc_of_foldlM_enter
    (hclose : ∀ trail node state state', close trail node state = .ok state' → ¬ clean state')
    (h : choices.foldlM (enter next stop close depth trail) ([], state) = .ok (visited', state'))
    (hclean : clean state') : ∀ a ∈ choices, Acc (flip (Depends next)) a := by
  obtain ⟨hfounded, hsubset⟩ :=
    (founded_of_foldlM (fun h => founded_of_enter hclose h) h).resolve_left (not_not.mpr hclean)
  exact fun a ha => hfounded.founded (fun b hb => absurd hb List.not_mem_nil) a (hsubset ha)

end Founded

end ChatmanEcosystem.Common
