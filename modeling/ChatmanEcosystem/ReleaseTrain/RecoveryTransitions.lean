import ChatmanEcosystem.ReleaseTrain.CrossProduct
import Mathlib.Data.List.Chain

/-!
# Transitions of the recovery context

Model of `scripts/release_train/recovery_transaction` (`transitions.py`, and the
records of `context.py` and `subject.py`).

A run of linked transitions comes back if it leaves a cut and is in the same cut
again later (`Returns`). `detectAba` looks for a cut that occurs again with a
larger generation, whether the cut was left in between or not.

Results:

* `detectAba_iff`: what `detectAba` finds.
* `exists_advance`: a run that does not come back has a cut with two generations
  only where a transition advances the generation within its cut.
* `detectAba_exact_iff`: the runs on which `detectAba` tells whether they come
  back.
-/

namespace ChatmanEcosystem.ReleaseTrain.RecoveryTransaction

open Py Rust

/-! ## Records -/

/-- `[A-Za-z0-9_.-]+`. -/
def isName (text : List Char) : Bool :=
  text ≠ [] && text.all fun c => c.isAlphanum || c = '_' || c = '.' || c = '-'

/-- `_REPO.fullmatch` (`subject.py`, line 6). -/
def isRepo (text : String) : Bool :=
  match text.toList.splitOn '/' with
  | [owner, name] => isName owner && isName name
  | _ => false

/-- `Subject` (`subject.py`, lines 12–20). -/
@[ext] structure Subject where
  repo : String
  sha : String
  owned : isRepo repo = true
  exact : sha.length = 40 ∧ CrossProduct.isHex sha = true

instance : DecidableEq Subject := fun _ _ => decidable_of_iff' _ Subject.ext_iff

/-- `RecoveryContext` (`context.py`, lines 11–20). -/
structure RecoveryContext where
  subject : Subject
  generation : ℕ
  cutId : String
  policyDigest : String
  frontierDigest : String
  strategy : String
  named : cutId ≠ "" ∧ strategy ≠ ""
  policy : policyDigest.length = 64 ∧ CrossProduct.isHex policyDigest = true
  frontier : frontierDigest.length = 64 ∧ CrossProduct.isHex frontierDigest = true
  deriving DecidableEq

/-- `ContextTransition` (`transitions.py`, lines 6–11). -/
structure ContextTransition where
  before : RecoveryContext
  after : RecoveryContext
  monotone : before.generation ≤ after.generation

/-! ## The search -/

/-- The loop (`transitions.py`, lines 17–23). `prior_cut` is written and decides nothing. -/
def scan (seen : List (String × ℕ)) : List ContextTransition → Bool
  | [] => false
  | t :: transitions =>
    if seen.any fun (cut, gen) => cut = t.after.cutId ∧ gen < t.after.generation then true
    else scan ((t.after.cutId, t.after.generation) :: seen) transitions

/-- `detect_aba` (`transitions.py`, lines 13–23). -/
def detectAba : List ContextTransition → Bool
  | [] => false
  | t :: transitions => scan [(t.before.cutId, t.before.generation)] (t :: transitions)

/-- `require_no_aba` (`transitions.py`, lines 25–26). -/
def requireNoAba (transitions : List ContextTransition) : Except (Raised String) Unit :=
  ensure (detectAba transitions = false) (.refusal "REFUSED[ABA_RECOVERY_CONTEXT]")

/-! ## Runs -/

/-- Each transition begins where the one before it ended. -/
def Linked (transitions : List ContextTransition) : Prop :=
  transitions.IsChain fun t next => next.before = t.after

/-- A cut and its generation. -/
def mark (context : RecoveryContext) : String × ℕ := (context.cutId, context.generation)

/-- The cuts and generations that the transitions go through. -/
def marks : List ContextTransition → List (String × ℕ)
  | [] => []
  | t :: transitions => mark t.before :: (t :: transitions).map fun t => mark t.after

/-- A cut is left for another one and occurs again. -/
def Returns (cuts : List String) : Prop := ∃ a b, a ≠ b ∧ [a, b, a].Sublist cuts

/-- A cut occurs again with a larger generation. -/
def TwoGenerations (marks : List (String × ℕ)) : Prop :=
  ∃ cut gen gen', gen < gen' ∧ [(cut, gen), (cut, gen')].Sublist marks

/-- A transition advances the generation and keeps the cut. -/
def AdvancesWithin (transitions : List ContextTransition) : Prop :=
  ∃ t ∈ transitions, t.before.cutId = t.after.cutId ∧ t.before.generation < t.after.generation

/-! ## What is found -/

/-- The cut of a mark occurs with a larger generation. -/
def Rises (marks : List (String × ℕ)) (m : String × ℕ) : Prop :=
  ∃ gen, m.2 < gen ∧ (m.1, gen) ∈ marks

variable {transitions : List ContextTransition} {marks' : List (String × ℕ)} {m m' : String × ℕ}

theorem pair_sublist_cons {α : Type*} {a b c : α} {l : List α} :
    [a, b].Sublist (c :: l) ↔ a = c ∧ b ∈ l ∨ [a, b].Sublist l := by
  rw [List.sublist_cons_iff]
  constructor
  · rintro (h | ⟨r, hr, hsub⟩)
    · exact .inr h
    · obtain ⟨rfl, rfl⟩ := List.cons.inj hr
      exact .inl ⟨rfl, List.singleton_sublist.mp hsub⟩
  · rintro (⟨rfl, hb⟩ | h)
    · exact .inr ⟨[b], rfl, List.singleton_sublist.mpr hb⟩
    · exact .inl h

theorem rises_cons : Rises (m' :: marks') m ↔ m.1 = m'.1 ∧ m.2 < m'.2 ∨ Rises marks' m := by
  constructor
  · rintro ⟨gen, hlt, hmem⟩
    rcases List.mem_cons.mp hmem with rfl | hmem
    · exact .inl ⟨rfl, hlt⟩
    · exact .inr ⟨gen, hlt, hmem⟩
  · rintro (⟨hcut, hlt⟩ | ⟨gen, hlt, hmem⟩)
    · exact ⟨m'.2, hlt, by rw [hcut]; exact List.mem_cons_self⟩
    · exact ⟨gen, hlt, List.mem_cons_of_mem _ hmem⟩

theorem twoGenerations_cons :
    TwoGenerations (m :: marks') ↔ Rises marks' m ∨ TwoGenerations marks' := by
  constructor
  · rintro ⟨cut, gen, gen', hlt, hsub⟩
    rcases pair_sublist_cons.mp hsub with ⟨rfl, hmem⟩ | hsub
    · exact .inl ⟨gen', hlt, hmem⟩
    · exact .inr ⟨cut, gen, gen', hlt, hsub⟩
  · rintro (⟨gen, hlt, hmem⟩ | ⟨cut, gen, gen', hlt, hsub⟩)
    · exact ⟨m.1, m.2, gen, hlt, pair_sublist_cons.mpr (.inl ⟨rfl, hmem⟩)⟩
    · exact ⟨cut, gen, gen', hlt, pair_sublist_cons.mpr (.inr hsub)⟩

/-- The loop finds a cut that rises, of those that have been seen or further on. -/
theorem scan_iff {seen : List (String × ℕ)} : scan seen transitions = true ↔
    (∃ m ∈ seen, Rises (transitions.map fun t => mark t.after) m) ∨
      TwoGenerations (transitions.map fun t => mark t.after) := by
  induction transitions generalizing seen with
  | nil => simp [scan, Rises, TwoGenerations]
  | cons t transitions ih =>
    have hhit : (seen.any fun (cut, gen) => cut = t.after.cutId ∧ gen < t.after.generation) = true ↔
        ∃ m ∈ seen, m.1 = (mark t.after).1 ∧ m.2 < (mark t.after).2 := by
      simp [mark]
    rw [scan, List.map_cons, twoGenerations_cons]
    simp only [rises_cons]
    split_ifs with hseen
    · obtain ⟨m, hm, hrise⟩ := hhit.mp hseen
      exact iff_of_true rfl (.inl ⟨m, hm, .inl hrise⟩)
    · rw [ih, List.exists_mem_cons_iff, or_assoc]
      have hnone := mt hhit.mpr hseen
      constructor
      · rintro (hfirst | ⟨m, hm, hrise⟩ | htwo)
        · exact .inr (.inl hfirst)
        · exact .inl ⟨m, hm, .inr hrise⟩
        · exact .inr (.inr htwo)
      · rintro (⟨m, hm, hrise | hrise⟩ | hfirst | htwo)
        · exact absurd ⟨m, hm, hrise⟩ hnone
        · exact .inr (.inl ⟨m, hm, hrise⟩)
        · exact .inl hfirst
        · exact .inr (.inr htwo)

/-- `detectAba` finds a cut with two generations. -/
theorem detectAba_iff : detectAba transitions = true ↔ TwoGenerations (marks transitions) := by
  cases transitions with
  | nil => simp [detectAba, marks, TwoGenerations]
  | cons t transitions =>
    rw [detectAba, scan_iff, marks, twoGenerations_cons]
    simp [mark]

/-! ## What comes back -/

/-- Where nothing comes back and the generations do not fall, a cut has two generations only in two
places that follow each other. -/
theorem exists_infix (hmono : marks'.Pairwise fun m m' => m.2 ≤ m'.2)
    (hreturn : ¬ Returns (marks'.map Prod.fst)) (htwo : TwoGenerations marks') :
    ∃ cut gen gen', gen < gen' ∧ [(cut, gen), (cut, gen')] <:+: marks' := by
  induction marks' with
  | nil => exact absurd htwo (by simp [TwoGenerations])
  | cons m rest ih =>
    obtain ⟨hle, hmono⟩ := List.pairwise_cons.mp hmono
    have hrest : ¬ Returns (rest.map Prod.fst) := fun ⟨a, b, hne, hsub⟩ =>
      hreturn ⟨a, b, hne, hsub.cons _⟩
    have hlater : TwoGenerations rest →
        ∃ cut gen gen', gen < gen' ∧ [(cut, gen), (cut, gen')] <:+: m :: rest := by
      intro htwo
      obtain ⟨cut, gen, gen', hlt, hinfix⟩ := ih hmono hrest htwo
      exact ⟨cut, gen, gen', hlt, List.infix_cons hinfix⟩
    rcases twoGenerations_cons.mp htwo with ⟨gen, hlt, hmem⟩ | htwo
    · cases rest with
      | nil => exact absurd hmem List.not_mem_nil
      | cons next rest =>
        -- the next place has the same cut: otherwise the run comes back to it
        have hcut : next.1 = m.1 := by
          by_contra hne
          have hmem' : (m.1, gen) ∈ rest := by
            rcases List.mem_cons.mp hmem with rfl | hmem
            · exact absurd rfl hne
            · exact hmem
          have hback : m.1 ∈ rest.map Prod.fst := List.mem_map.mpr ⟨_, hmem', rfl⟩
          exact hreturn ⟨m.1, next.1, Ne.symm hne,
            ((List.singleton_sublist.mpr hback).cons_cons _).cons_cons _⟩
        by_cases hadvance : m.2 < next.2
        · obtain ⟨cut, gen'⟩ := next
          obtain rfl : cut = m.1 := hcut
          exact ⟨m.1, m.2, gen', hadvance, [], rest, rfl⟩
        · have hgen : next.2 = m.2 :=
            Nat.le_antisymm (Nat.not_lt.mp hadvance) (hle next List.mem_cons_self)
          refine hlater (twoGenerations_cons.mpr (rises_cons.mp ⟨gen, hlt, hmem⟩ |>.elim ?_ ?_))
          · exact fun ⟨_, hlt⟩ => absurd hlt hadvance
          · rintro ⟨gen, hlt, hmem⟩
            exact .inl ⟨gen, hgen ▸ hlt, hcut ▸ hmem⟩
    · exact hlater htwo

/-- A linked run goes on from where its first transition ends. -/
theorem marks_cons {t t' : ContextTransition} (hlinked : Linked (t :: t' :: transitions)) :
    marks (t :: t' :: transitions) = mark t.before :: marks (t' :: transitions) := by
  have hlink : t'.before = t.after := (List.isChain_cons_cons.mp hlinked).1
  simp only [marks, List.map_cons, hlink]

/-- Two places that follow each other are those of a transition. -/
theorem infix_marks_iff (hlinked : Linked transitions) :
    [m, m'] <:+: marks transitions ↔ ∃ t ∈ transitions, mark t.before = m ∧ mark t.after = m' := by
  induction transitions with
  | nil => simp [marks]
  | cons t transitions ih =>
    cases transitions with
    | nil =>
      have hpair : [m, m'] <:+: [mark t.before, mark t.after] ↔
          mark t.before = m ∧ mark t.after = m' := by
        simp [List.infix_cons_iff, List.cons_prefix_cons, @eq_comm _ m, @eq_comm _ m']
      rw [marks, List.map_singleton, hpair]
      simp
    | cons t' transitions =>
      have hfirst : [m, m'] <+: mark t.before :: marks (t' :: transitions) ↔
          mark t.before = m ∧ mark t.after = m' := by
        have hlink : t'.before = t.after := (List.isChain_cons_cons.mp hlinked).1
        simp [marks, List.cons_prefix_cons, hlink, @eq_comm _ m, @eq_comm _ m']
      rw [marks_cons hlinked, List.infix_cons_iff, hfirst, ih (List.isChain_cons_cons.mp hlinked).2]
      simp only [List.mem_cons, exists_eq_or_imp]

/-- The generations do not fall. -/
theorem pairwise_marks (hlinked : Linked transitions) :
    (marks transitions).Pairwise fun m m' => m.2 ≤ m'.2 := by
  let rel (m m' : String × ℕ) : Prop := m.2 ≤ m'.2
  have htrans : Trans rel rel rel := ⟨Nat.le_trans⟩
  refine (List.isChain_iff_forall_rel_of_append_cons_cons.mpr ?_).pairwise
  intro m m' first rest hmarks
  have hinfix : [m, m'] <:+: marks transitions := ⟨first, rest, by simp [hmarks]⟩
  obtain ⟨t, -, rfl, rfl⟩ := (infix_marks_iff hlinked).mp hinfix
  exact t.monotone

/-- A transition that advances the generation within its cut leaves two generations of the cut. -/
theorem AdvancesWithin.twoGenerations (hlinked : Linked transitions)
    (h : AdvancesWithin transitions) : TwoGenerations (marks transitions) := by
  obtain ⟨t, ht, hcut, hgen⟩ := h
  have hinfix := (infix_marks_iff hlinked).mpr ⟨t, ht, rfl, rfl⟩
  refine ⟨t.after.cutId, t.before.generation, t.after.generation, hgen, ?_⟩
  rw [mark, hcut] at hinfix
  exact hinfix.sublist

/-- A run that does not come back has a cut with two generations only where a transition advances
the generation within its cut. -/
theorem exists_advance (hlinked : Linked transitions)
    (hreturn : ¬ Returns ((marks transitions).map Prod.fst))
    (htwo : TwoGenerations (marks transitions)) : AdvancesWithin transitions := by
  obtain ⟨cut, gen, gen', hlt, hinfix⟩ := exists_infix (pairwise_marks hlinked) hreturn htwo
  obtain ⟨t, ht, hbefore, hafter⟩ := (infix_marks_iff hlinked).mp hinfix
  obtain ⟨rfl, rfl⟩ := Prod.mk.inj hbefore
  obtain ⟨hcut, rfl⟩ := Prod.mk.inj hafter
  exact ⟨t, ht, hcut.symm, hlt⟩

/-- Exactly the runs that come back are found. -/
def AbaExact (transitions : List ContextTransition) : Prop :=
  detectAba transitions = true ↔ Returns ((marks transitions).map Prod.fst)

/-- A run that comes back is found if some cut has two generations, and one that does not is let
through if no transition advances the generation within its cut. -/
theorem detectAba_exact_iff (transitions : List ContextTransition) (hlinked : Linked transitions) :
    AbaExact transitions ↔
      (Returns ((marks transitions).map Prod.fst) → TwoGenerations (marks transitions)) ∧
      (¬ Returns ((marks transitions).map Prod.fst) → ¬ AdvancesWithin transitions) := by
  rw [AbaExact, detectAba_iff]
  constructor
  · intro h
    exact ⟨h.mpr, fun hreturn hadvance => hreturn (h.mp (hadvance.twoGenerations hlinked))⟩
  · rintro ⟨hfound, hpassed⟩
    refine ⟨fun htwo => ?_, hfound⟩
    by_contra hreturn
    exact hpassed hreturn (exists_advance hlinked hreturn htwo)

/-! ## Runs that are told wrong -/

/-- A context of the chatman-ecosystem repository. -/
def contextAt (generation : ℕ) (cutId : String) (named : cutId ≠ "" ∧ "LATEST_COMPLETE" ≠ "") :
    RecoveryContext where
  subject :=
    { repo := "seanchatmangpt/chatman-ecosystem"
      sha := String.ofList (List.replicate 40 '3')
      owned := by decide +kernel
      exact := by decide +kernel }
  generation
  cutId
  policyDigest := String.ofList (List.replicate 64 'a')
  frontierDigest := String.ofList (List.replicate 64 'a')
  strategy := "LATEST_COMPLETE"
  named
  policy := by decide +kernel
  frontier := by decide +kernel

/-- The generation is advanced in one cut. -/
def advanced : List ContextTransition :=
  [{ before := contextAt 1 "A" (by decide), after := contextAt 2 "A" (by decide),
     monotone := by decide }]

/-- A cut is left and taken up again in the same generation. -/
def frozenReturn : List ContextTransition :=
  [{ before := contextAt 1 "A" (by decide), after := contextAt 1 "B" (by decide),
     monotone := by decide },
   { before := contextAt 1 "B" (by decide), after := contextAt 1 "A" (by decide),
     monotone := by decide }]

theorem aba_told_wrong : (Linked advanced ∧ ¬ AbaExact advanced) ∧
    Linked frozenReturn ∧ ¬ AbaExact frozenReturn := by
  refine ⟨⟨List.isChain_singleton _, fun h => ?_⟩, List.isChain_pair.mpr rfl, fun h => ?_⟩
  · obtain ⟨a, b, -, hsub⟩ := h.mp (by decide)
    have hlength : 3 ≤ 2 := hsub.length_le
    exact absurd hlength (by decide)
  · have hfound : detectAba frozenReturn = true := h.mpr ⟨"A", "B", by decide, List.Sublist.refl _⟩
    exact absurd hfound (by decide)

/-- A return in a later generation is told. -/
theorem later_return_told : AbaExact
    [{ before := contextAt 1 "A" (by decide), after := contextAt 2 "B" (by decide),
       monotone := by decide },
     { before := contextAt 2 "B" (by decide), after := contextAt 3 "A" (by decide),
       monotone := by decide }] := by
  refine (detectAba_exact_iff _ (List.isChain_pair.mpr rfl)).mpr ⟨fun _ => ?_, fun hnone => ?_⟩
  · exact detectAba_iff.mp (by decide)
  · exact absurd ⟨"A", "B", by decide, List.Sublist.refl _⟩ hnone

end ChatmanEcosystem.ReleaseTrain.RecoveryTransaction
