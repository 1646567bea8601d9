import ChatmanEcosystem.ReleaseTrain.CrossProduct
import Mathlib.Data.Finset.Card

/-!
# ALIVE in the cross-product court

Results:

* `alive_iff`: which cases are ALIVE.
* `unexplained_alive`: a record that is not PASS can be all there is of a dimension.
-/

namespace ChatmanEcosystem.ReleaseTrain.CrossProduct

open Py Rust

/-! ## Standings -/

variable {case : CrossProductCase} {item : EvidenceRecord} {evidence : List EvidenceRecord}
  {formalism : Formalism}

theorem startsWith_append {start rest : String} : startsWith (start ++ rest) start = true := by
  simp [startsWith]

/-- Every refusal is hard, or blocks. -/
theorem startsWith_refusal {refusal : String} (h : refusal ∈ refusalsOf case) :
    startsWith refusal "REFUSED:" = true ∨ startsWith refusal "BLOCKED:" = true := by
  have happend : ∀ {start rest : String}, refusal = start ++ rest →
      startsWith refusal start = true := by
    intro start rest hrefusal
    rw [hrefusal]
    exact startsWith_append
  simp only [refusalsOf, List.mem_append, List.mem_filterMap, or_assoc] at h
  rcases h with h | h | h | ⟨relation, -, h⟩ | ⟨mutant, -, h⟩
  · simp only [identityRefusals, List.mem_append, List.mem_filterMap, subjectRefusal] at h
    rcases h with h | ⟨item, -, h⟩
    · split_ifs at h with hids
      · cases h
      · exact .inl (happend (List.mem_singleton.mp h))
    · split at h
      · exact .inl (happend (Option.some.inj h).symm)
      · split_ifs at h
        exact .inl (happend (Option.some.inj h).symm)
  · obtain ⟨group, -, h⟩ := List.mem_filterMap.mp h
    split_ifs at h
    exact .inl (happend (Option.some.inj h).symm)
  · simp only [dimensionRefusals, List.mem_append, List.mem_map] at h
    rcases h with ⟨value, -, h⟩ | h
    · exact .inr (happend h.symm)
    · split_ifs at h
      · cases h
      · exact .inr (happend (List.mem_singleton.mp h))
  · simp only [checkRelation] at h
    split_ifs at h
    · exact .inr (happend (Option.some.inj h).symm)
    · exact .inl (happend (Option.some.inj h).symm)
    · exact .inl (happend (Option.some.inj h).symm)
    · cases h
  · simp only [checkMutant] at h
    split at h
    · exact .inr (happend (Option.some.inj h).symm)
    · split_ifs at h
      · exact .inl (happend (Option.some.inj h).symm)
      · exact .inl (happend (Option.some.inj h).symm)
      · cases h
    · exact .inl (happend (Option.some.inj h).symm)

theorem refusalOf_eq_none {check : Except String Unit} : refusalOf check = none ↔
    check = .ok () := by
  cases check with
  | error refusal => simp [refusalOf]
  | ok _ => simp [refusalOf]

/-- A case is ALIVE exactly if nothing is refused: each relation and mutant is checked or
refused. -/
theorem standingOf_eq_alive : standingOf case = .alive ↔ refusalsOf case = [] := by
  constructor
  · intro h
    rw [List.eq_nil_iff_forall_not_mem]
    intro refusal hrefusal
    rw [standingOf] at h
    split_ifs at h with hhard hblocked
    simp only [List.any_eq_true, not_exists, not_and] at hhard hblocked
    rcases startsWith_refusal hrefusal with hstart | hstart
    · exact hhard refusal hrefusal hstart
    · exact hblocked refusal hrefusal hstart
  · intro h
    have hparts := h
    simp only [refusalsOf, List.append_eq_nil_iff, List.filterMap_eq_nil_iff] at hparts
    obtain ⟨⟨-, hrelations⟩, hmutants⟩ := hparts
    have hrelations : checkedRelations case = case.relations :=
      List.filter_eq_self.mpr fun relation hrelation => by simp [hrelations relation hrelation]
    have hmutants : checkedMutants case = case.mutants :=
      List.filter_eq_self.mpr fun mutant hmutant => by simp [hmutants mutant hmutant]
    simp [standingOf, h, hrelations, hmutants]

/-! ## Subjects -/

theorem isBound_iff : isBound case item = true ↔ item.subject ∈ case.subjects := by
  have hkeys : ((case.subjects.map fun subject => (subject.repository,
    subject.subjectSha)).reverse.map
      Prod.fst).Nodup := by
    rw [List.map_reverse, List.nodup_reverse, List.map_map]
    exact case.onePerRepository
  rw [isBound, decide_eq_true_iff, admittedSha, lookup_ofPairs, lookup_eq_some_iff hkeys,
    List.mem_reverse, List.mem_map]
  constructor
  · rintro ⟨subject, hsubject, hsame⟩
    obtain ⟨hrepository, hsha⟩ := Prod.mk.inj hsame
    have heq : subject = item.subject := by
      cases hitem : item.subject
      cases subject
      simp_all
    exact heq ▸ hsubject
  · intro h
    exact ⟨item.subject, h, by simp⟩

theorem subjectRefusal_eq_none : subjectRefusal case item = none ↔
    item.subject ∈ case.subjects := by
  rw [← isBound_iff, isBound, decide_eq_true_iff, subjectRefusal]
  cases admittedSha case item.subject.repository with
  | none => simp
  | some expected => simp

theorem identityRefusals_eq_nil : identityRefusals case = [] ↔
    (case.evidence.map EvidenceRecord.evidenceId).Nodup ∧
      ∀ item ∈ case.evidence, item.subject ∈ case.subjects := by
  simp only [identityRefusals, List.append_eq_nil_iff, List.filterMap_eq_nil_iff,
    subjectRefusal_eq_none]
  refine and_congr_left fun _ => ?_
  by_cases hids : (case.evidence.map EvidenceRecord.evidenceId).Nodup
  · simp [hids]
  · simp [hids]

/-! ## Dimensions -/

theorem mem_byDigest {group : String × List EvidenceRecord} : group ∈ byDigest evidence ↔
    (∃ item ∈ evidence, item.artifactDigest = group.1) ∧
      group.2 = evidence.filter (·.artifactDigest = group.1) := by
  obtain ⟨digest, items⟩ := group
  have hfilter : ((evidence.map fun item => (item.artifactDigest, item)).filter
      (·.1 = digest)).map Prod.snd = evidence.filter (·.artifactDigest = digest) := by
    rw [List.filter_map, List.map_map]
    exact List.map_id _
  rw [byDigest, mem_collect, hfilter]
  simp

theorem mem_formalismsOf : formalism ∈ formalismsOf evidence ↔
    ∃ item ∈ evidence, item.formalism = formalism := by
  simp [formalismsOf]

theorem two_formalisms : 2 ≤ (formalismsOf evidence).length ↔
    ∃ item ∈ evidence, ∃ other ∈ evidence, item.formalism ≠ other.formalism := by
  rw [formalismsOf, ← List.card_toFinset, Nat.succ_le_iff, Finset.one_lt_card_iff]
  simp

theorem one_formalism : (formalismsOf evidence).length = 1 ↔
    ∃ item ∈ evidence, ∀ other ∈ evidence, other.formalism = item.formalism := by
  rw [formalismsOf, ← List.card_toFinset, Finset.card_eq_one]
  constructor
  · rintro ⟨formalism, h⟩
    have hmem : ∀ other, other ∈ evidence.map EvidenceRecord.formalism ↔ other = formalism := by
      intro other
      rw [← List.mem_toFinset, h, Finset.mem_singleton]
    obtain ⟨item, hitem, hformalism⟩ := List.mem_map.mp ((hmem formalism).mpr rfl)
    refine ⟨item, hitem, fun other hother => ?_⟩
    rw [hformalism]
    exact (hmem _).mp (List.mem_map_of_mem hother)
  · rintro ⟨item, hitem, hall⟩
    refine ⟨item.formalism, Finset.ext fun other => ?_⟩
    rw [List.mem_toFinset, Finset.mem_singleton, List.mem_map]
    constructor
    · rintro ⟨found, hfound, rfl⟩
      exact hall found hfound
    · rintro rfl
      exact ⟨item, hitem, rfl⟩

/-- A record whose artifact no other formalism shares. -/
def Independent (evidence : List EvidenceRecord) (item : EvidenceRecord) : Prop :=
  ∀ other ∈ evidence, other.artifactDigest = item.artifactDigest → other.formalism = item.formalism

theorem mem_independentFormalisms : formalism ∈ independentFormalisms evidence ↔
    ∃ item ∈ evidence, item.formalism = formalism ∧ Independent evidence item := by
  simp only [independentFormalisms, List.mem_flatMap, mem_byDigest]
  constructor
  · rintro ⟨⟨digest, items⟩, ⟨-, hitems⟩, hmem⟩
    split_ifs at hmem with hone
    · simp only at hitems hone hmem
      rw [hitems] at hone hmem
      obtain ⟨first, hfirst, hall⟩ := one_formalism.mp hone
      obtain ⟨item, hitem, rfl⟩ := mem_formalismsOf.mp hmem
      rw [List.mem_filter, decide_eq_true_iff] at hitem
      refine ⟨item, hitem.1, rfl, fun other hother hdigest => ?_⟩
      rw [hall item (List.mem_filter.mpr ⟨hitem.1, by simpa using hitem.2⟩)]
      exact hall other (List.mem_filter.mpr ⟨hother, by simp [hdigest, hitem.2]⟩)
    · cases hmem
  · rintro ⟨item, hitem, rfl, hown⟩
    refine ⟨(item.artifactDigest, evidence.filter (·.artifactDigest = item.artifactDigest)),
      ⟨⟨item, hitem, rfl⟩, rfl⟩, ?_⟩
    have hself : item ∈ evidence.filter (·.artifactDigest = item.artifactDigest) :=
      List.mem_filter.mpr ⟨hitem, by simp⟩
    rw [if_pos]
    · exact mem_formalismsOf.mpr ⟨item, hself, rfl⟩
    · refine one_formalism.mpr ⟨item, hself, fun other hother => ?_⟩
      obtain ⟨hother, hdigest⟩ := List.mem_filter.mp hother
      exact hown other hother (by simpa using hdigest)

theorem value_injective {left right : Formalism} (h : left.value = right.value) : left = right := by
  cases left <;> cases right <;> first | rfl | simp [Formalism.value] at h

/-- A relation between two formalisms for a claim is declared. -/
def Declared (case : CrossProductCase) (claimId : String) (left right : Formalism) : Prop :=
  ∃ relation ∈ case.relations, relation.claimId = claimId ∧
    (relation.left = left ∧ relation.right = right ∨ relation.left = right ∧ relation.right = left)

theorem Declared.symm {claimId : String} {left right : Formalism}
    (h : Declared case claimId left right) : Declared case claimId right left := by
  obtain ⟨relation, hrelation, hclaim, hends⟩ := h
  exact ⟨relation, hrelation, hclaim, hends.symm⟩

/-- Records of several formalisms witness a relation, each two of them. -/
theorem isWitness_iff {items : List EvidenceRecord} (h : 2 ≤ (formalismsOf items).length) :
    isWitness case items = true ↔ ∀ item ∈ items, ∀ other ∈ items,
      item.formalism ≠ other.formalism →
        item.claimId = other.claimId ∧
          Declared case item.claimId item.formalism other.formalism := by
  obtain ⟨first, hfirst, second, hsecond, hfirstSecond⟩ := two_formalisms.mp h
  have hclaims : (items.map EvidenceRecord.claimId).dedup.length = 1 ↔
      ∀ item ∈ items, some item.claimId = (items.map EvidenceRecord.claimId).head? := by
    obtain ⟨head, rest, rfl⟩ := List.exists_cons_of_ne_nil (List.ne_nil_of_mem hfirst)
    rw [← List.card_toFinset, Finset.card_eq_one]
    constructor
    · rintro ⟨claim, hclaim⟩ item hitem
      have hmem : ∀ other ∈ head :: rest, other.claimId = claim := by
        intro other hother
        rw [← Finset.mem_singleton, ← hclaim, List.mem_toFinset]
        exact List.mem_map_of_mem hother
      rw [hmem item hitem, List.map_cons, List.head?_cons, hmem head List.mem_cons_self]
    · intro hall
      refine ⟨head.claimId, Finset.ext fun other => ?_⟩
      rw [List.mem_toFinset, Finset.mem_singleton, List.mem_map]
      constructor
      · rintro ⟨found, hfound, rfl⟩
        exact Option.some.inj (hall found hfound)
      · rintro rfl
        exact ⟨head, List.mem_cons_self, by simp⟩
  have hdeclared : ∀ left right, (case.relations.any fun relation =>
      decide (some relation.claimId = (items.map EvidenceRecord.claimId).head?) &&
        (decide (relation.left = left ∧ relation.right = right) ||
          decide (relation.left = right ∧ relation.right = left))) = true ↔
      ∃ claimId, (items.map EvidenceRecord.claimId).head? = some claimId ∧
        Declared case claimId left right := by
    intro left right
    simp only [List.any_eq_true, Bool.and_eq_true, Bool.or_eq_true, decide_eq_true_eq]
    constructor
    · rintro ⟨relation, hrelation, hclaim, hends⟩
      exact ⟨relation.claimId, hclaim.symm, relation, hrelation, rfl, hends⟩
    · rintro ⟨_, hclaim, relation, hrelation, rfl, hends⟩
      exact ⟨relation, hrelation, hclaim.symm, hends⟩
  simp only [isWitness, Bool.and_eq_true, decide_eq_true_eq, List.all_eq_true, Bool.or_eq_true,
    Bool.not_eq_true', decide_eq_false_iff_not, hclaims, hdeclared, mem_formalismsOf]
  constructor
  · rintro ⟨hclaim, hall⟩ item hitem other hother hne
    have hitemClaim := hclaim item hitem
    refine ⟨Option.some.inj (hitemClaim.trans (hclaim other hother).symm), ?_⟩
    -- the court looks at a pair in the order of the values only
    have hpair : ∀ a ∈ items, ∀ b ∈ items, a.formalism.value < b.formalism.value →
        Declared case item.claimId a.formalism b.formalism := by
      intro a ha b hb hlt
      rcases hall _ ⟨a, ha, rfl⟩ _ ⟨b, hb, rfl⟩ with hnot | ⟨claim, hhead, hdecl⟩
      · exact absurd hlt hnot
      · rw [hhead] at hitemClaim
        exact Option.some.inj hitemClaim ▸ hdecl
    rcases lt_trichotomy item.formalism.value other.formalism.value with hlt | heq | hgt
    · exact hpair item hitem other hother hlt
    · exact absurd (value_injective heq) hne
    · exact (hpair other hother item hitem hgt).symm
  · intro hall
    -- two records of one formalism agree with a third one, of another
    have hsame : ∀ item ∈ items, item.claimId = first.claimId := by
      intro item hitem
      by_cases hne : item.formalism = first.formalism
      · have hsecondClaim := (hall first hfirst second hsecond hfirstSecond).1
        rw [hsecondClaim]
        exact (hall item hitem second hsecond (hne ▸ hfirstSecond)).1
      · exact (hall item hitem first hfirst hne).1
    have hhead : (items.map EvidenceRecord.claimId).head? = some first.claimId := by
      obtain ⟨head, rest, rfl⟩ := List.exists_cons_of_ne_nil (List.ne_nil_of_mem hfirst)
      rw [List.map_cons, List.head?_cons, hsame head List.mem_cons_self]
    refine ⟨fun item hitem => by rw [hhead, hsame item hitem], ?_⟩
    rintro _ ⟨a, ha, rfl⟩ _ ⟨b, hb, rfl⟩
    by_cases hlt : a.formalism.value < b.formalism.value
    · have hne : a.formalism ≠ b.formalism := fun heq => by
        rw [heq] at hlt
        exact lt_irrefl _ hlt
      have hdecl := (hall a ha b hb hne).2
      rw [hsame a ha] at hdecl
      exact .inr ⟨first.claimId, hhead, hdecl⟩
    · exact .inl hlt

/-- Records of two formalisms share an artifact only as the witness of a declared relation. -/
def SharesWitness (case : CrossProductCase) : Prop :=
  ∀ item ∈ case.evidence, ∀ other ∈ case.evidence, item.artifactDigest = other.artifactDigest →
    item.formalism ≠ other.formalism →
      item.claimId = other.claimId ∧ Declared case item.claimId item.formalism other.formalism

theorem independenceRefusals_eq_nil : independenceRefusals case = [] ↔ SharesWitness case := by
  have hgroups : ∀ group, group ∈ (byDigest case.evidence).insertionSort (fun a b => a.1 ≤ b.1) ↔
      group ∈ byDigest case.evidence := fun group => (List.perm_insertionSort _ _).mem_iff
  simp only [independenceRefusals, List.filterMap_eq_nil_iff, hgroups, ite_eq_right_iff,
    reduceCtorEq, imp_false, not_and, not_not, mem_byDigest]
  constructor
  · intro h item hitem other hother hdigest hne
    have hself : item ∈ case.evidence.filter (·.artifactDigest = item.artifactDigest) :=
      List.mem_filter.mpr ⟨hitem, by simp⟩
    have hshared : other ∈ case.evidence.filter (·.artifactDigest = item.artifactDigest) :=
      List.mem_filter.mpr ⟨hother, by simp [hdigest]⟩
    have htwo : 2 ≤ (formalismsOf (case.evidence.filter
        (·.artifactDigest = item.artifactDigest))).length :=
      two_formalisms.mpr ⟨item, hself, other, hshared, hne⟩
    exact (isWitness_iff htwo).mp
      (h (item.artifactDigest, _) ⟨⟨item, hitem, rfl⟩, rfl⟩ htwo) item hself other hshared hne
  · rintro h ⟨digest, items⟩ ⟨-, hitems⟩ htwo
    obtain rfl : items = case.evidence.filter (·.artifactDigest = digest) := hitems
    refine (isWitness_iff htwo).mpr fun item hitem other hother hne => ?_
    simp only [List.mem_filter, decide_eq_true_eq] at hitem hother
    exact h item hitem.1 other hother.1 (hitem.2.trans hother.2.symm) hne

theorem dimensionRefusals_eq_nil : dimensionRefusals case = [] ↔
    (∀ item ∈ case.evidence, item.subject ∈ case.subjects → item.formalism ∈ present case) ∧
      ∀ formalism ∈ case.requiredFormalisms, formalism ∈ present case := by
  have hsorted : ∀ values : List String, sorted values = [] ↔ values = [] := by
    intro values
    simp only [List.eq_nil_iff_forall_not_mem, mem_sorted]
  simp only [dimensionRefusals, List.append_eq_nil_iff, List.map_eq_nil_iff, hsorted,
    List.filter_eq_nil_iff, decide_eq_true_eq, not_not, mem_formalismsOf, List.mem_filter,
    isBound_iff, ite_eq_left_iff, reduceCtorEq, imp_false]
  refine and_congr_left fun _ => ?_
  constructor
  · intro h item hitem hbound
    exact h _ ⟨item, ⟨hitem, hbound⟩, rfl⟩
  · rintro h _ ⟨item, ⟨hitem, hbound⟩, rfl⟩
    exact h item hitem hbound

/-! ## Relations and mutants -/

theorem mem_indexed {claimId : String} : item ∈ indexed case formalism claimId ↔
    item ∈ case.evidence ∧ item.formalism = formalism ∧ item.claimId = claimId := by
  simp [indexed]

theorem checkRelation_eq_ok {relation : RelationRequirement} :
    checkRelation case relation = .ok () ↔
      ∀ side ∈ [relation.left, relation.right],
        indexed case side relation.claimId ≠ [] ∧
        ∀ item ∈ indexed case side relation.claimId,
          item.subject ∈ case.subjects ∧ item.result = .pass := by
  simp only [checkRelation]
  split_ifs with hmissing hsplit hresult
  · simp only [false_iff]
    intro h
    rcases hmissing with hleft | hright
    · exact (h relation.left (by simp)).1 hleft
    · exact (h relation.right (by simp)).1 hright
  · simp only [false_iff]
    intro h
    obtain ⟨item, hitem, hbound⟩ := List.any_eq_true.mp hsplit
    have hsubject : item.subject ∈ case.subjects := by
      rcases List.mem_append.mp hitem with hleft | hright
      · exact ((h relation.left (by simp)).2 item hleft).1
      · exact ((h relation.right (by simp)).2 item hright).1
    rw [isBound_iff.mpr hsubject] at hbound
    cases hbound
  · simp only [false_iff]
    intro h
    obtain ⟨item, hitem, hfailed⟩ := List.any_eq_true.mp hresult
    have hpass : item.result = .pass := by
      rcases List.mem_append.mp hitem with hleft | hright
      · exact ((h relation.left (by simp)).2 item hleft).2
      · exact ((h relation.right (by simp)).2 item hright).2
    simp [hpass] at hfailed
  · simp only [List.any_eq_true, not_exists, not_and, List.mem_append, Bool.not_eq_true',
      Bool.not_eq_false, isBound_iff, decide_eq_true_eq, not_not] at hsplit hresult
    obtain ⟨hleft, hright⟩ := not_or.mp hmissing
    simp only [List.mem_cons, List.not_mem_nil, or_false, forall_eq_or_imp, forall_eq, true_iff]
    exact ⟨⟨hleft, fun item hitem => ⟨hsplit item (.inl hitem), hresult item (.inl hitem)⟩⟩,
      hright, fun item hitem => ⟨hsplit item (.inr hitem), hresult item (.inr hitem)⟩⟩

theorem checkMutant_eq_ok {mutant : MutantExpectation} : checkMutant case mutant = .ok () ↔
    ∃ found, indexed case mutant.formalism mutant.claimId = [found] ∧
      found.subject ∈ case.subjects ∧ found.result = mutant.expected := by
  rw [checkMutant]
  match indexed case mutant.formalism mutant.claimId with
  | [] => simp
  | [found] =>
    have hbound : isBound case found = false ↔ found.subject ∉ case.subjects := by
      rw [← isBound_iff, Bool.not_eq_true]
    by_cases hsubject : found.subject ∈ case.subjects
    · by_cases hresult : found.result = mutant.expected
      · simp [hbound, hsubject, hresult]
      · simp [hbound, hsubject, hresult]
    · simp [hbound, hsubject]
  | first :: second :: rest => simp

/-! ## ALIVE -/

/-- A case whose evidence corresponds. -/
structure Corresponds (case : CrossProductCase) : Prop where
  /-- Records have an id each. -/
  ids : (case.evidence.map EvidenceRecord.evidenceId).Nodup
  /-- Records are about the exact subjects. -/
  subjects : ∀ item ∈ case.evidence, item.subject ∈ case.subjects
  shares : SharesWitness case
  /-- A dimension that is required, or that has a record, has an independent one. -/
  dimensions : ∀ formalism, (formalism ∈ case.requiredFormalisms ∨
      ∃ item ∈ case.evidence, item.formalism = formalism) →
    ∃ item ∈ case.evidence, item.formalism = formalism ∧ Independent case.evidence item
  /-- Both sides of a relation have records for its claim. -/
  relations : ∀ relation ∈ case.relations, ∀ side ∈ [relation.left, relation.right],
    ∃ item ∈ case.evidence, item.formalism = side ∧ item.claimId = relation.claimId
  /-- The records of a relation's sides, for its claim, are PASS. -/
  passed : ∀ relation ∈ case.relations, ∀ item ∈ case.evidence,
    item.formalism = relation.left ∨ item.formalism = relation.right →
      item.claimId = relation.claimId → item.result = .pass
  /-- A mutant has one record, with the result that it is expected to have. -/
  mutants : ∀ mutant ∈ case.mutants,
    ∃ found, indexed case mutant.formalism mutant.claimId = [found] ∧ found.result = mutant.expected

theorem refusalsOf_eq_nil : refusalsOf case = [] ↔ Corresponds case := by
  simp only [refusalsOf, List.append_eq_nil_iff, List.filterMap_eq_nil_iff, refusalOf_eq_none,
    identityRefusals_eq_nil, independenceRefusals_eq_nil, dimensionRefusals_eq_nil,
    checkRelation_eq_ok, checkMutant_eq_ok, and_assoc]
  have hpresent : (∀ item ∈ case.evidence, item.subject ∈ case.subjects) → ∀ formalism,
      formalism ∈ present case ↔
        ∃ item ∈ case.evidence, item.formalism = formalism ∧ Independent case.evidence item := by
    intro hsubjects formalism
    have hall : case.evidence.filter (isBound case) = case.evidence :=
      List.filter_eq_self.mpr fun item hitem => isBound_iff.mpr (hsubjects item hitem)
    rw [present, hall, mem_independentFormalisms]
  constructor
  · rintro ⟨hids, hsubjects, hshares, hevidence, hrequired, hrelations, hmutants⟩
    refine ⟨hids, hsubjects, hshares, ?_, ?_, ?_, ?_⟩
    · rintro formalism (hformalism | ⟨item, hitem, rfl⟩)
      · exact (hpresent hsubjects _).mp (hrequired formalism hformalism)
      · exact (hpresent hsubjects _).mp (hevidence item hitem (hsubjects item hitem))
    · intro relation hrelation side hside
      obtain ⟨item, hitem⟩ := List.exists_mem_of_ne_nil _
        (hrelations relation hrelation side hside).1
      exact ⟨item, mem_indexed.mp hitem⟩
    · intro relation hrelation item hitem hside hclaim
      rcases hside with hside | hside
      · exact ((hrelations relation hrelation relation.left (by simp)).2 item
          (mem_indexed.mpr ⟨hitem, hside, hclaim⟩)).2
      · exact ((hrelations relation hrelation relation.right (by simp)).2 item
          (mem_indexed.mpr ⟨hitem, hside, hclaim⟩)).2
    · intro mutant hmutant
      obtain ⟨found, hfound, -, hresult⟩ := hmutants mutant hmutant
      exact ⟨found, hfound, hresult⟩
  · intro h
    refine ⟨h.ids, h.subjects, h.shares, ?_, ?_, ?_, ?_⟩
    · intro item hitem _
      exact (hpresent h.subjects _).mpr (h.dimensions _ (.inr ⟨item, hitem, rfl⟩))
    · intro formalism hformalism
      exact (hpresent h.subjects _).mpr (h.dimensions _ (.inl hformalism))
    · intro relation hrelation side hside
      obtain ⟨found, hfound⟩ := h.relations relation hrelation side hside
      refine ⟨List.ne_nil_of_mem (mem_indexed.mpr hfound), fun item hitem => ?_⟩
      obtain ⟨hitem, hformalism, hclaim⟩ := mem_indexed.mp hitem
      refine ⟨h.subjects item hitem, h.passed relation hrelation item hitem ?_ hclaim⟩
      rw [hformalism]
      simpa using hside
    · intro mutant hmutant
      obtain ⟨found, hfound, hresult⟩ := h.mutants mutant hmutant
      have hmem : found ∈ indexed case mutant.formalism mutant.claimId := by
        rw [hfound]
        exact List.mem_singleton_self _
      exact ⟨found, hfound, h.subjects found (mem_indexed.mp hmem).1, hresult⟩

/-- A case is ALIVE exactly if its evidence corresponds. -/
theorem alive_iff {py : PyRuntime} {receipt : CrossProductReceipt}
    (h : evaluate py case = .ok receipt) : receipt.standing = .alive ↔ Corresponds case := by
  simp only [evaluate, bind_eq_ok, pure_eq_ok] at h
  obtain ⟨_, -, rfl⟩ := h
  rw [← refusalsOf_eq_nil, ← standingOf_eq_alive]

/-! ## A dimension without a PASS -/

/-- One subject. -/
def sampleSubject : SubjectBinding where
  repository := "chatman/kernel"
  subjectSha := "aaaaaaaaaaaaaaaaaaaaaaaaaaaaaaaaaaaaaaaa"
  owned := by decide
  exact := by decide

/-- One record, of a result. -/
def sampleCase (result : EvidenceResult) : CrossProductCase where
  caseId := "XPROD"
  semanticSubjectId := "urn:chatman:xprod"
  subjects := [sampleSubject]
  requiredFormalisms := [.tla]
  evidence := [⟨"tla", sampleSubject, .tla, "safety", "sha256:1", result⟩]
  relations := []
  mutants := []
  bound := by decide
  onePerRepository := by decide
  required := by decide
  requiredOnce := by decide

theorem exists_evaluate (case : CrossProductCase) :
    ∃ receipt, evaluate samplePyRuntime case = .ok receipt ∧ receipt.standing = standingOf case :=
  ⟨_, rfl, rfl⟩

/-- A record that is PASS. -/
theorem alive_iff_sample : ∃ receipt, evaluate samplePyRuntime (sampleCase .pass) = .ok receipt ∧
    receipt.standing = .alive ∧ (receipt.standing = .alive ↔ Corresponds (sampleCase .pass)) := by
  obtain ⟨receipt, hreceipt, hstanding⟩ := exists_evaluate (sampleCase .pass)
  exact ⟨receipt, hreceipt, by rw [hstanding]; decide, alive_iff hreceipt⟩

/-- A record that is UNKNOWN is all there is of the dimension, and no mutant expects it. -/
theorem unexplained_alive : ∃ receipt,
    evaluate samplePyRuntime (sampleCase .unknown) = .ok receipt ∧ receipt.standing = .alive ∧
    (∃ formalism ∈ (sampleCase .unknown).requiredFormalisms,
      ∀ item ∈ (sampleCase .unknown).evidence,
      item.formalism = formalism → item.result ≠ .pass) ∧
    ∃ item ∈ (sampleCase .unknown).evidence, item.result ≠ .pass ∧
      ∀ mutant ∈ (sampleCase .unknown).mutants, item.result ≠ mutant.expected := by
  obtain ⟨receipt, hreceipt, hstanding⟩ := exists_evaluate (sampleCase .unknown)
  exact ⟨receipt, hreceipt, by rw [hstanding]; decide, by decide, by decide⟩

end ChatmanEcosystem.ReleaseTrain.CrossProduct
