import ChatmanEcosystem.ReleaseTrain.ReleaseManifest

/-!
# Manifests that the validator can handle

The validator asks of some values what they cannot answer: a list whether it is in a set, a number
whether it matches a pattern, a component without an end to its dependencies for all of them. A
manifest is handled if none of its values is asked what it cannot answer.

Results:

* `validateSections_ok_iff`: a manifest with its two sections is validated exactly if it is handled.
-/

namespace ChatmanEcosystem.ReleaseTrain.ReleaseManifest

open Common Py Rust

/-! ## What is handled -/

section

variable (print : Value → Except PyError String)

/-- The value has a text. -/
def Prints (value : Value) : Prop := ∃ text, textFor print value = .ok text

/-- The value can be looked for in a set, and has a text where it is not there. -/
def Sought (value : Value) (texts : List String) : Prop :=
  value.hashable = true ∧ ((∃ text ∈ texts, value = .str text) ∨ Prints print value)

/-- A component whose fields can be checked. -/
structure FieldsHandled (component : Dict) : Prop where
  repository : (Dict.get component "repository").text?.isSome = true
  ref : isFilled (Dict.get component "ref") = true ∨ Prints print (Dict.get component "ref")
  refCheck : Sought print (Dict.get component "ref_check") allowedRefChecks
  sha : (Dict.get component "sha").text?.isSome = true
  disposition : Sought print (Dict.get component "disposition") allowedDispositions
  standing : Sought print (Dict.get component "standing") allowedStandings

/-- A component that can be gathered. -/
structure ComponentHandled (component : Dict) : Prop where
  id : (Dict.get component "id").hashable = true
  role : (Dict.get component "role").hashable = true
  fields : FieldsHandled print component

/-- The dependencies of a component can be gone through and looked up. -/
def DependenciesHandled (component : Dict) : Prop :=
  ∃ dependencies, (Dict.getD component "depends_on" (.list [])).iterate = .ok dependencies ∧
    ∀ dependency ∈ dependencies, dependency.hashable = true

/-- The tables among some values. -/
def tablesOf (values : List Value) : List Dict := values.filterMap Value.dict?

/-- The components by their ids: the last one of each id, at the place of the first. -/
def admitted (components : List Value) : ById :=
  ((tablesOf components).filter isComplete).foldl place []

/-- The observation names an admitted component. -/
def NamesAdmitted (byId : ById) (observation : Dict) : Prop :=
  ∃ name, Dict.get observation "component" = .str name ∧ byId.any (·.1.eq (.str name)) = true

/-- The first observation of a component. -/
def observationOf (observations : List Value) (name : String) : Option Dict :=
  (tablesOf observations).find? fun observation =>
    (Dict.get observation "component").text? = some name

/-- An observation has what its component has, or the two can be told in a text. -/
def FieldHandled (component observation : Dict) (field : String) : Prop :=
  (Dict.get observation field).eq (Dict.get component field) = true ∨
    Prints print (Dict.get component field) ∧ Prints print (Dict.get observation field)

/-- The component can be compared with its observation. -/
def ExternalHandled (observations : List Value) (entry : Value × Dict) : Prop :=
  (Dict.get entry.2 "ref_check").eq (.str "external") = true →
    ∀ name observation, entry.1 = .str name → observationOf observations name = some observation →
      ∀ field ∈ observedFields, FieldHandled print entry.2 observation field

/-- The edges, where the dependencies can be gone through. -/
def edgesIn (byId : ById) : Edges := byId.map fun entry =>
  (entry.1, (Dict.getD entry.2 "depends_on" (.list [])).iterate.toOption.getD [])

/-- A cycle of names. -/
def IsNamed (edges : Edges) (trail : List ℕ) (node : ℕ) : Prop :=
  ∀ place ∈ cycleOf trail node, (keyAt edges place).text?.isSome = true

/-- The search for cycles stays within the bound, and comes to cycles of names only. -/
structure SearchHandled (limit : ℕ) (edges : Edges) : Prop where
  roots : SafeChoices limit (IsNamed edges) [] (List.range edges.length)
  entered : AllSafe (nexts edges) limit (IsNamed edges) [] (fun _ => False)
    (List.range edges.length)

/-- The release table can be checked. -/
structure HeaderHandled (py : PyRuntime) (release : Dict) : Prop where
  version : isVersion py (Dict.get release "version") = true ∨
    Prints print (Dict.get release "version")
  standing : Sought print (Dict.get release "standing") allowedStandings

/-- A manifest with its two sections that can be validated. -/
structure SectionsHandled (py : PyRuntime) (data release : Dict) (components : List Value) :
    Prop where
  header : HeaderHandled print py release
  complete : ∀ component ∈ tablesOf components, isComplete component = true →
    ComponentHandled print component
  dependencies : ∀ entry ∈ admitted components, DependenciesHandled entry.2
  observations : ∀ observation ∈ tablesOf (observationsOf data),
    NamesAdmitted (admitted components) observation ∨
      Prints print (Dict.get observation "component")
  externals : ∀ entry ∈ admitted components,
    ExternalHandled print (observationsOf data) entry
  search : SearchHandled py.recursionLimit (edgesIn (admitted components))

end

/-! ## Single checks -/

section

variable {py : PyRuntime} {print : Value → Except PyError String} {value : Value}
  {texts : List String} {allowed : Bool} {code : String} {subject : Value} {component : Dict}

theorem textOf_eq_ok {text : String} : textOf value = .ok text ↔ value.text? = some text :=
  okOr_eq_ok

theorem exists_textOf_iff : (∃ text, textOf value = .ok text) ↔ value.text?.isSome = true := by
  simp only [textOf_eq_ok, Option.isSome_iff_exists]

theorem among_eq_ok : among value texts = .ok allowed ↔
    value.hashable = true ∧ (texts.any fun text => value.eq (.str text)) = allowed := by
  simp only [among, bind_eq_ok, pure_eq_ok, ensure_eq_ok, exists_const]

theorem any_eq_str : (texts.any fun text => value.eq (.str text)) = true ↔
    ∃ text ∈ texts, value = .str text := by
  simp only [List.any_eq_true, Value.eq_str]

theorem exists_reportOther_iff :
    (∃ findings, reportOther print allowed code subject value = .ok findings) ↔
      allowed = true ∨ Prints print value := by
  unfold reportOther
  by_cases hallowed : allowed = true
  · simp [hallowed]
  · rw [if_neg hallowed, exists_bind_iff]
    simp [hallowed, Prints, pure_eq_ok]

/-- A value is sought in a set, and found or reported. -/
theorem exists_sought_iff {β : Type} {rest : Bool → List Finding → Except PyError β}
    {after : Prop} (hrest : ∀ allowed findings, (∃ b, rest allowed findings = .ok b) ↔ after) :
    (∃ b, (do
      let allowed ← among value texts
      let findings ← reportOther print allowed code subject value
      rest allowed findings) = .ok b) ↔ Sought print value texts ∧ after := by
  rw [exists_bind_iff]
  simp only [among_eq_ok, exists_bind_iff_and exists_reportOther_iff fun _ _ => hrest _ _]
  rw [Sought, ← any_eq_str]
  constructor
  · intro ⟨allowed, ⟨hhash, hany⟩, hfound, hafter⟩
    exact ⟨⟨hhash, hany ▸ hfound⟩, hafter⟩
  · intro ⟨⟨hhash, hfound⟩, hafter⟩
    exact ⟨_, ⟨hhash, rfl⟩, hfound, hafter⟩

theorem exists_fieldFindings_iff :
    (∃ findings, fieldFindings print component = .ok findings) ↔ FieldsHandled print component := by
  have hreturn : ∀ findings : List Finding,
      (∃ b, (pure findings : Except PyError (List Finding)) = .ok b) ↔ True :=
    fun findings => iff_true_intro ⟨findings, rfl⟩
  have hfields : (∃ findings, fieldFindings print component = .ok findings) ↔ _ :=
    exists_bind_iff_and exists_textOf_iff fun repository _ =>
      exists_bind_iff_and exists_reportOther_iff fun refFindings _ =>
        exists_sought_iff fun _ refCheckFindings =>
          exists_bind_iff_and exists_textOf_iff fun sha _ =>
            exists_sought_iff fun _ dispositionFindings =>
              exists_sought_iff fun _ standingFindings => hreturn _
  rw [hfields]
  constructor
  · intro ⟨repository, ref, refCheck, sha, disposition, standing, _⟩
    exact ⟨repository, ref, refCheck, sha, disposition, standing⟩
  · intro h
    exact ⟨h.repository, h.ref, h.refCheck, h.sha, h.disposition, h.standing, trivial⟩

theorem exists_headerFindings_iff {release : Dict} :
    (∃ findings, headerFindings py print release = .ok findings) ↔
      HeaderHandled print py release := by
  have hheader : (∃ findings, headerFindings py print release = .ok findings) ↔ _ :=
    exists_bind_iff_and exists_reportOther_iff fun versionFindings _ =>
      exists_sought_iff fun _ standingFindings =>
        iff_true_intro ⟨versionFindings ++ standingFindings, rfl⟩
  rw [hheader]
  constructor
  · intro ⟨version, standing, _⟩
    exact ⟨version, standing⟩
  · intro h
    exact ⟨h.version, h.standing, trivial⟩

/-! ## Components -/

variable {gathered gathered' : Gathered} {index : ℕ}

/-- What a component asks of the loop that gathers the components. -/
def EntryHandled (print : Value → Except PyError String) (value : Value) : Prop :=
  ∀ component, value = .dict component → isComplete component = true →
    ComponentHandled print component

theorem exists_gather_iff :
    (∃ gathered', gather print gathered (value, index) = .ok gathered') ↔
      EntryHandled print value := by
  cases value with
  | dict component =>
    by_cases hcomplete : isComplete component = true
    · have hstep : (∃ gathered', gather print gathered (.dict component, index) =
          .ok gathered') ↔ ((Dict.get component "id").hashable = true ∧
            (Dict.get component "role").hashable = true ∧
            (Dict.get component "repository").hashable = true) ∧
          FieldsHandled print component ∧ True := by
        simp only [gather, hcomplete, Bool.true_eq_false, if_false]
        exact exists_bind_iff_and (by simp only [ensure_eq_ok, exists_const]) fun _ _ =>
          exists_bind_iff_and exists_fieldFindings_iff fun _ _ => iff_true_intro ⟨_, rfl⟩
      rw [hstep]
      constructor
      · rintro ⟨⟨hid, hrole, -⟩, hfields, -⟩ other hother -
        obtain rfl := Value.dict.inj hother
        exact ⟨hid, hrole, hfields⟩
      · intro h
        obtain ⟨hid, hrole, hfields⟩ := h component rfl hcomplete
        refine ⟨⟨hid, hrole, ?_⟩, hfields, trivial⟩
        obtain ⟨text, htext⟩ := Option.isSome_iff_exists.mp hfields.repository
        cases hrepository : Dict.get component "repository" <;>
          simp_all [Value.text?, Value.hashable]
    · refine iff_of_true ⟨_, by simp only [gather, hcomplete, if_true]; rfl⟩ ?_
      intro other hother hother'
      obtain rfl := Value.dict.inj hother
      exact absurd hother' hcomplete
  | null | bool | int | float | str | list | date =>
    refine iff_of_true ⟨_, rfl⟩ fun component h => ?_
    cases h

theorem mem_tablesOf {values : List Value} {table : Dict} :
    table ∈ tablesOf values ↔ Value.dict table ∈ values := by
  rw [tablesOf, List.mem_filterMap]
  constructor
  · intro ⟨value, hvalue, htable⟩
    cases value <;> simp_all [Value.dict?]
  · intro h
    exact ⟨_, h, rfl⟩

theorem byId_of_gather {entry : Value × ℕ} (h : gather print gathered entry = .ok gathered') :
    gathered'.byId = ((tablesOf [entry.1]).filter isComplete).foldl place gathered.byId := by
  obtain ⟨value, index⟩ := entry
  cases value with
  | dict component =>
    by_cases hcomplete : isComplete component = true
    · simp only [gather, hcomplete, Bool.true_eq_false, if_false, bind_eq_ok, pure_eq_ok] at h
      obtain ⟨_, _, _, _, rfl⟩ := h
      simp [tablesOf, Value.dict?, hcomplete]
    · simp only [gather, hcomplete, if_true, Except.ok.injEq] at h
      simp [← h, tablesOf, Value.dict?, hcomplete]
  | null | bool | int | float | str | list | date =>
    obtain rfl := Except.ok.inj h
    rfl

/-- The components that have been gathered, by their ids. -/
theorem byId_of_foldlM_gather {entries : List (Value × ℕ)}
    (h : entries.foldlM (gather print) gathered = .ok gathered') :
    gathered'.byId =
      ((tablesOf (entries.map Prod.fst)).filter isComplete).foldl place gathered.byId := by
  induction entries generalizing gathered with
  | nil =>
    obtain rfl := Except.ok.inj h
    rfl
  | cons entry entries ih =>
    rw [List.foldlM_cons, bind_eq_ok] at h
    obtain ⟨middle, hfirst, hlater⟩ := h
    have hsplit : tablesOf ((entry :: entries).map Prod.fst) =
        tablesOf [entry.1] ++ tablesOf (entries.map Prod.fst) := by
      rw [tablesOf, tablesOf, tablesOf, ← List.filterMap_append]
      rfl
    rw [ih hlater, byId_of_gather hfirst, hsplit, List.filter_append, List.foldl_append]

variable {components : List Value}

/-- The loop over the components. -/
theorem exists_components_iff :
    (∃ last, components.zipIdx.foldlM (gather print) gathered = .ok last) ↔
      ∀ component ∈ tablesOf components, isComplete component = true →
        ComponentHandled print component := by
  have hstep : ∀ gathered, ∀ entry ∈ components.zipIdx,
      (∃ gathered', gather print gathered entry = .ok gathered') ↔ EntryHandled print entry.1 :=
    fun _ _ _ => exists_gather_iff
  rw [exists_foldlM_iff hstep]
  constructor
  · intro h component hcomponent
    rw [mem_tablesOf, ← List.zipIdx_map_fst 0 components, List.mem_map] at hcomponent
    obtain ⟨entry, hentry, hvalue⟩ := hcomponent
    exact h entry hentry component hvalue
  · intro h entry hentry component hvalue
    refine h component (mem_tablesOf.mpr ?_)
    rw [← hvalue, ← List.zipIdx_map_fst 0 components]
    exact List.mem_map_of_mem hentry

/-! ## Dependencies and observations -/

theorem dependenciesOf_eq_ok {dependencies : List Value} :
    dependenciesOf component = .ok dependencies ↔
      (Dict.getD component "depends_on" (.list [])).iterate = .ok dependencies ∧
        ∀ dependency ∈ dependencies, dependency.hashable = true := by
  simp only [dependenciesOf, bind_eq_ok, ensure_eq_ok, pure_eq_ok, exists_const]
  constructor
  · rintro ⟨items, hitems, hhash, heq⟩
    exact heq ▸ ⟨hitems, hhash⟩
  · rintro ⟨hitems, hhash⟩
    exact ⟨dependencies, hitems, hhash, rfl⟩

theorem exists_edgesOf_iff {byId : ById} :
    (∃ edges, edgesOf byId = .ok edges) ↔ ∀ entry ∈ byId, DependenciesHandled entry.2 := by
  rw [edgesOf, exists_mapM_iff]
  refine forall₂_congr fun entry _ => ?_
  simp only [exists_bind_iff, dependenciesOf_eq_ok, pure_eq_ok, exists_eq', and_true]
  exact Iff.rfl

theorem eq_edgesIn {byId : ById} {edges : Edges} (h : edgesOf byId = .ok edges) :
    edges = edgesIn byId := by
  have hsteps : ∀ entry ∈ byId, (do
      let dependencies ← dependenciesOf entry.2
      return (entry.1, dependencies) : Except PyError (Value × List Value)) = .ok (entry.1,
        (Dict.getD entry.2 "depends_on" (.list [])).iterate.toOption.getD []) := by
    intro entry hentry
    obtain ⟨dependencies, hiterate, hhash⟩ := exists_edgesOf_iff.mp ⟨edges, h⟩ entry hentry
    rw [dependenciesOf_eq_ok.mpr ⟨hiterate, hhash⟩, hiterate]
    rfl
  rw [edgesOf, mapM_ok hsteps] at h
  exact (Except.ok.inj h).symm

variable {byId : ById} {observed observed' : Observed} {name : String}

/-- What an observation asks of the loop over the observations. -/
def ObservationHandled (print : Value → Except PyError String) (byId : ById) (value : Value) :
    Prop :=
  ∀ observation, value = .dict observation →
    NamesAdmitted byId observation ∨ Prints print (Dict.get observation "component")

/-- The admitted component that a value names. -/
def nameIn (byId : ById) (value : Value) : Option String :=
  value.text?.filter fun name => byId.any (·.1.eq (.str name))

theorem nameIn_eq_some : nameIn byId value = some name ↔
    value = .str name ∧ byId.any (·.1.eq (.str name)) = true := by
  rw [nameIn, Option.filter_eq_some_iff, Value.text_eq_some]

variable {observation : Dict}

theorem namesAdmitted_iff :
    NamesAdmitted byId observation ↔ (nameIn byId (Dict.get observation "component")).isSome := by
  simp only [Option.isSome_iff_exists, nameIn_eq_some]
  exact Iff.rfl

/-- What an observation without an admitted component does to the loop. -/
theorem observe_of_none (h : nameIn byId (Dict.get observation "component") = none) :
    observe print byId observed (.dict observation) = (do
      let text ← textFor print (Dict.get observation "component")
      return { observed with findings := observed.findings ++
        [⟨"ECOSYSTEM_EXTERNAL_REF_COMPONENT_INVALID", .str text,
          .str "observation must name an admitted component"⟩] }) := by
  unfold nameIn at h
  simp only [observe, h]

/-- What an observation of an admitted component does to the loop. -/
theorem observe_of_some (h : nameIn byId (Dict.get observation "component") = some name) :
    observe print byId observed (.dict observation) =
      .ok (if (observed.byComponent.lookup name).isSome then
        { observed with findings := observed.findings ++
          [⟨"ECOSYSTEM_EXTERNAL_REF_DUPLICATE", .str name,
            .str "only one external observation is admitted per component"⟩] }
      else { observed with byComponent := observed.byComponent ++ [(name, observation)] }) := by
  unfold nameIn at h
  simp only [observe, h]
  split_ifs
  · rfl
  · rfl

theorem exists_observe_iff : (∃ observed', observe print byId observed value = .ok observed') ↔
    ObservationHandled print byId value := by
  cases value with
  | dict observation =>
    have hone : ObservationHandled print byId (.dict observation) ↔
        NamesAdmitted byId observation ∨ Prints print (Dict.get observation "component") := by
      constructor
      · intro h
        exact h observation rfl
      · intro h other hother
        obtain rfl := Value.dict.inj hother
        exact h
    rw [hone, namesAdmitted_iff]
    cases hname : nameIn byId (Dict.get observation "component") with
    | none =>
      rw [observe_of_none hname, exists_bind_iff]
      simp [Prints, pure_eq_ok]
    | some name =>
      rw [observe_of_some hname]
      simp
  | null | bool | int | float | str | list | date =>
    exact iff_of_true ⟨_, rfl⟩ fun observation h => nomatch h

variable {observations : List Value}

/-- The loop over the observations. -/
theorem exists_observations_iff :
    (∃ last, observations.foldlM (observe print byId) observed = .ok last) ↔
      ∀ observation ∈ tablesOf observations,
        NamesAdmitted byId observation ∨ Prints print (Dict.get observation "component") := by
  have hstep : ∀ observed, ∀ value ∈ observations,
      (∃ observed', observe print byId observed value = .ok observed') ↔
        ObservationHandled print byId value :=
    fun _ _ _ => exists_observe_iff
  rw [exists_foldlM_iff hstep]
  constructor
  · intro h observation hobservation
    exact h _ (mem_tablesOf.mp hobservation) observation rfl
  · intro h value hvalue observation hobservation
    exact h observation (mem_tablesOf.mpr (hobservation ▸ hvalue))

theorem observationOf_append {others : List Value} :
    observationOf (observations ++ others) name =
      (observationOf observations name).or (observationOf others name) := by
  simp only [observationOf, tablesOf, List.filterMap_append, List.find?_append]

theorem observationOf_singleton :
    observationOf [.dict observation] name =
      if (Dict.get observation "component").text? = some name then some observation else none := by
  unfold observationOf
  by_cases htext : (Dict.get observation "component").text? = some name
  · simp [tablesOf, Value.dict?, htext]
  · simp [tablesOf, Value.dict?, htext]

/-- One round of the loop keeps the first observation of each component. -/
theorem lookup_observe (hname : byId.any (·.1.eq (.str name)) = true)
    (h : observe print byId observed value = .ok observed') :
    observed'.byComponent.lookup name =
      (observed.byComponent.lookup name).or (observationOf [value] name) := by
  cases value with
  | dict observation =>
    rw [observationOf_singleton]
    cases hnamed : nameIn byId (Dict.get observation "component") with
    | none =>
      have hother : ¬ (Dict.get observation "component").text? = some name := by
        intro htext
        have hsome := nameIn_eq_some.mpr ⟨Value.text_eq_some.mp htext, hname⟩
        exact absurd (hnamed.symm.trans hsome) (by simp)
      rw [observe_of_none hnamed, bind_eq_ok] at h
      obtain ⟨text, _, hreturn⟩ := h
      obtain rfl := pure_eq_ok.mp hreturn
      rw [if_neg hother, Option.or_none]
    | some other =>
      obtain ⟨hvalue, -⟩ := nameIn_eq_some.mp hnamed
      rw [observe_of_some hnamed] at h
      obtain rfl := Except.ok.inj h
      rw [hvalue]
      by_cases hsame : other = name
      · obtain rfl := hsame
        cases hlookup : observed.byComponent.lookup other with
        | none => simp [List.lookup_append, hlookup, Value.text?]
        | some first => simp [hlookup]
      · have hother : ¬ (Value.str other).text? = some name := fun h => hsame (Option.some.inj h)
        have hne : (name == other) = false := beq_false_of_ne (Ne.symm hsame)
        rw [if_neg hother, Option.or_none]
        split_ifs
        · rfl
        · simp [List.lookup_append, List.lookup_cons, hne]
  | null | bool | int | float | str | list | date =>
    obtain rfl := Except.ok.inj h
    exact (Option.or_none).symm

/-- The loop finds the first observation of each component. -/
theorem lookup_observed (hname : byId.any (·.1.eq (.str name)) = true)
    (h : observations.foldlM (observe print byId) observed = .ok observed') :
    observed'.byComponent.lookup name =
      (observed.byComponent.lookup name).or (observationOf observations name) := by
  induction observations generalizing observed with
  | nil =>
    obtain rfl := Except.ok.inj h
    exact (Option.or_none).symm
  | cons value observations ih =>
    rw [List.foldlM_cons, bind_eq_ok] at h
    obtain ⟨middle, hfirst, hlater⟩ := h
    have hsplit : observationOf (value :: observations) name =
        (observationOf [value] name).or (observationOf observations name) := by
      rw [← observationOf_append]
      rfl
    rw [ih hlater, lookup_observe hname hfirst, hsplit, Option.or_assoc]

/-! ## External components -/

theorem exists_mismatch_iff {id : Value} {field : String} :
    (∃ findings, mismatch print id component observation field = .ok findings) ↔
      FieldHandled print component observation field := by
  unfold mismatch FieldHandled
  by_cases heq : (Dict.get observation field).eq (Dict.get component field) = true
  · simp [heq]
  · rw [if_neg heq, or_iff_right heq]
    refine exists_bind_iff_and Iff.rfl fun admitted _ => ?_
    refine (exists_bind_iff_and Iff.rfl fun observed _ => iff_true_intro ⟨_, rfl⟩).trans ?_
    rw [and_true]
    exact Iff.rfl

variable {entry : Value × Dict}

/-- The check of a component, where its observation is the first one. -/
theorem exists_externalFindings_iff {byComponent : List (String × Dict)}
    (hlookup : ∀ name, entry.1 = .str name →
      byComponent.lookup name = observationOf observations name) :
    (∃ findings, externalFindings print byComponent entry = .ok findings) ↔
      ExternalHandled print observations entry := by
  unfold externalFindings ExternalHandled
  by_cases hexternal : (Dict.get entry.2 "ref_check").eq (.str "external") = true
  · rw [hexternal, if_neg (by simp), forall_prop_of_true rfl]
    cases hobservation : entry.1.text?.bind (byComponent.lookup ·) with
    | none =>
      refine iff_of_true ⟨_, rfl⟩ fun name observation hname hfirst => ?_
      rw [hname, Value.text?, Option.bind_some, hlookup name hname, hfirst] at hobservation
      cases hobservation
    | some first =>
      obtain ⟨name, htext, hfirst⟩ := Option.bind_eq_some_iff.mp hobservation
      have hname := Value.text_eq_some.mp htext
      rw [hlookup name hname] at hfirst
      have hloop : (∃ findings, observedFields.mapM (mismatch print entry.1 entry.2 first) =
          .ok findings) ↔ ∀ field ∈ observedFields, FieldHandled print entry.2 first field :=
        exists_mapM_iff.trans (forall₂_congr fun _ _ => exists_mismatch_iff)
      refine (exists_bind_iff_and hloop fun _ _ => iff_true_intro ⟨_, rfl⟩).trans ?_
      rw [and_true]
      constructor
      · intro h other observation hother hobserved
        obtain rfl := Value.str.inj (hname.symm.trans hother)
        obtain rfl := Option.some.inj (hfirst.symm.trans hobserved)
        exact h
      · intro h
        exact h name first hname hfirst
  · rw [if_pos (Bool.eq_false_iff.mpr hexternal)]
    exact iff_of_true ⟨_, rfl⟩ fun h => absurd h hexternal

/-! ## Cycles -/

variable {edges : Edges} {limit : ℕ}

theorem exists_closeCycle_iff (trail : List ℕ) (node : ℕ) (findings : List Finding) :
    (∃ findings', closeCycle edges trail node findings = .ok findings') ↔
      IsNamed edges trail node := by
  have hnames : (∃ names, (cycleOf trail node).mapM (fun place => textOf (keyAt edges place)) =
      .ok names) ↔ IsNamed edges trail node :=
    exists_mapM_iff.trans (forall₂_congr fun _ _ => exists_textOf_iff)
  refine (exists_bind_iff_and hnames fun _ _ => iff_true_intro ⟨_, rfl⟩).trans ?_
  rw [and_true]

theorem exists_detectCycles_iff :
    (∃ findings, detectCycles limit edges = .ok findings) ↔ SearchHandled limit edges := by
  have hclosed : ClosedBeside (nexts edges) [] (· ∈ ([] : List ℕ)) := nofun
  have hsearch : (∃ finished, (List.range edges.length).foldlM
      (enter (nexts edges) .recursionError (closeCycle edges) limit []) ([], []) = .ok finished) ↔
        SafeChoices ([].length + limit) (IsNamed edges) [] (List.range edges.length) ∧
          AllSafe (nexts edges) ([].length + limit) (IsNamed edges) [] (· ∈ [])
            (List.range edges.length) :=
    foldlM_enter_ok_iff exists_closeCycle_iff hclosed
  have hnone : (fun node : ℕ => node ∈ ([] : List ℕ)) = fun _ => False := by
    funext node
    simp
  rw [List.length_nil, Nat.zero_add, hnone] at hsearch
  refine (exists_bind_iff_and hsearch fun _ _ => iff_true_intro ⟨_, rfl⟩).trans ?_
  rw [and_true]
  constructor
  · intro ⟨hroots, hentered⟩
    exact ⟨hroots, hentered⟩
  · intro h
    exact ⟨h.roots, h.entered⟩

/-! ## The validator -/

theorem any_eq_name (h : entry ∈ byId) (hname : entry.1 = .str name) :
    byId.any (·.1.eq (.str name)) = true := by
  rw [List.any_eq_true]
  exact ⟨entry, h, Value.eq_str.mpr hname⟩

/-- A manifest with its two sections is validated exactly if it is handled. -/
theorem validateSections_ok_iff {data release : Dict} :
    (∃ findings, validateSections py print data release components = .ok findings) ↔
      SectionsHandled print py data release components := by
  have hparts : SectionsHandled print py data release components ↔
      HeaderHandled print py release ∧
      (∀ component ∈ tablesOf components, isComplete component = true →
        ComponentHandled print component) ∧
      (∀ entry ∈ admitted components, DependenciesHandled entry.2) ∧
      (∀ observation ∈ tablesOf (observationsOf data),
        NamesAdmitted (admitted components) observation ∨
          Prints print (Dict.get observation "component")) ∧
      (∀ entry ∈ admitted components, ExternalHandled print (observationsOf data) entry) ∧
      SearchHandled py.recursionLimit (edgesIn (admitted components)) ∧ True := by
    constructor
    · intro h
      exact ⟨h.header, h.complete, h.dependencies, h.observations, h.externals, h.search, trivial⟩
    · intro ⟨header, complete, dependencies, observations, externals, search, _⟩
      exact ⟨header, complete, dependencies, observations, externals, search⟩
  rw [hparts]
  refine exists_bind_iff_and exists_headerFindings_iff fun header _ =>
    exists_bind_iff_and exists_components_iff fun gathered hgathered => ?_
  have hbyId : gathered.byId = admitted components := by
    rw [byId_of_foldlM_gather hgathered, List.zipIdx_map_fst]
    rfl
  rw [hbyId]
  refine exists_bind_iff_and exists_edgesOf_iff fun edges hedges =>
    exists_bind_iff_and exists_observations_iff fun observed hobserved =>
      exists_bind_iff_and ?_ fun externals _ =>
        exists_bind_iff_and ?_ fun cycles _ => iff_true_intro ⟨_, rfl⟩
  · refine exists_mapM_iff.trans (forall₂_congr fun entry hentry => ?_)
    refine exists_externalFindings_iff fun name hname => ?_
    rw [lookup_observed (any_eq_name hentry hname) hobserved]
    rfl
  · rw [eq_edgesIn hedges]
    exact exists_detectCycles_iff

end

end ChatmanEcosystem.ReleaseTrain.ReleaseManifest
