import ChatmanEcosystem.Common.DepthFirst
import ChatmanEcosystem.ReleaseTrain.ManifestHandling

/-!
# Manifests without findings

A manifest without findings is exact: what has to be unique is unique, and what a component depends
on or is observed as is there.

Results:

* `exact_of_validateSections`: a manifest that is validated without findings is exact.
* `validated_exactly_iff`: the validator raises nothing and is exact on a manifest if and only if
  the manifest is handled.
-/

namespace ChatmanEcosystem.ReleaseTrain.ReleaseManifest

open Common Py Rust Relation

/-! ## Exact manifests -/

/-- The components of a manifest. -/
def componentsOf (data : Dict) : List Dict :=
  tablesOf ((Dict.get data "components").items?.getD [])

/-- What a component lists as its dependencies. -/
def listed (component : Dict) : List Value := (Dict.get component "depends_on").items?.getD []

/-- One component depends on another one. -/
def DependsOn (components : List Dict) (a b : Dict) : Prop :=
  b ∈ components ∧ ∃ dependency ∈ listed a, (Dict.get b "id").eq dependency = true

/-- No two components have an equal value there. -/
def Distinct (components : List Dict) (field : String) : Prop :=
  components.Pairwise fun a b => (Dict.get a field).eq (Dict.get b field) = false

/-- The component has an observation that is what the component is. -/
def IsObserved (observations : List Value) (component : Dict) : Prop :=
  ∃ observation ∈ tablesOf observations,
    (Dict.get observation "component").eq (Dict.get component "id") = true ∧
      ∀ field ∈ observedFields, (Dict.get observation field).eq (Dict.get component field) = true

/-- What a manifest without findings has to be. -/
structure Exact (data : Dict) : Prop where
  ids : Distinct (componentsOf data) "id"
  repositories : Distinct (componentsOf data) "repository"
  listsTexts : ∀ component ∈ componentsOf data,
    (Dict.get component "depends_on").texts?.isSome = true
  admitsAll : ∀ component ∈ componentsOf data, ∀ dependency ∈ listed component,
    ∃ other ∈ componentsOf data, (Dict.get other "id").eq dependency = true
  acyclic : ∀ component ∈ componentsOf data,
    ¬ TransGen (DependsOn (componentsOf data)) component component
  observed : ∀ component ∈ componentsOf data,
    (Dict.get component "ref_check").eq (.str "external") = true →
      IsObserved (observationsOf data) component

/-! ## Gathering without findings -/

section

variable {py : PyRuntime} {print : Value → Except PyError String} {gathered gathered' : Gathered}
  {component : Dict} {tables : List Dict} {data release : Dict}

theorem report_eq_nil {condition : Prop} [Decidable condition] {code : String}
    {subject detail : Value} : report condition code subject detail = [] ↔ ¬ condition := by
  unfold report
  split_ifs with h
  · simp [h]
  · simp [h]

/-- Checks without a finding have found a list of names. -/
theorem texts_of_fieldFindings (h : fieldFindings print component = .ok []) :
    (Dict.get component "depends_on").texts?.isSome = true := by
  simp only [fieldFindings, bind_eq_ok, pure_eq_ok, List.append_eq_nil_iff, report_eq_nil] at h
  obtain ⟨_, _, _, _, _, _, _, _, _, _, _, _, _, _, _, _, _, _, ⟨⟨_, htexts⟩, _⟩, _⟩ := h
  exact Option.isSome_iff_ne_none.mpr htexts

/-- A component that has been added without a finding. -/
structure Added (gathered : Gathered) (component : Dict) (gathered' : Gathered) : Prop where
  before : gathered.findings = []
  newId : gathered.ids.any (·.eq (Dict.get component "id")) = false
  newRepository : gathered.repositories.any (·.eq (Dict.get component "repository")) = false
  texts : (Dict.get component "depends_on").texts?.isSome = true
  ids : gathered'.ids = gathered.ids ++ [Dict.get component "id"]
  repositories : gathered'.repositories = gathered.repositories ++ [Dict.get component "repository"]
  byId : gathered'.byId = place gathered.byId component

theorem added_of_gather {entry : Value × ℕ} (h : gather print gathered entry = .ok gathered')
    (hclean : gathered'.findings = []) :
    ∃ component, entry.1 = .dict component ∧ Added gathered component gathered' := by
  obtain ⟨value, index⟩ := entry
  cases value with
  | dict component =>
    refine ⟨component, rfl, ?_⟩
    by_cases hcomplete : isComplete component = true
    · simp only [gather, hcomplete, Bool.true_eq_false, if_false, bind_eq_ok, pure_eq_ok] at h
      obtain ⟨_, _, fields, hfields, rfl⟩ := h
      simp only [List.append_eq_nil_iff, report_eq_nil, Bool.not_eq_true] at hclean
      obtain ⟨⟨⟨hbefore, hid⟩, hrepository⟩, rfl⟩ := hclean
      refine ⟨hbefore, hid, hrepository, texts_of_fieldFindings hfields, ?_, ?_, rfl⟩
      · simp only [insertValue, hid, Bool.false_eq_true, if_false]
      · simp only [insertValue, hrepository, Bool.false_eq_true, if_false]
    · simp only [gather, hcomplete, if_true, Except.ok.injEq] at h
      exact absurd (h ▸ hclean) (by simp)
  | null | bool | int | float | str | list | date =>
    obtain rfl := Except.ok.inj h
    exact absurd hclean (by simp)

/-- What the loop over the components has gathered of some tables without a finding. -/
structure Gathers (tables : List Dict) (gathered : Gathered) : Prop where
  distinctIds : Distinct tables "id"
  distinctRepositories : Distinct tables "repository"
  texts : ∀ component ∈ tables, (Dict.get component "depends_on").texts?.isSome = true
  ids : gathered.ids = tables.map (Dict.get · "id")
  repositories : gathered.repositories = tables.map (Dict.get · "repository")
  byId : gathered.byId = tables.map fun component => (Dict.get component "id", component)

theorem distinct_append {field : String} (h : Distinct tables field)
    (hnew : (tables.map (Dict.get · field)).any (·.eq (Dict.get component field)) = false) :
    Distinct (tables ++ [component]) field := by
  rw [Distinct, List.pairwise_append]
  refine ⟨h, List.pairwise_singleton _ _, fun a ha b hb => ?_⟩
  rw [List.mem_singleton.mp hb]
  rw [List.any_map, List.any_eq_false] at hnew
  exact Bool.eq_false_iff.mpr (hnew a ha)

theorem Gathers.append (h : Gathers tables gathered) (hadded : Added gathered component gathered') :
    Gathers (tables ++ [component]) gathered' := by
  have hnewId := hadded.newId
  have hnewRepository := hadded.newRepository
  rw [h.ids] at hnewId
  rw [h.repositories] at hnewRepository
  have hplace : place gathered.byId component =
      gathered.byId ++ [(Dict.get component "id", component)] := by
    have hkey : gathered.byId.any (·.1.eq (Dict.get component "id")) = false := by
      rw [h.byId, List.any_map]
      rw [List.any_map] at hnewId
      exact hnewId
    simp only [place, ById.set, hkey, Bool.false_eq_true, if_false]
  refine ⟨distinct_append h.distinctIds hnewId,
    distinct_append h.distinctRepositories hnewRepository,
    ?_, ?_, ?_, ?_⟩
  · intro other hother
    rcases List.mem_append.mp hother with hother | hother
    · exact h.texts other hother
    · rw [List.mem_singleton.mp hother]
      exact hadded.texts
  · rw [hadded.ids, h.ids, List.map_append]
    rfl
  · rw [hadded.repositories, h.repositories, List.map_append]
    rfl
  · rw [hadded.byId, hplace, h.byId, List.map_append]
    rfl

/-- A loop over the components without a finding has gathered tables only. -/
theorem gathers_of_foldlM {entries : List (Value × ℕ)} {header : List Finding}
    (h : entries.foldlM (gather print) ⟨[], [], [], [], header⟩ = .ok gathered)
    (hclean : gathered.findings = []) :
    ∃ tables, entries.map Prod.fst = tables.map .dict ∧ Gathers tables gathered := by
  induction entries using List.reverseRecOn generalizing gathered with
  | nil =>
    obtain rfl := Except.ok.inj h
    exact ⟨[], rfl, .nil, .nil, nofun, rfl, rfl, rfl⟩
  | append_singleton entries entry ih =>
    rw [List.foldlM_append, bind_eq_ok] at h
    obtain ⟨before, hbefore, hlast⟩ := h
    rw [List.foldlM_cons, bind_eq_ok] at hlast
    obtain ⟨after, hstep, hreturn⟩ := hlast
    obtain rfl := Except.ok.inj hreturn
    obtain ⟨component, hcomponent, hadded⟩ := added_of_gather hstep hclean
    obtain ⟨tables, htables, hgathers⟩ := ih hbefore hadded.before
    refine ⟨tables ++ [component], ?_, hgathers.append hadded⟩
    rw [List.map_append, htables, List.map_append]
    exact congrArg _ (congrArg (fun value => [value]) hcomponent)

/-! ## Dependencies without findings -/

/-- The edges of some components with lists of names. -/
def rowsOf (tables : List Dict) : Edges :=
  tables.map fun component => (Dict.get component "id", listed component)

theorem listed_of_texts (h : (Dict.get component "depends_on").texts?.isSome = true) :
    (Dict.getD component "depends_on" (.list [])).iterate.toOption.getD [] = listed component ∧
      ∀ dependency ∈ listed component, ∃ name, dependency = .str name := by
  obtain ⟨names, hnames⟩ := Option.isSome_iff_exists.mp h
  have hvalue := Value.texts_eq_some.mp hnames
  have hlisted : listed component = names.map .str := by
    rw [listed, hvalue]
    rfl
  rw [hlisted]
  constructor
  · have hdefault : Dict.getD component "depends_on" (.list []) =
        .list (names.map .str) := by
      unfold Dict.get Dict.getD at hvalue
      unfold Dict.getD
      cases hlookup : component.lookup "depends_on" with
      | none => simp [hlookup] at hvalue
      | some value =>
        rw [hlookup] at hvalue
        exact hvalue
    rw [hdefault]
    rfl
  · intro dependency hdependency
    obtain ⟨name, -, rfl⟩ := List.mem_map.mp hdependency
    exact ⟨name, rfl⟩

theorem Gathers.edgesIn_eq (h : Gathers tables gathered) :
    edgesIn gathered.byId = rowsOf tables := by
  rw [h.byId, edgesIn, rowsOf, List.map_map]
  refine List.map_congr_left fun component hcomponent => ?_
  exact congrArg (Prod.mk _) (listed_of_texts (h.texts component hcomponent)).1

theorem admits_of_dependencyFindings (h : dependencyFindings (rowsOf tables) = [])
    (hcomponent : component ∈ tables) {dependency : Value}
    (hdependency : dependency ∈ listed component) :
    ∃ other ∈ tables, (Dict.get other "id").eq dependency = true := by
  rw [dependencyFindings, List.flatMap_eq_nil_iff] at h
  have hrow := h _ (List.mem_map_of_mem hcomponent)
  rw [List.flatMap_eq_nil_iff] at hrow
  have hfound := List.append_eq_nil_iff.mp (hrow dependency hdependency)
  rw [report_eq_nil, Bool.not_eq_false, rowsOf, List.any_map, List.any_eq_true] at hfound
  exact hfound.1

/-- A component at a well-founded place is well founded. -/
theorem acc_dependsOn (hdistinct : Distinct tables "id")
    (htexts : ∀ component ∈ tables, (Dict.get component "depends_on").texts?.isSome = true) {i : ℕ}
    (h : Acc (flip (Depends (nexts (rowsOf tables)))) i) :
    ∀ component, tables[i]? = some component → Acc (flip (DependsOn tables)) component := by
  induction h with
  | intro i _ ih =>
    intro component hi
    refine ⟨component, fun other hother => ?_⟩
    obtain ⟨hmem, dependency, hdependency, heq⟩ := hother
    obtain ⟨name, rfl⟩ := (listed_of_texts (htexts component (List.mem_of_getElem? hi))).2 _
      hdependency
    obtain ⟨j, hj⟩ := List.getElem?_of_mem hmem
    refine ih j ?_ other hj
    have hfind : (rowsOf tables).findIdx? (·.1.eq (.str name)) = some j := by
      obtain ⟨hlt, hat⟩ := List.getElem?_eq_some_iff.mp hj
      rw [List.findIdx?_eq_some_iff_getElem]
      refine ⟨by simpa [rowsOf] using hlt, by simpa [rowsOf, hat] using heq, fun k hk hkey => ?_⟩
      have hne := List.pairwise_iff_getElem.mp hdistinct k j (hk.trans hlt) hlt hk
      rw [hat, Value.eq_str.mp heq] at hne
      simp only [rowsOf, List.getElem_map] at hkey
      exact absurd hkey (by simp [hne])
    show j ∈ nexts (rowsOf tables) i
    unfold nexts
    rw [List.mem_filterMap]
    refine ⟨.str name, ?_, hfind⟩
    simp only [rowsOf, List.getElem?_map, hi, Option.map_some, Option.elim_some]
    exact hdependency

theorem acc_of_detectCycles {limit : ℕ} {edges : Edges} (h : detectCycles limit edges = .ok [])
    {i : ℕ} (hi : i < edges.length) : Acc (flip (Depends (nexts edges))) i := by
  unfold detectCycles at h
  rw [bind_eq_ok] at h
  obtain ⟨⟨visited, findings⟩, hsearch, hreturn⟩ := h
  have hclose : ∀ trail node (findings findings' : List Finding),
      closeCycle edges trail node findings = .ok findings' → ¬ findings' = [] := by
    intro trail node findings findings' hclosed
    rw [closeCycle, bind_eq_ok] at hclosed
    obtain ⟨names, _, hpure⟩ := hclosed
    rw [← pure_eq_ok.mp hpure]
    simp
  exact acc_of_foldlM_enter hclose hsearch (pure_eq_ok.mp hreturn) i (List.mem_range.mpr hi)

/-- Components without a cycle that the search has found depend on none that depends on them. -/
theorem acyclic_of_detectCycles {limit : ℕ} (h : detectCycles limit (rowsOf tables) = .ok [])
    (hdistinct : Distinct tables "id")
    (htexts : ∀ component ∈ tables, (Dict.get component "depends_on").texts?.isSome = true)
    (hcomponent : component ∈ tables) : ¬ TransGen (DependsOn tables) component component := by
  obtain ⟨i, hi⟩ := List.getElem?_of_mem hcomponent
  have hlt : i < (rowsOf tables).length := by
    simpa [rowsOf] using (List.getElem?_eq_some_iff.mp hi).1
  exact not_transGen_of_acc
    (acc_dependsOn hdistinct htexts (acc_of_detectCycles h hlt) component hi)

/-! ## Observations without findings -/

theorem eq_of_mismatch {id : Value} {observation : Dict} {field : String}
    (h : mismatch print id component observation field = .ok []) :
    (Dict.get observation field).eq (Dict.get component field) = true := by
  unfold mismatch at h
  by_contra hne
  rw [if_neg hne] at h
  simp only [bind_eq_ok, pure_eq_ok] at h
  obtain ⟨_, _, _, _, hfound⟩ := h
  exact nomatch hfound

theorem observed_of_externalFindings {entry : Value × Dict} {byComponent : List (String × Dict)}
    (h : externalFindings print byComponent entry = .ok [])
    (hexternal : (Dict.get entry.2 "ref_check").eq (.str "external") = true) :
    ∃ name observation, entry.1 = .str name ∧ byComponent.lookup name = some observation ∧
      ∀ field ∈ observedFields, (Dict.get observation field).eq (Dict.get entry.2 field) =
        true := by
  unfold externalFindings at h
  rw [hexternal, if_neg (by simp)] at h
  cases hobservation : entry.1.text?.bind (byComponent.lookup ·) with
  | none =>
    rw [hobservation] at h
    exact absurd h (by simp)
  | some observation =>
    rw [hobservation, bind_eq_ok] at h
    obtain ⟨mismatches, hloop, hreturn⟩ := h
    obtain ⟨name, htext, hlookup⟩ := Option.bind_eq_some_iff.mp hobservation
    refine ⟨name, observation, Value.text_eq_some.mp htext, hlookup, fun field hfield => ?_⟩
    have hnone := pure_eq_ok.mp hreturn
    rw [List.append_eq_nil_iff, List.append_eq_nil_iff, List.flatten_eq_nil_iff] at hnone
    obtain ⟨findings, hfindings⟩ := ok_of_mapM hloop hfield
    have hempty := hnone.1.1 findings ((mem_of_mapM hloop).mpr ⟨field, hfield, hfindings⟩)
    exact eq_of_mismatch (hempty ▸ hfindings)

theorem mem_of_observationOf {observations : List Value} {name : String} {observation : Dict}
    (h : observationOf observations name = some observation) :
    observation ∈ tablesOf observations ∧ Dict.get observation "component" = .str name := by
  have hfound := List.find?_some h
  exact ⟨List.mem_of_find?_eq_some h, Value.text_eq_some.mp (of_decide_eq_true hfound)⟩

/-! ## The validator -/

variable {components : List Value}

/-- A manifest that is validated without findings is exact. -/
theorem exact_of_validateSections (hcomponents : Dict.get data "components" = .list components)
    (h : validateSections py print data release components = .ok []) : Exact data := by
  unfold validateSections at h
  simp only [bind_eq_ok] at h
  obtain ⟨header, hheader, gathered, hgathered, edges, hedges, observed, hobserved, externals,
    hexternals, cycles, hcycles, hreturn⟩ := h
  have hnone := pure_eq_ok.mp hreturn
  simp only [List.append_eq_nil_iff] at hnone
  obtain ⟨⟨⟨⟨⟨hclean, hdependencies⟩, -⟩, -⟩, hexternal⟩, rfl⟩ := hnone
  obtain ⟨tables, htables, hgathers⟩ := gathers_of_foldlM hgathered hclean
  have hedgesEq : edges = rowsOf tables := (eq_edgesIn hedges).trans hgathers.edgesIn_eq
  have hall : componentsOf data = tables := by
    rw [List.zipIdx_map_fst] at htables
    rw [componentsOf, hcomponents, Value.items?, Option.getD_some, htables, tablesOf,
      List.filterMap_map]
    exact List.filterMap_some
  rw [hedgesEq] at hdependencies hcycles
  constructor
  all_goals rw [hall]
  · exact hgathers.distinctIds
  · exact hgathers.distinctRepositories
  · exact hgathers.texts
  · intro component hcomponent dependency hdependency
    exact admits_of_dependencyFindings hdependencies hcomponent hdependency
  · intro component hcomponent
    exact acyclic_of_detectCycles hcycles hgathers.distinctIds hgathers.texts hcomponent
  · intro component hcomponent hcheck
    have hentry : (Dict.get component "id", component) ∈ gathered.byId := by
      rw [hgathers.byId]
      exact List.mem_map_of_mem hcomponent
    obtain ⟨findings, hfindings⟩ := ok_of_mapM hexternals hentry
    have hempty := List.flatten_eq_nil_iff.mp hexternal findings
      ((mem_of_mapM hexternals).mpr ⟨_, hentry, hfindings⟩)
    obtain ⟨name, observation, hname, hlookup, hfields⟩ :=
      observed_of_externalFindings (hempty ▸ hfindings) hcheck
    rw [lookup_observed (any_eq_name hentry hname) hobserved] at hlookup
    obtain ⟨hmem, hcomponentOf⟩ := mem_of_observationOf hlookup
    refine ⟨observation, hmem, ?_, hfields⟩
    rw [hcomponentOf, Value.str_eq]
    exact hname

/-- The manifest has its two sections. -/
def HasSections (data release : Dict) (components : List Value) : Prop :=
  Dict.get data "release" = .dict release ∧ Dict.get data "components" = .list components ∧
    components ≠ []

theorem validateManifest_of_sections (h : HasSections data release components) :
    validateManifest py print data = validateSections py print data release components := by
  obtain ⟨hrelease, hcomponents, hne⟩ := h
  obtain ⟨component, rest, rfl⟩ := List.exists_cons_of_ne_nil hne
  simp only [validateManifest, hrelease, hcomponents]

/-- A manifest without one of its sections has a finding. -/
theorem validateManifest_of_not_sections (h : ¬ ∃ release components,
    HasSections data release components) :
    ∃ finding, validateManifest py print data = .ok [finding] := by
  unfold validateManifest
  split
  · rename_i release component components hrelease hcomponents
    exact absurd ⟨release, _, hrelease, hcomponents, List.cons_ne_nil _ _⟩ h
  · exact ⟨_, rfl⟩
  · exact ⟨_, rfl⟩

/-- The validator raises nothing, and a manifest without findings is exact, if and only if the
manifest has a section missing or is handled. -/
theorem validated_exactly_iff :
    (∃ findings, validateManifest py print data = .ok findings ∧ (findings = [] → Exact data)) ↔
      ∀ release components, HasSections data release components →
        SectionsHandled print py data release components := by
  constructor
  · intro ⟨findings, hfindings, _⟩ release components hsections
    rw [validateManifest_of_sections hsections] at hfindings
    exact validateSections_ok_iff.mp ⟨findings, hfindings⟩
  · intro h
    by_cases hsections : ∃ release components, HasSections data release components
    · obtain ⟨release, components, hsections⟩ := hsections
      obtain ⟨findings, hfindings⟩ := validateSections_ok_iff.mpr (h release components hsections)
      refine ⟨findings, (validateManifest_of_sections hsections).trans hfindings, fun hnone => ?_⟩
      exact exact_of_validateSections hsections.2.1 (hnone ▸ hfindings)
    · obtain ⟨finding, hfinding⟩ := validateManifest_of_not_sections hsections
      exact ⟨_, hfinding, nofun⟩

end

/-- A manifest of one component that gives its commit as a number. -/
def numberedCommit : Dict :=
  [("release", .dict [("version", .str "26.9.7"), ("standing", .str "ALIVE")]),
    ("components", .list [.dict [("id", .str "west"), ("repository", .str "chatman/west"),
      ("ref", .str "main"), ("ref_check", .str "github"), ("sha", .int 1), ("role", .str "crown"),
      ("disposition", .str "CROWN"), ("standing", .str "ALIVE"), ("required", .bool true),
      ("depends_on", .list [])]])]

/-- The pattern for commits is matched against the number. -/
theorem numberedCommit_raises : ¬ ∃ findings,
    validateManifest samplePyRuntime (fun value => .ok (compact value)) numberedCommit =
        .ok findings ∧ (findings = [] → Exact numberedCommit) := by
  have hraised : (validateManifest samplePyRuntime (fun value => .ok (compact value))
      numberedCommit).toOption.isNone = true := by decide +kernel
  intro ⟨findings, hfindings, _⟩
  rw [hfindings] at hraised
  exact nomatch hraised

end ChatmanEcosystem.ReleaseTrain.ReleaseManifest
