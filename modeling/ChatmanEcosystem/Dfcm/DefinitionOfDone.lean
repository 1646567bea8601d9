import ChatmanEcosystem.Dfcm.Manifest
import ChatmanEcosystem.Py.Text

/-!
# The definition of done

Model of `definition_of_done` (`scripts/dfcm_autonomic_finish.py`, lines 384–477).

Results:

* `done_iff`: what is done has every required component ALIVE, with its receipt, at its exact
  subject and with its direct dependencies ALIVE, and every required role.
* `closed_iff_sound`: what is done is closed under dependencies exactly when no ALIVE component
  that is not required, but that a required one needs, depends on one that is not ALIVE.
-/

namespace ChatmanEcosystem.Dfcm

open Common Py Rust

/-! ## The report -/

structure Finding where
  code : String
  subject : String
  detail : String
  deriving DecidableEq

structure Checks where
  allRequiredAlive : Bool
  allExecutionReceiptsPresent : Bool
  allExecutedSubjectsExact : Bool
  allDependenciesAlive : Bool
  allRequiredRolesPresent : Bool
  deriving DecidableEq

/-- Lines 398–404. -/
def Checks.initial : Checks := ⟨true, true, true, true, true⟩

/-- `all(checks.values())`. -/
def Checks.all (checks : Checks) : Bool :=
  checks.allRequiredAlive && checks.allExecutionReceiptsPresent &&
    checks.allExecutedSubjectsExact && checks.allDependenciesAlive &&
    checks.allRequiredRolesPresent

structure Report where
  done : Bool
  promotionReady : Bool
  declaredReleaseStanding : Standing
  requiredComponentCount : ℕ
  checks : Checks
  findings : List Finding
  deriving DecidableEq

/-! ## The loops -/

/-- The variables of the loops (lines 398–406). -/
structure Tally where
  checks : Checks
  findings : List Finding
  aliveRoles : Finset String

/-- A check that fails. -/
def Tally.find (tally : Tally) (fail : Checks → Checks) (finding : Finding) : Tally :=
  { tally with checks := fail tally.checks, findings := tally.findings ++ [finding] }

/-- `isinstance(receipt_id, str) and receipt_id.strip()`. -/
def hasReceipt (row : Component) : Bool :=
  row.executionReceipt.text?.any fun text => strip text.toList ≠ []

/-- `by_id[dep]["standing"]`. -/
def standing? (byId : List Component) (dep : String) : Option Standing :=
  (row? byId dep).map Component.standing

/-- A dependency of a required component (lines 434–443). -/
def inspectDependency (byId : List Component) (row : Component) (tally : Tally) (dep : String) :
    Tally :=
  if standing? byId dep = some .alive then tally
  else tally.find (fun checks => { checks with allDependenciesAlive := false })
    ⟨"DOD_DEPENDENCY_NOT_ALIVE", row.id,
      dep ++ ":" ++ ((standing? byId dep).map Standing.text).getD ""⟩

/-- The standing, the receipt and the executed subject of a required component (lines 410–433). -/
def inspectEvidence (py : PyRuntime) (tally : Tally) (row : Component) : Tally :=
  if row.standing ≠ .alive then
    tally.find (fun checks => { checks with allRequiredAlive := false })
      ⟨"DOD_COMPONENT_NOT_ALIVE", row.id, row.standing.text⟩
  else
    let tally := { tally with aliveRoles := insert row.role tally.aliveRoles }
    let tally :=
      if hasReceipt row then tally
      else tally.find (fun checks => { checks with allExecutionReceiptsPresent := false })
        ⟨"DOD_EXECUTION_RECEIPT_MISSING", row.id, "ALIVE requires owning execution receipt"⟩
    if row.executedSha.eq (.str row.sha) then tally
    else tally.find (fun checks => { checks with allExecutedSubjectsExact := false })
      ⟨"DOD_EXECUTED_SUBJECT_DRIFT", row.id,
        "admitted=" ++ row.sha ++ " executed=" ++ py.str row.executedSha⟩

/-- One required component (lines 408–443). -/
def inspect (py : PyRuntime) (byId : List Component) (tally : Tally) (row : Component) : Tally :=
  row.dependsOn.foldl (inspectDependency byId row) (inspectEvidence py tally row)

/-- One required role (lines 445–454). -/
def inspectRole (tally : Tally) (role : String) : Tally :=
  if role ∈ tally.aliveRoles then tally
  else tally.find (fun checks => { checks with allRequiredRolesPresent := false })
    ⟨"DOD_REQUIRED_ROLE_NOT_ALIVE", role, "no required ALIVE component provides this role"⟩

/-- The required components in the order of their ids. -/
def requiredRows (byId : List Component) : List Component :=
  (byId.filter Component.required).insertionSort (·.id ≤ ·.id)

/-- Both loops (lines 398–454). -/
def inspectAll (py : PyRuntime) (byId : List Component) (roles : List String) : Tally :=
  (sorted roles.dedup).foldl inspectRole
    ((requiredRows byId).foldl (inspect py byId) ⟨.initial, [], ∅⟩)

/-- `definition_of_done` (lines 384–477). -/
def definitionOfDone (py : PyRuntime) (manifest : Dict) : Outcome Report := do
  let byId ← components py manifest
  ensure (byId.any Component.required) (refused "DOD_NO_REQUIRED_COMPONENTS" "components")
  let release ← okOr (manifest.getD "release" (.dict [])).dict? (.error .attributeError)
  let requiredRoles := release.getD "required_roles" (.list [])
  let roles ← okOr (requiredRoles.texts?.filter (·.all (· ≠ "")))
    (refused "DOD_REQUIRED_ROLES_INVALID" (py.repr requiredRoles))
  let tally := inspectAll py byId roles
  let hardDone := tally.checks.all && tally.findings.isEmpty
  let declared ← Standing.read (release.getD "standing" (.str "UNKNOWN"))
    (refused "DOD_RELEASE_STANDING_INVALID" (py.str (release.getD "standing" (.str "UNKNOWN"))))
  let findings :=
    if declared = .alive ∧ hardDone = false then
      tally.findings ++ [⟨"DOD_RELEASE_STANDING_OVERCLAIM", "release",
        "declared ALIVE before computed Definition of Done"⟩]
    else tally.findings
  return {
    done := hardDone && findings.isEmpty
    promotionReady := hardDone && declared ≠ .alive
    declaredReleaseStanding := declared
    requiredComponentCount := (byId.filter Component.required).length
    checks := tally.checks
    findings := findings }

/-! ## What is done -/

/-- No check failed. -/
def Tally.Clean (tally : Tally) : Prop := tally.checks = .initial ∧ tally.findings = []

/-- What the definition of done asks for. -/
structure Complete (byId : List Component) (roles : List String) : Prop where
  alive : ∀ row ∈ byId, row.required = true → row.standing = .alive
  receipted : ∀ row ∈ byId, row.required = true → hasReceipt row = true
  exact : ∀ row ∈ byId, row.required = true → row.executedSha = .str row.sha
  dependencies : ∀ row ∈ byId, row.required = true →
    ∀ dep ∈ row.dependsOn, standing? byId dep = some .alive
  roles : ∀ role ∈ roles,
    ∃ row ∈ byId, row.required = true ∧ row.standing = .alive ∧ row.role = role

variable {py : PyRuntime} {manifest : Dict} {byId : List Component} {roles : List String}
  {tally : Tally} {row : Component} {report : Report}

theorem Checks.all_iff (checks : Checks) : checks.all = true ↔ checks = .initial := by
  cases checks
  simp [Checks.all, Checks.initial, and_assoc]

theorem not_clean_find {fail : Checks → Checks} {finding : Finding} :
    ¬ (tally.find fail finding).Clean := by
  intro h
  exact absurd h.2 (by simp [Tally.find])

/-- A loop fails no check when none of its passes does. -/
theorem clean_foldl {α : Type} {step : Tally → α → Tally} {Passes : α → Prop}
    (hstep : ∀ tally x, (step tally x).Clean ↔ tally.Clean ∧ Passes x) (xs : List α) :
    (xs.foldl step tally).Clean ↔ tally.Clean ∧ ∀ x ∈ xs, Passes x := by
  induction xs generalizing tally with
  | nil => simp
  | cons x xs ih => rw [List.foldl_cons, ih, hstep, List.forall_mem_cons, and_assoc]

theorem clean_inspectDependency (tally : Tally) (dep : String) :
    (inspectDependency byId row tally dep).Clean ↔
      tally.Clean ∧ standing? byId dep = some .alive := by
  rw [inspectDependency]
  by_cases hdep : standing? byId dep = some .alive
  · simp [hdep]
  · simp [hdep, not_clean_find]

theorem clean_inspectEvidence :
    (inspectEvidence py tally row).Clean ↔ tally.Clean ∧ row.standing = .alive ∧
      hasReceipt row = true ∧ row.executedSha = .str row.sha := by
  have hexact : row.executedSha.eq (.str row.sha) = true ↔ row.executedSha = .str row.sha :=
    Value.eq_str
  rw [inspectEvidence, ← hexact]
  by_cases halive : row.standing = .alive
  · rw [if_neg (not_not.mpr halive)]
    by_cases hsha : row.executedSha.eq (.str row.sha) = true
    · by_cases hreceipt : hasReceipt row = true
      · rw [if_pos hsha, if_pos hreceipt]
        simp [hsha, hreceipt, halive, Tally.Clean]
      · simp [hsha, hreceipt, not_clean_find]
    · simp [hsha, not_clean_find]
  · simp [halive, not_clean_find]

theorem clean_inspect (tally : Tally) (row : Component) :
    (inspect py byId tally row).Clean ↔ tally.Clean ∧ (row.standing = .alive ∧
      hasReceipt row = true ∧ row.executedSha = .str row.sha) ∧
        ∀ dep ∈ row.dependsOn, standing? byId dep = some .alive := by
  rw [inspect, clean_foldl clean_inspectDependency, clean_inspectEvidence, and_assoc]

theorem aliveRoles_inspect (tally : Tally) (row : Component) :
    (inspect py byId tally row).aliveRoles =
      if row.standing = .alive then insert row.role tally.aliveRoles else tally.aliveRoles := by
  have hdeps : ∀ (deps : List String) (tally : Tally),
      (deps.foldl (inspectDependency byId row) tally).aliveRoles = tally.aliveRoles := by
    intro deps
    induction deps with
    | nil => exact fun _ => rfl
    | cons dep deps ih =>
      intro tally
      rw [List.foldl_cons, ih, inspectDependency]
      split <;> rfl
  rw [inspect, hdeps, inspectEvidence]
  by_cases halive : row.standing = .alive
  · rw [if_neg (not_not.mpr halive), if_pos halive]
    split <;> split <;> rfl
  · rw [if_pos halive, if_neg halive]
    rfl

/-- The roles of the components that are ALIVE. -/
theorem mem_aliveRoles {role : String} (rows : List Component) :
    role ∈ (rows.foldl (inspect py byId) tally).aliveRoles ↔
      role ∈ tally.aliveRoles ∨ ∃ row ∈ rows, row.standing = .alive ∧ row.role = role := by
  induction rows generalizing tally with
  | nil => simp
  | cons row rows ih =>
    rw [List.foldl_cons, ih, aliveRoles_inspect]
    simp only [List.mem_cons, exists_eq_or_imp]
    by_cases halive : row.standing = .alive
    · rw [if_pos halive, Finset.mem_insert, eq_comm (a := role)]
      simp only [halive, true_and]
      tauto
    · simp [halive]

theorem clean_inspectRoles (roles : List String) :
    (roles.foldl inspectRole tally).Clean ↔
      tally.Clean ∧ ∀ role ∈ roles, role ∈ tally.aliveRoles := by
  induction roles generalizing tally with
  | nil => simp
  | cons role roles ih =>
    rw [List.foldl_cons, ih, List.forall_mem_cons, inspectRole]
    by_cases hrole : role ∈ tally.aliveRoles
    · simp [hrole]
    · simp [hrole, not_clean_find]

theorem mem_requiredRows : row ∈ requiredRows byId ↔ row ∈ byId ∧ row.required = true := by
  rw [requiredRows, (List.perm_insertionSort _ _).mem_iff, List.mem_filter]

theorem clean_inspectAll : (inspectAll py byId roles).Clean ↔ Complete byId roles := by
  have hinitial : (⟨.initial, [], ∅⟩ : Tally).Clean := ⟨rfl, rfl⟩
  rw [inspectAll, clean_inspectRoles, clean_foldl clean_inspect]
  simp only [hinitial, true_and, mem_sorted, List.mem_dedup, mem_aliveRoles, Finset.notMem_empty,
    false_or, mem_requiredRows, and_imp]
  constructor
  · intro h
    refine ⟨fun row hrow hreq => (h.1 row hrow hreq).1.1, fun row hrow hreq => (h.1 row hrow
      hreq).1.2.1,
      fun row hrow hreq => (h.1 row hrow hreq).1.2.2, fun row hrow hreq =>
        (h.1 row hrow hreq).2, ?_⟩
    intro role hrole
    obtain ⟨row, ⟨hrow, hreq⟩, halive, heq⟩ := h.2 role hrole
    exact ⟨row, hrow, hreq, halive, heq⟩
  · intro h
    refine ⟨fun row hrow hreq => ⟨⟨h.alive row hrow hreq, h.receipted row hrow hreq,
      h.exact row hrow hreq⟩, h.dependencies row hrow hreq⟩, ?_⟩
    intro role hrole
    obtain ⟨row, hrow, hreq, halive, heq⟩ := h.roles role hrole
    exact ⟨row, ⟨hrow, hreq⟩, halive, heq⟩

/-- The report says done when everything that the definition asks for is there. -/
theorem done_iff (h : definitionOfDone py manifest = .ok report) :
    ∃ byId roles, components py manifest = .ok byId ∧
      (report.done = true ↔ Complete byId roles) := by
  simp only [definitionOfDone, bind_eq_ok, pure_eq_ok] at h
  obtain ⟨byId, hbyId, _, -, release, -, roles, -, declared, -, rfl⟩ := h
  refine ⟨byId, roles, hbyId, ?_⟩
  rw [← @clean_inspectAll py, Tally.Clean, ← Checks.all_iff]
  by_cases hchecks : (inspectAll py byId roles).checks.all = true
  · by_cases hfindings : (inspectAll py byId roles).findings = []
    · simp [hchecks, hfindings]
    · simp [hchecks, hfindings]
  · simp [hchecks]

/-! ## Dependencies of what is done -/

/-- A required component. -/
def Required (byId : List Component) (cid : String) : Prop :=
  ∃ row ∈ byId, row.id = cid ∧ row.required = true

theorem Admitted.standing? (h : Admitted byId) (hrow : row ∈ byId) :
    standing? byId row.id = some row.standing := by
  rw [Dfcm.standing?, h.row? hrow]
  rfl

/-- What the required components need is in the manifest. -/
theorem Admitted.exists_row (h : Admitted byId) {cid : String}
    (hreach : Closure (Dfcm.depsOf byId) (Required byId) cid) : ∃ row ∈ byId, row.id = cid := by
  obtain ⟨root, ⟨row, hrow, rfl, -⟩, hpath⟩ := hreach
  exact List.mem_map.mp (h.mem_ids (List.mem_map_of_mem hrow) hpath)

/-- What is done is closed under dependencies exactly when no ALIVE component that is not required,
but that a required one needs, depends on one that is not ALIVE. -/
theorem closed_iff_sound (hadmits : components py manifest = .ok byId)
    (hreport : definitionOfDone py manifest = .ok report) (hdone : report.done = true) :
    (∀ row ∈ byId, Closure (depsOf byId) (Required byId) row.id → row.standing = .alive) ↔
      ∀ row ∈ byId, Closure (depsOf byId) (Required byId) row.id → row.required = false →
        row.standing = .alive → ∀ dep ∈ row.dependsOn, standing? byId dep = some .alive := by
  have hadmitted := admitted_of_components hadmits
  obtain ⟨byId', roles, hbyId', hiff⟩ := done_iff hreport
  obtain rfl := Except.ok.inj (hadmits.symm.trans hbyId')
  have hcomplete := hiff.mp hdone
  have hroots : ∀ cid, Required byId cid → standing? byId cid = some .alive ∧
      ∀ dep ∈ depsOf byId cid, standing? byId dep = some .alive := by
    intro cid ⟨row, hrow, hid, hrequired⟩
    rw [← hid, hadmitted.standing? hrow, hadmitted.depsOf hrow, hcomplete.alive row hrow hrequired]
    exact ⟨rfl, hcomplete.dependencies row hrow hrequired⟩
  have halive : ∀ row ∈ byId, standing? byId row.id = some .alive ↔ row.standing = .alive := by
    intro row hrow
    rw [hadmitted.standing? hrow, Option.some.injEq]
  have hclosure := closure_good_iff hroots
  constructor
  · intro hclosed row hrow hreach hoptional hstanding
    have hall : ∀ cid, Closure (depsOf byId) (Required byId) cid →
        standing? byId cid = some .alive := by
      intro cid hcid
      obtain ⟨row, hrow, rfl⟩ := hadmitted.exists_row hcid
      exact (halive row hrow).mpr (hclosed row hrow hcid)
    have hnotRequired : ¬ Required byId row.id := by
      rintro ⟨other, hother, hid, hrequired⟩
      rw [List.inj_on_of_nodup_map hadmitted.distinct hother hrow hid, hoptional] at hrequired
      exact Bool.false_ne_true hrequired
    have hdeps := hclosure.mp hall row.id hreach hnotRequired ((halive row hrow).mpr hstanding)
    rwa [hadmitted.depsOf hrow] at hdeps
  · intro hsound row hrow hreach
    refine (halive row hrow).mp (hclosure.mpr ?_ row.id hreach)
    intro cid hcid hnotRequired hstanding
    obtain ⟨row, hrow, rfl⟩ := hadmitted.exists_row hcid
    rw [hadmitted.depsOf hrow]
    refine hsound row hrow hcid ?_ ((halive row hrow).mp hstanding)
    by_contra hrequired
    exact hnotRequired ⟨row, hrow, rfl, by simpa using hrequired⟩

/-- A required component whose dependency is ALIVE, and depends on a standing. -/
def layered (standing : Standing) : List Component :=
  [sampleComponent "a" .alive true ["b"], sampleComponent "b" .alive false ["c"],
    sampleComponent "c" standing false []]

def layeredReport : Report := ⟨true, true, .unknown, 1, .initial, []⟩

theorem closed_layered :
    (∀ row ∈ layered .alive, Closure (depsOf (layered .alive)) (Required (layered .alive)) row.id →
      row.standing = .alive) ↔
    ∀ row ∈ layered .alive, Closure (depsOf (layered .alive)) (Required (layered .alive)) row.id →
      row.required = false → row.standing = .alive →
        ∀ dep ∈ row.dependsOn, standing? (layered .alive) dep = some .alive :=
  have hadmits : components samplePyRuntime (sampleManifest (layered .alive)) =
      .ok (layered .alive) := rfl
  have hreport : definitionOfDone samplePyRuntime (sampleManifest (layered .alive)) =
      .ok layeredReport := rfl
  closed_iff_sound hadmits hreport rfl

/-- Below an ALIVE component that is not required, a blocked one is not seen. -/
theorem done_over_blocked :
    components samplePyRuntime (sampleManifest (layered .blocked)) = .ok (layered .blocked) ∧
      definitionOfDone samplePyRuntime (sampleManifest (layered .blocked)) = .ok layeredReport ∧
      layeredReport.done = true ∧ ∃ row ∈ layered .blocked,
        Closure (depsOf (layered .blocked)) (Required (layered .blocked)) row.id ∧
          row.standing ≠ .alive := by
  refine ⟨rfl, rfl, rfl, sampleComponent "c" .blocked false [], by simp [layered], ?_, by decide⟩
  have hb : "b" ∈ depsOf (layered .blocked) "a" := by decide
  have hc : "c" ∈ depsOf (layered .blocked) "b" := by decide
  exact ⟨"a", ⟨_, List.mem_cons_self, rfl, rfl⟩, (Relation.ReflTransGen.single hb).tail hc⟩

end ChatmanEcosystem.Dfcm
