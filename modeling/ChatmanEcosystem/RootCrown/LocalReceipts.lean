import ChatmanEcosystem.RootCrown.Binding

/-!
# Local receipts

Model of `bind_local` (`scripts/release_train/root_crown/binding.py`, lines 228–275), and what a
receipt declares of its own lineage.

Results:

* `exposed_of_admission`: from which receipts a local binding with a subject of its own is admitted.
* `lineage_matters_iff`: the declared lineage decides nothing exactly for the receipts that name no
  subject of their own, and the admission does not depend on it exactly where the receipt is not
  `Exposed`.
-/

namespace ChatmanEcosystem.RootCrown

open Py Rust

/-! ## Binding a local receipt -/

/-- The subject that a receipt names (lines 246–249). -/
def ownSubject (data : Dict) : Option String :=
  let subject := data.get "subject_sha"
  let subject := if subject.truthy then subject else match (data.get "subject").dict? with
    | some inner => inner.get "sha"
    | none => subject
  subject.text?.filter (· ≠ "")

/-- What a local receipt is bound and admitted with. -/
structure LocalCall where
  requirement : Requirement
  crownSha : String
  containerRepository : Option String
  path : String
  evidenceBytes : List UInt8
  standing : Option String
  allowlist : Allowlist
  kind : String
  rootRepository : Option String
  content : Option (List UInt8)

/-- The lineage of a local receipt (lines 268–276). -/
def localLineage (py : PyRuntime) (allowlist : Allowlist) (data : Dict) :
    Except PyError LineageProof :=
  match ownSubject data with
  | none => .ok { status := .str "identical", deltaPaths := some [], deltaClass := .str "EMPTY" }
  | some _ => lineage py allowlist (data.get "subject_compare") (data.get "subject_delta_paths")
    (orElse (data.get "subject_delta_class") (data.get "delta_class"))

/-- The binding of a local receipt with a lineage, not sealed (lines 250–276). -/
def localBinding (py : PyRuntime) (call : LocalCall) (data : Dict) (proof : LineageProof) :
    EvidenceBinding where
  requirementId := call.requirement.id
  kind := call.kind
  evaluatedSubjectSha := some ((ownSubject data).getD call.crownSha)
  evaluatedSubjectKind :=
    if (ownSubject data).isSome then "producer_commit" else "operator_local_state"
  containerRepository := call.containerRepository
  evidenceContainerSha := some call.crownSha
  evidenceLocator := gitLocator call.containerRepository (some call.crownSha) call.path
  evidenceDigest := some (sha256Tag py call.evidenceBytes)
  producer := py.str (orElse (data.get "producer") (.str "operator-local"))
  court := py.str (orElse (data.get "court") (.str call.requirement.evidenceKind))
  command := (data.get "command").text?
  exitCode := if (data.get "exit_code").int?.isSome then data.get "exit_code" else .null
  toolchain := (data.get "toolchain").text?
  standing := call.standing
  owner := call.containerRepository
  ownerSource := "container"
  lineageProof := proof
  bindingDigest := ""

/-- `bind_local` (lines 228–275). -/
def bindLocal (py : PyRuntime) (call : LocalCall) (data : Dict) :
    Except PyError EvidenceBinding := do
  let proof ← localLineage py call.allowlist data
  (localBinding py call data proof).sealed py

/-- A local receipt is bound and admitted. -/
def admission (py : PyRuntime) (call : LocalCall) (data : Dict) :
    Except PyError (Option ReqState) := do
  EvidenceBinding.admit py (← bindLocal py call data) call.crownSha call.rootRepository
    call.allowlist call.content

variable {py : PyRuntime} {call : LocalCall} {data data' : Dict} {proof : LineageProof}
  {binding : EvidenceBinding} {subject : String}

/-! ## What a receipt declares of its lineage -/

/-- The fields of a receipt that `bind_local` takes the lineage from, its class under both
names. -/
def lineageFields : List String :=
  ["subject_compare", "subject_delta_paths", "delta_class", "subject_delta_class"]

/-- Two documents that agree outside of some fields. -/
def SameBut (fields : List String) (data data' : Dict) : Prop :=
  ∀ key ∉ fields, data.lookup key = data'.lookup key

/-- The receipt with another lineage declared. -/
def declare (status paths : Value) (data : Dict) : Dict :=
  ("subject_compare", status) :: ("subject_delta_paths", paths) ::
    data.filter fun item => item.1 ∉ lineageFields

theorem lookup_filter_key (keep : String → Bool) (key : String) (items : Dict) :
    (items.filter fun item => keep item.1).lookup key =
      if keep key then items.lookup key else none := by
  induction items with
  | nil => simp
  | cons item items ih =>
    obtain ⟨name, value⟩ := item
    by_cases hname : key = name
    · by_cases hkeep : keep key
      · subst hname
        simp [hkeep]
      · subst hname
        simp [hkeep, ih]
    · have hlookup : ∀ rest : Dict, List.lookup key ((name, value) :: rest) = rest.lookup key :=
        fun rest => by rw [List.lookup_cons, beq_false_of_ne hname]
      rw [hlookup, List.filter_cons]
      split
      · rw [hlookup, ih]
      · exact ih

theorem sameBut_declare (status paths : Value) (data : Dict) :
    SameBut lineageFields data (declare status paths data) := by
  intro key hkey
  have hcompare : key ≠ "subject_compare" := fun h => hkey (by rw [h]; simp [lineageFields])
  have hpaths : key ≠ "subject_delta_paths" := fun h => hkey (by rw [h]; simp [lineageFields])
  rw [declare, List.lookup_cons, beq_false_of_ne hcompare, List.lookup_cons,
    beq_false_of_ne hpaths, lookup_filter_key (· ∉ lineageFields)]
  simp [hkey]

theorem SameBut.get {fields : List String} (h : SameBut fields data data') (key : String)
    (hkey : key ∉ fields) : data'.get key = data.get key := by
  rw [Dict.get, Dict.get, Dict.getD, Dict.getD, h key hkey]

/-- The rest of a binding does not depend on the declared lineage. -/
theorem SameBut.ownSubject (h : SameBut lineageFields data data') :
    RootCrown.ownSubject data' = RootCrown.ownSubject data := by
  simp only [RootCrown.ownSubject, h.get "subject_sha" (by decide),
    h.get "subject" (by decide)]

theorem SameBut.localBinding (h : SameBut lineageFields data data') :
    RootCrown.localBinding py call data' proof = RootCrown.localBinding py call data proof := by
  simp only [RootCrown.localBinding, h.ownSubject, h.get "producer" (by decide),
    h.get "court" (by decide), h.get "command" (by decide),
    h.get "exit_code" (by decide), h.get "toolchain" (by decide)]

/-- A receipt that names no subject has a lineage of the crown. -/
theorem SameBut.admission (h : SameBut lineageFields data data')
    (hsubject : RootCrown.ownSubject data = none) :
    RootCrown.admission py call data' = RootCrown.admission py call data := by
  simp only [RootCrown.admission, bindLocal, localLineage, h.ownSubject, hsubject, h.localBinding]

/-! ## Which receipts are admitted -/

/-- A receipt's bytes and identity are in order, for a subject. -/
structure Eligible (py : PyRuntime) (call : LocalCall) (subject : String) : Prop where
  kind : call.kind ∈ bindingKinds
  subject : isCommit subject = true
  crown : isCommit call.crownSha = true
  locator : (gitLocator call.containerRepository (some call.crownSha) call.path).any
    (isDurable ·) = true
  content : ∀ content ∈ call.content, sha256Tag py content = sha256Tag py call.evidenceBytes

theorem mutableCommit_eq_none (hsubject : ownSubject data = some subject) (digest : String) :
    mutableCommit ((localBinding py call data proof).withDigest digest) = none ↔
      isCommit subject = true ∧ isCommit call.crownSha = true := by
  simp [mutableCommit, localBinding, EvidenceBinding.withDigest, hsubject]

variable {digest : String}

theorem checkBinding_iff_eligible (hsubject : ownSubject data = some subject)
    (hdigest : (localBinding py call data proof).computedDigest py = .ok digest) :
    checkBinding py ((localBinding py call data proof).withDigest digest) call.content =
      .ok none ↔ Eligible py call subject := by
  have htag : sha256Tag py call.evidenceBytes ≠ "" := by
    intro h
    have hlength := congrArg String.length h
    simp [sha256Tag] at hlength
  rw [checkBinding_eq_none hdigest, mutableCommit_eq_none hsubject]
  constructor
  · rintro ⟨hkind, ⟨hown, hcrown⟩, hlocator, hcontent, -⟩
    exact ⟨hkind, hown, hcrown, hlocator, fun bytes hbytes =>
      (Option.some.inj (hcontent bytes hbytes)).symm⟩
  · rintro ⟨hkind, hown, hcrown, hlocator, hcontent⟩
    exact ⟨hkind, ⟨hown, hcrown⟩, hlocator, fun bytes hbytes =>
      congrArg some (hcontent bytes hbytes).symm, htag⟩

/-- The evidence that is derived in the tree is about the crown, a receipt about another commit. -/
def Placed (call : LocalCall) (subject : String) : Prop :=
  call.kind = "IN_TREE_DERIVED" ↔ subject = call.crownSha

theorem admit_local (hsubject : ownSubject data = some subject)
    (hdigest : (localBinding py call data proof).computedDigest py = .ok digest)
    (heligible : Eligible py call subject) (hplaced : Placed call subject) :
    EvidenceBinding.admit py ((localBinding py call data proof).withDigest digest) call.crownSha
        call.rootRepository call.allowlist call.content =
      if call.kind = "IN_TREE_DERIVED" then .ok none
      else checkLineage py ((localBinding py call data proof).withDigest digest)
        call.allowlist := by
  rw [ EvidenceBinding.admit, (checkBinding_iff_eligible hsubject hdigest).mpr heligible]
  by_cases hkind : call.kind = "IN_TREE_DERIVED"
  · have hcrown : subject = call.crownSha := hplaced.mp hkind
    simp [bind, Except.bind, pure, Except.pure, localBinding, EvidenceBinding.withDigest, hkind,
      checkInTree, hsubject, hcrown]
  · have hcrown : subject ≠ call.crownSha := fun h => hkind (hplaced.mpr h)
    simp [bind, Except.bind, localBinding, EvidenceBinding.withDigest, hkind, checkSubject,
      hsubject, hcrown]

/-- Where a local receipt with a subject of its own is admitted from. -/
theorem placed_of_admit (hsubject : ownSubject data = some subject)
    (hdigest : (localBinding py call data proof).computedDigest py = .ok digest)
    (h : EvidenceBinding.admit py
    ((localBinding py call data proof).withDigest digest) call.crownSha
      call.rootRepository call.allowlist call.content = .ok none) :
    Eligible py call subject ∧ Placed call subject := by
  have hchecked : checkBinding py ((localBinding py call data proof).withDigest digest)
      call.content = .ok none := by
    have hchecks : ∃ outcome, checkBinding py ((localBinding py call data proof).withDigest digest)
        call.content = .ok outcome := exists_checkBinding _ _ hdigest
    obtain ⟨outcome, houtcome⟩ := hchecks
    rw [houtcome]
    rw [ EvidenceBinding.admit, houtcome] at h
    cases outcome with
    | none => rfl
    | some refusal => cases h
  refine ⟨(checkBinding_iff_eligible hsubject hdigest).mp hchecked, ?_⟩
  rw [ EvidenceBinding.admit, hchecked] at h
  by_cases hkind : call.kind = "IN_TREE_DERIVED"
  · by_cases hcrown : subject = call.crownSha
    · exact ⟨fun _ => hcrown, fun _ => hkind⟩
    · simp [bind, Except.bind, pure, Except.pure, localBinding, EvidenceBinding.withDigest, hkind,
        checkInTree, hsubject, hcrown] at h
  · by_cases hcrown : subject = call.crownSha
    · simp [bind, Except.bind, pure, Except.pure, localBinding, EvidenceBinding.withDigest, hkind,
        checkSubject, hsubject,
        hcrown] at h
    · exact ⟨fun h => absurd h hkind, fun h => absurd h hcrown⟩

/-- What a receipt is exposed by: it names another commit, and all else is in order. -/
def Exposed (py : PyRuntime) (call : LocalCall) (data : Dict) : Prop :=
  ∃ subject, ownSubject data = some subject ∧ Eligible py call subject ∧ Placed call subject

theorem admission_eq_ok {outcome : Option ReqState} : admission py call data = .ok outcome ↔
    ∃ proof, localLineage py call.allowlist data = .ok proof ∧ ∃ digest,
      (localBinding py call data proof).computedDigest py = .ok digest ∧
      EvidenceBinding.admit py ((localBinding py call data proof).withDigest digest) call.crownSha
        call.rootRepository call.allowlist call.content = .ok outcome := by
  simp only [admission, bindLocal, bind_eq_ok, EvidenceBinding.sealed_eq_ok]
  constructor
  · rintro ⟨_, ⟨proof, hproof, digest, hdigest, rfl⟩, hadmit⟩
    exact ⟨proof, hproof, digest, hdigest, hadmit⟩
  · rintro ⟨proof, hproof, digest, hdigest, hadmit⟩
    exact ⟨_, ⟨proof, hproof, digest, hdigest, rfl⟩, hadmit⟩

theorem exposed_of_admission (hsubject : ownSubject data = some subject)
    (h : admission py call data = .ok none) : Exposed py call data := by
  obtain ⟨proof, -, digest, hdigest, hadmit⟩ := admission_eq_ok.mp h
  exact ⟨subject, hsubject, placed_of_admit hsubject hdigest hadmit⟩

theorem SameBut.exposed (h : SameBut lineageFields data data') :
    Exposed py call data' ↔ Exposed py call data := by
  rw [Exposed, Exposed, h.ownSubject]

/-! ## What a receipt can declare -/

theorem ownSubject_declare (status paths : Value) :
    ownSubject (declare status paths data) = ownSubject data :=
  (sameBut_declare status paths data).ownSubject

theorem localLineage_declare (hsubject : ownSubject data = some subject) (allowlist : Allowlist)
    (status paths : Value) : localLineage py allowlist (declare status paths data) =
      lineage py allowlist status paths .null := by
  have hclass : ∀ key ∈ ["subject_delta_class", "delta_class"],
      (declare status paths data).get key = .null := by
    intro key hkey
    have hfields : key ∈ lineageFields := by
      simp only [List.mem_cons, List.not_mem_nil, or_false] at hkey
      rcases hkey with rfl | rfl <;> decide
    have hcompare : key ≠ "subject_compare" := by
      rintro rfl
      exact absurd hkey (by decide)
    have hpaths : key ≠ "subject_delta_paths" := by
      rintro rfl
      exact absurd hkey (by decide)
    rw [Dict.get, Dict.getD, declare, List.lookup_cons, beq_false_of_ne hcompare, List.lookup_cons,
      beq_false_of_ne hpaths, lookup_filter_key (· ∉ lineageFields)]
    simp [hfields]
  rw [localLineage, ownSubject_declare, hsubject]
  simp only [hclass "subject_delta_class" (by simp), hclass "delta_class" (by simp)]
  rfl

/-- `json.dumps` takes what is not nested deep. -/
def DumpsFlat (py : PyRuntime) : Prop :=
  ∀ value : Value, value.nested 3 = true → ∃ text, py.dumps value = .ok text

theorem nested_ofText (depth : ℕ) (text : Option String) : (ofText text).nested depth = true := by
  cases text with
  | none => cases depth <;> rfl
  | some text => cases depth <;> rfl

/-- A binding with an inert lineage has a digest. -/
theorem exists_computedDigest (binding : EvidenceBinding) (hdumps : DumpsFlat py)
    (hexit : binding.exitCode.nested 2 = true)
    (hstatus : binding.lineageProof.status.nested 1 = true)
    (hpaths : ∀ paths ∈ binding.lineageProof.deltaPaths, paths = [])
    (hclass : binding.lineageProof.deltaClass.nested 1 = true) :
    ∃ digest, binding.computedDigest py = .ok digest := by
  have hnested : ∀ deltaPaths : Value, deltaPaths.nested 1 = true →
      (binding.bodyWith deltaPaths).nested 3 = true := by
    intro deltaPaths hdelta
    simp [EvidenceBinding.bodyWith, Value.nested, nested_ofText, hexit, hstatus, hdelta, hclass]
  have hbody : ∃ deltaPaths : Value, binding.body = .ok (binding.bodyWith deltaPaths) ∧
      deltaPaths.nested 1 = true := by
    rw [EvidenceBinding.body]
    cases hdelta : binding.lineageProof.deltaPaths with
    | none => exact ⟨.null, rfl, rfl⟩
    | some paths =>
      rw [hpaths paths hdelta]
      exact ⟨.list [], rfl, rfl⟩
  obtain ⟨deltaPaths, hbody, hdelta⟩ := hbody
  obtain ⟨text, htext⟩ := hdumps _ (hnested deltaPaths hdelta)
  refine ⟨py.sha256 text, ?_⟩
  rw [EvidenceBinding.computedDigest, hbody]
  simp [bind, Except.bind, htext, pure, Except.pure]

theorem nested_exitCode : (localBinding py call data proof).exitCode.nested 2 = true := by
  rw [localBinding]
  cases data.get "exit_code" <;> rfl

/-- A receipt that declares an inert lineage is bound, and admitted or not by its lineage. -/
theorem exists_bound (hdumps : DumpsFlat py) (hsubject : ownSubject data = some subject)
    (status paths : Value) (proof : LineageProof)
    (hproof : lineage py call.allowlist status paths .null = .ok proof)
    (hstatus : proof.status.nested 1 = true)
    (hpaths : ∀ paths ∈ proof.deltaPaths, paths = [])
    (hclass : proof.deltaClass.nested 1 = true) : ∃ digest,
      (localBinding py call (declare status paths data) proof).computedDigest py = .ok digest ∧
      admission py call (declare status paths data) =
        EvidenceBinding.admit py ((localBinding py call
          (declare status paths data) proof).withDigest digest)
          call.crownSha call.rootRepository call.allowlist call.content := by
  obtain ⟨digest, hdigest⟩ := exists_computedDigest
    (localBinding py call (declare status paths data) proof) hdumps nested_exitCode hstatus hpaths
    hclass
  refine ⟨digest, hdigest, ?_⟩
  have hlocal := (localLineage_declare hsubject call.allowlist status paths).trans hproof
  simp [admission, bindLocal, hlocal, EvidenceBinding.sealed, hdigest, bind, Except.bind, pure,
    Except.pure]

variable {allowlist : Allowlist}

theorem checkLineage_identical (hsplit : binding.evaluatedSubjectSha ≠ binding.evidenceContainerSha)
    (hproof : binding.lineageProof = ⟨.str "identical", some [], .str "EMPTY"⟩) :
    checkLineage py binding allowlist = .ok none := by
  have hbad : isAmong (.str "identical") lineageBad = false := by decide
  have hok : isAmong (.str "identical") lineageOk = true := by decide
  simp only [checkLineage, hproof, if_neg hsplit, hbad, hok]
  rfl

theorem checkLineage_behind {paths : Option (List Value)}
    (hsplit : binding.evaluatedSubjectSha ≠ binding.evidenceContainerSha)
    (hproof : binding.lineageProof = ⟨.str "behind", paths, .str "EMPTY"⟩) :
    ∃ detail, checkLineage py binding allowlist =
      .ok (some (.refused "EVIDENCE_SUBJECT_SPLIT" detail none)) := by
  have hbad : isAmong (.str "behind") lineageBad = true := by decide
  simp only [checkLineage, hproof, if_neg hsplit, hbad]
  exact ⟨_, rfl⟩

theorem exists_checkLineage (py : PyRuntime) (binding : EvidenceBinding) (allowlist : Allowlist)
    (hproof : binding.lineageProof = ⟨.null, none, .null⟩) :
    ∃ outcome, checkLineage py binding allowlist = .ok outcome := by
  have hbad : isAmong .null lineageBad = false := by decide
  have hok : isAmong .null lineageOk = false := by decide
  by_cases hsplit : binding.evaluatedSubjectSha = binding.evidenceContainerSha
  · simp only [checkLineage, if_pos hsplit]
    exact ⟨_, rfl⟩
  · simp only [checkLineage, hproof, if_neg hsplit, hbad, hok]
    exact ⟨_, rfl⟩

/-- A receipt that says "identical" of an empty delta is admitted wherever it is exposed. -/
theorem admission_identical (hdumps : DumpsFlat py) (hexposed : Exposed py call data) :
    admission py call (declare (.str "identical") (.list []) data) = .ok none := by
  obtain ⟨subject, hsubject, heligible, hplaced⟩ := hexposed
  have hsubject' := (ownSubject_declare (.str "identical") (.list [])).trans hsubject
  obtain ⟨digest, hdigest, hadmission⟩ := exists_bound hdumps hsubject (.str "identical")
    (.list []) ⟨.str "identical", some [], .str "EMPTY"⟩ rfl rfl (by simp) rfl
  rw [hadmission, admit_local hsubject' hdigest heligible hplaced]
  by_cases hkind : call.kind = "IN_TREE_DERIVED"
  · rw [if_pos hkind]
  · rw [if_neg hkind]
    refine checkLineage_identical ?_ rfl
    have hcrown : subject ≠ call.crownSha := fun h => hkind (hplaced.mpr h)
    simp [EvidenceBinding.withDigest, localBinding, hsubject', hcrown]

/-- A receipt that says "behind" is refused there, unless it is derived in the tree. -/
theorem admission_behind (hdumps : DumpsFlat py) (hexposed : Exposed py call data)
    (hkind : call.kind ≠ "IN_TREE_DERIVED") :
    ∃ detail, admission py call (declare (.str "behind") (.list []) data) =
      .ok (some (.refused "EVIDENCE_SUBJECT_SPLIT" detail none)) := by
  obtain ⟨subject, hsubject, heligible, hplaced⟩ := hexposed
  have hsubject' := (ownSubject_declare (.str "behind") (.list [])).trans hsubject
  have hcrown : subject ≠ call.crownSha := fun h => hkind (hplaced.mpr h)
  obtain ⟨digest, hdigest, hadmission⟩ := exists_bound hdumps hsubject (.str "behind")
    (.list []) ⟨.str "behind", some [], .str "EMPTY"⟩ rfl rfl (by simp) rfl
  rw [hadmission, admit_local hsubject' hdigest heligible hplaced, if_neg hkind]
  refine checkLineage_behind ?_ rfl
  simp [EvidenceBinding.withDigest, localBinding, hsubject', hcrown]

/-- A receipt that declares no lineage gets an answer. -/
theorem exists_admission (hdumps : DumpsFlat py) (hsubject : ownSubject data = some subject) :
    ∃ outcome, admission py call (declare .null .null data) = .ok outcome := by
  obtain ⟨digest, hdigest, hadmission⟩ := exists_bound hdumps hsubject .null .null
    ⟨.null, none, .null⟩ rfl rfl (by simp) rfl
  obtain ⟨checked, hchecked⟩ := exists_checkBinding
    ((localBinding py call (declare .null .null data) ⟨.null, none, .null⟩).withDigest digest)
    call.content hdigest
  obtain ⟨outcome, hlineage⟩ := exists_checkLineage py
    ((localBinding py call (declare .null .null data) ⟨.null, none, .null⟩).withDigest digest)
    call.allowlist rfl
  rw [hadmission, EvidenceBinding.admit, hchecked]
  cases checked with
  | some refusal => exact ⟨_, rfl⟩
  | none =>
    by_cases hkind : call.kind = "IN_TREE_DERIVED"
    · exact ⟨_, if_pos hkind⟩
    · refine Exists.imp (fun _ h => (if_neg hkind).trans h) ?_
      cases checkSubject py ((localBinding py call (declare .null .null data)
        ⟨.null, none, .null⟩).withDigest digest) call.crownSha call.rootRepository with
      | some refusal => exact ⟨_, rfl⟩
      | none => exact ⟨outcome, hlineage⟩

/-- A receipt whose changed paths are no list raises. -/
theorem admission_int (hsubject : ownSubject data = some subject) (status : Value) :
    admission py call (declare status (.int 0) data) = .error .typeError := by
  rw [admission, bindLocal, localLineage_declare hsubject]
  rfl

/-- What a receipt declares of its own lineage decides nothing exactly where it names no subject of
its own; it does not decide the admission exactly where the receipt is not exposed. -/
theorem lineage_matters_iff (hdumps : DumpsFlat py) (call : LocalCall) (data : Dict) :
    ((∀ data', SameBut lineageFields data data' →
      admission py call data' = admission py call data) ↔
      ownSubject data = none) ∧
    ((∀ data', SameBut lineageFields data data' →
      (admission py call data' = .ok none ↔ admission py call data = .ok none)) ↔
      ¬ Exposed py call data) := by
  constructor
  · constructor
    · intro hsame
      cases hsubject : ownSubject data with
      | none => rfl
      | some subject =>
        have hadmission : ∃ outcome,
            admission py call (declare .null .null data) = .ok outcome :=
          exists_admission hdumps hsubject
        obtain ⟨outcome, houtcome⟩ := hadmission
        have hnull := hsame _ (sameBut_declare .null .null data)
        have hint := hsame _ (sameBut_declare .null (.int 0) data)
        rw [admission_int hsubject, ← hnull, houtcome] at hint
        cases hint
    · intro hsubject data' hdata'
      exact hdata'.admission hsubject
  · constructor
    · intro hsame hexposed
      have hidentical := (hsame _ (sameBut_declare (.str "identical") (.list []) data)).mp
        (admission_identical hdumps hexposed)
      obtain ⟨subject, hsubject, -⟩ := hexposed
      have hint := (hsame _ (sameBut_declare .null (.int 0) data)).mpr hidentical
      rw [admission_int hsubject] at hint
      cases hint
    · intro hexposed data' hdata'
      cases hsubject : ownSubject data with
      | none => rw [hdata'.admission hsubject]
      | some subject =>
        constructor
        · intro h
          have hexposed' := exposed_of_admission (hdata'.ownSubject.trans hsubject) h
          exact absurd (hdata'.exposed.mp hexposed') hexposed
        · intro h
          exact absurd (exposed_of_admission hsubject h) hexposed

/-! ## A receipt of another commit -/

/-- A receipt of the gates, committed in the tree. -/
def sampleCall : LocalCall where
  requirement := ⟨"R-GATES", "AC", "R", "chatman/ecosystem", "every gate passed", "ARTIFACT",
    "local:release/v26.9.25/receipts/gates.json", [], [], true⟩
  crownSha := "00000000000000000000000000000000000000aa"
  containerRepository := some "chatman/ecosystem"
  path := "release/v26.9.25/receipts/gates.json"
  evidenceBytes := []
  standing := some "ALIVE"
  allowlist := ⟨["release/*/receipts/**.json"], ["src"], [".py"]⟩
  kind := "LOCAL_RECEIPT"
  rootRepository := some "chatman/ecosystem"
  content := none

/-- A receipt that names another commit. -/
def sampleReceipt : Dict := [("subject_sha", .str "00000000000000000000000000000000000000bb")]

theorem dumpsFlat_sample : DumpsFlat samplePyRuntime := fun value _ => ⟨compact value, rfl⟩

theorem exposed_sample : Exposed samplePyRuntime sampleCall sampleReceipt := by
  refine ⟨"00000000000000000000000000000000000000bb", rfl,
    ⟨by decide, by decide +kernel, by decide +kernel, by decide +kernel, ?_⟩,
    iff_of_false (by decide) (by decide)⟩
  intro content hcontent
  cases hcontent

/-- The same receipt, with what it says of itself exchanged. -/
theorem lineage_matters_sample : ¬ ((∀ data', SameBut lineageFields sampleReceipt data' →
    (admission samplePyRuntime sampleCall data' = .ok none ↔
      admission samplePyRuntime sampleCall sampleReceipt = .ok none))) :=
  fun h => (lineage_matters_iff dumpsFlat_sample sampleCall sampleReceipt).2.mp h exposed_sample

/-- One receipt, "identical" to the crown by its own word or "behind" it. -/
theorem receipt_vouches_for_itself :
    SameBut ["subject_compare", "subject_delta_paths", "delta_class"]
        (declare (.str "identical") (.list []) sampleReceipt)
        (declare (.str "behind") (.list []) sampleReceipt) ∧
      admission samplePyRuntime sampleCall (declare (.str "identical") (.list []) sampleReceipt) =
        .ok none ∧
      admission samplePyRuntime sampleCall (declare (.str "behind") (.list []) sampleReceipt) ≠
        .ok none := by
  refine ⟨?_, admission_identical dumpsFlat_sample exposed_sample, ?_⟩
  · intro key hkey
    have hcompare : key ≠ "subject_compare" := fun h => hkey (by rw [h]; simp)
    simp only [declare, List.lookup_cons, beq_false_of_ne hcompare]
  · obtain ⟨detail, hbehind⟩ := admission_behind dumpsFlat_sample exposed_sample (by decide)
    rw [hbehind]
    exact fun h => nomatch h

end ChatmanEcosystem.RootCrown
