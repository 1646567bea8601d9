import ChatmanEcosystem.Dfcm.Manifest
import ChatmanEcosystem.Py.Text

/-!
# Admission and closure of an execution

Model of `verify_capsule`, `verify_admission`, `admit_grant`, `replay_evidence` and
`close_execution` (`scripts/dfcm_autonomic_finish.py`, lines 559–681 and 771–916).

Results:

* `bound_of_admitGrant`: an admission that is granted for a capsule is bound to an intent of it.
* `closed_of_granted`: what is closed under a grant stays inside the capsule and the window.
* `exists_closure`: what passes the checks is closed, and its chain of events replays.
* `inside_iff`: a closure stays inside its capsule exactly when the admission is bound to an intent
  that the capsule selects.
-/

namespace ChatmanEcosystem.Dfcm

open Py Rust

/-! ## Checks -/

/-- `_parse_rfc3339` (lines 559–571): an instant. -/
def parseRfc3339 (py : PyRuntime) (value : Value) (field : String) : Outcome ℤ := do
  let text ← okOr ((value.text?.map fun text => strip text.toList).filter (· ≠ []))
    (refused "DO_TIME_INVALID" field)
  let text :=
    if text.getLast? = some 'Z' then text.dropLast ++ "+00:00".toList
    else text
  match py.isoTime (String.ofList text) with
  | .invalid => .error (refused "DO_TIME_INVALID" field)
  | .naive => .error (refused "DO_TIMEZONE_REQUIRED" field)
  | .outOfRange => .error (.error .overflowError)
  | .instant time => .ok time

/-- `operationalization.selected_intents` of a capsule (lines 575–577). -/
def selectedIntents (capsule : Dict) : Outcome (List Value) := do
  let operational ← okOr (capsule.getD "operationalization" (.dict [])).dict?
    (.error .attributeError)
  okOr (operational.getD "selected_intents" (.list [])).items?
    (refused "CAPSULE_INTENTS_INVALID" "selected_intents")

/-- An intent that carries a digest (line 579). -/
def carries (intentDigest : String) (intent : Value) : Option Dict :=
  intent.dict?.filter fun intent => (intent.get "intent_digest").eq (.str intentDigest)

/-- `_intent_by_digest` (lines 574–581). -/
def intentByDigest (capsule : Dict) (intentDigest : String) : Outcome Dict := do
  let intents ← selectedIntents capsule
  okOr (intents.findSome? (carries intentDigest)) (refused "DO_INTENT_NOT_SELECTED" intentDigest)

/-- `_verify_self_digest` (lines 584–590). -/
def verifySelfDigest (py : PyRuntime) (value : Dict) (field code : String) : Outcome Unit := do
  let expected ← okOr (value.get field).text? (refused code ("missing:" ++ field))
  let actual ← digest py (.dict (value.filter (·.1 ≠ field)))
  ensure (expected = actual) (refused code "digest-mismatch")

/-- `verify_capsule` (lines 593–602). -/
def verifyCapsule (py : PyRuntime) (capsule : Dict) : Outcome Unit := do
  ensure ((capsule.get "schema").eq (.str "urn:chatman:dfcm:execution-capsule:v1"))
    (refused "CAPSULE_SCHEMA_INVALID" (py.str (capsule.get "schema")))
  verifySelfDigest py capsule "capsule_digest" "CAPSULE_TAMPERED"
  ensure ((capsule.get "operationalization").dict?.any fun operational =>
      (operational.get "consequential_do_performed").isBool false)
    (refused "CAPSULE_AMBIENT_DO" "operationalization")
  ensure ((capsule.get "fence").dict?.any fun fence =>
      (fence.get "exclusive_do_path").eq (.str "BRCE"))
    (refused "CAPSULE_BRCE_FENCE_INVALID" "exclusive_do_path")

/-- `verify_admission` (lines 605–612). -/
def verifyAdmission (py : PyRuntime) (admission : Dict) : Outcome Unit := do
  ensure ((admission.get "schema").eq (.str "urn:chatman:brce:admission:v1"))
    (refused "ADMISSION_SCHEMA_INVALID" (py.str (admission.get "schema")))
  verifySelfDigest py admission "admission_digest" "ADMISSION_TAMPERED"
  ensure ((admission.get "admitted").isBool true)
    (refused "EXECUTION_WITHOUT_ADMISSION" "admitted=false")
  ensure ((admission.get "consequential_do_performed").isBool false)
    (refused "ADMISSION_AMBIENT_DO" "controller-do=true")

/-- The keys that a document lacks, which it is refused for. -/
def requireKeys (required : List String) (document : Dict) (code : String) : Outcome Unit :=
  let missing := sorted (required.filter fun key => document.lookup key |>.isNone)
  ensure (missing = []) (refused code (",".intercalate missing))

/-- A text that is not blank. -/
def notBlank (value : Value) : Bool := value.text?.any fun text => strip text.toList ≠ []

/-! ## Admission -/

/-- The grant is for the subject of the intent (lines 643–644). -/
def requireSubject (py : PyRuntime) (grant : Dict) (subject sha : Value) : Outcome Unit :=
  if (grant.get "subject_sha").eq sha then .ok ()
  else do
    let component ← (subject.item "component").mapError .error
    .error (refused "DO_SUBJECT_DRIFT" (py.str component))

/-- `admit_grant` (lines 615–681). -/
def admitGrant (py : PyRuntime) (capsule : Dict) (grant : Option Dict) (now : String) :
    Outcome Dict := do
  verifyCapsule py capsule
  let grant ← okOr grant (refused "DO_AUTHORITY_MISSING" "grant")
  requireKeys ["authority_id", "actor", "capsule_digest", "subject_sha", "intent_digest", "scope",
    "issued_at", "not_before", "expires_at"] grant "DO_GRANT_MALFORMED"
  ensure ((grant.get "capsule_digest").eq (capsule.get "capsule_digest"))
    (refused "DO_CAPSULE_DRIFT" (py.str (grant.get "capsule_digest")))
  let intent ← intentByDigest capsule (py.str (grant.get "intent_digest"))
  let subject ← ((Value.dict intent).item "subject").mapError .error
  let sha ← (subject.item "sha").mapError .error
  requireSubject py grant subject sha
  ensure ((grant.get "scope").eq (.str "BRCE:VERIFY_REPAIR_ONLY"))
    (refused "DO_SCOPE_UNSUPPORTED" (py.str (grant.get "scope")))
  ensure (notBlank (grant.get "authority_id"))
    (refused "DO_AUTHORITY_ID_INVALID" (py.str (grant.get "authority_id")))
  ensure (notBlank (grant.get "actor")) (refused "DO_ACTOR_INVALID" (py.str (grant.get "actor")))
  let current ← parseRfc3339 py (.str now) "now"
  let issued ← parseRfc3339 py (grant.get "issued_at") "issued_at"
  let notBefore ← parseRfc3339 py (grant.get "not_before") "not_before"
  let expires ← parseRfc3339 py (grant.get "expires_at") "expires_at"
  ensure (issued ≤ notBefore) (refused "DO_GRANT_WINDOW_INVALID" "issued_at>not_before")
  ensure (notBefore < expires) (refused "DO_GRANT_WINDOW_INVALID" "not_before>=expires_at")
  ensure (notBefore ≤ current)
    (refused "DO_GRANT_NOT_YET_VALID" (py.str (grant.get "not_before")))
  ensure (current < expires) (refused "DO_GRANT_EXPIRED" (py.str (grant.get "expires_at")))
  let action ← ((Value.dict intent).item "action").mapError .error
  let admission : Dict := [("schema", .str "urn:chatman:brce:admission:v1"),
    ("admitted", .bool true), ("authority_id", grant.get "authority_id"),
    ("actor", grant.get "actor"), ("scope", grant.get "scope"),
    ("issued_at", grant.get "issued_at"), ("not_before", grant.get "not_before"),
    ("expires_at", grant.get "expires_at"), ("capsule_digest", grant.get "capsule_digest"),
    ("subject_sha", grant.get "subject_sha"), ("intent_digest", grant.get "intent_digest"),
    ("action", action), ("consequential_do_performed", .bool false)]
  let admissionDigest ← digest py (.dict admission)
  return admission ++ [("admission_digest", .str admissionDigest)]

/-! ## Evidence -/

/-- The part of an event that its digest is about. -/
def eventBody (schema previous kind payload : Value) : Dict :=
  [("schema", schema), ("previous", previous), ("kind", kind), ("payload", payload)]

/-- `evidence_event` (lines 771–779). -/
def evidenceEvent (py : PyRuntime) (kind : String) (payload : Dict) (previous : Value) :
    Outcome Dict := do
  let body := eventBody (.str "urn:chatman:dfcm:evidence-event:v1") previous (.str kind)
    (.dict payload)
  let eventDigest ← digest py (.dict body)
  return body ++ [("event_digest", .str eventDigest)]

/-- The loop of `replay_evidence` (lines 785–800). -/
def replayFrom (py : PyRuntime) (previous : Value) (count : ℕ) : List Value → Outcome (Value × ℕ)
  | [] => .ok (previous, count)
  | event :: events => do
    let event ← okOr event.dict? (refused "EVIDENCE_EVENT_INVALID" (toString count))
    let body := eventBody (event.get "schema") (event.get "previous") (event.get "kind")
      (event.get "payload")
    ensure ((event.get "previous").eq previous) (refused "EVIDENCE_CHAIN_BROKEN" (toString count))
    let actual ← digest py (.dict body)
    ensure ((event.get "event_digest").eq (.str actual))
      (refused "EVIDENCE_TAMPERED" (toString count))
    replayFrom py (event.get "event_digest") (count + 1) events

/-- `replay_evidence` (lines 782–801). -/
def replayEvidence (py : PyRuntime) (events : List Value) : Outcome String := do
  let (previous, count) ← replayFrom py .null 0 events
  let last := if previous.truthy then py.str previous else "EMPTY"
  return "ALIVE:REPLAY:" ++ toString count ++ ":" ++ last

/-! ## Closure -/

/-- A list of texts of the evidence (lines 850–853). -/
def evidenceList (evidence : Dict) (field : String) : Outcome (List String) :=
  okOr (evidence.get field).texts? (refused "EXECUTION_EVIDENCE_FIELD_INVALID" field)

/-- The closure before its digest (lines 901–914). -/
def closureBody (admission evidence : Dict) (events : List Value) (replayed : String) : Dict :=
  [("schema", .str "urn:chatman:dfcm:execution-closure:v1"), ("standing", .str "PARTIAL_ALIVE"),
    ("promotion_eligible", .bool true), ("alive_asserted", .bool false),
    ("subject_sha", evidence.get "subject_sha"), ("intent_digest", evidence.get "intent_digest"),
    ("authority_id", admission.get "authority_id"),
    ("verifier_receipt", evidence.get "verifier_receipt"), ("events", .list events),
    ("replay", .str replayed), ("next_transition", .str "OWNING_MANIFEST_STANDING_ADMISSION"),
    ("consequential_do_performed_by_controller", .bool false)]

/-- `close_execution` (lines 804–916). -/
def closeExecution (py : PyRuntime) (capsule admission evidence : Dict) : Outcome Dict := do
  verifyCapsule py capsule
  verifyAdmission py admission
  ensure ((admission.get "capsule_digest").eq (capsule.get "capsule_digest"))
    (refused "EXECUTION_CAPSULE_DRIFT" (py.str (admission.get "capsule_digest")))
  requireKeys ["subject_sha", "intent_digest", "exit_code", "postcondition_verified", "verifier",
    "verifier_receipt", "observed_at", "changed", "verified", "replay"] evidence
    "EXECUTION_EVIDENCE_MALFORMED"
  ensure ((evidence.get "subject_sha").eq (admission.get "subject_sha"))
    (refused "EXECUTION_SUBJECT_DRIFT" (py.str (evidence.get "subject_sha")))
  ensure ((evidence.get "intent_digest").eq (admission.get "intent_digest"))
    (refused "EXECUTION_INTENT_DRIFT" (py.str (evidence.get "intent_digest")))
  let exitCode ← okOr (evidence.get "exit_code").int?
    (refused "EXECUTION_EXIT_CODE_INVALID" (py.repr (evidence.get "exit_code")))
  ensure (exitCode = 0) (refused "EXECUTION_FAILED" (py.str (evidence.get "exit_code")))
  ensure ((evidence.get "postcondition_verified").isBool true)
    (refused "POSTCONDITION_NOT_VERIFIED" "false")
  ["verifier", "verifier_receipt", "observed_at"].forM fun field =>
    ensure (notBlank (evidence.get field)) (refused "EXECUTION_EVIDENCE_FIELD_INVALID" field)
  let observedAt ← parseRfc3339 py (evidence.get "observed_at") "observed_at"
  let notBefore ← parseRfc3339 py (admission.get "not_before") "not_before"
  let expiresAt ← parseRfc3339 py (admission.get "expires_at") "expires_at"
  ensure (notBefore ≤ observedAt)
    (refused "EXECUTION_BEFORE_AUTHORITY_WINDOW" (py.str (evidence.get "observed_at")))
  ensure (observedAt < expiresAt)
    (refused "EXECUTION_AFTER_AUTHORITY_EXPIRY" (py.str (evidence.get "observed_at")))
  let _ ← evidenceList evidence "changed"
  let verified ← evidenceList evidence "verified"
  let replay ← evidenceList evidence "replay"
  ensure (verified ≠ []) (refused "EXECUTION_VERIFICATION_EMPTY" "verified")
  ensure (replay ≠ []) (refused "EXECUTION_REPLAY_EMPTY" "replay")
  let first ← evidenceEvent py "ADMISSION"
    (["admission_digest", "authority_id", "actor", "scope", "subject_sha", "intent_digest"].map
      fun key => (key, admission.get key)) .null
  let second ← evidenceEvent py "ACTUATION_OBSERVED"
    (["subject_sha", "intent_digest", "exit_code", "changed", "observed_at"].map
      fun key => (key, evidence.get key)) (first.get "event_digest")
  let third ← evidenceEvent py "POSTCONDITION_VERIFIED"
    (["verifier", "verifier_receipt", "verified"].map (fun key => (key, evidence.get key)) ++
      [("postcondition_verified", .bool true)]) (second.get "event_digest")
  let fourth ← evidenceEvent py "REPLAY_BOUND"
    [("replay", evidence.get "replay"), ("reactuation_allowed", .bool false)]
    (third.get "event_digest")
  let events : List Value := [.dict first, .dict second, .dict third, .dict fourth]
  let replayed ← replayEvidence py events
  let result := closureBody admission evidence events replayed
  let closureDigest ← digest py (.dict result)
  return result ++ [("closure_digest", .str closureDigest)]

/-! ## Links between the documents -/

/-- `intent["subject"]["sha"]`. -/
def subjectSha (intent : Dict) : Except PyError Value := do
  let subject ← (Value.dict intent).item "subject"
  subject.item "sha"

/-- A document that is about an intent, at the subject of the intent. -/
def BoundTo (intent document : Dict) : Prop :=
  (document.get "intent_digest").eq (intent.get "intent_digest") = true ∧
    ∃ sha, subjectSha intent = .ok sha ∧ (document.get "subject_sha").eq sha = true

/-- The admission is about an intent that the capsule selects. -/
def Selected (capsule admission : Dict) : Prop :=
  ∃ intents intent, selectedIntents capsule = .ok intents ∧ .dict intent ∈ intents ∧
    BoundTo intent admission

/-- The admission, the evidence and the closure are about one intent that the capsule selects. -/
def Inside (capsule admission evidence closure : Dict) : Prop :=
  ∃ intents intent, selectedIntents capsule = .ok intents ∧ .dict intent ∈ intents ∧
    ∀ document ∈ [admission, evidence, closure], BoundTo intent document

variable {py : PyRuntime} {capsule admission evidence closure grant : Dict}

/-- What a closure takes over, and what it has been checked against. -/
structure Closed (capsule admission evidence closure : Dict) : Prop where
  capsuleDigest : (admission.get "capsule_digest").eq (capsule.get "capsule_digest") = true
  subjectSha : (evidence.get "subject_sha").eq (admission.get "subject_sha") = true
  intentDigest : (evidence.get "intent_digest").eq (admission.get "intent_digest") = true
  closureSha : closure.get "subject_sha" = evidence.get "subject_sha"
  closureDigest : closure.get "intent_digest" = evidence.get "intent_digest"

theorem closed_of_closeExecution (h : closeExecution py capsule admission evidence = .ok closure) :
    Closed capsule admission evidence closure := by
  simp only [closeExecution, bind_eq_ok, ensure_eq_ok, pure_eq_ok] at h
  obtain ⟨_, -, _, -, _, hcapsule, _, -, _, hsha, _, hdigest, _, -, _, -, _, -, _, -, _, -, _, -, _,
    -, _, -, _, -, _, -, _, -, _, -, _, -, _, -, _, -, _, -, _, -, _, -, _, -, _, -, rfl⟩ := h
  exact ⟨hcapsule, hsha, hdigest, rfl, rfl⟩

variable {intent document : Dict}

/-- What is bound to an intent carries over along equal fields. -/
theorem BoundTo.of_eq {other : Dict} (h : BoundTo intent document)
    (hdigest : (other.get "intent_digest").eq (document.get "intent_digest") = true)
    (hsha : (other.get "subject_sha").eq (document.get "subject_sha") = true) :
    BoundTo intent other := by
  obtain ⟨hintent, sha, hsubject, heq⟩ := h
  exact ⟨Value.eq_trans hdigest hintent, sha, hsubject, Value.eq_trans hsha heq⟩

theorem Inside.selected (h : Inside capsule admission evidence closure) :
    Selected capsule admission := by
  obtain ⟨intents, intent, hintents, hmem, hbound⟩ := h
  exact ⟨intents, intent, hintents, hmem, hbound admission List.mem_cons_self⟩

/-- A closure stays inside its capsule exactly when the admission is bound to an intent that the
capsule selects. -/
theorem inside_iff (h : closeExecution py capsule admission evidence = .ok closure) :
    Inside capsule admission evidence closure ↔ Selected capsule admission := by
  have hclosed := closed_of_closeExecution h
  constructor
  · exact Inside.selected
  · intro ⟨intents, intent, hintents, hmem, hadmission⟩
    have hevidence : BoundTo intent evidence :=
      hadmission.of_eq hclosed.intentDigest hclosed.subjectSha
    have hclosure : BoundTo intent closure := by
      rw [BoundTo, hclosed.closureDigest, hclosed.closureSha]
      exact hevidence
    refine ⟨intents, intent, hintents, hmem, ?_⟩
    simp only [List.mem_cons, List.not_mem_nil, or_false, forall_eq_or_imp, forall_eq]
    exact ⟨hadmission, hevidence, hclosure⟩

/-! ## What is closed -/

/-- What is asked of the three documents. -/
structure Closable (py : PyRuntime) (capsule admission evidence : Dict) : Prop where
  verifiesCapsule : verifyCapsule py capsule = .ok ()
  verifiesAdmission : verifyAdmission py admission = .ok ()
  capsuleDigest : (admission.get "capsule_digest").eq (capsule.get "capsule_digest") = true
  keys : requireKeys ["subject_sha", "intent_digest", "exit_code", "postcondition_verified",
    "verifier", "verifier_receipt", "observed_at", "changed", "verified", "replay"] evidence
    "EXECUTION_EVIDENCE_MALFORMED" = .ok ()
  subjectSha : (evidence.get "subject_sha").eq (admission.get "subject_sha") = true
  intentDigest : (evidence.get "intent_digest").eq (admission.get "intent_digest") = true
  exitCode : (evidence.get "exit_code").int? = some 0
  postcondition : (evidence.get "postcondition_verified").isBool true = true
  named : ∀ field ∈ ["verifier", "verifier_receipt", "observed_at"],
    notBlank (evidence.get field) = true
  window : ∃ observedAt notBefore expiresAt,
    parseRfc3339 py (evidence.get "observed_at") "observed_at" = .ok observedAt ∧
      parseRfc3339 py (admission.get "not_before") "not_before" = .ok notBefore ∧
      parseRfc3339 py (admission.get "expires_at") "expires_at" = .ok expiresAt ∧
      notBefore ≤ observedAt ∧ observedAt < expiresAt
  lists : ∃ changed verified replay, (evidence.get "changed").texts? = some changed ∧
    (evidence.get "verified").texts? = some verified ∧
      (evidence.get "replay").texts? = some replay ∧ verified ≠ [] ∧ replay ≠ []

/-- A document that is sealed with its digest verifies. -/
theorem verifySelfDigest_sealed {field code actual : String}
    (hfresh : ∀ item ∈ document, item.1 ≠ field)
    (hactual : digest py (.dict document) = .ok actual) :
    verifySelfDigest py (document ++ [(field, .str actual)]) field code = .ok () := by
  have hnone : document.lookup field = none :=
    List.lookup_eq_none_iff.mpr fun item hitem => bne_iff_ne.mpr (hfresh item hitem).symm
  have hget : (document ++ [(field, Value.str actual)]).lookup field = some (.str actual) := by
    rw [List.lookup_append, hnone, Option.none_or, List.lookup_cons_self]
  have hkept : (document ++ [(field, Value.str actual)]).filter (·.1 ≠ field) = document := by
    rw [List.filter_append, List.filter_eq_self.mpr (by simpa using hfresh)]
    simp
  simp only [verifySelfDigest, Dict.get, Dict.getD, hget, hkept, hactual, bind_eq_ok, okOr_eq_ok,
    ensure_eq_ok]
  exact ⟨actual, rfl, actual, rfl, rfl⟩

/-- An event replays after what it was made after. -/
theorem replayFrom_evidenceEvent {kind : String} {payload event : Dict} {previous : Value}
    {count : ℕ} {events : List Value} (h : evidenceEvent py kind payload previous = .ok event)
    (hprevious : previous.eq previous = true) :
    replayFrom py previous count (.dict event :: events) =
      replayFrom py (event.get "event_digest") (count + 1) events := by
  simp only [evidenceEvent, bind_eq_ok, pure_eq_ok] at h
  obtain ⟨eventDigest, hdigest, rfl⟩ := h
  have hself : (Value.str eventDigest).eq (.str eventDigest) = true := Value.eq_str.mpr rfl
  show (do
      ensure (previous.eq previous = true) (refused "EVIDENCE_CHAIN_BROKEN" (toString count))
      let actual ← digest py (.dict (eventBody (.str "urn:chatman:dfcm:evidence-event:v1") previous
        (.str kind) (.dict payload)))
      ensure ((Value.str eventDigest).eq (.str actual) = true)
        (refused "EVIDENCE_TAMPERED" (toString count))
      replayFrom py (.str eventDigest) (count + 1) events) = _
  rw [hdigest, ensure, if_pos hprevious]
  show (do
      ensure ((Value.str eventDigest).eq (.str eventDigest) = true)
        (refused "EVIDENCE_TAMPERED" (toString count))
      replayFrom py (.str eventDigest) (count + 1) events) = _
  rw [ensure, if_pos hself]
  rfl

theorem exists_digest (hdumps : ∀ value, ∃ text, py.dumps value = .ok text) (value : Value) :
    ∃ text, digest py value = .ok text := by
  obtain ⟨text, htext⟩ := hdumps value
  rw [digest, htext]
  exact ⟨py.sha256 text, rfl⟩

theorem exists_evidenceEvent (hdumps : ∀ value, ∃ text, py.dumps value = .ok text) (kind : String)
    (payload : Dict) (previous : Value) :
    ∃ event eventDigest, evidenceEvent py kind payload previous = .ok event ∧
      event.get "event_digest" = .str eventDigest := by
  obtain ⟨eventDigest, hdigest⟩ := exists_digest hdumps (.dict (eventBody
    (.str "urn:chatman:dfcm:evidence-event:v1") previous (.str kind) (.dict payload)))
  refine ⟨eventBody (.str "urn:chatman:dfcm:evidence-event:v1") previous (.str kind)
    (.dict payload) ++ [("event_digest", .str eventDigest)], eventDigest, ?_, rfl⟩
  rw [evidenceEvent, hdigest]
  rfl

theorem exists_closure (hdumps : ∀ value, ∃ text, py.dumps value = .ok text)
    (h : Closable py capsule admission evidence) :
    ∃ closure, closeExecution py capsule admission evidence = .ok closure := by
  have hself : ∀ text, (Value.str text).eq (.str text) = true := fun _ => Value.eq_str.mpr rfl
  obtain ⟨observedAt, notBefore, expiresAt, hobserved, hnotBefore, hexpires, hafter, hbefore⟩ :=
    h.window
  obtain ⟨changed, verified, replay, hchanged, hverified, hreplay, hverified', hreplay'⟩ := h.lists
  obtain ⟨first, d₁, hfirst, hd₁⟩ := exists_evidenceEvent hdumps "ADMISSION"
    (["admission_digest", "authority_id", "actor", "scope", "subject_sha", "intent_digest"].map
      fun key => (key, admission.get key)) .null
  obtain ⟨second, d₂, hsecond, hd₂⟩ := exists_evidenceEvent hdumps "ACTUATION_OBSERVED"
    (["subject_sha", "intent_digest", "exit_code", "changed", "observed_at"].map
      fun key => (key, evidence.get key)) (first.get "event_digest")
  obtain ⟨third, d₃, hthird, hd₃⟩ := exists_evidenceEvent hdumps "POSTCONDITION_VERIFIED"
    (["verifier", "verifier_receipt", "verified"].map (fun key => (key, evidence.get key)) ++
      [("postcondition_verified", .bool true)]) (second.get "event_digest")
  obtain ⟨fourth, d₄, hfourth, hd₄⟩ := exists_evidenceEvent hdumps "REPLAY_BOUND"
    [("replay", evidence.get "replay"), ("reactuation_allowed", .bool false)]
    (third.get "event_digest")
  obtain ⟨replayed, hreplayed⟩ : ∃ replayed, replayEvidence py
      [.dict first, .dict second, .dict third, .dict fourth] = .ok replayed := by
    rw [replayEvidence, replayFrom_evidenceEvent hfirst (Value.eq_null.mpr rfl),
      replayFrom_evidenceEvent hsecond (hd₁ ▸ hself d₁),
      replayFrom_evidenceEvent hthird (hd₂ ▸ hself d₂),
      replayFrom_evidenceEvent hfourth (hd₃ ▸ hself d₃)]
    exact ⟨_, rfl⟩
  obtain ⟨closureDigest, hclosure⟩ := exists_digest hdumps (.dict (closureBody admission evidence
    [.dict first, .dict second, .dict third, .dict fourth] replayed))
  refine ⟨closureBody admission evidence [.dict first, .dict second, .dict third, .dict fourth]
    replayed ++ [("closure_digest", .str closureDigest)], ?_⟩
  simp only [closeExecution, bind_eq_ok, ensure_eq_ok, pure_eq_ok, forM_eq_ok, evidenceList,
    okOr_eq_ok]
  exact ⟨(), h.verifiesCapsule, (), h.verifiesAdmission, (), h.capsuleDigest, (), h.keys, (),
    h.subjectSha, (), h.intentDigest, 0, h.exitCode, (), rfl, (), h.postcondition, (), h.named,
    observedAt, hobserved, notBefore, hnotBefore, expiresAt, hexpires, (), hafter, (), hbefore,
    changed, hchanged, verified, hverified, replay, hreplay, (), hverified', (), hreplay',
    first, hfirst, second, hsecond, third, hthird, fourth, hfourth, replayed, hreplayed,
    closureDigest, hclosure, rfl⟩

/-- A document with its own digest. -/
def sealed (document : Dict) (field : String) : Dict :=
  document ++ [(field, .str (samplePyRuntime.sha256 (compact (.dict document))))]

/-- The intent of a component. -/
def sampleIntent (component sha : String) : Dict :=
  sealed [("subject", .dict [("component", .str component), ("sha", .str sha)]),
    ("action", .str "DIAGNOSE_REPAIR_VERIFY")] "intent_digest"

/-- A capsule that selects one intent. -/
def sampleCapsule (intent : Dict) : Dict :=
  sealed [("schema", .str "urn:chatman:dfcm:execution-capsule:v1"),
    ("operationalization", .dict [("selected_intents", .list [.dict intent]),
      ("consequential_do_performed", .bool false)]),
    ("fence", .dict [("exclusive_do_path", .str "BRCE")])] "capsule_digest"

/-- An admission for a capsule of an intent at a subject. -/
def sampleAdmission (capsule intent : Dict) (sha : String) : Dict :=
  sealed [("schema", .str "urn:chatman:brce:admission:v1"), ("admitted", .bool true),
    ("authority_id", .str "authority-1"), ("actor", .str "actor-1"),
    ("scope", .str "BRCE:VERIFY_REPAIR_ONLY"), ("issued_at", .str "10"),
    ("not_before", .str "10"), ("expires_at", .str "20"),
    ("capsule_digest", capsule.get "capsule_digest"), ("subject_sha", .str sha),
    ("intent_digest", intent.get "intent_digest"), ("action", .str "DIAGNOSE_REPAIR_VERIFY"),
    ("consequential_do_performed", .bool false)] "admission_digest"

/-- The evidence of an execution. -/
def sampleEvidence (intent : Dict) (sha : String) : Dict :=
  [("subject_sha", .str sha), ("intent_digest", intent.get "intent_digest"),
    ("exit_code", .int 0), ("postcondition_verified", .bool true), ("verifier", .str "cargo test"),
    ("verifier_receipt", .str "receipt-1"), ("observed_at", .str "15"),
    ("changed", .list []), ("verified", .list [.str "suite"]), ("replay", .list [.str "suite"])]

theorem digest_sample (document : Dict) : digest samplePyRuntime (.dict document) =
    .ok (samplePyRuntime.sha256 (compact (.dict document))) := rfl

/-- The documents about an intent are closed for any capsule. -/
theorem closable_sample (selected : Dict) (component sha : String) :
    Closable samplePyRuntime (sampleCapsule selected)
      (sampleAdmission (sampleCapsule selected) (sampleIntent component sha) sha)
      (sampleEvidence (sampleIntent component sha) sha) where
  verifiesCapsule := by
    simp only [verifyCapsule, bind_eq_ok, ensure_eq_ok]
    refine ⟨(), rfl, (), verifySelfDigest_sealed ?_ (digest_sample _), (), rfl, rfl⟩
    simp
  verifiesAdmission := by
    simp only [verifyAdmission, bind_eq_ok, ensure_eq_ok]
    refine ⟨(), rfl, (), verifySelfDigest_sealed ?_ (digest_sample _), (), rfl, rfl⟩
    simp
  capsuleDigest := Value.eq_str.mpr rfl
  keys := rfl
  subjectSha := Value.eq_str.mpr rfl
  intentDigest := Value.eq_str.mpr rfl
  exitCode := rfl
  postcondition := rfl
  named := List.forall_mem_cons.mpr
    ⟨rfl, List.forall_mem_cons.mpr ⟨rfl, List.forall_mem_singleton.mpr rfl⟩⟩
  window := ⟨15, 10, 20, rfl, rfl, rfl, by decide, by decide⟩
  lists := ⟨[], ["suite"], ["suite"], rfl, rfl, rfl, by decide, by decide⟩

theorem dumps_sample (value : Value) : ∃ text, samplePyRuntime.dumps value = .ok text :=
  ⟨compact value, rfl⟩

/-- The intents of the samples. -/
def repair : Dict := sampleIntent "console" "aa"

def otherRepair : Dict := sampleIntent "kernel" "bb"

theorem inside_iff_repair : ∃ closure,
    closeExecution samplePyRuntime (sampleCapsule repair)
      (sampleAdmission (sampleCapsule repair) repair "aa") (sampleEvidence repair "aa") =
        .ok closure ∧
      (Inside (sampleCapsule repair) (sampleAdmission (sampleCapsule repair) repair "aa")
          (sampleEvidence repair "aa") closure ↔
        Selected (sampleCapsule repair) (sampleAdmission (sampleCapsule repair) repair "aa")) := by
  obtain ⟨closure, h⟩ := exists_closure dumps_sample (closable_sample repair "console" "aa")
  exact ⟨closure, h, inside_iff h⟩

/-- The execution of an intent that the capsule does not select is closed under the capsule. -/
theorem closed_outside : ∃ closure,
    closeExecution samplePyRuntime (sampleCapsule repair)
      (sampleAdmission (sampleCapsule repair) otherRepair "bb") (sampleEvidence otherRepair "bb") =
        .ok closure ∧
      ¬ Inside (sampleCapsule repair) (sampleAdmission (sampleCapsule repair) otherRepair "bb")
        (sampleEvidence otherRepair "bb") closure := by
  obtain ⟨closure, h⟩ := exists_closure dumps_sample (closable_sample repair "kernel" "bb")
  refine ⟨closure, h, fun hinside => ?_⟩
  obtain ⟨intents, intent, hintents, hmem, -, sha, hsha, heq⟩ := hinside.selected
  have hselected : selectedIntents (sampleCapsule repair) = .ok [.dict repair] := rfl
  obtain rfl := Except.ok.inj (hselected.symm.trans hintents)
  obtain rfl := Value.dict.inj (List.mem_singleton.mp hmem)
  have hrepair : subjectSha repair = .ok (.str "aa") := rfl
  obtain rfl := Except.ok.inj (hrepair.symm.trans hsha)
  have hother : Value.str "bb" ≠ .str "aa" := by simp
  exact hother (Value.eq_str.mp heq)

/-! ## Granted admissions -/

variable {intentDigest : String}

theorem exists_of_intentByDigest (h : intentByDigest capsule intentDigest = .ok intent) :
    ∃ intents, selectedIntents capsule = .ok intents ∧ .dict intent ∈ intents ∧
      intent.get "intent_digest" = .str intentDigest := by
  simp only [intentByDigest, bind_eq_ok, okOr_eq_ok] at h
  obtain ⟨intents, hintents, hfound⟩ := h
  obtain ⟨value, hvalue, hcarries⟩ := List.exists_of_findSome?_eq_some hfound
  rw [carries, Option.filter_eq_some_iff] at hcarries
  obtain ⟨hdict, hdigest⟩ := hcarries
  refine ⟨intents, hintents, ?_, Value.eq_str.mp hdigest⟩
  cases value <;> simp only [Value.dict?, Option.some.injEq, reduceCtorEq] at hdict
  rwa [← hdict]

theorem subject_eq_of_requireSubject {subject sha : Value} {u : Unit}
    (h : requireSubject py grant subject sha = .ok u) :
    (grant.get "subject_sha").eq sha = true := by
  rw [requireSubject] at h
  by_contra hdrift
  rw [if_neg hdrift, bind_eq_ok] at h
  obtain ⟨_, -, hrefused⟩ := h
  exact nomatch hrefused

/-- An admission that is granted for a capsule is bound to an intent of it. -/
theorem bound_of_admitGrant {now : String} (h : admitGrant py capsule grant now = .ok admission)
    (hdigest : grant.get "intent_digest" = .str intentDigest) : Selected capsule admission := by
  simp only [admitGrant, bind_eq_ok, okOr_eq_ok, pure_eq_ok, mapError_eq_ok] at h
  obtain ⟨_, -, given, hgiven, _, -, _, -, intent, hintent, subject, hsubject, sha, hsha, _,
    hrequire, _, -, _, -, _, -, _, -, _, -, _, -, _, -, _, -, _, -, _, -, _, -, _, -, _, -, rfl⟩ :=
      h
  obtain rfl := Option.some.inj hgiven
  rw [hdigest] at hintent
  obtain ⟨intents, hintents, hmem, hcarries⟩ := exists_of_intentByDigest hintent
  refine ⟨intents, intent, hintents, hmem, ?_, sha, ?_, subject_eq_of_requireSubject hrequire⟩
  · rw [hcarries]
    exact Value.eq_str.mpr hdigest
  · rw [subjectSha, bind_eq_ok]
    exact ⟨subject, hsubject, hsha⟩

/-- The window of an authority: it is granted within it, and used within it. -/
def WithinWindow (py : PyRuntime) (admission evidence : Dict) (now : String) : Prop :=
  ∃ current notBefore expires observed, parseRfc3339 py (.str now) "now" = .ok current ∧
    parseRfc3339 py (admission.get "not_before") "not_before" = .ok notBefore ∧
    parseRfc3339 py (admission.get "expires_at") "expires_at" = .ok expires ∧
    parseRfc3339 py (evidence.get "observed_at") "observed_at" = .ok observed ∧
    notBefore ≤ current ∧ current < expires ∧ notBefore ≤ observed ∧ observed < expires

theorem window_of_closeExecution {now : String}
    (hgrant : admitGrant py capsule grant now = .ok admission)
    (h : closeExecution py capsule admission evidence = .ok closure) :
    WithinWindow py admission evidence now := by
  simp only [admitGrant, bind_eq_ok, ensure_eq_ok, okOr_eq_ok, pure_eq_ok] at hgrant
  obtain ⟨_, -, given, -, _, -, _, -, intent, -, _, -, _, -, _, -, _, -, _, -, _, -, current,
    hcurrent, _, -, notBefore, hnotBefore, expires, hexpires, _, -, _, -, _, hfrom, _, huntil, _,
    -, _, -, rfl⟩ := hgrant
  simp only [closeExecution, bind_eq_ok, ensure_eq_ok] at h
  obtain ⟨_, -, _, -, _, -, _, -, _, -, _, -, _, -, _, -, _, -, _, -, observed, hobserved, start,
    hstart, stop, hstop, _, hafter, _, hbefore, -⟩ := h
  obtain rfl := Except.ok.inj (hnotBefore.symm.trans hstart)
  obtain rfl := Except.ok.inj (hexpires.symm.trans hstop)
  exact ⟨current, notBefore, expires, observed, hcurrent, hnotBefore, hexpires, hobserved,
    hfrom, huntil, hafter, hbefore⟩

/-- What is closed under a grant for the capsule stays inside the capsule and inside the window of
the grant. -/
theorem closed_of_granted {now : String}
    (hgrant : admitGrant py capsule grant now = .ok admission)
    (hdigest : grant.get "intent_digest" = .str intentDigest)
    (h : closeExecution py capsule admission evidence = .ok closure) :
    Inside capsule admission evidence closure ∧ WithinWindow py admission evidence now := by
  have hclosed := closed_of_closeExecution h
  refine ⟨?_, window_of_closeExecution hgrant h⟩
  obtain ⟨intents, intent, hintents, hmem, hadmission⟩ := bound_of_admitGrant hgrant hdigest
  have hevidence : BoundTo intent evidence :=
    hadmission.of_eq hclosed.intentDigest hclosed.subjectSha
  have hclosure : BoundTo intent closure := by
    rw [BoundTo, hclosed.closureDigest, hclosed.closureSha]
    exact hevidence
  refine ⟨intents, intent, hintents, hmem, ?_⟩
  simp only [List.mem_cons, List.not_mem_nil, or_false, forall_eq_or_imp, forall_eq]
  exact ⟨hadmission, hevidence, hclosure⟩

/-- A grant for an intent of a capsule. -/
def sampleGrant (capsule intent : Dict) (sha : String) : Dict :=
  [("authority_id", .str "authority-1"), ("actor", .str "actor-1"),
    ("capsule_digest", capsule.get "capsule_digest"), ("subject_sha", .str sha),
    ("intent_digest", intent.get "intent_digest"), ("scope", .str "BRCE:VERIFY_REPAIR_ONLY"),
    ("issued_at", .str "10"), ("not_before", .str "10"), ("expires_at", .str "20")]

theorem intentByDigest_sample (h : intent.get "intent_digest" = .str intentDigest) :
    intentByDigest (sampleCapsule intent) intentDigest = .ok intent := by
  simp only [intentByDigest, bind_eq_ok, okOr_eq_ok]
  refine ⟨[.dict intent], rfl, ?_⟩
  have hcarries : carries intentDigest (.dict intent) = some intent := by
    rw [carries, Value.dict?, Option.filter_eq_some_iff, h]
    exact ⟨rfl, Value.eq_str.mpr rfl⟩
  rw [List.findSome?_cons, hcarries]

theorem closed_of_granted_repair : ∃ admission closure,
    admitGrant samplePyRuntime (sampleCapsule repair) (sampleGrant (sampleCapsule repair) repair
      "aa") "12" = .ok admission ∧
    Inside (sampleCapsule repair) admission (sampleEvidence repair "aa") closure ∧
      WithinWindow samplePyRuntime admission (sampleEvidence repair "aa") "12" := by
  have hgrant : admitGrant samplePyRuntime (sampleCapsule repair) (sampleGrant
      (sampleCapsule repair) repair "aa") "12" =
        .ok (sampleAdmission (sampleCapsule repair) repair "aa") := by
    simp only [admitGrant, bind_eq_ok, ensure_eq_ok, okOr_eq_ok, pure_eq_ok, mapError_eq_ok]
    exact ⟨(), (closable_sample repair "console" "aa").verifiesCapsule, _, rfl, (), rfl, (),
      Value.eq_str.mpr rfl, repair, intentByDigest_sample rfl, _, rfl, _, rfl, (), rfl, (), Value.eq_str.mpr rfl, (),
      rfl, (), rfl, 12, rfl, 10, rfl, 10, rfl, 20, rfl, (), by decide, (), by decide, (),
      by decide, (), by decide, _, rfl, _, digest_sample _, rfl⟩
  obtain ⟨closure, h⟩ := exists_closure dumps_sample (closable_sample repair "console" "aa")
  exact ⟨_, closure, hgrant, closed_of_granted hgrant rfl h⟩

end ChatmanEcosystem.Dfcm
