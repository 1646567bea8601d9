import ChatmanEcosystem.AgentLightning.RetiredKeys

/-!
# Tenant isolation

What the operations of the identity registry
(`crates/ecosystem-runtime/src/agent_lightning_commercial_plane.rs`, lines 101–260) on one
organization and subject leave of the verdicts on another. The registry keeps its records under
`identity_key`, the organization and the subject with U+001F between them, which
`validate_identity_fields` and `IdentityRecord::validate` let through in either part.

Results:

* `IdentityRegistry.identityKey_inj`: the parts without the separator are those of one identity.
* `isolated_iff_separable`: the runs in which tenants are isolated.
-/

namespace ChatmanEcosystem.AgentLightning

open Common Core Rust

/-! ## Composite keys -/

/-- The separator of `identity_key` is in neither part. -/
structure Separable (organization subject : String) : Prop where
  organization : '\u001f' ∉ organization.toList
  subject : '\u001f' ∉ subject.toList

/-- The organization and the subject of an operation. -/
def IdentityOp.identity : IdentityOp → String × String
  | .register organization subject _ _ => (organization, subject)
  | .rotate organization subject _ _ => (organization, subject)
  | .revoke organization subject => (organization, subject)

namespace IdentityRegistry

theorem toList_identityKey (organization subject : String) :
    (identityKey organization subject).toList =
      organization.toList ++ '\u001f' :: subject.toList := by
  simp [identityKey]

variable {otherOrganization otherSubject : String}

/-- No other parts have the key of parts without the separator. -/
theorem identityKey_inj {organization subject : String} (h : Separable organization subject)
    (hkey : identityKey organization subject = identityKey otherOrganization otherSubject) :
    organization = otherOrganization ∧ subject = otherSubject := by
  have hlist := congrArg String.toList hkey
  rw [toList_identityKey, toList_identityKey,
    List.append_cons_inj_of_notMem h.organization h.subject] at hlist
  exact ⟨String.toList_inj.mp hlist.1, String.toList_inj.mp hlist.2.2⟩

/-- Parts with the separator share their key with other parts. -/
theorem exists_identityKey_eq {organization subject : String}
    (h : ¬ Separable organization subject) :
    ∃ otherOrganization otherSubject,
      identityKey otherOrganization otherSubject = identityKey organization subject ∧
        ¬ (organization = otherOrganization ∧ subject = otherSubject) := by
  by_cases horganization : '\u001f' ∈ organization.toList
  · obtain ⟨pre, post, hsplit⟩ := List.append_of_mem horganization
    refine ⟨String.ofList pre, String.ofList (post ++ '\u001f' :: subject.toList), ?_, ?_⟩
    · apply String.toList_inj.mp
      simp [toList_identityKey, hsplit]
    · rintro ⟨hsame, -⟩
      have hlength := congrArg (fun s => s.toList.length) hsame
      simp [hsplit] at hlength
  · have hsubject : '\u001f' ∈ subject.toList := by
      by_contra hnone
      exact h ⟨horganization, hnone⟩
    obtain ⟨pre, post, hsplit⟩ := List.append_of_mem hsubject
    refine ⟨String.ofList (organization.toList ++ '\u001f' :: pre), String.ofList post, ?_, ?_⟩
    · apply String.toList_inj.mp
      simp [toList_identityKey, hsplit]
    · rintro ⟨-, hsame⟩
      have hlength := congrArg (fun s => s.toList.length) hsame
      simp only [hsplit, List.length_append, List.length_cons, String.toList_ofList] at hlength
      omega

/-! ## Isolation -/

variable (registry : IdentityRegistry)

/-- An operation that is refused leaves the registry as it is. -/
def next (op : IdentityOp) : IdentityRegistry :=
  match registry.call op with
  | .error _ => registry
  | .ok after => after

/-- The principal of every authentication is the one that was asked for. -/
def Own : Prop :=
  ∀ organization subject fingerprint principal,
    registry.authenticate organization subject fingerprint = .ok principal →
      principal.organization = organization ∧ principal.subject = subject

/-- The operation leaves the verdicts on every other organization and subject as they are. -/
def Leaves (op : IdentityOp) : Prop :=
  ∀ organization subject, (organization, subject) ≠ op.identity → ∀ fingerprint,
    (registry.next op).authenticate organization subject fingerprint =
      registry.authenticate organization subject fingerprint

/-- A registration that is let through has neither part with the separator. -/
def Registers (op : IdentityOp) : Prop :=
  ∀ organization subject keyId fingerprint,
    op = .register organization subject keyId fingerprint →
      ValidFields organization subject keyId fingerprint →
        registry.records[identityKey organization subject]? = none →
          Separable organization subject

/-- Every record is in its place, and a record with an active key is of a separable identity. -/
structure Separated (registry : IdentityRegistry) : Prop where
  placed : registry.Placed
  separable : ∀ (id : String) record, registry.records[id]? = some record →
    record.activeKey ≠ none → Separable record.organization record.subject

variable {registry} {op : IdentityOp} {organization subject : String} {record : IdentityRecord}

/-- A verdict depends on the record under its key alone. -/
theorem authenticate_store {new : IdentityRecord}
    (h : identityKey organization subject ≠ identityKey otherOrganization otherSubject)
    (fingerprint : String) :
    (registry.store organization subject new).authenticate otherOrganization otherSubject
        fingerprint =
      registry.authenticate otherOrganization otherSubject fingerprint := by
  have hget : (registry.store organization subject new).records[
      identityKey otherOrganization otherSubject]? =
        registry.records[identityKey otherOrganization otherSubject]? := by
    rw [store, Std.ExtTreeMap.getElem?_insert, if_neg]
    exact fun hsame => h (Std.LawfulEqCmp.compare_eq_iff_eq.mp hsame)
  rw [authenticate, authenticate, hget]

/-- An identity whose record has an active key is the one of the record. -/
theorem Separated.identity (h : registry.Separated)
    (hstored : registry.records[identityKey organization subject]? = some record)
    (hactive : record.activeKey ≠ none) :
    record.organization = organization ∧ record.subject = subject :=
  identityKey_inj (h.separable _ record hstored hactive) (h.placed _ record hstored)

theorem Separated.own (h : registry.Separated) : registry.Own := by
  intro organization subject fingerprint principal hverdict
  obtain ⟨-, record, key, hstored, hactive, -, rfl⟩ := authenticate_eq_ok.mp hverdict
  have hsome : record.activeKey ≠ none := by simp [hactive]
  exact h.identity hstored hsome

/-- An operation that is let through stores a record of its own identity, which is separable. -/
theorem Separated.change (h : registry.Separated) (hregisters : registry.Registers op)
    {after : IdentityRegistry} (hcall : registry.call op = .ok after) :
    Separable op.identity.1 op.identity.2 ∧ ∃ new : IdentityRecord,
      new.organization = op.identity.1 ∧ new.subject = op.identity.2 ∧
        after = registry.store op.identity.1 op.identity.2 new := by
  cases call_change hcall with
  | registered fields new =>
    exact ⟨hregisters _ _ _ _ rfl fields new, _, rfl, rfl, rfl⟩
  | @rotated organization subject keyId fingerprint record rotates =>
    have hsame := h.identity rotates.stored rotates.active
    have hseparable := h.separable _ record rotates.stored rotates.active
    rw [hsame.1, hsame.2] at hseparable
    exact ⟨hseparable, record.rotated keyId fingerprint, hsame.1, hsame.2, rfl⟩
  | @revoked organization subject record stored active =>
    have hsame := h.identity stored active
    have hseparable := h.separable _ record stored active
    rw [hsame.1, hsame.2] at hseparable
    exact ⟨hseparable, record.revoked, hsame.1, hsame.2, rfl⟩

theorem Separated.next (h : registry.Separated) (hregisters : registry.Registers op) :
    (registry.next op).Separated := by
  rw [IdentityRegistry.next]
  cases hcall : registry.call op with
  | error error => exact h
  | ok after =>
    obtain ⟨hseparable, new, horganization, hsubject, rfl⟩ := h.change hregisters hcall
    refine ⟨h.placed.store (by rw [horganization, hsubject]), fun id record hstored hactive => ?_⟩
    rcases store_cases hstored with ⟨-, rfl⟩ | hbefore
    · rw [horganization, hsubject]
      exact hseparable
    · exact h.separable id record hbefore hactive

theorem Separated.leaves (h : registry.Separated) (hregisters : registry.Registers op) :
    registry.Leaves op := by
  intro organization subject hother fingerprint
  rw [IdentityRegistry.next]
  cases hcall : registry.call op with
  | error error => rfl
  | ok after =>
    obtain ⟨hseparable, new, -, -, rfl⟩ := h.change hregisters hcall
    refine authenticate_store (fun hkey => hother ?_) fingerprint
    obtain ⟨horganization, hsubject⟩ := identityKey_inj hseparable hkey
    rw [← horganization, ← hsubject]

/-- A record with a valid active key is of a separable identity if every principal is the one that
was asked for. -/
theorem Own.separable (h : registry.Own) (record : IdentityRecord)
    (hstored : registry.records[identityKey record.organization record.subject]? = some record)
    {key : ApiKeyBinding} (hactive : record.activeKey = some key)
    (hvalid : validDigest key.fingerprint = true) :
    Separable record.organization record.subject := by
  by_contra hnot
  obtain ⟨organization, subject, hkey, hother⟩ := exists_identityKey_eq hnot
  have hverdict : registry.authenticate organization subject key.fingerprint =
      .ok ⟨record.organization, record.subject, key.fingerprint⟩ := by
    refine authenticate_eq_ok.mpr ⟨hvalid, record, key, ?_, hactive, ?_, rfl⟩
    · rw [hkey]
      exact hstored
    · exact eqIgnoreAsciiCase_iff.mpr rfl
  exact hother (h _ _ _ _ hverdict)

/-- A registration that is let through stores the active key that shows its identity. -/
theorem registers_of_own (h : (registry.next op).Own) : registry.Registers op := by
  rintro organization subject keyId fingerprint rfl hfields hfree
  have hcall : registry.call (.register organization subject keyId fingerprint) =
      .ok (registry.store organization subject (.registered organization subject keyId
        fingerprint)) := register_eq_ok.mpr ⟨hfields, hfree, rfl⟩
  rw [next, hcall] at h
  exact h.separable (.registered organization subject keyId fingerprint) store_self rfl
    hfields.fingerprint

variable {records : List IdentityRecord}

/-- What a registry that is read from records keeps apart. -/
theorem separated_iff (h : fromRecords records = .ok registry) :
    registry.Separated ↔ ∀ record ∈ records, record.activeKey ≠ none →
      Separable record.organization record.subject := by
  have hstored := stored_of_fromRecords h
  constructor
  · intro hseparated record hmem hactive
    exact hseparated.separable _ record ((hstored _ record).mpr ⟨hmem, rfl⟩) hactive
  · intro hseparable
    refine ⟨fun id record hid => ((hstored id record).mp hid).2, fun id record hid hactive => ?_⟩
    exact hseparable record ((hstored id record).mp hid).1 hactive

/-- In a registry that is read from records, the principals are those that were asked for only if
the identities are apart. -/
theorem Own.separated (h : fromRecords records = .ok registry) (hown : registry.Own) :
    registry.Separated := by
  rw [separated_iff h]
  intro record hmem hactive
  obtain ⟨key, hkey⟩ := Option.ne_none_iff_exists'.mp hactive
  have hvalid := (valid_of_fromRecords h record hmem).keys key
    (IdentityRecord.mem_of_activeKey hkey).1
  exact hown.separable record ((stored_of_fromRecords h _ record).mpr ⟨hmem,
    rfl⟩) hkey hvalid.fingerprint

end IdentityRegistry

open IdentityRegistry in
/-- From a registry that is read from records, every state of a run authenticates only the
principal that is asked for and no operation changes a verdict on another identity, exactly when
the separator is in no part of a record with an active key, nor of a registration that is let
through. -/
theorem isolated_iff_separable {records : List IdentityRecord} {start : IdentityRegistry}
    (h : fromRecords records = .ok start) (ops : List IdentityOp) :
    (Always next Own start ops ∧ Along next Leaves start ops) ↔
      (∀ record ∈ records, record.activeKey ≠ none →
        Separable record.organization record.subject) ∧ Along next Registers start ops := by
  have hown : start.Separated → (Always next Own start ops ↔ Along next Registers start ops) :=
    fun hseparated => always_iff_along_of (fun _ hs => hs.own) (fun _ _ hs hop => hs.next hop)
      (fun _ _ _ hs => registers_of_own hs) hseparated
  rw [← separated_iff h]
  constructor
  · rintro ⟨halways, -⟩
    have hseparated := Own.separated h (always_iff.mp halways [] ops rfl)
    exact ⟨hseparated, (hown hseparated).mp halways⟩
  · rintro ⟨hseparated, hregisters⟩
    refine ⟨(hown hseparated).mpr hregisters, ?_⟩
    exact along_of_along (fun _ _ hs hop => hs.next hop)
      (fun _ _ hs hop => hs.leaves hop) hseparated
      hregisters

/-! ### Two identities under one key -/

namespace IdentityRegistry

open KeyHistory (fixtureFingerprint validDigest_fixtureFingerprint)

/-- An organization whose name holds the separator. -/
def nestedRegistration : IdentityOp :=
  .register "acme\u001fops" "container" "key-1" (fixtureFingerprint 1)

/-- The records of one identity. -/
def operatorRecord : IdentityRecord :=
  .registered "chatman" "operator" "key-0" (fixtureFingerprint 0)

theorem validFields_nestedRegistration :
    ValidFields "acme\u001fops" "container" "key-1" (fixtureFingerprint 1) where
  organization := by decide
  subject := by decide
  named := by decide
  fingerprint := validDigest_fixtureFingerprint 1

theorem next_nestedRegistration : empty.next nestedRegistration =
    empty.store "acme\u001fops" "container"
      (.registered "acme\u001fops" "container" "key-1" (fixtureFingerprint 1)) := by
  have hcall : empty.call nestedRegistration = .ok (empty.store "acme\u001fops" "container"
      (.registered "acme\u001fops" "container" "key-1" (fixtureFingerprint 1))) :=
    register_eq_ok.mpr ⟨validFields_nestedRegistration, Std.ExtTreeMap.getElem?_empty, rfl⟩
  rw [next, hcall]

/-- The key of the one authenticates the other. -/
theorem authenticate_nestedRegistration :
    (empty.next nestedRegistration).authenticate "acme" "ops\u001fcontainer"
        (fixtureFingerprint 1) =
      .ok ⟨"acme\u001fops", "container", fixtureFingerprint 1⟩ := by
  rw [next_nestedRegistration]
  have hkey : identityKey "acme" "ops\u001fcontainer" =
      identityKey "acme\u001fops" "container" := by decide
  refine authenticate_eq_ok.mpr ⟨validDigest_fixtureFingerprint 1,
    .registered "acme\u001fops" "container" "key-1" (fixtureFingerprint 1), _, ?_, rfl,
    eqIgnoreAsciiCase_iff.mpr rfl, rfl⟩
  rw [hkey]
  exact store_self

theorem fromRecords_operatorRecord :
    fromRecords [operatorRecord] = .ok (empty.store "chatman" "operator" operatorRecord) := by
  have hadd : empty.addRecord operatorRecord =
      .ok (empty.store "chatman" "operator" operatorRecord) := by
    refine addRecord_eq_ok.mpr ⟨?_, Std.ExtTreeMap.getElem?_empty, rfl⟩
    exact (IdentityRecord.ordered_registered
      ⟨by decide, by decide, by decide, validDigest_fixtureFingerprint 0⟩).valid
  rw [fromRecords, List.foldlM_cons, hadd]
  rfl

end IdentityRegistry

open IdentityRegistry in
open KeyHistory (fixtureFingerprint) in
/-- A record that is read, a second identity and a revocation are isolated. -/
theorem isolated_operator :
    Always next Own (empty.store "chatman" "operator" operatorRecord)
        [.register "chatman" "auditor" "key-1" (fixtureFingerprint 1),
          .revoke "chatman" "operator"] ∧
      Along next Leaves (empty.store "chatman" "operator" operatorRecord)
        [.register "chatman" "auditor" "key-1" (fixtureFingerprint 1),
          .revoke "chatman" "operator"] := by
  refine (isolated_iff_separable fromRecords_operatorRecord _).mpr ⟨?_, ?_, nofun, trivial⟩
  · intro record hmem _
    rw [List.mem_singleton.mp hmem]
    exact ⟨by decide, by decide⟩
  · intro organization subject keyId fingerprint hop _ _
    cases hop
    exact ⟨by decide, by decide⟩

open IdentityRegistry in
/-- An organization whose name holds the separator is authenticated as another, whose verdict its
registration changes. -/
theorem nested_organization_not_isolated :
    ¬ Always next Own empty [nestedRegistration] ∧
      ¬ Along next Leaves empty [nestedRegistration] := by
  have hverdict := authenticate_nestedRegistration
  constructor
  · intro h
    have hown := always_iff.mp h [nestedRegistration] [] rfl
    exact absurd (hown _ _ _ _ hverdict).1 (by decide)
  · intro h
    have hbefore := h.1 "acme" "ops\u001fcontainer" (by decide) (KeyHistory.fixtureFingerprint 1)
    rw [hverdict] at hbefore
    obtain ⟨-, record, key, hstored, -⟩ := authenticate_eq_ok.mp hbefore.symm
    rw [empty, Std.ExtTreeMap.getElem?_empty] at hstored
    cases hstored

end ChatmanEcosystem.AgentLightning
