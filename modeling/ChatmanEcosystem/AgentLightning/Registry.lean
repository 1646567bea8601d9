import ChatmanEcosystem.AgentLightning.Service
import ChatmanEcosystem.Common.Rebuild

/-!
# The identity registry

Model of `IdentityRecord` and `IdentityRegistry`
(`crates/ecosystem-runtime/src/agent_lightning_commercial_plane.rs`, lines 52–283),
with the registration, the rotation and the revocation that
`CommercialControlPlane` makes of a validation and its application (lines 828–890).

Results:

* `IdentityRecord.validate_eq_ok`: the records that are valid.
* `IdentityRegistry.register_eq_ok`, `rotate_eq_ok`, `revoke_eq_ok`: what the
  operations accept, and what they write.
* `IdentityRegistry.fromRecords_toRecords`, `valid_of_toRecords`: the records of a registry
  are read back as the registry if they are valid, and not otherwise.
-/

namespace ChatmanEcosystem.AgentLightning

open Common Core Rust

/-! ## Records -/

/-- `enum PlaneError` (lines 26–39). The registry only refuses. -/
inductive PlaneError
  | refused (detail : String)
  | service (detail : String)
  | commerce (detail : String)
  | storage (detail : String)
  | receipt (detail : String)
  | serde (detail : String)
  deriving DecidableEq

/-- `struct ApiKeyBinding` (lines 54–59). -/
structure ApiKeyBinding where
  keyId : String
  fingerprint : String
  generation : UInt64
  active : Bool
  deriving DecidableEq

/-- `struct IdentityRecord` (lines 62–66). -/
structure IdentityRecord where
  organization : String
  subject : String
  keys : List ApiKeyBinding
  deriving DecidableEq

/-- The checks of a key of a record, one by one. -/
structure ApiKeyBinding.Valid (key : ApiKeyBinding) : Prop where
  fingerprint : validDigest key.fingerprint = true
  named : isBlank key.keyId = false
  generation : key.generation ≠ 0

/-- `validate_fingerprint` (lines 275–283). -/
def validateFingerprint (fingerprint : String) : Except PlaneError Unit :=
  ensure (validDigest fingerprint) (.refused "INVALID_API_KEY_FINGERPRINT")

/-- `validate_identity_fields` (lines 263–273). -/
def validateIdentityFields (organization subject keyId fingerprint : String) :
    Except PlaneError Unit := do
  ensure (!isBlank organization ∧ !isBlank subject ∧ !isBlank keyId)
    (.refused "INVALID_IDENTITY_FIELDS")
  validateFingerprint fingerprint

/-- `str::eq_ignore_ascii_case`. -/
def eqIgnoreAsciiCase (s t : String) : Bool := s.toList.map Char.toLower = t.toList.map Char.toLower

namespace IdentityRecord

variable (record : IdentityRecord)

/-- `IdentityRecord::active_key` (lines 69–71). -/
def activeKey : Option ApiKeyBinding := record.keys.find? (·.active)

/-- One turn of the loop of `validate` (lines 86–95), with `key_ids` and `generations`. -/
def validateKey (seen : Finset String × Finset UInt64) (key : ApiKeyBinding) :
    Except PlaneError (Finset String × Finset UInt64) := do
  validateFingerprint key.fingerprint
  ensure (!isBlank key.keyId ∧ key.generation ≠ 0 ∧ key.keyId ∉ seen.1 ∧ key.generation ∉ seen.2)
    (.refused "INVALID_API_KEY_HISTORY")
  return (insert key.keyId seen.1, insert key.generation seen.2)

/-- `IdentityRecord::validate` (lines 73–97). -/
def validate : Except PlaneError Unit := do
  ensure (!isBlank record.organization ∧ !isBlank record.subject ∧ record.keys ≠ [])
    (.refused "INVALID_IDENTITY_RECORD")
  ensure (record.keys.countP (·.active) ≤ 1) (.refused "MULTIPLE_ACTIVE_API_KEYS")
  let _ ← record.keys.foldlM validateKey (∅, ∅)
  return ()

/-- `keys.iter().map(|key| key.generation).max().unwrap_or(0)` (lines 170–175). -/
def greatestGeneration : UInt64 := (record.keys.map (·.generation)).max?.getD 0

/-- The keys without an active one (lines 190–192 and 218–220). -/
def deactivated : List ApiKeyBinding := record.keys.map ({ · with active := false })

/-- The record of a new identity (lines 131–143). -/
def registered (organization subject keyId fingerprint : String) : IdentityRecord where
  organization := organization
  subject := subject
  keys := [{ keyId, fingerprint, generation := 1, active := true }]

/-- The record once a rotation with the next generation is applied. -/
def rotated (keyId fingerprint : String) : IdentityRecord :=
  { record with keys := record.deactivated ++
      [{ keyId, fingerprint, active := true
         generation := saturatingAdd record.greatestGeneration 1 }] }

/-- The record once its active key is revoked. -/
def revoked : IdentityRecord := { record with keys := record.deactivated }

/-! ### Valid records -/

/-- The records that `validate` lets through. -/
structure Valid : Prop where
  organization : isBlank record.organization = false
  subject : isBlank record.subject = false
  nonempty : record.keys ≠ []
  oneActive : record.keys.countP (·.active) ≤ 1
  keys : ∀ key ∈ record.keys, key.Valid
  keyIds : (record.keys.map (·.keyId)).Nodup
  generations : (record.keys.map (·.generation)).Nodup

variable {record}

theorem validateKey_eq_ok {seen after : Finset String × Finset UInt64} {key : ApiKeyBinding} :
    validateKey seen key = .ok after ↔
      key.Valid ∧ key.keyId ∉ seen.1 ∧ key.generation ∉ seen.2 ∧
        after = (insert key.keyId seen.1, insert key.generation seen.2) := by
  simp only [validateKey, validateFingerprint, bind_eq_ok, ensure_eq_ok, pure_eq_ok]
  constructor
  · rintro ⟨_, hfingerprint, _, ⟨hnamed, hgeneration, hid, hnew⟩, rfl⟩
    exact ⟨⟨hfingerprint, by simpa using hnamed, hgeneration⟩, hid, hnew, rfl⟩
  · rintro ⟨hvalid, hid, hnew, rfl⟩
    exact ⟨(), hvalid.fingerprint, (), ⟨by simp [hvalid.named], hvalid.generation, hid, hnew⟩, rfl⟩

/-- The loop of `validate` goes through when every key is valid, and new to those before. -/
theorem validateKeys_eq_ok {keys : List ApiKeyBinding} {seen : Finset String × Finset UInt64} :
    (∃ after, keys.foldlM validateKey seen = .ok after) ↔
      (∀ key ∈ keys, key.Valid ∧ key.keyId ∉ seen.1 ∧ key.generation ∉ seen.2) ∧
        (keys.map (·.keyId)).Nodup ∧ (keys.map (·.generation)).Nodup := by
  induction keys generalizing seen with
  | nil => simp [pure_eq_ok]
  | cons key keys ih =>
    have hloop : (∃ after, (key :: keys).foldlM validateKey seen = .ok after) ↔
        (key.Valid ∧ key.keyId ∉ seen.1 ∧ key.generation ∉ seen.2) ∧
          ∃ after, keys.foldlM validateKey
            (insert key.keyId seen.1, insert key.generation seen.2) = .ok after := by
      simp only [List.foldlM_cons, bind_eq_ok, validateKey_eq_ok]
      constructor
      · rintro ⟨after, _, ⟨hvalid, hid, hnew, rfl⟩, hkeys⟩
        exact ⟨⟨hvalid, hid, hnew⟩, after, hkeys⟩
      · rintro ⟨⟨hvalid, hid, hnew⟩, after, hkeys⟩
        exact ⟨after, _, ⟨hvalid, hid, hnew, rfl⟩, hkeys⟩
    rw [hloop, ih, List.forall_mem_cons, List.map_cons, List.map_cons, List.nodup_cons,
      List.nodup_cons]
    simp only [Finset.mem_insert, not_or, List.mem_map, not_exists, not_and]
    constructor
    · rintro ⟨hkey, hkeys, hids, hgenerations⟩
      exact ⟨⟨hkey, fun other h => ⟨(hkeys other h).1, (hkeys other h).2.1.2,
          (hkeys other h).2.2.2⟩⟩, ⟨fun other h => (hkeys other h).2.1.1, hids⟩,
        fun other h => (hkeys other h).2.2.1, hgenerations⟩
    · rintro ⟨⟨hkey, hkeys⟩, ⟨hid, hids⟩, hgeneration, hgenerations⟩
      exact ⟨hkey, fun other h => ⟨(hkeys other h).1, ⟨hid other h, (hkeys other h).2.1⟩,
        hgeneration other h, (hkeys other h).2.2⟩, hids, hgenerations⟩

theorem validate_eq_ok {result : Unit} : record.validate = .ok result ↔ record.Valid := by
  have hloop := @validateKeys_eq_ok record.keys (∅, ∅)
  simp only [Finset.notMem_empty, not_false_eq_true, and_true] at hloop
  simp only [validate, bind_eq_ok, ensure_eq_ok, pure_eq_ok, and_true]
  constructor
  · rintro ⟨_, ⟨horganization, hsubject, hnonempty⟩, _, hactive, hkeys⟩
    obtain ⟨hvalid, hids, hgenerations⟩ := hloop.mp hkeys
    exact ⟨by simpa using horganization, by simpa using hsubject, hnonempty, hactive, hvalid, hids,
      hgenerations⟩
  · intro h
    exact ⟨(), ⟨by simp [h.organization], by simp [h.subject], h.nonempty⟩, (), h.oneActive,
      hloop.mpr ⟨h.keys, h.keyIds, h.generations⟩⟩

end IdentityRecord

/-! ## The registry -/

/-- `struct IdentityRegistry` (lines 101–103). -/
structure IdentityRegistry where
  records : Std.ExtTreeMap String IdentityRecord

namespace IdentityRegistry

/-- `IdentityRegistry::default`. -/
def empty : IdentityRegistry := { records := ∅ }

/-- `identity_key` (lines 105–107). -/
def identityKey (organization subject : String) : String := organization ++ "\u001f" ++ subject

variable (registry : IdentityRegistry)

/-- `validate_register` (lines 109–122). -/
def validateRegister (organization subject keyId fingerprint : String) :
    Except PlaneError Unit := do
  validateIdentityFields organization subject keyId fingerprint
  ensure (registry.records[identityKey organization subject]? = none)
    (.refused "IDENTITY_ALREADY_REGISTERED")

/-- `apply_register` (lines 124–144). -/
def applyRegister (organization subject keyId fingerprint : String) : IdentityRegistry where
  records := registry.records.insert (identityKey organization subject)
    { organization, subject, keys := [{ keyId, fingerprint, generation := 1, active := true }] }

/-- `validate_rotate` (lines 146–176). -/
def validateRotate (organization subject keyId fingerprint : String) :
    Except PlaneError UInt64 := do
  validateIdentityFields organization subject keyId fingerprint
  match registry.records[identityKey organization subject]? with
  | none => .error (.refused "IDENTITY_NOT_REGISTERED")
  | some record =>
    record.validate
    ensure (record.activeKey ≠ none) (.refused "IDENTITY_HAS_NO_ACTIVE_KEY")
    ensure (∀ key ∈ record.keys, key.keyId ≠ keyId ∧
      eqIgnoreAsciiCase key.fingerprint fingerprint = false) (.refused "API_KEY_REUSE_REFUSED")
    return saturatingAdd record.greatestGeneration 1

/-- `apply_rotate` (lines 178–200). -/
def applyRotate (organization subject keyId fingerprint : String) (generation : UInt64) :
    IdentityRegistry :=
  match registry.records[identityKey organization subject]? with
  | none => registry
  | some record =>
    { records := registry.records.insert (identityKey organization subject) { record with
        keys := record.deactivated ++ [{ keyId, fingerprint, generation, active := true }] } }

/-- `validate_revoke` (lines 202–211). -/
def validateRevoke (organization subject : String) : Except PlaneError Unit :=
  match registry.records[identityKey organization subject]? with
  | none => .error (.refused "IDENTITY_NOT_REGISTERED")
  | some record =>
    ensure (record.activeKey ≠ none) (.refused "IDENTITY_ALREADY_REVOKED")

/-- `apply_revoke` (lines 213–222). -/
def applyRevoke (organization subject : String) : IdentityRegistry :=
  match registry.records[identityKey organization subject]? with
  | none => registry
  | some record =>
    { records := registry.records.insert (identityKey organization subject)
        { record with keys := record.deactivated } }

/-- `authenticate` (lines 224–244). -/
def authenticate (organization subject fingerprint : String) : Except PlaneError Principal := do
  validateFingerprint fingerprint
  match registry.records[identityKey organization subject]? with
  | none => .error (.refused "IDENTITY_NOT_REGISTERED")
  | some record =>
    match record.activeKey.filter fun key => eqIgnoreAsciiCase key.fingerprint fingerprint with
    | none => .error (.refused "API_KEY_NOT_ACTIVE")
    | some key => return { organization := record.organization, subject := record.subject
                           keyFingerprint := key.fingerprint }

/-- `records` (lines 246–248). -/
def toRecords : List IdentityRecord := registry.records.toList.map (·.2)

/-- One turn of the loop of `from_records` (lines 252–258). -/
def addRecord (record : IdentityRecord) : Except PlaneError IdentityRegistry := do
  record.validate
  ensure (registry.records[identityKey record.organization record.subject]? = none)
    (.refused "DUPLICATE_IDENTITY_RECORD")
  return { records :=
    registry.records.insert (identityKey record.organization record.subject) record }

/-- `from_records` (lines 250–260). -/
def fromRecords (records : List IdentityRecord) : Except PlaneError IdentityRegistry :=
  records.foldlM addRecord empty

/-! ### Operations -/

/-- The registry part of `register_key` (lines 828–847). -/
def register (organization subject keyId fingerprint : String) :
    Except PlaneError IdentityRegistry := do
  registry.validateRegister organization subject keyId fingerprint
  return registry.applyRegister organization subject keyId fingerprint

/-- The registry part of `rotate_key` (lines 849–873). -/
def rotate (organization subject keyId fingerprint : String) :
    Except PlaneError IdentityRegistry := do
  let generation ← registry.validateRotate organization subject keyId fingerprint
  return registry.applyRotate organization subject keyId fingerprint generation

/-- The registry part of `revoke_identity` (lines 875–892). -/
def revoke (organization subject : String) : Except PlaneError IdentityRegistry := do
  registry.validateRevoke organization subject
  return registry.applyRevoke organization subject

/-- The fields that `validate_identity_fields` lets through. -/
structure ValidFields (organization subject keyId fingerprint : String) : Prop where
  organization : isBlank organization = false
  subject : isBlank subject = false
  named : isBlank keyId = false
  fingerprint : validDigest fingerprint = true

/-- A rotation that is let through, and the record that it meets. -/
structure Rotates (organization subject keyId fingerprint : String) (record : IdentityRecord) :
    Prop where
  fields : ValidFields organization subject keyId fingerprint
  stored : registry.records[identityKey organization subject]? = some record
  valid : record.Valid
  active : record.activeKey ≠ none
  fresh : ∀ key ∈ record.keys, key.keyId ≠ keyId ∧
    eqIgnoreAsciiCase key.fingerprint fingerprint = false

/-- The registry with a record of an identity. -/
def store (organization subject : String) (record : IdentityRecord) : IdentityRegistry where
  records := registry.records.insert (identityKey organization subject) record

variable {registry} {after : IdentityRegistry} {organization subject keyId fingerprint : String}

theorem validateIdentityFields_eq_ok {result : Unit} :
    validateIdentityFields organization subject keyId fingerprint = .ok result ↔
      ValidFields organization subject keyId fingerprint := by
  simp only [validateIdentityFields, validateFingerprint, bind_eq_ok, ensure_eq_ok]
  constructor
  · rintro ⟨_, ⟨horganization, hsubject, hnamed⟩, hfingerprint⟩
    exact ⟨by simpa using horganization, by simpa using hsubject, by simpa using hnamed,
      hfingerprint⟩
  · intro h
    exact ⟨(), by simp [h.organization, h.subject, h.named], h.fingerprint⟩

theorem register_eq_ok : registry.register organization subject keyId fingerprint = .ok after ↔
    ValidFields organization subject keyId fingerprint ∧
      registry.records[identityKey organization subject]? = none ∧
      after = registry.store organization subject (.registered organization subject keyId
        fingerprint) := by
  simp only [register, validateRegister, bind_eq_ok, ensure_eq_ok, pure_eq_ok,
    validateIdentityFields_eq_ok]
  constructor
  · rintro ⟨_, ⟨_, hfields, hnew⟩, rfl⟩
    exact ⟨hfields, hnew, rfl⟩
  · rintro ⟨hfields, hnew, rfl⟩
    exact ⟨(), ⟨(), hfields, hnew⟩, rfl⟩

theorem rotate_eq_ok : registry.rotate organization subject keyId fingerprint = .ok after ↔
    ∃ record, registry.Rotates organization subject keyId fingerprint record ∧
      after = registry.store organization subject (record.rotated keyId fingerprint) := by
  simp only [rotate, validateRotate, bind_eq_ok, pure_eq_ok, validateIdentityFields_eq_ok]
  constructor
  · rintro ⟨generation, ⟨_, hfields, hrotates⟩, rfl⟩
    split at hrotates
    · cases hrotates
    · rename_i record hstored
      simp only [bind_eq_ok, ensure_eq_ok, pure_eq_ok, IdentityRecord.validate_eq_ok] at hrotates
      obtain ⟨_, hvalid, _, hactive, _, hfresh, rfl⟩ := hrotates
      refine ⟨record, ⟨hfields, hstored, hvalid, hactive, hfresh⟩, ?_⟩
      rw [applyRotate, hstored]
      rfl
  · rintro ⟨record, h, rfl⟩
    refine ⟨saturatingAdd record.greatestGeneration 1, ⟨(), h.fields, ?_⟩, ?_⟩
    · simp only [h.stored, bind_eq_ok, ensure_eq_ok, pure_eq_ok, IdentityRecord.validate_eq_ok]
      exact ⟨(), h.valid, (), h.active, (), h.fresh, trivial⟩
    · rw [applyRotate, h.stored]
      rfl

theorem revoke_eq_ok : registry.revoke organization subject = .ok after ↔
    ∃ record, registry.records[identityKey organization subject]? = some record ∧
      record.activeKey ≠ none ∧ after = registry.store organization subject record.revoked := by
  simp only [revoke, validateRevoke, bind_eq_ok, pure_eq_ok]
  constructor
  · rintro ⟨_, hrevokes, rfl⟩
    split at hrevokes
    · cases hrevokes
    · rename_i record hstored
      refine ⟨record, hstored, ensure_eq_ok.mp hrevokes, ?_⟩
      rw [applyRevoke, hstored]
      rfl
  · rintro ⟨record, hstored, hactive, rfl⟩
    refine ⟨(), ?_, ?_⟩
    · rw [hstored]
      exact ensure_eq_ok.mpr hactive
    · rw [applyRevoke, hstored]
      rfl

/-- Who is authenticated, and by which key. -/
theorem authenticate_eq_ok {principal : Principal} :
    registry.authenticate organization subject fingerprint = .ok principal ↔
      validDigest fingerprint = true ∧ ∃ record key,
        registry.records[identityKey organization subject]? = some record ∧
        record.activeKey = some key ∧ eqIgnoreAsciiCase key.fingerprint fingerprint = true ∧
        principal = ⟨record.organization, record.subject, key.fingerprint⟩ := by
  simp only [authenticate, validateFingerprint, bind_eq_ok, ensure_eq_ok]
  constructor
  · rintro ⟨_, hfingerprint, hverdict⟩
    split at hverdict
    · cases hverdict
    · rename_i record hstored
      split at hverdict
      · cases hverdict
      · rename_i key hkey
        obtain ⟨hactive, hequal⟩ := Option.filter_eq_some_iff.mp hkey
        exact ⟨hfingerprint, record, key, hstored, hactive, hequal,
          (pure_eq_ok.mp hverdict).symm⟩
  · rintro ⟨hfingerprint, record, key, hstored, hactive, hequal, rfl⟩
    refine ⟨(), hfingerprint, ?_⟩
    have hkey : (record.activeKey.filter fun key =>
        eqIgnoreAsciiCase key.fingerprint fingerprint) = some key :=
      Option.filter_eq_some_iff.mpr ⟨hactive, hequal⟩
    simp only [hstored, hkey]
    rfl

/-! ### Records -/

/-- Every record is under the key of its own identity. -/
def Placed (registry : IdentityRegistry) : Prop :=
  ∀ (id : String) record, registry.records[id]? = some record →
    identityKey record.organization record.subject = id

theorem addRecord_eq_ok {record : IdentityRecord} : registry.addRecord record = .ok after ↔
    record.Valid ∧ registry.records[identityKey record.organization record.subject]? = none ∧
      after = registry.store record.organization record.subject record := by
  simp only [addRecord, bind_eq_ok, ensure_eq_ok, pure_eq_ok, IdentityRecord.validate_eq_ok]
  constructor
  · rintro ⟨_, hvalid, _, hnew, rfl⟩
    exact ⟨hvalid, hnew, rfl⟩
  · rintro ⟨hvalid, hnew, rfl⟩
    exact ⟨(), hvalid, (), hnew, rfl⟩

/-- Records that are read are valid. -/
theorem valid_of_fromRecords {records : List IdentityRecord} {start : IdentityRegistry}
    (h : records.foldlM addRecord start = .ok after) : ∀ record ∈ records, record.Valid := by
  induction records generalizing start with
  | nil => simp
  | cons record records ih =>
    rw [List.foldlM_cons, bind_eq_ok] at h
    obtain ⟨middle, hadd, hloop⟩ := h
    exact List.forall_mem_cons.mpr ⟨(addRecord_eq_ok.mp hadd).1, ih hloop⟩

/-- The records that are read are stored, each under its own key, beside those of before. -/
theorem stored_of_addRecords {records : List IdentityRecord} {start : IdentityRegistry}
    (h : records.foldlM addRecord start = .ok after) (id : String) (record : IdentityRecord) :
    after.records[id]? = some record ↔ start.records[id]? = some record ∨
      record ∈ records ∧ identityKey record.organization record.subject = id := by
  induction records generalizing start with
  | nil =>
    obtain rfl := pure_eq_ok.mp h
    simp
  | cons first records ih =>
    rw [List.foldlM_cons, bind_eq_ok] at h
    obtain ⟨middle, hadd, hloop⟩ := h
    obtain ⟨-, hfree, rfl⟩ := addRecord_eq_ok.mp hadd
    rw [ih hloop, store, Std.ExtTreeMap.getElem?_insert, List.mem_cons]
    by_cases hid : identityKey first.organization first.subject = id
    · subst hid
      rw [if_pos Std.ReflCmp.compare_self, hfree]
      have hfirst : some first = some record ↔ record = first := by
        rw [Option.some_inj, eq_comm]
      rw [hfirst]
      constructor
      · rintro (rfl | ⟨hmem, hkey⟩)
        · exact .inr ⟨.inl rfl, rfl⟩
        · exact .inr ⟨.inr hmem, hkey⟩
      · rintro (hnone | ⟨rfl | hmem, hkey⟩)
        · cases hnone
        · exact .inl rfl
        · exact .inr ⟨hmem, hkey⟩
    · rw [if_neg fun hsame => hid (Std.LawfulEqCmp.compare_eq_iff_eq.mp hsame)]
      constructor
      · rintro (hbefore | ⟨hmem, hkey⟩)
        · exact .inl hbefore
        · exact .inr ⟨.inr hmem, hkey⟩
      · rintro (hbefore | ⟨rfl | hmem, hkey⟩)
        · exact .inl hbefore
        · exact absurd hkey hid
        · exact .inr ⟨hmem, hkey⟩

/-- A registry that is read holds the records that it was read from. -/
theorem stored_of_fromRecords {records : List IdentityRecord}
    (h : fromRecords records = .ok registry) (id : String) (record : IdentityRecord) :
    registry.records[id]? = some record ↔
      record ∈ records ∧ identityKey record.organization record.subject = id := by
  rw [stored_of_addRecords h, empty, Std.ExtTreeMap.getElem?_empty]
  simp

/-- Valid records are read back as the registry they are of. -/
theorem fromRecords_toRecords (hplaced : registry.Placed)
    (hvalid : ∀ (id : String) record, registry.records[id]? = some record → record.Valid) :
    fromRecords registry.toRecords = .ok registry := by
  have hadds : Adds IdentityRegistry.records addRecord registry.records := by
    intro other id record hstored hnew
    have hid := hplaced id record hstored
    refine ⟨other.store record.organization record.subject record, ?_, ?_⟩
    · rw [addRecord_eq_ok, hid]
      exact ⟨hvalid id record hstored, hnew, rfl⟩
    · rw [store, hid]
  obtain ⟨rebuilt, hloop, hrebuilt⟩ := hadds.rebuild_eq (rfl : empty.records = ∅)
  rw [fromRecords, toRecords]
  have hsame : rebuilt = registry := congrArg IdentityRegistry.mk hrebuilt
  rw [hsame] at hloop
  exact hloop

/-- A registry that is read back has valid records. -/
theorem valid_of_toRecords (h : fromRecords registry.toRecords = .ok after) {id : String}
    {record : IdentityRecord} (hstored : registry.records[id]? = some record) : record.Valid := by
  refine valid_of_fromRecords h record (List.mem_map.mpr ⟨(id, record), ?_, rfl⟩)
  exact Std.ExtTreeMap.mem_toList_iff_getElem?_eq_some.mpr hstored

end IdentityRegistry

end ChatmanEcosystem.AgentLightning
