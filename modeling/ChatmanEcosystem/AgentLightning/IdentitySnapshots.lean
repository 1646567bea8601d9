import ChatmanEcosystem.AgentLightning.Registry
import ChatmanEcosystem.Common.Chain

/-!
# Identity snapshots

Model of `PlaneReceipt`, `IdentitySnapshot` and `IdentityStore`
(`crates/ecosystem-runtime/src/agent_lightning_commercial_plane.rs`, lines 285–464 and
1199–1217). The store holds the snapshots themselves: what serde writes of strings and integers
it reads back.

Results:

* `replayPlaneReceipts_eq_ok`: the receipts that replay.
* `fromRecords_eq_ok`: the records that a registry is read from.
* `IdentitySnapshot.verify_eq_ok`: the snapshots that verify, and the registry in them.
* `IdentityStore.save_eq_ok`: what is saved verifies.
-/

namespace ChatmanEcosystem.AgentLightning

open Common Core Rust

/-! ## Receipts of the plane -/

/-- `enum PlaneKind` (lines 287–295). -/
inductive PlaneKind
  | identityRegistered
  | identityRotated
  | identityRevoked
  | identitySnapshotPersisted
  | runAdmitted
  | meteringConstructed
  | settlementAccepted
  deriving DecidableEq

/-- `{:?}` of a kind. -/
def PlaneKind.debug : PlaneKind → String
  | identityRegistered => "IdentityRegistered"
  | identityRotated => "IdentityRotated"
  | identityRevoked => "IdentityRevoked"
  | identitySnapshotPersisted => "IdentitySnapshotPersisted"
  | runAdmitted => "RunAdmitted"
  | meteringConstructed => "MeteringConstructed"
  | settlementAccepted => "SettlementAccepted"

/-- `struct PlaneReceipt` (lines 298–303). -/
structure PlaneReceipt where
  kind : PlaneKind
  source : String
  previous : String
  core : Receipt
  deriving DecidableEq

/-- `PlaneReceipt::verify` (lines 306–317). -/
def PlaneReceipt.verify (signing : Signing) (receipt : PlaneReceipt) : Except PlaneError Unit := do
  (receipt.core.verify signing).mapError .receipt
  ensure (receipt.core.authority = .persistControlPlane) (.receipt "PLANE_AUTHORITY_MISMATCH")
  ensure (!isBlank receipt.source) (.receipt "PLANE_RECEIPT_SOURCE_REQUIRED")

/-- One turn of the loop of `replay_plane_receipts` (lines 1201–1207), with `previous`. -/
def replayPlaneReceipt (signing : Signing) (previous : String) (receipt : PlaneReceipt) :
    Except PlaneError String := do
  receipt.verify signing
  ensure (receipt.previous = previous) (.receipt "PLANE_RECEIPT_CHAIN_MISMATCH")
  return receipt.core.digest

/-- `replay_plane_receipts` (lines 1199–1209). -/
def replayPlaneReceipts (signing : Signing) (receipts : List PlaneReceipt) :
    Except PlaneError ℕ := do
  let _ ← receipts.foldlM (replayPlaneReceipt signing) ""
  return receipts.length

/-- `require_control_authority` (lines 1211–1217). -/
def requireControlAuthority (authority : Authority) : Except PlaneError Unit :=
  ensure (authority = .persistControlPlane) (.refused "CONTROL_PLANE_AUTHORITY_DENIED")

theorem foldlM_replayPlaneReceipt {signing : Signing} {receipts : List PlaneReceipt}
    {previous : String} : (∃ last,
    receipts.foldlM (replayPlaneReceipt signing) previous = .ok last) ↔
      (∀ receipt ∈ receipts, receipt.verify signing = .ok ()) ∧
        Linked (·.core.digest) (·.previous) previous receipts := by
  induction receipts generalizing previous with
  | nil => simp [Linked, pure_eq_ok]
  | cons receipt receipts ih =>
    have hloop : (∃ last, (receipt :: receipts).foldlM (replayPlaneReceipt signing) previous =
        .ok last) ↔ (receipt.verify signing = .ok () ∧ receipt.previous = previous) ∧
          ∃ last, receipts.foldlM (replayPlaneReceipt signing) receipt.core.digest = .ok last := by
      simp only [List.foldlM_cons, replayPlaneReceipt, bind_eq_ok, ensure_eq_ok, pure_eq_ok]
      constructor
      · rintro ⟨last, _, ⟨_, hverify, _, hprevious, rfl⟩, hloop⟩
        exact ⟨⟨hverify, hprevious⟩, last, hloop⟩
      · rintro ⟨⟨hverify, hprevious⟩, last, hloop⟩
        exact ⟨last, _, ⟨(), hverify, (), hprevious, rfl⟩, hloop⟩
    rw [hloop, ih, List.forall_mem_cons, Linked]
    constructor
    · rintro ⟨⟨hverify, hprevious⟩, hall, hlinked⟩
      exact ⟨⟨hverify, hall⟩, hprevious, hlinked⟩
    · rintro ⟨⟨hverify, hall⟩, hprevious, hlinked⟩
      exact ⟨⟨hverify, hprevious⟩, hall, hlinked⟩

/-- The receipts that verify one by one, each naming the one before. -/
structure PlaneReplays (signing : Signing) (receipts : List PlaneReceipt) : Prop where
  verified : ∀ receipt ∈ receipts, receipt.verify signing = .ok ()
  linked : Linked (·.core.digest) (·.previous) "" receipts

theorem replayPlaneReceipts_eq_ok {signing : Signing} {receipts : List PlaneReceipt} {count : ℕ} :
    replayPlaneReceipts signing receipts = .ok count ↔
      PlaneReplays signing receipts ∧ count = receipts.length := by
  have hloop := @foldlM_replayPlaneReceipt signing receipts ""
  simp only [replayPlaneReceipts, bind_eq_ok, pure_eq_ok]
  constructor
  · rintro ⟨last, h, rfl⟩
    obtain ⟨hverified, hlinked⟩ := hloop.mp ⟨last, h⟩
    exact ⟨⟨hverified, hlinked⟩, rfl⟩
  · rintro ⟨⟨hverified, hlinked⟩, rfl⟩
    obtain ⟨last, h⟩ := hloop.mpr ⟨hverified, hlinked⟩
    exact ⟨last, h, rfl⟩

/-! ## Records that are read -/

namespace IdentityRecord

/-- `identity_key` of the organization and the subject of a record. -/
def key (record : IdentityRecord) : String :=
  IdentityRegistry.identityKey record.organization record.subject

end IdentityRecord

namespace IdentityRegistry

/-- The records that `from_records` reads: valid, of different identities. -/
structure Readable (records : List IdentityRecord) : Prop where
  valid : ∀ record ∈ records, record.Valid
  distinct : (records.map IdentityRecord.key).Nodup

theorem foldlM_addRecord {records : List IdentityRecord} {start : IdentityRegistry} :
    (∃ after, records.foldlM addRecord start = .ok after) ↔
      Readable records ∧ ∀ record ∈ records, start.records[record.key]? = none := by
  induction records generalizing start with
  | nil =>
    simp only [List.foldlM_nil, pure_eq_ok, exists_eq', true_iff]
    exact ⟨⟨by simp, by simp⟩, by simp⟩
  | cons record records ih =>
    have hloop : (∃ after, (record :: records).foldlM addRecord start = .ok after) ↔
        (record.Valid ∧ start.records[record.key]? = none) ∧ ∃ after, records.foldlM addRecord
          (start.store record.organization record.subject record) = .ok after := by
      simp only [List.foldlM_cons, bind_eq_ok, addRecord_eq_ok]
      constructor
      · rintro ⟨after, _, ⟨hvalid, hfree, rfl⟩, hloop⟩
        exact ⟨⟨hvalid, hfree⟩, after, hloop⟩
      · rintro ⟨⟨hvalid, hfree⟩, after, hloop⟩
        exact ⟨after, _, ⟨hvalid, hfree, rfl⟩, hloop⟩
    have hstored : ∀ other : IdentityRecord,
        (start.store record.organization record.subject record).records[other.key]? = none ↔
          record.key ≠ other.key ∧ start.records[other.key]? = none := by
      intro other
      rw [store, Std.ExtTreeMap.getElem?_insert]
      show (if compare record.key other.key = .eq then _ else _) = none ↔ _
      by_cases hkey : record.key = other.key
      · simp [hkey]
      · rw [if_neg fun hsame => hkey (Std.LawfulEqCmp.compare_eq_iff_eq.mp hsame)]
        simp [hkey]
    rw [hloop, ih]
    simp only [hstored]
    constructor
    · rintro ⟨⟨hvalid, hfree⟩, hrest, hothers⟩
      refine ⟨⟨List.forall_mem_cons.mpr ⟨hvalid, hrest.valid⟩, ?_⟩,
        List.forall_mem_cons.mpr ⟨hfree, fun other hother => (hothers other hother).2⟩⟩
      rw [List.map_cons, List.nodup_cons]
      refine ⟨fun hmem => ?_, hrest.distinct⟩
      obtain ⟨other, hother, hkey⟩ := List.mem_map.mp hmem
      exact (hothers other hother).1 hkey.symm
    · rintro ⟨⟨hvalid, hdistinct⟩, hfree⟩
      rw [List.forall_mem_cons] at hvalid hfree
      rw [List.map_cons, List.nodup_cons] at hdistinct
      refine ⟨⟨hvalid.1, hfree.1⟩, ⟨hvalid.2, hdistinct.2⟩, fun other hother =>
        ⟨fun hkey => ?_, hfree.2 other hother⟩⟩
      exact hdistinct.1 (List.mem_map.mpr ⟨other, hother, hkey.symm⟩)

/-- A registry is read from the records that are readable. -/
theorem fromRecords_eq_ok {records : List IdentityRecord} :
    (∃ registry, fromRecords records = .ok registry) ↔ Readable records := by
  rw [fromRecords, foldlM_addRecord]
  simp [empty]

end IdentityRegistry

/-! ## Snapshots -/

/-- `struct IdentitySnapshot` (lines 320–324). -/
structure IdentitySnapshot where
  schema : String
  identities : List IdentityRecord
  receipts : List PlaneReceipt
  deriving DecidableEq

namespace IdentitySnapshot

/-- `SNAPSHOT_SCHEMA` (line 23). -/
def snapshotSchema : String := "chatman.agent-lightning.identity.v1"

variable (signing : Signing) (snapshot : IdentitySnapshot)

/-- `IdentitySnapshot::verify` (lines 327–335). -/
def verify : Except PlaneError IdentityRegistry := do
  ensure (snapshot.schema = snapshotSchema) (.refused "IDENTITY_SNAPSHOT_SCHEMA_MISMATCH")
  let _ ← replayPlaneReceipts signing snapshot.receipts
  IdentityRegistry.fromRecords snapshot.identities

variable {signing snapshot} {registry : IdentityRegistry}

/-- The schema, the receipts and the identities are checked, each by itself. -/
theorem verify_eq_ok : snapshot.verify signing = .ok registry ↔
    snapshot.schema = snapshotSchema ∧ PlaneReplays signing snapshot.receipts ∧
      IdentityRegistry.fromRecords snapshot.identities = .ok registry := by
  simp only [verify, bind_eq_ok, ensure_eq_ok, replayPlaneReceipts_eq_ok]
  constructor
  · rintro ⟨_, hschema, _, ⟨hreceipts, -⟩, hidentities⟩
    exact ⟨hschema, hreceipts, hidentities⟩
  · rintro ⟨hschema, hreceipts, hidentities⟩
    exact ⟨(), hschema, _, ⟨hreceipts, rfl⟩, hidentities⟩

end IdentitySnapshot

/-! ## The store -/

/-- `struct IdentityStore` (lines 340–342): the table `agent_lightning_identity_state`. -/
structure IdentityStore where
  rows : Std.ExtTreeMap String (IdentitySnapshot × ℤ)

namespace IdentityStore

variable (signing : Signing) (store : IdentityStore)

/-- `i64::saturating_add(1)`. -/
def nextVersion (version : ℤ) : ℤ := min (version + 1) (2 ^ 63 - 1)

/-- `save` (lines 364–432). -/
def save (tenantKey : String) (snapshot : IdentitySnapshot) (expectedVersion : Option ℤ) :
    Except PlaneError (ℤ × IdentityStore) := do
  ensure (!isBlank tenantKey) (.refused "IDENTITY_STORE_KEY_REQUIRED")
  let _ ← snapshot.verify signing
  match store.rows[tenantKey]? with
  | some (_, current) =>
    ensure (expectedVersion = some current) (.refused "IDENTITY_STORE_VERSION_CONFLICT")
    let next := nextVersion current
    return (next, { rows := store.rows.insert tenantKey (snapshot, next) })
  | none =>
    ensure (expectedVersion = none) (.refused "IDENTITY_STORE_VERSION_CONFLICT")
    return (1, { rows := store.rows.insert tenantKey (snapshot, 1) })

/-- `load` (lines 434–458). -/
def load (tenantKey : String) : Except PlaneError (Option (IdentitySnapshot × ℤ)) := do
  match store.rows[tenantKey]? with
  | none => return none
  | some (snapshot, version) =>
    let _ ← snapshot.verify signing
    return some (snapshot, version)

variable {signing store}

/-- What is saved verifies, and is what the row holds then. -/
theorem save_eq_ok {tenantKey : String} {snapshot : IdentitySnapshot} {expectedVersion : Option ℤ}
    {version : ℤ} {after : IdentityStore}
    (h : store.save signing tenantKey snapshot expectedVersion = .ok (version, after)) :
    (∃ registry, snapshot.verify signing = .ok registry) ∧
      after.rows[tenantKey]? = some (snapshot, version) := by
  simp only [save, bind_eq_ok] at h
  obtain ⟨_, -, registry, hverify, h⟩ := h
  refine ⟨⟨registry, hverify⟩, ?_⟩
  cases hrow : store.rows[tenantKey]? with
  | some row =>
    simp only [hrow, bind_eq_ok, pure_eq_ok, Prod.mk.injEq] at h
    obtain ⟨_, -, rfl, rfl⟩ := h
    exact Std.ExtTreeMap.getElem?_insert_self
  | none =>
    simp only [hrow, bind_eq_ok, pure_eq_ok, Prod.mk.injEq] at h
    obtain ⟨_, -, rfl, rfl⟩ := h
    exact Std.ExtTreeMap.getElem?_insert_self

end IdentityStore

end ChatmanEcosystem.AgentLightning
