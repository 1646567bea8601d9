import ChatmanEcosystem.AgentLightning.PeriodBudget

/-!
# Restored identities

The identities of the control plane beside the receipts about them, and what a snapshot of both is
checked for (`crates/ecosystem-runtime/src/agent_lightning_commercial_plane.rs`, lines 305–337,
828–932 and 1199–1209).

Results:

* `replays_reached`: the receipts of a plane replay into its identities.
* `restored_iff_readable`: what a snapshot is restored to, saved by a plane or with other
  identities.
-/

namespace ChatmanEcosystem.AgentLightning

open Commerce Common Core Rust

/-! ## Events -/

open CommercialControlPlane

/-- The receipt of an operation. The fingerprint is not in it. -/
def IdentityRegistry.Recorded (registry : IdentityRegistry) (receipt : PlaneReceipt) :
    IdentityOp → Prop
  | .register organization subject keyId _ =>
    receipt.kind = .identityRegistered ∧ receipt.source = identitySource organization subject ∧
      receipt.core.changed = [keyId]
  | .rotate organization subject keyId fingerprint =>
    receipt.kind = .identityRotated ∧ receipt.source = identitySource organization subject ∧
      ∃ generation,
        registry.validateRotate organization subject keyId fingerprint = .ok generation ∧
        receipt.core.changed = [keyId ++ ":generation:" ++ generation.toNat.repr]
  | .revoke organization subject =>
    receipt.kind = .identityRevoked ∧ receipt.source = identitySource organization subject ∧
      receipt.core.changed = ["active-key-revoked"]

/-- The kinds of the receipts about identities. -/
def PlaneKind.OfIdentity (kind : PlaneKind) : Prop :=
  kind = .identityRegistered ∨ kind = .identityRotated ∨ kind = .identityRevoked

/-- What a receipt says was done to the registry. -/
inductive Event (registry : IdentityRegistry) (receipt : PlaneReceipt) : IdentityRegistry → Prop
  | identity {op : IdentityOp} {after : IdentityRegistry} (recorded : registry.Recorded receipt op)
      (replayed : registry.call op = .ok after) : Event registry receipt after
  | other (kind : ¬ receipt.kind.OfIdentity) : Event registry receipt registry

/-- The events of the receipts, replayed one after another. -/
inductive Replays : IdentityRegistry → List PlaneReceipt → IdentityRegistry → Prop
  | nil {registry : IdentityRegistry} : Replays registry [] registry
  | cons {registry middle after : IdentityRegistry} {receipt : PlaneReceipt}
      {receipts : List PlaneReceipt} (event : Event registry receipt middle)
      (rest : Replays middle receipts after) : Replays registry (receipt :: receipts) after

variable {after : IdentityRegistry} {receipts : List PlaneReceipt}

theorem Replays.append {registry middle : IdentityRegistry} {before : List PlaneReceipt}
    (h : Replays registry before middle) (hrest : Replays middle receipts after) :
    Replays registry (before ++ receipts) after := by
  induction h with
  | nil => exact hrest
  | cons event _ ih => exact .cons event (ih hrest)

variable {receipt : PlaneReceipt}

theorem Replays.single {registry : IdentityRegistry} (h : Event registry receipt after) :
    Replays registry [receipt] after := .cons h .nil

/-- An event leaves every record under the key of its own identity. -/
theorem Event.placed {registry : IdentityRegistry} (h : Event registry receipt after)
    (hplaced : registry.Placed) : after.Placed := by
  cases h with
  | other => exact hplaced
  | identity _ replayed =>
    cases IdentityRegistry.call_change replayed with
    | registered => exact hplaced.store rfl
    | @rotated organization subject keyId fingerprint record rotates =>
      have hid := hplaced _ _ rotates.stored
      exact @hplaced.store _ _ _ (record.rotated keyId fingerprint) hid
    | @revoked organization subject record stored =>
      have hid := hplaced _ _ stored
      exact @hplaced.store _ _ _ record.revoked hid

theorem Replays.placed {registry : IdentityRegistry} (h : Replays registry receipts after)
    (hplaced : registry.Placed) : after.Placed := by
  induction h with
  | nil => exact hplaced
  | cons event _ ih => exact ih (event.placed hplaced)

namespace CommercialControlPlane

open Method

variable {signing : Signing} {plane : CommercialControlPlane}

/-! ## What a call records -/

/-- The receipts of the plane verify as a chain, and replay into its identities. -/
structure Justified (signing : Signing) (plane : CommercialControlPlane) : Prop where
  chained : PlaneReplays signing plane.receipts
  replays : Replays .empty plane.receipts plane.identities

variable {before after : CommercialControlPlane} {kind : PlaneKind} {source change : String}
  {authority : Authority} {receipt : PlaneReceipt}

/-- A receipt is manufactured and pushed, with what it records of the identities. -/
theorem Justified.pushed (h : before.Justified signing)
    (hreceipt : before.manufactureReceipt signing kind source change authority = .ok receipt)
    (hreceipts : after.receipts = before.receipts ++ [receipt])
    (hevent : Event before.identities receipt after.identities) : after.Justified signing where
  chained := by
    have hverify : receipt.verify signing = .ok () := by
      simp only [manufactureReceipt, bind_eq_ok, pure_eq_ok] at hreceipt
      obtain ⟨_, -, _, -, _, -, _, hverify, rfl⟩ := hreceipt
      exact hverify
    obtain ⟨-, -, -, -, rfl⟩ := manufactureReceipt_eq_ok.mp hreceipt
    rw [hreceipts]
    refine ⟨fun other hother => ?_, linked_concat.mpr ⟨h.chained.linked, rfl⟩⟩
    rcases List.mem_append.mp hother with hbefore | hnew
    · exact h.chained.verified other hbefore
    · rw [List.mem_singleton.mp hnew]
      exact hverify
  replays := by
    rw [hreceipts]
    exact h.replays.append (.single hevent)

/-- A receipt about something else is manufactured and pushed. -/
theorem Justified.issued (h : before.Justified signing)
    (hreceipt : before.manufactureReceipt signing kind source change authority = .ok receipt)
    (hkind : ¬ kind.OfIdentity) (hreceipts : after.receipts = before.receipts ++ [receipt])
    (hidentities : after.identities = before.identities) : after.Justified signing := by
  refine h.pushed hreceipt hreceipts ?_
  obtain ⟨-, -, -, -, rfl⟩ := manufactureReceipt_eq_ok.mp hreceipt
  rw [hidentities]
  exact .other hkind

/-- The service is no part of it. -/
theorem Justified.service (h : plane.Justified signing) (service : Service) :
    { plane with service }.Justified signing := ⟨h.chained, h.replays⟩

/-- A method of the service, whatever it does, and what comes after it. -/
theorem yields_onService {α β : Type} {method : Method Service Error α}
    {f : α → Method CommercialControlPlane PlaneError β}
    {Q : Except PlaneError β → CommercialControlPlane → Prop}
    (herror : ∀ error service, Q (.error error) { plane with service })
    (hok : ∀ a service, (f a).Yields { plane with service } Q) :
    (onService method >>= f).Yields plane Q := by
  refine yields_bind (fun error after hcall => ?_) fun a after hcall => ?_
  · obtain rfl : { plane with service := (method.call plane.service).2 } = after :=
      congrArg Prod.snd hcall
    exact herror error _
  · obtain rfl : { plane with service := (method.call plane.service).2 } = after :=
      congrArg Prod.snd hcall
    exact hok a _

/-- A receipt of an operation is issued, and pushed after what the operation does. -/
theorem Justified.operation (h : plane.Justified signing) {op : IdentityOp}
    (identities : IdentityRegistry → IdentityRegistry)
    (hcall : plane.identities.call op = .ok (identities plane.identities))
    (hrecorded : plane.identities.Recorded (plane.issue signing kind source change authority) op) :
    (do
      let receipt ← check <| plane.manufactureReceipt signing kind source change authority
      modify fun plane => { plane with identities := identities plane.identities }
      modify (push · receipt)
      return receipt.core.digest : Method CommercialControlPlane PlaneError String).Yields plane
        fun _ after => after.Justified signing := by
  refine yields_check_bind (fun _ _ => h) fun receipt hreceipt => ?_
  refine yields_modify_bind (yields_modify_bind (yields_pure (h.pushed hreceipt rfl ?_)))
  obtain ⟨-, -, -, -, rfl⟩ := manufactureReceipt_eq_ok.mp hreceipt
  exact .identity hrecorded hcall

theorem Justified.registerKey (h : plane.Justified signing)
    (organization subject keyId fingerprint : String)
    (authority : Authority) :
    (registerKey signing organization subject keyId fingerprint authority).Yields plane
      fun _ after => after.Justified signing := by
  refine yields_check_bind (fun _ _ => h) fun _ _ => yields_get_bind ?_
  refine yields_check_bind (fun _ _ => h) fun _ hvalid => ?_
  have hcall : plane.identities.call (.register organization subject keyId fingerprint) =
      .ok (plane.identities.applyRegister organization subject keyId fingerprint) :=
    bind_eq_ok.mpr ⟨(), hvalid, rfl⟩
  exact h.operation
    (fun identities => identities.applyRegister organization subject keyId fingerprint)
    hcall ⟨rfl, rfl, rfl⟩

theorem Justified.rotateKey (h : plane.Justified signing)
    (organization subject keyId fingerprint : String)
    (authority : Authority) :
    (rotateKey signing organization subject keyId fingerprint authority).Yields plane
      fun _ after => after.Justified signing := by
  refine yields_check_bind (fun _ _ => h) fun _ _ => yields_get_bind ?_
  refine yields_check_bind (fun _ _ => h) fun generation hvalid => ?_
  have hcall : plane.identities.call (.rotate organization subject keyId fingerprint) =
      .ok (plane.identities.applyRotate organization subject keyId fingerprint generation) :=
    bind_eq_ok.mpr ⟨generation, hvalid, rfl⟩
  exact h.operation
    (fun identities => identities.applyRotate organization subject keyId fingerprint generation)
    hcall ⟨rfl, rfl, generation, hvalid, rfl⟩

theorem Justified.revokeIdentity (h : plane.Justified signing) (organization subject : String)
    (authority : Authority) :
    (revokeIdentity signing organization subject authority).Yields plane
      fun _ after => after.Justified signing := by
  refine yields_check_bind (fun _ _ => h) fun _ _ => yields_get_bind ?_
  refine yields_check_bind (fun _ _ => h) fun _ hvalid => ?_
  have hcall : plane.identities.call (.revoke organization subject) =
      .ok (plane.identities.applyRevoke organization subject) := bind_eq_ok.mpr ⟨(), hvalid, rfl⟩
  exact h.operation (fun identities => identities.applyRevoke organization subject)
    hcall ⟨rfl, rfl, rfl⟩

theorem Justified.persist (h : plane.Justified signing) (store : IdentityStore) (tenantKey : String)
    (expectedVersion : Option ℤ) (authority : Authority) :
    (persistIdentitySnapshot signing store tenantKey expectedVersion authority).Yields plane
      fun _ after => after.Justified signing := by
  refine yields_check_bind (fun _ _ => h) fun _ _ => yields_get_bind ?_
  refine yields_check_bind (fun _ _ => h) fun receipt hreceipt => ?_
  refine yields_check_bind (fun _ _ => h) fun _ _ => yields_modify_bind (yields_pure ?_)
  exact h.issued hreceipt nofun rfl rfl

theorem Justified.authorizeRun (h : plane.Justified signing)
    (reservationId organization subject fingerprint : String)
    (authority : Authority) :
    (authorizeRun signing reservationId organization subject fingerprint authority).Yields plane
      fun _ after => after.Justified signing := by
  refine yields_get_bind (yields_check_bind (fun _ _ => h) fun _ _ => ?_)
  refine yields_check_bind (fun _ _ => h) fun _ _ => ?_
  refine yields_check_bind (fun _ _ => h) fun _ _ => ?_
  exact h.service _

theorem Justified.admitRun (h : plane.Justified signing) (organization subject fingerprint : String)
    (request : JobRequest)
    (target : DeploymentTarget) (authority : Authority) :
    (admitRun signing organization subject fingerprint request target authority).Yields plane
      fun _ after => after.Justified signing := by
  refine yields_check_bind (fun _ _ => h) fun _ _ => yields_get_bind ?_
  refine yields_check_bind (fun _ _ => h) fun principal _ => ?_
  refine yields_check_bind (fun _ _ => h) fun _ _ => ?_
  refine yields_check_bind (fun _ _ => h) fun _ _ => ?_
  refine yields_check_bind (fun _ _ => h) fun quote _ => ?_
  cases plane.chargeOf request.idempotencyKey with
  | some existing =>
    refine yields_onService (fun _ service => h.service service) fun reservation service => ?_
    have hserved := h.service service
    exact yields_check_bind (fun _ _ => hserved) fun _ _ => yields_pure hserved
  | none =>
    refine yields_check_bind (fun _ _ => h) fun _ _ => ?_
    refine yields_onService (fun _ service => h.service service) fun reservation service => ?_
    have hserved := h.service service
    refine yields_get_bind ?_
    split
    · exact yields_throw hserved
    · refine yields_check_bind (fun _ _ => hserved) fun receipt hreceipt => ?_
      refine yields_modify_bind (yields_modify_bind (yields_pure ?_))
      exact hserved.issued hreceipt (by simp [PlaneKind.OfIdentity]) rfl rfl

theorem Justified.reconcile (h : plane.Justified signing) (permit : ActuationPermit)
    (actualUsage : Units)
    (authority : Authority) :
    (reconcileAndConstructMetering signing permit actualUsage authority).Yields plane
      fun _ after => after.Justified signing := by
  refine yields_check_bind (fun _ _ => h) fun _ _ => yields_get_bind ?_
  refine yields_check_bind (fun _ _ => h) fun quote _ => ?_
  refine yields_check_bind (fun _ _ => h) fun existing _ => ?_
  cases existing.intent with
  | some intent => exact yields_check_bind (fun _ _ => h) fun _ _ => yields_pure h
  | none =>
    refine yields_check_bind (fun _ _ => h) fun _ _ => ?_
    refine yields_onService (fun _ service => h.service service) fun usageReceipt service => ?_
    have hserved := h.service service
    refine yields_get_bind (yields_check_bind (fun _ _ => hserved) fun receipt hreceipt => ?_)
    refine yields_check_bind (fun _ _ => hserved) fun charge _ => ?_
    refine yields_modify_bind (yields_modify_bind (yields_pure ?_))
    exact hserved.issued hreceipt nofun rfl rfl

theorem Justified.acceptSettlement (h : plane.Justified signing) (intent : MeteringIntent)
    (meter settlement : CommercialReceipt)
    (authority : Authority) :
    (acceptSettlement signing intent meter settlement authority).Yields plane
      fun _ after => after.Justified signing := by
  refine yields_check_bind (fun _ _ => h) fun _ _ => ?_
  refine yields_check_bind (fun _ _ => h) fun _ _ => ?_
  refine yields_check_bind (fun _ _ => h) fun _ _ => ?_
  refine yields_check_bind (fun _ _ => h) fun _ _ => yields_get_bind ?_
  refine yields_check_bind (fun _ _ => h) fun existing _ => ?_
  refine yields_check_bind (fun _ _ => h) fun _ _ => ?_
  by_cases hsettled : existing.settlementReceipt ≠ ""
  · rw [if_pos hsettled]
    exact yields_pure h
  · rw [if_neg hsettled]
    refine yields_check_bind (fun _ _ => h) fun receipt hreceipt => ?_
    refine yields_check_bind (fun _ _ => h) fun charge _ => ?_
    refine yields_modify_bind (yields_modify_bind (yields_pure ?_))
    exact h.issued hreceipt nofun rfl rfl

/-- What a call changes of the identities, the receipts that it pushes record. -/
theorem Justified.call (h : plane.Justified signing) (op : PlaneOp) :
    (call signing op).Yields plane fun _ after => after.Justified signing := by
  cases op with
  | bindEntitlement grant fulfillment authority => exact yields_discard (h.service _)
  | registerKey organization subject keyId fingerprint authority =>
    exact yields_discard (h.registerKey _ _ _ _ _)
  | rotateKey organization subject keyId fingerprint authority =>
    exact yields_discard (h.rotateKey _ _ _ _ _)
  | revokeIdentity organization subject authority =>
    exact yields_discard (h.revokeIdentity _ _ _)
  | persistIdentitySnapshot store tenantKey expectedVersion authority =>
    exact yields_discard (h.persist _ _ _ _)
  | admitRun organization subject fingerprint request target authority =>
    exact yields_discard (h.admitRun _ _ _ _ _ _)
  | authorizeRun reservationId organization subject fingerprint authority =>
    exact yields_discard (h.authorizeRun _ _ _ _ _)
  | reconcileAndConstructMetering permit actualUsage authority =>
    exact yields_discard (h.reconcile _ _ _)
  | acceptSettlement intent meter settlement authority =>
    exact yields_discard (h.acceptSettlement _ _ _ _)

/-- The plane after a call. -/
def next (signing : Signing) (plane : CommercialControlPlane) (op : PlaneOp) :
    CommercialControlPlane := ((call signing op).call plane).2

theorem justified_opened (servicePolicy : Policy) (deployment : DeploymentPolicy)
    (rateCard : RateCard) (budget : BudgetPolicy) (binding : MarketplaceBinding)
    (timestamp : String) :
    (opened servicePolicy deployment rateCard budget binding timestamp).Justified signing where
  chained := ⟨by simp [opened], trivial⟩
  replays := .nil

/-- The receipts of a plane replay into its identities. -/
theorem justified_reached (servicePolicy : Policy) (deployment : DeploymentPolicy)
    (rateCard : RateCard) (budget : BudgetPolicy) (binding : MarketplaceBinding)
    (timestamp : String) (ops : List PlaneOp) :
    (run (next signing) (opened servicePolicy deployment rateCard budget binding timestamp)
      ops).Justified signing :=
  run_invariant (fun _ op h => h.call op) (justified_opened _ _ _ _ _ _) ops

end CommercialControlPlane

/-! ## Snapshots -/

namespace IdentityRegistry

variable {registry : IdentityRegistry} {records : List IdentityRecord}

theorem perm_of_addRecords {start : IdentityRegistry}
    (h : records.foldlM addRecord start = .ok registry) :
    registry.toRecords.Perm (records ++ start.toRecords) := by
  induction records generalizing start with
  | nil =>
    obtain rfl := pure_eq_ok.mp h
    exact .refl _
  | cons first records ih =>
    rw [List.foldlM_cons, bind_eq_ok] at h
    obtain ⟨middle, hadd, hloop⟩ := h
    obtain ⟨-, hfree, rfl⟩ := addRecord_eq_ok.mp hadd
    have hinsert := toList_insert_perm_of_notMem hfree first
    have hstored : (start.store first.organization first.subject first).toRecords.Perm
        (first :: start.toRecords) := hinsert.map Prod.snd
    exact (ih hloop).trans ((hstored.append_left _).trans List.perm_middle)

/-- A registry that is read has the records that it was read from. -/
theorem perm_of_fromRecords (h : fromRecords records = .ok registry) :
    registry.toRecords.Perm records := by
  have hperm := perm_of_addRecords h
  rwa [show empty.toRecords = [] from rfl, List.append_nil] at hperm

end IdentityRegistry

namespace CommercialControlPlane

open Method

variable {signing : Signing} {plane : CommercialControlPlane} {snapshot : IdentitySnapshot}

theorem restoreIdentitySnapshot_eq_ok {records : List IdentityRecord} :
    restoreIdentitySnapshot signing snapshot = .ok records ↔
      ∃ registry, snapshot.verify signing = .ok registry ∧ records = registry.toRecords := by
  rw [restoreIdentitySnapshot, bind_eq_ok]
  exact exists_congr fun registry => and_congr_right fun _ => pure_eq_ok.trans eq_comm

/-- The schema, the receipts and the identities are checked, each by itself. -/
theorem exists_verified : (∃ registry, snapshot.verify signing = .ok registry) ↔
    snapshot.schema = IdentitySnapshot.snapshotSchema ∧ PlaneReplays signing snapshot.receipts ∧
      IdentityRegistry.Readable snapshot.identities := by
  rw [← IdentityRegistry.fromRecords_eq_ok]
  simp only [IdentitySnapshot.verify_eq_ok, exists_and_left]

theorem exists_restored : (∃ records, restoreIdentitySnapshot signing snapshot = .ok records) ↔
    ∃ registry, snapshot.verify signing = .ok registry := by
  simp only [restoreIdentitySnapshot_eq_ok]
  constructor
  · rintro ⟨_, registry, hverify, -⟩
    exact ⟨registry, hverify⟩
  · rintro ⟨registry, hverify⟩
    exact ⟨_, registry, hverify, rfl⟩

/-- What is restored are the identities of the snapshot. -/
theorem perm_of_restored {records : List IdentityRecord}
    (h : restoreIdentitySnapshot signing snapshot = .ok records) :
    records.Perm snapshot.identities := by
  obtain ⟨registry, hverify, rfl⟩ := restoreIdentitySnapshot_eq_ok.mp h
  exact IdentityRegistry.perm_of_fromRecords (IdentitySnapshot.verify_eq_ok.mp hverify).2.2

/-- A snapshot as it was saved: its identities are those that its receipts replay into, and it is
restored with them, or with any that can be read in their place. -/
structure Saved (signing : Signing) (snapshot : IdentitySnapshot) : Prop where
  justified : ∃ registry, Replays .empty snapshot.receipts registry ∧
    snapshot.identities = registry.toRecords
  restored : restoreIdentitySnapshot signing snapshot = .ok snapshot.identities
  altered : ∀ identities,
    (∃ records, restoreIdentitySnapshot signing { snapshot with identities } = .ok records) ↔
      IdentityRegistry.Readable identities

variable {store : IdentityStore} {tenantKey : String}

/-- The snapshot that `persist_identity_snapshot` saves. -/
theorem Justified.saved (h : plane.Justified signing) {saved : IdentityStore}
    {expectedVersion : Option ℤ} {authority : Authority} {version : ℤ}
    (hpersist : ((persistIdentitySnapshot signing store tenantKey expectedVersion authority).call
      plane).1 = .ok (version, saved)) :
    ∃ snapshot, saved.rows[tenantKey]? = some (snapshot, version) ∧
      snapshot.identities = plane.identities.toRecords ∧ Saved signing snapshot := by
  have hyields : (persistIdentitySnapshot signing store tenantKey expectedVersion authority).Yields
      plane fun reply _ => reply = .ok (version, saved) → ∃ receipt,
        plane.manufactureReceipt signing .identitySnapshotPersisted tenantKey "identity-snapshot"
          authority = .ok receipt ∧
        store.save signing tenantKey (plane.snapshot receipt) expectedVersion =
          .ok (version, saved) := by
    refine yields_check_bind (fun _ _ h => nomatch h) fun _ _ => yields_get_bind ?_
    refine yields_check_bind (fun _ _ h => nomatch h) fun receipt hreceipt => ?_
    refine yields_check_bind (fun _ _ h => nomatch h) fun result hsave => ?_
    refine yields_modify_bind (yields_pure fun hresult => ⟨receipt, hreceipt, ?_⟩)
    rw [hsave, Except.ok.inj hresult]
  obtain ⟨receipt, hreceipt, hsave⟩ := hyields hpersist
  obtain ⟨⟨registry, hverify⟩, hrow⟩ := IdentityStore.save_eq_ok hsave
  obtain ⟨hschema, hreceipts, hread⟩ := IdentitySnapshot.verify_eq_ok.mp hverify
  have hpersisted : (plane.push receipt).Justified signing := h.issued hreceipt nofun rfl rfl
  have hplaced : plane.identities.Placed := h.replays.placed (by
    intro id record hstored
    rw [IdentityRegistry.empty, Std.ExtTreeMap.getElem?_empty] at hstored
    cases hstored)
  have hread' : IdentityRegistry.fromRecords plane.identities.toRecords = .ok registry := hread
  have hsame : registry = plane.identities := by
    have hback := IdentityRegistry.fromRecords_toRecords hplaced fun _ _ hstored =>
      IdentityRegistry.valid_of_toRecords hread' hstored
    exact Except.ok.inj (hread'.symm.trans hback)
  refine ⟨_, hrow, rfl, ⟨plane.identities, hpersisted.replays, rfl⟩, ?_, fun identities => ?_⟩
  · exact restoreIdentitySnapshot_eq_ok.mpr ⟨registry, hverify, hsame ▸ rfl⟩
  · rw [exists_restored, exists_verified]
    exact ⟨fun hall => hall.2.2, fun hreadable => ⟨hschema, hreceipts, hreadable⟩⟩

/-- Identities that can be read are saved. -/
theorem Justified.saves (h : plane.Justified signing) (hkey : isBlank tenantKey = false)
    (hdated : isBlank plane.timestamp = false)
    (hreadable : IdentityRegistry.Readable plane.identities.toRecords)
    (hrow : store.rows[tenantKey]? = none) : ∃ saved,
    ((persistIdentitySnapshot signing store tenantKey none .persistControlPlane).call plane).1 =
      .ok (1, saved) := by
  obtain ⟨receipt, hreceipt⟩ : ∃ receipt, plane.manufactureReceipt signing
      .identitySnapshotPersisted tenantKey "identity-snapshot" .persistControlPlane = .ok receipt :=
    ⟨_, manufactureReceipt_eq_ok.mpr ⟨rfl, hkey, by decide, hdated, rfl⟩⟩
  have hpersisted : (plane.push receipt).Justified signing := h.issued hreceipt nofun rfl rfl
  obtain ⟨registry, hread⟩ := IdentityRegistry.fromRecords_eq_ok.mpr hreadable
  have hverify : (plane.snapshot receipt).verify signing = .ok registry :=
    IdentitySnapshot.verify_eq_ok.mpr ⟨rfl, hpersisted.chained, hread⟩
  have hsave : ∃ saved, store.save signing tenantKey (plane.snapshot receipt) none =
      .ok (1, saved) := by
    simp only [IdentityStore.save, bind_eq_ok, ensure_eq_ok, hrow, pure_eq_ok]
    exact ⟨_, (), by simp [hkey], registry, hverify, (), trivial, rfl⟩
  obtain ⟨saved, hsave⟩ := hsave
  have hyields : (persistIdentitySnapshot signing store tenantKey none
      .persistControlPlane).Yields plane fun reply _ => reply = .ok (1, saved) := by
    refine yields_ensure_bind rfl (yields_get_bind (yields_ok_bind hreceipt ?_))
    exact yields_ok_bind hsave (yields_modify_bind (yields_pure rfl))
  exact ⟨saved, hyields⟩

/-- The schema, the receipts and the identities of a snapshot are checked, each by itself. A
snapshot that a plane saved has the identities that its receipts replay into; with others in their
place it is restored exactly when they are valid records of different identities. -/
theorem restored_iff_readable (signing : Signing) :
    (∀ snapshot, (∃ registry, IdentitySnapshot.verify signing snapshot = .ok registry) ↔
      snapshot.schema = IdentitySnapshot.snapshotSchema ∧ PlaneReplays signing snapshot.receipts ∧
        IdentityRegistry.Readable snapshot.identities) ∧
    (∀ snapshot records, restoreIdentitySnapshot signing snapshot = .ok records →
      records.Perm snapshot.identities) ∧
    ∀ servicePolicy deployment rateCard budget binding timestamp ops store tenantKey
        expectedVersion authority version saved,
      ((persistIdentitySnapshot signing store tenantKey expectedVersion authority).call
        (run (next signing) (opened servicePolicy deployment rateCard budget binding timestamp)
          ops)).1 = .ok (version, saved) →
      ∃ snapshot, saved.rows[tenantKey]? = some (snapshot, version) ∧ Saved signing snapshot := by
  refine ⟨fun snapshot => exists_verified, fun snapshot records => perm_of_restored, ?_⟩
  intro servicePolicy deployment rateCard budget binding timestamp ops store tenantKey
    expectedVersion authority version saved hpersist
  have hreached := @justified_reached signing servicePolicy deployment rateCard budget binding
    timestamp ops
  obtain ⟨snapshot, hrow, -, hsaved⟩ := hreached.saved hpersist
  exact ⟨snapshot, hrow, hsaved⟩

/-! ### A key that is revoked -/

/-- A key is registered and revoked. -/
def revokedKey : List PlaneOp :=
  [.registerKey operator.organization operator.subject "key-1" operator.keyFingerprint
      .persistControlPlane,
    .revokeIdentity operator.organization operator.subject .persistControlPlane]

/-- The record of the key while it is active. -/
def operatorRecord : IdentityRecord :=
  .registered operator.organization operator.subject "key-1" operator.keyFingerprint

/-- What the plane has of the key once it is revoked. -/
theorem run_revokedKey (signing : Signing) :
    (run (next signing) fixturePlane revokedKey).identities.toRecords = [operatorRecord.revoked] ∧
      (run (next signing) fixturePlane revokedKey).timestamp = fixturePlane.timestamp := by
  have hdated : isBlank fixturePlane.timestamp = false := by decide
  obtain ⟨first, hregistered⟩ := @registerKey_of_valid signing fixturePlane _ _ _ _
    validateRegister_operator hdated
  obtain ⟨registered, hplane⟩ : ∃ registered, registered = push { fixturePlane with
    identities := IdentityRegistry.empty.applyRegister operator.organization operator.subject
      "key-1" operator.keyFingerprint } first := ⟨_, rfl⟩
  have hnext : next signing fixturePlane (.registerKey operator.organization operator.subject
      "key-1" operator.keyFingerprint .persistControlPlane) = registered := by
    refine (congrArg Prod.snd (Method.call_discard _)).trans ?_
    rw [hplane]
    exact hregistered
  have hstored : registered.identities.records[IdentityRegistry.identityKey
      operator.organization operator.subject]? = some operatorRecord := by
    rw [hplane]
    exact IdentityRegistry.store_self
  have hactive : registered.identities.validateRevoke operator.organization operator.subject =
      .ok () := by
    rw [IdentityRegistry.validateRevoke, hstored]
    rfl
  have htimestamp : registered.timestamp = fixturePlane.timestamp := by rw [hplane]; rfl
  obtain ⟨second, hrevoked⟩ := @revokeIdentity_of_valid signing registered _ _ hactive
    (htimestamp ▸ hdated)
  have hlast : next signing registered (.revokeIdentity operator.organization operator.subject
      .persistControlPlane) = push { registered with
        identities := registered.identities.applyRevoke operator.organization
          operator.subject } second :=
    (congrArg Prod.snd (Method.call_discard _)).trans hrevoked
  rw [revokedKey, run_cons, hnext, run_cons, hlast, run_nil]
  refine ⟨?_, htimestamp⟩
  show (registered.identities.applyRevoke operator.organization operator.subject).toRecords = _
  rw [hplane]
  show ((IdentityRegistry.empty.applyRegister operator.organization operator.subject "key-1"
    operator.keyFingerprint).applyRevoke operator.organization operator.subject).toRecords = _
  decide +kernel

/-- A record of the key that has valid fields can be read alone. -/
theorem readable_singleton {record : IdentityRecord} (h : record.Valid) :
    IdentityRegistry.Readable [record] :=
  ⟨List.forall_mem_singleton.mpr h, List.nodup_singleton _⟩

theorem valid_operatorRecord : operatorRecord.Valid ∧ operatorRecord.revoked.Valid := by
  simp only [← @IdentityRecord.validate_eq_ok _ ()]
  decide +kernel

/-- The snapshot of a plane in which a key is revoked. -/
theorem exists_saved_revoked (signing : Signing) : ∃ saved snapshot,
    ((persistIdentitySnapshot signing { rows := ∅ } "tenant" none .persistControlPlane).call
      (run (next signing) fixturePlane revokedKey)).1 = .ok (1, saved) ∧
    saved.rows["tenant"]? = some (snapshot, 1) ∧ snapshot.identities = [operatorRecord.revoked] ∧
    Saved signing snapshot := by
  obtain ⟨hidentities, htimestamp⟩ := run_revokedKey signing
  have hjustified : (run (next signing) fixturePlane revokedKey).Justified signing :=
    justified_reached _ _ _ _ _ _ _
  have hdated : isBlank (run (next signing) fixturePlane revokedKey).timestamp = false := by
    rw [htimestamp]
    decide
  have hreadable : IdentityRegistry.Readable
      (run (next signing) fixturePlane revokedKey).identities.toRecords := by
    rw [hidentities]
    exact readable_singleton valid_operatorRecord.2
  obtain ⟨saved, hpersist⟩ := hjustified.saves (by decide : isBlank "tenant" = false) hdated
    hreadable (Std.ExtTreeMap.getElem?_empty : (∅ : Std.ExtTreeMap _ _)["tenant"]? = none)
  obtain ⟨snapshot, hrow, hsnapshot, hsaved⟩ := hjustified.saved hpersist
  exact ⟨saved, snapshot, hpersist, hrow, hsnapshot.trans hidentities, hsaved⟩

/-- The snapshot of a plane in which a key is revoked is restored with the key active again, its
receipts as they were. -/
theorem reactivated_key_restored : ∃ saved snapshot,
    ((persistIdentitySnapshot sampleSigning { rows := ∅ } "tenant" none
      .persistControlPlane).call (run (next sampleSigning) fixturePlane revokedKey)).1 =
        .ok (1, saved) ∧
    saved.rows["tenant"]? = some (snapshot, 1) ∧ snapshot.identities = [operatorRecord.revoked] ∧
    restoreIdentitySnapshot sampleSigning { snapshot with identities := [operatorRecord] } =
      .ok [operatorRecord] := by
  obtain ⟨saved, snapshot, hpersist, hrow, hidentities, hsaved⟩ :=
    exists_saved_revoked sampleSigning
  refine ⟨saved, snapshot, hpersist, hrow, hidentities, ?_⟩
  obtain ⟨records, hrestored⟩ :=
    (hsaved.altered [operatorRecord]).mpr (readable_singleton valid_operatorRecord.1)
  rw [hrestored, List.perm_singleton.mp (perm_of_restored hrestored)]

/-- The snapshot of a plane in which a key is revoked is one that the plane saved. -/
theorem saved_revokedKey : ∃ saved snapshot,
    ((persistIdentitySnapshot sampleSigning { rows := ∅ } "tenant" none
      .persistControlPlane).call (run (next sampleSigning) fixturePlane revokedKey)).1 =
        .ok (1, saved) ∧
    saved.rows["tenant"]? = some (snapshot, 1) ∧ Saved sampleSigning snapshot := by
  obtain ⟨saved, -, hpersist, -⟩ := exists_saved_revoked sampleSigning
  obtain ⟨snapshot, hrow, hsaved⟩ := (restored_iff_readable sampleSigning).2.2 _ _ _ _ _ _ _ _ _ _
    _ _ _ hpersist
  exact ⟨saved, snapshot, hpersist, hrow, hsaved⟩

end CommercialControlPlane

end ChatmanEcosystem.AgentLightning
