import ChatmanEcosystem.Common.Chain
import ChatmanEcosystem.Commerce.Outline

/-!
# Replaying the receipts

Model of `replay_verify` (`crates/ecosystem-runtime/src/commerce.rs`, lines
574–584), and what the receipts of a reachable ledger are: each one verifies,
their digests and their states are linked, and the kinds that advance the
lifecycle are the first ones of it, in order.

Results:

* `verifyChain_eq_ok`: what the loop of `replay_verify` accepts.
* `chained_next`: every call keeps the chain, refused or not.
* `replays_run`: every reachable ledger replays.
-/

namespace ChatmanEcosystem.Commerce

open Common Core Rust

/-! ## The kinds that advance -/

/-- The kinds that advance the lifecycle, in its order. -/
def lifecycle : List ReceiptKind :=
  [.agreementObserved, .entitlementAdmitted, .fulfillmentAuthorized, .manufactureBound,
    .deliveryBound, .deliveryVerified, .usageDerived, .meterAccepted, .settlementReconciled]

/-- The kind advances the lifecycle: from some state it leads to another. -/
def ReceiptKind.Advances (kind : ReceiptKind) : Prop :=
  ∃ before after, nextState before kind = .ok after ∧ after ≠ before

/-- A kind of the lifecycle leads from the state at its position to the next one, and no other
kind leads to another state. -/
theorem nextState_lifecycle {before after : CommercialState} {kind : ReceiptKind}
    (h : nextState before kind = .ok after) :
    (lifecycle[before.rank]? = some kind ∧ after.rank = before.rank + 1) ∨
      (kind ∉ lifecycle ∧ after = before) := by
  cases kind <;> cases before <;> cases h <;> decide

theorem advances_iff_mem_lifecycle {kind : ReceiptKind} : kind.Advances ↔ kind ∈ lifecycle := by
  constructor
  · rintro ⟨before, after, h, hne⟩
    rcases nextState_lifecycle h with ⟨hkind, -⟩ | ⟨-, hsame⟩
    · exact List.mem_of_getElem? hkind
    · exact absurd hsame hne
  · intro h
    have hadvances : ∀ kind ∈ lifecycle, ∃ before ∈ [CommercialState.discovered,
        .agreementObserved, .entitled, .fulfilled, .manufactured, .delivered, .verified,
        .usageRecorded, .metered], ∃ after ∈ [CommercialState.agreementObserved, .entitled,
        .fulfilled, .manufactured, .delivered, .verified, .usageRecorded, .metered, .reconciled],
        nextState before kind = .ok after ∧ after ≠ before := by decide
    obtain ⟨before, -, after, -, hnext⟩ := hadvances kind h
    exact ⟨before, after, hnext⟩

instance (kind : ReceiptKind) : Decidable kind.Advances :=
  decidable_of_iff (kind ∈ lifecycle) advances_iff_mem_lifecycle.symm

namespace CommerceLedger

/-! ## `replay_verify` -/

section

variable (signing : Signing)

/-- The loop of `replay_verify` (lines 576–582). -/
def verifyChain : String → List CommercialReceipt → Except CommerceError Unit
  | _, [] => return ()
  | previous, receipt :: receipts => do
    receipt.verify signing
    ensure (receipt.previousDigest = previous) (.receipt "RECEIPT_CHAIN_MISMATCH")
    verifyChain receipt.core.digest receipts

/-- `replay_verify` (lines 574–584). -/
def replayVerify (ledger : CommerceLedger) : Except CommerceError ℕ := do
  verifyChain signing "" ledger.receipts
  return ledger.receipts.length

end

variable {signing : Signing} {ledger preset : CommerceLedger} {input : TransitionInput}

/-- Receipts joined by their digests. -/
abbrev DigestsLinked (previous : String) (receipts : List CommercialReceipt) : Prop :=
  Linked (·.core.digest) (·.previousDigest) previous receipts

/-- Receipts joined by their states. -/
abbrev StatesLinked (before : CommercialState) (receipts : List CommercialReceipt) : Prop :=
  Linked (·.stateAfter) (·.stateBefore) before receipts

/-- The loop accepts the receipts that verify and whose digests are linked. -/
theorem verifyChain_eq_ok {previous : String} {receipts : List CommercialReceipt} :
    verifyChain signing previous receipts = .ok () ↔
      (∀ receipt ∈ receipts, receipt.verify signing = .ok ()) ∧
        DigestsLinked previous receipts := by
  induction receipts generalizing previous with
  | nil => simp [verifyChain, Linked, pure, Except.pure]
  | cons receipt receipts ih =>
    simp only [verifyChain, bind_eq_ok, ensure_eq_ok, ih, List.forall_mem_cons, Linked]
    constructor
    · rintro ⟨_, hverify, _, hprevious, hrest, hlinked⟩
      exact ⟨⟨hverify, hrest⟩, hprevious, hlinked⟩
    · rintro ⟨⟨hverify, hrest⟩, hprevious, hlinked⟩
      exact ⟨(), hverify, (), hprevious, hrest, hlinked⟩

theorem replayVerify_eq_ok {ledger : CommerceLedger} {n : ℕ} :
    ledger.replayVerify signing = .ok n ↔
      (∀ receipt ∈ ledger.receipts, receipt.verify signing = .ok ()) ∧
        DigestsLinked "" ledger.receipts ∧ ledger.receipts.length = n := by
  rw [replayVerify, bind_eq_ok, ← and_assoc, ← verifyChain_eq_ok]
  exact ⟨fun ⟨_, hchain, hlength⟩ => ⟨hchain, pure_eq_ok.mp hlength⟩,
    fun ⟨hchain, hlength⟩ => ⟨(), hchain, pure_eq_ok.mpr hlength⟩⟩

/-! ## The chain of a reachable ledger -/

/-- The kinds of the receipts that advance the lifecycle. -/
def advancing (ledger : CommerceLedger) : List ReceiptKind :=
  (ledger.receipts.map (·.kind)).filter (·.Advances)

/-- The receipts verify, are linked by their digests and by their states, up to the state of the
ledger, and the advancing kinds are the first ones of the lifecycle. -/
structure Chained (signing : Signing) (ledger : CommerceLedger) : Prop where
  verified : ∀ receipt ∈ ledger.receipts, receipt.verify signing = .ok ()
  digests : DigestsLinked "" ledger.receipts
  states : StatesLinked .discovered ledger.receipts
  state : tip (·.stateAfter) .discovered ledger.receipts = ledger.state
  advancing : ledger.advancing = lifecycle.take ledger.state.rank

theorem chained_opened (context : CommerceContext) : (opened context).Chained signing where
  verified := by simp [opened]
  digests := trivial
  states := trivial
  state := rfl
  advancing := rfl

/-- The assignments leave the chain alone. -/
theorem SameRecord.chained (h : preset.SameRecord ledger) (hchained : ledger.Chained signing) :
    preset.Chained signing := by
  obtain ⟨hverified, hdigests, hstates, hstate, hadvancing⟩ := hchained
  constructor
  · rw [h.receipts]
    exact hverified
  · rw [h.receipts]
    exact hdigests
  · rw [h.receipts]
    exact hstates
  · rw [h.receipts, h.state]
    exact hstate
  · rw [CommerceLedger.advancing, h.receipts, h.state]
    exact hadvancing

/-- A receipt that is issued continues the chain. -/
theorem Chained.record {after : CommercialState} (h : ledger.Chained signing)
    (hauthority : input.authority = input.kind.authority) (hevent : isBlank input.eventRef = false)
    (hlawful : nextState ledger.state input.kind = .ok after) :
    (ledger.record input (ledger.issue signing input after)).Chained signing := by
  have hreceipt : (ledger.issue signing input after).verify signing = .ok () :=
    (issue_verify hauthority).mpr hevent
  constructor
  · intro receipt hmem
    rcases List.mem_append.mp hmem with hmem | hmem
    · exact h.verified receipt hmem
    · rw [List.mem_singleton.mp hmem]
      exact hreceipt
  · exact linked_concat.mpr ⟨h.digests, rfl⟩
  · exact linked_concat.mpr ⟨h.states, h.state.symm⟩
  · exact tip_concat ..
  · have hkinds : (ledger.record input (ledger.issue signing input after)).advancing =
        ledger.advancing ++ [input.kind].filter (·.Advances) := by
      simp only [CommerceLedger.advancing, CommerceLedger.record, List.map_append,
        List.filter_append]
      rfl
    rw [hkinds, h.advancing]
    show _ = lifecycle.take after.rank
    rcases nextState_lifecycle hlawful with ⟨hkind, hrank⟩ | ⟨hkind, rfl⟩
    · have hadvances : input.kind.Advances :=
        advances_iff_mem_lifecycle.mpr (List.mem_of_getElem? hkind)
      rw [List.filter_cons_of_pos (by simpa using hadvances), List.filter_nil, hrank,
        List.take_add_one, hkind]
      rfl
    · have hstays : ¬ input.kind.Advances := fun h => hkind (advances_iff_mem_lifecycle.mp h)
      rw [List.filter_cons_of_neg (by simpa using hstays), List.filter_nil, List.append_nil]

/-- Every call keeps the chain, whether it is refused or not. -/
theorem chained_next (signing : Signing) (ledger : CommerceLedger) (op : Op)
    (h : ledger.Chained signing) : (ledger.next signing op).Chained signing := by
  cases hprepare : ledger.prepare op with
  | error error =>
    rw [next_of_error hprepare]
    exact h
  | ok prepared =>
    obtain ⟨preset, input⟩ := prepared
    obtain ⟨hframe, hauthority⟩ := prepare_frame hprepare
    have hpreset := hframe.chained h
    rcases next_of_prepare signing hprepare with ⟨after, hissue, hnext⟩ | ⟨-, hnext⟩
    · rw [hnext]
      exact hpreset.record hauthority hissue.event (hframe.state ▸ hissue.lawful)
    · rw [hnext]
      exact hpreset

/-- Every reachable ledger replays, its states are linked from `Discovered` on, and the kinds that
advance the lifecycle are different ones, in the order of the lifecycle from its beginning. -/
theorem replays_run (signing : Signing) (context : CommerceContext) (ops : List Op) :
    let ledger := run (next signing) (opened context) ops
    ledger.replayVerify signing = .ok ledger.receipts.length ∧
      StatesLinked .discovered ledger.receipts ∧
      tip (·.stateAfter) .discovered ledger.receipts = ledger.state ∧
      ledger.advancing = lifecycle.take ledger.state.rank ∧ ledger.advancing.Nodup := by
  intro ledger
  have h : ledger.Chained signing :=
    run_invariant (chained_next signing) (chained_opened context) ops
  have hnodup : lifecycle.Nodup := by decide
  refine ⟨replayVerify_eq_ok.mpr ⟨h.verified, h.digests, rfl⟩, h.states, h.state, h.advancing, ?_⟩
  rw [h.advancing]
  exact hnodup.sublist (List.take_sublist _ _)

end CommerceLedger

end ChatmanEcosystem.Commerce
