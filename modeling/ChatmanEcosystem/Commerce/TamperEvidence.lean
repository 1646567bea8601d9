import ChatmanEcosystem.Commerce.Replay
import ChatmanEcosystem.Commerce.Redelivery

/-!
# Altered receipts

What `CommercialReceipt::verify` and `replay_verify`
(`crates/ecosystem-runtime/src/commerce.rs`, lines 257–270 and 574–584) see of a
receipt that was altered after it was issued and still carries its digest. The
digest covers the core receipt; the kind counts only by its authority, and the
previous digest only in the chain.

Results:

* `verify_altered_iff`: when an altered receipt verifies.
* `altered_iff`: when altered receipts pass, alone and in the chain.
-/

namespace ChatmanEcosystem.Commerce

open Common Core Rust

/-- The altered receipt has what `verify` looks at: the core receipt, a kind of the same authority,
and an event reference that is not blank. -/
structure CommercialReceipt.Unseen (receipt altered : CommercialReceipt) : Prop where
  core : altered.core = receipt.core
  authority : altered.kind.authority = receipt.kind.authority
  event : isBlank altered.providerEventRef = false

/-- Two receipts do not collide: if their digests are the same, so is everything they are
calculated from. -/
def CommercialReceipt.Apart (signing : Signing) (receipt altered : CommercialReceipt) : Prop :=
  ¬ Collides (Receipt.calculateDigest signing) { receipt.core with digest := "" }
    { altered.core with digest := "" }

namespace CommerceLedger

variable {signing : Signing} {receipt altered : CommercialReceipt}

theorem eq_of_unsigned {a b : Receipt}
    (h : ({ a with digest := "" } : Receipt) = { b with digest := "" })
    (hdigest : a.digest = b.digest) : a = b := by
  cases a
  cases b
  simp_all

/-- The digest of a core receipt that verifies. -/
theorem verify_core_digest {core : Receipt} (h : core.verify signing = .ok ()) :
    core.digest = core.calculateDigest signing := by
  simp only [Receipt.verify, bind_eq_ok, ensure_eq_ok] at h
  obtain ⟨_, -, _, -, _, -, -, hdigest⟩ := h
  exact hdigest

/-- What `verify` looks at. -/
theorem verify_eq_ok {receipt : CommercialReceipt} :
    receipt.verify signing = .ok () ↔ receipt.core.verify signing = .ok () ∧
      receipt.core.authority = receipt.kind.authority ∧
      isBlank receipt.providerEventRef = false := by
  unfold CommercialReceipt.verify
  cases hcore : receipt.core.verify signing with
  | error error => simp [bind, Except.bind]
  | ok u => simp [bind_eq_ok]

/-- A receipt that carries the digest of one that verifies does so as well exactly when the
alteration is one that `verify` does not see. -/
theorem verify_altered_iff (hverify : receipt.verify signing = .ok ())
    (hdigest : altered.core.digest = receipt.core.digest) (hapart : receipt.Apart signing altered) :
    altered.verify signing = .ok () ↔ receipt.Unseen altered := by
  obtain ⟨hcore, hauthority, -⟩ := verify_eq_ok.mp hverify
  rw [verify_eq_ok]
  constructor
  · rintro ⟨hcore', hauthority', hevent⟩
    have hcalculated : receipt.core.calculateDigest signing =
        altered.core.calculateDigest signing := by
      rw [← verify_core_digest hcore, ← verify_core_digest hcore', hdigest]
    have hunsigned : ({ receipt.core with digest := "" } : Receipt) =
        { altered.core with digest := "" } := by
      have hcalculated' : Receipt.calculateDigest signing { receipt.core with digest := "" } =
          Receipt.calculateDigest signing { altered.core with digest := "" } := hcalculated
      exact (eq_or_collides hcalculated').resolve_right hapart
    have hsame : altered.core = receipt.core := eq_of_unsigned hunsigned.symm hdigest
    exact ⟨hsame, by rw [← hauthority', ← hauthority, hsame], hevent⟩
  · rintro ⟨hsame, hkind, hevent⟩
    exact ⟨hsame ▸ hcore, by rw [hsame, hauthority, hkind], hevent⟩

/-! ## Altered chains -/

/-- The altered receipt has what `replay_verify` looks at. -/
structure Overlooked (receipt altered : CommercialReceipt) : Prop extends
    receipt.Unseen altered where
  previous : altered.previousDigest = receipt.previousDigest

/-- The receipt was altered in a way that leaves it its digest, which is not one of another text. -/
def KeepsDigest (signing : Signing) (receipt altered : CommercialReceipt) : Prop :=
  altered.core.digest = receipt.core.digest ∧ receipt.Apart signing altered

/-- A chain that replays, with altered receipts in it, replays exactly when `replay_verify`
overlooks each of them. -/
theorem verifyChain_altered {previous : String} {receipts chain : List CommercialReceipt}
    (hverified : verifyChain signing previous receipts = .ok ())
    (hchain : List.Forall₂ (KeepsDigest signing) receipts chain) :
    verifyChain signing previous chain = .ok () ↔ List.Forall₂ Overlooked receipts chain := by
  induction hchain generalizing previous with
  | nil => exact iff_of_true rfl .nil
  | @cons receipt altered receipts chain hkeeps hchain ih =>
    simp only [verifyChain, bind_eq_ok, ensure_eq_ok] at hverified ⊢
    obtain ⟨_, hreceipt, _, hprevious, hrest⟩ := hverified
    have hunseen := verify_altered_iff hreceipt hkeeps.1 hkeeps.2
    rw [List.forall₂_cons, ← ih hrest, hkeeps.1]
    constructor
    · rintro ⟨_, haltered, _, hprevious', hrest'⟩
      exact ⟨⟨hunseen.mp haltered, hprevious'.trans hprevious.symm⟩, hrest'⟩
    · rintro ⟨hoverlooked, hrest'⟩
      exact ⟨(), hunseen.mpr hoverlooked.toUnseen, (), hoverlooked.previous.trans hprevious, hrest'⟩

/-- A receipt of a reachable ledger that was altered, but not in its digest, verifies exactly when
the alteration is one that `verify` does not see; the receipts of the ledger, altered in this way,
replay exactly when `replay_verify` overlooks every alteration. -/
theorem altered_iff (signing : Signing) (context : CommerceContext) (ops : List Op) :
    let ledger := run (next signing) (opened context) ops
    (∀ receipt ∈ ledger.receipts, ∀ altered, KeepsDigest signing receipt altered →
      (altered.verify signing = .ok () ↔ receipt.Unseen altered)) ∧
    ∀ chain, List.Forall₂ (KeepsDigest signing) ledger.receipts chain →
      (replayVerify signing { ledger with receipts := chain } = .ok chain.length ↔
        List.Forall₂ Overlooked ledger.receipts chain) := by
  intro ledger
  have h : ledger.Chained signing :=
    run_invariant (chained_next signing) (chained_opened context) ops
  refine ⟨fun receipt hmem altered hkeeps =>
    verify_altered_iff (h.verified receipt hmem) hkeeps.1 hkeeps.2, fun chain hchain => ?_⟩
  have hverified : verifyChain signing "" ledger.receipts = .ok () :=
    verifyChain_eq_ok.mpr ⟨h.verified, h.digests⟩
  rw [← verifyChain_altered hverified hchain, replayVerify, bind_eq_ok]
  exact ⟨fun h => h.choose_spec.1, fun hok => ⟨(), hok, rfl⟩⟩

/-! ## An agreement with other units -/

/-- The ledger of the fixtures with its agreement. -/
def agreed : CommerceLedger :=
  run (next sampleSigning) (opened (fixtureContext .aws))
    [.observe (fixtureObservation (fixtureContext .aws) .agreement "agreement-event")]

/-- The receipt of the agreement is the only one. -/
theorem agreed_receipts : ∃ receipt, agreed.receipts = [receipt] ∧ receipt.units = 0 ∧
    receipt.previousDigest = "" ∧ isBlank receipt.providerEventRef = false := by
  have hprepare : (opened (fixtureContext .aws)).prepare
      (.observe (fixtureObservation (fixtureContext .aws) .agreement "agreement-event")) =
      .ok (opened (fixtureContext .aws),
        inputOf .agreementObserved "agreement:agreement-event" "agreement-event") := by
    decide +kernel
  have hcall := call_of_new sampleSigning hprepare (by decide) (by decide) (by simp [opened])
    (show nextState _ .agreementObserved = .ok .agreementObserved from rfl)
  have hreceipts : agreed.receipts = [(opened (fixtureContext .aws)).issue sampleSigning
      (inputOf .agreementObserved "agreement:agreement-event" "agreement-event")
      .agreementObserved] := by
    rw [agreed, run_cons, run_nil, next, hcall]
    rfl
  exact ⟨_, hreceipts, rfl, rfl, by decide⟩

/-- What is altered outside the core receipt leaves the digest. -/
theorem keepsDigest_of_core (signing : Signing) (h : altered.core = receipt.core) :
    KeepsDigest signing receipt altered := by
  refine ⟨by rw [h], fun hcollides => hcollides.1 ?_⟩
  rw [h]

/-- Another previous digest is not seen in the receipt, but in the chain. -/
theorem altered_previous_refused :
    ∃ receipt ∈ agreed.receipts,
      CommercialReceipt.verify sampleSigning { receipt with previousDigest := "other" } = .ok () ∧
      replayVerify sampleSigning
        { agreed with receipts := [{ receipt with previousDigest := "other" }] } ≠ .ok 1 := by
  obtain ⟨receipt, hreceipts, -, hprevious, hevent⟩ := agreed_receipts
  have hmem : receipt ∈ agreed.receipts := by
    rw [hreceipts]
    exact List.mem_singleton_self receipt
  let altered : CommercialReceipt := { receipt with previousDigest := "other" }
  have hkeeps : KeepsDigest sampleSigning receipt altered := keepsDigest_of_core _ rfl
  obtain ⟨hverify, hreplay⟩ := altered_iff sampleSigning (fixtureContext .aws)
    [.observe (fixtureObservation (fixtureContext .aws) .agreement "agreement-event")]
  refine ⟨receipt, hmem, (hverify receipt hmem altered hkeeps).mpr ⟨rfl, rfl, hevent⟩,
    fun hok => ?_⟩
  have hchain : List.Forall₂ (KeepsDigest sampleSigning) agreed.receipts [altered] := by
    rw [hreceipts]
    exact .cons hkeeps .nil
  have hoverlooked := (hreplay [altered] hchain).mp hok
  rw [show (run (next sampleSigning) _ _).receipts = [receipt] from hreceipts] at hoverlooked
  cases hoverlooked with
  | cons h _ =>
    have hsame : "other" = receipt.previousDigest := h.previous
    rw [hprevious] at hsame
    exact absurd hsame (by decide)

/-- Neither check reads the units of a receipt. -/
theorem units_unread {ledger : CommerceLedger} (h : ledger.Chained signing)
    (hreceipts : ledger.receipts = [receipt]) (units : UInt64) :
    CommercialReceipt.verify signing { receipt with units } = .ok () ∧
      replayVerify signing { ledger with receipts := [{ receipt with units }] } = .ok 1 := by
  obtain ⟨hverified, hdigests, -⟩ := h
  rw [hreceipts] at hverified hdigests
  have hverify : CommercialReceipt.verify signing { receipt with units } = .ok () :=
    hverified receipt (List.mem_singleton_self receipt)
  refine ⟨hverify, replayVerify_eq_ok.mpr ⟨?_, hdigests, rfl⟩⟩
  intro other hother
  rw [List.mem_singleton.mp hother]
  exact hverify

/-- The receipt of the agreement verifies, and replays, with units that it was not issued for. -/
theorem altered_units_accepted :
    ∃ receipt ∈ agreed.receipts, receipt.units ≠ 7 ∧
      CommercialReceipt.verify sampleSigning { receipt with units := 7 } = .ok () ∧
      replayVerify sampleSigning { agreed with receipts := [{ receipt with units := 7 }] } =
        .ok 1 := by
  obtain ⟨receipt, hreceipts, hunits, -, -⟩ := agreed_receipts
  have h : agreed.Chained sampleSigning :=
    run_invariant (chained_next sampleSigning) (chained_opened (fixtureContext .aws)) _
  refine ⟨receipt, ?_, ?_, units_unread h hreceipts 7⟩
  · rw [hreceipts]
    exact List.mem_singleton_self receipt
  · rw [hunits]
    decide

end CommerceLedger

end ChatmanEcosystem.Commerce
