import ChatmanEcosystem.Commerce.Tally

/-!
# The fold of the receipts

Whether a ledger accounts for what its receipts account for. Folding the receipts
books each one once, without a bound. An operation assigns its fields before
`apply` decides, so a call that issues no receipt leaves them assigned as well.

Results:

* `folded_next`: a call keeps the ledger folded exactly when it books what it
  issues a receipt for, and finds booked what it does not.
* `folded_iff_counted`: runs in which the ledger stays the fold of its receipts.
-/

namespace ChatmanEcosystem.Commerce

open Common Core Rust

/-! ## The fold -/

namespace Tally

/-- A tally once a receipt is counted. -/
def count (tally : Tally) (receipt : CommercialReceipt) : Tally :=
  { tally.post id receipt.kind receipt.units.toNat receipt.amountMicros.toNat with
    state := receipt.stateAfter }

/-- The fold of the receipts, from the empty ledger. -/
def ofReceipts (receipts : List CommercialReceipt) : Tally := receipts.foldl count empty

theorem ofReceipts_concat (receipts : List CommercialReceipt) (receipt : CommercialReceipt) :
    ofReceipts (receipts ++ [receipt]) = (ofReceipts receipts).count receipt := by
  rw [ofReceipts, List.foldl_append]
  rfl

end Tally

/-- The sum of a quantity over the entries of a kind. -/
def receipted (kind : ReceiptKind) (quantity : Entry → UInt64) (entries : List Entry) : ℕ :=
  ((entries.filter (·.kind = kind)).map fun entry => (quantity entry).toNat).sum

theorem receipted_concat (kind : ReceiptKind) (quantity : Entry → UInt64) (entries : List Entry)
    (entry : Entry) :
    receipted kind quantity (entries ++ [entry]) =
      receipted kind quantity entries +
        if entry.kind = kind then (quantity entry).toNat else 0 := by
  by_cases h : entry.kind = kind <;> simp [receipted, h]

/-- The usage of the fold is the sum of the receipted units. -/
theorem ofReceipts_usage (receipts : List CommercialReceipt) :
    (Tally.ofReceipts receipts).usage =
      receipted .usageDerived (·.units) (receipts.map CommercialReceipt.entry) := by
  induction receipts using List.reverseRecOn with
  | nil => rfl
  | append_singleton receipts receipt ih =>
    rw [Tally.ofReceipts_concat, List.map_append, List.map_singleton, receipted_concat, ← ih]
    cases hkind : receipt.kind <;> simp [Tally.count, Tally.post, CommercialReceipt.entry, hkind]

/-- The credits of the fold are the sum of the receipted credits. -/
theorem ofReceipts_credits (receipts : List CommercialReceipt) :
    (Tally.ofReceipts receipts).credits =
      receipted .creditApplied (·.amountMicros) (receipts.map CommercialReceipt.entry) := by
  induction receipts using List.reverseRecOn with
  | nil => rfl
  | append_singleton receipts receipt ih =>
    rw [Tally.ofReceipts_concat, List.map_append, List.map_singleton, receipted_concat, ← ih]
    cases hkind : receipt.kind <;> simp [Tally.count, Tally.post, CommercialReceipt.entry, hkind]

/-! ## Folded ledgers -/

namespace Tally

/-- Once a meter is accepted, the metered units are the usage. -/
def MetersUsage (tally : Tally) : Prop :=
  tally.state = .metered ∨ tally.state = .reconciled → tally.metered = tally.usage

variable {tally : Tally} {kind : ReceiptKind} {units amount : ℕ}

/-- A lawful transition that meters the usage keeps it metered. -/
theorem MetersUsage.post (h : tally.MetersUsage) {after : CommercialState}
    (hlawful : nextState tally.state kind = .ok after)
    (hmeter : kind = .meterAccepted → units = tally.usage) (cap : ℕ → ℕ) :
    MetersUsage { tally.post cap kind units amount with state := after } := by
  obtain ⟨state, entitlement, usage, metered, settlement, credits, refunds⟩ := tally
  cases kind <;> cases state <;> cases hlawful <;> simp_all [MetersUsage, Tally.post]

/-- The tally holds already what an input assigns. -/
def Held (tally : Tally) (kind : ReceiptKind) (units amount : ℕ) : Prop :=
  match kind with
  | .entitlementAdmitted | .entitlementReinstated => tally.entitlement = .active
  | .entitlementSuspended => tally.entitlement = .suspended
  | .entitlementRevoked => tally.entitlement = .revoked
  | .usageDerived => capped (tally.usage + units) = tally.usage
  | .meterAccepted => tally.metered = units
  | .settlementReconciled => tally.settlement = amount
  | .creditApplied => capped (tally.credits + amount) = tally.credits
  | .refundReconciled => capped (tally.refunds + amount) = tally.refunds
  | .agreementObserved | .entitlementChanged | .fulfillmentAuthorized | .manufactureBound
  | .deliveryBound | .deliveryVerified => True

theorem post_eq_self_iff_held :
    tally.post capped kind units amount = tally ↔ tally.Held kind units amount := by
  cases tally
  cases kind <;> simp [post, Held, eq_comm]

end Tally

namespace CommerceLedger

variable {signing : Signing} {ledger preset : CommerceLedger} {input : TransitionInput}

/-- The entries of the receipts. -/
def entries (ledger : CommerceLedger) : List Entry := ledger.receipts.map CommercialReceipt.entry

/-- The ledger is the fold of its receipts; the metered units are the receipted usage, once a meter
is accepted, and the credits are the receipted credits. -/
structure Folded (ledger : CommerceLedger) : Prop where
  fold : ledger.tally = .ofReceipts ledger.receipts
  metered : ledger.state = .metered ∨ ledger.state = .reconciled →
    ledger.meteredUnits.toNat = receipted .usageDerived (·.units) ledger.entries
  credits : ledger.creditsMicros.toNat = receipted .creditApplied (·.amountMicros) ledger.entries

/-- Besides the fold, only the meter is to be looked after. -/
theorem folded_iff : ledger.Folded ↔
    ledger.tally = .ofReceipts ledger.receipts ∧ ledger.tally.MetersUsage := by
  constructor
  · rintro ⟨hfold, hmetered, -⟩
    refine ⟨hfold, fun hstate => (hmetered hstate).trans ?_⟩
    rw [entries, ← ofReceipts_usage, ← hfold]
  · rintro ⟨hfold, hmeters⟩
    refine ⟨hfold, fun hstate => (hmeters hstate).trans ?_, ?_⟩
    · rw [hfold, ofReceipts_usage, entries]
    · rw [entries, ← ofReceipts_credits, ← hfold]
      rfl

/-- The input of an operation that passes its checks is counted once: the sum it is booked on stays
within `u64` if `apply` issues a receipt for it, and the ledger holds already what it assigns if
`apply` does not. -/
def Counted (ledger : CommerceLedger) (op : Op) : Prop :=
  ∀ preset input, ledger.prepare op = .ok (preset, input) →
    (∀ after, ledger.Issues input after →
      ledger.tally.Fits input.kind input.units.toNat input.amountMicros.toNat) ∧
    ((∀ after, ¬ ledger.Issues input after) →
      ledger.tally.Held input.kind input.units.toNat input.amountMicros.toNat)

/-- A call for which a receipt is issued. -/
theorem folded_record {after : CommercialState} (h : ledger.Folded)
    (hframe : preset.SameRecord ledger)
    (htally : preset.tally = ledger.tally.post Tally.capped input.kind input.units.toNat
      input.amountMicros.toNat)
    (hchecked : ledger.Checked input) (hlawful : nextState ledger.state input.kind = .ok after) :
    (preset.record input (preset.issue signing input after)).Folded ↔
      ledger.tally.Fits input.kind input.units.toNat input.amountMicros.toNat := by
  obtain ⟨hfold, hmeters⟩ := folded_iff.mp h
  have hrecord : (preset.record input (preset.issue signing input after)).tally =
      { ledger.tally.post Tally.capped input.kind input.units.toNat input.amountMicros.toNat with
        state := after } := by
    rw [← htally]
    rfl
  have hreceipts : Tally.ofReceipts
      (preset.record input (preset.issue signing input after)).receipts =
      { ledger.tally.post id input.kind input.units.toNat input.amountMicros.toNat with
        state := after } := by
    show Tally.ofReceipts (preset.receipts ++ [preset.issue signing input after]) = _
    rw [Tally.ofReceipts_concat, hframe.receipts, ← hfold]
    rfl
  have hmeter : input.kind = .meterAccepted → input.units.toNat = ledger.tally.usage := by
    intro hkind
    simp only [Checked, hkind] at hchecked
    rw [hchecked.2]
    rfl
  rw [folded_iff, hrecord, hreceipts, Tally.with_state_inj after (by simp), Tally.post_eq_iff_fits]
  exact and_iff_left (hmeters.post hlawful hmeter _)

/-- A call for which no receipt is issued. -/
theorem folded_preset (h : ledger.Folded) (hframe : preset.SameRecord ledger)
    (htally : preset.tally = ledger.tally.post Tally.capped input.kind input.units.toNat
      input.amountMicros.toNat) :
    preset.Folded ↔ ledger.tally.Held input.kind input.units.toNat input.amountMicros.toNat := by
  obtain ⟨hfold, hmeters⟩ := folded_iff.mp h
  rw [folded_iff, hframe.receipts, ← hfold, htally, Tally.post_eq_self_iff_held]
  constructor
  · exact And.left
  · intro hheld
    refine ⟨hheld, ?_⟩
    rw [Tally.post_eq_self_iff_held.mpr hheld]
    exact hmeters

/-- A call keeps the ledger folded exactly when its input is counted once. -/
theorem folded_next (signing : Signing) (ledger : CommerceLedger) (op : Op) (h : ledger.Folded) :
    (ledger.next signing op).Folded ↔ ledger.Counted op := by
  cases hprepare : ledger.prepare op with
  | error error =>
    rw [next_of_error hprepare]
    refine iff_of_true h fun preset input hok => ?_
    rw [hprepare] at hok
    cases hok
  | ok prepared =>
    obtain ⟨preset, input⟩ := prepared
    obtain ⟨hframe, -⟩ := prepare_frame hprepare
    obtain ⟨htally, hchecked⟩ := prepare_tally hprepare
    have hcounted : ledger.Counted op ↔
        (∀ after, ledger.Issues input after →
          ledger.tally.Fits input.kind input.units.toNat input.amountMicros.toNat) ∧
        ((∀ after, ¬ ledger.Issues input after) →
          ledger.tally.Held input.kind input.units.toNat input.amountMicros.toNat) :=
      forall_eq_ok_iff hprepare
    rw [hcounted]
    rcases next_of_prepare signing hprepare with ⟨after, hissue, hnext⟩ |
      ⟨hnone, hnext⟩
    · rw [hnext, folded_record h hframe htally hchecked hissue.lawful]
      exact ⟨fun hfits => ⟨fun _ _ => hfits, fun hnone => absurd hissue (hnone after)⟩,
        fun hcounted => hcounted.1 after hissue⟩
    · rw [hnext, folded_preset h hframe htally]
      exact ⟨fun hheld => ⟨fun after hissue => absurd hissue (hnone after), fun _ => hheld⟩,
        fun hcounted => hcounted.2 hnone⟩

theorem folded_opened (context : CommerceContext) : (opened context).Folded where
  fold := rfl
  metered := nofun
  credits := rfl

/-- A ledger is the fold of its receipts in every state of a run exactly when every call of the run
that passes its checks is counted once. -/
theorem folded_iff_counted (signing : Signing) (context : CommerceContext) (ops : List Op) :
    Always (next signing) Folded (opened context) ops ↔
      Along (next signing) Counted (opened context) ops :=
  always_iff_along (I := fun _ => True) (fun _ _ _ => trivial)
    (fun ledger op _ h => folded_next signing ledger op h) trivial (folded_opened context)

/-! ## A credit applied twice -/

/-- What the outline of a ledger says about its credits. -/
theorem credits_of_outline {outline : Outline} (h : ledger.outline = outline) :
    ledger.creditsMicros = outline.fields.creditsMicros ∧
      receipted .creditApplied (·.amountMicros) ledger.entries =
        receipted .creditApplied (·.amountMicros) outline.entries := by
  rw [← h]
  exact ⟨rfl, rfl⟩

/-- The credit of the fixtures is applied, and applied again under its key. -/
def creditAgain : List Op :=
  fixtureRun 3 30000 ++ [.applyCredit "credit-event" 5000, .applyCredit "credit-event" 5000]

theorem creditAgain_outline :
    (run Outline.next (opened (fixtureContext .aws)).outline creditAgain).fields.creditsMicros =
      10000 ∧
    receipted .creditApplied (·.amountMicros)
      (run Outline.next (opened (fixtureContext .aws)).outline creditAgain).entries = 5000 := by
  decide +kernel

/-- The second call returns the receipt of the first, and the ledger has credited twice what is
receipted. -/
theorem credit_booked_twice :
    (run (next sampleSigning) (opened (fixtureContext .aws)) creditAgain).creditsMicros = 10000 ∧
      receipted .creditApplied (·.amountMicros)
        (run (next sampleSigning) (opened (fixtureContext .aws)) creditAgain).entries = 5000 ∧
      ¬ Always (next sampleSigning) Folded (opened (fixtureContext .aws)) creditAgain := by
  obtain ⟨hcredits, hreceipted⟩ := credits_of_outline
    (outline_run sampleSigning (opened (fixtureContext .aws)) creditAgain)
  rw [creditAgain_outline.1] at hcredits
  rw [creditAgain_outline.2] at hreceipted
  refine ⟨hcredits, hreceipted, fun halways => ?_⟩
  have hlast := (always_iff.mp halways creditAgain [] (List.append_nil _).symm).credits
  rw [hcredits, hreceipted] at hlast
  exact absurd hlast (by decide)

end CommerceLedger

end ChatmanEcosystem.Commerce
