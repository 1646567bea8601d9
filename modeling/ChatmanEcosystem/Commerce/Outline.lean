import ChatmanEcosystem.Commerce.Ledger

/-!
# One call on the ledger

What one call of an operation does to a ledger (`next_of_prepare`), and a ledger
without its hashes. The outline of a ledger has its fields, the keys that were
used, and of each receipt the kind and the quantities. A call on a ledger is a
call on its outline, which is quick to run.

Results:

* `next_of_prepare`: a call that passes its checks issues a receipt or stops at
  the assignments.
* `outline_run`: runs of a ledger are runs of its outline.
-/

namespace ChatmanEcosystem.Commerce

open Common Core Rust

namespace CommerceLedger

/-! ## One call -/

/-- `apply` issues a receipt for the input: neither its key nor its event is blank, the key is new,
and the lifecycle has the transition. -/
structure Issues (ledger : CommerceLedger) (input : TransitionInput) (after : CommercialState) :
    Prop where
  key : isBlank input.idempotencyKey = false
  fresh : ledger.idempotency[input.idempotencyKey]? = none
  event : isBlank input.eventRef = false
  lawful : nextState ledger.state input.kind = .ok after

variable {signing : Signing} {ledger preset : CommerceLedger} {input : TransitionInput}

/-- A call that its checks refuse does nothing. -/
theorem next_of_error {op : Op} {error : CommerceError} (h : ledger.prepare op = .error error) :
    ledger.next signing op = ledger := by
  unfold next call perform
  rw [h]

variable (signing) in
/-- A call that passes its checks issues a receipt, or stops at what it assigned. -/
theorem next_of_prepare {op : Op} (h : ledger.prepare op = .ok (preset, input)) :
    (∃ after, ledger.Issues input after ∧
      ledger.next signing op = preset.record input (preset.issue signing input after)) ∨
    ((∀ after, ¬ ledger.Issues input after) ∧ ledger.next signing op = preset) := by
  obtain ⟨hframe, hauthority⟩ := prepare_frame h
  unfold next
  rcases call_of_prepare signing h with ⟨error, happly, hcall⟩ | ⟨receipt, ledger', happly, hcall⟩
  · rw [hcall]
    refine .inr ⟨fun after hissue => ?_, rfl⟩
    have hok : preset.apply signing input = .ok (preset.issue signing input after,
        preset.record input (preset.issue signing input after)) :=
      (apply_eq_ok hauthority).mpr ⟨hissue.key, .inr ⟨hframe.idempotency ▸ hissue.fresh,
        hissue.event, after, hframe.state ▸ hissue.lawful, rfl, rfl⟩⟩
    rw [happly] at hok
    cases hok
  · rw [hcall]
    obtain ⟨hkey, ⟨index, hheld, -, rfl⟩ | ⟨hfresh, hevent, after, hlawful, rfl, rfl⟩⟩ :=
      (apply_eq_ok hauthority).mp happly
    · refine .inr ⟨fun after hissue => ?_, rfl⟩
      rw [hframe.idempotency, hissue.fresh] at hheld
      cases hheld
    · rw [hframe.idempotency] at hfresh
      rw [hframe.state] at hlawful
      exact .inl ⟨after, ⟨hkey, hfresh, hevent, hlawful⟩, rfl⟩

end CommerceLedger

/-! ## Outlines -/

/-- The kind and the quantities of a receipt. -/
structure Entry where
  kind : ReceiptKind
  units : UInt64
  amountMicros : UInt64
  deriving DecidableEq

def CommercialReceipt.entry (receipt : CommercialReceipt) : Entry :=
  { kind := receipt.kind, units := receipt.units, amountMicros := receipt.amountMicros }

/-- A ledger without its hashes: its fields (with no receipts and no keys), the keys that were
used, and the entries of its receipts. -/
structure Outline where
  fields : CommerceLedger
  keys : Std.ExtTreeSet String
  entries : List Entry
  deriving DecidableEq

/-- A call on an outline. -/
def Outline.next (outline : Outline) (op : Op) : Outline :=
  match outline.fields.prepare op with
  | .error _ => outline
  | .ok (preset, input) =>
    if isBlank input.idempotencyKey || outline.keys.contains input.idempotencyKey ||
        isBlank input.eventRef then
      { outline with fields := preset }
    else
      match nextState outline.fields.state input.kind with
      | .error _ => { outline with fields := preset }
      | .ok after =>
        { fields := { preset with state := after }
          keys := outline.keys.insert input.idempotencyKey
          entries := outline.entries ++
            [{ kind := input.kind, units := input.units, amountMicros := input.amountMicros }] }

namespace CommerceLedger

/-- The fields of a ledger, with no receipts and no keys. -/
def bare (ledger : CommerceLedger) : CommerceLedger :=
  { ledger with receipts := [], idempotency := ∅ }

def outline (ledger : CommerceLedger) : Outline where
  fields := ledger.bare
  keys := Std.ExtTreeSet.ofList ledger.idempotency.keys
  entries := ledger.receipts.map CommercialReceipt.entry

variable {signing : Signing} {ledger preset : CommerceLedger} {input : TransitionInput}

theorem map_bind {α β γ : Type} {ε : Type*} (x : Except ε α) (f : α → Except ε β) (g : β → γ) :
    (x >>= f).map g = x >>= fun a => (f a).map g := by
  cases x <;> rfl

/-- The checks and assignments read neither the receipts nor the keys. -/
theorem prepare_bare (ledger : CommerceLedger) (op : Op) :
    ledger.bare.prepare op =
      (ledger.prepare op).map fun (preset, input) => (preset.bare, input) := by
  cases op with
  | observe observation =>
    simp only [prepare, observe, map_bind]
    refine congrArg (_ >>= ·) (funext fun _ => ?_)
    cases observation.kind <;> simp only [acceptMeter, reconcile, map_bind] <;> rfl
  | authorizeFulfillment | bindManufacture | bindDelivery | verifyDelivery | deriveUsage
  | applyCredit | reconcileRefund | acceptMeter | reconcile =>
    simp only [prepare, authorizeFulfillment, bindManufacture, bindDelivery, verifyDelivery,
      deriveUsage, applyCredit, reconcileRefund, acceptMeter, reconcile, map_bind]
    rfl

theorem mem_outline_keys {key : String} :
    key ∈ ledger.outline.keys ↔ ledger.idempotency[key]? ≠ none := by
  simp [outline, Std.ExtTreeSet.mem_ofList]

/-- A call on a ledger is a call on its outline. -/
theorem outline_next (ledger : CommerceLedger) (op : Op) :
    (ledger.next signing op).outline = ledger.outline.next op := by
  have hbare : ledger.outline.fields.prepare op = (ledger.prepare op).map
      fun (preset, input) => (preset.bare, input) := prepare_bare ledger op
  have hkeys : ∀ key, ledger.outline.keys.contains key = true ↔ ledger.idempotency[key]? ≠ none :=
    fun key => Std.ExtTreeSet.contains_iff_mem.trans mem_outline_keys
  unfold Outline.next
  rw [hbare]
  cases h : ledger.prepare op with
  | error error =>
    rw [next_of_error h]
    rfl
  | ok prepared =>
    obtain ⟨preset, input⟩ := prepared
    obtain ⟨hframe, -⟩ := prepare_frame h
    simp only [Except.map, Bool.or_eq_true, hkeys]
    rcases next_of_prepare signing h with ⟨after, hissue, hnext⟩ | ⟨hnone, hnext⟩
    · have hpass : ¬ ((isBlank input.idempotencyKey = true ∨
          ledger.idempotency[input.idempotencyKey]? ≠ none) ∨ isBlank input.eventRef = true) := by
        simp [hissue.key, hissue.fresh, hissue.event]
      have hlawful : nextState ledger.outline.fields.state input.kind = .ok after := hissue.lawful
      rw [if_neg hpass, hlawful, hnext]
      simp only [outline, record, bare, issue, CommercialReceipt.entry, hframe.receipts,
        hframe.idempotency, List.map_append, List.map_cons, List.map_nil, Outline.mk.injEq,
        true_and, and_true]
      refine Std.ExtTreeSet.ext_mem fun key => ?_
      simp [Std.ExtTreeSet.mem_ofList, Std.ExtTreeSet.mem_insert]
    · have hpreset : preset.outline = { ledger.outline with fields := preset.bare } := by
        simp only [outline, hframe.receipts, hframe.idempotency]
      rw [hnext, hpreset]
      split_ifs with hpass
      · rfl
      · cases hlawful : nextState ledger.outline.fields.state input.kind with
        | error error => rfl
        | ok after =>
          simp only [not_or, not_not, Bool.not_eq_true] at hpass
          exact absurd ⟨hpass.1.1, hpass.1.2, hpass.2, hlawful⟩ (hnone after)

variable (signing) in
theorem outline_run (ledger : CommerceLedger) (ops : List Op) :
    (run (next signing) ledger ops).outline = run Outline.next ledger.outline ops := by
  induction ops generalizing ledger with
  | nil => rfl
  | cons op ops ih => rw [run_cons, run_cons, ih, outline_next]

end CommerceLedger

/-! ## A run through the lifecycle -/

/-- The calls of `verify_all_provider_fixtures` (lines 947–980) up to the settlement, for the first
provider and over a short digest, with the usage and the settled amount given. -/
def fixtureRun (units amountMicros : UInt64) : List Op :=
  let context := fixtureContext .aws
  let digest := "blake3:manufacture"
  [.observe (fixtureObservation context .agreement "agreement-event"),
    .observe (fixtureObservation context .entitlement "entitlement-event"),
    .authorizeFulfillment "fulfillment-authority", .bindManufacture digest, .bindDelivery digest,
    .verifyDelivery digest, .deriveUsage digest units,
    .observe { fixtureObservation context .meterAccepted "meter-event" with units },
    .observe { fixtureObservation context .settlement "settlement-event" with amountMicros }]

end ChatmanEcosystem.Commerce
