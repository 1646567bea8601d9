import ChatmanEcosystem.Commerce.Outline

/-!
# Tallies

What a ledger accounts for (its lifecycle state, its entitlement and its five
totals) as numbers without a bound. `Tally.post` books an input on a tally and
takes each sum through a `cap`: with the cap of `u64` it is what an operation
assigns before `apply`, and without one it is what the input stands for.

Results:

* `prepare_tally`: what an operation that passes its checks assigns.
* `post_eq_iff_fits`: when the cap of `u64` makes no difference.
-/

namespace ChatmanEcosystem.Commerce

open Common Core Rust

/-- What a ledger accounts for. -/
@[ext] structure Tally where
  state : CommercialState
  entitlement : EntitlementStatus
  usage : ℕ
  metered : ℕ
  settlement : ℕ
  credits : ℕ
  refunds : ℕ
  deriving DecidableEq

namespace Tally

/-- Nothing is accounted for. -/
def empty : Tally where
  state := .discovered
  entitlement := .unknown
  usage := 0
  metered := 0
  settlement := 0
  credits := 0
  refunds := 0

/-- A tally once an input is booked; the sums go through `cap`. -/
def post (cap : ℕ → ℕ) (tally : Tally) (kind : ReceiptKind) (units amount : ℕ) : Tally :=
  match kind with
  | .entitlementAdmitted | .entitlementReinstated => { tally with entitlement := .active }
  | .entitlementSuspended => { tally with entitlement := .suspended }
  | .entitlementRevoked => { tally with entitlement := .revoked }
  | .usageDerived => { tally with usage := cap (tally.usage + units) }
  | .meterAccepted => { tally with metered := units }
  | .settlementReconciled => { tally with settlement := amount }
  | .creditApplied => { tally with credits := cap (tally.credits + amount) }
  | .refundReconciled => { tally with refunds := cap (tally.refunds + amount) }
  | .agreementObserved | .entitlementChanged | .fulfillmentAuthorized | .manufactureBound
  | .deliveryBound | .deliveryVerified => tally

@[simp] theorem post_state (cap : ℕ → ℕ) (tally : Tally) (kind : ReceiptKind) (units amount : ℕ) :
    (tally.post cap kind units amount).state = tally.state := by
  cases kind <;> rfl

theorem with_state_inj {a b : Tally} (state : CommercialState) (h : a.state = b.state) :
    ({ a with state } : Tally) = { b with state } ↔ a = b := by
  cases a
  cases b
  simp_all

/-- Sums of `u64` stop at its maximum. -/
def capped (n : ℕ) : ℕ := min n u64Max

theorem capped_eq_self_iff {n : ℕ} : capped n = n ↔ n ≤ u64Max := min_eq_left_iff

/-- The sum that the input is booked on stays within `u64`. -/
def Fits (tally : Tally) (kind : ReceiptKind) (units amount : ℕ) : Prop :=
  match kind with
  | .usageDerived => tally.usage + units ≤ u64Max
  | .creditApplied => tally.credits + amount ≤ u64Max
  | .refundReconciled => tally.refunds + amount ≤ u64Max
  | _ => True

/-- Booking under the cap of `u64` is exact when the sum stays within it, and only then. -/
theorem post_eq_iff_fits {tally : Tally} {kind : ReceiptKind} {units amount : ℕ} :
    tally.post capped kind units amount = tally.post id kind units amount ↔
      tally.Fits kind units amount := by
  cases kind with
  | usageDerived | creditApplied | refundReconciled =>
    simp only [post, Fits, Tally.mk.injEq, true_and, and_true, id]
    exact capped_eq_self_iff
  | _ => exact iff_of_true rfl trivial

end Tally

namespace CommerceLedger

/-- What the fields of a ledger account for. -/
def tally (ledger : CommerceLedger) : Tally where
  state := ledger.state
  entitlement := ledger.entitlement
  usage := ledger.usageUnits.toNat
  metered := ledger.meteredUnits.toNat
  settlement := ledger.settlementMicros.toNat
  credits := ledger.creditsMicros.toNat
  refunds := ledger.refundsMicros.toNat

variable {ledger preset : CommerceLedger} {input : TransitionInput}

/-- What the checks of an operation leave open about an input of its kind. -/
def Checked (ledger : CommerceLedger) (input : TransitionInput) : Prop :=
  match input.kind with
  | .usageDerived => ledger.state = .verified
  | .meterAccepted => ledger.state = .usageRecorded ∧ input.units = ledger.usageUnits
  | .settlementReconciled => ledger.state = .metered ∧
      input.amountMicros = saturatingMul ledger.context.unitPriceMicros ledger.meteredUnits
  | .creditApplied | .refundReconciled => ledger.state = .reconciled ∧
      ledger.adjusted input.amountMicros ≤ ledger.settlementMicros
  | _ => True

variable {observation : ProviderObservation}

theorem acceptMeter_tally (h : ledger.acceptMeter observation = .ok (preset, input)) :
    preset.tally = ledger.tally.post Tally.capped input.kind input.units.toNat
      input.amountMicros.toNat ∧ ledger.Checked input := by
  simp only [acceptMeter, bind_eq_ok, ensure_eq_ok, pure_eq_ok, Prod.mk.injEq] at h
  obtain ⟨_, ⟨hstate, hunits, -⟩, rfl, rfl⟩ := h
  exact ⟨rfl, hstate, hunits⟩

theorem reconcile_tally (h : ledger.reconcile observation = .ok (preset, input)) :
    preset.tally = ledger.tally.post Tally.capped input.kind input.units.toNat
      input.amountMicros.toNat ∧ ledger.Checked input := by
  simp only [reconcile, bind_eq_ok, ensure_eq_ok, pure_eq_ok, Prod.mk.injEq] at h
  obtain ⟨_, hstate, _, ⟨hamount, -⟩, rfl, rfl⟩ := h
  exact ⟨rfl, hstate, hamount⟩

theorem observe_tally (h : ledger.observe observation = .ok (preset, input)) :
    preset.tally = ledger.tally.post Tally.capped input.kind input.units.toNat
      input.amountMicros.toNat ∧ ledger.Checked input := by
  obtain ⟨_, -, h⟩ := bind_eq_ok.mp h
  cases hkind : observation.kind with
  | agreement | suspended | reinstated | revoked =>
    simp only [hkind, pure_eq_ok, Prod.mk.injEq] at h
    obtain ⟨rfl, rfl⟩ := h
    exact ⟨rfl, trivial⟩
  | entitlement | entitlementChanged =>
    simp only [hkind, bind_eq_ok, pure_eq_ok, Prod.mk.injEq] at h
    obtain ⟨_, -, rfl, rfl⟩ := h
    exact ⟨rfl, trivial⟩
  | meterAccepted => rw [hkind] at h; exact acceptMeter_tally h
  | settlement => rw [hkind] at h; exact reconcile_tally h

/-- An operation that passes its checks books its input under the cap of `u64`. -/
theorem prepare_tally {op : Op} (h : ledger.prepare op = .ok (preset, input)) :
    preset.tally = ledger.tally.post Tally.capped input.kind input.units.toNat
      input.amountMicros.toNat ∧ ledger.Checked input := by
  cases op with
  | observe observation => exact observe_tally h
  | acceptMeter observation => exact acceptMeter_tally h
  | reconcile observation => exact reconcile_tally h
  | authorizeFulfillment | bindManufacture | bindDelivery | verifyDelivery =>
    simp only [prepare, authorizeFulfillment, bindManufacture, bindDelivery, verifyDelivery,
      bind_eq_ok, pure_eq_ok, Prod.mk.injEq] at h
    obtain ⟨_, -, rfl, rfl⟩ := h
    exact ⟨rfl, trivial⟩
  | deriveUsage source units =>
    simp only [prepare, deriveUsage, bind_eq_ok, ensure_eq_ok, pure_eq_ok, Prod.mk.injEq] at h
    obtain ⟨_, ⟨hstate, -⟩, rfl, rfl⟩ := h
    refine ⟨?_, hstate⟩
    simp only [tally, Tally.post, inputOf, toNat_saturatingAdd, Tally.capped]
  | applyCredit key amount =>
    simp only [prepare, applyCredit, bind_eq_ok, ensure_eq_ok, pure_eq_ok, Prod.mk.injEq] at h
    obtain ⟨_, ⟨hstate, -⟩, _, hbound, rfl, rfl⟩ := h
    refine ⟨?_, hstate, hbound⟩
    simp only [tally, Tally.post, inputOf, toNat_saturatingAdd, Tally.capped]
  | reconcileRefund key amount =>
    simp only [prepare, reconcileRefund, bind_eq_ok, ensure_eq_ok, pure_eq_ok, Prod.mk.injEq] at h
    obtain ⟨_, ⟨hstate, -⟩, _, hbound, rfl, rfl⟩ := h
    refine ⟨?_, hstate, hbound⟩
    simp only [tally, Tally.post, inputOf, toNat_saturatingAdd, Tally.capped]

end CommerceLedger

end ChatmanEcosystem.Commerce
