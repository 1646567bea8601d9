import ChatmanEcosystem.Common.Balance
import ChatmanEcosystem.Console.ResaleMarket
import Mathlib.Algebra.Group.Prod

/-!
# The transfers of a resale

What calls of the resale market account for, and the condition under which they do.
A purchase reads and patches the quota of the seller and then that of the buyer,
and if the latter fails it reads and patches the former again.

Results:

* `getElem?_patched`: what a patch does that finds the quota as it was read.
* `moved_step`: an undisturbed step moves of the quotas what its call accounts for.
-/

namespace ChatmanEcosystem.Console.ResaleMarket

open Common Common.Concurrent Js

/-! ## The property -/

/-- Capacity is added to the quantities that a quota has. -/
instance : AddAction Capacity QuotaHard where
  vadd delta hard :=
    { limitsCpu := delta.1 +ᵥ hard.limitsCpu
      requestsCpu := delta.1 +ᵥ hard.requestsCpu
      limitsMemory := delta.2 +ᵥ hard.limitsMemory
      requestsMemory := delta.2 +ᵥ hard.requestsMemory }
  zero_vadd hard := by
    show QuotaHard.mk ((0 : ℚ) +ᵥ _) ((0 : ℚ) +ᵥ _) ((0 : ℚ) +ᵥ _) ((0 : ℚ) +ᵥ _) = hard
    simp only [zero_vadd]
  add_vadd a b hard := by
    show QuotaHard.mk ((a.1 + b.1) +ᵥ _) ((a.1 + b.1) +ᵥ _) ((a.2 + b.2) +ᵥ _)
      ((a.2 + b.2) +ᵥ _) = _
    simp only [add_vadd]
    rfl

/-- What the organisation has committed. -/
def Market.committed (market : Market) (orgId : String) : Option Capacity :=
  (market.getReservation orgId).map fun reservation =>
    (reservation.committedCpuCores, reservation.committedMemoryGi)

/-- The whole units that the organisation has committed. -/
def Market.unitsCommitted (market : Market) (orgId : String) : ℕ :=
  ((market.committed orgId).map fun committed => ⌊committed.1 / unitCpuCores⌋.toNat).getD 0

/-- The units of a listing that the organisation offers. -/
def ResaleListing.offered (orgId : String) (listing : ResaleListing) : ℕ :=
  if listing.sellerOrgId = orgId ∧ listing.status = .opened then listing.unitsAvailable else 0

/-- The units on the open listings of the organisation. -/
def Market.unitsOnOffer (market : Market) (orgId : String) : ℕ :=
  total (ResaleListing.offered orgId) market.listings

/-- Units of a listing go to a buyer: the change of the quota of a namespace. -/
def ResaleListing.transferred (listing : ResaleListing) (buyerNamespace : String) (units : ℕ)
    (tenantNamespace : String) : Capacity :=
  (if tenantNamespace = buyerNamespace then listing.capacity units else 0) -
    (if tenantNamespace = listing.sellerNamespace then listing.capacity units else 0)

namespace Phase

/-- What a call has moved so far of the quota of a namespace: nothing if it has returned an error,
the units of the purchase if it has returned one. -/
def moved (tenantNamespace : String) : Phase → Capacity
  | .quotaRead _ .debit | .quotaPatch _ .debit _ => 0
  | .quotaRead sale _ | .quotaPatch sale _ _ =>
    -(if tenantNamespace = sale.listing.sellerNamespace then sale.delta else 0)
  | .putListing (.sold sale purchase) | .putReservation (.sold sale purchase) =>
    sale.listing.transferred purchase.buyerNamespace purchase.units tenantNamespace
  | .done (.bought listing purchase) =>
    listing.transferred purchase.buyerNamespace purchase.units tenantNamespace
  | _ => 0

/-- What a call that has returned has changed of what the organisation has committed. -/
def recorded (orgId : String) : Phase → Capacity
  | .done (.bought listing purchase) =>
    if listing.sellerOrgId = orgId then -listing.capacity purchase.units else 0
  | _ => 0

/-- The units of the organisation that a call has returned as bought. -/
def unitsSold (orgId : String) : Phase → ℕ
  | .done (.bought listing purchase) => if listing.sellerOrgId = orgId then purchase.units else 0
  | _ => 0

end Phase

/-- What the organisation has sold and what it offers is no more than it had committed. -/
def NotOversold (orgId : String) (start : Market) (system : System Market Phase) : Prop :=
  system.tally (Phase.unitsSold orgId) + system.shared.unitsOnOffer orgId ≤
    start.unitsCommitted orgId

/-- The event changes the quota of the namespace, and what the organisation has committed, by what
its call accounts for more. -/
def MovesExactly (js : JsRuntime) (orgId tenantNamespace : String) (system : System Market Phase)
    (event : Event Request Answer Empty) : Prop :=
  (program js).Accounts (fun market => market.quotas[tenantNamespace]?)
      (Phase.moved tenantNamespace) system event ∧
    (program js).Accounts (fun market => market.committed orgId) (Phase.recorded orgId) system event

instance (orgId : String) (start : Market) (system : System Market Phase) :
    Decidable (NotOversold orgId start system) := by
  unfold NotOversold; infer_instance

instance (js : JsRuntime) (orgId tenantNamespace : String) (system : System Market Phase)
    (event : Event Request Answer Empty) :
    Decidable (MovesExactly js orgId tenantNamespace system event) := by
  unfold MovesExactly; infer_instance

/-! ## The condition -/

/-- A patch by `delta` sets no quantity that is not there, and cuts none off at zero. -/
def QuotaHard.Takes (hard : QuotaHard) (delta : Capacity) : Prop :=
  (hard.limitsCpu.any fun cores => 0 ≤ cores + delta.1) ∧
  (hard.requestsCpu.any fun cores => 0 ≤ cores + delta.1) ∧
  (hard.limitsMemory.any fun memory => 0 ≤ memory + delta.2) ∧
  (hard.requestsMemory.any fun memory => 0 ≤ memory + delta.2)

/-- The records are as the call has read them. -/
def Deal.AsRead (market : Market) (deal : Deal) : Prop :=
  market.getReservation deal.sellerOrgId = some deal.reservation ∧
  match deal with
  | .offered _ _ => True
  | .sold sale _ => market.getListing sale.listing.listingId = some sale.listing

/-- The organisation whose reservation the call is about to write. -/
def Phase.recording : Phase → Option String
  | .putReservation deal => some deal.sellerOrgId
  | _ => none

/-- A call meets nothing that it does not provide for:
- a revert of a debit does not fail;
- a patch finds the quota as it was read, and takes effect in full;
- a listing is written while the records are as they were read, and while no other call of the
  seller has written its listing and not yet its reservation;
- after the patches, and after the listing, the records are written. -/
def Phase.Undisturbed (system : System Market Phase) : Phase → Answer → Prop
  | .quotaRead _ (.revert _), .read (.error _) _ => False
  | .quotaRead sale (.revert _), .read (.ok ()) _ =>
    sale.listing.sellerNamespace ∈ system.shared.quotas
  | .quotaPatch _ (.revert _) _, .write (.error _) _ => False
  | .quotaPatch sale transfer hard, .write (.ok ()) _ =>
    system.shared.quotas[transfer.tenantNamespace sale]? = some hard ∧
      hard.Takes (transfer.delta sale)
  | .putListing (.sold _ _), .write (.error _) _ => False
  | .putListing deal, .write (.ok ()) _ =>
    deal.AsRead system.shared ∧ ∀ call ∈ system.calls, call.recording ≠ some deal.sellerOrgId
  | .putReservation _, .write (.error _) _ => False
  | _, _ => True

/-- No call is disturbed where it goes on. -/
def Undisturbed (system : System Market Phase) : Event Request Answer Empty → Prop
  | .answer i answer => ∀ phase ∈ system.calls[i]?, phase.Undisturbed system answer
  | _ => True

instance (hard : QuotaHard) (delta : Capacity) : Decidable (hard.Takes delta) := by
  unfold QuotaHard.Takes; infer_instance

instance (market : Market) (deal : Deal) : Decidable (deal.AsRead market) :=
  match deal with
  | .offered _ _ => inferInstanceAs (Decidable (_ ∧ True))
  | .sold _ _ => inferInstanceAs (Decidable (_ ∧ _ = _))

instance (system : System Market Phase) (phase : Phase) (answer : Answer) :
    Decidable (phase.Undisturbed system answer) := by
  unfold Phase.Undisturbed; split <;> infer_instance

instance (system : System Market Phase) (event : Event Request Answer Empty) :
    Decidable (Undisturbed system event) := by
  unfold Undisturbed; split <;> infer_instance

/-! ## The quotas -/

section Quotas

variable {js : JsRuntime} {market : Market} {tenantNamespace : String}

variable {hard : QuotaHard} {delta : Capacity}

/-- A patch that takes effect in full adds the capacity. -/
theorem QuotaHard.Takes.patched (h : hard.Takes delta) :
    hard.patched delta = delta +ᵥ hard := by
  have hadd : ∀ (quantity : Option ℚ) (change : ℚ), quantity.any (fun value => 0 ≤ value + change) →
      some (max 0 (quantity.getD 0 + change)) = change +ᵥ quantity := by
    intro quantity change hany
    cases quantity with
    | none => cases hany
    | some value =>
      have hnonneg : 0 ≤ value + change := of_decide_eq_true hany
      rw [Option.getD_some, max_eq_right hnonneg, add_comm]
      rfl
  obtain ⟨hlimitsCpu, hrequestsCpu, hlimitsMemory, hrequestsMemory⟩ := h
  show QuotaHard.mk _ _ _ _ = QuotaHard.mk _ _ _ _
  rw [hadd _ _ hlimitsCpu, hadd _ _ hrequestsCpu, hadd _ _ hlimitsMemory, hadd _ _ hrequestsMemory]

/-- A patch of a quota that is as it was read changes that quota only. -/
theorem getElem?_patched {patchedNamespace : String}
    (hstored : market.quotas[patchedNamespace]? = some hard) (htakes : hard.Takes delta) :
    (market.patchResourceQuotaHard patchedNamespace (hard.patched delta)).quotas[tenantNamespace]? =
      (if tenantNamespace = patchedNamespace then delta else 0) +ᵥ
        market.quotas[tenantNamespace]? := by
  show (market.quotas.modify patchedNamespace _)[tenantNamespace]? = _
  rw [Std.ExtTreeMap.getElem?_modify]
  by_cases hsame : tenantNamespace = patchedNamespace
  · subst hsame
    rw [if_pos Std.ReflCmp.compare_self, if_pos rfl, hstored, htakes.patched]
    rfl
  · rw [if_neg (by simpa using Ne.symm hsame), if_neg hsame, zero_vadd]

/-- What a transfer that is done adds to what its call has moved. -/
theorem moved_ofTransferred (sale : Sale) (hard : QuotaHard) (now : ℤ) (transfer : Transfer) :
    (Phase.ofTransferred js sale now transfer).moved tenantNamespace -
        (Phase.quotaPatch sale transfer hard).moved tenantNamespace =
      if tenantNamespace = transfer.tenantNamespace sale then transfer.delta sale else 0 := by
  cases transfer with
  | debit =>
    show -(if tenantNamespace = sale.listing.sellerNamespace then sale.delta else 0) -
        (0 : Capacity) =
      if tenantNamespace = sale.listing.sellerNamespace then -sale.delta else 0
    by_cases hseller : tenantNamespace = sale.listing.sellerNamespace
    · rw [if_pos hseller, if_pos hseller, sub_zero]
    · rw [if_neg hseller, if_neg hseller, neg_zero, sub_zero]
  | credit =>
    show sale.listing.transferred _ _ _ - -(_ : Capacity) = _
    rw [ResaleListing.transferred, sub_neg_eq_add]
    exact sub_add_cancel _ _
  | revert creditError =>
    show (0 : Capacity) - -(_ : Capacity) = _
    rw [zero_sub, neg_neg]
    rfl

/-- A transfer that fails has moved nothing, unless it is a revert. -/
theorem moved_transferFails (sale : Sale) (error : String) {transfer : Transfer}
    (h : ∀ creditError, transfer ≠ .revert creditError) :
    (Phase.transferFails sale error transfer).moved tenantNamespace =
      (Phase.quotaRead sale transfer).moved tenantNamespace := by
  cases transfer with
  | debit => rfl
  | credit => rfl
  | revert creditError => exact absurd rfl (h creditError)

/-- A step of an undisturbed call moves what the call accounts for. -/
theorem moved_step {system : System Market Phase} {phase : Phase} {answer : Answer}
    {after : Phase} {next : Market} (hstep : Phase.Step js system.shared phase answer after next)
    (hundisturbed : phase.Undisturbed system answer) :
    next.quotas[tenantNamespace]? = (after.moved tenantNamespace - phase.moved tenantNamespace) +ᵥ
      system.shared.quotas[tenantNamespace]? := by
  have hstays : after.moved tenantNamespace = phase.moved tenantNamespace →
      system.shared.quotas[tenantNamespace]? = (after.moved tenantNamespace -
        phase.moved tenantNamespace) +ᵥ system.shared.quotas[tenantNamespace]? := by
    intro hmoved
    rw [hmoved, sub_self, zero_vadd]
  cases hstep with
  | @refused phase answer error hchecks =>
    refine hstays ?_
    cases phase <;> first | rfl | cases hchecks
  | offers listing reservation hstored hopen hunits => exact hstays rfl
  | finds listing hopen hunits => exact hstays rfl
  | sells sale hstored hunits => exact hstays rfl
  | @readsQuota sale transfer answer hard hstored => exact hstays (by cases transfer <;> rfl)
  | @readFails sale transfer moment error =>
    refine hstays (moved_transferFails sale error ?_)
    rintro creditError rfl
    exact hundisturbed
  | @noQuota sale transfer moment error hstored =>
    refine hstays (moved_transferFails sale error ?_)
    rintro creditError rfl
    have hquota : sale.listing.sellerNamespace ∈ system.shared.quotas := hundisturbed
    have hsome := Std.ExtTreeMap.mem_iff_isSome_getElem?.mp hquota
    rw [show system.shared.quotas[sale.listing.sellerNamespace]? = none from hstored] at hsome
    cases hsome
  | @patchFails sale transfer hard moment error =>
    refine hstays ((moved_transferFails sale error ?_).trans (by cases transfer <;> rfl))
    rintro creditError rfl
    exact hundisturbed
  | @patches sale transfer hard moment =>
    obtain ⟨hstored, htakes⟩ : system.shared.quotas[transfer.tenantNamespace sale]? = some hard ∧
        hard.Takes (transfer.delta sale) := by
      cases transfer <;> exact hundisturbed
    rw [getElem?_patched hstored htakes, moved_ofTransferred]
  | @listingFails deal moment error =>
    refine hstays ?_
    cases deal with
    | offered listing reservation => rfl
    | sold sale purchase => exact absurd hundisturbed not_false
  | @putsListing deal moment hfresh => exact hstays (by cases deal <;> rfl)
  | reservationFails error => exact absurd hundisturbed not_false
  | @putsReservation deal moment => exact hstays (by cases deal <;> rfl)

end Quotas

end ChatmanEcosystem.Console.ResaleMarket
