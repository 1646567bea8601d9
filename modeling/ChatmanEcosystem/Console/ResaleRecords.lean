import ChatmanEcosystem.Console.ResaleTransfers

/-!
# The records of a resale

A call of the resale market ends with two records: the listing, and the reservation
of the seller, which summarises what is listed. Between the two they disagree by
what the call is about to write.

Results:

* `record_cases`: what a step of an undisturbed call stores.
* `unitsOnOffer_putListing`: what a listing changes of the units on offer.
* `recorded_step`, `unrecorded_step`: a step changes what is committed, and what the reservation
  does not know of, by what its call accounts for.
-/

namespace ChatmanEcosystem.Console.ResaleMarket

open Common Common.Concurrent Js

/-! ## Sound calls -/

/-- A sale is of units of an open listing, from the reservation of its seller. -/
structure Sale.Sound (sale : Sale) : Prop where
  opened : sale.listing.status = .opened
  units : sale.units ≤ sale.listing.unitsAvailable
  seller : sale.reservation.orgId = sale.listing.sellerOrgId

namespace Deal

/-- An offer is of units that the reservation commits and that are not listed; a purchase is of the
units of the sale. -/
def Sound : Deal → Prop
  | .offered listing reservation => listing.status = .opened ∧
    reservation.orgId = listing.sellerOrgId ∧
    (reservation.listedUnits + listing.unitsAvailable : ℤ) ≤
      ⌊reservation.committedCpuCores / unitCpuCores⌋
  | .sold sale purchase => sale.Sound ∧ purchase.units = sale.units

/-- The units that are taken off the listing. -/
def unitsTaken : Deal → ℕ
  | .offered _ _ => 0
  | .sold sale _ => sale.units

/-- The change of the units on offer. -/
def change : Deal → ℤ
  | .offered listing _ => listing.unitsAvailable
  | .sold sale _ => -sale.units

end Deal

/-- What is known of a call. While it writes its two records nobody else changes the reservation. -/
def Phase.Sound (market : Market) : Phase → Prop
  | .buyReservation _ units listing => listing.status = .opened ∧ units ≤ listing.unitsAvailable
  | .quotaRead sale _ | .quotaPatch sale _ _ => sale.Sound
  | .putListing deal => deal.Sound
  | .putReservation deal => deal.Sound ∧
    market.getReservation deal.sellerOrgId = some deal.reservation ∧
    deal.unitsTaken ≤ deal.reservation.listedUnits
  | _ => True

/-- The calls are sound, and no two of them are between their records of one seller. -/
def assertions : Assertions Market Phase Empty where
  shared _ := True
  call := Phase.Sound
  apart a b := ∀ orgId, a.recording = some orgId → b.recording ≠ some orgId
  symm _ _ h orgId hb ha := h orgId ha hb
  settled := nofun
  owes := nofun

/-- The units on the open listings of the organisation that its reservation does not know of. -/
def Market.unrecorded (market : Market) (orgId : String) : ℤ :=
  market.unitsOnOffer orgId - ((market.getReservation orgId).map (·.listedUnits)).getD 0

namespace Phase

/-- The units that a call has offered, or taken off, without the knowledge of the reservation. -/
def unrecorded (orgId : String) : Phase → ℤ
  | .putReservation deal => if deal.sellerOrgId = orgId then deal.change else 0
  | _ => 0

/-- The units of the organisation that a call has taken off a listing. -/
def unitsTaken (orgId : String) : Phase → ℕ
  | .putReservation deal => if deal.sellerOrgId = orgId then deal.unitsTaken else 0
  | phase => phase.unitsSold orgId

end Phase

/-! ## How a call comes to its records -/

namespace Phase

/-- A call that is not between its records and has not bought. -/
def Plain : Phase → Prop
  | .putReservation _ | .done (.bought _ _) => False
  | _ => True

/-- What a plain call accounts for. -/
theorem Plain.entries {phase : Phase} (h : phase.Plain) (orgId : String) :
    phase.recorded orgId = 0 ∧ phase.unrecorded orgId = 0 ∧ phase.unitsTaken orgId = 0 ∧
      phase.recording = none := by
  cases phase with
  | putReservation deal => cases h
  | done outcome =>
    cases outcome with
    | bought listing purchase => cases h
    | listed listing => exact ⟨rfl, rfl, rfl, rfl⟩
    | failed error => exact ⟨rfl, rfl, rfl, rfl⟩
  | _ => exact ⟨rfl, rfl, rfl, rfl⟩

theorem plain_transferFails (sale : Sale) (error : String) (transfer : Transfer) :
    (transferFails sale error transfer).Plain := by
  cases transfer <;> trivial

theorem plain_ofTransferred (js : JsRuntime) (sale : Sale) (now : ℤ) (transfer : Transfer) :
    (ofTransferred js sale now transfer).Plain := by
  cases transfer <;> trivial

end Phase

/-- A step of an undisturbed call leaves the records as they are, stores a listing, or stores a
reservation. -/
theorem record_cases {js : JsRuntime} {system : System Market Phase} {phase : Phase}
    {answer : Answer} {after : Phase} {next : Market}
    (hstep : Phase.Step js system.shared phase answer after next)
    (hundisturbed : phase.Undisturbed system answer) :
    (phase.Plain ∧ after.Plain ∧ next.listings = system.shared.listings ∧
      next.reservations = system.shared.reservations) ∨
    (∃ deal, phase = .putListing deal ∧ deal.FreshIn system.shared ∧ deal.AsRead system.shared ∧
      (∀ call ∈ system.calls, call.recording ≠ some deal.sellerOrgId) ∧
      after = .putReservation deal ∧ next = system.shared.putListing deal.listing) ∨
    ∃ deal, phase = .putReservation deal ∧ after = .done deal.outcome ∧
      next = system.shared.putReservationRecord deal.updatedReservation := by
  cases hstep with
  | @refused phase answer error hchecks =>
    refine .inl ⟨?_, trivial, rfl, rfl⟩
    cases phase <;> trivial
  | offers | finds | sells | readsQuota | listingFails => exact .inl ⟨trivial, trivial, rfl, rfl⟩
  | readFails | noQuota | patchFails =>
    exact .inl ⟨trivial, Phase.plain_transferFails _ _ _, rfl, rfl⟩
  | patches => exact .inl ⟨trivial, Phase.plain_ofTransferred _ _ _ _, rfl, rfl⟩
  | @putsListing deal moment hfresh =>
    obtain ⟨hread, hnone⟩ : deal.AsRead system.shared ∧
        ∀ call ∈ system.calls, call.recording ≠ some deal.sellerOrgId := by
      cases deal <;> exact hundisturbed
    exact .inr (.inl ⟨deal, rfl, hfresh, hread, hnone, rfl, rfl⟩)
  | reservationFails error => exact absurd hundisturbed not_false
  | @putsReservation deal moment => exact .inr (.inr ⟨deal, rfl, rfl, rfl⟩)

/-! ## The records -/

section Records

variable {js : JsRuntime} {market : Market} {orgId : String} {deal : Deal}

theorem orgId_getReservation {reservation : CapacityReservation}
    (h : market.getReservation orgId = some reservation) : reservation.orgId = orgId := by
  obtain ⟨stored, -, rfl⟩ := Option.map_eq_some_iff.mp h
  rfl

theorem getReservation_put (reservation : CapacityReservation) :
    (market.putReservationRecord reservation).getReservation orgId =
      if reservation.orgId = orgId then some reservation else market.getReservation orgId := by
  show ((market.reservations.insert reservation.orgId reservation)[orgId]?).map _ = _
  rw [Std.ExtTreeMap.getElem?_insert]
  by_cases hsame : reservation.orgId = orgId
  · rw [if_pos (by simpa using hsame), if_pos hsame, Option.map_some, ← hsame]
  · rw [if_neg (by simpa using hsame), if_neg hsame]
    rfl

variable {listing : ResaleListing}

/-- A new listing is stored. -/
theorem unitsOnOffer_new (h : listing.listingId ∉ market.listings) :
    (market.putListing listing).unitsOnOffer orgId =
      listing.offered orgId + market.unitsOnOffer orgId :=
  total_insert_of_notMem (Std.ExtTreeMap.getElem?_eq_none h)

/-- A stored listing is the one that is read, up to its id. -/
theorem getElem?_of_getListing (h : market.getListing listing.listingId = some listing) :
    ∃ stored, market.listings[listing.listingId]? = some stored ∧
      stored.offered orgId = listing.offered orgId := by
  obtain ⟨stored, hstored, hsame⟩ := Option.map_eq_some_iff.mp h
  refine ⟨stored, hstored, ?_⟩
  rw [← hsame]
  rfl

/-- A listing is stored in place of the one that was read. -/
theorem unitsOnOffer_replaced {old : ResaleListing} (hid : listing.listingId = old.listingId)
    (h : market.getListing old.listingId = some old) :
    (market.putListing listing).unitsOnOffer orgId + old.offered orgId =
      market.unitsOnOffer orgId + listing.offered orgId := by
  obtain ⟨stored, hstored, hsame⟩ := getElem?_of_getListing h
  rw [← hid] at hstored
  rw [← hsame]
  exact total_insert_of_getElem? hstored

theorem offered_le (h : market.getListing listing.listingId = some listing) :
    listing.offered orgId ≤ market.unitsOnOffer orgId := by
  obtain ⟨stored, hstored, hsame⟩ := getElem?_of_getListing h
  rw [← hsame]
  exact le_total hstored

theorem offered_of_opened (h : listing.status = .opened) :
    listing.offered orgId = if listing.sellerOrgId = orgId then listing.unitsAvailable else 0 := by
  simp [ResaleListing.offered, h]

/-- A listing from which units are sold offers those that remain. -/
theorem offered_sold (sale : Sale) (purchase : ResaleListingPurchase) :
    (Deal.sold sale purchase).listing.offered orgId =
      if sale.listing.sellerOrgId = orgId then sale.listing.unitsAvailable - sale.units else 0 := by
  by_cases hremain : sale.listing.unitsAvailable - sale.units ≤ 0
  · simp [ResaleListing.offered, Deal.listing, Nat.le_zero.mp hremain]
  · simp [ResaleListing.offered, Deal.listing, hremain]

/-- The listing of an undisturbed deal changes the units on offer by those of the deal. -/
theorem unitsOnOffer_putListing (hsound : deal.Sound) (hfresh : deal.FreshIn market)
    (hread : deal.AsRead market) :
    ((market.putListing deal.listing).unitsOnOffer orgId : ℤ) =
      market.unitsOnOffer orgId + if deal.sellerOrgId = orgId then deal.change else 0 := by
  cases deal with
  | offered listing reservation =>
    have hnew : (market.putListing listing).unitsOnOffer orgId = _ := unitsOnOffer_new hfresh
    rw [offered_of_opened hsound.1] at hnew
    show ((market.putListing listing).unitsOnOffer orgId : ℤ) =
      _ + if listing.sellerOrgId = orgId then (listing.unitsAvailable : ℤ) else 0
    split_ifs at hnew ⊢ <;> omega
  | sold sale purchase =>
    obtain ⟨⟨hopened, hunits, -⟩, -⟩ := hsound
    have hreplaced : _ + sale.listing.offered orgId =
        _ + (Deal.sold sale purchase).listing.offered orgId := unitsOnOffer_replaced rfl hread.2
    rw [offered_of_opened hopened, offered_sold] at hreplaced
    show _ = _ + if sale.listing.sellerOrgId = orgId then (-sale.units : ℤ) else 0
    split_ifs at hreplaced ⊢ <;> omega

/-- A summary of no units is none. -/
theorem unitsAvailable_summary (pricePerUnit : ℚ) (unitsAvailable : ℕ) :
    ((if 0 < unitsAvailable then some ⟨pricePerUnit, unitsAvailable⟩ else none :
      Option ResaleListingSummary).map (·.unitsAvailable)).getD 0 = unitsAvailable := by
  split_ifs with hpos
  · rfl
  · exact (Nat.eq_zero_of_not_pos hpos).symm

/-- The reservation that a deal stores lists what the deal changes. -/
theorem listedUnits_updated (h : deal.unitsTaken ≤ deal.reservation.listedUnits) :
    (deal.updatedReservation.listedUnits : ℤ) = deal.reservation.listedUnits + deal.change := by
  cases deal with
  | offered listing reservation => rfl
  | sold sale purchase =>
    have htaken : sale.units ≤ sale.reservation.listedUnits := h
    have hlisted : (Deal.sold sale purchase).updatedReservation.listedUnits =
        sale.reservation.listedUnits - sale.units := unitsAvailable_summary _ _
    show _ = (sale.reservation.listedUnits : ℤ) + (-sale.units : ℤ)
    omega

/-- What the reservation that a deal stores commits. -/
theorem committed_updated (hsound : deal.Sound) :
    (deal.updatedReservation.committedCpuCores, deal.updatedReservation.committedMemoryGi) =
      (Phase.done deal.outcome).recorded deal.sellerOrgId +
        (deal.reservation.committedCpuCores, deal.reservation.committedMemoryGi) := by
  cases deal with
  | offered listing reservation => exact (zero_add _).symm
  | sold sale purchase =>
    have hunits : purchase.units = sale.units := hsound.2
    show (sale.reservation.committedCpuCores - sale.delta.1,
      sale.reservation.committedMemoryGi - sale.delta.2) =
        (if sale.listing.sellerOrgId = sale.listing.sellerOrgId then
          -sale.listing.capacity purchase.units else 0) + _
    rw [if_pos rfl, hunits, neg_add_eq_sub]
    rfl

/-- A deal that is done has recorded nothing of another organisation. -/
theorem recorded_outcome_of_ne (h : deal.sellerOrgId ≠ orgId) :
    (Phase.done deal.outcome).recorded orgId = 0 := by
  cases deal with
  | offered listing reservation => rfl
  | sold sale purchase => exact if_neg h

/-- The reservation that a deal stores is of the seller. -/
theorem getReservation_updated
    (hstored : market.getReservation deal.sellerOrgId = some deal.reservation) :
    (market.putReservationRecord deal.updatedReservation).getReservation orgId =
      if deal.sellerOrgId = orgId then some deal.updatedReservation
      else market.getReservation orgId := by
  have hseller : deal.updatedReservation.orgId = deal.sellerOrgId := by
    rw [← orgId_getReservation hstored]
    cases deal <;> rfl
  rw [getReservation_put, hseller]

variable {system : System Market Phase} {phase : Phase} {answer : Answer} {after : Phase}
  {next : Market}

/-- A step of an undisturbed call changes what is committed by what the call accounts for. -/
theorem recorded_step (hstep : Phase.Step js system.shared phase answer after next)
    (hundisturbed : phase.Undisturbed system answer) (hsound : phase.Sound system.shared) :
    next.committed orgId =
      (after.recorded orgId - phase.recorded orgId) +ᵥ system.shared.committed orgId := by
  rcases record_cases hstep hundisturbed with ⟨hphase, hafter, -, hreservations⟩ |
    ⟨deal, rfl, -, -, -, rfl, rfl⟩ | ⟨deal, rfl, rfl, rfl⟩
  · rw [(hphase.entries orgId).1, (hafter.entries orgId).1, sub_self, zero_vadd, Market.committed,
      Market.getReservation, hreservations]
    rfl
  · show _ = ((0 : Capacity) - 0) +ᵥ _
    rw [sub_self, zero_vadd]
    rfl
  · obtain ⟨hdeal, hstored, -⟩ := hsound
    show _ = ((Phase.done deal.outcome).recorded orgId - 0) +ᵥ _
    rw [sub_zero, Market.committed, getReservation_updated hstored]
    by_cases hseller : deal.sellerOrgId = orgId
    · subst hseller
      rw [if_pos rfl, Market.committed, hstored]
      exact congrArg some (committed_updated hdeal)
    · rw [if_neg hseller, recorded_outcome_of_ne hseller, zero_vadd]
      rfl

/-- A step of an undisturbed call changes what the reservation does not know of by what the call
accounts for. -/
theorem unrecorded_step (hstep : Phase.Step js system.shared phase answer after next)
    (hundisturbed : phase.Undisturbed system answer) (hsound : phase.Sound system.shared) :
    next.unrecorded orgId =
      (after.unrecorded orgId - phase.unrecorded orgId) +ᵥ system.shared.unrecorded orgId := by
  rw [vadd_eq_add]
  rcases record_cases hstep hundisturbed with ⟨hphase, hafter, hlistings, hreservations⟩ |
    ⟨deal, rfl, hfresh, hread, -, rfl, rfl⟩ | ⟨deal, rfl, rfl, rfl⟩
  · rw [(hphase.entries orgId).2.1, (hafter.entries orgId).2.1, sub_self, zero_add]
    simp only [Market.unrecorded, Market.unitsOnOffer, Market.getReservation, hlistings,
      hreservations]
  · have honOffer : _ = (system.shared.unitsOnOffer orgId : ℤ) + _ :=
      unitsOnOffer_putListing hsound hfresh hread
    show ((system.shared.putListing deal.listing).unitsOnOffer orgId : ℤ) - _ =
      (if deal.sellerOrgId = orgId then deal.change else 0) - 0 + (_ - _)
    rw [honOffer]
    have hsame : (system.shared.putListing deal.listing).getReservation orgId =
      system.shared.getReservation orgId := rfl
    rw [hsame]
    ring
  · obtain ⟨hdeal, hstored, htaken⟩ := hsound
    have hlisted := listedUnits_updated htaken
    show ((system.shared.unitsOnOffer orgId : ℕ) : ℤ) - _ =
      0 - (if deal.sellerOrgId = orgId then deal.change else 0) + (_ - _)
    rw [getReservation_updated hstored]
    by_cases hseller : deal.sellerOrgId = orgId
    · subst hseller
      rw [if_pos rfl, if_pos rfl, hstored]
      show _ - (deal.updatedReservation.listedUnits : ℤ) =
        0 - deal.change + (_ - (deal.reservation.listedUnits : ℤ))
      omega
    · rw [if_neg hseller, if_neg hseller, sub_self, zero_add]

end Records

end ChatmanEcosystem.Console.ResaleMarket
