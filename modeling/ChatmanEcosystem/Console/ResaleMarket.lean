import ChatmanEcosystem.Common.Concurrent
import ChatmanEcosystem.Console.K8s
import ChatmanEcosystem.Js.Runtime
import Std.Data.ExtTreeMap

/-!
# The resale market of reserved capacity

Model of `createResaleListing`, `applyQuotaDelta` and `buyResaleListing`
(`platform-console/app/lib/reservation-marketplace.ts`, lines 222–517) as
concurrent calls over the ConfigMap of the reservations and the ResourceQuotas. A
call stops at its awaits; a write or a patch that fails changes nothing, and one of
a ConfigMap changes its own key only. Numbers are exact. Of a quota stand the
quantities that `applyQuotaDelta` reads, as the numbers that `quantityToMillicores`
and `quantityToMiB` make of them. The id of a new listing is not the id of a stored
one.

Results:

* `newListing_ok`, `checkListing_ok`, `checkReservation_ok`: what a call has checked.
* `Phase.enter_cases`, `Phase.step_of_resume`: the ways a call begins and goes on.
-/

namespace ChatmanEcosystem.Console.ResaleMarket

open Common.Concurrent Js

/-! ## Records -/

/-- `ResaleListingSummary` (`capacity-reservations.ts`, lines 82–85). -/
structure ResaleListingSummary where
  pricePerUnit : ℚ
  unitsAvailable : ℕ
  deriving DecidableEq

/-- `CapacityReservation` (`capacity-reservations.ts`, lines 87–99), without what the market does
not read. -/
structure CapacityReservation where
  orgId : String
  tenantNamespace : String
  committedCpuCores : ℚ
  committedMemoryGi : ℚ
  discountPct : ℚ
  endDate : String
  listedForResale : Option ResaleListingSummary
  deriving DecidableEq

/-- `reservation.listedForResale?.unitsAvailable ?? 0`. -/
def CapacityReservation.listedUnits (reservation : CapacityReservation) : ℕ :=
  (reservation.listedForResale.map (·.unitsAvailable)).getD 0

/-- `ResaleListingPurchase` (lines 92–102). -/
structure ResaleListingPurchase where
  buyerOrgId : String
  buyerNamespace : String
  units : ℕ
  pricePerUnit : ℚ
  purchaseAmount : ℚ
  platformFeePct : ℚ
  platformFee : ℚ
  purchasedAt : String
  purchasedBy : String
  deriving DecidableEq

/-- `ResaleListingStatus` (line 104). -/
inductive ResaleListingStatus
  | opened
  | soldOut
  | cancelled
  deriving DecidableEq

/-- The text of a status. -/
def ResaleListingStatus.text : ResaleListingStatus → String
  | .opened => "open"
  | .soldOut => "sold_out"
  | .cancelled => "cancelled"

/-- `ResaleListing` (lines 106–123). -/
structure ResaleListing where
  listingId : String
  sellerOrgId : String
  sellerNamespace : String
  reservationEndDate : String
  memoryGiPerUnit : ℚ
  pricePerUnit : ℚ
  unitsListedOriginal : ℕ
  unitsAvailable : ℕ
  status : ResaleListingStatus
  createdAt : String
  createdBy : String
  purchases : List ResaleListingPurchase
  deriving DecidableEq

/-- The quantities of `spec.hard` of a quota, in cores and in GiB; `none` if there is none that
parses. -/
structure QuotaHard where
  limitsCpu : Option ℚ
  requestsCpu : Option ℚ
  limitsMemory : Option ℚ
  requestsMemory : Option ℚ
  deriving DecidableEq

/-- The ConfigMap with its listings and its reservations by their keys, and the quotas
`${namespace}-quota` by their namespaces. -/
structure Market where
  listings : Std.ExtTreeMap String ResaleListing
  reservations : Std.ExtTreeMap String CapacityReservation
  quotas : Std.ExtTreeMap String QuotaHard

namespace Market

/-- `getListing` (lines 167–175). -/
def getListing (market : Market) (listingId : String) : Option ResaleListing :=
  market.listings[listingId]?.map fun listing => { listing with listingId }

/-- `getReservation` (`capacity-reservations.ts`, lines 147–155). -/
def getReservation (market : Market) (orgId : String) : Option CapacityReservation :=
  market.reservations[orgId]?.map fun reservation => { reservation with orgId }

/-- `putListing` (lines 195–201). -/
def putListing (market : Market) (listing : ResaleListing) : Market :=
  { market with listings := market.listings.insert listing.listingId listing }

/-- `putReservationRecord` (`capacity-reservations.ts`, lines 175–196). -/
def putReservationRecord (market : Market) (reservation : CapacityReservation) : Market :=
  { market with reservations := market.reservations.insert reservation.orgId reservation }

/-- `patchResourceQuotaHard` (`k8s.ts`, lines 2649–2662), with all four quantities. -/
def patchResourceQuotaHard (market : Market) (tenantNamespace : String) (hard : QuotaHard) :
    Market :=
  { market with quotas := market.quotas.modify tenantNamespace fun _ => hard }

end Market

/-- `UNIT_CPU_CORES` (line 84). -/
def unitCpuCores : ℚ := 1

/-! ## Creating a listing -/

/-- `CreateListingInput` (lines 235–241). A number that is not finite is `none`. -/
structure CreateListingInput where
  sellerOrgId : String
  sellerNamespace : String
  units : Option ℚ
  pricePerUnit : Option ℚ
  createdBy : String
  deriving DecidableEq

/-- `Number.isFinite(units) && units > 0 && Number.isInteger(units)`, with the number. -/
def wholeUnits (units : Option ℚ) : Option ℕ :=
  units.bind fun units => if 0 < units ∧ units.den = 1 then some units.num.toNat else none

/-- The bounds of `resalePriceBounds`. -/
structure ResalePriceBounds where
  hoursRemaining : ℚ
  sunkCostFloor : ℚ
  overageCeiling : ℚ

/-- `ILLUSTRATIVE_RATES.cpuPerCoreHour` (`invoice-preview.ts`, line 18). -/
def cpuPerCoreHour : ℚ := 2 / 100

/-- `ILLUSTRATIVE_RATES.memoryPerGiBHour` (`invoice-preview.ts`, line 19). -/
def memoryPerGiBHour : ℚ := 1 / 100

/-- What `new Date()` and the ids are where a call goes on. -/
structure Moment where
  now : ℤ
  listingId : String

/-- How a call ends. -/
inductive Outcome
  | listed (listing : ResaleListing)
  | bought (listing : ResaleListing) (purchase : ResaleListingPurchase)
  | failed (error : String)
  deriving DecidableEq

/-- The error of units that are no whole number (lines 269 and 432). -/
def unitsError : String := "units must be a positive whole number of CPU-core-equivalent units"

section Listing

variable (js : JsRuntime)

/-- `Date.parse(endDate) <= Date.now()`. -/
def ended (endDate : String) (now : ℤ) : Bool := (js.dateParse endDate).any (· ≤ now)

/-- `resalePriceBounds` (lines 222–233), unless the bounds are not numbers. -/
def resalePriceBounds (reservation : CapacityReservation) (memoryGiPerUnit : ℚ) (now : ℤ) :
    Option ResalePriceBounds :=
  (js.dateParse reservation.endDate).map fun endDate =>
    let hoursRemaining : ℚ := max 0 ((endDate - now) / (1000 * 60 * 60))
    let standardUnitCostPerHour :=
      unitCpuCores * cpuPerCoreHour + memoryGiPerUnit * memoryPerGiBHour
    let overageCeiling := standardUnitCostPerHour * hoursRemaining
    { hoursRemaining
      sunkCostFloor := overageCeiling * (1 - reservation.discountPct / 100)
      overageCeiling }

/-- A price that is not within the bounds (lines 303–308). -/
def priceError (bounds : Option ResalePriceBounds) (pricePerUnit : ℚ) : Option String :=
  match bounds with
  | none => none
  | some bounds =>
    if pricePerUnit < bounds.sunkCostFloor ∨ bounds.overageCeiling < pricePerUnit then
      some ("pricePerUnit must sit between the seller's own sunk reservation cost ($" ++
        toFixed 2 bounds.sunkCostFloor ++
        ") and the standard/overage cost for the remaining term ($" ++
        toFixed 2 bounds.overageCeiling ++ ")")
    else none

/-- `createResaleListing` after its read (lines 278–324): the new listing, and the reservation. -/
def newListing (input : CreateListingInput) (units : ℕ) (pricePerUnit : ℚ)
    (reservation : Option CapacityReservation) (moment : Moment) :
    Except String (ResaleListing × CapacityReservation) := do
  let some reservation := reservation
    | throw "seller org has no capacity reservation to list"
  if reservation.tenantNamespace ≠ input.sellerNamespace then
    throw "seller namespace does not match the org's own reservation namespace"
  if ended js reservation.endDate moment.now then
    throw "seller reservation has already expired -- nothing left to list"
  if reservation.committedCpuCores < unitCpuCores then
    throw "seller reservation commits less than one whole CPU-core unit -- nothing to list"
  let totalCommittedUnits := ⌊reservation.committedCpuCores / unitCpuCores⌋
  let unitsStillOwned := totalCommittedUnits - reservation.listedUnits
  if unitsStillOwned < units then
    throw ("cannot list " ++ toString units ++ " unit(s): only " ++ toString unitsStillOwned ++
      " unlisted unit(s) remain on this reservation")
  let memoryGiPerUnit := reservation.committedMemoryGi / reservation.committedCpuCores
  if let some error := priceError (resalePriceBounds js reservation memoryGiPerUnit moment.now)
      pricePerUnit then
    throw error
  let listing : ResaleListing := {
    listingId := moment.listingId
    sellerOrgId := input.sellerOrgId
    sellerNamespace := input.sellerNamespace
    reservationEndDate := reservation.endDate
    memoryGiPerUnit
    pricePerUnit
    unitsListedOriginal := units
    unitsAvailable := units
    status := .opened
    createdAt := js.toISOString moment.now
    createdBy := input.createdBy
    purchases := [] }
  return (listing, reservation)

end Listing

/-! ## Buying -/

/-- `BuyListingInput` (lines 342–349). -/
structure BuyListingInput where
  listingId : String
  buyerOrgId : String
  buyerNamespace : String
  units : Option ℚ
  purchasedBy : String
  platformFeePct : ℚ
  deriving DecidableEq

/-- A purchase after its reads. -/
structure Sale where
  input : BuyListingInput
  units : ℕ
  listing : ResaleListing
  reservation : CapacityReservation
  deriving DecidableEq

/-- Cores and GiB of memory. -/
abbrev Capacity := ℚ × ℚ

/-- So many units of a listing. -/
def ResaleListing.capacity (listing : ResaleListing) (units : ℕ) : Capacity :=
  (units * unitCpuCores, units * listing.memoryGiPerUnit)

/-- `deltaCpuCores` and `deltaMemoryGi` (lines 455–456). -/
def Sale.delta (sale : Sale) : Capacity := sale.listing.capacity sale.units

/-- `buyResaleListing` after its first read (lines 437–448). -/
def checkListing (js : JsRuntime) (input : BuyListingInput) (units : ℕ)
    (listing : Option ResaleListing) (now : ℤ) : Except String ResaleListing := do
  let some listing := listing
    | throw "listing not found"
  if listing.status ≠ .opened then
    throw ("listing is " ++ listing.status.text ++ ", not open")
  if listing.unitsAvailable < units then
    throw ("only " ++ toString listing.unitsAvailable ++
      " unit(s) remain available on this listing")
  if listing.sellerOrgId = input.buyerOrgId then
    throw "an org cannot buy its own resale listing"
  if ended js listing.reservationEndDate now then
    throw "the underlying reservation's term has already ended"
  return listing

/-- `buyResaleListing` after its second read (lines 452–459). -/
def checkReservation (input : BuyListingInput) (units : ℕ) (listing : ResaleListing)
    (reservation : Option CapacityReservation) : Except String Sale := do
  let some reservation := reservation
    | throw "seller no longer has an active reservation to fulfill this sale from"
  let sale : Sale := { input, units, listing, reservation }
  if reservation.committedCpuCores < sale.delta.1 ∨
      reservation.committedMemoryGi < sale.delta.2 then
    throw "seller reservation no longer commits enough capacity to fulfill this sale"
  return sale

/-- The purchase of a sale (lines 473–485). -/
def Sale.purchase (js : JsRuntime) (sale : Sale) (now : ℤ) : ResaleListingPurchase where
  buyerOrgId := sale.input.buyerOrgId
  buyerNamespace := sale.input.buyerNamespace
  units := sale.units
  pricePerUnit := sale.listing.pricePerUnit
  purchaseAmount := sale.units * sale.listing.pricePerUnit
  platformFeePct := sale.input.platformFeePct
  platformFee := sale.units * sale.listing.pricePerUnit * (sale.input.platformFeePct / 100)
  purchasedAt := js.toISOString now
  purchasedBy := sale.input.purchasedBy

/-- What `applyQuotaDelta` patches a quota to (lines 383–399). -/
def QuotaHard.patched (hard : QuotaHard) (delta : Capacity) : QuotaHard where
  limitsCpu := some (max 0 (hard.limitsCpu.getD 0 + delta.1))
  requestsCpu := some (max 0 (hard.requestsCpu.getD 0 + delta.1))
  limitsMemory := some (max 0 (hard.limitsMemory.getD 0 + delta.2))
  requestsMemory := some (max 0 (hard.requestsMemory.getD 0 + delta.2))

/-- The calls of `applyQuotaDelta` in a purchase (lines 461, 464 and 466). -/
inductive Transfer
  | debit
  | credit
  | revert (creditError : String)
  deriving DecidableEq

namespace Transfer

/-- The namespace whose quota changes. -/
def tenantNamespace (sale : Sale) : Transfer → String
  | .credit => sale.input.buyerNamespace
  | _ => sale.listing.sellerNamespace

/-- By how much it changes. -/
def delta (sale : Sale) : Transfer → Capacity
  | .debit => -sale.delta
  | _ => sale.delta

end Transfer

/-! ## The records of a deal -/

/-- What is written once a listing is checked, or capacity is transferred. -/
inductive Deal
  | offered (listing : ResaleListing) (reservation : CapacityReservation)
  | sold (sale : Sale) (purchase : ResaleListingPurchase)
  deriving DecidableEq

namespace Deal

/-- The organisation that sells. -/
def sellerOrgId : Deal → String
  | .offered listing _ => listing.sellerOrgId
  | .sold sale _ => sale.listing.sellerOrgId

/-- The reservation that the call has read. -/
def reservation : Deal → CapacityReservation
  | .offered _ reservation => reservation
  | .sold sale _ => sale.reservation

/-- The listing that is stored (lines 311–324 and 487–493). -/
def listing : Deal → ResaleListing
  | .offered listing _ => listing
  | .sold sale purchase =>
    let remainingUnits := sale.listing.unitsAvailable - sale.units
    { sale.listing with
      unitsAvailable := remainingUnits
      status := if remainingUnits ≤ 0 then .soldOut else .opened
      purchases := sale.listing.purchases ++ [purchase] }

/-- The reservation that is stored (lines 329–335 and 497–511). -/
def updatedReservation : Deal → CapacityReservation
  | .offered listing reservation =>
    { reservation with listedForResale := some {
        pricePerUnit := listing.pricePerUnit
        unitsAvailable := reservation.listedUnits + listing.unitsAvailable } }
  | .sold sale _ =>
    let remainingListedUnits := sale.reservation.listedUnits - sale.units
    { sale.reservation with
      committedCpuCores := sale.reservation.committedCpuCores - sale.delta.1
      committedMemoryGi := sale.reservation.committedMemoryGi - sale.delta.2
      listedForResale := if 0 < remainingListedUnits then some {
          pricePerUnit := sale.listing.pricePerUnit
          unitsAvailable := remainingListedUnits }
        else none }

/-- The id of a new listing is not in use. -/
def FreshIn (market : Market) : Deal → Prop
  | .offered listing _ => listing.listingId ∉ market.listings
  | .sold _ _ => True

instance (market : Market) (deal : Deal) : Decidable (deal.FreshIn market) := by
  unfold FreshIn; split <;> infer_instance

/-- What the call returns once all is stored. -/
def outcome (deal : Deal) : Outcome :=
  match deal with
  | .offered listing _ => .listed listing
  | .sold _ purchase => .bought deal.listing purchase

end Deal

/-! ## The calls -/

/-- A call of the market. -/
inductive Request
  | create (input : CreateListingInput)
  | buy (input : BuyListingInput)

/-- Where a call stands: what it awaits, with what it has read. -/
inductive Phase
  | createRead (input : CreateListingInput) (units : ℕ) (pricePerUnit : ℚ)
  | buyRead (input : BuyListingInput) (units : ℕ)
  | buyReservation (input : BuyListingInput) (units : ℕ) (listing : ResaleListing)
  | quotaRead (sale : Sale) (transfer : Transfer)
  | quotaPatch (sale : Sale) (transfer : Transfer) (hard : QuotaHard)
  | putListing (deal : Deal)
  | putReservation (deal : Deal)
  | done (outcome : Outcome)
  deriving DecidableEq

/-- What an awaited operation answers. -/
inductive Answer
  | read (result : K8sResult Unit) (moment : Moment)
  | write (result : K8sResult Unit) (moment : Moment)

namespace Phase

/-- A call returns an error. -/
def fails (error : String) : Phase := .done (.failed error)

/-- A transfer fails (lines 462 and 465–471). -/
def transferFails (sale : Sale) (error : String) : Transfer → Phase
  | .debit => fails ("debiting seller quota: " ++ error)
  | .credit => .quotaRead sale (.revert error)
  | .revert creditError => fails ("crediting buyer quota: " ++ creditError ++
      " (seller debit revert ALSO FAILED (" ++ error ++ ") -- manual reconciliation required)")

/-- The start of a call (lines 268–273 and 431–433). -/
def enter (market : Market) : Request → Phase × Market
  | .create input =>
    match wholeUnits input.units, input.pricePerUnit with
    | none, _ => (fails unitsError, market)
    | some units, some pricePerUnit =>
      if 0 < pricePerUnit then (.createRead input units pricePerUnit, market)
      else (fails "pricePerUnit must be a positive number", market)
    | some _, none => (fails "pricePerUnit must be a positive number", market)
  | .buy input =>
    match wholeUnits input.units with
    | none => (fails unitsError, market)
    | some units => (.buyRead input units, market)

section Resume

variable (js : JsRuntime)

/-- A call that has checked its listing, its price and its reservation stores the listing. -/
def ofNewListing : Except String (ResaleListing × CapacityReservation) → Phase
  | .ok (listing, reservation) => .putListing (.offered listing reservation)
  | .error error => fails error

/-- A call that has checked the listing reads the reservation. -/
def ofListing (input : BuyListingInput) (units : ℕ) : Except String ResaleListing → Phase
  | .ok listing => .buyReservation input units listing
  | .error error => fails error

/-- A call that has checked the reservation debits the seller. -/
def ofReservation : Except String Sale → Phase
  | .ok sale => .quotaRead sale .debit
  | .error error => fails error

/-- `applyQuotaDelta` after its read (lines 379–382). -/
def ofQuota (sale : Sale) (transfer : Transfer) (hard : Option QuotaHard) : Phase :=
  match hard with
  | some hard => .quotaPatch sale transfer hard
  | none => transferFails sale ("namespace " ++ transfer.tenantNamespace sale ++ " has no " ++
      transfer.tenantNamespace sale ++ "-quota ResourceQuota to adjust") transfer

/-- A transfer is done (lines 464, 473–485 and 465–471). -/
def ofTransferred (sale : Sale) (now : ℤ) : Transfer → Phase
  | .debit => .quotaRead sale .credit
  | .credit => .putListing (.sold sale (sale.purchase js now))
  | .revert creditError =>
    fails ("crediting buyer quota: " ++ creditError ++ " (seller debit was reverted)")

/-- A call from an answer to its next await. -/
def resume (market : Market) (phase : Phase) (answer : Answer) : Option (Phase × Market) :=
  match phase, answer with
  | .createRead _ _ _, .read (.error error) _ => some (fails error, market)
  | .createRead input units pricePerUnit, .read (.ok ()) moment =>
    some (ofNewListing (newListing js input units pricePerUnit
      (market.getReservation input.sellerOrgId) moment), market)
  | .buyRead _ _, .read (.error error) _ => some (fails error, market)
  | .buyRead input units, .read (.ok ()) moment =>
    some (ofListing input units
      (checkListing js input units (market.getListing input.listingId) moment.now), market)
  | .buyReservation _ _ _, .read (.error error) _ => some (fails error, market)
  | .buyReservation input units listing, .read (.ok ()) _ =>
    some (ofReservation
      (checkReservation input units listing (market.getReservation listing.sellerOrgId)), market)
  | .quotaRead sale transfer, .read (.error error) _ =>
    some (transferFails sale error transfer, market)
  | .quotaRead sale transfer, .read (.ok ()) _ =>
    some (ofQuota sale transfer market.quotas[transfer.tenantNamespace sale]?, market)
  | .quotaPatch sale transfer _, .write (.error error) _ =>
    some (transferFails sale error transfer, market)
  | .quotaPatch sale transfer hard, .write (.ok ()) moment =>
    some (ofTransferred js sale moment.now transfer,
      market.patchResourceQuotaHard (transfer.tenantNamespace sale)
        (hard.patched (transfer.delta sale)))
  | .putListing _, .write (.error error) _ => some (fails error, market)
  | .putListing deal, .write (.ok ()) _ =>
    if deal.FreshIn market then some (.putReservation deal, market.putListing deal.listing)
    else none
  | .putReservation _, .write (.error error) _ => some (fails error, market)
  | .putReservation deal, .write (.ok ()) _ =>
    some (.done deal.outcome, market.putReservationRecord deal.updatedReservation)
  | _, _ => none

end Resume

end Phase

/-- The calls of the market. -/
def program (js : JsRuntime) : Program Market Phase Request Answer Empty where
  enter := Phase.enter
  resume := Phase.resume js
  move market _ := market

/-! ## What a call has checked -/

section Checks

variable {js : JsRuntime} {input : BuyListingInput} {units : ℕ}

variable {stored : Option CapacityReservation} {listing : ResaleListing}

/-- A listing that may be stored is open, and of units that the reservation commits and that are not
listed. -/
theorem newListing_ok {input : CreateListingInput} {pricePerUnit : ℚ} {moment : Moment}
    {reservation : CapacityReservation}
    (h : newListing js input units pricePerUnit stored moment = .ok (listing, reservation)) :
    stored = some reservation ∧ listing.sellerOrgId = input.sellerOrgId ∧
      listing.status = .opened ∧
      (reservation.listedUnits + listing.unitsAvailable : ℤ) ≤
        ⌊reservation.committedCpuCores / unitCpuCores⌋ := by
  unfold newListing at h
  cases stored with
  | none => cases h
  | some stored =>
    simp only [bind, Except.bind, pure, Except.pure, throw, throwThe, MonadExceptOf.throw] at h
    split_ifs at h with hnamespace hended hcommitted hunits
    split at h
    · cases h
    · obtain ⟨rfl, rfl⟩ := Prod.mk.inj (Except.ok.inj h)
      refine ⟨rfl, rfl, rfl, ?_⟩
      show (stored.listedUnits + units : ℤ) ≤ _
      omega

/-- A listing that may be bought from is open, and has the units. -/
theorem checkListing_ok {stored : Option ResaleListing} {now : ℤ}
    (h : checkListing js input units stored now = .ok listing) :
    stored = some listing ∧ listing.status = .opened ∧ units ≤ listing.unitsAvailable := by
  unfold checkListing at h
  cases stored with
  | none => cases h
  | some stored =>
    simp only [bind, Except.bind, pure, Except.pure, throw, throwThe, MonadExceptOf.throw] at h
    split_ifs at h with hstatus hunits hself hended
    obtain rfl := Except.ok.inj h
    exact ⟨rfl, not_not.mp hstatus, not_lt.mp hunits⟩

/-- A sale is of the listing, from the reservation. -/
theorem checkReservation_ok {sale : Sale}
    (h : checkReservation input units listing stored = .ok sale) :
    stored = some sale.reservation ∧ sale.listing = listing ∧ sale.units = units := by
  unfold checkReservation at h
  cases stored with
  | none => cases h
  | some stored =>
    simp only [bind, Except.bind, pure, Except.pure, throw, throwThe, MonadExceptOf.throw] at h
    split_ifs at h with hcommitted
    obtain rfl := Except.ok.inj h
    exact ⟨rfl, rfl, rfl⟩

end Checks

/-! ## How a call goes on -/

namespace Phase

/-- A call that is yet to check its reads. -/
def Checks : Phase → Prop
  | .createRead _ _ _ | .buyRead _ _ | .buyReservation _ _ _ => True
  | _ => False

/-- A call begins without an effect: it reads, or is refused. -/
theorem enter_cases (market : Market) (request : Request) :
    (enter market request).2 = market ∧
      ((∃ input units pricePerUnit,
          (enter market request).1 = .createRead input units pricePerUnit) ∨
        (∃ input units, (enter market request).1 = .buyRead input units) ∨
        ∃ error, (enter market request).1 = fails error) := by
  cases request with
  | create input =>
    simp only [enter]
    split
    · exact ⟨rfl, .inr (.inr ⟨_, rfl⟩)⟩
    · split_ifs
      · exact ⟨rfl, .inl ⟨_, _, _, rfl⟩⟩
      · exact ⟨rfl, .inr (.inr ⟨_, rfl⟩)⟩
    · exact ⟨rfl, .inr (.inr ⟨_, rfl⟩)⟩
  | buy input =>
    simp only [enter]
    split
    · exact ⟨rfl, .inr (.inr ⟨_, rfl⟩)⟩
    · exact ⟨rfl, .inr (.inl ⟨_, _, rfl⟩)⟩

/-- The ways a call goes on. -/
inductive Step (js : JsRuntime) (market : Market) : Phase → Answer → Phase → Market → Prop
  | refused {phase answer} (error : String) (h : phase.Checks) :
    Step js market phase answer (fails error) market
  | offers {input units pricePerUnit answer} (listing : ResaleListing)
    (reservation : CapacityReservation)
    (hstored : market.getReservation listing.sellerOrgId = some reservation)
    (hopen : listing.status = .opened)
    (hunits : (reservation.listedUnits + listing.unitsAvailable : ℤ) ≤
      ⌊reservation.committedCpuCores / unitCpuCores⌋) :
    Step js market (.createRead input units pricePerUnit) answer
      (.putListing (.offered listing reservation)) market
  | finds {input units answer} (listing : ResaleListing) (hopen : listing.status = .opened)
    (hunits : units ≤ listing.unitsAvailable) :
    Step js market (.buyRead input units) answer (.buyReservation input units listing) market
  | sells {input units answer} (sale : Sale)
    (hstored : market.getReservation sale.listing.sellerOrgId = some sale.reservation) :
    sale.units = units → Step js market (.buyReservation input units sale.listing) answer
      (.quotaRead sale .debit) market
  | readsQuota {sale transfer answer} (hard : QuotaHard)
    (hstored : market.quotas[transfer.tenantNamespace sale]? = some hard) :
    Step js market (.quotaRead sale transfer) answer (.quotaPatch sale transfer hard) market
  | readFails {sale transfer moment} (error : String) :
    Step js market (.quotaRead sale transfer) (.read (.error error) moment)
      (transferFails sale error transfer) market
  | noQuota {sale transfer moment} (error : String)
    (hstored : market.quotas[transfer.tenantNamespace sale]? = none) :
    Step js market (.quotaRead sale transfer) (.read (.ok ()) moment)
      (transferFails sale error transfer) market
  | patchFails {sale transfer hard moment} (error : String) :
    Step js market (.quotaPatch sale transfer hard) (.write (.error error) moment)
      (transferFails sale error transfer) market
  | patches {sale transfer hard moment} :
    Step js market (.quotaPatch sale transfer hard) (.write (.ok ()) moment)
      (ofTransferred js sale moment.now transfer)
      (market.patchResourceQuotaHard (transfer.tenantNamespace sale)
        (hard.patched (transfer.delta sale)))
  | listingFails {deal moment} (error : String) :
    Step js market (.putListing deal) (.write (.error error) moment) (fails error) market
  | putsListing {deal moment} (hfresh : deal.FreshIn market) :
    Step js market (.putListing deal) (.write (.ok ()) moment) (.putReservation deal)
      (market.putListing deal.listing)
  | reservationFails {deal moment} (error : String) :
    Step js market (.putReservation deal) (.write (.error error) moment) (fails error) market
  | putsReservation {deal moment} :
    Step js market (.putReservation deal) (.write (.ok ()) moment) (.done deal.outcome)
      (market.putReservationRecord deal.updatedReservation)

/-- A call goes on by one of the steps. -/
theorem step_of_resume {js : JsRuntime} {market : Market} {phase : Phase} {answer : Answer}
    {after : Phase × Market} (h : resume js market phase answer = some after) :
    Step js market phase answer after.1 after.2 := by
  unfold resume at h
  split at h
  · -- `createRead` fails
    obtain rfl := Option.some.inj h
    exact .refused _ trivial
  · rename_i input units pricePerUnit moment
    obtain rfl := Option.some.inj h
    show Step js market _ _ (ofNewListing _) market
    rcases hnew : newListing js input units pricePerUnit (market.getReservation input.sellerOrgId)
      moment with error | ⟨listing, reservation⟩
    · exact .refused _ trivial
    · obtain ⟨hstored, hseller, hopen, hunits⟩ := newListing_ok hnew
      exact .offers listing reservation (by rw [hseller]; exact hstored) hopen hunits
  · -- `buyRead` fails
    obtain rfl := Option.some.inj h
    exact .refused _ trivial
  · rename_i input units moment
    obtain rfl := Option.some.inj h
    show Step js market _ _ (ofListing input units _) market
    rcases hcheck : checkListing js input units (market.getListing input.listingId) moment.now with
      error | listing
    · exact .refused _ trivial
    · obtain ⟨-, hopen, hunits⟩ := checkListing_ok hcheck
      exact .finds listing hopen hunits
  · -- `buyReservation` fails
    obtain rfl := Option.some.inj h
    exact .refused _ trivial
  · rename_i input units listing moment
    obtain rfl := Option.some.inj h
    show Step js market _ _ (ofReservation _) market
    rcases hcheck : checkReservation input units listing
      (market.getReservation listing.sellerOrgId) with error | sale
    · exact .refused _ trivial
    · obtain ⟨hstored, rfl, hunits⟩ := checkReservation_ok hcheck
      exact .sells sale hstored hunits
  · -- `quotaRead` fails
    obtain rfl := Option.some.inj h
    exact .readFails _
  · rename_i sale transfer moment
    obtain rfl := Option.some.inj h
    show Step js market _ _ (ofQuota sale transfer _) market
    cases hstored : market.quotas[transfer.tenantNamespace sale]? with
    | none => exact .noQuota _ hstored
    | some hard => exact .readsQuota hard hstored
  · -- `quotaPatch` fails
    obtain rfl := Option.some.inj h
    exact .patchFails _
  · obtain rfl := Option.some.inj h
    exact .patches
  · -- `putListing` fails
    obtain rfl := Option.some.inj h
    exact .listingFails _
  · split_ifs at h with hfresh
    obtain rfl := Option.some.inj h
    exact .putsListing hfresh
  · -- `putReservation` fails
    obtain rfl := Option.some.inj h
    exact .reservationFails _
  · obtain rfl := Option.some.inj h
    exact .putsReservation
  · cases h

end Phase

end ChatmanEcosystem.Console.ResaleMarket
