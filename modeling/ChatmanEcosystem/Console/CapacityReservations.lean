import ChatmanEcosystem.Console.OverageBilling
import ChatmanEcosystem.Console.PlanStates
import ChatmanEcosystem.Console.ResaleMarket

/-!
# Capacity reservations

Model of `createReservation`, `cancelReservation` and `sweepExpiredReservations`
(`platform-console/app/lib/capacity-reservations.ts`, lines 226–382) and of
`buyResaleListing` (`app/lib/reservation-marketplace.ts`, lines 372–517) as far as
they patch ResourceQuotas, with `parseK8sQuantity` (`app/lib/k8s.ts`, lines
2409–2438). A call stops at its awaits. What the ConfigMap of the reservations
answers is an argument of the model, as is the text of a number. Numbers are exact.
-/

namespace ChatmanEcosystem.Console.Capacity

open Common.Concurrent Js
open Console.Overage (ProjectTier)
open Console.PlanStates
open Console.ResaleMarket (QuotaHard ResaleListing Market)

/-! ## Quantities -/

/-- What `Number(text)` reads, if it is finite, and what `String(number)` writes. -/
structure Decimals where
  number : String → Option ℚ
  text : ℚ → String

/-- `QUANTITY_SUFFIX_MULTIPLIERS` (`k8s.ts`, lines 2409–2426). -/
def quantitySuffixMultipliers : List (String × ℚ) :=
  [("n", 1 / 10 ^ 9), ("u", 1 / 10 ^ 6), ("m", 1 / 10 ^ 3), ("", 1), ("k", 10 ^ 3), ("M", 10 ^ 6),
    ("G", 10 ^ 9), ("T", 10 ^ 12), ("P", 10 ^ 15), ("E", 10 ^ 18), ("Ki", 2 ^ 10), ("Mi", 2 ^ 20),
    ("Gi", 2 ^ 30), ("Ti", 2 ^ 40), ("Pi", 2 ^ 50), ("Ei", 2 ^ 60)]

/-- `[0-9.eE+-]`. -/
def isNumberUnit (c : Char) : Bool := c.isDigit || c ∈ ['.', 'e', 'E', '+', '-']

section Quantities

variable (decimals : Decimals)

/-- `parseK8sQuantity` (`k8s.ts`, lines 2428–2438). The number is as long as it can be with a suffix
after it. -/
def parseK8sQuantity (raw : Option String) : Option ℚ := do
  let raw ← raw
  guard (raw ≠ "")
  let text := (trim raw).toList
  let splits := (List.range (text.length + 1)).reverse.map text.splitAt
  let (numStr, suffix) ← splits.find? fun (numStr, suffix) =>
    numStr ≠ [] && numStr.all isNumberUnit &&
      (quantitySuffixMultipliers.lookup (String.ofList suffix)).isSome
  let number ← decimals.number (String.ofList numStr)
  let multiplier ← quantitySuffixMultipliers.lookup (String.ofList suffix)
  return number * multiplier

/-- `quantityToMillicores` (`k8s.ts`, lines 2440–2443). -/
def quantityToMillicores (raw : Option String) : Option ℚ :=
  (parseK8sQuantity decimals raw).map (· * 1000)

/-- `quantityToMiB` (`k8s.ts`, lines 2445–2448). -/
def quantityToMiB (raw : Option String) : Option ℚ :=
  (parseK8sQuantity decimals raw).map (· / (1024 * 1024))

/-- The quantities that `applyQuotaDelta` reads (`reservation-marketplace.ts`, lines 383–387). -/
def quotaHard (hard : HardMap) : QuotaHard where
  limitsCpu := (quantityToMillicores decimals hard["limits.cpu"]?).map (· / 1000)
  requestsCpu := (quantityToMillicores decimals hard["requests.cpu"]?).map (· / 1000)
  limitsMemory := (quantityToMiB decimals hard["limits.memory"]?).map (· / 1024)
  requestsMemory := (quantityToMiB decimals hard["requests.memory"]?).map (· / 1024)

/-- The patch of cores and GiB of `committedResourceQuotaHard` (lines 236–248) and
`applyQuotaDelta` (`reservation-marketplace.ts`, lines 394–399). -/
def quantityPatch (limitsCpu requestsCpu limitsMemory requestsMemory : ℚ) : HardMap :=
  .ofList [("limits.cpu", decimals.text limitsCpu), ("requests.cpu", decimals.text requestsCpu),
    ("limits.memory", decimals.text limitsMemory ++ "Gi"),
    ("requests.memory", decimals.text requestsMemory ++ "Gi")]

/-- `committedResourceQuotaHard` (lines 236–248). -/
def committedResourceQuotaHard (committedCpuCores committedMemoryGi : ℚ) : HardMap :=
  quantityPatch decimals committedCpuCores committedCpuCores committedMemoryGi committedMemoryGi

/-- The patch of `applyQuotaDelta` with the quantities that it has computed. -/
def deltaPatch (hard : QuotaHard) : HardMap :=
  quantityPatch decimals (hard.limitsCpu.getD 0) (hard.requestsCpu.getD 0)
    (hard.limitsMemory.getD 0) (hard.requestsMemory.getD 0)

end Quantities

/-- `resourceQuotaHardFor` (`lib/tiers.ts`, lines 72–110). -/
def resourceQuotaHardFor : ProjectTier → HardMap
  | .starter => .ofList [("pods", "5"), ("requests.cpu", "500m"), ("requests.memory", "500Mi"),
    ("limits.cpu", "3"), ("limits.memory", "3Gi")]
  | .pro => .ofList [("pods", "10"), ("requests.cpu", "1"), ("requests.memory", "1Gi"),
    ("limits.cpu", "6"), ("limits.memory", "6Gi")]
  | .enterprise => .ofList [("pods", "15"), ("requests.cpu", "1500m"),
    ("requests.memory", "1500Mi"), ("limits.cpu", "9"), ("limits.memory", "9Gi")]

/-! ## Reservations -/

/-- `ReservationTermMonths` (`lib/tiers.ts`, lines 287–289). -/
inductive ReservationTermMonths
  | six
  | twelve
  | twentyFour
  | thirtySix
  deriving DecidableEq

/-- The number of months. -/
def ReservationTermMonths.months : ReservationTermMonths → ℕ
  | six => 6
  | twelve => 12
  | twentyFour => 24
  | thirtySix => 36

/-- `isReservationTermMonths` (`lib/tiers.ts`, lines 291–293), with the term. -/
def reservationTermMonths (value : ℚ) : Option ReservationTermMonths :=
  [.six, .twelve, .twentyFour, .thirtySix].find? fun term : ReservationTermMonths =>
    value = term.months

/-- `RESERVATION_DISCOUNT_TABLE` (`lib/tiers.ts`, lines 295–299). -/
def reservationDiscountPct : ProjectTier → ReservationTermMonths → ℚ
  | .starter, .six => 5
  | .starter, .twelve => 10
  | .starter, .twentyFour => 15
  | .starter, .thirtySix => 18
  | .pro, .six => 10
  | .pro, .twelve => 20
  | .pro, .twentyFour => 28
  | .pro, .thirtySix => 35
  | .enterprise, .six => 12
  | .enterprise, .twelve => 25
  | .enterprise, .twentyFour => 35
  | .enterprise, .thirtySix => 42

/-- `CapacityReservation` (lines 87–99), with what the market does not read. -/
structure CapacityReservation extends ResaleMarket.CapacityReservation where
  tier : ProjectTier
  termMonths : ReservationTermMonths
  startDate : String
  createdBy : String
  deriving DecidableEq

/-- `CreateReservationInput` (lines 250–257). A number that is not finite is `none`. -/
structure CreateReservationInput where
  orgId : String
  tenantNamespace : String
  committedCpuCores : Option ℚ
  committedMemoryGi : Option ℚ
  termMonths : ℚ
  createdBy : String
  deriving DecidableEq

/-- An input that is checked. -/
structure Commitment where
  orgId : String
  tenantNamespace : String
  committedCpuCores : ℚ
  committedMemoryGi : ℚ
  termMonths : ReservationTermMonths
  createdBy : String
  deriving DecidableEq

/-- The checks of `createReservation` (lines 278–286). -/
def checkInput (input : CreateReservationInput) : Except String Commitment :=
  match input.committedCpuCores.filter (0 < ·), input.committedMemoryGi.filter (0 < ·),
    reservationTermMonths input.termMonths with
  | none, _, _ => .error "committedCpuCores must be a positive number"
  | some _, none, _ => .error "committedMemoryGi must be a positive number"
  | some _, some _, none => .error "termMonths must be one of the supported commitment terms"
  | some committedCpuCores, some committedMemoryGi, some termMonths =>
    .ok { input with committedCpuCores, committedMemoryGi, termMonths }

/-- `date.setUTCMonth(date.getUTCMonth() + months)`. -/
def addUTCMonths (instant : ℤ) (months : ℕ) : ℤ :=
  let day := instant / 86400000
  let (year, month, dayOfMonth) := civilFromDays day
  let shifted := month - 1 + months
  (daysFromCivil (year + shifted / 12) (shifted % 12 + 1) 1 + (dayOfMonth - 1)) * 86400000 +
    instant % 86400000

/-- The reservation that `createReservation` makes (lines 298–313). -/
def newReservation (js : JsRuntime) (commitment : Commitment) (tier : ProjectTier) (now : ℤ) :
    CapacityReservation where
  orgId := commitment.orgId
  tenantNamespace := commitment.tenantNamespace
  tier
  committedCpuCores := commitment.committedCpuCores
  committedMemoryGi := commitment.committedMemoryGi
  termMonths := commitment.termMonths
  discountPct := reservationDiscountPct tier commitment.termMonths
  startDate := js.toISOString now
  endDate := js.toISOString (addUTCMonths now commitment.termMonths.months)
  createdBy := commitment.createdBy
  listedForResale := none

/-! ## Calls -/

/-- A sweep between two cancellations. -/
structure Sweep where
  now : ℤ
  rest : List CapacityReservation
  expiredOrgIds : List String
  activeOrgIds : List String
  errors : List (String × String)
  deriving DecidableEq

/-- How a call ends. -/
inductive Outcome
  | reserved (reservation : CapacityReservation)
  | cancelled
  | swept (expiredOrgIds activeOrgIds : List String) (errors : List (String × String))
  | failed (error : String)
  deriving DecidableEq

/-- Where a call stands. A cancellation is a call of its own, or one of a sweep. -/
inductive CapacityCall
  /-- `createReservation` awaits the tier (line 288). -/
  | committing (commitment : Commitment)
  /-- It awaits the patch of the quota (line 295). -/
  | raising (commitment : Commitment) (tier : ProjectTier)
  /-- It awaits the write of the reservation (line 315). -/
  | storing (reservation : CapacityReservation)
  /-- `cancelReservation` awaits the tier (line 331). -/
  | cancelling (orgId tenantNamespace : String) (sweep : Option Sweep)
  /-- It awaits the patch of the quota (line 334). -/
  | lowering (orgId tenantNamespace : String) (tier : ProjectTier) (sweep : Option Sweep)
  /-- It awaits the removal of the reservation (line 341). -/
  | clearing (orgId : String) (sweep : Option Sweep)
  /-- `sweepExpiredReservations` awaits the reservations (line 360). -/
  | listing
  /-- `buyResaleListing`. -/
  | buying (phase : ResaleMarket.Phase)
  | done (outcome : Outcome)
  deriving DecidableEq

/-- A call of one of the functions. -/
inductive CapacityRequest
  | create (input : CreateReservationInput)
  | cancel (orgId tenantNamespace : String)
  | sweep
  | buy (input : ResaleMarket.BuyListingInput)

/-- What an awaited operation answers. A read of the market comes with the records of its
ConfigMap. -/
inductive CapacityAnswer
  | tier (tier : K8sResult ProjectTier)
  | patched (result : K8sResult Unit) (now : ℤ)
  | stored (result : K8sResult Unit)
  | listed (reservations : K8sResult (List CapacityReservation)) (now : ℤ)
  | market (listings : Std.ExtTreeMap String ResaleListing)
    (reservations : Std.ExtTreeMap String ResaleMarket.CapacityReservation)
    (answer : ResaleMarket.Answer)

section Calls

variable (js : JsRuntime) (decimals : Decimals)

/-- The loop of `sweepExpiredReservations` up to its next cancellation (lines 363–379). -/
def Sweep.proceed (now : ℤ) (expiredOrgIds : List String) (errors : List (String × String)) :
    List CapacityReservation → List String → CapacityCall
  | [], activeOrgIds => .done (.swept expiredOrgIds activeOrgIds errors)
  | reservation :: rest, activeOrgIds =>
    if (js.dateParse reservation.endDate).any (now < ·) then
      proceed now expiredOrgIds errors rest (activeOrgIds ++ [reservation.orgId])
    else .cancelling reservation.orgId reservation.tenantNamespace
      (some { now, rest, expiredOrgIds, activeOrgIds, errors })

/-- The end of a cancellation. -/
def endCancel (orgId : String) (result : K8sResult Unit) : Option Sweep → CapacityCall
  | none =>
    match result with
    | .ok () => .done .cancelled
    | .error error => .done (.failed error)
  | some sweep =>
    match result with
    | .ok () => Sweep.proceed js sweep.now (sweep.expiredOrgIds ++ [orgId]) sweep.errors sweep.rest
      sweep.activeOrgIds
    | .error error => Sweep.proceed js sweep.now sweep.expiredOrgIds
      (sweep.errors ++ [(orgId, error)]) sweep.rest sweep.activeOrgIds

/-- The patch that a call awaits, and the namespace of its quota. -/
def CapacityCall.awaitedPatch : CapacityCall → Option (String × HardMap)
  | raising commitment _ => some (commitment.tenantNamespace,
    committedResourceQuotaHard decimals commitment.committedCpuCores commitment.committedMemoryGi)
  | lowering _ tenantNamespace tier _ => some (tenantNamespace, resourceQuotaHardFor tier)
  | buying (.quotaPatch sale transfer hard) => some (transfer.tenantNamespace sale,
    deltaPatch decimals (hard.patched (transfer.delta sale)))
  | _ => none

/-- A call up to its first await. -/
def CapacityRequest.start : CapacityRequest → CapacityCall
  | create input =>
    match checkInput input with
    | .ok commitment => .committing commitment
    | .error error => .done (.failed error)
  | cancel orgId tenantNamespace => .cancelling orgId tenantNamespace none
  | sweep => .listing
  | buy input =>
    .buying (ResaleMarket.Phase.enter
      { listings := ∅, reservations := ∅, quotas := ∅ } (.buy input)).1

/-- The functions from an answer on, and whether it is that of a patch that succeeded. -/
def CapacityCall.resume (quotas : QuotaStore) :
    CapacityCall → CapacityAnswer → Option (CapacityCall × Bool)
  | committing commitment, .tier (.ok tier) => some (.raising commitment tier, false)
  | committing _, .tier (.error error) => some (.done (.failed error), false)
  | raising commitment tier, .patched (.ok ()) now =>
    some (.storing (newReservation js commitment tier now), true)
  | raising _ _, .patched (.error error) _ => some (.done (.failed error), false)
  | storing reservation, .stored (.ok ()) => some (.done (.reserved reservation), false)
  | storing _, .stored (.error error) => some (.done (.failed error), false)
  | cancelling orgId tenantNamespace sweep, .tier (.ok tier) =>
    some (.lowering orgId tenantNamespace tier sweep, false)
  | cancelling orgId _ sweep, .tier (.error error) =>
    some (endCancel js orgId (.error error) sweep, false)
  | lowering orgId _ _ sweep, .patched (.ok ()) _ => some (.clearing orgId sweep, true)
  | lowering orgId _ _ sweep, .patched (.error error) _ =>
    some (endCancel js orgId (.error error) sweep, false)
  | clearing orgId sweep, .stored result => some (endCancel js orgId result sweep, false)
  | listing, .listed (.ok reservations) now =>
    some (Sweep.proceed js now [] [] reservations [], false)
  | listing, .listed (.error error) _ => some (.done (.failed error), false)
  | buying phase, .market listings reservations answer =>
    let market : Market :=
      { listings, reservations, quotas := quotas.map fun _ quota => quotaHard decimals quota.spec }
    (phase.resume js market answer).map fun (next, _) =>
      (.buying next, match phase, answer with
        | .quotaPatch _ _ _, .write (.ok ()) _ => true
        | _, _ => false)
  | _, _ => none

end Calls

end ChatmanEcosystem.Console.Capacity
