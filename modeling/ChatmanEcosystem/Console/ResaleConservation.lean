import ChatmanEcosystem.Console.ResaleRecords

/-!
# Resale conserves capacity

Any interleaving of new listings and purchases, with writes and patches that may
fail. A purchase patches two quotas and then writes two records, each from what it
has read before.

Results:

* `bounded_step`, `hold_step`: what a step of an undisturbed call preserves.
* `accounts_quota`, `accounts_committed`: an undisturbed event moves what the calls account for.
* `conserves_of_undisturbed`: in a run whose events are all undisturbed no reservation is oversold,
  and every event moves exactly what its call accounts for.
-/

namespace ChatmanEcosystem.Console.ResaleMarket

open Common Common.Concurrent Js

/-! ## The invariant -/

/-- The calls are sound, the records agree up to what they are about to write, and what is taken and
what is on offer had been committed. -/
structure Orderly (start : Market) (system : System Market Phase) : Prop where
  hold : assertions.Hold system
  unrecorded : ∀ orgId, Balanced (·.unrecorded orgId) (Phase.unrecorded orgId) 0 system
  committed : ∀ orgId,
    Balanced (·.committed orgId) (Phase.recorded orgId) (start.committed orgId) system
  bounded : ∀ orgId, system.tally (Phase.unitsTaken orgId) + system.shared.unitsOnOffer orgId ≤
    start.unitsCommitted orgId

/-! ## What an undisturbed step preserves -/

section Steps

variable {js : JsRuntime} {start : Market} {system : System Market Phase} {orgId : String}

variable {reservation : CapacityReservation}

/-- While no call is between its records of the seller, the reservation knows what is on offer. -/
theorem Orderly.listedUnits (h : Orderly start system)
    (hnone : ∀ call ∈ system.calls, call.recording ≠ some orgId)
    (hstored : system.shared.getReservation orgId = some reservation) :
    system.shared.unitsOnOffer orgId = reservation.listedUnits := by
  have hzero : system.tally (Phase.unrecorded orgId) = 0 := by
    refine tally_eq_zero fun call hcall => ?_
    cases call with
    | putReservation deal => exact if_neg fun hseller => hnone _ hcall (congrArg some hseller)
    | _ => rfl
  have hbalanced : system.shared.unrecorded orgId = _ := h.unrecorded orgId
  rw [hzero, zero_vadd, Market.unrecorded, hstored] at hbalanced
  show system.shared.unitsOnOffer orgId = reservation.listedUnits
  have hsub : (system.shared.unitsOnOffer orgId : ℤ) - reservation.listedUnits = 0 := hbalanced
  omega

/-- While no call is between its records of the seller, what is taken off has been sold. -/
theorem tally_unitsTaken (hnone : ∀ call ∈ system.calls, call.recording ≠ some orgId) :
    system.tally (Phase.unitsTaken orgId) = system.tally (Phase.unitsSold orgId) := by
  refine congrArg List.sum (List.map_congr_left fun call hcall => ?_)
  cases call with
  | putReservation deal => exact if_neg fun hseller => hnone _ hcall (congrArg some hseller)
  | _ => rfl

/-- The units that a call has sold are the cores that it has recorded. -/
theorem recorded_fst (phase : Phase) (orgId : String) :
    (phase.recorded orgId).1 = -(phase.unitsSold orgId : ℚ) := by
  cases phase with
  | done outcome =>
    cases outcome with
    | bought listing purchase =>
      show (if listing.sellerOrgId = orgId then -listing.capacity purchase.units else 0).1 =
        -((if listing.sellerOrgId = orgId then purchase.units else 0 : ℕ) : ℚ)
      split_ifs
      · show -(purchase.units * unitCpuCores : ℚ) = _
        rw [unitCpuCores, mul_one]
      · simp
    | _ => simp [Phase.recorded, Phase.unitsSold]
  | _ => simp [Phase.recorded, Phase.unitsSold]

theorem tally_recorded_fst (system : System Market Phase) (orgId : String) :
    (system.tally (Phase.recorded orgId)).1 =
      -((system.tally (Phase.unitsSold orgId) : ℕ) : ℚ) := by
  have hfst := map_tally (AddMonoidHom.fst ℚ ℚ) (Phase.recorded orgId) system
  have hcast := map_tally (-Nat.castAddMonoidHom ℚ) (Phase.unitsSold orgId) system
  refine hfst.trans (Eq.trans ?_ hcast.symm)
  exact congrArg (System.tally · system) (funext fun phase => recorded_fst phase orgId)

/-- What the organisation had committed is what it commits, and what has been sold. -/
theorem Orderly.unitsCommitted (h : Orderly start system)
    (hstored : system.shared.getReservation orgId = some reservation) :
    start.unitsCommitted orgId = (⌊reservation.committedCpuCores / unitCpuCores⌋ +
      system.tally (Phase.unitsSold orgId)).toNat := by
  have hbalanced : system.shared.committed orgId = _ := h.committed orgId
  rw [Market.committed, hstored] at hbalanced
  cases hstart : start.committed orgId with
  | none =>
    rw [hstart] at hbalanced
    cases hbalanced
  | some committed =>
    rw [hstart] at hbalanced
    have hcores : reservation.committedCpuCores =
        (system.tally (Phase.recorded orgId)).1 + committed.1 :=
      congrArg Prod.fst (Option.some.inj hbalanced)
    have hsplit : committed.1 / unitCpuCores = reservation.committedCpuCores / unitCpuCores +
        (system.tally (Phase.unitsSold orgId) : ℕ) := by
      rw [hcores, tally_recorded_fst, unitCpuCores]
      ring
    rw [Market.unitsCommitted, hstart, Option.map_some, Option.getD_some, hsplit,
      Int.floor_add_natCast]

variable {i : ℕ} {phase after : Phase} {answer : Answer} {next : Market}

/-- An undisturbed step leaves enough committed for what is taken and what is on offer. -/
theorem bounded_step (h : Orderly start system) (hcall : system.calls[i]? = some phase)
    (hstep : Phase.Step js system.shared phase answer after next)
    (hundisturbed : phase.Undisturbed system answer) :
    System.tally (Phase.unitsTaken orgId) { shared := next, calls := system.calls.set i after } +
      next.unitsOnOffer orgId ≤ start.unitsCommitted orgId := by
  have hbounded := h.bounded orgId
  have htally : System.tally (Phase.unitsTaken orgId) _ + phase.unitsTaken orgId = _ :=
    tally_resume_add hcall next after
  have hsound : phase.Sound system.shared := h.hold.call i phase hcall
  rcases record_cases hstep hundisturbed with ⟨hphase, hafter, hlistings, -⟩ |
    ⟨deal, rfl, hfresh, hread, hnone, rfl, rfl⟩ | ⟨deal, rfl, rfl, rfl⟩
  · rw [(hphase.entries orgId).2.2.1, (hafter.entries orgId).2.2.1, add_zero, add_zero] at htally
    rw [htally, Market.unitsOnOffer, hlistings]
    exact hbounded
  · have honOffer : _ = (system.shared.unitsOnOffer orgId : ℤ) + _ :=
      unitsOnOffer_putListing hsound hfresh hread
    have htaken : (Phase.putReservation deal).unitsTaken orgId =
      if deal.sellerOrgId = orgId then deal.unitsTaken else 0 := rfl
    have hbefore : (Phase.putListing deal).unitsTaken orgId = 0 := rfl
    rw [htaken, hbefore] at htally
    by_cases hseller : deal.sellerOrgId = orgId
    · subst hseller
      rw [if_pos rfl] at honOffer htally
      cases deal with
      | offered listing reservation =>
        -- the units were committed and not listed
        have hlisted := h.listedUnits hnone hread.1
        have hcommitted := h.unitsCommitted hread.1
        have hsold := tally_unitsTaken hnone
        have hunits : (reservation.listedUnits + listing.unitsAvailable : ℤ) ≤
          ⌊reservation.committedCpuCores / unitCpuCores⌋ := hsound.2.2
        simp only [Deal.change, Deal.unitsTaken] at honOffer htally
        simp only [Deal.reservation] at hlisted hcommitted
        omega
      | sold sale purchase =>
        simp only [Deal.change, Deal.unitsTaken] at honOffer htally
        omega
    · rw [if_neg hseller] at honOffer htally
      omega
  · have hsame : (Phase.done deal.outcome).unitsTaken orgId =
        (Phase.putReservation deal).unitsTaken orgId := by
      cases deal with
      | offered listing reservation => exact (ite_self 0).symm
      | sold sale purchase =>
        have hunits : purchase.units = sale.units := hsound.1.2
        show (if sale.listing.sellerOrgId = orgId then purchase.units else 0) = _
        rw [hunits]
        rfl
    rw [hsame] at htally
    have honOffer : (system.shared.putReservationRecord
      deal.updatedReservation).unitsOnOffer orgId = system.shared.unitsOnOffer orgId := rfl
    omega

/-- An undisturbed listing is of no more units than the reservation lists. -/
theorem Orderly.unitsTaken_le (h : Orderly start system) {deal : Deal} (hsound : deal.Sound)
    (hread : deal.AsRead system.shared)
    (hnone : ∀ call ∈ system.calls, call.recording ≠ some deal.sellerOrgId) :
    deal.unitsTaken ≤ deal.reservation.listedUnits := by
  have hlisted := h.listedUnits hnone hread.1
  cases deal with
  | offered listing reservation => exact Nat.zero_le _
  | sold sale purchase =>
    obtain ⟨⟨hopened, hunits, -⟩, -⟩ := hsound
    have hle : sale.listing.offered sale.listing.sellerOrgId ≤ _ := offered_le hread.2
    rw [offered_of_opened hopened, if_pos rfl] at hle
    exact hunits.trans (hle.trans_eq hlisted)

/-- What is known of a call depends on the reservations only. -/
theorem Phase.Sound.of_reservations {market : Market} (h : phase.Sound market)
    (hsame : ∀ orgId, phase.recording = some orgId →
      next.getReservation orgId = market.getReservation orgId) : phase.Sound next := by
  cases phase with
  | putReservation deal =>
    obtain ⟨hdeal, hstored, htaken⟩ := h
    exact ⟨hdeal, (hsame _ rfl).trans hstored, htaken⟩
  | _ => exact h

theorem Phase.sound_transferFails {sale : Sale} (h : sale.Sound) {error : String}
    {transfer : Transfer} {market : Market} :
    (Phase.transferFails sale error transfer).Sound market := by
  cases transfer with
  | debit => trivial
  | credit => exact h
  | revert creditError => trivial

/-- The call that goes on by an undisturbed step stays sound. -/
theorem sound_step (h : Orderly start system) (hsound : phase.Sound system.shared)
    (hstep : Phase.Step js system.shared phase answer after next)
    (hundisturbed : phase.Undisturbed system answer) : after.Sound next := by
  cases hstep with
  | refused error hchecks => trivial
  | offers listing reservation hstored hopened hunits =>
    exact ⟨hopened, orgId_getReservation hstored, hunits⟩
  | finds listing hopened hunits => exact ⟨hopened, hunits⟩
  | sells sale hstored hunits =>
    obtain ⟨hopened, hle⟩ := hsound
    exact ⟨hopened, hunits.trans_le hle, orgId_getReservation hstored⟩
  | readsQuota hard hstored => exact hsound
  | readFails error => exact Phase.sound_transferFails hsound
  | noQuota error hstored => exact Phase.sound_transferFails hsound
  | patchFails error => exact Phase.sound_transferFails hsound
  | @patches sale transfer hard moment =>
    cases transfer with
    | debit => exact hsound
    | credit => exact ⟨hsound, rfl⟩
    | revert creditError => trivial
  | listingFails error => trivial
  | @putsListing deal moment hfresh =>
    obtain ⟨hread, hnone⟩ : deal.AsRead system.shared ∧
        ∀ call ∈ system.calls, call.recording ≠ some deal.sellerOrgId := by
      cases deal <;> exact hundisturbed
    exact ⟨hsound, hread.1, h.unitsTaken_le hsound hread hnone⟩
  | reservationFails error => trivial
  | putsReservation => trivial

/-- An undisturbed step keeps the calls sound, and their records apart. -/
theorem hold_step (h : Orderly start system) (hcall : system.calls[i]? = some phase)
    (hstep : Phase.Step js system.shared phase answer after next)
    (hundisturbed : phase.Undisturbed system answer) :
    assertions.Hold { shared := next, calls := system.calls.set i after } := by
  have hsound : phase.Sound system.shared := h.hold.call i phase hcall
  refine h.hold.resume hcall trivial (sound_step h hsound hstep hundisturbed) ?_ ?_ nofun
  · intro j call hj hother orgId hafter
    rcases record_cases hstep hundisturbed with ⟨-, hplain, -⟩ | ⟨deal, -, -, -, hnone, rfl, -⟩ |
      ⟨deal, -, rfl, -⟩
    · rw [(hplain.entries orgId).2.2.2] at hafter
      cases hafter
    · rw [← hafter]
      exact hnone call (List.mem_of_getElem? hother)
    · cases hafter
  · intro j call hj hother
    refine ⟨fun hcallSound => hcallSound.of_reservations fun orgId hrecording => ?_, nofun⟩
    rcases record_cases hstep hundisturbed with ⟨-, -, -, hreservations⟩ |
      ⟨deal, -, -, -, -, -, rfl⟩ | ⟨deal, rfl, -, rfl⟩
    · rw [Market.getReservation, hreservations]
      rfl
    · rfl
    · -- the other call is at the records of another seller
      have hapart := h.hold.apart i j _ _ (Ne.symm hj) hcall hother deal.sellerOrgId rfl
      have hne : deal.sellerOrgId ≠ orgId := fun hsame =>
        hapart (hrecording.trans (congrArg some hsame.symm))
      rw [getReservation_updated hsound.2.1, if_neg hne]

/-! ## Events -/

/-- A call that begins accounts for nothing. -/
theorem moved_enter (market : Market) (request : Request) (tenantNamespace : String) :
    (Phase.enter market request).1.moved tenantNamespace = 0 := by
  rcases (Phase.enter_cases market request).2 with ⟨input, units, pricePerUnit, hphase⟩ |
    ⟨input, units, hphase⟩ | ⟨error, hphase⟩ <;> rw [hphase] <;> rfl

theorem plain_enter (market : Market) (request : Request) :
    (Phase.enter market request).1.Plain ∧ (Phase.enter market request).1.Sound market := by
  rcases (Phase.enter_cases market request).2 with ⟨input, units, pricePerUnit, hphase⟩ |
    ⟨input, units, hphase⟩ | ⟨error, hphase⟩ <;> rw [hphase] <;> exact ⟨trivial, trivial⟩

variable {event : Event Request Answer Empty}

/-- An undisturbed event changes a reading as its step does. -/
theorem accounts_event {G X : Type*} [AddCommGroup G] [AddAction G X] {reading : Market → X}
    {entry : Phase → G} (hundisturbed : Undisturbed system event)
    (henter : ∀ request, entry (Phase.enter system.shared request).1 = 0)
    (hstep : ∀ (i : ℕ) phase answer after next, system.calls[i]? = some phase →
      Phase.Step js system.shared phase answer after next → phase.Undisturbed system answer →
      reading next = (entry after - entry phase) +ᵥ reading system.shared) :
    (program js).Accounts reading entry system event := by
  refine accounts_next ?_ ?_ ?_
  · intro request _
    have hsame := (Phase.enter_cases system.shared request).1
    show reading (Phase.enter system.shared request).2 =
      entry (Phase.enter system.shared request).1 +ᵥ _
    rw [hsame, henter, zero_vadd]
  · rintro i answer phase after rfl hcall hresume
    exact hstep i phase answer after.1 after.2 hcall (Phase.step_of_resume hresume)
      (hundisturbed phase hcall)
  · exact fun change => change.elim

theorem accounts_quota (hundisturbed : Undisturbed system event) (tenantNamespace : String) :
    (program js).Accounts (fun market => market.quotas[tenantNamespace]?)
      (Phase.moved tenantNamespace) system event :=
  accounts_event hundisturbed
    (fun request => moved_enter system.shared request tenantNamespace)
    fun _ _ _ _ _ _ hstep hcall => moved_step hstep hcall

theorem accounts_committed (h : Orderly start system) (hundisturbed : Undisturbed system event)
    (orgId : String) :
    (program js).Accounts (fun market => market.committed orgId) (Phase.recorded orgId) system
      event :=
  accounts_event hundisturbed
    (fun request => ((plain_enter system.shared request).1.entries orgId).1)
    fun i phase _ _ _ hcall hstep hphase => recorded_step hstep hphase (h.hold.call i phase hcall)

theorem accounts_unrecorded (h : Orderly start system) (hundisturbed : Undisturbed system event)
    (orgId : String) :
    (program js).Accounts (fun market => market.unrecorded orgId) (Phase.unrecorded orgId) system
      event :=
  accounts_event hundisturbed
    (fun request => ((plain_enter system.shared request).1.entries orgId).2.1)
    fun i phase _ _ _ hcall hstep hphase => unrecorded_step hstep hphase (h.hold.call i phase hcall)

/-- A call is made. -/
theorem Orderly.enter (h : Orderly start system) (request : Request) :
    assertions.Hold ((program js).next system (.call request)) ∧
      ∀ orgId, System.tally (Phase.unitsTaken orgId) ((program js).next system (.call request)) +
        ((program js).next system (.call request)).shared.unitsOnOffer orgId ≤
          start.unitsCommitted orgId := by
  obtain ⟨hplain, hsound⟩ := plain_enter system.shared request
  have hnext : (program js).next system (.call request) =
      { shared := system.shared
        calls := system.calls ++ [(Phase.enter system.shared request).1] } :=
    System.ext (Phase.enter_cases system.shared request).1 rfl
  rw [hnext]
  refine ⟨h.hold.enter trivial hsound ?_ (fun _ _ _ => .refl _ _ _) nofun, fun orgId => ?_⟩
  · intro j call _ orgId hrecording
    rw [(hplain.entries orgId).2.2.2] at hrecording
    cases hrecording
  · rw [tally_enter, (hplain.entries orgId).2.2.1, add_zero]
    exact h.bounded orgId

/-- An undisturbed event keeps the market orderly. -/
theorem orderly_next (system : System Market Phase) (event : Event Request Answer Empty)
    (h : Orderly start system) (hundisturbed : Undisturbed system event) :
    Orderly start ((program js).next system event) := by
  have hkept : assertions.Hold ((program js).next system event) ∧ ∀ orgId,
      System.tally (Phase.unitsTaken orgId) ((program js).next system event) +
        ((program js).next system event).shared.unitsOnOffer orgId ≤
          start.unitsCommitted orgId := by
    cases event with
    | call request => exact h.enter request
    | move change => exact change.elim
    | answer i answer =>
      rcases (program js).next_answer_cases system i answer with
        hnext | ⟨phase, after, hcall, hresume, hnext⟩
      · rw [hnext]
        exact ⟨h.hold, h.bounded⟩
      · rw [hnext]
        have hstep := Phase.step_of_resume hresume
        have hphase := hundisturbed phase hcall
        exact ⟨hold_step h hcall hstep hphase, fun orgId => bounded_step h hcall hstep hphase⟩
  exact {
    hold := hkept.1
    unrecorded := fun orgId => (h.unrecorded orgId).next (accounts_unrecorded h hundisturbed orgId)
    committed := fun orgId => (h.committed orgId).next (accounts_committed h hundisturbed orgId)
    bounded := hkept.2 }

end Steps

/-! ## Runs -/

/-- Reservations of which nothing is listed, and quotas, before the first call. -/
def init (reservations : Std.ExtTreeMap String CapacityReservation)
    (quotas : Std.ExtTreeMap String QuotaHard) : System Market Phase :=
  { shared := {
      listings := ∅
      reservations := reservations.map fun _ reservation =>
        { reservation with listedForResale := none }
      quotas }
    calls := [] }

theorem orderly_init (reservations : Std.ExtTreeMap String CapacityReservation)
    (quotas : Std.ExtTreeMap String QuotaHard) :
    Orderly (init reservations quotas).shared (init reservations quotas) where
  hold :=
    { shared := trivial
      call := fun _ _ hcall => (by cases hcall)
      apart := fun _ _ _ _ _ hcall => (by cases hcall)
      accounted := nofun }
  unrecorded orgId := by
    have hlisted : ((init reservations quotas).shared.getReservation orgId).map (·.listedUnits) =
        reservations[orgId]?.map fun _ => 0 := by
      show (((reservations.map _)[orgId]?).map _).map _ = _
      rw [Std.ExtTreeMap.getElem?_map, Option.map_map, Option.map_map]
      rfl
    show (0 : ℤ) - ((((init reservations quotas).shared.getReservation orgId).map
      (·.listedUnits)).getD 0 : ℕ) = 0
    rw [hlisted]
    cases reservations[orgId]? <;> rfl
  committed orgId := (zero_vadd _ _).symm
  bounded orgId := Nat.zero_le _

/-- In every run whose events are all undisturbed, an organisation never sells and offers more units
than it had committed, and every event changes every quota and what is committed by what its call
accounts for: in all nothing for a call that returns an error, and the units of the purchase for a
call that returns one. -/
theorem conserves_of_undisturbed (js : JsRuntime)
    (reservations : Std.ExtTreeMap String CapacityReservation)
    (quotas : Std.ExtTreeMap String QuotaHard) (events : List (Event Request Answer Empty))
    (h : Along (program js).next Undisturbed (init reservations quotas) events)
    (orgId tenantNamespace : String) :
    Always (program js).next (NotOversold orgId (init reservations quotas).shared)
        (init reservations quotas) events ∧
      Along (program js).next (MovesExactly js orgId tenantNamespace) (init reservations quotas)
        events := by
  have hinit := orderly_init reservations quotas
  refine ⟨(always_of_along orderly_next hinit h).mono fun system horderly => ?_,
    along_of_along orderly_next (fun system event horderly hevent => ?_) hinit h⟩
  · have hsold : system.tally (Phase.unitsSold orgId) ≤ system.tally (Phase.unitsTaken orgId) := by
      refine tally_le_tally fun call => ?_
      cases call with
      | putReservation deal => exact Nat.zero_le _
      | _ => exact le_rfl
    exact (Nat.add_le_add_right hsold _).trans (horderly.bounded orgId)
  · exact ⟨accounts_quota hevent tenantNamespace, accounts_committed horderly hevent orgId⟩

/-- A quota of so many cores and GiB. -/
def quotaOf (cores memory : ℚ) : QuotaHard := ⟨some cores, some cores, some memory, some memory⟩

/-- `acme` has committed to five cores and 10 GiB. -/
def acme : CapacityReservation where
  orgId := "acme"
  tenantNamespace := "acme"
  committedCpuCores := 5
  committedMemoryGi := 10
  discountPct := 20
  endDate := "2026-02-11T00:00:00.000Z"
  listedForResale := none

/-- The reservation, and the quotas of the seller and of two buyers. -/
def market (sellerCores : ℚ) : System Market Phase :=
  init ((∅ : Std.ExtTreeMap String CapacityReservation).insert "acme" acme)
    (.ofList [("acme", quotaOf sellerCores 10), ("beta", quotaOf 2 4), ("gamma", quotaOf 1 2)])

/-- `acme` lists units at a price between the bounds. -/
def lists (units : ℚ) : Event Request Answer Empty :=
  .call (.create { sellerOrgId := "acme", sellerNamespace := "acme", units := some units,
                   pricePerUnit := some 35, createdBy := "ann" })

/-- A buyer buys units of a listing. -/
def buys (listingId buyer : String) (units : ℚ) : Event Request Answer Empty :=
  .call (.buy { listingId, buyerOrgId := buyer, buyerNamespace := buyer, units := some units,
                purchasedBy := "bob", platformFeePct := 5 })

/-- A read is answered on the first of January. -/
def reads (i : ℕ) (listingId : String) : Event Request Answer Empty :=
  .answer i (.read (.ok ()) { now := 1767225600000, listingId })

/-- A write or a patch is answered. -/
def writes (i : ℕ) (result : K8sResult Unit) : Event Request Answer Empty :=
  .answer i (.write result { now := 1767225600000, listingId := "" })

/-- The seller's quota is read and patched, then the buyer's quota. -/
def transfers (i : ℕ) : List (Event Request Answer Empty) :=
  [reads i "", writes i (.ok ()), reads i "", writes i (.ok ())]

/-- Four units are listed; three are sold, and the sale of the other one is reverted. -/
theorem conserves_sold_and_reverted :
    let events := [lists 4, reads 0 "l1", writes 0 (.ok ()), writes 0 (.ok ()), buys "l1" "beta" 3,
      reads 1 "", reads 1 ""] ++ transfers 1 ++ [writes 1 (.ok ()), writes 1 (.ok ()),
      buys "l1" "gamma" 1, reads 2 "", reads 2 "", reads 2 "", writes 2 (.ok ()), reads 2 "",
      writes 2 (.error "forbidden"), reads 2 "", writes 2 (.ok ())]
    let last := (run (program gregorian).next (market 5) events).shared
    ["acme", "beta", "gamma"].map (last.quotas[·]?) =
      [some (quotaOf 2 4), some (quotaOf 5 10), some (quotaOf 1 2)] ∧
    Always (program gregorian).next (NotOversold "acme" (market 5).shared) (market 5) events ∧
      Along (program gregorian).next (MovesExactly gregorian "acme" "beta") (market 5) events := by
  intro events last
  exact ⟨by decide +kernel, conserves_of_undisturbed gregorian _ _ events (by decide +kernel)
    "acme" "beta"⟩

/-- Two buyers who overlap buy the same units; a purchase whose listing is not stored returns an
error after the quotas have moved; a quota that has less than the units is cut off at zero, and
reverted to more than it had. -/
theorem resale_not_conserved :
    let listed := [lists 5, reads 0 "l1", writes 0 (.ok ()), writes 0 (.ok ())]
    let checked (i : ℕ) := [reads i "", reads i ""]
    let stored (i : ℕ) := [writes i (.ok ()), writes i (.ok ())]
    let overlapping := listed ++ [buys "l1" "beta" 5, buys "l1" "gamma" 5] ++ checked 1 ++
      checked 2 ++ transfers 1 ++ stored 1 ++ transfers 2 ++ stored 2
    let unstored := listed ++ [buys "l1" "beta" 5] ++ checked 1 ++ transfers 1 ++
      [writes 1 (.error "conflict")]
    let reverted := listed ++ [buys "l1" "beta" 5] ++ checked 1 ++ [reads 1 "", writes 1 (.ok ()),
      reads 1 "", writes 1 (.error "forbidden"), reads 1 "", writes 1 (.ok ())]
    ¬ NotOversold "acme" (market 5).shared (run (program gregorian).next (market 5) overlapping) ∧
      ¬ Along (program gregorian).next (MovesExactly gregorian "acme" "acme") (market 5) unstored ∧
      ¬ Along (program gregorian).next (MovesExactly gregorian "acme" "acme") (market 3) reverted ∧
      (run (program gregorian).next (market 3) reverted).shared.quotas["acme"]? =
        some (quotaOf 5 10) := by
  decide +kernel

end ChatmanEcosystem.Console.ResaleMarket
