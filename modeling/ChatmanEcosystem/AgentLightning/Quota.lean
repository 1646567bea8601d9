import ChatmanEcosystem.AgentLightning.ReplayVerify
import ChatmanEcosystem.AgentLightning.StaleEvidence
import ChatmanEcosystem.Common.Balance

/-!
# Quotas of the service

What is consumed of a meter and what is reserved of it by reservations that are
not reconciled yet, over runs of the service. `bind_entitlement` replaces the quota
and leaves both as they are, so a smaller quota may find more of them than it has;
from then on they do not grow before they are within the quota.

Results:

* `Service.checkQuota_le`: what `check_quota` says about the sums.
* `Service.Step.level`: what a call can do to them.
* `quota_kept`: runs of the service.
-/

namespace ChatmanEcosystem.AgentLightning

open Common Commerce Core Rust

/-- What a reservation holds of a meter until it is reconciled. -/
def Reservation.held (meter : Meter) (reservation : Reservation) : ℕ :=
  if reservation.state = .reconciled then 0 else (reservation.units.amount meter).toNat

/-- What is consumed of a meter, and what is reserved of it. -/
def Service.level (service : Service) (meter : Meter) : ℕ :=
  (service.consumed.amount meter).toNat + total (Reservation.held meter) service.reservations

/-- A service, and what was consumed and reserved when its quota was bound. -/
structure Metered where
  service : Service
  atBind : Meter → ℕ

namespace Metered

def start (policy : Policy) (timestamp : String) : Metered where
  service := .opened policy timestamp
  atBind _ := 0

/-- A call, which may bind a quota. -/
def next (signing : Signing) (metered : Metered) (op : Op) : Metered where
  service := metered.service.next signing op
  atBind :=
    match op with
    | .bindEntitlement grant commercial authority =>
      match metered.service.bindEntitlement signing grant commercial authority with
      | .ok (_, service) => service.level
      | .error _ => metered.atBind
    | _ => metered.atBind

/-- No meter is above the quota that is bound. -/
def WithinQuota (metered : Metered) : Prop :=
  ∀ bound ∈ metered.service.entitlement, ∀ meter,
    metered.service.level meter ≤ (bound.grant.quota.amount meter).toNat

/-- No meter is above the quota that is bound and above what it was at when the quota was bound;
quotas of `u64::MAX` aside. -/
def Kept (metered : Metered) : Prop :=
  ∀ bound ∈ metered.service.entitlement, ∀ meter,
    (bound.grant.quota.amount meter).toNat < u64Max →
    metered.service.level meter ≤ max (bound.grant.quota.amount meter).toNat (metered.atBind meter)

end Metered

/-! ## The sums of `check_quota` -/

namespace Units

/-- The amount of a meter after an insertion. -/
theorem amount_insert (units : Units) (meter other : Meter) (value : UInt64) :
    amount (units.insert meter value) other =
      if meter = other then value else units.amount other := by
  rw [amount, Std.ExtTreeMap.getElem?_insert]
  simp only [Std.LawfulEqCmp.compare_eq_iff_eq]
  split_ifs <;> rfl

/-- What was not booked is as before. -/
theorem amount_foldl_of_notMem (entries : List (Meter × UInt64)) (consumed : Units) (meter : Meter)
    (h : ∀ entry ∈ entries, entry.1 ≠ meter) :
    (entries.foldl (fun (consumed : Units) (meter, units) =>
      consumed.insert meter (saturatingAdd (consumed.amount meter) units)) consumed).amount meter =
      consumed.amount meter := by
  induction entries generalizing consumed with
  | nil => rfl
  | cons entry entries ih =>
    obtain ⟨hentry, hentries⟩ := List.forall_mem_cons.mp h
    rw [List.foldl_cons, ih _ hentries, amount_insert, if_neg hentry]

/-- What is booked is added, once for every meter. -/
theorem amount_foldl (entries : List (Meter × UInt64)) (consumed : Units) (meter : Meter)
    (units : UInt64) (hdistinct : entries.Pairwise fun a b => a.1 ≠ b.1)
    (h : (meter, units) ∈ entries) :
    (entries.foldl (fun (consumed : Units) (meter, units) =>
      consumed.insert meter (saturatingAdd (consumed.amount meter) units)) consumed).amount meter =
      saturatingAdd (consumed.amount meter) units := by
  induction entries generalizing consumed with
  | nil => cases h
  | cons entry entries ih =>
    obtain ⟨hentry, hentries⟩ := List.pairwise_cons.mp hdistinct
    rw [List.foldl_cons]
    rcases List.mem_cons.mp h with rfl | hmem
    · rw [amount_foldl_of_notMem _ _ _ fun other hother => (hentry other hother).symm,
        amount_insert, if_pos rfl]
    · rw [ih _ hentries hmem, amount_insert, if_neg (hentry _ hmem)]

/-- The amount that is consumed is at most the sum. -/
theorem toNat_amount_book_le (consumed actual : Units) (meter : Meter) :
    ((consumed.book actual).amount meter).toNat ≤
      (consumed.amount meter).toNat + (actual.amount meter).toNat := by
  have hmem : ∀ value, (meter, value) ∈ actual.toList ↔ actual[meter]? = some value :=
    fun _ => Std.ExtTreeMap.mem_toList_iff_getElem?_eq_some
  have hdistinct : actual.toList.Pairwise fun a b => a.1 ≠ b.1 :=
    Std.ExtTreeMap.distinct_keys_toList.imp fun hcmp heq =>
      hcmp (by rw [heq]; exact Std.ReflCmp.compare_self)
  have hamount : actual.amount meter = (actual[meter]?).getD 0 := rfl
  cases hvalue : actual[meter]? with
  | none =>
    rw [book, amount_foldl_of_notMem]
    · omega
    · rintro ⟨other, value⟩ hentry rfl
      rw [hmem, hvalue] at hentry
      cases hentry
  | some value =>
    rw [book, amount_foldl _ _ _ value hdistinct ((hmem value).mpr hvalue), toNat_saturatingAdd,
      hamount, hvalue, Option.getD_some]
    omega

end Units

namespace Service

variable {signing : Signing} {service : Service}

/-- The reservations that are not reconciled hold what all hold. -/
theorem sum_held (meter : Meter) (entries : List (String × Reservation)) :
    ((entries.filter fun entry => entry.2.state ≠ .reconciled).map fun entry =>
      (entry.2.units.amount meter).toNat).sum =
      (entries.map fun entry => entry.2.held meter).sum := by
  induction entries with
  | nil => rfl
  | cons entry entries ih =>
    rw [List.map_cons, List.sum_cons, List.filter_cons, Reservation.held, ← ih]
    by_cases hstate : entry.2.state = .reconciled
    · simp [hstate]
    · simp [hstate]

/-- What `check_quota` sums up of the reservations. -/
theorem toNat_reserved (service : Service) (meter : Meter) :
    ((service.reservations.toList.filter fun entry => entry.2.state ≠ .reconciled).foldl
      (fun sum entry => saturatingAdd sum (entry.2.units.amount meter)) 0).toNat =
      min (total (Reservation.held meter) service.reservations) u64Max := by
  rw [toNat_foldl_saturatingAdd, sum_held, total]
  have hzero : (0 : UInt64).toNat = 0 := rfl
  rw [hzero, Nat.zero_add]

variable {meter : Meter}

/-- Within a quota below `u64::MAX`, what `check_quota` sums up is exact. -/
theorem checkQuota_le {grant : Grant} {requested : Units} {units : UInt64}
    (h : service.checkQuota grant requested = .ok ()) (hunits : requested[meter]? = some units)
    (hquota : (grant.quota.amount meter).toNat < u64Max) :
    service.level meter + units.toNat ≤ (grant.quota.amount meter).toNat := by
  have hentry := forM_eq_ok.mp h _ (Std.ExtTreeMap.mem_toList_iff_getElem?_eq_some.mpr hunits)
  have hle : saturatingAdd (saturatingAdd (service.consumed.amount meter)
      ((service.reservations.toList.filter fun entry => entry.2.state ≠ .reconciled).foldl
        (fun sum entry => saturatingAdd sum (entry.2.units.amount meter)) 0)) units ≤
      grant.quota.amount meter := ensure_eq_ok.mp hentry
  rw [UInt64.le_iff_toNat_le, toNat_saturatingAdd, toNat_saturatingAdd, toNat_reserved] at hle
  unfold level
  omega

/-! ## One call -/

/-- What is covered meter by meter is covered. -/
theorem amount_le_of_covered {actual reserved : Units}
    (h : ∀ entry ∈ actual.toList, entry.2 ≤ reserved.amount entry.1) (meter : Meter) :
    (actual.amount meter).toNat ≤ (reserved.amount meter).toNat := by
  have hamount : actual.amount meter = (actual[meter]?).getD 0 := rfl
  cases hvalue : actual[meter]? with
  | none =>
    rw [hamount, hvalue]
    exact Nat.zero_le _
  | some value =>
    rw [hamount, hvalue, ← UInt64.le_iff_toNat_le]
    exact h (meter, value) (Std.ExtTreeMap.mem_toList_iff_getElem?_eq_some.mpr hvalue)

variable {after : Service} {id : String} {new : Reservation}

/-- A new reservation adds what it holds. -/
theorem level_of_insert (hnone : service.reservations[id]? = none)
    (hconsumed : after.consumed = service.consumed)
    (hreservations : after.reservations = service.reservations.insert id new) :
    after.level meter = service.level meter + new.held meter := by
  rw [level, level, hconsumed, hreservations, total_insert_of_notMem hnone]
  omega

/-- A stored reservation that is replaced gives back what it held. -/
theorem level_le_of_replace {old : Reservation} (hold : service.reservations[id]? = some old)
    (hreservations : after.reservations = service.reservations.insert id new)
    (hle : (after.consumed.amount meter).toNat + new.held meter ≤
      (service.consumed.amount meter).toNat + old.held meter) :
    after.level meter ≤ service.level meter := by
  have htotal : total (Reservation.held meter) (service.reservations.insert id new) +
      old.held meter = total (Reservation.held meter) service.reservations + new.held meter :=
    total_insert_of_getElem? hold
  rw [level, level, hreservations]
  omega

/-- A call does not add to a meter, or it stays within the active quota. -/
theorem Step.level {op : Op} (hstep : service.Step signing op after) (h : service.Inv signing)
    (meter : Meter) :
    after.level meter ≤ service.level meter ∨
    ∃ grant, service.activeGrant = some grant ∧ after.entitlement = service.entitlement ∧
      ((grant.quota.amount meter).toNat < u64Max →
        after.level meter ≤ (grant.quota.amount meter).toNat) := by
  cases hstep with
  | unchanged | bound | changed => exact .inl le_rfl
  | @reserved principal request authority grant receipt hactive hquota hemits =>
    have hamount : request.requested.amount meter = (request.requested[meter]?).getD 0 := rfl
    cases hunits : request.requested[meter]? with
    | none =>
      refine .inl (le_of_eq_of_le (level_of_insert h.fresh rfl rfl) ?_)
      rw [Reservation.held, if_neg nofun, hamount, hunits]
      exact le_rfl
    | some units =>
      refine .inr ⟨grant, hactive, rfl, fun hbound =>
        le_of_eq_of_le (level_of_insert h.fresh rfl rfl) ?_⟩
      rw [Reservation.held, if_neg nofun, hamount, hunits]
      exact checkQuota_le hquota hunits hbound
  | authorized hstored hstate hemits =>
    refine .inl (level_le_of_replace hstored rfl ?_)
    rw [Reservation.held, Reservation.held, if_neg nofun, if_neg (by rw [hstate]; nofun)]
  | @reconciled permit actual authority reservation receipt hstored hstate hcovered hemits =>
    refine .inl (level_le_of_replace hstored rfl ?_)
    have hbooked := Units.toNat_amount_book_le service.consumed actual meter
    have hle := amount_le_of_covered hcovered meter
    rw [Reservation.held, Reservation.held, if_pos rfl, if_neg (by rw [hstate]; nofun)]
    show ((service.consumed.book actual).amount meter).toNat + 0 ≤ _
    omega

/-- Only `bind_entitlement` changes the grant. -/
theorem Step.grant {op : Op} (hstep : service.Step signing op after)
    (hop : ∀ grant commercial authority, op ≠ .bindEntitlement grant commercial authority) :
    after.entitlement.map (·.grant) = service.entitlement.map (·.grant) := by
  cases hstep with
  | bound => exact absurd rfl (hop _ _ _)
  | changed hentitlement hpersists hsettles hemits =>
    rw [hentitlement]
    rfl
  | unchanged | reserved | authorized | reconciled => rfl

end Service

/-! ## Runs -/

namespace Metered

variable {signing : Signing} {metered : Metered}

/-- A call other than `bind_entitlement` keeps the meters within the bound. -/
theorem Kept.of_step {op : Op} {after : Service} (h : metered.Kept)
    (hinv : metered.service.Inv signing) (hstep : metered.service.Step signing op after)
    (hop : ∀ grant commercial authority, op ≠ .bindEntitlement grant commercial authority) :
    ({ metered with service := after } : Metered).Kept := by
  intro bound hbound meter hquota
  have hgrant := hstep.grant hop
  rw [Option.mem_def.mp hbound, Option.map_some] at hgrant
  obtain ⟨before, hbefore, hsame⟩ := Option.map_eq_some_iff.mp hgrant.symm
  have hkept := h before hbefore meter (by rw [hsame]; exact hquota)
  rw [hsame] at hkept
  rcases hstep.level hinv meter with hlevel | ⟨grant, hactive, hentitlement, hlevel⟩
  · exact hlevel.trans hkept
  · have hthis : grant = bound.grant := by
      rw [Service.activeGrant, ← hentitlement, Option.mem_def.mp hbound] at hactive
      obtain ⟨found, hfound, hfoundGrant⟩ := Option.map_eq_some_iff.mp hactive
      rw [← hfoundGrant, Option.some.inj (Option.filter_eq_some_iff.mp hfound).1]
    rw [hthis] at hlevel
    exact (hlevel hquota).trans (le_max_left _ _)

variable {grant : Grant} {commercial : CommercialReceipt} {authority : Authority}

/-- A refused `bind_entitlement` changes nothing. -/
theorem next_bind_of_error {error : Error}
    (h : metered.service.bindEntitlement signing grant commercial authority = .error error) :
    metered.next signing (.bindEntitlement grant commercial authority) = metered := by
  have htransact : metered.service.transact signing (.bindEntitlement grant commercial authority) =
      .error error := by
    simp only [Service.transact, h]
    rfl
  simp only [next, h, Service.next_of_error htransact]

/-- An accepted `bind_entitlement` notes what is consumed and reserved. -/
theorem next_bind_of_ok {digest : String} {service : Service}
    (h : metered.service.bindEntitlement signing grant commercial authority =
      .ok (digest, service)) :
    metered.next signing (.bindEntitlement grant commercial authority) =
      { service, atBind := service.level } := by
  have htransact : metered.service.transact signing (.bindEntitlement grant commercial authority) =
      .ok (.digest digest, service) := by
    simp only [Service.transact, h]
    rfl
  simp only [next, h, Service.next_of_ok htransact]

/-- Every call keeps the meters within the bound. -/
theorem Kept.next (h : metered.Kept) (hinv : metered.service.Inv signing) (op : Op) :
    (metered.next signing op).Kept := by
  cases op with
  | bindEntitlement grant commercial authority =>
    cases hbind : metered.service.bindEntitlement signing grant commercial authority with
    | error error =>
      rw [next_bind_of_error hbind]
      exact h
    | ok result =>
      rw [next_bind_of_ok hbind]
      exact fun bound hbound meter hquota => le_max_right _ _
  | applyEntitlementEvent commercial authority =>
    exact h.of_step hinv (Service.next_step _) fun _ _ _ heq => by cases heq
  | admitJob principal request authority =>
    exact h.of_step hinv (Service.next_step _) fun _ _ _ heq => by cases heq
  | authorizeActuation reservationId authority =>
    exact h.of_step hinv (Service.next_step _) fun _ _ _ heq => by cases heq
  | reconcileUsage permit actual authority =>
    exact h.of_step hinv (Service.next_step _) fun _ _ _ heq => by cases heq

theorem kept_start (policy : Policy) (timestamp : String) : (start policy timestamp).Kept := by
  intro bound hbound
  cases hbound

/-- In every run of a service from its opening, no meter whose quota is below `u64::MAX` is above
its quota and above what it was at when the quota was bound. -/
theorem quota_kept (signing : Signing) (policy : Policy) (timestamp : String) (ops : List Op) :
    Always (next signing) Kept (start policy timestamp) ops := by
  have hstart : (start policy timestamp).service.Inv signing ∧ (start policy timestamp).Kept :=
    ⟨Service.inv_opened policy timestamp, kept_start policy timestamp⟩
  have halways : Always (next signing) (fun metered => metered.service.Inv signing ∧ metered.Kept)
      (start policy timestamp) ops :=
    always_of_along (fun metered op h _ => ⟨Service.inv_next _ op h.1, h.2.next h.1 op⟩) hstart
      (along_true _ ops)
  exact halways.mono fun _ h => h.2

end Metered

/-! ## A smaller quota after a larger one -/

/-- The grant of the fixture, with a quota of one GPU second. -/
def smallerGrant (organization : String) : Grant :=
  { fixtureGrant organization with quota := .of [(.gpuSeconds, 1)] }

/-- The first job is admitted, and its units are reserved. -/
theorem Service.admitJob_of_first {signing : Signing} {service : Service} {principal : Principal}
    {request : JobRequest} {grant : Grant}
    (hchecked : service.Checked principal request .persistControlPlane grant)
    (hkey : service.idempotency[request.idempotencyKey]? = none)
    (hquota : service.checkQuota grant request.requested = .ok ())
    (htimestamp : isBlank service.timestamp = false) (hreservations : service.reservations = ∅) :
    ∃ reservation after,
      service.admitJob signing principal request .persistControlPlane = .ok (reservation, after) ∧
        after.entitlement = service.entitlement ∧ after.policy = service.policy ∧
        after.timestamp = service.timestamp ∧ ∀ meter, after.level meter =
          (service.consumed.amount meter).toNat + (request.requested.amount meter).toNat := by
  refine ⟨_, _, admitJob_eq_ok.mpr ⟨grant, hchecked, .inr ⟨hkey, hquota, htimestamp, _, rfl, rfl,
    rfl⟩⟩, rfl, rfl, rfl, fun meter => ?_⟩
  have hnone : service.reservations[reservationName (service.reservations.size + 1)]? = none := by
    rw [hreservations]
    exact Std.ExtTreeMap.getElem?_empty
  have hlevel : service.level meter = (service.consumed.amount meter).toNat := by
    rw [level, hreservations]
    rfl
  rw [← hlevel]
  exact Eq.trans (level_of_insert hnone rfl rfl) rfl

section

open Metered

/-- The calls that bind a quota, reserve the units of a job, and bind a smaller quota. -/
def rebindSmaller (fulfillment : CommercialReceipt) : List Op :=
  [.bindEntitlement (fixtureGrant "organization:aws-customer") fulfillment .persistControlPlane,
    .admitJob (fixturePrincipal "organization:aws-customer" "aws")
      (fixtureRequest "organization:aws-customer" .hosted "hosted") .persistControlPlane,
    .bindEntitlement (smallerGrant "organization:aws-customer") fulfillment .persistControlPlane]

/-- After these calls the units of the job are reserved, and the smaller quota is bound. -/
theorem rebindSmaller_run {signing : Signing} {fulfillment : CommercialReceipt}
    (hverify : fulfillment.verify signing = .ok ())
    (hkind : fulfillment.kind = .fulfillmentAuthorized) : ∃ metered,
    run (next signing) (start .agentLightning "2026-08-19T00:00:00Z") (rebindSmaller fulfillment) =
        metered ∧
      metered.service.level .gpuSeconds = 3600 ∧
      ∃ bound ∈ metered.service.entitlement,
        bound.grant = smallerGrant "organization:aws-customer" := by
  have htimestamp : isBlank "2026-08-19T00:00:00Z" = false := by decide
  let opened := Service.opened .agentLightning "2026-08-19T00:00:00Z"
  let request := fixtureRequest "organization:aws-customer" .hosted "hosted"
  -- the larger quota
  have haccepted₁ : opened.BindAccepted signing (fixtureGrant "organization:aws-customer")
      fulfillment .persistControlPlane :=
    ⟨hverify, ⟨hkind, by decide +kernel⟩, (fun _ h => nomatch h), rfl, htimestamp⟩
  obtain ⟨_, service₁, _, hbind₁, h₁⟩ := Service.bindEntitlement_of_accepted haccepted₁
  -- the job
  have hquota : opened.checkQuota (fixtureGrant "organization:aws-customer") request.requested =
      .ok () := by decide +kernel
  obtain ⟨reservation, service₂, hadmits, hentitlement, hpolicy, htime, hlevel⟩ :
      ∃ reservation after,
        service₁.admitJob signing (fixturePrincipal "organization:aws-customer" "aws")
          request .persistControlPlane = .ok (reservation, after) ∧
        after.entitlement = service₁.entitlement ∧ after.policy = service₁.policy ∧
        after.timestamp = service₁.timestamp ∧ ∀ meter, after.level meter =
          (service₁.consumed.amount meter).toNat + (request.requested.amount meter).toNat := by
    rw [h₁]
    exact Service.admitJob_of_first (fixture_checked rfl rfl (by decide +kernel))
      Std.ExtTreeMap.getElem?_empty hquota htimestamp rfl
  -- the smaller quota
  have hsmaller : opened.validGrant (smallerGrant "organization:aws-customer") fulfillment :=
    ⟨hkind, by decide +kernel⟩
  have haccepted₃ : service₂.BindAccepted signing (smallerGrant "organization:aws-customer")
      fulfillment .persistControlPlane := by
    refine ⟨hverify, ?_, fun bound hbound => ?_, rfl, ?_⟩
    · unfold Service.validGrant
      rw [hpolicy, h₁]
      exact hsmaller
    · rw [hentitlement, h₁] at hbound
      obtain rfl := Option.some.inj hbound
      rfl
    · rw [htime, h₁]
      exact htimestamp
  obtain ⟨_, service₃, _, hbind₃, h₃⟩ := Service.bindEntitlement_of_accepted haccepted₃
  have hadmitted : Service.transact signing service₁ (.admitJob
      (fixturePrincipal "organization:aws-customer" "aws") request .persistControlPlane) =
      .ok (.reservation reservation, service₂) := by
    simp only [Service.transact, hadmits]
    rfl
  have hnext₁ : (start .agentLightning "2026-08-19T00:00:00Z").next signing (.bindEntitlement
      (fixtureGrant "organization:aws-customer") fulfillment .persistControlPlane) =
      { service := service₁, atBind := service₁.level } := next_bind_of_ok hbind₁
  have hnext₂ : (Metered.mk service₁ service₁.level).next signing (.admitJob
      (fixturePrincipal "organization:aws-customer" "aws") request .persistControlPlane) =
      { service := service₂, atBind := service₁.level } := by
    simp only [next, Service.next_of_ok hadmitted]
  have hnext₃ : (Metered.mk service₂ service₁.level).next signing (.bindEntitlement
      (smallerGrant "organization:aws-customer") fulfillment .persistControlPlane) =
      { service := service₃, atBind := service₃.level } := next_bind_of_ok hbind₃
  have hheld : service₃.level .gpuSeconds = 3600 := by
    have hsame : service₃.level .gpuSeconds = service₂.level .gpuSeconds := by
      rw [h₃]
      rfl
    have hamount : (opened.consumed.amount .gpuSeconds).toNat +
        (request.requested.amount .gpuSeconds).toNat = 3600 := by
      decide +kernel
    rw [hsame, hlevel, h₁]
    exact hamount
  have hbound : service₃.entitlement = some { grant := smallerGrant "organization:aws-customer"
                                              commercialSubject := fulfillment.core.subject
                                              active := true } := by
    rw [h₃]
  refine ⟨{ service := service₃, atBind := service₃.level }, ?_, hheld, _, hbound, rfl⟩
  rw [rebindSmaller, run_cons, run_cons, run_cons, run_nil, hnext₁, hnext₂, hnext₃]

/-- A quota of one GPU second is bound while the job of the fixture has 3600 of them reserved. -/
theorem smaller_quota_bound : ∃ fulfillment,
    ((fixtureLedger sampleSigning).call sampleSigning
      (.authorizeFulfillment "agent-lightning-fulfillment")).1 = .ok fulfillment ∧
    ¬ WithinQuota (run (next sampleSigning) (start .agentLightning "2026-08-19T00:00:00Z")
      (rebindSmaller fulfillment)) := by
  obtain ⟨fulfillment, -, hissued, -, hverify, -, hkind, -, -⟩ := fixture_receipts sampleSigning
  obtain ⟨metered, hrun, hlevel, bound, hbound, hgrant⟩ := rebindSmaller_run hverify hkind
  refine ⟨fulfillment, hissued, fun hwithin => ?_⟩
  rw [hrun] at hwithin
  have hle := hwithin bound hbound .gpuSeconds
  have hone : ((smallerGrant "organization:aws-customer").quota.amount .gpuSeconds).toNat = 1 := by
    decide +kernel
  rw [hlevel, hgrant, hone] at hle
  omega

end

end ChatmanEcosystem.AgentLightning
