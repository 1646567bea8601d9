import ChatmanEcosystem.AgentLightning.Quota

/-!
# Idempotency keys of jobs

What `admit_job` does with a key that is in use
(`crates/ecosystem-runtime/src/agent_lightning_service.rs`, lines 296–376), over
runs of the service. The checks of the caller, of the entitlement and of the
workload come before the key is looked up, so a request that is repeated may be
refused; once they pass, the fingerprint decides.

Results:

* `fingerprint_inj`: the fingerprint determines a request of one organisation.
* `next_held`: what the calls keep of a key.
* `jobRepeated_iff`: runs of the service.
-/

namespace ChatmanEcosystem.AgentLightning

open Common Commerce Core Rust

/-! ## The fingerprint -/

theorem Mode.debug_inj {a b : Mode} (h : a.debug = b.debug) : a = b := by
  cases a <;> cases b <;> first | rfl | exact absurd h (by decide)

theorem Mode.bar_notMem_debug (mode : Mode) : '|' ∉ mode.debug.toList := by
  cases mode <;> decide

theorem Meter.debug_inj {a b : Meter} (h : a.debug = b.debug) : a = b := by
  cases a <;> cases b <;> first | rfl | exact absurd h (by decide)

theorem Meter.notMem_debug {c : Char} (h : c = '|' ∨ c = ',' ∨ c = ':') (meter : Meter) :
    c ∉ meter.debug.toList := by
  rcases h with rfl | rfl | rfl <;> cases meter <;> decide

theorem notMem_repr {c : Char} (h : c.isDigit = false) (n : ℕ) : c ∉ n.repr.toList := by
  intro hmem
  rw [Js.isDigit_of_mem_repr hmem] at h
  cases h

namespace Units

/-- `{:?}` of an entry. -/
def entryDebug (entry : Meter × UInt64) : List Char :=
  entry.1.debug.toList ++ ':' :: ' ' :: entry.2.toNat.repr.toList

theorem debug_toList (units : Units) : units.debug.toList =
    '\x7b' :: ([',', ' '].intercalate (units.toList.map entryDebug) ++ ['\x7d']) := by
  have hentry : ∀ entry : Meter × UInt64,
      (entry.1.debug ++ ": " ++ entry.2.toNat.repr).toList = entryDebug entry := by
    intro entry
    simp [entryDebug]
  have hitems : (units.toList.map fun entry =>
      entry.1.debug ++ ": " ++ entry.2.toNat.repr).map String.toList = units.toList.map entryDebug := by
    rw [List.map_map]
    exact List.map_congr_left fun entry _ => hentry entry
  rw [debug, String.toList_append, String.toList_append, String.toList_intercalate]
  exact congrArg (fun items => '\x7b' :: ([',', ' '].intercalate items ++ ['\x7d'])) hitems

theorem entryDebug_inj {a b : Meter × UInt64} (h : entryDebug a = entryDebug b) : a = b := by
  have hcolon : ∀ meter : Meter, ':' ∉ meter.debug.toList :=
    Meter.notMem_debug (.inr (.inr rfl))
  obtain ⟨hmeter, hvalue⟩ := (append_sep_inj (hcolon _) (hcolon _)).mp h
  have hnat := Js.repr_inj (String.toList_inj.mp (List.cons.inj hvalue).2)
  exact Prod.ext (Meter.debug_inj (String.toList_inj.mp hmeter)) (UInt64.toNat_inj.mp hnat)

theorem notMem_entryDebug {c : Char} (h : c = '|' ∨ c = ',') (entry : Meter × UInt64) :
    c ∉ entryDebug entry := by
  have hmeter : c ∉ entry.1.debug.toList :=
    Meter.notMem_debug (by rcases h with h | h <;> simp [h]) _
  have hvalue : c ∉ entry.2.toNat.repr.toList :=
    notMem_repr (by rcases h with rfl | rfl <;> decide) _
  rw [entryDebug, List.mem_append, List.mem_cons, List.mem_cons]
  rintro (hmem | hmem | hmem | hmem)
  · exact hmeter hmem
  · rcases h with rfl | rfl <;> cases hmem
  · rcases h with rfl | rfl <;> cases hmem
  · exact hvalue hmem

/-- The text of the units determines them. -/
theorem debug_inj {a b : Units} (h : a.debug = b.debug) : a = b := by
  have hlist := congrArg String.toList h
  rw [debug_toList, debug_toList] at hlist
  have hitems := List.append_cancel_right (List.cons.inj hlist).2
  have hshape : ∀ (units : Units), ∀ item ∈ units.toList.map entryDebug,
      item ≠ [] ∧ ',' ∉ item := by
    intro units item hitem
    obtain ⟨entry, -, rfl⟩ := List.mem_map.mp hitem
    exact ⟨by simp [entryDebug], notMem_entryDebug (.inr rfl) entry⟩
  have hmap := intercalate_gap_inj (hshape a) (hshape b) hitems
  have hinj : Function.Injective entryDebug := fun _ _ => entryDebug_inj
  exact Std.ExtTreeMap.toList_inj.mp (hinj.list_map hmap)

theorem bar_notMem_debug (units : Units) : '|' ∉ units.debug.toList := by
  rw [debug_toList]
  intro hmem
  have hitems : '|' ∈ [',', ' '].intercalate (units.toList.map entryDebug) := by
    simpa using hmem
  obtain ⟨item, hitem, hbar⟩ := exists_mem_of_mem_intercalate (by decide) hitems
  obtain ⟨entry, -, rfl⟩ := List.mem_map.mp hitem
  exact notMem_entryDebug (.inl rfl) entry hbar

end Units

/-- The requests are about the same job. -/
structure JobRequest.SameJob (request original : JobRequest) : Prop where
  id : request.id = original.id
  organization : request.organization = original.organization
  sha : request.workload.sha = original.workload.sha
  mode : request.mode = original.mode
  requested : request.requested = original.requested

/-- What changes of a reservation is its state and its actuation receipt. -/
structure Reservation.Continues (later earlier : Reservation) : Prop where
  id : later.id = earlier.id
  jobId : later.jobId = earlier.jobId
  workload : later.workload = earlier.workload
  mode : later.mode = earlier.mode
  units : later.units = earlier.units
  reserveReceipt : later.reserveReceipt = earlier.reserveReceipt

theorem Reservation.Continues.refl (reservation : Reservation) :
    reservation.Continues reservation := ⟨rfl, rfl, rfl, rfl, rfl, rfl⟩

theorem Reservation.Continues.trans {a b c : Reservation} (hab : a.Continues b)
    (hbc : b.Continues c) : a.Continues c where
  id := hab.id.trans hbc.id
  jobId := hab.jobId.trans hbc.jobId
  workload := hab.workload.trans hbc.workload
  mode := hab.mode.trans hbc.mode
  units := hab.units.trans hbc.units
  reserveReceipt := hab.reserveReceipt.trans hbc.reserveReceipt

namespace Service

/-- The fingerprint, read from its end. -/
theorem fingerprint_toList (request : JobRequest) : (fingerprint request).toList =
    ((request.id.toList ++ ('|' :: request.organization.toList ++ '|' ::
      request.workload.sha.toList)) ++ '|' :: request.mode.debug.toList) ++
        '|' :: request.requested.debug.toList := by
  simp [fingerprint]

/-- Requests of one organisation for one workload have the same fingerprint exactly when they are
about the same job. -/
theorem fingerprint_inj {request original : JobRequest}
    (horganization : request.organization = original.organization)
    (hsha : request.workload.sha = original.workload.sha) :
    fingerprint request = fingerprint original ↔ request.SameJob original := by
  constructor
  · intro h
    have hlist := congrArg String.toList h
    rw [fingerprint_toList, fingerprint_toList, horganization, hsha] at hlist
    obtain ⟨hfront, hunits⟩ := (append_sep_inj_last (Units.bar_notMem_debug _)
      (Units.bar_notMem_debug _)).mp hlist
    obtain ⟨hnamed, hmode⟩ := (append_sep_inj_last (Mode.bar_notMem_debug _)
      (Mode.bar_notMem_debug _)).mp hfront
    exact ⟨String.toList_inj.mp (List.append_cancel_right hnamed), horganization, hsha,
      Mode.debug_inj (String.toList_inj.mp hmode), Units.debug_inj (String.toList_inj.mp hunits)⟩
  · intro h
    rw [fingerprint, fingerprint, h.id, h.organization, h.sha, h.mode, h.requested]

/-! ## The calls of a job -/

variable {signing : Signing} {service : Service} {principal : Principal} {request : JobRequest}
  {authority : Authority} {reservation : Reservation} {after : Service}

theorem call_admitJob_of_ok
    (h : service.admitJob signing principal request authority = .ok (reservation, after)) :
    (InPlace.call signing (.admitJob principal request authority)).call service =
      (.ok (.reservation reservation), after) := by
  rw [InPlace.call_eq]
  simp only [transact, h]
  rfl

theorem call_admitJob_of_error {error : Error}
    (h : service.admitJob signing principal request authority = .error error) :
    (InPlace.call signing (.admitJob principal request authority)).call service =
      (.error error, service) := by
  rw [InPlace.call_eq]
  simp only [transact, h]
  rfl

/-! ## What the calls keep of a key -/

/-- The reservation under an id says so. -/
def Named (service : Service) : Prop :=
  ∀ (id : String) reservation, service.reservations[id]? = some reservation → reservation.id = id

variable {id : String} {new : Reservation}

theorem named_insert (h : service.Named)
    (hreservations : after.reservations = service.reservations.insert id new) (hid : new.id = id) :
    after.Named := by
  intro other stored hstored
  rw [hreservations, Std.ExtTreeMap.getElem?_insert] at hstored
  split_ifs at hstored with hkey
  · obtain rfl := Option.some.inj hstored
    rw [hid, Std.LawfulEqCmp.compare_eq_iff_eq.mp hkey]
  · exact h other stored hstored

variable {op : Op}

theorem Step.named (hstep : service.Step signing op after) (h : service.Named) :
    after.Named := by
  cases hstep with
  | unchanged | bound | changed => exact h
  | reserved => exact named_insert h rfl rfl
  | authorized hstored | reconciled hstored =>
    have hid := h _ _ hstored
    exact named_insert h rfl hid

theorem Step.policy (hstep : service.Step signing op after) :
    after.policy = service.policy := by
  cases hstep <;> rfl

variable {stored : Reservation}

/-- A stored reservation that is replaced by one that goes on with it. -/
theorem continues_insert {other : String} {old : Reservation}
    {reservations : Std.ExtTreeMap String Reservation} (hold : reservations[id]? = some old)
    (hnew : new.Continues old) (h : reservations[other]? = some stored) :
    ∃ later : Reservation, (reservations.insert id new)[other]? = some later ∧
      later.Continues stored := by
  rw [Std.ExtTreeMap.getElem?_insert]
  split_ifs with hkey
  · rw [Std.LawfulEqCmp.compare_eq_iff_eq.mp hkey] at hold
    obtain rfl := Option.some.inj (h.symm.trans hold)
    exact ⟨new, rfl, hnew⟩
  · exact ⟨stored, h, .refl stored⟩

/-- A call goes on with every reservation. -/
theorem Step.continues (hstep : service.Step signing op after) (hinv : service.Inv signing)
    (h : service.reservations[id]? = some stored) :
    ∃ later, after.reservations[id]? = some later ∧ later.Continues stored := by
  cases hstep with
  | unchanged | bound | changed => exact ⟨stored, h, .refl stored⟩
  | reserved =>
    refine ⟨stored, ?_, .refl stored⟩
    rw [Std.ExtTreeMap.getElem?_insert, if_neg]
    · exact h
    · intro hkey
      rw [← Std.LawfulEqCmp.compare_eq_iff_eq.mp hkey, hinv.fresh] at h
      cases h
  | authorized hstored => exact continues_insert hstored ⟨rfl, rfl, rfl, rfl, rfl, rfl⟩ h
  | reconciled hstored => exact continues_insert hstored ⟨rfl, rfl, rfl, rfl, rfl, rfl⟩ h

/-- Only `admit_job` enters keys. -/
theorem Step.idempotency (hstep : service.Step signing op after)
    (hop : ∀ principal request authority, op ≠ .admitJob principal request authority) :
    after.idempotency = service.idempotency := by
  cases hstep with
  | reserved => exact absurd rfl (hop _ _ _)
  | unchanged | bound | changed | authorized | reconciled => rfl

/-- A key stays with its entry: only a new key gets one. -/
theorem next_key {key : String} {entry : String × String}
    (h : service.idempotency[key]? = some entry) (op : Op) :
    (service.next signing op).idempotency[key]? = some entry := by
  by_cases hop : ∃ principal request authority, op = .admitJob principal request authority
  · obtain ⟨principal, request, authority, rfl⟩ := hop
    cases hadmits : service.admitJob signing principal request authority with
    | error error =>
      rw [next, call_admitJob_of_error hadmits]
      exact h
    | ok result =>
      obtain ⟨reservation, after⟩ := result
      rw [next, call_admitJob_of_ok hadmits]
      obtain ⟨grant, -, ⟨id, -, -, rfl⟩ | ⟨hnew, -, -, receipt, -, -, rfl⟩⟩ :=
        admitJob_eq_ok.mp hadmits
      · exact h
      · rw [Std.ExtTreeMap.getElem?_insert, if_neg]
        · exact h
        · intro hkey
          rw [← Std.LawfulEqCmp.compare_eq_iff_eq.mp hkey, hnew] at h
          cases h
  · rw [(next_step op).idempotency fun principal request authority heq =>
      hop ⟨principal, request, authority, heq⟩]
    exact h

/-- Once an organisation is bound, no other one is. -/
theorem next_tenant {bound : BoundGrant} (h : service.entitlement = some bound) (op : Op) :
    ∃ later, (service.next signing op).entitlement = some later ∧
      later.grant.organization = bound.grant.organization := by
  by_cases hop : ∃ grant commercial authority, op = .bindEntitlement grant commercial authority
  · obtain ⟨grant, commercial, authority, rfl⟩ := hop
    cases hbind : service.bindEntitlement signing grant commercial authority with
    | error error =>
      have htransact : service.transact signing (.bindEntitlement grant commercial authority) =
          .error error := by
        simp only [transact, hbind]
        rfl
      rw [next_of_error htransact]
      exact ⟨bound, h, rfl⟩
    | ok result =>
      obtain ⟨digest, after⟩ := result
      have htransact : service.transact signing (.bindEntitlement grant commercial authority) =
          .ok (.digest digest, after) := by
        simp only [transact, hbind]
        rfl
      rw [next_of_ok htransact]
      obtain ⟨haccepted, receipt, -, -, rfl⟩ := bindEntitlement_eq_ok.mp hbind
      exact ⟨_, rfl, (haccepted.2.2.1 bound h).symm⟩
  · have hstep : service.Step signing op (service.next signing op) := next_step op
    have hgrant := hstep.grant fun grant commercial authority heq =>
      hop ⟨grant, commercial, authority, heq⟩
    rw [h, Option.map_some] at hgrant
    obtain ⟨later, hlater, hsame⟩ := Option.map_eq_some_iff.mp hgrant
    exact ⟨later, hlater, by rw [hsame]⟩

variable (signing) in
/-- The key of a request stands for a reservation, under the bound organisation. -/
structure Holds (original : JobRequest) (reservation : Reservation) (policy : Policy)
    (service : Service) : Prop where
  inv : service.Inv signing
  policy : service.policy = policy
  key : service.idempotency[original.idempotencyKey]? =
    some (fingerprint original, reservation.id)
  stored : ∃ stored, service.reservations[reservation.id]? = some stored ∧
    stored.Continues reservation
  tenant : ∃ bound, service.entitlement = some bound ∧
    bound.grant.organization = original.organization

/-- The organisation of an active grant is bound. -/
theorem exists_bound_of_activeGrant {grant : Grant} (h : service.activeGrant = some grant) :
    ∃ bound, service.entitlement = some bound ∧ bound.grant = grant := by
  obtain ⟨bound, hbound, hgrant⟩ := Option.map_eq_some_iff.mp h
  exact ⟨bound, (Option.filter_eq_some_iff.mp hbound).1, hgrant⟩

/-- An accepted request holds its key. -/
theorem holds_of_admitJob {original : JobRequest} (hinv : service.Inv signing)
    (hnamed : service.Named)
    (h : service.admitJob signing principal original authority = .ok (reservation, after)) :
    Holds signing original reservation service.policy after := by
  have hnext : service.next signing (.admitJob principal original authority) = after :=
    congrArg Prod.snd (call_admitJob_of_ok h)
  have hafter : after.Inv signing := by
    rw [← hnext]
    exact inv_next service _ hinv
  obtain ⟨grant, hchecked, hcases⟩ := admitJob_eq_ok.mp h
  obtain ⟨bound, hbound, rfl⟩ := exists_bound_of_activeGrant hchecked.active
  rcases hcases with ⟨id, hkey, hstored, rfl⟩ | ⟨-, -, -, receipt, -, hreservation, rfl⟩
  · obtain rfl := hnamed id reservation hstored
    exact ⟨hinv, rfl, hkey, ⟨reservation, hstored, .refl _⟩, bound, hbound, hchecked.tenant.symm⟩
  · refine ⟨hafter, rfl, ?_, ⟨reservation, ?_, .refl _⟩, bound, hbound, hchecked.tenant.symm⟩ <;>
      exact Std.ExtTreeMap.getElem?_insert_self

/-- Every call keeps the key with its reservation. -/
theorem Holds.next {original : JobRequest} {policy : Policy}
    (h : Holds signing original reservation policy service) (op : Op) :
    Holds signing original reservation policy (service.next signing op) where
  inv := inv_next service op h.inv
  policy := (next_step op).policy.trans h.policy
  key := next_key h.key op
  stored := by
    obtain ⟨stored, hstored, hcontinues⟩ := h.stored
    obtain ⟨later, hlater, hstep⟩ := (next_step op).continues h.inv hstored
    exact ⟨later, hlater, hstep.trans hcontinues⟩
  tenant := by
    obtain ⟨bound, hbound, hsame⟩ := h.tenant
    obtain ⟨later, hlater, hstep⟩ := next_tenant hbound op
    exact ⟨later, hlater, hstep.trans hsame⟩

/-! ## A request under a key in use -/

/-- What a request has to pass besides its key: the caller and the workload are admitted, and an
active entitlement of the organisation grants the mode. -/
def MayRepeat (service : Service) (principal : Principal) (request : JobRequest)
    (authority : Authority) : Prop :=
  authority = .persistControlPlane ∧ principal.admitted = true ∧
    principal.organization = request.organization ∧ request.workload = .pinned ∧
      ∃ grant, service.activeGrant = some grant ∧ request.mode ∈ grant.modes

/-- The checks before the key and the fingerprint ask for the same job, by a caller who may ask. -/
theorem checked_iff {first : Service} {firstPrincipal : Principal} {original : JobRequest}
    {firstAuthority : Authority} {firstGrant : Grant}
    (hfirst : first.Checked firstPrincipal original firstAuthority firstGrant)
    (hholds : Holds signing original reservation first.policy service)
    (hkey : request.idempotencyKey = original.idempotencyKey) :
    (∃ grant, service.Checked principal request authority grant) ∧
        fingerprint original = fingerprint request ↔
      service.MayRepeat principal request authority ∧ request.SameJob original := by
  obtain ⟨bound, hbound, horganization⟩ := hholds.tenant
  have hactive : ∀ grant, service.activeGrant = some grant →
      grant.organization = original.organization := by
    intro grant hgrant
    obtain ⟨found, hfound, rfl⟩ := exists_bound_of_activeGrant hgrant
    obtain rfl := Option.some.inj (hbound.symm.trans hfound)
    exact horganization
  constructor
  · rintro ⟨⟨grant, hchecked⟩, hfingerprint⟩
    have htenant : request.organization = original.organization :=
      hchecked.tenant.trans (hactive grant hchecked.active)
    have hsha : request.workload.sha = original.workload.sha := by
      rw [hchecked.pinned, hfirst.pinned]
    exact ⟨⟨hchecked.persists, hchecked.admitted, hchecked.caller.trans hchecked.tenant.symm,
      hchecked.pinned, grant, hchecked.active, hchecked.mode⟩,
      (fingerprint_inj htenant hsha).mp hfingerprint.symm⟩
  · rintro ⟨⟨hpersists, hadmitted, hcaller, hpinned, grant, hgrant, hmode⟩, hsame⟩
    have htenant : request.organization = grant.organization :=
      hsame.organization.trans (hactive grant hgrant).symm
    refine ⟨⟨grant, hpersists, hadmitted, ?_, ?_, ?_, ?_, hgrant, hcaller.trans htenant, htenant,
      hpinned, ?_, hmode, ?_⟩, ((fingerprint_inj hsame.organization hsame.sha).mpr hsame).symm⟩
    · rw [hsame.id]
      exact hfirst.id
    · rw [hkey]
      exact hfirst.idempotencyKey
    · rw [hsame.requested]
      exact hfirst.requested
    · rw [hsame.requested]
      exact hfirst.units
    · rw [hpinned, hholds.policy, ← hfirst.pinned, hfirst.workload]
    · rw [hsame.requested, hholds.policy]
      exact hfirst.limit

/-- What a call of `admit_job` answers under a key that is held: the reservation, as it is by now,
or an error. Either way the service stays as it is. -/
theorem Holds.call {original : JobRequest} {policy : Policy}
    (h : Holds signing original reservation policy service)
    (hkey : request.idempotencyKey = original.idempotencyKey) :
    ∃ stored, service.reservations[reservation.id]? = some stored ∧
      stored.Continues reservation ∧
      ((∃ grant, service.Checked principal request authority grant) ∧
          fingerprint original = fingerprint request →
        (InPlace.call signing (.admitJob principal request authority)).call service =
          (.ok (.reservation stored), service)) ∧
      (¬ ((∃ grant, service.Checked principal request authority grant) ∧
          fingerprint original = fingerprint request) →
        ∃ error, (InPlace.call signing (.admitJob principal request authority)).call service =
          (.error error, service)) := by
  obtain ⟨stored, hstored, hcontinues⟩ := h.stored
  have hentry : service.idempotency[request.idempotencyKey]? =
      some (fingerprint original, reservation.id) := by
    rw [hkey]
    exact h.key
  refine ⟨stored, hstored, hcontinues, ?_, fun hnot => ?_⟩
  · rintro ⟨⟨grant, hchecked⟩, hfingerprint⟩
    rw [hfingerprint] at hentry
    exact call_admitJob_of_ok
      (admitJob_eq_ok.mpr ⟨grant, hchecked, .inl ⟨reservation.id, hentry, hstored, rfl⟩⟩)
  · cases hadmits : service.admitJob signing principal request authority with
    | error error => exact ⟨error, call_admitJob_of_error hadmits⟩
    | ok result =>
      obtain ⟨grant, hchecked, ⟨id, hfound, -, -⟩ | ⟨hnew, -⟩⟩ :=
        admitJob_eq_ok.mp (show _ = Except.ok (result.1, result.2) from hadmits)
      · have hsame := (Prod.mk.inj (Option.some.inj (hentry.symm.trans hfound))).1
        exact absurd ⟨⟨grant, hchecked⟩, hsame⟩ hnot
      · cases hentry.symm.trans hnew

theorem named_opened (policy : Policy) (timestamp : String) : (opened policy timestamp).Named := by
  intro id reservation h
  rw [opened, Std.ExtTreeMap.getElem?_empty] at h
  cases h

end Service

open Service in
/-- In every run of a service from its opening, once a request is accepted: a request under its key
is answered with the reservation that is stored for it, as it is by then, exactly if the caller may
ask and the two requests are about the same job. Otherwise it is refused. Neither changes
anything. -/
theorem jobRepeated_iff (signing : Signing) (policy : Policy) (timestamp : String)
    (before later : List Op) {firstPrincipal : Principal} {original : JobRequest}
    {firstAuthority : Authority} {reservation : Reservation} {accepted : Service}
    (hfirst : (run (next signing) (opened policy timestamp) before).admitJob signing
      firstPrincipal original firstAuthority = .ok (reservation, accepted))
    (principal : Principal) (request : JobRequest) (authority : Authority)
    (hkey : request.idempotencyKey = original.idempotencyKey) :
    let service := run (next signing) accepted later
    let called := (InPlace.call signing (.admitJob principal request authority)).call service
    ∃ stored, service.reservations[reservation.id]? = some stored ∧
      stored.Continues reservation ∧
      (service.MayRepeat principal request authority ∧ request.SameJob original →
        called = (.ok (.reservation stored), service)) ∧
      (¬ (service.MayRepeat principal request authority ∧ request.SameJob original) →
        ∃ error, called = (.error error, service)) := by
  intro service called
  have hstart : (run (next signing) (opened policy timestamp) before).Inv signing ∧
      (run (next signing) (opened policy timestamp) before).Named :=
    run_invariant (I := fun service => service.Inv signing ∧ service.Named)
      (fun service op h => ⟨inv_next service op h.1, (next_step op).named h.2⟩)
      ⟨inv_opened policy timestamp, named_opened policy timestamp⟩ before
  obtain ⟨grant, hchecked, -⟩ := admitJob_eq_ok.mp hfirst
  have hholds : Holds signing original reservation _ service :=
    run_invariant (fun _ op h => h.next op) (holds_of_admitJob hstart.1 hstart.2 hfirst) later
  obtain ⟨stored, hstored, hcontinues, hok, herror⟩ := hholds.call hkey
  rw [checked_iff hchecked hholds hkey] at hok herror
  exact ⟨stored, hstored, hcontinues, hok, herror⟩

/-! ## A request that is repeated after a suspension -/

section

open Service

/-- The caller of the fixture. -/
def customer : Principal := fixturePrincipal "organization:aws-customer" "aws"

/-- The job of the fixture. -/
def hostedJob : JobRequest := fixtureRequest "organization:aws-customer" .hosted "hosted"

/-- The call that binds the entitlement of the fixture. -/
def bindFixture (fulfillment : CommercialReceipt) : Op :=
  .bindEntitlement (fixtureGrant "organization:aws-customer") fulfillment .persistControlPlane

/-- Once the entitlement is bound, the job of the fixture is admitted. -/
theorem hostedJob_admitted {signing : Signing} {fulfillment : CommercialReceipt}
    (hverify : fulfillment.verify signing = .ok ())
    (hkind : fulfillment.kind = .fulfillmentAuthorized) : ∃ reservation accepted,
    (run (next signing) (opened .agentLightning "2026-08-19T00:00:00Z")
      [bindFixture fulfillment]).admitJob signing customer hostedJob .persistControlPlane =
        .ok (reservation, accepted) ∧
      accepted.entitlement = some { grant := fixtureGrant "organization:aws-customer"
                                    commercialSubject := fulfillment.core.subject
                                    active := true } ∧
      isBlank accepted.timestamp = false := by
  have htimestamp : isBlank "2026-08-19T00:00:00Z" = false := by decide
  let start := opened .agentLightning "2026-08-19T00:00:00Z"
  let grant := fixtureGrant "organization:aws-customer"
  have haccepted : start.BindAccepted signing grant fulfillment .persistControlPlane :=
    ⟨hverify, ⟨hkind, by decide +kernel⟩, (fun _ h => nomatch h), rfl, htimestamp⟩
  obtain ⟨digest, service, receipts, hbind, hservice⟩ := bindEntitlement_of_accepted haccepted
  have htransact : start.transact signing (bindFixture fulfillment) =
      .ok (.digest digest, service) := by
    simp only [bindFixture, transact]
    rw [hbind]
    rfl
  have hquota : start.checkQuota grant hostedJob.requested = .ok () := by decide +kernel
  obtain ⟨reservation, accepted, hadmits, hentitlement, -, htime, -⟩ : ∃ reservation after,
      service.admitJob signing customer hostedJob .persistControlPlane =
        .ok (reservation, after) ∧
      after.entitlement = service.entitlement ∧ after.policy = service.policy ∧
      after.timestamp = service.timestamp ∧ ∀ meter, after.level meter =
        (service.consumed.amount meter).toNat + (hostedJob.requested.amount meter).toNat := by
    rw [hservice]
    exact admitJob_of_first (fixture_checked rfl rfl (by decide +kernel))
      Std.ExtTreeMap.getElem?_empty hquota htimestamp rfl
  refine ⟨reservation, accepted, ?_, ?_, ?_⟩
  · rw [run_cons, run_nil, next_of_ok htransact]
    exact hadmits
  · rw [hentitlement, hservice]
  · rw [htime, hservice]
    exact htimestamp

/-- The job of the fixture is admitted, the entitlement is suspended, and the same request is
refused. -/
theorem suspended_request_refused : ∃ fulfillment suspended reservation accepted error,
    ((fixtureLedger sampleSigning).call sampleSigning
      (.authorizeFulfillment "agent-lightning-fulfillment")).1 = .ok fulfillment ∧
    (run (next sampleSigning) (opened .agentLightning "2026-08-19T00:00:00Z")
      [bindFixture fulfillment]).admitJob sampleSigning customer hostedJob .persistControlPlane =
        .ok (reservation, accepted) ∧
    ((InPlace.call sampleSigning (.admitJob customer hostedJob .persistControlPlane)).call
      (accepted.next sampleSigning
        (.applyEntitlementEvent suspended .persistControlPlane))).1 = .error error := by
  obtain ⟨fulfillment, suspended, hissued, -, hverify, hsuspended, hkind, ksuspended, hsubject⟩ :=
    fixture_receipts sampleSigning
  obtain ⟨reservation, accepted, hadmits, hbound, htimestamp⟩ := hostedJob_admitted hverify hkind
  have hevent : accepted.EventAccepted sampleSigning suspended .persistControlPlane :=
    ⟨hsuspended, ⟨_, hbound, hsubject⟩, .inl ksuspended, rfl, htimestamp⟩
  obtain ⟨after, happly⟩ := applyEntitlementEvent_eq_ok.mpr hevent
  obtain ⟨_, receipt, -, hafter⟩ := applyEntitlementEvent_writes happly
  have hinactive : after.activeGrant = none := by
    rw [hafter, ksuspended]
    rfl
  have htransact : accepted.transact sampleSigning
      (.applyEntitlementEvent suspended .persistControlPlane) = .ok (.done, after) := by
    simp only [transact, happly]
    rfl
  obtain ⟨error, hrefused⟩ : ∃ error, after.admitJob sampleSigning customer hostedJob
      .persistControlPlane = .error error := admitJob_refused hinactive _ _ _
  refine ⟨fulfillment, suspended, reservation, accepted, error, hissued, hadmits, ?_⟩
  rw [next_of_ok htransact, call_admitJob_of_error hrefused]

/-- The job of the fixture is asked for once more. -/
theorem hostedJob_repeated : ∃ reservation accepted stored,
    (∃ fulfillment, (run (next sampleSigning) (opened .agentLightning "2026-08-19T00:00:00Z")
      [bindFixture fulfillment]).admitJob sampleSigning customer hostedJob .persistControlPlane =
        .ok (reservation, accepted)) ∧
    stored.Continues reservation ∧
    (InPlace.call sampleSigning (.admitJob customer hostedJob .persistControlPlane)).call accepted =
      (.ok (.reservation stored), accepted) := by
  obtain ⟨fulfillment, -, -, -, hverify, -, hkind, -, -⟩ := fixture_receipts sampleSigning
  obtain ⟨reservation, accepted, hadmits, hbound, -⟩ := hostedJob_admitted hverify hkind
  obtain ⟨stored, -, hcontinues, hok, -⟩ := jobRepeated_iff sampleSigning .agentLightning
    "2026-08-19T00:00:00Z" [bindFixture fulfillment] [] hadmits customer hostedJob
    .persistControlPlane rfl
  have hactive : accepted.activeGrant = some (fixtureGrant "organization:aws-customer") := by
    rw [activeGrant, hbound]
    rfl
  have hrepeat : accepted.MayRepeat customer hostedJob .persistControlPlane :=
    ⟨rfl, by decide +kernel, rfl, rfl, _, hactive, by decide +kernel⟩
  exact ⟨reservation, accepted, stored, ⟨fulfillment, hadmits⟩, hcontinues,
    hok ⟨hrepeat, rfl, rfl, rfl, rfl, rfl⟩⟩

end

end ChatmanEcosystem.AgentLightning
