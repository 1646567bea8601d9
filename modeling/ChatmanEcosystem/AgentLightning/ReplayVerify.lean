import ChatmanEcosystem.AgentLightning.Calls
import ChatmanEcosystem.Common.Run
import ChatmanEcosystem.Js.Runtime

/-!
# Replay of the control receipts

Model of `Service::replay_verify`
(`crates/ecosystem-runtime/src/agent_lightning_service.rs`, lines 469–489), and of
what the calls keep for it.

Results:

* `Inv`, `Step.inv`: the receipts replay, and every reservation that is stored has its receipts
  among them and its number in its id.
* `Step.advances`: a call leaves a reservation in its state or takes it to the next one.
* `atomic_and_replayable`: all calls of a run.
-/

namespace ChatmanEcosystem.AgentLightning

open Common Core Rust

namespace Service

/-- The loop of `replay_verify` (lines 472–487), with `previous` and `known`. -/
def replayReceipt (signing : Signing) (state : String × Finset String)
    (receipt : ControlReceipt) : Except Error (String × Finset String) := do
  receipt.verify signing
  ensure (receipt.previous = state.1) (.receipt "RECEIPT_CHAIN_MISMATCH")
  ensure (receipt.kind = .actuationAuthorized ∨ receipt.kind = .usageReconciled →
    receipt.source ∈ state.2) (.receipt "SOURCE_RECEIPT_NOT_PRIOR")
  return (receipt.core.digest, insert receipt.core.digest state.2)

/-- `replay_verify` (lines 469–489). -/
def replayVerify (signing : Signing) (service : Service) : Except Error ℕ := do
  let _ ← service.receipts.foldlM (replayReceipt signing) ("", ∅)
  return service.receipts.length

/-! ## Receipts that replay -/

/-- The digests of receipts. -/
def known (receipts : List ControlReceipt) : Finset String :=
  (receipts.map (·.core.digest)).toFinset

variable {receipts : List ControlReceipt} {digest : String}

theorem mem_known :
    digest ∈ known receipts ↔ digest ∈ receipts.map (·.core.digest) := List.mem_toFinset

theorem known_concat (receipts : List ControlReceipt) (receipt : ControlReceipt) :
    known (receipts ++ [receipt]) = insert receipt.core.digest (known receipts) := by
  ext digest
  rw [Finset.mem_insert, mem_known, mem_known, List.map_append, List.mem_append, List.map_singleton,
    List.mem_singleton]
  exact or_comm

theorem mem_known_concat {receipt : ControlReceipt} (h : digest ∈ known receipts) :
    digest ∈ known (receipts ++ [receipt]) := by
  rw [known_concat]
  exact Finset.mem_insert_of_mem h

theorem digest_mem_known (receipts : List ControlReceipt) (receipt : ControlReceipt) :
    receipt.core.digest ∈ known (receipts ++ [receipt]) := by
  rw [known_concat]
  exact Finset.mem_insert_self _ _

variable {signing : Signing} {service : Service} {receipt : ControlReceipt}

/-- The loop goes through the receipts. -/
def Replays (signing : Signing) (receipts : List ControlReceipt) : Prop :=
  receipts.foldlM (replayReceipt signing) ("", ∅) =
    .ok (tip (·.core.digest) "" receipts, known receipts)

/-- A receipt that `emit` pushes goes through if its source is known where it has to be. -/
theorem Replays.emit {kind : Kind} {source : String} (h : Replays signing service.receipts)
    (hemits : service.Emits signing kind source receipt)
    (hsource : kind = .actuationAuthorized ∨ kind = .usageReconciled →
      source ∈ known service.receipts) : Replays signing (service.receipts ++ [receipt]) := by
  have hstep : replayReceipt signing (tip (·.core.digest) "" service.receipts,
      known service.receipts) receipt =
      .ok (receipt.core.digest, insert receipt.core.digest (known service.receipts)) := by
    rw [← hemits.kind, ← hemits.source] at hsource
    simp only [replayReceipt, bind_eq_ok, ensure_eq_ok, pure_eq_ok]
    exact ⟨(), hemits.verified, (), hemits.previous, (), hsource, trivial⟩
  rw [Replays, List.foldlM_append, h, tip_concat, known_concat]
  show (replayReceipt signing _ receipt >>= fun state => pure state) = _
  rw [bind_pure, hstep]

/-- Receipts that go through are verified. -/
theorem Replays.replayVerify (h : Replays signing service.receipts) :
    service.replayVerify signing = .ok service.receipts.length := by
  rw [Service.replayVerify, h]
  rfl

/-! ## The invariant -/

/-- A stored reservation has the receipts of its past, and a number in its id. -/
structure Accounted (service : Service) (id : String) (reservation : Reservation) : Prop where
  reserved : reservation.reserveReceipt ∈ known service.receipts
  actuated : reservation.state = .authorized → reservation.actuationReceipt ∈ known service.receipts
  numbered : ∃ n ≤ service.reservations.size, id = reservationName n

variable (signing) in
/-- The receipts replay, and the stored reservations are accounted for. -/
structure Inv (service : Service) : Prop where
  replays : Replays signing service.receipts
  accounted : ∀ (id : String) reservation, service.reservations[id]? = some reservation →
    service.Accounted id reservation

theorem inv_opened (policy : Policy) (timestamp : String) :
    (opened policy timestamp).Inv signing where
  replays := rfl
  accounted id reservation h := by
    rw [opened, Std.ExtTreeMap.getElem?_empty] at h
    cases h

theorem reservationName_inj {n m : ℕ} (h : reservationName n = reservationName m) : n = m :=
  Js.repr_inj ((String.append_right_inj _).mp h)

/-- The id of the next reservation is new. -/
theorem Inv.fresh (h : service.Inv signing) :
    service.reservations[reservationName (service.reservations.size + 1)]? = none := by
  rw [Option.eq_none_iff_forall_ne_some]
  intro reservation hstored
  obtain ⟨n, hn, hname⟩ := (h.accounted _ reservation hstored).numbered
  have heq := reservationName_inj hname
  omega

variable {after : Service}

/-- More receipts and as many reservations account for as much. -/
theorem Accounted.mono {id : String} {reservation : Reservation}
    (h : service.Accounted id reservation)
    (hreceipts : after.receipts = service.receipts ++ [receipt])
    (hsize : service.reservations.size ≤ after.reservations.size) :
    after.Accounted id reservation where
  reserved := by
    rw [hreceipts]
    exact mem_known_concat h.reserved
  actuated hstate := by
    rw [hreceipts]
    exact mem_known_concat (h.actuated hstate)
  numbered := by
    obtain ⟨n, hn, hname⟩ := h.numbered
    exact ⟨n, hn.trans hsize, hname⟩

/-- A reservation is stored, and the others stay accounted for. -/
theorem accounted_insert {id : String} {new : Reservation}
    (h : ∀ (id : String) reservation, service.reservations[id]? = some reservation →
      service.Accounted id reservation)
    (hreservations : after.reservations = service.reservations.insert id new)
    (hreceipts : after.receipts = service.receipts ++ [receipt]) (hnew : after.Accounted id new) :
    ∀ (other : String) reservation, after.reservations[other]? = some reservation →
      after.Accounted other reservation := by
  intro other reservation hstored
  have hsize : service.reservations.size ≤ after.reservations.size := by
    rw [hreservations]
    exact Std.ExtTreeMap.size_le_size_insert
  rw [hreservations, Std.ExtTreeMap.getElem?_insert] at hstored
  split_ifs at hstored with hkey
  · obtain rfl := Option.some.inj hstored
    rw [← Std.LawfulEqCmp.compare_eq_iff_eq.mp hkey]
    exact hnew
  · exact (h other reservation hstored).mono hreceipts hsize

/-- The reservations stay as they are. -/
theorem accounted_keep
    (h : ∀ (id : String) reservation, service.reservations[id]? = some reservation →
      service.Accounted id reservation) (hreservations : after.reservations = service.reservations)
    (hreceipts : after.receipts = service.receipts ++ [receipt]) :
    ∀ (other : String) reservation, after.reservations[other]? = some reservation →
      after.Accounted other reservation := by
  intro other reservation hstored
  rw [hreservations] at hstored
  exact (h other reservation hstored).mono hreceipts (by rw [hreservations])

/-- Whatever a call does, it keeps the invariant. -/
theorem Step.inv {op : Op} (hstep : service.Step signing op after) (h : service.Inv signing) :
    after.Inv signing := by
  cases hstep with
  | unchanged => exact h
  | bound hemits =>
    exact ⟨h.replays.emit hemits (by simp), accounted_keep h.accounted rfl rfl⟩
  | changed hentitlement hpersists hsettles hemits =>
    refine ⟨h.replays.emit hemits fun hkind => ?_, accounted_keep h.accounted rfl rfl⟩
    rcases hkind with rfl | hkind
    · cases hpersists
    · exact absurd hkind hsettles
  | reserved hactive hquota hemits =>
    refine ⟨h.replays.emit hemits (by simp), accounted_insert h.accounted rfl rfl ?_⟩
    refine ⟨digest_mem_known _ _, nofun, _, ?_, rfl⟩
    show _ ≤ (service.reservations.insert _ _).size
    rw [Std.ExtTreeMap.size_insert, if_neg]
    rw [Std.ExtTreeMap.contains_eq_isSome_getElem?, h.fresh]
    decide
  | authorized hstored hstate hemits =>
    have haccounted := h.accounted _ _ hstored
    refine ⟨h.replays.emit hemits fun _ => haccounted.reserved,
      accounted_insert h.accounted rfl rfl ?_⟩
    obtain ⟨n, hn, hname⟩ := haccounted.numbered
    exact ⟨mem_known_concat haccounted.reserved, fun _ => digest_mem_known _ _, n,
      hn.trans Std.ExtTreeMap.size_le_size_insert, hname⟩
  | reconciled hstored hstate hcovered hemits =>
    have haccounted := h.accounted _ _ hstored
    refine ⟨h.replays.emit hemits fun _ => haccounted.actuated hstate,
      accounted_insert h.accounted rfl rfl ?_⟩
    obtain ⟨n, hn, hname⟩ := haccounted.numbered
    exact ⟨mem_known_concat haccounted.reserved, nofun, n,
      hn.trans Std.ExtTreeMap.size_le_size_insert, hname⟩

theorem inv_next (service : Service) (op : Op) (h : service.Inv signing) :
    (service.next signing op).Inv signing := (next_step op).inv h

/-! ## The stages of a reservation -/

/-- The state of the reservation of an id, if there is one. -/
def stateOf (id : String) (service : Service) : Option ReservationState :=
  service.reservations[id]?.map Reservation.state

/-- The number of a state. -/
def rank : Option ReservationState → ℕ
  | none => 0
  | some .reserved => 1
  | some .authorized => 2
  | some .reconciled => 3

theorem rank_injective : Function.Injective rank := by
  intro a b h
  rcases a with _ | a
  · rcases b with _ | b
    · rfl
    · cases b <;> cases h
  · rcases b with _ | b
    · cases a <;> cases h
    · cases a <;> cases b <;> first | rfl | cases h

/-- A reservation that is stored takes the step from the one before, the others stay. -/
theorem advances_insert {reservations : Std.ExtTreeMap String Reservation} {id other : String}
    {new : Reservation}
    (h : rank (some new.state) = rank (reservations[id]?.map Reservation.state) + 1) :
    Advances rank (reservations[other]?.map Reservation.state)
      ((reservations.insert id new)[other]?.map Reservation.state) := by
  rw [Std.ExtTreeMap.getElem?_insert]
  split_ifs with hkey
  · rw [← Std.LawfulEqCmp.compare_eq_iff_eq.mp hkey]
    exact .inr h
  · exact .inl rfl

/-- A call leaves a reservation in its state, or takes it to the next one. -/
theorem Step.advances {op : Op} (hstep : service.Step signing op after) (h : service.Inv signing)
    (id : String) :
    Advances rank (service.stateOf id) (after.stateOf id) := by
  cases hstep with
  | unchanged | bound | changed => exact .inl rfl
  | reserved hactive hquota hemits =>
    refine advances_insert ?_
    rw [h.fresh]
    rfl
  | authorized hstored hstate hemits =>
    refine advances_insert ?_
    rw [hstored, Option.map_some, hstate]
    rfl
  | reconciled hstored hstate hcovered hemits =>
    refine advances_insert ?_
    rw [hstored, Option.map_some, hstate]
    rfl

end Service

open Service in
/-- In every run of a service from its opening: a call that does not succeed leaves the service as
it was, the receipts replay, and every reservation is reserved, authorized and reconciled in this
order, each once at most. -/
theorem atomic_and_replayable (signing : Signing) (policy : Policy) (timestamp : String)
    (ops : List Op) :
    let start := opened policy timestamp
    let service := run (next signing) start ops
    (∀ op, (∃ reply, ((InPlace.call signing op).call service).1 = .ok reply) ∨
      ((InPlace.call signing op).call service).2 = service) ∧
    service.replayVerify signing = .ok service.receipts.length ∧
    ∀ id, ((ops.scanl (next signing) start).map (stateOf id)).destutter (· ≠ ·) <+:
      [none, some .reserved, some .authorized, some .reconciled] := by
  intro start service
  have hinv : service.Inv signing := run_invariant inv_next (inv_opened policy timestamp) ops
  refine ⟨fun op => ?_, hinv.replays.replayVerify, fun id => ?_⟩
  · rw [InPlace.call_eq]
    cases service.transact signing op with
    | error error => exact .inr rfl
    | ok result => exact .inl ⟨result.1, rfl⟩
  · have hlt : ∀ state, rank state <
        [none, some ReservationState.reserved, some .authorized, some .reconciled].length := by
      intro state
      rcases state with _ | state
      · decide
      · cases state <;> decide
    refine stages_of_advances rank_injective (by rfl) hlt inv_next
      (fun service op h => (next_step op).advances h id) (inv_opened policy timestamp) ?_ ops
    show rank ((∅ : Std.ExtTreeMap String Reservation)[id]?.map Reservation.state) = 0
    rw [Std.ExtTreeMap.getElem?_empty]
    rfl

end ChatmanEcosystem.AgentLightning
