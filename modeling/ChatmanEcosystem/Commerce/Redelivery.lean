import ChatmanEcosystem.Commerce.Ledger

/-!
# Redelivered events

Whether observing an event again that the ledger accepted before changes
nothing. `apply` does know the key again and returns the stored receipt, but
`observe` assigns the side fields of the event before it asks.

Results:

* `accepted_key`: what an accepted operation leaves behind under its key.
* `redelivered`: what an accepted event does when it is observed again, at any
  later point of the run.
* `redelivery_iff_settled`: redelivery is idempotent exactly when the side
  fields already hold what the event assigns.
-/

namespace ChatmanEcosystem.Commerce

open Common Core Rust

namespace CommerceLedger

/-! ## What an event assigns -/

/-- The ledger with the fields assigned that `observe` assigns for an event; meter
and settlement events are not observed twice. -/
def assigned (ledger : CommerceLedger) (observation : ProviderObservation) : CommerceLedger :=
  match observation.kind with
  | .entitlement =>
    { ledger with
      quantity := observation.quantity, plan := observation.plan, entitlement := .active }
  | .entitlementChanged =>
    { ledger with quantity := observation.quantity, plan := observation.plan }
  | .suspended => { ledger with entitlement := .suspended }
  | .reinstated => { ledger with entitlement := .active }
  | .revoked => { ledger with entitlement := .revoked }
  | .agreement | .meterAccepted | .settlement => ledger

/-- The event assigns nothing new: the fields that its kind writes hold its values
already. Meter and settlement events, which depend on the lifecycle state, never
qualify. -/
def Settled (ledger : CommerceLedger) (observation : ProviderObservation) : Prop :=
  match observation.kind with
  | .agreement => True
  | .entitlement => ledger.quantity = observation.quantity ∧ ledger.plan = observation.plan ∧
      ledger.entitlement = .active
  | .entitlementChanged => ledger.quantity = observation.quantity ∧ ledger.plan = observation.plan
  | .suspended => ledger.entitlement = .suspended
  | .reinstated => ledger.entitlement = .active
  | .revoked => ledger.entitlement = .revoked
  | .meterAccepted | .settlement => False

/-- The events that any lifecycle state lets through to `apply`. -/
def IsEntitlementEvent (kind : ProviderEventKind) : Prop :=
  kind ≠ .meterAccepted ∧ kind ≠ .settlement

variable {signing : Signing} {ledger ledger' : CommerceLedger} {observation : ProviderObservation}

theorem assigned_eq_iff (hkind : IsEntitlementEvent observation.kind) :
    ledger.assigned observation = ledger ↔ ledger.Settled observation := by
  obtain ⟨hmeter, hsettlement⟩ := hkind
  cases ledger
  unfold assigned Settled
  cases hkind : observation.kind with
  | agreement => exact iff_of_true rfl trivial
  | entitlement | entitlementChanged =>
    simp only [CommerceLedger.mk.injEq, true_and, and_true]
    tauto
  | suspended | reinstated | revoked => simp [eq_comm]
  | meterAccepted => exact absurd hkind hmeter
  | settlement => exact absurd hkind hsettlement

variable {preset : CommerceLedger} {input : TransitionInput}

/-- An event that passed the checks once passes them on every ledger of the same
context, and leads to the same input. -/
theorem observe_again (hkind : IsEntitlementEvent observation.kind)
    (hcontext : ledger'.context = ledger.context)
    (h : ledger.observe observation = .ok (preset, input)) :
    ledger'.observe observation = .ok (ledger'.assigned observation, input) := by
  obtain ⟨hmeter, hsettlement⟩ := hkind
  obtain ⟨_, hadmitted, h⟩ := bind_eq_ok.mp h
  refine bind_eq_ok.mpr ⟨(), by rw [hcontext]; exact hadmitted, ?_⟩
  cases hkind : observation.kind with
  | agreement | suspended | reinstated | revoked =>
    simp only [hkind, pure_eq_ok, Prod.mk.injEq] at h
    simp only [assigned, hkind, h.2]
    rfl
  | entitlement | entitlementChanged =>
    simp only [hkind, bind_eq_ok, pure_eq_ok, Prod.mk.injEq] at h
    obtain ⟨_, hcheck, -, rfl⟩ := h
    simp only [assigned, hkind, bind_eq_ok]
    exact ⟨(), hcheck, rfl⟩
  | meterAccepted => exact absurd hkind hmeter
  | settlement => exact absurd hkind hsettlement

/-! ## What an accepted operation leaves behind -/

variable {op : Op} {receipt : CommercialReceipt}

/-- After an accepted call the key is stored with the fingerprint of the input and
leads to the receipt that the call returned. -/
theorem accepted_key (hprepare : ledger.prepare op = .ok (preset, input))
    (h : ledger.call signing op = (.ok receipt, ledger')) :
    isBlank input.idempotencyKey = false ∧
      ∃ index, ledger'.idempotency[input.idempotencyKey]? = some (input.fingerprint, index) ∧
        ledger'.receipts[index]? = some receipt := by
  obtain ⟨-, hauthority⟩ := prepare_frame hprepare
  rcases call_of_prepare signing hprepare with ⟨_, -, hcall⟩ | ⟨receipt', ledger'', happly, hcall⟩
  · rw [hcall] at h
    cases h
  · rw [hcall] at h
    obtain ⟨hreceipt, rfl⟩ := Prod.mk.inj h
    obtain rfl := Except.ok.inj hreceipt
    obtain ⟨hblank, ⟨index, hkey, hstored, rfl⟩ | ⟨-, -, after, -, -, rfl⟩⟩ :=
      (apply_eq_ok hauthority).mp happly
    · exact ⟨hblank, index, hkey, hstored⟩
    · refine ⟨hblank, preset.receipts.length, ?_, ?_⟩
      · simp [record]
      · simp [record]

/-- A stored key makes `apply` return the stored receipt. -/
theorem call_of_stored (signing : Signing) {index : ℕ}
    (hprepare : ledger.prepare op = .ok (preset, input))
    (hblank : isBlank input.idempotencyKey = false)
    (hkey : ledger.idempotency[input.idempotencyKey]? = some (input.fingerprint, index))
    (hstored : ledger.receipts[index]? = some receipt) :
    ledger.call signing op = (.ok receipt, preset) := by
  obtain ⟨hframe, hauthority⟩ := prepare_frame hprepare
  have happly : preset.apply signing input = .ok (receipt, preset) := by
    refine (apply_eq_ok hauthority).mpr ⟨hblank, .inl ⟨index, ?_, ?_, rfl⟩⟩
    · rw [hframe.idempotency, hkey]
    · rw [hframe.receipts, hstored]
  unfold call perform
  rw [hprepare]
  simp only [happly]

variable {after : CommercialState}

/-- A new key makes `apply` issue a receipt. -/
theorem call_of_new (signing : Signing) (hprepare : ledger.prepare op = .ok (preset, input))
    (hblank : isBlank input.idempotencyKey = false) (hevent : isBlank input.eventRef = false)
    (hkey : ledger.idempotency[input.idempotencyKey]? = none)
    (hafter : nextState ledger.state input.kind = .ok after) :
    ledger.call signing op = (.ok (preset.issue signing input after),
      preset.record input (preset.issue signing input after)) := by
  obtain ⟨hframe, hauthority⟩ := prepare_frame hprepare
  have happly : preset.apply signing input = .ok (preset.issue signing input after,
      preset.record input (preset.issue signing input after)) := by
    refine (apply_eq_ok hauthority).mpr ⟨hblank, .inr ⟨?_, hevent, after, ?_, rfl, rfl⟩⟩
    · rw [hframe.idempotency, hkey]
    · rw [hframe.state, hafter]
  unfold call perform
  rw [hprepare]
  simp only [happly]

/-! ## Redelivery at any later point -/

variable {state : CommercialState}

theorem meterAccepted_after (h : nextState state .meterAccepted = .ok after) :
    after = .metered := by
  cases state <;> cases h
  rfl

theorem settlementReconciled_after (h : nextState state .settlementReconciled = .ok after) :
    after = .reconciled := by
  cases state <;> cases h
  rfl

/-- A meter or settlement event that was accepted is refused from then on: its own
receipt lies behind the only state that lets it through. -/
theorem passed_refused {later : CommerceLedger} (hkind : ¬ IsEntitlementEvent observation.kind)
    (hprepare : ledger.observe observation = .ok (preset, input)) (hinv : ledger'.Inv)
    (hfingerprint : receipt.fingerprint = input.fingerprint) (hmem : receipt ∈ ledger'.receipts)
    (hextends : ledger'.Extends later) (result : CommerceLedger × TransitionInput) :
    later.observe observation ≠ .ok result := by
  obtain ⟨hstep, hrank⟩ := hinv.history receipt hmem
  have hinput : receipt.kind = input.kind := (fingerprint_inj hfingerprint).1
  have hlater := hextends.rank
  intro h
  obtain ⟨_, -, h⟩ := bind_eq_ok.mp h
  obtain ⟨_, -, hprepare⟩ := bind_eq_ok.mp hprepare
  have hcases : observation.kind = .meterAccepted ∨ observation.kind = .settlement := by
    unfold IsEntitlementEvent at hkind
    tauto
  rcases hcases with hmeter | hsettlement
  · simp only [hmeter, acceptMeter, bind_eq_ok, ensure_eq_ok, pure_eq_ok,
      Prod.mk.injEq] at h hprepare
    obtain ⟨_, ⟨hstate, -⟩, -⟩ := h
    obtain ⟨_, -, -, rfl⟩ := hprepare
    rw [hinput] at hstep
    rw [meterAccepted_after hstep] at hrank
    rw [hstate] at hlater
    exact absurd (hrank.trans hlater) (by decide)
  · simp only [hsettlement, reconcile, bind_eq_ok, ensure_eq_ok, pure_eq_ok,
      Prod.mk.injEq] at h hprepare
    obtain ⟨_, hstate, -⟩ := h
    obtain ⟨_, -, _, -, -, rfl⟩ := hprepare
    rw [hinput] at hstep
    rw [settlementReconciled_after hstep] at hrank
    rw [hstate] at hlater
    exact absurd (hrank.trans hlater) (by decide)

/-- An entitlement event that was accepted returns the same receipt at any later
point, and assigns its fields again. -/
theorem redelivered (hkind : IsEntitlementEvent observation.kind) (hinv : ledger.Inv)
    (h : ledger.call signing (.observe observation) = (.ok receipt, ledger')) (ops : List Op) :
    (run (next signing) ledger' ops).call signing (.observe observation) =
      (.ok receipt, (run (next signing) ledger' ops).assigned observation) := by
  obtain ⟨hinv', hextends⟩ := next_inv signing ledger (.observe observation) hinv
  rw [next, h] at hinv' hextends
  have hlater := extends_run signing hinv' ops
  obtain ⟨preset, input, hprepare⟩ := prepared_of_call h
  obtain ⟨hblank, index, hkey, hstored⟩ := accepted_key hprepare h
  refine call_of_stored signing (observe_again hkind ?_ hprepare) hblank
    (hlater.entry _ _ hkey) ?_
  · exact hlater.context.trans hextends.context
  · obtain ⟨hlt, hget⟩ := List.getElem?_eq_some_iff.mp hstored
    exact (List.prefix_iff_getElem?.mp hlater.receipts index hlt).trans (congrArg some hget)

/-- For every event that was accepted at some point of a run: observing it again
later returns the receipt it got and changes nothing exactly when its fields hold
its values already. -/
theorem redelivery_iff_settled (signing : Signing) (context : CommerceContext)
    (before after : List Op) (observation : ProviderObservation) (receipt : CommercialReceipt)
    (haccepted : ((run (next signing) (opened context) before).call signing
      (.observe observation)).1 = .ok receipt) :
    let ledger := run (next signing) (opened context) (before ++ .observe observation :: after)
    ledger.call signing (.observe observation) = (.ok receipt, ledger) ↔
      ledger.Settled observation := by
  intro ledger
  have hinv := inv_run signing context before
  generalize hfirst : run (next signing) (opened context) before = first at haccepted hinv
  obtain ⟨ledger', hcall⟩ : ∃ ledger', first.call signing (.observe observation) =
      (.ok receipt, ledger') := ⟨_, Prod.ext haccepted rfl⟩
  have hledger : ledger = run (next signing) ledger' after := by
    simp only [ledger, run_append, run_cons, hfirst, next, hcall]
  rw [hledger]
  by_cases hkind : IsEntitlementEvent observation.kind
  · rw [redelivered hkind hinv hcall after, Prod.mk.injEq, assigned_eq_iff hkind]
    exact and_iff_right rfl
  · have hsettled : ¬ (run (next signing) ledger' after).Settled observation := by
      unfold IsEntitlementEvent at hkind
      unfold Settled
      cases h : observation.kind <;> simp_all
    refine iff_of_false (fun h => ?_) hsettled
    obtain ⟨hinv', -⟩ := next_inv signing first (.observe observation) hinv
    rw [next, hcall] at hinv'
    obtain ⟨preset, input, hprepare⟩ := prepared_of_call hcall
    obtain ⟨-, index, hkey, hstored⟩ := accepted_key hprepare hcall
    obtain ⟨stored, hindex, hfingerprint⟩ := hinv'.index _ _ _ hkey
    rw [hstored] at hindex
    obtain rfl := Option.some.inj hindex
    have hrefused := passed_refused hkind hprepare hinv' hfingerprint
      (List.mem_of_getElem? hstored) (extends_run signing hinv' after)
    obtain ⟨preset', input', hprepare'⟩ := prepared_of_call h
    exact hrefused _ hprepare'

/-- The theorem applies to the agreement of a new ledger. -/
theorem redelivery_iff_settled_agreement :
    let context := fixtureContext .aws
    let agreement := Op.observe (fixtureObservation context .agreement "agreement-event")
    ∃ receipt, ((opened context).call sampleSigning agreement).1 = .ok receipt ∧
      ((opened context).next sampleSigning agreement).call sampleSigning agreement =
        (.ok receipt, (opened context).next sampleSigning agreement) := by
  intro context agreement
  have hprepare : (opened context).prepare agreement = .ok (opened context,
      inputOf .agreementObserved "agreement:agreement-event" "agreement-event") := by
    decide +kernel
  have hafter : nextState (opened context).state .agreementObserved = .ok .agreementObserved := rfl
  have hcall := call_of_new sampleSigning hprepare (by decide) (by decide) (by simp [opened]) hafter
  refine ⟨_, congrArg Prod.fst hcall, ?_⟩
  exact (redelivery_iff_settled sampleSigning context [] []
    (fixtureObservation context .agreement "agreement-event") _ (congrArg Prod.fst hcall)).mpr
      trivial

/-! ## A reinstatement after the revocation -/

/-- What an entitlement event under a new key does, as far as later calls ask. -/
theorem event_accepted (signing : Signing)
    (hobserve : ledger.observe observation = .ok (preset, input))
    (hkind : IsEntitlementEvent observation.kind) (hcontext : ledger'.context = ledger.context)
    (hblank : isBlank input.idempotencyKey = false) (hevent : isBlank input.eventRef = false)
    (hkey : ledger'.idempotency[input.idempotencyKey]? = none)
    (hafter : nextState ledger'.state input.kind = .ok after) :
    ∃ receipt later, ledger'.call signing (.observe observation) = (.ok receipt, later) ∧
      receipt = (ledger'.assigned observation).issue signing input after ∧
      later.context = ledger.context ∧ later.state = after ∧
      later.quantity = (ledger'.assigned observation).quantity ∧
      later.entitlement = (ledger'.assigned observation).entitlement ∧
      ∀ key, key ≠ input.idempotencyKey →
        later.idempotency[key]? = ledger'.idempotency[key]? := by
  have hagain := observe_again hkind hcontext hobserve
  obtain ⟨hframe, -⟩ := observe_frame hagain
  refine ⟨_, _, call_of_new signing hagain hblank hevent hkey hafter, rfl, ?_, rfl, rfl, rfl, ?_⟩
  · exact hframe.context.trans hcontext
  · intro key hne
    simp only [record, Std.ExtTreeMap.getElem?_insert, compare_eq_iff_eq, hne.symm, if_false,
      hframe.idempotency]

/-- The ledger of the revocation fixture: once the buyer is revoked, the old
reinstatement comes in again, gets its old receipt, and fulfillment is authorized. -/
theorem reinstated_again_after_revoked :
    let context := fixtureContext .aws
    let event := fun kind name => Op.observe (fixtureObservation context kind name)
    let reinstate := event .reinstated "r-reinstate"
    ∀ signing : Signing, ∃ original fulfilled,
      let suspended := run (next signing) (opened context) [event .agreement "r-agreement",
        event .entitlement "r-entitlement", event .suspended "r-suspend"]
      let revoked := run (next signing) suspended [reinstate, event .revoked "r-revoke"]
      (suspended.call signing reinstate).1 = .ok original ∧
      revoked.entitlement = .revoked ∧
      revoked.call signing reinstate = (.ok original, { revoked with entitlement := .active }) ∧
      ((revoked.next signing reinstate).call signing
        (.authorizeFulfillment "blocked-revoked")).1 = .ok fulfilled := by
  intro context event reinstate signing
  -- the inputs of the five events, the same on every ledger of the context
  have hagreement : (opened context).observe (fixtureObservation context .agreement "r-agreement") =
      .ok (opened context, inputOf .agreementObserved "agreement:r-agreement" "r-agreement") := by
    decide +kernel
  have hentitlement : (opened context).observe
      (fixtureObservation context .entitlement "r-entitlement") =
      .ok ({ opened context with quantity := 5, plan := "enterprise", entitlement := .active },
        inputOf .entitlementAdmitted "entitlement:r-entitlement" "r-entitlement") := by
    decide +kernel
  have hsuspended : (opened context).observe (fixtureObservation context .suspended "r-suspend") =
      .ok ({ opened context with entitlement := .suspended },
        inputOf .entitlementSuspended "suspend:r-suspend" "r-suspend") := by
    decide +kernel
  have hreinstated : (opened context).observe
      (fixtureObservation context .reinstated "r-reinstate") =
      .ok ({ opened context with entitlement := .active },
        inputOf .entitlementReinstated "reinstate:r-reinstate" "r-reinstate") := by
    decide +kernel
  have hrevoked : (opened context).observe (fixtureObservation context .revoked "r-revoke") =
      .ok ({ opened context with entitlement := .revoked },
        inputOf .entitlementRevoked "revoke:r-revoke" "r-revoke") := by
    decide +kernel
  have hkinds : IsEntitlementEvent .agreement ∧ IsEntitlementEvent .entitlement ∧
      IsEntitlementEvent .suspended ∧ IsEntitlementEvent .reinstated ∧
      IsEntitlementEvent .revoked := by
    unfold IsEntitlementEvent
    decide
  obtain ⟨kagreement, kentitlement, ksuspended, kreinstated, krevoked⟩ := hkinds
  -- the run up to the revocation, one new event after the other
  obtain ⟨r₁, l₁, c₁, -, x₁, s₁, q₁, e₁, i₁⟩ := event_accepted signing hagreement kagreement rfl
    (by decide) (by decide) (Std.ExtTreeMap.getElem?_empty) rfl
  obtain ⟨r₂, l₂, c₂, -, x₂, s₂, q₂, e₂, i₂⟩ := event_accepted signing hentitlement kentitlement x₁
    (by decide) (by decide)
    (by rw [i₁ _ (by decide)]; exact Std.ExtTreeMap.getElem?_empty) (by rw [s₁]; rfl)
  obtain ⟨r₃, l₃, c₃, -, x₃, s₃, q₃, e₃, i₃⟩ := event_accepted signing hsuspended ksuspended x₂
    (by decide) (by decide)
    (by rw [i₂ _ (by decide), i₁ _ (by decide)]; exact Std.ExtTreeMap.getElem?_empty) rfl
  obtain ⟨r₄, l₄, c₄, -, x₄, s₄, q₄, e₄, i₄⟩ := event_accepted signing hreinstated kreinstated x₃
    (by decide) (by decide)
    (by rw [i₃ _ (by decide), i₂ _ (by decide), i₁ _ (by decide)]
        exact Std.ExtTreeMap.getElem?_empty) rfl
  obtain ⟨r₅, l₅, c₅, -, x₅, s₅, q₅, e₅, i₅⟩ := event_accepted signing hrevoked krevoked x₄
    (by decide) (by decide)
    (by rw [i₄ _ (by decide), i₃ _ (by decide), i₂ _ (by decide), i₁ _ (by decide)]
        exact Std.ExtTreeMap.getElem?_empty) rfl
  have hrun₃ : run (next signing) (opened context) [event .agreement "r-agreement",
      event .entitlement "r-entitlement", event .suspended "r-suspend"] = l₃ := by
    simp only [event, run_cons, run_nil, next, c₁, c₂, c₃]
  have hrun₅ : run (next signing) l₃ [reinstate, event .revoked "r-revoke"] = l₅ := by
    simp only [event, reinstate, run_cons, run_nil, next, c₄, c₅]
  have hinv : l₃.Inv := by
    rw [← hrun₃]
    exact inv_run signing context _
  have hagain : l₅.call signing reinstate = (.ok r₄, { l₅ with entitlement := .active }) := by
    have h := redelivered kreinstated hinv c₄ [event .revoked "r-revoke"]
    simp only [event, run_cons, run_nil, next, c₅] at h
    exact h
  have hquantity : l₅.quantity = 5 := by
    rw [q₅]
    exact q₄.trans (q₃.trans q₂)
  have hprepare : ({ l₅ with entitlement := .active } : CommerceLedger).prepare
      (.authorizeFulfillment "blocked-revoked") =
      .ok ({ l₅ with entitlement := .active },
        inputOf .fulfillmentAuthorized "blocked-revoked" "aws:fulfillment") := by
    have hname : "aws:fulfillment" = l₅.context.provider.asStr ++ ":fulfillment" := by
      rw [x₅]
      decide
    rw [hname]
    refine bind_eq_ok.mpr ⟨(), ensure_eq_ok.mpr ⟨rfl, ?_⟩, rfl⟩
    rw [hquantity]
    decide
  obtain ⟨fulfilled, hfulfilled⟩ : ∃ receipt, (call signing { l₅ with entitlement := .active }
      (.authorizeFulfillment "blocked-revoked")).1 = .ok receipt :=
    ⟨_, congrArg Prod.fst (call_of_new signing hprepare (by decide) (by decide)
      (by rw [i₅ _ (by decide), i₄ _ (by decide), i₃ _ (by decide), i₂ _ (by decide),
            i₁ _ (by decide)]
          exact Std.ExtTreeMap.getElem?_empty) (by rw [s₅, s₄, s₃, s₂]; rfl))⟩
  refine ⟨r₄, fulfilled, ?_⟩
  dsimp only
  rw [hrun₃, hrun₅]
  refine ⟨congrArg Prod.fst c₄, e₅, hagain, ?_⟩
  rw [next, hagain]
  exact hfulfilled

end CommerceLedger

end ChatmanEcosystem.Commerce
