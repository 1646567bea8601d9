import ChatmanEcosystem.Commerce.Ledger

/-!
# Refused operations

Whether a ledger operation that returns an error leaves the ledger as it was.
The assignments that an operation makes before `apply` are not taken back when
`apply` refuses.

Results:

* `apply_eq_error_iff`: when `apply` refuses, on a reachable ledger.
* `unchanged_iff_not_halfMade`: a refused call leaves the ledger alone exactly
  when it is not a half-made one, for every call on every reachable ledger.
-/

namespace ChatmanEcosystem.Commerce

open Common Core Rust

namespace CommerceLedger

/-- What `apply` refuses: a blank key, a key that was used for another input, or
under a new key a blank event reference or a transition that the lifecycle does
not have. -/
def Refuses (ledger : CommerceLedger) (input : TransitionInput) : Prop :=
  isBlank input.idempotencyKey ∨
  match ledger.idempotency[input.idempotencyKey]? with
  | some (text, _) => text ≠ input.fingerprint
  | none => isBlank input.eventRef ∨ ∀ after, nextState ledger.state input.kind ≠ .ok after

/-- The operation passes its checks, assigns a side field a new value, and hands
`apply` an input that `apply` refuses. -/
def HalfMade (ledger : CommerceLedger) (op : Op) : Prop :=
  ∃ preset input, ledger.prepare op = .ok (preset, input) ∧ preset ≠ ledger ∧ ledger.Refuses input

variable {signing : Signing} {ledger : CommerceLedger}

/-- `apply` refuses nothing but what `Refuses` says: signing and verifying the
new receipt succeed, and the stored index is in range. -/
theorem apply_eq_error_iff (signing : Signing) {input : TransitionInput} (hinv : ledger.Inv)
    (hauthority : input.authority = input.kind.authority) :
    (∃ error, ledger.apply signing input = .error error) ↔ ledger.Refuses input := by
  have hok : (∃ result, ledger.apply signing input = .ok result) ↔ ¬ ledger.Refuses input := by
    unfold Refuses
    rw [not_or, Bool.not_eq_true]
    cases hkey : ledger.idempotency[input.idempotencyKey]? with
    | none =>
      rw [not_or, Bool.not_eq_true, not_forall]
      constructor
      · rintro ⟨⟨receipt, ledger'⟩, h⟩
        obtain ⟨hblank, ⟨_, hsome, -⟩ | ⟨-, hevent, after, hafter, -⟩⟩ :=
          (apply_eq_ok hauthority).mp h
        · rw [hkey] at hsome
          cases hsome
        · exact ⟨hblank, hevent, after, fun h => h hafter⟩
      · rintro ⟨hblank, hevent, after, hafter⟩
        exact ⟨(_, _), (apply_eq_ok hauthority).mpr
          ⟨hblank, .inr ⟨hkey, hevent, after, not_not.mp hafter, rfl, rfl⟩⟩⟩
    | some entry =>
      obtain ⟨text, index⟩ := entry
      simp only [ne_eq, not_not]
      constructor
      · rintro ⟨⟨receipt, ledger'⟩, h⟩
        obtain ⟨hblank, ⟨_, hsome, -⟩ | ⟨hnone, -⟩⟩ := (apply_eq_ok hauthority).mp h
        · rw [hkey] at hsome
          exact ⟨hblank, (Prod.mk.inj (Option.some.inj hsome)).1⟩
        · rw [hkey] at hnone
          cases hnone
      · rintro ⟨hblank, rfl⟩
        obtain ⟨receipt, hreceipt, -⟩ := hinv.index _ _ _ hkey
        exact ⟨(receipt, ledger), (apply_eq_ok hauthority).mpr
          ⟨hblank, .inl ⟨index, hkey, hreceipt, rfl⟩⟩⟩
  rw [← not_iff_not, ← hok]
  cases ledger.apply signing input <;> simp

/-- The assignments change nothing that `apply` decides by. -/
theorem SameRecord.refuses {preset : CommerceLedger} (h : preset.SameRecord ledger)
    (input : TransitionInput) : preset.Refuses input ↔ ledger.Refuses input := by
  unfold Refuses
  rw [h.idempotency, h.state]

/-- One call on a ledger that satisfies the invariant. -/
theorem call_unchanged_iff (hinv : ledger.Inv) (op : Op) :
    ((∃ error, (ledger.call signing op).1 = .error error) →
      (ledger.call signing op).2 = ledger) ↔ ¬ ledger.HalfMade op := by
  rcases call_cases signing ledger op with ⟨error, hprepare, hcall⟩ |
    ⟨preset, input, hprepare, happly⟩
  · rw [hcall]
    refine iff_of_true (fun _ => rfl) ?_
    rintro ⟨preset, input, h, -⟩
    rw [hprepare] at h
    cases h
  · obtain ⟨hframe, hauthority⟩ := prepare_frame hprepare
    have hrefuses := apply_eq_error_iff signing (hframe.inv hinv) hauthority
    rw [hframe.refuses] at hrefuses
    have hhalf : ledger.HalfMade op ↔ preset ≠ ledger ∧ ledger.Refuses input := by
      constructor
      · rintro ⟨preset', input', h, hrest⟩
        rw [hprepare] at h
        obtain ⟨rfl, rfl⟩ := Prod.mk.inj (Except.ok.inj h)
        exact hrest
      · exact fun h => ⟨preset, input, hprepare, h⟩
    rw [hhalf]
    rcases happly with ⟨error, happly, hcall⟩ | ⟨receipt, ledger', happly, hcall⟩
    · have hrefused := hrefuses.mp ⟨error, happly⟩
      rw [hcall]
      constructor
      · rintro h ⟨hne, -⟩
        exact hne (h ⟨error, rfl⟩)
      · intro h _
        by_contra hne
        exact h ⟨hne, hrefused⟩
    · rw [hcall]
      refine iff_of_true (fun ⟨_, h⟩ => by cases h) ?_
      rintro ⟨-, hrefused⟩
      obtain ⟨error, h⟩ := hrefuses.mpr hrefused
      rw [happly] at h
      cases h

/-- On every reachable ledger, a call that returns an error leaves every field as
it was exactly when the call is not half made. -/
theorem unchanged_iff_not_halfMade (signing : Signing) (context : CommerceContext) (ops : List Op)
    (op : Op) :
    let ledger := run (next signing) (opened context) ops
    ((∃ error, (ledger.call signing op).1 = .error error) →
      (ledger.call signing op).2 = ledger) ↔ ¬ ledger.HalfMade op :=
  call_unchanged_iff (inv_run signing context ops) op

/-! ## An entitlement before its agreement -/

/-- An entitlement event on a new ledger is refused, and activates the entitlement. -/
theorem entitlement_before_agreement :
    let context := fixtureContext .aws
    ∀ signing : Signing, ∃ error,
      (opened context).call signing
          (.observe (fixtureObservation context .entitlement "entitlement-event")) =
        (.error error, { opened context with
          quantity := 5, plan := "enterprise", entitlement := .active }) ∧
      { opened context with quantity := 5, plan := "enterprise", entitlement := .active } ≠
        opened context := by
  intro context signing
  let preset : CommerceLedger :=
    { opened context with quantity := 5, plan := "enterprise", entitlement := .active }
  let input := inputOf .entitlementAdmitted "entitlement:entitlement-event" "entitlement-event"
  have hprepare : (opened context).prepare
      (.observe (fixtureObservation context .entitlement "entitlement-event")) =
      .ok (preset, input) := by decide +kernel
  have hrefuses : preset.Refuses input := by
    refine .inr ?_
    simp only [preset, opened, Std.ExtTreeMap.getElem?_empty]
    exact .inr fun after h => by cases h
  have hinv : preset.Inv := (prepare_frame hprepare).1.inv (inv_opened context)
  obtain ⟨error, herror⟩ := (apply_eq_error_iff signing hinv rfl).mpr hrefuses
  refine ⟨error, ?_, by decide⟩
  unfold call perform
  rw [hprepare]
  simp only [herror, preset]

end CommerceLedger

end ChatmanEcosystem.Commerce
