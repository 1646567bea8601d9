import ChatmanEcosystem.Commerce.Tally

/-!
# Settlement arithmetic

The sums and products of a ledger are `u64` and stop at its maximum. Beside the
ledger, `Books` keeps what every call that passes its checks stands for, in
numbers without a bound.

Results:

* `inv_next`: what holds of the unbounded books in any case.
* `exact_next`: a call keeps the ledger exact exactly when what it sums up, or
  multiplies, stays within `u64`.
* `exact_iff_inRange`: runs in which the ledger is exact.
-/

namespace ChatmanEcosystem.Commerce

open Common Core Rust CommerceLedger

/-- A tally once an input is booked for what it stands for: a meter for the usage, and a settlement
for the price of the metered units. -/
def Tally.book (price : ℕ) (tally : Tally) (input : TransitionInput) : Tally :=
  tally.post id input.kind
    (if input.kind = .meterAccepted then tally.usage else input.units.toNat)
    (if input.kind = .settlementReconciled then price * tally.metered
      else input.amountMicros.toNat)

/-- A ledger beside the unbounded tally of the calls that passed its checks. -/
structure Books where
  ledger : CommerceLedger
  exact : Tally

namespace Books

/-- The price of a unit. -/
def price (books : Books) : ℕ := books.ledger.context.unitPriceMicros.toNat

def opened (context : CommerceContext) : Books where
  ledger := .opened context
  exact := .empty

/-- The books after a call. -/
def next (signing : Signing) (books : Books) (op : Op) : Books where
  ledger := books.ledger.next signing op
  exact :=
    match books.ledger.prepare op with
    | .error _ => books.exact
    | .ok (_, input) =>
      { books.exact.book books.price input with state := (books.ledger.next signing op).state }

/-- No field of the ledger differs from the unbounded tally, the credits and the refunds are
within the settlement, and an accepted settlement is the price of the metered units. -/
structure Exact (books : Books) : Prop where
  fields : books.ledger.tally = books.exact
  bounded : books.exact.credits + books.exact.refunds ≤ books.exact.settlement
  settled : books.ledger.state = .reconciled →
    books.exact.settlement = books.price * books.exact.metered

/-- What an input is summed up to, or is the product of, stays within `u64`. -/
def Ranged (books : Books) (input : TransitionInput) : Prop :=
  match input.kind with
  | .usageDerived => books.ledger.usageUnits.toNat + input.units.toNat ≤ u64Max
  | .settlementReconciled => books.price * books.ledger.meteredUnits.toNat ≤ u64Max
  | .creditApplied | .refundReconciled =>
    books.ledger.creditsMicros.toNat + books.ledger.refundsMicros.toNat +
      input.amountMicros.toNat ≤ u64Max
  | _ => True

/-- The input of a call that passes its checks is in range. -/
def InRange (books : Books) (op : Op) : Prop :=
  ∀ preset input, books.ledger.prepare op = .ok (preset, input) → books.Ranged input

/-- What holds of the books in any case: credits and refunds come after the settlement, which is
the price of the metered units. -/
structure Inv (books : Books) : Prop where
  state : books.exact.state = books.ledger.state
  before : books.ledger.state ≠ .reconciled → books.exact.credits = 0 ∧ books.exact.refunds = 0
  settled : books.ledger.state = .reconciled →
    books.exact.settlement = books.price * books.exact.metered

variable {signing : Signing} {books : Books} {preset : CommerceLedger} {input : TransitionInput}

theorem inv_opened (context : CommerceContext) : (opened context).Inv where
  state := rfl
  before _ := ⟨rfl, rfl⟩
  settled := nofun

variable (signing) in
/-- The state after a call, and the price. -/
theorem next_state {op : Op} (h : books.ledger.prepare op = .ok (preset, input)) :
    (books.next signing op).price = books.price ∧
      ((books.ledger.next signing op).state = books.ledger.state ∨
        nextState books.ledger.state input.kind = .ok (books.ledger.next signing op).state) := by
  obtain ⟨hframe, -⟩ := prepare_frame h
  rcases next_of_prepare signing h with ⟨after, hissue, hnext⟩ | ⟨-, hnext⟩
  · simp only [price, next, hnext]
    exact ⟨congrArg _ (congrArg _ hframe.context), .inr hissue.lawful⟩
  · simp only [price, next, hnext]
    exact ⟨congrArg _ (congrArg _ hframe.context), .inl hframe.state⟩

theorem reconciled_of_nextState {before : CommercialState} {kind : ReceiptKind}
    (h : nextState before kind = .ok .reconciled) :
    before = .reconciled ∨ kind = .settlementReconciled := by
  cases kind <;> cases before <;> cases h <;> simp

theorem reconciled_stays {after : CommercialState} {kind : ReceiptKind}
    (h : nextState .reconciled kind = .ok after) : after = .reconciled := by
  cases kind <;> cases h <;> rfl

/-- Only adjustments book credits and refunds. -/
theorem book_adjustments (price : ℕ) (tally : Tally) (hcredit : input.kind ≠ .creditApplied)
    (hrefund : input.kind ≠ .refundReconciled) :
    (tally.book price input).credits = tally.credits ∧
      (tally.book price input).refunds = tally.refunds := by
  unfold Tally.book Tally.post
  cases hkind : input.kind <;> simp_all

/-- Only a settlement and a meter book what the settlement is made from. -/
theorem book_settlement (price : ℕ) (tally : Tally) (hmeter : input.kind ≠ .meterAccepted)
    (hsettlement : input.kind ≠ .settlementReconciled) :
    (tally.book price input).settlement = tally.settlement ∧
      (tally.book price input).metered = tally.metered := by
  unfold Tally.book Tally.post
  cases hkind : input.kind <;> simp_all

/-- A settlement is booked for the price of the metered units. -/
theorem book_settled {price : ℕ} {tally : Tally} (h : input.kind = .settlementReconciled) :
    tally.book price input = { tally with settlement := price * tally.metered } := by
  simp [Tally.book, Tally.post, h]

variable {ledger : CommerceLedger}

/-- The kinds that the checks let through in the state of a ledger. -/
theorem checked_kind (h : ledger.Checked input) :
    (ledger.state ≠ .reconciled →
      input.kind ≠ .creditApplied ∧ input.kind ≠ .refundReconciled) ∧
    (ledger.state = .reconciled →
      input.kind ≠ .meterAccepted ∧ input.kind ≠ .settlementReconciled) := by
  unfold Checked at h
  cases hkind : input.kind <;> simp_all

/-- Every call keeps the invariant of the unbounded books. -/
theorem inv_next (signing : Signing) (books : Books) (op : Op) (h : books.Inv) :
    (books.next signing op).Inv := by
  cases hprepare : books.ledger.prepare op with
  | error error =>
    have hnext : books.next signing op = books := by
      simp only [next, hprepare, next_of_error hprepare]
    rw [hnext]
    exact h
  | ok prepared =>
    obtain ⟨preset, input⟩ := prepared
    obtain ⟨hprice, hstate⟩ := next_state signing hprepare
    obtain ⟨-, hchecked⟩ := prepare_tally hprepare
    obtain ⟨hearly, hlate⟩ := checked_kind hchecked
    have hexact : (books.next signing op).exact = { books.exact.book books.price input with
        state := (books.ledger.next signing op).state } := by
      simp only [next, hprepare]
    refine ⟨by rw [hexact]; rfl, fun hafter => ?_, fun hafter => ?_⟩
    · have hbefore : books.ledger.state ≠ .reconciled := by
        intro hreconciled
        rcases hstate with hsame | hlawful
        · exact hafter (hsame.trans hreconciled)
        · rw [hreconciled] at hlawful
          exact hafter (reconciled_stays hlawful)
      obtain ⟨hcredit, hrefund⟩ := hearly hbefore
      obtain ⟨hcredits, hrefunds⟩ := h.before hbefore
      obtain ⟨hcredits', hrefunds'⟩ := book_adjustments books.price books.exact
        hcredit hrefund
      rw [hexact]
      exact ⟨hcredits'.trans hcredits, hrefunds'.trans hrefunds⟩
    · rw [hexact, hprice]
      by_cases hbefore : books.ledger.state = .reconciled
      · obtain ⟨hmeter, hsettlement⟩ := hlate hbefore
        obtain ⟨hsettled, hmetered⟩ := book_settlement books.price books.exact
          hmeter hsettlement
        show (books.exact.book books.price input).settlement =
          books.price * (books.exact.book books.price input).metered
        rw [hsettled, hmetered]
        exact h.settled hbefore
      · have hkind : input.kind = .settlementReconciled := by
          rcases hstate with hsame | hlawful
          · exact absurd (hsame.symm.trans hafter) hbefore
          · rw [show (books.ledger.next signing op).state = .reconciled from hafter] at hlawful
            exact (reconciled_of_nextState hlawful).resolve_left hbefore
        show (books.exact.book books.price input).settlement =
          books.price * (books.exact.book books.price input).metered
        rw [book_settled hkind]

/-! ## One call -/

/-- What the capped sum of an adjustment says about the sum. -/
theorem adjusted_le_iff (amount : UInt64)
    (hbounded : ledger.creditsMicros.toNat + ledger.refundsMicros.toNat ≤
      ledger.settlementMicros.toNat)
    (hfits : ledger.creditsMicros.toNat + ledger.refundsMicros.toNat + amount.toNat ≤ u64Max) :
    ledger.adjusted amount ≤ ledger.settlementMicros ↔
      ledger.creditsMicros.toNat + ledger.refundsMicros.toNat + amount.toNat ≤
        ledger.settlementMicros.toNat := by
  have hmax := toNat_le_u64Max ledger.settlementMicros
  rw [adjusted, UInt64.le_iff_toNat_le, toNat_saturatingAdd, toNat_saturatingAdd]
  omega

/-- The fields and the unbounded tally book an input alike, within the settlement, exactly when the
input is in range. -/
theorem book_iff (hinv : books.Inv) (h : books.Exact) (hchecked : books.ledger.Checked input) :
    (books.ledger.tally.post Tally.capped input.kind input.units.toNat input.amountMicros.toNat =
        books.exact.book books.price input ∧
      (books.exact.book books.price input).credits + (books.exact.book books.price input).refunds ≤
        (books.exact.book books.price input).settlement) ↔ books.Ranged input := by
  have htally := h.bounded
  rw [← h.fields] at htally
  have hbounded : books.ledger.creditsMicros.toNat + books.ledger.refundsMicros.toNat ≤
      books.ledger.settlementMicros.toNat := htally
  rw [← h.fields]
  unfold Checked at hchecked
  unfold Ranged
  cases hkind : input.kind with
  | usageDerived =>
    simp only [Tally.book, Tally.post, hkind, Tally.mk.injEq, true_and, and_true, id, tally,
      Tally.capped_eq_self_iff, reduceCtorEq, if_false]
    exact and_iff_left hbounded
  | meterAccepted =>
    simp only [hkind] at hchecked
    refine iff_of_true ⟨?_, ?_⟩ trivial
    · simp only [Tally.book, Tally.post, hkind, hchecked.2, tally, if_true]
    · simpa [Tally.book, Tally.post, hkind] using htally
  | settlementReconciled =>
    simp only [hkind] at hchecked
    have hbefore := hinv.before (by rw [hchecked.1]; decide)
    rw [← h.fields] at hbefore
    have hamount : input.amountMicros.toNat =
        min (books.price * books.ledger.meteredUnits.toNat) u64Max := by
      rw [hchecked.2, toNat_saturatingMul]
      rfl
    rw [book_settled hkind]
    have hmetered : books.ledger.tally.metered = books.ledger.meteredUnits.toNat := rfl
    simp only [Tally.post, Tally.mk.injEq, true_and, and_true, hamount, hbefore.1, hbefore.2,
      hmetered]
    omega
  | creditApplied =>
    simp only [hkind] at hchecked
    have hadjusted := adjusted_le_iff input.amountMicros hbounded
    simp only [Tally.book, Tally.post, hkind, Tally.mk.injEq, true_and, and_true, id, tally,
      Tally.capped_eq_self_iff, reduceCtorEq, if_false]
    have hmax := toNat_le_u64Max books.ledger.settlementMicros
    constructor
    · rintro ⟨-, hsum⟩
      omega
    · intro hfits
      have hsum := (hadjusted hfits).mp hchecked.2
      omega
  | refundReconciled =>
    simp only [hkind] at hchecked
    have hadjusted := adjusted_le_iff input.amountMicros hbounded
    simp only [Tally.book, Tally.post, hkind, Tally.mk.injEq, true_and, id, tally,
      Tally.capped_eq_self_iff, reduceCtorEq, if_false]
    have hmax := toNat_le_u64Max books.ledger.settlementMicros
    constructor
    · rintro ⟨-, hsum⟩
      omega
    · intro hfits
      have hsum := (hadjusted hfits).mp hchecked.2
      omega
  | _ =>
    refine iff_of_true ⟨?_, ?_⟩ trivial
    · simp [Tally.book, Tally.post, hkind]
    · simpa [Tally.book, Tally.post, hkind] using htally

/-- A call keeps the ledger exact exactly when its input is in range. -/
theorem exact_next (signing : Signing) (books : Books) (op : Op) (hinv : books.Inv)
    (h : books.Exact) : (books.next signing op).Exact ↔ books.InRange op := by
  cases hprepare : books.ledger.prepare op with
  | error error =>
    have hnext : books.next signing op = books := by
      simp only [next, hprepare, next_of_error hprepare]
    rw [hnext]
    refine iff_of_true h fun preset input hok => ?_
    rw [hprepare] at hok
    cases hok
  | ok prepared =>
    obtain ⟨preset, input⟩ := prepared
    obtain ⟨htally, hchecked⟩ := prepare_tally hprepare
    have hexact : (books.next signing op).exact = { books.exact.book books.price input with
        state := (books.ledger.next signing op).state } := by
      simp only [next, hprepare]
    have hfields : (books.ledger.next signing op).tally = { preset.tally with
        state := (books.ledger.next signing op).state } := by
      rcases next_of_prepare signing hprepare with ⟨after, -, hnext⟩ | ⟨-, hnext⟩
      · rw [hnext]
        rfl
      · rw [hnext]
        rfl
    have hrange : books.InRange op ↔ books.Ranged input := forall_eq_ok_iff hprepare
    have hbook := book_iff hinv h hchecked
    rw [← htally] at hbook
    have hstates : preset.tally.state = (books.exact.book books.price input).state := by
      rw [htally, Tally.post_state, Tally.book, Tally.post_state]
      exact hinv.state.symm
    rw [hrange, ← hbook]
    constructor
    · intro hnext
      have hsame := hnext.fields
      rw [show (books.next signing op).ledger.tally = _ from hfields, hexact,
        Tally.with_state_inj _ hstates] at hsame
      have hbounded := hnext.bounded
      rw [hexact] at hbounded
      exact ⟨hsame, hbounded⟩
    · rintro ⟨hsame, hbounded⟩
      refine ⟨?_, ?_, (inv_next signing books op hinv).settled⟩
      · rw [show (books.next signing op).ledger.tally = _ from hfields, hexact, hsame]
      · rw [hexact]
        exact hbounded

theorem exact_opened (context : CommerceContext) : (opened context).Exact where
  fields := rfl
  bounded := Nat.le_refl 0
  settled := nofun

/-- A ledger is exact in every state of a run (its fields are the unbounded sums and products, its
credits and refunds are within the settlement, and an accepted settlement is the price of the
metered units) exactly when the input of every call of the run is in range. -/
theorem exact_iff_inRange (signing : Signing) (context : CommerceContext) (ops : List Op) :
    Always (next signing) Exact (opened context) ops ↔
      Along (next signing) InRange (opened context) ops :=
  always_iff_along (inv_next signing) (exact_next signing) (inv_opened context)
    (exact_opened context)

/-- The settlement of an exact ledger. -/
theorem Exact.settlementMicros (h : books.Exact) (hstate : books.ledger.state = .reconciled) :
    books.ledger.settlementMicros.toNat = books.price * books.ledger.meteredUnits.toNat := by
  have hsettled := h.settled hstate
  rw [← h.fields] at hsettled
  exact hsettled

/-! ## A settlement beyond `u64` -/

/-- The ledger of the books runs as a ledger does. -/
theorem run_ledger (books : Books) (ops : List Op) :
    (run (next signing) books ops).ledger =
      run (CommerceLedger.next signing) books.ledger ops := by
  induction ops generalizing books with
  | nil => rfl
  | cons op ops ih => rw [run_cons, run_cons, ih, next]

/-- The fixtures' run with `u64::MAX` units at the price of 10000. -/
def hugeUsage : List Op := fixtureRun 18446744073709551615 18446744073709551615

theorem hugeUsage_outline :
    let fields := (run Outline.next (CommerceLedger.opened (fixtureContext .aws)).outline
      hugeUsage).fields
    fields.state = .reconciled ∧ fields.settlementMicros = 18446744073709551615 ∧
      fields.meteredUnits = 18446744073709551615 ∧ fields.context.unitPriceMicros = 10000 := by
  decide +kernel

/-- What the outline of a ledger says about its settlement. -/
theorem settlement_of_outline {outline : Outline} (h : ledger.outline = outline) :
    ledger.state = outline.fields.state ∧
      ledger.settlementMicros = outline.fields.settlementMicros ∧
      ledger.meteredUnits = outline.fields.meteredUnits ∧
      ledger.context = outline.fields.context := by
  rw [← h]
  exact ⟨rfl, rfl, rfl, rfl⟩

/-- The settlement is accepted at `u64::MAX`, which is less than the price of the metered units. -/
theorem settlement_saturated :
    (run (next sampleSigning) (opened (fixtureContext .aws)) hugeUsage).ledger.state = .reconciled ∧
      (run (next sampleSigning) (opened (fixtureContext .aws))
        hugeUsage).ledger.settlementMicros.toNat <
        (run (next sampleSigning) (opened (fixtureContext .aws)) hugeUsage).price *
          (run (next sampleSigning) (opened (fixtureContext .aws))
            hugeUsage).ledger.meteredUnits.toNat ∧
      ¬ Always (next sampleSigning) Exact (opened (fixtureContext .aws)) hugeUsage := by
  obtain ⟨hstate, hsettlement, hmetered, hcontext⟩ := settlement_of_outline
    (outline_run sampleSigning (CommerceLedger.opened (fixtureContext .aws)) hugeUsage)
  obtain ⟨hstate', hsettlement', hmetered', hprice'⟩ := hugeUsage_outline
  rw [hstate'] at hstate
  rw [hsettlement'] at hsettlement
  rw [hmetered'] at hmetered
  have hledger : (run (next sampleSigning) (opened (fixtureContext .aws)) hugeUsage).ledger =
      run (CommerceLedger.next sampleSigning) (.opened (fixtureContext .aws)) hugeUsage :=
    run_ledger _ _
  have hshort : (run (next sampleSigning) (opened (fixtureContext .aws))
      hugeUsage).ledger.settlementMicros.toNat <
      (run (next sampleSigning) (opened (fixtureContext .aws)) hugeUsage).price *
        (run (next sampleSigning) (opened (fixtureContext .aws))
          hugeUsage).ledger.meteredUnits.toNat := by
    rw [price, hledger, hsettlement, hmetered, hcontext, hprice']
    decide
  rw [← hledger] at hstate
  refine ⟨hstate, hshort, fun halways => ?_⟩
  have hlast := always_iff.mp halways hugeUsage [] (List.append_nil _).symm
  exact absurd (hlast.settlementMicros hstate) (Nat.ne_of_lt hshort)

end Books

end ChatmanEcosystem.Commerce
