import ChatmanEcosystem.Console.OverageSystem

/-!
# How often a window is charged

Any interleaving of any number of ticks and charges of one namespace. The marker
is read before the estimate, compared after it, and written after the call of
Stripe, and nothing keeps other calls from reading or writing the record in
between; a charge whose write fails leaves no marker.

Results:

* `inv_next`: what a step preserves when it is `Undisturbed`.
* `chargedOnce_of_undisturbed`: in every run whose steps are all undisturbed, any two invoice
  items are of windows that do not overlap.
-/

namespace ChatmanEcosystem.Console.Overage

open Common

/-! ## The property and the condition -/

/-- The windows of any two items are at least a window's width apart. -/
def ChargedOnce (items : List InvoiceItem) : Prop :=
  items.Pairwise fun a b => windowMs ≤ |a.periodStart - b.periodStart|

instance (items : List InvoiceItem) : Decidable (ChargedOnce items) := by
  unfold ChargedOnce; infer_instance

/-- The invoice item that a record names. -/
def marker (stored : Option StoredOverage) : Option InvoiceItemId :=
  stored.bind (·.lastInvoiceItemId)

namespace System

/-- A charge that has read `stored` decides to charge while the store has the marker that it
read, and no other charge is between this decision and its write. -/
def ChargesAlone (system : System) (i : ℕ) (storedResult : K8sResult (Option StoredOverage))
    (metering : Metering) : Prop :=
  match estimateNamespaceOverage metering storedResult with
  | .error _ => True
  | .ok estimate =>
    match billDecision estimate system.clock with
    | .alreadyBilled _ _ | .noOverage _ => True
    | .charge =>
      marker estimate.stored = marker system.billing.record ∧
        ∀ j < system.calls.length, j ≠ i → ∀ other ∈ system.calls[j]?, other.inFlight = false

instance (system : System) (i : ℕ) (storedResult : K8sResult (Option StoredOverage))
    (metering : Metering) : Decidable (system.ChargesAlone i storedResult metering) := by
  unfold ChargesAlone; split
  · infer_instance
  · split <;> infer_instance

/-- A write does not fail if it is of a charge, and otherwise, if it succeeds, finds the marker
that the call has read. -/
def WritesCurrent (system : System) (pending : Write) (result : K8sResult Unit) : Prop :=
  match pending with
  | .charged _ => result.isOk
  | .refresh _ estimate _ =>
    result.isOk → marker estimate.stored = marker system.billing.record

instance (system : System) (pending : Write) (result : K8sResult Unit) :
    Decidable (system.WritesCurrent pending result) := by
  unfold WritesCurrent; split <;> infer_instance

/-- No other call comes between what a call reads and what it does with it. -/
def Undisturbed (system : System) : Event → Prop
  | .answer i (.metering metering) =>
    match system.calls[i]? with
    | some (.metering (.bill _) storedResult) => system.ChargesAlone i storedResult metering
    | _ => True
  | .answer i (.write result) =>
    match system.calls[i]? with
    | some (.write pending) => system.WritesCurrent pending result
    | _ => True
  | _ => True

instance (system : System) (event : Event) : Decidable (system.Undisturbed event) := by
  unfold Undisturbed; split
  · split <;> infer_instance
  · split <;> infer_instance
  · infer_instance

end System

/-! ## The invariant -/

/-- The record is of a window that has ended, and names an item of no later window. -/
def Dated (clock : ℤ) (items : List InvoiceItem) (record : StoredOverage) : Prop :=
  record.periodStart ≤ currentPeriodStart clock ∧
    ∀ id, record.lastInvoiceItemId = some id →
      ∃ item ∈ items, item.id = id ∧ item.periodStart ≤ record.periodStart

/-- What a call holds at its await point. -/
def Phase.Sound (clock : ℤ) (items : List InvoiceItem) : Phase → Prop
  | .metering _ storedResult => ∀ record, storedResult = .ok (some record) →
    Dated clock items record
  | .item _ _ periodStart =>
    periodStart ≤ currentPeriodStart clock ∧
      ∀ item ∈ items, item.periodStart + windowMs ≤ periodStart
  | .write (.refresh _ estimate record) =>
    Dated clock items record ∧
      (∀ seen, estimate.stored = some seen →
        Dated clock items seen ∧ seen.periodStart ≤ record.periodStart) ∧
      record.lastInvoiceItemId = priorSamePeriod estimate.stored record.periodStart
  | .write (.charged record) =>
    Dated clock items record ∧
      ∃ newest rest, items = newest :: rest ∧ record.lastInvoiceItemId = some newest.id
  | .subscription | .stored _ | .returned _ => True

/-- The newest item is named by the store or by a charge that is about to write, or its window
has ended before the present one. -/
def System.Covered (system : System) : Prop :=
  ∀ newest rest, system.billing.items = newest :: rest →
    (∃ (i : ℕ) (record : StoredOverage), system.calls[i]? = some (.write (.charged record))) ∨
    marker system.billing.record = some newest.id ∨
    newest.periodStart + windowMs ≤ currentPeriodStart system.clock

/-- What holds in every state of an undisturbed run. -/
structure System.Inv (system : System) : Prop where
  spaced : system.billing.items.Pairwise fun later earlier =>
    earlier.periodStart + windowMs ≤ later.periodStart
  distinct : (system.billing.items.map (·.id)).Nodup
  stored : ∀ record, system.billing.record = some record →
    Dated system.clock system.billing.items record
  sound : ∀ (i : ℕ) phase, system.calls[i]? = some phase →
    phase.Sound system.clock system.billing.items
  single : ∀ (i j : ℕ) a b, i ≠ j → system.calls[i]? = some a → system.calls[j]? = some b →
    ¬ (a.inFlight = true ∧ b.inFlight = true)
  covered : system.Covered

variable {clock clock' : ℤ} {items : List InvoiceItem}

theorem Dated.mono {items' : List InvoiceItem} {record : StoredOverage}
    (h : Dated clock items record) (hclock : clock ≤ clock')
    (hitems : ∀ item ∈ items, item ∈ items') : Dated clock' items' record := by
  obtain ⟨hperiod, hmarker⟩ := h
  constructor
  · unfold currentPeriodStart at hperiod ⊢
    omega
  · intro id hid
    obtain ⟨item, hmem, hitem⟩ := hmarker id hid
    exact ⟨item, hitems item hmem, hitem⟩

theorem Phase.Sound.elapse {phase : Phase} (h : phase.Sound clock items) (hclock : clock ≤ clock') :
    phase.Sound clock' items := by
  have hdated : ∀ record, Dated clock items record → Dated clock' items record :=
    fun record h => h.mono hclock fun _ hmem => hmem
  unfold Phase.Sound at h ⊢
  split at h
  · exact fun record hrecord => hdated record (h record hrecord)
  · refine ⟨h.1.trans ?_, h.2⟩
    unfold currentPeriodStart
    omega
  · exact ⟨hdated _ h.1, fun seen hseen => (h.2.1 seen hseen).imp_left (hdated seen), h.2.2⟩
  · exact ⟨hdated _ h.1, h.2⟩
  all_goals trivial

/-- A new item concerns only the calls in flight. -/
theorem Phase.Sound.cons {phase : Phase} (h : phase.Sound clock items)
    (hflight : phase.inFlight = false) (item : InvoiceItem) :
    phase.Sound clock (item :: items) := by
  have hdated : ∀ record, Dated clock items record → Dated clock (item :: items) record :=
    fun record h => h.mono le_rfl fun _ => List.mem_cons_of_mem item
  unfold Phase.Sound at h ⊢
  split at h
  · exact fun record hrecord => hdated record (h record hrecord)
  · cases hflight
  · exact ⟨hdated _ h.1, fun seen hseen => (h.2.1 seen hseen).imp_left (hdated seen), h.2.2⟩
  · cases hflight
  all_goals trivial

namespace System

variable {tenant : String} {system : System} {i : ℕ} {phase : Phase}

theorem inv_init (clock : ℤ) : (init clock).Inv where
  spaced := .nil
  distinct := .nil
  stored := fun _ hrecord => by cases hrecord
  sound := fun _ _ hcall => by cases hcall
  single := fun _ _ _ _ _ hcall => by cases hcall
  covered := fun _ _ hitems => by cases hitems

variable {newest : InvoiceItem} {rest : List InvoiceItem} {start : ℤ}

/-- The newest item has the latest window. -/
theorem Inv.spaced_newest (h : system.Inv) (hitems : system.billing.items = newest :: rest)
    (hstart : newest.periodStart + windowMs ≤ start) :
    ∀ item ∈ system.billing.items, item.periodStart + windowMs ≤ start := by
  have hspaced := h.spaced
  rw [hitems] at hspaced ⊢
  intro item hmem
  rcases List.mem_cons.mp hmem with rfl | hrest
  · exact hstart
  · have hearlier := (List.pairwise_cons.mp hspaced).1 item hrest
    have hwidth : 0 ≤ windowMs := by decide
    omega

variable {record : StoredOverage}

/-- A record that names the newest item is of a window no earlier than that item's. -/
theorem Inv.newest_le (h : system.Inv) (hitems : system.billing.items = newest :: rest)
    (hdated : Dated system.clock system.billing.items record)
    (hmarker : record.lastInvoiceItemId = some newest.id) :
    newest.periodStart ≤ record.periodStart := by
  obtain ⟨item, hmem, hid, hle⟩ := hdated.2 newest.id hmarker
  have hnewest : newest ∈ system.billing.items := by
    rw [hitems]
    exact List.mem_cons_self
  have heq : item = newest := List.inj_on_of_nodup_map h.distinct hmem hnewest hid
  rwa [heq] at hle

/-- A record that is read with the marker of the newest item, and does not count as billed for
a window that has ended, is of a window that ended before it. -/
theorem Inv.lapsed (h : system.Inv) (hitems : system.billing.items = newest :: rest)
    {stored : Option StoredOverage}
    (hdated : ∀ record, stored = some record → Dated system.clock system.billing.items record)
    (hmarker : marker stored = some newest.id) (hprior : priorSamePeriod stored start = none)
    (hstart : ∀ record, stored = some record → record.periodStart ≤ start) :
    newest.periodStart + windowMs ≤ start := by
  obtain ⟨record, rfl, hid⟩ := Option.bind_eq_some_iff.mp hmarker
  have hfar := priorSamePeriod_eq_none.mp hprior record rfl (by rw [hid]; exact nofun)
  have hle := hstart record rfl
  have hnewest := h.newest_le hitems (hdated record rfl) hid
  rw [abs_of_nonpos (by omega)] at hfar
  omega

/-- A call goes on without touching the store or Stripe. -/
theorem Inv.goesOn (h : system.Inv) (hcall : system.calls[i]? = some phase)
    (hwrite : ∀ record, phase ≠ .write (.charged record)) {after : Phase}
    (hsound : after.Sound system.clock system.billing.items)
    (hsingle : after.inFlight = true → ∀ (j : ℕ) other, j ≠ i → system.calls[j]? = some other →
      other.inFlight = false) :
    ({ system with calls := system.calls.set i after } : System).Inv where
  spaced := h.spaced
  distinct := h.distinct
  stored := h.stored
  sound := forall_set hsound fun j other _ hother => h.sound j other hother
  single := by
    refine pairwise_set (fun a b hab hba => hab ⟨hba.2, hba.1⟩) h.single ?_
    rintro j other hj hother ⟨hafter, hflight⟩
    rw [hsingle hafter j other hj hother] at hflight
    cases hflight
  covered := by
    intro newest rest hitems
    rcases h.covered newest rest hitems with ⟨j, record, hj⟩ | hcovered
    · have hji : i ≠ j := by
        rintro rfl
        rw [hcall] at hj
        exact hwrite record (Option.some.inj hj)
      exact .inl ⟨j, record, by rw [List.getElem?_set_ne hji, hj]⟩
    · exact .inr hcovered

theorem inv_elapse (h : system.Inv) (ms : ℕ) :
    ({ system with clock := system.clock + ms } : System).Inv where
  spaced := h.spaced
  distinct := h.distinct
  stored := fun record hrecord =>
    (h.stored record hrecord).mono
      (Int.le_add_of_nonneg_right (Int.natCast_nonneg ms)) fun _ hmem => hmem
  sound := fun j other hother =>
    (h.sound j other hother).elapse (Int.le_add_of_nonneg_right (Int.natCast_nonneg ms))
  single := h.single
  covered := by
    intro newest rest hitems
    refine (h.covered newest rest hitems).imp_right (Or.imp_right fun hle => hle.trans ?_)
    show system.clock - windowMs ≤ system.clock + ms - windowMs
    omega

theorem inv_arrives (h : system.Inv) (hflight : phase.inFlight = false)
    (hsound : phase.Sound system.clock system.billing.items) :
    ({ system with calls := system.calls ++ [phase] } : System).Inv where
  spaced := h.spaced
  distinct := h.distinct
  stored := h.stored
  sound := forall_concat hsound h.sound
  single := by
    refine pairwise_concat (fun a b hab hba => hab ⟨hba.2, hba.1⟩) h.single ?_
    rintro j other - ⟨hphase, -⟩
    rw [hflight] at hphase
    cases hphase
  covered := by
    intro newest rest hitems
    refine (h.covered newest rest hitems).imp_left ?_
    rintro ⟨j, record, hj⟩
    have hlt : j < system.calls.length := (List.getElem?_eq_some_iff.mp hj).1
    exact ⟨j, record, by rw [List.getElem?_append_left hlt, hj]⟩

variable {caller : Caller} {estimate : NamespaceOverageEstimate}

/-- The write that an estimate leads to is sound. -/
theorem sound_refresh {clock : ℤ} {items : List InvoiceItem}
    (hseen : ∀ seen, estimate.stored = some seen → Dated clock items seen)
    (h : Refreshes clock estimate record) :
    (Phase.write (.refresh caller estimate record)).Sound clock items := by
  obtain ⟨hperiod, hmarker⟩ := h
  refine ⟨⟨hperiod.le, fun id hid => ?_⟩, fun seen hstored => ⟨hseen seen hstored, ?_⟩,
    by rw [hmarker, hperiod]⟩
  rotate_left
  · rw [hperiod]
    exact (hseen seen hstored).1
  rw [hmarker] at hid
  obtain ⟨seen, hstored, hitem, -⟩ := priorSamePeriod_eq_some.mp hid
  obtain ⟨hstart, hnamed⟩ := hseen seen hstored
  obtain ⟨item, hmem, hid', hle⟩ := hnamed id hitem
  refine ⟨item, hmem, hid', ?_⟩
  rw [hperiod]
  exact hle.trans hstart

/-- A call that has read the stored record. -/
theorem Inv.sound_metering (h : system.Inv) (caller : Caller) (read : K8sResult Unit) :
    (Phase.metering caller (getStoredOverage system.billing read)).Sound system.clock
      system.billing.items := by
  intro record hrecord
  exact h.stored record (getStoredOverage_eq_ok.mp hrecord).2.symm

/-- A charge that is undisturbed charges a window that begins after every charged one. -/
theorem Inv.sound_item (h : system.Inv) (active : ActiveSubscription)
    (hseen : ∀ seen, estimate.stored = some seen → Dated system.clock system.billing.items seen)
    (hprior : priorSamePeriod estimate.stored (currentPeriodStart system.clock) = none)
    (hmarker : marker estimate.stored = marker system.billing.record)
    (hothers : ∀ (j : ℕ) other, system.calls[j]? = some other → other.inFlight = false) :
    (Phase.item active estimate (currentPeriodStart system.clock)).Sound system.clock
      system.billing.items := by
  refine ⟨le_rfl, ?_⟩
  cases hitems : system.billing.items with
  | nil => exact fun item hmem => absurd hmem List.not_mem_nil
  | cons newest rest =>
    rw [← hitems]
    refine h.spaced_newest hitems ?_
    rcases h.covered newest rest hitems with ⟨j, record, hj⟩ | hstored | hended
    · have hflight := hothers j _ hj
      cases hflight
    · exact h.lapsed hitems hseen (hmarker.trans hstored) hprior fun seen hstored =>
        (hseen seen hstored).1
    · exact hended

/-- Stripe creates the item of a charge. -/
theorem inv_created (h : system.Inv) {active : ActiveSubscription} {periodStart : ℤ}
    {id : InvoiceItemId} (hcall : system.calls[i]? = some (.item active estimate periodStart))
    (hfresh : id ∉ system.billing.items.map (·.id)) :
    ({ system with
      billing := { system.billing with
        items := newInvoiceItem active estimate periodStart id :: system.billing.items }
      calls := system.calls.set i
        (.write (.charged (chargedRecord estimate periodStart id system.clock))) } :
          System).Inv := by
  obtain ⟨hstart, hspaced⟩ := h.sound i _ hcall
  have hlt : i < system.calls.length := (List.getElem?_eq_some_iff.mp hcall).1
  refine ⟨?_, ?_, ?_, ?_, ?_, ?_⟩
  · exact List.pairwise_cons.mpr ⟨hspaced, h.spaced⟩
  · exact List.nodup_cons.mpr ⟨hfresh, h.distinct⟩
  · intro record hrecord
    exact (h.stored record hrecord).mono le_rfl fun _ => List.mem_cons_of_mem _
  · refine forall_set ⟨⟨hstart, ?_⟩, _, _, rfl, rfl⟩ fun j other hj hother => ?_
    · intro id' hid
      obtain rfl := Option.some.inj hid
      exact ⟨_, List.mem_cons_self, rfl, le_rfl⟩
    · -- no other call is in flight
      refine (h.sound j other hother).cons ?_ _
      by_contra hflight
      exact h.single i j _ other (Ne.symm hj) hcall hother ⟨rfl, by simpa using hflight⟩
  · refine pairwise_set (fun a b hab hba => hab ⟨hba.2, hba.1⟩) h.single ?_
    rintro j other hj hother ⟨-, hflight⟩
    exact h.single i j _ other (Ne.symm hj) hcall hother ⟨rfl, hflight⟩
  · intro newest rest hitems
    exact .inl ⟨i, _, List.getElem?_set_self hlt⟩

/-- A call stores its record. -/
theorem Inv.writes (h : system.Inv) {pending : Write}
    (hcall : system.calls[i]? = some (.write pending)) (outcome : Outcome)
    (hcovered : ∀ newest rest, system.billing.items = newest :: rest →
      (∃ (j : ℕ) (record : StoredOverage), j ≠ i ∧
        system.calls[j]? = some (.write (.charged record))) ∨
      pending.record.lastInvoiceItemId = some newest.id ∨
      newest.periodStart + windowMs ≤ currentPeriodStart system.clock) :
    ({ system with
      billing := { system.billing with record := some pending.record }
      calls := system.calls.set i (.returned outcome) } : System).Inv where
  spaced := h.spaced
  distinct := h.distinct
  stored := by
    intro record hrecord
    obtain rfl := Option.some.inj hrecord
    have hsound := h.sound i _ hcall
    cases pending with
    | refresh caller estimate record => exact hsound.1
    | charged record => exact hsound.1
  sound := forall_set trivial fun j other _ hother => h.sound j other hother
  single := by
    refine pairwise_set (fun a b hab hba => hab ⟨hba.2, hba.1⟩) h.single ?_
    rintro j other - - ⟨hflight, -⟩
    cases hflight
  covered := by
    intro newest rest hitems
    refine (hcovered newest rest hitems).imp_left ?_
    rintro ⟨j, record, hj, hother⟩
    exact ⟨j, record, by rw [List.getElem?_set_ne (Ne.symm hj), hother]⟩

/-- A tick, or a charge without overage, writes while the marker it has read is still stored. -/
theorem inv_refreshed (h : system.Inv) (hcall : system.calls[i]? =
    some (.write (.refresh caller estimate record))) (outcome : Outcome)
    (hmarker : marker estimate.stored = marker system.billing.record) :
    ({ system with
      billing := { system.billing with record := some record }
      calls := system.calls.set i (.returned outcome) } : System).Inv := by
  obtain ⟨hdated, hseen, hrefreshed⟩ := h.sound i _ hcall
  refine h.writes hcall outcome fun newest rest hitems => ?_
  rcases h.covered newest rest hitems with ⟨j, charged, hj⟩ | hstored | hended
  · refine .inl ⟨j, charged, ?_, hj⟩
    rintro rfl
    rw [hcall] at hj
    cases hj
  · show _ ∨ record.lastInvoiceItemId = some newest.id ∨ _
    rw [hrefreshed]
    cases hprior : priorSamePeriod estimate.stored record.periodStart with
    | some id =>
      -- the marker is carried over
      obtain ⟨seen, hsome, hid, -⟩ := priorSamePeriod_eq_some.mp hprior
      rw [← hmarker, hsome] at hstored
      exact .inr (.inl (hid.symm.trans hstored))
    | none =>
      -- the marker is dropped, so the present window begins after that of its item
      refine .inr (.inr ((h.lapsed hitems (fun seen hsome => (hseen seen hsome).1)
        (hmarker.trans hstored) hprior fun seen hsome => (hseen seen hsome).2).trans hdated.1))
  · exact .inr (.inr hended)

/-- A charge writes the marker of its item. -/
theorem inv_charged (h : system.Inv) (hcall : system.calls[i]? = some (.write (.charged record)))
    (outcome : Outcome) :
    ({ system with
      billing := { system.billing with record := some record }
      calls := system.calls.set i (.returned outcome) } : System).Inv := by
  obtain ⟨-, newest, rest, hitems, hmarker⟩ := h.sound i _ hcall
  refine h.writes hcall outcome fun newest' rest' hitems' => .inr (.inl ?_)
  obtain ⟨rfl, -⟩ := List.cons.inj (hitems.symm.trans hitems')
  exact hmarker

/-- An estimate is made, and its call writes or charges. -/
theorem inv_estimated (h : system.Inv) {storedResult : K8sResult (Option StoredOverage)}
    {measured : Metering} {after : Phase × Billing}
    (hcall : system.calls[i]? = some (.metering caller storedResult))
    (hestimate : estimateNamespaceOverage measured storedResult = .ok estimate)
    (hgoes : (∃ record, Refreshes system.clock estimate record ∧
        after = (.write (.refresh caller estimate record), system.billing)) ∨
      ∃ active, caller = .bill active ∧ billDecision estimate system.clock = .charge ∧
        after = (.item active estimate (currentPeriodStart system.clock), system.billing))
    (hundisturbed : system.Undisturbed (.answer i (.metering measured))) :
    ({ system with billing := after.2, calls := system.calls.set i after.1 } : System).Inv := by
  have hseen : ∀ seen, estimate.stored = some seen →
      Dated system.clock system.billing.items seen := by
    intro seen hsome
    refine h.sound i _ hcall seen ?_
    rw [(estimate_ok hestimate).1, hsome]
  rcases hgoes with ⟨record, hrefreshes, rfl⟩ | ⟨active, rfl, hdecision, rfl⟩
  · exact h.goesOn hcall nofun (sound_refresh hseen hrefreshes) nofun
  · simp only [Undisturbed, hcall, ChargesAlone, hestimate, hdecision] at hundisturbed
    obtain ⟨hmarker, halone⟩ := hundisturbed
    have hothers : ∀ (j : ℕ) other, j ≠ i → system.calls[j]? = some other →
        other.inFlight = false := fun j other hj hother =>
      halone j (List.getElem?_eq_some_iff.mp hother).1 hj other hother
    have hprior : priorSamePeriod estimate.stored (currentPeriodStart system.clock) = none := by
      rcases billDecision_cases estimate system.clock with ⟨existing, id, hdecision', -⟩ |
        ⟨hprior, -⟩ | ⟨hprior, -⟩
      · rw [hdecision] at hdecision'
        cases hdecision'
      · exact hprior
      · exact hprior
    refine h.goesOn hcall nofun (h.sound_item active hseen hprior hmarker ?_) fun _ => hothers
    intro j other hother
    by_cases hj : j = i
    · subst hj
      rw [hcall] at hother
      obtain rfl := Option.some.inj hother
      rfl
    · exact hothers j other hj hother

/-- The write of a call ends. -/
theorem inv_written (h : system.Inv) {pending : Write} {result : K8sResult Unit}
    (hcall : system.calls[i]? = some (.write pending))
    (hundisturbed : system.Undisturbed (.answer i (.write result))) :
    ({ system with
      billing :=
        if result.isOk then { system.billing with record := some pending.record }
          else system.billing
      calls := system.calls.set i (.returned (pending.outcome result)) } : System).Inv := by
  simp only [Undisturbed, hcall, WritesCurrent] at hundisturbed
  cases pending with
  | charged record =>
    rw [if_pos hundisturbed]
    exact inv_charged h hcall _
  | refresh caller estimate record =>
    by_cases hok : result.isOk = true
    · rw [if_pos hok]
      exact inv_refreshed h hcall _ (hundisturbed hok)
    · rw [if_neg hok]
      exact h.goesOn hcall nofun trivial nofun

/-- An undisturbed step preserves the invariant. -/
theorem inv_next (event : Event) (h : system.Inv) (hundisturbed : system.Undisturbed event) :
    (system.next tenant event).Inv := by
  rcases next_cases tenant system event with hnext | ⟨ms, hnext⟩ |
    ⟨phase, hflight, hmetering, hwrite, hnext⟩ | ⟨i, answer, phase, after, rfl, hcall, hstep, hnext⟩
  · rw [hnext]
    exact h
  · rw [hnext]
    exact inv_elapse h ms
  · rw [hnext]
    refine inv_arrives h hflight ?_
    cases phase with
    | metering caller result => exact absurd rfl (hmetering caller result)
    | write pending => exact absurd rfl (hwrite pending)
    | item active estimate periodStart => cases hflight
    | subscription | stored _ | returned _ => trivial
  · rw [hnext]
    rcases Phase.step_cases hstep with ⟨hwrite, ⟨outcome, rfl⟩ | ⟨caller, rfl⟩⟩ |
      ⟨caller, read, rfl, rfl⟩ |
      ⟨caller, storedResult, measured, estimate, rfl, rfl, hestimate, hgoes⟩ |
      ⟨active, estimate, periodStart, id, rfl, hfresh, rfl⟩ | ⟨pending, result, rfl, rfl, rfl⟩
    · exact h.goesOn hcall (fun record => hwrite _) trivial nofun
    · exact h.goesOn hcall (fun record => hwrite _) trivial nofun
    · exact h.goesOn hcall nofun (h.sound_metering caller read) nofun
    · exact inv_estimated h hcall hestimate hgoes hundisturbed
    · exact inv_created h hcall hfresh
    · exact inv_written h hcall hundisturbed

/-! ## Runs -/

/-- In every run whose steps are all undisturbed, any two invoice items are of windows that are
at least a window's width apart. -/
theorem chargedOnce_of_undisturbed (tenant : String) (clock : ℤ) (events : List Event)
    (h : Along (next tenant) Undisturbed (init clock) events) :
    Always (next tenant) (fun system => ChargedOnce system.billing.items) (init clock) events := by
  have hinv : Always (next tenant) Inv (init clock) events :=
    always_of_along (fun system event hinv hundisturbed => inv_next event hinv hundisturbed)
      (inv_init clock) h
  refine hinv.mono fun system hinv => hinv.spaced.imp fun {later earlier} hle => ?_
  exact (show windowMs ≤ later.periodStart - earlier.periodStart by omega).trans (le_abs_self _)

/-- The answers of a charge up to the call of Stripe. -/
def readsBusy (i : ℕ) : List Event :=
  [.answer i (.subscription
      (.ok (some { stripeCustomerId := "cus_1", stripeSubscriptionId := some "sub_1" }))),
    .answer i (.stored (.ok ())), .answer i (.metering busyMetering)]

/-- The answers of Stripe and of the store. -/
def chargesBusy (i : ℕ) (id : InvoiceItemId) (write : K8sResult Unit) : List Event :=
  [.answer i (.item (.ok id)), .answer i (.write write)]

/-- A tick up to its write. -/
def ticksBusy (i : ℕ) : List Event :=
  [.recompute, .answer i (.stored (.ok ())), .answer i (.metering busyMetering)]

/-- Charges thirty hours apart, with a tick that has ended before the second begins. -/
theorem chargedOnce_sequential :
    let first : InvoiceItemId := ⟨"ii_1", by decide⟩
    let second : InvoiceItemId := ⟨"ii_2", by decide⟩
    let events := [.bill true] ++ readsBusy 0 ++ chargesBusy 0 first (.ok ()) ++
      [.elapse (24 * 3600000)] ++ ticksBusy 1 ++ [.answer 1 (.write (.ok ()))] ++
      [.elapse (6 * 3600000), .bill true] ++ readsBusy 2 ++ chargesBusy 2 second (.ok ())
    ((run (next "gymact") (init 0) events).billing.items.map (·.id)) = [second, first] ∧
    Always (next "gymact") (fun system => ChargedOnce system.billing.items) (init 0) events := by
  intro first second events
  exact ⟨by decide +kernel, chargedOnce_of_undisturbed "gymact" 0 events (by decide +kernel)⟩

/-- A window is charged twice by two calls that overlap, after a write that fails, and after
a tick that has read the record before the charge and writes it after. -/
theorem charged_twice :
    let first : InvoiceItemId := ⟨"ii_1", by decide⟩
    let second : InvoiceItemId := ⟨"ii_2", by decide⟩
    let overlapping := [.bill true, .bill true] ++ readsBusy 0 ++ readsBusy 1 ++
      chargesBusy 0 first (.ok ()) ++ chargesBusy 1 second (.ok ())
    let unstored := [.bill true] ++ readsBusy 0 ++ chargesBusy 0 first (.error "timeout") ++
      [.bill true] ++ readsBusy 1 ++ chargesBusy 1 second (.ok ())
    let overwritten := ticksBusy 0 ++ [.bill true] ++ readsBusy 1 ++ chargesBusy 1 first (.ok ()) ++
      [.answer 0 (.write (.ok ())), .bill true] ++ readsBusy 2 ++ chargesBusy 2 second (.ok ())
    ∀ events ∈ [overlapping, unstored, overwritten],
      ¬ Always (next "gymact") (fun system => ChargedOnce system.billing.items)
        (init 0) events := by
  intro first second overlapping unstored overwritten events hevents h
  have hfinal : ChargedOnce (run (next "gymact") (init 0) events).billing.items :=
    always_iff.mp h events [] (List.append_nil _).symm
  have hnot : ∀ events ∈ [overlapping, unstored, overwritten],
      ¬ ChargedOnce (run (next "gymact") (init 0) events).billing.items := by
    decide +kernel
  exact hnot events hevents hfinal

end System

end ChatmanEcosystem.Console.Overage
