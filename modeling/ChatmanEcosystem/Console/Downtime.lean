import ChatmanEcosystem.Console.Incidents
import Mathlib.Algebra.BigOperators.Group.Finset.Sigma
import Mathlib.Algebra.BigOperators.Ring.Finset
import Mathlib.Data.Int.ConditionallyCompleteOrder
import Mathlib.Data.Int.Interval
import Mathlib.Order.CompletePartialOrder

/-!
# Downtime that is counted once

Any sequence of calls of `reconcileIncidents` over one history. A row is stored under
the first sample at which a call sees a component down, and a row that has an end
keeps it.

Results:

* `mem_windows_iff`: what a call observes of the history.
* `recorded_run`: the table has the outages that the calls have observed.
* `countedOnce_iff`: the rows of a component are disjoint in every state, and no
  instant is counted twice in a month, exactly when no call begins to observe an
  outage inside one that a call has observed to its end.
-/

namespace ChatmanEcosystem.Console.Incidents

open Common

/-! ## The property and the condition -/

/-- The instants of a row, as far as they are stored: up to its end, or the first one. -/
def Incident.span (row : Incident) : Set ℤ :=
  match row.resolvedAt with
  | some resolvedAt => Set.Ico row.startedAt resolvedAt
  | none => {row.startedAt}

/-- The rows of a component are disjoint. -/
def RowsDisjoint (table : IncidentTable) : Prop :=
  ∀ row ∈ table.rows, ∀ other ∈ table.rows, row.componentId = other.componentId → row ≠ other →
    Disjoint row.span other.span

/-- A resolved row of the component has the instant. -/
def IncidentTable.Down (table : IncidentTable) (componentId : String) (t : ℤ) : Prop :=
  ∃ row ∈ table.rows, row.componentId = componentId ∧ row.status = .resolved ∧
    ∃ resolvedAt ∈ row.resolvedAt, row.startedAt ≤ t ∧ t < resolvedAt

open Classical in
/-- The downtime of every month is the number of its instants at which the components are down. -/
def CountsOnce (table : IncidentTable) : Prop :=
  ∀ orgId month slaTier componentIds monthStart monthEnd report,
    monthBounds month = .ok (monthStart, monthEnd) →
      computeMonthlyUptime orgId month slaTier componentIds table = .ok report →
        report.downtimeMinutes =
          (((componentIds.toFinset ×ˢ Finset.Ico monthStart monthEnd).filter
            fun (componentId, t) => table.Down componentId t).card : ℚ) / 60000

/-- The call samples a component at an instant. -/
def ReconcileCall.Samples (call : ReconcileCall) (ts : ℤ) : Prop :=
  call.start / 1000 ≤ ts ∧ ts ≤ call.stop / 1000 ∧ 15 ∣ ts - call.start / 1000

/-- The call samples the component, which is down at `s`, and up at the sample before, if there is
one. -/
structure ReconcileCall.Begins (up : UpHistory) (call : ReconcileCall) (componentId : String)
    (s : ℤ) : Prop where
  component : ∃ components, call.query = .ok components ∧ componentId ∈ components ∧
    componentId ≠ ""
  samples : call.Samples s
  down : up componentId s = false
  before : call.Samples (s - 15) → up componentId (s - 15) = true

/-- At steps of fifteen seconds, a component is down from `s` until it is up at `e`. -/
structure Lasts (up : ℤ → Bool) (s e : ℤ) : Prop where
  lt : s < e
  step : 15 ∣ e - s
  recovered : up e = true
  down : ∀ t, s ≤ t → t < e → 15 ∣ t - s → up t = false

/-- No call begins to observe an outage of a component between the first sample and the end of one
that a call has observed to its end. -/
def BeginsApart (up : UpHistory) (calls : List ReconcileCall) : Prop :=
  ∀ componentId, ∀ first ∈ calls, ∀ second ∈ calls, ∀ s e s',
    first.Begins up componentId s → Lasts (up componentId) s e → e ≤ first.stop / 1000 →
      second.Begins up componentId s' → s < s' → e ≤ s'

/-! ## What a call observes -/

section Samples

variable {up : ℤ → Bool} {start stop s : ℤ} {i : ℕ}

theorem beginsAt_sampleTimes :
    BeginsAt (fun ts => !up ts) (sampleTimes start stop) i s ↔
      s = start + 15 * i ∧ s ≤ stop ∧ up s = false ∧ (i ≠ 0 → up (s - 15) = true) := by
  unfold BeginsAt
  rw [sampleTimes_getElem?]
  constructor
  · rintro ⟨⟨hs, hstop⟩, hdown, hbefore⟩
    refine ⟨hs, hstop, by simpa using hdown, fun hi => ?_⟩
    have hprev : (sampleTimes start stop)[i - 1]? = some (s - 15) :=
      sampleTimes_getElem?.mpr ⟨by omega, by omega⟩
    simpa using hbefore (i - 1) (s - 15) (by omega) hprev
  · rintro ⟨hs, hstop, hdown, hbefore⟩
    refine ⟨⟨hs, hstop⟩, by simpa using hdown, fun j ts hj hts => ?_⟩
    obtain ⟨rfl, -⟩ := sampleTimes_getElem?.mp hts
    have hprev : start + 15 * (j : ℤ) = s - 15 := by omega
    show (!up (start + 15 * j)) = false
    rw [hprev, hbefore (by omega)]
    rfl

/-- The samples from the next one on, up to the end of the outage. -/
theorem lastsUntil_sampleTimes (hs : s = start + 15 * i) (hdown : up s = false) (e : ℤ) :
    LastsUntil (fun ts => !up ts) (sampleTimes start stop) (i + 1) (some e) ↔
      Lasts up s e ∧ e ≤ stop := by
  constructor
  · rintro ⟨j, hij, hj, hup, hall⟩
    obtain ⟨rfl, hstop⟩ := sampleTimes_getElem?.mp hj
    refine ⟨⟨by omega, by omega, by simpa using hup, fun t hst hte hstep => ?_⟩, hstop⟩
    obtain ⟨m, hm⟩ := hstep
    obtain rfl | hlt : s = t ∨ s < t := by omega
    · exact hdown
    · have hk : (sampleTimes start stop)[i + m.toNat]? = some t :=
        sampleTimes_getElem?.mpr ⟨by omega, by omega⟩
      simpa using hall (i + m.toNat) t (by omega) (by omega) hk
  · rintro ⟨⟨hlt, ⟨m, hm⟩, hup, hall⟩, hstop⟩
    have hj : (sampleTimes start stop)[i + m.toNat]? = some e :=
      sampleTimes_getElem?.mpr ⟨by omega, hstop⟩
    refine ⟨i + m.toNat, by omega, hj, by simpa using hup, fun k t hik hkj ht => ?_⟩
    obtain ⟨rfl, -⟩ := sampleTimes_getElem?.mp ht
    have hkdown := hall (start + 15 * k) (by omega) (by omega) (by omega)
    simpa using hkdown

end Samples

/-- The windows that a call finds. -/
def ReconcileCall.windows (up : UpHistory) (call : ReconcileCall) : List ComponentDownWindow :=
  match getComponentDownWindows up call.start call.stop call.query with
  | .ok windows => windows
  | .error _ => []

/-- What a window says of the outage that begins at `s`: its end, or that it has none yet. -/
def EndsAs (up : ℤ → Bool) (s stop : ℤ) : Option ℤ → Prop
  | some resolvedAt => ∃ e, resolvedAt = e * 1000 ∧ Lasts up s e ∧ e ≤ stop
  | none => ∀ t, s ≤ t → t ≤ stop → 15 ∣ t - s → up t = false

theorem endsAs_iff {up : ℤ → Bool} {start stop s : ℤ} {i : ℕ} (hs : s = start + 15 * i)
    (hdown : up s = false) {resolvedAt : Option ℤ} : EndsAs up s stop resolvedAt ↔
      ∃ e, LastsUntil (fun ts => !up ts) (sampleTimes start stop) (i + 1) e ∧
        resolvedAt = e.map (· * 1000) := by
  cases resolvedAt with
  | some resolvedAt =>
    constructor
    · rintro ⟨e, rfl, hlasts, hstop⟩
      exact ⟨some e, (lastsUntil_sampleTimes hs hdown e).mpr ⟨hlasts, hstop⟩, rfl⟩
    · rintro ⟨_ | e, hlasts, hresolved⟩
      · cases hresolved
      · obtain ⟨hlasts, hstop⟩ := (lastsUntil_sampleTimes hs hdown e).mp hlasts
        exact ⟨e, Option.some.inj hresolved, hlasts, hstop⟩
  | none =>
    constructor
    · intro hall
      refine ⟨none, fun k t hik ht => ?_, rfl⟩
      obtain ⟨rfl, hstop⟩ := sampleTimes_getElem?.mp ht
      have hkdown := hall (start + 15 * k) (by omega) hstop (by omega)
      simpa using hkdown
    · rintro ⟨_ | e, hlasts, hresolved⟩
      · intro t hst hstop hstep
        obtain ⟨m, hm⟩ := hstep
        obtain rfl | hlt : s = t ∨ s < t := by omega
        · exact hdown
        · have hk : (sampleTimes start stop)[i + m.toNat]? = some t :=
            sampleTimes_getElem?.mpr ⟨by omega, hstop⟩
          simpa using hlasts (i + m.toNat) t (by omega) hk
      · cases hresolved

variable {componentId : String}

theorem mem_seriesDownWindows_iff {up : ℤ → Bool} {start stop : ℤ} {w : ComponentDownWindow} :
    w ∈ seriesDownWindows componentId up start stop ↔ w.componentId = componentId ∧
      ∃ (i : ℕ) (s : ℤ), s = start + 15 * i ∧ s ≤ stop ∧ up s = false ∧
        (i ≠ 0 → up (s - 15) = true) ∧ w.startedAt = s * 1000 ∧ EndsAs up s stop w.resolvedAt := by
  unfold seriesDownWindows
  rw [List.mem_map]
  constructor
  · rintro ⟨⟨s, e⟩, hmem, rfl⟩
    obtain ⟨i, hbegins, hlasts⟩ := mem_spans_iff.mp hmem
    obtain ⟨hs, hstop, hdown, hbefore⟩ := beginsAt_sampleTimes.mp hbegins
    exact ⟨rfl, i, s, hs, hstop, hdown, hbefore, rfl, (endsAs_iff hs hdown).mpr ⟨e, hlasts, rfl⟩⟩
  · rintro ⟨rfl, i, s, hs, hstop, hdown, hbefore, hstarted, hends⟩
    obtain ⟨e, hlasts, hresolved⟩ := (endsAs_iff hs hdown).mp hends
    refine ⟨(s, e), mem_spans_iff.mpr ⟨i, beginsAt_sampleTimes.mpr ⟨hs, hstop, hdown, hbefore⟩,
      hlasts⟩, ?_⟩
    show ComponentDownWindow.mk _ (s * 1000) (e.map (· * 1000)) = w
    rw [← hstarted, ← hresolved]

section Windows

variable {up : UpHistory} {call : ReconcileCall} {w : ComponentDownWindow}

variable {componentId : String}

/-- The index of a sample that a call begins with. -/
theorem begins_iff {s : ℤ} : call.Begins up componentId s ↔
    (∃ components, call.query = .ok components ∧ componentId ∈ components ∧ componentId ≠ "") ∧
      ∃ i : ℕ, s = call.start / 1000 + 15 * i ∧ s ≤ call.stop / 1000 ∧ up componentId s = false ∧
        (i ≠ 0 → up componentId (s - 15) = true) := by
  constructor
  · rintro ⟨hcomponent, ⟨hstart, hstop, m, hm⟩, hdown, hbefore⟩
    refine ⟨hcomponent, m.toNat, by omega, hstop, hdown, fun hi => hbefore ⟨?_, ?_, m - 1, ?_⟩⟩
    · omega
    · omega
    · omega
  · rintro ⟨hcomponent, i, hs, hstop, hdown, hbefore⟩
    refine ⟨hcomponent, ⟨by omega, hstop, i, by omega⟩, hdown, fun hsamples => hbefore ?_⟩
    have hle := hsamples.1
    omega

/-- A call finds a window for each outage that it begins to observe. -/
theorem mem_windows_iff : w ∈ call.windows up ↔ ∃ s, call.Begins up w.componentId s ∧
    w.startedAt = s * 1000 ∧ EndsAs (up w.componentId) s (call.stop / 1000) w.resolvedAt := by
  have hmem : w ∈ call.windows up ↔ ∃ components, call.query = .ok components ∧
      ∃ componentId ∈ components, componentId ≠ "" ∧ w ∈ seriesDownWindows componentId
        (up componentId) (call.start / 1000) (call.stop / 1000) := by
    unfold ReconcileCall.windows getComponentDownWindows
    cases call.query with
    | error error =>
      constructor
      · intro h
        cases h
      · rintro ⟨components, hquery, -⟩
        cases hquery
    | ok components => simp [Except.map, and_assoc]
  rw [hmem]
  constructor
  · rintro ⟨components, hquery, componentId, hcomponent, hne, hw⟩
    obtain ⟨rfl, i, s, hs, hstop, hdown, hbefore, hstarted, hends⟩ :=
      mem_seriesDownWindows_iff.mp hw
    exact ⟨s, begins_iff.mpr ⟨⟨components, hquery, hcomponent, hne⟩, i, hs, hstop, hdown, hbefore⟩,
      hstarted, hends⟩
  · rintro ⟨s, hbegins, hstarted, hends⟩
    obtain ⟨⟨components, hquery, hcomponent, hne⟩, i, hs, hstop, hdown, hbefore⟩ :=
      begins_iff.mp hbegins
    exact ⟨components, hquery, w.componentId, hcomponent, hne, mem_seriesDownWindows_iff.mpr
      ⟨rfl, i, s, hs, hstop, hdown, hbefore, hstarted, hends⟩⟩

/-- An outage has its end in the samples of a call, or not. -/
theorem exists_endsAs {up : ℤ → Bool} {s : ℤ} (stop : ℤ) (hdown : up s = false) :
    ∃ resolvedAt, EndsAs up s stop resolvedAt := by
  by_cases hsome : ∃ m : ℕ, s + 15 * m ≤ stop ∧ up (s + 15 * m) = true
  · -- the first sample at which the component is up
    classical
    obtain ⟨hstop, hup⟩ := Nat.find_spec hsome
    have hmin := fun m => @Nat.find_min _ _ hsome m
    generalize Nat.find hsome = m at hstop hup hmin
    have hpos : m ≠ 0 := by
      rintro rfl
      simp [hdown] at hup
    refine ⟨some ((s + 15 * m) * 1000), s + 15 * m, rfl, ⟨by omega, by omega, hup, ?_⟩, hstop⟩
    intro t hst hte hstep
    obtain ⟨k, hk⟩ := hstep
    obtain rfl : t = s + 15 * (k.toNat : ℤ) := by omega
    by_contra hnot
    exact hmin k.toNat (by omega) ⟨by omega, by simpa using hnot⟩
  · refine ⟨none, fun t hst hstop hstep => ?_⟩
    obtain ⟨k, hk⟩ := hstep
    obtain rfl : t = s + 15 * (k.toNat : ℤ) := by omega
    by_contra hnot
    exact hsome ⟨k.toNat, hstop, by simpa using hnot⟩

/-- A call finds a window for an outage that it begins to observe. -/
theorem exists_window {s : ℤ} (h : call.Begins up componentId s) :
    ∃ w ∈ call.windows up, w.componentId = componentId ∧ w.startedAt = s * 1000 := by
  obtain ⟨resolvedAt, hends⟩ := exists_endsAs (call.stop / 1000) h.down
  exact ⟨{ componentId, startedAt := s * 1000, resolvedAt }, mem_windows_iff.mpr ⟨s, h, rfl, hends⟩,
    rfl, rfl⟩

/-- An outage lasts until one sample. -/
theorem Lasts.unique {up : ℤ → Bool} {s e e' : ℤ} (h : Lasts up s e) (h' : Lasts up s e') :
    e = e' := by
  have hle : ∀ {a b}, Lasts up s a → Lasts up s b → ¬ a < b := by
    intro a b ha hb hlt
    have hdown := hb.down a (le_of_lt ha.lt) hlt ha.step
    rw [ha.recovered] at hdown
    cases hdown
  have hnot := hle h h'
  have hnot' := hle h' h
  omega

end Windows

/-! ## The table -/

/-- The windows `windows` have been stored: each row is one of them, with an end if one of them has
it. -/
structure Recorded (windows : List ComponentDownWindow) (table : IncidentTable) : Prop where
  row : ∀ row ∈ table.rows, ∃ w ∈ windows, (newIncident w).key = row.key
  resolved : ∀ row ∈ table.rows, ∀ resolvedAt ∈ row.resolvedAt,
    ∃ w ∈ windows, (newIncident w).key = row.key ∧ w.resolvedAt = some resolvedAt
  stored : ∀ w ∈ windows, ∃ row ∈ table.rows, row.key = (newIncident w).key ∧
    (w.resolvedAt.isSome → row.resolvedAt.isSome)

variable {windows : List ComponentDownWindow}

theorem recorded_upsert {table : IncidentTable} (h : Recorded windows table)
    (w : ComponentDownWindow) :
    Recorded (windows ++ [w]) (upsertIncident table w) := by
  have hkeep : ∀ {P : ComponentDownWindow → Prop}, (∃ v ∈ windows, P v) →
    ∃ v ∈ windows ++ [w], P v :=
    fun ⟨v, hv, hP⟩ => ⟨v, List.mem_append_left _ hv, hP⟩
  have hlast : w ∈ windows ++ [w] := List.mem_append_right _ List.mem_cons_self
  refine ⟨fun row hrow => ?_, fun row hrow resolvedAt hresolved => ?_, fun v hv => ?_⟩
  · rcases KeyedTable.mem_upsert_iff.mp hrow with ⟨hold, -⟩ | ⟨old, hold, hkey, rfl⟩ | ⟨-, rfl⟩
    · exact hkeep (h.row row hold)
    · exact ⟨w, hlast, hkey.symm⟩
    · exact ⟨w, hlast, rfl⟩
  · rcases KeyedTable.mem_upsert_iff.mp hrow with ⟨hold, -⟩ | ⟨old, hold, hkey, rfl⟩ | ⟨-, rfl⟩
    · exact hkeep (h.resolved row hold resolvedAt hresolved)
    · -- an end that is stored stays
      rcases Option.or_eq_some_iff.mp hresolved with hbefore | ⟨-, hnew⟩
      · exact hkeep (h.resolved old hold resolvedAt hbefore)
      · exact ⟨w, hlast, hkey.symm, hnew⟩
    · exact ⟨w, hlast, rfl, hresolved⟩
  · have hmerged : ∀ old ∈ table.rows, old.key = (newIncident w).key →
        mergeIncident (newIncident w) old ∈ (upsertIncident table w).rows := fun old hold hkey =>
      KeyedTable.mem_upsert_iff.mpr (.inr (.inl ⟨old, hold, hkey, rfl⟩))
    rcases List.mem_append.mp hv with hv | hv
    · obtain ⟨row, hrow, hrowKey, hresolved⟩ := h.stored v hv
      by_cases hkey : row.key = (newIncident w).key
      · refine ⟨_, hmerged row hrow hkey, hrowKey, fun hv => ?_⟩
        simp [mergeIncident, hresolved hv]
      · exact ⟨row, KeyedTable.mem_upsert_iff.mpr (.inl ⟨hrow, hkey⟩), hrowKey, hresolved⟩
    · obtain rfl := List.mem_singleton.mp hv
      by_cases hhas : table.Has (newIncident v).key
      · obtain ⟨old, hold, hkey⟩ := hhas
        refine ⟨_, hmerged old hold hkey, hkey, fun hv => ?_⟩
        simp [mergeIncident, newIncident, hv]
      · exact ⟨newIncident v, KeyedTable.mem_upsert_iff.mpr (.inr (.inr ⟨hhas, rfl⟩)), rfl, id⟩

theorem recorded_foldl {table : IncidentTable} (h : Recorded windows table)
    (new : List ComponentDownWindow) :
    Recorded (windows ++ new) (new.foldl upsertIncident table) := by
  induction new generalizing windows table with
  | nil =>
    rw [List.append_nil]
    exact h
  | cons w rest ih =>
    have hrest := ih (recorded_upsert h w)
    rw [List.append_assoc] at hrest
    exact hrest

/-- The counts do not matter to the table. -/
theorem foldl_reconcileWindow_snd (windows : List ComponentDownWindow)
    (state : ReconcileCounts × IncidentTable) :
    (windows.foldl reconcileWindow state).2 = windows.foldl upsertIncident state.2 := by
  induction windows generalizing state with
  | nil => rfl
  | cons w rest ih => exact ih (reconcileWindow state w)

theorem next_eq (up : UpHistory) (table : IncidentTable) (call : ReconcileCall) :
    table.next up call = (call.windows up).foldl upsertIncident table := by
  unfold IncidentTable.next reconcileIncidents ReconcileCall.windows
  cases getComponentDownWindows up call.start call.stop call.query with
  | error error => rfl
  | ok windows => exact foldl_reconcileWindow_snd windows _

/-- The table has the windows that the calls have found. -/
theorem recorded_run (up : UpHistory) (calls : List ReconcileCall) :
    Recorded (calls.flatMap (·.windows up))
      (run (IncidentTable.next up) KeyedTable.empty calls) := by
  have hrun : ∀ (calls : List ReconcileCall) windows table, Recorded windows table →
      Recorded (windows ++ calls.flatMap (·.windows up))
        (run (IncidentTable.next up) table calls) := by
    intro calls
    induction calls with
    | nil =>
      intro windows table h
      rw [List.flatMap_nil, List.append_nil]
      exact h
    | cons call rest ih =>
      intro windows table h
      have hcall := recorded_foldl h (call.windows up)
      rw [← next_eq] at hcall
      rw [List.flatMap_cons, ← List.append_assoc]
      exact ih _ _ hcall
  have hempty : Recorded [] KeyedTable.empty := by
    refine ⟨fun row hrow => ?_, fun row hrow => ?_, fun w hw => ?_⟩
    · cases hrow
    · cases hrow
    · cases hw
  exact hrun calls [] _ hempty

/-! ## Disjoint rows -/

/-- The windows of one outage have one end, after its first sample. -/
structure Consistent (windows : List ComponentDownWindow) : Prop where
  lt : ∀ w ∈ windows, ∀ resolvedAt ∈ w.resolvedAt, w.startedAt < resolvedAt
  unique : ∀ w ∈ windows, ∀ v ∈ windows, (newIncident w).key = (newIncident v).key →
    ∀ a ∈ w.resolvedAt, ∀ b ∈ v.resolvedAt, a = b

/-- No window of a component begins between the start and the end of another. -/
def WindowsApart (windows : List ComponentDownWindow) : Prop :=
  ∀ w ∈ windows, ∀ v ∈ windows, w.componentId = v.componentId → ∀ resolvedAt ∈ w.resolvedAt,
    w.startedAt < v.startedAt → resolvedAt ≤ v.startedAt

theorem mem_span_iff {row : Incident} {t : ℤ} : t ∈ row.span ↔
    (∃ resolvedAt ∈ row.resolvedAt, row.startedAt ≤ t ∧ t < resolvedAt) ∨
      (row.resolvedAt = none ∧ t = row.startedAt) := by
  unfold Incident.span
  cases row.resolvedAt with
  | none => simp
  | some resolvedAt => simp [Set.mem_Ico]

theorem key_eq_iff {w : ComponentDownWindow} {row : Incident} : (newIncident w).key = row.key ↔
    w.componentId = row.componentId ∧ w.startedAt = row.startedAt := Prod.mk.injEq _ _ _ _ ▸ Iff.rfl

/-- The rows are disjoint exactly when the windows that have been stored are apart. -/
theorem rowsDisjoint_iff {table : IncidentTable} (h : Recorded windows table)
    (hconsistent : Consistent windows) :
    RowsDisjoint table ↔ WindowsApart windows := by
  constructor
  · intro hdisjoint w hw v hv hcomponent resolvedAt hresolved hlt
    by_contra hnot
    obtain ⟨row, hrow, hrowKey, hrowResolved⟩ := h.stored w hw
    obtain ⟨other, hother, hotherKey, -⟩ := h.stored v hv
    obtain ⟨hrowComponent, hrowStart⟩ := key_eq_iff.mp hrowKey.symm
    obtain ⟨hotherComponent, hotherStart⟩ := key_eq_iff.mp hotherKey.symm
    have hne : row ≠ other := by
      rintro rfl
      omega
    -- the row of `w` has its end
    obtain ⟨stored, hstored⟩ := Option.isSome_iff_exists.mp
      (hrowResolved (Option.isSome_iff_exists.mpr ⟨resolvedAt, hresolved⟩))
    obtain ⟨u, hu, huKey, huResolved⟩ := h.resolved row hrow stored hstored
    obtain rfl := hconsistent.unique w hw u hu (hrowKey.symm.trans huKey.symm) _ hresolved _
      huResolved
    have hmem : other.startedAt ∈ row.span :=
      mem_span_iff.mpr (.inl ⟨resolvedAt, hstored, by omega, by omega⟩)
    have hmem' : other.startedAt ∈ other.span := by
      rw [mem_span_iff]
      cases hend : other.resolvedAt with
      | none => exact .inr ⟨rfl, rfl⟩
      | some last =>
        obtain ⟨x, hx, hxKey, hxResolved⟩ := h.resolved other hother last hend
        obtain ⟨-, hxStart⟩ := key_eq_iff.mp hxKey
        have hlast := hconsistent.lt x hx last hxResolved
        exact .inl ⟨last, rfl, by omega, by omega⟩
    have hsame : row.componentId = other.componentId := by
      rw [← hrowComponent, ← hotherComponent, hcomponent]
    exact Set.disjoint_left.mp (hdisjoint row hrow other hother hsame hne) hmem hmem'
  · -- the later of the two rows begins after the end of the other
    intro hapart
    have hlater : ∀ row ∈ table.rows, ∀ other ∈ table.rows, row.componentId = other.componentId →
        row.startedAt < other.startedAt → Disjoint row.span other.span := by
      intro row hrow other hother hcomponent hlt
      rw [Set.disjoint_left]
      intro t ht ht'
      have hstart : other.startedAt ≤ t := by
        rcases mem_span_iff.mp ht' with ⟨_, -, hle, -⟩ | ⟨-, rfl⟩
        · exact hle
        · exact le_refl _
      rcases mem_span_iff.mp ht with ⟨resolvedAt, hresolved, -, htlt⟩ | ⟨-, rfl⟩
      · obtain ⟨w, hw, hwKey, hwResolved⟩ := h.resolved row hrow resolvedAt hresolved
        obtain ⟨v, hv, hvKey⟩ := h.row other hother
        obtain ⟨hwComponent, hwStart⟩ := key_eq_iff.mp hwKey
        obtain ⟨hvComponent, hvStart⟩ := key_eq_iff.mp hvKey
        have hle := hapart w hw v hv (by rw [hwComponent, hvComponent, hcomponent]) resolvedAt
          hwResolved (by omega)
        omega
      · omega
    intro row hrow other hother hcomponent hne
    have hstart : row.startedAt ≠ other.startedAt := fun hstart =>
      hne (KeyedTable.eq_of_key hrow hother (Prod.ext hcomponent hstart))
    obtain hlt | hlt : row.startedAt < other.startedAt ∨ other.startedAt < row.startedAt := by omega
    · exact hlater row hrow other hother hcomponent hlt
    · exact (hlater other hother row hrow hcomponent.symm hlt).symm

/-- The windows that calls find are of one history. -/
theorem consistent_windows (up : UpHistory) (calls : List ReconcileCall) :
    Consistent (calls.flatMap (·.windows up)) := by
  have hfound : ∀ w ∈ calls.flatMap (·.windows up), ∀ resolvedAt ∈ w.resolvedAt, ∃ s e,
      w.startedAt = s * 1000 ∧ resolvedAt = e * 1000 ∧ Lasts (up w.componentId) s e := by
    intro w hw resolvedAt hresolved
    obtain ⟨call, -, hmem⟩ := List.mem_flatMap.mp hw
    obtain ⟨s, -, hstarted, hends⟩ := mem_windows_iff.mp hmem
    rw [show w.resolvedAt = some resolvedAt from hresolved] at hends
    obtain ⟨e, rfl, hlasts, -⟩ := hends
    exact ⟨s, e, hstarted, rfl, hlasts⟩
  refine ⟨fun w hw resolvedAt hresolved => ?_, fun w hw v hv hkey a ha b hb => ?_⟩
  · obtain ⟨s, e, hstarted, rfl, hlasts⟩ := hfound w hw resolvedAt hresolved
    have hlt := hlasts.lt
    omega
  · obtain ⟨s, e, hstarted, rfl, hlasts⟩ := hfound w hw a ha
    obtain ⟨s', e', hstarted', rfl, hlasts'⟩ := hfound v hv b hb
    obtain ⟨hcomponent, hstart⟩ := key_eq_iff.mp hkey
    have hcomponent : w.componentId = v.componentId := hcomponent
    have hstart : w.startedAt = v.startedAt := hstart
    obtain rfl : s = s' := by omega
    rw [← hcomponent] at hlasts'
    rw [hlasts.unique hlasts']

/-- The windows that calls find are apart exactly when the calls begin apart. -/
theorem windowsApart_iff (up : UpHistory) (calls : List ReconcileCall) :
    WindowsApart (calls.flatMap (·.windows up)) ↔ BeginsApart up calls := by
  constructor
  · intro h componentId first hfirst second hsecond s e s' hbegins hlasts hstop hbegins' hlt
    have hw : ({ componentId, startedAt := s * 1000, resolvedAt := some (e * 1000) } :
        ComponentDownWindow) ∈ first.windows up :=
      mem_windows_iff.mpr ⟨s, hbegins, rfl, e, rfl, hlasts, hstop⟩
    obtain ⟨v, hv, hcomponent, hstarted⟩ := exists_window hbegins'
    have hle := h _ (List.mem_flatMap.mpr ⟨first, hfirst, hw⟩) v
      (List.mem_flatMap.mpr ⟨second, hsecond, hv⟩) hcomponent.symm (e * 1000) rfl
      (by rw [hstarted]; show s * 1000 < s' * 1000; omega)
    omega
  · intro h w hw v hv hcomponent resolvedAt hresolved hlt
    obtain ⟨first, hfirst, hmem⟩ := List.mem_flatMap.mp hw
    obtain ⟨second, hsecond, hmem'⟩ := List.mem_flatMap.mp hv
    obtain ⟨s, hbegins, hstarted, hends⟩ := mem_windows_iff.mp hmem
    obtain ⟨s', hbegins', hstarted', -⟩ := mem_windows_iff.mp hmem'
    rw [show w.resolvedAt = some resolvedAt from hresolved] at hends
    obtain ⟨e, rfl, hlasts, hstop⟩ := hends
    rw [← hcomponent] at hbegins'
    have hle := h w.componentId first hfirst second hsecond s e s' hbegins hlasts hstop hbegins'
      (by omega)
    omega

/-! ## The downtime of a month -/

section Month

variable {table : IncidentTable} {componentIds : List String} {monthStart monthEnd : ℤ}

/-- The instants of a month that a row counts, with its component. -/
noncomputable def countedInstants (monthStart monthEnd : ℤ)
    (row : Incident) : Finset (String × ℤ) :=
  (Finset.Ico (max row.startedAt monthStart) (min (row.resolvedAt.getD 0) monthEnd)).map
    ⟨fun t => (row.componentId, t), fun _ _ h => (Prod.mk.inj h).2⟩

variable {row : Incident}

theorem mem_countedInstants_iff {componentId : String} {t : ℤ} :
    (componentId, t) ∈ countedInstants monthStart monthEnd row ↔ row.componentId = componentId ∧
      (row.startedAt ≤ t ∧ monthStart ≤ t) ∧ t < row.resolvedAt.getD 0 ∧ t < monthEnd := by
  unfold countedInstants
  rw [Finset.mem_map]
  constructor
  · rintro ⟨t', ht, heq⟩
    obtain ⟨rfl, rfl⟩ := Prod.mk.inj heq
    obtain ⟨hle, hlt⟩ := Finset.mem_Ico.mp ht
    exact ⟨rfl, max_le_iff.mp hle, lt_min_iff.mp hlt⟩
  · rintro ⟨rfl, hle, hlt⟩
    exact ⟨t, Finset.mem_Ico.mpr ⟨max_le_iff.mpr hle, lt_min_iff.mpr hlt⟩, rfl⟩

theorem card_countedInstants (row : Incident) :
    ((countedInstants monthStart monthEnd row).card : ℤ) = clippedMs monthStart monthEnd row := by
  unfold countedInstants clippedMs
  rw [Finset.card_map, Int.card_Ico, Int.toNat_eq_max, max_comm]

theorem selected_iff : selected componentIds monthStart monthEnd row = true ↔
    row.componentId ∈ componentIds ∧ row.status = .resolved ∧ row.startedAt < monthEnd ∧
      ∃ resolvedAt ∈ row.resolvedAt, monthStart < resolvedAt := by
  simp [selected, Option.any_eq_true, and_assoc]

open Classical in
/-- The rows that are selected count the instants at which a component is down. -/
theorem biUnion_countedInstants :
    (table.rows.filter (selected componentIds monthStart monthEnd)).toFinset.biUnion
        (countedInstants monthStart monthEnd) =
      (componentIds.toFinset ×ˢ Finset.Ico monthStart monthEnd).filter
        fun (componentId, t) => table.Down componentId t := by
  ext ⟨componentId, t⟩
  simp only [Finset.mem_biUnion, List.mem_toFinset, List.mem_filter, selected_iff,
    mem_countedInstants_iff, Finset.mem_filter, Finset.mem_product, Finset.mem_Ico]
  have hend : ∀ {row : Incident} {resolvedAt : ℤ}, resolvedAt ∈ row.resolvedAt →
      row.resolvedAt.getD 0 = resolvedAt := fun h => by rw [Option.mem_def.mp h, Option.getD_some]
  constructor
  · rintro ⟨row, ⟨hrow, hcomponent, hstatus, -, resolvedAt, hresolved, -⟩, rfl, ⟨hstart, hmonth⟩,
      hlt, hmonth'⟩
    rw [hend hresolved] at hlt
    exact ⟨⟨hcomponent, hmonth, hmonth'⟩, row, hrow, rfl, hstatus, resolvedAt, hresolved, hstart,
      hlt⟩
  · rintro ⟨⟨hcomponent, hmonth, hmonth'⟩, row, hrow, rfl, hstatus, resolvedAt, hresolved, hstart,
      hlt⟩
    refine ⟨row, ⟨hrow, hcomponent, hstatus, by omega, resolvedAt, hresolved, by omega⟩, rfl,
      ⟨hstart, hmonth⟩, ?_, hmonth'⟩
    rw [hend hresolved]
    exact hlt

/-- Disjoint rows count no instant of a component twice. -/
theorem disjoint_countedInstants (h : RowsDisjoint table) {other : Incident}
    (hrow : row ∈ table.rows) (hother : other ∈ table.rows) (hne : row ≠ other)
    (hresolved : row.resolvedAt.isSome) (hresolved' : other.resolvedAt.isSome) :
    Disjoint (countedInstants monthStart monthEnd row)
      (countedInstants monthStart monthEnd other) := by
  rw [Finset.disjoint_left]
  rintro ⟨componentId, t⟩ ht ht'
  obtain ⟨hcomponent, ⟨hstart, -⟩, hlt, -⟩ := mem_countedInstants_iff.mp ht
  obtain ⟨hcomponent', ⟨hstart', -⟩, hlt', -⟩ := mem_countedInstants_iff.mp ht'
  obtain ⟨resolvedAt, hend⟩ := Option.isSome_iff_exists.mp hresolved
  obtain ⟨resolvedAt', hend'⟩ := Option.isSome_iff_exists.mp hresolved'
  rw [hend, Option.getD_some] at hlt
  rw [hend', Option.getD_some] at hlt'
  refine Set.disjoint_left.mp (h row hrow other hother (hcomponent.trans hcomponent'.symm) hne)
    (mem_span_iff.mpr (.inl ⟨resolvedAt, hend, hstart, hlt⟩))
    (mem_span_iff.mpr (.inl ⟨resolvedAt', hend', hstart', hlt'⟩))

open Classical in
/-- The clipped rows of a month add up to the instants at which the components are down. -/
theorem sum_clippedMs (h : RowsDisjoint table) :
    ((table.rows.filter (selected componentIds monthStart monthEnd)).map
        (clippedMs monthStart monthEnd)).sum =
      (((componentIds.toFinset ×ˢ Finset.Ico monthStart monthEnd).filter
        fun (componentId, t) => table.Down componentId t).card : ℤ) := by
  have hnodup : (table.rows.filter (selected componentIds monthStart monthEnd)).Nodup :=
    (List.Nodup.of_map _ table.unique).filter _
  have hresolved : ∀ row ∈ (table.rows.filter (selected componentIds monthStart monthEnd)).toFinset,
      row ∈ table.rows ∧ row.resolvedAt.isSome := by
    intro row hrow
    obtain ⟨hrow, hselected⟩ := List.mem_filter.mp (List.mem_toFinset.mp hrow)
    obtain ⟨-, -, -, resolvedAt, hresolved, -⟩ := selected_iff.mp hselected
    exact ⟨hrow, Option.isSome_iff_exists.mpr ⟨resolvedAt, hresolved⟩⟩
  rw [← biUnion_countedInstants, Finset.card_biUnion, Nat.cast_sum, ← List.sum_toFinset _ hnodup]
  · exact Finset.sum_congr rfl fun row _ => (card_countedInstants row).symm
  · intro row hrow other hother hne
    exact disjoint_countedInstants h (hresolved row hrow).1 (hresolved other hother).1 hne
      (hresolved row hrow).2 (hresolved other hother).2

/-- Minutes are milliseconds divided. -/
theorem sum_map_minutes (rows : List Incident) (f : Incident → ℤ) :
    (rows.map fun row => ((f row : ℤ) : ℚ) / 60000).sum = (((rows.map f).sum : ℤ) : ℚ) / 60000 := by
  induction rows with
  | nil => simp
  | cons row rest ih =>
    rw [List.map_cons, List.sum_cons, ih, List.map_cons, List.sum_cons, Int.cast_add, add_div]

/-- No instant is counted twice if the rows are disjoint. -/
theorem countsOnce_of_rowsDisjoint (h : RowsDisjoint table) : CountsOnce table := by
  intro orgId month slaTier componentIds monthStart monthEnd report hbounds hreport
  unfold computeMonthlyUptime at hreport
  rw [hbounds] at hreport
  obtain rfl := Except.ok.inj hreport
  show List.sum (List.map _ (List.insertionSort _ _)) = _
  have hperm := (List.perm_insertionSort (fun a b : Incident => a.startedAt ≤ b.startedAt)
    (table.rows.filter (selected componentIds monthStart monthEnd))).map fun row =>
      ((clippedMs monthStart monthEnd row : ℤ) : ℚ) / 60000
  rw [hperm.sum_eq, sum_map_minutes, sum_clippedMs h, Int.cast_natCast]

end Month

/-! ## Runs -/

/-- Over every history and every sequence of calls, the rows of a component are disjoint in every
state and no month counts an instant twice, exactly when no call begins to observe an outage inside
one that a call has observed to its end. -/
theorem countedOnce_iff (up : UpHistory) (calls : List ReconcileCall) :
    Always (IncidentTable.next up) (fun table => RowsDisjoint table ∧ CountsOnce table)
        KeyedTable.empty calls ↔ BeginsApart up calls := by
  have hiff : ∀ calls, RowsDisjoint (run (IncidentTable.next up) KeyedTable.empty calls) ↔
      BeginsApart up calls := fun calls =>
    (rowsDisjoint_iff (recorded_run up calls) (consistent_windows up calls)).trans
      (windowsApart_iff up calls)
  rw [always_iff]
  constructor
  · intro h
    exact (hiff calls).mp (h calls [] (List.append_nil calls).symm).1
  · rintro h pre post rfl
    have hpre : BeginsApart up pre := fun componentId first hfirst second hsecond =>
      h componentId first (List.mem_append_left _ hfirst) second (List.mem_append_left _ hsecond)
    have hdisjoint := (hiff pre).mpr hpre
    exact ⟨hdisjoint, countsOnce_of_rowsDisjoint hdisjoint⟩

/-- The second call starts in the outage of one minute that the first one has observed, and stores
the rest of it again. -/
theorem outage_counted_twice :
    let up : UpHistory := fun _ ts => decide (ts < 1768435200 ∨ 1768435260 ≤ ts)
    let whole : ReconcileCall :=
      { start := 1768435185000, stop := 1768435275000, query := .ok ["gymact-status"] }
    let inside : ReconcileCall := { whole with start := 1768435215000 }
    let downtime := fun calls => (computeMonthlyUptime "org-1" "2026-01" .standard
      ["gymact-status"] (run (IncidentTable.next up) KeyedTable.empty calls)).map
        (·.downtimeMinutes)
    ¬ RowsDisjoint (run (IncidentTable.next up) KeyedTable.empty [whole, inside]) ∧
      downtime [whole] = .ok 1 ∧ downtime [whole, inside] = .ok (7 / 4) := by
  intro up whole inside downtime
  refine ⟨fun h => ?_, by decide +kernel, by decide +kernel⟩
  have hrows : (run (IncidentTable.next up) KeyedTable.empty [whole, inside]).rows =
      [⟨"gymact-status", 1768435200000, some 1768435260000, .minor, .resolved⟩,
        ⟨"gymact-status", 1768435215000, some 1768435260000, .minor, .resolved⟩] := by
    decide +kernel
  unfold RowsDisjoint at h
  rw [hrows] at h
  have hdisjoint := h _ List.mem_cons_self _ (List.mem_cons_of_mem _ List.mem_cons_self) rfl
    (by decide)
  -- both rows have the second sample of the outage
  have hsecond : (1768435215000 : ℤ) ∈ Incident.span
      ⟨"gymact-status", 1768435215000, some 1768435260000, .minor, .resolved⟩ :=
    mem_span_iff.mpr (.inl ⟨1768435260000, rfl, by decide, by decide⟩)
  exact Set.disjoint_left.mp hdisjoint
    (mem_span_iff.mpr (.inl ⟨1768435260000, rfl, by decide, by decide⟩)) hsecond

end ChatmanEcosystem.Console.Incidents
