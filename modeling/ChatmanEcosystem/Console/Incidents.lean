import ChatmanEcosystem.Common.KeyedTable
import ChatmanEcosystem.Common.Spans
import ChatmanEcosystem.Console.SlaCredits

/-!
# Incidents

Model of the incidents of `platform-console/app/lib/incidents.ts` (lines 126–235 and
430–493) and of the down windows that they are derived from
(`app/lib/status-page.ts`, lines 189–230). Prometheus answers a range query with a
sample of `up` every fifteen seconds. Instants are milliseconds since 1970 where the
source has their ISO text, and a statement of SQL is atomic. Numbers are exact.

Results:

* `sampleTimes_getElem?`: the instants of a range query.
-/

namespace ChatmanEcosystem.Console.Incidents

open Common Js
open Console.SlaCredit (SlaTier slaUptimeTargetPct isMonth)

/-! ## Down windows -/

/-- Whether `up` of a component is 1 at an instant, in seconds. -/
abbrev UpHistory := String → ℤ → Bool

/-- `ComponentDownWindow` (`status-page.ts`, lines 153–162). -/
structure ComponentDownWindow where
  componentId : String
  startedAt : ℤ
  resolvedAt : Option ℤ
  deriving DecidableEq

/-- The instants of a range query with the step of `stepSeconds` (line 192). -/
def sampleTimes (start stop : ℤ) : List ℤ :=
  (List.range ((stop - start) / 15 + 1).toNat).map fun k : ℕ => start + 15 * k

/-- The windows of one series (lines 206–227). -/
def seriesDownWindows (componentId : String) (up : ℤ → Bool) (start stop : ℤ) :
    List ComponentDownWindow :=
  (spans (fun ts => !up ts) (sampleTimes start stop)).map fun (openStart, ts) =>
    { componentId, startedAt := openStart * 1000, resolvedAt := ts.map (· * 1000) }

/-- `getComponentDownWindows` (lines 189–230). `query` is what Prometheus answers: the components
that have a series. -/
def getComponentDownWindows (up : UpHistory) (start stop : ℤ) (query : K8sResult (List String)) :
    K8sResult (List ComponentDownWindow) :=
  query.map fun components =>
    (components.filter (· ≠ "")).flatMap fun componentId =>
      seriesDownWindows componentId (up componentId) (start / 1000) (stop / 1000)

/-! ## Incidents -/

/-- `IncidentSeverity` (line 57). -/
inductive IncidentSeverity
  | minor
  | major
  | critical
  deriving DecidableEq

/-- `IncidentStatus` (line 58). -/
inductive IncidentStatus
  | opened
  | resolved
  deriving DecidableEq

/-- The members of an `Incident` (lines 60–71) that are derived. -/
structure Incident where
  componentId : String
  startedAt : ℤ
  resolvedAt : Option ℤ
  severity : IncidentSeverity
  status : IncidentStatus
  deriving DecidableEq

/-- `UNIQUE (component_id, started_at)`. -/
def Incident.key (incident : Incident) : String × ℤ := (incident.componentId, incident.startedAt)

/-- The table `platform_console.incidents`. -/
abbrev IncidentTable := KeyedTable Incident.key

/-- `severityForDurationMs` (lines 144–149). -/
def severityForDurationMs (durationMs : ℤ) : IncidentSeverity :=
  if durationMs < 5 * 60000 then .minor else if durationMs < 60 * 60000 then .major else .critical

/-- The row of a window (lines 185–189). -/
def newIncident (w : ComponentDownWindow) : Incident where
  componentId := w.componentId
  startedAt := w.startedAt
  resolvedAt := w.resolvedAt
  severity :=
    match w.resolvedAt with
    | some resolvedAt => severityForDurationMs (resolvedAt - w.startedAt)
    | none => .minor
  status := if w.resolvedAt.isSome then .resolved else .opened

/-- `ON CONFLICT … DO UPDATE` (lines 194–209). -/
def mergeIncident (excluded existing : Incident) : Incident :=
  let closes := existing.resolvedAt = none ∧ excluded.resolvedAt ≠ none
  { existing with
    resolvedAt := existing.resolvedAt.or excluded.resolvedAt
    severity := if closes then excluded.severity else existing.severity
    status := if closes then excluded.status else existing.status }

/-- The `INSERT` of a window (lines 191–213). -/
def upsertIncident (table : IncidentTable) (w : ComponentDownWindow) : IncidentTable :=
  table.upsert (newIncident w) (mergeIncident (newIncident w)) fun _ => rfl

/-- What `reconcileIncidents` counts. -/
structure ReconcileCounts where
  opened : ℕ
  closed : ℕ
  unchanged : ℕ
  deriving DecidableEq

/-- One window of the loop (lines 184–231). -/
def reconcileWindow (state : ReconcileCounts × IncidentTable) (w : ComponentDownWindow) :
    ReconcileCounts × IncidentTable :=
  let (counts, table) := state
  (if (newIncident w).key ∉ table.rows.map Incident.key then
      { counts with opened := counts.opened + 1 }
    else if w.resolvedAt.isSome then { counts with closed := counts.closed + 1 }
    else { counts with unchanged := counts.unchanged + 1 },
    upsertIncident table w)

/-- `reconcileIncidents` (lines 169–235). -/
def reconcileIncidents (up : UpHistory) (start stop : ℤ) (query : K8sResult (List String))
    (table : IncidentTable) : K8sResult ReconcileCounts × IncidentTable :=
  match getComponentDownWindows up start stop query with
  | .error error => (.error error, table)
  | .ok windows =>
    let (counts, after) :=
      windows.foldl reconcileWindow ({ opened := 0, closed := 0, unchanged := 0 }, table)
    (.ok counts, after)

/-! ## The uptime of a month -/

/-- `Date.UTC(year, monthIndex, 1)`; the years up to 99 are of the twentieth century. -/
def dateUTC (year monthIndex : ℤ) : ℤ :=
  let fullYear := if 0 ≤ year ∧ year ≤ 99 then 1900 + year else year
  daysFromCivil (fullYear + monthIndex / 12) (monthIndex % 12 + 1) 1 * 86400000

/-- The month from its start to its end (lines 435–442). -/
def monthBounds (month : String) : K8sResult (ℤ × ℤ) :=
  let fail : K8sResult (ℤ × ℤ) := .error ("month must be 'YYYY-MM', got '" ++ month ++ "'")
  if isMonth month then
    match digits? (month.toList.take 4), digits? (month.toList.drop 5) with
    | some year, some number => .ok (dateUTC year (number - 1), dateUTC year number)
    | _, _ => fail
  else fail

/-- The rows that `computeMonthlyUptime` selects (lines 449–457). -/
def selected (componentIds : List String) (monthStart monthEnd : ℤ) (row : Incident) : Bool :=
  row.componentId ∈ componentIds && row.status = .resolved && row.startedAt < monthEnd &&
    row.resolvedAt.any (monthStart < ·)

/-- What an incident adds to the downtime of a month, in milliseconds (lines 466–468). -/
def clippedMs (monthStart monthEnd : ℤ) (row : Incident) : ℤ :=
  max 0 (min (row.resolvedAt.getD 0) monthEnd - max row.startedAt monthStart)

/-- `MonthlyUptimeReport` (lines 400–411). -/
structure MonthlyUptimeReport where
  orgId : String
  month : String
  slaTier : SlaTier
  slaUptimeTargetPct : ℚ
  totalMinutesInMonth : ℚ
  downtimeMinutes : ℚ
  actualUptimePct : ℚ
  metTarget : Bool
  incidentCount : ℕ
  incidents : List Incident
  deriving DecidableEq

/-- `computeMonthlyUptime` (lines 430–493); `componentIds` are those of the status page. -/
def computeMonthlyUptime (orgId month : String) (slaTier : SlaTier) (componentIds : List String)
    (table : IncidentTable) : K8sResult MonthlyUptimeReport := do
  let (monthStart, monthEnd) ← monthBounds month
  let totalMinutesInMonth := ((monthEnd - monthStart : ℤ) : ℚ) / 60000
  let incidents := (table.rows.filter (selected componentIds monthStart monthEnd)).insertionSort
    fun a b => a.startedAt ≤ b.startedAt
  let downtimeMinutes := (incidents.map fun row =>
    ((clippedMs monthStart monthEnd row : ℤ) : ℚ) / 60000).sum
  let actualUptimePct := if 0 < totalMinutesInMonth then
      max 0 ((1 - downtimeMinutes / totalMinutesInMonth) * 100)
    else 100
  let target := slaUptimeTargetPct slaTier
  return { orgId, month, slaTier, slaUptimeTargetPct := target, totalMinutesInMonth,
           downtimeMinutes, actualUptimePct, metTarget := target ≤ actualUptimePct,
           incidentCount := incidents.length, incidents }

/-! ## Runs -/

/-- A call of `reconcileIncidents`. -/
structure ReconcileCall where
  start : ℤ
  stop : ℤ
  query : K8sResult (List String)

/-- The table after a call. -/
def IncidentTable.next (up : UpHistory) (table : IncidentTable) (call : ReconcileCall) :
    IncidentTable := (reconcileIncidents up call.start call.stop call.query table).2

/-! ## The instants of a range query -/

theorem sampleTimes_getElem? {start stop ts : ℤ} {k : ℕ} :
    (sampleTimes start stop)[k]? = some ts ↔ ts = start + 15 * k ∧ ts ≤ stop := by
  unfold sampleTimes
  rw [List.getElem?_map, Option.map_eq_some_iff]
  constructor
  · rintro ⟨j, hj, rfl⟩
    obtain ⟨hlt, hget⟩ := List.getElem?_eq_some_iff.mp hj
    rw [List.getElem_range] at hget
    rw [List.length_range] at hlt
    subst hget
    exact ⟨rfl, by omega⟩
  · rintro ⟨rfl, hle⟩
    refine ⟨k, ?_, rfl⟩
    rw [List.getElem?_range]
    omega

end ChatmanEcosystem.Console.Incidents
