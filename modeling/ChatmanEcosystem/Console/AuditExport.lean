import ChatmanEcosystem.Common.Keyset
import ChatmanEcosystem.Console.AuditChain
import Mathlib.Data.Prod.Lex

/-!
# The audit export

Model of `queryAuditLogSince` (`platform-console/app/lib/audit-db.ts`, lines
843–925) and of a reader that polls it for one organisation while
`persistAuditLogEntry` commits entries. A poll is one `SELECT`, which sees what
has been committed; the reader passes back the last cursor it has received. The
column `inserted_at` is left out, since the database sets it and nothing reads it.

Results:

* `feed_poll`, `feed_persist`: the reader is a reader of a `Keyset.Feed`.
* `exportsAll_iff`: the runs in which every row that an empty page follows is returned by exactly
  one poll.
-/

namespace ChatmanEcosystem.Console.AuditExport

open Common Js Rust

/-- `AuditLogRow` as `toAuditLogRow` makes it (lines 911–925). -/
structure AuditLogRow where
  id : ℕ
  requestId : String
  ts : String
  actor : String
  method : String
  path : String
  status : ℤ
  castleReceiptDigest : Option Text
  impersonatedBy : Option Text
  impersonationSessionId : Option Text
  orgId : Option Text
  deriving DecidableEq

/-- `AuditLogSinceResult` (lines 823–827). -/
structure AuditLogSinceResult where
  rows : List AuditLogRow
  nextCursor : Option String
  deriving DecidableEq

section Model

variable (js : JsRuntime) (sha256 : String → String) (timestamptz : String → Option ℤ)

/-- `toAuditLogRow` (lines 911–925). -/
def toAuditLogRow (row : AuditRow) : AuditLogRow where
  id := row.id
  requestId := row.requestId
  ts := js.toISOString row.ts
  actor := row.actor
  method := row.method
  path := row.path
  status := row.status
  castleReceiptDigest := row.castleReceiptDigest
  impersonatedBy := row.impersonatedBy
  impersonationSessionId := row.impersonationSessionId
  orgId := row.orgId

/-- `cursorTs` and `cursorId` of a `since` (lines 857–873); what is not a number counts as absent.
The cursors that a poll returns end in a decimal number, and `Number` is modelled for such texts. -/
def parseSince (since : Option String) : Option (String × Option ℤ) :=
  (since.filter (· ≠ "")).map fun since =>
    match splitLast '|' since.toList with
    | some (c :: ts, id) => (String.ofList (c :: ts), digits? id)
    | _ => (since, none)

/-- The cursor as the database reads it. -/
def position : Option (String × Option ℤ) → Except String (Option (ℤ × Option ℤ))
  | none => .ok none
  | some (ts, id) =>
    match timestamptz ts with
    | none => .error ("invalid input syntax for type timestamp with time zone: \"" ++ ts ++ "\"")
    | some ts => .ok (some (ts, id))

/-- `(ts, id) > ($1, $2)`, or `ts > $1` (lines 877–883). -/
def isAfter (position : Option (ℤ × Option ℤ)) (row : AuditRow) : Bool :=
  match position with
  | none => true
  | some (ts, some id) => ts < row.ts || (ts = row.ts && id < row.id)
  | some (ts, none) => ts < row.ts

/-- What `ORDER BY ts ASC, id ASC` compares. -/
def key (row : AuditRow) : ℤ ×ₗ ℕ := toLex (row.ts, row.id)

/-- The rows that the `SELECT` finds (lines 874–900). -/
def selectSince (position : Option (ℤ × Option ℤ)) (limit : ℕ) (orgId : Option Text)
    (log : List AuditRow) : List AuditRow :=
  ((log.filter fun row =>
    isAfter position row && orgId.all fun orgId => row.orgId = some orgId).mergeSort
      fun a b => key a ≤ key b).take limit

/-- `queryAuditLogSince` (lines 843–908) over the committed rows; `pool` tells whether the database
can be reached. -/
def queryAuditLogSince (pool : Bool) (since : Option String) (limit : ℤ) (orgId : Option Text)
    (log : List AuditRow) : Except String AuditLogSinceResult :=
  if pool = false then
    .error ("audit log database not configured or unreachable -- see the stdout log " ++
      "(kubectl logs) for this environment's real-time record")
  else
    match position timestamptz (parseSince since) with
    | .error error => .error error
    | .ok position =>
      if limit < 0 then .error "LIMIT must not be negative"
      else
        let rows := (selectSince position limit.toNat orgId log).map (toAuditLogRow js)
        .ok { rows, nextCursor := rows.getLast?.map fun last =>
          last.ts ++ "|" ++ numberToString last.id }

/-! ## The reader -/

/-- The log, the last cursor that the reader has received, and the rows that its polls have
returned. -/
structure Exporter where
  log : AuditTable
  cursor : Option String
  delivered : List AuditLogRow

/-- An entry is committed or rolled back, or the reader polls. -/
inductive Event
  | persist (entry : AuditLogEntry) (skipped : ℕ) (commits : Bool)
  | poll (pool : Bool) (limit : ℤ)

/-- The row of an entry that is committed, if the database can read its timestamp. -/
def Exporter.inserted (exporter : Exporter) (entry : AuditLogEntry)
    (skipped : ℕ) : Option AuditRow :=
  (timestamptz entry.timestamp).map fun ts =>
    insertedRow sha256 (exporter.log.nextId + skipped) ts (tailHash exporter.log.rows) entry

variable (orgId : Text)

/-- What a poll of the reader answers. -/
def Exporter.query (exporter : Exporter) (pool : Bool) (limit : ℤ) :
    Except String AuditLogSinceResult :=
  queryAuditLogSince js timestamptz pool exporter.cursor limit (some orgId) exporter.log.rows

/-- The state after an event. -/
def Exporter.next (exporter : Exporter) : Event → Exporter
  | .persist entry skipped commits =>
    { exporter with
      log := exporter.log.next js sha256 timestamptz (.persist entry skipped commits) }
  | .poll pool limit =>
    match exporter.query js timestamptz orgId pool limit with
    | .error _ => exporter
    | .ok result =>
      { exporter with
        cursor := result.nextCursor.or exporter.cursor
        delivered := exporter.delivered ++ result.rows }

/-- No entry, no poll. -/
def Exporter.init : Exporter := { log := .empty, cursor := none, delivered := [] }

/-! ## The property and the condition -/

/-- The event is a poll that answers an empty page. -/
def EmptyPage (exporter : Exporter) : Event → Prop
  | .poll pool limit => ∃ result, exporter.query js timestamptz orgId pool limit = .ok result ∧
    result.rows = []
  | .persist _ _ _ => False

/-- From an empty page on, every row of the organisation that was committed before has been returned
by exactly one poll. -/
def ExportsAll (events : List Event) : Prop :=
  ∀ pre event mid post, events = pre ++ event :: (mid ++ post) →
    let before := run (Exporter.next js sha256 timestamptz orgId) .init pre
    let later := run (Exporter.next js sha256 timestamptz orgId) .init (pre ++ event :: mid)
    EmptyPage js timestamptz orgId before event → ∀ row ∈ before.log.rows, row.orgId = some orgId →
      (later.delivered.map (·.id)).count row.id = 1

/-- The row comes after the cursor of the reader. -/
def Exporter.ahead (exporter : Exporter) (row : AuditRow) : Bool :=
  match position timestamptz (parseSince exporter.cursor) with
  | .error _ => false
  | .ok position => isAfter position row

/-- An entry of the organisation is committed only ahead of the cursor. -/
def InOrder (exporter : Exporter) : Event → Prop
  | .persist entry skipped true => ∀ row ∈ exporter.inserted sha256 timestamptz entry skipped,
    row.orgId = some orgId → exporter.ahead timestamptz row = true
  | _ => True

instance (exporter : Exporter) (event : Event) :
    Decidable (InOrder sha256 timestamptz orgId exporter event) := by
  unfold InOrder; split <;> infer_instance

/-- A poll that asks for no row finds none left. -/
def NoneLeft (exporter : Exporter) : Event → Prop
  | .poll _ limit => limit = 0 → ∀ row ∈ exporter.log.rows, row.orgId = some orgId →
    exporter.ahead timestamptz row = false
  | .persist _ _ _ => True

/-- The database reads the timestamp of the entry as an instant that it reads again from what
`toISOString` writes of it. -/
def Event.Rereads : Event → Prop
  | .persist entry _ _ => ∀ ts ∈ timestamptz entry.timestamp,
    timestamptz (js.toISOString ts) = some ts
  | .poll _ _ => True

instance (event : Event) : Decidable (event.Rereads js timestamptz) := by
  unfold Event.Rereads; split <;> infer_instance

/-! ## The reader as a reader of keys -/

/-- The key of the reader's cursor. -/
def Exporter.cursorKey (exporter : Exporter) : Option (ℤ ×ₗ ℕ) :=
  match position timestamptz (parseSince exporter.cursor) with
  | .ok (some (ts, some id)) => some (toLex (ts, id.toNat))
  | _ => none

/-- The key of a row that a poll has returned. -/
def AuditLogRow.key (row : AuditLogRow) : ℤ ×ₗ ℕ := toLex ((timestamptz row.ts).getD 0, row.id)

/-- The keys of the organisation's rows, of the cursor and of the returned rows. -/
def Exporter.feed (exporter : Exporter) : Keyset.Feed (ℤ ×ₗ ℕ) where
  keys := (exporter.log.rows.filter fun row => row.orgId = some orgId).map key
  cursor := exporter.cursorKey timestamptz
  delivered := exporter.delivered.map (AuditLogRow.key timestamptz)

/-- The cursor that a poll returns for its last row. -/
def encode (row : AuditRow) : String := js.toISOString row.ts ++ "|" ++ numberToString row.id

/-- The ids are different and grow, every timestamp is read again as it was written, and the cursor
is one that a poll has returned. -/
structure Exporter.Sound (exporter : Exporter) : Prop where
  ids : (exporter.log.rows.map (·.id)).Nodup
  fresh : ∀ row ∈ exporter.log.rows, row.id < exporter.log.nextId
  rereads : ∀ row ∈ exporter.log.rows, timestamptz (js.toISOString row.ts) = some row.ts
  cursor : ∀ since ∈ exporter.cursor, ∃ row ∈ exporter.log.rows, since = encode js row
  feed : (exporter.feed timestamptz orgId).Sound

end Model

variable {js : JsRuntime} {sha256 : String → String} {timestamptz : String → Option ℤ}
  {orgId : Text}
  {exporter : Exporter}

/-! ### Cursors -/

variable {row : AuditRow}

/-- A cursor that a poll has returned is read as the key of its row. -/
theorem position_encode (hiso : ∀ instant, js.toISOString instant ≠ "")
    (h : timestamptz (js.toISOString row.ts) = some row.ts) :
    position timestamptz (parseSince (some (encode js row))) =
      .ok (some (row.ts, some (row.id : ℤ))) := by
  have hne : encode js row ≠ "" := by simp [encode]
  have hbar : '|' ∉ (numberToString row.id).toList := by
    intro hmem
    rcases mem_numberToString hmem with hdigit | hminus
    · revert hdigit; decide
    · revert hminus; decide
  have hsplit : splitLast '|' (encode js row).toList =
      some ((js.toISOString row.ts).toList, (numberToString row.id).toList) := by
    have htext : (encode js row).toList =
        (js.toISOString row.ts).toList ++ '|' :: (numberToString row.id).toList := by
      simp [encode, String.toList_append]
    rw [htext, splitLast_append _ hbar]
  obtain ⟨c, rest, hchars⟩ : ∃ c rest, (js.toISOString row.ts).toList = c :: rest :=
    List.exists_cons_of_ne_nil fun hnil => hiso row.ts (String.toList_eq_nil_iff.mp hnil)
  have hparse : parseSince (some (encode js row)) =
      some (js.toISOString row.ts, some (row.id : ℤ)) := by
    rw [parseSince, Option.filter_some, if_pos (decide_eq_true hne), Option.map_some, hsplit,
      hchars]
    show some (String.ofList (c :: rest), _) = _
    rw [← hchars, String.ofList_toList, digits?_numberToString]
  rw [hparse]
  show (match timestamptz (js.toISOString row.ts) with
    | none => _
    | some ts => _) = _
  rw [h]

theorem key_lt_iff {a b : AuditRow} : key a < key b ↔ a.ts < b.ts ∨ a.ts = b.ts ∧ a.id < b.id :=
  Prod.Lex.lt_iff

theorem cursorKey_encode (hiso : ∀ instant, js.toISOString instant ≠ "")
    (h : timestamptz (js.toISOString row.ts) = some row.ts)
    (hcursor : exporter.cursor = some (encode js row)) :
    exporter.cursorKey timestamptz = some (key row) := by
  rw [Exporter.cursorKey, hcursor, position_encode hiso h]
  rfl

/-- A poll's condition on the rows is that they come after the key of the cursor. -/
theorem isAfter_cursor (hiso : ∀ instant, js.toISOString instant ≠ "")
    (h : exporter.Sound js timestamptz orgId) :
    ∃ found, position timestamptz (parseSince exporter.cursor) = .ok found ∧ ∀ row,
      isAfter found row = decide (Keyset.After (exporter.cursorKey timestamptz) (key row)) := by
  cases hcursor : exporter.cursor with
  | none =>
    refine ⟨none, rfl, fun row => ?_⟩
    have hkey : exporter.cursorKey timestamptz = none := by rw [Exporter.cursorKey, hcursor]; rfl
    simp [hkey, isAfter, Keyset.After]
  | some since =>
    obtain ⟨last, hlast, rfl⟩ := h.cursor since hcursor
    refine ⟨_, position_encode hiso (h.rereads last hlast), fun row => ?_⟩
    rw [cursorKey_encode hiso (h.rereads last hlast) hcursor]
    simp [isAfter, Keyset.After, key_lt_iff]

theorem ahead_eq (hiso : ∀ instant, js.toISOString instant ≠ "")
    (h : exporter.Sound js timestamptz orgId) (row : AuditRow) :
    exporter.ahead timestamptz row =
      decide (Keyset.After (exporter.cursorKey timestamptz) (key row)) := by
  obtain ⟨found, hposition, hafter⟩ := isAfter_cursor hiso h
  rw [Exporter.ahead, hposition]
  exact hafter row

/-! ### A poll -/

/-- The keys of the rows that a poll finds are a page. -/
theorem map_key_selectSince {found : Option (ℤ × Option ℤ)}
    (hafter : ∀ row, isAfter found row =
      decide (Keyset.After (exporter.cursorKey timestamptz) (key row))) (limit : ℕ) :
    (selectSince found limit (some orgId) exporter.log.rows).map key =
      Keyset.page (exporter.cursorKey timestamptz) limit
        (exporter.feed timestamptz orgId).keys := by
  rw [selectSince, Keyset.page, List.map_take,
    List.map_mergeSort (s := fun a b => decide (a ≤ b)) fun _ _ _ _ => rfl]
  refine congrArg (fun keys => (List.mergeSort keys _).take limit) ?_
  rw [Exporter.feed, List.filter_map, List.filter_filter]
  refine congrArg _ (List.filter_congr fun row _ => ?_)
  rw [hafter row]
  rfl

/-- A poll fails, or it returns the rows of a page with the cursor of the last. -/
theorem query_cases (hiso : ∀ instant, js.toISOString instant ≠ "")
    (h : exporter.Sound js timestamptz orgId) (pool : Bool) (limit : ℤ) :
    (∃ error, exporter.query js timestamptz orgId pool limit = .error error) ∨
    ∃ found, found ⊆ exporter.log.rows ∧
      found.map key = Keyset.page (exporter.cursorKey timestamptz) limit.toNat
        (exporter.feed timestamptz orgId).keys ∧ 0 ≤ limit ∧
      exporter.query js timestamptz orgId pool limit = .ok {
        rows := found.map (toAuditLogRow js)
        nextCursor := found.getLast?.map (encode js) } := by
  obtain ⟨found, hposition, hafter⟩ := isAfter_cursor hiso h
  cases pool with
  | false => exact .inl ⟨_, rfl⟩
  | true =>
    by_cases hlimit : limit < 0
    · refine .inl ⟨"LIMIT must not be negative", ?_⟩
      rw [Exporter.query, queryAuditLogSince, if_neg (by decide), hposition]
      exact if_pos hlimit
    · refine .inr ⟨selectSince found limit.toNat (some orgId) exporter.log.rows, ?_,
        map_key_selectSince hafter limit.toNat, not_lt.mp hlimit, ?_⟩
      · intro row hrow
        exact List.mem_of_mem_filter (List.mem_mergeSort.mp (List.mem_of_mem_take hrow))
      · rw [Exporter.query, queryAuditLogSince, if_neg (by decide), hposition]
        refine (if_neg hlimit).trans ?_
        simp only [List.getLast?_map, Option.map_map]
        rfl

/-- The keys of returned rows are the keys of the rows. -/
theorem map_key_toAuditLogRow {found : List AuditRow}
    (h : ∀ row ∈ found, timestamptz (js.toISOString row.ts) = some row.ts) :
    (found.map (toAuditLogRow js)).map (AuditLogRow.key timestamptz) = found.map key := by
  rw [List.map_map]
  refine List.map_congr_left fun row hrow => ?_
  show toLex ((timestamptz (js.toISOString row.ts)).getD 0, row.id) = _
  rw [h row hrow]
  rfl

variable (sha256) in
/-- A poll fails and changes nothing, or the reader reads a page. -/
theorem feed_poll (hiso : ∀ instant, js.toISOString instant ≠ "")
    (h : exporter.Sound js timestamptz orgId) (pool : Bool) (limit : ℤ) :
    exporter.next js sha256 timestamptz orgId (.poll pool limit) = exporter ∨
      (exporter.next js sha256 timestamptz orgId (.poll pool limit)).feed timestamptz orgId =
        (exporter.feed timestamptz orgId).poll limit.toNat := by
  rcases query_cases hiso h pool limit with ⟨error, hquery⟩ | ⟨found, hsubset, hpage, -, hquery⟩
  · exact .inl (by rw [Exporter.next, hquery])
  · refine .inr ?_
    rw [Exporter.next, hquery]
    have hcursor : Exporter.cursorKey timestamptz { exporter with
        cursor := (found.getLast?.map (encode js)).or exporter.cursor
        delivered := exporter.delivered ++ found.map (toAuditLogRow js) } =
        ((found.map key).getLast?).or (exporter.cursorKey timestamptz) := by
      cases hlast : found.getLast? with
      | none =>
        rw [List.getLast?_map, hlast]
        rfl
      | some last =>
        rw [List.getLast?_map, hlast]
        exact cursorKey_encode hiso (h.rereads last (hsubset (List.mem_of_getLast? hlast))) rfl
    have hdelivered : (exporter.delivered ++ found.map (toAuditLogRow js)).map
        (AuditLogRow.key timestamptz) =
        exporter.delivered.map (AuditLogRow.key timestamptz) ++ found.map key := by
      rw [List.map_append, map_key_toAuditLogRow fun row hrow => h.rereads row (hsubset hrow)]
    rw [hpage] at hcursor hdelivered
    simp only [Exporter.feed, Keyset.Feed.poll]
    rw [hcursor, hdelivered]
    rfl

/-! ### A commit -/

variable {entry : AuditLogEntry} {skipped : ℕ}

/-- A commit appends its row. -/
theorem next_persist (h : exporter.inserted sha256 timestamptz entry skipped = some row) :
    exporter.next js sha256 timestamptz orgId (.persist entry skipped true) =
      { exporter with
        log := { rows := exporter.log.rows ++ [row],
                 nextId := exporter.log.nextId + skipped + 1 } } := by
  obtain ⟨ts, hts, rfl⟩ := Option.map_eq_some_iff.mp h
  rw [Exporter.next, AuditTable.next, hts]
  rfl

/-- A commit adds the key of its row, if the row is of the organisation. -/
theorem feed_persist (h : exporter.inserted sha256 timestamptz entry skipped = some row) :
    (exporter.next js sha256 timestamptz orgId (.persist entry skipped true)).feed timestamptz
      orgId =
      if row.orgId = some orgId then (exporter.feed timestamptz orgId).add (key row)
      else exporter.feed timestamptz orgId := by
  rw [next_persist h]
  split_ifs with horg <;>
    simp [Exporter.feed, Exporter.cursorKey, Keyset.Feed.add, horg]

/-- An insertion that is rolled back or fails changes nothing. -/
theorem next_persist_of_none {commits : Bool}
    (h : commits = true → exporter.inserted sha256 timestamptz entry skipped = none) :
    exporter.next js sha256 timestamptz orgId (.persist entry skipped commits) = exporter := by
  cases commits with
  | false => rfl
  | true =>
    rw [Exporter.next, AuditTable.next, Option.map_eq_none_iff.mp (h rfl)]

theorem inserted_id (h : exporter.inserted sha256 timestamptz entry skipped = some row) :
    row.id = exporter.log.nextId + skipped ∧ timestamptz entry.timestamp = some row.ts := by
  obtain ⟨ts, hts, rfl⟩ := Option.map_eq_some_iff.mp h
  exact ⟨rfl, hts⟩

/-- The key of a new row is new. -/
theorem Exporter.Sound.key_notMem (h : exporter.Sound js timestamptz orgId) (row : AuditRow)
    (hid : exporter.log.nextId ≤ row.id) : key row ∉ (exporter.feed timestamptz orgId).keys := by
  intro hmem
  obtain ⟨old, hold, hkey⟩ := List.mem_map.mp hmem
  have hlt := h.fresh old (List.mem_of_mem_filter hold)
  have hsame : old.id = row.id := congrArg (fun k => (ofLex k).2) hkey
  omega

/-! ## What an event preserves -/

variable (sha256) in
theorem Exporter.Sound.next (hiso : ∀ instant, js.toISOString instant ≠ "")
    (h : exporter.Sound js timestamptz orgId) (event : Event)
    (hevent : event.Rereads js timestamptz) :
    (exporter.next js sha256 timestamptz orgId event).Sound js timestamptz orgId := by
  cases event with
  | persist entry skipped commits =>
    by_cases hnone : commits = true → exporter.inserted sha256 timestamptz entry skipped = none
    · rw [next_persist_of_none hnone]
      exact h
    · obtain ⟨rfl, hsome⟩ := Classical.not_imp.mp hnone
      obtain ⟨row, hrow⟩ := Option.ne_none_iff_exists'.mp hsome
      obtain ⟨hid, hts⟩ := inserted_id hrow
      have hfeed : (exporter.next js sha256 timestamptz orgId (.persist entry skipped true)).feed
          timestamptz orgId = _ := feed_persist hrow
      have hnew := h.key_notMem row (by omega)
      rw [next_persist hrow] at hfeed ⊢
      refine ⟨?_, ?_, ?_, ?_, ?_⟩
      · rw [List.map_append]
        refine List.nodup_append.mpr ⟨h.ids, List.nodup_singleton _, fun a ha b hb hab => ?_⟩
        obtain ⟨old, hold, rfl⟩ := List.mem_map.mp ha
        have hlt := h.fresh old hold
        have hlast : b = row.id := List.mem_singleton.mp hb
        omega
      · intro other hother
        show other.id < exporter.log.nextId + skipped + 1
        rcases List.mem_append.mp hother with hold | hlast
        · have hlt := h.fresh other hold
          omega
        · rw [List.mem_singleton.mp hlast, hid]
          omega
      · refine List.forall_mem_append.mpr ⟨h.rereads, fun other hother => ?_⟩
        rw [List.mem_singleton.mp hother]
        exact hevent row.ts hts
      · intro since hsince
        obtain ⟨last, hlast, hencode⟩ := h.cursor since hsince
        exact ⟨last, List.mem_append_left _ hlast, hencode⟩
      · rw [hfeed]
        split_ifs
        · exact h.feed.add hnew
        · exact h.feed
  | poll pool limit =>
    rcases feed_poll sha256 hiso h pool limit with hsame | hfeed
    · rw [hsame]
      exact h
    · rcases query_cases hiso h pool limit with ⟨error, hquery⟩ | ⟨found, hsubset, -, -, hquery⟩
      · rw [Exporter.next, hquery]
        exact h
      · have hnext := h.feed.poll limit.toNat
        rw [← hfeed] at hnext
        rw [Exporter.next, hquery] at hnext ⊢
        refine ⟨h.ids, h.fresh, h.rereads, fun since hsince => ?_, hnext⟩
        cases hlast : found.getLast? with
        | none =>
          rw [hlast] at hsince
          exact h.cursor since hsince
        | some last =>
          rw [hlast] at hsince
          exact ⟨last, hsubset (List.mem_of_getLast? hlast), (Option.some.inj hsince).symm⟩

/-- A step keeps the feed complete exactly when it is in order, and does not make it so. -/
theorem complete_next (hiso : ∀ instant, js.toISOString instant ≠ "")
    (h : exporter.Sound js timestamptz orgId) (event : Event) :
    ((exporter.next js sha256 timestamptz orgId event).feed timestamptz orgId).Complete ↔
      (exporter.feed timestamptz orgId).Complete ∧
        InOrder sha256 timestamptz orgId exporter event := by
  cases event with
  | poll pool limit =>
    refine Iff.trans ?_ (and_iff_left trivial).symm
    rcases feed_poll sha256 hiso h pool limit with hsame | hfeed
    · rw [hsame]
    · rw [hfeed]
      exact Keyset.Feed.complete_poll _ _
  | persist entry skipped commits =>
    by_cases hnone : commits = true → exporter.inserted sha256 timestamptz entry skipped = none
    · rw [next_persist_of_none hnone]
      refine (and_iff_left ?_).symm
      cases commits with
      | false => trivial
      | true =>
        intro row hrow
        rw [hnone rfl] at hrow
        cases hrow
    · obtain ⟨rfl, hsome⟩ := Classical.not_imp.mp hnone
      obtain ⟨row, hrow⟩ := Option.ne_none_iff_exists'.mp hsome
      have hnew := h.key_notMem row (by rw [(inserted_id hrow).1]; omega)
      have horder : InOrder sha256 timestamptz orgId exporter (.persist entry skipped true) ↔
          (row.orgId = some orgId → Keyset.After (exporter.cursorKey timestamptz) (key row)) := by
        simp only [InOrder, hrow, Option.mem_def, Option.some.injEq, forall_eq', ahead_eq hiso h,
          decide_eq_true_eq]
      rw [feed_persist hrow, horder]
      split_ifs with horg
      · rw [h.feed.complete_add hnew]
        exact and_congr_right fun _ => ⟨fun hafter _ => hafter, fun hafter => hafter horg⟩
      · exact (and_iff_left fun hsame => absurd hsame horg).symm

theorem sound_init : Exporter.init.Sound js timestamptz orgId where
  ids := List.nodup_nil
  fresh _ hrow := (by cases hrow)
  rereads _ hrow := (by cases hrow)
  cursor _ hsince := (by cases hsince)
  feed :=
    { keys := List.nodup_nil
      nodup := List.nodup_nil
      subset := List.nil_subset _
      before := fun _ hkey => (by cases hkey) }

/-! ## Rows and returned rows -/

/-- A row is known by its id. -/
theorem Exporter.Sound.eq_of_id (h : exporter.Sound js timestamptz orgId) {a b : AuditRow}
    (ha : a ∈ exporter.log.rows) (hb : b ∈ exporter.log.rows) (hid : a.id = b.id) : a = b :=
  List.inj_on_of_nodup_map h.ids ha hb hid

variable (timestamptz orgId) in
/-- The ids of the returned rows are those of their keys. -/
theorem map_id_delivered (exporter : Exporter) :
    exporter.delivered.map (·.id) =
      (exporter.feed timestamptz orgId).delivered.map fun k => (ofLex k).2 := by
  rw [Exporter.feed, List.map_map]
  rfl

/-- A row of the organisation is returned at most once, and once if its key is delivered. -/
theorem Exporter.Sound.count_eq_one_iff (h : exporter.Sound js timestamptz orgId)
    (hrow : row ∈ exporter.log.rows) :
    (exporter.delivered.map (·.id)).count row.id = 1 ↔
      key row ∈ (exporter.feed timestamptz orgId).delivered := by
  have hkeys : ∀ k ∈ (exporter.feed timestamptz orgId).delivered, ∃ other ∈ exporter.log.rows,
      key other = k := by
    intro k hk
    obtain ⟨other, hother, hkey⟩ := List.mem_map.mp (h.feed.subset hk)
    exact ⟨other, List.mem_of_mem_filter hother, hkey⟩
  have hnodup : (exporter.delivered.map (·.id)).Nodup := by
    rw [map_id_delivered timestamptz orgId]
    refine h.feed.nodup.map_on fun a ha b hb hid => ?_
    obtain ⟨rowA, hrowA, rfl⟩ := hkeys a ha
    obtain ⟨rowB, hrowB, rfl⟩ := hkeys b hb
    rw [h.eq_of_id hrowA hrowB hid]
  have hmem : row.id ∈ exporter.delivered.map (·.id) ↔
      key row ∈ (exporter.feed timestamptz orgId).delivered := by
    rw [map_id_delivered timestamptz orgId, List.mem_map]
    constructor
    · rintro ⟨k, hk, hid⟩
      obtain ⟨other, hother, rfl⟩ := hkeys k hk
      rwa [← h.eq_of_id hother hrow hid]
    · exact fun hk => ⟨key row, hk, rfl⟩
  rw [← hmem]
  constructor
  · exact fun hcount => List.count_pos_iff.mp (by omega)
  · exact fun hdelivered => List.count_eq_one_of_mem hnodup hdelivered

/-- The keys of the feed are those of the organisation's rows. -/
theorem forall_keys {P : ℤ ×ₗ ℕ → Prop} : (∀ k ∈ (exporter.feed timestamptz orgId).keys, P k) ↔
    ∀ row ∈ exporter.log.rows, row.orgId = some orgId → P (key row) := by
  simp only [Exporter.feed, List.forall_mem_map, List.mem_filter, decide_eq_true_eq, and_imp]

/-! ## Runs -/

variable (sha256) in
/-- A poll that answers an empty page changes nothing, and every row has been delivered exactly if
the feed is complete and none is left. -/
theorem drained (hiso : ∀ instant, js.toISOString instant ≠ "")
    (h : exporter.Sound js timestamptz orgId) {event : Event}
    (hempty : EmptyPage js timestamptz orgId exporter event) :
    exporter.next js sha256 timestamptz orgId event = exporter ∧
    ((∀ row ∈ exporter.log.rows, row.orgId = some orgId →
        key row ∈ (exporter.feed timestamptz orgId).delivered) ↔
      (exporter.feed timestamptz orgId).Complete ∧ NoneLeft timestamptz orgId exporter event) := by
  cases event with
  | persist entry skipped commits => exact hempty.elim
  | poll pool limit =>
    obtain ⟨result, hresult, hrows⟩ := hempty
    rcases query_cases hiso h pool limit with ⟨error, hquery⟩ | ⟨found, -, hpage, hlimit, hquery⟩
    · cases hquery.symm.trans hresult
    · obtain rfl := Except.ok.inj (hquery.symm.trans hresult)
      obtain rfl : found = [] := List.map_eq_nil_iff.mp hrows
      refine ⟨?_, ?_⟩
      · rw [Exporter.next, hquery]
        simp
      · rw [← forall_keys (P := fun k => k ∈ (exporter.feed timestamptz orgId).delivered),
          h.feed.drained_iff hpage.symm]
        refine and_congr_right fun _ => ?_
        have hzero : limit.toNat = 0 ↔ limit = 0 := by omega
        rw [hzero, forall_keys]
        simp only [NoneLeft, ahead_eq hiso h, decide_eq_false_iff_not]
        rfl

theorem delivered_next {k : ℤ ×ₗ ℕ} (event : Event)
    (h : k ∈ (exporter.feed timestamptz orgId).delivered) :
    k ∈ ((exporter.next js sha256 timestamptz orgId event).feed timestamptz orgId).delivered := by
  cases event with
  | persist entry skipped commits => exact h
  | poll pool limit =>
    rw [Exporter.next]
    split
    · exact h
    · show k ∈ (exporter.delivered ++ _).map _
      rw [List.map_append]
      exact List.mem_append_left _ h

theorem rows_next (event : Event) (h : row ∈ exporter.log.rows) :
    row ∈ (exporter.next js sha256 timestamptz orgId event).log.rows := by
  cases event with
  | persist entry skipped commits =>
    by_cases hnone : commits = true → exporter.inserted sha256 timestamptz entry skipped = none
    · rw [next_persist_of_none hnone]
      exact h
    · obtain ⟨rfl, hsome⟩ := Classical.not_imp.mp hnone
      obtain ⟨new, hnew⟩ := Option.ne_none_iff_exists'.mp hsome
      rw [next_persist hnew]
      exact List.mem_append_left _ h
  | poll pool limit =>
    rw [Exporter.next]
    split <;> exact h

/-- The runs in which, from an empty page on, every row of the organisation that was committed
before has been returned by exactly one poll: those in which, before an empty page, every entry of
the organisation was committed ahead of the cursor, and an empty page that was asked for finds no
row left. -/
theorem exportsAll_iff (js : JsRuntime) (sha256 : String → String) (timestamptz : String → Option ℤ)
    (orgId : Text) (hiso : ∀ instant, js.toISOString instant ≠ "") (events : List Event)
    (hrereads : ∀ event ∈ events, event.Rereads js timestamptz) :
    ExportsAll js sha256 timestamptz orgId events ↔
      ∀ pre event post, events = pre ++ event :: post →
        EmptyPage js timestamptz orgId
          (run (Exporter.next js sha256 timestamptz orgId) .init pre) event →
        Along (Exporter.next js sha256 timestamptz orgId)
          (InOrder sha256 timestamptz orgId) .init pre ∧
          NoneLeft timestamptz orgId
            (run (Exporter.next js sha256 timestamptz orgId) .init pre) event := by
  have hsound : ∀ pre post, events = pre ++ post →
      (run (Exporter.next js sha256 timestamptz orgId) .init pre).Sound js timestamptz orgId := by
    intro pre post hevents
    refine run_invariant_of (fun _ event h => h.next sha256 hiso event)
      sound_init fun event hevent => ?_
    exact hrereads event (hevents ▸ List.mem_append_left _ hevent)
  have hcomplete : ∀ pre post, events = pre ++ post →
      (((run (Exporter.next js sha256 timestamptz orgId) .init pre).feed timestamptz
        orgId).Complete ↔
        Along (Exporter.next js sha256 timestamptz orgId) (InOrder sha256 timestamptz orgId) .init
          pre) := by
    intro pre post hevents
    have hrun : ((run (Exporter.next js sha256 timestamptz orgId) .init pre).feed
        timestamptz orgId).Complete ↔ (Exporter.init.feed timestamptz orgId).Complete ∧ _ :=
      run_iff_along (Q := fun exporter : Exporter => (exporter.feed timestamptz orgId).Complete)
        (fun _ event h => h.next sha256 hiso event) (fun _ event h _ => complete_next hiso h event)
        sound_init fun event hevent => hrereads event (hevents ▸ List.mem_append_left _ hevent)
    rw [hrun]
    exact and_iff_right fun _ hkey => (by cases hkey)
  constructor
  · intro hall pre event post hevents hempty
    have hbefore := hsound pre (event :: post) hevents
    obtain ⟨hnext, hdrained⟩ := drained sha256 hiso hbefore hempty
    rw [← hcomplete pre (event :: post) hevents]
    refine hdrained.mp fun row hrow horg => ?_
    have hcount := hall pre event [] post hevents hempty row hrow horg
    rw [run_append, run_cons, run_nil, hnext] at hcount
    exact (hbefore.count_eq_one_iff hrow).mp hcount
  · intro hcondition pre event mid post hevents before later hempty row hrow horg
    have hbefore := hsound pre (event :: (mid ++ post)) hevents
    have hlater := hsound (pre ++ event :: mid) post (by rw [hevents, List.append_assoc]; rfl)
    obtain ⟨horder, hleft⟩ := hcondition pre event (mid ++ post) hevents hempty
    have hkey := ((drained sha256 hiso hbefore hempty).2.mpr
      ⟨(hcomplete pre _ hevents).mpr horder, hleft⟩) row hrow horg
    have hrun : later = run (Exporter.next js sha256 timestamptz orgId) before (event :: mid) :=
      run_append _ _ _ _
    refine (hlater.count_eq_one_iff ?_).mpr ?_
    · show row ∈ later.log.rows
      rw [hrun]
      exact run_invariant (I := fun exporter : Exporter => row ∈ exporter.log.rows)
        (fun _ event h => rows_next event h) hrow _
    · show key row ∈ (later.feed timestamptz orgId).delivered
      rw [hrun]
      exact run_invariant (I := fun exporter : Exporter => key row ∈
        (exporter.feed timestamptz orgId).delivered)
        (fun _ event h => delivered_next event h) hkey _

/-! ## Commits in order, and a late one -/

/-- The organisation `acme`. -/
def acme : Text := ⟨"acme", by decide⟩

/-- A request of the organisation, some seconds after the epoch. -/
def request (seconds : ℤ) : AuditLogEntry :=
  { plainEntry with timestamp := isoFormat (seconds * 1000), orgId := some acme }

/-- Requests that are committed in the order of their timestamps. -/
theorem exportsAll_ordered :
    let events : List Event := [.persist (request 1) 0 true, .poll true 500,
      .persist (request 2) 3 true, .poll true 500, .poll true 500]
    (run (Exporter.next gregorian id isoParse acme) .init events).delivered.map (·.id) = [1, 5] ∧
    ExportsAll gregorian id isoParse acme events := by
  intro events
  have hiso : ∀ instant, gregorian.toISOString instant ≠ "" := by simp [gregorian, isoFormat]
  refine ⟨by decide +kernel, (exportsAll_iff gregorian id isoParse acme hiso events (by
    decide +kernel)).mpr fun pre event post hevents _ => ⟨?_, ?_⟩⟩
  · have hall : Along (Exporter.next gregorian id isoParse acme) (InOrder id isoParse acme) .init
        events := by decide +kernel
    rw [hevents] at hall
    exact (along_append.mp hall).1
  · have hmem : event ∈ events := hevents ▸ List.mem_append_right _ List.mem_cons_self
    simp only [events, List.mem_cons, List.not_mem_nil, or_false] at hmem
    rcases hmem with rfl | rfl | rfl | rfl | rfl
    · trivial
    · exact fun hlimit => absurd hlimit (by decide)
    · trivial
    · exact fun hlimit => absurd hlimit (by decide)
    · exact fun hlimit => absurd hlimit (by decide)

/-- A request that is committed after a poll has returned a later one is never returned, and a poll
that asks for no row answers an empty page with a row left. -/
theorem request_skipped :
    let late : List Event := [.persist (request 2) 0 true, .poll true 500,
      .persist (request 1) 0 true, .poll true 500]
    let unasked : List Event := [.persist (request 1) 0 true, .poll true 0]
    ¬ ExportsAll gregorian id isoParse acme late ∧
      ¬ ExportsAll gregorian id isoParse acme unasked := by
  intro late unasked
  refine ⟨fun h => ?_, fun h => ?_⟩
  · have hrows := h (late.take 3) (.poll true 500) [] [] rfl
      ⟨{ rows := [], nextCursor := none }, by decide +kernel, rfl⟩
    revert hrows
    decide +kernel
  · have hrows := h (unasked.take 1) (.poll true 0) [] [] rfl
      ⟨{ rows := [], nextCursor := none }, by decide +kernel, rfl⟩
    revert hrows
    decide +kernel

end ChatmanEcosystem.Console.AuditExport
