import ChatmanEcosystem.Common.Chain
import ChatmanEcosystem.Common.Lines
import ChatmanEcosystem.Common.Run
import ChatmanEcosystem.Console.AuditLog

/-!
# The chain of the audit log

Model of the writers of the chain, `persistAuditLogEntry` and
`purgeAuditLogRowsOlderThan`, and of `verifyAuditChain`
(`platform-console/app/lib/audit-db.ts`, lines 387–430, 1428–1534 and
1183–1263). Every writer is one transaction under the advisory lock, so a run is
a list of transactions, each committed or rolled back.

Results:

* `next_valid_iff`: an insertion keeps a valid chain valid exactly when the entry is rebuilt by
  the verifier; a purge always does.
* `alwaysValid_iff`: the runs in which `verifyAuditChain` always reports a valid chain.
-/

namespace ChatmanEcosystem.Console

open Common Js Rust

/-- `platform_console.audit_log` in the order of the ids, with the next value of its sequence. -/
structure AuditTable where
  rows : List AuditRow
  nextId : ℕ

/-- The log before the first entry. -/
def AuditTable.empty : AuditTable := { rows := [], nextId := 1 }

/-- `PURGED_TOMBSTONE_PREFIX` (line 1394). -/
def purgedTombstonePrefix : String := "PURGED-TOMBSTONE-"

section Model

variable (js : JsRuntime) (sha256 : String → String)

/-- The entry that `verifyAuditChain` (lines 1220–1232) and the purge (lines 1504–1516) rebuild
from a row. -/
def AuditRow.chainEntry (row : AuditRow) : AuditLogEntry where
  requestId := row.requestId
  timestamp := js.toISOString row.ts
  actor := row.actor
  method := row.method
  path := row.path
  status := row.status
  castleReceiptDigest := row.castleReceiptDigest
  impersonatedBy := row.impersonatedBy
  impersonationSessionId := row.impersonationSessionId
  orgId := none
  keyId := none
  durationMs := none
  slaCreditStripeTransactionId := none
  slaCreditAmountCents := none
  slaCreditMonth := none

/-! ## The insertion -/

/-- The `row_hash` of the last row, `GENESIS_HASH` without one (lines 394–397). -/
def tailHash (rows : List AuditRow) : String := (rows.getLast?.bind (·.rowHash)).getD genesisHash

/-- The row that `persistAuditLogEntry` inserts (lines 397–421); `ts` is the timestamp of the
entry as the database reads it. -/
def insertedRow (id : ℕ) (ts : ℤ) (prevHash : String) (entry : AuditLogEntry) : AuditRow where
  id
  requestId := entry.requestId
  ts
  actor := entry.actor
  method := entry.method
  path := entry.path
  status := entry.status
  prevHash := some prevHash
  rowHash := some (computeRowHash sha256 prevHash entry)
  castleReceiptDigest := entry.castleReceiptDigest
  impersonatedBy := entry.impersonatedBy
  impersonationSessionId := entry.impersonationSessionId
  orgId := entry.orgId
  keyId := entry.keyId
  durationMs := entry.durationMs
  slaCreditStripeTransactionId := entry.slaCreditStripeTransactionId
  slaCreditAmountCents := entry.slaCreditAmountCents
  slaCreditMonth := entry.slaCreditMonth

/-- `persistAuditLogEntry` (lines 387–430), committed. `skipped` values of the sequence have gone
to transactions that were rolled back. -/
def persistAuditLogEntry (ts : ℤ) (skipped : ℕ) (entry : AuditLogEntry) (table : AuditTable) :
    AuditTable where
  rows := table.rows ++ [insertedRow sha256 (table.nextId + skipped) ts (tailHash table.rows) entry]
  nextId := table.nextId + skipped + 1

/-! ## The purge -/

/-- `ts < $1 AND (org_id IS NULL OR NOT (org_id = ANY($2)))`. -/
def purges (cutoff : ℤ) (excludeOrgIds : List String) (row : AuditRow) : Bool :=
  row.ts < cutoff && row.orgId.all fun orgId => orgId.val ∉ excludeOrgIds

/-- The forward re-chain of the surviving rows (lines 1502–1524). -/
def rechain : String → List AuditRow → List AuditRow
  | _, [] => []
  | prevHash, row :: rest =>
    let rowHash := computeRowHash sha256 prevHash (row.chainEntry js)
    { row with prevHash := some prevHash, rowHash := some rowHash } :: rechain rowHash rest

/-- `AuditLogPurgeResult` (lines 1396–1400). -/
structure AuditLogPurgeResult where
  deletedCount : ℕ
  cutoff : String
  tombstone : Option String
  deriving DecidableEq

/-- `purgeAuditLogRowsOlderThan` (lines 1428–1534), committed. -/
def purgeAuditLogRowsOlderThan (cutoff : ℤ) (excludeOrgIds : List String) (rows : List AuditRow) :
    AuditLogPurgeResult × List AuditRow :=
  let cutoffIso := js.toISOString cutoff
  let deleted := rows.filter (purges cutoff excludeOrgIds)
  if deleted.length = 0 then
    ({ deletedCount := 0, cutoff := cutoffIso, tombstone := none }, rows)
  else
    let tombstone := purgedTombstonePrefix ++
      sha256 (tailHash deleted ++ "|" ++ cutoffIso ++ "|" ++ numberToString deleted.length)
    ({ deletedCount := deleted.length, cutoff := cutoffIso, tombstone := some tombstone },
      rechain js sha256 tombstone (rows.filter (!purges cutoff excludeOrgIds ·)))

/-! ## Verification -/

/-- `AuditChainVerification` (lines 1158–1165). -/
structure AuditChainVerification where
  valid : Bool
  rowsChecked : ℕ
  brokenAtId : Option ℕ
  reason : Option String
  deriving DecidableEq

/-- The digest that the walk starts from (lines 1215–1218). -/
def chainAnchor (rows : List AuditRow) : String :=
  match rows.head?.bind (·.prevHash) with
  | some prevHash => if startsWith prevHash purgedTombstonePrefix then prevHash else genesisHash
  | none => genesisHash

/-- The walk of `verifyAuditChain` (lines 1219–1257): the first broken row, and why it is. -/
def walkChain : String → List AuditRow → Option (ℕ × String)
  | _, [] => none
  | expectedPrevHash, row :: rest =>
    if row.prevHash ≠ some expectedPrevHash then
      some (row.id, "row " ++ numberToString row.id ++ ": stored prev_hash does not match the " ++
        "preceding row's stored row_hash -- a row was inserted, deleted, or reordered out of band")
    else
      let recomputed := computeRowHash sha256 expectedPrevHash (row.chainEntry js)
      if some recomputed ≠ row.rowHash then
        some (row.id, "row " ++ numberToString row.id ++
          ": recomputed row_hash does not match the " ++
          "stored row_hash -- one or more of request_id/ts/actor/method/path/status was " ++
          "modified after insertion")
      else walkChain recomputed rest

/-- `verifyAuditChain` (lines 1183–1263) of a log that can be read. -/
def verifyAuditChain (rows : List AuditRow) : AuditChainVerification :=
  match walkChain js sha256 (chainAnchor rows) rows with
  | none => { valid := true, rowsChecked := rows.length, brokenAtId := none, reason := none }
  | some (id, reason) =>
    { valid := false, rowsChecked := rows.length, brokenAtId := some id, reason := some reason }

/-! ## Runs -/

/-- A transaction that is committed or rolled back. -/
inductive LogEvent
  | persist (entry : AuditLogEntry) (skipped : ℕ) (commits : Bool)
  | purge (cutoff : ℤ) (excludeOrgIds : List String) (commits : Bool)

variable (timestamptz : String → Option ℤ)

/-- The log after a transaction. The insertion fails if the database cannot read the timestamp. -/
def AuditTable.next (table : AuditTable) : LogEvent → AuditTable
  | .persist entry skipped true =>
    match timestamptz entry.timestamp with
    | some ts => persistAuditLogEntry sha256 ts skipped entry table
    | none => table
  | .purge cutoff excludeOrgIds true =>
    { table with rows := (purgeAuditLogRowsOlderThan js sha256 cutoff excludeOrgIds table.rows).2 }
  | .persist _ _ false | .purge _ _ false => table

end Model

variable {js : JsRuntime} {sha256 : String → String}

/-! ## Chained rows -/

variable (js sha256) in
/-- Every row has the digest before it, and the one that its rebuilt entry gives. -/
def Chained : String → List AuditRow → Prop
  | _, [] => True
  | prevHash, row :: rest =>
    row.prevHash = some prevHash ∧
      row.rowHash = some (computeRowHash sha256 prevHash (row.chainEntry js)) ∧
        Chained (computeRowHash sha256 prevHash (row.chainEntry js)) rest

theorem walkChain_eq_none {prevHash : String} {rows : List AuditRow} :
    walkChain js sha256 prevHash rows = none ↔ Chained js sha256 prevHash rows := by
  induction rows generalizing prevHash with
  | nil => simp [walkChain, Chained]
  | cons row rest ih =>
    rw [walkChain, Chained, ← ih]
    by_cases hprev : row.prevHash = some prevHash
    · by_cases hrow : row.rowHash = some (computeRowHash sha256 prevHash (row.chainEntry js))
      · simp [hprev, hrow]
      · simp [hprev, hrow, Ne.symm hrow]
    · simp [hprev]

/-- The chain is valid exactly when the rows are chained from their anchor. -/
theorem verifyAuditChain_valid {rows : List AuditRow} :
    (verifyAuditChain js sha256 rows).valid = true ↔ Chained js sha256 (chainAnchor rows) rows := by
  rw [← walkChain_eq_none, verifyAuditChain]
  cases walkChain js sha256 (chainAnchor rows) rows <;> simp

theorem chained_rechain (prevHash : String) (rows : List AuditRow) :
    Chained js sha256 prevHash (rechain js sha256 prevHash rows) := by
  induction rows generalizing prevHash with
  | nil => trivial
  | cons row rest ih => exact ⟨rfl, rfl, ih _⟩

variable (js sha256) in
/-- The digest that the next row is chained to. -/
def chainTip (prevHash : String) (rows : List AuditRow) : String :=
  rows.foldl (fun prevHash row => computeRowHash sha256 prevHash (row.chainEntry js)) prevHash

/-- A row at the end is chained to the tip. -/
theorem chained_concat {prevHash : String} {rows : List AuditRow} {row : AuditRow} :
    Chained js sha256 prevHash (rows ++ [row]) ↔
      Chained js sha256 prevHash rows ∧ Chained js sha256 (chainTip js sha256 prevHash rows)
        [row] := by
  induction rows generalizing prevHash with
  | nil => simp [Chained, chainTip]
  | cons first rest ih =>
    show _ ∧ _ ∧ Chained js sha256 _ (rest ++ [row]) ↔ (_ ∧ _ ∧ Chained js sha256 _ rest) ∧ _
    rw [ih, and_assoc, and_assoc]
    rfl

/-- The insertion reads the tip of a chained log. -/
theorem tailHash_eq_chainTip {rows : List AuditRow}
    (h : Chained js sha256 (chainAnchor rows) rows) :
    tailHash rows = chainTip js sha256 (chainAnchor rows) rows := by
  rcases List.eq_nil_or_concat rows with rfl | ⟨init, last, rfl⟩
  · rfl
  · rw [List.concat_eq_append] at h ⊢
    obtain ⟨-, -, hlast, -⟩ := chained_concat.mp h
    rw [tailHash, List.getLast?_concat, Option.bind_some, hlast, Option.getD_some]
    simp only [chainTip, List.foldl_append, List.foldl_cons, List.foldl_nil]

/-- The anchor stays where it is when a row is added to the tail. -/
theorem chainAnchor_concat (rows : List AuditRow) (row : AuditRow)
    (hrow : row.prevHash = some (tailHash rows)) :
    chainAnchor (rows ++ [row]) = chainAnchor rows := by
  cases rows with
  | nil =>
    rw [List.nil_append, chainAnchor, List.head?_cons, Option.bind_some, hrow]
    rfl
  | cons first rest => rfl

/-! ## What a transaction does to a valid chain -/

/-- A purge leaves a valid chain, whatever the log was, if it deletes a row. -/
theorem purge_valid (cutoff : ℤ) (excludeOrgIds : List String) {rows : List AuditRow}
    (h : (verifyAuditChain js sha256 rows).valid = true) :
    (verifyAuditChain js sha256
      (purgeAuditLogRowsOlderThan js sha256 cutoff excludeOrgIds rows).2).valid = true := by
  simp only [purgeAuditLogRowsOlderThan]
  split_ifs with hcount
  · exact h
  · rw [verifyAuditChain_valid]
    cases hsurviving : rows.filter (!purges cutoff excludeOrgIds ·) with
    | nil => trivial
    | cons first rest =>
      have hanchor : ∀ digest, chainAnchor (rechain js sha256 (purgedTombstonePrefix ++ digest)
          (first :: rest)) = purgedTombstonePrefix ++ digest := by
        intro digest
        rw [rechain, chainAnchor, List.head?_cons, Option.bind_some]
        exact if_pos (startsWith_iff.mpr
          (by rw [String.toList_append]; exact List.prefix_append _ _))
      rw [hanchor]
      exact chained_rechain _ _

/-- An insertion keeps a valid chain valid exactly when the rebuilt entry has its digest. -/
theorem persist_valid_iff (ts : ℤ) (skipped : ℕ) (entry : AuditLogEntry) {table : AuditTable}
    (h : (verifyAuditChain js sha256 table.rows).valid = true) :
    (verifyAuditChain js sha256
      (persistAuditLogEntry sha256 ts skipped entry table).rows).valid = true ↔
    computeRowHash sha256 (tailHash table.rows) entry =
      computeRowHash sha256 (tailHash table.rows)
        ((insertedRow sha256 (table.nextId + skipped) ts (tailHash table.rows) entry).chainEntry
          js) := by
  rw [verifyAuditChain_valid] at h ⊢
  rw [persistAuditLogEntry, chainAnchor_concat _ _ rfl, chained_concat, ← tailHash_eq_chainTip h]
  constructor
  · rintro ⟨-, -, hrow, -⟩
    exact Option.some.inj hrow
  · intro hrow
    exact ⟨h, rfl, congrArg some hrow, trivial⟩

/-! ## Which entries are rebuilt -/

/-- What a row keeps of the entry for the chain: everything that is digested. -/
structure AuditLogEntry.Rebuilt (js : JsRuntime) (ts : ℤ) (entry : AuditLogEntry) : Prop where
  timestamp : js.toISOString ts = entry.timestamp
  orgId : entry.orgId = none
  keyId : entry.keyId = none
  durationMs : entry.durationMs = none
  slaCreditStripeTransactionId : entry.slaCreditStripeTransactionId = none
  slaCreditAmountCents : entry.slaCreditAmountCents = none
  slaCreditMonth : entry.slaCreditMonth = none

/-- The parts of the digested text that the verifier does not rebuild. -/
def AuditLogEntry.droppedParts (entry : AuditLogEntry) : List String :=
  pushText entry.orgId ++ pushText entry.keyId ++ pushNumber entry.durationMs ++
    pushText entry.slaCreditStripeTransactionId ++ pushNumber entry.slaCreditAmountCents ++
    pushText entry.slaCreditMonth

theorem AuditLogEntry.rebuilt_iff {ts : ℤ} {entry : AuditLogEntry} :
    entry.Rebuilt js ts ↔ js.toISOString ts = entry.timestamp ∧ entry.droppedParts = [] := by
  simp only [droppedParts, List.append_eq_nil_iff, pushText_eq_nil, pushNumber_eq_nil]
  constructor
  · rintro ⟨h1, h2, h3, h4, h5, h6, h7⟩
    exact ⟨h1, ⟨⟨⟨⟨h2, h3⟩, h4⟩, h5⟩, h6⟩, h7⟩
  · rintro ⟨h1, ⟨⟨⟨⟨h2, h3⟩, h4⟩, h5⟩, h6⟩, h7⟩
    exact ⟨h1, h2, h3, h4, h5, h6, h7⟩

/-- Two texts around the same middle, of which the second has no space before it, are the same
only if nothing stands after the middle of the first. -/
theorem append_middle_inj {a b middle rest : List Char} (hb : ' ' ∉ b)
    (h : a ++ ' ' :: (middle ++ rest) = b ++ ' ' :: middle) : a = b ∧ rest = [] := by
  have hpre : b <+: a := prefix_of_prefix_append_sep hb ⟨' ' :: middle, h.symm⟩
  have hlength := congrArg List.length h
  simp only [List.length_append, List.length_cons] at hlength
  have hle := hpre.length_le
  have hrest : rest = [] := List.length_eq_zero_iff.mp (by omega)
  exact ⟨(hpre.eq_of_length (by omega)).symm, hrest⟩

/-- The digested text from the actor on, as far as the verifier rebuilds it. -/
def AuditLogEntry.keptText (entry : AuditLogEntry) : String :=
  " ".intercalate ([entry.actor, entry.method, entry.path, numberToString entry.status] ++
    (pushText entry.castleReceiptDigest ++ pushText entry.impersonatedBy ++
      pushText entry.impersonationSessionId))

/-- The rest of the digested text. -/
def AuditLogEntry.droppedText (entry : AuditLogEntry) : String :=
  if entry.droppedParts = [] then "" else " " ++ " ".intercalate entry.droppedParts

theorem rowMaterial_eq (prevHash : String) (entry : AuditLogEntry) :
    rowMaterial prevHash entry = prevHash ++ " " ++ entry.requestId ++ " " ++
      (entry.timestamp ++ " " ++ (entry.keptText ++ entry.droppedText)) := by
  have hparts : entry.optionalParts = (pushText entry.castleReceiptDigest ++
      pushText entry.impersonatedBy ++ pushText entry.impersonationSessionId) ++
        entry.droppedParts := by
    simp only [AuditLogEntry.optionalParts, AuditLogEntry.droppedParts, List.append_assoc]
  rw [rowMaterial, hparts, AuditLogEntry.droppedText, AuditLogEntry.keptText]
  split_ifs with hdropped
  · rw [hdropped]
    simp [String.append_assoc]
  · rw [← List.append_assoc, String.intercalate_append_of_ne_nil
      (List.append_ne_nil_of_left_ne_nil (List.cons_ne_nil _ _) _) hdropped]
    simp [String.append_assoc]

/-- The rebuilt entry has the digested text of the entry exactly when nothing is dropped. -/
theorem rowMaterial_chainEntry_iff (hiso : ∀ instant, ' ' ∉ (js.toISOString instant).toList)
    (prevHash rowPrevHash : String) (id : ℕ) (ts : ℤ) (entry : AuditLogEntry) :
    rowMaterial prevHash entry =
      rowMaterial prevHash ((insertedRow sha256 id ts rowPrevHash entry).chainEntry js) ↔
    entry.Rebuilt js ts := by
  let rebuilt := (insertedRow sha256 id ts rowPrevHash entry).chainEntry js
  have hdropped : rebuilt.droppedText = "" := rfl
  have hkept : rebuilt.keptText = entry.keptText := rfl
  have hrequestId : rebuilt.requestId = entry.requestId := rfl
  have htimestamp : rebuilt.timestamp = js.toISOString ts := rfl
  rw [rowMaterial_eq, rowMaterial_eq, hdropped, hkept, hrequestId, htimestamp,
    AuditLogEntry.rebuilt_iff,
    String.append_right_inj, String.append_empty]
  constructor
  · intro h
    have hlists := congrArg String.toList h
    simp only [String.toList_append] at hlists
    have hspace : " ".toList = [' '] := rfl
    rw [hspace, List.append_assoc, List.append_assoc, List.singleton_append,
      List.singleton_append] at hlists
    obtain ⟨hsame, hrest⟩ := append_middle_inj (hiso ts) hlists
    refine ⟨(String.toList_inj.mp hsame).symm, ?_⟩
    by_contra hparts
    rw [AuditLogEntry.droppedText, if_neg hparts, String.toList_append] at hrest
    cases hrest
  · rintro ⟨hsame, hparts⟩
    rw [AuditLogEntry.droppedText, if_pos hparts, String.append_empty, hsame]

/-! ## Runs -/

/-- An insertion that is committed is of an entry that is rebuilt, or the digest collides on the
entry and its rebuilt form. -/
def AuditTable.Rebuilds (js : JsRuntime) (sha256 : String → String)
    (timestamptz : String → Option ℤ) (table : AuditTable) : LogEvent → Prop
  | .persist entry skipped true =>
    ∀ ts, timestamptz entry.timestamp = some ts → entry.Rebuilt js ts ∨
      Collides sha256 (rowMaterial (tailHash table.rows) entry)
        (rowMaterial (tailHash table.rows)
          ((insertedRow sha256 (table.nextId + skipped) ts (tailHash table.rows) entry).chainEntry
            js))
  | .persist _ _ false | .purge _ _ _ => True

/-- From a valid chain a transaction leads to a valid chain exactly when it `Rebuilds`. -/
theorem next_valid_iff (hiso : ∀ instant, ' ' ∉ (js.toISOString instant).toList)
    {timestamptz : String → Option ℤ} {table : AuditTable} (event : LogEvent)
    (h : (verifyAuditChain js sha256 table.rows).valid = true) :
    (verifyAuditChain js sha256 (table.next js sha256 timestamptz event).rows).valid = true ↔
      table.Rebuilds js sha256 timestamptz event := by
  cases event with
  | purge cutoff excludeOrgIds commits =>
    cases commits with
    | false => exact iff_of_true h trivial
    | true => exact iff_of_true (purge_valid cutoff excludeOrgIds h) trivial
  | persist entry skipped commits =>
    cases commits with
    | false => exact iff_of_true h trivial
    | true =>
      simp only [AuditTable.next, AuditTable.Rebuilds]
      cases hts : timestamptz entry.timestamp with
      | none => exact iff_of_true h nofun
      | some ts =>
        simp only [Option.some.injEq, forall_eq']
        rw [persist_valid_iff ts skipped entry h, ← rowMaterial_chainEntry_iff hiso]
        constructor
        · intro hhash
          exact eq_or_collides (f := sha256) hhash
        · rintro (hmaterial | ⟨-, hhash⟩)
          · exact congrArg sha256 hmaterial
          · exact hhash

/-- The chain is valid in every state of a run exactly when every committed insertion is of an
entry without organisation, key, duration and credit members, whose timestamp is in the
form that the verifier writes, unless the digest collides. -/
theorem alwaysValid_iff (js : JsRuntime) (sha256 : String → String)
    (timestamptz : String → Option ℤ)
    (hiso : ∀ instant, ' ' ∉ (js.toISOString instant).toList) (events : List LogEvent) :
    Always (AuditTable.next js sha256 timestamptz)
        (fun table => (verifyAuditChain js sha256 table.rows).valid = true) .empty events ↔
      Along (AuditTable.next js sha256 timestamptz)
        (AuditTable.Rebuilds js sha256 timestamptz) .empty events :=
  always_iff_along (I := fun _ => True) (fun _ _ _ => trivial)
    (fun _ event _ h => next_valid_iff hiso event h) trivial rfl

/-! ## An organisation's request -/

/-- A request of no organisation. -/
def plainEntry : AuditLogEntry where
  requestId := "r-1"
  timestamp := "2026-12-31T00:00:00.000Z"
  actor := "alice"
  method := "GET"
  path := "/api/status"
  status := 200
  castleReceiptDigest := none
  impersonatedBy := some ⟨"support-1", by decide⟩
  impersonationSessionId := some ⟨"s-1", by decide⟩
  orgId := none
  keyId := none
  durationMs := none
  slaCreditStripeTransactionId := none
  slaCreditAmountCents := none
  slaCreditMonth := none

/-- Requests of no organisation, with a purge between them. -/
theorem alwaysValid_plain :
    let events : List LogEvent := [.persist plainEntry 0 true, .persist plainEntry 2 true,
      .purge 1798675200001 ["org-1"] true, .persist plainEntry 0 true]
    Always (AuditTable.next gregorian id isoParse)
      (fun table => (verifyAuditChain gregorian id table.rows).valid = true) .empty events := by
  intro events
  have hrebuilt : ∀ ts, isoParse plainEntry.timestamp = some ts →
    plainEntry.Rebuilt gregorian ts := by
    intro ts hts
    obtain rfl : 1798675200000 = ts :=
      Option.some.inj ((show isoParse plainEntry.timestamp =
        some 1798675200000 by decide +kernel).symm.trans hts)
    exact ⟨by decide +kernel, rfl, rfl, rfl, rfl, rfl, rfl⟩
  refine (alwaysValid_iff gregorian id isoParse space_notMem_isoFormat events).mpr
    ⟨?_, ?_, trivial, ?_, trivial⟩
  · exact fun ts hts => .inl (hrebuilt ts hts)
  · exact fun ts hts => .inl (hrebuilt ts hts)
  · exact fun ts hts => .inl (hrebuilt ts hts)

/-- One request of an organisation breaks the chain. -/
theorem invalid_after_org_request :
    let entry : AuditLogEntry := { plainEntry with orgId := some ⟨"org-1", by decide⟩ }
    let table := run (AuditTable.next gregorian id isoParse) .empty [.persist entry 0 true]
    table.rows.length = 1 ∧ (verifyAuditChain gregorian id table.rows).valid = false := by
  decide +kernel

end ChatmanEcosystem.Console
