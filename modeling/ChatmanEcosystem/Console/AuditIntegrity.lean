import ChatmanEcosystem.Common.Chain
import ChatmanEcosystem.Common.Lines
import ChatmanEcosystem.Console.AuditLog

/-!
# What a row digest binds

Model of `verifyHashChain` (`platform-console/app/lib/audit-integrity.ts`, lines
103–195), the check of one organisation's rows. The digested text joins its parts
with spaces, without tags and without lengths: an optional member says which
text is there and not which member, and a space in a part reads as the end of
the part.

Results:

* `bindsEntry_iff`: which entries are determined by their digested text.
* `bindsRow_iff`: of these, and of no others, `verifyHashChain` reports every edit as well.
-/

namespace ChatmanEcosystem.Console

open Common Js

/-! ## Verification -/

/-- `HashChainVerificationResult` (lines 53–62). -/
structure HashChainVerificationResult where
  verified : Bool
  rowsChecked : ℕ
  firstBreakAt : Option String
  deriving DecidableEq

/-- The rows that the query selects: of the organisation, between the bounds. -/
def AuditRow.inSlice (orgId : Text) (from? to? : Option ℤ) (row : AuditRow) : Bool :=
  row.orgId = some orgId && from?.all (· ≤ row.ts) && to?.all (row.ts ≤ ·)

variable (js : JsRuntime) (sha256 : String → String)

/-- The row has both digests, and its own is the one that its fields give. -/
def AuditRow.intact (row : AuditRow) : Bool :=
  match row.prevHash, row.rowHash with
  | some prevHash, some rowHash => computeRowHash sha256 prevHash (row.entry js) = rowHash
  | _, _ => false

/-- The loop of `verifyHashChain` (lines 136–182): the number of rows checked, and the time of the
first break. -/
def checkRows : List AuditRow → ℕ × Option String
  | [] => (0, none)
  | row :: rest =>
    if row.intact js sha256 then
      let (rowsChecked, firstBreakAt) := checkRows rest
      (rowsChecked + 1, firstBreakAt)
    else (1, some (js.toISOString row.ts))

/-- `verifyHashChain` (lines 103–195) of a log that can be read, in the order of the ids. -/
def verifyHashChain (orgId : Text) (from? to? : Option ℤ) (log : List AuditRow) :
    HashChainVerificationResult :=
  let (rowsChecked, firstBreakAt) := checkRows js sha256
    (log.filter (AuditRow.inSlice orgId from? to?))
  { verified := firstBreakAt.isNone, rowsChecked, firstBreakAt }

variable {js sha256}

theorem checkRows_isNone {rows : List AuditRow} :
    (checkRows js sha256 rows).2.isNone = true ↔ ∀ row ∈ rows, row.intact js sha256 = true := by
  induction rows with
  | nil => simp [checkRows]
  | cons row rest ih =>
    rw [checkRows, List.forall_mem_cons, ← ih]
    by_cases hrow : row.intact js sha256 = true
    · simp [hrow]
    · simp [hrow]

/-- A slice is verified exactly when all its rows are intact. -/
theorem verifyHashChain_verified {orgId : Text} {from? to? : Option ℤ} {log : List AuditRow} :
    (verifyHashChain js sha256 orgId from? to? log).verified = true ↔
      ∀ row ∈ log, row.inSlice orgId from? to? = true → row.intact js sha256 = true := by
  show (checkRows js sha256 _).2.isNone = true ↔ _
  rw [checkRows_isNone]
  simp only [List.mem_filter, and_imp]

/-! ## The binding -/

/-- No other previous hash and entry have the same digested text. -/
def BindsEntry (prevHash : String) (entry : AuditLogEntry) : Prop :=
  ∀ prevHash' entry', rowMaterial prevHash' entry' = rowMaterial prevHash entry →
    prevHash' = prevHash ∧ entry' = entry

/-- The row that is inserted for an entry. -/
structure AuditRow.StoredFor (js : JsRuntime) (sha256 : String → String) (prevHash : String)
    (entry : AuditLogEntry) (row : AuditRow) : Prop where
  entry_eq : row.entry js = entry
  prevHash_eq : row.prevHash = some prevHash
  rowHash_eq : row.rowHash = some (computeRowHash sha256 prevHash entry)

variable (js sha256) in
/-- Whatever edit changes the fields of the row after its insertion, and not its digest: a call
whose slice has the row before or after the edit reports a break, or the digest collides. -/
def ReportsEdits (prevHash : String) (entry : AuditLogEntry) : Prop :=
  ∀ original edited : AuditRow, original.StoredFor js sha256 prevHash entry →
    edited.rowHash = original.rowHash →
    edited.prevHash ≠ original.prevHash ∨ edited.entry js ≠ original.entry js →
    ∀ (orgId : Text) (from? to? : Option ℤ) (log : List AuditRow), edited ∈ log →
      original.inSlice orgId from? to? = true ∨ edited.inSlice orgId from? to? = true →
      (verifyHashChain js sha256 orgId from? to? log).verified = false ∨
        ∃ prevHash', edited.prevHash = some prevHash' ∧
          Collides sha256 (rowMaterial prevHash' (edited.entry js)) (rowMaterial prevHash entry)

/-- The entry has no optional member, and nothing before the status has a space in it. -/
structure Unambiguous (prevHash : String) (entry : AuditLogEntry) : Prop where
  bare : entry.Bare
  noSpace : ∀ part ∈ [prevHash, entry.requestId, entry.timestamp, entry.actor, entry.method,
    entry.path], ' ' ∉ part.toList

/-- Entries without optional members are equal if the others are. -/
theorem AuditLogEntry.Bare.eq {entry entry' : AuditLogEntry} (h : entry.Bare) (h' : entry'.Bare)
    (hrequestId : entry'.requestId = entry.requestId)
    (htimestamp : entry'.timestamp = entry.timestamp)
    (hactor : entry'.actor = entry.actor) (hmethod : entry'.method = entry.method)
    (hpath : entry'.path = entry.path)
    (hstatus : entry'.status = entry.status) : entry' = entry := by
  obtain ⟨h1, h2, h3, h4, h5, h6, h7, h8, h9⟩ := h
  obtain ⟨h1', h2', h3', h4', h5', h6', h7', h8', h9'⟩ := h'
  cases entry
  cases entry'
  simp_all

/-- An unambiguous entry is read back from its digested text part by part. -/
theorem bindsEntry_of_unambiguous {prevHash : String} {entry : AuditLogEntry}
    (h : Unambiguous prevHash entry) : BindsEntry prevHash entry := by
  intro prevHash' entry' hmaterial
  have hbare : entry.optionalParts = [] := AuditLogEntry.optionalParts_eq_nil.mpr h.bare
  let parts := [prevHash, entry.requestId, entry.timestamp, entry.actor, entry.method, entry.path,
    numberToString entry.status]
  let parts' := [prevHash', entry'.requestId, entry'.timestamp, entry'.actor, entry'.method,
    entry'.path, numberToString entry'.status] ++ entry'.optionalParts
  have hchars : [' '].intercalate (parts.map String.toList) =
      [' '].intercalate (parts'.map String.toList) := by
    have hlists := congrArg String.toList hmaterial
    rw [rowMaterial, rowMaterial, hbare, List.append_nil, String.toList_intercalate,
      String.toList_intercalate] at hlists
    exact hlists.symm
  have hspace : ∀ part ∈ parts.map String.toList, ' ' ∉ part := by
    intro part hpart
    obtain ⟨text, hmem, rfl⟩ := List.mem_map.mp hpart
    rcases List.mem_append.mp (show text ∈ [prevHash, entry.requestId, entry.timestamp, entry.actor,
      entry.method, entry.path] ++ [numberToString entry.status] from hmem) with hleft | hstatus
    · exact h.noSpace text hleft
    · obtain rfl := List.mem_singleton.mp hstatus
      intro hblank
      rcases mem_numberToString hblank with hdigit | hsign
      · exact absurd hdigit (by decide)
      · exact absurd hsign (by decide)
  have hlists := intercalate_inj_of_length_le hspace (by simp [parts])
    (by simp [parts, parts']) hchars
  have hparts : parts = parts' := List.map_injective_iff.mpr
    (fun _ _ => String.toList_inj.mp) hlists
  simp only [parts, parts', List.cons_append, List.nil_append, List.cons.injEq] at hparts
  obtain ⟨hprev, hrequestId, htimestamp, hactor, hmethod, hpath, hstatus, hnil⟩ := hparts
  have hbare' := AuditLogEntry.optionalParts_eq_nil.mp hnil.symm
  exact ⟨hprev.symm, h.bare.eq hbare' hrequestId.symm htimestamp.symm hactor.symm hmethod.symm
    hpath.symm (numberToString_inj hstatus.symm)⟩

/-! ## What is not bound -/

/-- The entry with one text in the place of all its optional members. -/
def AuditLogEntry.relabelled (entry : AuditLogEntry)
    (castleReceiptDigest impersonatedBy : Option Text) : AuditLogEntry :=
  { entry with
    castleReceiptDigest, impersonatedBy, impersonationSessionId := none, orgId := none
    keyId := none
    durationMs := none, slaCreditStripeTransactionId := none, slaCreditAmountCents := none
    slaCreditMonth := none }

theorem AuditLogEntry.ne_empty_of_mem_optionalParts {entry : AuditLogEntry} {part : String}
    (h : part ∈ entry.optionalParts) : part ≠ "" := by
  have htext : ∀ text, part ∈ pushText text → part ≠ "" := by
    intro text hmem
    obtain ⟨value, -, rfl⟩ := List.mem_map.mp hmem
    exact value.2
  have hnumber : ∀ number, part ∈ pushNumber number → part ≠ "" := by
    intro number hmem hempty
    obtain ⟨value, -, rfl⟩ := List.mem_map.mp hmem
    exact numberToString_ne_empty value hempty
  simp only [optionalParts, List.mem_append] at h
  rcases h with (((((((h | h) | h) | h) | h) | h) | h) | h) | h
  all_goals first | exact htext _ h | exact hnumber _ h

/-- The optional members can be read as the text of one member, whichever it is. -/
theorem rowMaterial_relabelled {entry : AuditLogEntry} (h : entry.optionalParts ≠ []) :
    ∃ text : Text, ∀ prevHash,
      rowMaterial prevHash (entry.relabelled (some text) none) = rowMaterial prevHash entry ∧
      rowMaterial prevHash (entry.relabelled none (some text)) = rowMaterial prevHash entry := by
  obtain ⟨part, rest, hparts⟩ := List.exists_cons_of_ne_nil h
  have hmem : part ∈ entry.optionalParts := by
    rw [hparts]
    exact List.mem_cons_self
  have hpart : part ≠ "" := AuditLogEntry.ne_empty_of_mem_optionalParts hmem
  have htext : " ".intercalate entry.optionalParts ≠ "" := by
    rw [hparts]
    cases rest with
    | nil => rwa [String.intercalate_singleton]
    | cons next rest =>
      rw [String.intercalate_cons_cons]
      intro hempty
      rw [String.append_eq_empty_iff, String.append_eq_empty_iff] at hempty
      exact hpart hempty.1.1
  refine ⟨⟨_, htext⟩, fun prevHash => ?_⟩
  have hjoin : " ".intercalate ([prevHash, entry.requestId, entry.timestamp, entry.actor,
    entry.method,
      entry.path, numberToString entry.status] ++ [" ".intercalate entry.optionalParts]) =
      rowMaterial prevHash entry := by
    rw [rowMaterial, String.intercalate_append_of_ne_nil (List.cons_ne_nil _ _)
      (List.cons_ne_nil _ _),
      String.intercalate_append_of_ne_nil (List.cons_ne_nil _ _) h, String.intercalate_singleton]
  exact ⟨hjoin, hjoin⟩

theorem bare_of_bindsEntry {prevHash : String} {entry : AuditLogEntry}
    (h : BindsEntry prevHash entry) : entry.Bare := by
  rw [← AuditLogEntry.optionalParts_eq_nil]
  by_contra hparts
  obtain ⟨text, hsame⟩ := rowMaterial_relabelled hparts
  obtain ⟨hcastle, himpersonated⟩ := hsame prevHash
  have heq := (h _ _ hcastle).2.trans (h _ _ himpersonated).2.symm
  have hmember : some text = none := congrArg AuditLogEntry.castleReceiptDigest heq
  cases hmember

/-- A text with a space is two texts with a space between them. -/
theorem exists_split_of_space {text : String} (h : ' ' ∈ text.toList) :
    ∃ a b, text = a ++ " " ++ b := by
  obtain ⟨a, b, hab⟩ := List.append_of_mem h
  refine ⟨String.ofList a, String.ofList b, String.toList_inj.mp ?_⟩
  rw [hab]
  simp

theorem ne_append_space (text more : String) : text ++ " " ++ more ≠ text := by
  intro h
  have hlength := congrArg (fun s => s.toList.length) h
  simp only [String.toList_append, List.length_append] at hlength
  have hone : " ".toList.length = 1 := rfl
  omega

/-- A space lets the text before it go to the part before, and in the previous hash the text
after it to the request id. -/
theorem noSpace_of_bindsEntry {prevHash : String} {entry : AuditLogEntry}
    (h : BindsEntry prevHash entry) :
    ∀ part ∈ [prevHash, entry.requestId, entry.timestamp, entry.actor, entry.method, entry.path],
      ' ' ∉ part.toList := by
  intro part hpart hspace
  obtain ⟨a, b, hab⟩ := exists_split_of_space hspace
  simp only [List.mem_cons, List.not_mem_nil, or_false] at hpart
  rcases hpart with rfl | rfl | rfl | rfl | rfl | rfl
  · have hmoved := h a { entry with requestId := b ++ " " ++ entry.requestId }
      (by simp [rowMaterial, AuditLogEntry.optionalParts, hab, String.append_assoc])
    rw [← hmoved.1] at hab
    exact ne_append_space a b hab.symm
  · have hmoved := h (prevHash ++ " " ++ a) { entry with requestId := b }
      (by simp [rowMaterial, AuditLogEntry.optionalParts, hab, String.append_assoc])
    exact ne_append_space prevHash a hmoved.1
  · have hmoved := h prevHash
      { entry with requestId := entry.requestId ++ " " ++ a, timestamp := b }
      (by simp [rowMaterial, AuditLogEntry.optionalParts, hab, String.append_assoc])
    exact ne_append_space _ a (congrArg AuditLogEntry.requestId hmoved.2)
  · have hmoved := h prevHash { entry with timestamp := entry.timestamp ++ " " ++ a, actor := b }
      (by simp [rowMaterial, AuditLogEntry.optionalParts, hab, String.append_assoc])
    exact ne_append_space _ a (congrArg AuditLogEntry.timestamp hmoved.2)
  · have hmoved := h prevHash { entry with actor := entry.actor ++ " " ++ a, method := b }
      (by simp [rowMaterial, AuditLogEntry.optionalParts, hab, String.append_assoc])
    exact ne_append_space _ a (congrArg AuditLogEntry.actor hmoved.2)
  · have hmoved := h prevHash { entry with method := entry.method ++ " " ++ a, path := b }
      (by simp [rowMaterial, AuditLogEntry.optionalParts, hab, String.append_assoc])
    exact ne_append_space _ a (congrArg AuditLogEntry.method hmoved.2)

/-- An entry is determined by its digested text exactly when it is unambiguous. -/
theorem bindsEntry_iff {prevHash : String} {entry : AuditLogEntry} :
    BindsEntry prevHash entry ↔ Unambiguous prevHash entry :=
  ⟨fun h => ⟨bare_of_bindsEntry h, noSpace_of_bindsEntry h⟩, bindsEntry_of_unambiguous⟩

/-! ## Edits -/

/-- A row without an organisation is in no slice, so a call that sees an edit of it has the
edited row. -/
theorem reportsEdits_of_unambiguous {prevHash : String} {entry : AuditLogEntry}
    (h : Unambiguous prevHash entry) : ReportsEdits js sha256 prevHash entry := by
  intro original edited hstored hrowHash hedit orgId from? to? log hmem hslice
  have horiginal : original.orgId = none := by
    have hnone := h.bare.orgId
    rw [← hstored.entry_eq] at hnone
    exact hnone
  have hedited : edited.inSlice orgId from? to? = true := by
    refine hslice.resolve_left ?_
    simp [AuditRow.inSlice, horiginal]
  by_cases hverified : (verifyHashChain js sha256 orgId from? to? log).verified = true
  · right
    have hintact := verifyHashChain_verified.mp hverified edited hmem hedited
    rw [AuditRow.intact, hrowHash, hstored.rowHash_eq] at hintact
    cases hprev : edited.prevHash with
    | none =>
      rw [hprev] at hintact
      cases hintact
    | some prevHash' =>
      rw [hprev] at hintact
      have hhash : computeRowHash sha256 prevHash' (edited.entry js) =
          computeRowHash sha256 prevHash entry := of_decide_eq_true hintact
      refine ⟨prevHash', rfl, ?_⟩
      refine (eq_or_collides (f := sha256) hhash).resolve_left fun hmaterial => ?_
      obtain ⟨hsame, hentry⟩ := bindsEntry_of_unambiguous h prevHash' _ hmaterial
      rw [hprev, hstored.prevHash_eq, hstored.entry_eq, hsame, hentry] at hedit
      simp at hedit
  · left
    simpa using hverified

/-- The digested text determines the previous hash and every field, and every edit of the row
is reported, exactly when the entry has none of the optional members and neither the
previous hash nor a text of the entry has a space in it. -/
theorem bindsRow_iff (js : JsRuntime) (sha256 : String → String) (prevHash : String)
    (entry : AuditLogEntry) :
    BindsEntry prevHash entry ∧ ReportsEdits js sha256 prevHash entry ↔
      Unambiguous prevHash entry :=
  ⟨fun h => bindsEntry_iff.mp h.1,
    fun h => ⟨bindsEntry_of_unambiguous h, reportsEdits_of_unambiguous h⟩⟩

/-! ## A support action -/

theorem support_ne : "support-1" ≠ "" := by decide

/-- A request that a support engineer makes under impersonation. -/
def impersonatedRow : AuditRow where
  id := 1
  requestId := "r-1"
  ts := 1798675200000
  actor := "alice"
  method := "GET"
  path := "/api/orgs/org-1"
  status := 200
  prevHash := some genesisHash
  rowHash := some (genesisHash ++
    " r-1 2026-12-31T00:00:00.000Z alice GET /api/orgs/org-1 200 support-1 org-1")
  castleReceiptDigest := none
  impersonatedBy := some ⟨"support-1", support_ne⟩
  impersonationSessionId := none
  orgId := some ⟨"org-1", by decide⟩
  keyId := none
  durationMs := none
  slaCreditStripeTransactionId := none
  slaCreditAmountCents := none
  slaCreditMonth := none

/-- Moving the engineer's name to another optional member leaves the digested text as it was, and
the check of the organisation's rows reports no break. -/
theorem impersonation_stripped :
    let edited : AuditRow :=
      { impersonatedRow with
        impersonatedBy := none, castleReceiptDigest := some ⟨"support-1", by decide⟩ }
    let entry := impersonatedRow.entry gregorian
    impersonatedRow.StoredFor gregorian id genesisHash entry ∧
    edited.entry gregorian ≠ entry ∧
    (verifyHashChain gregorian id ⟨"org-1", by decide⟩ none none [edited]).verified = true ∧
    ¬ (BindsEntry genesisHash entry ∧ ReportsEdits gregorian id genesisHash entry) := by
  intro edited entry
  have hne : edited.entry gregorian ≠ entry := by decide +kernel
  refine ⟨⟨rfl, rfl, by decide +kernel⟩, hne, by decide +kernel, fun h => hne ?_⟩
  exact (h.1 genesisHash (edited.entry gregorian) (by decide +kernel)).2

end ChatmanEcosystem.Console
