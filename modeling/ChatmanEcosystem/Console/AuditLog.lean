import ChatmanEcosystem.Js.Runtime

/-!
# The audit log

Model of the rows of `platform_console.audit_log` and of the digest that chains
them (`platform-console/app/lib/audit-db.ts`, lines 120–280). An optional text of
an entry counts when it is not empty, so it is a `Text` or absent. The members of
`AuditLogEntry` that are neither stored nor digested are left out. `sha256` is the
hexadecimal digest of a text.
-/

namespace ChatmanEcosystem.Console

open Js

/-- A text that is not empty: what counts as present in an optional member. -/
abbrev Text := { text : String // text ≠ "" }

/-- A text that `if (text)` lets pass. -/
def presentText (text : Option String) : Option Text :=
  text.bind fun text => if h : text ≠ "" then some ⟨text, h⟩ else none

/-- `AuditLogEntry` (`lib/audit-log.ts`). -/
structure AuditLogEntry where
  requestId : String
  timestamp : String
  actor : String
  method : String
  path : String
  status : ℤ
  castleReceiptDigest : Option Text
  impersonatedBy : Option Text
  impersonationSessionId : Option Text
  orgId : Option Text
  keyId : Option Text
  durationMs : Option ℤ
  slaCreditStripeTransactionId : Option Text
  slaCreditAmountCents : Option ℤ
  slaCreditMonth : Option Text
  deriving DecidableEq

/-- `GENESIS_HASH` (line 144). -/
def genesisHash : String := "GENESIS-" ++ String.ofList (List.replicate 56 '0')

/-! ## The digest of a row -/

/-- `if (part) parts.push(part)`. -/
def pushText (part : Option Text) : List String := part.toList.map (·.val)

/-- `if (part !== undefined) parts.push(String(part))`. -/
def pushNumber (part : Option ℤ) : List String := part.toList.map numberToString

/-- What the optional members add to the digest (lines 156–191). -/
def AuditLogEntry.optionalParts (entry : AuditLogEntry) : List String :=
  pushText entry.castleReceiptDigest ++ pushText entry.impersonatedBy ++
    pushText entry.impersonationSessionId ++ pushText entry.orgId ++ pushText entry.keyId ++
    pushNumber entry.durationMs ++ pushText entry.slaCreditStripeTransactionId ++
    pushNumber entry.slaCreditAmountCents ++ pushText entry.slaCreditMonth

/-- The text that `computeRowHash` digests (lines 147–192). -/
def rowMaterial (prevHash : String) (entry : AuditLogEntry) : String :=
  " ".intercalate ([prevHash, entry.requestId, entry.timestamp, entry.actor, entry.method,
    entry.path,
    numberToString entry.status] ++ entry.optionalParts)

variable (sha256 : String → String)

/-- `computeRowHash` (lines 146–194). -/
def computeRowHash (prevHash : String) (entry : AuditLogEntry) : String :=
  sha256 (rowMaterial prevHash entry)

/-! ## Rows -/

/-- A row of `platform_console.audit_log`. `ts` is an instant; a null column is `none`. -/
structure AuditRow where
  id : ℕ
  requestId : String
  ts : ℤ
  actor : String
  method : String
  path : String
  status : ℤ
  prevHash : Option String
  rowHash : Option String
  castleReceiptDigest : Option Text
  impersonatedBy : Option Text
  impersonationSessionId : Option Text
  orgId : Option Text
  keyId : Option Text
  durationMs : Option ℤ
  slaCreditStripeTransactionId : Option Text
  slaCreditAmountCents : Option ℤ
  slaCreditMonth : Option Text
  deriving DecidableEq

variable (js : JsRuntime)

/-- The entry that `verifyHashChain` rebuilds from a row (`lib/audit-integrity.ts`, lines
153–175). -/
def AuditRow.entry (row : AuditRow) : AuditLogEntry where
  requestId := row.requestId
  timestamp := js.toISOString row.ts
  actor := row.actor
  method := row.method
  path := row.path
  status := row.status
  castleReceiptDigest := row.castleReceiptDigest
  impersonatedBy := row.impersonatedBy
  impersonationSessionId := row.impersonationSessionId
  orgId := row.orgId
  keyId := row.keyId
  durationMs := row.durationMs
  slaCreditStripeTransactionId := row.slaCreditStripeTransactionId
  slaCreditAmountCents := row.slaCreditAmountCents
  slaCreditMonth := row.slaCreditMonth

/-! ## What the material says -/

theorem pushText_eq_nil {part : Option Text} : pushText part = [] ↔ part = none := by
  cases part <;> simp [pushText]

theorem pushNumber_eq_nil {part : Option ℤ} : pushNumber part = [] ↔ part = none := by
  cases part <;> simp [pushNumber]

/-- The entry has none of the optional members. -/
structure AuditLogEntry.Bare (entry : AuditLogEntry) : Prop where
  castleReceiptDigest : entry.castleReceiptDigest = none
  impersonatedBy : entry.impersonatedBy = none
  impersonationSessionId : entry.impersonationSessionId = none
  orgId : entry.orgId = none
  keyId : entry.keyId = none
  durationMs : entry.durationMs = none
  slaCreditStripeTransactionId : entry.slaCreditStripeTransactionId = none
  slaCreditAmountCents : entry.slaCreditAmountCents = none
  slaCreditMonth : entry.slaCreditMonth = none

theorem AuditLogEntry.optionalParts_eq_nil {entry : AuditLogEntry} :
    entry.optionalParts = [] ↔ entry.Bare := by
  simp only [optionalParts, List.append_eq_nil_iff, pushText_eq_nil, pushNumber_eq_nil]
  constructor
  · rintro ⟨⟨⟨⟨⟨⟨⟨⟨h1, h2⟩, h3⟩, h4⟩, h5⟩, h6⟩, h7⟩, h8⟩, h9⟩
    exact ⟨h1, h2, h3, h4, h5, h6, h7, h8, h9⟩
  · rintro ⟨h1, h2, h3, h4, h5, h6, h7, h8, h9⟩
    exact ⟨⟨⟨⟨⟨⟨⟨⟨h1, h2⟩, h3⟩, h4⟩, h5⟩, h6⟩, h7⟩, h8⟩, h9⟩

end ChatmanEcosystem.Console
