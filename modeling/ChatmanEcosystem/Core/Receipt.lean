import ChatmanEcosystem.Core.Subject
import ChatmanEcosystem.Rust.Result

/-!
# Signed receipts

Model of `Receipt` (`crates/ecosystem-core/src/lib.rs`, lines 84–92 and
470–545). The `toml` crate's text of a receipt is a parameter beside the hash
(`Signing`).

Results:

* `validId_receipt`: the ids that the runtime counts up are valid receipt ids.
* `Receipt.verify_sign`: a complete receipt verifies once it is signed.
-/

namespace ChatmanEcosystem.Core

open Rust

/-! ## Identifiers -/

/-- The characters after the colon of an identifier. -/
def isIdChar (c : Char) : Bool :=
  ('a' ≤ c && c ≤ 'z') || ('0' ≤ c && c ≤ '9') || c == '-' || c == '_'

/-- `valid_id` (lines 84–92). -/
def validId (value kind : String) : Bool :=
  (stripPrefix value (kind ++ ":")).any fun suffix => !suffix.isEmpty && suffix.all isIdChar

theorem isIdChar_of_mem_repr {n : ℕ} {c : Char} (h : c ∈ n.repr.toList) : isIdChar c = true := by
  rw [Nat.toList_repr] at h
  have hdigit := Nat.isDigit_of_mem_toDigits (by decide) (by decide) h
  simp only [Char.isDigit, Bool.and_eq_true, decide_eq_true_eq] at hdigit
  simp only [isIdChar, Bool.or_eq_true, Bool.and_eq_true, decide_eq_true_eq]
  exact .inl (.inl (.inr hdigit))

/-- A number after a name made of identifier characters is a valid suffix. -/
theorem validId_receipt {name : String} (hname : name.toList.all isIdChar = true)
    (hne : name.toList ≠ []) (n : ℕ) :
    validId ("receipt:" ++ (name ++ n.repr)) "receipt" = true := by
  have hkind : "receipt" ++ ":" = "receipt:" := by decide
  have hdigits : n.repr.toList.all isIdChar = true :=
    List.all_eq_true.mpr fun c hc => isIdChar_of_mem_repr hc
  rw [validId, hkind, stripPrefix_append, Option.any_some, String.toList_append, List.all_append,
    hname, hdigits]
  simp [hne]

/-! ## Receipts -/

/-- `Standing::permits` (lines 209–233). -/
def Standing.permits (self next : Standing) : Bool :=
  self == next ||
  match self, next with
  | .unknown, .observed | .unknown, .rejected => true
  | .observed, .candidate | .observed, .unsupported | .observed, .rejected => true
  | .candidate, .partialAlive | .candidate, .blocked | .candidate, .rejected => true
  | .partialAlive, .alive | .partialAlive, .blocked | .partialAlive, .rejected => true
  | .blocked, .candidate | .blocked, .partialAlive | .blocked, .rejected => true
  | .alive, .superseded | .alive, .blocked => true
  | .superseded, .observed => true
  | _, _ => false

/-- `{:?}` of a standing. -/
def Standing.debug : Standing → String
  | .unknown => "Unknown"
  | .observed => "Observed"
  | .candidate => "Candidate"
  | .partialAlive => "PartialAlive"
  | .alive => "Alive"
  | .blocked => "Blocked"
  | .unsupported => "Unsupported"
  | .rejected => "Rejected"
  | .superseded => "Superseded"

/-- `struct Receipt` (lines 471–488). -/
structure Receipt where
  id : String
  subject : String
  actor : String
  authority : Authority
  intention : String
  observed : List String
  executed : List String
  changed : List String
  verified : List String
  excluded : List String
  replay : List String
  standingBefore : Standing
  standingAfter : Standing
  timestamp : String
  digest : String
  deriving DecidableEq

/-- The hash function and the text that `toml::to_string` makes of a receipt,
which has no members that TOML cannot write. -/
structure Signing extends Primitives where
  toml : Receipt → String

/-- A stand-in to run the model with: the fields of a receipt, one on a line. -/
def sampleSigning : Signing where
  toPrimitives := samplePrimitives
  toml receipt := "\n".intercalate
    ([receipt.id, receipt.subject, receipt.actor, receipt.authority.debug, receipt.intention] ++
      receipt.observed ++ receipt.executed ++ receipt.changed ++ receipt.verified ++
      receipt.excluded ++ receipt.replay ++
      [receipt.standingBefore.debug, receipt.standingAfter.debug, receipt.timestamp,
        receipt.digest])

namespace Receipt

variable (signing : Signing)

/-- `Receipt::calculate_digest` (lines 500–505): the digest of the text with an
empty `digest`. -/
def calculateDigest (receipt : Receipt) : String :=
  "blake3:" ++ signing.blake3Hex (asBytes (signing.toml { receipt with digest := "" }))

/-- `Receipt::sign` (lines 510–513). -/
def sign (receipt : Receipt) : Receipt :=
  { receipt with digest := receipt.calculateDigest signing }

/-- Nothing that `verify` requires is missing (lines 525–530). -/
def isComplete (receipt : Receipt) : Bool :=
  !isBlank receipt.subject && !isBlank receipt.actor && !isBlank receipt.intention &&
    !receipt.verified.isEmpty && !receipt.replay.isEmpty && !isBlank receipt.timestamp

/-- `Receipt::verify` (lines 518–544), with the text of the error. -/
def verify (receipt : Receipt) : Except String Unit := do
  ensure (validId receipt.id "receipt")
    ("receipt: invalid receipt id " ++ "\x60" ++ receipt.id ++ "\x60")
  ensure receipt.isComplete "receipt: incomplete receipt"
  ensure (receipt.standingBefore.permits receipt.standingAfter)
    ("receipt: illegal receipt transition " ++ receipt.standingBefore.debug ++ " -> " ++
      receipt.standingAfter.debug)
  ensure (validDigest receipt.digest ∧ receipt.digest = receipt.calculateDigest signing)
    ("receipt: digest mismatch for ReceiptId(" ++ signing.debugStr receipt.id ++ ")")

theorem verify_sign {receipt : Receipt} (hid : validId receipt.id "receipt" = true)
    (hcomplete : receipt.isComplete = true)
    (hstanding : receipt.standingBefore.permits receipt.standingAfter = true) :
    (receipt.sign signing).verify signing = .ok () := by
  simp only [verify, bind_eq_ok, ensure_eq_ok]
  exact ⟨(), hid, (), hcomplete, (), hstanding, validDigest_blake3Hex _ _, rfl⟩

end Receipt

end ChatmanEcosystem.Core
