import Mathlib.Data.List.Infix
import ChatmanEcosystem.Rust.Primitives

/-!
# Exact subjects, standings and authorities

Model of `ExactSubject`, `Standing` and `Authority`
(`crates/ecosystem-core/src/lib.rs`, lines 84–259), with the JSON that serde
derives for them.
-/

namespace ChatmanEcosystem.Core

open Rust

/-! ## Digests -/

/-- `valid_digest` (lines 151–155). -/
def validDigest (value : String) : Bool :=
  (stripPrefix value "blake3:").any fun hex => utf8Len hex == 64 && hex.all isAsciiHexdigit

/-- What `canonical_digest` writes is a valid digest. -/
theorem validDigest_blake3Hex (prim : Primitives) (bytes : List UInt8) :
    validDigest ("blake3:" ++ prim.blake3Hex bytes) = true := by
  have hlen := utf8Len_of_hexdigits (prim.hexdigit_blake3Hex bytes)
  rw [prim.length_blake3Hex] at hlen
  rw [validDigest, stripPrefix_append]
  simpa [hlen] using prim.hexdigit_blake3Hex bytes

/-! ## Subjects -/

/-- `RepositoryId` (lines 94–118). -/
structure RepositoryId where
  id : String
  deriving DecidableEq

/-- `DocumentId` (lines 94–119). -/
structure DocumentId where
  id : String
  deriving DecidableEq

/-- `enum ExactSubject` (lines 130–149). -/
inductive ExactSubject
  | selfHead
  | gitCommit (repository : RepositoryId) (sha : String)
  | file (path blake3 : String)
  | documentRevision (document : DocumentId) (revision blake3 : String)
  | externalArtifact (uri digest : String)
  deriving DecidableEq

/-- The `InvalidSubject` member of `enum Error` (lines 47–68). -/
structure InvalidSubject where
  subject : String
  deriving DecidableEq

/-- `Error::to_string` for `InvalidSubject`. -/
def InvalidSubject.toText (error : InvalidSubject) : String :=
  "invalid subject " ++ "\x60" ++ error.subject ++ "\x60"

namespace ExactSubject

/-- The JSON of a subject: `tag = "kind"`, members in declaration order. -/
def toJson : ExactSubject → Json
  | selfHead => .obj [("kind", .str "self_head")]
  | gitCommit repository sha =>
    .obj [("kind", .str "git_commit"), ("repository", .str repository.id), ("sha", .str sha)]
  | file path blake3 =>
    .obj [("kind", .str "file"), ("path", .str path), ("blake3", .str blake3)]
  | documentRevision document revision blake3 =>
    .obj [("kind", .str "document_revision"), ("document", .str document.id),
      ("revision", .str revision), ("blake3", .str blake3)]
  | externalArtifact uri digest =>
    .obj [("kind", .str "external_artifact"), ("uri", .str uri), ("digest", .str digest)]

variable (prim : Primitives)

/-- One variant with its members under `{:?}`. -/
def debugVariant (name : String) (members : List (String × String)) : String :=
  name ++ " \x7b " ++ String.intercalate ", " (members.map fun (k, v) => k ++ ": " ++ v) ++ " \x7d"

/-- `{:?}` of a subject. -/
def debug : ExactSubject → String
  | selfHead => "SelfHead"
  | gitCommit repository sha =>
    debugVariant "GitCommit" [("repository", "RepositoryId(" ++ prim.debugStr repository.id ++ ")"),
      ("sha", prim.debugStr sha)]
  | file path blake3 =>
    debugVariant "File" [("path", prim.debugStr path), ("blake3", prim.debugStr blake3)]
  | documentRevision document revision blake3 =>
    debugVariant "DocumentRevision" [("document",
      "DocumentId(" ++ prim.debugStr document.id ++ ")"),
      ("revision", prim.debugStr revision), ("blake3", prim.debugStr blake3)]
  | externalArtifact uri digest =>
    debugVariant "ExternalArtifact" [("uri", prim.debugStr uri), ("digest", prim.debugStr digest)]

/-- The shapes that `ExactSubject::validate` admits. -/
def wellShaped : ExactSubject → Bool
  | selfHead => true
  | gitCommit _ sha => utf8Len sha.toList == 40 && sha.toList.all isAsciiHexdigit
  | file path blake3 =>
    path != "" && !startsWith path "/" && !decide ("..".toList <:+: path.toList) &&
      validDigest blake3
  | documentRevision _ revision blake3 => !isBlank revision && validDigest blake3
  | externalArtifact uri digest =>
    (startsWith uri "https://" || startsWith uri "urn:") && validDigest digest

/-- `ExactSubject::validate` (lines 162–189). -/
def validate (subject : ExactSubject) : Except InvalidSubject Unit :=
  if subject.wellShaped then .ok () else .error ⟨subject.debug prim⟩

theorem validate_eq_ok {subject : ExactSubject} :
    subject.validate prim = .ok () ↔ subject.wellShaped = true := by
  simp [validate]

end ExactSubject

/-! ## Standings and authorities -/

/-- `enum Standing` (lines 194–204). -/
inductive Standing
  | unknown
  | observed
  | candidate
  | partialAlive
  | alive
  | blocked
  | unsupported
  | rejected
  | superseded
  deriving DecidableEq

/-- `enum Authority` (lines 238–251). -/
inductive Authority
  | observe
  | classify
  | draft
  | persistControlPlane
  | openDraftPullRequest
  | modifyExternalObject
  | communicate
  | merge
  | delete
  | spend
  | approve
  | release
  deriving DecidableEq

namespace Authority

/-- `Authority::permits` (lines 256–258). -/
def permits (self required : Authority) : Bool := self == required

/-- The JSON of an authority: `rename_all = "snake_case"`. -/
def toJson : Authority → Json
  | observe => .str "observe"
  | classify => .str "classify"
  | draft => .str "draft"
  | persistControlPlane => .str "persist_control_plane"
  | openDraftPullRequest => .str "open_draft_pull_request"
  | modifyExternalObject => .str "modify_external_object"
  | communicate => .str "communicate"
  | merge => .str "merge"
  | delete => .str "delete"
  | spend => .str "spend"
  | approve => .str "approve"
  | release => .str "release"

/-- `{:?}` of an authority. -/
def debug : Authority → String
  | observe => "Observe"
  | classify => "Classify"
  | draft => "Draft"
  | persistControlPlane => "PersistControlPlane"
  | openDraftPullRequest => "OpenDraftPullRequest"
  | modifyExternalObject => "ModifyExternalObject"
  | communicate => "Communicate"
  | merge => "Merge"
  | delete => "Delete"
  | spend => "Spend"
  | approve => "Approve"
  | release => "Release"

end Authority

end ChatmanEcosystem.Core
