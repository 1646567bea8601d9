import ChatmanEcosystem.Common.Lines
import ChatmanEcosystem.Rust.Text

/-!
# Policies and admission tokens of the broker

Model of `Action`, `Policy`, `AdmissionToken` and `Broker::validate_token`
(`crates/gall/src/lib.rs`, lines 326–435 and 553–566), with the hash function
`sha256_hex` as a parameter.

A policy is identified by the digest of a text: one line for the version, one
line `subject|capability` for every permission and one line `revoked|subject`
for every revocation, in key order. Nothing escapes the `|` and the newlines
that the names may contain.

Results:

* `Action.canonicalBytes_inj`: the length-prefixed encoding of an action
  determines the action.
* `Policy.canonical_toList`: the hashed text of a policy as a delimited text.
* `Policy.admit_congr`: what the verdicts of a policy depend on.
-/

namespace ChatmanEcosystem.Gall

open Common Rust

/-! ## Model -/

/-- `enum Refusal` (lines 41–56). -/
inductive Refusal
  | invalidSourcePin
  | duplicateSource
  | authorityMultiplicity
  | authorityOwnerMismatch
  | subjectUnknown
  | subjectRevoked
  | capabilityDenied
  | policyDigestMismatch
  | actionDigestMismatch
  | importNotDeclared
  | unsupportedWasm
  | moduleDigestMismatch
  | fuelExceeded
  | malformedWasm
  deriving DecidableEq

/-- `struct Action` (lines 326–332). -/
structure Action where
  subject : String
  capability : String
  arguments : List String
  workingDirectory : String
  nonce : UInt64
  deriving DecidableEq

/-- Rust's strings and vectors have lengths that fit a `usize`. -/
structure Action.FitsMemory (action : Action) : Prop where
  subject : (asBytes action.subject).length < 256 ^ 8
  capability : (asBytes action.capability).length < 256 ^ 8
  workingDirectory : (asBytes action.workingDirectory).length < 256 ^ 8
  arguments : action.arguments.length < 256 ^ 8
  argument : ∀ argument ∈ action.arguments, (asBytes argument).length < 256 ^ 8

/-- `append_field` (lines 356–359). -/
def appendField (output value : List UInt8) : List UInt8 := output ++ frame 8 value

/-- `Action::canonical_bytes` (lines 337–348). -/
def Action.canonicalBytes (action : Action) : List UInt8 :=
  let output := appendField [] (asBytes action.subject)
  let output := appendField output (asBytes action.capability)
  let output := appendField output (asBytes action.workingDirectory)
  let output := output ++ beBytes 8 action.nonce.toNat
  let output := output ++ beBytes 8 action.arguments.length
  action.arguments.foldl (fun output argument => appendField output (asBytes argument)) output

/-- `struct Policy` (lines 363–367). -/
structure Policy where
  version : String
  allowed : Std.ExtTreeMap String (Std.ExtTreeSet String)
  revoked : Std.ExtTreeSet String
  deriving DecidableEq

/-- `Policy::new` (lines 371–377). -/
def Policy.new (version : String) : Policy := { version, allowed := ∅, revoked := ∅ }

/-- `Policy::allow` (lines 379–384). -/
def Policy.allow (p : Policy) (subject capability : String) : Policy :=
  { p with allowed := p.allowed.insert subject ((p.allowed[subject]?.getD ∅).insert capability) }

/-- `Policy::revoke` (lines 386–388). -/
def Policy.revoke (p : Policy) (subject : String) : Policy :=
  { p with revoked := p.revoked.insert subject }

/-- The body of the inner loop of `Policy::digest` (lines 395–398). -/
def pushPermission (subject canonical capability : String) : String :=
  canonical ++ subject ++ "|" ++ capability ++ "\n"

/-- The body of the last loop of `Policy::digest` (lines 402–404). -/
def pushRevocation (canonical subject : String) : String :=
  canonical ++ "revoked|" ++ subject ++ "\n"

/-- The text that `Policy::digest` hashes (lines 392–405). -/
def Policy.canonical (p : Policy) : String :=
  let canonical := "version=" ++ p.version ++ "\n"
  let canonical := p.allowed.toList.foldl (fun canonical (subject, capabilities) =>
    capabilities.toList.foldl (pushPermission subject) canonical) canonical
  p.revoked.toList.foldl pushRevocation canonical

/-- `struct AdmissionToken` (lines 432–435). -/
structure AdmissionToken where
  actionDigest : String
  policyDigest : String
  deriving DecidableEq

section Hash

variable (sha256Hex : List UInt8 → String)

/-- `Action::digest` (lines 351–353). -/
def Action.digest (action : Action) : String := sha256Hex action.canonicalBytes

/-- `Policy::digest` (lines 391–407). -/
def Policy.digest (p : Policy) : String := sha256Hex (asBytes p.canonical)

/-- `Policy::admit` (lines 409–427). -/
def Policy.admitAction (p : Policy) (action : Action) : Except Refusal AdmissionToken :=
  if startsWith action.subject "unknown:" then .error .subjectUnknown
  else if action.subject ∈ p.revoked then .error .subjectRevoked
  else
    let admitted := (p.allowed[action.subject]?).any (·.contains action.capability)
    if !admitted then .error .capabilityDenied
    else .ok { actionDigest := action.digest sha256Hex, policyDigest := p.digest sha256Hex }

/-- `Broker::validate_token` (lines 553–566). -/
def Policy.validateToken (p : Policy) (action : Action) (token : AdmissionToken) :
    Except Refusal AdmissionToken :=
  if token.policyDigest ≠ p.digest sha256Hex then .error .policyDigestMismatch
  else if token.actionDigest ≠ action.digest sha256Hex then .error .actionDigestMismatch
  else p.admitAction sha256Hex action

end Hash

/-! ## Actions -/

theorem foldl_appendField (arguments : List String) (output : List UInt8) :
    arguments.foldl (fun output argument => appendField output (asBytes argument)) output =
      output ++ (arguments.map asBytes).flatMap (frame 8) := by
  induction arguments generalizing output with
  | nil => simp
  | cons argument arguments ih =>
    rw [List.foldl_cons, ih, appendField, List.map_cons, List.flatMap_cons, List.append_assoc]

/-- The encoding of an action determines it. -/
theorem Action.canonicalBytes_inj {a b : Action} (ha : a.FitsMemory) (hb : b.FitsMemory)
    (h : a.canonicalBytes = b.canonicalBytes) : a = b := by
  obtain ⟨as, ac, aa, aw, an⟩ := a
  obtain ⟨bs, bc, ba, bw, bn⟩ := b
  simp only [Action.canonicalBytes, foldl_appendField] at h
  simp only [appendField, List.nil_append, List.append_assoc] at h
  obtain ⟨hsubject, h⟩ := frame_append_inj ha.subject hb.subject h
  obtain ⟨hcapability, h⟩ := frame_append_inj ha.capability hb.capability h
  obtain ⟨hdirectory, h⟩ := frame_append_inj ha.workingDirectory hb.workingDirectory h
  obtain ⟨hnonce, hlist⟩ := List.append_inj h (by simp)
  obtain ⟨hlen, hlist⟩ := List.append_inj hlist (by simp)
  obtain rfl : an = bn := UInt64.toNat_inj.mp (beBytes_inj an.toNat_lt bn.toNat_lt hnonce)
  have hlen : aa.length = ba.length := beBytes_inj ha.arguments hb.arguments hlen
  have harguments : aa.map asBytes = ba.map asBytes :=
    flatMap_frame_inj (by simpa using hlen) (List.forall_mem_map.mpr ha.argument)
      (List.forall_mem_map.mpr hb.argument) hlist
  obtain rfl : aa = ba := List.map_injective_iff.mpr (fun _ _ => asBytes_inj.mp) harguments
  rw [asBytes_inj] at hsubject hcapability hdirectory
  subst hsubject hcapability hdirectory
  rfl

/-! ## The hashed text as lines -/

/-- A permission as a line of the hashed text. -/
def permissionLine (row : String × String) : List Char := row.1.toList ++ '|' :: row.2.toList

/-- A revocation as a line of the hashed text. -/
def revocationLine (subject : String) : List Char := "revoked|".toList ++ subject.toList

/-- The permissions in the order in which the text lists them. -/
def Policy.permissions (p : Policy) : List (String × String) :=
  p.allowed.toList.flatMap fun (subject, capabilities) => capabilities.toList.map (subject, ·)

/-- The lines of the hashed text after the first. -/
def Policy.rows (p : Policy) : List (List Char) :=
  p.permissions.map permissionLine ++ p.revoked.toList.map revocationLine

/-- How the text begins. -/
@[irreducible] def versionTag : List Char := "version=".toList

theorem newline_notMem_versionTag : '\n' ∉ versionTag := by
  unfold versionTag
  decide

/-- The first line of the hashed text. -/
def Policy.versionLine (p : Policy) : List Char := versionTag ++ p.version.toList

theorem newline_toList : "\n".toList = ['\n'] := rfl

theorem pushPermission_toList (subject text capability : String) :
    (pushPermission subject text capability).toList =
      text.toList ++ (permissionLine (subject, capability) ++ ['\n']) := by
  unfold pushPermission permissionLine
  simp only [String.toList_append, List.append_assoc, newline_toList]
  rfl

theorem pushRevocation_toList (text subject : String) :
    (pushRevocation text subject).toList = text.toList ++ (revocationLine subject ++ ['\n']) := by
  unfold pushRevocation revocationLine
  rw [String.toList_append, newline_toList, String.toList_append, String.toList_append]
  rw [List.append_assoc, List.append_assoc, List.append_assoc]

theorem foldl_capabilities (subject : String) (capabilities : List String) (text : String) :
    (capabilities.foldl (pushPermission subject) text).toList =
      text.toList ++ unlines '\n' (capabilities.map fun c => permissionLine (subject, c)) := by
  induction capabilities generalizing text with
  | nil => simp
  | cons c cs ih => simp [ih, pushPermission_toList]

theorem foldl_allowed (allowed : List (String × Std.ExtTreeSet String)) (text : String) :
    (allowed.foldl (fun canonical (subject, capabilities) =>
        capabilities.toList.foldl (pushPermission subject) canonical) text).toList =
      text.toList ++ unlines '\n' ((allowed.flatMap fun (subject, capabilities) =>
        capabilities.toList.map (subject, ·)).map permissionLine) := by
  induction allowed generalizing text with
  | nil => simp
  | cons entry allowed ih =>
    rw [List.foldl_cons, ih, foldl_capabilities]
    simp [Function.comp_def]

theorem foldl_revoked (revoked : List String) (text : String) :
    (revoked.foldl pushRevocation text).toList =
      text.toList ++ unlines '\n' (revoked.map revocationLine) := by
  induction revoked generalizing text with
  | nil => simp
  | cons subject revoked ih => simp [ih, pushRevocation_toList]

theorem versionText_toList (p : Policy) :
    ("version=" ++ p.version ++ "\n").toList = p.versionLine ++ ['\n'] := by
  unfold Policy.versionLine versionTag
  rw [String.toList_append, newline_toList, String.toList_append]

theorem Policy.canonical_toList (p : Policy) :
    p.canonical.toList = unlines '\n' (p.versionLine :: p.rows) := by
  have hallowed := foldl_allowed p.allowed.toList ("version=" ++ p.version ++ "\n")
  have hrevoked := foldl_revoked p.revoked.toList
  rw [unlines_cons, Policy.rows, unlines_append]
  calc p.canonical.toList
      = _ := hrevoked _
    _ = _ := by rw [hallowed, versionText_toList]; simp [Policy.permissions]

theorem asBytes_canonical_inj {p q : Policy} :
    asBytes p.canonical = asBytes q.canonical ↔
      unlines '\n' (p.versionLine :: p.rows) = unlines '\n' (q.versionLine :: q.rows) := by
  rw [asBytes_inj, ← String.toList_inj, p.canonical_toList, q.canonical_toList]

/-! ## Verdicts -/

theorem Policy.mem_permissions {p : Policy} {row : String × String} :
    row ∈ p.permissions ↔
      (p.allowed[row.1]?).any (·.contains row.2) = true := by
  obtain ⟨subject, capability⟩ := row
  simp only [Policy.permissions, List.mem_flatMap, Option.any_eq_true]
  constructor
  · rintro ⟨⟨s, capabilities⟩, hentry, hrow⟩
    obtain ⟨c, hc, hrow⟩ := List.mem_map.mp hrow
    obtain ⟨rfl, rfl⟩ := Prod.mk.inj hrow
    exact ⟨capabilities, Std.ExtTreeMap.mem_toList_iff_getElem?_eq_some.mp hentry,
      Std.ExtTreeSet.mem_toList.mp hc⟩
  · rintro ⟨capabilities, hentry, hc⟩
    exact ⟨(subject, capabilities), Std.ExtTreeMap.mem_toList_iff_getElem?_eq_some.mpr hentry,
      List.mem_map.mpr ⟨capability, Std.ExtTreeSet.mem_toList.mpr hc, rfl⟩⟩

/-- The verdicts of a policy depend on its hashed text, its revocations and its
permissions, and the latter two only for subjects that are not `unknown:`. -/
theorem Policy.admit_congr {sha256Hex : List UInt8 → String} {p q : Policy}
    (htext : asBytes p.canonical = asBytes q.canonical)
    (hrevoked : ∀ s, startsWith s "unknown:" = false → (s ∈ p.revoked ↔ s ∈ q.revoked))
    (hpermissions : ∀ row : String × String, startsWith row.1 "unknown:" = false →
      (row ∈ p.permissions ↔ row ∈ q.permissions)) (action : Action) :
    p.admitAction sha256Hex action = q.admitAction sha256Hex action := by
  unfold Policy.admitAction Policy.digest
  cases hunknown : startsWith action.subject "unknown:" with
  | true => rfl
  | false =>
    have hperm := hpermissions (action.subject, action.capability) hunknown
    rw [Policy.mem_permissions, Policy.mem_permissions, Bool.eq_iff_iff.symm] at hperm
    simp only [hrevoked action.subject hunknown, hperm, htext]

end ChatmanEcosystem.Gall
