import ChatmanEcosystem.Common.Chain
import ChatmanEcosystem.Hditc.Admission
import ChatmanEcosystem.Rust.Json

/-!
# What the digests stand for

A canonical digest is a hash of the JSON of a value (`crates/hditc/src/lib.rs`,
lines 58–62), and the JSON that serde derives determines the value: subjects and
constraints by their tags, the other members by their places.

Results:

* `Candidate.toJson_inj`, `AuthorityGrant.toJson_inj`, `ReceiptReservation.toJson_inj`,
  `constraintsToJson_inj`: equal documents are documents of equal values.
* `canonicalDigest_eq`: documents with one digest are equal or collide.
-/

namespace ChatmanEcosystem.Core

open Rust

theorem ExactSubject.toJson_inj {a b : ExactSubject} (h : a.toJson = b.toJson) : a = b := by
  cases a with
  | selfHead => cases b <;> simp_all [toJson]
  | gitCommit repository sha =>
    cases repository
    cases b with
    | gitCommit repository sha =>
      cases repository
      simp_all [toJson]
    | _ => simp [toJson] at h
  | file path blake3 => cases b <;> simp_all [toJson]
  | documentRevision document revision blake3 =>
    cases document
    cases b with
    | documentRevision document revision blake3 =>
      cases document
      simp_all [toJson]
    | _ => simp [toJson] at h
  | externalArtifact uri digest => cases b <;> simp_all [toJson]

/-- The name of an authority in its JSON. -/
def Authority.name (authority : Authority) : Option String :=
  match authority.toJson with
  | .str name => some name
  | _ => none

theorem Authority.toJson_inj {a b : Authority} (h : a.toJson = b.toJson) : a = b := by
  have hname : a.name = b.name := by
    unfold name
    rw [h]
  revert hname
  cases a <;> cases b <;> decide

end ChatmanEcosystem.Core

namespace ChatmanEcosystem.Hditc

open Core Rust Common

/-! ## Parts -/

theorem str_injective : Function.Injective Json.str := by
  intro a b h
  exact Json.str.inj h

theorem namesToJson_inj {a b : Std.ExtTreeSet String} (h : namesToJson a = namesToJson b) :
    a = b := by
  have hlist : a.toList = b.toList := List.map_injective_iff.mpr str_injective (Json.arr.inj h)
  apply Std.ExtTreeSet.ext_mem
  intro name
  rw [← Std.ExtTreeSet.mem_toList, hlist, Std.ExtTreeSet.mem_toList]

theorem Constraint.toJson_inj {a b : Constraint} (h : a.toJson = b.toJson) : a = b := by
  cases a <;> cases b <;> simp_all [toJson]

theorem constraintsToJson_inj {a b : List Constraint}
    (h : constraintsToJson a = constraintsToJson b) : a = b :=
  List.map_injective_iff.mpr (fun _ _ => Constraint.toJson_inj) (Json.arr.inj h)

theorem opt_str_inj {a b : Option String} (h : Json.opt .str a = Json.opt .str b) : a = b := by
  cases a <;> cases b <;> simp_all [Json.opt]

theorem Mutation.toJson_inj {a b : Mutation} (h : a.toJson = b.toJson) : a = b := by
  cases a
  cases b
  simp only [toJson, Json.obj.injEq, List.cons.injEq, Prod.mk.injEq, Json.str.injEq, true_and,
    and_true] at h
  obtain ⟨rfl, hbefore, hafter⟩ := h
  rw [opt_str_inj hbefore, opt_str_inj hafter]

theorem num_inj {a b : UInt64} (h : Json.num a.toNat = Json.num b.toNat) : a = b :=
  UInt64.toNat_inj.mp (Int.ofNat_inj.mp (Json.num.inj h))

/-! ## Documents -/

theorem Candidate.toJson_inj {a b : Candidate} (h : a.toJson = b.toJson) : a = b := by
  cases a
  cases b
  simp only [toJson, Json.obj.injEq, List.cons.injEq, Prod.mk.injEq, Json.str.injEq,
    Json.bool.injEq, Json.arr.injEq, true_and, and_true] at h
  obtain ⟨rfl, hsubject, rfl, rfl, hauthority, rfl, hoption, hgain, hcost, hknown, hmutations,
    hconstraints⟩ := h
  rw [ExactSubject.toJson_inj hsubject, Authority.toJson_inj hauthority, num_inj hoption,
    num_inj hgain, num_inj hcost, namesToJson_inj hknown,
    List.map_injective_iff.mpr (fun _ _ => Mutation.toJson_inj) hmutations,
    constraintsToJson_inj hconstraints]

theorem AuthorityGrant.toJson_inj {a b : AuthorityGrant} (h : a.toJson = b.toJson) : a = b := by
  cases a
  cases b
  simp only [toJson, Json.obj.injEq, List.cons.injEq, Prod.mk.injEq, Json.str.injEq, true_and,
    and_true] at h
  obtain ⟨rfl, hsubject, hauthority, hbound, rfl, rfl, rfl⟩ := h
  rw [ExactSubject.toJson_inj hsubject, Authority.toJson_inj hauthority,
    constraintsToJson_inj hbound]

theorem ReceiptReservation.toJson_inj {a b : ReceiptReservation} (h : a.toJson = b.toJson) :
    a = b := by
  cases a
  cases b
  simp only [toJson, Json.obj.injEq, List.cons.injEq, Prod.mk.injEq, Json.str.injEq, true_and,
    and_true] at h
  obtain ⟨rfl, hsubject, rfl, rfl, rfl, rfl, rfl, rfl⟩ := h
  rw [ExactSubject.toJson_inj hsubject]

/-! ## Digests -/

/-- Two different documents whose texts have one hash. -/
def DocumentsCollide (prim : Primitives) (a b : Json) : Prop :=
  Collides prim.blake3Hex (asBytes a.render) (asBytes b.render)

theorem canonicalDigest_eq {prim : Primitives} {a b : Json}
    (h : canonicalDigest prim a = canonicalDigest prim b) : a = b ∨ DocumentsCollide prim a b := by
  have hhash : prim.blake3Hex (asBytes a.render) = prim.blake3Hex (asBytes b.render) :=
    String.append_right_inj _ |>.mp h
  rcases eq_or_collides hhash with hbytes | hcollides
  · exact .inl (Json.render_injective (asBytes_inj.mp hbytes))
  · exact .inr hcollides

end ChatmanEcosystem.Hditc
