import Mathlib.Data.List.Forall2
import Mathlib.Data.List.Induction

/-!
# Linked chains

A chain is a list whose items are joined end to end: each item begins where the
one before it ends, and the first one at a given start. In a chain of signed
entries an item ends in its digest and begins with the digest it carries of the
entry before; in a history of transitions an item ends in the state after it and
begins with the state before.

* `Linked`: the items are joined.
* `tip`: where a list of items ends, and the next one has to begin.

The rules are `linked_append` for two lists that are joined, `linked_concat`
for an item that is put at the end, and `forall₂_of_tip_eq` for two chains that
end in the same place.
-/

namespace ChatmanEcosystem.Common

variable {α δ : Type*} (ends begins : α → δ)

/-- Each item begins where the one before it ends, the first one at `start`. -/
def Linked : δ → List α → Prop
  | _, [] => True
  | start, item :: items => begins item = start ∧ Linked (ends item) items

/-- Where the items end. -/
def tip (start : δ) (items : List α) : δ := (items.getLast?.map ends).getD start

@[simp] theorem tip_nil (start : δ) : tip ends start [] = start := rfl

@[simp] theorem tip_concat (start : δ) (items : List α) (item : α) :
    tip ends start (items ++ [item]) = ends item := by
  simp [tip]

theorem tip_cons (start : δ) (item : α) (items : List α) :
    tip ends start (item :: items) = tip ends (ends item) items := by
  cases items with
  | nil => rfl
  | cons next items => simp [tip, List.getLast?_cons]

variable {ends begins} {start : δ} {items : List α}

theorem linked_append {later : List α} :
    Linked ends begins start (items ++ later) ↔
      Linked ends begins start items ∧ Linked ends begins (tip ends start items) later := by
  induction items generalizing start with
  | nil => simp [Linked]
  | cons item items ih => rw [List.cons_append, Linked, Linked, ih, tip_cons, and_assoc]

/-- An item that is put at the end begins where the chain ends. -/
theorem linked_concat {item : α} :
    Linked ends begins start (items ++ [item]) ↔
      Linked ends begins start items ∧ begins item = tip ends start items := by
  rw [linked_append, Linked, Linked, and_true]

/-- Two chains from one start, to which no item leads back, with the same end: where items that
end alike are alike, and begin alike, the chains are alike from the end to the start. -/
theorem forall₂_of_tip_eq {alike : α → α → Prop} {others : List α}
    (hitems : Linked ends begins start items) (hothers : Linked ends begins start others)
    (hstart : ∀ item ∈ items, ends item ≠ start) (hstart' : ∀ other ∈ others, ends other ≠ start)
    (halike : ∀ item ∈ items, ∀ other ∈ others, ends item = ends other → alike item other)
    (hbegins : ∀ item other, alike item other → begins item = begins other)
    (htip : tip ends start items = tip ends start others) : List.Forall₂ alike items others := by
  induction items using List.reverseRecOn generalizing others with
  | nil =>
    rcases List.eq_nil_or_concat others with rfl | ⟨others, other, rfl⟩
    · exact .nil
    · rw [List.concat_eq_append, tip_nil, tip_concat] at htip
      exact absurd htip.symm (hstart' other (by simp))
  | append_singleton items item ih =>
    rcases List.eq_nil_or_concat others with rfl | ⟨others, other, rfl⟩
    · rw [tip_nil, tip_concat] at htip
      exact absurd htip (hstart item (by simp))
    · rw [List.concat_eq_append] at *
      rw [tip_concat, tip_concat] at htip
      rw [linked_concat] at hitems hothers
      have hlast := halike item (by simp) other (by simp) htip
      have hrest := ih hitems.1 hothers.1
        (fun a ha => hstart a (List.mem_append_left _ ha))
        (fun b hb => hstart' b (List.mem_append_left _ hb))
        (fun a ha b hb => halike a (List.mem_append_left _ ha) b (List.mem_append_left _ hb))
        (by rw [← hitems.2, ← hothers.2, hbegins item other hlast])
      exact List.rel_append hrest (.cons hlast .nil)

/-! ## Digests

What a program that compares digests may rely on. A digest is shorter than the
texts it stands for, so it is never injective; every fact here is about two
given texts, which are equal or a collision of the digest (`eq_or_collides`).
-/

section

variable {α β : Type*} {f : α → β}

/-- Two different texts with the same digest. -/
def Collides (f : α → β) (x y : α) : Prop := x ≠ y ∧ f x = f y

theorem eq_or_collides {x y : α} (h : f x = f y) : x = y ∨ Collides f x y := by
  by_cases hxy : x = y
  · exact .inl hxy
  · exact .inr ⟨hxy, h⟩

end

end ChatmanEcosystem.Common
