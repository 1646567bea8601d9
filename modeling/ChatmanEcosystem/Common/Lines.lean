import Mathlib.Algebra.Order.Ring.Nat
import Mathlib.Data.List.Basic
import Mathlib.Data.Nat.ModEq

/-!
# Delimited text

Texts over an arbitrary alphabet that are built by putting a delimiter after
every item (`unlines`) or between the items (`List.intercalate`). Both forms can
be read back when no item contains the delimiter. The lemmas here say what such
a text looks like around one of its items, when it determines its items, and
which items `List.splitOn` reads back.
-/

namespace ChatmanEcosystem.Common

variable {α : Type*} {sep : α}

variable {m x y : List α}

/-- Two texts agree up to their first delimiter and after it. -/
theorem append_sep_inj {l : List α} (hl : sep ∉ l) (hm : sep ∉ m) :
    l ++ sep :: x = m ++ sep :: y ↔ l = m ∧ x = y := by
  constructor
  · intro h
    induction l generalizing m with
    | nil =>
      cases m with
      | nil => exact ⟨rfl, (List.cons.inj h).2⟩
      | cons b m => exact absurd (List.cons.inj h).1 (by rintro rfl; simp at hm)
    | cons a l ih =>
      cases m with
      | nil => exact absurd (List.cons.inj h).1 (by rintro rfl; simp at hl)
      | cons b m =>
        obtain ⟨rfl, htail⟩ := List.cons.inj h
        obtain ⟨hlm, hxy⟩ := ih (fun h => hl (.tail _ h)) (fun h => hm (.tail _ h)) htail
        exact ⟨by rw [hlm], hxy⟩
  · rintro ⟨rfl, rfl⟩; rfl

/-- Two texts agree up to their last delimiter and after it. -/
theorem append_sep_inj_last {l : List α} (hl : sep ∉ l) (hm : sep ∉ m) :
    x ++ sep :: l = y ++ sep :: m ↔ x = y ∧ l = m := by
  have hreverse : ∀ x l : List α, (x ++ sep :: l).reverse = l.reverse ++ sep :: x.reverse := by
    simp
  rw [← List.reverse_inj, hreverse, hreverse,
    append_sep_inj (mt List.mem_reverse.mp hl) (mt List.mem_reverse.mp hm), List.reverse_inj,
    List.reverse_inj, and_comm]

/-- A prefix without the delimiter ends before the first delimiter. -/
theorem prefix_of_prefix_append_sep {p l : List α} (hp : sep ∉ p) (h : p <+: l ++ sep :: x) :
    p <+: l := by
  rcases List.prefix_or_prefix_of_prefix h (List.prefix_append l (sep :: x)) with hpl | ⟨t, rfl⟩
  · exact hpl
  · cases t with
    | nil => simp
    | cons a t =>
      obtain ⟨rfl, -⟩ := List.cons_prefix_cons.mp ((List.prefix_append_right_inj l).mp h)
      exact absurd (by simp) hp

/-- Every item followed by the delimiter. -/
def unlines (sep : α) (ls : List (List α)) : List α := ls.flatMap (· ++ [sep])

@[simp] theorem unlines_nil : unlines sep [] = [] := rfl

@[simp] theorem unlines_cons (l : List α) (ls : List (List α)) :
    unlines sep (l :: ls) = l ++ sep :: unlines sep ls := by
  simp [unlines]

@[simp] theorem unlines_append (ls ms : List (List α)) :
    unlines sep (ls ++ ms) = unlines sep ls ++ unlines sep ms := by
  simp [unlines]

/-- A delimited text is empty or ends with the delimiter. -/
theorem unlines_eq_nil_or_concat (sep : α) (ls : List (List α)) :
    ls = [] ∨ ∃ t, unlines sep ls = t ++ [sep] := by
  rcases List.eq_nil_or_concat ls with rfl | ⟨ms, l, rfl⟩
  · exact .inl rfl
  · exact .inr ⟨unlines sep ms ++ l, by simp⟩

variable {ls : List (List α)}

/-- Every item but the first stands right after a delimiter. -/
theorem exists_of_mem_tail (sep : α) (h : List α) {l : List α} (hl : l ∈ ls) :
    ∃ pre post, unlines sep (h :: ls) = pre ++ sep :: (l ++ sep :: post) := by
  obtain ⟨before, after, rfl⟩ := List.append_of_mem hl
  rcases unlines_eq_nil_or_concat sep (h :: before) with hnil | ⟨t, ht⟩
  · cases hnil
  · refine ⟨t, unlines sep after, ?_⟩
    rw [← List.cons_append, unlines_append, ht, unlines_cons]
    simp

variable {ms : List (List α)}

/-- A delimited text determines items that do not contain the delimiter. -/
theorem unlines_inj (hl : ∀ l ∈ ls, sep ∉ l) (hm : ∀ m ∈ ms, sep ∉ m)
    (h : unlines sep ls = unlines sep ms) : ls = ms := by
  induction ls generalizing ms with
  | nil =>
    cases ms with
    | nil => rfl
    | cons m ms => simp at h
  | cons l ls ih =>
    cases ms with
    | nil => simp at h
    | cons m ms =>
      rw [unlines_cons, unlines_cons, append_sep_inj (hl l (by simp)) (hm m (by simp))] at h
      obtain ⟨rfl, h⟩ := h
      rw [ih (fun l hl' => hl l (by simp [hl'])) (fun m hm' => hm m (by simp [hm'])) h]

/-- Items without the delimiter are determined by the text between whose items it stands,
among all that are at least as many. -/
theorem intercalate_inj_of_length_le (hl : ∀ l ∈ ls, sep ∉ l) (hne : ls ≠ [])
    (hlen : ls.length ≤ ms.length) (h : [sep].intercalate ls = [sep].intercalate ms) : ls = ms := by
  induction ls generalizing ms with
  | nil => exact absurd rfl hne
  | cons l ls ih =>
    cases ms with
    | nil => simp at hlen
    | cons m ms =>
      have hhead : sep ∉ l := hl l (by simp)
      cases ls with
      | nil =>
        cases ms with
        | nil => simpa using h
        | cons m' ms =>
          rw [List.intercalate_singleton, List.intercalate_cons_cons] at h
          exact absurd (by simp [h]) hhead
      | cons l' ls =>
        cases ms with
        | nil => simp at hlen
        | cons m' ms =>
          have htail : ∀ k ∈ l' :: ls, sep ∉ k := fun k hk => hl k (List.mem_cons_of_mem l hk)
          rw [List.intercalate_cons_cons, List.intercalate_cons_cons, List.append_assoc,
            List.append_assoc] at h
          by_cases hm : sep ∈ m
          · -- the items of `ms` that stand in the text of `ls` would be one more
            obtain ⟨q, r, rfl, hq⟩ := List.eq_append_cons_of_mem hm
            rw [List.append_assoc] at h
            obtain ⟨-, hrest⟩ := (append_sep_inj hhead hq).mp h
            have hmore := @ih (r :: m' :: ms) htail (by simp) (by simp at hlen ⊢; omega)
              (by rw [List.intercalate_cons_cons, List.append_assoc]; exact hrest)
            have hlength := congrArg List.length hmore
            simp only [List.length_cons] at hlen hlength
            omega
          · obtain ⟨rfl, hrest⟩ := (append_sep_inj hhead hm).mp h
            rw [ih htail (by simp) (by simpa using hlen) hrest]

/-- What is not between the items is in one of them. -/
theorem exists_mem_of_mem_intercalate {a : α} {gap : List α} (hgap : a ∉ gap)
    (h : a ∈ gap.intercalate ls) : ∃ l ∈ ls, a ∈ l := by
  induction ls with
  | nil => cases h
  | cons l ls ih =>
    cases ls with
    | nil => exact ⟨l, List.mem_cons_self, by simpa using h⟩
    | cons l' ls =>
      rw [List.intercalate_cons_cons, List.append_assoc, List.mem_append, List.mem_append] at h
      rcases h with hl | hmem | hrest
      · exact ⟨l, List.mem_cons_self, hl⟩
      · exact absurd hmem hgap
      · obtain ⟨found, hfound, ha⟩ := ih hrest
        exact ⟨found, List.mem_cons_of_mem _ hfound, ha⟩

/-- Items with the delimiter and a gap between them, as `{:?}` of a collection has, are determined
by their text if none is empty or contains the delimiter. -/
theorem intercalate_gap_inj {gap : α} (hl : ∀ l ∈ ls, l ≠ [] ∧ sep ∉ l)
    (hm : ∀ m ∈ ms, m ≠ [] ∧ sep ∉ m) (h : [sep, gap].intercalate ls = [sep, gap].intercalate ms) :
    ls = ms := by
  induction ls generalizing ms with
  | nil =>
    cases ms with
    | nil => rfl
    | cons m ms =>
      have hne := (hm m List.mem_cons_self).1
      cases ms with
      | nil => exact absurd (by simpa using h.symm) hne
      | cons m' ms =>
        rw [List.intercalate_cons_cons] at h
        exact absurd h.symm (by simp)
  | cons l ls ih =>
    obtain ⟨⟨hne, hsep⟩, htail⟩ := List.forall_mem_cons.mp hl
    cases ms with
    | nil =>
      cases ls with
      | nil => exact absurd (by simpa using h) hne
      | cons l' ls =>
        rw [List.intercalate_cons_cons] at h
        exact absurd h (by simp)
    | cons m ms =>
      obtain ⟨⟨-, hsep'⟩, htail'⟩ := List.forall_mem_cons.mp hm
      -- after an item the text ends, or goes on with the delimiter
      have hshape : ∀ l (ls : List (List α)), [sep, gap].intercalate (l :: ls) = l ∧ ls = [] ∨
          [sep, gap].intercalate (l :: ls) = l ++ sep :: gap :: [sep, gap].intercalate ls ∧
            ls ≠ [] := by
        intro l ls
        cases ls with
        | nil => exact .inl ⟨List.intercalate_singleton, rfl⟩
        | cons l' ls =>
          refine .inr ⟨?_, nofun⟩
          rw [List.intercalate_cons_cons]
          simp
      rcases hshape l ls with ⟨htext, rfl⟩ | ⟨htext, -⟩ <;>
        rcases hshape m ms with ⟨htext', rfl⟩ | ⟨htext', -⟩ <;> rw [htext, htext'] at h
      · rw [h]
      · exact absurd (by rw [h]; simp) hsep
      · exact absurd (by rw [← h]; simp) hsep'
      · obtain ⟨rfl, hrest⟩ := (append_sep_inj hsep hsep').mp h
        rw [ih htail htail' (List.cons.inj hrest).2]

section SplitOn

variable {α : Type*} [BEq α] {sep : α} {word l : List α}

/-- The items of a text are its first item and the others. -/
theorem mem_splitOn : word ∈ l.splitOn sep ↔
    (l.splitOn sep).head? = some word ∨ word ∈ (l.splitOn sep).tail := by
  obtain ⟨item, items, hitems⟩ := List.exists_cons_of_ne_nil (List.splitOn_ne_nil sep l)
  rw [hitems, List.mem_cons, List.head?_cons, List.tail_cons, Option.some_inj, eq_comm]

variable [LawfulBEq α]

/-- A text goes on with the delimiter, or ends. -/
def Bounded (sep : α) (rest : List α) : Prop := rest = [] ∨ ∃ later, rest = sep :: later

theorem splitOn_append_bounded (hword : sep ∉ word) {rest : List α} (hrest : Bounded sep rest) :
    ∃ others, (word ++ rest).splitOn sep = word :: others := by
  rcases hrest with rfl | ⟨later, rfl⟩
  · exact ⟨[], by rw [List.append_nil, List.splitOn_eq_singleton hword]⟩
  · exact ⟨_, List.splitOn_append_cons_self_of_not_mem hword later⟩

/-- The first item ends where the text does, or before the first delimiter. -/
theorem head?_splitOn : (l.splitOn sep).head? = some word ↔
    sep ∉ word ∧ ∃ rest, l = word ++ rest ∧ Bounded sep rest := by
  constructor
  · intro h
    by_cases hl : sep ∈ l
    · obtain ⟨first, later, rfl, hfirst⟩ := List.eq_append_cons_of_mem hl
      rw [List.splitOn_append_cons_self_of_not_mem hfirst, List.head?_cons] at h
      obtain rfl := Option.some.inj h
      exact ⟨hfirst, _, rfl, .inr ⟨later, rfl⟩⟩
    · rw [List.splitOn_eq_singleton hl, List.head?_cons] at h
      obtain rfl := Option.some.inj h
      exact ⟨hl, [], (List.append_nil _).symm, .inl rfl⟩
  · rintro ⟨hword, rest, rfl, hrest⟩
    obtain ⟨others, hsplit⟩ := splitOn_append_bounded hword hrest
    rw [hsplit, List.head?_cons]

/-- Every other item stands right after a delimiter. -/
theorem mem_tail_splitOn : word ∈ (l.splitOn sep).tail ↔
    sep ∉ word ∧ ∃ first rest, l = first ++ sep :: (word ++ rest) ∧ Bounded sep rest := by
  constructor
  · intro h
    induction hn : l.length using Nat.strongRecOn generalizing l with
    | ind n ih =>
      by_cases hl : sep ∈ l
      · obtain ⟨first, later, rfl, hfirst⟩ := List.eq_append_cons_of_mem hl
        rw [List.splitOn_append_cons_self_of_not_mem hfirst, List.tail_cons] at h
        obtain ⟨item, items, hitems⟩ := List.exists_cons_of_ne_nil (List.splitOn_ne_nil sep later)
        rw [hitems] at h
        rcases List.mem_cons.mp h with rfl | htail
        · have hhead : (later.splitOn sep).head? = some word := by rw [hitems, List.head?_cons]
          obtain ⟨hword, rest, rfl, hrest⟩ := head?_splitOn.mp hhead
          exact ⟨hword, first, rest, rfl, hrest⟩
        · have hshort : later.length < n := by
            rw [← hn, List.length_append, List.length_cons]
            omega
          obtain ⟨hword, before, rest, rfl, hrest⟩ := ih _ hshort (by rw [hitems]; exact htail) rfl
          exact ⟨hword, first ++ sep :: before, rest, by simp, hrest⟩
      · rw [List.splitOn_eq_singleton hl] at h
        cases h
  · rintro ⟨hword, first, rest, rfl, hrest⟩
    obtain ⟨others, hsplit⟩ := splitOn_append_bounded hword hrest
    obtain ⟨item, items, hitems⟩ := List.exists_cons_of_ne_nil (List.splitOn_ne_nil sep first)
    rw [List.splitOn_append_cons_self, hitems, hsplit]
    simp

end SplitOn

/-! ## Length-prefixed byte strings

`beBytes k n` is the big-endian encoding of `n` in `k` bytes and `frame k bs`
the byte string `bs` after its own length in `k` bytes. A framed byte string can
be cut off the front of any longer one (`frame_append_inj`), whatever bytes it
holds, as long as its length fits the prefix.
-/

section

/-- The low `k` bytes of `n`, most significant first. -/
def beBytes : ℕ → ℕ → List UInt8
  | 0, _ => []
  | k + 1, n => UInt8.ofNat (n / 256 ^ k) :: beBytes k n

@[simp] theorem length_beBytes (k n : ℕ) : (beBytes k n).length = k := by
  induction k with
  | zero => rfl
  | succ k ih => simp [beBytes, ih]

theorem mod_eq_of_beBytes_eq {k n m : ℕ} (h : beBytes k n = beBytes k m) :
    n % 256 ^ k = m % 256 ^ k := by
  induction k with
  | zero => simp [Nat.mod_one]
  | succ k ih =>
    obtain ⟨hhead, htail⟩ := List.cons.inj h
    have hbyte : n / 256 ^ k % 256 = m / 256 ^ k % 256 := by
      simpa [UInt8.toNat_ofNat'] using congrArg UInt8.toNat hhead
    rw [Nat.mod_pow_succ, Nat.mod_pow_succ, ih htail, hbyte]

/-- Numbers that fit in `k` bytes have different encodings. -/
theorem beBytes_inj {k n m : ℕ} (hn : n < 256 ^ k) (hm : m < 256 ^ k)
    (h : beBytes k n = beBytes k m) : n = m := by
  have := mod_eq_of_beBytes_eq h
  rwa [Nat.mod_eq_of_lt hn, Nat.mod_eq_of_lt hm] at this

/-- A byte string behind its length. -/
def frame (k : ℕ) (bs : List UInt8) : List UInt8 := beBytes k bs.length ++ bs

theorem frame_append_inj {k : ℕ} {bs cs x y : List UInt8} (hb : bs.length < 256 ^ k)
    (hc : cs.length < 256 ^ k) (h : frame k bs ++ x = frame k cs ++ y) : bs = cs ∧ x = y := by
  simp only [frame, List.append_assoc] at h
  obtain ⟨hlen, hrest⟩ := List.append_inj h (by simp)
  exact List.append_inj hrest (beBytes_inj hb hc hlen)

/-- A sequence of framed byte strings is determined by its bytes and its
number of items. -/
theorem flatMap_frame_inj {k : ℕ} {bss css : List (List UInt8)} (hlen : bss.length = css.length)
    (hb : ∀ bs ∈ bss, bs.length < 256 ^ k) (hc : ∀ cs ∈ css, cs.length < 256 ^ k)
    (h : bss.flatMap (frame k) = css.flatMap (frame k)) : bss = css := by
  induction bss generalizing css with
  | nil => simpa using hlen.symm
  | cons bs bss ih =>
    cases css with
    | nil => simp at hlen
    | cons cs css =>
      simp only [List.flatMap_cons] at h
      obtain ⟨rfl, hrest⟩ := frame_append_inj (hb bs (by simp)) (hc cs (by simp)) h
      rw [ih (by simpa using hlen) (fun b hb' => hb b (by simp [hb']))
        (fun c hc' => hc c (by simp [hc'])) hrest]

end

/-! ## Escaped segments

Texts over an arbitrary alphabet with two reserved symbols, an escape and a separator. A segment is
escaped by two replacements, of the escape first, and unescaped by the two inverse ones, of the
escape last.

Results:

* `unescape_escape`: a segment is read back.
* `separator_notMem_escape`: an escaped segment is without the separator.
* `splitOn_flatMap_cons`: segments that are joined are split again.
-/

section

variable {α : Type*} [DecidableEq α]

/-- `text.replace(a, new)`, for one symbol. -/
def replaceOne (a : α) (new : List α) (text : List α) : List α :=
  text.flatMap fun c => if c = a then new else [c]

/-- `text.replace(ab, new)`, for two symbols. -/
def replacePair (a b : α) (new : List α) : List α → List α
  | x :: y :: text =>
    if x = a ∧ y = b then new ++ replacePair a b new text
    else x :: replacePair a b new (y :: text)
  | text => text

/-- The replacements that escape a segment. -/
def escape (esc sep zero one : α) (text : List α) : List α :=
  replaceOne sep [esc, one] (replaceOne esc [esc, zero] text)

/-- The replacements that undo them. -/
def unescape (esc sep zero one : α) (text : List α) : List α :=
  replacePair esc zero [esc] (replacePair esc one [sep] text)

variable {a b c : α} {new text : List α}

theorem replaceOne_cons_self : replaceOne a new (a :: text) = new ++ replaceOne a new text := by
  rw [replaceOne, List.flatMap_cons, if_pos rfl, ← replaceOne]

theorem replaceOne_cons_of_ne (h : c ≠ a) :
    replaceOne a new (c :: text) = c :: replaceOne a new text := by
  rw [replaceOne, List.flatMap_cons, if_neg h, ← replaceOne, List.singleton_append]

theorem replacePair_match : replacePair a b new (a :: b :: text) =
    new ++ replacePair a b new text := by
  rw [replacePair, if_pos ⟨rfl, rfl⟩]

/-- Another symbol stays. -/
theorem replacePair_cons_of_ne (h : c ≠ a) :
    replacePair a b new (c :: text) = c :: replacePair a b new text := by
  cases text with
  | nil => rfl
  | cons d text => rw [replacePair, if_neg fun hpair => h hpair.1]

/-- So does the first symbol before another one than the second. -/
theorem replacePair_cons_cons_of_ne (h : c ≠ b) :
    replacePair a b new (a :: c :: text) = a :: replacePair a b new (c :: text) := by
  rw [replacePair, if_neg fun hpair => h hpair.2]

theorem replacePair_of_notMem (h : a ∉ text) : replacePair a b new text = text := by
  induction text with
  | nil => rfl
  | cons c text ih =>
    rw [List.mem_cons, not_or] at h
    rw [replacePair_cons_of_ne (Ne.symm h.1), ih h.2]

/-- The symbols that stand for a segment: the escape must not be one of those that follow it. -/
structure Reserved (esc sep zero one : α) : Prop where
  sep_ne_esc : sep ≠ esc
  zero_ne_esc : zero ≠ esc
  one_ne_esc : one ≠ esc
  zero_ne_one : zero ≠ one
  zero_ne_sep : zero ≠ sep
  one_ne_sep : one ≠ sep

variable {esc sep zero one : α}

/-- One symbol comes back from the two that stand for it. -/
theorem replacePair_replaceOne (text : List α) :
    replacePair esc zero [esc] (replaceOne esc [esc, zero] text) = text := by
  induction text with
  | nil => rfl
  | cons c text ih =>
    by_cases hesc : c = esc
    · rw [hesc, replaceOne_cons_self, List.cons_append, List.cons_append, List.nil_append,
        replacePair_match, ih]
      rfl
    · rw [replaceOne_cons_of_ne hesc, replacePair_cons_of_ne hesc, ih]

section

variable (h : Reserved esc sep zero one)
include h

theorem escape_cons_escape : escape esc sep zero one (esc :: text) =
    esc :: zero :: escape esc sep zero one text := by
  rw [escape, replaceOne_cons_self, List.cons_append, List.cons_append, List.nil_append,
    replaceOne_cons_of_ne h.sep_ne_esc.symm, replaceOne_cons_of_ne h.zero_ne_sep, ← escape]

theorem escape_cons_separator : escape esc sep zero one (sep :: text) =
    esc :: one :: escape esc sep zero one text := by
  rw [escape, replaceOne_cons_of_ne h.sep_ne_esc, replaceOne_cons_self, ← escape]
  rfl

/-- The separators come back, the escapes are as they were after the first replacement. -/
theorem replacePair_escape (text : List α) :
    replacePair esc one [sep] (escape esc sep zero one text) = replaceOne esc [esc, zero] text := by
  induction text with
  | nil => rfl
  | cons c text ih =>
    by_cases hesc : c = esc
    · rw [hesc, escape_cons_escape h, replacePair_cons_cons_of_ne h.zero_ne_one,
        replacePair_cons_of_ne h.zero_ne_esc, ih, replaceOne_cons_self]
      rfl
    · by_cases hsep : c = sep
      · rw [hsep, escape_cons_separator h, replacePair_match, ih,
          replaceOne_cons_of_ne h.sep_ne_esc]
        rfl
      · rw [escape, replaceOne_cons_of_ne hesc, replaceOne_cons_of_ne hsep, ← escape,
          replacePair_cons_of_ne hesc, ih]

/-- A segment is read back. -/
theorem unescape_escape (text : List α) :
    unescape esc sep zero one (escape esc sep zero one text) = text := by
  rw [unescape, replacePair_escape h, replacePair_replaceOne]

theorem separator_notMem_escape (text : List α) : sep ∉ escape esc sep zero one text := by
  rw [escape, replaceOne, List.mem_flatMap]
  rintro ⟨c, -, hmem⟩
  split_ifs at hmem with hc
  · rcases List.mem_pair.mp hmem with hsep | hsep
    · exact h.sep_ne_esc hsep
    · exact h.one_ne_sep hsep.symm
  · exact hc (List.mem_singleton.mp hmem).symm

end

/-- Segments, each after a separator, are split again. -/
theorem splitOn_flatMap_cons {segments : List (List α)} (h : ∀ segment ∈ segments, sep ∉ segment) :
    (segments.flatMap (sep :: ·)).splitOn sep = [] :: segments := by
  have hsplit : ∀ (first : List α) (segments : List (List α)), sep ∉ first →
      (∀ segment ∈ segments, sep ∉ segment) →
      (first ++ segments.flatMap (sep :: ·)).splitOn sep = first :: segments := by
    intro first segments hfirst hsegments
    induction segments generalizing first with
    | nil => rw [List.flatMap_nil, List.append_nil, List.splitOn_eq_singleton hfirst]
    | cons segment segments ih =>
      obtain ⟨hsegment, hrest⟩ := List.forall_mem_cons.mp hsegments
      rw [List.flatMap_cons, List.cons_append, List.splitOn_append_cons_self_of_not_mem hfirst,
        ih segment hsegment hrest]
  exact hsplit [] segments List.not_mem_nil h

end

end ChatmanEcosystem.Common
