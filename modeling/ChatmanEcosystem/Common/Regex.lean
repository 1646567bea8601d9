import Mathlib.Data.List.Basic

/-!
# Regular expressions

Patterns as a backtracking engine reads them: one character, the greedy repetition of a class of
characters, sequences, alternatives in order, named groups, anchors and look-around. Repetition is
of single characters only.

* `Pattern.run`: the places that a pattern leads to from a place of a text, the one that the engine
  finds first at the head.
* `Pattern.prefixMatch`, `Pattern.fullMatch`, `Pattern.search`: `match`, `fullmatch` and `search`.

The rules `mem_run_*` say which places a pattern leads to: those after a word of the text, for what
reads characters, and the place itself, for what looks around. A pattern that reads the words of a
language wherever they stand `Reads` it; `mem_run_seq_of_reads` and `mem_run_seq_group` peel such a
pattern off a sequence.
-/

namespace ChatmanEcosystem.Common

/-- A place in a text: what is before it, backwards, and what is left, with the groups that were
captured on the way. -/
structure Place where
  before : List Char
  rest : List Char
  groups : List (String × List Char)
  deriving DecidableEq

namespace Place

/-- The beginning of a text. -/
def start (text : List Char) : Place where
  before := []
  rest := text
  groups := []

/-- The place after a word. -/
def after (place : Place) (word rest : List Char) : Place :=
  { place with before := word.reverse ++ place.before, rest }

/-- A group that was captured. -/
def grouped (place : Place) (name : String) (word : List Char) : Place :=
  { place with groups := (name, word) :: place.groups }

/-- A group is captured between two places. -/
def capture (place : Place) (name : String) (later : Place) : Place :=
  later.grouped name (place.rest.take (place.rest.length - later.rest.length))

variable (place : Place) (word other rest last : List Char)

@[simp] theorem rest_start (text : List Char) : (start text).rest = text := rfl

@[simp] theorem before_start (text : List Char) : (start text).before = [] := rfl

@[simp] theorem groups_start (text : List Char) : (start text).groups = [] := rfl

@[simp] theorem rest_after : (place.after word rest).rest = rest := rfl

@[simp] theorem before_after : (place.after word rest).before = word.reverse ++ place.before := rfl

@[simp] theorem groups_after : (place.after word rest).groups = place.groups := rfl

@[simp] theorem after_after : (place.after word rest).after other last =
    place.after (word ++ other) last := by
  simp [after]

theorem after_nil : place.after [] place.rest = place := rfl

@[simp] theorem rest_grouped (name : String) : (place.grouped name word).rest = place.rest := rfl

@[simp] theorem before_grouped (name : String) :
    (place.grouped name word).before = place.before := rfl

@[simp] theorem groups_grouped (name : String) :
    (place.grouped name word).groups = (name, word) :: place.groups := rfl

variable {place word rest} in
/-- The text between a place and the place after a word is the word. -/
theorem capture_after (h : place.rest = word ++ rest) (name : String) :
    place.capture name (place.after word rest) = (place.after word rest).grouped name word := by
  rw [capture, rest_after, h, List.length_append, Nat.add_sub_cancel, List.take_left]

end Place

/-- A regular expression. -/
inductive Pattern
  | empty
  | one (among : Char → Bool)
  | many (among : Char → Bool)
  | seq (first second : Pattern)
  | alt (first second : Pattern)
  | group (name : String) (inner : Pattern)
  | start
  | stop
  | notAhead (inner : Pattern)
  | notBehind (among : Char → Bool)

namespace Pattern

/-- A class of characters as often as it goes, then less often. -/
def manyFrom (among : Char → Bool) (groups : List (String × List Char)) :
    List Char → List Char → List Place
  | before, [] => [{ before, rest := [], groups }]
  | before, c :: rest =>
    if among c then manyFrom among groups (c :: before) rest ++
      [{ before, rest := c :: rest, groups }]
    else [{ before, rest := c :: rest, groups }]

/-- Where a pattern leads to from a place. -/
def run : Pattern → Place → List Place
  | empty, place => [place]
  | one among, place =>
    match place.rest with
    | [] => []
    | c :: rest => if among c then [place.after [c] rest] else []
  | many among, place => manyFrom among place.groups place.before place.rest
  | seq first second, place => (first.run place).flatMap second.run
  | alt first second, place => first.run place ++ second.run place
  | group name inner, place => (inner.run place).map (place.capture name)
  | start, place => if place.before = [] then [place] else []
  -- `$`: at the end, or before the line break at the end
  | stop, place => if place.rest = [] ∨ place.rest = ['\n'] then [place] else []
  | notAhead inner, place => if inner.run place = [] then [place] else []
  | notBehind among, place => if place.before.head?.any among then [] else [place]

/-! ## What is built of these -/

/-- A text, character by character. -/
def lit (text : String) : Pattern := text.toList.foldr (fun c => seq (one (· = c))) empty

def plus (among : Char → Bool) : Pattern := seq (one among) (many among)

def opt (inner : Pattern) : Pattern := alt inner empty

def times (among : Char → Bool) : ℕ → Pattern
  | 0 => empty
  | n + 1 => seq (one among) (times among n)

def seqs (patterns : List Pattern) : Pattern := patterns.foldr seq empty

def alts (first : Pattern) (others : List Pattern) : Pattern := others.foldl alt first

/-! ## Matching -/

variable (pattern : Pattern)

/-- `match`: the place after a match at the beginning. -/
def prefixMatch (text : String) : Option Place := (pattern.run (.start text.toList)).head?

/-- `fullmatch`: whether some match takes the whole text. -/
def fullMatch (text : String) : Bool :=
  (pattern.run (.start text.toList)).any fun place => place.rest.isEmpty

/-- Whether there is a match here or further on. -/
def searchFrom (before : List Char) : List Char → Bool
  | [] => !(pattern.run { before, rest := [], groups := [] }).isEmpty
  | c :: rest => !(pattern.run { before, rest := c :: rest, groups := [] }).isEmpty ||
      searchFrom (c :: before) rest

/-- `search`: whether there is a match anywhere. -/
def search (text : String) : Bool := pattern.searchFrom [] text.toList

/-! ## Where a pattern leads to -/

variable {pattern} {among : Char → Bool} {first second inner : Pattern} {place later : Place}

@[simp] theorem mem_run_empty : later ∈ empty.run place ↔ later = place := List.mem_singleton

@[simp] theorem mem_run_seq :
    later ∈ (seq first second).run place ↔ ∃ middle ∈ first.run place, later ∈ second.run middle :=
  List.mem_flatMap

@[simp] theorem mem_run_alt :
    later ∈ (alt first second).run place ↔ later ∈ first.run place ∨ later ∈ second.run place :=
  List.mem_append

section

attribute [local simp] run manyFrom

@[simp] theorem mem_run_group {name : String} : later ∈ (group name inner).run place ↔
    ∃ last ∈ inner.run place, later = place.capture name last := by
  simp only [run, List.mem_map, eq_comm]

@[simp] theorem mem_run_start :
    later ∈ Pattern.start.run place ↔ place.before = [] ∧ later = place := by
  by_cases hplace : place.before = [] <;> simp [hplace]

@[simp] theorem mem_run_stop :
    later ∈ stop.run place ↔ (place.rest = [] ∨ place.rest = ['\n']) ∧ later = place := by
  by_cases hplace : place.rest = [] ∨ place.rest = ['\n'] <;> simp [hplace]

@[simp] theorem mem_run_notAhead :
    later ∈ (notAhead inner).run place ↔ (∀ ahead, ahead ∉ inner.run place) ∧ later = place := by
  rw [← List.eq_nil_iff_forall_not_mem]
  by_cases hplace : inner.run place = [] <;> simp [hplace]

end

@[simp] theorem mem_run_one : later ∈ (one among).run place ↔
    ∃ c rest, place.rest = c :: rest ∧ among c = true ∧ later = place.after [c] rest := by
  rw [run]
  cases place.rest with
  | nil => simp
  | cons c rest =>
    by_cases hc : among c = true
    · simp [hc]
    · simp [hc]

theorem mem_manyFrom {groups : List (String × List Char)} {before text : List Char} :
    later ∈ manyFrom among groups before text ↔ ∃ word rest, text = word ++ rest ∧
      (∀ c ∈ word, among c = true) ∧ later =
        { before := word.reverse ++ before, rest, groups } := by
  induction text generalizing before with
  | nil => simp [manyFrom]
  | cons c text ih =>
    rw [manyFrom]
    by_cases hc : among c = true
    · rw [if_pos hc, List.mem_append, ih, List.mem_singleton]
      constructor
      · rintro (⟨word, rest, rfl, hword, rfl⟩ | rfl)
        · exact ⟨c :: word, rest, rfl, List.forall_mem_cons.mpr ⟨hc, hword⟩, by simp⟩
        · exact ⟨[], c :: text, rfl, by simp, rfl⟩
      · rintro ⟨word, rest, htext, hword, rfl⟩
        cases word with
        | nil => exact .inr (by rw [List.nil_append] at htext; rw [← htext]; rfl)
        | cons d word =>
          obtain ⟨rfl, rfl⟩ := List.cons.inj htext
          exact .inl ⟨word, rest, rfl, (List.forall_mem_cons.mp hword).2, by simp⟩
    · rw [if_neg hc, List.mem_singleton]
      constructor
      · rintro rfl
        exact ⟨[], c :: text, rfl, by simp, rfl⟩
      · rintro ⟨word, rest, htext, hword, rfl⟩
        cases word with
        | nil => rw [List.nil_append] at htext; rw [← htext]; rfl
        | cons d word =>
          obtain ⟨rfl, -⟩ := List.cons.inj htext
          exact absurd (List.forall_mem_cons.mp hword).1 hc

@[simp] theorem mem_run_many : later ∈ (many among).run place ↔ ∃ word rest,
    place.rest = word ++ rest ∧ (∀ c ∈ word, among c = true) ∧ later = place.after word rest :=
  mem_manyFrom

@[simp] theorem mem_run_plus : later ∈ (plus among).run place ↔ ∃ word rest,
    place.rest = word ++ rest ∧ (word ≠ [] ∧ ∀ c ∈ word, among c = true) ∧
      later = place.after word rest := by
  simp only [plus, mem_run_seq, mem_run_one, mem_run_many]
  constructor
  · rintro ⟨_, ⟨c, _, hplace, hc, rfl⟩, word, rest, rfl, hword, rfl⟩
    exact ⟨c :: word, rest, hplace, ⟨by simp, List.forall_mem_cons.mpr ⟨hc, hword⟩⟩, by simp⟩
  · rintro ⟨word, rest, hplace, ⟨hne, hword⟩, rfl⟩
    obtain ⟨c, word, rfl⟩ := List.exists_cons_of_ne_nil hne
    obtain ⟨hc, hword⟩ := List.forall_mem_cons.mp hword
    exact ⟨_, ⟨c, word ++ rest, hplace, hc, rfl⟩, word, rest, rfl, hword, by simp⟩

@[simp] theorem mem_run_times {n : ℕ} : later ∈ (times among n).run place ↔ ∃ word rest,
    place.rest = word ++ rest ∧ (word.length = n ∧ ∀ c ∈ word, among c = true) ∧
      later = place.after word rest := by
  induction n generalizing place with
  | zero =>
    rw [times, mem_run_empty]
    constructor
    · rintro rfl
      exact ⟨[], later.rest, rfl, ⟨rfl, by simp⟩, rfl⟩
    · rintro ⟨word, rest, hplace, ⟨hlength, -⟩, rfl⟩
      obtain rfl := List.length_eq_zero_iff.mp hlength
      rw [List.nil_append] at hplace
      rw [← hplace, Place.after_nil]
  | succ n ih =>
    simp only [times, mem_run_seq, mem_run_one, ih]
    constructor
    · rintro ⟨_, ⟨c, _, hplace, hc, rfl⟩, word, rest, rfl, ⟨hlength, hword⟩, rfl⟩
      exact ⟨c :: word, rest, hplace, ⟨by simp [hlength], List.forall_mem_cons.mpr ⟨hc, hword⟩⟩,
        by simp⟩
    · rintro ⟨word, rest, hplace, ⟨hlength, hword⟩, rfl⟩
      cases word with
      | nil => simp at hlength
      | cons c word =>
        obtain ⟨hc, hword⟩ := List.forall_mem_cons.mp hword
        exact ⟨_, ⟨c, word ++ rest, hplace, hc, rfl⟩, word, rest, rfl,
          ⟨by simpa using hlength, hword⟩, by simp⟩

variable {text : String}

theorem mem_run_lit : later ∈ (lit text).run place ↔
    ∃ rest, place.rest = text.toList ++ rest ∧ later = place.after text.toList rest := by
  rw [lit]
  generalize text.toList = word
  induction word generalizing place with
  | nil => simp [Place.after_nil, eq_comm]
  | cons c word ih =>
    simp only [List.foldr_cons, mem_run_seq, mem_run_one, ih, decide_eq_true_eq]
    constructor
    · rintro ⟨_, ⟨_, _, hplace, rfl, rfl⟩, rest, rfl, rfl⟩
      exact ⟨rest, hplace, by simp⟩
    · rintro ⟨rest, hplace, rfl⟩
      exact ⟨_, ⟨c, word ++ rest, hplace, rfl, rfl⟩, rest, rfl, by simp⟩

/-! ## Patterns that read the words of a language -/

/-- The pattern reads a word of the language, wherever it stands. -/
def Reads (pattern : Pattern) (words : List Char → Prop) : Prop :=
  ∀ place later, later ∈ pattern.run place ↔
    ∃ word rest, place.rest = word ++ rest ∧ words word ∧ later = place.after word rest

variable {words others : List Char → Prop}

theorem reads_lit (text : String) : (lit text).Reads (· = text.toList) := by
  intro place later
  rw [mem_run_lit]
  constructor
  · rintro ⟨rest, hplace, rfl⟩
    exact ⟨_, rest, hplace, rfl, rfl⟩
  · rintro ⟨_, rest, hplace, rfl, rfl⟩
    exact ⟨rest, hplace, rfl⟩

theorem reads_plus (among : Char → Bool) :
    (plus among).Reads fun word => word ≠ [] ∧ ∀ c ∈ word, among c = true :=
  fun _ _ => mem_run_plus

theorem reads_times (among : Char → Bool) (n : ℕ) :
    (times among n).Reads fun word => word.length = n ∧ ∀ c ∈ word, among c = true :=
  fun _ _ => mem_run_times

theorem reads_empty : empty.Reads (· = []) := by
  intro place later
  rw [mem_run_empty]
  constructor
  · rintro rfl
    exact ⟨[], later.rest, rfl, rfl, rfl⟩
  · rintro ⟨_, rest, hplace, rfl, rfl⟩
    rw [List.nil_append] at hplace
    rw [← hplace, Place.after_nil]

/-- What comes after a pattern that reads the words of a language. -/
theorem mem_run_seq_of_reads (h : first.Reads words) : later ∈ (seq first second).run place ↔
    ∃ word rest, place.rest = word ++ rest ∧ words word ∧
      later ∈ second.run (place.after word rest) := by
  rw [mem_run_seq]
  constructor
  · rintro ⟨middle, hfirst, hsecond⟩
    obtain ⟨word, rest, hplace, hword, rfl⟩ := (h _ _).mp hfirst
    exact ⟨word, rest, hplace, hword, hsecond⟩
  · rintro ⟨word, rest, hplace, hword, hsecond⟩
    exact ⟨_, (h _ _).mpr ⟨word, rest, hplace, hword, rfl⟩, hsecond⟩

theorem mem_run_seq_start :
    later ∈ (seq Pattern.start second).run place ↔
      place.before = [] ∧ later ∈ second.run place := by
  simp only [mem_run_seq, mem_run_start]
  constructor
  · rintro ⟨_, ⟨hbefore, rfl⟩, hsecond⟩
    exact ⟨hbefore, hsecond⟩
  · rintro ⟨hbefore, hsecond⟩
    exact ⟨place, ⟨hbefore, rfl⟩, hsecond⟩

/-- `$` at the end of a pattern. -/
theorem mem_run_seq_stop : later ∈ (seq stop empty).run place ↔
    (place.rest = [] ∨ place.rest = ['\n']) ∧ later = place := by
  simp only [mem_run_seq, mem_run_stop, mem_run_empty]
  constructor
  · rintro ⟨_, ⟨hend, rfl⟩, rfl⟩
    exact ⟨hend, rfl⟩
  · rintro ⟨hend, rfl⟩
    exact ⟨later, ⟨hend, rfl⟩, rfl⟩

/-- What comes after a group that reads the words of a language. -/
theorem mem_run_seq_group (h : first.Reads words) {name : String} :
    later ∈ (seq (group name first) second).run place ↔
      ∃ word rest, place.rest = word ++ rest ∧ words word ∧
        later ∈ second.run ((place.after word rest).grouped name word) := by
  simp only [mem_run_seq, mem_run_group]
  constructor
  · rintro ⟨middle, ⟨last, hfirst, rfl⟩, hsecond⟩
    obtain ⟨word, rest, hplace, hword, rfl⟩ := (h _ _).mp hfirst
    rw [Place.capture_after hplace] at hsecond
    exact ⟨word, rest, hplace, hword, hsecond⟩
  · rintro ⟨word, rest, hplace, hword, hsecond⟩
    refine ⟨_, ⟨_, (h _ _).mpr ⟨word, rest, hplace, hword, rfl⟩, rfl⟩, ?_⟩
    rw [Place.capture_after hplace]
    exact hsecond

theorem Reads.seq (hfirst : first.Reads words) (hsecond : second.Reads others) :
    (Pattern.seq first second).Reads fun text =>
      ∃ word other, text = word ++ other ∧ words word ∧ others other := by
  intro place later
  rw [mem_run_seq_of_reads hfirst]
  constructor
  · rintro ⟨word, middle, hplace, hword, hlater⟩
    obtain ⟨other, rest, hmiddle, hother, rfl⟩ := (hsecond _ _).mp hlater
    rw [Place.rest_after] at hmiddle
    exact ⟨word ++ other, rest, by rw [hplace, hmiddle, List.append_assoc],
      ⟨word, other, rfl, hword, hother⟩, Place.after_after _ _ _ _ _⟩
  · rintro ⟨_, rest, hplace, ⟨word, other, rfl, hword, hother⟩, rfl⟩
    refine ⟨word, other ++ rest, by rw [hplace, List.append_assoc], hword, ?_⟩
    exact (hsecond _ _).mpr ⟨other, rest, rfl, hother, (Place.after_after _ _ _ _ _).symm⟩

/-- A pattern that reads the words of a language takes a whole text that is one of them. -/
theorem Reads.exists_end (h : pattern.Reads words) {text : List Char} :
    (∃ last ∈ pattern.run (.start text), last.rest = []) ↔ words text := by
  constructor
  · rintro ⟨last, hlast, hend⟩
    obtain ⟨word, rest, htext, hword, rfl⟩ := (h _ _).mp hlast
    obtain rfl : rest = [] := hend
    rw [Place.rest_start, List.append_nil] at htext
    rwa [htext]
  · intro hword
    exact ⟨_, (h _ _).mpr ⟨text, [], (List.append_nil _).symm, hword, rfl⟩, rfl⟩

/-! ## Matches -/

theorem fullMatch_eq_true : pattern.fullMatch text = true ↔
    ∃ place ∈ pattern.run (.start text.toList), place.rest = [] := by
  simp [fullMatch]

/-- `^` and `$` around a pattern that is to take the whole text anyway. -/
theorem fullMatch_anchored :
    (seqs [Pattern.start, pattern, stop]).fullMatch text = true ↔
      ∃ last ∈ pattern.run (.start text.toList), last.rest = [] := by
  simp only [fullMatch_eq_true, seqs, List.foldr_cons, List.foldr_nil, mem_run_seq, mem_run_start,
    mem_run_stop, mem_run_empty]
  constructor
  · rintro ⟨_, ⟨_, ⟨-, rfl⟩, last, hlast, _, ⟨-, rfl⟩, rfl⟩, hend⟩
    exact ⟨_, hlast, hend⟩
  · rintro ⟨last, hlast, hend⟩
    exact ⟨last, ⟨_, ⟨rfl, rfl⟩, last, hlast, last, ⟨.inl hend, rfl⟩, rfl⟩, hend⟩

theorem prefixMatch_eq_none : pattern.prefixMatch text = none ↔
    ∀ place, place ∉ pattern.run (.start text.toList) := by
  rw [prefixMatch, List.head?_eq_none_iff, List.eq_nil_iff_forall_not_mem]

theorem exists_prefixMatch : (∃ place, pattern.prefixMatch text = some place) ↔
    ∃ place, place ∈ pattern.run (.start text.toList) := by
  rw [← Option.isSome_iff_exists, ← Option.not_isNone, Bool.not_eq_true', ← Bool.not_eq_true,
    Option.isNone_iff_eq_none, prefixMatch_eq_none]
  simp

theorem mem_of_prefixMatch (h : pattern.prefixMatch text = some place) :
    place ∈ pattern.run (.start text.toList) := List.mem_of_head? h

end Pattern

end ChatmanEcosystem.Common
