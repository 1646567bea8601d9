import ChatmanEcosystem.Common.Lines
import ChatmanEcosystem.Common.Regex
import ChatmanEcosystem.Py.Text
import ChatmanEcosystem.Py.Value

/-!
# Durable locators

Model of `is_durable` (`scripts/release_train/root_crown/binding.py`, lines 48–63) and of `parse`
(`scripts/durable_locator/durable_locator.py`, lines 54–117), with the patterns of both.

Results:

* `isDurable_iff`, `exists_parsed`: the locators that each of them takes.
* `durable_iff_parsed_iff`: the locators on which they agree.
-/

namespace ChatmanEcosystem.RootCrown

open Common Py Pattern

/-! ## Patterns -/

/-- `[A-Za-z0-9_.-]`. -/
def isNameChar (c : Char) : Bool := c.isAlphanum || c = '_' || c = '.' || c = '-'

/-- That class with the slash. -/
def isRefChar (c : Char) : Bool := isNameChar c || c = '/'

/-- `[0-9a-f]`. -/
def isHex (c : Char) : Bool := c.isDigit || ('a' ≤ c && c ≤ 'f')

/-- `\S`, and `[^\s]`. -/
def notSpace (c : Char) : Bool := !isSpace c

/-- `_REPO` of both files. -/
def repoRx : Pattern := seqs [plus isNameChar, lit "/", plus isNameChar]

/-- `HEX40` of the locators, `[0-9a-f]{40}`. -/
def hex40 : Pattern := times isHex 40

/-- `(?!.*(?:^|/)\.\.(?:/|$))`. -/
def noDots : Pattern :=
  notAhead (seqs [many (· ≠ '\n'), alt start (lit "/"), lit "..", alt (lit "/") stop])

/-- `DURABLE_LOCATOR` (lines 50–54 of the binding). -/
def durableLocatorRx : Pattern :=
  seqs [start, alts
    (seqs [lit "git:", repoRx, lit "@", hex40, lit ":", notAhead (lit "/"), noDots, plus notSpace])
    [seqs [lit "git-notes:refs/notes/", plus isRefChar, lit "@", hex40],
      seqs [lit "https://", plus notSpace]], stop]

/-- `is_durable` of a string (lines 62–63). -/
def isDurable (locator : String) : Bool := durableLocatorRx.fullMatch locator

/-- `GIT_RX` (line 65 of the index). -/
def gitRx : Pattern :=
  seqs [start, lit "git:", group "repo" repoRx, lit "@", group "sha" hex40, lit ":",
    group "path" (plus notSpace), stop]

/-- `NOTES_RX` (line 66). -/
def notesRx : Pattern :=
  seqs [start, lit "git-notes:", group "ref" (seqs [lit "refs/notes/", plus isRefChar]), lit "@",
    group "sha" hex40, stop]

/-- `HTTPS_RX` (line 67). -/
def httpsRx : Pattern := seqs [start, lit "https://", plus notSpace, stop]

/-- `SHALESS_RX` (line 68). -/
def shalessRx : Pattern :=
  seqs [start, opt (lit "git:"), group "repo" repoRx,
    opt (seqs [lit "@", group "badsha" (many (· ≠ ':'))]), lit ":", group "path" (plus notSpace),
    stop]

/-- `SCRATCH_RX` (lines 70–72). -/
def scratchRx (py : PyRuntime) : Pattern :=
  alts (lit "scratchpad/")
    [lit "/private/tmp/",
      seqs [notBehind fun c => py.isAlnum c || c = '_' || c = '.', lit "/tmp/"],
      lit "~/.claude",
      seqs [lit "/Users/", plus fun c => notSpace c && c ≠ '/', lit "/.claude/"],
      lit ".claude/migration"]

/-! ## The index -/

/-- `class Refused` (lines 75–81). -/
structure Refused where
  code : String
  detail : String
  deriving DecidableEq

/-- `class Locator` (lines 84–91). -/
structure Locator where
  kind : String
  repository : Option String
  sha : Option String
  path : Option String
  ref : Option String
  text : String
  deriving DecidableEq

/-- `m[name]`. -/
def captured (place : Place) (name : String) : String :=
  String.ofList ((place.groups.lookup name).getD [])

/-- `".."`, a segment of a path. -/
def dots : List Char := ['.', '.']

/-- `parse` (lines 97–117). -/
def parse (py : PyRuntime) (text : String) : Except Refused Locator :=
  if text = "" ∨ strip text.toList ≠ text.toList then .error ⟨"MALFORMED", py.repr (.str text)⟩
  else if (scratchRx py).search text then .error ⟨"SCRATCH_LOCATOR", text⟩
  else if text.toList.head? = some '/' ∨ text.toList.head? = some '~' then
    .error ⟨"ABSOLUTE_PATH", text⟩
  else match gitRx.prefixMatch text with
  | some place =>
    let path := captured place "path"
    if path.toList.head? = some '/' ∨ dots ∈ path.toList.splitOn '/' then
      .error ⟨"MALFORMED", "path must be repo-relative: " ++ text⟩
    else .ok ⟨"git", captured place "repo", captured place "sha", path, none, text⟩
  | none =>
    match notesRx.prefixMatch text with
    | some place => .ok ⟨"git-notes", none, captured place "sha", none, captured place "ref", text⟩
    | none =>
      if (httpsRx.prefixMatch text).isSome then .ok ⟨"https", none, none, none, none, text⟩
      else if (shalessRx.prefixMatch text).isSome ∧
          ¬ ("http:".toList <+: text.toList ∨ "https:".toList <+: text.toList) then
        .error ⟨"MISSING_SHA", text⟩
      else .error ⟨"MALFORMED", text⟩

/-! ## The grammar -/

/-- `git:<owner>/<repo>@<40hex>:<path>`. -/
structure GitForm (text owner repo sha path : List Char) : Prop where
  eq : text = "git:".toList ++ (owner ++ '/' :: (repo ++ '@' :: (sha ++ ':' :: path)))
  owner : owner ≠ [] ∧ ∀ c ∈ owner, isNameChar c = true
  repo : repo ≠ [] ∧ ∀ c ∈ repo, isNameChar c = true
  sha : sha.length = 40 ∧ ∀ c ∈ sha, isHex c = true
  path : path ≠ [] ∧ ∀ c ∈ path, notSpace c = true

/-- `git-notes:refs/notes/<ref>@<40hex>`. -/
def NotesForm (text : List Char) : Prop :=
  ∃ ref sha, text = "git-notes:refs/notes/".toList ++ (ref ++ '@' :: sha) ∧
    (ref ≠ [] ∧ ∀ c ∈ ref, isRefChar c = true) ∧ sha.length = 40 ∧ ∀ c ∈ sha, isHex c = true

/-- `https://...`. -/
def HttpsForm (text : List Char) : Prop :=
  ∃ rest, text = "https://".toList ++ rest ∧ rest ≠ [] ∧ ∀ c ∈ rest, notSpace c = true

/-- The locators of the grammar: a path within a repository at a commit, a note, or a URL. -/
inductive Formed (text : List Char) : Prop
  | git {owner repo sha path : List Char} (form : GitForm text owner repo sha path)
      (relative : path.head? ≠ some '/') (inside : dots ∉ path.splitOn '/')
  | notes (form : NotesForm text)
  | https (form : HttpsForm text)

/-- A path that leaves the repository by its first segment, and by no other. -/
def Escapes (text : List Char) : Prop :=
  ∃ owner repo sha path, GitForm text owner repo sha path ∧
    (path.splitOn '/').head? = some dots ∧ dots ∉ (path.splitOn '/').tail

/-! ## What the patterns read -/

variable {text : List Char}

theorem reads_repoRx : repoRx.Reads fun word => ∃ owner repo, word = owner ++ '/' :: repo ∧
    (owner ≠ [] ∧ ∀ c ∈ owner, isNameChar c = true) ∧
      repo ≠ [] ∧ ∀ c ∈ repo, isNameChar c = true := by
  have hreads := (reads_plus isNameChar).seq ((reads_lit "/").seq
    ((reads_plus isNameChar).seq reads_empty))
  intro place later
  rw [repoRx, seqs]
  refine (hreads place later).trans (exists_congr fun word => exists_congr fun rest => ?_)
  refine and_congr_right fun _ => and_congr_left fun _ => ?_
  constructor
  · rintro ⟨owner, _, rfl, howner, _, _, rfl, rfl, repo, _, rfl, hrepo, rfl⟩
    exact ⟨owner, repo, by simp, howner, hrepo⟩
  · rintro ⟨owner, repo, rfl, howner, hrepo⟩
    exact ⟨owner, '/' :: repo, rfl, howner, _, repo, rfl, rfl, repo, [], by simp, hrepo, rfl⟩

theorem reads_hex40 : hex40.Reads fun word => word.length = 40 ∧ ∀ c ∈ word, isHex c = true :=
  reads_times isHex 40

variable {owner repo sha path : List Char}

/-- A locator of a git object has one reading. -/
theorem GitForm.unique {owner' repo' sha' path' : List Char} (h : GitForm text owner repo sha path)
    (h' : GitForm text owner' repo' sha' path') :
    owner = owner' ∧ repo = repo' ∧ sha = sha' ∧ path = path' := by
  have hslash : ∀ {word : List Char}, (∀ c ∈ word, isNameChar c = true) → '/' ∉ word :=
    fun hword hmem => absurd (hword _ hmem) (by decide)
  have hat : ∀ {word : List Char}, (∀ c ∈ word, isNameChar c = true) → '@' ∉ word :=
    fun hword hmem => absurd (hword _ hmem) (by decide)
  have hcolon : ∀ {word : List Char}, (∀ c ∈ word, isHex c = true) → ':' ∉ word :=
    fun hword hmem => absurd (hword _ hmem) (by decide)
  have hnamed := List.append_cancel_left (h.eq.symm.trans h'.eq)
  obtain ⟨howner, hnamed⟩ := (append_sep_inj (hslash h.owner.2) (hslash h'.owner.2)).mp hnamed
  obtain ⟨hrepo, hnamed⟩ := (append_sep_inj (hat h.repo.2) (hat h'.repo.2)).mp hnamed
  obtain ⟨hsha, hpath⟩ := (append_sep_inj (hcolon h.sha.2) (hcolon h'.sha.2)).mp hnamed
  exact ⟨howner, hrepo, hsha, hpath⟩

/-- The locator of a git object is neither one of a note nor a URL. -/
theorem GitForm.not_notes (h : GitForm text owner repo sha path) :
    ¬ NotesForm text := by
  rintro ⟨ref, sha', hnotes, -⟩
  have heq := h.eq.symm.trans hnotes
  simp at heq

theorem GitForm.not_https (h : GitForm text owner repo sha path) :
    ¬ HttpsForm text := by
  rintro ⟨rest, hhttps, -⟩
  have heq := h.eq.symm.trans hhttps
  simp at heq

theorem NotesForm.not_https (h : NotesForm text) : ¬ HttpsForm text := by
  rintro ⟨rest, hhttps, -⟩
  obtain ⟨ref, sha, hnotes, -⟩ := h
  have heq := hnotes.symm.trans hhttps
  simp at heq

theorem not_formed_of_escapes (h : Escapes text) : ¬ Formed text := by
  obtain ⟨owner, repo, sha, path, hform, hfirst, -⟩ := h
  intro hformed
  cases hformed with
  | git form _ inside =>
    obtain ⟨-, -, -, rfl⟩ := hform.unique form
    exact inside (mem_splitOn.mpr (.inl hfirst))
  | notes form => exact hform.not_notes form
  | https form => exact hform.not_https form

variable {place : Place}

/-- What `(?!.*(?:^|/)\.\.(?:/|$))` asks of a path: beyond its beginning `^` does not match, so that
it goes by the segments after the first. -/
theorem mem_run_noDots {later : Place} (hbefore : place.before ≠ [])
    (hpath : ∀ c ∈ place.rest, notSpace c = true) : later ∈ noDots.run place ↔
      dots ∉ (place.rest.splitOn '/').tail ∧ later = place := by
  rw [noDots, mem_run_notAhead]
  refine and_congr_left fun _ => ?_
  rw [← not_exists, not_iff_not, mem_tail_splitOn]
  simp only [seqs, List.foldr_cons, List.foldr_nil, mem_run_seq, mem_run_many, mem_run_alt,
    mem_run_start, mem_run_lit, mem_run_stop, mem_run_empty]
  constructor
  · rintro ⟨_, _, ⟨first, rest, hplace, hfirst, rfl⟩, middle, hslash, _, ⟨last, hdots, rfl⟩, _,
      hend, -⟩
    rcases hslash with ⟨hstart, rfl⟩ | ⟨tail, htail, rfl⟩
    · simp at hstart
      exact absurd hstart.2 hbefore
    · rw [Place.rest_after] at htail hdots
      refine ⟨by decide, first, last, by rw [hplace, htail, hdots]; rfl, ?_⟩
      rcases hend with ⟨later, hlater, -⟩ | ⟨hlast, -⟩
      · exact .inr ⟨later, hlater⟩
      · rcases hlast with hlast | hlast
        · exact .inl hlast
        · rw [Place.rest_after] at hlast
          have hbreak := hpath '\n' (by rw [hplace, htail, hdots, hlast]; simp)
          exact absurd hbreak (by decide)
  · rintro ⟨-, first, rest, hplace, hrest⟩
    have hfirst : ∀ c ∈ first, decide (c ≠ '\n') = true := by
      intro c hc
      refine decide_eq_true ?_
      rintro rfl
      exact absurd (hpath '\n' (by rw [hplace]; simp [hc])) (by decide)
    rcases hrest with rfl | ⟨later, rfl⟩
    · exact ⟨_, _, ⟨first, _, hplace, hfirst, rfl⟩, _, .inr ⟨_, rfl, rfl⟩, _, ⟨[], rfl, rfl⟩, _,
        .inr ⟨.inl rfl, rfl⟩, rfl⟩
    · exact ⟨_, _, ⟨first, _, hplace, hfirst, rfl⟩, _, .inr ⟨_, rfl, rfl⟩, _, ⟨_, rfl, rfl⟩, _,
        .inl ⟨later, rfl, rfl⟩, rfl⟩

/-- The path of a durable git locator. -/
theorem exists_path (hbefore : place.before ≠ []) :
    (∃ last ∈ (seqs [notAhead (lit "/"), noDots, plus notSpace]).run place, last.rest = []) ↔
      (place.rest ≠ [] ∧ ∀ c ∈ place.rest, notSpace c = true) ∧ place.rest.head? ≠ some '/' ∧
        dots ∉ (place.rest.splitOn '/').tail := by
  have hrelative : (∀ ahead, ahead ∉ (lit "/").run place) ↔ place.rest.head? ≠ some '/' := by
    simp only [mem_run_lit]
    cases hrest : place.rest with
    | nil => simp
    | cons c rest => simp
  simp only [seqs, List.foldr_cons, List.foldr_nil, mem_run_seq, mem_run_notAhead, hrelative]
  constructor
  · rintro ⟨last, ⟨first, ⟨hslash, hfirst⟩, middle, hdots, _, hword, hlast⟩, hend⟩
    rw [hfirst] at hdots
    have hmiddle : middle = place := (mem_run_notAhead.mp hdots).2
    rw [hmiddle] at hdots hword
    obtain ⟨word, rest, hplace, hspaces, rfl⟩ := mem_run_plus.mp hword
    obtain rfl := mem_run_empty.mp hlast
    obtain rfl : rest = [] := hend
    rw [List.append_nil] at hplace
    rw [← hplace] at hspaces
    exact ⟨hspaces, hslash, ((mem_run_noDots hbefore hspaces.2).mp hdots).1⟩
  · rintro ⟨hspaces, hslash, hdots⟩
    have hword : place.after place.rest [] ∈ (plus notSpace).run place :=
      mem_run_plus.mpr ⟨place.rest, [], (List.append_nil _).symm, hspaces, rfl⟩
    exact ⟨_, ⟨place, ⟨hslash, rfl⟩, place, (mem_run_noDots hbefore hspaces.2).mpr ⟨hdots, rfl⟩, _,
      hword, mem_run_empty.mpr rfl⟩, rfl⟩

theorem exists_gitArm : (∃ last ∈ (seqs [lit "git:", repoRx, lit "@", hex40, lit ":",
      notAhead (lit "/"), noDots, plus notSpace]).run (.start text), last.rest = []) ↔
    ∃ owner repo sha path, GitForm text owner repo sha path ∧ path.head? ≠ some '/' ∧
      dots ∉ (path.splitOn '/').tail := by
  have htail := @exists_path
  simp only [seqs, List.foldr_cons, List.foldr_nil] at htail
  simp only [seqs, List.foldr_cons, List.foldr_nil, mem_run_seq_of_reads (reads_lit "git:"),
    mem_run_seq_of_reads reads_repoRx, mem_run_seq_of_reads (reads_lit "@"),
    mem_run_seq_of_reads reads_hex40, mem_run_seq_of_reads (reads_lit ":")]
  constructor
  · rintro ⟨last, ⟨_, named, htext, rfl, _, rest, hnamed, ⟨owner, repo, rfl, howner, hrepo⟩, _,
      after,
      hat, rfl, sha, colon, hsha, hhex, _, path, hcolon, rfl, hpath⟩, hend⟩
    obtain ⟨hspaces, hrelative, hdots⟩ := (htail (by simp)).mp ⟨last, hpath, hend⟩
    simp only [Place.rest_after, Place.rest_start] at htext hnamed hat hsha hcolon
    refine ⟨owner, repo, sha, path, ⟨?_, howner, hrepo, hhex, hspaces⟩, hrelative, hdots⟩
    rw [htext, hnamed, hat, hsha, hcolon, List.append_assoc]
    rfl
  · rintro ⟨owner, repo, sha, path, hform, hrelative, hdots⟩
    obtain ⟨last, hpath, hend⟩ := (@htail (((((Place.start text).after "git:".toList _).after
      (owner ++ '/' :: repo) _).after "@".toList _).after sha _ |>.after ":".toList path)
      (by simp)).mpr ⟨hform.path, hrelative, hdots⟩
    refine ⟨last, ⟨_, _, hform.eq, rfl, owner ++ '/' :: repo, '@' :: (sha ++ ':' :: path), ?_,
      ⟨owner, repo, rfl, hform.owner, hform.repo⟩, _, _, rfl, rfl, sha, ':' :: path, rfl, hform.sha,
      _, path, rfl, rfl, hpath⟩, hend⟩
    rw [Place.rest_after, List.append_assoc]
    rfl

theorem exists_notesArm : (∃ last ∈ (seqs [lit "git-notes:refs/notes/", plus isRefChar, lit "@",
      hex40]).run (.start text), last.rest = []) ↔ NotesForm text := by
  have hreads := (reads_lit "git-notes:refs/notes/").seq ((reads_plus isRefChar).seq
    ((reads_lit "@").seq (reads_hex40.seq reads_empty)))
  refine hreads.exists_end.trans ?_
  constructor
  · rintro ⟨_, _, rfl, rfl, ref, _, rfl, href, _, _, rfl, rfl, sha, _, rfl, hsha, rfl⟩
    exact ⟨ref, sha, by rw [List.append_nil]; rfl, href, hsha⟩
  · rintro ⟨ref, sha, rfl, href, hsha⟩
    exact ⟨_, _, rfl, rfl, ref, _, rfl, href, _, sha, rfl, rfl, sha, [], by simp, hsha, rfl⟩

theorem exists_httpsArm : (∃ last ∈ (seqs [lit "https://", plus notSpace]).run (.start text),
      last.rest = []) ↔ HttpsForm text := by
  have hreads := (reads_lit "https://").seq ((reads_plus notSpace).seq reads_empty)
  refine hreads.exists_end.trans ?_
  constructor
  · rintro ⟨_, _, rfl, rfl, rest, _, rfl, hrest, rfl⟩
    exact ⟨rest, by rw [List.append_nil], hrest⟩
  · rintro ⟨rest, rfl, hrest⟩
    exact ⟨_, _, rfl, rfl, rest, [], by simp, hrest, rfl⟩

variable {locator : String}

/-- What `is_durable` takes: the grammar, and paths that escape by their first segment. -/
theorem isDurable_iff :
    isDurable locator = true ↔ Formed locator.toList ∨ Escapes locator.toList := by
  have harms : isDurable locator = true ↔
      (∃ owner repo sha path, GitForm locator.toList owner repo sha path ∧
        path.head? ≠ some '/' ∧ dots ∉ (path.splitOn '/').tail) ∨
      NotesForm locator.toList ∨ HttpsForm locator.toList := by
    rw [isDurable, durableLocatorRx, fullMatch_anchored, ← exists_gitArm, ← exists_notesArm,
      ← exists_httpsArm]
    simp only [alts, List.foldl_cons, List.foldl_nil, mem_run_alt, or_and_right, exists_or,
      or_assoc]
  rw [harms]
  constructor
  · rintro (⟨owner, repo, sha, path, hform, hrelative, hdots⟩ | hnotes | hhttps)
    · by_cases hfirst : (path.splitOn '/').head? = some dots
      · exact .inr ⟨owner, repo, sha, path, hform, hfirst, hdots⟩
      · refine .inl (.git hform hrelative fun hmem => ?_)
        exact (mem_splitOn.mp hmem).elim hfirst hdots
    · exact .inl (.notes hnotes)
    · exact .inl (.https hhttps)
  · rintro (hformed | ⟨owner, repo, sha, path, hform, hfirst, hdots⟩)
    · cases hformed with
      | @git owner repo sha path form relative inside =>
        exact .inl ⟨owner, repo, sha, path, form, relative, fun hmem =>
          inside (mem_splitOn.mpr (.inr hmem))⟩
      | notes form => exact .inr (.inl form)
      | https form => exact .inr (.inr form)
    · refine .inl ⟨owner, repo, sha, path, hform, ?_, hdots⟩
      obtain ⟨-, rest, rfl, -⟩ := head?_splitOn.mp hfirst
      simp [dots]

/-! ## What `parse` takes -/

theorem getLast?_append_of_ne_nil {pre word : List Char} (hne : word ≠ [])
    (hword : ∀ c ∈ word, isSpace c = false) : (pre ++ word).getLast?.any isSpace = false := by
  rw [List.getLast?_append_of_ne_nil _ hne, List.getLast?_eq_getLast_of_ne_nil hne]
  exact hword _ (List.getLast_mem hne)

theorem isSpace_of_isHex {c : Char} (h : isHex c = true) : isSpace c = false := by
  have hrange : 48 ≤ c.toNat ∧ c.toNat ≤ 102 := by
    simp only [isHex, Char.isDigit, Bool.or_eq_true, Bool.and_eq_true, decide_eq_true_eq,
      ge_iff_le, Char.le_def, UInt32.le_iff_toNat_le] at h
    have hnat : c.val.toNat = c.toNat := rfl
    have hbounds : ('a' : Char).val.toNat = 97 ∧ ('f' : Char).val.toNat = 102 ∧
      ('0' : Char).val.toNat = 48 ∧ ('9' : Char).val.toNat = 57 := by decide
    omega
  simp only [isSpace, Bool.or_eq_false_iff, Bool.and_eq_false_iff, decide_eq_false_iff_not]
  omega

/-- A formed locator does not end with a space. -/
theorem GitForm.last (h : GitForm text owner repo sha path) :
    text.getLast?.any isSpace = false := by
  have hpath : ∀ c ∈ path, isSpace c = false := fun c hc => by simpa [notSpace] using h.path.2 c hc
  have heq : text = ("git:".toList ++ (owner ++ '/' :: (repo ++ '@' :: (sha ++ [':'])))) ++
    path := by
    rw [h.eq]
    simp
  rw [heq]
  exact getLast?_append_of_ne_nil h.path.1 hpath

theorem NotesForm.last (h : NotesForm text) : text.getLast?.any isSpace = false := by
  obtain ⟨ref, sha, rfl, -, hlength, hhex⟩ := h
  have hne : sha ≠ [] := by
    rintro rfl
    simp at hlength
  have hsha : ∀ c ∈ sha, isSpace c = false := fun c hc => isSpace_of_isHex (hhex c hc)
  have heq : "git-notes:refs/notes/".toList ++ (ref ++ '@' :: sha) =
      ("git-notes:refs/notes/".toList ++ (ref ++ ['@'])) ++ sha := by simp
  rw [heq]
  exact getLast?_append_of_ne_nil hne hsha

theorem HttpsForm.last (h : HttpsForm text) : text.getLast?.any isSpace = false := by
  obtain ⟨rest, rfl, hne, hspaces⟩ := h
  exact getLast?_append_of_ne_nil hne fun c hc => by simpa [notSpace] using hspaces c hc

theorem Formed.last (h : Formed text) : text.getLast?.any isSpace = false := by
  cases h with
  | git form => exact form.last
  | notes form => exact form.last
  | https form => exact form.last

theorem Formed.first (h : Formed text) : text.head? = some 'g' ∨ text.head? = some 'h' := by
  cases h with
  | git form => exact .inl (by rw [form.eq]; rfl)
  | notes form =>
    obtain ⟨ref, sha, rfl, -⟩ := form
    exact .inl rfl
  | https form =>
    obtain ⟨rest, rfl, -⟩ := form
    exact .inr rfl

/-- `$` after a word of a text that does not end with a space. -/
theorem rest_eq_nil {pre rest : List Char} (hlast : (pre ++ rest).getLast?.any isSpace = false)
    (hstop : rest = [] ∨ rest = ['\n']) : rest = [] := by
  refine hstop.resolve_right ?_
  rintro rfl
  rw [List.getLast?_append] at hlast
  have hspace : isSpace '\n' = false := hlast
  exact absurd hspace (by decide)

/-- The groups of a match of `GIT_RX`. -/
theorem groups_of_gitRx (hlast : text.getLast?.any isSpace = false)
    (h : place ∈ gitRx.run (.start text)) : ∃ owner repo sha path,
      GitForm text owner repo sha path ∧
      place.groups = [("path", path), ("sha", sha), ("repo", owner ++ '/' :: repo)] := by
  simp only [gitRx, seqs, List.foldr_cons, List.foldr_nil, mem_run_seq_start, mem_run_seq_stop,
    mem_run_seq_of_reads (reads_lit _), mem_run_seq_group reads_repoRx,
    mem_run_seq_group reads_hex40, mem_run_seq_group (reads_plus _)] at h
  obtain ⟨-, _, named, htext, rfl, _, rest, hnamed, ⟨owner, repo, rfl, howner, hrepo⟩, _, after,
    hat, rfl, sha, colon, hsha, hhex, _, tail, hcolon, rfl, path, last, htail, hpath, hstop, rfl⟩ :=
      h
  simp only [Place.rest_after, Place.rest_grouped, Place.rest_start]
    at htext hnamed hat hsha hcolon htail hstop
  have heq : text = ("git:".toList ++ (owner ++ '/' :: (repo ++ '@' :: (sha ++ ':' :: path)))) ++
      last := by
    rw [htext, hnamed, hat, hsha, hcolon, htail]
    simp
  rw [heq] at hlast
  obtain rfl := rest_eq_nil hlast hstop
  exact ⟨owner, repo, sha, path, ⟨by rw [heq, List.append_nil], howner, hrepo, hhex, hpath⟩, rfl⟩

theorem exists_gitRx (h : GitForm text owner repo sha path) :
    ∃ place, place ∈ gitRx.run (.start text) := by
  simp only [gitRx, seqs, List.foldr_cons, List.foldr_nil, mem_run_seq_start, mem_run_seq_stop,
    mem_run_seq_of_reads (reads_lit _), mem_run_seq_group reads_repoRx,
    mem_run_seq_group reads_hex40, mem_run_seq_group (reads_plus _)]
  refine ⟨_, rfl, _, _, h.eq, rfl, owner ++ '/' :: repo, '@' :: (sha ++ ':' :: path), ?_,
    ⟨owner, repo, rfl, h.owner, h.repo⟩, _, _, rfl, rfl, sha, ':' :: path, rfl, h.sha, _, path, rfl,
    rfl, path, [], (List.append_nil _).symm, h.path, .inl rfl, rfl⟩
  rw [Place.rest_after, List.append_assoc]
  rfl

theorem exists_notesRx (hlast : text.getLast?.any isSpace = false) :
    (∃ place, place ∈ notesRx.run (.start text)) ↔ NotesForm text := by
  have href := (reads_lit "refs/notes/").seq ((reads_plus isRefChar).seq reads_empty)
  simp only [notesRx, seqs, List.foldr_cons, List.foldr_nil, mem_run_seq_start, mem_run_seq_stop,
    mem_run_seq_of_reads (reads_lit _), mem_run_seq_group href, mem_run_seq_group reads_hex40]
  constructor
  · rintro ⟨_, -, _, named, htext, rfl, _, rest, hnamed, ⟨_, _, rfl, rfl, ref, _, rfl, hchars, rfl⟩,
      _, after, hat, rfl, sha, last, hsha, hhex, hstop, rfl⟩
    simp only [Place.rest_after, Place.rest_grouped,
      Place.rest_start] at htext hnamed hat hsha hstop
    have heq : text = ("git-notes:refs/notes/".toList ++ (ref ++ '@' :: sha)) ++ last := by
      rw [htext, hnamed, hat, hsha]
      simp
    rw [heq] at hlast
    obtain rfl := rest_eq_nil hlast hstop
    exact ⟨ref, sha, by rw [heq, List.append_nil], hchars, hhex⟩
  · rintro ⟨ref, sha, rfl, hchars, hhex⟩
    exact ⟨_, rfl, _, "refs/notes/".toList ++ (ref ++ '@' :: sha), rfl, rfl,
      "refs/notes/".toList ++ ref, '@' :: sha, (List.append_assoc _ _ _).symm,
      ⟨_, ref, rfl, rfl, ref, [], (List.append_nil _).symm, hchars, rfl⟩, _, sha, rfl, rfl, sha, [],
      (List.append_nil _).symm, hhex, .inl rfl, rfl⟩

theorem exists_httpsRx (hlast : text.getLast?.any isSpace = false) :
    (∃ place, place ∈ httpsRx.run (.start text)) ↔ HttpsForm text := by
  simp only [httpsRx, seqs, List.foldr_cons, List.foldr_nil, mem_run_seq_start, mem_run_seq_stop,
    mem_run_seq_of_reads (reads_lit _), mem_run_seq_of_reads (reads_plus _)]
  constructor
  · rintro ⟨_, -, _, _, htext, rfl, rest, last, hrest, hspaces, hstop, rfl⟩
    simp only [Place.rest_after, Place.rest_start] at htext hrest hstop
    have heq : text = ("https://".toList ++ rest) ++ last := by rw [htext, hrest, List.append_assoc]
    rw [heq] at hlast
    obtain rfl := rest_eq_nil hlast hstop
    exact ⟨rest, by rw [heq, List.append_nil], hspaces⟩
  · rintro ⟨rest, rfl, hspaces⟩
    exact ⟨_, rfl, _, rest, rfl, rfl, rest, [], (List.append_nil _).symm, hspaces, .inl rfl, rfl⟩

/-- What `parse` reads in a locator that it takes. -/
theorem parse_eq_ok {py : PyRuntime} {parsed : Locator} (h : parse py locator = .ok parsed) :
    (scratchRx py).search locator = false ∧
      ((∃ owner repo sha path, GitForm locator.toList owner repo sha path ∧
        path.head? ≠ some '/' ∧ dots ∉ path.splitOn '/' ∧
        parsed = ⟨"git", some (String.ofList (owner ++ '/' :: repo)), some (String.ofList sha),
          some (String.ofList path), none, locator⟩) ∨
      (NotesForm locator.toList ∧ parsed.kind = "git-notes") ∨
      HttpsForm locator.toList ∧ parsed.kind = "https") := by
  rw [parse] at h
  by_cases hstripped : locator = "" ∨ strip locator.toList ≠ locator.toList
  · rw [if_pos hstripped] at h
    cases h
  rw [if_neg hstripped] at h
  cases hscratch : (scratchRx py).search locator with
  | true =>
    rw [hscratch, if_pos rfl] at h
    cases h
  | false =>
    rw [hscratch, if_neg Bool.false_ne_true] at h
    refine ⟨rfl, ?_⟩
    have hlast : locator.toList.getLast?.any isSpace = false :=
      getLast?_of_strip (not_not.mp (not_or.mp hstripped).2)
    by_cases habsolute : locator.toList.head? = some '/' ∨ locator.toList.head? = some '~'
    · rw [if_pos habsolute] at h
      cases h
    rw [if_neg habsolute] at h
    cases hgit : gitRx.prefixMatch locator with
    | some place =>
      obtain ⟨owner, repo, sha, path, hform, hgroups⟩ :=
        groups_of_gitRx hlast (mem_of_prefixMatch hgit)
      have hrepo : captured place "repo" = String.ofList (owner ++ '/' :: repo) := by
        rw [captured, hgroups]
        rfl
      have hsha : captured place "sha" = String.ofList sha := by
        rw [captured, hgroups]
        rfl
      have hpath : captured place "path" = String.ofList path := by
        rw [captured, hgroups]
        rfl
      simp only [hgit, hrepo, hsha, hpath, String.toList_ofList] at h
      split_ifs at h with hcheck
      obtain ⟨hrelative, hinside⟩ := not_or.mp hcheck
      exact .inl ⟨owner, repo, sha, path, hform, hrelative, hinside, (Except.ok.inj h).symm⟩
    | none =>
      simp only [hgit] at h
      cases hnotes : notesRx.prefixMatch locator with
      | some place =>
        simp only [hnotes] at h
        obtain rfl := Except.ok.inj h
        exact .inr (.inl ⟨(exists_notesRx hlast).mp ⟨place, mem_of_prefixMatch hnotes⟩, rfl⟩)
      | none =>
        simp only [hnotes] at h
        by_cases hhttps : (httpsRx.prefixMatch locator).isSome
        swap
        · rw [if_neg hhttps] at h
          split_ifs at h
        rw [if_pos hhttps] at h
        obtain rfl := Except.ok.inj h
        obtain ⟨place, hplace⟩ := Option.isSome_iff_exists.mp hhttps
        exact .inr (.inr ⟨(exists_httpsRx hlast).mp ⟨place, mem_of_prefixMatch hplace⟩, rfl⟩)

/-- What `parse` takes: the grammar, without a scratch marker. -/
theorem exists_parsed {py : PyRuntime} :
    (∃ parsed, parse py locator = .ok parsed) ↔
      Formed locator.toList ∧ (scratchRx py).search locator = false := by
  constructor
  · rintro ⟨parsed, h⟩
    obtain ⟨hscratch, hform⟩ := parse_eq_ok h
    refine ⟨?_, hscratch⟩
    rcases hform with ⟨_, _, _, _, hgit, hrelative, hinside, -⟩ | ⟨hnotes, -⟩ | ⟨hhttps, -⟩
    · exact .git hgit hrelative hinside
    · exact .notes hnotes
    · exact .https hhttps
  · rintro ⟨hformed, hscratch⟩
    have hlast := hformed.last
    have hfirst := hformed.first
    have hstripped : ¬ (locator = "" ∨ strip locator.toList ≠ locator.toList) := by
      rintro (rfl | hspaces)
      · simp at hfirst
      · refine hspaces (strip_eq_self ?_ hlast)
        rcases hfirst with hfirst | hfirst <;> rw [hfirst] <;> decide
    have habsolute : ¬ (locator.toList.head? = some '/' ∨ locator.toList.head? = some '~') := by
      rcases hfirst with hfirst | hfirst <;> rw [hfirst] <;> decide
    rw [parse, if_neg hstripped, hscratch, if_neg Bool.false_ne_true, if_neg habsolute]
    cases hformed with
    | @git owner repo sha path form relative inside =>
      obtain ⟨place, hplace⟩ := exists_prefixMatch.mpr (exists_gitRx form)
      obtain ⟨_, _, _, path', form', hgroups⟩ := groups_of_gitRx hlast (mem_of_prefixMatch hplace)
      obtain ⟨-, -, -, rfl⟩ := form.unique form'
      have hpath : (captured place "path").toList = path := by
        rw [captured, hgroups]
        exact String.toList_ofList
      simp only [hplace, hpath]
      rw [if_neg (not_or.mpr ⟨relative, inside⟩)]
      exact ⟨_, rfl⟩
    | notes form =>
      have hgit : gitRx.prefixMatch locator = none := prefixMatch_eq_none.mpr fun place hplace => by
        obtain ⟨_, _, _, _, hform, -⟩ := groups_of_gitRx hlast hplace
        exact hform.not_notes form
      obtain ⟨place, hplace⟩ := exists_prefixMatch.mpr ((exists_notesRx hlast).mpr form)
      simp only [hgit, hplace]
      exact ⟨_, rfl⟩
    | https form =>
      have hgit : gitRx.prefixMatch locator = none := prefixMatch_eq_none.mpr fun place hplace => by
        obtain ⟨_, _, _, _, hform, -⟩ := groups_of_gitRx hlast hplace
        exact hform.not_https form
      have hnotes : notesRx.prefixMatch locator = none :=
        prefixMatch_eq_none.mpr fun place hplace =>
          ((exists_notesRx hlast).mp ⟨place, hplace⟩).not_https form
      obtain ⟨place, hplace⟩ := exists_prefixMatch.mpr ((exists_httpsRx hlast).mpr form)
      simp only [hgit, hnotes, hplace]
      exact ⟨_, rfl⟩

/-- `is_durable` and `parse` take the same, exactly where the locator neither escapes by its first
segment nor has a scratch marker in the grammar. -/
theorem durable_iff_parsed_iff (py : PyRuntime) (locator : String) :
    (isDurable locator = true ↔ ∃ parsed, parse py locator = .ok parsed) ↔
      ¬ Escapes locator.toList ∧
        ¬ (Formed locator.toList ∧ (scratchRx py).search locator = true) := by
  rw [isDurable_iff, exists_parsed]
  by_cases hescapes : Escapes locator.toList
  · simp [hescapes, not_formed_of_escapes hescapes]
  · by_cases hformed : Formed locator.toList
    · simp [hescapes, hformed]
    · simp [hescapes, hformed]

/-- A path that begins with `..`. -/
theorem escaping_path_durable : ¬ ∀ locator, isDurable locator = true ↔
    ∃ parsed, parse samplePyRuntime locator = .ok parsed := by
  intro h
  have hdurable : isDurable
      "git:chatman/ecosystem@0123456789abcdef0123456789abcdef01234567:../secrets.json" = true := by
    decide +kernel
  obtain ⟨parsed, hparsed⟩ := (h _).mp hdurable
  have hrefused : (parse samplePyRuntime
      "git:chatman/ecosystem@0123456789abcdef0123456789abcdef01234567:../secrets.json").toOption =
        none := by
    decide +kernel
  rw [hparsed] at hrefused
  cases hrefused

end ChatmanEcosystem.RootCrown
