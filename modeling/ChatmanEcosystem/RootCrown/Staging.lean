import ChatmanEcosystem.Common.Paths
import ChatmanEcosystem.Py.Dict
import ChatmanEcosystem.RootCrown.DurableLocators
import ChatmanEcosystem.Rust.Result

/-!
# The evidence root

Model of `stage_root` (`scripts/durable_locator/durable_locator.py`, lines 552–582), which writes
the blob of every `git:` locator of an index to `dest/<owner>/<repo>/<sha>/<path>`. The resolver is
a parameter: the local object databases and the network. The root is an absolute path.

Results:

* `files_of_stageRoot`: the files that are written.
* `contained_iff`: when they stay below every root, and apart.
-/

namespace ChatmanEcosystem.RootCrown

open Common Py Rust

mutual

/-- `walk_strings` (lines 239–247), without the pointers. -/
def walkStrings : Value → List String
  | .dict items => walkMembers items
  | .list items => walkItems items
  | .str text => [text]
  | _ => []

def walkItems : List Value → List String
  | [] => []
  | item :: items => walkStrings item ++ walkItems items

def walkMembers : List (String × Value) → List String
  | [] => []
  | (_, value) :: items => walkStrings value ++ walkMembers items

end

/-- The segments that `pathlib` keeps of a text. -/
def pathParts (text : String) : List (List Char) :=
  (text.toList.splitOn '/').filter (Moves ·)

/-- `path / text`. -/
def joinPath (path : List (List Char)) (text : String) : List (List Char) :=
  if text.toList.head? = some '/' then pathParts text else path ++ pathParts text

/-- A file that is written, with the locator it is of. -/
structure StagedFile where
  locator : String
  target : List (List Char)
  data : List UInt8

/-- What is staged, and the findings. -/
structure Staging where
  files : List StagedFile
  findings : List String

/-- The rows of a document (line 562). -/
def indexRows : Value → Except PyError (List Value)
  | .dict items => (Dict.getD items "rows" (.list [])).iterate
  | _ => .ok []

/-- A row of an evidence index, with its digest (lines 563–564). -/
def recordedDigest (py : PyRuntime) (row : Value) : Option (String × String) := do
  let row ← row.dict?
  let locator ← (row.get "locator").text?
  if (row.get "sha256").truthy then
    some (locator, removePrefix "sha256:" (py.str (row.get "sha256")))
  else none

/-- The digests on record. -/
def recordedDigests (py : PyRuntime) (documents : List Value) :
    Except PyError (List (String × String)) := do
  let rows ← documents.mapM indexRows
  return ofPairs (rows.flatten.filterMap (recordedDigest py))

/-- The locators of the documents, as they are staged (lines 559–561 and 567). -/
def gitStrings (documents : List Value) : List String :=
  sortedTexts ((documents.flatMap walkStrings).filter fun text => "git:".toList <+: text.toList)

variable (py : PyRuntime) (resolve : Locator → Except Refused (List UInt8))

/-- The locator with its blob (lines 569–570). -/
def readLocator (text : String) : Except Refused (Locator × List UInt8) := do
  let loc ← parse py text
  let data ← resolve loc
  return (loc, data)

/-- One round of the loop (lines 567–581). -/
def stageOne (recorded : List (String × String)) (dest : List (List Char)) (staging : Staging)
    (text : String) : Except PyError Staging :=
  match readLocator py resolve text with
  | .error refused => .ok { staging with
      findings := staging.findings ++
        ["REFUSED[" ++ refused.code ++ "] " ++ refused.detail ++ " (" ++ text ++ ")"] }
  | .ok (loc, data) =>
    let repository := loc.repository.getD ""
    let sha := loc.sha.getD ""
    let path := loc.path.getD ""
    if repository = "" ∨ sha = "" ∨ path = "" then .error .assertionError
    else
      let actual := py.sha256Bytes data
      let findings := match recorded.lookup text with
        | some want => if actual ≠ want then
            ["REFUSED[DIGEST_MISMATCH] " ++ text ++ " recorded=" ++ want ++ " actual=" ++ actual]
          else []
        | none => []
      let target := joinPath (joinPath (joinPath dest repository) sha) path
      .ok ⟨staging.files ++ [⟨text, target, data⟩], staging.findings ++ findings⟩

/-- `stage_root`. -/
def stageRoot (documents : List Value) (dest : List (List Char)) : Except PyError Staging := do
  let recorded ← recordedDigests py documents
  (gitStrings documents).foldlM (stageOne py resolve recorded dest) ⟨[], []⟩

/-! ## What is written -/

/-- The path of a locator below the root. -/
def Locator.relativePath (loc : Locator) : List (List Char) :=
  pathParts (loc.repository.getD "") ++ pathParts (loc.sha.getD "") ++ pathParts (loc.path.getD "")

/-- The file that is written for a text. -/
def fileOf (dest : List (List Char)) (text : String) : Option StagedFile :=
  (readLocator py resolve text).toOption.map fun (loc, data) =>
    ⟨text, dest ++ loc.relativePath, data⟩

/-- A locator of the documents that is parsed and resolved. -/
def Stages (documents : List Value) (text : String) (loc : Locator) : Prop :=
  text ∈ gitStrings documents ∧ ∃ data, readLocator py resolve text = .ok (loc, data)

/-- Every file is strictly below the root, and no two locators share one. -/
structure Contained (dest : List (List Char)) (files : List StagedFile) : Prop where
  below : ∀ file ∈ files, Below dest file.target
  apart : ∀ file ∈ files, ∀ other ∈ files, file.locator ≠ other.locator →
    normalise file.target ≠ normalise other.target

/-- No locator climbs above the root, and no two have one path below it. -/
structure Separate (documents : List Value) : Prop where
  inside : ∀ text loc, Stages py resolve documents text loc → ¬ Climbs 0 loc.relativePath
  apart : ∀ text loc other loc', Stages py resolve documents text loc →
    Stages py resolve documents other loc' → text ≠ other →
      normalise loc.relativePath ≠ normalise loc'.relativePath

variable {py resolve} {documents : List Value} {dest : List (List Char)} {text : String}
  {loc : Locator} {staging : Staging}

theorem mem_gitStrings : text ∈ gitStrings documents ↔
    (∃ document ∈ documents, text ∈ walkStrings document) ∧ "git:".toList <+: text.toList := by
  simp [gitStrings, List.mem_flatMap]

/-- A locator that begins with `git:` and is taken names an object of a repository. -/
theorem gitForm_of_parse (hgit : "git:".toList <+: text.toList) (h : parse py text = .ok loc) :
    ∃ owner repo sha path, GitForm text.toList owner repo sha path ∧ path.head? ≠ some '/' ∧
      dots ∉ path.splitOn '/' ∧ loc = ⟨"git", some (String.ofList (owner ++ '/' :: repo)),
        some (String.ofList sha), some (String.ofList path), none, text⟩ := by
  obtain ⟨-, hform | ⟨hnotes, -⟩ | ⟨hhttps, -⟩⟩ := parse_eq_ok h
  · exact hform
  · obtain ⟨ref, sha, heq, -⟩ := hnotes
    rw [heq] at hgit
    obtain ⟨rest, hrest⟩ := hgit
    simp at hrest
  · obtain ⟨rest, heq, -⟩ := hhttps
    rw [heq] at hgit
    obtain ⟨rest, hrest⟩ := hgit
    simp at hrest

variable {word : List Char}

theorem head?_ne_slash {among : Char → Bool} (hslash : among '/' = false)
    (hword : word ≠ [] ∧ ∀ c ∈ word, among c = true) (rest : List Char) :
    (word ++ rest).head? ≠ some '/' := by
  obtain ⟨hne, hchars⟩ := hword
  obtain ⟨c, word, rfl⟩ := List.exists_cons_of_ne_nil hne
  have hc : among c = true := hchars c List.mem_cons_self
  rw [List.cons_append, List.head?_cons, ne_eq, Option.some.injEq]
  rintro rfl
  rw [hslash] at hc
  cases hc

variable {owner repo sha path : List Char}

theorem GitForm.sha_ne_nil {text : List Char} (h : GitForm text owner repo sha path) :
    sha ≠ [] := by
  have hlength := h.sha.1
  rintro rfl
  simp at hlength

/-- `/` with a text that does not begin with it. -/
theorem joinPath_of_relative (h : word.head? ≠ some '/') (path : List (List Char)) :
    joinPath path (String.ofList word) = path ++ pathParts (String.ofList word) := by
  rw [joinPath, String.toList_ofList, if_neg h]

theorem ofList_ne_empty (h : word ≠ []) : String.ofList word ≠ "" := by
  intro hempty
  have hword : (String.ofList word).toList = [] := by rw [hempty]; rfl
  rw [String.toList_ofList] at hword
  exact h hword

theorem parse_of_readLocator {data : List UInt8}
    (h : readLocator py resolve text = .ok (loc, data)) : parse py text = .ok loc := by
  rw [readLocator, bind_eq_ok] at h
  obtain ⟨loc', hparse, h⟩ := h
  rw [bind_eq_ok] at h
  obtain ⟨data', -, h⟩ := h
  rw [pure_eq_ok, Prod.mk.injEq] at h
  rw [hparse, h.1]

theorem exists_findings {files files' : List StagedFile} {findings : List String}
    (h : files = files') : ∃ findings',
      (.ok ⟨files, findings⟩ : Except PyError Staging) = .ok ⟨files', findings'⟩ :=
  ⟨findings, by rw [h]⟩

/-- A round of the loop writes the file of its locator, or adds a finding. -/
theorem stageOne_eq (hgit : "git:".toList <+: text.toList)
    (recorded : List (String × String)) (dest : List (List Char)) (staging : Staging) :
    ∃ findings, stageOne py resolve recorded dest staging text =
      .ok ⟨staging.files ++ (fileOf py resolve dest text).toList, findings⟩ := by
  rw [stageOne, fileOf]
  cases hread : readLocator py resolve text with
  | error refused => exact exists_findings (List.append_nil _).symm
  | ok found =>
    obtain ⟨loc, data⟩ := found
    obtain ⟨owner, repo, sha, path, hform, hrelative, -, rfl⟩ :=
      gitForm_of_parse hgit (parse_of_readLocator hread)
    have hrepository : String.ofList (owner ++ '/' :: repo) ≠ "" := ofList_ne_empty (by simp)
    have hsha : String.ofList sha ≠ "" := ofList_ne_empty hform.sha_ne_nil
    have hpath : String.ofList path ≠ "" := ofList_ne_empty hform.path.1
    have hshaHead : sha.head? ≠ some '/' := by
      have hhead := head?_ne_slash (by decide) ⟨hform.sha_ne_nil, hform.sha.2⟩ []
      rw [List.append_nil] at hhead
      exact hhead
    simp only [Option.getD_some, hrepository, hsha, hpath, or_self, if_false,
      joinPath_of_relative (head?_ne_slash (by decide) hform.owner _),
      joinPath_of_relative hshaHead, joinPath_of_relative hrelative]
    refine exists_findings ?_
    simp [Except.toOption, Locator.relativePath]

/-- A run over the locators writes the files of those that are parsed and resolved. -/
theorem foldlM_stageOne {texts : List String} (hgit : ∀ text ∈ texts, "git:".toList <+: text.toList)
    (recorded : List (String × String)) (dest : List (List Char)) (staging : Staging) :
    ∃ findings, texts.foldlM (stageOne py resolve recorded dest) staging =
      .ok ⟨staging.files ++ texts.filterMap (fileOf py resolve dest), findings⟩ := by
  induction texts generalizing staging with
  | nil => exact ⟨staging.findings, by simp [pure, Except.pure]⟩
  | cons text texts ih =>
    rw [List.forall_mem_cons] at hgit
    obtain ⟨findings, hstep⟩ := stageOne_eq hgit.1 recorded dest staging
    obtain ⟨findings', hrun⟩ := ih hgit.2 ⟨_, findings⟩
    refine ⟨findings', ?_⟩
    rw [List.foldlM_cons, hstep]
    refine hrun.trans ?_
    cases hfile : fileOf py resolve dest text with
    | none => simp [hfile]
    | some file => simp [hfile]

/-- The files of a run, if the rows of every document are a list. -/
theorem files_of_stageRoot (h : stageRoot py resolve documents dest = .ok staging) :
    staging.files = (gitStrings documents).filterMap (fileOf py resolve dest) := by
  rw [stageRoot, bind_eq_ok] at h
  obtain ⟨recorded, -, hrun⟩ := h
  obtain ⟨findings, hfiles⟩ :=
    foldlM_stageOne (fun text htext => (mem_gitStrings.mp htext).2) recorded dest ⟨[], []⟩
  rw [hfiles] at hrun
  rw [← Except.ok.inj hrun, List.nil_append]

theorem exists_stageRoot (dest : List (List Char)) :
    (∃ staging, stageRoot py resolve documents dest = .ok staging) ↔
    ∀ document ∈ documents, ∃ rows, indexRows document = .ok rows := by
  constructor
  · rintro ⟨staging, h⟩ document hdocument
    rw [stageRoot, bind_eq_ok] at h
    obtain ⟨recorded, hrecorded, -⟩ := h
    rw [recordedDigests, bind_eq_ok] at hrecorded
    obtain ⟨rows, hrows, -⟩ := hrecorded
    exact ok_of_mapM hrows hdocument
  · intro h
    obtain ⟨rows, hrows⟩ := exists_mapM h
    obtain ⟨findings, hrun⟩ := foldlM_stageOne (fun text htext => (mem_gitStrings.mp htext).2)
      (ofPairs (rows.flatten.filterMap (recordedDigest py))) dest ⟨[], []⟩
    rw [stageRoot, recordedDigests, hrows]
    exact ⟨_, hrun⟩

theorem mem_files (h : stageRoot py resolve documents dest = .ok staging) {file : StagedFile} :
    file ∈ staging.files ↔ ∃ loc data, file = ⟨file.locator, dest ++ loc.relativePath, data⟩ ∧
      file.locator ∈ gitStrings documents ∧
        readLocator py resolve file.locator = .ok (loc, data) := by
  rw [files_of_stageRoot h, List.mem_filterMap]
  constructor
  · rintro ⟨text, htext, hfile⟩
    rw [fileOf, Option.map_eq_some_iff] at hfile
    obtain ⟨⟨loc, data⟩, hread, rfl⟩ := hfile
    exact ⟨loc, data, rfl, htext, toOption_eq_some.mp hread⟩
  · rintro ⟨loc, data, hfile, htext, hread⟩
    refine ⟨file.locator, htext, ?_⟩
    rw [fileOf, hread, hfile]
    rfl

/-! ## Containment -/

/-- A commit is a segment that goes down. -/
theorem moves_sha {text : List Char} (h : GitForm text owner repo sha path) :
    Moves sha ∧ sha ≠ parentSegment := by
  have hdot : '.' ∉ sha := fun hmem => absurd (h.sha.2 _ hmem) (by decide)
  refine ⟨⟨h.sha_ne_nil, ?_⟩, ?_⟩
  · rintro rfl
    exact hdot (by decide)
  · rintro rfl
    exact hdot (by decide)

theorem pathParts_sha {text : List Char} (h : GitForm text owner repo sha path) :
    pathParts (String.ofList sha) = [sha] := by
  have hslash : '/' ∉ sha := fun hmem => absurd (h.sha.2 _ hmem) (by decide)
  rw [pathParts, String.toList_ofList, List.splitOn_eq_singleton hslash]
  simp [(moves_sha h).1]

/-- The path of a locator goes down at its commit. -/
theorem normalise_relativePath_ne_nil (h : Stages py resolve documents text loc) :
    normalise loc.relativePath ≠ [] := by
  obtain ⟨htext, data, hread⟩ := h
  obtain ⟨owner, repo, sha, path, hform, -, hinside, rfl⟩ :=
    gitForm_of_parse (mem_gitStrings.mp htext).2 (parse_of_readLocator hread)
  have hparent : parentSegment ∉ pathParts (String.ofList sha) ++
      pathParts (String.ofList path) := by
    rw [pathParts_sha hform, List.mem_append, List.mem_singleton, not_or]
    refine ⟨(moves_sha hform).2.symm, fun hmem => hinside ?_⟩
    rw [pathParts, String.toList_ofList] at hmem
    exact List.mem_of_mem_filter hmem
  rw [Locator.relativePath, List.append_assoc, normalise_append]
  simp only [Option.getD_some]
  rw [foldl_walk hparent, pathParts_sha hform]
  simp [(moves_sha hform).1]

/-- Staging keeps to every root, and keeps locators apart, exactly where no locator climbs and no
two of them have one path. -/
theorem contained_iff (py : PyRuntime) (resolve : Locator → Except Refused (List UInt8))
    (documents : List Value) :
    (∀ dest staging, stageRoot py resolve documents dest = .ok staging →
      Contained dest staging.files) ↔
    ((∀ document ∈ documents, ∃ rows, indexRows document = .ok rows) →
      Separate py resolve documents) := by
  constructor
  · intro h hrows
    -- the file of a locator, for each root
    have hfile : ∀ {text loc}, Stages py resolve documents text loc → ∀ dest,
        ∃ staging, Contained dest staging.files ∧
          stageRoot py resolve documents dest = .ok staging ∧
          ∃ data, ⟨text, dest ++ loc.relativePath, data⟩ ∈ staging.files := by
      rintro text loc ⟨htext, data, hread⟩ dest
      obtain ⟨staging, hstaging⟩ := (exists_stageRoot dest).mpr hrows
      exact ⟨staging, h dest staging hstaging, hstaging, data,
        (mem_files hstaging).mpr ⟨loc, data, rfl, htext, hread⟩⟩
    constructor
    · intro text loc hstages hclimbs
      obtain ⟨dest, hbelow⟩ := exists_not_below hclimbs
      obtain ⟨staging, hcontained, -, data, hmem⟩ := hfile hstages dest
      exact hbelow (hcontained.below _ hmem)
    · intro text loc other loc' hstages hstages' hne heq
      obtain ⟨staging, hcontained, hstaging, data, hmem⟩ := hfile hstages []
      obtain ⟨staging', -, hstaging', data', hmem'⟩ := hfile hstages' []
      rw [hstaging] at hstaging'
      obtain rfl := Except.ok.inj hstaging'
      exact hcontained.apart _ hmem _ hmem' hne heq
  · intro h dest staging hstaging
    have hseparate := h ((exists_stageRoot dest).mp ⟨staging, hstaging⟩)
    have hstages : ∀ file ∈ staging.files, ∃ loc, file.target = dest ++ loc.relativePath ∧
        Stages py resolve documents file.locator loc := by
      intro file hfile
      obtain ⟨loc, data, heq, htext, hread⟩ := (mem_files hstaging).mp hfile
      exact ⟨loc, by rw [heq], htext, data, hread⟩
    constructor
    · intro file hfile
      obtain ⟨loc, htarget, hloc⟩ := hstages file hfile
      rw [htarget]
      exact forall_below_iff.mpr ⟨hseparate.inside _ _ hloc,
        normalise_relativePath_ne_nil hloc⟩ dest
    · intro file hfile other hother hne heq
      obtain ⟨loc, htarget, hloc⟩ := hstages file hfile
      obtain ⟨loc', htarget', hloc'⟩ := hstages other hother
      rw [htarget, htarget', normalise_append_of_not_climbs (hseparate.inside _ _ hloc),
        normalise_append_of_not_climbs (hseparate.inside _ _ hloc')] at heq
      exact hseparate.apart _ _ _ _ hloc hloc' hne (List.append_cancel_left heq)

/-- Two names of one file of a commit. -/
def namesOfFile : List String :=
  ["git:chatman/ecosystem@0123456789abcdef0123456789abcdef01234567:./a.json",
    "git:chatman/ecosystem@0123456789abcdef0123456789abcdef01234567:a.json"]

/-- Two locators that are staged to one file. -/
theorem two_names_one_file : ¬ ∀ documents : List Value,
    (∀ text ∈ gitStrings documents, ∃ loc, parse samplePyRuntime text = .ok loc) →
      ∀ dest staging,
        stageRoot samplePyRuntime (fun _ => .ok []) documents dest = .ok staging →
          Contained dest staging.files := by
  intro h
  have hparsed : ∀ text ∈ gitStrings [.list (namesOfFile.map .str)],
      (parse samplePyRuntime text).toOption.isSome = true := by
    decide +kernel
  have hfiles : (stageRoot samplePyRuntime (fun _ => .ok []) [.list (namesOfFile.map .str)]
      []).toOption.map (fun staging => staging.files.map fun file =>
        (file.locator, normalise file.target)) =
      some (namesOfFile.map fun text => (text, ["chatman".toList, "ecosystem".toList,
        "0123456789abcdef0123456789abcdef01234567".toList, "a.json".toList])) := by
    decide +kernel
  rw [Option.map_eq_some_iff] at hfiles
  obtain ⟨staging, hstaging, hfiles⟩ := hfiles
  have hcontained := h _ (fun text htext => by
    obtain ⟨loc, hloc⟩ := Option.isSome_iff_exists.mp (hparsed text htext)
    exact ⟨loc, toOption_eq_some.mp hloc⟩) [] staging (toOption_eq_some.mp hstaging)
  have hfile : ∀ text ∈ namesOfFile, ∃ file ∈ staging.files, file.locator = text ∧
      normalise file.target = ["chatman".toList, "ecosystem".toList,
        "0123456789abcdef0123456789abcdef01234567".toList, "a.json".toList] := by
    intro text htext
    have hmem := List.mem_map_of_mem (f := fun text => (text, ["chatman".toList,
      "ecosystem".toList, "0123456789abcdef0123456789abcdef01234567".toList, "a.json".toList]))
        htext
    rw [← hfiles] at hmem
    obtain ⟨file, hfile, heq⟩ := List.mem_map.mp hmem
    exact ⟨file, hfile, congrArg Prod.fst heq, congrArg Prod.snd heq⟩
  obtain ⟨file, hmem, hlocator, htarget⟩ := hfile _ List.mem_cons_self
  obtain ⟨other, hmem', hlocator', htarget'⟩ :=
    hfile _ (List.mem_cons_of_mem _ List.mem_cons_self)
  refine hcontained.apart file hmem other hmem' ?_ (htarget.trans htarget'.symm)
  rw [hlocator, hlocator']
  decide +kernel

end ChatmanEcosystem.RootCrown
