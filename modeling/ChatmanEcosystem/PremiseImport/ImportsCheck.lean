import ChatmanEcosystem.PremiseImport.Bindings

/-!
# Imports that check

Model of `check_dir` (`scripts/premise_import/premise_import.py`, lines 223–291), with the resolver
that the imports were made with. The check reads the index and every copy anew.

Results:

* `parse_gitLocator`: the locator of a row is the locator of its call.
* `checkRows_clean`: rows of imports whose copies are there are admitted one after the other.
* `imports_checked`: a call that raises leaves every file as it is, and the check reports nothing
  from the first accepted call on. Before it there is no index, which `check_dir` cannot do without.
-/

namespace ChatmanEcosystem.PremiseImport

open Common Py RootCrown
  Rust Pattern

/-! ## The check -/

/-- `class Finding` (lines 95–106). -/
structure Finding where
  code : String
  location : String
  detail : String
  deriving DecidableEq

/-- `REQUIRED` (line 82). -/
def required : List String :=
  ["path", "source_repo", "source_sha", "source_path", "source_blob_sha1", "sha256", "standing",
    "owner"]

/-- `row[key]` of a row whose required fields are texts. -/
def textOf (row : Dict) (key : String) : String := ((Dict.get row key).text?).getD ""

/-- `row["path"].split("/", 1)[1]` (line 265). -/
def copyNameOf (path : String) : String :=
  String.ofList ((path.toList.dropWhile (· ≠ '/')).tail)

/-- `git:<repository>@<sha>:<path>` (line 238). -/
def gitLocator (repository sha path : String) : String :=
  "git:" ++ repository ++ "@" ++ sha ++ ":" ++ path

/-- Whether a path is other than `imports/` and a name (lines 241–242). -/
def pathEscapes (path : String) : Bool :=
  let parts := path.toList.splitOn '/'
  let name := String.ofList (parts.getD 1 [])
  parts.length ≠ 2 || parts.getD 0 [] ≠ "imports".toList || !copyNameRx.fullMatch name ||
    name = indexName

/-- A finding about the shape of a row, unless it is well formed there. -/
def malformed (wellFormed : Bool) (location detail : String) : List Finding :=
  if wellFormed then [] else [⟨"IMPORT_ROW_MALFORMED", location, detail⟩]

section

variable (py : PyRuntime) (hashlib : Hashlib) (resolver : Option Resolver) (rel : String)

/-- `_row_shape` (lines 223–244). -/
def rowShape (row : Value) (location : String) : List Finding :=
  match row with
  | .dict row =>
    let missing := required.filter fun key => textOf row key = ""
    if missing ≠ [] then
      missing.map fun key => ⟨"IMPORT_ROW_MALFORMED", location, "missing " ++ key⟩
    else
      malformed (hex40Rx.fullMatch (textOf row "source_sha")) location
        "source_sha is not 40 hex" ++
      malformed (hex40Rx.fullMatch (textOf row "source_blob_sha1")) location
        "source_blob_sha1 is not 40 hex" ++
      malformed (hex64Rx.fullMatch (textOf row "sha256")) location "sha256 is not 64 hex" ++
      malformed (standingRx.fullMatch (textOf row "standing")) location
        ("standing " ++ py.repr (.str (textOf row "standing"))) ++
      (match parse py (gitLocator (textOf row "source_repo") (textOf row "source_sha")
          (textOf row "source_path")) with
        | .ok _ => []
        | .error refused =>
          [⟨"IMPORT_ROW_MALFORMED", location, "source locator " ++ refused.code⟩]) ++
      if pathEscapes (textOf row "path") then
        [⟨"IMPORT_PATH_ESCAPE", location, textOf row "path"⟩]
      else []
  | _ => [⟨"IMPORT_ROW_MALFORMED", location, "row is not an object"⟩]

/-- What a copy is worth to its row (lines 274–287). -/
def copyFindings (row : Dict) (name location : String) (data : List UInt8) : List Finding :=
  if hashlib.sha256 data ≠ textOf row "sha256" ∨
      hashlib.gitBlobId data ≠ textOf row "source_blob_sha1" then
    [⟨"IMPORT_DIGEST_MISMATCH", location, rel ++ "/" ++ name ++ " does not recompute"⟩]
  else
    match resolver with
    | none => []
    | some blob =>
      match blob (textOf row "source_repo") (textOf row "source_sha")
          (textOf row "source_path") with
      | .error refused => [⟨sourceCode refused, location, refused.code ++ ":" ++
          textOf row "source_repo" ++ "@" ++ textOf row "source_sha"⟩]
      | .ok source =>
        if source ≠ data then
          [⟨"IMPORT_SOURCE_DRIFT", location, rel ++ "/" ++ name ++ " != source blob"⟩]
        else []

/-- One round of the loop (lines 259–287): the findings, and the names that are listed. -/
def checkRow (dir : ImportsDir) (state : List Finding × List String) (entry : Value × ℕ) :
    List Finding × List String :=
  let (findings, listed) := state
  let location := rel ++ "/" ++ indexName ++ "#/imports/" ++ toString entry.2
  let shape := rowShape py entry.1 location
  if shape ≠ [] then (findings ++ shape, listed)
  else
    let row := entry.1.dict?.getD []
    let name := copyNameOf (textOf row "path")
    if name ∈ listed then
      (findings ++ [⟨"IMPORT_DUPLICATE_PATH", location, textOf row "path"⟩], listed)
    else
      match dir.copies[name]? with
      | none => (findings ++ [⟨"IMPORT_COPY_MISSING", location, rel ++ "/" ++ name⟩],
          listed ++ [name])
      | some data => (findings ++ copyFindings hashlib resolver rel row name location data,
          listed ++ [name])

/-- `check_dir` (lines 247–291) of the directory that is `rel` below the root: the findings, and
how many rows are admitted. Without an index there is no file to read. -/
def checkDir (dir : ImportsDir) : Except PyError (List Finding × ℕ) :=
  match dir.index with
  | none => .error .osError
  | some file =>
    let location := rel ++ "/" ++ indexName
    match file.document with
    | .error message => .ok ([⟨"IMPORT_ROW_MALFORMED", location, "not JSON: " ++ message⟩], 0)
    | .ok doc =>
      match doc.dict?.bind fun items => (Dict.get items "imports").items? with
      | none => .ok ([⟨"IMPORT_ROW_MALFORMED", location, "imports is not a list"⟩], 0)
      | some rows =>
        let (findings, listed) := rows.zipIdx.foldl (checkRow py hashlib resolver rel dir) ([], [])
        let unlisted := dir.copies.keys.filter (· ∉ listed)
        .ok (findings ++ unlisted.map fun name =>
          ⟨"IMPORT_UNLISTED_COPY", rel ++ "/" ++ name, "no IMPORTS.json row"⟩, listed.length)

end

/-! ## What a call has established -/

section

variable {py : PyRuntime} {hashlib : Hashlib} {render : Value → String} {blob : Resolver}
  {call : ImportCall} {subject : Subject}

/-- A name of a copy has no slash. -/
theorem slash_notMem_copyName {name : String} (h : copyNameRx.fullMatch name = true) :
    '/' ∉ name.toList := by
  rw [copyNameRx, fullMatch_anchored] at h
  obtain ⟨last, hlast, hend⟩ := h
  simp only [seqs, List.foldr_cons, List.foldr_nil, mem_run_seq, mem_run_one, mem_run_many,
    mem_run_empty] at hlast
  obtain ⟨_, ⟨c, rest, htext, hc, rfl⟩, _, ⟨word, rest', hrest, hword, rfl⟩, rfl⟩ := hlast
  rw [Place.rest_start] at htext
  rw [Place.rest_after] at hrest hend
  subst hend
  rw [htext, hrest, List.append_nil]
  intro hslash
  rcases List.mem_cons.mp hslash with rfl | hslash
  · exact absurd hc (by decide)
  · exact absurd (hword '/' hslash) (by decide)

theorem hex40_fullMatch {sha : List Char} (hlength : sha.length = 40)
    (hhex : ∀ c ∈ sha, isHex c = true) : hex40Rx.fullMatch (String.ofList sha) = true := by
  rw [hex40Rx, fullMatch_anchored, (reads_times isHex 40).exists_end, String.toList_ofList]
  exact ⟨hlength, hhex⟩

theorem ofList_ne_empty {word : List Char} (h : word ≠ []) : String.ofList word ≠ "" := by
  intro hempty
  have hnil := congrArg String.toList hempty
  rw [String.toList_ofList] at hnil
  exact h hnil

/-- The locator of a row is the locator of its call. -/
theorem parse_gitLocator {locator : String} {loc : Locator} (h : parse py locator = .ok loc)
    (hkind : loc.kind = "git") : ∃ repository sha path, loc.repository = some repository ∧
      loc.sha = some sha ∧ loc.path = some path ∧ gitLocator repository sha path = locator ∧
      hex40Rx.fullMatch sha = true ∧ repository ≠ "" ∧ sha ≠ "" ∧ path ≠ "" := by
  obtain ⟨-, hform | ⟨-, hnotes⟩ | ⟨-, hhttps⟩⟩ := parse_eq_ok h
  · obtain ⟨owner, repo, sha, path, hform, -, -, rfl⟩ := hform
    refine ⟨_, _, _, rfl, rfl, rfl, ?_, hex40_fullMatch hform.sha.1 hform.sha.2, ?_, ?_, ?_⟩
    · apply String.toList_inj.mp
      simp only [gitLocator, String.toList_append, String.toList_ofList, hform.eq]
      simp
    · exact ofList_ne_empty (by simp)
    · exact ofList_ne_empty (List.ne_nil_of_length_pos (by simp [hform.sha.1]))
    · exact ofList_ne_empty hform.path.1
  · rw [hkind] at hnotes
    exact absurd hnotes (by decide)
  · rw [hkind] at hhttps
    exact absurd hhttps (by decide)

/-- What a call that reads an object has checked. -/
structure Established (py : PyRuntime) (blob : Resolver) (call : ImportCall) (subject : Subject) :
    Prop where
  copyName : copyNameRx.fullMatch call.copyName = true
  notIndex : call.copyName ≠ indexName
  standing : standingRx.fullMatch call.standing = true
  owner : call.owner ≠ ""
  parses : ∃ loc, parse py (gitLocator subject.repository subject.sha subject.path) = .ok loc
  shaHex : hex40Rx.fullMatch subject.sha = true
  repository : subject.repository ≠ ""
  sha : subject.sha ≠ ""
  path : subject.path ≠ ""
  source : blob subject.repository subject.sha subject.path = .ok subject.data

theorem Established.standing_ne_empty (h : Established py blob call subject) :
    call.standing ≠ "" := by
  intro hempty
  have hstanding := h.standing
  rw [hempty] at hstanding
  exact absurd hstanding (by decide)

theorem Hashlib.sha256_ne_empty (hashlib : Hashlib)
    (data : List UInt8) : hashlib.sha256 data ≠ "" := by
  intro hempty
  have hhex := hashlib.sha256_hex data
  rw [hempty] at hhex
  exact absurd hhex (by decide)

theorem Hashlib.gitBlobId_ne_empty (hashlib : Hashlib) (data : List UInt8) :
    hashlib.gitBlobId data ≠ "" := by
  intro hempty
  have hhex : hex40Rx.fullMatch (hashlib.gitBlobId data) = true := hashlib.sha1_hex _
  rw [hempty] at hhex
  exact absurd hhex (by decide)

theorem established (h : call.subject py blob = .ok subject) :
    Established py blob call subject := by
  unfold ImportCall.subject at h
  rw [bind_eq_ok] at h
  obtain ⟨loc, hloc, h⟩ := h
  rw [bind_eq_ok] at h
  obtain ⟨_, harguments, h⟩ := h
  dsimp only at h
  rw [bind_eq_ok] at h
  obtain ⟨_, _, h⟩ := h
  rw [bind_eq_ok] at h
  obtain ⟨data, hdata, h⟩ := h
  obtain rfl := pure_eq_ok.mp h
  rw [mapError_eq_ok] at hdata
  unfold ImportCall.readLocator at hloc
  simp only [bind_eq_ok, mapError_eq_ok, ensure_eq_ok, pure_eq_ok] at hloc
  obtain ⟨parsed, hparsed, _, hkind, rfl⟩ := hloc
  obtain ⟨repository, sha, path, hrepository, hsha, hpath, hlocator, hhex, hne⟩ :=
    parse_gitLocator hparsed hkind
  unfold ImportCall.checkArguments at harguments
  simp only [bind_eq_ok, ensure_eq_ok] at harguments
  obtain ⟨_, ⟨hname, hindex⟩, _, hstanding, howner⟩ := harguments
  rw [hrepository, hsha, hpath] at hdata ⊢
  refine ⟨hname, hindex, hstanding, ?_, ⟨parsed, ?_⟩, hhex, hne.1, hne.2.1, hne.2.2, hdata⟩
  · intro hempty
    rw [hempty] at howner
    exact howner rfl
  · rw [← hparsed, ← hlocator]
    rfl

/-! ## Rows of imports -/

theorem textOf_importRow :
    textOf (importRow hashlib call subject) "path" = "imports/" ++ call.copyName ∧
      textOf (importRow hashlib call subject) "source_repo" = subject.repository ∧
      textOf (importRow hashlib call subject) "source_sha" = subject.sha ∧
      textOf (importRow hashlib call subject) "source_path" = subject.path ∧
      textOf (importRow hashlib call subject) "source_blob_sha1" =
        hashlib.gitBlobId subject.data ∧
      textOf (importRow hashlib call subject) "sha256" = hashlib.sha256 subject.data ∧
      textOf (importRow hashlib call subject) "standing" = call.standing ∧
      textOf (importRow hashlib call subject) "owner" = call.owner := by
  unfold textOf
  rw [owner_importRow, standing_importRow, importRow_eq]
  exact ⟨rfl, rfl, rfl, rfl, rfl, rfl, rfl, rfl⟩

theorem copyNameOf_importRow (name : String) : copyNameOf ("imports/" ++ name) = name := by
  apply String.toList_inj.mp
  rw [copyNameOf, String.toList_ofList, String.toList_append]
  rfl

/-- The path of a copy does not leave the directory. -/
theorem pathEscapes_eq_false {name : String} (hname : copyNameRx.fullMatch name = true)
    (hindex : name ≠ indexName) : pathEscapes ("imports/" ++ name) = false := by
  have hparts : ("imports/" ++ name).toList.splitOn '/' = ["imports".toList, name.toList] := by
    have htext : ("imports/" ++ name).toList = "imports".toList ++ '/' :: name.toList := by
      rw [String.toList_append]
      rfl
    rw [htext, List.splitOn_append_cons_self, List.splitOn_eq_singleton (by decide),
      List.splitOn_eq_singleton (slash_notMem_copyName hname)]
    rfl
  unfold pathEscapes
  rw [hparts]
  simp [hname, hindex]

/-- A row of an import has the shape of a row. -/
theorem rowShape_importRow (h : Established py blob call subject) (location : String) :
    rowShape py (.dict (importRow hashlib call subject)) location = [] := by
  obtain ⟨hpath, hrepository, hsha, hobject, hblob, hdigest, hstanding, howner⟩ :=
    @textOf_importRow hashlib call subject
  have hmissing : (required.filter fun key =>
      textOf (importRow hashlib call subject) key = "") = [] := by
    have hprefixed : "imports/" ++ call.copyName ≠ "" := by simp
    simp [required, hpath, hrepository, hsha, hobject, hblob, hdigest, hstanding, howner, hprefixed,
      h.repository, h.sha, h.path, h.owner, hashlib.gitBlobId_ne_empty, hashlib.sha256_ne_empty,
        h.standing_ne_empty]
  obtain ⟨loc, hparse⟩ := h.parses
  simp only [rowShape, hmissing, hpath, hrepository, hsha, hobject, hblob, hdigest, hstanding,
    hparse, ne_eq, not_true_eq_false, if_false]
  rw [h.shaHex, hashlib.sha256_hex, h.standing, pathEscapes_eq_false h.copyName h.notIndex,
    Hashlib.gitBlobId, hashlib.sha1_hex]
  rfl

/-- A copy is worth to its row what its import has read. -/
theorem copyFindings_importRow (h : Established py blob call subject) (rel location : String) :
    copyFindings hashlib (some blob) rel (importRow hashlib call subject) call.copyName location
      subject.data = [] := by
  obtain ⟨-, hrepository, hsha, hobject, hblob, hdigest, -, -⟩ :=
    @textOf_importRow hashlib call subject
  unfold copyFindings
  simp only [hrepository, hsha, hobject, hblob, hdigest, h.source, ne_eq, not_true_eq_false,
    or_self, if_false]

/-- The row of an import whose copy is there is admitted. -/
theorem checkRow_importRow {dir : ImportsDir} {rel : String} {listed : List String} {n : ℕ}
    (h : Established py blob call subject)
    (hcopy : dir.copies[call.copyName]? = some subject.data) (hnew : call.copyName ∉ listed) :
    checkRow py hashlib (some blob) rel dir ([], listed)
        (.dict (importRow hashlib call subject), n) = ([], listed ++ [call.copyName]) := by
  have hname : copyNameOf (textOf (importRow hashlib call subject) "path") = call.copyName := by
    rw [textOf_importRow.1, copyNameOf_importRow]
  simp only [checkRow, rowShape_importRow h, Value.dict?, Option.getD_some, hname, hnew, hcopy,
    copyFindings_importRow h, ne_eq, not_true_eq_false, if_false, List.append_nil]

/-! ## Directories that are consistent -/

/-- A row of an import with this resolver, whose copy is there. -/
def IsImported (py : PyRuntime) (hashlib : Hashlib) (blob : Resolver) (dir : ImportsDir)
    (row : Value) : Prop :=
  ∃ call subject, row = .dict (importRow hashlib call subject) ∧
    Established py blob call subject ∧ dir.copies[call.copyName]? = some subject.data

/-- Every row is of an import whose copy is there, no two of one path, every copy has a row, and the
index is the list of the rows. -/
structure Consistent (py : PyRuntime) (hashlib : Hashlib) (blob : Resolver) (dir : ImportsDir) :
    Prop where
  rows : ∀ row ∈ dir.rows, IsImported py hashlib blob dir row
  distinct : ∀ name, (rowsFor name dir.rows).length ≤ 1
  listed : ∀ name ∈ dir.copies, rowsFor name dir.rows ≠ []
  written : ∀ file, dir.index = some file →
    ∃ doc, file.document = .ok (withRows doc dir.rows)

variable {dir : ImportsDir} {rows : List Value} {listed : List String} {rel : String}

/-- Rows of imports whose copies are there are admitted one after the other. -/
theorem checkRows_clean {n : ℕ} (hrows : ∀ row ∈ rows, IsImported py hashlib blob dir row)
    (hdistinct : ∀ name, (rowsFor name rows).length ≤ 1)
    (hlisted : ∀ name ∈ listed, rowsFor name rows = []) :
    ∃ names, (rows.zipIdx n).foldl (checkRow py hashlib (some blob) rel dir) ([], listed) =
      ([], listed ++ names) ∧ ∀ name, rowsFor name rows ≠ [] → name ∈ names := by
  induction rows generalizing n listed with
  | nil => exact ⟨[], by simp, fun name h => absurd rfl h⟩
  | cons row rows ih =>
    obtain ⟨call, subject, rfl, hestablished, hcopy⟩ := hrows row List.mem_cons_self
    have hpath : rowPath (.dict (importRow hashlib call subject)) =
        .str ("imports/" ++ call.copyName) := rowPath_importRow subject
    have hself := rowsFor_cons_of_eq hpath rows
    have hnew : call.copyName ∉ listed := by
      intro hmem
      rw [hlisted _ hmem] at hself
      exact nomatch hself
    have hone := hdistinct call.copyName
    rw [hself, List.length_cons] at hone
    have hrest : ∀ name, (rowsFor name rows).length ≤ 1 := by
      intro name
      by_cases hname : name = call.copyName
      · rw [hname]
        omega
      · rw [← rowsFor_cons_of_ne hpath hname]
        exact hdistinct name
    have hlater : ∀ name ∈ listed ++ [call.copyName], rowsFor name rows = [] := by
      intro name hmem
      rcases List.mem_append.mp hmem with hmem | hmem
      · have hname : name ≠ call.copyName := fun heq => hnew (heq ▸ hmem)
        rw [← rowsFor_cons_of_ne hpath hname]
        exact hlisted name hmem
      · rw [List.mem_singleton.mp hmem]
        exact List.length_eq_zero_iff.mp (by omega)
    obtain ⟨names, hfold, hnames⟩ :=
      ih (fun row hrow => hrows row (List.mem_cons_of_mem _ hrow)) hrest hlater
    refine ⟨call.copyName :: names, ?_, fun name hname => ?_⟩
    · rw [List.zipIdx_cons, List.foldl_cons, checkRow_importRow hestablished hcopy hnew, hfold,
        List.append_assoc]
      rfl
    · by_cases heq : name = call.copyName
      · exact heq ▸ List.mem_cons_self
      · rw [rowsFor_cons_of_ne hpath heq] at hname
        exact List.mem_cons_of_mem _ (hnames name hname)

/-- The check reports nothing. -/
def Clean (py : PyRuntime) (hashlib : Hashlib) (blob : Resolver) (rel : String)
    (dir : ImportsDir) : Prop :=
  ∃ admitted, checkDir py hashlib (some blob) rel dir = .ok ([], admitted)

/-- A consistent directory with an index is clean. -/
theorem clean_of_consistent {file : IndexFile} (h : Consistent py hashlib blob dir)
    (hindex : dir.index = some file) : Clean py hashlib blob rel dir := by
  obtain ⟨doc, hdocument⟩ := h.written file hindex
  have hnone : ∀ name ∈ ([] : List String), rowsFor name dir.rows = [] :=
    fun name hname => absurd hname List.not_mem_nil
  obtain ⟨names, hfold, hnames⟩ : ∃ names,
      dir.rows.zipIdx.foldl (checkRow py hashlib (some blob) rel dir) ([], []) =
        ([], [] ++ names) ∧ ∀ name, rowsFor name dir.rows ≠ [] → name ∈ names :=
    checkRows_clean h.rows h.distinct hnone
  have himports : (withRows doc dir.rows).dict?.bind
      (fun items => (Dict.get items "imports").items?) = some dir.rows := by
    simp only [withRows, Value.dict?, Option.bind_some, Dict.get, Dict.getD, lookup_setItem,
      if_true,
      Option.getD_some, Value.items?]
  have hunlisted : dir.copies.keys.filter (· ∉ names) = [] := by
    rw [List.filter_eq_nil_iff]
    intro name hname
    have hmem := hnames name (h.listed name (Std.ExtTreeMap.mem_keys.mp hname))
    simp [hmem]
  refine ⟨names.length, ?_⟩
  rw [List.nil_append] at hfold
  simp only [checkDir, hindex, hdocument, himports, hfold, hunlisted]
  rfl

/-! ## Runs of imports -/

theorem consistent_empty : Consistent py hashlib blob .empty := by
  refine ⟨fun _ hrow => absurd hrow List.not_mem_nil, fun _ => Nat.zero_le 1, fun name hname => ?_,
    nofun⟩
  exact absurd hname Std.ExtTreeMap.not_mem_empty

/-- A call keeps a directory consistent, whatever it replaces. -/
theorem consistent_next (step : ImportStep) (h : Consistent py hashlib step.blob dir) :
    Consistent py hashlib step.blob (dir.next py hashlib render step) := by
  cases himported : dir.imported py hashlib render step.blob step.call with
  | error raised =>
    rw [(answer_of_raised himported).2]
    exact h
  | ok returned =>
    obtain ⟨returned, after⟩ := returned
    obtain ⟨subject, doc, placed, stored, haccepted⟩ := accepted_cases himported
    rw [(answer_of_imported himported).2]
    obtain ⟨-, hself, hcopy⟩ := haccepted.binds
    have hestablished := established haccepted.reads
    constructor
    · intro row hrow
      rw [haccepted.rows_after, (sortRows_perm placed).mem_iff] at hrow
      rcases haccepted.places.mem hrow with hnew | ⟨hold, hpath⟩
      · exact ⟨step.call, subject, hnew, hestablished, hcopy⟩
      · obtain ⟨call, earlier, hrow, hearlier, hstored⟩ := h.rows row hold
        have hne : call.copyName ≠ step.call.copyName := by
          intro hname
          rw [hrow, rowPath_importRow, hname] at hpath
          exact hpath rfl
        exact ⟨call, earlier, hrow, hearlier, (haccepted.sameBinding hne).copy.trans hstored⟩
    · intro name
      by_cases hname : name = step.call.copyName
      · rw [hname, hself]
        exact le_rfl
      · rw [(haccepted.sameBinding hname).row.length_eq]
        exact h.distinct name
    · intro name hmem
      by_cases hname : name = step.call.copyName
      · rw [hname, hself]
        exact List.cons_ne_nil _ _
      · have hkept := haccepted.sameBinding hname
        have hbefore : name ∈ dir.copies := by
          rw [Std.ExtTreeMap.mem_iff_isSome_getElem?] at hmem ⊢
          rwa [← hkept.copy]
        intro hnone
        have hperm := hkept.row
        rw [hnone] at hperm
        exact h.listed name hbefore (List.nil_perm.mp hperm)
    · intro file hfile
      rw [haccepted.rows_after]
      rw [haccepted.after] at hfile
      obtain rfl := Option.some.inj hfile
      exact ⟨doc, rfl⟩

/-- The directory after some imports into an empty one, all with one resolver. -/
def importsAfter (py : PyRuntime) (hashlib : Hashlib) (render : Value → String) (blob : Resolver)
    (calls : List ImportCall) : ImportsDir :=
  run (ImportsDir.next py hashlib render) .empty (calls.map fun call => ⟨call, blob⟩)

/-- What a call answers after some imports. -/
def answerAfter (py : PyRuntime) (hashlib : Hashlib) (render : Value → String) (blob : Resolver)
    (calls : List ImportCall) (call : ImportCall) : Except (Raised ImportRefused) (Dict × Bool) :=
  (importsAfter py hashlib render blob calls).answer py hashlib render ⟨call, blob⟩

variable {calls : List ImportCall}

theorem importsAfter_append : importsAfter py hashlib render blob (calls ++ [call]) =
    (importsAfter py hashlib render blob calls).next py hashlib render ⟨call, blob⟩ := by
  unfold importsAfter
  rw [List.map_append, run_append]
  rfl

theorem consistent_importsAfter :
    Consistent py hashlib blob (importsAfter py hashlib render blob calls) := by
  induction calls using List.reverseRecOn with
  | nil => exact consistent_empty
  | append_singleton calls call ih =>
    rw [importsAfter_append]
    exact consistent_next ⟨call, blob⟩ ih

/-- Some of the calls was accepted. -/
def SomeAccepted (py : PyRuntime) (hashlib : Hashlib) (render : Value → String) (blob : Resolver)
    (calls : List ImportCall) : Prop :=
  ∃ earlier call later returned, calls = earlier ++ call :: later ∧
    answerAfter py hashlib render blob earlier call = .ok returned

theorem someAccepted_append : SomeAccepted py hashlib render blob (calls ++ [call]) ↔
    SomeAccepted py hashlib render blob calls ∨
      ∃ returned, answerAfter py hashlib render blob calls call = .ok returned := by
  constructor
  · intro ⟨earlier, accepted, later, returned, hcalls, hreturned⟩
    rcases List.eq_nil_or_concat later with rfl | ⟨more, last, rfl⟩
    · obtain ⟨rfl, hlast⟩ := List.append_inj' hcalls rfl
      obtain rfl := List.singleton_inj.mp hlast
      exact .inr ⟨returned, hreturned⟩
    · rw [List.concat_eq_append, ← List.cons_append, ← List.append_assoc] at hcalls
      obtain ⟨hcalls, -⟩ := List.append_inj' hcalls rfl
      exact .inl ⟨earlier, accepted, more, returned, hcalls, hreturned⟩
  · intro h
    rcases h with ⟨earlier, accepted, later, returned, rfl, hreturned⟩ | ⟨returned, hreturned⟩
    · exact ⟨earlier, accepted, later ++ [call], returned, by simp, hreturned⟩
    · exact ⟨calls, call, [], returned, rfl, hreturned⟩

/-- There is an index once a call was accepted, and nothing before. -/
theorem index_importsAfter :
    (SomeAccepted py hashlib render blob calls →
      ∃ file, (importsAfter py hashlib render blob calls).index = some file) ∧
    (¬ SomeAccepted py hashlib render blob calls →
      importsAfter py hashlib render blob calls = .empty) := by
  induction calls using List.reverseRecOn with
  | nil =>
    refine ⟨fun ⟨earlier, call, later, _, hcalls, _⟩ => ?_, fun _ => rfl⟩
    exact absurd hcalls.symm (by simp)
  | append_singleton calls call ih =>
    rw [importsAfter_append, someAccepted_append]
    generalize hdir : importsAfter py hashlib render blob calls = dir at ih ⊢
    have hanswer : answerAfter py hashlib render blob calls call =
        dir.answer py hashlib render ⟨call, blob⟩ := by
      rw [answerAfter, hdir]
    rw [hanswer]
    cases himported : dir.imported py hashlib render (ImportStep.mk call blob).blob
        (ImportStep.mk call blob).call with
    | error raised =>
      obtain ⟨hraised, hnext⟩ := answer_of_raised himported
      rw [hraised, hnext]
      simpa using ih
    | ok returned =>
      obtain ⟨returned, after⟩ := returned
      obtain ⟨subject, doc, placed, stored, haccepted⟩ := accepted_cases himported
      obtain ⟨hreturned, hnext⟩ := answer_of_imported himported
      rw [hnext, haccepted.after]
      exact ⟨fun _ => ⟨_, rfl⟩, fun hnone => absurd (.inr ⟨returned, hreturned⟩) hnone⟩

/-- What is asked of the imports into an empty directory: a call that raises leaves every file as it
is, and after every call the check reports nothing. -/
structure AlwaysChecks (py : PyRuntime) (hashlib : Hashlib) (render : Value → String)
    (blob : Resolver) (rel : String) (calls : List ImportCall) : Prop where
  refused : ∀ earlier call later, calls = earlier ++ call :: later →
    ∀ raised, answerAfter py hashlib render blob earlier call = .error raised →
      importsAfter py hashlib render blob (earlier ++ [call]) =
        importsAfter py hashlib render blob earlier
  clean : ∀ earlier call later, calls = earlier ++ call :: later →
    Clean py hashlib blob rel (importsAfter py hashlib render blob (earlier ++ [call]))

/-- A call that raises leaves every file as it is; from the first accepted call on the check reports
nothing, and until then nothing is there to check. -/
structure ChecksOnceAccepted (py : PyRuntime) (hashlib : Hashlib) (render : Value → String)
    (blob : Resolver) (rel : String) (calls : List ImportCall) : Prop where
  refused : ∀ earlier call later, calls = earlier ++ call :: later →
    ∀ raised, answerAfter py hashlib render blob earlier call = .error raised →
      importsAfter py hashlib render blob (earlier ++ [call]) =
        importsAfter py hashlib render blob earlier
  clean : ∀ earlier later, calls = earlier ++ later →
    SomeAccepted py hashlib render blob earlier →
      Clean py hashlib blob rel (importsAfter py hashlib render blob earlier)
  empty : ∀ earlier later, calls = earlier ++ later →
    ¬ SomeAccepted py hashlib render blob earlier →
      importsAfter py hashlib render blob earlier = .empty

theorem next_of_raised {raised : Raised ImportRefused}
    (h : answerAfter py hashlib render blob calls call = .error raised) :
    importsAfter py hashlib render blob (calls ++ [call]) =
      importsAfter py hashlib render blob calls := by
  rw [importsAfter_append]
  unfold answerAfter at h
  cases himported : (importsAfter py hashlib render blob calls).imported py hashlib render
      (ImportStep.mk call blob).blob (ImportStep.mk call blob).call with
  | error other => exact (answer_of_raised himported).2
  | ok returned =>
    rw [(answer_of_imported himported).1] at h
    exact nomatch h

/-- Imports check once one of them was accepted, in every order of calls. -/
theorem imports_checked (py : PyRuntime) (hashlib : Hashlib) (render : Value → String)
    (blob : Resolver) (rel : String) (calls : List ImportCall) :
    ChecksOnceAccepted py hashlib render blob rel calls := by
  constructor
  · intro earlier call later _ raised hraised
    exact next_of_raised hraised
  · intro earlier later _ haccepted
    obtain ⟨file, hfile⟩ := index_importsAfter.1 haccepted
    exact clean_of_consistent consistent_importsAfter hfile
  · intro earlier later _ hnone
    exact index_importsAfter.2 hnone

/-- After a single call that is refused there is no index to check. -/
theorem unowned_import_unchecked : ¬ AlwaysChecks samplePyRuntime sampleHashlib compact
    (charterImport "").blob "imports" [(charterImport "").call] := by
  intro h
  have hclean := h.clean [] (charterImport "").call [] rfl
  have hrefused : ((charterImport "").call.subject samplePyRuntime
      (charterImport "").blob).toOption = none := by decide +kernel
  have himported : ∃ raised, ImportsDir.empty.imported samplePyRuntime sampleHashlib compact
      (charterImport "").blob (charterImport "").call = .error raised := by
    unfold ImportsDir.imported
    cases hsubject : (charterImport "").call.subject samplePyRuntime (charterImport "").blob with
    | ok subject =>
      rw [hsubject] at hrefused
      exact nomatch hrefused
    | error raised => exact ⟨raised, rfl⟩
  obtain ⟨raised, hraised⟩ := himported
  have hempty : importsAfter samplePyRuntime sampleHashlib compact (charterImport "").blob
      ([] ++ [(charterImport "").call]) = .empty := (answer_of_raised hraised).2
  rw [hempty] at hclean
  obtain ⟨admitted, hadmitted⟩ := hclean
  exact nomatch hadmitted

end

end ChatmanEcosystem.PremiseImport
