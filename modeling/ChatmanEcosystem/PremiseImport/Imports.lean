import ChatmanEcosystem.Common.Run
import ChatmanEcosystem.Py.Dict
import ChatmanEcosystem.Py.Json
import ChatmanEcosystem.RootCrown.DurableLocators
import ChatmanEcosystem.Rust.InPlace

/-!
# Premise imports

Model of `import_premise` (`scripts/premise_import/premise_import.py`, lines 67–212). An import
writes a copy of a blob and a row of `IMPORTS.json`. The resolver, the digests and the text of a
document are parameters.

Results:

* `call_importPremise`: everything that can be refused is refused before the first write.
* `placed_of_placeRow`: a row is appended, or takes the place of the one row of its path.
* `accepted_cases`: what an accepted import does to the rows and the copies.
-/

namespace ChatmanEcosystem.PremiseImport

open Common Py RootCrown
  Rust Pattern

/-! ## Names and digests -/

/-- `INDEX` (line 84). -/
def indexName : String := "IMPORTS.json"

/-- `STANDING` (line 69). -/
def standingRx : Pattern :=
  seqs [start, seqs [one Char.isUpper, many fun c => c.isUpper || c = '_'], stop]

/-- `COPY_NAME` (line 70). -/
def copyNameRx : Pattern := seqs [start, seqs [one Char.isAlphanum, many isNameChar], stop]

/-- `HEX40` (line 67). -/
def hex40Rx : Pattern := seqs [start, times isHex 40, stop]

/-- `HEX64` (line 68). -/
def hex64Rx : Pattern := seqs [start, times isHex 64, stop]

/-- The hexadecimal digests of `hashlib`. -/
structure Hashlib where
  sha1 : List UInt8 → String
  sha256 : List UInt8 → String
  sha1_hex : ∀ data, hex40Rx.fullMatch (sha1 data) = true
  sha256_hex : ∀ data, hex64Rx.fullMatch (sha256 data) = true

/-- `git_blob_id` (lines 91–92). -/
def Hashlib.gitBlobId (hashlib : Hashlib) (data : List UInt8) : String :=
  hashlib.sha1 (("blob " ++ toString data.length).toUTF8.toList ++ 0 :: data)

/-! ## The directory -/

/-- `IMPORTS.json`: its text, and what `json.loads` makes of it or the text of the error. -/
structure IndexFile where
  text : String
  document : Except String Value

/-- A directory of imports: the index, and the files beside it. -/
structure ImportsDir where
  index : Option IndexFile
  copies : Std.ExtTreeMap String (List UInt8)

/-- An empty directory. -/
def ImportsDir.empty : ImportsDir := ⟨none, ∅⟩

/-- `load_index` (lines 125–129). -/
def ImportsDir.loadIndex (dir : ImportsDir) : Except PyError Value :=
  match dir.index with
  | none => .ok (.dict [("imports", .list [])])
  | some file => file.document.mapError fun _ => .valueError

/-! ## Importing -/

/-- `class ImportRefused` (lines 109–113). -/
structure ImportRefused where
  code : String
  detail : String
  deriving DecidableEq

/-- The arguments of a call. -/
structure ImportCall where
  locator : String
  copyName : String
  owner : String
  standing : String
  scope : Option String
  replace : Bool

/-- `resolver.blob`. -/
abbrev Resolver := String → String → String → Except Refused (List UInt8)

/-- What a call has read: the object, and where it is. -/
structure Subject where
  repository : String
  sha : String
  path : String
  data : List UInt8
  deriving DecidableEq

/-- `TRANSPORT_CODES` (line 83). -/
def transportCodes : List String :=
  ["REPOSITORY_UNAVAILABLE", "OWNER_MISMATCH", "REMOTE_UNRESOLVED"]

/-- The code of what the resolver refuses (lines 165 and 283). -/
def sourceCode (refused : Refused) : String :=
  if refused.code ∈ transportCodes then "TRANSPORT_UNAVAILABLE" else "IMPORT_SOURCE_UNRESOLVED"

/-- `ROW_ORDER` (lines 71–81). -/
def rowOrder : List String :=
  ["path", "source_repo", "source_sha", "source_path", "source_blob_sha1", "sha256", "standing",
    "scope", "owner"]

/-- `ordered` (lines 116–118). -/
def ordered (row : Dict) : Dict :=
  let known := rowOrder.filterMap fun key => (row.lookup key).map fun value => (key, value)
  known ++ orderItems (row.filter fun item => (known.lookup item.1).isNone)

/-- `value.get(key, default)`. -/
def getMember (value : Value) (key : String) (default : Value) : Except PyError Value :=
  match value with
  | .dict items => .ok (Dict.getD items key default)
  | _ => .error .attributeError

/-- `r.get("path")`, of a row that has a `get`. -/
def rowPath (row : Value) : Value := Dict.get (row.dict?.getD []) "path"

section

variable (py : PyRuntime) (hashlib : Hashlib) (render : Value → String) (blob : Resolver)

/-- The locator of a call (lines 149–154). -/
def ImportCall.readLocator (call : ImportCall) : Except (Raised ImportRefused) Locator := do
  let loc ← (parse py call.locator).mapError fun refused =>
    .refusal ⟨"IMPORT_ROW_MALFORMED", refused.code ++ ":" ++ call.locator⟩
  ensure (loc.kind = "git")
    (.refusal ⟨"IMPORT_ROW_MALFORMED", "only git: locators are importable: " ++ call.locator⟩)
  return loc

/-- The checks of the other arguments (lines 155–160). -/
def ImportCall.checkArguments (call : ImportCall) : Except (Raised ImportRefused) Unit := do
  ensure (copyNameRx.fullMatch call.copyName = true ∧ call.copyName ≠ indexName)
    (.refusal ⟨"IMPORT_PATH_ESCAPE", call.copyName⟩)
  ensure (standingRx.fullMatch call.standing = true)
    (.refusal ⟨"IMPORT_ROW_MALFORMED", "standing " ++ py.repr (.str call.standing)⟩)
  ensure (strip call.owner.toList ≠ []) (.refusal ⟨"IMPORT_ROW_MALFORMED", "owner is empty"⟩)

/-- What a call reads, or refuses to read (lines 148–166). -/
def ImportCall.subject (call : ImportCall) : Except (Raised ImportRefused) Subject := do
  let loc ← call.readLocator py
  call.checkArguments py
  let repository := loc.repository.getD ""
  let sha := loc.sha.getD ""
  let path := loc.path.getD ""
  ensure (repository ≠ "" ∧ sha ≠ "" ∧ path ≠ "") (.error .assertionError)
  let data ← (blob repository sha path).mapError fun refused =>
    .refusal ⟨sourceCode refused, refused.code ++ ":" ++ call.locator⟩
  return { repository, sha, path, data }

/-- The row of a call (lines 168–180). -/
def importRow (call : ImportCall) (subject : Subject) : Dict :=
  let row : Dict :=
    [("path", .str ("imports/" ++ call.copyName)), ("source_repo", .str subject.repository),
      ("source_sha", .str subject.sha), ("source_path", .str subject.path),
      ("source_blob_sha1", .str (hashlib.gitBlobId subject.data)),
      ("sha256", .str (hashlib.sha256 subject.data)), ("standing", .str call.standing),
      ("owner", .str call.owner)]
  let scope := call.scope.getD ""
  ordered (if scope ≠ "" then row ++ [("scope", .str scope)] else row)

/-- Whether a row is of the subject of another one (line 189). -/
def sameSubject (old row : Dict) : Bool :=
  ["source_repo", "source_sha", "source_path", "sha256"].all fun key =>
    (Dict.get old key).eq (Dict.get row key)

/-- The rows with a new one (lines 184–196). -/
def placeRow (rows : List Value) (row : Dict) (replace : Bool) :
    Except (Raised ImportRefused) (List Value) := do
  let path := py.str (Dict.get row "path")
  ensure (rows.all (·.dict?.isSome)) (.error .attributeError)
  let existing := rows.zipIdx.filter fun entry => (rowPath entry.1).eq (Dict.get row "path")
  ensure (existing.length ≤ 1) (.refusal ⟨"IMPORT_DUPLICATE_PATH", path⟩)
  match existing with
  | [] => return rows ++ [.dict row]
  | (old, i) :: _ =>
    let old := old.dict?.getD []
    ensure (sameSubject old row = true ∨ replace = true)
      (.refusal ⟨"IMPORT_PATH_CONFLICT", path ++ " is bound to " ++
        py.str (Dict.get old "source_repo") ++ "@" ++ py.str (Dict.get old "source_sha") ++ ":" ++
        py.str (Dict.get old "source_path")⟩)
    return rows.set i (.dict row)

/-- `rows.sort(key=...)` (line 197). -/
def sortRows (rows : List Value) : List Value :=
  rows.insertionSort fun a b => py.str (rowPath a) ≤ py.str (rowPath b)

/-- `list(doc.get("imports", []))` (line 183). -/
def rowsOf (doc : Value) : Except PyError (List Value) :=
  (getMember doc "imports" (.list [])).bind Value.iterate

/-- `{**doc, "imports": rows}` (line 198). -/
def withRows (doc : Value) (rows : List Value) : Value :=
  .dict (setItem (doc.dict?.getD []) "imports" (.list rows))

/-- The document with a new row (lines 183–198). -/
def newDocument (doc : Value) (row : Dict) (replace : Bool) :
    Except (Raised ImportRefused) Value := do
  let rows ← (rowsOf doc).mapError .error
  let rows ← placeRow py rows row replace
  return withRows doc (sortRows py rows)

/-- `import_premise` (lines 135–212). What is not written has the bytes already. -/
def importPremise (call : ImportCall) : Method ImportsDir (Raised ImportRefused) (Dict × Bool) := do
  let subject ← Method.check (call.subject py blob)
  let row := importRow hashlib call subject
  let dir ← get
  let doc ← Method.check (dir.loadIndex.mapError .error)
  let newDoc ← Method.check (newDocument py doc row call.replace)
  let copied := dir.copies[call.copyName]? = some subject.data
  modify fun dir => { dir with copies := dir.copies.insert call.copyName subject.data }
  let indexed := dir.index.map (·.text) = some (render newDoc)
  modify fun dir => { dir with index := some ⟨render newDoc, .ok newDoc⟩ }
  return (row, !copied || !indexed)

end

/-! ## What a call does -/

section

variable (py : PyRuntime) (hashlib : Hashlib) (render : Value → String) (blob : Resolver)

/-- The directory with a copy and another index. -/
def ImportsDir.write (dir : ImportsDir) (name : String) (data : List UInt8) (newDoc : Value) :
    ImportsDir :=
  { index := some ⟨render newDoc, .ok newDoc⟩, copies := dir.copies.insert name data }

/-- An import as a transaction: what it returns, and the directory that it leaves. -/
def ImportsDir.imported (dir : ImportsDir) (call : ImportCall) :
    Except (Raised ImportRefused) ((Dict × Bool) × ImportsDir) := do
  let subject ← call.subject py blob
  let doc ← dir.loadIndex.mapError .error
  let newDoc ← newDocument py doc (importRow hashlib call subject) call.replace
  let changed := !decide (dir.copies[call.copyName]? = some subject.data) ||
    !decide (dir.index.map (·.text) = some (render newDoc))
  return ((importRow hashlib call subject, changed),
    dir.write render call.copyName subject.data newDoc)

/-- Everything that can be refused is refused before the first write. -/
theorem call_importPremise (dir : ImportsDir) (call : ImportCall) :
    (importPremise py hashlib render blob call).call dir =
      committed dir (dir.imported py hashlib render blob call) := by
  unfold importPremise ImportsDir.imported
  refine Method.call_check_bind fun subject _ => ?_
  rw [Method.call_get_bind]
  refine Method.call_check_bind fun doc _ => ?_
  refine Method.call_check_bind fun newDoc _ => ?_
  rfl

/-- Whether an import writes anything. -/
def ImportsDir.changes (dir : ImportsDir) (name : String) (data : List UInt8) (newDoc : Value) :
    Bool :=
  !decide (dir.copies[name]? = some data) || !decide (dir.index.map (·.text) = some (render newDoc))

variable {py hashlib render blob} in
theorem imported_eq {dir : ImportsDir} {call : ImportCall} {subject : Subject} {doc : Value}
    {rows : List Value} (hsubject : call.subject py blob = .ok subject)
    (hindex : dir.loadIndex = .ok doc) (hrows : rowsOf doc = .ok rows) :
    dir.imported py hashlib render blob call =
      (placeRow py rows (importRow hashlib call subject) call.replace).map fun placed =>
        let newDoc := withRows doc (sortRows py placed)
        ((importRow hashlib call subject, dir.changes render call.copyName subject.data newDoc),
          dir.write render call.copyName subject.data newDoc) := by
  unfold ImportsDir.imported newDocument
  rw [hsubject, hindex]
  simp only [bind, Except.bind, Except.mapError, hrows]
  cases placeRow py rows (importRow hashlib call subject) call.replace with
  | error raised => rfl
  | ok placed => rfl

/-- The rows of a path. -/
def rowsFor (name : String) (rows : List Value) : List Value :=
  rows.filter fun row => (rowPath row).eq (.str ("imports/" ++ name))

variable {py hashlib render blob} {dir : ImportsDir} {call : ImportCall}

/-- A row has its path, its subject and its blob id. -/
theorem importRow_eq (hashlib : Hashlib) (call : ImportCall) (subject : Subject) :
    importRow hashlib call subject =
      [("path", .str ("imports/" ++ call.copyName)), ("source_repo", .str subject.repository),
        ("source_sha", .str subject.sha), ("source_path", .str subject.path),
        ("source_blob_sha1", .str (hashlib.gitBlobId subject.data)),
        ("sha256", .str (hashlib.sha256 subject.data)), ("standing", .str call.standing)] ++
      (if call.scope.getD "" ≠ "" then [("scope", .str (call.scope.getD ""))] else []) ++
      [("owner", .str call.owner)] := by
  unfold importRow
  by_cases hscope : call.scope.getD "" = ""
  · simp [hscope, ordered, rowOrder, orderItems, List.lookup_cons, List.lookup_nil]
  · simp [hscope, ordered, rowOrder, orderItems, List.lookup_cons, List.lookup_nil]

theorem rowPath_importRow (subject : Subject) :
    rowPath (.dict (importRow hashlib call subject)) = .str ("imports/" ++ call.copyName) := by
  rw [importRow_eq]
  rfl

/-- The rows with a row in the place of the one row of its path. -/
inductive Placed (name : String) (row : Dict) : List Value → List Value → Option Dict → Prop
  | appended {rows : List Value} (hnew : rowsFor name rows = []) :
    Placed name row rows (rows ++ [.dict row]) none
  | replaced {front back : List Value} {old : Dict} (hfront : rowsFor name front = [])
    (hold : rowPath (.dict old) = .str ("imports/" ++ name)) (hback : rowsFor name back = []) :
    Placed name row (front ++ .dict old :: back) (front ++ .dict row :: back) (some old)

/-- No row with its number is of a path if no row is. -/
theorem filter_zipIdx_eq_nil {name : String} {rows : List Value} {n : ℕ} :
    (rows.zipIdx n).filter (fun entry => (rowPath entry.1).eq (.str ("imports/" ++ name))) = [] ↔
      rowsFor name rows = [] := by
  unfold rowsFor
  induction rows generalizing n with
  | nil => simp
  | cons row rows ih =>
    rw [List.zipIdx_cons, List.filter_cons, List.filter_cons]
    cases (rowPath row).eq (.str ("imports/" ++ name)) with
    | true => simp
    | false => simpa using ih

theorem dicts_of_placeRow {rows placed : List Value} {row : Dict} {replace : Bool}
    (h : placeRow py rows row replace = .ok placed) :
    ∀ stored ∈ rows, stored.dict?.isSome = true := by
  unfold placeRow at h
  rw [bind_eq_ok] at h
  obtain ⟨_, hdicts, -⟩ := h
  exact List.all_eq_true.mp (ensure_eq_ok.mp hdicts)

/-- A row is appended, or takes the place of the one row of its path. -/
theorem placed_of_placeRow {rows placed : List Value} {row : Dict} {name : String} {replace : Bool}
    (hpath : Dict.get row "path" = .str ("imports/" ++ name))
    (h : placeRow py rows row replace = .ok placed) :
    ∃ old, Placed name row rows placed old ∧
      ∀ old' ∈ old, sameSubject old' row = true ∨ replace = true := by
  unfold placeRow at h
  rw [bind_eq_ok] at h
  obtain ⟨_, hdicts, h⟩ := h
  rw [bind_eq_ok] at h
  obtain ⟨_, hlength, h⟩ := h
  rw [ensure_eq_ok] at hdicts hlength
  rw [hpath] at h hlength
  cases hexisting : rows.zipIdx.filter fun entry =>
      (rowPath entry.1).eq (.str ("imports/" ++ name)) with
  | nil =>
    rw [hexisting] at h
    rw [← pure_eq_ok.mp h]
    exact ⟨none, .appended (filter_zipIdx_eq_nil.mp hexisting), nofun⟩
  | cons entry others =>
    rw [hexisting] at h hlength
    obtain ⟨first, i⟩ := entry
    dsimp only at h
    rw [bind_eq_ok] at h
    obtain ⟨_, hallowed, h⟩ := h
    rw [ensure_eq_ok] at hallowed
    obtain ⟨front, back, hsplit, hfront, hfirst, hothers⟩ := List.filter_eq_cons_iff.mp hexisting
    obtain rfl : others = [] := by simpa using hlength
    obtain ⟨rowsFront, rowsBack, hrows, hzipFront, hzipBack⟩ := List.zipIdx_eq_append_iff.mp hsplit
    cases rowsBack with
    | nil => simp at hzipBack
    | cons stored rowsBack =>
      rw [List.zipIdx_cons, List.cons.injEq, Prod.mk.injEq] at hzipBack
      obtain ⟨⟨hstored, hindex⟩, hback⟩ := hzipBack
      have hdict : stored.dict?.isSome = true :=
        List.all_eq_true.mp hdicts stored (by rw [hrows]; simp)
      obtain ⟨old, hold⟩ := Option.isSome_iff_exists.mp hdict
      have hvalue : stored = .dict old := by
        cases stored <;> simp [Value.dict?] at hold ⊢
        exact hold
      rw [hvalue] at hstored hrows
      rw [hstored] at hallowed hfirst
      have hempty : rowsFor name rowsFront = [] := by
        rw [← filter_zipIdx_eq_nil (n := 0), ← hzipFront, List.filter_eq_nil_iff]
        exact hfront
      have hlater : rowsFor name rowsBack = [] := by
        rw [← filter_zipIdx_eq_nil, ← hback]
        exact hothers
      have hplaced : placed = rowsFront ++ .dict row :: rowsBack := by
        rw [← pure_eq_ok.mp h, hrows, hindex, Nat.zero_add]
        simp
      rw [hrows, hplaced]
      refine ⟨some old, .replaced hempty (Value.eq_str.mp hfirst) hlater, ?_⟩
      intro old' hold'
      rw [← Option.some.inj hold']
      exact hallowed

/-- What a row at a bound path comes to. -/
theorem placeRow_bound {front back : List Value} {old row : Dict} {name : String} (replace : Bool)
    (hpath : Dict.get row "path" = .str ("imports/" ++ name))
    (hdicts : ∀ stored ∈ front ++ .dict old :: back, stored.dict?.isSome = true)
    (hfront : rowsFor name front = []) (hold : rowPath (.dict old) = .str ("imports/" ++ name))
    (hback : rowsFor name back = []) :
    placeRow py (front ++ .dict old :: back) row replace =
      if sameSubject old row = true ∨ replace = true then .ok (front ++ .dict row :: back)
      else .error (.refusal ⟨"IMPORT_PATH_CONFLICT", "imports/" ++ name ++ " is bound to " ++
        py.str (Dict.get old "source_repo") ++ "@" ++ py.str (Dict.get old "source_sha") ++ ":" ++
        py.str (Dict.get old "source_path")⟩) := by
  have hexisting : (front ++ .dict old :: back).zipIdx.filter
      (fun entry => (rowPath entry.1).eq (.str ("imports/" ++ name))) =
        [(.dict old, front.length)] := by
    have hequal : (rowPath (.dict old)).eq (.str ("imports/" ++ name)) = true :=
      Value.eq_str.mpr hold
    rw [List.zipIdx_append, List.filter_append, filter_zipIdx_eq_nil.mpr hfront, List.nil_append,
      List.zipIdx_cons, List.filter_cons, if_pos hequal, filter_zipIdx_eq_nil.mpr hback,
      Nat.zero_add]
  unfold placeRow
  rw [hpath, hexisting]
  have hall : (front ++ .dict old :: back).all (·.dict?.isSome) = true :=
    List.all_eq_true.mpr hdicts
  simp only [ensure, hall, if_true, List.length_singleton, le_refl]
  show (if sameSubject old row = true ∨ replace = true then _ else _ : Except _ _) >>= _ = _
  split_ifs with hallowed
  · show Except.ok ((front ++ .dict old :: back).set front.length (.dict row)) = _
    simp
  · rfl

/-! ## The rows of a directory -/

/-- The rows of a directory whose index is a list of objects. -/
def ImportsDir.rows (dir : ImportsDir) : List Value :=
  match dir.loadIndex.bind rowsOf with
  | .ok rows => if rows.all (·.dict?.isSome) then rows else []
  | .error _ => []

theorem ImportsDir.rows_eq {doc : Value} {rows : List Value} (hindex : dir.loadIndex = .ok doc)
    (hrows : rowsOf doc = .ok rows) (hdicts : ∀ row ∈ rows, row.dict?.isSome = true) :
    dir.rows = rows := by
  have hall : rows.all (·.dict?.isSome) = true := List.all_eq_true.mpr hdicts
  unfold ImportsDir.rows
  rw [hindex]
  show (match rowsOf doc with
    | .ok rows => if rows.all (·.dict?.isSome) then rows else []
    | .error _ => []) = rows
  rw [hrows]
  exact if_pos hall

/-- Rows are read from an index that can be read. -/
theorem ImportsDir.exists_of_rows_ne_nil (h : dir.rows ≠ []) : ∃ doc, dir.loadIndex = .ok doc ∧
    rowsOf doc = .ok dir.rows ∧ ∀ row ∈ dir.rows, row.dict?.isSome = true := by
  unfold ImportsDir.rows at h ⊢
  cases hindex : dir.loadIndex with
  | error raised => simp [hindex, Except.bind] at h
  | ok doc =>
    rw [hindex] at h
    refine ⟨doc, rfl, ?_⟩
    simp only [Except.bind] at h ⊢
    cases hrows : rowsOf doc with
    | error raised => simp [hrows] at h
    | ok rows =>
      rw [hrows] at h
      dsimp only at h ⊢
      split_ifs at h ⊢ with hall
      · exact ⟨rfl, List.all_eq_true.mp hall⟩
      · exact absurd rfl h

theorem rowsOf_withRows (doc : Value)
    (rows : List Value) : rowsOf (withRows doc rows) = .ok rows := by
  unfold rowsOf withRows getMember
  simp only [Dict.getD, lookup_setItem, if_true, Option.getD_some]
  rfl

/-- The rows that were written are the rows that are there. -/
theorem ImportsDir.rows_write {name : String} {data : List UInt8} {doc : Value} {rows : List Value}
    (hdicts : ∀ row ∈ rows, row.dict?.isSome = true) :
    (dir.write render name data (withRows doc rows)).rows = rows :=
  ImportsDir.rows_eq rfl (rowsOf_withRows doc rows) hdicts

theorem sortRows_perm (rows : List Value) : (sortRows py rows).Perm rows :=
  List.perm_insertionSort _ rows

theorem rowsFor_sortRows (name : String) (rows : List Value) :
    (rowsFor name (sortRows py rows)).Perm (rowsFor name rows) :=
  (sortRows_perm rows).filter _

section Placed

variable {name other : String} {row : Dict} {rows placed : List Value} {old : Option Dict}

theorem Placed.dicts (h : Placed name row rows placed old)
    (hdicts : ∀ stored ∈ rows, stored.dict?.isSome = true) :
    ∀ stored ∈ placed, stored.dict?.isSome = true := by
  cases h with
  | appended hnew =>
    intro stored hstored
    rcases List.mem_append.mp hstored with hstored | hstored
    · exact hdicts stored hstored
    · rw [List.mem_singleton.mp hstored]
      rfl
  | replaced hfront hold hback =>
    intro stored hstored
    rcases List.mem_append.mp hstored with hstored | hstored
    · exact hdicts stored (List.mem_append_left _ hstored)
    · rcases List.mem_cons.mp hstored with rfl | hstored
      · rfl
      · exact hdicts stored (List.mem_append_right _ (List.mem_cons_of_mem _ hstored))

theorem rowsFor_append (name : String) (front back : List Value) :
    rowsFor name (front ++ back) = rowsFor name front ++ rowsFor name back := List.filter_append ..

variable {stored : Value}

theorem rowsFor_cons_of_eq (h : rowPath stored = .str ("imports/" ++ name)) (rows : List Value) :
    rowsFor name (stored :: rows) = stored :: rowsFor name rows :=
  List.filter_cons_of_pos (Value.eq_str.mpr h)

theorem rowsFor_cons_of_ne (h : rowPath stored = .str ("imports/" ++ name)) (hne : other ≠ name)
    (rows : List Value) :
    rowsFor other (stored :: rows) = rowsFor other rows := by
  refine List.filter_cons_of_neg fun hequal => hne ?_
  rw [h] at hequal
  have hpaths : "imports/" ++ name = "imports/" ++ other := Value.str.inj (Value.eq_str.mp hequal)
  exact (String.append_right_inj _).mp hpaths.symm

/-- The path has the row, after what it had before. -/
theorem Placed.rowsFor_self (h : Placed name row rows placed old)
    (hrow : rowPath (.dict row) = .str ("imports/" ++ name)) :
    rowsFor name rows = old.toList.map Value.dict ∧ rowsFor name placed = [.dict row] := by
  cases h with
  | appended hnew =>
    rw [rowsFor_append, rowsFor_cons_of_eq hrow, hnew]
    exact ⟨rfl, rfl⟩
  | replaced hfront hold hback =>
    rw [rowsFor_append, rowsFor_append, rowsFor_cons_of_eq hrow, rowsFor_cons_of_eq hold, hfront,
      hback]
    exact ⟨rfl, rfl⟩

theorem rowPath_ne_of_rowsFor (h : rowsFor name rows = []) (hstored : stored ∈ rows) :
    rowPath stored ≠ .str ("imports/" ++ name) :=
  fun hpath => List.filter_eq_nil_iff.mp h stored hstored (Value.eq_str.mpr hpath)

/-- The other rows are of other paths, and were there before. -/
theorem Placed.mem (h : Placed name row rows placed old) (hstored : stored ∈ placed) :
    stored = .dict row ∨ stored ∈ rows ∧ rowPath stored ≠ .str ("imports/" ++ name) := by
  cases h with
  | appended hnew =>
    rcases List.mem_append.mp hstored with hstored | hstored
    · exact .inr ⟨hstored, rowPath_ne_of_rowsFor hnew hstored⟩
    · exact .inl (List.mem_singleton.mp hstored)
  | replaced hfront hold hback =>
    rcases List.mem_append.mp hstored with hstored | hstored
    · exact .inr ⟨List.mem_append_left _ hstored, rowPath_ne_of_rowsFor hfront hstored⟩
    · rcases List.mem_cons.mp hstored with hstored | hstored
      · exact .inl hstored
      · exact .inr ⟨List.mem_append_right _ (List.mem_cons_of_mem _ hstored),
          rowPath_ne_of_rowsFor hback hstored⟩

/-- Another path keeps its rows. -/
theorem Placed.rowsFor_of_ne (h : Placed name row rows placed old)
    (hrow : rowPath (.dict row) = .str ("imports/" ++ name)) (hne : other ≠ name) :
    rowsFor other placed = rowsFor other rows := by
  cases h with
  | appended hnew =>
    rw [rowsFor_append, rowsFor_cons_of_ne hrow hne]
    exact List.append_nil _
  | replaced hfront hold hback =>
    rw [rowsFor_append, rowsFor_append, rowsFor_cons_of_ne hrow hne, rowsFor_cons_of_ne hold hne]

end Placed

/-! ## Accepted imports -/

/-- What an accepted import does to the rows and the copies. -/
structure Accepted (py : PyRuntime) (hashlib : Hashlib) (render : Value → String) (blob : Resolver)
    (dir after : ImportsDir) (call : ImportCall) (subject : Subject) (doc : Value)
    (placed : List Value) (old : Option Dict) : Prop where
  reads : call.subject py blob = .ok subject
  index : dir.loadIndex = .ok doc
  stored : rowsOf doc = .ok dir.rows
  dicts : ∀ row ∈ dir.rows, row.dict?.isSome = true
  places : Placed call.copyName (importRow hashlib call subject) dir.rows placed old
  allowed : ∀ old' ∈ old, sameSubject old' (importRow hashlib call subject) = true ∨
    call.replace = true
  after : after = dir.write render call.copyName subject.data (withRows doc (sortRows py placed))

theorem accepted_cases {returned : Dict × Bool} {after : ImportsDir}
    (h : dir.imported py hashlib render blob call = .ok (returned, after)) :
    ∃ subject doc placed old,
      Accepted py hashlib render blob dir after call subject doc placed old := by
  unfold ImportsDir.imported at h
  rw [bind_eq_ok] at h
  obtain ⟨subject, hsubject, h⟩ := h
  rw [bind_eq_ok] at h
  obtain ⟨doc, hdoc, h⟩ := h
  rw [bind_eq_ok] at h
  obtain ⟨newDoc, hnew, h⟩ := h
  obtain ⟨-, hafter⟩ := Prod.mk.inj (Except.ok.inj h)
  unfold newDocument at hnew
  rw [bind_eq_ok] at hnew
  obtain ⟨rows, hrows, hnew⟩ := hnew
  rw [bind_eq_ok] at hnew
  obtain ⟨placed, hplaced, hnew⟩ := hnew
  rw [mapError_eq_ok] at hdoc hrows
  obtain rfl := pure_eq_ok.mp hnew
  have hdicts := dicts_of_placeRow hplaced
  have hpath : Dict.get (importRow hashlib call subject) "path" =
      .str ("imports/" ++ call.copyName) := rowPath_importRow subject
  obtain ⟨old, hold, hallowed⟩ := placed_of_placeRow hpath hplaced
  have hstored := ImportsDir.rows_eq hdoc hrows hdicts
  exact ⟨subject, doc, placed, old, hsubject, hdoc, by rw [hstored, hrows], by rwa [hstored],
    by rwa [hstored], hallowed, hafter.symm⟩

end

end ChatmanEcosystem.PremiseImport
