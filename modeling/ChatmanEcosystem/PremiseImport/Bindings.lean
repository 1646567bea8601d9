import ChatmanEcosystem.PremiseImport.Imports

/-!
# What is bound stays bound

A path of an imports directory is bound to an object by its row. `import_premise`
(`scripts/premise_import/premise_import.py`, lines 135–212) decides on four fields of that row
whether a call without `replace` is of the same object; such a call writes its own row and copy.

Results:

* `imported_of_rebinds`: what a call on a bound path comes to.
* `sameBinding_next`: a call that repeats what is stored changes no binding.
* `bindings_immutable_iff`: the bindings of a run never change, and a second import changes no
  byte, exactly if every such import repeats what is stored.
* `repeats_iff_of_produced`: in a directory that imports have written it does so by its owner,
  standing, scope and bytes.
-/

namespace ChatmanEcosystem.PremiseImport

open Common Py RootCrown
  Rust

/-! ## Runs -/

/-- A call, with the resolver that it is given. -/
structure ImportStep where
  call : ImportCall
  blob : Resolver

section

variable (py : PyRuntime) (hashlib : Hashlib) (render : Value → String)

/-- What a call answers. -/
def ImportsDir.answer (dir : ImportsDir) (step : ImportStep) :
    Except (Raised ImportRefused) (Dict × Bool) :=
  ((importPremise py hashlib render step.blob step.call).call dir).1

/-- The directory after a call. -/
def ImportsDir.next (dir : ImportsDir) (step : ImportStep) : ImportsDir :=
  ((importPremise py hashlib render step.blob step.call).call dir).2

/-- The files are the same, byte for byte. -/
structure SameFiles (dir after : ImportsDir) : Prop where
  index : after.index.map (·.text) = dir.index.map (·.text)
  copies : after.copies = dir.copies

/-- The path of a copy has a row. -/
def ImportsDir.Bound (dir : ImportsDir) (name : String) : Prop := rowsFor name dir.rows ≠ []

/-- The row and the copy of a path are the same. -/
structure SameBinding (name : String) (dir after : ImportsDir) : Prop where
  row : (rowsFor name after.rows).Perm (rowsFor name dir.rows)
  copy : after.copies[name]? = dir.copies[name]?

/-- A call reads an object, and its path is bound to a row. -/
structure Rebinds (dir : ImportsDir) (step : ImportStep) (subject : Subject) (old : Dict) :
    Prop where
  reads : step.call.subject py step.blob = .ok subject
  bound : rowsFor step.call.copyName dir.rows = [.dict old]

/-- A row is of an object. -/
structure IsOf (old : Dict) (subject : Subject) : Prop where
  repository : Dict.get old "source_repo" = .str subject.repository
  sha : Dict.get old "source_sha" = .str subject.sha
  path : Dict.get old "source_path" = .str subject.path
  digest : Dict.get old "sha256" = .str (hashlib.sha256 subject.data)

/-- The row has the fields of the call in their order, the copy has the bytes that were read, and
the index is written out as an import writes it. -/
structure Repeats (dir : ImportsDir) (step : ImportStep) (subject : Subject) (old : Dict) :
    Prop where
  row : old =
    [("path", .str ("imports/" ++ step.call.copyName)), ("source_repo", .str subject.repository),
      ("source_sha", .str subject.sha), ("source_path", .str subject.path),
      ("source_blob_sha1", .str (hashlib.gitBlobId subject.data)),
      ("sha256", .str (hashlib.sha256 subject.data)), ("standing", .str step.call.standing)] ++
    (if step.call.scope.getD "" ≠ "" then [("scope", .str (step.call.scope.getD ""))] else []) ++
    [("owner", .str step.call.owner)]
  copy : dir.copies[step.call.copyName]? = some subject.data
  written : ∀ doc, dir.loadIndex = .ok doc →
    dir.index.map (·.text) = some (render (withRows doc (sortRows py dir.rows)))

/-- A second import of an object repeats what is stored. -/
def RepeatsStored (dir : ImportsDir) (step : ImportStep) : Prop :=
  ∀ subject old, Rebinds py dir step subject old → IsOf hashlib old subject →
    Repeats py hashlib render dir step subject old

/-- Bindings never change, a second import of an object at its path changes no byte, and the import
of another object is refused. -/
structure BindingsImmutable (start : ImportsDir) (steps : List ImportStep) : Prop where
  kept : ∀ earlier later rest, steps = earlier ++ later ++ rest →
    ∀ name, (run (ImportsDir.next py hashlib render) start earlier).Bound name →
      SameBinding name (run (ImportsDir.next py hashlib render) start earlier)
        (run (ImportsDir.next py hashlib render) start (earlier ++ later))
  repeated : ∀ earlier step rest, steps = earlier ++ step :: rest →
    let dir := run (ImportsDir.next py hashlib render) start earlier
    ∀ subject old, Rebinds py dir step subject old → IsOf hashlib old subject →
      (∃ row, dir.answer py hashlib render step = .ok (row, false)) ∧
        SameFiles dir (dir.next py hashlib render step)
  refused : ∀ earlier step rest, steps = earlier ++ step :: rest →
    let dir := run (ImportsDir.next py hashlib render) start earlier
    ∀ subject old, Rebinds py dir step subject old → ¬ IsOf hashlib old subject →
      (∃ detail, dir.answer py hashlib render step =
        .error (.refusal ⟨"IMPORT_PATH_CONFLICT", detail⟩)) ∧
        dir.next py hashlib render step = dir

end

/-! ## A call on a bound path -/

variable {py : PyRuntime} {hashlib : Hashlib} {render : Value → String} {dir : ImportsDir}
  {step : ImportStep} {subject : Subject} {old : Dict}

theorem answer_of_imported {returned : Dict × Bool} {after : ImportsDir}
    (h : dir.imported py hashlib render step.blob step.call = .ok (returned, after)) :
    dir.answer py hashlib render step = .ok returned ∧ dir.next py hashlib render step = after := by
  unfold ImportsDir.answer ImportsDir.next
  rw [call_importPremise, h]
  exact ⟨rfl, rfl⟩

/-- A call that raises leaves the directory as it is. -/
theorem answer_of_raised {raised : Raised ImportRefused}
    (h : dir.imported py hashlib render step.blob step.call = .error raised) :
    dir.answer py hashlib render step = .error raised ∧
      dir.next py hashlib render step = dir := by
  unfold ImportsDir.answer ImportsDir.next
  rw [call_importPremise, h]
  exact ⟨rfl, rfl⟩

theorem sameSubject_importRow {call : ImportCall} :
    sameSubject old (importRow hashlib call subject) = true ↔ IsOf hashlib old subject := by
  rw [importRow_eq]
  simp only [sameSubject, List.all_cons, List.all_nil, Bool.and_true, Bool.and_eq_true]
  simp only [Dict.get, Dict.getD, List.cons_append, List.lookup_cons]
  constructor
  · rintro ⟨hrepository, hsha, hpath, hdigest⟩
    exact ⟨Value.eq_str.mp hrepository, Value.eq_str.mp hsha, Value.eq_str.mp hpath,
      Value.eq_str.mp hdigest⟩
  · intro h
    exact ⟨Value.eq_str.mpr h.repository, Value.eq_str.mpr h.sha, Value.eq_str.mpr h.path,
      Value.eq_str.mpr h.digest⟩

/-- Where the row of a bound path is. -/
theorem Rebinds.split (h : Rebinds py dir step subject old) : ∃ doc front back,
    dir.loadIndex = .ok doc ∧ rowsOf doc = .ok (front ++ .dict old :: back) ∧
      dir.rows = front ++ .dict old :: back ∧
      (∀ row ∈ front ++ .dict old :: back, row.dict?.isSome = true) ∧
      rowsFor step.call.copyName front = [] ∧
      rowPath (.dict old) = .str ("imports/" ++ step.call.copyName) ∧
      rowsFor step.call.copyName back = [] := by
  have hne : dir.rows ≠ [] := by
    intro hempty
    have hbound := h.bound
    rw [hempty] at hbound
    exact absurd hbound (List.cons_ne_nil _ _).symm
  obtain ⟨doc, hindex, hrows, hdicts⟩ := ImportsDir.exists_of_rows_ne_nil hne
  obtain ⟨front, back, hsplit, hfront, hold, hback⟩ := List.filter_eq_cons_iff.mp h.bound
  rw [hsplit] at hrows hdicts
  exact ⟨doc, front, back, hindex, hrows, hsplit, hdicts, List.filter_eq_nil_iff.mpr hfront,
    Value.eq_str.mp hold, hback⟩

variable (hashlib render) in
/-- A call that may take the place of the row. -/
theorem imported_again (h : Rebinds py dir step subject old)
    (hallowed : IsOf hashlib old subject ∨ step.call.replace = true) :
    ∃ doc front back, dir.loadIndex = .ok doc ∧ dir.rows = front ++ .dict old :: back ∧
      dir.imported py hashlib render step.blob step.call =
        let newDoc := withRows doc (sortRows py
          (front ++ .dict (importRow hashlib step.call subject) :: back))
        .ok ((importRow hashlib step.call subject,
          dir.changes render step.call.copyName subject.data newDoc),
          dir.write render step.call.copyName subject.data newDoc) := by
  obtain ⟨doc, front, back, hindex, hrows, hsplit, hdicts, hfront, hold, hback⟩ := h.split
  have hpath : Dict.get (importRow hashlib step.call subject) "path" =
      .str ("imports/" ++ step.call.copyName) := rowPath_importRow subject
  refine ⟨doc, front, back, hindex, hsplit, ?_⟩
  rw [imported_eq h.reads hindex hrows, placeRow_bound _ hpath hdicts hfront hold hback,
    if_pos (hallowed.imp_left sameSubject_importRow.mpr)]
  rfl

/-- A call of another object is refused. -/
theorem imported_conflict (h : Rebinds py dir step subject old)
    (hdifferent : ¬ IsOf hashlib old subject) (hreplace : step.call.replace = false) :
    ∃ detail, dir.imported py hashlib render step.blob step.call =
      .error (.refusal ⟨"IMPORT_PATH_CONFLICT", detail⟩) := by
  obtain ⟨doc, front, back, hindex, hrows, hsplit, hdicts, hfront, hold, hback⟩ := h.split
  have hpath : Dict.get (importRow hashlib step.call subject) "path" =
      .str ("imports/" ++ step.call.copyName) := rowPath_importRow subject
  have hrefused : ¬ (sameSubject old (importRow hashlib step.call subject) = true ∨
      step.call.replace = true) := by
    rw [sameSubject_importRow, hreplace]
    exact not_or.mpr ⟨hdifferent, Bool.false_ne_true⟩
  rw [imported_eq h.reads hindex hrows, placeRow_bound _ hpath hdicts hfront hold hback,
    if_neg hrefused]
  exact ⟨_, rfl⟩

/-! ## A step -/

/-- A call that repeats what is stored changes no byte. -/
theorem sameFiles_next (h : Rebinds py dir step subject old) (hsame : IsOf hashlib old subject)
    (hrepeats : Repeats py hashlib render dir step subject old) :
    (∃ row, dir.answer py hashlib render step = .ok (row, false)) ∧
      SameFiles dir (dir.next py hashlib render step) := by
  obtain ⟨doc, front, back, hindex, hrows, himported⟩ :=
    imported_again hashlib render h (.inl hsame)
  have hrow : old = importRow hashlib step.call subject := by
    rw [importRow_eq]
    exact hrepeats.row
  have hwritten := hrepeats.written doc hindex
  rw [← hrow, ← hrows] at himported
  obtain ⟨hanswer, hnext⟩ := answer_of_imported himported
  constructor
  · refine ⟨old, ?_⟩
    rw [hanswer]
    simp [ImportsDir.changes, hrepeats.copy, hwritten]
  · rw [hnext]
    constructor
    · rw [hwritten]
      rfl
    · show dir.copies.insert step.call.copyName subject.data = dir.copies
      refine Std.ExtTreeMap.ext_getElem? fun name => ?_
      rw [Std.ExtTreeMap.getElem?_insert]
      split_ifs with hname
      · rw [← Std.LawfulEqCmp.eq_of_compare hname, hrepeats.copy]
      · rfl

section Accepted

variable {after : ImportsDir} {doc : Value} {placed : List Value} {stored : Option Dict}

theorem Accepted.rows_after
    (h : Accepted py hashlib render step.blob dir after step.call subject doc placed stored) :
    after.rows = sortRows py placed := by
  rw [h.after]
  refine ImportsDir.rows_write fun row hrow => ?_
  exact h.places.dicts h.dicts row ((sortRows_perm placed).mem_iff.mp hrow)

/-- An accepted import binds its path. -/
theorem Accepted.binds
    (h : Accepted py hashlib render step.blob dir after step.call subject doc placed stored) :
    rowsFor step.call.copyName dir.rows = stored.toList.map Value.dict ∧
      rowsFor step.call.copyName after.rows = [.dict (importRow hashlib step.call subject)] ∧
      after.copies[step.call.copyName]? = some subject.data := by
  obtain ⟨hbefore, hplaced⟩ := h.places.rowsFor_self (rowPath_importRow subject)
  refine ⟨hbefore, ?_, ?_⟩
  · have hperm : (rowsFor step.call.copyName (sortRows py placed)).Perm _ :=
      rowsFor_sortRows step.call.copyName placed
    rw [hplaced] at hperm
    rw [h.rows_after]
    exact List.perm_singleton.mp hperm
  · rw [h.after]
    exact Std.ExtTreeMap.getElem?_insert_self

/-- It leaves the other paths alone. -/
theorem Accepted.sameBinding {name : String}
    (h : Accepted py hashlib render step.blob dir after step.call subject doc placed stored)
    (hne : name ≠ step.call.copyName) : SameBinding name dir after := by
  constructor
  · rw [h.rows_after, ← h.places.rowsFor_of_ne (rowPath_importRow subject) hne]
    exact rowsFor_sortRows name placed
  · rw [h.after]
    refine (Std.ExtTreeMap.getElem?_insert).trans (if_neg fun hname => hne ?_)
    exact (Std.LawfulEqCmp.eq_of_compare hname).symm

end Accepted

theorem sameBinding_refl (name : String) (dir : ImportsDir) : SameBinding name dir dir :=
  ⟨.rfl, rfl⟩

variable {name : String}

/-- A call that repeats what is stored, if it is of the same object, changes no binding. -/
theorem sameBinding_next (hreplace : step.call.replace = false)
    (hrepeats : RepeatsStored py hashlib render dir step) (hbound : dir.Bound name) :
    SameBinding name dir (dir.next py hashlib render step) := by
  cases himported : dir.imported py hashlib render step.blob step.call with
  | error raised =>
    rw [(answer_of_raised himported).2]
    exact sameBinding_refl name dir
  | ok returned =>
    obtain ⟨returned, after⟩ := returned
    obtain ⟨subject, doc, placed, stored, haccepted⟩ := accepted_cases himported
    rw [(answer_of_imported himported).2]
    by_cases hname : name = step.call.copyName
    · obtain ⟨hbefore, hafter, hcopy⟩ := haccepted.binds
      rw [hname] at hbound ⊢
      cases stored with
      | none => exact absurd hbefore hbound
      | some old =>
        have hsame : IsOf hashlib old subject := by
          have hallowed := haccepted.allowed old rfl
          rw [hreplace] at hallowed
          exact sameSubject_importRow.mp (hallowed.resolve_right Bool.false_ne_true)
        have hstored := hrepeats subject old ⟨haccepted.reads, hbefore⟩ hsame
        constructor
        · rw [hafter, hbefore, importRow_eq, ← hstored.row]
          rfl
        · rw [hcopy, hstored.copy]
    · exact haccepted.sameBinding hname

theorem SameBinding.bound {after : ImportsDir} (h : SameBinding name dir after)
    (hbound : dir.Bound name) : after.Bound name := by
  intro hempty
  have hrow := h.row
  rw [hempty] at hrow
  exact hbound hrow.symm.eq_nil

/-- A second import that changes no byte has repeated what is stored. -/
theorem repeats_of_sameFiles (h : Rebinds py dir step subject old)
    (hsame : IsOf hashlib old subject)
    (hfiles : SameFiles dir (dir.next py hashlib render step))
    (hbinding : SameBinding step.call.copyName dir (dir.next py hashlib render step)) :
    Repeats py hashlib render dir step subject old := by
  obtain ⟨doc, front, back, hindex, hrows, himported⟩ :=
    imported_again hashlib render h (.inl hsame)
  have hnext := (answer_of_imported himported).2
  obtain ⟨subject', doc', placed, stored, haccepted⟩ := accepted_cases himported
  obtain rfl : subject = subject' := Except.ok.inj (h.reads.symm.trans haccepted.reads)
  obtain ⟨-, hafter, hcopy⟩ := haccepted.binds
  rw [← hnext] at hafter hcopy
  have hrow : importRow hashlib step.call subject = old := by
    have hperm := hbinding.row
    rw [hafter, h.bound] at hperm
    exact Value.dict.inj (List.singleton_inj.mp (List.perm_singleton.mp hperm))
  refine ⟨by rw [← hrow, importRow_eq], by rw [← hcopy, hfiles.copies], fun doc' hdoc' => ?_⟩
  obtain rfl : doc = doc' := Except.ok.inj (hindex.symm.trans hdoc')
  rw [← hfiles.index, hnext, hrows, hrow]
  rfl

/-! ## Runs -/

/-- Bindings never change along a run that repeats what is stored. -/
theorem sameBinding_run {steps : List ImportStep}
    (hreplace : ∀ step ∈ steps, step.call.replace = false)
    (h : Along (ImportsDir.next py hashlib render) (RepeatsStored py hashlib render) dir steps)
    (hbound : dir.Bound name) :
    SameBinding name dir (run (ImportsDir.next py hashlib render) dir steps) := by
  induction steps generalizing dir with
  | nil => exact sameBinding_refl name dir
  | cons step steps ih =>
    rw [List.forall_mem_cons] at hreplace
    have hstep := sameBinding_next hreplace.1 h.1 hbound
    have hrun := ih hreplace.2 h.2 (hstep.bound hbound)
    exact ⟨hrun.row.trans hstep.row, hrun.copy.trans hstep.copy⟩

/-- Bindings never change, a second import of an object changes no byte and another object is
refused, in a run without `replace`, exactly if every second import repeats what is stored. -/
theorem bindings_immutable_iff (py : PyRuntime) (hashlib : Hashlib) (render : Value → String)
    (start : ImportsDir) (steps : List ImportStep)
    (hreplace : ∀ step ∈ steps, step.call.replace = false) :
    BindingsImmutable py hashlib render start steps ↔
      Along (ImportsDir.next py hashlib render) (RepeatsStored py hashlib render) start steps := by
  constructor
  · intro h
    refine along_iff.mpr fun earlier step later hsteps subject old hrebinds hsame => ?_
    have hfiles := (h.repeated earlier step later hsteps subject old hrebinds hsame).2
    have hbound : (run (ImportsDir.next py hashlib render) start earlier).Bound
        step.call.copyName := by
      unfold ImportsDir.Bound
      rw [hrebinds.bound]
      exact List.cons_ne_nil _ _
    have hkept := h.kept earlier [step] later (by simp [hsteps]) step.call.copyName hbound
    rw [run_append] at hkept
    exact repeats_of_sameFiles hrebinds hsame hfiles hkept
  · intro h
    constructor
    · intro earlier later rest hsteps name hbound
      rw [hsteps, along_append, along_append] at h
      rw [run_append]
      refine sameBinding_run (fun step hstep => hreplace step ?_) h.1.2 hbound
      rw [hsteps]
      simp [hstep]
    · intro earlier step rest hsteps dir subject old hrebinds hsame
      exact sameFiles_next hrebinds hsame
        (along_iff.mp h earlier step rest hsteps subject old hrebinds hsame)
    · intro earlier step rest hsteps dir subject old hrebinds hdifferent
      have hstep : step.call.replace = false := hreplace step (by simp [hsteps])
      obtain ⟨detail, himported⟩ := imported_conflict hrebinds hdifferent hstep
      obtain ⟨hanswer, hnext⟩ := answer_of_raised himported
      exact ⟨⟨detail, hanswer⟩, hnext⟩

/-! ## Directories that imports have written -/

theorem sortRows_sortRows (rows : List Value) :
    sortRows py (sortRows py rows) = sortRows py rows := by
  have htotal : Std.Total fun a b : Value => py.str (rowPath a) ≤ py.str (rowPath b) :=
    ⟨fun a b => le_total (py.str (rowPath a)) (py.str (rowPath b))⟩
  have htrans : IsTrans Value fun a b => py.str (rowPath a) ≤ py.str (rowPath b) :=
    ⟨fun _ _ _ => le_trans⟩
  exact (List.pairwise_insertionSort _ rows).insertionSort_eq

theorem withRows_withRows (doc : Value) (rows others : List Value) :
    withRows (withRows doc rows) others = withRows doc others := by
  unfold withRows
  refine congrArg Value.dict ?_
  show setItem (setItem (doc.dict?.getD []) "imports" (.list rows)) "imports" (.list others) = _
  generalize doc.dict?.getD [] = items
  have hkeys : "imports" ∈ (setItem items "imports" (.list rows)).map Prod.fst := by
    rw [keys_setItem]
    split_ifs with hmem
    · exact hmem
    · simp
  rw [setItem, if_pos hkeys, setItem, setItem]
  split_ifs with hmem
  · rw [List.map_map]
    refine List.map_congr_left fun item _ => ?_
    by_cases hitem : item.1 = "imports"
    · simp [hitem]
    · simp [hitem]
  · rw [List.map_append]
    refine congrArg₂ _ ?_ (by simp)
    refine (List.map_congr_left fun item hitem => if_neg fun hkey => hmem ?_).trans
      (List.map_id _)
    rw [← hkey]
    exact List.mem_map_of_mem hitem

/-- The rows of the directory are those of imports whose copies are there, and its index is written
out as an import writes it. -/
structure Produced (py : PyRuntime) (hashlib : Hashlib) (render : Value → String)
    (dir : ImportsDir) : Prop where
  rows : ∀ row ∈ dir.rows, ∃ call subject, row = .dict (importRow hashlib call subject) ∧
    dir.copies[call.copyName]? = some subject.data
  written : ∀ doc, dir.loadIndex = .ok doc → dir.rows = [] ∨
    dir.index.map (·.text) = some (render (withRows doc (sortRows py dir.rows)))

theorem produced_empty : Produced py hashlib render .empty :=
  ⟨fun _ hrow => absurd hrow List.not_mem_nil, fun _ _ => .inl rfl⟩

/-- Every call leaves such a directory, whatever it replaces. -/
theorem produced_next (dir : ImportsDir) (step : ImportStep)
    (h : Produced py hashlib render dir) :
    Produced py hashlib render (dir.next py hashlib render step) := by
  cases himported : dir.imported py hashlib render step.blob step.call with
  | error raised =>
    rw [(answer_of_raised himported).2]
    exact h
  | ok returned =>
    obtain ⟨returned, after⟩ := returned
    obtain ⟨subject, doc, placed, stored, haccepted⟩ := accepted_cases himported
    rw [(answer_of_imported himported).2]
    obtain ⟨-, -, hcopy⟩ := haccepted.binds
    constructor
    · intro row hrow
      rw [haccepted.rows_after, (sortRows_perm placed).mem_iff] at hrow
      rcases haccepted.places.mem hrow with hnew | ⟨hold, hpath⟩
      · exact ⟨step.call, subject, hnew, hcopy⟩
      · obtain ⟨call, earlier, hrow, hstored⟩ := h.rows row hold
        have hne : call.copyName ≠ step.call.copyName := by
          intro hname
          rw [hrow, rowPath_importRow, hname] at hpath
          exact hpath rfl
        exact ⟨call, earlier, hrow, (haccepted.sameBinding hne).copy.trans hstored⟩
    · intro doc' hdoc'
      right
      rw [haccepted.rows_after, sortRows_sortRows]
      rw [haccepted.after] at hdoc' ⊢
      rw [← Except.ok.inj hdoc', withRows_withRows]
      rfl

theorem produced_run (steps : List ImportStep) :
    Produced py hashlib render (run (ImportsDir.next py hashlib render) .empty steps) :=
  run_invariant produced_next produced_empty steps

section Fields

variable {call : ImportCall}

theorem owner_importRow : Dict.get (importRow hashlib call subject) "owner" = .str call.owner := by
  rw [importRow_eq]
  by_cases hscope : call.scope.getD "" = ""
  · simp [hscope, Dict.get, Dict.getD, List.lookup_cons]
  · simp [hscope, Dict.get, Dict.getD, List.lookup_cons]

theorem standing_importRow :
    Dict.get (importRow hashlib call subject) "standing" = .str call.standing := by
  rw [importRow_eq]
  rfl

theorem scope_importRow : Dict.get (importRow hashlib call subject) "scope" =
    if call.scope.getD "" ≠ "" then .str (call.scope.getD "") else .null := by
  rw [importRow_eq]
  by_cases hscope : call.scope.getD "" = ""
  · simp [hscope, Dict.get, Dict.getD, List.lookup_cons, List.lookup_nil]
  · simp [hscope, Dict.get, Dict.getD, List.lookup_cons]

end Fields

/-- In such a directory a call repeats what is stored if it passes the owner, the standing and the
scope that are stored, and reads the bytes that are stored. -/
theorem repeats_iff_of_produced (hproduced : Produced py hashlib render dir)
    (h : Rebinds py dir step subject old) (hsame : IsOf hashlib old subject) :
    Repeats py hashlib render dir step subject old ↔
      Dict.get old "owner" = .str step.call.owner ∧
      Dict.get old "standing" = .str step.call.standing ∧
      Dict.get old "scope" =
        (if step.call.scope.getD "" ≠ "" then .str (step.call.scope.getD "") else .null) ∧
      dir.copies[step.call.copyName]? = some subject.data := by
  constructor
  · intro hrepeats
    have hrow := hrepeats.row
    rw [← importRow_eq] at hrow
    rw [hrow]
    exact ⟨owner_importRow, standing_importRow, scope_importRow, hrepeats.copy⟩
  · intro ⟨howner, hstanding, hscope, hcopy⟩
    obtain ⟨doc, front, back, hindex, -, hrows, -, -, hpath, -⟩ := h.split
    obtain ⟨call, earlier, hrow, hstored⟩ := hproduced.rows (.dict old) (by simp [hrows])
    obtain rfl := Value.dict.inj hrow
    rw [rowPath_importRow] at hpath
    have hname : call.copyName = step.call.copyName :=
      (String.append_right_inj _).mp (Value.str.inj hpath)
    have hdata : earlier.data = subject.data := by
      rw [hname, hcopy] at hstored
      exact (Option.some.inj hstored).symm
    have hsubject : earlier = subject := by
      rw [importRow_eq] at hsame
      have hrepository : earlier.repository = subject.repository :=
        Value.str.inj hsame.repository
      have hsha : earlier.sha = subject.sha := Value.str.inj hsame.sha
      have hobject : earlier.path = subject.path := Value.str.inj hsame.path
      cases earlier
      rw [Subject.mk.injEq]
      exact ⟨hrepository, hsha, hobject, hdata⟩
    rw [owner_importRow] at howner
    rw [standing_importRow] at hstanding
    rw [scope_importRow] at hscope
    have hscopes : call.scope.getD "" = step.call.scope.getD "" := by
      by_cases hcall : call.scope.getD "" = ""
      · by_cases hstep : step.call.scope.getD "" = ""
        · rw [hcall, hstep]
        · simp [hcall, hstep] at hscope
      · by_cases hstep : step.call.scope.getD "" = ""
        · simp [hcall, hstep] at hscope
        · simpa [hcall, hstep] using hscope
    refine ⟨?_, hcopy, fun doc' hdoc' => ?_⟩
    · rw [importRow_eq, hname, hsubject, Value.str.inj howner, Value.str.inj hstanding, hscopes]
    · refine (hproduced.written doc' hdoc').resolve_left ?_
      rw [hrows]
      simp

/-! ## Two imports of a charter -/

/-- A stand-in for `hashlib`, which tells nothing apart. -/
def sampleHashlib : Hashlib where
  sha1 _ := "0123456789abcdef0123456789abcdef01234567"
  sha256 _ := "0123456789abcdef0123456789abcdef0123456789abcdef0123456789abcdef"
  sha1_hex _ := by decide +kernel
  sha256_hex _ := by decide +kernel

/-- An import of a charter, for an owner. -/
def charterImport (owner : String) : ImportStep where
  call :=
    { locator := "git:chatman/ecosystem@0123456789abcdef0123456789abcdef01234567:docs/charter.md",
      copyName := "charter.md", owner, standing := "NOT_A_SPEC", scope := none, replace := false }
  blob _ _ _ := .ok [0x23, 0x20, 0x43]

def charter : Subject :=
  { repository := "chatman/ecosystem", sha := "0123456789abcdef0123456789abcdef01234567",
    path := "docs/charter.md", data := [0x23, 0x20, 0x43] }

theorem charterImport_reads {owner : String} (howner : owner = "operator" ∨ owner = "steward") :
    (charterImport owner).call.subject samplePyRuntime (charterImport owner).blob =
      .ok charter := by
  rcases howner with rfl | rfl
  · exact toOption_eq_some.mp (by decide +kernel)
  · exact toOption_eq_some.mp (by decide +kernel)

/-- The directory after the first import of the charter. -/
def charterDir (render : Value → String) : ImportsDir :=
  ImportsDir.empty.write render "charter.md" charter.data
    (withRows (.dict [("imports", .list [])])
      [.dict (importRow sampleHashlib (charterImport "operator").call charter)])

theorem next_charterImport (render : Value → String) :
    ImportsDir.next samplePyRuntime sampleHashlib render .empty (charterImport "operator") =
      charterDir render := by
  have hindex : ImportsDir.empty.loadIndex = .ok (.dict [("imports", .list [])]) := rfl
  have hrows : rowsOf (.dict [("imports", .list [])]) = .ok [] := rfl
  have himported : ImportsDir.empty.imported samplePyRuntime sampleHashlib render
      (charterImport "operator").blob (charterImport "operator").call = _ :=
    imported_eq (charterImport_reads (.inl rfl)) hindex hrows
  exact (answer_of_imported himported).2

theorem rows_charterDir (render : Value → String) : (charterDir render).rows =
    [.dict (importRow sampleHashlib (charterImport "operator").call charter)] := by
  refine ImportsDir.rows_write fun row hrow => ?_
  rw [List.mem_singleton.mp hrow]
  rfl

/-- A call on the charter's path is of the charter. -/
theorem rebinds_charter (render : Value → String) {owner : String}
    (howner : owner = "operator" ∨ owner = "steward") :
    Rebinds samplePyRuntime (charterDir render) (charterImport owner) charter
        (importRow sampleHashlib (charterImport "operator").call charter) ∧
      IsOf sampleHashlib (importRow sampleHashlib (charterImport "operator").call charter)
        charter := by
  refine ⟨⟨charterImport_reads howner, ?_⟩, ?_⟩
  · rw [rows_charterDir]
    exact List.filter_cons_of_pos (Value.eq_str.mpr (rowPath_importRow charter))
  · rw [importRow_eq]
    exact ⟨rfl, rfl, rfl, rfl⟩

/-- Another owner does not repeat the import of the charter. -/
theorem steward_repeats_not : ¬ Repeats samplePyRuntime sampleHashlib compact (charterDir compact)
    (charterImport "steward") charter
    (importRow sampleHashlib (charterImport "operator").call charter) := by
  intro hrepeats
  have hproduced : Produced samplePyRuntime sampleHashlib compact (charterDir compact) := by
    rw [← next_charterImport]
    exact produced_next .empty _ produced_empty
  obtain ⟨hrebinds, hsame⟩ := rebinds_charter compact (.inr rfl)
  have howner := ((repeats_iff_of_produced hproduced hrebinds hsame).mp hrepeats).1
  rw [owner_importRow] at howner
  exact absurd (Value.str.inj howner) (by decide)

/-- The second import of the charter for its owner changes nothing. -/
theorem charter_repeated : BindingsImmutable samplePyRuntime sampleHashlib compact .empty
    [charterImport "operator", charterImport "operator"] := by
  refine (bindings_immutable_iff samplePyRuntime sampleHashlib compact .empty _ ?_).mpr ?_
  · simp [charterImport]
  · refine ⟨?_, ?_, trivial⟩
    · intro subject old hrebinds
      exact absurd hrebinds.bound (List.cons_ne_nil _ _).symm
    · rw [next_charterImport]
      intro subject old hrebinds hsame
      obtain ⟨hreads, hbound⟩ := (rebinds_charter compact (.inl rfl)).1
      obtain rfl : charter = subject := Except.ok.inj (hreads.symm.trans hrebinds.reads)
      obtain rfl := Value.dict.inj (List.singleton_inj.mp (hbound.symm.trans hrebinds.bound))
      refine ⟨importRow_eq _ _ _, Std.ExtTreeMap.getElem?_insert_self, fun doc hdoc => ?_⟩
      rw [rows_charterDir, ← Except.ok.inj hdoc]
      rfl

/-- The second import of the charter for another owner changes its row. -/
theorem charter_reowned : ¬ BindingsImmutable samplePyRuntime sampleHashlib compact .empty
    [charterImport "operator", charterImport "steward"] := by
  intro h
  obtain ⟨hrebinds, hsame⟩ := rebinds_charter compact (.inr rfl)
  have hrepeated := h.repeated [charterImport "operator"] (charterImport "steward") [] rfl
  have hkept := h.kept [charterImport "operator"] [charterImport "steward"] [] rfl "charter.md"
  simp only [run_append, run_cons, run_nil, next_charterImport] at hrepeated hkept
  have hbound : (charterDir compact).Bound "charter.md" := by
    unfold ImportsDir.Bound
    rw [show rowsFor "charter.md" _ = _ from hrebinds.bound]
    exact List.cons_ne_nil _ _
  have hrepeats := repeats_of_sameFiles hrebinds hsame
    (hrepeated charter _ hrebinds hsame).2 (hkept hbound)
  have hrow := congrArg (Dict.get · "owner") hrepeats.row
  rw [importRow_eq] at hrow
  have howner : Value.str "operator" = .str "steward" := hrow
  exact absurd (Value.str.inj howner) (by decide)

end ChatmanEcosystem.PremiseImport
