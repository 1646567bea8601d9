import ChatmanEcosystem.Common.Versions
import ChatmanEcosystem.Store.Records

/-!
# Compare-and-swap cells

What a state store is for: each key has a cell with at most one record, and a
`put` that expects the version of the record counts it up.

* `Cells.put`, `Cells.call`: the abstract store.
* `Cells.Fits`: a call does not count up the greatest version, unless that panics.

A `MemoryStore` works like its cells (`MemoryStore.call_eq`). A `SqliteStore` does
for a call that fits (`SqliteStore.call_eq`), and refuses the others
(`SqliteStore.call_of_not_fits`).
-/

namespace ChatmanEcosystem.Store

open Common

/-- The record of each key. -/
abbrev Cells := String → Option StateRecord

namespace Cells

/-- The version under a key, or 0. -/
def versionAt (cells : Cells) (key : String) : ℕ := (cells key).elim 0 (·.version.toInt.toNat)

variable (overflowChecks : Bool)

/-- A put compares the version, and swaps the record. -/
def put (cells : Cells) (record : StateRecord) (expected : Option Int64) : Answer × Cells :=
  if expected = (cells record.key).map (·.version) then
    match (cells record.key).elim (some 1) fun current =>
      succVersion overflowChecks current.version with
    | none => (.panicked, cells)
    | some version =>
      (.stored { record with version },
        Function.update cells record.key (some { record with version }))
  else (.failed (.conflict record.key), cells)

def call (cells : Cells) : StoreCall → Answer × Cells
  | .put record expected => cells.put overflowChecks record expected
  | .get key => (.found (cells key), cells)

/-- Every record is under its own key, and its version is positive. -/
structure Placed (cells : Cells) : Prop where
  key : ∀ key record, cells key = some record → record.key = key
  version : ∀ key record, cells key = some record → 0 < record.version

/-- A put that passes its check does not count up the greatest version, unless that panics. -/
def Fits (cells : Cells) : StoreCall → Prop
  | .put record expected => ∀ current, cells record.key = some current →
      expected = some current.version → current.version = Int64.maxValue → overflowChecks = true
  | .get _ => True

/-- The number of a version that a put expects. -/
def expectedNumber (expected : Option Int64) : Option ℕ := expected.map (·.toInt.toNat)

/-- The key of a put that was accepted, and what it expected. -/
def accepted? : StoreCall × Answer → Option (String × Option Int64)
  | (.put record expected, .stored _) => some (record.key, expected)
  | _ => none

/-- The puts that were accepted. -/
def accepted (answers : List (StoreCall × Answer)) : List (String × Option Int64) :=
  answers.filterMap accepted?

/-- The version of the key is past the one that the put expected. -/
def Passed (cells : Cells) (put : String × Option Int64) : Prop :=
  put.2.elim 0 (·.toInt.toNat) < cells.versionAt put.1

variable {overflowChecks} {cells : Cells} {record : StateRecord} {expected : Option Int64}

theorem placed_empty : Placed fun _ => none where
  key := nofun
  version := nofun

/-- Every call fits in a build that checks for overflows. -/
theorem fits_of_overflowChecks (call : StoreCall) : cells.Fits true call := by
  cases call with
  | get key => trivial
  | put record expected => exact fun _ _ _ _ => rfl

theorem toInt_pos {version : Int64} (h : 0 < version) : 0 < version.toInt :=
  Int64.lt_iff_toInt_lt.mp h

/-- The next version, if there is one in `Int64`. -/
theorem succVersion_eq_some {version next : Int64} (hfits : version ≠ Int64.maxValue)
    (h : succVersion overflowChecks version = some next) : next.toInt = version.toInt + 1 := by
  rw [succVersion, if_neg fun hmax => hfits hmax.2, Option.some.injEq] at h
  have hne : version.toInt ≠ 2 ^ 63 - 1 := by
    rw [← Int64.toInt_maxValue]
    exact fun heq => hfits (Int64.toInt.inj heq)
  have hlt := version.toInt_lt
  have hle := version.le_toInt
  have hone : (1 : Int64).toInt = 1 := rfl
  rw [← h, Int64.toInt_add, hone, Int.bmod_eq_of_le]
  · omega
  · omega

variable {key : String}

theorem versionAt_of_some {current : StateRecord} (h : cells key = some current) :
    cells.versionAt key = current.version.toInt.toNat := by rw [versionAt, h]; rfl

theorem versionAt_of_none (h : cells key = none) : cells.versionAt key = 0 := by
  rw [versionAt, h]; rfl

/-- What the cells of a key expect, as a number. -/
theorem expectedNumber_map (h : cells.Placed) (key : String) :
    expectedNumber ((cells key).map (·.version)) = expectation (cells.versionAt key) := by
  cases hcell : cells key with
  | none => rw [versionAt_of_none hcell]; rfl
  | some current =>
    have hpos := toInt_pos (h.version key current hcell)
    rw [versionAt_of_some hcell, expectation, if_neg (by omega)]
    rfl

/-! ## An accepted put -/

/-- An accepted put expected the version of its key, and counts it up. -/
structure Swaps (cells : Cells) (record : StateRecord) (expected : Option Int64)
    (after : Cells) : Prop where
  placed : after.Placed
  expects : expectedNumber expected = expectation (cells.versionAt record.key)
  key : after.versionAt record.key = cells.versionAt record.key + 1
  others : ∀ key, key ≠ record.key → after key = cells key

variable {after : Cells}

theorem Swaps.versionAt_others (h : cells.Swaps record expected after) (hkey : key ≠ record.key) :
    after.versionAt key = cells.versionAt key := by
  rw [versionAt, versionAt, h.others key hkey]

/-- An accepted put expected the number of the version. -/
theorem Swaps.number (h : cells.Swaps record expected after) :
    expected.elim 0 (·.toInt.toNat) = cells.versionAt record.key := by
  have hexpects := h.expects
  unfold expectation at hexpects
  cases expected with
  | none =>
    split_ifs at hexpects with hzero
    · exact hzero.symm
    · cases hexpects
  | some version =>
    split_ifs at hexpects with hzero
    · cases hexpects
    · exact Option.some.inj hexpects

/-- The version is past an accepted put. -/
theorem Swaps.passed (h : cells.Swaps record expected after) :
    after.Passed (record.key, expected) := by
  rw [Passed, h.number, h.key]
  exact Nat.lt_succ_self _

/-- Versions do not go back. -/
theorem Swaps.passed_mono (h : cells.Swaps record expected after) {put : String × Option Int64}
    (hpassed : cells.Passed put) : after.Passed put := by
  by_cases hkey : put.1 = record.key
  · rw [Passed, hkey, h.key]
    rw [Passed, hkey] at hpassed
    omega
  · rw [Passed, h.versionAt_others hkey]
    exact hpassed

/-- A put that the versions are past is not accepted again. -/
theorem Swaps.fresh (h : cells.Swaps record expected after) :
    ¬ cells.Passed (record.key, expected) := by
  rw [Passed, h.number]
  exact Nat.lt_irrefl _

/-- What a call that accepts `put?` does to the cells: it was not past, and then it is. -/
structure Passes (cells after : Cells) (put? : Option (String × Option Int64)) : Prop where
  placed : after.Placed
  passed : ∀ put, cells.Passed put → after.Passed put
  fresh : ∀ put ∈ put?, ¬ cells.Passed put
  own : ∀ put ∈ put?, after.Passed put

theorem Passes.quiet (h : cells.Placed) : cells.Passes cells none :=
  ⟨h, fun _ => id, nofun, nofun⟩

theorem Swaps.passes (h : cells.Swaps record expected after) :
    cells.Passes after (some (record.key, expected)) where
  placed := h.placed
  passed _ := h.passed_mono
  fresh put hput := by
    obtain rfl := Option.some.inj hput
    exact h.fresh
  own put hput := by
    obtain rfl := Option.some.inj hput
    exact h.passed

/-- The version that a put stores, if none is the greatest. -/
theorem toInt_next_version (hplaced : cells.Placed) {version : Int64}
    (hfits : ∀ current, cells key = some current → current.version = Int64.maxValue →
      overflowChecks = true) (hsucc : (cells key).elim (some 1)
      (fun current => succVersion overflowChecks current.version) = some version) :
    version.toInt = cells.versionAt key + 1 := by
  cases hcell : cells key with
  | none =>
    rw [hcell, Option.elim_none, Option.some.injEq] at hsucc
    rw [versionAt_of_none hcell, ← hsucc]
    rfl
  | some current =>
    rw [hcell, Option.elim_some] at hsucc
    have hpos := toInt_pos (hplaced.version _ _ hcell)
    have hmax : current.version ≠ Int64.maxValue := by
      intro hmax
      rw [succVersion, if_pos ⟨hfits current hcell hmax, hmax⟩] at hsucc
      cases hsucc
    rw [versionAt_of_some hcell, succVersion_eq_some hmax hsucc]
    omega

/-- A record that counts up the version of its key is swapped in. -/
theorem swaps_update (hplaced : cells.Placed) {version : Int64}
    (hversion : version.toInt = cells.versionAt record.key + 1) :
    cells.Swaps record ((cells record.key).map (·.version))
      (Function.update cells record.key (some { record with version })) where
  placed := by
    refine ⟨fun key other hother => ?_, fun key other hother => ?_⟩
    · by_cases hkey : key = record.key
      · subst hkey
        rw [Function.update_self, Option.some.injEq] at hother
        rw [← hother]
      · rw [Function.update_of_ne hkey] at hother
        exact hplaced.key key other hother
    · by_cases hkey : key = record.key
      · subst hkey
        rw [Function.update_self, Option.some.injEq] at hother
        rw [← hother, Int64.lt_iff_toInt_lt]
        show Int64.toInt 0 < version.toInt
        rw [Int64.toInt_zero]
        omega
      · rw [Function.update_of_ne hkey] at hother
        exact hplaced.version key other hother
  expects := expectedNumber_map hplaced record.key
  key := by
    rw [versionAt, Function.update_self, Option.elim_some]
    show version.toInt.toNat = _
    omega
  others key hkey := Function.update_of_ne hkey _ _

/-- A put is accepted, or changes nothing. -/
theorem put_cases (hplaced : cells.Placed)
    (hfits : cells.Fits overflowChecks (.put record expected)) :
    (∃ stored after, cells.put overflowChecks record expected = (.stored stored, after) ∧
      cells.Swaps record expected after) ∨
    ∃ answer, cells.put overflowChecks record expected = (answer, cells) ∧
      ∀ stored, answer ≠ .stored stored := by
  unfold put
  split_ifs with hexpected
  · cases hsucc : (cells record.key).elim (some 1)
        fun current => succVersion overflowChecks current.version with
    | none => exact .inr ⟨.panicked, rfl, nofun⟩
    | some version =>
      have hversion := toInt_next_version hplaced
        (fun current hcell => hfits current hcell (by rw [hexpected, hcell]; rfl)) hsucc
      refine .inl ⟨_, _, rfl, ?_⟩
      rw [hexpected]
      exact swaps_update hplaced hversion
  · exact .inr ⟨_, rfl, nofun⟩

theorem accepted?_of_refused {answer : Answer} (h : ∀ stored, answer ≠ .stored stored) :
    accepted? (.put record expected, answer) = none := by
  cases answer with
  | stored stored => exact absurd rfl (h stored)
  | found _ | failed _ | panicked => rfl

/-- What a call that fits does to the cells. -/
theorem call_passes (hplaced : cells.Placed) {call : StoreCall}
    (hfits : cells.Fits overflowChecks call) :
    cells.Passes (cells.call overflowChecks call).2
      (accepted? (call, (cells.call overflowChecks call).1)) := by
  cases call with
  | get key => exact .quiet hplaced
  | put record expected =>
    rw [call]
    rcases put_cases hplaced hfits with ⟨stored, after, hput, hswaps⟩ | ⟨answer, hput, hrefused⟩
    · rw [hput]
      exact hswaps.passes
    · rw [hput, accepted?_of_refused hrefused]
      exact .quiet hplaced

end Cells

/-! ## `MemoryStore` -/

/-- The cells of a `MemoryStore`. -/
def MemoryStore.cells (store : MemoryStore) : Cells := fun key => store.records[key]?

theorem MemoryStore.put_eq (overflowChecks : Bool) (store : MemoryStore) (record : StateRecord)
    (expected : Option Int64) :
    (store.put overflowChecks record expected).1 =
        (store.cells.put overflowChecks record expected).1 ∧
      (store.put overflowChecks record expected).2.cells =
        (store.cells.put overflowChecks record expected).2 := by
  have hinsert : ∀ version, (MemoryStore.mk (store.records.insert record.key
      { record with version })).cells =
      Function.update store.cells record.key (some { record with version }) := by
    intro version
    funext key
    rw [cells, Std.ExtTreeMap.getElem?_insert, Function.update_apply]
    simp only [Std.compare_eq_iff_eq, eq_comm (a := key)]
    rfl
  have hcell : store.cells record.key = store.records[record.key]? := rfl
  rw [put, Cells.put, hcell]
  cases store.records[record.key]? with
  | none =>
    simp only [Option.map_none, Option.elim_none]
    split_ifs
    · exact ⟨rfl, hinsert 1⟩
    · exact ⟨rfl, rfl⟩
  | some current =>
    simp only [Option.map_some, Option.elim_some]
    split_ifs
    · cases succVersion overflowChecks current.version with
      | none => exact ⟨rfl, rfl⟩
      | some version => exact ⟨rfl, hinsert version⟩
    · exact ⟨rfl, rfl⟩

theorem MemoryStore.call_eq (overflowChecks : Bool) (store : MemoryStore) (call : StoreCall) :
    (store.call overflowChecks call).1 = (store.cells.call overflowChecks call).1 ∧
      (store.call overflowChecks call).2.cells = (store.cells.call overflowChecks call).2 := by
  cases call with
  | put record expected => exact store.put_eq overflowChecks record expected
  | get key => exact ⟨rfl, rfl⟩

/-! ## `SqliteStore` -/

/-- The cells of a `SqliteStore`. -/
def SqliteStore.cells (store : SqliteStore) : Cells := store.table.find?

variable {texts : ConstraintTexts} {store : SqliteStore} {record : StateRecord}
  {expected : Option Int64} {overflowChecks : Bool}

variable (texts) in
/-- An inserted row is the record of its key. -/
theorem StateTable.find?_insertRow {table : StateTable} {row : StateRecord}
    (hcell : table.find? row.key = none) (hversion : 0 < row.version) :
    ∃ after, StateTable.insertRow texts table row = .ok after ∧
      after.find? = Function.update table.find? row.key (some row) := by
  have hkey := KeyedTable.find?_eq_none_iff.mp hcell
  refine ⟨table.insert row hkey, ?_, ?_⟩
  · rw [insertRow, if_neg (by simpa using hversion), dif_neg hkey]
  · funext key
    rw [KeyedTable.find?_insert, Function.update_apply]
    simp only [eq_comm (a := key)]

variable (texts) in
/-- An updated row is the record of its key. -/
theorem StateTable.find?_update {table : StateTable} {current : StateRecord} (value : String)
    {version : Int64} (hcell : table.find? current.key = some current) (hversion : 0 < version) :
    ∃ after, StateTable.update texts table value version current.key current.version = .ok after ∧
      after.find? =
        Function.update table.find? current.key (some { current with value, version }) := by
  refine ⟨_, if_neg fun h => absurd h.1 (by simpa using hversion), ?_⟩
  funext key
  rw [KeyedTable.find?_modify, Function.update_apply]
  split_ifs with hkey
  · rw [hkey, hcell, Option.map_some, if_pos ⟨rfl, rfl⟩]
  · cases hother : table.find? key with
    | none => rfl
    | some other =>
      have hrow : other.key = key := KeyedTable.key_of_find? hother
      rw [Option.map_some, if_neg]
      rintro ⟨hsame, -⟩
      exact hkey (hrow.symm.trans hsame)

variable (texts) in
theorem SqliteStore.put_eq (hplaced : store.cells.Placed)
    (hfits : store.cells.Fits overflowChecks (.put record expected)) :
    (store.put overflowChecks texts record expected).1 =
        (store.cells.put overflowChecks record expected).1 ∧
      (store.put overflowChecks texts record expected).2.cells =
        (store.cells.put overflowChecks record expected).2 := by
  rw [put, Cells.put, StateTable.selectVersion]
  have hcells : store.cells record.key = store.table.find? record.key := rfl
  rw [hcells]
  cases hcell : store.table.find? record.key with
  | none =>
    simp only [Option.map_none, Option.elim_none, decide]
    split_ifs
    · have hone : (0 : Int64) < 1 := by decide
      have hinsert : ∃ after, StateTable.insertRow texts store.table { record with version := 1 } =
          .ok after ∧ after.find? = Function.update store.table.find? record.key
            (some { record with version := 1 }) := StateTable.find?_insertRow texts hcell hone
      obtain ⟨after, hafter, hfind⟩ := hinsert
      simp only [execute, hafter, true_and]
      exact hfind
    · exact ⟨rfl, rfl⟩
  | some current =>
    simp only [Option.map_some, Option.elim_some, decide]
    split_ifs with hexpected
    · cases hsucc : succVersion overflowChecks current.version with
      | none => exact ⟨rfl, rfl⟩
      | some version =>
        have hmax : current.version ≠ Int64.maxValue := by
          intro hmax
          rw [succVersion, if_pos ⟨hfits current hcell hexpected hmax, hmax⟩] at hsucc
          cases hsucc
        have hversion : 0 < version := by
          have hpos := Cells.toInt_pos (hplaced.version _ _ hcell)
          rw [Int64.lt_iff_toInt_lt, Int64.toInt_zero, Cells.succVersion_eq_some hmax hsucc]
          omega
        have hkey : current.key = record.key := KeyedTable.key_of_find? hcell
        rw [← hkey] at hcell
        obtain ⟨after, hafter, hfind⟩ :=
          StateTable.find?_update texts record.value hcell hversion
        rw [hkey] at hafter hfind
        simp only [execute, hafter, true_and]
        exact hfind
    · exact ⟨rfl, rfl⟩

variable (texts) in
theorem SqliteStore.call_eq {call : StoreCall} (hplaced : store.cells.Placed)
    (hfits : store.cells.Fits overflowChecks call) :
    (store.call overflowChecks texts call).1 = (store.cells.call overflowChecks call).1 ∧
      (store.call overflowChecks texts call).2.cells =
        (store.cells.call overflowChecks call).2 := by
  cases call with
  | put record expected => exact put_eq texts hplaced hfits
  | get key => exact ⟨rfl, rfl⟩

variable (texts) in
/-- A put that counts the greatest version up fails on the constraint of the table. -/
theorem SqliteStore.call_of_not_fits {call : StoreCall}
    (hfits : ¬ store.cells.Fits overflowChecks call) :
    store.call overflowChecks texts call = (.failed (.storage texts.check), store) := by
  cases call with
  | get key => exact absurd trivial hfits
  | put record expected =>
    simp only [Cells.Fits, not_forall] at hfits
    obtain ⟨current, hcell, hexpected, hmax, hchecks⟩ := hfits
    replace hcell : store.table.find? record.key = some current := hcell
    have hkey : current.key = record.key := KeyedTable.key_of_find? hcell
    have hrow : ∃ row ∈ store.table.rows, row.key = record.key ∧ row.version = current.version :=
      ⟨current, List.mem_of_find?_eq_some hcell, hkey, rfl⟩
    have hversion : current.version + 1 ≤ 0 := by
      rw [hmax]
      decide
    have hselect : StateTable.selectVersion store.table record.key = some current.version := by
      rw [StateTable.selectVersion, hcell]
      rfl
    have hsucc : succVersion overflowChecks current.version = some (current.version + 1) :=
      if_neg fun h => hchecks h.1
    have hupdate : StateTable.update texts store.table record.value (current.version + 1) record.key
        current.version = .error texts.check := if_pos ⟨hversion, hrow⟩
    simp only [call, put, hselect, decide, if_pos hexpected, hsucc, execute, hupdate]

/-- A put that a `SqliteStore` accepts is one that its cells accept. -/
theorem SqliteStore.put_stored {stored : StateRecord} {after : SqliteStore}
    (hplaced : store.cells.Placed)
    (h : store.put overflowChecks texts record expected = (.stored stored, after)) :
    store.cells.Swaps record expected after.cells := by
  have hfits : store.cells.Fits overflowChecks (.put record expected) := by
    by_contra hnot
    have hrefused := call_of_not_fits texts hnot
    rw [call, h] at hrefused
    cases hrefused
  obtain ⟨hanswer, hcells⟩ := put_eq texts hplaced hfits
  rw [h] at hanswer hcells
  rcases Cells.put_cases hplaced hfits with ⟨swapped, later, hput, hswaps⟩ | ⟨answer, hput, hnot⟩
  · rw [hput] at hcells
    rw [hcells]
    exact hswaps
  · rw [hput] at hanswer
    exact absurd hanswer.symm (hnot stored)

end ChatmanEcosystem.Store
