import ChatmanEcosystem.Common.KeyedTable

/-!
# The two state stores

Model of `StateStore` and its two implementations
(`crates/ecosystem-runtime/src/lib.rs`, lines 16–165). A `MemoryStore` works
under its lock. A `SqliteStore` has one connection, on which it runs each `put`
in a transaction: `decide` is what `put` does with the version that it selected,
and `execute` is the statement it runs then.

A build either checks the arithmetic on versions and panics on an overflow, or
lets it wrap (`overflowChecks`).
-/

namespace ChatmanEcosystem.Store

open Common

/-! ## Calls and answers -/

/-- The variants of `enum Error` (lines 17–28) that the stores return. -/
inductive StoreError
  | conflict (key : String)
  | storage (detail : String)
  deriving DecidableEq

/-- `struct StateRecord` (lines 31–35). -/
structure StateRecord where
  key : String
  value : String
  version : Int64
  deriving DecidableEq

/-- The calls of `trait StateStore` (lines 38–41). -/
inductive StoreCall
  | put (record : StateRecord) (expected : Option Int64)
  | get (key : String)
  deriving DecidableEq

/-- How a call ends. -/
inductive Answer
  | stored (record : StateRecord)
  | found (record : Option StateRecord)
  | failed (error : StoreError)
  | panicked
  deriving DecidableEq

/-- `version + 1`; there is none when the build checks for overflows. -/
def succVersion (overflowChecks : Bool) (version : Int64) : Option Int64 :=
  if overflowChecks = true ∧ version = Int64.maxValue then none else some (version + 1)

/-! ## `MemoryStore` -/

/-- `struct MemoryStore` (lines 44–46). -/
structure MemoryStore where
  records : Std.ExtTreeMap String StateRecord

namespace MemoryStore

/-- `MemoryStore::default`. -/
def empty : MemoryStore := { records := ∅ }

variable (overflowChecks : Bool)

/-- `MemoryStore::put` (lines 50–67). -/
def put (store : MemoryStore) (record : StateRecord) (expected : Option Int64) :
    Answer × MemoryStore :=
  match store.records[record.key]? with
  | some current =>
    if expected = some current.version then
      match succVersion overflowChecks current.version with
      | none => (.panicked, store)
      | some version =>
        let record := { record with version }
        (.stored record, { records := store.records.insert record.key record })
    else (.failed (.conflict record.key), store)
  | none =>
    if expected = none then
      let record := { record with version := 1 }
      (.stored record, { records := store.records.insert record.key record })
    else (.failed (.conflict record.key), store)

/-- `MemoryStore::get` (lines 69–71). -/
def get (store : MemoryStore) (key : String) : Answer := .found store.records[key]?

def call (store : MemoryStore) : StoreCall → Answer × MemoryStore
  | .put record expected => store.put overflowChecks record expected
  | .get key => (store.get key, store)

end MemoryStore

/-! ## `SqliteStore` -/

/-- The table `ecosystem_state` (line 94), with its primary key. -/
abbrev StateTable := KeyedTable StateRecord.key

/-- The texts of the errors of the database for its two constraints. -/
structure ConstraintTexts where
  check : String
  primaryKey : String

namespace StateTable

variable (texts : ConstraintTexts)

/-- `SELECT version FROM ecosystem_state WHERE key = ?`. -/
def selectVersion (table : StateTable) (key : String) : Option Int64 :=
  (table.find? key).map (·.version)

/-- `UPDATE ecosystem_state SET value = ?, version = ? WHERE key = ? AND version = ?`, under
`CHECK(version > 0)`. -/
def update (table : StateTable) (value : String) (version : Int64) (key : String) (old : Int64) :
    Except String StateTable :=
  if version ≤ 0 ∧ ∃ row ∈ table.rows, row.key = key ∧ row.version = old then .error texts.check
  else .ok (table.modify
    (fun row => if row.key = key ∧ row.version = old then { row with value, version } else row)
    fun row => by split_ifs <;> rfl)

/-- `INSERT INTO ecosystem_state(key, value, version) VALUES (?, ?, ?)`, under the primary key and
`CHECK(version > 0)`. -/
def insertRow (table : StateTable) (row : StateRecord) : Except String StateTable :=
  if row.version ≤ 0 then .error texts.check
  else if h : row.key ∈ table.rows.map StateRecord.key then .error texts.primaryKey
  else .ok (table.insert row h)

end StateTable

/-- `struct SqliteStore` (lines 75–77): what its transactions have committed. -/
structure SqliteStore where
  table : StateTable

namespace SqliteStore

/-- `SqliteStore::in_memory` (lines 85–97). -/
def inMemory : SqliteStore := { table := KeyedTable.empty }

variable (overflowChecks : Bool) (texts : ConstraintTexts)

/-- `SqliteStore::put` between its two statements (lines 117–131 and 143): the record with its new
version and the version to update, if there is a row to update, or the answer of a call that drops
its transaction. -/
def decide (current : Option Int64) (record : StateRecord) (expected : Option Int64) :
    Except Answer (StateRecord × Option Int64) :=
  match current with
  | some version =>
    if expected = some version then
      match succVersion overflowChecks version with
      | none => .error .panicked
      | some next => .ok ({ record with version := next }, some version)
    else .error (.failed (.conflict record.key))
  | none =>
    if expected = none then .ok ({ record with version := 1 }, none)
    else .error (.failed (.conflict record.key))

/-- The second statement of `SqliteStore::put` (lines 127–128 and 132–138). -/
def execute (table : StateTable) (record : StateRecord) (old : Option Int64) :
    Except String StateTable :=
  match old with
  | some version => StateTable.update texts table record.value record.version record.key version
  | none => StateTable.insertRow texts table record

/-- `SqliteStore::put` (lines 102–147), not interrupted: a transaction that does not come to its
commit changes nothing. -/
def put (store : SqliteStore) (record : StateRecord) (expected : Option Int64) :
    Answer × SqliteStore :=
  match decide overflowChecks (StateTable.selectVersion store.table record.key) record expected with
  | .error answer => (answer, store)
  | .ok (record, old) =>
    match execute texts store.table record old with
    | .error detail => (.failed (.storage detail), store)
    | .ok table => (.stored record, { table })

/-- `SqliteStore::get` (lines 149–164). -/
def get (store : SqliteStore) (key : String) : Answer := .found (store.table.find? key)

def call (store : SqliteStore) : StoreCall → Answer × SqliteStore
  | .put record expected => store.put overflowChecks texts record expected
  | .get key => (store.get key, store)

end SqliteStore

end ChatmanEcosystem.Store
