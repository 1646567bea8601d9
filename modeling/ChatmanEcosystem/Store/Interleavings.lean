import ChatmanEcosystem.Common.Concurrent
import ChatmanEcosystem.Store.Differential

/-!
# Interleaved calls of a store

Any number of calls at once, from one await point to the next. A call of a
`MemoryStore` waits for the lock and then runs to its end. A `SqliteStore` has one
connection: a call waits for it, and a `put` keeps it from `BEGIN` to the end of its
transaction, with an await at every statement.

Results:

* `Connection.resume_spec`: what a call of a `SqliteStore` does from one await to the next.
* `Connection.once`, `Locked.once`: no two accepted puts of a key expected the same version.
* `same_store_iff`: the two stores, call by call and interleaved.
-/

namespace ChatmanEcosystem.Store

open Common Common.Concurrent

/-! ## `MemoryStore` -/

namespace Locked

/-- Where a call of a `MemoryStore` stands. -/
inductive Phase
  | locking (call : StoreCall)
  | returned (call : StoreCall) (answer : Answer)

/-- The put of a call that was accepted. -/
def Phase.accepted? : Phase → Option (String × Option Int64)
  | .locking _ => none
  | .returned call answer => Cells.accepted? (call, answer)

variable (overflowChecks : Bool)

/-- A call goes on once it has the lock. -/
def program : Program MemoryStore Phase StoreCall Unit Empty where
  enter store call := (.locking call, store)
  resume store
    | .locking call, _ =>
      let answered := store.call overflowChecks call
      some (.returned call answered.1, answered.2)
    | .returned .., _ => none
  move store _ := store

def start : System MemoryStore Phase where
  shared := .empty
  calls := []

/-- The call that gets the lock fits. -/
def Fits (system : System MemoryStore Phase) : Event StoreCall Unit Empty → Prop
  | .answer i _ => ∀ call, system.calls[i]? = some (.locking call) →
      system.shared.cells.Fits overflowChecks call
  | .call _ | .move _ => True

variable {overflowChecks}

/-- The puts that were accepted are past. -/
def assertions : Assertions MemoryStore Phase Empty where
  shared store := store.cells.Placed
  call store phase := ∀ put ∈ phase.accepted?, store.cells.Passed put
  apart a b := ∀ put ∈ a.accepted?, b.accepted? ≠ some put
  symm _ _ h := fun put hb ha => h put ha hb
  settled := nofun
  owes := nofun

theorem hold_next (system : System MemoryStore Phase) (event : Event StoreCall Unit Empty)
    (h : assertions.Hold system) (hfits : Fits overflowChecks system event) :
    assertions.Hold ((program overflowChecks).next system event) := by
  refine Assertions.hold_next (C := Fits overflowChecks) ?_ ?_ (fun _ change => change.elim)
    system event h hfits
  · intro system request h _
    refine h.enter h.shared (fun put hput => ?_) (fun _ _ _ put hput => ?_)
      (fun _ _ _ => .refl _ _ _)
      fun k => k.elim
    · cases hput
    · cases hput
  · intro system i answer phase after h hfits hcall hresume
    cases phase with
    | returned call answer => cases hresume
    | locking call =>
      obtain rfl := Option.some.inj hresume
      obtain ⟨hanswer, hcells⟩ := system.shared.call_eq overflowChecks call
      have hpasses := Cells.call_passes h.shared (hfits call hcall)
      rw [← hanswer, ← hcells] at hpasses
      refine h.resume hcall hpasses.placed hpasses.own (fun j other hj hother put hput hsame => ?_)
        (fun j other hj hother => ⟨fun hpassed put hput => ?_, fun k => k.elim⟩) fun k => k.elim
      · exact hpasses.fresh put hput (h.call j other hother put hsame)
      · exact hpasses.passed put (hpassed put hput)

/-- In an interleaving of calls that fit, no two accepted puts of a key expected the same
version. -/
theorem once (events : List (Event StoreCall Unit Empty))
    (hfits : Along (program overflowChecks).next (Fits overflowChecks) start events) :
    ((run (program overflowChecks).next start events).calls.filterMap Phase.accepted?).Nodup := by
  have hcells : start.shared.cells = fun _ => none := by
    funext key
    exact Std.ExtTreeMap.getElem?_empty
  have hplaced : start.shared.cells.Placed := by
    rw [hcells]
    exact Cells.placed_empty
  have hstart : assertions.Hold start := Assertions.Hold.start hplaced fun k => k.elim
  have hhold := always_iff.mp (always_of_along hold_next hstart hfits) events []
    (List.append_nil events).symm
  exact nodup_filterMap hhold.apart

end Locked

/-! ## `SqliteStore` -/

namespace Connection

/-- Where a call of a `SqliteStore` stands: what it waits for. -/
inductive Phase
  | beginning (record : StateRecord) (expected : Option Int64)
  | selecting (record : StateRecord) (expected : Option Int64)
  | writing (record : StateRecord) (expected : Option Int64) (next : StateRecord)
    (old : Option Int64)
  | committing (record : StateRecord) (expected : Option Int64) (next : StateRecord)
  | reading (key : String)
  | returned (call : StoreCall) (answer : Answer)

/-- The call has an open transaction. -/
def Phase.isOpen : Phase → Bool
  | .selecting .. | .writing .. | .committing .. => true
  | .beginning .. | .reading _ | .returned .. => false

/-- The put of a call that was accepted. -/
def Phase.accepted? : Phase → Option (String × Option Int64)
  | .returned call answer => Cells.accepted? (call, answer)
  | _ => none

end Connection

/-- The one connection of the pool: the committed table, and the table in the transaction that is
open. -/
structure Connection where
  committed : StateTable
  transaction : Option StateTable

namespace Connection

/-- What is committed. -/
def store (connection : Connection) : SqliteStore := { table := connection.committed }

/-- The transaction is dropped. -/
def rollback (connection : Connection) : Connection := { connection with transaction := none }

variable (overflowChecks : Bool) (texts : ConstraintTexts)

/-- What a call does when the database has answered. -/
def resume (connection : Connection) : Phase → Unit → Option (Phase × Connection)
  | .beginning record expected, _ =>
    match connection.transaction with
    | some _ => none
    | none => some (.selecting record expected,
        { connection with transaction := some connection.committed })
  | .selecting record expected, _ => connection.transaction.map fun table =>
    match SqliteStore.decide overflowChecks (StateTable.selectVersion table record.key) record
      expected with
    | .error answer => (.returned (.put record expected) answer, connection.rollback)
    | .ok (next, old) => (.writing record expected next old, connection)
  | .writing record expected next old, _ => connection.transaction.map fun table =>
    match SqliteStore.execute texts table next old with
    | .error detail =>
      (.returned (.put record expected) (.failed (.storage detail)), connection.rollback)
    | .ok table => (.committing record expected next, { connection with transaction := some table })
  | .committing record expected next, _ => connection.transaction.map fun table =>
    (.returned (.put record expected) (.stored next), { committed := table, transaction := none })
  | .reading key, _ =>
    match connection.transaction with
    | some _ => none
    | none => some (.returned (.get key) (connection.store.get key), connection)
  | .returned .., _ => none

def program : Program Connection Phase StoreCall Unit Empty where
  enter connection
    | .put record expected => (.beginning record expected, connection)
    | .get key => (.reading key, connection)
  resume := resume overflowChecks texts
  move connection _ := connection

def start : System Connection Phase where
  shared := { committed := KeyedTable.empty, transaction := none }
  calls := []

/-! ## One step -/

/-- A call agrees with the connection: its transaction is the one that is open, and does what its
`put` does when it is not interrupted. -/
def Phase.Sound (connection : Connection) : Phase → Prop
  | .beginning .. | .reading _ => True
  | .selecting .. => connection.transaction = some connection.committed
  | .writing record expected next old =>
    connection.transaction = some connection.committed ∧
      SqliteStore.decide overflowChecks (StateTable.selectVersion connection.committed record.key)
        record expected = .ok (next, old)
  | .committing record expected next => ∃ table, connection.transaction = some table ∧
      connection.store.put overflowChecks texts record expected = (.stored next, { table })
  | .returned call answer =>
    ∀ put ∈ Cells.accepted? (call, answer), connection.store.cells.Passed put

variable {overflowChecks texts} {connection : Connection} {after : Phase × Connection}

/-- What a put is refused with is not the answer of an accepted one. -/
theorem accepted?_of_decide {current : Option Int64} {record : StateRecord}
    {expected : Option Int64} {answer : Answer}
    (h : SqliteStore.decide overflowChecks current record expected = .error answer) :
    Cells.accepted? (.put record expected, answer) = none := by
  unfold SqliteStore.decide at h
  cases current with
  | none =>
    simp only at h
    split_ifs at h
    obtain rfl := Except.error.inj h
    rfl
  | some version =>
    simp only at h
    split_ifs at h
    · split at h
      · obtain rfl := Except.error.inj h
        rfl
      · cases h
    · obtain rfl := Except.error.inj h
      rfl

/-- A call goes on when it has the connection or the connection is free; and it stays sound. -/
theorem resume_spec {phase : Phase} {answer : Unit} (hplaced : connection.store.cells.Placed)
    (hsound : phase.Sound overflowChecks texts connection)
    (h : resume overflowChecks texts connection phase answer = some after) :
    (phase.isOpen = true ∨ connection.transaction = none) ∧
      after.1.Sound overflowChecks texts after.2 ∧
      connection.store.cells.Passes after.2.store.cells after.1.accepted? := by
  cases phase with
  | beginning record expected =>
    simp only [resume] at h
    split at h
    · cases h
    · rename_i hfree
      obtain rfl := Option.some.inj h
      exact ⟨.inr hfree, rfl, .quiet hplaced⟩
  | selecting record expected =>
    have hopen : connection.transaction = some connection.committed := hsound
    simp only [resume, hopen, Option.map_some] at h
    split at h
    · rename_i refused hdecide
      obtain rfl := Option.some.inj h
      have hnone := accepted?_of_decide hdecide
      have hpasses : connection.store.cells.Passes connection.store.cells
          (Cells.accepted? (.put record expected, refused)) := by
        rw [hnone]
        exact .quiet hplaced
      exact ⟨.inl rfl, hpasses.own, hpasses⟩
    · rename_i next old hdecide
      obtain rfl := Option.some.inj h
      exact ⟨.inl rfl, ⟨hopen, hdecide⟩, .quiet hplaced⟩
  | writing record expected next old =>
    obtain ⟨hopen, hdecide⟩ := hsound
    simp only [resume, hopen, Option.map_some] at h
    split at h
    · obtain rfl := Option.some.inj h
      exact ⟨.inl rfl, fun put hput => (by cases hput), .quiet hplaced⟩
    · rename_i table hexecute
      obtain rfl := Option.some.inj h
      refine ⟨.inl rfl, ⟨table, rfl, ?_⟩, .quiet hplaced⟩
      simp only [store, SqliteStore.put, hdecide, hexecute]
  | committing record expected next =>
    obtain ⟨table, hopen, hput⟩ := hsound
    simp only [resume, hopen, Option.map_some] at h
    obtain rfl := Option.some.inj h
    have hpasses := (SqliteStore.put_stored hplaced hput).passes
    exact ⟨.inl rfl, hpasses.own, hpasses⟩
  | reading key =>
    simp only [resume] at h
    split at h
    · cases h
    · rename_i hfree
      obtain rfl := Option.some.inj h
      exact ⟨.inr hfree, fun put hput => (by cases hput), .quiet hplaced⟩
  | returned call answer => cases h

/-! ## Runs -/

variable (overflowChecks texts) in
/-- The connection has one transaction at most, and the puts that were accepted are past. -/
def assertions : Assertions Connection Phase Empty where
  shared connection := connection.store.cells.Placed
  call connection phase := phase.Sound overflowChecks texts connection
  apart a b := ¬ (a.isOpen = true ∧ b.isOpen = true) ∧
    ∀ put ∈ a.accepted?, b.accepted? ≠ some put
  symm _ _ h := ⟨fun hopen => h.1 hopen.symm, fun put hb ha => h.2 put ha hb⟩
  settled := nofun
  owes := nofun

/-- A call without a transaction is spared by what another call commits. -/
theorem spares_of_closed {later : Connection} {new other : Phase}
    (hpasses : connection.store.cells.Passes later.store.cells new.accepted?)
    (hclosed : other.isOpen = false) :
    (assertions overflowChecks texts).Spares connection later other := by
  refine ⟨fun hsound => ?_, fun k => k.elim⟩
  cases other with
  | beginning | reading => trivial
  | selecting | writing | committing => cases hclosed
  | returned call answer => exact fun put hput => hpasses.passed put (hsound put hput)

/-- A call that is open holds the transaction. -/
theorem transaction_of_isOpen {phase : Phase} (hsound : phase.Sound overflowChecks texts connection)
    (hopen : phase.isOpen = true) : ∃ table, connection.transaction = some table := by
  cases phase with
  | beginning | reading | returned => cases hopen
  | selecting => exact ⟨_, hsound⟩
  | writing => exact ⟨_, hsound.1⟩
  | committing =>
    obtain ⟨table, htable, -⟩ := hsound
    exact ⟨table, htable⟩

theorem hold_next (system : System Connection Phase) (event : Event StoreCall Unit Empty)
    (h : (assertions overflowChecks texts).Hold system) :
    (assertions overflowChecks texts).Hold ((program overflowChecks texts).next system event) := by
  refine Assertions.hold_next (C := fun _ _ => True) ?_ ?_ (fun _ change => change.elim)
    system event h trivial
  · intro system request h _
    have hclosed : ((program overflowChecks texts).enter system.shared request).1.isOpen = false ∧
        ((program overflowChecks texts).enter system.shared request).1.accepted? = none ∧
        ((program overflowChecks texts).enter system.shared request).2 = system.shared ∧
        ((program overflowChecks texts).enter system.shared request).1.Sound overflowChecks texts
          system.shared := by
      cases request <;> exact ⟨rfl, rfl, rfl, trivial⟩
    obtain ⟨hopen, hnone, hshared, hnew⟩ := hclosed
    rw [Program.next, hshared]
    refine h.enter h.shared hnew (fun j call hcall => ⟨fun hboth => ?_, fun put hput => ?_⟩)
      (fun _ _ _ => .refl _ _ _) fun k => k.elim
    · rw [hopen] at hboth
      cases hboth.1
    · rw [hnone] at hput
      cases hput
  · intro system i answer phase after h _ hcall hresume
    obtain ⟨hfree, hnew, hpasses⟩ := resume_spec h.shared (h.call i phase hcall) hresume
    have hclosed : ∀ (j : ℕ) call, j ≠ i → system.calls[j]? = some call → call.isOpen = false := by
      intro j call hj hother
      rw [← Bool.not_eq_true]
      intro hopen
      rcases hfree with hphase | hnone
      · exact (h.apart i j phase call (Ne.symm hj) hcall hother).1 ⟨hphase, hopen⟩
      · obtain ⟨table, htable⟩ := transaction_of_isOpen (h.call j call hother) hopen
        rw [hnone] at htable
        cases htable
    refine h.resume hcall hpasses.placed hnew (fun j call hj hother => ⟨fun hboth => ?_,
      fun put hput hsame => ?_⟩) (fun j call hj hother => spares_of_closed hpasses
        (hclosed j call hj hother)) fun k => k.elim
    · have hfalse := hclosed j call hj hother
      rw [hfalse] at hboth
      cases hboth.2
    · have hpassed : system.shared.store.cells.Passed put := by
        have hsound := h.call j call hother
        cases call with
        | returned request answer => exact hsound put hsame
        | beginning | selecting | writing | committing | reading => cases hsame
      exact hpasses.fresh put hput hpassed

variable (overflowChecks texts) in
/-- In every interleaving, no two accepted puts of a key expected the same version. -/
theorem once (events : List (Event StoreCall Unit Empty)) :
    ((run (program overflowChecks texts).next start events).calls.filterMap
      Phase.accepted?).Nodup := by
  have hstart : (assertions overflowChecks texts).Hold start :=
    Assertions.Hold.start Cells.placed_empty fun k => k.elim
  have hhold := run_invariant hold_next hstart events
  exact nodup_filterMap fun i j a b hij ha hb => (hhold.apart i j a b hij ha hb).2

end Connection

/-! ## The two stores -/

/-- Call by call, the stores agree and count their puts exactly when every call fits. Interleaved,
a `SqliteStore` accepts no two puts of a key that expected the same version, and a `MemoryStore`
does not when every call fits. -/
theorem same_store_iff (overflowChecks : Bool) (texts : ConstraintTexts) :
    (∀ calls, Always (Differential.next overflowChecks texts) Differential.Agree Differential.start
        calls ↔
      Along (Differential.next overflowChecks texts)
        (fun stores call => stores.memory.cells.Fits overflowChecks call) Differential.start
        calls) ∧
    (∀ events, ((run (Connection.program overflowChecks texts).next Connection.start
      events).calls.filterMap Connection.Phase.accepted?).Nodup) ∧
    ∀ events, Along (Locked.program overflowChecks).next (Locked.Fits overflowChecks) Locked.start
      events →
      ((run (Locked.program overflowChecks).next Locked.start events).calls.filterMap
        Locked.Phase.accepted?).Nodup :=
  ⟨Differential.agree_iff_fits, Connection.once overflowChecks texts, Locked.once⟩

/-- Two calls create the same key, in a build that checks for overflows. -/
theorem same_store_created :
    ((run (Locked.program true).next Locked.start
      [.call (.put ⟨"standing:crown", "ALIVE", 0⟩ none),
        .call (.put ⟨"standing:crown", "STALE", 0⟩ none), .answer 1 (),
          .answer 0 ()]).calls.filterMap
      Locked.Phase.accepted?).Nodup := by
  refine (same_store_iff true ⟨"CHECK constraint failed", "UNIQUE constraint failed"⟩).2.2 _ ?_
  exact ⟨trivial, trivial, fun call _ => Cells.fits_of_overflowChecks call,
    fun call _ => Cells.fits_of_overflowChecks call, trivial⟩

/-- In a build that lets versions wrap, the stores part at the `2 ^ 63`-th put of a key. -/
theorem wrapped_version_parts :
    ¬ Always (Differential.next false ⟨"CHECK constraint failed", "UNIQUE constraint failed"⟩)
      Differential.Agree Differential.start (Differential.fixturePuts (2 ^ 63)) :=
  Differential.fixturePuts_part rfl

end ChatmanEcosystem.Store
