import ChatmanEcosystem.Common.Run
import ChatmanEcosystem.Store.Cells
import Mathlib.Algebra.Group.Nat.Defs

/-!
# Both stores beside each other

The comparison of `differential_store_check`
(`crates/ecosystem-runtime/src/lib.rs`, lines 167–216), for every sequence of calls:
a `MemoryStore` and a `SqliteStore` get the same calls, and their answers are kept.

Results:

* `Kept.call`: what a call that fits keeps of a store and its answers.
* `agree_iff_fits`: the sequences in which the stores agree.
-/

namespace ChatmanEcosystem.Store

open Common

namespace Cells

variable {overflowChecks : Bool} {cells : Cells} {answers : List (StoreCall × Answer)}

/-- The accepted puts, with the numbers of the versions. -/
def log (answers : List (StoreCall × Answer)) : List (String × Option ℕ) :=
  (accepted answers).map fun put => (put.1, expectedNumber put.2)

/-- The cells are what the accepted puts made of them. -/
structure Kept (cells : Cells) (answers : List (StoreCall × Answer)) : Prop where
  placed : cells.Placed
  recorded : Recorded cells.versionAt (log answers)

/-- The version of a key is the number of its accepted puts, and no two of them expected the same
version. -/
structure Counted (cells : Cells) (answers : List (StoreCall × Answer)) : Prop where
  version : ∀ key, (cells key).elim 0 (·.version.toInt) =
    (((accepted answers).filter (·.1 = key)).length : ℤ)
  once : (accepted answers).Nodup

theorem kept_empty : Kept (fun _ => none) [] where
  placed := placed_empty
  recorded := recorded_nil

theorem Kept.counted (h : cells.Kept answers) : cells.Counted answers where
  version key := by
    have hlength : ((log answers).filter (·.1 = key)).length =
        ((accepted answers).filter (·.1 = key)).length := by
      rw [log, List.filter_map, List.length_map]
      rfl
    rw [← hlength, h.recorded.length key, versionAt]
    cases hcell : cells key with
    | none => rfl
    | some current =>
      have hpos := toInt_pos (h.placed.version key current hcell)
      rw [Option.elim_some, Option.elim_some]
      omega
  once := h.recorded.nodup.of_map _

theorem log_append (more : List (StoreCall × Answer)) :
    log (answers ++ more) = log answers ++ log more := by
  rw [log, accepted, List.filterMap_append, List.map_append]
  rfl

/-- A call that fits keeps the cells what the accepted puts made of them. -/
theorem Kept.call (h : cells.Kept answers) {call : StoreCall}
    (hfits : cells.Fits overflowChecks call) :
    (cells.call overflowChecks call).2.Kept
      (answers ++ [(call, (cells.call overflowChecks call).1)]) := by
  cases call with
  | get key =>
    refine ⟨h.placed, ?_⟩
    rw [log_append]
    have hlog : log [(StoreCall.get key, (cells.call overflowChecks (.get key)).1)] = [] := rfl
    rw [hlog, List.append_nil]
    exact h.recorded
  | put record expected =>
    rw [Cells.call]
    rcases put_cases h.placed hfits with ⟨stored, after, hput, hswaps⟩ | ⟨answer, hput, hrefused⟩
    · rw [hput]
      refine ⟨hswaps.placed, ?_⟩
      have hlog : log [(.put record expected, .stored stored)] =
          [(record.key, expectation (cells.versionAt record.key))] := by
        rw [← hswaps.expects]
        rfl
      rw [log_append, hlog]
      exact h.recorded.accept hswaps.key fun other hother => hswaps.versionAt_others hother
    · rw [hput]
      refine ⟨h.placed, ?_⟩
      have hlog : log [(StoreCall.put record expected, answer)] = [] := by
        rw [log, accepted, List.filterMap_cons, accepted?_of_refused hrefused]
        rfl
      rw [log_append, hlog, List.append_nil]
      exact h.recorded

end Cells

/-- Both stores, and the answers of both to the calls they got. -/
structure Differential where
  memory : MemoryStore
  sqlite : SqliteStore
  exchanges : List (StoreCall × Answer × Answer)

namespace Differential

def start : Differential where
  memory := .empty
  sqlite := .inMemory
  exchanges := []

variable (overflowChecks : Bool) (texts : ConstraintTexts)

/-- Both stores get the call. -/
def next (stores : Differential) (call : StoreCall) : Differential where
  memory := (stores.memory.call overflowChecks call).2
  sqlite := (stores.sqlite.call overflowChecks texts call).2
  exchanges := stores.exchanges ++ [(call, (stores.memory.call overflowChecks call).1,
    (stores.sqlite.call overflowChecks texts call).1)]

def memoryAnswers (stores : Differential) : List (StoreCall × Answer) :=
  stores.exchanges.map fun exchange => (exchange.1, exchange.2.1)

def sqliteAnswers (stores : Differential) : List (StoreCall × Answer) :=
  stores.exchanges.map fun exchange => (exchange.1, exchange.2.2)

/-- The stores gave the same answers, and both count their puts. -/
structure Agree (stores : Differential) : Prop where
  answers : ∀ exchange ∈ stores.exchanges, exchange.2.1 = exchange.2.2
  memory : stores.memory.cells.Counted stores.memoryAnswers
  sqlite : stores.sqlite.cells.Counted stores.sqliteAnswers

/-- The stores are alike. -/
structure Alike (stores : Differential) : Prop where
  answers : ∀ exchange ∈ stores.exchanges, exchange.2.1 = exchange.2.2
  cells : stores.sqlite.cells = stores.memory.cells
  kept : stores.memory.cells.Kept stores.memoryAnswers

variable {overflowChecks texts} {stores : Differential} {call : StoreCall}

theorem alike_start : Alike start where
  answers := nofun
  cells := by
    funext key
    exact Std.ExtTreeMap.getElem?_empty.symm
  kept := by
    have hcells : start.memory.cells = fun _ => none := by
      funext key
      exact Std.ExtTreeMap.getElem?_empty
    rw [hcells]
    exact Cells.kept_empty

theorem Alike.agree (h : stores.Alike) : stores.Agree where
  answers := h.answers
  memory := h.kept.counted
  sqlite := by
    have hanswers : stores.sqliteAnswers = stores.memoryAnswers :=
      List.map_congr_left fun exchange hexchange => by rw [h.answers exchange hexchange]
    rw [h.cells, hanswers]
    exact h.kept.counted

/-- A call that fits leaves the stores alike. -/
theorem Alike.next (h : stores.Alike) (hfits : stores.memory.cells.Fits overflowChecks call) :
    (stores.next overflowChecks texts call).Alike := by
  obtain ⟨hanswer, hcells⟩ := stores.memory.call_eq overflowChecks call
  have hplaced : stores.sqlite.cells.Placed := by
    rw [h.cells]
    exact h.kept.placed
  have hsame : stores.sqlite.cells.Fits overflowChecks call := by
    rw [h.cells]
    exact hfits
  obtain ⟨hanswer', hcells'⟩ := SqliteStore.call_eq texts hplaced hsame
  rw [h.cells] at hanswer' hcells'
  refine ⟨fun exchange hexchange => ?_, hcells'.trans hcells.symm, ?_⟩
  · rcases List.mem_append.mp hexchange with hbefore | hnew
    · exact h.answers exchange hbefore
    · rw [List.mem_singleton.mp hnew]
      exact hanswer.trans hanswer'.symm
  · show (stores.memory.call overflowChecks call).2.cells.Kept _
    rw [hcells, memoryAnswers, Differential.next, List.map_append]
    show (stores.memory.cells.call overflowChecks call).2.Kept
      (stores.memoryAnswers ++ [(call, (stores.memory.call overflowChecks call).1)])
    rw [hanswer]
    exact h.kept.call hfits

/-- A call that does not fit is answered otherwise by either store. -/
theorem Alike.fits (h : stores.Alike) (hagree : (stores.next overflowChecks texts call).Agree) :
    stores.memory.cells.Fits overflowChecks call := by
  by_contra hfits
  have hsame : ¬ stores.sqlite.cells.Fits overflowChecks call := by
    rw [h.cells]
    exact hfits
  have hrefused := SqliteStore.call_of_not_fits texts hsame
  obtain ⟨hanswer, -⟩ := stores.memory.call_eq overflowChecks call
  have hequal := hagree.answers _ (List.mem_append_right _ (List.mem_singleton_self _))
  rw [hrefused, hanswer] at hequal
  cases call with
  | get key => exact hfits trivial
  | put record expected =>
    simp only [Cells.call, Cells.put] at hequal
    split_ifs at hequal
    · split at hequal <;> cases hequal
    · cases hequal

/-- The stores agree for the calls, and count their puts, exactly when every call fits. -/
theorem agree_iff_fits (calls : List StoreCall) :
    Always (next overflowChecks texts) Agree start calls ↔
      Along (next overflowChecks texts)
        (fun stores call => stores.memory.cells.Fits overflowChecks call) start calls :=
  always_iff_along_of (fun _ h => h.agree) (fun _ _ h hfits => h.next hfits)
    (fun _ _ h hagree => h.fits hagree) alike_start

/-! ## A key that is put to the end of its versions -/

/-- The `n`-th put of a key. -/
def fixturePut (n : ℕ) : StoreCall :=
  .put { key := "standing:crown", value := "ALIVE", version := 0 }
    (if n = 0 then none else some (Int64.ofNat n))

def fixturePuts (n : ℕ) : List StoreCall := (List.range n).map fixturePut

theorem fixturePuts_succ (n : ℕ) : fixturePuts (n + 1) = fixturePuts n ++ [fixturePut n] := by
  rw [fixturePuts, List.range_succ, List.map_append]
  rfl

variable (overflowChecks texts) in
/-- The record after the first puts. -/
theorem cells_fixturePuts (n : ℕ) (hn : n < 2 ^ 63) :
    (run (next overflowChecks texts) start (fixturePuts n)).memory.cells "standing:crown" =
      if n = 0 then none else
        some { key := "standing:crown", value := "ALIVE", version := Int64.ofNat n } := by
  induction n with
  | zero => exact Std.ExtTreeMap.getElem?_empty
  | succ n ih =>
    have hprevious := ih (by omega)
    rw [fixturePuts_succ, run_append, run_cons, run_nil]
    generalize run (next overflowChecks texts) start (fixturePuts n) = stores at hprevious ⊢
    show (stores.memory.call overflowChecks (fixturePut n)).2.cells _ = _
    rw [(stores.memory.call_eq overflowChecks (fixturePut n)).2, fixturePut, Cells.call, Cells.put,
      hprevious, if_neg (Nat.succ_ne_zero n)]
    by_cases hzero : n = 0
    · subst hzero
      simp
    · have hmax : Int64.ofNat n ≠ Int64.maxValue := by
        intro hmax
        have hint := congrArg Int64.toInt hmax
        rw [Int64.toInt_ofNat_of_lt (by omega), Int64.toInt_maxValue] at hint
        omega
      simp [hzero, succVersion, hmax, Int64.ofNat_add]

/-- The stores do not agree for all the puts if the last one wraps its version. -/
theorem fixturePuts_part {m : ℕ} (hm : m = 2 ^ 63) :
    ¬ Always (next false texts) Agree start (fixturePuts m) := by
  intro h
  obtain ⟨n, rfl⟩ : ∃ n, m = n + 1 := ⟨m - 1, by omega⟩
  have hn : n = 2 ^ 63 - 1 := by omega
  have hlast := along_iff.mp ((agree_iff_fits _).mp h) _ _ _ (fixturePuts_succ n)
  have hcell := cells_fixturePuts false texts n (by omega)
  rw [if_neg (by omega)] at hcell
  have hmax : Int64.ofNat n = Int64.maxValue := by
    rw [hn]
    rfl
  have hchecks := hlast _ hcell (if_neg (by omega)) hmax
  cases hchecks

end Differential

end ChatmanEcosystem.Store
