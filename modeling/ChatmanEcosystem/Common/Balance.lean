import ChatmanEcosystem.Common.Concurrent
import Mathlib.Algebra.Group.Action.Option
import Mathlib.Algebra.Order.BigOperators.Group.List
import Mathlib.Algebra.Order.Group.Nat
import Mathlib.Tactic.Abel
import Std.Data.ExtTreeMap

/-!
# Balances of concurrent calls

Something is read from the shared state, and each call accounts for a part of it
by where it stands.

* `total`: what the values of a store weigh together.
* `System.tally`: what the calls account for together.
* `Program.Accounts`: an event changes the reading by what the calls account for more.
* `Balanced`: the reading is what it was at the start, and what the calls account for.

A reading is of any type on which the entries of the calls act. `accounts_next` asks only
of the call that goes on that its entry follows the reading; `Balanced.next` is the step
of the invariant.
-/

namespace ChatmanEcosystem.Common

/-! ## Totals over a store -/

section Total

variable {κ β M : Type*} {cmp : κ → κ → Ordering} [Std.TransCmp cmp] [Std.LawfulEqCmp cmp]

/-- What the values of a store weigh together. -/
def total [AddMonoid M] (weight : β → M) (store : Std.ExtTreeMap κ β cmp) : M :=
  (store.toList.map fun entry => weight entry.2).sum

theorem nodup_toList (store : Std.ExtTreeMap κ β cmp) : store.toList.Nodup :=
  Std.ExtTreeMap.distinct_keys_toList.imp fun hcmp heq =>
    hcmp (by rw [heq]; exact Std.ReflCmp.compare_self)

theorem toList_insert_perm [DecidableEq κ] (store : Std.ExtTreeMap κ β cmp) (key : κ) (value : β) :
    (store.insert key value).toList.Perm
      ((key, value) :: store.toList.filter fun entry => entry.1 ≠ key) := by
  have hnodup : ((key, value) :: store.toList.filter fun entry => entry.1 ≠ key).Nodup :=
    List.nodup_cons.mpr ⟨by simp, (nodup_toList store).filter _⟩
  refine (List.perm_ext_iff_of_nodup (nodup_toList _) hnodup).mpr fun ⟨other, found⟩ => ?_
  rw [Std.ExtTreeMap.mem_toList_iff_getElem?_eq_some, Std.ExtTreeMap.getElem?_insert, List.mem_cons,
    List.mem_filter, Std.ExtTreeMap.mem_toList_iff_getElem?_eq_some]
  by_cases hkey : key = other
  · subst hkey
    simp [eq_comm (a := value)]
  · simp [hkey, Ne.symm hkey]

variable {store : Std.ExtTreeMap κ β cmp} {key : κ}

theorem toList_insert_perm_of_notMem (h : store[key]? = none) (value : β) :
    (store.insert key value).toList.Perm ((key, value) :: store.toList) := by
  classical
  have hfilter : store.toList.filter (fun entry => entry.1 ≠ key) = store.toList := by
    refine List.filter_eq_self.mpr fun entry hentry => decide_eq_true fun hkey => ?_
    rw [← hkey, Std.ExtTreeMap.mem_toList_iff_getElem?_eq_some.mp hentry] at h
    cases h
  have hperm := toList_insert_perm store key value
  rwa [hfilter] at hperm

variable {weight : β → M} {value : β}

/-- A value is stored under a new key. -/
theorem total_insert_of_notMem [AddCommMonoid M] (h : store[key]? = none) :
    total weight (store.insert key value) = weight value + total weight store := by
  have hperm := toList_insert_perm_of_notMem h value
  exact (hperm.map fun entry => weight entry.2).sum_eq

/-- A value is replaced. -/
theorem total_insert_of_getElem? [AddCommMonoid M] {old : β} (h : store[key]? = some old) :
    total weight (store.insert key value) + weight old = total weight store + weight value := by
  classical
  have hold : store.insert key old = store := by
    refine Std.ExtTreeMap.ext_getElem? fun other => ?_
    rw [Std.ExtTreeMap.getElem?_insert]
    split_ifs with hkey
    · rw [← Std.LawfulEqCmp.compare_eq_iff_eq.mp hkey, h]
    · rfl
  have hnew := ((toList_insert_perm store key value).map fun entry => weight entry.2).sum_eq
  have hsame := ((toList_insert_perm store key old).map fun entry => weight entry.2).sum_eq
  rw [hold] at hsame
  rw [List.map_cons, List.sum_cons] at hnew hsame
  rw [total, total, hnew, hsame]
  abel

/-- A value weighs at most what all weigh together. -/
theorem le_total {weight : β → ℕ} (h : store[key]? = some value) :
    weight value ≤ total weight store := by
  refine List.single_le_sum (fun _ _ => Nat.zero_le _) _ ?_
  exact List.mem_map.mpr ⟨(key, value), Std.ExtTreeMap.mem_toList_iff_getElem?_eq_some.mpr h, rfl⟩

end Total

namespace Concurrent

variable {σ φ κ α μ G X : Type*}

/-! ## Tallies -/

/-- What the calls account for together. -/
def System.tally [AddMonoid G] (entry : φ → G) (system : System σ φ) : G :=
  (system.calls.map entry).sum

section Tally

variable {system : System σ φ}

theorem tally_enter [AddMonoid G] {entry : φ → G} (shared : σ) (new : φ) :
    System.tally entry { shared, calls := system.calls ++ [new] } =
      system.tally entry + entry new := by
  simp [System.tally]

theorem sum_set_add [AddCommMonoid G] {values : List G} {i : ℕ} {old : G}
    (h : values[i]? = some old) (new : G) : (values.set i new).sum + old = values.sum + new := by
  induction values generalizing i with
  | nil => cases h
  | cons value rest ih =>
    cases i with
    | zero =>
      obtain rfl := Option.some.inj h
      rw [List.set_cons_zero, List.sum_cons, List.sum_cons]
      abel
    | succ i =>
      have hrest := ih (List.getElem?_cons_succ.symm.trans h)
      rw [List.set_cons_succ, List.sum_cons, List.sum_cons, add_assoc, hrest, add_assoc]

theorem tally_resume_add [AddCommMonoid G] {entry : φ → G} {i : ℕ} {phase : φ}
    (hcall : system.calls[i]? = some phase) (shared : σ) (new : φ) :
    System.tally entry { shared, calls := system.calls.set i new } + entry phase =
      system.tally entry + entry new := by
  have hentry : (system.calls.map entry)[i]? = some (entry phase) := by
    rw [List.getElem?_map, hcall, Option.map_some]
  rw [System.tally, List.map_set, sum_set_add hentry, System.tally]

theorem tally_resume [AddCommGroup G] {entry : φ → G} {i : ℕ} {phase : φ}
    (hcall : system.calls[i]? = some phase) (shared : σ) (new : φ) :
    System.tally entry { shared, calls := system.calls.set i new } =
      system.tally entry + (entry new - entry phase) := by
  rw [← add_sub_assoc, ← tally_resume_add hcall shared new, add_sub_cancel_right]

/-- Calls that account for nothing. -/
theorem tally_eq_zero [AddMonoid G] {entry : φ → G} (h : ∀ call ∈ system.calls, entry call = 0) :
    system.tally entry = 0 :=
  List.sum_eq_zero fun value hvalue => by
    obtain ⟨call, hcall, rfl⟩ := List.mem_map.mp hvalue
    exact h call hcall

/-- A homomorphism reads a tally off another. -/
theorem map_tally {H : Type*} [AddMonoid G] [AddMonoid H] (f : G →+ H) (entry : φ → G)
    (system : System σ φ) : f (system.tally entry) = system.tally fun call => f (entry call) := by
  rw [System.tally, map_list_sum, List.map_map]
  rfl

theorem tally_le_tally {entry bound : φ → ℕ} (h : ∀ call, entry call ≤ bound call) :
    system.tally entry ≤ system.tally bound :=
  List.sum_le_sum fun call _ => h call

end Tally

/-! ## Readings -/

/-- What acts on values acts on values that may be absent. -/
instance optionAddAction [AddMonoid G] [AddAction G X] : AddAction G (Option X) where
  zero_vadd value := by
    cases value with
    | none => rfl
    | some value => exact congrArg some (zero_vadd G value)
  add_vadd a b value := by
    cases value with
    | none => rfl
    | some value => exact congrArg some (add_vadd a b value)

section Reading

variable [AddCommGroup G] [AddAction G X] {program : Program σ φ κ α μ} {reading : σ → X}
  {entry : φ → G} {system : System σ φ} {event : Event κ α μ}

/-- The event changes what is read by what the calls account for more. -/
def Program.Accounts (program : Program σ φ κ α μ) (reading : σ → X) (entry : φ → G)
    (system : System σ φ) (event : Event κ α μ) : Prop :=
  reading (program.next system event).shared =
    ((program.next system event).tally entry - system.tally entry) +ᵥ reading system.shared

instance [DecidableEq X] : Decidable (program.Accounts reading entry system event) := by
  unfold Program.Accounts; infer_instance

/-- It does if the entry of the one call that is made or goes on follows the reading. -/
theorem accounts_next
    (henter : ∀ request, event = .call request →
      reading (program.enter system.shared request).2 =
        entry (program.enter system.shared request).1 +ᵥ reading system.shared)
    (hresume : ∀ i answer phase after, event = .answer i answer → system.calls[i]? = some phase →
      program.resume system.shared phase answer = some after →
      reading after.2 = (entry after.1 - entry phase) +ᵥ reading system.shared)
    (hmove : ∀ change, event = .move change →
      reading (program.move system.shared change) = reading system.shared) :
    program.Accounts reading entry system event := by
  unfold Program.Accounts
  cases event with
  | call request =>
    have htally : (program.next system (.call request)).tally entry = _ := tally_enter _ _
    rw [htally, add_sub_cancel_left]
    exact henter request rfl
  | answer i answer =>
    rcases program.next_answer_cases system i answer with hnext | ⟨phase, after, hcall, hgo, hnext⟩
    · rw [hnext, sub_self, zero_vadd]
    · rw [hnext, tally_resume hcall, add_sub_cancel_left]
      exact hresume i answer phase after rfl hcall hgo
  | move change =>
    have htally : (program.next system (.move change)).tally entry = system.tally entry := rfl
    rw [htally, sub_self, zero_vadd]
    exact hmove change rfl

/-- What is read is what was read at the start, and what the calls account for. -/
def Balanced (reading : σ → X) (entry : φ → G) (start : X) (system : System σ φ) : Prop :=
  reading system.shared = system.tally entry +ᵥ start

theorem Balanced.next {start : X} (h : Balanced reading entry start system)
    (haccounts : program.Accounts reading entry system event) :
    Balanced reading entry start (program.next system event) := by
  unfold Balanced
  rw [show reading _ = _ from haccounts, show reading system.shared = _ from h, vadd_vadd,
    sub_add_cancel]

end Reading

end Concurrent

end ChatmanEcosystem.Common
