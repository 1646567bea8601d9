import ChatmanEcosystem.Governor.Runtime

/-!
# How often an idempotency key is run

Any interleaving of any number of `execute` calls. The look-up of the key and
the insertion of the result are separate steps around the operation, and a
timeout leaves no record, so nothing in the code keeps a second call from
running an operation that another call is running or has left ambiguous.

Results:

* `inv_next`: what a step preserves when it is `Exclusive`.
* `atMostOnce_of_exclusive`: in every run whose look-ups are exclusive, a key is
  run successfully at most once, every call returns the recorded result, a
  refusal or its own operation's failure, and no operation starts after a
  timeout of its key.
-/

namespace ChatmanEcosystem.Governor

open Common Core

/-! ## The property -/

namespace Call

/-- The operation of the call completed successfully. -/
def Succeeded (call : Call) : Prop := ∃ result, call.answer = some (.done (.ok result))

/-- The call ended ambiguous. -/
def Ambiguous (call : Call) : Prop := call.answer = some .timeout

instance (call : Call) : Decidable call.Ambiguous :=
  inferInstanceAs (Decidable (call.answer = some .timeout))

/-- The other call leaves the key of this one alone: it does not wait for its operation
or for the lock to insert its result, and did not end ambiguous. -/
def Clear (call other : Call) : Prop :=
  other.key = call.key → other.phase.pending = false ∧ ¬ other.Ambiguous

instance (call other : Call) : Decidable (call.Clear other) := by
  unfold Clear
  infer_instance

/-- The call may return `outcome`: the recorded result, a refusal, or what its own
operation failed with. -/
def MayReturn (completed : Std.ExtTreeMap String String) (call : Call)
    (outcome : Except Error String) : Prop :=
  (∃ result, outcome = .ok result ∧ completed[call.key]? = some result) ∨
  (∃ detail, outcome = .error (.refused detail)) ∨
  ∃ error, call.answer = some (.done (.error error)) ∧ outcome = .error error

end Call

namespace System

/-- At most one call of every key has completed its operation successfully, and
calls have returned only what they may. -/
structure AtMostOnce (system : System) : Prop where
  once : ∀ (i j : ℕ) a b, i ≠ j → system.calls[i]? = some a → system.calls[j]? = some b →
    a.key = b.key → ¬ (a.Succeeded ∧ b.Succeeded)
  returns : ∀ (i : ℕ) call outcome, system.calls[i]? = some call →
    call.phase = .returned outcome → call.MayReturn system.completed outcome

/-- The step starts no operation of a key for which some call ended ambiguous. -/
def NoRetry (system : System) (event : Event) : Prop :=
  ∀ (i j : ℕ) ended call, system.calls[i]? = some ended → ended.Ambiguous →
    (system.next event).calls[j]? = some call → call.key = ended.key → call.phase = .operating →
    ∃ before, system.calls[j]? = some before ∧ before.phase = .operating

/-- If call `i` is about to look up a key that has no record, then every other call
leaves this key alone. -/
def ExclusiveLookup (system : System) (i : ℕ) : Prop :=
  ∀ call ∈ system.calls[i]?, call.phase = .lookup → system.completed[call.key]? = none →
    ∀ j < system.calls.length, j ≠ i → ∀ other ∈ system.calls[j]?, call.Clear other

instance (system : System) (i : ℕ) : Decidable (system.ExclusiveLookup i) := by
  unfold ExclusiveLookup
  infer_instance

/-- The step is no look-up, or an exclusive one. -/
def Exclusive (system : System) : Event → Prop
  | .lock i => system.ExclusiveLookup i
  | .execute .. | .answer .. => True

instance (system : System) : (event : Event) → Decidable (system.Exclusive event)
  | .lock i => inferInstanceAs (Decidable (system.ExclusiveLookup i))
  | .execute .. => .isTrue trivial
  | .answer .. => .isTrue trivial

end System

/-! ## The invariant -/

namespace Call

/-- What the operation answered agrees with where the call stands and with what is
recorded. -/
def Consistent (completed : Std.ExtTreeMap String String) (call : Call) : Prop :=
  match call.phase with
  | .lookup | .operating => call.answer = none
  | .storing result => call.answer = some (.done (.ok result))
  | .returned outcome =>
    match call.answer with
    | none => (∃ detail, outcome = .error (.refused detail)) ∨
        ∃ result, outcome = .ok result ∧ completed[call.key]? = some result
    | some (.done (.ok result)) => outcome = .ok result ∧ completed[call.key]? = some result
    | some (.done (.error error)) => outcome = .error error
    | some .timeout => ∃ detail, outcome = .error (.refused detail)

/-- The call has run its key's operation, is running it or has left it ambiguous. -/
def Holds (call : Call) : Prop := call.phase = .operating ∨ call.Succeeded ∨ call.Ambiguous

variable {completed completed' : Std.ExtTreeMap String String} {call : Call}

theorem execute_consistent (job : GovernorJob) (granted : Authority) :
    (execute job granted).Consistent completed := by
  unfold execute
  split_ifs
  · exact .inl ⟨_, rfl⟩
  · exact .inl ⟨_, rfl⟩
  · rfl

theorem execute_phase (job : GovernorJob) (granted : Authority) :
    (execute job granted).phase ≠ .operating := by
  unfold execute
  split_ifs <;> exact nofun

theorem execute_not_holds (job : GovernorJob) (granted : Authority) :
    ¬ (execute job granted).Holds := by
  have hanswer : (execute job granted).answer = none := by
    unfold execute
    split_ifs <;> rfl
  rintro (h | ⟨_, h⟩ | h)
  · exact execute_phase job granted h
  · rw [hanswer] at h
    cases h
  · rw [Ambiguous, hanswer] at h
    cases h

@[simp] theorem answered_key (call : Call) (answer : Answer) :
    (call.answered answer).key = call.key := by
  unfold answered
  split <;> rfl

theorem answered_phase (call : Call) (answer : Answer) :
    (call.answered answer).phase ≠ .operating := by
  unfold answered
  split <;> exact nofun

/-- A call stays consistent when its key's record stays. -/
theorem Consistent.mono (h : call.Consistent completed)
    (hkeep : ∀ result, completed[call.key]? = some result → completed'[call.key]? = some result) :
    call.Consistent completed' := by
  unfold Consistent at h ⊢
  cases hphase : call.phase with
  | lookup => rw [hphase] at h; exact h
  | operating => rw [hphase] at h; exact h
  | storing result => rw [hphase] at h; exact h
  | returned outcome =>
    simp only [hphase] at h ⊢
    split
    · next hanswer =>
      simp only [hanswer] at h
      exact h.imp_right fun ⟨result, hok, hrecord⟩ => ⟨result, hok, hkeep result hrecord⟩
    · next hanswer =>
      simp only [hanswer] at h
      exact ⟨h.1, hkeep _ h.2⟩
    · next hanswer =>
      simp only [hanswer] at h
      exact h
    · next hanswer =>
      simp only [hanswer] at h
      exact h

/-- A consistent call has returned only what it may. -/
theorem Consistent.mayReturn {outcome : Except Error String} (h : call.Consistent completed)
    (hphase : call.phase = .returned outcome) : call.MayReturn completed outcome := by
  unfold Consistent at h
  simp only [hphase] at h
  split at h
  · rcases h with hrefused | hreplayed
    · exact .inr (.inl hrefused)
    · exact .inl hreplayed
  · exact .inl ⟨_, h⟩
  · next error hanswer => exact .inr (.inr ⟨error, hanswer, h⟩)
  · exact .inr (.inl h)

/-- A call whose operation succeeded is about to insert the result or has returned it. -/
theorem Consistent.succeeded {result : String} (h : call.Consistent completed)
    (hanswer : call.answer = some (.done (.ok result))) :
    call.phase = .storing result ∨
      call.phase = .returned (.ok result) ∧ completed[call.key]? = some result := by
  unfold Consistent at h
  cases hphase : call.phase with
  | lookup | operating =>
    simp only [hphase, hanswer, reduceCtorEq] at h
  | storing stored =>
    simp only [hphase, hanswer, Option.some.injEq, Answer.done.injEq, Except.ok.injEq] at h
    exact .inl (by rw [h])
  | returned outcome =>
    simp only [hphase, hanswer] at h
    exact .inr ⟨by rw [h.1], h.2⟩

end Call

namespace System

/-- The invariant of exclusive runs: no two calls hold the same key, and every
record was made by a call that returned it. -/
structure Inv (system : System) : Prop where
  consistent : ∀ (i : ℕ) call, system.calls[i]? = some call → call.Consistent system.completed
  single : ∀ (i j : ℕ) a b, i ≠ j → system.calls[i]? = some a → system.calls[j]? = some b →
    ¬ (a.key = b.key ∧ a.Holds ∧ b.Holds)
  recorded : ∀ key result, system.completed[key]? = some result →
    ∃ (i : ℕ) (call : Call), system.calls[i]? = some call ∧ call.key = key ∧ call.Succeeded ∧
      call.phase = .returned (.ok result)

theorem inv_default : System.default.Inv where
  consistent := by simp [System.default]
  single := by simp [System.default]
  recorded := by simp [System.default]

variable {system : System}

theorem Inv.atMostOnce (h : system.Inv) : system.AtMostOnce where
  once i j a b hij ha hb hkey hboth :=
    h.single i j a b hij ha hb ⟨hkey, .inr (.inl hboth.1), .inr (.inl hboth.2)⟩
  returns i call _ hcall hphase := (h.consistent i call hcall).mayReturn hphase

/-! ## Steps -/

variable {i : ℕ} {call new : Call}

/-- A call goes on without a new record. -/
theorem Inv.goesOn (h : system.Inv) (hcall : system.calls[i]? = some call)
    (hphase : ∀ outcome, call.phase ≠ .returned outcome)
    (hconsistent : new.Consistent system.completed)
    (hsingle : ∀ (j : ℕ) other, j ≠ i → system.calls[j]? = some other →
      ¬ (new.key = other.key ∧ new.Holds ∧ other.Holds)) : (system.goesOn i new).Inv where
  consistent := forall_set hconsistent fun j other _ hother => h.consistent j other hother
  single := pairwise_set (fun a b hab hba => hab ⟨hba.1.symm, hba.2.2, hba.2.1⟩) h.single hsingle
  recorded := by
    intro key result hrecord
    obtain ⟨j, other, hother, hkey, hsucceeded, hreturned⟩ := h.recorded key result hrecord
    have hj : j ≠ i := by
      rintro rfl
      rw [hcall] at hother
      obtain rfl := Option.some.inj hother
      exact hphase _ hreturned
    refine ⟨j, other, ?_, hkey, hsucceeded, hreturned⟩
    rw [System.goesOn, List.getElem?_set_ne (Ne.symm hj)]
    exact hother

theorem inv_execute (h : system.Inv) (job : GovernorJob) (granted : Authority) :
    ({ system with calls := system.calls ++ [Call.execute job granted] } : System).Inv where
  consistent := forall_concat (Call.execute_consistent job granted) h.consistent
  single := by
    refine pairwise_concat (fun a b hab hba => hab ⟨hba.1.symm, hba.2.2, hba.2.1⟩) h.single ?_
    intro j other _ hboth
    exact Call.execute_not_holds job granted hboth.2.1
  recorded := by
    intro key result hrecord
    obtain ⟨j, other, hother, hrest⟩ := h.recorded key result hrecord
    have hlt : j < system.calls.length := (List.getElem?_eq_some_iff.mp hother).1
    exact ⟨j, other, by rw [List.getElem?_append_left hlt, hother], hrest⟩

theorem inv_replay (h : system.Inv) {result : String} (hcall : system.calls[i]? = some call)
    (hphase : call.phase = .lookup) (hrecord : system.completed[call.key]? = some result) :
    (system.goesOn i (call.replay result)).Inv := by
  have hanswer : call.answer = none := by
    have hconsistent := h.consistent i call hcall
    simpa only [Call.Consistent, hphase] using hconsistent
  refine h.goesOn hcall (by rw [hphase]; exact nofun) ?_ ?_
  · simp only [Call.Consistent, Call.replay, hanswer]
    exact .inr ⟨result, rfl, hrecord⟩
  · rintro j other - - ⟨-, hholds, -⟩
    simp [Call.Holds, Call.Succeeded, Call.Ambiguous, Call.replay, hanswer] at hholds

theorem inv_operate (h : system.Inv) (hcall : system.calls[i]? = some call)
    (hphase : call.phase = .lookup) (hrecord : system.completed[call.key]? = none)
    (hexclusive : system.Exclusive (.lock i)) : (system.goesOn i call.operate).Inv := by
  have hanswer : call.answer = none := by
    have hconsistent := h.consistent i call hcall
    simpa only [Call.Consistent, hphase] using hconsistent
  refine h.goesOn hcall (by rw [hphase]; exact nofun) hanswer ?_
  rintro j other hj hother ⟨hkey, -, hholds⟩
  obtain ⟨hpending, hambiguous⟩ := hexclusive call hcall hphase hrecord j
    (List.getElem?_eq_some_iff.mp hother).1 hj other hother hkey.symm
  rcases hholds with hphase' | ⟨result, hdone⟩ | hended
  · rw [hphase'] at hpending
    cases hpending
  · rcases (h.consistent j other hother).succeeded hdone with hphase' | ⟨-, hstored⟩
    · rw [hphase'] at hpending
      cases hpending
    · -- its result would be on record
      rw [← hkey] at hstored
      rw [show call.operate.key = call.key from rfl, hrecord] at hstored
      cases hstored
  · exact hambiguous hended

theorem inv_answered (h : system.Inv) (hcall : system.calls[i]? = some call)
    (hphase : call.phase = .operating) (answer : Answer) :
    (system.goesOn i (call.answered answer)).Inv := by
  refine h.goesOn hcall (by rw [hphase]; exact nofun) ?_ ?_
  · cases answer with
    | timeout => exact ⟨_, rfl⟩
    | done outcome =>
      cases outcome with
      | ok result => rfl
      | error error => rfl
  · rintro j other hj hother ⟨hkey, -, hholds⟩
    rw [Call.answered_key] at hkey
    exact h.single i j call other (Ne.symm hj) hcall hother ⟨hkey, .inl hphase, hholds⟩

theorem inv_stored (h : system.Inv) {result : String} (hcall : system.calls[i]? = some call)
    (hphase : call.phase = .storing result) :
    ({ system with
      completed := system.completed.insert call.key result
      calls := system.calls.set i (call.stored result) } : System).Inv := by
  have hanswer : call.answer = some (.done (.ok result)) := by
    have hconsistent := h.consistent i call hcall
    simpa only [Call.Consistent, hphase] using hconsistent
  have hholds : call.Holds := .inr (.inl ⟨result, hanswer⟩)
  -- whoever made a record for the key would hold it too
  have hnone : system.completed[call.key]? = none := by
    by_contra hne
    obtain ⟨earlier, hrecord⟩ := Option.ne_none_iff_exists'.mp hne
    obtain ⟨j, other, hother, hkey, hsucceeded, hreturned⟩ := h.recorded _ _ hrecord
    have hj : j ≠ i := by
      rintro rfl
      rw [hcall] at hother
      obtain rfl := Option.some.inj hother
      rw [hphase] at hreturned
      cases hreturned
    exact h.single i j call other (Ne.symm hj) hcall hother
      ⟨hkey.symm, hholds, .inr (.inl hsucceeded)⟩
  refine ⟨?_, ?_, ?_⟩
  · refine forall_set ?_ fun j other _ hother => ?_
    · simp only [Call.Consistent, Call.stored, hanswer]
      exact ⟨trivial, Std.ExtTreeMap.getElem?_insert_self⟩
    · refine (h.consistent j other hother).mono fun earlier hrecord => ?_
      have hne : call.key ≠ other.key := by
        intro heq
        rw [← heq, hnone] at hrecord
        cases hrecord
      simp [Std.ExtTreeMap.getElem?_insert, hne, hrecord]
  · refine pairwise_set (fun a b hab hba => hab ⟨hba.1.symm, hba.2.2, hba.2.1⟩) h.single ?_
    rintro j other hj hother ⟨hkey, -, hother'⟩
    exact h.single i j call other (Ne.symm hj) hcall hother ⟨hkey, hholds, hother'⟩
  · intro key stored hrecord
    have hlt : i < system.calls.length := (List.getElem?_eq_some_iff.mp hcall).1
    by_cases hkey : call.key = key
    · subst hkey
      rw [Std.ExtTreeMap.getElem?_insert_self] at hrecord
      obtain rfl := Option.some.inj hrecord
      exact ⟨i, call.stored result, by simp [hlt], rfl, ⟨result, hanswer⟩, rfl⟩
    · rw [Std.ExtTreeMap.getElem?_insert, if_neg (by simpa using hkey)] at hrecord
      obtain ⟨j, other, hother, hkey', hrest⟩ := h.recorded key stored hrecord
      have hj : i ≠ j := by
        rintro rfl
        rw [hcall] at hother
        exact hkey ((congrArg Call.key (Option.some.inj hother)).trans hkey')
      exact ⟨j, other, by rw [List.getElem?_set_ne hj, hother], hkey', hrest⟩

/-- An exclusive step preserves the invariant. -/
theorem inv_next (event : Event) (h : system.Inv) (hexclusive : system.Exclusive event) :
    (system.next event).Inv := by
  rcases next_cases system event with hnext | ⟨job, granted, -, hnext⟩ | ⟨i, call, hcall, hstep⟩
  · rw [hnext]
    exact h
  · rw [hnext]
    exact inv_execute h job granted
  · rcases hstep with ⟨result, hphase, hrecord, hnext⟩ | ⟨rfl, hphase, hrecord, hnext⟩ |
      ⟨answer, hphase, hnext⟩ | ⟨result, hphase, hnext⟩
    · rw [hnext]
      exact inv_replay h hcall hphase hrecord
    · rw [hnext]
      exact inv_operate h hcall hphase hrecord hexclusive
    · rw [hnext]
      exact inv_answered h hcall hphase answer
    · rw [hnext]
      exact inv_stored h hcall hphase

/-- An exclusive step does not retry an ambiguous key. -/
theorem noRetry_of_exclusive (event : Event) (h : system.Inv)
    (hexclusive : system.Exclusive event) : system.NoRetry event := by
  intro i j ended call hended hambiguous hcall hkey hoperating
  let Before (j : ℕ) (call : Call) : Prop :=
    call.key = ended.key → call.phase = .operating →
      ∃ before, system.calls[j]? = some before ∧ before.phase = .operating
  have hsame : ∀ (j : ℕ) call, system.calls[j]? = some call → Before j call :=
    fun j call hcall _ hoperating => ⟨call, hcall, hoperating⟩
  suffices hafter : ∀ (j : ℕ) call, (system.next event).calls[j]? = some call → Before j call from
    hafter j call hcall hkey hoperating
  rcases next_cases system event with hnext | ⟨job, granted, -, hnext⟩ | ⟨k, caller, hcaller, hstep⟩
  · rw [hnext]
    exact hsame
  · rw [hnext]
    refine forall_concat (fun _ hphase => ?_) hsame
    exact absurd hphase (Call.execute_phase job granted)
  · rcases hstep with ⟨result, -, -, hnext⟩ | ⟨rfl, hphase, hrecord, hnext⟩ |
      ⟨answer, -, hnext⟩ | ⟨result, -, hnext⟩
    · rw [hnext]
      exact forall_set (fun _ => nofun) fun j other _ => hsame j other
    · -- the look-up found no record, and is exclusive
      rw [hnext]
      refine forall_set (fun hkey _ => ?_) fun j other _ => hsame j other
      have hik : i ≠ k := by
        rintro rfl
        rw [hcaller] at hended
        obtain rfl := Option.some.inj hended
        have hconsistent := h.consistent i caller hcaller
        simp only [Call.Consistent, hphase] at hconsistent
        rw [Call.Ambiguous, hconsistent] at hambiguous
        cases hambiguous
      exact absurd hambiguous (hexclusive caller hcaller hphase hrecord i
        (List.getElem?_eq_some_iff.mp hended).1 hik ended hended hkey.symm).2
    · rw [hnext]
      refine forall_set (fun _ hphase => ?_) fun j other _ => hsame j other
      exact absurd hphase (caller.answered_phase answer)
    · rw [hnext]
      exact forall_set (fun _ => nofun) fun j other _ => hsame j other

/-! ## Runs -/

/-- In every run whose steps are all exclusive, the operation of a key completes
successfully at most once, calls return only what they may, and no operation
starts after its key has ended ambiguous. -/
theorem atMostOnce_of_exclusive (events : List Event)
    (h : Along next Exclusive System.default events) :
    Always next AtMostOnce System.default events ∧ Along next NoRetry System.default events := by
  have hinv : Always next Inv System.default events :=
    always_of_along (fun system event hinv hexclusive => inv_next event hinv hexclusive)
      inv_default h
  constructor
  · exact hinv.mono fun system hinv => hinv.atMostOnce
  · refine along_iff.mpr fun pre event post hevents => ?_
    exact noRetry_of_exclusive event (always_iff.mp hinv pre (event :: post) hevents)
      (along_iff.mp h pre event post hevents)

/-- A look-up that is not exclusive does harm: it retries an ambiguous key, or the run
goes on to two successful operations of one key. -/
theorem harm_of_not_exclusive (event : Event) (h : system.Inv) (hnot : ¬ system.Exclusive event) :
    ¬ system.NoRetry event ∨
      ∃ events, ¬ (run next (system.next event) events).AtMostOnce := by
  cases event with
  | execute job granted => exact absurd trivial hnot
  | answer i answer => exact absurd trivial hnot
  | lock i =>
    simp only [Exclusive, ExclusiveLookup, Call.Clear, not_forall] at hnot
    obtain ⟨call, hcall, hphase, hrecord, j, -, hji, other, hother, hkey, hharm⟩ := hnot
    have hnext : system.next (.lock i) = system.goesOn i call.operate := by
      simp only [next, Option.mem_def.mp hcall, hphase, hrecord]
    by_cases hambiguous : other.Ambiguous
    · refine .inl fun hretry => ?_
      obtain ⟨before, hbefore, hoperating⟩ := hretry j i other call.operate hother hambiguous
        (by rw [hnext]; exact goesOn_self hcall _) hkey.symm rfl
      rw [hcall] at hbefore
      obtain rfl := Option.some.inj hbefore
      rw [hphase] at hoperating
      cases hoperating
    · right
      rw [hnext]
      let answer := Answer.done (.ok "")
      let mine := call.operate.answered answer
      -- the caller's own operation succeeds
      have hmine : (system.goesOn i call.operate).next (.answer i answer) =
          (system.goesOn i call.operate).goesOn i mine :=
            next_answer (goesOn_self hcall _) rfl answer
      have hselfcall : ((system.goesOn i call.operate).goesOn i mine).calls[i]? = some mine :=
        goesOn_self (goesOn_self hcall _) mine
      have hothercall : ((system.goesOn i call.operate).goesOn i mine).calls[j]? = some other := by
        rw [goesOn_ne hji, goesOn_ne hji]
        exact hother
      cases hwaiting : other.phase with
      | lookup | returned => exact absurd ⟨by rw [hwaiting]; rfl, hambiguous⟩ hharm
      | storing result =>
        have hdone : other.answer = some (.done (.ok result)) := by
          have hconsistent := h.consistent j other hother
          simpa only [Call.Consistent, hwaiting] using hconsistent
        refine ⟨[.answer i answer], fun honce => ?_⟩
        rw [run_cons, run_nil, hmine] at honce
        exact honce.once i j mine other (Ne.symm hji) hselfcall hothercall hkey.symm
          ⟨⟨"", rfl⟩, ⟨result, hdone⟩⟩
      | operating =>
        refine ⟨[.answer i answer, .answer j answer], fun honce => ?_⟩
        rw [run_cons, run_cons, run_nil, hmine, next_answer hothercall hwaiting] at honce
        refine honce.once i j mine (other.answered answer) (Ne.symm hji) ?_
          (goesOn_self hothercall _) hkey.symm ⟨⟨"", rfl⟩, ⟨"", rfl⟩⟩
        rw [goesOn_ne (Ne.symm hji)]
        exact hselfcall

/-- The first look-up of a run that is not exclusive does harm. -/
theorem harm_of_first_overlap (events : List Event) (event : Event)
    (h : Along next Exclusive System.default events)
    (hnot : ¬ (run next System.default events).Exclusive event) :
    ¬ (run next System.default events).NoRetry event ∨
      ∃ more, ¬ Always next AtMostOnce System.default (events ++ event :: more) := by
  have hinv : Always next Inv System.default events :=
    always_of_along (fun system event hinv hexclusive => inv_next event hinv hexclusive)
      inv_default h
  have hend := always_iff.mp hinv events [] (List.append_nil _).symm
  refine (harm_of_not_exclusive event hend hnot).imp_right fun ⟨more, hharm⟩ => ⟨more, fun h => ?_⟩
  have hall := always_iff.mp h (events ++ event :: more) [] (List.append_nil _).symm
  rw [run_append, run_cons] at hall
  exact hharm hall

theorem harm_of_first_overlap_same :
    let job := GovernorJob.new "job" "same-key" .observe
    let events : List Event := [.execute job .observe, .execute job .observe, .lock 0]
    ¬ (run next default events).NoRetry (.lock 1) ∨
      ∃ more, ¬ Always next AtMostOnce default (events ++ .lock 1 :: more) := by
  intro job events
  exact harm_of_first_overlap events (.lock 1) (by decide +kernel) (by decide +kernel)

/-- The two jobs of the governor's test, made one after the other. -/
theorem atMostOnce_sequential :
    let first := GovernorJob.new "first" "same-key" .observe
    let duplicate := GovernorJob.new "duplicate" "same-key" .observe
    let events : List Event := [.execute first .observe, .lock 0,
      .answer 0 (.done (.ok "receipt:1")), .lock 0,
      .execute duplicate .observe, .lock 1]
    ((run next default events).calls.map (·.phase) =
      [.returned (.ok "receipt:1"), .returned (.ok "receipt:1")]) ∧
    Always next AtMostOnce default events ∧ Along next NoRetry default events := by
  intro first duplicate events
  exact ⟨by decide +kernel, atMostOnce_of_exclusive events (by decide +kernel)⟩

/-- Two overlapping calls both run the operation, and a timeout keeps nobody from
running it again. -/
theorem overlapping_and_retried :
    let job := GovernorJob.new "job" "same-key" .observe
    let done (result : String) := Answer.done (.ok result)
    let overlapping : List Event := [.execute job .observe, .execute job .observe, .lock 0, .lock 1,
      .answer 0 (done "receipt:1"), .answer 1 (done "receipt:2"), .lock 0, .lock 1]
    let retried : List Event := [.execute job .observe, .lock 0, .answer 0 .timeout,
      .execute job .observe, .lock 1]
    (run next default overlapping).calls.map (·.phase) =
      [.returned (.ok "receipt:1"), .returned (.ok "receipt:2")] ∧
    ¬ Always next AtMostOnce default overlapping ∧
    (run next default retried).calls.map (·.phase) =
      [.returned (.error (.refused "timeout is ambiguous; automatic retry refused")), .operating] ∧
    ¬ Along next NoRetry default retried := by
  intro job done overlapping retried
  refine ⟨by decide +kernel, ?_, by decide +kernel, ?_⟩
  · intro h
    have hfinal := always_iff.mp h overlapping [] (List.append_nil _).symm
    have hanswers : (run next default overlapping).calls.map (fun call => (call.key, call.answer)) =
        [("same-key", some (done "receipt:1")), ("same-key", some (done "receipt:2"))] := by
      decide +kernel
    obtain ⟨a, b, hcalls⟩ : ∃ a b, (run next default overlapping).calls = [a, b] :=
      List.length_eq_two.mp (by decide +kernel)
    rw [hcalls, List.map_cons, List.map_cons, List.map_nil] at hanswers
    obtain ⟨ha, hb⟩ : (a.key, a.answer) = _ ∧ (b.key, b.answer) = _ := by
      simpa only [List.cons.injEq, and_true] using hanswers
    obtain ⟨hakey, hanswer⟩ := Prod.mk.inj ha
    obtain ⟨hbkey, hbnswer⟩ := Prod.mk.inj hb
    exact hfinal.once 0 1 a b (by decide) (by rw [hcalls]; rfl) (by rw [hcalls]; rfl)
      (hakey.trans hbkey.symm) ⟨⟨_, hanswer⟩, ⟨_, hbnswer⟩⟩
  · intro h
    have hstep := along_iff.mp h (retried.take 4) (.lock 1) [] rfl
    have hended : ((run next default (retried.take 4)).calls[0]?).map
        (fun call => (call.key, call.answer)) = some ("same-key", some .timeout) := by
      decide +kernel
    have hwaiting : ((run next default (retried.take 4)).calls[1]?).map (·.phase) =
        some .lookup := by decide +kernel
    have hstarted : ((run next default retried).calls[1]?).map
        (fun call => (call.key, call.phase)) = some ("same-key", .operating) := by decide +kernel
    obtain ⟨ended, hcall, hended⟩ := Option.map_eq_some_iff.mp hended
    obtain ⟨started, hcall', hstarted⟩ := Option.map_eq_some_iff.mp hstarted
    obtain ⟨hkey, htimeout⟩ := Prod.mk.inj hended
    obtain ⟨hkey', hoperating⟩ := Prod.mk.inj hstarted
    obtain ⟨before, hbefore, hphase⟩ := hstep 0 1 ended started hcall htimeout hcall'
      (hkey'.trans hkey.symm) hoperating
    rw [hbefore, Option.map_some, hphase] at hwaiting
    cases hwaiting

end System

end ChatmanEcosystem.Governor
