import ChatmanEcosystem.Console.PatchSla
import ChatmanEcosystem.Console.SlaCreditOnce

/-!
# How often a breach is credited

Any interleaving of any number of requests and scans. A request reads the rows that
are not credited, has Stripe credit them, and then marks all rows of the
organisation that are not credited by then.

Results:

* `CreditCall.resume_step`: the ways a call goes on.
* `creditInv_next`: what a step preserves when it is `Undisturbed`.
* `creditedOnce_iff`: a breach is credited exactly once in every state of a run whose
  marks succeed exactly when all its steps are undisturbed.
-/

namespace ChatmanEcosystem.Console.PatchSla

open Common Common.Concurrent Js

/-! ## The property and the condition -/

/-- The row of the key is not credited. -/
def BreachTable.IsOpen (table : BreachTable) (key : BreachKey) : Prop :=
  ∃ row ∈ table.rows, row.key = key ∧ row.Open

/-- The row of the key carries `credit_applied_at`. -/
def BreachTable.Credited (table : BreachTable) (key : BreachKey) : Prop :=
  ∃ row ∈ table.rows, row.key = key ∧ ¬ row.Open

instance (table : BreachTable) : DecidablePred table.IsOpen := fun key =>
  inferInstanceAs (Decidable (∃ row ∈ table.rows, row.key = key ∧ row.Open))

instance (table : BreachTable) : DecidablePred table.Credited := fun key =>
  inferInstanceAs (Decidable (∃ row ∈ table.rows, row.key = key ∧ ¬ row.Open))

namespace CreditCall

/-- The balance transaction of a request that has not marked the rows. -/
def owing : CreditCall → Option Credit
  | marking credit => some credit
  | _ => none

/-- The balance transaction of a request that has finished. -/
def finished : CreditCall → Option Credit
  | done (.applied credit _) => some credit
  | _ => none

/-- The percentage of the call's balance transaction counts the row. -/
def counts (key : BreachKey) (call : CreditCall) : Bool :=
  call.owing.any (key ∈ ·.counted) || call.finished.any (key ∈ ·.counted)

/-- The call has a balance transaction for the organisation, and has not marked its rows. -/
def owes (orgId : String) (call : CreditCall) : Bool := call.owing.any (·.orgId = orgId)

/-- The rows for which Stripe makes a transaction. -/
def creates : CreditCall → CreditAnswer → Option Claimed
  | crediting claimed _ _ _ _, .balance (.ok _) => some claimed
  | _, _ => none

/-- The transaction whose rows are marked. -/
def marks : CreditCall → CreditAnswer → Option Credit
  | marking credit, .marked (.ok ()) _ => some credit
  | _, _ => none

end CreditCall

/-- The number of balance transactions whose percentage counts the row. -/
def timesCounted (calls : List CreditCall) (key : BreachKey) : ℕ := calls.countP (·.counts key)

/-- A row that carries `credit_applied_at` is counted in exactly one balance transaction, and the
rows that the transaction of a finished request counts carry it. -/
def CreditedOnce (system : CreditSystem) : Prop :=
  (∀ row ∈ system.shared.rows, ¬ row.Open → timesCounted system.calls row.key = 1) ∧
  ∀ call ∈ system.calls, ∀ credit ∈ call.finished, ∀ key ∈ credit.counted,
    system.shared.Credited key

instance : DecidablePred CreditedOnce := fun system =>
  inferInstanceAs (Decidable ((∀ row ∈ system.shared.rows, _) ∧ ∀ call ∈ system.calls, _))

/-- A call that stands at `call` may go on with the answer. -/
def CreditCall.Undisturbed (system : CreditSystem) (i : ℕ) (call : CreditCall)
    (answer : CreditAnswer) : Prop :=
  (∀ claimed ∈ call.creates answer, ∀ row ∈ system.shared.rows, row.key ∈ claimed.counted →
    row.Open) ∧
  ∀ credit ∈ call.marks answer,
    (∀ row ∈ system.shared.ofOrg credit.orgId, row.Open → row.key ∈ credit.counted) ∧
    ∀ other ∈ system.calls.eraseIdx i, other.owes credit.orgId = false

instance (system : CreditSystem) (i : ℕ) (call : CreditCall) (answer : CreditAnswer) :
    Decidable (call.Undisturbed system i answer) :=
  inferInstanceAs (Decidable ((∀ claimed ∈ _, ∀ row ∈ _, _) ∧ ∀ credit ∈ _, _ ∧ ∀ other ∈ _, _))

/-- Stripe makes a transaction only while the rows that it counts are not credited, and rows are
marked only when the transaction counts all those that are not credited and no other request of the
organisation is between its transaction and its mark. -/
def Undisturbed (system : CreditSystem) : CreditEvent → Prop
  | .answer i answer => ∀ call ∈ system.calls[i]?, call.Undisturbed system i answer
  | .call _ | .move _ => True

instance (system : CreditSystem) (event : CreditEvent) : Decidable (Undisturbed system event) :=
  match event with
  | .answer _ _ => inferInstanceAs (Decidable (∀ call ∈ _, _))
  | .call _ | .move _ => .isTrue trivial

/-- The mark of a request does not fail. -/
def MarkSucceeds (_ : CreditSystem) : CreditEvent → Prop
  | .answer _ (.marked (.error _) _) => False
  | _ => True

instance (system : CreditSystem) (event : CreditEvent) : Decidable (MarkSucceeds system event) := by
  unfold MarkSucceeds; split <;> infer_instance

/-! ## The table -/

namespace BreachTable

variable {table : BreachTable} {key : BreachKey} {row : PatchSlaBreach} {orgId : String} {now : ℤ}

theorem IsOpen.has (h : table.IsOpen key) : table.Has key := by
  obtain ⟨row, hrow, hkey, -⟩ := h
  exact ⟨row, hrow, hkey⟩

theorem IsOpen.not_credited (h : table.IsOpen key) : ¬ table.Credited key := by
  rintro ⟨other, hother, rfl, hcredited⟩
  obtain ⟨row, hrow, hkey, hopen⟩ := h
  exact hcredited (KeyedTable.eq_of_key hrow hother hkey ▸ hopen)

theorem mem_insert_iff {other : PatchSlaBreach} :
    other ∈ (table.insert row).rows ↔ other ∈ table.rows ∨ other = row ∧ ¬ table.Has row.key := by
  rw [insert, KeyedTable.mem_upsert_iff]
  constructor
  · rintro (⟨hother, -⟩ | ⟨old, hold, -, rfl⟩ | ⟨hnone, rfl⟩)
    · exact .inl hother
    · exact .inl hold
    · exact .inr ⟨rfl, hnone⟩
  · rintro (hother | ⟨rfl, hnone⟩)
    · by_cases hkey : other.key = row.key
      · exact .inr (.inl ⟨other, hother, hkey, rfl⟩)
      · exact .inl ⟨hother, hkey⟩
    · exact .inr (.inr ⟨hnone, rfl⟩)

/-- An insertion credits nothing. -/
theorem credited_insert_iff (hopen : row.Open) :
    (table.insert row).Credited key ↔ table.Credited key := by
  constructor
  · rintro ⟨other, hother, hkey, hcredited⟩
    rcases mem_insert_iff.mp hother with hold | ⟨rfl, -⟩
    · exact ⟨other, hold, hkey, hcredited⟩
    · exact absurd hopen hcredited
  · rintro ⟨other, hother, hkey, hcredited⟩
    exact ⟨other, mem_insert_iff.mpr (.inl hother), hkey, hcredited⟩

theorem has_insert (h : table.Has key) (row : PatchSlaBreach) : (table.insert row).Has key := by
  obtain ⟨other, hother, hkey⟩ := h
  exact ⟨other, mem_insert_iff.mpr (.inl hother), hkey⟩

/-- The row of a key that is in the table stays. -/
theorem isOpen_insert_iff (h : table.Has key) :
    (table.insert row).IsOpen key ↔ table.IsOpen key := by
  constructor
  · rintro ⟨other, hother, hkey, hopen⟩
    rcases mem_insert_iff.mp hother with hold | ⟨rfl, hnone⟩
    · exact ⟨other, hold, hkey, hopen⟩
    · exact absurd (hkey ▸ h) hnone
  · rintro ⟨other, hother, hkey, hopen⟩
    exact ⟨other, mem_insert_iff.mpr (.inl hother), hkey, hopen⟩

theorem mem_markCredited_iff {other : PatchSlaBreach} :
    other ∈ (table.markCredited orgId now).rows ↔
      ∃ row ∈ table.rows, credited orgId now row = other := KeyedTable.mem_modify_iff

theorem has_markCredited (h : table.Has key) : (table.markCredited orgId now).Has key := by
  obtain ⟨row, hrow, hkey⟩ := h
  exact ⟨credited orgId now row, mem_markCredited_iff.mpr ⟨row, hrow, rfl⟩, by simpa using hkey⟩

theorem open_credited_iff : (credited orgId now row).Open ↔ row.Open ∧ row.key.orgId ≠ orgId := by
  unfold credited
  split_ifs with h
  · simp [h.1]
  · exact ⟨fun hopen => ⟨hopen, fun horg => h ⟨horg, hopen⟩⟩, fun hopen => hopen.1⟩

/-- A mark leaves the rows of other organisations as they are. -/
theorem isOpen_markCredited_iff :
    (table.markCredited orgId now).IsOpen key ↔ table.IsOpen key ∧ key.orgId ≠ orgId := by
  constructor
  · rintro ⟨other, hother, rfl, hopen⟩
    obtain ⟨row, hrow, rfl⟩ := mem_markCredited_iff.mp hother
    obtain ⟨hbefore, horg⟩ := open_credited_iff.mp hopen
    rw [key_credited]
    exact ⟨⟨row, hrow, rfl, hbefore⟩, horg⟩
  · rintro ⟨⟨row, hrow, rfl, hopen⟩, horg⟩
    exact ⟨credited orgId now row, mem_markCredited_iff.mpr ⟨row, hrow, rfl⟩, key_credited _ _ _,
      open_credited_iff.mpr ⟨hopen, horg⟩⟩

/-- A mark credits the rows of the organisation that are not credited. -/
theorem credited_markCredited_iff :
    (table.markCredited orgId now).Credited key ↔
      table.Credited key ∨ table.IsOpen key ∧ key.orgId = orgId := by
  constructor
  · rintro ⟨other, hother, rfl, hcredited⟩
    obtain ⟨row, hrow, rfl⟩ := mem_markCredited_iff.mp hother
    rw [open_credited_iff, not_and_or, not_not] at hcredited
    rw [key_credited]
    by_cases hopen : row.Open
    · exact .inr ⟨⟨row, hrow, rfl, hopen⟩, hcredited.resolve_left fun h => h hopen⟩
    · exact .inl ⟨row, hrow, rfl, hopen⟩
  · intro h
    have hsome : ∃ row ∈ table.rows, row.key = key ∧ ¬ (row.Open ∧ row.key.orgId ≠ orgId) := by
      rcases h with ⟨row, hrow, hkey, hcredited⟩ | ⟨⟨row, hrow, hkey, -⟩, horg⟩
      · exact ⟨row, hrow, hkey, fun hopen => hcredited hopen.1⟩
      · exact ⟨row, hrow, hkey, fun hopen => hopen.2 (hkey ▸ horg)⟩
    obtain ⟨row, hrow, hkey, hnot⟩ := hsome
    exact ⟨credited orgId now row, mem_markCredited_iff.mpr ⟨row, hrow, rfl⟩, by simpa using hkey,
      fun hopen => hnot (open_credited_iff.mp hopen)⟩

end BreachTable

/-! ## How a call goes on -/

namespace CreditCall

/-- The rows that a request has read, until it has marked them. -/
def claim : CreditCall → Option Claimed
  | readingSubscription claimed _ | retrieving claimed _ _ _ _ | crediting claimed _ _ _ _ =>
    some claimed
  | marking credit => some credit.toClaimed
  | _ => none

/-- A call goes on without a write, or reads the breaches, or has Stripe credit them, or marks them,
or fails to, or inserts a breach. -/
inductive Step (table : BreachTable) (call : CreditCall) (answer : CreditAnswer) :
    CreditCall → BreachTable → Prop
  | goes {new : CreditCall} (hcreates : call.creates answer = none)
      (hmarks : call.marks answer = none) (howing : call.owing = none)
      (hfinished : call.finished = none) (hnew : new.owing = none) (hend : new.finished = none)
      (hclaim : new.claim = none ∨ new.claim = call.claim) : Step table call answer new table
  | reads {new : CreditCall} {claimed : Claimed} (hcreates : call.creates answer = none)
      (hmarks : call.marks answer = none) (howing : call.owing = none)
      (hfinished : call.finished = none) (hnew : new.owing = none) (hend : new.finished = none)
      (hclaim : new.claim = some claimed)
      (hcounted : claimed.counted = (uncredited (table.ofOrg claimed.orgId)).map (·.key))
      (hne : claimed.counted ≠ []) : Step table call answer new table
  | makes {credit : Credit} (hcreates : call.creates answer = some credit.toClaimed)
      (hmarks : call.marks answer = none) (howing : call.owing = none)
      (hfinished : call.finished = none) (hclaim : call.claim = some credit.toClaimed) :
      Step table call answer (.marking credit) table
  | marks {credit : Credit} {result : K8sResult ℕ} {now : ℤ} (hcreates : call.creates answer = none)
      (hmarks : call.marks answer = some credit) (howing : call.owing = some credit) :
      Step table call answer (.done (.applied credit result)) (table.markCredited credit.orgId now)
  | fails {new : CreditCall} {error : String} {now : ℤ}
      (hanswer : answer = .marked (.error error) now) : Step table call answer new table
  | inserts {new : CreditCall} {row : PatchSlaBreach} (hcreates : call.creates answer = none)
      (hmarks : call.marks answer = none) (howing : call.owing = none)
      (hfinished : call.finished = none) (hnew : new.owing = none) (hend : new.finished = none)
      (hclaim : new.claim = none) (hopen : row.Open) : Step table call answer new (table.insert row)

/-- The phases of a scan, and the ends without a transaction. -/
structure Idle (call : CreditCall) : Prop where
  owing : call.owing = none
  finished : call.finished = none
  claim : call.claim = none

theorem idle_nextOrg (report : PatchSlaBreachScanReport) (orgs : List Org) :
    (nextOrg report orgs).Idle := by
  induction orgs generalizing report with
  | nil => exact ⟨rfl, rfl, rfl⟩
  | cons org rest ih =>
    unfold nextOrg
    split
    · exact ih _
    · exact ⟨rfl, rfl, rfl⟩

theorem idle_nextImage (scan : Scan) (imageRefs : List String) :
    (nextImage scan imageRefs).Idle := by
  cases imageRefs with
  | nil => exact idle_nextOrg _ _
  | cons imageRef imageRefs => exact ⟨rfl, rfl, rfl⟩

theorem idle_nextFinding (scan : Scan) (imageRef : String) (imageRefs : List String) (now : ℤ)
    (findings : List PatchSlaFinding) :
    (nextFinding scan imageRef imageRefs now findings).Idle := by
  induction findings with
  | nil => exact idle_nextImage _ _
  | cons finding findings ih =>
    unfold nextFinding
    split_ifs
    · exact ⟨rfl, rfl, rfl⟩
    · exact ih

theorem idle_ofOrg (orgId : String) (result : K8sResult (Option Org)) :
    (ofOrg orgId result).Idle := by
  unfold ofOrg
  split <;> exact ⟨rfl, rfl, rfl⟩

theorem idle_ofRole (orgId : String) (org : Org) (granted : Bool) :
    (ofRole orgId org granted).Idle := by
  unfold ofRole
  cases granted with
  | false => exact ⟨rfl, rfl, rfl⟩
  | true =>
    simp only [not_true_eq_false, if_false]
    split <;> exact ⟨rfl, rfl, rfl⟩

theorem idle_ofApproval (orgId : String) (tier : SlaCredit.SlaTier)
    (result : K8sResult ApprovalCheck) : (ofApproval orgId tier result).Idle := by
  unfold ofApproval
  split <;> exact ⟨rfl, rfl, rfl⟩

/-- A request that goes on with the rows that it has read, or ends. -/
structure Carries (claimed : Claimed) (call : CreditCall) : Prop where
  owing : call.owing = none
  finished : call.finished = none
  claim : call.claim = none ∨ call.claim = some claimed

theorem carries_ofSubscription (credentials : Bool) (claimed : Claimed) (creditPct : ℚ) (now : ℤ)
    (result : K8sResult (Option StoredSubscription)) :
    (ofSubscription credentials claimed creditPct now result).Carries claimed := by
  unfold ofSubscription
  split
  · exact ⟨rfl, rfl, .inl rfl⟩
  · split
    · split_ifs
      · exact ⟨rfl, rfl, .inr rfl⟩
      · exact ⟨rfl, rfl, .inl rfl⟩
      · exact ⟨rfl, rfl, .inl rfl⟩
    · exact ⟨rfl, rfl, .inl rfl⟩

theorem carries_ofRetrieve (claimed : Claimed) (creditPct : ℚ)
    (customerId subscriptionId month : String) (result : K8sResult Subscription) :
    (ofRetrieve claimed creditPct customerId subscriptionId month result).Carries claimed := by
  unfold ofRetrieve
  split
  · exact ⟨rfl, rfl, .inl rfl⟩
  · exact ⟨rfl, rfl, .inr rfl⟩

variable {table after : BreachTable} {call new : CreditCall} {answer : CreditAnswer}

theorem Step.of_idle (hcreates : call.creates answer = none) (hmarks : call.marks answer = none)
    (howing : call.owing = none) (hfinished : call.finished = none) (hidle : new.Idle) :
    Step table call answer new table :=
  .goes hcreates hmarks howing hfinished hidle.owing hidle.finished (.inl hidle.claim)

/-- The request with the rows that it has read, if there are any. -/
theorem step_ofBreaches {orgId : String} {tier : SlaCredit.SlaTier} {approvedBy : Option String}
    (read : K8sResult Unit) :
    Step table (.readingBreaches orgId tier approvedBy) (.breaches read)
      (ofBreaches orgId tier approvedBy (read.map fun _ => table.ofOrg orgId)) table := by
  cases read with
  | error error => exact .of_idle rfl rfl rfl rfl ⟨rfl, rfl, rfl⟩
  | ok read =>
    show Step table _ _ (ofBreaches orgId tier approvedBy (.ok (table.ofOrg orgId))) table
    simp only [ofBreaches, computePatchSlaCredit]
    split_ifs with hnone
    · exact .of_idle rfl rfl rfl rfl ⟨rfl, rfl, rfl⟩
    · refine .reads rfl rfl rfl rfl rfl rfl rfl rfl fun hempty => hnone ?_
      exact List.length_eq_zero_iff.mpr (List.map_eq_nil_iff.mp hempty)

/-- The ways a call goes on. -/
theorem resume_step {credentials : Bool}
    (h : call.resume credentials table answer = some (new, after)) :
    Step table call answer new after := by
  unfold resume at h
  split at h
  · -- `readingOrg`
    obtain ⟨rfl, rfl⟩ := h
    exact .of_idle rfl rfl rfl rfl (idle_ofOrg _ _)
  · -- `checkingRole`
    obtain ⟨rfl, rfl⟩ := h
    exact .of_idle rfl rfl rfl rfl (idle_ofRole _ _ _)
  · -- `checkingApproval`
    obtain ⟨rfl, rfl⟩ := h
    exact .of_idle rfl rfl rfl rfl (idle_ofApproval _ _ _)
  · -- `readingBreaches`
    obtain ⟨rfl, rfl⟩ := h
    exact step_ofBreaches _
  · -- `readingSubscription`
    obtain ⟨rfl, rfl⟩ := h
    obtain ⟨howing, hfinished, hclaim⟩ := carries_ofSubscription credentials ‹Claimed› _ _ _
    exact .goes rfl rfl rfl rfl howing hfinished hclaim
  · -- `retrieving`
    obtain ⟨rfl, rfl⟩ := h
    obtain ⟨howing, hfinished, hclaim⟩ := carries_ofRetrieve ‹Claimed› _ _ _ _ _
    exact .goes rfl rfl rfl rfl howing hfinished hclaim
  · -- `crediting`
    obtain ⟨rfl, rfl⟩ := h
    exact .of_idle rfl rfl rfl rfl ⟨rfl, rfl, rfl⟩
  · obtain ⟨rfl, rfl⟩ := h
    exact .makes rfl rfl rfl rfl rfl
  · -- `marking`
    obtain ⟨rfl, rfl⟩ := h
    exact .fails rfl
  · obtain ⟨rfl, rfl⟩ := h
    exact .marks rfl rfl rfl
  · -- `listingOrgs`
    obtain ⟨rfl, rfl⟩ := h
    exact .of_idle rfl rfl rfl rfl ⟨rfl, rfl, rfl⟩
  · obtain ⟨rfl, rfl⟩ := h
    exact .of_idle rfl rfl rfl rfl (idle_nextOrg _ _)
  · -- `listingDeployments`
    obtain ⟨rfl, rfl⟩ := h
    exact .of_idle rfl rfl rfl rfl (idle_nextOrg _ _)
  · obtain ⟨rfl, rfl⟩ := h
    exact .of_idle rfl rfl rfl rfl (idle_nextImage _ _)
  · -- `readingFindings`
    obtain ⟨rfl, rfl⟩ := h
    exact .of_idle rfl rfl rfl rfl (idle_nextImage _ _)
  · obtain ⟨rfl, rfl⟩ := h
    exact .of_idle rfl rfl rfl rfl (idle_nextFinding _ _ _ _ _)
  · -- `inserting`
    rename_i scan imageRef imageRefs finding findings now
    obtain ⟨rfl, rfl⟩ := h
    obtain ⟨howing, hfinished, hclaim⟩ :=
      idle_nextFinding (countBreach scan _) imageRef imageRefs now findings
    exact .inserts rfl rfl rfl rfl howing hfinished hclaim rfl
  · cases h

end CreditCall

/-! ## How often a row is counted -/

section Counting

variable {calls : List CreditCall} {i : ℕ} {call new : CreditCall} {key : BreachKey}

/-- The call itself, and the others. -/
theorem timesCounted_eq (hcall : calls[i]? = some call) (key : BreachKey) :
    timesCounted calls key =
      timesCounted (calls.eraseIdx i) key + if call.counts key then 1 else 0 := by
  obtain ⟨hlt, rfl⟩ := List.getElem?_eq_some_iff.mp hcall
  unfold timesCounted
  rw [← (List.getElem_cons_eraseIdx_perm hlt).countP_eq, List.countP_cons]

theorem timesCounted_set (hcall : calls[i]? = some call) (key : BreachKey) :
    timesCounted (calls.set i new) key =
      timesCounted (calls.eraseIdx i) key + if new.counts key then 1 else 0 := by
  have hlt : i < calls.length := (List.getElem?_eq_some_iff.mp hcall).1
  rw [timesCounted_eq (List.getElem?_set_self hlt), List.eraseIdx_set_eq]

/-- A call that counts the same rows as before. -/
theorem timesCounted_set_of_eq (hcall : calls[i]? = some call)
    (h : new.counts key = call.counts key) :
    timesCounted (calls.set i new) key = timesCounted calls key := by
  rw [timesCounted_set hcall, timesCounted_eq hcall, h]

theorem timesCounted_eq_zero_iff :
    timesCounted calls key = 0 ↔ ∀ call ∈ calls, call.counts key = false := by
  simp [timesCounted]

end Counting

namespace CreditCall

variable {call : CreditCall} {key : BreachKey}

theorem counts_eq_false (howing : call.owing = none) (hfinished : call.finished = none) :
    call.counts key = false := by
  rw [counts, howing, hfinished]
  rfl

theorem counts_of_owing {credit : Credit} (howing : call.owing = some credit) :
    call.counts key = decide (key ∈ credit.counted) := by
  cases call with
  | marking credit =>
    obtain rfl := Option.some.inj howing
    simp [counts, owing, finished]
  | _ => cases howing

theorem counts_applied (credit : Credit) (result : K8sResult ℕ) :
    (done (.applied credit result)).counts key = decide (key ∈ credit.counted) := by
  simp [counts, owing, finished]

theorem claim_of_owing {credit : Credit} (howing : call.owing = some credit) :
    call.claim = some credit.toClaimed := by
  cases call with
  | marking credit =>
    obtain rfl := Option.some.inj howing
    rfl
  | _ => cases howing

theorem counts_iff : call.counts key = true ↔
    (∃ credit ∈ call.owing, key ∈ credit.counted) ∨
      ∃ credit ∈ call.finished, key ∈ credit.counted := by
  simp [counts, Option.any_eq_true]

end CreditCall

/-! ## The invariant -/

/-- The rows of a finished transaction are credited, and those of one that is not marked are not;
the rows that a request has read are of its organisation, and in the table. -/
structure CreditCall.Kept (table : BreachTable) (call : CreditCall) : Prop where
  finished : ∀ credit ∈ call.finished, ∀ key ∈ credit.counted, table.Credited key
  owing : ∀ credit ∈ call.owing, ∀ key ∈ credit.counted, table.IsOpen key
  nonempty : ∀ claimed ∈ call.claim, claimed.counted ≠ []
  claim : ∀ claimed ∈ call.claim, ∀ key ∈ claimed.counted,
    key.orgId = claimed.orgId ∧ table.Has key

/-- Of two requests whose rows are not credited one has read the rows of the other. -/
def Nested (table : BreachTable) (a b : CreditCall) : Prop :=
  ∀ c ∈ a.claim, ∀ d ∈ b.claim, c.orgId = d.orgId → (∀ key ∈ c.counted, table.IsOpen key) →
    (∀ key ∈ d.counted, table.IsOpen key) → c.counted ⊆ d.counted ∨ d.counted ⊆ c.counted

/-- What every step preserves that is undisturbed. -/
structure CreditInv (system : CreditSystem) : Prop where
  once : ∀ key, system.shared.Credited key → timesCounted system.calls key = 1
  kept : ∀ (i : ℕ) call, system.calls[i]? = some call → call.Kept system.shared
  nested : ∀ (i j : ℕ) a b, i ≠ j → system.calls[i]? = some a → system.calls[j]? = some b →
    Nested system.shared a b

section Invariant

variable {system : CreditSystem} {table : BreachTable} {i : ℕ} {call new : CreditCall}

theorem Nested.symm {a b : CreditCall} (h : Nested table a b) : Nested table b a :=
  fun c hc d hd horg hopen hopen' => (h d hd c hc horg.symm hopen' hopen).symm

theorem Nested.of_claim {a a' b : CreditCall} (h : Nested table a b)
    (hclaim : a'.claim = none ∨ a'.claim = a.claim) : Nested table a' b := by
  intro c hc
  rcases hclaim with hnone | hsame
  · rw [hnone] at hc
    cases hc
  · rw [hsame] at hc
    exact h c hc

/-- A call that has a claim for its rows keeps what it has, if it is not about a transaction. -/
theorem CreditCall.Kept.of_claim (h : call.Kept table)
    (howing : new.owing = none) (hfinished : new.finished = none)
    (hclaim : new.claim = none ∨ new.claim = call.claim) : new.Kept table := by
  refine ⟨fun _ hmem => ?_, fun _ hmem => ?_, ?_, ?_⟩
  · rw [hfinished] at hmem
    cases hmem
  · rw [howing] at hmem
    cases hmem
  · rcases hclaim with hnone | hsame
    · rw [hnone]
      intro _ hmem
      cases hmem
    · rw [hsame]
      exact h.nonempty
  · rcases hclaim with hnone | hsame
    · rw [hnone]
      intro _ hmem
      cases hmem
    · rw [hsame]
      exact h.claim

/-- A call goes on, and the table becomes `table`. -/
theorem CreditInv.resume (h : CreditInv system)
    (hcredited : ∀ key, table.Credited key → timesCounted (system.calls.set i new) key = 1)
    (hnew : new.Kept table)
    (hothers : ∀ (j : ℕ) other, j ≠ i → system.calls[j]? = some other → other.Kept table)
    (hopen : ∀ key, system.shared.Has key → table.IsOpen key → system.shared.IsOpen key)
    (hnested : ∀ (j : ℕ) other, j ≠ i → system.calls[j]? = some other → Nested table new other) :
    CreditInv { shared := table, calls := system.calls.set i new } where
  once := hcredited
  kept := forall_set hnew hothers
  nested := by
    refine pairwise_set (fun _ _ => Nested.symm) (fun j k a b hjk ha hb => ?_) hnested
    intro c hc d hd horg hopenc hopend
    refine h.nested j k a b hjk ha hb c hc d hd horg (fun key hkey => ?_) fun key hkey => ?_
    · exact hopen key ((h.kept j a ha).claim c hc key hkey).2 (hopenc key hkey)
    · exact hopen key ((h.kept k b hb).claim d hd key hkey).2 (hopend key hkey)

/-- A call is made. -/
theorem CreditInv.enter (h : CreditInv system) (request : CreditRequest) :
    CreditInv { system with calls := system.calls ++ [CreditCall.enter request] } := by
  have hidle : (CreditCall.enter request).Idle := by cases request <;> exact ⟨rfl, rfl, rfl⟩
  refine ⟨fun key hkey => ?_, forall_concat ?_ h.kept, ?_⟩
  · show timesCounted (system.calls ++ [CreditCall.enter request]) key = 1
    have hnone : (CreditCall.enter request).counts key = false :=
      CreditCall.counts_eq_false hidle.owing hidle.finished
    rw [timesCounted, List.countP_append, List.countP_singleton, hnone]
    exact h.once key hkey
  · refine ⟨fun _ hmem => ?_, fun _ hmem => ?_, fun _ hmem => ?_, fun _ hmem => ?_⟩
    · rw [hidle.finished] at hmem
      cases hmem
    · rw [hidle.owing] at hmem
      cases hmem
    · rw [hidle.claim] at hmem
      cases hmem
    · rw [hidle.claim] at hmem
      cases hmem
  · refine pairwise_concat (fun _ _ => Nested.symm) h.nested fun j other _ c hc => ?_
    rw [hidle.claim] at hc
    cases hc

/-- An invariant state is one in which every breach is credited once. -/
theorem CreditInv.creditedOnce (h : CreditInv system) : CreditedOnce system := by
  refine ⟨fun row hrow hcredited => h.once row.key ⟨row, hrow, rfl, hcredited⟩, ?_⟩
  intro call hcall
  obtain ⟨i, hi⟩ := List.mem_iff_getElem?.mp hcall
  exact (h.kept i call hi).finished

end Invariant

/-! ## Steps -/

section Steps

variable {system : CreditSystem} {i : ℕ} {call new : CreditCall}

/-- A call goes on without a write. -/
theorem creditInv_goes (h : CreditInv system) (hcall : system.calls[i]? = some call)
    (howing : call.owing = none) (hfinished : call.finished = none) (hnew : new.owing = none)
    (hend : new.finished = none) (hclaim : new.claim = none ∨ new.claim = call.claim) :
    CreditInv { system with calls := system.calls.set i new } := by
  have hcounts : ∀ key, new.counts key = call.counts key := fun key => by
    rw [CreditCall.counts_eq_false hnew hend, CreditCall.counts_eq_false howing hfinished]
  refine h.resume (fun key hkey => ?_) ((h.kept i call hcall).of_claim hnew hend hclaim)
    (fun j other _ hother => h.kept j other hother) (fun _ _ hopen => hopen) ?_
  · rw [timesCounted_set_of_eq hcall (hcounts key)]
    exact h.once key hkey
  · intro j other hj hother
    exact (h.nested i j call other (Ne.symm hj) hcall hother).of_claim hclaim

/-- A request reads the rows that are not credited. -/
theorem creditInv_reads (h : CreditInv system) (hcall : system.calls[i]? = some call)
    {claimed : Claimed} (howing : call.owing = none) (hfinished : call.finished = none)
    (hnew : new.owing = none) (hend : new.finished = none) (hclaim : new.claim = some claimed)
    (hcounted : claimed.counted = (uncredited (system.shared.ofOrg claimed.orgId)).map (·.key))
    (hne : claimed.counted ≠ []) :
    CreditInv { system with calls := system.calls.set i new } := by
  have hmem : ∀ key, key ∈ claimed.counted ↔
      key.orgId = claimed.orgId ∧ system.shared.IsOpen key := by
    intro key
    rw [hcounted, List.mem_map]
    constructor
    · rintro ⟨row, hrow, rfl⟩
      obtain ⟨horg, hopen⟩ := List.mem_filter.mp hrow
      obtain ⟨hrow, horg⟩ := List.mem_filter.mp horg
      exact ⟨of_decide_eq_true horg, row, hrow, rfl, of_decide_eq_true hopen⟩
    · rintro ⟨horg, row, hrow, rfl, hopen⟩
      refine ⟨row, List.mem_filter.mpr ⟨List.mem_filter.mpr ⟨hrow, ?_⟩, ?_⟩, rfl⟩
      · exact decide_eq_true horg
      · exact decide_eq_true hopen
  refine h.resume (fun key hkey => ?_) ⟨fun _ hmem => ?_, fun _ hmem => ?_, ?_, ?_⟩
    (fun j other _ hother => h.kept j other hother) (fun _ _ hopen => hopen) ?_
  · rw [timesCounted_set_of_eq hcall]
    · exact h.once key hkey
    · rw [CreditCall.counts_eq_false hnew hend, CreditCall.counts_eq_false howing hfinished]
  · rw [hend] at hmem
    cases hmem
  · rw [hnew] at hmem
    cases hmem
  · rintro _ hsome
    obtain rfl := Option.some.inj (hclaim.symm.trans hsome)
    exact hne
  · rintro _ hsome key hkey
    obtain rfl := Option.some.inj (hclaim.symm.trans hsome)
    obtain ⟨horg, hopen⟩ := (hmem key).mp hkey
    exact ⟨horg, hopen.has⟩
  · -- what another request has read and is open, this one has read too
    intro j other hj hother c hc d hd horg _ hopen
    obtain rfl := Option.some.inj (hclaim.symm.trans hc)
    refine .inr fun key hkey => (hmem key).mpr ⟨?_, hopen key hkey⟩
    exact ((h.kept j other hother).claim d hd key hkey).1.trans horg.symm

/-- Stripe makes a transaction for rows that are not credited. -/
theorem creditInv_makes (h : CreditInv system) (hcall : system.calls[i]? = some call)
    {credit : Credit} (howing : call.owing = none) (hfinished : call.finished = none)
    (hclaim : call.claim = some credit.toClaimed)
    (hopen : ∀ row ∈ system.shared.rows, row.key ∈ credit.counted → row.Open) :
    CreditInv { system with calls := system.calls.set i (.marking credit) } := by
  have hkept := h.kept i call hcall
  refine h.resume (fun key hkey => ?_) ⟨fun _ hmem => ?_, ?_, ?_, ?_⟩
    (fun j other _ hother => h.kept j other hother) (fun _ _ hopen => hopen) ?_
  · have hnot : key ∉ credit.counted := by
      intro hmem
      obtain ⟨row, hrow, rfl, hcredited⟩ := hkey
      exact hcredited (hopen row hrow hmem)
    rw [timesCounted_set_of_eq hcall]
    · exact h.once key hkey
    · rw [CreditCall.counts_eq_false howing hfinished, CreditCall.counts_of_owing rfl]
      exact decide_eq_false hnot
  · cases hmem
  · rintro _ ⟨⟩ key hkey
    obtain ⟨row, hrow, rfl⟩ := (hkept.claim _ hclaim key hkey).2
    exact ⟨row, hrow, rfl, hopen row hrow hkey⟩
  · rintro _ ⟨⟩
    exact hkept.nonempty _ hclaim
  · rintro _ ⟨⟩
    exact hkept.claim _ hclaim
  · intro j other hj hother
    exact (h.nested i j call other (Ne.symm hj) hcall hother).of_claim (.inr hclaim.symm)

/-- A scan inserts a breach. -/
theorem creditInv_inserts (h : CreditInv system) (hcall : system.calls[i]? = some call)
    {row : PatchSlaBreach} (howing : call.owing = none) (hfinished : call.finished = none)
    (hnew : new.owing = none) (hend : new.finished = none) (hclaim : new.claim = none)
    (hopen : row.Open) :
    CreditInv { shared := system.shared.insert row, calls := system.calls.set i new } := by
  have hothers : ∀ {other : CreditCall}, other.Kept system.shared →
      other.Kept (system.shared.insert row) := by
    intro other hkept
    refine ⟨fun credit hmem key hkey => ?_, fun credit hmem key hkey => ?_, hkept.nonempty, ?_⟩
    · exact (BreachTable.credited_insert_iff hopen).mpr (hkept.finished credit hmem key hkey)
    · have hbefore := hkept.owing credit hmem key hkey
      exact (BreachTable.isOpen_insert_iff hbefore.has).mpr hbefore
    · intro claimed hmem key hkey
      obtain ⟨horg, hhas⟩ := hkept.claim claimed hmem key hkey
      exact ⟨horg, BreachTable.has_insert hhas row⟩
  refine h.resume (fun key hkey => ?_)
    ((hothers (h.kept i call hcall)).of_claim hnew hend (.inl hclaim))
    (fun j other _ hother => hothers (h.kept j other hother))
    (fun key hhas => (BreachTable.isOpen_insert_iff hhas).mp) fun j other _ _ c hc => ?_
  · rw [timesCounted_set_of_eq hcall]
    · exact h.once key ((BreachTable.credited_insert_iff hopen).mp hkey)
    · rw [CreditCall.counts_eq_false hnew hend, CreditCall.counts_eq_false howing hfinished]
  · rw [hclaim] at hc
    cases hc

/-- Another transaction than those that are not marked does not count a row that is not credited. -/
theorem counts_eq_false_of_owes (h : CreditInv system) {j : ℕ} {other : CreditCall}
    (hother : system.calls[j]? = some other) {key : BreachKey} (hopen : system.shared.IsOpen key)
    (howes : other.owes key.orgId = false) : other.counts key = false := by
  have hkept := h.kept j other hother
  refine Bool.eq_false_iff.mpr fun hcounts => ?_
  rcases CreditCall.counts_iff.mp hcounts with ⟨credit, howing, hkey⟩ | ⟨credit, hfinished, hkey⟩
  · have hclaim : credit.toClaimed ∈ other.claim := by
      cases other with
      | marking credit =>
        obtain rfl := Option.some.inj howing
        rfl
      | _ => cases howing
    have horg := (hkept.claim _ hclaim key hkey).1
    rw [CreditCall.owes, show other.owing = some credit from howing, Option.any_some] at howes
    exact of_decide_eq_false howes horg.symm
  · exact hopen.not_credited (hkept.finished credit hfinished key hkey)

/-- The others count no row that is not credited. -/
theorem timesCounted_others (h : CreditInv system) {orgId : String}
    (halone : ∀ other ∈ system.calls.eraseIdx i, other.owes orgId = false) {key : BreachKey}
    (hopen : system.shared.IsOpen key) (horg : key.orgId = orgId) :
    timesCounted (system.calls.eraseIdx i) key = 0 := by
  refine timesCounted_eq_zero_iff.mpr fun other hother => ?_
  obtain ⟨j, -, hj⟩ := List.mem_eraseIdx_iff_getElem?.mp hother
  exact counts_eq_false_of_owes h hj hopen (by rw [horg]; exact halone other hother)

/-- A request marks the rows, all of which it has counted. -/
theorem creditInv_marks (h : CreditInv system) (hcall : system.calls[i]? = some call)
    {credit : Credit} (howing : call.owing = some credit) (result : K8sResult ℕ) (now : ℤ)
    (hcounted : ∀ row ∈ system.shared.ofOrg credit.orgId, row.Open → row.key ∈ credit.counted)
    (halone : ∀ other ∈ system.calls.eraseIdx i, other.owes credit.orgId = false) :
    CreditInv { shared := system.shared.markCredited credit.orgId now
                calls := system.calls.set i (.done (.applied credit result)) } := by
  have hkept := h.kept i call hcall
  have hclaim := CreditCall.claim_of_owing howing
  refine h.resume (fun key hkey => ?_) ⟨?_, fun _ hmem => ?_, fun _ hmem => ?_, fun _ hmem => ?_⟩ ?_
    (fun key _ hopen => (BreachTable.isOpen_markCredited_iff.mp hopen).1) fun j other _ _ c hc => ?_
  · rcases BreachTable.credited_markCredited_iff.mp hkey with hbefore | ⟨hopen, horg⟩
    · rw [timesCounted_set_of_eq hcall]
      · exact h.once key hbefore
      · rw [CreditCall.counts_applied, CreditCall.counts_of_owing howing]
    · obtain ⟨row, hrow, rfl, hrowOpen⟩ := hopen
      have hmem : row.key ∈ credit.counted :=
        hcounted row (List.mem_filter.mpr ⟨hrow, decide_eq_true horg⟩) hrowOpen
      rw [timesCounted_set hcall, timesCounted_others h halone ⟨row, hrow, rfl, hrowOpen⟩ horg,
        CreditCall.counts_applied, decide_eq_true hmem]
      rfl
  · rintro _ ⟨⟩ key hkey
    refine BreachTable.credited_markCredited_iff.mpr (.inr ⟨hkept.owing credit howing key hkey, ?_⟩)
    exact (hkept.claim _ hclaim key hkey).1
  · cases hmem
  · cases hmem
  · cases hmem
  · intro j other hj hother
    have hbefore := h.kept j other hother
    refine ⟨fun done hmem key hkey => ?_, fun other' hmem key hkey => ?_, hbefore.nonempty, ?_⟩
    · exact BreachTable.credited_markCredited_iff.mpr (.inl (hbefore.finished done hmem key hkey))
    · -- a row that another request owes is of another organisation
      have howes := halone other (List.mem_eraseIdx_iff_getElem?.mpr ⟨j, hj, hother⟩)
      rw [CreditCall.owes, show other.owing = some other' from hmem, Option.any_some] at howes
      have horg := (hbefore.claim _ (CreditCall.claim_of_owing hmem) key hkey).1
      refine BreachTable.isOpen_markCredited_iff.mpr ⟨hbefore.owing other' hmem key hkey, ?_⟩
      rw [horg]
      exact of_decide_eq_false howes
    · intro claimed hmem key hkey
      obtain ⟨horg, hhas⟩ := hbefore.claim claimed hmem key hkey
      exact ⟨horg, BreachTable.has_markCredited hhas⟩
  · cases hc

/-- If a breach is credited once after the rows have been marked, no other request of the
organisation has a transaction. -/
theorem alone_of_creditedOnce (h : CreditInv system) (hcall : system.calls[i]? = some call)
    {credit : Credit} (howing : call.owing = some credit) {result : K8sResult ℕ} {now : ℤ}
    (hnext : CreditedOnce { shared := system.shared.markCredited credit.orgId now
                            calls := system.calls.set i (.done (.applied credit result)) }) :
    ∀ other ∈ system.calls.eraseIdx i, other.owes credit.orgId = false := by
  intro other hmem
  refine Bool.eq_false_iff.mpr fun howes => ?_
  obtain ⟨j, hj, hother⟩ := List.mem_eraseIdx_iff_getElem?.mp hmem
  obtain ⟨credit', howing', horg⟩ := (Option.any_eq_true _ _).mp howes
  have horg : credit'.orgId = credit.orgId := of_decide_eq_true horg
  have hkept := h.kept i call hcall
  have hkept' := h.kept j other hother
  have hclaim := CreditCall.claim_of_owing howing
  have hclaim' := CreditCall.claim_of_owing howing'
  -- the two requests have read a row in common
  have hcommon : ∃ key, key ∈ credit.counted ∧ key ∈ credit'.counted := by
    rcases h.nested i j call other (Ne.symm hj) hcall hother _ hclaim _ hclaim' horg.symm
        (hkept.owing credit howing) (hkept'.owing credit' howing') with hsub | hsub
    · obtain ⟨key, hkey⟩ := List.exists_mem_of_ne_nil _ (hkept.nonempty _ hclaim)
      exact ⟨key, hkey, hsub hkey⟩
    · obtain ⟨key, hkey⟩ := List.exists_mem_of_ne_nil _ (hkept'.nonempty _ hclaim')
      exact ⟨key, hsub hkey, hkey⟩
  obtain ⟨key, hkey, hkey'⟩ := hcommon
  obtain ⟨row, hrow, rfl, hcredited⟩ := BreachTable.credited_markCredited_iff.mpr
    (.inr ⟨hkept.owing credit howing key hkey, (hkept.claim _ hclaim key hkey).1⟩ :
      system.shared.Credited key ∨ _)
  have honce : timesCounted (system.calls.set i _) row.key = 1 := hnext.1 row hrow hcredited
  rw [timesCounted_set hcall, CreditCall.counts_applied, decide_eq_true hkey, if_pos rfl] at honce
  have hnone := timesCounted_eq_zero_iff.mp (Nat.succ.inj honce) other hmem
  rw [CreditCall.counts_of_owing howing', decide_eq_true hkey'] at hnone
  cases hnone

/-- If a breach is credited once after the rows have been marked, the request has counted them. -/
theorem counted_of_creditedOnce (h : CreditInv system) (hcall : system.calls[i]? = some call)
    {credit : Credit} {result : K8sResult ℕ} {now : ℤ}
    (hnext : CreditedOnce { shared := system.shared.markCredited credit.orgId now
                            calls := system.calls.set i (.done (.applied credit result)) })
    (halone : ∀ other ∈ system.calls.eraseIdx i, other.owes credit.orgId = false) :
    ∀ row ∈ system.shared.ofOrg credit.orgId, row.Open → row.key ∈ credit.counted := by
  intro row hrow hopen
  obtain ⟨hrow, horg⟩ := List.mem_filter.mp hrow
  have horg : row.key.orgId = credit.orgId := of_decide_eq_true horg
  have hkey : system.shared.IsOpen row.key := ⟨row, hrow, rfl, hopen⟩
  obtain ⟨after, hafter, hsame, hcredited⟩ := BreachTable.credited_markCredited_iff.mpr
    (.inr ⟨hkey, horg⟩ : system.shared.Credited row.key ∨ _)
  have honce : timesCounted (system.calls.set i _) after.key = 1 := hnext.1 after hafter hcredited
  rw [hsame, timesCounted_set hcall, timesCounted_others h halone hkey horg,
    CreditCall.counts_applied, Nat.zero_add] at honce
  by_contra hnot
  rw [decide_eq_false hnot] at honce
  cases honce

end Steps

/-- A call that makes no transaction and marks no rows is undisturbed. -/
theorem undisturbed_of_none {system : CreditSystem} {i : ℕ} {call : CreditCall}
    {answer : CreditAnswer} (hcreates : call.creates answer = none)
    (hmarks : call.marks answer = none) : call.Undisturbed system i answer := by
  refine ⟨fun claimed hmem => ?_, fun credit hmem => ?_⟩
  · rw [hcreates] at hmem
    cases hmem
  · rw [hmarks] at hmem
    cases hmem

/-- An answer that no call takes makes no transaction and marks no rows. -/
theorem none_of_resume {credentials : Bool} {table : BreachTable} {call : CreditCall}
    {answer : CreditAnswer} (h : call.resume credentials table answer = none) :
    call.creates answer = none ∧ call.marks answer = none := by
  constructor
  · unfold CreditCall.creates
    split
    · cases h
    · rfl
  · unfold CreditCall.marks
    split
    · cases h
    · rfl

/-! ## Runs -/

/-- An answer that a call takes keeps the invariant if it is undisturbed. -/
theorem creditInv_answer {system : CreditSystem} {i : ℕ} {call new : CreditCall}
    {answer : CreditAnswer} {after : BreachTable} (h : CreditInv system)
    (hcall : system.calls[i]? = some call) (hstep : call.Step system.shared answer new after)
    (hsucceeds : MarkSucceeds system (.answer i answer))
    (hundisturbed : Undisturbed system (.answer i answer)) :
    CreditInv { shared := after, calls := system.calls.set i new } := by
  obtain ⟨hcreates, hmarks⟩ := hundisturbed call hcall
  cases hstep with
  | goes _ _ howing hfinished hnew hend hclaim =>
    exact creditInv_goes h hcall howing hfinished hnew hend hclaim
  | reads _ _ howing hfinished hnew hend hclaim hcounted hne =>
    exact creditInv_reads h hcall howing hfinished hnew hend hclaim hcounted hne
  | makes hmakes _ howing hfinished hclaim =>
    exact creditInv_makes h hcall howing hfinished hclaim (hcreates _ hmakes)
  | marks _ hmark howing =>
    obtain ⟨hcounted, halone⟩ := hmarks _ hmark
    exact creditInv_marks h hcall howing _ _ hcounted halone
  | fails hanswer =>
    subst hanswer
    exact hsucceeds.elim
  | inserts _ _ howing hfinished hnew hend hclaim hopen =>
    exact creditInv_inserts h hcall howing hfinished hnew hend hclaim hopen

/-- An answer that a call takes is undisturbed if a breach is credited once after it. -/
theorem undisturbed_answer {system : CreditSystem} {i : ℕ} {call new : CreditCall}
    {answer : CreditAnswer} {after : BreachTable} (h : CreditInv system)
    (hcall : system.calls[i]? = some call) (hstep : call.Step system.shared answer new after)
    (hsucceeds : MarkSucceeds system (.answer i answer))
    (hnext : CreditedOnce { shared := after, calls := system.calls.set i new }) :
    Undisturbed system (.answer i answer) := by
  intro other hother
  obtain rfl := Option.some.inj (hcall.symm.trans hother)
  cases hstep with
  | goes hcreates hmarks => exact undisturbed_of_none hcreates hmarks
  | reads hcreates hmarks => exact undisturbed_of_none hcreates hmarks
  | inserts hcreates hmarks => exact undisturbed_of_none hcreates hmarks
  | fails hanswer =>
    subst hanswer
    exact hsucceeds.elim
  | @makes credit hmakes hmarks howing hfinished hclaim =>
    refine ⟨fun claimed hclaimed row hrow hkey => ?_, fun _ hmem => ?_⟩
    · obtain rfl := Option.some.inj (hmakes.symm.trans hclaimed)
      by_contra hcredited
      have honce : timesCounted (system.calls.set i _) row.key = 1 := hnext.1 row hrow hcredited
      have hbefore := h.once row.key ⟨row, hrow, rfl, hcredited⟩
      rw [timesCounted_eq hcall, CreditCall.counts_eq_false howing hfinished] at hbefore
      rw [timesCounted_set hcall, CreditCall.counts_of_owing rfl, decide_eq_true hkey] at honce
      simp only [if_true, Bool.false_eq_true, if_false] at honce hbefore
      omega
    · rw [hmarks] at hmem
      cases hmem
  | @marks credit result now hcreates hmark howing =>
    refine ⟨fun _ hmem => ?_, fun credit' hmem => ?_⟩
    · rw [hcreates] at hmem
      cases hmem
    · obtain rfl := Option.some.inj (hmark.symm.trans hmem)
      have halone := alone_of_creditedOnce h hcall howing hnext
      exact ⟨counted_of_creditedOnce h hcall hnext halone, halone⟩

theorem creditInv_next (credentials : Bool) (system : CreditSystem) (event : CreditEvent)
    (h : CreditInv system) (hsucceeds : MarkSucceeds system event)
    (hundisturbed : Undisturbed system event) :
    CreditInv ((creditProgram credentials).next system event) := by
  cases event with
  | call request => exact h.enter request
  | move change => exact change.elim
  | answer i answer =>
    rcases (creditProgram credentials).next_answer_cases system i answer with hnext |
      ⟨call, after, hcall, hresume, hnext⟩
    · rw [hnext]
      exact h
    · rw [hnext]
      exact creditInv_answer h hcall (CreditCall.resume_step hresume) hsucceeds hundisturbed

theorem undisturbed_of_creditedOnce (credentials : Bool) (system : CreditSystem)
    (event : CreditEvent) (h : CreditInv system) (hsucceeds : MarkSucceeds system event)
    (hnext : CreditedOnce ((creditProgram credentials).next system event)) :
    Undisturbed system event := by
  cases event with
  | call request => trivial
  | move change => trivial
  | answer i answer =>
    intro call hcall
    cases hresume : call.resume credentials system.shared answer with
    | none =>
      obtain ⟨hcreates, hmarks⟩ := none_of_resume hresume
      exact undisturbed_of_none hcreates hmarks
    | some after =>
      rw [Program.next_answer hcall hresume] at hnext
      exact undisturbed_answer h hcall (CreditCall.resume_step hresume) hsucceeds hnext call hcall

/-- In a run whose marks succeed, a breach is credited exactly once in every state exactly when
every step is undisturbed. -/
theorem creditedOnce_iff (credentials : Bool) (events : List CreditEvent)
    (h : Along (creditProgram credentials).next MarkSucceeds creditStart events) :
    Always (creditProgram credentials).next CreditedOnce creditStart events ↔
      Along (creditProgram credentials).next Undisturbed creditStart events := by
  have hinv : CreditInv creditStart := by
    refine ⟨fun key hkey => ?_, fun i call hcall => ?_, fun i j a b _ hcall => ?_⟩
    · obtain ⟨row, hrow, -⟩ := hkey
      cases hrow
    · cases hcall
    · cases hcall
  exact always_iff_along_given (fun _ => CreditInv.creditedOnce) (creditInv_next credentials)
    (undisturbed_of_creditedOnce credentials) hinv h

/-- The organisation `acme`. -/
def acmeOrg : Org where
  id := "acme"
  ns := "gymact"
  patchSlaTier := some .standard

/-- Bob has approved the credit. -/
def acmeApproval : ApprovalRequest where
  requestId := "r1"
  action := .patchSlaCreditApply
  targetId := "acme"
  requestedBy := "ann"
  requestedAt := "2026-12-31T00:00:00.000Z"
  status := .approved
  approvedBy := some "bob"
  approvedAt := some "2026-12-31T00:00:00.000Z"
  reason := none
  resourcePayload := none

/-- A scan, the call numbered `i`, that finds a vulnerability of the one image of the
organisation. -/
def scans (i : ℕ) (vulnerabilityId : String) : List CreditEvent :=
  [.call .scan, .answer i (.orgs (.ok [acmeOrg]) 1798675200000),
    .answer i (.deployments (.ok ["nginx:1", "nginx:1"])),
    .answer i (.findings (.ok [{ vulnerabilityId, severity := .critical, detectedAt := 0 }])
      1798675200000),
    .answer i (.inserted 1798675200000)]

/-- A request up to the call of Stripe, the call numbered `i`. -/
def posts (i : ℕ) : List CreditEvent :=
  [.call (.post "acme"), .answer i (.org (.ok (some acmeOrg))), .answer i (.role true),
    .answer i (.approval (.ok (.approved acmeApproval))), .answer i (.breaches (.ok ())),
    .answer i (.subscription (.ok (some SlaCredit.subscribed)) 1798675200000),
    .answer i (.retrieve (.ok SlaCredit.retrieved))]

/-- The answers of Stripe and of the table. -/
def paid (i : ℕ) (transactionId : String) : List CreditEvent :=
  [.answer i (.balance (.ok transactionId)), .answer i (.marked (.ok ()) 1798675200000)]

/-- Two breaches are credited, one after the other. -/
theorem creditedOnce_twoBreaches :
    let events := scans 0 "CVE-1" ++ posts 1 ++ paid 1 "txn_1" ++ scans 2 "CVE-2" ++ posts 3 ++
      paid 3 "txn_2" ++ posts 4
    Always (creditProgram true).next CreditedOnce creditStart events ∧
      (run (creditProgram true).next creditStart events).shared.rows.map (·.creditAppliedAt) =
        [some 1798675200000, some 1798675200000] := by
  intro events
  exact ⟨(creditedOnce_iff true events (by decide +kernel)).mpr (by decide +kernel),
    by decide +kernel⟩

/-- Two requests that overlap count the same breach, and a breach that a scan inserts between the
transaction and the mark is counted in none. -/
theorem breach_not_credited_once :
    let overlapping := scans 0 "CVE-1" ++ posts 1 ++ posts 2 ++ paid 1 "txn_1" ++ paid 2 "txn_2"
    let inserted := scans 0 "CVE-1" ++ posts 1 ++ scans 2 "CVE-2" ++ paid 1 "txn_1"
    ∀ events ∈ [overlapping, inserted],
      Along (creditProgram true).next MarkSucceeds creditStart events ∧
        ¬ CreditedOnce (run (creditProgram true).next creditStart events) := by
  decide +kernel

end ChatmanEcosystem.Console.PatchSla
