import ChatmanEcosystem.Console.LegalHolds

/-!
# No purge under a legal hold

Any interleaving of placements, releases and purges, while entries are
persisted. A purge deletes what the holds allowed when it read them.

Results:

* `Phase.resume_cases`: the ways a call goes on.
* `hold_next`: what a step preserves when it is `Undisturbed`.
* `respectsHolds_of_undisturbed`: a run whose steps are all undisturbed deletes no row of an
  organisation that a hold in force covers.
-/

namespace ChatmanEcosystem.Console.LegalHolds

open Common Common.Concurrent Js
  Rust

/-! ## The property and the condition -/

/-- The hold restricts what happens to the rows of the organisation. -/
def LegalHold.Covers (hold : LegalHold) (orgId : Text) : Prop :=
  hold.scope = .platform ∨ hold.scope = .org ∧ hold.orgId = some orgId.val

instance (hold : LegalHold) (orgId : Text) : Decidable (hold.Covers orgId) := by
  unfold LegalHold.Covers; infer_instance

/-- A placement of a hold that covers the organisation has returned, and no release of the hold has
been stored. -/
def Office.InForce (office : Office) (orgId : Text) : Prop :=
  ∃ hold ∈ office.placed, hold.Covers orgId ∧ hold.holdId ∉ office.ended

instance (office : Office) (orgId : Text) : Decidable (office.InForce orgId) := by
  unfold Office.InForce; infer_instance

/-- The event deletes no row of the organisation while a hold on it is in force. -/
def RespectsHolds (js : JsRuntime) (sha256 : String → String) (orgId : Text)
    (system : System Office Phase) (event : Event Request Answer Persisted) : Prop :=
  system.shared.InForce orgId → ∀ row ∈ system.shared.log.rows, row.orgId = some orgId →
    row.id ∈ ((program js sha256).next system event).shared.log.rows.map (·.id)

instance (js : JsRuntime) (sha256 : String → String) (orgId : Text) (system : System Office Phase)
    (event : Event Request Answer Persisted) :
    Decidable (RespectsHolds js sha256 orgId system event) := by
  unfold RespectsHolds; infer_instance

/-- The call is not a purge that is yet to delete rows of the organisation. -/
def Phase.Excludes (orgId : Text) : Phase → Prop
  | .purge _ _ _ guard => orgId.val ∈ guard.excludeOrgIds
  | _ => True

instance (orgId : Text) (phase : Phase) : Decidable (phase.Excludes orgId) := by
  unfold Phase.Excludes; split <;> infer_instance

/-- The call is a placement that returns next, of a hold that covers the organisation. -/
def Phase.Places (orgId : Text) : Phase → Prop
  | .audit _ _ (.placed hold) => hold.Covers orgId
  | _ => False

instance (orgId : Text) (phase : Phase) : Decidable (phase.Places orgId) := by
  unfold Phase.Places; split <;> infer_instance

/-- When a placement that covers the organisation returns, no purge that does not exclude the
organisation is between its read of the holds and its delete. -/
def Undisturbed (orgId : Text) (system : System Office Phase) :
    Event Request Answer Persisted → Prop
  | .answer i (.audit (.ok _)) => ∀ phase ∈ system.calls[i]?, phase.Places orgId →
    ∀ call ∈ system.calls, call.Excludes orgId
  | _ => True

instance (orgId : Text) (system : System Office Phase) (event : Event Request Answer Persisted) :
    Decidable (Undisturbed orgId system event) := by
  unfold Undisturbed; split <;> infer_instance

/-! ## The invariant -/

/-- The hold is stored as it was placed, or its release has been stored. -/
def Office.Keeps (office : Office) (hold : LegalHold) : Prop :=
  hold.holdId ∈ office.ended ∨ office.holds[hold.holdId]? = some hold ∧ hold.status = .active

/-- What is known of a call: a hold is placed as active, is stored before its placement returns, and
a purge excludes the organisation if a hold on it is in force. -/
def Phase.Sound (orgId : Text) (office : Office) : Phase → Prop
  | .placeWrite hold => hold.status = .active
  | .audit _ _ (.placed hold) => office.Keeps hold
  | .purge _ _ _ guard => office.InForce orgId → orgId.val ∈ guard.excludeOrgIds
  | _ => True

/-- The holds whose placement has returned are kept, and the purges know of them. -/
def assertions (orgId : Text) : Assertions Office Phase Empty where
  shared office := ∀ hold ∈ office.placed, office.Keeps hold
  call := Phase.Sound orgId
  settled := nofun
  owes := nofun

/-! ## How a call goes on -/

/-- A phase that is nothing to the holds. -/
def Phase.Plain (phase : Phase) : Prop := ∀ orgId office, phase.Sound orgId office

variable {js : JsRuntime} {sha256 : String → String}

/-- A persisted entry is one more row. -/
theorem Office.subset_persist (office : Office) (persisted : Persisted) :
    office.log.rows ⊆ (office.persist sha256 persisted).log.rows :=
  List.subset_append_left _ _

theorem Phase.plain_ofExisting (js : JsRuntime) (holdId releasedBy releaseReason : String)
    (existing : Option LegalHold) (now : ℤ) :
    (Phase.ofExisting js holdId releasedBy releaseReason existing now).Plain := by
  intro orgId office
  cases existing with
  | none => trivial
  | some existing =>
    simp only [Phase.ofExisting]
    split_ifs <;> trivial

theorem Phase.plain_ofPurged (js : JsRuntime) (retentionDays : ℚ) (actor : String)
    (guard : LegalHoldPurgeGuard) (purged : AuditLogPurgeResult) (moment : Moment) :
    (Phase.ofPurged js retentionDays actor guard purged moment).Plain := by
  intro orgId office
  simp only [Phase.ofPurged]
  split_ifs <;> trivial

theorem Phase.plain_audited (what : Audited) : (Phase.audited what).Plain := by
  intro orgId office
  cases what <;> trivial

/-- The ways a call goes on. -/
theorem Phase.resume_cases {office : Office} {phase : Phase} {answer : Answer}
    {after : Phase × Office} (h : Phase.resume js sha256 office phase answer = some after) :
    (after.1.Plain ∧ after.2 = office) ∨
    -- a hold is stored
    (∃ hold moment, phase = .placeWrite hold ∧ hold.holdId ∉ office.holds ∧
      after = (.ofPlaced js hold moment,
        { office with holds := office.holds.insert hold.holdId hold })) ∨
    -- a release is stored
    (∃ released releasedBy, phase = .releaseWrite released releasedBy ∧ after.1.Plain ∧
      after.2 = { office with
        holds := office.holds.insert released.holdId released
        ended := released.holdId :: office.ended }) ∨
    -- a purge reads the holds
    (∃ retentionDays actor moment, phase = .guardRead retentionDays actor ∧
      after = (.ofGuard js retentionDays actor (.ofActive (activeHolds js office.holds)) moment,
        office)) ∨
    -- the rows are deleted
    (∃ retentionDays actor cutoff guard, phase = .purge retentionDays actor (some cutoff) guard ∧
      after.1.Plain ∧ after.2 = office.purge js sha256 cutoff guard.excludeOrgIds) ∨
    -- an entry is persisted
    ∃ entry ts what skipped, phase = .audit entry ts what ∧ answer = .audit (.ok skipped) ∧
      after.1.Plain ∧ ∃ log : AuditTable, office.log.rows ⊆ log.rows ∧ after.2 = { office with
        log
        placed := match what with
          | .placed hold => hold :: office.placed
          | _ => office.placed } := by
  unfold Phase.resume at h
  split at h
  · -- `placeWrite` fails
    obtain rfl := Option.some.inj h
    exact .inl ⟨fun _ _ => trivial, rfl⟩
  · split_ifs at h with hfresh
    exact .inr (.inl ⟨_, _, rfl, hfresh, (Option.some.inj h).symm⟩)
  · -- `releaseRead` fails
    obtain rfl := Option.some.inj h
    exact .inl ⟨fun _ _ => trivial, rfl⟩
  · obtain rfl := Option.some.inj h
    exact .inl ⟨Phase.plain_ofExisting _ _ _ _ _ _, rfl⟩
  · -- `releaseWrite` fails
    obtain rfl := Option.some.inj h
    exact .inl ⟨fun _ _ => trivial, rfl⟩
  · obtain rfl := Option.some.inj h
    exact .inr (.inr (.inl ⟨_, _, rfl, fun _ _ => trivial, rfl⟩))
  · -- `pool`
    obtain rfl := Option.some.inj h
    exact .inl ⟨fun _ _ => trivial, rfl⟩
  · obtain rfl := Option.some.inj h
    exact .inl ⟨fun _ _ => trivial, rfl⟩
  · obtain rfl := Option.some.inj h
    exact .inl ⟨fun _ _ => trivial, rfl⟩
  · -- `guardRead`
    rename_i result moment
    rcases result with error | _
    · obtain rfl := Option.some.inj h
      exact .inl ⟨fun _ _ => trivial, rfl⟩
    · exact .inr (.inr (.inr (.inl ⟨_, _, moment, rfl, (Option.some.inj h).symm⟩)))
  · -- `purge` fails
    obtain rfl := Option.some.inj h
    exact .inl ⟨fun _ _ => trivial, rfl⟩
  · obtain rfl := Option.some.inj h
    exact .inl ⟨fun _ _ => trivial, rfl⟩
  · obtain rfl := Option.some.inj h
    exact .inr (.inr (.inr (.inr (.inl ⟨_, _, _, _, rfl, Phase.plain_ofPurged _ _ _ _ _ _, rfl⟩))))
  · -- `receipt`
    obtain rfl := Option.some.inj h
    exact .inl ⟨fun _ _ => trivial, rfl⟩
  · obtain rfl := Option.some.inj h
    exact .inl ⟨fun _ _ => trivial, rfl⟩
  · -- `audit` fails
    obtain rfl := Option.some.inj h
    exact .inl ⟨fun _ _ => trivial, rfl⟩
  · rename_i entry ts what skipped
    obtain rfl := Option.some.inj h
    refine .inr (.inr (.inr (.inr (.inr ⟨entry, ts, what, skipped, rfl, rfl,
      Phase.plain_audited what, ?_⟩))))
    cases skipped with
    | none => exact ⟨office.log, List.Subset.refl _, by cases what <;> rfl⟩
    | some skipped =>
      exact ⟨(office.persist sha256 { ts, skipped, entry }).log, Office.subset_persist office _,
        by cases what <;> rfl⟩
  · cases h

/-! ## What an undisturbed step preserves -/

section

variable {orgId : Text} {office next : Office}

variable {phase : Phase}

/-- What is known of a call stays known, as the holds are kept and no other hold comes into
force. -/
theorem Phase.Sound.mono (hkeeps : ∀ hold, office.Keeps hold → next.Keeps hold)
    (hinForce : next.InForce orgId → office.InForce orgId) (h : phase.Sound orgId office) :
    phase.Sound orgId next := by
  unfold Phase.Sound at h ⊢
  split
  · exact h
  · exact hkeeps _ h
  · exact fun hnext => h (hinForce hnext)
  · trivial

theorem spares_of_keeps (hkeeps : ∀ hold, office.Keeps hold → next.Keeps hold)
    (hinForce : next.InForce orgId → office.InForce orgId) (phase : Phase) :
    (assertions orgId).Spares office next phase :=
  ⟨fun h => h.mono hkeeps hinForce, nofun⟩

/-- What is known of a call says nothing of the log. -/
theorem spares_log (log : AuditTable) (phase : Phase) :
    (assertions orgId).Spares office { office with log } phase :=
  ⟨fun h => h.mono (fun _ hkept => hkept) fun hinForce => hinForce, nofun⟩

variable {hold : LegalHold}

/-- A stored hold stays as it is when another one is stored. -/
theorem Office.Keeps.insert {other : LegalHold} (h : office.Keeps hold)
    (hfresh : other.holdId ∉ office.holds) :
    Office.Keeps { office with holds := office.holds.insert other.holdId other } hold := by
  refine h.imp_right fun ⟨hstored, hactive⟩ => ⟨?_, hactive⟩
  have hne : other.holdId ≠ hold.holdId := by
    intro heq
    rw [heq] at hfresh
    exact hfresh (Std.ExtTreeMap.mem_iff_isSome_getElem?.mpr (by rw [hstored]; rfl))
  show (office.holds.insert other.holdId other)[hold.holdId]? = some hold
  rw [Std.ExtTreeMap.getElem?_insert, if_neg (by simpa using hne)]
  exact hstored

/-- A hold stays as it is until its own release is stored. -/
theorem Office.Keeps.release {released : LegalHold} (h : office.Keeps hold) :
    Office.Keeps { office with
      holds := office.holds.insert released.holdId released
      ended := released.holdId :: office.ended } hold := by
  by_cases heq : released.holdId = hold.holdId
  · exact .inl (by rw [heq]; exact List.mem_cons_self)
  · refine h.imp (List.mem_cons_of_mem _) fun ⟨hstored, hactive⟩ => ⟨?_, hactive⟩
    show (office.holds.insert released.holdId released)[hold.holdId]? = some hold
    rw [Std.ExtTreeMap.getElem?_insert, if_neg (by simpa using heq)]
    exact hstored

/-- A purge that has just read the holds knows of those in force. -/
theorem Phase.sound_ofGuard (hkeeps : ∀ hold ∈ office.placed, office.Keeps hold)
    (retentionDays : ℚ) (actor : String) (moment : Moment) :
    (Phase.ofGuard js retentionDays actor (.ofActive (activeHolds js office.holds)) moment).Sound
      orgId office := by
  unfold Phase.ofGuard
  split_ifs with hblocked
  · trivial
  · rintro ⟨hold, hplaced, hcovers, hended⟩
    obtain ⟨hstored, hactive⟩ := (hkeeps hold hplaced).resolve_left hended
    obtain ⟨hscope, hexcluded⟩ := mem_excludeOrgIds (Bool.eq_false_iff.mpr hblocked)
      (mem_activeHolds.mpr ⟨⟨_, hstored⟩, hactive⟩)
    rcases hcovers with hplatform | ⟨-, horg⟩
    · cases hscope.symm.trans hplatform
    · exact hexcluded orgId horg

/-- After a placement that covers the organisation the purges have to exclude it. -/
theorem Phase.Sound.place {log : AuditTable} (h : phase.Sound orgId office)
    (hexcludes : hold.Covers orgId → phase.Excludes orgId) :
    phase.Sound orgId { office with log, placed := hold :: office.placed } := by
  unfold Phase.Sound at h ⊢
  split
  · exact h
  · exact h
  · rintro ⟨other, hother, hcovers, hended⟩
    rcases List.mem_cons.mp hother with rfl | hother
    · exact hexcludes hcovers
    · exact h ⟨other, hother, hcovers, hended⟩
  · trivial

/-- An undisturbed answer keeps the assertions. -/
theorem hold_answer {system : System Office Phase} {i : ℕ} {answer : Answer}
    {after : Phase × Office} (h : (assertions orgId).Hold system)
    (hundisturbed : Undisturbed orgId system (.answer i answer))
    (hcall : system.calls[i]? = some phase)
    (hresume : Phase.resume js sha256 system.shared phase answer = some after) :
    (assertions orgId).Hold { shared := after.2, calls := system.calls.set i after.1 } := by
  have hsound : phase.Sound orgId system.shared := h.call i phase hcall
  rcases Phase.resume_cases hresume with ⟨hplain, hoffice⟩ | ⟨hold, moment, rfl, hfresh, rfl⟩ |
    ⟨released, releasedBy, rfl, hplain, hoffice⟩ | ⟨retentionDays, actor, moment, rfl, rfl⟩ |
    ⟨retentionDays, actor, cutoff, guard, rfl, hplain, hoffice⟩ |
    ⟨entry, ts, what, skipped, rfl, rfl, hplain, log, -, hoffice⟩
  · rw [hoffice]
    exact h.goesOn hcall (hplain orgId _) (fun _ _ _ _ => trivial) nofun
  · -- the new hold is stored before its placement returns
    have hkeeps : ∀ other, system.shared.Keeps other → Office.Keeps { system.shared with
        holds := system.shared.holds.insert hold.holdId hold } other :=
      fun _ hother => hother.insert hfresh
    refine h.resume hcall (fun other hother => hkeeps other (h.shared other hother))
      (.inr ⟨?_, hsound⟩)
      (fun _ _ _ _ => trivial) (fun _ call _ _ => spares_of_keeps hkeeps ?_ call) nofun
    · exact Std.ExtTreeMap.getElem?_insert_self
    · exact fun hinForce => hinForce
  · -- the end of a hold puts no other one into force
    rw [hoffice]
    refine h.resume hcall (fun other hother => (h.shared other hother).release) (hplain orgId _)
      (fun _ _ _ _ => trivial)
      (fun _ call _ _ => spares_of_keeps (fun _ hother => hother.release) ?_ call) nofun
    rintro ⟨other, hother, hcovers, hended⟩
    exact ⟨other, hother, hcovers, fun hmem => hended (List.mem_cons_of_mem _ hmem)⟩
  · exact h.goesOn hcall (Phase.sound_ofGuard h.shared retentionDays actor moment)
      (fun _ _ _ _ => trivial) nofun
  · rw [hoffice]
    exact h.resume hcall h.shared (hplain orgId _) (fun _ _ _ _ => trivial)
      (fun _ call _ _ => spares_log _ call) nofun
  · rw [hoffice]
    cases what with
    | placed hold =>
      refine h.resume hcall ?_ (hplain orgId _) (fun _ _ _ _ => trivial) ?_ nofun
      · exact List.forall_mem_cons.mpr ⟨hsound, h.shared⟩
      · intro j call _ hj
        refine ⟨fun hcallSound => hcallSound.place fun hcovers => ?_, nofun⟩
        exact hundisturbed _ hcall hcovers call (List.mem_of_getElem? hj)
    | released _ | blocked _ | excluded _ _ _ =>
      exact h.resume hcall h.shared (hplain orgId _) (fun _ _ _ _ => trivial)
        (fun _ call _ _ => spares_log log call) nofun

/-- An undisturbed step keeps the assertions. -/
theorem hold_next (system : System Office Phase) (event : Event Request Answer Persisted)
    (h : (assertions orgId).Hold system) (hundisturbed : Undisturbed orgId system event) :
    (assertions orgId).Hold ((program js sha256).next system event) := by
  refine Assertions.hold_next (C := Undisturbed orgId) ?_ ?_ ?_ system event h hundisturbed
  · intro system request h _
    refine h.enter h.shared ?_ (fun _ _ _ => trivial) (fun _ _ _ => .refl _ _ _) nofun
    cases request with
    | place input holdId now => rfl
    | release holdId releasedBy releaseReason => trivial
    | purge retentionDays actor =>
      show (Phase.enter js (.purge retentionDays actor)).Sound orgId system.shared
      simp only [Phase.enter]
      split <;> trivial
  · intro system i answer phase after h hundisturbed hcall hresume
    exact hold_answer h hundisturbed hcall hresume
  · intro system persisted h _
    exact h.move h.shared (fun _ call _ => spares_log _ call) nofun

/-! ## The purge -/

theorem map_id_rechain (prevHash : String) (rows : List AuditRow) :
    (rechain js sha256 prevHash rows).map (·.id) = rows.map (·.id) := by
  induction rows generalizing prevHash with
  | nil => rfl
  | cons row rest ih => simp only [rechain, List.map_cons, ih]

/-- A purge deletes no row of an organisation that it excludes. -/
theorem mem_purge {cutoff : ℤ} {excludeOrgIds : List String} {rows : List AuditRow} {row : AuditRow}
    (hrow : row ∈ rows) (horg : row.orgId = some orgId) (hexcluded : orgId.val ∈ excludeOrgIds) :
    row.id ∈ (purgeAuditLogRowsOlderThan js sha256 cutoff excludeOrgIds rows).2.map (·.id) := by
  have hkept : purges cutoff excludeOrgIds row = false := by simp [purges, horg, hexcluded]
  simp only [purgeAuditLogRowsOlderThan]
  split_ifs
  · exact List.mem_map_of_mem hrow
  · rw [map_id_rechain]
    exact List.mem_map_of_mem (List.mem_filter.mpr ⟨hrow, by rw [hkept]; rfl⟩)

/-- A step deletes no row of an organisation while a hold on it is in force. -/
theorem respectsHolds_of_hold (system : System Office Phase)
    (event : Event Request Answer Persisted) (h : (assertions orgId).Hold system) :
    RespectsHolds js sha256 orgId system event := by
  intro hinForce row hrow horg
  have hkept : ∀ log : AuditTable, system.shared.log.rows ⊆ log.rows →
      row.id ∈ log.rows.map (·.id) := fun log hrows => List.mem_map_of_mem (hrows hrow)
  have hsame := hkept system.shared.log (List.Subset.refl _)
  cases event with
  | call request => exact hsame
  | move persisted => exact hkept _ (Office.subset_persist system.shared persisted)
  | answer i answer =>
    rcases (program js sha256).next_answer_cases system i answer with
      hnext | ⟨phase, after, hcall, hresume, hnext⟩
    · rw [hnext]
      exact hsame
    · rw [hnext]
      show row.id ∈ after.2.log.rows.map (·.id)
      have hsound : phase.Sound orgId system.shared := h.call i phase hcall
      rcases Phase.resume_cases hresume with ⟨-, hoffice⟩ | ⟨hold, moment, -, -, rfl⟩ |
        ⟨released, releasedBy, -, -, hoffice⟩ | ⟨retentionDays, actor, moment, -, rfl⟩ |
        ⟨retentionDays, actor, cutoff, guard, rfl, -, hoffice⟩ |
        ⟨entry, ts, what, skipped, -, -, -, log, hrows, hoffice⟩
      · rw [hoffice]
        exact hsame
      · exact hsame
      · rw [hoffice]
        exact hsame
      · exact hsame
      · -- the purge knows of the hold
        rw [hoffice]
        exact mem_purge hrow horg (hsound hinForce)
      · rw [hoffice]
        exact hkept log hrows

end

/-! ## Runs -/

/-- No hold, no row. -/
def init : System Office Phase :=
  { shared := { holds := ∅, log := .empty, placed := [], ended := [] }, calls := [] }

/-- In every run whose steps are all undisturbed for an organisation, no row of the organisation is
deleted while a hold that covers it is in force. -/
theorem respectsHolds_of_undisturbed (js : JsRuntime) (sha256 : String → String) (orgId : Text)
    (events : List (Event Request Answer Persisted))
    (h : Along (program js sha256).next (Undisturbed orgId) init events) :
    Along (program js sha256).next (RespectsHolds js sha256 orgId) init events := by
  have hinit : (assertions orgId).Hold init :=
    { shared := fun _ hplaced => (by cases hplaced)
      call := fun _ _ hcall => (by cases hcall)
      apart := fun _ _ _ _ _ hcall => (by cases hcall)
      accounted := nofun }
  exact along_of_along hold_next (fun system event hhold _ => respectsHolds_of_hold system event
    hhold)
    hinit h

theorem acme_ne : "acme" ≠ "" := by decide

/-- The organisation `acme`. -/
def acme : Text := ⟨"acme", acme_ne⟩

/-- An old row of the organisation. -/
def oldRow : Event Request Answer Persisted :=
  .move { ts := 0, skipped := 0,
          entry := holdEntry gregorian (some "acme") "ann" "/api/status" "r-0" 0 }

/-- A year and some months after the old row. -/
def later : Moment := { now := 40000000000, requestId := "r-1" }

/-- A hold, on the organisation or on the platform. -/
def places (scope : LegalHoldScope) : Request :=
  .place { scope, orgId := some "acme", name := "Doe v. Acme", reason := "litigation",
           createdBy := "counsel" } "hold-1" later.now

/-- The hold is stored, and its placement returns. -/
def stored (i : ℕ) : List (Event Request Answer Persisted) :=
  [.answer i (.write (.ok ()) later), .answer i (.audit (.ok (some 0)))]

/-- A purge up to its transaction. -/
def readsHolds (i : ℕ) : List (Event Request Answer Persisted) :=
  [.answer i (.pool (.ok true)), .answer i (.read (.ok ()) later)]

/-- A hold that a purge respects, and a purge after its release. -/
theorem respectsHolds_released :
    let held := [oldRow, .call (places .org)] ++ stored 0 ++ [.call (.purge (some 365) "cron")] ++
      readsHolds 1 ++ [.answer 1 (.purge (.ok ()) later), .answer 1 (.audit (.ok (some 0)))]
    let released := [.call (.release "hold-1" "ann" "settled"), .answer 2 (.read (.ok ()) later),
      .answer 2 (.write (.ok ()) later), .answer 2 (.audit (.ok (some 0))),
      .call (.purge (some 365) "cron")] ++ readsHolds 3 ++ [.answer 3 (.purge (.ok ()) later)]
    (run (program gregorian id).next init held).shared.log.rows.map (·.id) = [1, 2, 3] ∧
    (run (program gregorian id).next init (held ++ released)).shared.log.rows.map (·.id) =
      [2, 3, 4] ∧
    Along (program gregorian id).next (RespectsHolds gregorian id acme) init
      (held ++ released) := by
  intro held released
  exact ⟨by decide +kernel, by decide +kernel,
    respectsHolds_of_undisturbed gregorian id acme (held ++ released) (by decide +kernel)⟩

/-- A hold that is placed between the read and the delete of a purge does not stop the delete. -/
theorem purged_under_hold :
    let events (scope : LegalHoldScope) := [oldRow, .call (.purge (some 365) "cron")] ++
      readsHolds 0 ++ [.call (places scope)] ++ stored 1 ++ [.answer 0 (.purge (.ok ()) later)]
    ¬ Along (program gregorian id).next (RespectsHolds gregorian id acme) init (events .org) ∧
      ¬ Along (program gregorian id).next (RespectsHolds gregorian id acme) init
        (events .platform) := by
  decide +kernel

end ChatmanEcosystem.Console.LegalHolds
