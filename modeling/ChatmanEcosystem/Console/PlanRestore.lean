import ChatmanEcosystem.Console.PlanStates

/-!
# Suspend, then restore

Whether a namespace gets its quota back, over any sequence of ticks, plan-state
changes and updates of the quotas' status. A restoration is a merge patch of what
was saved, and a suspension saves what the status says.

Results:

* `kept_next`: what an event preserves when it is `Undisturbed`.
* `restoresQuota_of_undisturbed`: in a run whose events are all undisturbed, every tick that
  reports a namespace restored leaves it with its original quota.
-/

namespace ChatmanEcosystem.Console.PlanStates

open Common Js

variable {js : JsRuntime} {tenantNamespace : String} {cluster : Cluster} {original : Option HardMap}

/-! ## The property and the condition -/

/-- The hard map of a namespace, if it has a quota. -/
def Cluster.hard (cluster : Cluster) (tenantNamespace : String) : Option HardMap :=
  cluster.quotas[tenantNamespace]?.map (·.spec)

/-- A tick that reports the namespace restored leaves it with its original quota. -/
def RestoresQuota (js : JsRuntime) (tenantNamespace : String) (original : Option HardMap)
    (cluster : Cluster) : Event → Prop
  | .tick tick => Restored js tenantNamespace cluster tick →
    (cluster.next js (.tick tick)).hard tenantNamespace = original
  | _ => True

/-- A tick that suspends the quota of the namespace finds all the keys of `SUSPENDED_HARD` in it,
and its status up to date, and its closing write succeeds. -/
def Undisturbed (js : JsRuntime) (tenantNamespace : String) (cluster : Cluster) : Event → Prop
  | .tick tick => Suspends js tenantNamespace cluster tick →
    tick.write = .ok () ∧ ∀ quota ∈ cluster.quotas[tenantNamespace]?,
      quota.status = some quota.spec ∧ ∀ key ∈ suspendedHard.keys, key ∈ quota.spec
  | _ => True

instance (js : JsRuntime) (tenantNamespace : String) (cluster : Cluster) (tick : Tick) :
    Decidable (Suspends js tenantNamespace cluster tick) := by
  unfold Suspends; infer_instance

instance (js : JsRuntime) (tenantNamespace : String) (cluster : Cluster) (tick : Tick) :
    Decidable (Restored js tenantNamespace cluster tick) := by
  unfold Restored; infer_instance

instance (js : JsRuntime) (tenantNamespace : String) (cluster : Cluster) (event : Event) :
    Decidable (Undisturbed js tenantNamespace cluster event) := by
  unfold Undisturbed; split <;> infer_instance

instance (js : JsRuntime) (tenantNamespace : String) (original : Option HardMap) (cluster : Cluster)
    (event : Event) : Decidable (RestoresQuota js tenantNamespace original cluster event) := by
  unfold RestoresQuota; split <;> infer_instance

/-! ## Merge patches -/

variable {hard : HardMap}

/-- A merge patch with the original restores it, unless keys have been added. -/
theorem union_eq_right {original : HardMap} (h : ∀ key ∈ hard, key ∈ original) :
    hard ∪ original = original := by
  refine Std.ExtTreeMap.ext_getElem? fun key => ?_
  rw [Std.ExtTreeMap.getElem?_union]
  cases hkey : original[key]? with
  | some value => rfl
  | none =>
    have hnot : key ∉ hard := by
      intro hmem
      have hsome := Std.ExtTreeMap.mem_iff_isSome_getElem?.mp (h key hmem)
      rw [hkey] at hsome
      cases hsome
    rw [Std.ExtTreeMap.getElem?_eq_none hnot]
    rfl

theorem mem_union_suspended {original : HardMap} (h : ∀ key ∈ hard, key ∈ original)
    (hsuspended : ∀ key ∈ suspendedHard.keys, key ∈ original) :
    ∀ key ∈ hard ∪ suspendedHard, key ∈ original := by
  intro key hkey
  rcases Std.ExtTreeMap.mem_union_iff.mp hkey with hold | hnew
  · exact h key hold
  · exact hsuspended key (Std.ExtTreeMap.mem_keys.mpr hnew)

/-! ## The invariant -/

/-- Before a suspension the quota is the original; while it is enforced the original is saved and
has every key of the quota. -/
def Kept (tenantNamespace : String) (original : Option HardMap) (cluster : Cluster) : Prop :=
  tenantNamespace ∉ cluster.configMap.enforced ∧ cluster.hard tenantNamespace = original ∨
  ∃ quota hard, cluster.configMap.keys tenantNamespace = (some hard, true) ∧ original = some hard ∧
    cluster.quotas[tenantNamespace]? = some quota ∧ ∀ key ∈ quota.spec, key ∈ hard

variable {next : Cluster}

/-- The keys and the hard map of a namespace decide whether it is kept. -/
theorem Kept.of_same (h : Kept tenantNamespace original cluster)
    (hkeys : next.configMap.keys tenantNamespace = cluster.configMap.keys tenantNamespace)
    (hhard : next.hard tenantNamespace = cluster.hard tenantNamespace) :
    Kept tenantNamespace original next := by
  rcases h with ⟨henforced, horiginal⟩ | ⟨quota, hard, hsaved, horiginal, hquota, hmem⟩
  · refine .inl ⟨fun hmem => henforced ?_, hhard.trans horiginal⟩
    have hsame := congrArg Prod.snd hkeys
    exact of_decide_eq_true (hsame.symm.trans (decide_eq_true hmem))
  · have hspec : next.hard tenantNamespace = some quota.spec := by
      rw [hhard, Cluster.hard, hquota]
      rfl
    obtain ⟨other, hother, hsame⟩ := Option.map_eq_some_iff.mp hspec
    exact .inr ⟨other, hard, hkeys.trans hsaved, horiginal, hother, hsame ▸ hmem⟩

variable {quota : ResourceQuota}

/-- What a tick that suspends saves is the original. -/
theorem kept_suspended {tick : Tick} (h : Kept tenantNamespace original cluster)
    (hsuspends : Suspends js tenantNamespace cluster tick)
    (hundisturbed : Undisturbed js tenantNamespace cluster (.tick tick))
    (hstored : cluster.quotas[tenantNamespace]? = some quota)
    (hquota : next.quotas[tenantNamespace]? = some (patchResourceQuotaHard quota suspendedHard))
    (hkeys : next.configMap.keys tenantNamespace =
      if tick.write = .ok () then (some (quota.status.getD ∅), true)
      else cluster.configMap.keys tenantNamespace) : Kept tenantNamespace original next := by
  obtain ⟨hwrite, hall⟩ := hundisturbed hsuspends
  obtain ⟨hstatus, hkeysIn⟩ := hall quota hstored
  have hnot : tenantNamespace ∉ cluster.configMap.enforced := hsuspends.2.2.2.1
  have hspec : original = some quota.spec := by
    rcases h with ⟨-, horiginal⟩ | ⟨_, _, hsaved, -⟩
    · rw [← horiginal, Cluster.hard, hstored]
      rfl
    · exact absurd (of_decide_eq_true (congrArg Prod.snd hsaved)) hnot
  rw [if_pos hwrite, hstatus] at hkeys
  exact .inr ⟨_, quota.spec, hkeys, hspec, hquota, mem_union_suspended (fun _ hkey => hkey) hkeysIn⟩

/-- The keys of an enforced namespace name the original. -/
theorem Kept.saved (h : Kept tenantNamespace original cluster)
    (hsaved : cluster.configMap.keys tenantNamespace = (some hard, true))
    (hstored : cluster.quotas[tenantNamespace]? = some quota) :
    original = some hard ∧ ∀ key ∈ quota.spec, key ∈ hard := by
  rcases h with ⟨henforced, -⟩ | ⟨other, saved, hkeys, horiginal, hother, hmem⟩
  · exact absurd (of_decide_eq_true (congrArg Prod.snd hsaved)) henforced
  · obtain rfl := Option.some.inj (hother.symm.trans hstored)
    obtain rfl := Option.some.inj (congrArg Prod.fst (hkeys.symm.trans hsaved))
    exact ⟨horiginal, hmem⟩

/-- A tick that patches a quota back leaves it with its original. -/
theorem hard_restored (h : Kept tenantNamespace original cluster)
    (hsaved : cluster.configMap.keys tenantNamespace = (some hard, true))
    (hstored : cluster.quotas[tenantNamespace]? = some quota)
    (hquota : next.quotas[tenantNamespace]? = some (patchResourceQuotaHard quota hard)) :
    next.hard tenantNamespace = original := by
  obtain ⟨horiginal, hmem⟩ := h.saved hsaved hstored
  rw [Cluster.hard, hquota, horiginal]
  exact congrArg some (union_eq_right hmem)

/-! ## Events -/

/-- An undisturbed event keeps the original. -/
theorem kept_next (cluster : Cluster) (event : Event) (h : Kept tenantNamespace original cluster)
    (hundisturbed : Undisturbed js tenantNamespace cluster event) :
    Kept tenantNamespace original (cluster.next js event) := by
  cases event with
  | setPlanState record => exact h.of_same rfl rfl
  | sync other =>
    refine h.of_same rfl ?_
    show ((cluster.quotas.modify other _)[tenantNamespace]?).map _ = _
    rw [Std.ExtTreeMap.getElem?_modify]
    split_ifs with hother
    · rw [Std.LawfulEqCmp.compare_eq_iff_eq.mp hother, Option.map_map]
      rfl
    · rfl
  | tick tick =>
    rcases tick_cases js tenantNamespace cluster tick with ⟨hquota, hkeys, -⟩ |
      ⟨quota, hsuspends, hstored, hquota, hkeys, -⟩ | ⟨quota, hard, hsaved, hstored, hquota, hkeys⟩
    · exact h.of_same hkeys (congrArg (Option.map ResourceQuota.spec) hquota)
    · exact kept_suspended h hsuspends hundisturbed hstored hquota hkeys
    · have hhard := hard_restored h hsaved hstored hquota
      obtain ⟨horiginal, hmem⟩ := h.saved hsaved hstored
      split_ifs at hkeys with hwrite
      · refine .inl ⟨fun henforced => ?_, hhard⟩
        have hsame := congrArg Prod.snd hkeys
        exact absurd henforced (of_decide_eq_false hsame)
      · have hspec : (patchResourceQuotaHard quota hard).spec = hard := union_eq_right hmem
        exact .inr ⟨_, hard, hkeys.trans hsaved, horiginal, hquota, by
          rw [hspec]
          exact fun _ hkey => hkey⟩

/-- A tick that reports a namespace restored has patched its quota back. -/
theorem restoresQuota_of_kept (cluster : Cluster) (event : Event)
    (h : Kept tenantNamespace original cluster) :
    RestoresQuota js tenantNamespace original cluster event := by
  cases event with
  | setPlanState record => trivial
  | sync other => trivial
  | tick tick =>
    intro hrestored
    rcases tick_cases js tenantNamespace cluster tick with ⟨-, -, hnot⟩ | ⟨_, _, _, _, _, hnot⟩ |
      ⟨quota, hard, hsaved, hstored, hquota, -⟩
    · exact absurd hrestored hnot
    · exact absurd hrestored hnot
    · exact hard_restored h hsaved hstored hquota

/-! ## Runs -/

/-- Any plan states and any quotas, before the first tick. -/
def Cluster.init (state : Std.ExtTreeMap String PlanStateRecord) (quotas : QuotaStore) : Cluster :=
  { configMap := { state, savedHard := ∅, enforced := ∅ }, quotas }

/-- In every run whose events are all undisturbed for a namespace, every tick that reports the
namespace restored leaves it with its original hard map. -/
theorem restoresQuota_of_undisturbed (js : JsRuntime) (tenantNamespace : String)
    (state : Std.ExtTreeMap String PlanStateRecord) (quotas : QuotaStore) (events : List Event)
    (h : Along (Cluster.next js) (Undisturbed js tenantNamespace) (.init state quotas) events) :
    Along (Cluster.next js)
      (RestoresQuota js tenantNamespace ((Cluster.init state quotas).hard tenantNamespace))
      (.init state quotas) events := by
  have hinit : Kept tenantNamespace ((Cluster.init state quotas).hard tenantNamespace)
      (.init state quotas) := .inl ⟨Std.ExtTreeSet.not_mem_empty, rfl⟩
  exact along_of_along kept_next (fun cluster event hkept _ => restoresQuota_of_kept cluster event
    hkept)
    hinit h

/-- A tick without Stripe credentials. -/
def plainTick (write : K8sResult Unit) : Tick where
  read := .ok ()
  credentials := false
  subscriptions := .ok ∅
  quotaRead _ := .ok ()
  quotaPatch _ := .ok ()
  write
  now := "2026-01-31T00:00:00.000Z"

/-- An administrator sets the plan state of the namespace `gymact`. -/
def sets (planState : PlanState) : Event :=
  .setPlanState { tenantNamespace := "gymact", planState, source := "admin:ann",
                  setAt := "2026-01-31T00:00:00.000Z" }

/-- The quota of the namespace, with this hard map in its specification and its status. -/
def quotaOf (spec : HardMap) (status : Option HardMap) : QuotaStore :=
  (∅ : QuotaStore).insert "gymact" { name := "gymact-quota", spec, status }

/-- A quota of every resource of `SUSPENDED_HARD`, and of storage. -/
def fullHard : HardMap :=
  .ofList [("pods", "10"), ("limits.cpu", "4"), ("limits.memory", "8Gi"), ("requests.cpu", "2"),
    ("requests.memory", "4Gi"), ("requests.storage", "20Gi")]

/-- A namespace that is suspended and restored twice. -/
theorem restoresQuota_twice :
    let cycle := [sets .suspended, .tick (plainTick (.ok ())), sets .active]
    let events := cycle ++ [.tick (plainTick (.error "conflict")), .tick (plainTick (.ok ())),
      .sync "gymact"] ++ cycle ++ [.tick (plainTick (.ok ()))]
    let start := Cluster.init ∅ (quotaOf fullHard (some fullHard))
    Restored gregorian "gymact" (run (Cluster.next gregorian) start (events.take 9))
      (plainTick (.ok ())) ∧
    Along (Cluster.next gregorian) (RestoresQuota gregorian "gymact" (some fullHard)) start
      events := by
  intro cycle events start
  have hrestores := restoresQuota_of_undisturbed gregorian "gymact" ∅
    (quotaOf fullHard (some fullHard)) events (by decide +kernel)
  have horiginal : start.hard "gymact" = some fullHard := by decide +kernel
  exact ⟨by decide +kernel, horiginal ▸ hrestores⟩

/-- A quota does not come back if it lacks a key of `SUSPENDED_HARD`, if the closing write of a
suspension has failed, or if its status was not up to date. -/
theorem quota_not_restored :
    let podsOnly : HardMap := .ofList [("pods", "10")]
    let cycle := [sets .suspended, .tick (plainTick (.ok ())), sets .active,
      .tick (plainTick (.ok ()))]
    let unwritten := [sets .suspended, .tick (plainTick (.error "timeout")), .sync "gymact"] ++
      cycle
    ¬ Along (Cluster.next gregorian) (RestoresQuota gregorian "gymact" (some podsOnly))
        (.init ∅ (quotaOf podsOnly (some podsOnly))) cycle ∧
      ¬ Along (Cluster.next gregorian) (RestoresQuota gregorian "gymact" (some fullHard))
        (.init ∅ (quotaOf fullHard (some fullHard))) unwritten ∧
      ¬ Along (Cluster.next gregorian) (RestoresQuota gregorian "gymact" (some fullHard))
        (.init ∅ (quotaOf fullHard none)) cycle := by
  decide +kernel

end ChatmanEcosystem.Console.PlanStates
