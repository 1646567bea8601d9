import ChatmanEcosystem.Common.Fallible
import ChatmanEcosystem.Common.Transport
import ChatmanEcosystem.Py.Dict
import Mathlib.Algebra.Order.Ring.Rat
import Mathlib.Data.Finset.Dedup
import Mathlib.Data.List.Sort
import Mathlib.Data.Prod.Lex
import Mathlib.Tactic.FieldSimp

/-!
# Kantorovich certificates

Model of `FiniteMeasure`, `GroundMetric`, `TransportPlan`, `DualPotential` and
`verify_certificate` (`scripts/release_train/kantorovich_dual_crown/measure.py`,
`metric.py`, `plan.py`, `dual.py` and `certificate.py`), with fractions as
rational numbers. What the constructors `of` check are fields of the types.

`verify_certificate` checks the marginals of the plan, the feasibility of the
potential and that the cost of the plan equals the value of the potential. Its
last loop looks for slack on the rows that move something; by then there is
none.

Results:

* `verifyMarginals_eq_ok`, `requireFeasible_eq_ok`, `objective_eq_ok`: what each
  check says.
* `certificate_iff`: when a certificate is issued, that the last loop refuses
  nothing, and that the certified cost is optimal on both sides.
-/

namespace ChatmanEcosystem.Kantorovich

open Common Py Rust

/-! ## Model -/

/-- The codes of `Refused`, with their details. -/
inductive Refused
  | emptyMeasure
  | negativeMass (key : String)
  | zeroMass
  | invalidMetricShape
  | nonzeroDiagonal
  | invalidMetricSymmetry
  | triangleViolation
  | metricSupportGap
  | negativeFlow
  | planSupportGap
  | marginalMismatch
  | dualSupportGap
  | dualInfeasible (a b : String)
  | strongDualityGap (primal dual : ℚ)
  | negativeDualSlack
  | complementarySlacknessViolation (a b : String)
  deriving DecidableEq

/-- `FiniteMeasure` (lines 4–6). -/
structure FiniteMeasure where
  mass : List (String × ℚ)
  nodup : (mass.map Prod.fst).Nodup
  positive : ∀ item ∈ mass, 0 < item.2
  normalised : (mass.map Prod.snd).sum = 1

namespace FiniteMeasure

/-- `tuple((k, q/total) for k, q in vals if q)` (line 17). -/
def normalise (vals : List (String × ℚ)) (total : ℚ) : List (String × ℚ) :=
  (vals.filter (·.2 ≠ 0)).map fun item => (item.1, item.2 / total)

theorem nodup_normalise {vals : List (String × ℚ)} {total : ℚ}
    (h : (vals.map Prod.fst).Nodup) : ((normalise vals total).map Prod.fst).Nodup := by
  have hkeys : (normalise vals total).map Prod.fst = (vals.filter (·.2 ≠ 0)).map Prod.fst := by
    rw [normalise, List.map_map]
    rfl
  rw [hkeys]
  exact h.sublist (List.filter_sublist.map _)

theorem sum_normalise (vals : List (String × ℚ)) (total : ℚ) :
    ((normalise vals total).map Prod.snd).sum = (vals.map Prod.snd).sum / total := by
  induction vals with
  | nil => simp [normalise]
  | cons item vals ih =>
    rw [List.map_cons, List.sum_cons, add_div, ← ih, normalise, List.filter_cons]
    by_cases hzero : item.2 = 0
    · simp [hzero, normalise]
    · simp [hzero, normalise]

/-- `of` (lines 8–17), of a dictionary. -/
def of (mapping : List (String × ℚ)) (hkeys : (mapping.map Prod.fst).Nodup) :
    Except Refused FiniteMeasure :=
  let vals := mapping.insertionSort (·.1 ≤ ·.1)
  if mapping = [] then .error .emptyMeasure
  else match h : vals.find? (·.2 < 0) with
  | some item => .error (.negativeMass item.1)
  | none =>
    let total := (vals.map Prod.snd).sum
    if htotal : total ≤ 0 then .error .zeroMass
    else .ok {
      mass := normalise vals total
      nodup := nodup_normalise
        (((List.perm_insertionSort _ mapping).map Prod.fst).nodup_iff.mpr hkeys)
      positive := fun item hitem => by
        obtain ⟨raw, hraw, rfl⟩ := List.mem_map.mp hitem
        obtain ⟨hmem, hne⟩ := List.mem_filter.mp hraw
        have hnonneg : ¬ raw.2 < 0 := by simpa using List.find?_eq_none.mp h raw hmem
        exact div_pos (lt_of_le_of_ne (not_lt.mp hnonneg) (Ne.symm (of_decide_eq_true hne)))
          (not_le.mp htotal)
      normalised := by
        rw [sum_normalise]
        exact div_self (not_le.mp htotal).ne' }

/-- `as_dict` (line 18). -/
def asDict (measure : FiniteMeasure) : List (String × ℚ) := ofPairs measure.mass

/-- `support` (line 20). -/
def support (measure : FiniteMeasure) : List String := measure.mass.map Prod.fst

/-- `measure.as_dict()[k]`. -/
def get (measure : FiniteMeasure) (key : String) : ℚ := (measure.asDict.lookup key).getD 0

end FiniteMeasure

/-- `c[i][j]`. -/
def entry (costs : List (List ℚ)) (i j : ℕ) : ℚ := (costs.getD i []).getD j 0

/-- The checks of `GroundMetric.of` (lines 9–17). -/
def checkMetric (labels : List String) (costs : List (List ℚ)) : Except Refused Unit := do
  let n := labels.length
  ensure (¬ (n = 0 ∨ labels.dedup.length ≠ n ∨ costs.length ≠ n ∨ ∃ row ∈ costs, row.length ≠ n))
    .invalidMetricShape
  (List.range n).forM fun i => do
    ensure (entry costs i i = 0) .nonzeroDiagonal
    (List.range n).forM fun j => do
      ensure (¬ (entry costs i j < 0 ∨ entry costs i j ≠ entry costs j i)) .invalidMetricSymmetry
      (List.range n).forM fun k =>
        ensure (¬ entry costs i k > entry costs i j + entry costs j k) .triangleViolation

/-- `GroundMetric` (lines 4–6). -/
structure GroundMetric where
  labels : List String
  costs : List (List ℚ)
  checked : checkMetric labels costs = .ok ()

/-- `GroundMetric.of` (lines 8–18). -/
def GroundMetric.of (labels : List String) (costs : List (List ℚ)) :
    Except Refused GroundMetric :=
  match h : checkMetric labels costs with
  | .error refusal => .error refusal
  | .ok () => .ok ⟨labels, costs, h⟩

/-- `GroundMetric.cost` (lines 19–21). -/
def GroundMetric.cost (metric : GroundMetric) (a b : String) : Except Refused ℚ :=
  match metric.labels.idxOf? a, metric.labels.idxOf? b with
  | some i, some j => .ok (entry metric.costs i j)
  | _, _ => .error .metricSupportGap

/-- A row `(a, b, x)` of a plan. -/
structure Flow where
  source : String
  target : String
  amount : ℚ
  deriving DecidableEq

/-- `TransportPlan` (lines 4–6). -/
structure TransportPlan where
  flow : List Flow
  positive : ∀ row ∈ flow, 0 < row.amount

namespace TransportPlan

/-- `of` (lines 8–14). -/
def of (flow : List Flow) : Except Refused TransportPlan :=
  if h : ∃ row ∈ flow, row.amount < 0 then .error .negativeFlow
  else
    let key : Flow → String ×ₗ String ×ₗ ℚ := fun row =>
      toLex (row.source, toLex (row.target, row.amount))
    .ok {
      flow := (flow.filter (·.amount ≠ 0)).insertionSort (key · ≤ key ·)
      positive := fun row hrow => by
        obtain ⟨hmem, hne⟩ := List.mem_filter.mp ((List.perm_insertionSort _ _).mem_iff.mp hrow)
        push Not at h
        exact lt_of_le_of_ne (h row hmem) (Ne.symm (of_decide_eq_true hne)) }

/-- The body of the loop of `verify_marginals` (lines 17–19). -/
def move (source target : FiniteMeasure) (sums : (String → ℚ) × (String → ℚ)) (row : Flow) :
    Except Refused ((String → ℚ) × (String → ℚ)) := do
  ensure (row.source ∈ source.support ∧ row.target ∈ target.support) .planSupportGap
  return (Function.update sums.1 row.source (sums.1 row.source + row.amount),
    Function.update sums.2 row.target (sums.2 row.target + row.amount))

/-- `verify_marginals` (lines 15–21). -/
def verifyMarginals (plan : TransportPlan) (source target : FiniteMeasure) :
    Except Refused Unit := do
  let (s, t) ← plan.flow.foldlM (move source target) (fun _ => 0, fun _ => 0)
  ensure ((∀ item ∈ source.mass, s item.1 = item.2) ∧ ∀ item ∈ target.mass, t item.1 = item.2)
    .marginalMismatch

/-- `cost` (line 22). -/
def cost (plan : TransportPlan) (metric : GroundMetric) : Except Refused ℚ := do
  let costs ← plan.flow.mapM fun row => do
    return row.amount * (← metric.cost row.source row.target)
  return costs.sum

end TransportPlan

/-- `DualPotential` (lines 4–6). -/
structure DualPotential where
  source : List (String × ℚ)
  target : List (String × ℚ)
  deriving DecidableEq

/-- `dict(items)[k]`. -/
def potentialAt (items : List (String × ℚ)) (key : String) : ℚ :=
  ((ofPairs items).lookup key).getD 0

namespace DualPotential

/-- `of` (lines 7–9), of two dictionaries. -/
def of (source target : List (String × ℚ)) : DualPotential :=
  ⟨source.insertionSort (toLex · ≤ toLex ·), target.insertionSort (toLex · ≤ toLex ·)⟩

/-- `objective` (lines 10–13). -/
def objective (dual : DualPotential) (p q : FiniteMeasure) : Except Refused ℚ := do
  ensure (((ofPairs dual.source).map Prod.fst).toFinset = p.support.toFinset ∧
    ((ofPairs dual.target).map Prod.fst).toFinset = q.support.toFinset) .dualSupportGap
  return (p.support.map fun k => p.get k * potentialAt dual.source k).sum +
    (q.support.map fun k => q.get k * potentialAt dual.target k).sum

/-- `require_feasible` (lines 14–18). -/
def requireFeasible (dual : DualPotential) (metric : GroundMetric) : Except Refused Unit :=
  dual.source.forM fun left => dual.target.forM fun right => do
    let cost ← metric.cost left.1 right.1
    ensure (¬ left.2 + right.2 > cost) (.dualInfeasible left.1 right.1)

end DualPotential

/-- `KantorovichCertificate` (lines 4–6). -/
structure KantorovichCertificate where
  primalCost : ℚ
  dualValue : ℚ
  maxSlack : ℚ
  tightEdges : ℕ
  deriving DecidableEq

/-- The body of the loop of `verify_certificate` (lines 12–18). -/
def tighten (metric : GroundMetric) (dual : DualPotential) (state : ℚ × ℕ) (row : Flow) :
    Except Refused (ℚ × ℕ) := do
  let cost ← metric.cost row.source row.target
  let slack := cost - potentialAt dual.source row.source - potentialAt dual.target row.target
  ensure (¬ slack < 0) .negativeDualSlack
  if row.amount > 0 then
    ensure (slack = 0) (.complementarySlacknessViolation row.source row.target)
    return (max state.1 slack, state.2 + 1)
  else return (max state.1 slack, state.2)

/-- `verify_certificate` (lines 7–19). -/
def verifyCertificate (source target : FiniteMeasure) (metric : GroundMetric)
    (plan : TransportPlan) (dual : DualPotential) : Except Refused KantorovichCertificate := do
  plan.verifyMarginals source target
  dual.requireFeasible metric
  let pc ← plan.cost metric
  let dv ← dual.objective source target
  ensure (pc = dv) (.strongDualityGap pc dv)
  let (mx, tight) ← plan.flow.foldlM (tighten metric dual) (0, 0)
  return ⟨pc, dv, mx, tight⟩

/-! ## What a certificate stands for -/

/-- The plan leads from the supports to each other with the given marginals. -/
structure HasMarginals (plan : TransportPlan) (source target : FiniteMeasure) : Prop where
  source_mem : ∀ row ∈ plan.flow, row.source ∈ source.support
  target_mem : ∀ row ∈ plan.flow, row.target ∈ target.support
  source_total : ∀ item ∈ source.mass,
    Transport.total Flow.source Flow.amount plan.flow item.1 = item.2
  target_total : ∀ item ∈ target.mass,
    Transport.total Flow.target Flow.amount plan.flow item.1 = item.2

/-- The potential is defined on exactly the supports. -/
structure Covers (dual : DualPotential) (source target : FiniteMeasure) : Prop where
  source : ∀ key, key ∈ dual.source.map Prod.fst ↔ key ∈ source.support
  target : ∀ key, key ∈ dual.target.map Prod.fst ↔ key ∈ target.support

/-- The potential is nowhere above the cost, and the metric knows the labels. -/
def Feasible (metric : GroundMetric) (dual : DualPotential) : Prop :=
  ∀ left ∈ dual.source, ∀ right ∈ dual.target, ∃ cost,
    metric.cost left.1 right.1 = .ok cost ∧ left.2 + right.2 ≤ cost

/-- What is certified. -/
structure Certified (source target : FiniteMeasure) (metric : GroundMetric)
    (plan : TransportPlan) (dual : DualPotential) : Prop where
  marginals : HasMarginals plan source target
  covers : Covers dual source target
  feasible : Feasible metric dual
  noGap : ∃ value, plan.cost metric = .ok value ∧ dual.objective source target = .ok value

variable {source target : FiniteMeasure} {metric : GroundMetric} {plan : TransportPlan}
  {dual : DualPotential} {rows : List Flow}

/-! ## The marginals -/

theorem foldlM_move {sums : (String → ℚ) × (String → ℚ)} {s t : String → ℚ} :
    rows.foldlM (TransportPlan.move source target) sums = .ok (s, t) ↔
      (∀ row ∈ rows, row.source ∈ source.support ∧ row.target ∈ target.support) ∧
      s = (fun k => sums.1 k + Transport.total Flow.source Flow.amount rows k) ∧
      t = (fun k => sums.2 k + Transport.total Flow.target Flow.amount rows k) := by
  induction rows generalizing sums with
  | nil =>
    rw [List.foldlM_nil, pure_eq_ok]
    simp [Prod.ext_iff, eq_comm]
  | cons row rows ih =>
    have hadd : ∀ (sum : String → ℚ) (key : Flow → String),
        (fun k => Function.update sum (key row) (sum (key row) + row.amount) k +
          Transport.total key Flow.amount rows k) =
        fun k => sum k + Transport.total key Flow.amount (row :: rows) k := by
      intro sum key
      funext k
      rw [Transport.total_cons]
      by_cases hk : k = key row
      · rw [hk, Function.update_self, if_pos rfl, add_assoc]
      · rw [Function.update_of_ne hk, if_neg hk, zero_add]
    simp only [List.foldlM_cons, bind_eq_ok, TransportPlan.move, ensure_eq_ok, pure_eq_ok,
      exists_const, exists_and_left, exists_eq_left', ih, hadd, List.forall_mem_cons, and_assoc]

theorem verifyMarginals_eq_ok : plan.verifyMarginals source target = .ok () ↔
    HasMarginals plan source target := by
  unfold TransportPlan.verifyMarginals
  simp only [bind_eq_ok, Prod.exists, foldlM_move, ensure_eq_ok, zero_add]
  constructor
  · rintro ⟨s, t, ⟨hmem, rfl, rfl⟩, hsource, htarget⟩
    exact ⟨fun row hrow => (hmem row hrow).1, fun row hrow => (hmem row hrow).2, hsource, htarget⟩
  · intro h
    exact ⟨_, _, ⟨fun row hrow => ⟨h.source_mem row hrow, h.target_mem row hrow⟩, rfl, rfl⟩,
      h.source_total, h.target_total⟩

theorem HasMarginals.joins (h : HasMarginals plan source target) :
    Transport.Joins Flow.source Flow.target plan.flow source.support target.support :=
  ⟨source.nodup, target.nodup, h.source_mem, h.target_mem⟩

/-! ## The potential -/

theorem requireFeasible_eq_ok : dual.requireFeasible metric = .ok () ↔ Feasible metric dual := by
  simp only [DualPotential.requireFeasible, forM_eq_ok, bind_eq_ok, ensure_eq_ok, not_lt, Feasible,
    gt_iff_lt]

theorem covers_iff : (((ofPairs dual.source).map Prod.fst).toFinset = source.support.toFinset ∧
    ((ofPairs dual.target).map Prod.fst).toFinset = target.support.toFinset) ↔
      Covers dual source target := by
  simp only [Finset.ext_iff, List.mem_toFinset, mem_keys_ofPairs]
  exact ⟨fun h => ⟨h.1, h.2⟩, fun h => ⟨h.source, h.target⟩⟩

/-- A defined value of a potential is one of its rows. -/
theorem mem_potentialAt {items : List (String × ℚ)} {key : String}
    (h : key ∈ items.map Prod.fst) : (key, potentialAt items key) ∈ items := by
  have hkey : key ∈ items.reverse.map Prod.fst := by rwa [List.map_reverse, List.mem_reverse]
  rw [potentialAt, lookup_ofPairs]
  cases hlookup : items.reverse.lookup key with
  | none =>
    obtain ⟨item, hitem, rfl⟩ := List.mem_map.mp hkey
    exact absurd (List.lookup_eq_none_iff.mp hlookup item hitem) (by simp)
  | some value =>
    obtain ⟨first, rest, hsplit, -⟩ := List.lookup_eq_some_iff.mp hlookup
    rw [← List.mem_reverse, hsplit]
    simp

/-- What a unit of a row costs. -/
def unitCost (metric : GroundMetric) (row : Flow) : ℚ :=
  (metric.cost row.source row.target).toOption.getD 0

theorem Covers.feasible_at (h : Covers dual source target) (hfeasible : Feasible metric dual)
    {row : Flow} (hsource : row.source ∈ source.support) (htarget : row.target ∈ target.support) :
    metric.cost row.source row.target = .ok (unitCost metric row) ∧
      potentialAt dual.source row.source + potentialAt dual.target row.target ≤
        unitCost metric row := by
  obtain ⟨cost, hcost, hle⟩ := hfeasible _ (mem_potentialAt ((h.source _).mpr hsource)) _
    (mem_potentialAt ((h.target _).mpr htarget))
  have hunit : unitCost metric row = cost := by rw [unitCost, hcost]; rfl
  rw [hunit]
  exact ⟨hcost, hle⟩

theorem get_of_mem {measure : FiniteMeasure} {item : String × ℚ} (h : item ∈ measure.mass) :
    measure.get item.1 = item.2 := by
  have hnodup : (measure.mass.reverse.map Prod.fst).Nodup := by
    rw [List.map_reverse, List.nodup_reverse]
    exact measure.nodup
  have hlookup : measure.asDict.lookup item.1 = some item.2 := by
    rw [FiniteMeasure.asDict, lookup_ofPairs, lookup_eq_some_iff hnodup, List.mem_reverse]
    exact h
  rw [FiniteMeasure.get, hlookup, Option.getD_some]

theorem objective_eq_ok {value : ℚ} (hmarginals : HasMarginals plan source target) :
    dual.objective source target = .ok value ↔ Covers dual source target ∧
      Transport.value Flow.source Flow.target Flow.amount plan.flow source.support target.support
        (potentialAt dual.source) (potentialAt dual.target) = value := by
  have hsum : ∀ (measure : FiniteMeasure) (key : Flow → String) (u : String → ℚ),
      (∀ item ∈ measure.mass, Transport.total key Flow.amount plan.flow item.1 = item.2) →
      (measure.support.map fun k => measure.get k * u k) =
        measure.support.map fun k => Transport.total key Flow.amount plan.flow k * u k := by
    intro measure key u htotal
    refine List.map_congr_left fun k hk => ?_
    obtain ⟨item, hitem, rfl⟩ := List.mem_map.mp hk
    rw [get_of_mem hitem, htotal item hitem]
  simp only [DualPotential.objective, bind_eq_ok, ensure_eq_ok, exists_const, pure_eq_ok,
    covers_iff, Transport.value, hsum source _ _ hmarginals.source_total,
    hsum target _ _ hmarginals.target_total]

/-! ## The cost -/

theorem cost_eq (h : ∀ row ∈ plan.flow,
    metric.cost row.source row.target = .ok (unitCost metric row)) :
    plan.cost metric = .ok (plan.flow.map fun row => row.amount * unitCost metric row).sum := by
  have hrows : plan.flow.mapM (fun row => do
      return row.amount * (← metric.cost row.source row.target)) =
      .ok (plan.flow.map fun row => row.amount * unitCost metric row) := by
    refine mapM_ok fun row hrow => ?_
    rw [h row hrow]
    rfl
  rw [TransportPlan.cost, hrows]
  rfl

/-- A plan and a potential for one pair of measures: the cost is defined, and above the value. -/
theorem value_le_cost (hmarginals : HasMarginals plan source target)
    (hcovers : Covers dual source target) (hfeasible : Feasible metric dual) :
    ∃ cost value, plan.cost metric = .ok cost ∧ dual.objective source target = .ok value ∧
      value ≤ cost := by
  have hrow : ∀ row ∈ plan.flow, metric.cost row.source row.target = .ok (unitCost metric row) ∧
      potentialAt dual.source row.source + potentialAt dual.target row.target ≤
        unitCost metric row := fun row hrow =>
    hcovers.feasible_at hfeasible (hmarginals.source_mem row hrow) (hmarginals.target_mem row hrow)
  refine ⟨_, _, cost_eq fun row h => (hrow row h).1,
    (objective_eq_ok hmarginals).mpr ⟨hcovers, rfl⟩, ?_⟩
  exact Transport.value_le_cost hmarginals.joins (fun row h => (plan.positive row h).le)
    fun row h => (hrow row h).2

/-! ## The last loop -/

theorem foldlM_tighten (h : ∀ row ∈ rows, ∃ cost,
      metric.cost row.source row.target = .ok cost ∧
      cost - potentialAt dual.source row.source - potentialAt dual.target row.target = 0)
    (state : ℚ × ℕ) : ∃ final, rows.foldlM (tighten metric dual) state = .ok final := by
  induction rows generalizing state with
  | nil => exact ⟨state, rfl⟩
  | cons row rows ih =>
    obtain ⟨cost, hcost, hzero⟩ := h row List.mem_cons_self
    have hstep : ∃ next, tighten metric dual state row = .ok next := by
      unfold tighten
      rw [hcost]
      simp only [bind_eq_ok, Except.ok.injEq, exists_eq_left', hzero, ensure_eq_ok, lt_irrefl,
        not_false_eq_true, exists_const, true_and]
      split_ifs with hmoves
      · exact ⟨_, bind_eq_ok.mpr ⟨(), ensure_eq_ok.mpr trivial, rfl⟩⟩
      · exact ⟨_, rfl⟩
    obtain ⟨next, hnext⟩ := hstep
    rw [List.foldlM_cons, hnext]
    exact ih (fun other hother => h other (List.mem_cons_of_mem _ hother)) next

/-- After the other checks the last loop refuses nothing. -/
theorem Certified.foldlM_tighten (h : Certified source target metric plan dual) :
    ∃ final, plan.flow.foldlM (tighten metric dual) (0, 0) = .ok final := by
  obtain ⟨value, hcost, hvalue⟩ := h.noGap
  have hrow : ∀ row ∈ plan.flow, metric.cost row.source row.target = .ok (unitCost metric row) ∧
      potentialAt dual.source row.source + potentialAt dual.target row.target ≤
        unitCost metric row := fun row hrow =>
    h.covers.feasible_at h.feasible (h.marginals.source_mem row hrow)
      (h.marginals.target_mem row hrow)
  rw [cost_eq fun row hmem => (hrow row hmem).1] at hcost
  refine Kantorovich.foldlM_tighten (fun row hmem => ⟨_, (hrow row hmem).1, ?_⟩) _
  have hslack := Transport.slack_eq_zero h.marginals.joins
    (fun row hmem => (plan.positive row hmem).le) (fun row hmem => (hrow row hmem).2)
    ((Except.ok.inj hcost).trans ((objective_eq_ok h.marginals).mp hvalue).2.symm) hmem
    (plan.positive row hmem)
  exact hslack

theorem verifyCertificate_eq_ok {certificate : KantorovichCertificate} :
    verifyCertificate source target metric plan dual = .ok certificate ↔
      HasMarginals plan source target ∧ Feasible metric dual ∧ ∃ cost value,
        plan.cost metric = .ok cost ∧ dual.objective source target = .ok value ∧ cost = value ∧
        ∃ mx tight, plan.flow.foldlM (tighten metric dual) (0, 0) = .ok (mx, tight) ∧
          ⟨cost, value, mx, tight⟩ = certificate := by
  have hmarginals : (∃ done, plan.verifyMarginals source target = .ok done) ↔
      HasMarginals plan source target := by
    rw [← verifyMarginals_eq_ok]
    exact ⟨fun ⟨_, h⟩ => h, fun h => ⟨(), h⟩⟩
  have hfeasible : (∃ done, dual.requireFeasible metric = .ok done) ↔ Feasible metric dual := by
    rw [← requireFeasible_eq_ok]
    exact ⟨fun ⟨_, h⟩ => h, fun h => ⟨(), h⟩⟩
  simp only [verifyCertificate, bind_eq_ok, exists_and_right, hmarginals, hfeasible, ensure_eq_ok,
    pure_eq_ok, Prod.exists, exists_const, exists_and_left]

theorem certified_iff : (∃ certificate,
    verifyCertificate source target metric plan dual = .ok certificate) ↔
      Certified source target metric plan dual := by
  simp only [verifyCertificate_eq_ok]
  constructor
  · rintro ⟨-, hmarginals, hfeasible, cost, value, hcost, hvalue, rfl, -⟩
    exact ⟨hmarginals, ((objective_eq_ok hmarginals).mp hvalue).1, hfeasible, cost, hcost, hvalue⟩
  · intro h
    obtain ⟨value, hcost, hvalue⟩ := h.noGap
    obtain ⟨⟨mx, tight⟩, hfinal⟩ := h.foldlM_tighten
    exact ⟨_, h.marginals, h.feasible, value, value, hcost, hvalue, rfl, mx, tight, hfinal, rfl⟩

/-! ## The refusals -/

/-- A refusal that is not the last loop's own. -/
def Refused.IsEarly : Refused → Prop
  | .negativeDualSlack => False
  | .complementarySlacknessViolation _ _ => False
  | _ => True

theorem refuses_cost (a b : String) : Refuses Refused.IsEarly (metric.cost a b) := by
  unfold GroundMetric.cost
  split
  · exact refuses_ok
  · exact refuses_error trivial

theorem refuses_verifyMarginals :
    Refuses Refused.IsEarly (plan.verifyMarginals source target) := by
  refine Refuses.bind (refuses_foldlM (fun sums row _ => ?_) _) fun _ _ => refuses_ensure trivial
  exact (refuses_ensure trivial).bind fun _ _ => refuses_pure

theorem refuses_requireFeasible : Refuses Refused.IsEarly (dual.requireFeasible metric) :=
  refuses_forM fun left _ => refuses_forM fun right _ =>
    (refuses_cost left.1 right.1).bind fun _ _ => refuses_ensure trivial

theorem refuses_planCost : Refuses Refused.IsEarly (plan.cost metric) :=
  (refuses_mapM fun row _ => (refuses_cost row.source row.target).bind fun _ _ =>
    refuses_pure).bind fun _ _ => refuses_pure

theorem refuses_objective : Refuses Refused.IsEarly (dual.objective source target) :=
  (refuses_ensure trivial).bind fun _ _ => refuses_pure

theorem refuses_verifyCertificate :
    Refuses Refused.IsEarly (verifyCertificate source target metric plan dual) := by
  unfold verifyCertificate
  refine refuses_verifyMarginals.bind fun _ hmarginals => ?_
  refine refuses_requireFeasible.bind fun _ hfeasible => ?_
  refine refuses_planCost.bind fun cost hcost => ?_
  refine refuses_objective.bind fun value hvalue => ?_
  refine (refuses_ensure trivial).bind fun _ hgap => ?_
  obtain rfl := ensure_eq_ok.mp hgap
  have hmarginals := verifyMarginals_eq_ok.mp hmarginals
  have hcertified : Certified source target metric plan dual :=
    ⟨hmarginals, ((objective_eq_ok hmarginals).mp hvalue).1, requireFeasible_eq_ok.mp hfeasible,
      cost, hcost, hvalue⟩
  obtain ⟨final, hfinal⟩ := hcertified.foldlM_tighten
  rw [hfinal]
  exact refuses_pure

/-- A certificate is issued exactly for a plan with the marginals and a feasible potential on the
supports without a gap between cost and value; the last loop refuses nothing; and no plan with the
marginals costs less and no feasible potential on the supports is worth more. -/
theorem certificate_iff (source target : FiniteMeasure) (metric : GroundMetric)
    (plan : TransportPlan) (dual : DualPotential) :
    ((∃ certificate, verifyCertificate source target metric plan dual = .ok certificate) ↔
      Certified source target metric plan dual) ∧
    Refuses Refused.IsEarly (verifyCertificate source target metric plan dual) ∧
    ∀ certificate, verifyCertificate source target metric plan dual = .ok certificate →
      plan.cost metric = .ok certificate.primalCost ∧
      (∀ other : TransportPlan, HasMarginals other source target →
        ∃ cost, other.cost metric = .ok cost ∧ certificate.primalCost ≤ cost) ∧
      ∀ other : DualPotential, Covers other source target → Feasible metric other →
        ∃ value, other.objective source target = .ok value ∧ value ≤ certificate.primalCost := by
  refine ⟨certified_iff, refuses_verifyCertificate, fun certificate h => ?_⟩
  obtain ⟨hmarginals, hfeasible, cost, value, hcost, hvalue, rfl, mx, tight, -, rfl⟩ :=
    verifyCertificate_eq_ok.mp h
  have hcovers := ((objective_eq_ok hmarginals).mp hvalue).1
  refine ⟨hcost, fun other hother => ?_, fun other hothercovers hotherfeasible => ?_⟩
  · obtain ⟨othercost, othervalue, hothercost, hothervalue, hle⟩ :=
      value_le_cost hother hcovers hfeasible
    obtain rfl := Except.ok.inj (hvalue.symm.trans hothervalue)
    exact ⟨othercost, hothercost, hle⟩
  · obtain ⟨othercost, othervalue, hothercost, hothervalue, hle⟩ :=
      value_le_cost hmarginals hothercovers hotherfeasible
    obtain rfl := Except.ok.inj (hcost.symm.trans hothercost)
    exact ⟨othervalue, hothervalue, hle⟩

end ChatmanEcosystem.Kantorovich
