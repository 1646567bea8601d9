import ChatmanEcosystem.Common.FiniteProbability
import ChatmanEcosystem.Py.Value
import ChatmanEcosystem.Rust.Result
import Mathlib.Tactic.Ring

/-!
# Intervals of risk

Model of `composition.py` and `probability.py` of
`scripts/release_train/risk_independence_admission`. Two intervals of probabilities are
composed to one of both events: with the bounds that any joint distribution keeps, or
as a product if the events are independent.

Results:

* `conservative_eq_ok`, `independent_eq_ok`: no composition is refused.
* `conservative_sound`, `independent_sound`: what is composed bounds both events.
* `composition_sound`: both, for all intervals and finite probability spaces.
-/

namespace ChatmanEcosystem.ReleaseTrain.RiskIndependence

open Common Py Rust

/-! ## Intervals -/

/-- `q` (`probability.py`, lines 4–7), of what `Fraction` reads; it reads no fraction at all of
some values. -/
def q (value : Option ℚ) (code : String) : Except (Raised String) ℚ := okOr value (.refusal code)

/-- A probability. -/
abbrev Unit01 := {x : ℚ // 0 ≤ x ∧ x ≤ 1}

/-- `unit` (`probability.py`, lines 8–11). -/
def unit (value : Option ℚ) : Except (Raised String) Unit01 := do
  let x ← q value "INVALID_PROBABILITY"
  if h : 0 ≤ x ∧ x ≤ 1 then
    return ⟨x, h⟩
  else
    .error (.refusal "PROBABILITY_OUT_OF_RANGE")

/-- `Interval` (`composition.py`, lines 6–11). -/
structure Interval where
  low : ℚ
  high : ℚ
  nonneg : 0 ≤ low
  ordered : low ≤ high
  le_one : high ≤ 1

/-- `Interval.__post_init__` (`composition.py`, lines 9–11). -/
def Interval.build (low high : Option ℚ) : Except (Raised String) Interval := do
  let low ← unit low
  let high ← unit high
  if h : low.1 ≤ high.1 then
    return ⟨low, high, low.2.1, h, high.2.2⟩
  else
    .error (.refusal "INVALID_INTERVAL")

/-- `conservative` (`composition.py`, line 12). -/
def conservative (a b : Interval) : Except (Raised String) Interval :=
  Interval.build (some (max 0 (a.low + b.low - 1))) (some (min a.high b.high))

/-- `independent` (`composition.py`, line 13). -/
def independent (a b : Interval) : Except (Raised String) Interval :=
  Interval.build (some (a.low * b.low)) (some (a.high * b.high))

/-- `Decision` (`decision.py`, lines 6–7). -/
inductive Decision
  | independent
  | dependent
  | defer
  deriving DecidableEq

/-- `compose` (`composition.py`, lines 14–17). -/
def compose (a b : Interval) : Decision → Except (Raised String) Interval
  | .independent => independent a b
  | .dependent => conservative a b
  | .defer => .error (.refusal "INDEPENDENCE_DECISION_DEFERRED")

theorem unit_eq_ok {value : Option ℚ} {x : Unit01} : unit value = .ok x ↔ value = some x.1 := by
  simp only [unit, q, bind_eq_ok, okOr_eq_ok]
  constructor
  · rintro ⟨y, hy, hbounds⟩
    split_ifs at hbounds
    obtain rfl := pure_eq_ok.mp hbounds
    exact hy
  · intro hvalue
    refine ⟨x.1, hvalue, ?_⟩
    rw [dif_pos x.2]
    rfl

theorem build_eq_ok {low high : Option ℚ} {i : Interval} :
    Interval.build low high = .ok i ↔ low = some i.low ∧ high = some i.high := by
  simp only [Interval.build, bind_eq_ok, unit_eq_ok]
  constructor
  · rintro ⟨l, hlow, h, hhigh, hbuild⟩
    split_ifs at hbuild with hordered
    obtain rfl := pure_eq_ok.mp hbuild
    exact ⟨hlow, hhigh⟩
  · rintro ⟨hlow, hhigh⟩
    refine ⟨⟨i.low, i.nonneg, i.ordered.trans i.le_one⟩, hlow,
      ⟨i.high, i.nonneg.trans i.ordered, i.le_one⟩, hhigh, ?_⟩
    rw [dif_pos i.ordered]
    rfl

/-! ## Compositions -/

variable {a b i : Interval}

/-- The bounds of any joint distribution. -/
theorem conservative_eq_ok (a b : Interval) : ∃ c, conservative a b = .ok c ∧
    c.low = max 0 (a.low + b.low - 1) ∧ c.high = min a.high b.high := by
  have hordered : max 0 (a.low + b.low - 1) ≤ min a.high b.high := by
    have ha := a.ordered
    have hb := b.ordered
    have ha' := a.le_one
    have hb' := b.le_one
    rw [max_le_iff, le_min_iff, le_min_iff]
    exact ⟨⟨a.nonneg.trans ha, b.nonneg.trans hb⟩, by linarith, by linarith⟩
  have hone : min a.high b.high ≤ 1 := (min_le_left _ _).trans a.le_one
  exact ⟨⟨_, _, le_max_left _ _, hordered, hone⟩, build_eq_ok.mpr ⟨rfl, rfl⟩, rfl, rfl⟩

/-- The bounds of a product. -/
theorem independent_eq_ok (a b : Interval) : ∃ i, independent a b = .ok i ∧
    i.low = a.low * b.low ∧ i.high = a.high * b.high := by
  have hordered : a.low * b.low ≤ a.high * b.high :=
    mul_le_mul a.ordered b.ordered b.nonneg (a.nonneg.trans a.ordered)
  have hone : a.high * b.high ≤ 1 :=
    mul_le_one₀ a.le_one (b.nonneg.trans b.ordered) b.le_one
  exact ⟨⟨_, _, mul_nonneg a.nonneg b.nonneg, hordered, hone⟩, build_eq_ok.mpr ⟨rfl, rfl⟩, rfl, rfl⟩

section

variable {K : Type*} [Field K] [LinearOrder K] [IsStrictOrderedRing K]

/-- A probability lies in an interval. -/
def Interval.Contains (i : Interval) (x : K) : Prop := (i.low : K) ≤ x ∧ x ≤ (i.high : K)

variable {Ω : Type*} [Fintype Ω] [DecidableEq Ω] {space : FiniteProbability Ω K} {A B : Finset Ω}

theorem conservative_sound {c : Interval} (h : conservative a b = .ok c)
    (ha : a.Contains (space.prob A)) (hb : b.Contains (space.prob B)) :
    c.Contains (space.prob (A ∩ B)) := by
  obtain ⟨hlow, hhigh⟩ := build_eq_ok.mp h
  rw [Interval.Contains, ← Option.some.inj hlow, ← Option.some.inj hhigh]
  push_cast
  have hfrechet := space.prob_add_prob_le (A := A) (B := B)
  constructor
  · refine max_le space.prob_nonneg ?_
    linarith [ha.1, hb.1]
  · exact le_min (space.prob_inter_le_left.trans ha.2) (space.prob_inter_le_right.trans hb.2)

theorem independent_sound (h : independent a b = .ok i) (ha : a.Contains (space.prob A))
    (hb : b.Contains (space.prob B)) (hindependent : space.Independent A B) :
    i.Contains (space.prob (A ∩ B)) := by
  obtain ⟨hlow, hhigh⟩ := build_eq_ok.mp h
  rw [Interval.Contains, ← Option.some.inj hlow, ← Option.some.inj hhigh, hindependent]
  push_cast
  have hblow : (0 : K) ≤ b.low := by exact_mod_cast b.nonneg
  have hahigh : (0 : K) ≤ a.high := by exact_mod_cast a.nonneg.trans a.ordered
  exact ⟨mul_le_mul ha.1 hb.1 hblow space.prob_nonneg,
    mul_le_mul ha.2 hb.2 space.prob_nonneg hahigh⟩

end

/-- The product of two intervals is within the conservative bounds. -/
theorem independent_within {c : Interval} (hi : i.low = a.low * b.low ∧ i.high = a.high * b.high)
    (hc : c.low = max 0 (a.low + b.low - 1) ∧ c.high = min a.high b.high) :
    c.low ≤ i.low ∧ i.high ≤ c.high := by
  have ha := a.ordered.trans a.le_one
  have hb := b.ordered.trans b.le_one
  have hahigh := a.nonneg.trans a.ordered
  have hbhigh := b.nonneg.trans b.ordered
  rw [hi.1, hi.2, hc.1, hc.2]
  constructor
  · refine max_le (mul_nonneg a.nonneg b.nonneg) ?_
    have hproduct : 0 ≤ (1 - a.low) * (1 - b.low) :=
      mul_nonneg (sub_nonneg.mpr ha) (sub_nonneg.mpr hb)
    have hexpand : (1 - a.low) * (1 - b.low) = a.low * b.low - (a.low + b.low - 1) := by
      ring
    linarith
  · exact le_min (mul_le_of_le_one_right hahigh b.le_one) (mul_le_of_le_one_left hbhigh a.le_one)

/-- No composition is refused; what is composed bounds both events in every finite probability
space, and a product is within the conservative bounds. -/
theorem composition_sound.{u, v} (a b : Interval) :
    ∃ c i, conservative a b = .ok c ∧ independent a b = .ok i ∧
      (c.low ≤ i.low ∧ i.high ≤ c.high) ∧
      ∀ (Ω : Type u) (K : Type v) [Fintype Ω] [DecidableEq Ω] [Field K] [LinearOrder K]
        [IsStrictOrderedRing K] (space : FiniteProbability Ω K) (A B : Finset Ω),
        a.Contains (space.prob A) → b.Contains (space.prob B) →
          c.Contains (space.prob (A ∩ B)) ∧
            (space.Independent A B → i.Contains (space.prob (A ∩ B))) := by
  obtain ⟨c, hc, hcbounds⟩ := conservative_eq_ok a b
  obtain ⟨i, hi, hibounds⟩ := independent_eq_ok a b
  refine ⟨c, i, hc, hi, independent_within hibounds hcbounds, ?_⟩
  intro Ω K _ _ _ _ _ space A B ha hb
  exact ⟨conservative_sound hc ha hb, independent_sound hi ha hb⟩

end ChatmanEcosystem.ReleaseTrain.RiskIndependence
