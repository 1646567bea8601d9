import Mathlib.Algebra.Order.Field.Basic
import Mathlib.Data.List.Pairwise
import Mathlib.Tactic.Linarith
import Mathlib.Tactic.Ring

/-!
# Token buckets

A bucket holds tokens up to its capacity. It is refilled in proportion to the time
that has passed, a whole capacity in each interval, and each draw takes a token if
there is one. What is drawn and what is left never exceeds what was there and what was
refilled, so the draws of a span are bounded by one capacity and the refill of the span.

Results:

* `Bucket.Level.draw`: a bucket stays between empty and full.
* `draw_le`: a draw and what it leaves come from what was there and the refill.
* `countP_span_le`: the draws of a span of time are bounded.
* `draw_after_refusal`: after the missing part is refilled a draw succeeds.
-/

namespace ChatmanEcosystem.Common

variable {K : Type*} [Field K] [LinearOrder K] [IsStrictOrderedRing K]

/-- The tokens of a bucket, and when they were counted. -/
structure Bucket (K : Type*) where
  tokens : K
  since : K

namespace Bucket

variable (capacity interval : K)

/-- A bucket at a time: a new one is full, an old one is refilled. -/
def refill (bucket : Option (Bucket K)) (now : K) : Bucket K :=
  match bucket with
  | none => ⟨capacity, now⟩
  | some bucket =>
    if bucket.since < now then
      ⟨min capacity (bucket.tokens + (now - bucket.since) / interval * capacity), now⟩
    else bucket

/-- A token is drawn if there is one. -/
def draw (bucket : Option (Bucket K)) (now : K) : Bool × Bucket K :=
  let filled := refill capacity interval bucket now
  if 1 ≤ filled.tokens then (true, { filled with tokens := filled.tokens - 1 })
  else (false, filled)

/-- The draws at some times. -/
def draws : Option (Bucket K) → List K → List (K × Bool)
  | _, [] => []
  | bucket, now :: times =>
    let (drawn, rest) := draw capacity interval bucket now
    (now, drawn) :: draws (some rest) times

variable {capacity interval} {bucket : Bucket K} {known : Option (Bucket K)}
  {now later first last : K}
  {times : List K}

/-- A bucket is neither overdrawn nor overfull, and it was counted before a time. -/
structure Level (capacity now : K) (bucket : Bucket K) : Prop where
  nonneg : 0 ≤ bucket.tokens
  capped : bucket.tokens ≤ capacity
  before : bucket.since ≤ now

/-- What is refilled. -/
theorem refill_level (hcapacity : 0 ≤ capacity) (hinterval : 0 < interval)
    (h : ∀ bucket ∈ known, Level capacity now bucket) :
    Level capacity now (refill capacity interval known now) ∧
      (refill capacity interval known now).since = now := by
  cases known with
  | none => exact ⟨⟨hcapacity, le_refl _, le_refl _⟩, rfl⟩
  | some bucket =>
    have hlevel := h bucket rfl
    rw [refill]
    split_ifs with hpassed
    · have hgain : 0 ≤ (now - bucket.since) / interval * capacity :=
        mul_nonneg (div_nonneg (sub_nonneg.mpr hpassed.le) hinterval.le) hcapacity
      refine ⟨⟨le_min hcapacity ?_, min_le_left _ _, le_refl _⟩, rfl⟩
      have hnonneg := hlevel.nonneg
      linarith
    · exact ⟨hlevel, le_antisymm hlevel.before (not_lt.mp hpassed)⟩

theorem refill_le (hcapacity : 0 ≤ capacity) (hinterval : 0 < interval)
    (hbefore : bucket.since ≤ now) :
    (refill capacity interval (some bucket) now).tokens ≤
      bucket.tokens + (now - bucket.since) / interval * capacity := by
  rw [refill]
  split_ifs with hpassed
  · exact min_le_right _ _
  · have hgain : 0 ≤ (now - bucket.since) / interval * capacity :=
      mul_nonneg (div_nonneg (sub_nonneg.mpr hbefore) hinterval.le) hcapacity
    linarith

omit [IsStrictOrderedRing K] in
theorem draw_of_one_le (h : 1 ≤ (refill capacity interval known now).tokens) :
    draw capacity interval known now = (true,
      { refill capacity interval known now with
        tokens := (refill capacity interval known now).tokens - 1 }) := if_pos h

omit [IsStrictOrderedRing K] in
theorem draw_of_lt (h : (refill capacity interval known now).tokens < 1) :
    draw capacity interval known now = (false, refill capacity interval known now) :=
  if_neg (not_le.mpr h)

/-- A draw keeps the level. -/
theorem level_draw (hcapacity : 0 ≤ capacity) (hinterval : 0 < interval)
    (h : ∀ bucket ∈ known, Level capacity now bucket) :
    Level capacity now (draw capacity interval known now).2 ∧
      (draw capacity interval known now).2.since = now := by
  obtain ⟨hlevel, hsince⟩ := refill_level hcapacity hinterval h
  rcases le_or_gt 1 (refill capacity interval known now).tokens with htoken | hmissing
  · rw [draw_of_one_le htoken]
    have hcapped := hlevel.capped
    refine ⟨⟨sub_nonneg.mpr htoken, ?_, hlevel.before⟩, hsince⟩
    show (refill capacity interval known now).tokens - 1 ≤ capacity
    linarith
  · rw [draw_of_lt hmissing]
    exact ⟨hlevel, hsince⟩

omit [IsStrictOrderedRing K] in
/-- What is drawn and what it leaves was in the bucket. -/
theorem draw_add_tokens (capacity interval : K) (known : Option (Bucket K))
    (now : K) : ((if (draw capacity interval known now).1 then 1 else 0 : ℕ) : K) +
    (draw capacity interval known now).2.tokens = (refill capacity interval known now).tokens := by
  rcases le_or_gt 1 (refill capacity interval known now).tokens with htoken | hmissing
  · rw [draw_of_one_le htoken]
    simp
  · rw [draw_of_lt hmissing]
    simp

omit [IsStrictOrderedRing K] in
/-- A later time only raises the bound of when a bucket was counted. -/
theorem Level.mono (h : Level capacity now bucket) (hlater : now ≤ later) :
    Level capacity later bucket := ⟨h.nonneg, h.capped, h.before.trans hlater⟩

/-! ## Spans -/

omit [IsStrictOrderedRing K] in
theorem mem_of_mem_draws {drawn : K × Bool} (h : drawn ∈ draws capacity interval known times) :
    drawn.1 ∈ times := by
  induction times generalizing known with
  | nil => exact absurd h List.not_mem_nil
  | cons now times ih =>
    rcases List.mem_cons.mp h with rfl | h
    · exact List.mem_cons_self
    · exact List.mem_cons_of_mem _ (ih h)

omit [IsStrictOrderedRing K] in
/-- Nothing is drawn in a span that is over. -/
theorem countP_eq_zero_of_lt {P : K × Bool → Bool} (hP : ∀ drawn, P drawn = true → drawn.1 ≤ last)
    (hlater : ∀ now ∈ times, last < now) : (draws capacity interval known times).countP P = 0 := by
  rw [List.countP_eq_zero]
  intro drawn hdrawn hin
  exact absurd (hP drawn hin) (not_le.mpr (hlater drawn.1 (mem_of_mem_draws hdrawn)))

/-- The time before and the time after a draw add up. -/
theorem gain_add_gain (now later last interval capacity : K) :
    (later - now) / interval * capacity + (last - later) / interval * capacity =
      (last - now) / interval * capacity := by
  ring

/-- The draws up to a time take what is in the bucket and what is refilled. -/
theorem countP_until_le (hcapacity : 0 ≤ capacity) (hinterval : 0 < interval)
    (htimes : (now :: times).Pairwise (· ≤ ·)) (hlevel : Level capacity now bucket)
    (hlast : bucket.since ≤ last) :
    (((draws capacity interval (some bucket) times).countP
      fun drawn => drawn.2 ∧ drawn.1 ≤ last : ℕ) : K) ≤
        bucket.tokens + (last - bucket.since) / interval * capacity := by
  have hgain : 0 ≤ (last - bucket.since) / interval * capacity :=
    mul_nonneg (div_nonneg (sub_nonneg.mpr hlast) hinterval.le) hcapacity
  have hnonneg := hlevel.nonneg
  induction times generalizing now bucket with
  | nil =>
    simp only [draws, List.countP_nil, Nat.cast_zero]
    linarith
  | cons later times ih =>
    obtain ⟨hnow, htimes⟩ := List.pairwise_cons.mp htimes
    have hlevel' : Level capacity later bucket := hlevel.mono (hnow later List.mem_cons_self)
    by_cases hin : later ≤ last
    · obtain ⟨hdrawn, hsince⟩ := level_draw hcapacity hinterval
        (show ∀ known ∈ some bucket, Level capacity later known by simpa using hlevel')
      have hgain' : 0 ≤ (last - later) / interval * capacity :=
        mul_nonneg (div_nonneg (sub_nonneg.mpr hin) hinterval.le) hcapacity
      have hrest := ih htimes hdrawn (by rwa [hsince]) (by rwa [hsince]) hdrawn.nonneg
      have htaken := draw_add_tokens capacity interval (some bucket) later
      have hrefill := refill_le hcapacity hinterval hlevel'.before
      have hsum := gain_add_gain bucket.since later last interval capacity
      rw [hsince] at hrest
      simp only [draws, List.countP_cons, hin, and_true, decide_eq_true_eq, Nat.cast_add]
      linarith
    · have hover : ∀ time ∈ later :: times, last < time := by
        intro time htime
        rcases List.mem_cons.mp htime with rfl | htime
        · exact not_le.mp hin
        · exact (not_le.mp hin).trans_le ((List.pairwise_cons.mp htimes).1 time htime)
      rw [countP_eq_zero_of_lt (fun drawn hdrawn => (of_decide_eq_true hdrawn).2) hover,
        Nat.cast_zero]
      linarith

/-- The draws of a span of time take at most a full bucket and what is refilled in the span. -/
theorem countP_span_le (hcapacity : 0 ≤ capacity) (hinterval : 0 < interval)
    (htimes : times.Pairwise (· ≤ ·))
    (hlevel : ∀ bucket ∈ known, ∀ now ∈ times, Level capacity now bucket) (hspan : first ≤ last) :
    (((draws capacity interval known times).countP
      fun drawn => drawn.2 ∧ first ≤ drawn.1 ∧ drawn.1 ≤ last : ℕ) : K) ≤
        capacity + (last - first) / interval * capacity := by
  have hgain : 0 ≤ (last - first) / interval * capacity :=
    mul_nonneg (div_nonneg (sub_nonneg.mpr hspan) hinterval.le) hcapacity
  induction times generalizing known with
  | nil =>
    simp only [draws, List.countP_nil, Nat.cast_zero]
    linarith
  | cons now times ih =>
    obtain ⟨hnow, hlater⟩ := List.pairwise_cons.mp htimes
    obtain ⟨hdrawn, hsince⟩ := level_draw hcapacity hinterval
      (fun bucket hbucket => hlevel bucket hbucket now List.mem_cons_self)
    by_cases hfirst : first ≤ now
    · by_cases hlast : now ≤ last
      · -- From the first draw of the span on, only its end matters.
        have hrest := countP_until_le hcapacity hinterval htimes hdrawn (hsince ▸ hlast)
        have hmono : (draws capacity interval
          (some (draw capacity interval known now).2) times).countP
            (fun drawn => drawn.2 ∧ first ≤ drawn.1 ∧ drawn.1 ≤ last) ≤
              (draws capacity interval (some (draw capacity interval known now).2) times).countP
                fun drawn => drawn.2 ∧ drawn.1 ≤ last := by
          refine List.countP_mono_left fun drawn _ h => ?_
          obtain ⟨htaken, -, hend⟩ := of_decide_eq_true h
          exact decide_eq_true ⟨htaken, hend⟩
        have hmono := (Nat.cast_le (α := K)).mpr hmono
        have htaken := draw_add_tokens capacity interval known now
        have hfull := (refill_level hcapacity hinterval
          (fun bucket hbucket => hlevel bucket hbucket now List.mem_cons_self)).1.capped
        have hsum := gain_add_gain first now last interval capacity
        have hbefore : 0 ≤ (now - first) / interval * capacity :=
          mul_nonneg (div_nonneg (sub_nonneg.mpr hfirst) hinterval.le) hcapacity
        rw [hsince] at hrest
        simp only [draws, List.countP_cons, hfirst, hlast, and_true, decide_eq_true_eq,
          Nat.cast_add]
        linarith
      · have hover : ∀ time ∈ now :: times, last < time := by
          intro time htime
          rcases List.mem_cons.mp htime with rfl | htime
          · exact not_le.mp hlast
          · exact (not_le.mp hlast).trans_le (hnow time htime)
        rw [countP_eq_zero_of_lt (fun drawn hdrawn => (of_decide_eq_true hdrawn).2.2) hover,
          Nat.cast_zero]
        linarith
    · have hlevel' : ∀ bucket ∈ some (draw capacity interval known now).2, ∀ later ∈ times,
          Level capacity later bucket := by
        intro bucket hbucket later hin
        obtain rfl := Option.some.inj hbucket
        exact hdrawn.mono (hnow later hin)
      have hrest := ih hlater hlevel'
      simpa [draws, List.countP_cons, hfirst] using hrest

/-- Once the missing part is refilled a draw succeeds. -/
theorem draw_after_refusal (hcapacity : 1 ≤ capacity) (hinterval : 0 < interval)
    (hwait : (1 - bucket.tokens) / capacity * interval ≤ now - bucket.since)
    (hrefused : bucket.tokens < 1) : (draw capacity interval (some bucket) now).1 = true := by
  have hpositive : 0 < capacity := one_pos.trans_le hcapacity
  have hmissing : 0 < (1 - bucket.tokens) / capacity * interval :=
    mul_pos (div_pos (sub_pos.mpr hrefused) hpositive) hinterval
  have hpassed : bucket.since < now := sub_pos.mp (hmissing.trans_le hwait)
  have hgain : 1 - bucket.tokens ≤ (now - bucket.since) / interval * capacity := by
    have hscaled := (le_div_iff₀ hinterval).mpr hwait
    exact (div_le_iff₀ hpositive).mp hscaled
  have hfilled : 1 ≤ (refill capacity interval (some bucket) now).tokens := by
    rw [refill, if_pos hpassed]
    refine le_min hcapacity ?_
    linarith
  rw [draw_of_one_le hfilled]

end Bucket

end ChatmanEcosystem.Common
