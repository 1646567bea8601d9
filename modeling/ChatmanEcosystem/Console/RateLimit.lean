import ChatmanEcosystem.Common.TokenBucket
import Mathlib.Data.Rat.Floor

/-!
# Rate limits of API keys

Model of `platform-console/app/lib/rate-limit.ts` (lines 39–98 and 106–157). A limiter
has a token bucket for each key. The clock and the tokens are rationals.

Results:

* `consume_eq_draw`: a call draws from the bucket of its key, and from no other.
* `outcomes_filter`: the results of a key depend on its own calls only.
* `rate_enforced`: the levels, the bound of every span, the isolation of the keys and
  the hint of a refusal.
-/

namespace ChatmanEcosystem.Console.RateLimit

open Common

/-! ## Limits -/

/-- `ApiKeyTier` (line 39). -/
inductive ApiKeyTier
  | standard
  | pro
  | enterprise
  deriving DecidableEq

/-- `ApiKeyMode` (line 52). -/
inductive ApiKeyMode
  | sandbox
  | live
  deriving DecidableEq

/-- `TierLimit` (lines 70–73). -/
structure TierLimit where
  maxTokens : ℕ
  fillIntervalMs : ℕ
  deriving DecidableEq

/-- `SANDBOX_TIER_LIMIT` (line 50). -/
def sandboxTierLimit : TierLimit := { maxTokens := 60, fillIntervalMs := 60000 }

/-- `TIER_LIMITS` (lines 81–85). -/
def tierLimits : ApiKeyTier → TierLimit
  | .standard => { maxTokens := 20, fillIntervalMs := 60000 }
  | .pro => { maxTokens := 100, fillIntervalMs := 60000 }
  | .enterprise => { maxTokens := 500, fillIntervalMs := 60000 }

/-- The limit of a call (line 128). -/
def limitOf (tier : ApiKeyTier) : ApiKeyMode → TierLimit
  | .sandbox => sandboxTierLimit
  | .live => tierLimits tier

/-- Every limit has a token and an interval. -/
theorem limitOf_pos (tier : ApiKeyTier) (mode : ApiKeyMode) :
    1 ≤ (limitOf tier mode).maxTokens ∧ 0 < (limitOf tier mode).fillIntervalMs := by
  cases mode with
  | sandbox => exact ⟨Nat.le_of_ble_eq_true rfl, Nat.le_of_ble_eq_true rfl⟩
  | live => cases tier <;> decide

/-! ## The limiter -/

/-- `BucketState` (lines 87–90). -/
structure BucketState where
  tokens : ℚ
  lastRefillAt : ℚ
  deriving DecidableEq

/-- `RateLimitResult` (lines 92–98). -/
structure RateLimitResult where
  allowed : Bool
  limit : ℕ
  remaining : ℤ
  retryAfterMs : ℤ
  deriving DecidableEq

/-- `buckets` (line 107). -/
abbrev Buckets := String → Option BucketState

/-- The bucket of a call: a new one, or the one there is, refilled (lines 130–142). -/
def refilled (limit : TierLimit) (known : Option BucketState) (now : ℚ) : BucketState :=
  match known with
  | none => { tokens := limit.maxTokens, lastRefillAt := now }
  | some bucket =>
    let elapsedMs := now - bucket.lastRefillAt
    if 0 < elapsedMs then
      let refillFraction := elapsedMs / limit.fillIntervalMs
      let refilled := refillFraction * limit.maxTokens
      { tokens := min limit.maxTokens (bucket.tokens + refilled), lastRefillAt := now }
    else bucket

/-- `TokenBucketLimiter.consume` (lines 125–157), at the time `now`. -/
def consume (buckets : Buckets) (keyId : String) (tier : ApiKeyTier) (mode : ApiKeyMode) (now : ℚ) :
    RateLimitResult × Buckets :=
  let limit := limitOf tier mode
  let bucket := refilled limit (buckets keyId) now
  if 1 ≤ bucket.tokens then
    let tokens := bucket.tokens - 1
    ({ allowed := true, limit := limit.maxTokens, remaining := ⌊tokens⌋, retryAfterMs := 0 },
      Function.update buckets keyId (some { bucket with tokens }))
  else
    let tokensNeeded := 1 - bucket.tokens
    let retryAfterMs := ⌈tokensNeeded / limit.maxTokens * limit.fillIntervalMs⌉
    ({ allowed := false, limit := limit.maxTokens, remaining := 0, retryAfterMs },
      Function.update buckets keyId (some bucket))

/-- A call of `consume` for a key, and what the clock says. -/
structure Attempt where
  keyId : String
  now : ℚ
  deriving DecidableEq

/-- The tier and the mode of each key. -/
abbrev Plan := String → ApiKeyTier × ApiKeyMode

/-- A call with the tier and the mode of its key. -/
def attemptWith (plan : Plan) (buckets : Buckets) (attempt : Attempt) : RateLimitResult × Buckets :=
  consume buckets attempt.keyId (plan attempt.keyId).1 (plan attempt.keyId).2 attempt.now

/-- What some calls return, one after the other. -/
def outcomes (plan : Plan) : Buckets → List Attempt → List (Attempt × RateLimitResult)
  | _, [] => []
  | buckets, attempt :: attempts =>
    (attempt, (attemptWith plan buckets attempt).1) ::
      outcomes plan (attemptWith plan buckets attempt).2 attempts

/-- The buckets after some calls. -/
def after (plan : Plan) (buckets : Buckets) (attempts : List Attempt) : Buckets :=
  attempts.foldl (fun buckets attempt => (attemptWith plan buckets attempt).2) buckets

/-! ## What a limiter promises -/

/-- The limit of a key. -/
def Plan.limit (plan : Plan) (keyId : String) : TierLimit := limitOf (plan keyId).1 (plan keyId).2

/-- What some calls of a new limiter keep to. -/
structure RateEnforced (plan : Plan) (attempts : List Attempt) : Prop where
  tokens : ∀ front back, attempts = front ++ back → ∀ keyId bucket,
    after plan (fun _ => none) front keyId = some bucket →
      0 ≤ bucket.tokens ∧ bucket.tokens ≤ (plan.limit keyId).maxTokens
  span : ∀ keyId first (width : ℚ), 0 ≤ width →
    (((outcomes plan (fun _ => none) attempts).countP fun outcome => outcome.1.keyId = keyId ∧
      outcome.2.allowed ∧ first ≤ outcome.1.now ∧ outcome.1.now ≤ first + width : ℕ) : ℚ) ≤
        (plan.limit keyId).maxTokens +
          width * (plan.limit keyId).maxTokens / (plan.limit keyId).fillIntervalMs
  isolated : ∀ keyId, (outcomes plan (fun _ => none) attempts).filter (·.1.keyId = keyId) =
    outcomes plan (fun _ => none) (attempts.filter (·.keyId = keyId))
  hint : ∀ front refused between retried back,
    outcomes plan (fun _ => none) attempts = front ++ refused :: (between ++ retried :: back) →
      refused.2.allowed = false → retried.1.keyId = refused.1.keyId →
      (∀ outcome ∈ between, outcome.1.keyId ≠ refused.1.keyId) →
      refused.1.now + (refused.2.retryAfterMs : ℚ) ≤ retried.1.now → retried.2.allowed = true

/-! ## One call -/

/-- The bucket of a key. -/
def BucketState.bucket (state : BucketState) : Bucket ℚ := ⟨state.tokens, state.lastRefillAt⟩

/-- The bucket of a key, if there is one. -/
def bucketOf (buckets : Buckets) (keyId : String) : Option (Bucket ℚ) :=
  (buckets keyId).map BucketState.bucket

variable {plan : Plan} {buckets others : Buckets} {keyId : String} {tier : ApiKeyTier}
  {mode : ApiKeyMode} {now : ℚ} {attempt : Attempt} {attempts : List Attempt}

/-- A draw of a key, with its limit. -/
abbrev drawOf (limit : TierLimit) (known : Option (Bucket ℚ)) (now : ℚ) : Bool × Bucket ℚ :=
  Bucket.draw (limit.maxTokens : ℚ) limit.fillIntervalMs known now

theorem refilled_bucket (limit : TierLimit) (known : Option BucketState) (now : ℚ) :
    (refilled limit known now).bucket =
      Bucket.refill (limit.maxTokens : ℚ) limit.fillIntervalMs
        (known.map BucketState.bucket) now := by
  cases known with
  | none => rfl
  | some bucket =>
    simp only [refilled, sub_pos, Option.map_some, Bucket.refill, BucketState.bucket]
    split_ifs <;> rfl

/-- A call draws from the bucket of its key. -/
theorem consume_eq_draw :
    (consume buckets keyId tier mode now).1.allowed =
        (drawOf (limitOf tier mode) (bucketOf buckets keyId) now).1 ∧
      bucketOf (consume buckets keyId tier mode now).2 keyId =
        some (drawOf (limitOf tier mode) (bucketOf buckets keyId) now).2 := by
  have hrefilled := refilled_bucket (limitOf tier mode) (buckets keyId) now
  have htokens : (refilled (limitOf tier mode) (buckets keyId) now).tokens =
      (Bucket.refill _ _ (bucketOf buckets keyId) now).tokens := congrArg Bucket.tokens hrefilled
  by_cases htoken : 1 ≤ (refilled (limitOf tier mode) (buckets keyId) now).tokens
  · rw [drawOf, Bucket.draw_of_one_le (htokens ▸ htoken), bucketOf, bucketOf, ← hrefilled]
    simp [consume, htoken, BucketState.bucket]
  · rw [drawOf, Bucket.draw_of_lt (htokens ▸ not_le.mp htoken), bucketOf, bucketOf, ← hrefilled]
    simp [consume, htoken]

/-- No other key has its bucket changed. -/
theorem consume_of_ne {other : String} (h : other ≠ keyId) :
    (consume buckets keyId tier mode now).2 other = buckets other := by
  unfold consume
  dsimp only
  split_ifs <;> exact Function.update_of_ne h _ _

/-- The result of a call depends on the bucket of its key. -/
theorem consume_congr (h : buckets keyId = others keyId) :
    (consume buckets keyId tier mode now).1 = (consume others keyId tier mode now).1 ∧
      (consume buckets keyId tier mode now).2 keyId =
        (consume others keyId tier mode now).2 keyId := by
  unfold consume
  rw [h]
  dsimp only
  split_ifs <;> simp

theorem attemptWith_congr (h : buckets attempt.keyId = others attempt.keyId) :
    (attemptWith plan buckets attempt).1 = (attemptWith plan others attempt).1 ∧
      (attemptWith plan buckets attempt).2 attempt.keyId =
        (attemptWith plan others attempt).2 attempt.keyId := consume_congr h

/-- The hint of a refusal covers what is missing. -/
theorem retryAfterMs_of_refused (h : (consume buckets keyId tier mode now).1.allowed = false) :
    (drawOf (limitOf tier mode) (bucketOf buckets keyId) now).2.tokens < 1 ∧
      (1 - (drawOf (limitOf tier mode) (bucketOf buckets keyId) now).2.tokens) /
          (limitOf tier mode).maxTokens * (limitOf tier mode).fillIntervalMs ≤
        ((consume buckets keyId tier mode now).1.retryAfterMs : ℚ) := by
  have hrefilled := refilled_bucket (limitOf tier mode) (buckets keyId) now
  have htokens : (refilled (limitOf tier mode) (buckets keyId) now).tokens =
      (Bucket.refill _ _ (bucketOf buckets keyId) now).tokens := congrArg Bucket.tokens hrefilled
  by_cases htoken : 1 ≤ (refilled (limitOf tier mode) (buckets keyId) now).tokens
  · simp [consume, htoken] at h
  · have hmissing := not_le.mp htoken
    rw [drawOf, Bucket.draw_of_lt (htokens ▸ hmissing), ← htokens]
    refine ⟨hmissing, ?_⟩
    simp only [consume, if_neg htoken]
    exact Int.le_ceil _

/-! ## Runs -/

/-- The buckets are between empty and full, and were counted before a time. -/
def Levels (plan : Plan) (buckets : Buckets) (now : ℚ) : Prop :=
  ∀ keyId, ∀ bucket ∈ bucketOf buckets keyId,
    Bucket.Level ((plan.limit keyId).maxTokens : ℚ) now bucket

theorem limit_pos (plan : Plan) (keyId : String) : (0 : ℚ) ≤ (plan.limit keyId).maxTokens ∧
    (1 : ℚ) ≤ (plan.limit keyId).maxTokens ∧ (0 : ℚ) < (plan.limit keyId).fillIntervalMs := by
  obtain ⟨hmax, hfill⟩ := limitOf_pos (plan keyId).1 (plan keyId).2
  exact ⟨Nat.cast_nonneg _, by exact_mod_cast hmax, by exact_mod_cast hfill⟩

theorem attemptWith_eq_draw : (attemptWith plan buckets attempt).1.allowed =
      (drawOf (plan.limit attempt.keyId) (bucketOf buckets attempt.keyId) attempt.now).1 ∧
    bucketOf (attemptWith plan buckets attempt).2 attempt.keyId =
      some (drawOf (plan.limit attempt.keyId) (bucketOf buckets attempt.keyId) attempt.now).2 :=
  consume_eq_draw

theorem bucketOf_attemptWith_of_ne (h : keyId ≠ attempt.keyId) :
    bucketOf (attemptWith plan buckets attempt).2 keyId = bucketOf buckets keyId := by
  rw [bucketOf, attemptWith, consume_of_ne h, bucketOf]

/-- A call keeps the levels, and counts the bucket of its key. -/
theorem Levels.step (h : Levels plan buckets now) (hnow : now ≤ attempt.now) :
    Levels plan (attemptWith plan buckets attempt).2 attempt.now ∧
      (drawOf (plan.limit attempt.keyId) (bucketOf buckets attempt.keyId) attempt.now).2.since =
        attempt.now := by
  obtain ⟨hnonneg, -, hinterval⟩ := limit_pos plan attempt.keyId
  obtain ⟨hlevel, hsince⟩ := Bucket.level_draw hnonneg hinterval
    (fun bucket hbucket => (h attempt.keyId bucket hbucket).mono hnow)
  refine ⟨fun keyId bucket hbucket => ?_, hsince⟩
  by_cases hkey : keyId = attempt.keyId
  · subst hkey
    rw [attemptWith_eq_draw.2] at hbucket
    obtain rfl := Option.some.inj hbucket
    exact hlevel
  · rw [bucketOf_attemptWith_of_ne hkey] at hbucket
    exact (h keyId bucket hbucket).mono hnow

/-- The clock of some calls never goes back. -/
abbrev InOrder (attempts : List Attempt) : Prop := attempts.Pairwise fun a b => a.now ≤ b.now

/-- Some calls keep the levels. -/
theorem Levels.run {later : ℚ} (h : Levels plan buckets now) (horder : InOrder attempts)
    (hnow : ∀ a ∈ attempts, now ≤ a.now) (hlater : ∀ a ∈ attempts, a.now ≤ later)
    (hend : now ≤ later) : Levels plan (after plan buckets attempts) later := by
  induction attempts generalizing buckets now with
  | nil => exact fun keyId bucket hbucket => (h keyId bucket hbucket).mono hend
  | cons attempt attempts ih =>
    obtain ⟨hfirst, horder⟩ := List.pairwise_cons.mp horder
    exact ih (h.step (hnow attempt List.mem_cons_self)).1 horder hfirst
      (fun a ha => hlater a (List.mem_cons_of_mem _ ha)) (hlater attempt List.mem_cons_self)

/-- No bucket is known before the first call. -/
theorem levels_start : Levels plan (fun _ => none) now :=
  fun _ _ h => nomatch h

theorem outcomes_append (front back : List Attempt) : outcomes plan buckets (front ++ back) =
    outcomes plan buckets front ++ outcomes plan (after plan buckets front) back := by
  induction front generalizing buckets with
  | nil => rfl
  | cons attempt front ih =>
    rw [List.cons_append, outcomes, outcomes, ih, List.cons_append]
    rfl

theorem map_fst_outcomes : (outcomes plan buckets attempts).map Prod.fst = attempts := by
  induction attempts generalizing buckets with
  | nil => rfl
  | cons attempt attempts ih => rw [outcomes, List.map_cons, ih]

/-- Where the results are split, the calls are. -/
theorem outcomes_eq_append {front back : List (Attempt × RateLimitResult)}
    (h : outcomes plan buckets attempts = front ++ back) : ∃ before behind,
      attempts = before ++ behind ∧ outcomes plan buckets before = front ∧
        outcomes plan (after plan buckets before) behind = back := by
  have hcalls : attempts = front.map Prod.fst ++ back.map Prod.fst := by
    rw [← List.map_append, ← h, map_fst_outcomes]
  have hsplit : outcomes plan buckets (front.map Prod.fst ++ back.map Prod.fst) = _ :=
    outcomes_append _ _
  rw [← hcalls, h] at hsplit
  have hfst : (outcomes plan buckets (front.map Prod.fst)).map Prod.fst = front.map Prod.fst :=
    map_fst_outcomes
  have hlength : front.length = (outcomes plan buckets (front.map Prod.fst)).length := by
    simpa using (congrArg List.length hfst).symm
  obtain ⟨hfront, hback⟩ := List.append_inj hsplit hlength
  exact ⟨_, _, hcalls, hfront.symm, hback.symm⟩

/-- The calls of other keys leave the bucket of a key. -/
theorem bucketOf_after_of_ne (h : ∀ a ∈ attempts, a.keyId ≠ keyId) :
    bucketOf (after plan buckets attempts) keyId = bucketOf buckets keyId := by
  induction attempts generalizing buckets with
  | nil => rfl
  | cons attempt attempts ih =>
    rw [after, List.foldl_cons]
    refine (ih fun a ha => h a (List.mem_cons_of_mem _ ha)).trans ?_
    exact bucketOf_attemptWith_of_ne (h attempt List.mem_cons_self).symm

/-- The results of a key depend on its bucket. -/
theorem outcomes_congr (hsame : buckets keyId = others keyId)
    (hkey : ∀ a ∈ attempts, a.keyId = keyId) :
    outcomes plan buckets attempts = outcomes plan others attempts := by
  induction attempts generalizing buckets others with
  | nil => rfl
  | cons attempt attempts ih =>
    obtain rfl := hkey attempt List.mem_cons_self
    obtain ⟨hresult, hbucket⟩ := @attemptWith_congr plan buckets others attempt hsame
    rw [outcomes, outcomes, ih hbucket fun a ha => hkey a (List.mem_cons_of_mem _ ha), hresult]

/-- The results of a key are those of its own calls. -/
theorem outcomes_filter : (outcomes plan buckets attempts).filter (·.1.keyId = keyId) =
    outcomes plan buckets (attempts.filter (·.keyId = keyId)) := by
  induction attempts generalizing buckets with
  | nil => rfl
  | cons attempt attempts ih =>
    by_cases hkey : attempt.keyId = keyId
    · simp only [outcomes, List.filter_cons, hkey, decide_true, if_true, ih]
    · simp only [outcomes, List.filter_cons, hkey, decide_false, ih]
      refine outcomes_congr (consume_of_ne (Ne.symm hkey)) fun a ha => ?_
      simpa using (List.mem_filter.mp ha).2

/-- The calls of one key draw from its bucket. -/
theorem map_outcomes_eq_draws (hkey : ∀ a ∈ attempts, a.keyId = keyId) :
    (outcomes plan buckets attempts).map (fun outcome => (outcome.1.now, outcome.2.allowed)) =
      Bucket.draws ((plan.limit keyId).maxTokens : ℚ) (plan.limit keyId).fillIntervalMs
        (bucketOf buckets keyId) (attempts.map (·.now)) := by
  induction attempts generalizing buckets with
  | nil => rfl
  | cons attempt attempts ih =>
    obtain rfl := hkey attempt List.mem_cons_self
    obtain ⟨hallowed, hbucket⟩ := @attemptWith_eq_draw plan buckets attempt
    rw [outcomes, List.map_cons, ih fun a ha => hkey a (List.mem_cons_of_mem _ ha), hbucket,
      hallowed]
    rfl

/-- The calls that a key is allowed in a span of time. -/
theorem countP_span (horder : InOrder attempts) {first width : ℚ} (hwidth : 0 ≤ width) :
    (((outcomes plan (fun _ => none) attempts).countP fun outcome => outcome.1.keyId = keyId ∧
      outcome.2.allowed ∧ first ≤ outcome.1.now ∧ outcome.1.now ≤ first + width : ℕ) : ℚ) ≤
        (plan.limit keyId).maxTokens +
          width * (plan.limit keyId).maxTokens / (plan.limit keyId).fillIntervalMs := by
  obtain ⟨hnonneg, -, hinterval⟩ := limit_pos plan keyId
  have hown : ∀ a ∈ attempts.filter (·.keyId = keyId), a.keyId = keyId := fun a ha => by
    simpa using (List.mem_filter.mp ha).2
  have htimes : ((attempts.filter (·.keyId = keyId)).map (·.now)).Pairwise (· ≤ ·) :=
    List.pairwise_map.mpr (horder.filter _)
  have hnew : ∀ bucket ∈ bucketOf (fun _ => none) keyId, ∀ now ∈ (attempts.filter
      (·.keyId = keyId)).map (·.now), Bucket.Level ((plan.limit keyId).maxTokens : ℚ) now bucket :=
    fun bucket h => nomatch h
  have hdrawn := Bucket.countP_span_le hnonneg hinterval htimes hnew
    (le_add_of_nonneg_right hwidth : first ≤ first + width)
  have hcount : (outcomes plan (fun _ => none) attempts).countP (fun outcome =>
      outcome.1.keyId = keyId ∧ outcome.2.allowed ∧ first ≤ outcome.1.now ∧
        outcome.1.now ≤ first + width) =
      ((outcomes plan (fun _ => none) (attempts.filter (·.keyId = keyId))).map
        fun outcome => (outcome.1.now, outcome.2.allowed)).countP fun drawn =>
          drawn.2 ∧ first ≤ drawn.1 ∧ drawn.1 ≤ first + width := by
    rw [← outcomes_filter, List.countP_map, List.countP_filter]
    refine List.countP_congr fun outcome _ => ?_
    simp [and_comm]
  rw [hcount, map_outcomes_eq_draws hown]
  refine hdrawn.trans (le_of_eq ?_)
  ring

theorem exists_bound (attempts : List Attempt) : ∃ bound, ∀ a ∈ attempts, a.now ≤ bound := by
  induction attempts with
  | nil => exact ⟨0, fun a ha => absurd ha List.not_mem_nil⟩
  | cons attempt attempts ih =>
    obtain ⟨bound, hbound⟩ := ih
    refine ⟨max attempt.now bound, fun a ha => ?_⟩
    rcases List.mem_cons.mp ha with rfl | ha
    · exact le_max_left _ _
    · exact (hbound a ha).trans (le_max_right _ _)

/-- The levels after some calls of a new limiter. -/
theorem levels_after (horder : InOrder attempts) {bound : ℚ}
    (hbound : ∀ a ∈ attempts, a.now ≤ bound) :
    Levels plan (after plan (fun _ => none) attempts) bound := by
  cases attempts with
  | nil => exact levels_start
  | cons attempt attempts =>
    have hfirst := (List.pairwise_cons.mp horder).1
    have hstart : Levels plan (fun _ => none) attempt.now := levels_start
    refine hstart.run horder (fun a ha => ?_) hbound (hbound attempt List.mem_cons_self)
    rcases List.mem_cons.mp ha with rfl | ha
    · exact le_refl _
    · exact hfirst a ha

theorem outcomes_eq_cons {outcome : Attempt × RateLimitResult}
    {rest : List (Attempt × RateLimitResult)}
    (h : outcomes plan buckets attempts = outcome :: rest) :
    ∃ attempt behind, attempts = attempt :: behind ∧
      outcome = (attempt, (attemptWith plan buckets attempt).1) ∧
        outcomes plan (attemptWith plan buckets attempt).2 behind = rest := by
  cases attempts with
  | nil => exact nomatch h
  | cons attempt behind =>
    obtain ⟨houtcome, hrest⟩ := List.cons.inj h
    exact ⟨attempt, behind, rfl, houtcome.symm, hrest⟩

/-- After a refusal the next call of the key succeeds, once the hint has passed. -/
theorem allowed_after_hint {retried : Attempt} (hlevels : Levels plan buckets attempt.now)
    (hrefused : (attemptWith plan buckets attempt).1.allowed = false)
    (hbetween : ∀ a ∈ attempts, a.keyId ≠ attempt.keyId) (hsame : retried.keyId = attempt.keyId)
    (hwait : attempt.now + ((attemptWith plan buckets attempt).1.retryAfterMs : ℚ) ≤ retried.now) :
    (attemptWith plan (after plan (attemptWith plan buckets attempt).2 attempts)
      retried).1.allowed =
      true := by
  obtain ⟨-, hone, hinterval⟩ := limit_pos plan attempt.keyId
  obtain ⟨-, hsince⟩ := hlevels.step le_rfl
  obtain ⟨hmissing, hhint⟩ := retryAfterMs_of_refused hrefused
  rw [attemptWith_eq_draw.1, hsame, bucketOf_after_of_ne hbetween, attemptWith_eq_draw.2]
  refine Bucket.draw_after_refusal hone hinterval ?_ hmissing
  rw [hsince]
  have hhint : _ ≤ ((attemptWith plan buckets attempt).1.retryAfterMs : ℚ) := hhint
  refine hhint.trans ?_
  linarith

/-- A limiter keeps to its rate as long as its clock does not go back. -/
theorem rate_enforced (plan : Plan) (attempts : List Attempt) (horder : InOrder attempts) :
    RateEnforced plan attempts where
  tokens := by
    rintro front back rfl keyId bucket hbucket
    obtain ⟨bound, hbound⟩ := exists_bound front
    have hlevels : Levels plan (after plan (fun _ => none) front) bound :=
      levels_after (List.pairwise_append.mp horder).1 hbound
    have hlevel := hlevels keyId bucket.bucket (by rw [bucketOf, hbucket]; rfl)
    exact ⟨hlevel.nonneg, hlevel.capped⟩
  span keyId first width hwidth := countP_span horder hwidth
  isolated keyId := outcomes_filter
  hint := by
    intro front refused between retried back houtcomes hrefused hsame hbetween hwait
    obtain ⟨before, behind, rfl, -, hbehind⟩ := outcomes_eq_append houtcomes
    obtain ⟨attempt, later, rfl, rfl, hlater⟩ := outcomes_eq_cons hbehind
    obtain ⟨others, last, rfl, hothers, hlast⟩ := outcomes_eq_append hlater
    obtain ⟨next, rest, rfl, rfl, -⟩ := outcomes_eq_cons hlast
    have hbefore : ∀ a ∈ before, a.now ≤ attempt.now := fun a ha =>
      (List.pairwise_append.mp horder).2.2 a ha attempt List.mem_cons_self
    refine allowed_after_hint (levels_after (List.pairwise_append.mp horder).1 hbefore) hrefused
      (fun a ha => ?_) hsame hwait
    have hcalls := congrArg (List.map Prod.fst) hothers
    rw [map_fst_outcomes] at hcalls
    rw [hcalls] at ha
    obtain ⟨outcome, houtcome, rfl⟩ := List.mem_map.mp ha
    exact hbetween outcome houtcome

theorem two_keys_enforced : RateEnforced (fun _ => (.standard, .live))
    [⟨"a", 0⟩, ⟨"b", 1 / 2⟩, ⟨"a", 3000⟩] :=
  rate_enforced _ _ (by simp [InOrder]; norm_num)

end ChatmanEcosystem.Console.RateLimit
