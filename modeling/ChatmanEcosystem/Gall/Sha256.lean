import ChatmanEcosystem.Common.Lines
import ChatmanEcosystem.Common.Sha256

/-!
# The hand-written SHA-256

Model of `sha256` and `sha256_hex` (`crates/gall/src/lib.rs`, lines 1444–1606). A `u32` is a
bit vector, an array a list.

Results:

* `round_constants`, `initial_constants`: the tables are the roots of the primes.
* `bits_padded`: the padding is the standard's.
* `schedule_eq`, `round_toNat`: the two loops over a block.
* `sha256_eq_digest`: the digest is the standard's, for every input shorter than `2 ^ 61` bytes.
-/

namespace ChatmanEcosystem.Gall

open Common Common.Sha256

/-! ## Code -/

/-- `INITIAL` (lines 1456–1465). -/
def INITIAL : Work (BitVec 32) :=
  ⟨0x6a09e667, 0xbb67ae85, 0x3c6ef372, 0xa54ff53a, 0x510e527f, 0x9b05688c, 0x1f83d9ab, 0x5be0cd19⟩

/-- `ROUND` (lines 1466–1531). -/
def ROUND : List (BitVec 32) :=
  [0x428a2f98, 0x71374491, 0xb5c0fbcf, 0xe9b5dba5, 0x3956c25b, 0x59f111f1, 0x923f82a4, 0xab1c5ed5,
    0xd807aa98, 0x12835b01, 0x243185be, 0x550c7dc3, 0x72be5d74, 0x80deb1fe, 0x9bdc06a7, 0xc19bf174,
    0xe49b69c1, 0xefbe4786, 0x0fc19dc6, 0x240ca1cc, 0x2de92c6f, 0x4a7484aa, 0x5cb0a9dc, 0x76f988da,
    0x983e5152, 0xa831c66d, 0xb00327c8, 0xbf597fc7, 0xc6e00bf3, 0xd5a79147, 0x06ca6351, 0x14292967,
    0x27b70a85, 0x2e1b2138, 0x4d2c6dfc, 0x53380d13, 0x650a7354, 0x766a0abb, 0x81c2c92e, 0x92722c85,
    0xa2bfe8a1, 0xa81a664b, 0xc24b8b70, 0xc76c51a3, 0xd192e819, 0xd6990624, 0xf40e3585, 0x106aa070,
    0x19a4c116, 0x1e376c08, 0x2748774c, 0x34b0bcb5, 0x391c0cb3, 0x4ed8aa4a, 0x5b9cca4f, 0x682e6ff3,
    0x748f82ee, 0x78a5636f, 0x84c87814, 0x8cc70208, 0x90befffa, 0xa4506ceb, 0xbef9a3f7, 0xc67178f2]

/-- `while padded.len() % 64 != 56` (lines 1536–1538), for at most `fuel` turns. -/
def fill : ℕ → List UInt8 → List UInt8
  | 0, padded => padded
  | fuel + 1, padded => if padded.length % 64 ≠ 56 then fill fuel (padded ++ [0]) else padded

/-- The padded input (lines 1533–1539). The loop ends within 64 turns. -/
def padded (input : List UInt8) : List UInt8 :=
  let bitLength := input.length * 8 % 2 ^ 64
  fill 64 (input ++ [0x80]) ++ beBytes 8 bitLength

/-- `chunks_exact(size)`. -/
def chunksExact (size : ℕ) (bytes : List UInt8) : List (List UInt8) :=
  (List.range (bytes.length / size)).map fun i => (bytes.drop (size * i)).take size

/-- `u32::from_be_bytes` of a chunk. -/
def fromBeBytes (word : List UInt8) : BitVec 32 :=
  BitVec.ofNat 32 (word.foldl (fun n b => n * 256 + b.toNat) 0)

/-- The loop that extends the schedule, for one index (lines 1548–1559). -/
def extend (schedule : List (BitVec 32)) (index : ℕ) : List (BitVec 32) :=
  let at' := fun i => schedule.getD i 0
  let s0 := (at' (index - 15)).rotateRight 7 ^^^ (at' (index - 15)).rotateRight 18 ^^^
    (at' (index - 15)) >>> 3
  let s1 := (at' (index - 2)).rotateRight 17 ^^^ (at' (index - 2)).rotateRight 19 ^^^
    (at' (index - 2)) >>> 10
  schedule.set index (at' (index - 16) + s0 + at' (index - 7) + s1)

/-- The schedule of a chunk (lines 1544–1559). -/
def scheduleOf (chunk : List UInt8) : List (BitVec 32) :=
  let words := ((chunksExact 4 chunk).take 16).map fromBeBytes
  (List.range' 16 48).foldl extend (words ++ List.replicate (64 - words.length) 0)

/-- One turn of the loop over the rounds (lines 1570–1589). -/
def roundOf (schedule : List (BitVec 32)) (v : Work (BitVec 32)) (index : ℕ) : Work (BitVec 32) :=
  let sum1 := v.e.rotateRight 6 ^^^ v.e.rotateRight 11 ^^^ v.e.rotateRight 25
  let choose := (v.e &&& v.f) ^^^ (~~~v.e &&& v.g)
  let temp1 := v.h + sum1 + choose + ROUND.getD index 0 + schedule.getD index 0
  let sum0 := v.a.rotateRight 2 ^^^ v.a.rotateRight 13 ^^^ v.a.rotateRight 22
  let majority := (v.a &&& v.b) ^^^ (v.a &&& v.c) ^^^ (v.b &&& v.c)
  let temp2 := sum0 + majority
  ⟨temp1 + temp2, v.a, v.b, v.c, v.d + temp1, v.e, v.f, v.g⟩

/-- What a chunk makes of the state (lines 1543–1600). -/
def compressChunk (state : Work (BitVec 32)) (chunk : List UInt8) : Work (BitVec 32) :=
  let schedule := scheduleOf chunk
  let v := (List.range 64).foldl (roundOf schedule) state
  ⟨state.a + v.a, state.b + v.b, state.c + v.c, state.d + v.d, state.e + v.e, state.f + v.f,
    state.g + v.g, state.h + v.h⟩

/-- `sha256` (lines 1455–1606). -/
def sha256 (input : List UInt8) : List UInt8 :=
  let state := (chunksExact 64 (padded input)).foldl compressChunk INITIAL
  state.toList.flatMap fun word => beBytes 4 word.toNat

/-! ## Constants -/

/-- The fraction of a root is found with its whole part. -/
theorem fraction_of_bounds {degree p k : ℕ} (hdegree : degree ≠ 0) (hk : k < 2 ^ 32)
    (h : ∃ whole ∈ List.range 18, (whole * 2 ^ 32 + k) ^ degree ≤ p * 2 ^ (32 * degree) ∧
      p * 2 ^ (32 * degree) < (whole * 2 ^ 32 + k + 1) ^ degree) : fraction degree p = k := by
  obtain ⟨whole, -, hlow, hhigh⟩ := h
  rw [fraction_eq hdegree hlow hhigh, Nat.mul_add_mod', Nat.mod_eq_of_lt hk]

theorem round_constants {t : ℕ} (ht : t < 64) : roundConstant t = (ROUND.getD t 0).toNat := by
  have hbounds : ∀ t ∈ List.range 64, ∃ whole ∈ List.range 18,
      (whole * 2 ^ 32 + (ROUND.getD t 0).toNat) ^ 3 ≤ primes.getD t 0 * 2 ^ (32 * 3) ∧
      primes.getD t 0 * 2 ^ (32 * 3) < (whole * 2 ^ 32 + (ROUND.getD t 0).toNat + 1) ^ 3 := by
    decide +kernel
  exact fraction_of_bounds (by decide) (BitVec.isLt _) (hbounds t (List.mem_range.mpr ht))

theorem initial_constants : initial = INITIAL.map BitVec.toNat := by
  have hbounds : ∀ i ∈ List.range 8, ∃ whole ∈ List.range 18,
      (whole * 2 ^ 32 + (INITIAL.toList.getD i 0).toNat) ^ 2 ≤ primes.getD i 0 * 2 ^ (32 * 2) ∧
      primes.getD i 0 * 2 ^ (32 * 2) <
        (whole * 2 ^ 32 + (INITIAL.toList.getD i 0).toNat + 1) ^ 2 := by
    decide +kernel
  have hword : ∀ i < 8, fraction 2 (primes.getD i 0) = (INITIAL.toList.getD i 0).toNat :=
    fun i hi => fraction_of_bounds (by decide) (BitVec.isLt _) (hbounds i (List.mem_range.mpr hi))
  simp only [initial, hword 0 (by decide), hword 1 (by decide), hword 2 (by decide),
    hword 3 (by decide), hword 4 (by decide), hword 5 (by decide), hword 6 (by decide),
    hword 7 (by decide)]
  rfl

/-! ## Words -/

theorem toNat_rotateRight {n : ℕ} (hn : n < 32) (x : BitVec 32) :
    (x.rotateRight n).toNat = rotr n x.toNat := by
  have hlow : x.toNat <<< (32 - n) % 2 ^ 32 = (x.toNat % 2 ^ n) <<< (32 - n) := by
    rw [Nat.shiftLeft_eq, Nat.shiftLeft_eq, ← Nat.mul_mod_mul_right, ← Nat.pow_add,
      Nat.add_sub_cancel' hn.le]
  have hhigh : x.toNat / 2 ^ n < 2 ^ (32 - n) := by
    rw [Nat.div_lt_iff_lt_mul (Nat.two_pow_pos n), ← Nat.pow_add, Nat.sub_add_cancel hn.le]
    exact x.isLt
  rw [BitVec.toNat_rotateRight, Nat.mod_eq_of_lt hn, hlow, Nat.shiftRight_eq_div_pow, Nat.or_comm,
    ← Nat.shiftLeft_add_eq_or_of_lt hhigh, Nat.shiftLeft_eq, Nat.add_comm, rotr]

theorem toNat_add (x y : BitVec 32) : (x + y).toNat = add x.toNat y.toNat := BitVec.toNat_add x y

theorem toNat_shr (n : ℕ) (x : BitVec 32) : (x >>> n).toNat = shr n x.toNat := by
  rw [BitVec.toNat_ushiftRight, Nat.shiftRight_eq_div_pow, shr]

/-! ## The loops over a block -/

variable {block : ℕ → ℕ} {words : List (BitVec 32)}

/-- A round of the code is a round of the standard, where the schedules agree. -/
theorem round_toNat {t : ℕ} (ht : t < 64) (hword : (words.getD t 0).toNat = schedule block t)
    (v : Work (BitVec 32)) :
    (roundOf words v t).map BitVec.toNat = round block (v.map BitVec.toNat) t := by
  simp only [roundOf, Sha256.round, Work.map, toNat_add, choose, majority, BitVec.toNat_xor,
    BitVec.toNat_and, BitVec.toNat_not,
    toNat_rotateRight (show 2 < 32 by decide), toNat_rotateRight (show 6 < 32 by decide),
    toNat_rotateRight (show 11 < 32 by decide), toNat_rotateRight (show 13 < 32 by decide),
    toNat_rotateRight (show 22 < 32 by decide), toNat_rotateRight (show 25 < 32 by decide), hword,
    round_constants ht, bigSigma0, bigSigma1]

theorem rounds_toNat (hwords : ∀ t < 64, (words.getD t 0).toNat = schedule block t) {n : ℕ}
    (hn : n ≤ 64) (v : Work (BitVec 32)) :
    ((List.range n).foldl (roundOf words) v).map BitVec.toNat =
      (List.range n).foldl (round block) (v.map BitVec.toNat) := by
  induction n with
  | zero => rfl
  | succ n ih =>
    rw [List.range_succ, List.foldl_append, List.foldl_append, ← ih (by omega)]
    exact round_toNat (by omega) (hwords n (by omega)) _

/-- The schedule is filled in order, each word from those before it. -/
theorem extend_spec (hlength : words.length = 64)
    (hfirst : ∀ t < 16, (words.getD t 0).toNat = block t) {n : ℕ} (hn : n ≤ 48) :
    ((List.range' 16 n).foldl extend words).length = 64 ∧
      ∀ t < 16 + n, (((List.range' 16 n).foldl extend words).getD t 0).toNat =
        schedule block t := by
  induction n with
  | zero =>
    refine ⟨hlength, fun t ht => ?_⟩
    rw [schedule, if_pos (by omega)]
    exact hfirst t (by omega)
  | succ n ih =>
    obtain ⟨hlen, hbefore⟩ := ih (by omega)
    rw [List.range'_concat, List.foldl_append, Nat.one_mul]
    generalize (List.range' 16 n).foldl extend words = filled at hlen hbefore
    rw [List.foldl_cons, List.foldl_nil, extend]
    refine ⟨by rw [List.length_set, hlen], fun t ht => ?_⟩
    rw [List.getD_eq_getElem?_getD, List.getElem?_set]
    by_cases hlast : 16 + n = t
    · subst hlast
      rw [if_pos rfl, if_pos (by omega), Option.getD_some, schedule, if_neg (by omega),
        ← hbefore (16 + n - 2) (by omega), ← hbefore (16 + n - 7) (by omega),
        ← hbefore (16 + n - 15) (by omega), ← hbefore (16 + n - 16) (by omega)]
      simp only [toNat_add, BitVec.toNat_xor, toNat_shr, smallSigma0, smallSigma1,
        toNat_rotateRight (show 7 < 32 by decide), toNat_rotateRight (show 17 < 32 by decide),
        toNat_rotateRight (show 18 < 32 by decide), toNat_rotateRight (show 19 < 32 by decide)]
      simp only [add]
      omega
    · rw [if_neg hlast, ← List.getD_eq_getElem?_getD]
      exact hbefore t (by omega)

/-! ## The padding -/

theorem bits_beBytes (k n : ℕ) : bits (beBytes k n) = binary (8 * k) n := by
  induction k with
  | zero => rfl
  | succ k ih =>
    have hbyte : binary 8 (UInt8.ofNat (n / 256 ^ k)).toNat = binary 8 (n / 2 ^ (8 * k)) := by
      rw [UInt8.toNat_ofNat', binary_mod, Nat.pow_mul]
    rw [beBytes, bits, List.flatMap_cons, ← bits, ih, hbyte, ← binary_append, Nat.mul_succ,
      Nat.add_comm]

theorem bits_zeros (k : ℕ) : bits (List.replicate k 0) = List.replicate (8 * k) false := by
  induction k with
  | zero => rfl
  | succ k ih =>
    rw [List.replicate_succ, bits, List.flatMap_cons, ← bits, ih, Nat.mul_succ, Nat.add_comm,
      List.replicate_add]
    rfl

variable {bytes : List UInt8}

/-- The loop pads with zeros up to 56 bytes of a block. -/
theorem fill_eq {fuel : ℕ} (h : (120 - bytes.length % 64) % 64 ≤ fuel) :
    fill fuel bytes = bytes ++ List.replicate ((120 - bytes.length % 64) % 64) 0 := by
  induction fuel generalizing bytes with
  | zero =>
    rw [show (120 - bytes.length % 64) % 64 = 0 by omega]
    simp [fill]
  | succ fuel ih =>
    unfold fill
    split_ifs with hlength
    · have hnext : (120 - bytes.length % 64) % 64 =
          (120 - (bytes ++ [0]).length % 64) % 64 + 1 := by
        rw [List.length_append, List.length_singleton]
        omega
      rw [ih (by omega), hnext, List.replicate_succ, List.append_assoc, List.singleton_append]
    · rw [show (120 - bytes.length % 64) % 64 = 0 by omega]
      simp

theorem padded_eq (input : List UInt8) : padded input = input ++ (0x80 :: (List.replicate
    ((120 - (input.length + 1) % 64) % 64) 0 ++ beBytes 8 (input.length * 8 % 2 ^ 64))) := by
  unfold padded
  rw [fill_eq (by omega), List.length_append, List.length_singleton]
  simp

theorem length_padded (input : List UInt8) : (padded input).length % 64 = 0 := by
  rw [padded_eq]
  simp only [List.length_append, List.length_cons, List.length_replicate, length_beBytes]
  omega

/-- The padding is the standard's. -/
theorem bits_padded {input : List UInt8} (h : input.length < 2 ^ 61) :
    bits (padded input) = pad (bits input) := by
  have hone : bits [0x80] = true :: List.replicate 7 false := by decide
  have hzeros : zeros (bits input).length = 7 + 8 * ((120 - (input.length + 1) % 64) % 64) := by
    rw [length_bits, zeros]
    omega
  rw [padded_eq, pad, bits_append, ← List.singleton_append, bits_append, bits_append, bits_zeros,
    bits_beBytes, Nat.mod_eq_of_lt (show input.length * 8 < 2 ^ 64 by omega), hone, hzeros,
      length_bits, Nat.mul_comm 8,
    List.replicate_add]
  simp [Nat.mul_comm]

/-- The padding determines the message. -/
theorem padded_inj {input other : List UInt8} (h : input.length < 2 ^ 61)
    (hother : other.length < 2 ^ 61) (heq : padded input = padded other) : input = other := by
  rw [padded_eq, padded_eq, ← List.cons_append, ← List.cons_append, ← List.append_assoc,
    ← List.append_assoc] at heq
  obtain ⟨hfront, hlengths⟩ := List.append_inj' heq (by simp)
  have hlength := beBytes_inj (by omega) (by omega) hlengths
  exact (List.append_inj hfront (by omega)).1

/-! ## The digest -/

variable {i : ℕ}

theorem length_chunk {size : ℕ} (hi : i < bytes.length / size) :
    ((bytes.drop (size * i)).take size).length = size := by
  have hsize := Nat.mul_le_of_le_div size (i + 1) bytes.length hi
  rw [List.length_take, List.length_drop, Nat.mul_comm size i]
  rw [Nat.succ_mul] at hsize
  omega

/-- The words of a chunk are those of the standard's block. -/
theorem wordOf_eq {j : ℕ} (hj : j < 16) :
    (fromBeBytes ((((bytes.drop (64 * i)).take 64).drop (4 * j)).take 4)).toNat =
      wordOf (bits bytes) i j := by
  have hword : (((bytes.drop (64 * i)).take 64).drop (4 * j)).take 4 =
      (bytes.drop (64 * i + 4 * j)).take 4 := by
    rw [List.drop_take, List.take_take, List.drop_drop, Nat.min_eq_left (by omega)]
  have hbits : wordOf (bits bytes) i j = number (bits ((bytes.drop (64 * i + 4 * j)).take 4)) := by
    rw [wordOf, show 512 * i + 32 * j = 8 * (64 * i + 4 * j) by omega, bits_drop,
      show 32 = 8 * 4 from rfl, bits_take]
  have hlt := number_lt (bits ((bytes.drop (64 * i + 4 * j)).take 4))
  have hlength : (bits ((bytes.drop (64 * i + 4 * j)).take 4)).length ≤ 32 := by
    rw [length_bits, List.length_take]
    omega
  rw [hword, hbits, fromBeBytes, ← number_bits, BitVec.toNat_ofNat]
  exact Nat.mod_eq_of_lt (hlt.trans_le (Nat.pow_le_pow_right (by decide) hlength))

theorem schedule_eq (hi : i < bytes.length / 64) {t : ℕ} (ht : t < 64) :
    ((scheduleOf ((bytes.drop (64 * i)).take 64)).getD t 0).toNat =
      schedule (wordOf (bits bytes) i) t := by
  have hchunk := length_chunk hi
  have hwords : (((chunksExact 4 ((bytes.drop (64 * i)).take 64)).take 16).map fromBeBytes) =
      (List.range 16).map fun j =>
        fromBeBytes ((((bytes.drop (64 * i)).take 64).drop (4 * j)).take 4) := by
    rw [chunksExact, hchunk, ← List.map_take, List.map_map]
    rfl
  unfold scheduleOf
  rw [hwords]
  refine (extend_spec ?_ (fun j hj => ?_) (Nat.le_refl 48)).2 t ht
  · simp
  · rw [← wordOf_eq hj, List.getD_append _ _ _ _ (by simpa using hj)]
    simp [List.getD_eq_getElem?_getD, List.getElem?_range hj]

theorem compress_toNat (hi : i < bytes.length / 64) (state : Work (BitVec 32)) :
    (compressChunk state ((bytes.drop (64 * i)).take 64)).map BitVec.toNat =
      compress (state.map BitVec.toNat) (wordOf (bits bytes) i) := by
  have hrounds := rounds_toNat (fun t ht => schedule_eq hi ht) (Nat.le_refl 64) state
  simp only [compress, ← hrounds]
  simp only [compressChunk, Work.map, toNat_add]

/-- The digest is the standard's, the padding comes to whole blocks and determines the message. -/
theorem sha256_eq_digest (input : List UInt8) (h : input.length < 2 ^ 61) :
    (padded input).length % 64 = 0 ∧
    (∀ other : List UInt8, other.length < 2 ^ 61 → padded input = padded other → input = other) ∧
    bits (sha256 input) = digest (bits input) := by
  refine ⟨length_padded input, fun other hother => padded_inj h hother, ?_⟩
  have hblocks : ∀ n ≤ (padded input).length / 64,
      ((List.range n).foldl (fun state i => compressChunk state
        (((padded input).drop (64 * i)).take 64)) INITIAL).map BitVec.toNat =
      (List.range n).foldl (fun hash i => compress hash (wordOf (bits (padded input)) i))
        initial := by
    intro n hn
    induction n with
    | zero => exact initial_constants.symm
    | succ n ih =>
      rw [List.range_succ, List.foldl_append, List.foldl_append, ← ih (by omega)]
      exact compress_toNat (by omega) _
  have hcount : (pad (bits input)).length / 512 = (padded input).length / 64 := by
    rw [← bits_padded h, length_bits]
    omega
  have hwords : ∀ work : Work (BitVec 32),
      bits (work.toList.flatMap fun word => beBytes 4 word.toNat) =
        (work.map BitVec.toNat).toList.flatMap (binary 32) := by
    intro work
    simp only [Work.toList, Work.map, List.flatMap_cons, List.flatMap_nil, bits_append,
      bits_beBytes]
    rfl
  rw [digest, hcount, ← bits_padded h, ← hblocks _ (Nat.le_refl _), sha256, hwords, chunksExact,
    List.foldl_map]

/-- The empty input, and one whose length takes a second block. -/
theorem sha256_sample : bits (sha256 []) = digest (bits []) ∧
    bits (sha256 (List.replicate 56 97)) = digest (bits (List.replicate 56 97)) :=
  ⟨(sha256_eq_digest [] (by decide)).2.2,
    (sha256_eq_digest _ (by rw [List.length_replicate]; decide)).2.2⟩

example : (sha256 [0x61, 0x62, 0x63]).take 8 =
  [0xba, 0x78, 0x16, 0xbf, 0x8f, 0x01, 0xcf, 0xea] := by
  decide +kernel

end ChatmanEcosystem.Gall
