import Mathlib.Data.Nat.Bitwise
import Mathlib.Data.Nat.Find
import Mathlib.Data.Nat.Prime.Basic
import Mathlib.Data.List.Induction
import Mathlib.Tactic.Ring

/-!
# SHA-256

The Secure Hash Standard, for a message of bits: words are numbers below `2 ^ 32`, sums are taken
modulo `2 ^ 32`, and the constants are fractions of roots of primes.

* `number_binary`: a number is read back from its digits.
* `fraction_eq`: how a fraction of a root is found.
-/

namespace ChatmanEcosystem.Common.Sha256

/-! ## Bits -/

/-- The number that bits stand for, the highest first. -/
def number (bits : List Bool) : ℕ := bits.foldl (fun n bit => 2 * n + bit.toNat) 0

/-- The low `w` bits of a number, the highest first. -/
def binary : ℕ → ℕ → List Bool
  | 0, _ => []
  | w + 1, n => n.testBit w :: binary w n

/-- The bits of bytes. -/
def bits (bytes : List UInt8) : List Bool := bytes.flatMap fun b => binary 8 b.toNat

/-- The least number of zeros that brings `length + 1` bits to 448 modulo 512. -/
def zeros (length : ℕ) : ℕ := (959 - length % 512) % 512

/-- A message with a one, zeros and its length behind it. -/
def pad (message : List Bool) : List Bool :=
  message ++ true :: (List.replicate (zeros message.length) false ++ binary 64 message.length)

/-! ## Words -/

/-- Circular shift to the right. -/
def rotr (n x : ℕ) : ℕ := x / 2 ^ n + x % 2 ^ n * 2 ^ (32 - n)

def shr (n x : ℕ) : ℕ := x / 2 ^ n

def add (x y : ℕ) : ℕ := (x + y) % 2 ^ 32

def choose (x y z : ℕ) : ℕ := (x &&& y) ^^^ ((2 ^ 32 - 1 - x) &&& z)

def majority (x y z : ℕ) : ℕ := (x &&& y) ^^^ (x &&& z) ^^^ (y &&& z)

def bigSigma0 (x : ℕ) : ℕ := rotr 2 x ^^^ rotr 13 x ^^^ rotr 22 x

def bigSigma1 (x : ℕ) : ℕ := rotr 6 x ^^^ rotr 11 x ^^^ rotr 25 x

def smallSigma0 (x : ℕ) : ℕ := rotr 7 x ^^^ rotr 18 x ^^^ shr 3 x

def smallSigma1 (x : ℕ) : ℕ := rotr 17 x ^^^ rotr 19 x ^^^ shr 10 x

/-! ## Constants -/

/-- The first 64 primes (`mem_primes`). -/
def primes : List ℕ := (List.range 312).filter fun n =>
  2 ≤ n ∧ ∀ d ∈ List.range' 2 16, d < n → n % d ≠ 0

/-- The first 32 bits of the fraction of the root of a number. -/
def fraction (degree n : ℕ) : ℕ :=
  Nat.findGreatest (fun r => r ^ degree ≤ n * 2 ^ (32 * degree)) (n * 2 ^ (32 * degree)) % 2 ^ 32

/-- The constant of a round. -/
def roundConstant (t : ℕ) : ℕ := fraction 3 (primes.getD t 0)

/-! ## The hash -/

/-- Eight words. -/
structure Work (α : Type) where
  a : α
  b : α
  c : α
  d : α
  e : α
  f : α
  g : α
  h : α
  deriving DecidableEq

def Work.map {α β : Type} (f : α → β) (work : Work α) : Work β :=
  ⟨f work.a, f work.b, f work.c, f work.d, f work.e, f work.f, f work.g, f work.h⟩

def Work.toList {α : Type} (work : Work α) : List α :=
  [work.a, work.b, work.c, work.d, work.e, work.f, work.g, work.h]

def initial : Work ℕ :=
  let word := fun i => fraction 2 (primes.getD i 0)
  ⟨word 0, word 1, word 2, word 3, word 4, word 5, word 6, word 7⟩

/-- The message schedule of a block of sixteen words. -/
def schedule (block : ℕ → ℕ) (t : ℕ) : ℕ :=
  if t < 16 then block t
  else add (add (add (smallSigma1 (schedule block (t - 2))) (schedule block (t - 7)))
    (smallSigma0 (schedule block (t - 15)))) (schedule block (t - 16))
termination_by t
decreasing_by all_goals omega

/-- One round. -/
def round (block : ℕ → ℕ) (v : Work ℕ) (t : ℕ) : Work ℕ :=
  let t1 := add (add (add (add v.h (bigSigma1 v.e)) (choose v.e v.f v.g)) (roundConstant t))
    (schedule block t)
  let t2 := add (bigSigma0 v.a) (majority v.a v.b v.c)
  ⟨add t1 t2, v.a, v.b, v.c, add v.d t1, v.e, v.f, v.g⟩

/-- A block is worked into the hash. -/
def compress (hash : Work ℕ) (block : ℕ → ℕ) : Work ℕ :=
  let v := (List.range 64).foldl (round block) hash
  ⟨add hash.a v.a, add hash.b v.b, add hash.c v.c, add hash.d v.d, add hash.e v.e, add hash.f v.f,
    add hash.g v.g, add hash.h v.h⟩

/-- A word of a block of the padded message. -/
def wordOf (padded : List Bool) (block j : ℕ) : ℕ :=
  number ((padded.drop (512 * block + 32 * j)).take 32)

/-- The digest of a message. -/
def digest (message : List Bool) : List Bool :=
  let padded := pad message
  let hash := (List.range (padded.length / 512)).foldl
    (fun hash block => compress hash (wordOf padded block)) initial
  hash.toList.flatMap (binary 32)

/-! ## Numbers and their digits -/

theorem zeros_spec (length : ℕ) : (length + 1 + zeros length) % 512 = 448 ∧
    ∀ k < zeros length, (length + 1 + k) % 512 ≠ 448 := by
  unfold zeros
  refine ⟨by omega, fun k hk => by omega⟩

@[simp] theorem length_binary (w n : ℕ) : (binary w n).length = w := by
  induction w with
  | zero => rfl
  | succ w ih => rw [binary, List.length_cons, ih]

theorem number_append (xs ys : List Bool) :
    number (xs ++ ys) = number xs * 2 ^ ys.length + number ys := by
  induction ys using List.reverseRecOn with
  | nil => simp [number]
  | append_singleton ys bit ih =>
    have hlast : ∀ zs : List Bool, number (zs ++ [bit]) = 2 * number zs + bit.toNat := fun zs => by
      simp [number]
    rw [← List.append_assoc, hlast, hlast, ih, List.length_append, List.length_singleton,
      Nat.pow_succ]
    ring

theorem number_binary (w n : ℕ) : number (binary w n) = n % 2 ^ w := by
  induction w with
  | zero => simp [binary, number, Nat.mod_one]
  | succ w ih =>
    have hcons : binary (w + 1) n = [n.testBit w] ++ binary w n := rfl
    have hbit : (n.testBit w).toNat = n / 2 ^ w % 2 := by
      rw [Nat.testBit_eq_decide_div_mod_eq]
      rcases Nat.mod_two_eq_zero_or_one (n / 2 ^ w) with h | h <;> simp [h]
    have hone : number [n.testBit w] = n / 2 ^ w % 2 := by
      rw [← hbit]
      simp [number]
    rw [hcons, number_append, ih, length_binary, hone, Nat.mod_pow_succ, Nat.mul_comm,
      Nat.add_comm]

/-- The digits depend on the low part only. -/
theorem binary_mod (w n : ℕ) : binary w (n % 2 ^ w) = binary w n := by
  have hlow : ∀ v ≤ w, binary v (n % 2 ^ w) = binary v n := by
    intro v hv
    induction v with
    | zero => rfl
    | succ v ih =>
      rw [binary, binary, ih (by omega), Nat.testBit_mod_two_pow]
      simp [show v < w by omega]
  exact hlow w (Nat.le_refl w)

theorem binary_append (v w n : ℕ) : binary (v + w) n = binary v (n / 2 ^ w) ++ binary w n := by
  induction v with
  | zero => rw [Nat.zero_add, binary, List.nil_append]
  | succ v ih =>
    rw [Nat.add_right_comm, binary, binary, ih, List.cons_append, Nat.testBit_div_two_pow,
      Nat.add_comm v w]

theorem number_lt (xs : List Bool) : number xs < 2 ^ xs.length := by
  induction xs using List.reverseRecOn with
  | nil => decide
  | append_singleton xs bit ih =>
    rw [number_append, List.length_append]
    cases bit <;> simp only [number, List.length_singleton, List.foldl_cons, List.foldl_nil,
      Bool.toNat_false, Bool.toNat_true, Nat.pow_succ] at * <;> omega

theorem bits_append (xs ys : List UInt8) : bits (xs ++ ys) = bits xs ++ bits ys :=
  List.flatMap_append

@[simp] theorem length_bits (bytes : List UInt8) : (bits bytes).length = 8 * bytes.length := by
  induction bytes with
  | nil => rfl
  | cons b bytes ih =>
    rw [bits, List.flatMap_cons, List.length_append, length_binary, ← bits, ih, List.length_cons]
    omega

theorem bits_drop (n : ℕ) (bytes : List UInt8) :
    (bits bytes).drop (8 * n) = bits (bytes.drop n) := by
  induction n generalizing bytes with
  | zero => rfl
  | succ n ih =>
    cases bytes with
    | nil => simp [bits]
    | cons b bytes =>
      rw [List.drop_succ_cons, ← ih, bits, List.flatMap_cons, ← bits, Nat.mul_succ, Nat.add_comm,
        ← List.drop_drop, List.drop_left' (length_binary 8 b.toNat)]

theorem bits_take (n : ℕ) (bytes : List UInt8) :
    (bits bytes).take (8 * n) = bits (bytes.take n) := by
  have hsplit := congrArg (List.take (8 * n)) (congrArg bits (List.take_append_drop n bytes)).symm
  rcases Nat.le_total n bytes.length with hn | hn
  · rw [hsplit, bits_append, List.take_left' (by rw [length_bits, List.length_take]; omega)]
  · rw [List.take_of_length_le hn, List.take_of_length_le (by rw [length_bits]; omega)]

/-- The number of bytes, the highest first. -/
theorem number_bits (bytes : List UInt8) :
    number (bits bytes) = bytes.foldl (fun n b => n * 256 + b.toNat) 0 := by
  induction bytes using List.reverseRecOn with
  | nil => rfl
  | append_singleton bytes b ih =>
    have hb : bits [b] = binary 8 b.toNat := List.append_nil _
    rw [bits_append, hb, number_append, ih, number_binary, length_binary, List.foldl_append,
      Nat.mod_eq_of_lt b.toNat_lt]
    rfl

/-- A number below 324 is prime unless a number below 18 divides it. -/
theorem mem_primes {n : ℕ} : n ∈ primes ↔ n < 312 ∧ n.Prime := by
  rw [primes, List.mem_filter, List.mem_range]
  refine and_congr_right fun hn => ?_
  rw [decide_eq_true_eq]
  constructor
  · rintro ⟨htwo, hdivisors⟩
    by_contra hprime
    have hsquare := Nat.minFac_sq_le_self (by omega) hprime
    have hmin := Nat.minFac_prime (show n ≠ 1 by omega)
    have hsmall : n.minFac < 18 := by
      by_contra hlarge
      have hpow := Nat.pow_le_pow_left (Nat.le_of_not_lt hlarge) 2
      omega
    refine hdivisors n.minFac ?_ ((Nat.not_prime_iff_minFac_lt htwo).mp hprime)
      (Nat.mod_eq_zero_of_dvd n.minFac_dvd)
    rw [List.mem_range'_1]
    exact ⟨hmin.two_le, by omega⟩
  · intro hprime
    refine ⟨hprime.two_le, fun d hd hlt hmod => ?_⟩
    rw [List.mem_range'_1] at hd
    rcases hprime.eq_one_or_self_of_dvd d (Nat.dvd_of_mod_eq_zero hmod) with h | h <;> omega

/-- A root is found by its bounds. -/
theorem fraction_eq {degree n r : ℕ} (hdegree : degree ≠ 0)
    (hlow : r ^ degree ≤ n * 2 ^ (32 * degree))
    (hhigh : n * 2 ^ (32 * degree) < (r + 1) ^ degree) : fraction degree n = r % 2 ^ 32 := by
  have hr : r ≤ n * 2 ^ (32 * degree) := (Nat.le_self_pow hdegree r).trans hlow
  have hgreatest : Nat.findGreatest (fun r => r ^ degree ≤ n * 2 ^ (32 * degree))
      (n * 2 ^ (32 * degree)) = r := by
    refine Nat.findGreatest_eq_iff.mpr ⟨hr, fun _ => hlow, fun m hm _ hle => ?_⟩
    have hpow := Nat.pow_le_pow_left (show r + 1 ≤ m from hm) degree
    omega
  rw [fraction, hgreatest]

end ChatmanEcosystem.Common.Sha256
