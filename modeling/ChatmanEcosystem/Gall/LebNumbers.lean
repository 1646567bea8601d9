import Mathlib.Data.Nat.Bitwise
import ChatmanEcosystem.Common.Leb128
import ChatmanEcosystem.Gall.WasmModule

/-!
# Numbers of a module

`read_leb_u32` (`crates/gall/src/lib.rs`, lines 1115–1127) reads at most five
bytes and shifts their seven low bits into a `u32`. The fifth byte is shifted by
28, so the upper three of its bits fall out: the result is the number that the
bytes denote modulo `2 ^ 32`.

Results:

* `readLebU32_spec`: what is consumed and what is returned.
* `readLebU32_encode`: the encoding of every `u32` is read back.
* `readLebU32_exact_iff`: the number is exact unless a fifth byte is `0x10` or more.
-/

namespace ChatmanEcosystem.Gall

open Common Reader

/-! ## One byte -/

theorem toNat_low7 (byte : UInt8) : (byte &&& 0x7f).toUInt32.toNat = byte.toNat % 128 := by
  rw [UInt8.toNat_toUInt32, UInt8.toNat_and]
  exact Nat.and_two_pow_sub_one_eq_mod byte.toNat 7

theorem high_bit_clear (byte : UInt8) : byte &&& 0x80 = 0 ↔ byte.toNat < 128 := by
  have hlt := byte.toNat_lt
  have hbit : byte.toNat &&& 128 = (byte.toNat.testBit 7).toNat * 128 := Nat.and_two_pow _ 7
  rw [← UInt8.toNat_inj, UInt8.toNat_and]
  show byte.toNat &&& 128 = 0 ↔ byte.toNat < 128
  rw [hbit]
  cases htest : byte.toNat.testBit 7 with
  | false =>
    rw [Nat.testBit_eq_decide_div_mod_eq, decide_eq_false_iff_not] at htest
    simp only [Bool.toNat_false, Nat.zero_mul, true_iff]
    omega
  | true =>
    rw [Nat.testBit_eq_decide_div_mod_eq, decide_eq_true_eq] at htest
    simp only [Bool.toNat_true, Nat.one_mul]
    omega

variable {result shift : UInt32}

/-- The seven bits are put above those that were read before, as far as they fit. -/
theorem toNat_or_shift (byte : UInt8) (hshift : shift.toNat ≤ 28)
    (hresult : result.toNat < 2 ^ shift.toNat) :
    (result ||| ((byte &&& 0x7f).toUInt32 <<< shift)).toNat =
      (result.toNat + byte.toNat % 128 * 2 ^ shift.toNat) % 2 ^ 32 := by
  rw [UInt32.toNat_or, UInt32.toNat_shiftLeft, toNat_low7]
  generalize shift.toNat = s at hshift hresult ⊢
  generalize result.toNat = r at hresult ⊢
  generalize byte.toNat % 128 = x
  have hsplit : 2 ^ 32 = 2 ^ s * 2 ^ (32 - s) := by
    rw [← pow_add]
    congr 1
    omega
  have hpos : 0 < 2 ^ s := Nat.two_pow_pos s
  have hshifted : x <<< (s % 32) % 2 ^ 32 = 2 ^ s * (x % 2 ^ (32 - s)) := by
    rw [Nat.mod_eq_of_lt (by omega : s < 32), Nat.shiftLeft_eq, hsplit, Nat.mul_comm x,
      Nat.mul_mod_mul_left]
  rw [hshifted, Nat.or_comm, ← Nat.two_pow_add_eq_or_of_lt hresult, hsplit, Nat.mod_mul,
    Nat.add_mul_mod_self_right, Nat.add_mul_div_right _ _ hpos, Nat.mod_eq_of_lt hresult,
    Nat.div_eq_of_lt hresult, Nat.zero_add, Nat.add_comm]

/-! ## The loop -/

variable {bytes : ℕ} {value : UInt32} {reader rest : Reader}

/-- The induction is on the bytes that may follow; the bits read so far are below the shift. -/
theorem readLebLoop_spec (hshift : shift.toNat + 7 * bytes = 35)
    (hresult : result.toNat < 2 ^ shift.toNat)
    (h : readLebLoop bytes result shift reader = .ok (value, rest)) :
    ∃ consumed, reader = consumed ++ rest ∧ IsLeb consumed ∧ consumed.length ≤ bytes ∧
      value.toNat = (result.toNat + lebValue consumed * 2 ^ shift.toNat) % 2 ^ 32 := by
  induction bytes generalizing result shift reader with
  | zero => cases h
  | succ bytes ih =>
    cases reader with
    | nil => cases h
    | cons byte reader =>
      have hor := toNat_or_shift byte (by omega : shift.toNat ≤ 28) hresult
      unfold readLebLoop at h
      simp only [readU8] at h
      split_ifs at h with hlast
      · -- the last byte
        obtain ⟨rfl, rfl⟩ := Prod.mk.inj (Except.ok.inj h)
        have hbyte := (high_bit_clear byte).mp hlast
        refine ⟨[byte], rfl, hbyte, by simp, ?_⟩
        rw [hor, lebValue, lebValue, Nat.mul_zero, Nat.add_zero]
      · have hbyte : 128 ≤ byte.toNat := by
          rw [high_bit_clear] at hlast
          omega
        cases bytes with
        | zero => cases h
        | succ bytes =>
          -- another byte may follow, so no bit falls out here
          have hpow : 2 ^ (shift.toNat + 7) = 128 * 2 ^ shift.toNat := by
            rw [pow_add]
            ring
          have hroom : 2 ^ (shift.toNat + 7) ≤ 2 ^ 32 := Nat.pow_le_pow_right (by decide) (by omega)
          have hbits : byte.toNat % 128 * 2 ^ shift.toNat ≤ 127 * 2 ^ shift.toNat :=
            Nat.mul_le_mul_right _ (by omega)
          have hexact : (result ||| ((byte &&& 0x7f).toUInt32 <<< shift)).toNat =
              result.toNat + byte.toNat % 128 * 2 ^ shift.toNat := by
            rw [hor]
            exact Nat.mod_eq_of_lt (by omega)
          have hnext : (shift + 7).toNat = shift.toNat + 7 := by
            rw [UInt32.toNat_add]
            exact Nat.mod_eq_of_lt (by
              have hseven : (7 : UInt32).toNat = 7 := rfl
              omega)
          obtain ⟨consumed, rfl, hleb, hlength, hvalue⟩ :=
            ih (by rw [hnext]; omega) (by rw [hexact, hnext]; omega) h
          refine ⟨byte :: consumed, rfl, isLeb_cons hbyte hleb, by simpa using hlength, ?_⟩
          rw [hvalue, hexact, hnext, lebValue, hpow]
          congr 1
          ring

variable {consumed : List UInt8}

/-- A list of the shape is read, whatever follows it. -/
theorem exists_readLebLoop (hleb : IsLeb consumed) (hlength : consumed.length ≤ bytes)
    (result shift : UInt32) (rest : Reader) :
    ∃ value, readLebLoop bytes result shift (consumed ++ rest) = .ok (value, rest) := by
  induction bytes generalizing consumed result shift with
  | zero =>
    have hnil : consumed = [] := List.length_eq_zero_iff.mp (by omega)
    exact absurd hnil hleb.ne_nil
  | succ bytes ih =>
    cases consumed with
    | nil => exact absurd rfl hleb.ne_nil
    | cons byte consumed =>
      rw [List.length_cons] at hlength
      unfold readLebLoop
      simp only [List.cons_append, readU8]
      split_ifs with hlast
      · rw [hleb.tail_eq_nil ((high_bit_clear byte).mp hlast)]
        exact ⟨_, rfl⟩
      · have hbyte : 128 ≤ byte.toNat := by
          rw [high_bit_clear] at hlast
          omega
        exact ih (hleb.tail hbyte) (by omega) _ _

/-! ## The number -/

theorem readLebU32_spec (h : readLebU32 reader = .ok (value, rest)) :
    ∃ consumed, reader = consumed ++ rest ∧ IsLeb consumed ∧ consumed.length ≤ 5 ∧
      value.toNat = lebValue consumed % 2 ^ 32 := by
  obtain ⟨consumed, hreader, hleb, hlength, hvalue⟩ :=
    readLebLoop_spec (by decide) (by decide) h
  refine ⟨consumed, hreader, hleb, hlength, ?_⟩
  rw [hvalue]
  congr 1
  show 0 + lebValue consumed * 2 ^ 0 = lebValue consumed
  omega

theorem readLebU32_of_isLeb (hleb : IsLeb consumed) (hlength : consumed.length ≤ 5)
    (rest : Reader) :
    readLebU32 (consumed ++ rest) = .ok (UInt32.ofNat (lebValue consumed), rest) := by
  obtain ⟨value, hread⟩ := exists_readLebLoop hleb hlength 0 0 rest
  obtain ⟨front, hfront, -, -, hvalue⟩ := readLebU32_spec hread
  obtain rfl := List.append_cancel_right hfront
  have hsame : value = UInt32.ofNat (lebValue consumed) := by
    rw [← UInt32.toNat_inj, hvalue, UInt32.toNat_ofNat']
  rw [← hsame]
  exact hread

theorem readLebU32_encode (value : UInt32) (rest : Reader) :
    readLebU32 (lebEncode value.toNat ++ rest) = .ok (value, rest) := by
  have hlength : (lebEncode value.toNat).length ≤ 5 := by
    apply length_encode_le (by decide)
    have hlt := value.toNat_lt
    omega
  rw [readLebU32_of_isLeb (isLeb_encode _) hlength, lebValue_encode, UInt32.ofNat_toNat]

/-! ## Exactness -/

/-- Four bytes that continue, and a fifth one with a bit that does not fit. -/
def OverlongFifthByte (reader : Reader) : Prop :=
  ∃ front fifth back, reader = front ++ fifth :: back ∧ front.length = 4 ∧
    (∀ byte ∈ front, 128 ≤ byte.toNat) ∧ 0x10 ≤ fifth.toNat

/-- The bytes between the two cursors denote the number. -/
def Denotes (before after : Reader) (value : UInt32) : Prop :=
  ∃ consumed, before = consumed ++ after ∧ IsLeb consumed ∧ lebValue consumed = value.toNat

theorem not_overlong_of_short {rest : List UInt8} (hleb : IsLeb consumed)
    (hlength : consumed.length ≤ 4) : ¬ OverlongFifthByte (consumed ++ rest) := by
  intro ⟨front, fifth, back, hsplit, hfront, hmore, _⟩
  obtain ⟨byte, hmem, hbyte⟩ := hleb.exists_last
  have hlead : consumed <+: front := by
    apply List.prefix_of_prefix_length_le (List.prefix_append consumed rest)
    · rw [hsplit]
      exact List.prefix_append front _
    · omega
  have hcontinues := hmore byte (hlead.subset hmem)
  omega

/-- Of five bytes it is the last one that decides whether the number fits. -/
theorem five_bytes {rest : List UInt8} (hleb : IsLeb consumed) (hlength : consumed.length = 5) :
    lebValue consumed < 2 ^ 32 ↔ ¬ OverlongFifthByte (consumed ++ rest) := by
  obtain ⟨a, b, c, d, e, rfl⟩ : ∃ a b c d e, consumed = [a, b, c, d, e] := by
    match consumed, hlength with
    | [a, b, c, d, e], _ => exact ⟨a, b, c, d, e, rfl⟩
  obtain ⟨ha, hb, hc, hd, he⟩ := hleb
  have he : e.toNat < 128 := he
  have hvalue : lebValue [a, b, c, d, e] = a.toNat % 128 + 128 * (b.toNat % 128 +
      128 * (c.toNat % 128 + 128 * (d.toNat % 128 + 128 * (e.toNat % 128)))) := rfl
  constructor
  · intro hfits ⟨front, fifth, back, hsplit, hfront, _, hfifth⟩
    have hjoined : front ++ fifth :: back = [a, b, c, d] ++ e :: rest := hsplit.symm
    have hfour : front = [a, b, c, d] ∧ fifth :: back = e :: rest :=
      List.append_inj hjoined hfront
    rw [(List.cons.inj hfour.2).1] at hfifth
    omega
  · intro hplain
    have hsmall : e.toNat < 0x10 := by
      by_contra hgreat
      apply hplain
      refine ⟨[a, b, c, d], e, rest, rfl, rfl, ?_, by omega⟩
      intro byte hmem
      simp only [List.mem_cons, List.not_mem_nil, or_false] at hmem
      rcases hmem with rfl | rfl | rfl | rfl
      · exact ha
      · exact hb
      · exact hc
      · exact hd
    omega

/-- The bytes that are consumed denote the number exactly unless four bytes that continue are
followed by a fifth one of `0x10` or more; and the encoding of every number is read back. -/
theorem readLebU32_exact_iff (reader rest : Reader) (value : UInt32) :
    (readLebU32 reader = .ok (value, rest) →
      (Denotes reader rest value ↔ ¬ OverlongFifthByte reader)) ∧
      readLebU32 (lebEncode value.toNat ++ rest) = .ok (value, rest) := by
  refine ⟨fun h => ?_, readLebU32_encode value rest⟩
  obtain ⟨consumed, rfl, hleb, hlength, hvalue⟩ := readLebU32_spec h
  have hdenotes : Denotes (consumed ++ rest) rest value ↔ lebValue consumed < 2 ^ 32 := by
    constructor
    · intro ⟨other, hother, _, hsame⟩
      obtain rfl := List.append_cancel_right hother
      rw [hsame]
      exact value.toNat_lt
    · intro hfits
      refine ⟨consumed, rfl, hleb, ?_⟩
      rw [hvalue, Nat.mod_eq_of_lt hfits]
  rw [hdenotes]
  by_cases hshort : consumed.length ≤ 4
  · have hfits : lebValue consumed < 2 ^ 32 := by
      calc lebValue consumed < 2 ^ (7 * consumed.length) := lebValue_lt consumed
        _ ≤ 2 ^ 32 := Nat.pow_le_pow_right (by decide) (by omega)
    exact iff_of_true hfits (not_overlong_of_short hleb hshort)
  · exact five_bytes hleb (by omega)

/-- The bits of the fifth byte that do not fit are dropped. -/
theorem overlong_read :
    readLebU32 [0xff, 0xff, 0xff, 0xff, 0x7f] = .ok (0xffffffff, []) ∧
      ¬ Denotes [0xff, 0xff, 0xff, 0xff, 0x7f] [] 0xffffffff := by
  refine ⟨rfl, ?_⟩
  intro ⟨consumed, hconsumed, _, hvalue⟩
  rw [List.append_nil] at hconsumed
  rw [← hconsumed] at hvalue
  revert hvalue
  decide

/-- A number of three bytes is exact. -/
theorem read_three_bytes :
    readLebU32 [0xe5, 0x8e, 0x26] = .ok (624485, []) ∧ Denotes [0xe5, 0x8e, 0x26] [] 624485 := by
  have hread : readLebU32 [0xe5, 0x8e, 0x26] = .ok (624485, []) := rfl
  refine ⟨hread, ((readLebU32_exact_iff _ _ _).1 hread).mpr ?_⟩
  have hleb : IsLeb [0xe5, 0x8e, 0x26] :=
    ⟨by decide, by decide, (by decide : (0x26 : UInt8).toNat < 128)⟩
  exact not_overlong_of_short hleb (by decide)

end ChatmanEcosystem.Gall
