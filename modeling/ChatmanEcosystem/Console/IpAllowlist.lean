import ChatmanEcosystem.Common.BitPrefix
import ChatmanEcosystem.Console.K8s
import ChatmanEcosystem.Js.Runtime
import ChatmanEcosystem.Rust.Json

/-!
# The IP allowlist

Model of `platform-console/app/lib/ip-allowlist.ts`, lines 42–198: the CIDR
ranges from which the console of an organisation may be reached. 32-bit numbers
are words; of a stored value the model keeps what `JSON.parse` makes of it.

Results:

* `parseIpv4_eq_some`, `parseCidr_eq_some`: the texts that the two parsers read,
  and as what.
* `ipInCidr_iff`: the masked comparison is the comparison of the first bits.
* `checkIpAllowed_exact_iff`: the check is exact as soon as one stored entry is a
  CIDR range; when none is, everybody is let in.
-/

namespace ChatmanEcosystem.Console

open Common Js Rust

/-! ## Addresses and ranges -/

/-- `IPV4_OCTET` (line 43). -/
def isIpv4Octet : List Char → Bool
  | [c] => c.isDigit
  | [c, d] => c.isDigit && c != '0' && d.isDigit
  | ['1', d, e] => d.isDigit && e.isDigit
  | ['2', d, e] => d.isDigit && d ≤ '4' && e.isDigit || d == '5' && e.isDigit && e ≤ '5'
  | _ => false

/-- `Number(text)` of a text of digits. -/
def number (text : List Char) : ℕ := ((digits? text).getD 0).toNat

/-- The body of the loop of `parseIpv4` (lines 52–55). -/
def appendOctet (n : BitVec 32) (part : List Char) : Option (BitVec 32) :=
  if isIpv4Octet part then some (n <<< 8 ||| BitVec.ofNat 32 (number part)) else none

/-- `parseIpv4` (lines 48–59). -/
def parseIpv4 (value : String) : Option (BitVec 32) :=
  let parts := (trim value).toList.splitOn '.'
  if parts.length ≠ 4 then none else parts.foldlM appendOctet 0

/-- What `parseCidr` returns (line 64). -/
structure Cidr where
  network : BitVec 32
  mask : BitVec 32
  length : ℕ
  deriving DecidableEq

/-- `/^\d{1,2}$/` (line 70). -/
def isPrefixLength (text : List Char) : Bool :=
  (text.length = 1 || text.length = 2) && text.all Char.isDigit

/-- `parseCidr` (lines 64–81). JavaScript takes a shift amount modulo 32. -/
def parseCidr (cidr : String) : Option Cidr :=
  let trimmed := (trim cidr).toList
  if '/' ∉ trimmed then none
  else
    let addrPart := String.ofList (trimmed.takeWhile (· ≠ '/'))
    let prefixPart := (trimmed.dropWhile (· ≠ '/')).tail
    if !isPrefixLength prefixPart then none
    else if 32 < number prefixPart then none
    else
      match parseIpv4 addrPart with
      | none => none
      | some addr =>
        let mask := if number prefixPart = 0 then 0
          else BitVec.allOnes 32 <<< ((32 - number prefixPart) % 32)
        some { network := addr &&& mask, mask, length := number prefixPart }

/-- `isValidCidr` (lines 86–88). -/
def isValidCidr (cidr : String) : Bool := (parseCidr cidr).isSome

/-- `ipInCidr` (lines 94–100). -/
def ipInCidr (ip cidr : String) : Bool :=
  match parseCidr cidr with
  | none => false
  | some parsedCidr =>
    match parseIpv4 ip with
    | none => false
    | some addr => addr &&& parsedCidr.mask == parsedCidr.network

/-- `ipMatchesAny` (lines 107–109). -/
def ipMatchesAny (ip : String) (cidrs : List String) : Bool :=
  cidrs.any fun cidr => ipInCidr ip cidr

/-! ## The check -/

/-- `parseEntries` (lines 111–119), `none` where `JSON.parse` throws. -/
def parseEntries : Option Json → List String
  | some (.arr values) => values.filterMap fun
    | .str v => if isValidCidr v then some v else none
    | _ => none
  | _ => []

/-- The data of the allowlist ConfigMap: a value for every namespace. -/
abbrev IpAllowlistStore := Std.ExtTreeMap String (Option Json)

/-- `getIpAllowlist` (lines 126–132): a failed read is an empty list. -/
def getIpAllowlist (tenant : String) (read : K8sResult (Option IpAllowlistStore)) : List String :=
  match read with
  | .error _ => []
  | .ok store =>
    match (store.getD ∅)[tenant]? with
    | none => []
    | some raw => parseEntries raw

/-- `IpAllowlistCheck` (lines 158–167). -/
structure IpAllowlistCheck where
  allowed : Bool
  restricted : Bool
  cidrs : List String
  deriving DecidableEq

/-- `checkIpAllowed` (lines 188–198). -/
def checkIpAllowed (tenant : String) (ip : Option String)
    (read : K8sResult (Option IpAllowlistStore)) : IpAllowlistCheck :=
  let cidrs := getIpAllowlist tenant read
  if cidrs.length = 0 then { allowed := true, restricted := false, cidrs }
  else
    match ip with
    | none => { allowed := true, restricted := false, cidrs }
    | some ip =>
      let allowed := ipMatchesAny ip cidrs
      { allowed, restricted := !allowed, cidrs }

/-! ## What the texts write -/

/-- A dotted quad. -/
structure Quad where
  a : UInt8
  b : UInt8
  c : UInt8
  d : UInt8
  deriving DecidableEq

namespace Quad

/-- The octets of a quad as numbers. -/
def octets (quad : Quad) : List ℕ := [quad.a.toNat, quad.b.toNat, quad.c.toNat, quad.d.toNat]

/-- The texts of the octets. -/
def parts (quad : Quad) : List (List Char) := quad.octets.map fun octet => octet.repr.toList

/-- `a.b.c.d`. -/
def chars (quad : Quad) : List Char :=
  ['.'].intercalate quad.parts

/-- The natural number that a quad writes in base 256. -/
def value (quad : Quad) : ℕ :=
  ((quad.a.toNat * 256 + quad.b.toNat) * 256 + quad.c.toNat) * 256 + quad.d.toNat

/-- The address as a text. -/
def toText (quad : Quad) : String := String.ofList quad.chars

/-- The 32 bits of a quad. -/
def word (quad : Quad) : BitVec 32 := BitVec.ofNat 32 quad.value

end Quad

/-- The text is a quad between white space. -/
def WritesQuad (text : List Char) (quad : Quad) : Prop :=
  ∃ before after, (∀ c ∈ before, isWhiteSpace c = true) ∧ (∀ c ∈ after, isWhiteSpace c = true) ∧
    text = before ++ quad.chars ++ after

/-- The text is the decimal numeral of a number, with a zero before it at most where
it has one digit. -/
def WritesLength (text : List Char) (n : ℕ) : Prop :=
  text = n.repr.toList ∨ n < 10 ∧ text = '0' :: n.repr.toList

/-- The text is the range `a.b.c.d/n`: a quad, a slash and a number up to 32, with
white space around the quad and after the number. -/
def WritesCidr (text : List Char) (quad : Quad) (n : ℕ) : Prop :=
  ∃ addr digits after, WritesQuad addr quad ∧ WritesLength digits n ∧ n ≤ 32 ∧
    (∀ c ∈ after, isWhiteSpace c = true) ∧ text = addr ++ '/' :: digits ++ after

/-- The first `n` bits of two quads, as natural numbers, are equal. -/
def SameNetwork (n : ℕ) (x y : Quad) : Prop :=
  x.value / 2 ^ (32 - n) = y.value / 2 ^ (32 - n)

/-- Who is allowed is exactly who shares the network of an entry that is a range. -/
def AllowsExactly (entries : List String) (ip : Quad) (allowed : Bool) : Prop :=
  allowed = true ↔
    ∃ entry ∈ entries, ∃ quad n, WritesCidr entry.toList quad n ∧ SameNetwork n ip quad

/-! ## Octets -/

variable {i : ℕ}

theorem repr_digit (hi : i < 10) : i.repr.toList = [Nat.digitChar i] := by
  rw [Nat.toList_repr, Nat.toDigits_of_lt_base hi]

variable {n : ℕ}

theorem repr_append_digit (hn : 0 < n) (hi : i < 10) :
    (10 * n + i).repr.toList = n.repr.toList ++ [Nat.digitChar i] := by
  rw [← repr_digit hi]
  simp only [Nat.toList_repr]
  exact (Nat.toDigits_append_toDigits (by decide) hn hi).symm

theorem repr_two_digits {j : ℕ} (hpos : 0 < i) (hi : i < 10) (hj : j < 10) :
    (10 * i + j).repr.toList = [Nat.digitChar i, Nat.digitChar j] := by
  rw [repr_append_digit hpos hj, repr_digit hi]
  rfl

theorem repr_three_digits {k j : ℕ} (hpos : 0 < k) (hk : k < 10) (hi : i < 10) (hj : j < 10) :
    (10 * (10 * k + i) + j).repr.toList =
      [Nat.digitChar k, Nat.digitChar i, Nat.digitChar j] := by
  rw [repr_append_digit (by omega) hj, repr_two_digits hpos hk hi]
  rfl

/-- What the patterns ask of a character, said of the digit that it is. -/
theorem digitChar_cases : ∀ i < 10, (Nat.digitChar i).isDigit = true ∧
    (Nat.digitChar i ≠ '0' ↔ 0 < i) ∧ (Nat.digitChar i ≤ '4' ↔ i ≤ 4) ∧
    (Nat.digitChar i = '5' ↔ i = 5) ∧ (Nat.digitChar i ≤ '5' ↔ i ≤ 5) := by
  decide

/-- Every numeral below 256 is an octet. -/
theorem isIpv4Octet_repr (hn : n < 256) : isIpv4Octet n.repr.toList = true := by
  obtain ⟨hj, hfour, hfive, hfive', hle⟩ := digitChar_cases (n % 10) (by omega)
  by_cases hone : n < 10
  · rw [repr_digit hone]
    exact (digitChar_cases n hone).1
  by_cases htwo : n < 100
  · obtain ⟨hi, hzero, -⟩ := digitChar_cases (n / 10) (by omega)
    rw [← Nat.div_add_mod n 10, repr_two_digits (by omega) (by omega) (by omega)]
    simp only [isIpv4Octet, hi, hj, Bool.true_and, Bool.and_true, bne_iff_ne]
    exact hzero.mpr (by omega)
  · obtain ⟨hi, -, hfour, hfive, -⟩ := digitChar_cases (n / 10 % 10) (by omega)
    have hrepr : n.repr.toList =
        [Nat.digitChar (n / 100), Nat.digitChar (n / 10 % 10), Nat.digitChar (n % 10)] := by
      rw [← repr_three_digits (by omega) (by omega) (by omega) (by omega)]
      congr 2
      omega
    rw [hrepr]
    by_cases hhundred : n < 200
    · rw [show n / 100 = 1 by omega]
      show ((Nat.digitChar (n / 10 % 10)).isDigit && (Nat.digitChar (n % 10)).isDigit) = true
      rw [hi, hj]
      rfl
    · rw [show n / 100 = 2 by omega]
      show (_ && _ && _ || _ && _ && _) = true
      simp only [hi, hj, Bool.true_and, Bool.and_true, Bool.or_eq_true, Bool.and_eq_true,
        decide_eq_true_eq, beq_iff_eq, hfour, hfive, hle]
      omega

variable {text : List Char}

/-- The octets are the decimal numerals below 256. -/
theorem isIpv4Octet_iff :
    isIpv4Octet text = true ↔ ∃ octet : UInt8, text = octet.toNat.repr.toList := by
  have hoctet : ∀ n < 256, text = n.repr.toList →
    ∃ octet : UInt8, text = octet.toNat.repr.toList := by
    intro n hn htext
    refine ⟨UInt8.ofNat n, ?_⟩
    rw [UInt8.toNat_ofNat_of_lt' hn, htext]
  constructor
  · intro h
    unfold isIpv4Octet at h
    split at h
    · next c =>
      obtain ⟨i, hi, rfl⟩ := exists_digitChar h
      exact hoctet i (by omega) (repr_digit hi).symm
    · next c d =>
      simp only [Bool.and_eq_true, bne_iff_ne] at h
      obtain ⟨⟨hc, hzero⟩, hd⟩ := h
      obtain ⟨i, hi, rfl⟩ := exists_digitChar hc
      obtain ⟨j, hj, rfl⟩ := exists_digitChar hd
      have hpos := (digitChar_cases i hi).2.1.mp hzero
      exact hoctet _ (by omega) (repr_two_digits hpos hi hj).symm
    · next d e =>
      obtain ⟨hd, he⟩ := Bool.and_eq_true_iff.mp h
      obtain ⟨i, hi, rfl⟩ := exists_digitChar hd
      obtain ⟨j, hj, rfl⟩ := exists_digitChar he
      exact hoctet _ (by omega) (repr_three_digits (k := 1) (by omega) (by omega) hi hj).symm
    · next d e =>
      simp only [Bool.or_eq_true, Bool.and_eq_true, decide_eq_true_eq, beq_iff_eq] at h
      have hdigits : d.isDigit = true ∧ e.isDigit = true := by
        rcases h with ⟨⟨hd, -⟩, he⟩ | ⟨⟨rfl, he⟩, -⟩
        · exact ⟨hd, he⟩
        · exact ⟨rfl, he⟩
      obtain ⟨i, hi, rfl⟩ := exists_digitChar hdigits.1
      obtain ⟨j, hj, rfl⟩ := exists_digitChar hdigits.2
      obtain ⟨-, -, hfour, hfive, -⟩ := digitChar_cases i hi
      obtain ⟨-, -, -, -, hle⟩ := digitChar_cases j hj
      rw [hfour, hfive, hle] at h
      exact hoctet _ (by omega) (repr_three_digits (k := 2) (by omega) (by omega) hi hj).symm
    · cases h
  · rintro ⟨octet, rfl⟩
    exact isIpv4Octet_repr octet.toNat_lt

theorem number_repr (n : ℕ) : number n.repr.toList = n := by
  have hdigits : digits? n.repr.toList = some (n : ℤ) := digits?_numberToString n
  rw [number, hdigits, Option.getD_some, Int.toNat_natCast]

theorem appendOctet_eq_some {n m : BitVec 32} {part : List Char} :
    appendOctet n part = some m ↔ ∃ octet : UInt8, part = octet.toNat.repr.toList ∧
      m = n <<< 8 ||| BitVec.ofNat 32 octet.toNat := by
  unfold appendOctet
  by_cases hoctet : isIpv4Octet part = true
  · rw [if_pos hoctet, Option.some.injEq]
    obtain ⟨octet, rfl⟩ := isIpv4Octet_iff.mp hoctet
    constructor
    · intro h
      exact ⟨octet, rfl, by rw [← h, number_repr]⟩
    · rintro ⟨other, hsame, rfl⟩
      rw [← number_repr other.toNat, hsame]
  · rw [if_neg hoctet]
    refine iff_of_false (by simp) ?_
    rintro ⟨octet, rfl, -⟩
    exact hoctet (isIpv4Octet_iff.mpr ⟨octet, rfl⟩)

/-- The word of a quad is what the loop of `parseIpv4` puts together. -/
theorem Quad.word_eq (quad : Quad) :
    quad.word = ((((0 : BitVec 32) <<< 8 ||| BitVec.ofNat 32 quad.a.toNat) <<< 8 |||
      BitVec.ofNat 32 quad.b.toNat) <<< 8 ||| BitVec.ofNat 32 quad.c.toNat) <<< 8 |||
      BitVec.ofNat 32 quad.d.toNat := by
  have ha := quad.a.toNat_lt
  have hb := quad.b.toNat_lt
  have hc := quad.c.toNat_lt
  have hd := quad.d.toNat_lt
  have hone : ((0 : BitVec 32) <<< 8 ||| BitVec.ofNat 32 quad.a.toNat).toNat = quad.a.toNat := by
    rw [toNat_shiftLeft_or _ (by omega) (by simp; omega)]
    simp
  have htwo := toNat_shiftLeft_or (k := 8)
    ((0 : BitVec 32) <<< 8 ||| BitVec.ofNat 32 quad.a.toNat) hb
    (by rw [hone]; omega)
  have hthree := toNat_shiftLeft_or (k := 8) _ hc (by rw [htwo, hone]; omega)
  have hfour := toNat_shiftLeft_or (k := 8) _ hd (by rw [hthree, htwo, hone]; omega)
  apply BitVec.eq_of_toNat_eq
  rw [hfour, hthree, htwo, hone, word, BitVec.toNat_ofNat, value]
  omega

theorem foldlM_appendOctet_eq_some {parts : List (List Char)} (hlength : parts.length = 4)
    {addr : BitVec 32} : parts.foldlM appendOctet 0 = some addr ↔
      ∃ quad : Quad, parts = quad.parts ∧ addr = quad.word := by
  obtain ⟨p, q, r, s, rfl⟩ := List.length_eq_four.mp hlength
  simp only [List.foldlM_cons, List.foldlM_nil, Option.bind_eq_bind, Option.bind_eq_some_iff,
    appendOctet_eq_some, Option.pure_def, Option.some.injEq]
  constructor
  · rintro ⟨_, ⟨a, rfl, rfl⟩, _, ⟨b, rfl, rfl⟩, _, ⟨c, rfl, rfl⟩, _, ⟨d, rfl, rfl⟩, rfl⟩
    refine ⟨⟨a, b, c, d⟩, rfl, ?_⟩
    rw [Quad.word_eq]
  · rintro ⟨quad, hparts, rfl⟩
    simp only [Quad.parts, Quad.octets, List.map_cons, List.map_nil, List.cons.injEq,
      and_true] at hparts
    obtain ⟨hp, hq, hr, hs⟩ := hparts
    refine ⟨_, ⟨quad.a, hp, rfl⟩, _, ⟨quad.b, hq, rfl⟩, _, ⟨quad.c, hr, rfl⟩, _,
      ⟨quad.d, hs, rfl⟩, ?_⟩
    rw [Quad.word_eq]

/-! ## Addresses -/

theorem isWhiteSpace_of_isDigit {c : Char} (h : c.isDigit = true) : isWhiteSpace c = false := by
  obtain ⟨k, hk, rfl⟩ := exists_digitChar h
  revert k
  decide

theorem isDigit_of_mem_repr {c : Char} (h : c ∈ n.repr.toList) : c.isDigit = true := by
  rw [Nat.toList_repr] at h
  exact Nat.isDigit_of_mem_toDigits (by decide) (by decide) h

theorem repr_ne_nil (n : ℕ) : n.repr.toList ≠ [] := by
  rw [Nat.toList_repr]
  exact Nat.toDigits_ne_nil

namespace Quad

theorem chars_eq (quad : Quad) :
    quad.chars = quad.a.toNat.repr.toList ++ '.' :: quad.b.toNat.repr.toList ++
      '.' :: quad.c.toNat.repr.toList ++ '.' :: quad.d.toNat.repr.toList := by
  simp [chars, parts, octets, List.intercalate]

/-- Between the ends of a quad stand digits and dots. -/
theorem mem_chars {quad : Quad} {c : Char} (h : c ∈ quad.chars) : c.isDigit = true ∨ c = '.' := by
  rw [chars_eq] at h
  simp only [List.mem_append, List.mem_cons] at h
  rcases h with ((h | h | h) | h | h) | h | h
  · exact .inl (isDigit_of_mem_repr h)
  · exact .inr h
  · exact .inl (isDigit_of_mem_repr h)
  · exact .inr h
  · exact .inl (isDigit_of_mem_repr h)
  · exact .inr h
  · exact .inl (isDigit_of_mem_repr h)

theorem chars_first (quad : Quad) (rest : List Char) :
    ∃ c more, quad.chars ++ rest = c :: more ∧ isWhiteSpace c = false := by
  obtain ⟨c, more, hc⟩ := List.exists_cons_of_ne_nil (repr_ne_nil quad.a.toNat)
  have hdigit : c.isDigit = true := isDigit_of_mem_repr (n := quad.a.toNat) (by simp [hc])
  rw [chars_eq, hc]
  simp only [List.cons_append]
  exact ⟨c, _, rfl, isWhiteSpace_of_isDigit hdigit⟩

theorem splitOn_chars (quad : Quad) : quad.chars.splitOn '.' = quad.parts := by
  refine List.splitOn_intercalate '.' ?_ (by simp [parts, octets])
  intro part hpart hdot
  obtain ⟨octet, -, rfl⟩ := List.mem_map.mp hpart
  exact absurd (isDigit_of_mem_repr hdot) (by decide)

end Quad

/-- The last character of a text that ends in a numeral is no white space. -/
theorem repr_last (before : List Char) (n : ℕ) :
    ∃ rest c, before ++ n.repr.toList = rest ++ [c] ∧ isWhiteSpace c = false := by
  have hne := repr_ne_nil n
  refine ⟨before ++ n.repr.toList.dropLast, n.repr.toList.getLast hne, ?_,
    isWhiteSpace_of_isDigit (isDigit_of_mem_repr (List.getLast_mem hne))⟩
  rw [List.append_assoc, List.dropLast_append_getLast hne]

/-- `parseIpv4` reads the quads, and each as its 32 bits. -/
theorem parseIpv4_eq_some {value : String} {addr : BitVec 32} :
    parseIpv4 value = some addr ↔ ∃ quad, WritesQuad value.toList quad ∧ addr = quad.word := by
  have hparse : parseIpv4 value = some addr ↔
      ∃ quad : Quad, (trim value).toList.splitOn '.' = quad.parts ∧ addr = quad.word := by
    unfold parseIpv4
    simp only
    split_ifs with hlength
    · refine iff_of_false (by simp) ?_
      rintro ⟨quad, hparts, -⟩
      exact hlength (by rw [hparts]; rfl)
    · exact foldlM_appendOctet_eq_some (not_not.mp hlength)
  rw [hparse]
  constructor
  · rintro ⟨quad, hparts, rfl⟩
    obtain ⟨before, after, hbefore, hafter, htext⟩ := exists_trim value
    have hchars : (trim value).toList = quad.chars := by
      rw [Quad.chars, ← hparts, List.intercalate_splitOn]
    exact ⟨quad, ⟨before, after, hbefore, hafter, by rw [htext, hchars]⟩, rfl⟩
  · rintro ⟨quad, ⟨before, after, hbefore, hafter, htext⟩, rfl⟩
    have hfirst := quad.chars_first []
    rw [List.append_nil] at hfirst
    have hlast : ∃ rest c, quad.chars = rest ++ [c] ∧ isWhiteSpace c = false := by
      rw [Quad.chars_eq, List.append_cons]
      exact repr_last _ _
    refine ⟨quad, ?_, rfl⟩
    rw [trim_eq htext hbefore hafter hfirst hlast, Quad.splitOn_chars]

/-! ## Ranges -/

/-- A numeral below 100 has the form of a length. -/
theorem isPrefixLength_repr (hn : n < 100) : isPrefixLength n.repr.toList = true := by
  have hj := (digitChar_cases (n % 10) (by omega)).1
  by_cases hone : n < 10
  · rw [repr_digit hone]
    simp [isPrefixLength, (digitChar_cases n hone).1]
  · rw [← Nat.div_add_mod n 10, repr_two_digits (by omega) (by omega) (by omega)]
    simp [isPrefixLength, (digitChar_cases (n / 10) (by omega)).1, hj]

theorem number_zero_digit : ∀ i < 10, number ['0', Nat.digitChar i] = i := by
  decide +kernel

/-- The lengths that the pattern and the bound accept, and their values. -/
theorem writesLength_iff :
    WritesLength text n ∧ n ≤ 32 ↔ isPrefixLength text = true ∧ number text = n ∧ n ≤ 32 := by
  constructor
  · rintro ⟨rfl | ⟨hn, rfl⟩, hle⟩
    · exact ⟨isPrefixLength_repr (by omega), number_repr n, hle⟩
    · rw [repr_digit hn]
      refine ⟨?_, number_zero_digit n hn, hle⟩
      simp [isPrefixLength, (digitChar_cases n hn).1]
  · rintro ⟨hlength, rfl, hle⟩
    refine ⟨?_, hle⟩
    rw [isPrefixLength, Bool.and_eq_true, List.all_eq_true] at hlength
    obtain ⟨hlength, hdigits⟩ := hlength
    match text, hlength, hdigits with
    | [c], _, hdigits =>
      obtain ⟨i, hi, rfl⟩ := exists_digitChar (hdigits c (by simp))
      left
      rw [← repr_digit hi, number_repr]
    | [c, d], _, hdigits =>
      obtain ⟨i, hi, rfl⟩ := exists_digitChar (hdigits c (by simp))
      obtain ⟨j, hj, rfl⟩ := exists_digitChar (hdigits d (by simp))
      rcases Nat.eq_zero_or_pos i with rfl | hpos
      · right
        have hnumber : number [Nat.digitChar 0, Nat.digitChar j] = j := number_zero_digit j hj
        rw [hnumber, repr_digit hj]
        exact ⟨hj, rfl⟩
      · left
        rw [← repr_two_digits hpos hi hj, number_repr]

/-- A text that writes a length ends in a digit. -/
theorem WritesLength.last (h : WritesLength text n) (before : List Char) :
    ∃ rest c, before ++ text = rest ++ [c] ∧ isWhiteSpace c = false := by
  rcases h with rfl | ⟨-, rfl⟩
  · exact repr_last before n
  · rw [List.append_cons]
    exact repr_last _ n

theorem WritesQuad.slash_notMem {quad : Quad} (h : WritesQuad text quad) :
    '/' ∉ text := by
  obtain ⟨before, after, hbefore, hafter, rfl⟩ := h
  simp only [List.mem_append, not_or]
  refine ⟨⟨fun hmem => ?_, fun hmem => ?_⟩, fun hmem => ?_⟩
  · exact absurd (hbefore _ hmem) (by decide)
  · exact absurd (Quad.mem_chars hmem) (by decide)
  · exact absurd (hafter _ hmem) (by decide)

/-- The mask of `parseCidr`, whose shift is never by 32. -/
theorem mask_eq (h : n ≤ 32) :
    (if n = 0 then 0 else BitVec.allOnes 32 <<< ((32 - n) % 32)) = leadingMask 32 n := by
  by_cases hzero : n = 0
  · subst hzero
    decide
  · have hshift : (32 - n) % 32 = 32 - n := by omega
    rw [if_neg hzero, hshift, leadingMask]

variable {cidr : String}

/-- `parseCidr` once the text is cut at its first slash. -/
theorem parseCidr_of_split {addr digits : List Char}
    (htrim : (trim cidr).toList = addr ++ '/' :: digits) (hslash : '/' ∉ addr) (parsed : Cidr) :
    parseCidr cidr = some parsed ↔ isPrefixLength digits = true ∧ number digits ≤ 32 ∧
      ∃ word, parseIpv4 (String.ofList addr) = some word ∧
        parsed = { network := word &&& leadingMask 32 (number digits)
                   mask := leadingMask 32 (number digits), length := number digits } := by
  have hne : ∀ c ∈ addr, decide (c ≠ '/') = true := by
    intro c hc
    exact decide_eq_true fun heq => hslash (heq ▸ hc)
  have htake : (addr ++ '/' :: digits).takeWhile (· ≠ '/') = addr := by
    rw [List.takeWhile_append_of_pos hne]
    simp
  have hdrop : ((addr ++ '/' :: digits).dropWhile (· ≠ '/')).tail = digits := by
    rw [List.dropWhile_append_of_pos hne]
    simp
  unfold parseCidr
  simp only [htrim, htake, hdrop]
  rw [if_neg (by simp)]
  by_cases hlength : isPrefixLength digits = true
  · by_cases hbound : number digits ≤ 32
    · simp only [hlength, hbound, not_lt.mpr hbound, Bool.not_true, Bool.false_eq_true, if_false,
        mask_eq hbound, true_and]
      cases parseIpv4 (String.ofList addr) with
      | none => simp
      | some word => simp only [Option.some.injEq, exists_eq_left', eq_comm]
    · refine iff_of_false ?_ fun h => hbound h.2.1
      rw [if_neg (by simp [hlength]), if_pos (not_le.mp hbound)]
      simp
  · refine iff_of_false ?_ fun h => hlength h.1
    rw [if_pos (by simp [hlength])]
    simp

/-- `parseCidr` reads the ranges, and each as its masked network. -/
theorem parseCidr_eq_some {parsed : Cidr} :
    parseCidr cidr = some parsed ↔ ∃ quad n, WritesCidr cidr.toList quad n ∧
      parsed = { network := quad.word &&& leadingMask 32 n, mask := leadingMask 32 n,
                 length := n } := by
  constructor
  · intro h
    have hslash : '/' ∈ (trim cidr).toList := by
      by_contra hnone
      simp [parseCidr, hnone] at h
    obtain ⟨addr, digits, htrim, hnotMem⟩ := List.eq_append_cons_of_mem hslash
    obtain ⟨hshape, hbound, word, hword, rfl⟩ := (parseCidr_of_split htrim hnotMem parsed).mp h
    obtain ⟨quad, ⟨inner, between, hinner, hbetween, haddr⟩, rfl⟩ := parseIpv4_eq_some.mp hword
    rw [String.toList_ofList] at haddr
    obtain ⟨before, after, hbefore, hafter, htext⟩ := exists_trim cidr
    obtain ⟨hdigits, -⟩ := writesLength_iff.mpr ⟨hshape, rfl, hbound⟩
    have hquad : WritesQuad (before ++ addr) quad := by
      refine ⟨before ++ inner, between, ?_, hbetween, by rw [haddr]; simp only [List.append_assoc]⟩
      intro c hc
      rcases List.mem_append.mp hc with hc | hc
      · exact hbefore c hc
      · exact hinner c hc
    exact ⟨quad, _, ⟨before ++ addr, digits, after, hquad, hdigits, hbound, hafter,
      by rw [htext, htrim]; simp only [List.append_assoc]⟩, rfl⟩
  · rintro ⟨quad, n, ⟨addr, digits, after, hquad, hdigits, hn, hafter, htext⟩, rfl⟩
    obtain ⟨hshape, hnumber, -⟩ := writesLength_iff.mp ⟨hdigits, hn⟩
    obtain ⟨before, between, hbefore, hbetween, rfl⟩ := hquad
    have htrim : (trim cidr).toList = (quad.chars ++ between) ++ '/' :: digits := by
      have hcore : cidr.toList = before ++ (quad.chars ++ (between ++ '/' :: digits)) ++ after := by
        rw [htext]
        simp only [List.append_assoc]
      rw [trim_eq hcore hbefore hafter (quad.chars_first _) ?_, List.append_assoc]
      obtain ⟨rest, c, hlast, hc⟩ := hdigits.last (quad.chars ++ between ++ ['/'])
      exact ⟨rest, c, by rw [← hlast]; simp, hc⟩
    have hrest : WritesQuad (quad.chars ++ between) quad :=
      ⟨[], between, by simp, hbetween, by simp⟩
    refine (parseCidr_of_split htrim hrest.slash_notMem _).mpr
      ⟨hshape, hnumber ▸ hn, quad.word, ?_, by rw [hnumber]⟩
    exact parseIpv4_eq_some.mpr ⟨quad, by rw [String.toList_ofList]; exact hrest, rfl⟩

theorem Quad.word_toNat (quad : Quad) : quad.word.toNat = quad.value := by
  have ha := quad.a.toNat_lt
  have hb := quad.b.toNat_lt
  have hc := quad.c.toNat_lt
  have hd := quad.d.toNat_lt
  rw [word, BitVec.toNat_ofNat, value]
  omega

theorem isValidCidr_iff :
    isValidCidr cidr = true ↔ ∃ quad n, WritesCidr cidr.toList quad n := by
  rw [isValidCidr, Option.isSome_iff_exists]
  constructor
  · rintro ⟨parsed, hparsed⟩
    obtain ⟨quad, n, h, -⟩ := parseCidr_eq_some.mp hparsed
    exact ⟨quad, n, h⟩
  · rintro ⟨quad, n, h⟩
    exact ⟨_, parseCidr_eq_some.mpr ⟨quad, n, h, rfl⟩⟩

/-- The masked comparison is the comparison of the first bits. -/
theorem ipInCidr_iff (ip : Quad) (cidr : String) : ipInCidr ip.toText cidr = true ↔
    ∃ quad n, WritesCidr cidr.toList quad n ∧ SameNetwork n ip quad := by
  have hip : parseIpv4 ip.toText = some ip.word :=
    parseIpv4_eq_some.mpr ⟨ip, ⟨[], [], by simp, by simp, by simp [Quad.toText]⟩, rfl⟩
  have hsame : ∀ n (quad : Quad), ip.word &&& leadingMask 32 n = quad.word &&& leadingMask 32 n ↔
      SameNetwork n ip quad := by
    intro n quad
    rw [and_leadingMask_eq_iff, ip.word_toNat, quad.word_toNat]
    rfl
  unfold ipInCidr
  cases hparse : parseCidr cidr with
  | none =>
    refine iff_of_false (by simp) ?_
    rintro ⟨quad, n, hwrites, -⟩
    rw [parseCidr_eq_some.mpr ⟨quad, n, hwrites, rfl⟩] at hparse
    cases hparse
  | some parsed =>
    simp only [hip, beq_iff_eq]
    constructor
    · intro h
      obtain ⟨quad, n, hwrites, rfl⟩ := parseCidr_eq_some.mp hparse
      exact ⟨quad, n, hwrites, (hsame n quad).mp h⟩
    · rintro ⟨quad, n, hwrites, h⟩
      rw [parseCidr_eq_some.mpr ⟨quad, n, hwrites, rfl⟩, Option.some.injEq] at hparse
      rw [← hparse]
      exact (hsame n quad).mpr h

/-! ## The check -/

theorem parseEntries_strings (entries : List String) :
    parseEntries (some (.arr (entries.map .str))) = entries.filter isValidCidr := by
  unfold parseEntries
  induction entries with
  | nil => rfl
  | cons entry rest ih =>
    simp only [List.map_cons, List.filterMap_cons, List.filter_cons]
    split_ifs with hvalid
    · exact congrArg (entry :: ·) ih
    · exact ih

/-- Of a stored list of strings the check reads the ranges. -/
theorem getIpAllowlist_eq {tenant : String} {store : IpAllowlistStore} {entries : List String}
    (hstored : store[tenant]? = some (some (.arr (entries.map .str)))) :
    getIpAllowlist tenant (.ok (some store)) = entries.filter isValidCidr := by
  simp only [getIpAllowlist, Option.getD_some, hstored, parseEntries_strings]

/-- With a list of strings stored, the check of an address is exact when one of them
is a range, and not exact, for any address, when none is. -/
theorem checkIpAllowed_exact_iff (tenant : String) (store : IpAllowlistStore)
    (entries : List String) (ip : Quad)
    (hstored : store[tenant]? = some (some (.arr (entries.map .str)))) :
    AllowsExactly entries ip
        (checkIpAllowed tenant (some ip.toText) (.ok (some store))).allowed ↔
      ∃ entry ∈ entries, ∃ quad n, WritesCidr entry.toList quad n := by
  have hvalid : (∃ entry ∈ entries, ∃ quad n, WritesCidr entry.toList quad n) ↔
      entries.filter isValidCidr ≠ [] := by
    simp only [ne_eq, List.filter_eq_nil_iff, not_forall, not_not, isValidCidr_iff, exists_prop]
  rw [hvalid]
  unfold checkIpAllowed
  simp only [getIpAllowlist_eq hstored, List.length_eq_zero_iff]
  by_cases hnone : entries.filter isValidCidr = []
  · refine iff_of_false (fun h => ?_) (not_not.mpr hnone)
    -- everybody is let in, and no range says so
    rw [if_pos hnone, AllowsExactly] at h
    obtain ⟨entry, hentry, quad, n, hwrites, -⟩ := h.mp rfl
    exact hvalid.mp ⟨entry, hentry, quad, n, hwrites⟩ hnone
  · refine iff_of_true ?_ hnone
    rw [if_neg hnone, AllowsExactly, ipMatchesAny, List.any_eq_true]
    simp only [List.mem_filter, ipInCidr_iff]
    constructor
    · rintro ⟨entry, ⟨hentry, -⟩, hmatch⟩
      exact ⟨entry, hentry, hmatch⟩
    · rintro ⟨entry, hentry, quad, n, hwrites, hsame⟩
      exact ⟨entry, ⟨hentry, isValidCidr_iff.mpr ⟨quad, n, hwrites⟩⟩, quad, n, hwrites, hsame⟩

/-- A list with a range in it is exact, whatever else it holds. -/
theorem allowlist_with_range_exact :
    let entries := ["203.0.113.0/24", "198.51.100.14"]
    let store : IpAllowlistStore :=
      Std.ExtTreeMap.ofList [("org-1", some (Json.arr (entries.map Json.str)))]
    AllowsExactly entries ⟨198, 51, 100, 14⟩
      (checkIpAllowed "org-1" (some "198.51.100.14") (.ok (some store))).allowed := by
  intro entries store
  refine (checkIpAllowed_exact_iff "org-1" store entries ⟨198, 51, 100, 14⟩
    (by simp [store])).mpr ⟨"203.0.113.0/24", by simp [entries], ?_⟩
  exact isValidCidr_iff.mp (by decide +kernel)

/-- An address stored without a length restricts nobody. -/
theorem allowlist_without_range_opens :
    let entries := ["198.51.100.14"]
    let store : IpAllowlistStore :=
      Std.ExtTreeMap.ofList [("org-1", some (Json.arr (entries.map Json.str)))]
    (checkIpAllowed "org-1" (some "8.8.8.8") (.ok (some store))).allowed = true ∧
    ¬ AllowsExactly entries ⟨8, 8, 8, 8⟩
      (checkIpAllowed "org-1" (some "8.8.8.8") (.ok (some store))).allowed := by
  intro entries store
  have hallowed : (checkIpAllowed "org-1" (some "8.8.8.8") (.ok (some store))).allowed = true := by
    decide +kernel
  refine ⟨hallowed, fun hexact => ?_⟩
  obtain ⟨entry, hentry, quad, n, hwrites, -⟩ := hexact.mp hallowed
  have hvalid := isValidCidr_iff.mpr ⟨quad, n, hwrites⟩
  rw [List.mem_singleton.mp hentry] at hvalid
  exact absurd hvalid (by decide +kernel)

end ChatmanEcosystem.Console
