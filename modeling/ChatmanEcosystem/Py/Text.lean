import Mathlib.Algebra.Group.Nat.Defs
import Mathlib.Data.List.Basic

/-!
# Python text

The strings of Python: `str.isspace`, which `\s` and `str.strip` go by, `strip`, `rstrip`,
`removeprefix` and `splitlines`.
-/

namespace ChatmanEcosystem.Py

/-- `str.isspace` of a character, which is `\s` of a pattern. -/
def isSpace (c : Char) : Bool :=
  (0x09 ≤ c.toNat && c.toNat ≤ 0x0D) || (0x1C ≤ c.toNat && c.toNat ≤ 0x20) || c.toNat = 0x85 ||
    c.toNat = 0xA0 || c.toNat = 0x1680 || (0x2000 ≤ c.toNat && c.toNat ≤ 0x200A) ||
    c.toNat = 0x2028 || c.toNat = 0x2029 || c.toNat = 0x202F || c.toNat = 0x205F ||
    c.toNat = 0x3000

/-- `str.strip()`. -/
def strip (text : List Char) : List Char :=
  ((text.dropWhile isSpace).reverse.dropWhile isSpace).reverse

/-- `str.rstrip()`. -/
def rstrip (text : List Char) : List Char := (text.reverse.dropWhile isSpace).reverse

/-- `text.removeprefix(first)`. -/
def removePrefix (first text : String) : String :=
  if first.toList <+: text.toList then String.ofList (text.toList.drop first.toList.length)
    else text

/-- Where `str.splitlines` breaks a line. -/
def isLineBreak (c : Char) : Bool :=
  (0x0A ≤ c.toNat && c.toNat ≤ 0x0D) || (0x1C ≤ c.toNat && c.toNat ≤ 0x1E) || c.toNat = 0x85 ||
    c.toNat = 0x2028 || c.toNat = 0x2029

/-- `str.splitlines()`, after what is on the line already. -/
def splitLinesFrom (line : List Char) : List Char → List (List Char)
  | [] => if line = [] then [] else [line]
  | '\r' :: '\n' :: text => line :: splitLinesFrom [] text
  | c :: text =>
    if isLineBreak c then line :: splitLinesFrom [] text else splitLinesFrom (line ++ [c]) text

/-- `str.splitlines()`. -/
def splitLines (text : List Char) : List (List Char) := splitLinesFrom [] text

/-- A text that neither begins nor ends with a space is stripped. -/
theorem strip_eq_self {text : List Char} (hfirst : text.head?.any isSpace = false)
    (hlast : text.getLast?.any isSpace = false) : strip text = text := by
  have hkeep : ∀ {word : List Char}, word.head?.any isSpace = false →
      word.dropWhile isSpace = word := by
    intro word hword
    cases word with
    | nil => rfl
    | cons c word =>
      have hc : isSpace c = false := hword
      rw [List.dropWhile_cons_of_neg (by simp [hc])]
  rw [strip, hkeep hfirst, hkeep, List.reverse_reverse]
  rw [List.head?_reverse]
  exact hlast

/-- A text that is stripped does not end with a space. -/
theorem getLast?_of_strip {text : List Char} (h : strip text = text) :
    text.getLast?.any isSpace = false := by
  rw [← h, strip, List.getLast?_reverse]
  cases hword : ((text.dropWhile isSpace).reverse.dropWhile isSpace) with
  | nil => rfl
  | cons c word =>
    have hhead := List.head?_dropWhile_not isSpace (text.dropWhile isSpace).reverse
    rw [hword] at hhead
    simpa using hhead

end ChatmanEcosystem.Py

/-! ## Bytes as text

UTF-8 with the `surrogateescape` error handler. A text is the list of its code points; a byte
that no character has is decoded to a surrogate of its own, which encodes to that byte again.

* `encode_decode`: every byte string is given back by its decoding.
* `point_mem_of_mem_encode`: an ASCII byte of the encoding is a character of the text.
-/

namespace ChatmanEcosystem.Py.Surrogates

/-! ## Code -/

/-- The last `k` bytes of a character, six bits in each. -/
def trails : ℕ → ℕ → List UInt8
  | 0, _ => []
  | k + 1, n => UInt8.ofNat (0x80 + n / 64 ^ k % 64) :: trails k n

/-- The bytes of a code point, `none` for a surrogate that stands for no byte. -/
def encodePoint (n : ℕ) : Option (List UInt8) :=
  if n < 0x80 then some [UInt8.ofNat n]
  else if n < 0x800 then some (UInt8.ofNat (0xc0 + n / 64 ^ 1) :: trails 1 n)
  else if 0xd800 ≤ n ∧ n < 0xe000 then
    if 0xdc80 ≤ n ∧ n < 0xdd00 then some [UInt8.ofNat (n - 0xdc00)] else none
  else if n < 0x10000 then some (UInt8.ofNat (0xe0 + n / 64 ^ 2) :: trails 2 n)
  else if n < 0x110000 then some (UInt8.ofNat (0xf0 + n / 64 ^ 3) :: trails 3 n)
  else none

/-- `text.encode("utf-8", errors="surrogateescape")`, `none` where it raises. -/
def encode : List ℕ → Option (List UInt8)
  | [] => some []
  | n :: text => (encodePoint n).bind fun first => (encode text).map (first ++ ·)

/-- The number that goes on with `k` more bytes, and what follows them. -/
def readTrails : ℕ → ℕ → List UInt8 → Option (ℕ × List UInt8)
  | 0, n, rest => some (n, rest)
  | _ + 1, _, [] => none
  | k + 1, n, b :: rest =>
    if b.toNat / 64 = 2 then readTrails k (n * 64 + b.toNat % 64) rest else none

/-- The character that `a` and the bytes after it begin with. -/
def readPoint (a : UInt8) (rest : List UInt8) : Option (ℕ × List UInt8) :=
  if a.toNat < 0x80 then some (a.toNat, rest)
  else if a.toNat < 0xc0 then none
  else if a.toNat < 0xe0 then
    (readTrails 1 (a.toNat - 0xc0) rest).filter fun read => 0x80 ≤ read.1
  else if a.toNat < 0xf0 then
    (readTrails 2 (a.toNat - 0xe0) rest).filter fun read =>
      0x800 ≤ read.1 ∧ ¬(0xd800 ≤ read.1 ∧ read.1 < 0xe000)
  else
    (readTrails 3 (a.toNat - 0xf0) rest).filter fun read =>
      0x10000 ≤ read.1 ∧ read.1 < 0x110000

/-- The text of at most `fuel` characters. -/
def decodeFrom : ℕ → List UInt8 → List ℕ
  | 0, _ => []
  | _ + 1, [] => []
  | fuel + 1, a :: rest =>
    match readPoint a rest with
    | some (n, rest) => n :: decodeFrom fuel rest
    | none => (0xdc00 + a.toNat) :: decodeFrom fuel rest

/-- `bytes.decode("utf-8", errors="surrogateescape")`; a character takes a byte at least. -/
def decode (bytes : List UInt8) : List ℕ := decodeFrom bytes.length bytes

/-! ## Every byte string is given back -/

variable {b : UInt8} {n : ℕ}

theorem ofNat_eq (h : n = b.toNat) : UInt8.ofNat n = b := by
  rw [h, UInt8.ofNat_toNat]

variable {k : ℕ} {bytes rest : List UInt8}

theorem trails_of_readTrails {m : ℕ} (h : readTrails k m bytes = some (n, rest)) :
    bytes = trails k n ++ rest ∧ n / 64 ^ k = m := by
  induction k generalizing m bytes with
  | zero =>
    simp only [readTrails, Option.some.injEq, Prod.mk.injEq] at h
    simp [trails, h.1, h.2]
  | succ k ih =>
    cases bytes with
    | nil => simp [readTrails] at h
    | cons b bytes =>
      by_cases htop : b.toNat / 64 = 2
      · simp only [readTrails, if_pos htop] at h
        obtain ⟨hbytes, hn⟩ := ih h
        have hdigit : n / 64 ^ k % 64 = b.toNat % 64 := by omega
        have hb : UInt8.ofNat (0x80 + n / 64 ^ k % 64) = b := ofNat_eq (by omega)
        refine ⟨by rw [trails, hb, List.cons_append, ← hbytes], ?_⟩
        rw [Nat.pow_succ, ← Nat.div_div_eq_div_mul, hn]
        omega
      · simp [readTrails, htop] at h

theorem encodePoint_of_readPoint {a : UInt8} (h : readPoint a bytes = some (n, rest)) :
    ∃ first, encodePoint n = some first ∧ a :: bytes = first ++ rest := by
  have ha := a.toNat_lt
  simp only [readPoint] at h
  split_ifs at h with h1 h2 h3 h4
  · simp only [Option.some.injEq, Prod.mk.injEq] at h
    obtain ⟨rfl, rfl⟩ := h
    exact ⟨[a], by simp [encodePoint, h1], rfl⟩
  · simp only [Option.filter_eq_some_iff, decide_eq_true_eq] at h
    obtain ⟨hbytes, hn⟩ := trails_of_readTrails h.1
    have hfirst : UInt8.ofNat (0xc0 + n / 64 ^ 1) = a := ofNat_eq (by omega)
    refine ⟨a :: trails 1 n, ?_, by rw [hbytes, List.cons_append]⟩
    rw [encodePoint, if_neg (by omega), if_pos (by omega), hfirst]
  · simp only [Option.filter_eq_some_iff, decide_eq_true_eq] at h
    obtain ⟨hbytes, hn⟩ := trails_of_readTrails h.1
    have hfirst : UInt8.ofNat (0xe0 + n / 64 ^ 2) = a := ofNat_eq (by omega)
    refine ⟨a :: trails 2 n, ?_, by rw [hbytes, List.cons_append]⟩
    rw [encodePoint, if_neg (by omega), if_neg (by omega), if_neg (by omega), if_pos (by omega),
      hfirst]
  · simp only [Option.filter_eq_some_iff, decide_eq_true_eq] at h
    obtain ⟨hbytes, hn⟩ := trails_of_readTrails h.1
    have hfirst : UInt8.ofNat (0xf0 + n / 64 ^ 3) = a := ofNat_eq (by omega)
    refine ⟨a :: trails 3 n, ?_, by rw [hbytes, List.cons_append]⟩
    rw [encodePoint, if_neg (by omega), if_neg (by omega), if_neg (by omega), if_neg (by omega),
      if_pos (by omega), hfirst]

/-- A byte that begins no character is not ASCII, so that its surrogate stands for it. -/
theorem encodePoint_escape {a : UInt8} (h : readPoint a bytes = none) :
    encodePoint (0xdc00 + a.toNat) = some [a] := by
  have ha := a.toNat_lt
  have hhigh : ¬a.toNat < 0x80 := by
    intro hlow
    simp [readPoint, hlow] at h
  have hbyte : UInt8.ofNat (0xdc00 + a.toNat - 0xdc00) = a := ofNat_eq (by omega)
  rw [encodePoint, if_neg (by omega), if_neg (by omega), if_pos (by omega), if_pos (by omega),
    hbyte]

theorem encode_decodeFrom {fuel : ℕ} (h : bytes.length ≤ fuel) :
    encode (decodeFrom fuel bytes) = some bytes := by
  induction fuel generalizing bytes with
  | zero =>
    have hnil : bytes = [] := List.length_eq_zero_iff.mp (by omega)
    simp [hnil, decodeFrom, encode]
  | succ fuel ih =>
    cases bytes with
    | nil => rfl
    | cons a bytes =>
      rw [List.length_cons] at h
      unfold decodeFrom
      cases hread : readPoint a bytes with
      | none =>
        show (encodePoint (0xdc00 + a.toNat)).bind _ = _
        simp [encodePoint_escape hread, ih (by omega : bytes.length ≤ fuel)]
      | some read =>
        obtain ⟨n, rest⟩ := read
        obtain ⟨first, hfirst, hbytes⟩ := encodePoint_of_readPoint hread
        have hne : first ≠ [] := by
          rintro rfl
          simp only [encodePoint] at hfirst
          split_ifs at hfirst <;> simp at hfirst
        have hlength := congrArg List.length hbytes
        have hpos := List.length_pos_iff.mpr hne
        rw [List.length_cons, List.length_append] at hlength
        show (encodePoint n).bind _ = _
        simp [hfirst, ih (by omega : rest.length ≤ fuel), hbytes]

theorem encode_decode (bytes : List UInt8) : encode (decode bytes) = some bytes :=
  encode_decodeFrom (Nat.le_refl _)

/-! ## ASCII characters -/

theorem toNat_of_mem_trails (h : b ∈ trails k n) : 0x80 ≤ b.toNat := by
  induction k with
  | zero => simp [trails] at h
  | succ k ih =>
    rcases List.mem_cons.mp h with rfl | h
    · rw [UInt8.toNat_ofNat']
      omega
    · exact ih h

theorem toNat_of_mem_encodePoint {first : List UInt8} (h : encodePoint n = some first)
    (hb : b ∈ first) (hlow : b.toNat < 0x80) : b.toNat = n := by
  have hhigh : ∀ m k, 0x80 ≤ m → m < 0x100 → b ∈ UInt8.ofNat m :: trails k n → False := by
    intro m k hm hlt hmem
    rcases List.mem_cons.mp hmem with rfl | hmem
    · rw [UInt8.toNat_ofNat'] at hlow
      omega
    · exact absurd (toNat_of_mem_trails hmem) (by omega)
  simp only [encodePoint] at h
  split_ifs at h with h1 h2 h3 h4 h5 h6 <;> simp only [Option.some.injEq] at h <;> subst h
  · rw [List.mem_singleton.mp hb, UInt8.toNat_ofNat']
    omega
  · exact (hhigh _ 1 (by omega) (by omega) hb).elim
  · exact (hhigh _ 0 (by omega) (by omega) hb).elim
  · exact (hhigh _ 2 (by omega) (by omega) hb).elim
  · exact (hhigh _ 3 (by omega) (by omega) hb).elim

theorem point_mem_of_mem_encode {text : List ℕ} (h : encode text = some bytes) (hb : b ∈ bytes)
    (hlow : b.toNat < 0x80) : b.toNat ∈ text := by
  induction text generalizing bytes with
  | nil => simp_all [encode]
  | cons n text ih =>
    simp only [encode, Option.bind_eq_some_iff, Option.map_eq_some_iff] at h
    obtain ⟨first, hfirst, rest, hrest, rfl⟩ := h
    rcases List.mem_append.mp hb with hb | hb
    · simp [toNat_of_mem_encodePoint hfirst hb hlow]
    · exact List.mem_cons_of_mem n (ih hrest hb)

end ChatmanEcosystem.Py.Surrogates
