import ChatmanEcosystem.Common.StableSort
import ChatmanEcosystem.Py.Text
import ChatmanEcosystem.Py.Value
import ChatmanEcosystem.Rust.Json

/-!
# Git tree bodies

Model of `parse_tree`, `_sort_key` and `tree_body` (`scripts/release_train/root_crown/gitobj.py`,
lines 84–113). A name is a `str` as `os.listdir` and `bytes.decode` give it: code points, lone
surrogates among them.

Results:

* `parseEntry_entryBytes`: an entry is read back from the front of a body.
* `entryBytes_of_parseEntry`: what is read is written again byte for byte.
* `trees_round_trip`: from entries to a body and back, and from a body in git's order.
-/

namespace ChatmanEcosystem.RootCrown

open Common Py

/-! ## Code -/

/-- `TreeEntry` (lines 84–88). -/
structure TreeEntry where
  mode : String
  name : List ℕ
  sha : String
  deriving DecidableEq

def modeTree : String := "40000"

/-- `text.encode("ascii")`. -/
def encodeAscii (text : String) : Option (List UInt8) :=
  if text.toList.all (·.toNat < 0x80) then some (text.toList.map fun c => UInt8.ofNat c.toNat)
  else none

/-- `bytes.decode("ascii")`. -/
def decodeAscii (bytes : List UInt8) : Option String :=
  if bytes.all (·.toNat < 0x80) then
    some (String.ofList (bytes.map fun b => Char.ofNat b.toNat))
  else none

/-- `bytes.hex()`. -/
def hex (bytes : List UInt8) : String :=
  String.ofList (bytes.flatMap fun b =>
    [Rust.Json.hexDigit (b.toNat / 16), Rust.Json.hexDigit (b.toNat % 16)])

def isAsciiSpace (c : Char) : Bool := c = ' ' || 0x09 ≤ c.toNat && c.toNat ≤ 0x0d

/-- `bytes.fromhex(text)`, which skips blanks between two bytes. -/
def fromHex : List Char → Option (List UInt8)
  | [] => some []
  | [c] => if isAsciiSpace c then some [] else none
  | a :: b :: rest =>
    if isAsciiSpace a then fromHex (b :: rest)
    else do
      let high ← JsonText.hexValue a
      let low ← JsonText.hexValue b
      let bytes ← fromHex rest
      return UInt8.ofNat (16 * high + low) :: bytes

/-- What stands before and behind the first `sep`, as `body.index` finds it. -/
def cutAt (sep : UInt8) (body : List UInt8) : Option (List UInt8 × List UInt8) :=
  match body.dropWhile (· ≠ sep) with
  | [] => none
  | _ :: rest => some (body.takeWhile (· ≠ sep), rest)

/-- What an optional result raises as `ValueError`. -/
def orValueError {α ρ : Type} : Option α → Except (Raised ρ) α
  | some a => .ok a
  | none => .error (.error .valueError)

/-- One turn of the loop of `parse_tree` (lines 95–102): an entry and what follows it. -/
def parseEntry (body : List UInt8) : Except (Raised String) (TreeEntry × List UInt8) := do
  let (mode, rest) ← orValueError (cutAt 0x20 body)
  let (name, rest) ← orValueError (cutAt 0 rest)
  if rest.length < 20 then throw (.refusal "truncated tree entry")
  let mode ← orValueError (decodeAscii mode)
  return (⟨mode, Surrogates.decode name, hex (rest.take 20)⟩, rest.drop 20)

/-- The loop of `parse_tree`, for at most `fuel` turns. -/
def parseEntries : ℕ → List UInt8 → Except (Raised String) (List TreeEntry)
  | 0, _ => .ok []
  | _ + 1, [] => .ok []
  | fuel + 1, body => do
    let (entry, rest) ← parseEntry body
    let entries ← parseEntries fuel rest
    return entry :: entries

/-- `parse_tree` (lines 91–103); a turn takes a byte at least. -/
def parseTree (body : List UInt8) : Except (Raised String) (List TreeEntry) :=
  parseEntries body.length body

/-- `_sort_key` (lines 106–108). -/
def TreeEntry.sortKey (entry : TreeEntry) : Option (List UInt8) :=
  (Surrogates.encode entry.name).map fun name =>
    if entry.mode = modeTree then name ++ [0x2f] else name

/-- The key as `sorted` compares it. -/
def TreeEntry.key (entry : TreeEntry) : List ℕ := (entry.sortKey.getD []).map UInt8.toNat

/-- The bytes of one entry (lines 114–115). -/
def entryBytes (entry : TreeEntry) : Option (List UInt8) := do
  let mode ← encodeAscii entry.mode
  let name ← Surrogates.encode entry.name
  let sha ← fromHex entry.sha.toList
  return mode ++ 0x20 :: (name ++ 0 :: sha)

/-- `tree_body` (lines 111–116), `none` for its `ValueError`. `sorted` asks for every key
before an entry is written. -/
def treeBody (entries : List TreeEntry) : Option (List UInt8) := do
  let _ ← entries.mapM TreeEntry.sortKey
  let pieces ← (entries.insertionSort fun a b => a.key ≤ b.key).mapM entryBytes
  return pieces.flatten

/-! ## Digits -/

theorem isAsciiSpace_hexDigit {d : ℕ} (h : d < 16) :
    isAsciiSpace (Rust.Json.hexDigit d) = false := by
  have hall : ∀ m : Fin 16, isAsciiSpace (Rust.Json.hexDigit m) = false := by decide
  exact hall ⟨d, h⟩

theorem fromHex_hexDigits {high low : ℕ} (hhigh : high < 16) (hlow : low < 16) (rest : List Char) :
    fromHex (Rust.Json.hexDigit high :: Rust.Json.hexDigit low :: rest) =
      (fromHex rest).map (UInt8.ofNat (16 * high + low) :: ·) := by
  rw [fromHex, isAsciiSpace_hexDigit hhigh, Rust.Json.hexValue_hexDigit' hhigh,
    Rust.Json.hexValue_hexDigit' hlow, if_neg Bool.false_ne_true]
  cases fromHex rest <;> rfl

theorem fromHex_hex (bytes : List UInt8) : fromHex (hex bytes).toList = some bytes := by
  rw [hex, String.toList_ofList]
  induction bytes with
  | nil => rfl
  | cons b bytes ih =>
    have hb := b.toNat_lt
    rw [List.flatMap_cons, List.cons_append, List.cons_append, List.nil_append,
      fromHex_hexDigits (by omega) (by omega), ih, Nat.div_add_mod, UInt8.ofNat_toNat]
    rfl

/-- The digits that `hex` writes. -/
def IsLowerHex (c : Char) : Prop := ('0' ≤ c ∧ c ≤ '9') ∨ ('a' ≤ c ∧ c ≤ 'f')

instance (c : Char) : Decidable (IsLowerHex c) := inferInstanceAs (Decidable (_ ∨ _))

theorem exists_hexDigit {c : Char} (h : IsLowerHex c) : ∃ d < 16, Rust.Json.hexDigit d = c := by
  have hle : ∀ a b : Char, a ≤ b ↔ a.toNat ≤ b.toNat := fun a b => Iff.rfl
  simp only [IsLowerHex, hle] at h
  rcases h with ⟨hlow, hhigh⟩ | ⟨hlow, hhigh⟩
  · have h0 : '0'.toNat = 48 := rfl
    have h9 : '9'.toNat = 57 := rfl
    refine ⟨c.toNat - 48, by omega, ?_⟩
    rw [Rust.Json.hexDigit, if_pos (by omega), show 0x30 + (c.toNat - 48) = c.toNat by omega,
      Char.ofNat_toNat]
  · have ha : 'a'.toNat = 97 := rfl
    have hf : 'f'.toNat = 102 := rfl
    refine ⟨c.toNat - 87, by omega, ?_⟩
    rw [Rust.Json.hexDigit, if_neg (by omega), show 0x57 + (c.toNat - 87) = c.toNat by omega,
      Char.ofNat_toNat]

theorem exists_hexDigits (k : ℕ) {digits : List Char} (hlength : digits.length = 2 * k)
    (h : ∀ c ∈ digits, IsLowerHex c) :
    ∃ bytes : List UInt8, bytes.length = k ∧ digits = bytes.flatMap fun b =>
      [Rust.Json.hexDigit (b.toNat / 16), Rust.Json.hexDigit (b.toNat % 16)] := by
  induction k generalizing digits with
  | zero => exact ⟨[], rfl, by simpa using hlength⟩
  | succ k ih =>
    obtain ⟨a, digits, rfl⟩ := List.exists_cons_of_length_eq_add_one
      (show digits.length = (2 * k + 1) + 1 by omega)
    obtain ⟨b, digits, rfl⟩ := List.exists_cons_of_length_eq_add_one
      (show digits.length = 2 * k + 1 by rw [List.length_cons] at hlength; omega)
    obtain ⟨high, hhigh, rfl⟩ := exists_hexDigit (h a (by simp))
    obtain ⟨low, hlow, rfl⟩ := exists_hexDigit (h b (by simp))
    rw [List.length_cons, List.length_cons] at hlength
    obtain ⟨bytes, hbytes, rfl⟩ := ih (by omega)
      fun c hc => h c (List.mem_cons_of_mem _ (List.mem_cons_of_mem _ hc))
    have hvalue : (UInt8.ofNat (16 * high + low)).toNat = 16 * high + low := by
      rw [UInt8.toNat_ofNat']
      omega
    refine ⟨UInt8.ofNat (16 * high + low) :: bytes, by simp [hbytes], ?_⟩
    rw [List.flatMap_cons, hvalue, show (16 * high + low) / 16 = high by omega,
      show (16 * high + low) % 16 = low by omega]
    rfl

theorem exists_hex (k : ℕ) {sha : String} (hlength : sha.length = 2 * k)
    (h : ∀ c ∈ sha.toList, IsLowerHex c) : ∃ bytes, bytes.length = k ∧ sha = hex bytes := by
  obtain ⟨bytes, hbytes, hdigits⟩ := exists_hexDigits k (by rwa [String.length_toList]) h
  exact ⟨bytes, hbytes, by rw [hex, ← hdigits, String.ofList_toList]⟩

variable {text : String} {bytes : List UInt8}

theorem decodeAscii_encodeAscii (h : encodeAscii text = some bytes) :
    decodeAscii bytes = some text := by
  simp only [encodeAscii] at h
  split_ifs at h with hascii
  simp only [List.all_eq_true, decide_eq_true_eq] at hascii
  simp only [Option.some.injEq] at h
  subst h
  have hvalue : ∀ c ∈ text.toList, (UInt8.ofNat c.toNat).toNat = c.toNat := by
    intro c hc
    have := hascii c hc
    rw [UInt8.toNat_ofNat']
    omega
  have hback : text.toList.map (fun c => Char.ofNat (UInt8.ofNat c.toNat).toNat) = text.toList := by
    refine (List.map_congr_left fun c hc => ?_).trans (List.map_id _)
    rw [hvalue c hc, Char.ofNat_toNat]
    rfl
  have hlow : (text.toList.map fun c => UInt8.ofNat c.toNat).all (·.toNat < 0x80) = true := by
    rw [List.all_eq_true]
    intro b hb
    obtain ⟨c, hc, rfl⟩ := List.mem_map.mp hb
    rw [hvalue c hc]
    exact decide_eq_true (hascii c hc)
  rw [decodeAscii, if_pos hlow, List.map_map]
  show some (String.ofList (text.toList.map fun c => Char.ofNat (UInt8.ofNat c.toNat).toNat)) = _
  rw [hback, String.ofList_toList]

theorem encodeAscii_decodeAscii (h : decodeAscii bytes = some text) :
    encodeAscii text = some bytes := by
  simp only [decodeAscii] at h
  split_ifs at h with hascii
  simp only [List.all_eq_true, decide_eq_true_eq] at hascii
  simp only [Option.some.injEq] at h
  subst h
  have hvalue : ∀ b ∈ bytes, (Char.ofNat b.toNat).toNat = b.toNat := by
    intro b hb
    have hall : ∀ n : Fin 128, (Char.ofNat n).toNat = n := by decide
    exact hall ⟨b.toNat, hascii b hb⟩
  have hlow : (bytes.map fun b => Char.ofNat b.toNat).all (·.toNat < 0x80) = true := by
    rw [List.all_eq_true]
    intro c hc
    obtain ⟨b, hb, rfl⟩ := List.mem_map.mp hc
    rw [hvalue b hb]
    exact decide_eq_true (hascii b hb)
  have hback : bytes.map (fun b => UInt8.ofNat (Char.ofNat b.toNat).toNat) = bytes := by
    refine (List.map_congr_left fun b hb => ?_).trans (List.map_id _)
    rw [hvalue b hb, UInt8.ofNat_toNat]
    rfl
  rw [encodeAscii, String.toList_ofList, if_pos hlow, List.map_map]
  show some (bytes.map fun b => UInt8.ofNat (Char.ofNat b.toNat).toNat) = _
  rw [hback]

/-! ## Cuts -/

variable {sep : UInt8} {first : List UInt8}

theorem cutAt_append (h : sep ∉ first) (rest : List UInt8) :
    cutAt sep (first ++ sep :: rest) = some (first, rest) := by
  have hall : ∀ b ∈ first, (decide (b ≠ sep)) = true := fun b hb =>
    decide_eq_true fun heq => h (heq ▸ hb)
  rw [cutAt, List.dropWhile_append_of_pos hall, List.takeWhile_append_of_pos hall]
  simp

variable {body rest : List UInt8}

theorem append_of_cutAt (h : cutAt sep body = some (first, rest)) :
    body = first ++ sep :: rest := by
  have hsplit : body.takeWhile (· ≠ sep) ++ body.dropWhile (· ≠ sep) = body :=
    List.takeWhile_append_dropWhile
  have hstop := List.head?_dropWhile_not (· ≠ sep) body
  unfold cutAt at h
  generalize body.dropWhile (· ≠ sep) = after at h hsplit hstop
  cases after with
  | nil => simp at h
  | cons b after =>
    simp only [Option.some.injEq, Prod.mk.injEq] at h
    have hb : b = sep := by simpa using hstop
    rw [← hsplit, h.1, h.2, hb]

/-! ## One entry -/

/-- What the format has room for: a mode that ends at the blank, a name that ends at the NUL and
is no path, and the digits of a hash. -/
structure TreeEntry.WellFormed (entry : TreeEntry) : Prop where
  mode : ∀ c ∈ entry.mode.toList, c.toNat < 0x80 ∧ c ≠ ' '
  /-- A file name, as it is decoded. -/
  decoded : ∃ bytes, Surrogates.decode bytes = entry.name
  noNul : 0 ∉ entry.name
  noSlash : 0x2f ∉ entry.name
  length : entry.sha.length = 40
  digits : ∀ c ∈ entry.sha.toList, IsLowerHex c

variable {entry : TreeEntry}

/-- The bytes of a well-formed entry. -/
theorem TreeEntry.WellFormed.exists_bytes (h : entry.WellFormed) :
    ∃ mode name sha, encodeAscii entry.mode = some mode ∧ 0x20 ∉ mode ∧
      Surrogates.encode entry.name = some name ∧ Surrogates.decode name = entry.name ∧
      0 ∉ name ∧ 0x2f ∉ name ∧ sha.length = 20 ∧ entry.sha = hex sha := by
  obtain ⟨name, hname⟩ := h.decoded
  have hencode : Surrogates.encode entry.name = some name := by
    rw [← hname, Surrogates.encode_decode]
  obtain ⟨sha, hlength, hsha⟩ := exists_hex 20 h.length h.digits
  have hmode : entry.mode.toList.all (·.toNat < 0x80) = true :=
    List.all_eq_true.mpr fun c hc => decide_eq_true (h.mode c hc).1
  refine ⟨_, name, sha, if_pos hmode, ?_, hencode, hname, ?_, ?_, hlength, hsha⟩
  · intro hblank
    obtain ⟨c, hc, heq⟩ := List.mem_map.mp hblank
    have hvalue := congrArg UInt8.toNat heq
    have hlow := (h.mode c hc).1
    rw [UInt8.toNat_ofNat', show (0x20 : UInt8).toNat = 32 from rfl] at hvalue
    have hc' : c = ' ' := by
      rw [← Char.ofNat_toNat c, show c.toNat = 32 by omega]
    exact (h.mode c hc).2 hc'
  · intro hnul
    exact h.noNul (Surrogates.point_mem_of_mem_encode hencode hnul (by decide))
  · intro hslash
    exact h.noSlash (Surrogates.point_mem_of_mem_encode hencode hslash (by decide))

theorem parseEntry_entryBytes (h : entry.WellFormed) :
    ∃ bytes, entryBytes entry = some bytes ∧ bytes ≠ [] ∧
      ∀ rest, parseEntry (bytes ++ rest) = .ok (entry, rest) := by
  obtain ⟨mode, name, sha, hmode, hblank, hencode, hdecode, hnul, _, hlength, hsha⟩ :=
    h.exists_bytes
  have hbytes : entryBytes entry = some (mode ++ 0x20 :: (name ++ 0 :: sha)) := by
    rw [entryBytes, hmode, hencode, hsha, fromHex_hex]
    rfl
  refine ⟨_, hbytes, by simp, fun rest => ?_⟩
  have htake : (sha ++ rest).take 20 = sha := by rw [← hlength, List.take_left]
  have hdrop : (sha ++ rest).drop 20 = rest := by rw [← hlength, List.drop_left]
  have hlong : ¬(sha ++ rest).length < 20 := by
    rw [List.length_append]
    omega
  rw [List.append_assoc, List.cons_append, List.append_assoc, List.cons_append, parseEntry,
    cutAt_append hblank]
  simp only [orValueError, bind, Except.bind, cutAt_append hnul, if_neg hlong,
    decodeAscii_encodeAscii hmode, htake, hdrop, hdecode, ← hsha]
  rfl

theorem entryBytes_of_parseEntry (h : parseEntry body = .ok (entry, rest)) :
    ∃ bytes, entryBytes entry = some bytes ∧ body = bytes ++ rest ∧ bytes ≠ [] ∧
      (∃ key, entry.sortKey = some key) := by
  simp only [parseEntry] at h
  cases hmode : cutAt 0x20 body with
  | none => simp [hmode, orValueError, bind, Except.bind] at h
  | some cut =>
    obtain ⟨mode, after⟩ := cut
    cases hname : cutAt 0 after with
    | none => simp [hmode, hname, orValueError, bind, Except.bind] at h
    | some cut =>
      obtain ⟨name, tail⟩ := cut
      simp only [hmode, hname, orValueError, bind, Except.bind] at h
      split_ifs at h with hshort
      cases hdecode : decodeAscii mode with
      | none => simp [hdecode] at h
      | some text =>
        simp only [hdecode, pure, Except.pure, Except.ok.injEq, Prod.mk.injEq] at h
        obtain ⟨rfl, rfl⟩ := h
        refine ⟨mode ++ 0x20 :: (name ++ 0 :: tail.take 20), ?_, ?_, by simp, ?_⟩
        · simp [entryBytes, encodeAscii_decodeAscii hdecode, Surrogates.encode_decode, fromHex_hex]
        · rw [append_of_cutAt hmode, append_of_cutAt hname]
          simp
        · exact ⟨_, by rw [TreeEntry.sortKey, Surrogates.encode_decode, Option.map_some]⟩

/-! ## Bodies -/

variable {entries : List TreeEntry}

theorem parseEntries_flatten (h : ∀ e ∈ entries, e.WellFormed) :
    ∃ pieces, entries.mapM entryBytes = some pieces ∧
      ∀ fuel, pieces.flatten.length ≤ fuel → parseEntries fuel pieces.flatten = .ok entries := by
  induction entries with
  | nil =>
    refine ⟨[], rfl, fun fuel _ => ?_⟩
    cases fuel <;> rfl
  | cons entry entries ih =>
    obtain ⟨bytes, hbytes, hne, hparse⟩ := parseEntry_entryBytes (h entry (by simp))
    obtain ⟨pieces, hpieces, hrest⟩ := ih fun e he => h e (List.mem_cons_of_mem entry he)
    refine ⟨bytes :: pieces, by simp [List.mapM_cons, hbytes, hpieces], fun fuel hfuel => ?_⟩
    have hpos := List.length_pos_iff.mpr hne
    rw [List.flatten_cons, List.length_append] at hfuel
    obtain ⟨fuel, rfl⟩ : ∃ k, fuel = k + 1 := ⟨fuel - 1, by omega⟩
    have hentry := hparse pieces.flatten
    have htail := hrest fuel (by omega)
    rw [List.flatten_cons]
    obtain ⟨b, bytes, rfl⟩ := List.exists_cons_of_ne_nil hne
    rw [List.cons_append] at hentry ⊢
    simp only [parseEntries, hentry, bind, Except.bind, htail]
    rfl

/-- What the loop reads is all of the body. -/
theorem flatten_of_parseEntries {fuel : ℕ} (hfuel : body.length ≤ fuel)
    (h : parseEntries fuel body = .ok entries) :
    ∃ pieces, entries.mapM entryBytes = some pieces ∧ pieces.flatten = body ∧
      ∀ e ∈ entries, ∃ key, e.sortKey = some key := by
  induction fuel generalizing body entries with
  | zero =>
    have hnil : body = [] := List.length_eq_zero_iff.mp (by omega)
    simp only [parseEntries, Except.ok.injEq] at h
    subst h
    exact ⟨[], rfl, hnil.symm, by simp⟩
  | succ fuel ih =>
    cases body with
    | nil =>
      simp only [parseEntries, Except.ok.injEq] at h
      subst h
      exact ⟨[], rfl, rfl, by simp⟩
    | cons b body =>
      simp only [parseEntries, bind, Except.bind] at h
      cases hentry : parseEntry (b :: body) with
      | error e => simp [hentry] at h
      | ok read =>
        obtain ⟨entry, rest⟩ := read
        obtain ⟨bytes, hbytes, hbody, hne, hkey⟩ := entryBytes_of_parseEntry hentry
        have hpos := List.length_pos_iff.mpr hne
        have hlength := congrArg List.length hbody
        rw [List.length_append] at hlength
        simp only [hentry] at h
        cases hrest : parseEntries fuel rest with
        | error e => simp [hrest] at h
        | ok later =>
          simp only [hrest, pure, Except.pure, Except.ok.injEq] at h
          subst h
          obtain ⟨pieces, hpieces, hflatten, hkeys⟩ := ih (by omega) hrest
          refine ⟨bytes :: pieces, by simp [List.mapM_cons, hbytes, hpieces], ?_, ?_⟩
          · rw [List.flatten_cons, hflatten, hbody]
          · intro e he
            rcases List.mem_cons.mp he with rfl | he
            · exact hkey
            · exact hkeys e he

theorem treeBody_eq (h : ∀ e ∈ entries, ∃ key, e.sortKey = some key) :
    treeBody entries = ((entries.insertionSort fun a b => a.key ≤ b.key).mapM entryBytes).map
      List.flatten := by
  have hkeys : ∃ keys, entries.mapM TreeEntry.sortKey = some keys := by
    induction entries with
    | nil => exact ⟨[], rfl⟩
    | cons entry entries ih =>
      obtain ⟨key, hkey⟩ := h entry (by simp)
      obtain ⟨keys, hkeys⟩ := ih fun e he => h e (List.mem_cons_of_mem entry he)
      exact ⟨key :: keys, by simp [List.mapM_cons, hkey, hkeys]⟩
  obtain ⟨keys, hkeys⟩ := hkeys
  rw [treeBody, hkeys]
  cases (entries.insertionSort fun a b => a.key ≤ b.key).mapM entryBytes <;> rfl

/-- Without a slash in them, the names of a file and of a directory have keys of their own. -/
theorem TreeEntry.WellFormed.name_eq {a b : TreeEntry} (ha : a.WellFormed) (hb : b.WellFormed)
    (h : a.key = b.key) : a.name = b.name := by
  obtain ⟨_, name, _, _, _, hname, hdecode, _, hslash, _, _⟩ := ha.exists_bytes
  obtain ⟨_, other, _, _, _, hother, hdecode', _, hslash', _, _⟩ := hb.exists_bytes
  have hinj : Function.Injective (List.map UInt8.toNat) :=
    List.map_injective_iff.mpr fun x y hxy => UInt8.toNat_inj.mp hxy
  have hkeys := hinj h
  simp only [TreeEntry.sortKey, hname, hother, Option.map_some, Option.getD_some] at hkeys
  have hnames : name = other := by
    split_ifs at hkeys with hleft hright hright
    · exact List.append_cancel_right hkeys
    · exact absurd (hkeys ▸ List.mem_append_right name (List.mem_singleton.mpr rfl)) hslash'
    · exact absurd (hkeys ▸ List.mem_append_right other (List.mem_singleton.mpr rfl)) hslash
    · exact hkeys
  rw [← hdecode, ← hdecode', hnames]

theorem exists_sortKey (h : entry.WellFormed) :
    ∃ key, entry.sortKey = some key := by
  obtain ⟨_, name, _, _, _, hname, _⟩ := h.exists_bytes
  exact ⟨_, by rw [TreeEntry.sortKey, hname, Option.map_some]⟩

/-- Well-formed entries of distinct names are read back in git's order, whatever order they were
given in; a body that stands in that order is written again byte for byte. -/
theorem trees_round_trip :
    (∀ entries : List TreeEntry, (∀ e ∈ entries, e.WellFormed) →
      (entries.map TreeEntry.name).Nodup →
      ∃ body sorted, sorted.Perm entries ∧ sorted.Pairwise (fun a b => a.key < b.key) ∧
        parseTree body = .ok sorted ∧
        ∀ given : List TreeEntry, given.Perm entries → treeBody given = some body) ∧
    ∀ (body : List UInt8) (entries : List TreeEntry), parseTree body = .ok entries →
      entries.Pairwise (fun a b => a.key ≤ b.key) → treeBody entries = some body := by
  constructor
  · intro entries hwf hnames
    have hinj : ∀ a ∈ entries, ∀ b ∈ entries, a.key = b.key → a = b := fun a ha b hb heq =>
      List.inj_on_of_nodup_map hnames ha hb ((hwf a ha).name_eq (hwf b hb) heq)
    have hperm := List.perm_insertionSort (fun a b : TreeEntry => a.key ≤ b.key) entries
    have hsorted : (entries.insertionSort fun a b => a.key ≤ b.key).Pairwise
        fun a b => a.key ≤ b.key := pairwise_insertionSort_key entries
    have hwf' : ∀ e ∈ entries.insertionSort fun a b => a.key ≤ b.key, e.WellFormed :=
      fun e he => hwf e (hperm.mem_iff.mp he)
    obtain ⟨pieces, hpieces, hparse⟩ := parseEntries_flatten hwf'
    refine ⟨pieces.flatten, _, hperm, ?_, hparse _ (Nat.le_refl _), fun given hgiven => ?_⟩
    · have hdistinct := (hperm.nodup_iff.mpr (List.Nodup.of_map _ hnames))
      refine (hsorted.and hdistinct).imp_of_mem fun {a b} ha hb hab => ?_
      exact lt_of_le_of_ne hab.1 fun heq =>
        hab.2 (hinj a (hperm.mem_iff.mp ha) b (hperm.mem_iff.mp hb) heq)
    · have hsame : (entries.insertionSort fun a b => a.key ≤ b.key) =
          given.insertionSort fun a b => a.key ≤ b.key :=
        insertionSort_eq_of_perm hgiven.symm hinj
      rw [treeBody_eq fun e he => exists_sortKey (hwf e (hgiven.mem_iff.mp he)), ← hsame, hpieces]
      rfl
  · intro body entries hparse hsorted
    obtain ⟨pieces, hpieces, hflatten, hkeys⟩ :=
      flatten_of_parseEntries (Nat.le_refl _) hparse
    rw [treeBody_eq hkeys, hsorted.insertionSort_eq, hpieces, ← hflatten]
    rfl

/-- The code points of a text. -/
def points (text : String) : List ℕ := text.toList.map Char.toNat

/-- A hash with a blank and a NUL among its bytes. -/
def sampleSha : String := "00209bcdef0000000000000000000000000000ff"

/-- A file and a directory, given out of git's order: `b.txt` comes before `b/`. -/
def sampleEntries : List TreeEntry :=
  [⟨"40000", points "b", sampleSha⟩, ⟨"100644", points "b.txt", sampleSha⟩]

theorem sampleEntries_wellFormed : ∀ e ∈ sampleEntries, e.WellFormed := by
  intro e he
  have hname : ∃ bytes, Surrogates.decode bytes = e.name := by
    rcases List.mem_pair.mp he with rfl | rfl
    · exact ⟨[98], by decide⟩
    · exact ⟨[98, 46, 116, 120, 116], by decide⟩
  have hmode : e.mode.toList.all (fun c => c.toNat < 0x80 ∧ c ≠ ' ') = true := by
    rcases List.mem_pair.mp he with rfl | rfl <;> decide
  have hsha : e.sha = sampleSha ∧ sampleSha.toList.all (IsLowerHex ·) = true := by
    rcases List.mem_pair.mp he with rfl | rfl <;> decide
  simp only [List.all_eq_true, decide_eq_true_eq] at hmode hsha
  refine ⟨hmode, hname, ?_, ?_, by rw [hsha.1]; decide, by rw [hsha.1]; exact hsha.2⟩ <;>
    rcases List.mem_pair.mp he with rfl | rfl <;> decide

theorem sampleEntries_round_trip :
    (∃ body sorted, sorted.Perm sampleEntries ∧ sorted.Pairwise (fun a b => a.key < b.key) ∧
      parseTree body = .ok sorted ∧
      ∀ given : List TreeEntry, given.Perm sampleEntries → treeBody given = some body) ∧
    ∀ body, parseTree body = .ok sampleEntries.reverse →
      treeBody sampleEntries.reverse = some body :=
  ⟨trees_round_trip.1 sampleEntries sampleEntries_wellFormed (by decide), fun body hparse =>
    trees_round_trip.2 body sampleEntries.reverse hparse (by decide)⟩

/-- What is read of the body written. -/
def readBack (entries : List TreeEntry) : Option (List TreeEntry) :=
  (treeBody entries).bind fun body => (parseTree body).toOption

/-- Entries that are no tree's: a hash in capitals, a blank in the mode, a NUL in the name, two
lone surrogates that are one character's bytes, half a hash, and a path `b/` beside the
directory `b`, whose keys are the same. -/
theorem loose_entries_changed :
    readBack [⟨"100644", points "b", "00209BCDEF0000000000000000000000000000FF"⟩] =
      some [⟨"100644", points "b", sampleSha⟩] ∧
    readBack [⟨"100 644", points "b", sampleSha⟩] = some [⟨"100", points "644 b", sampleSha⟩] ∧
    readBack [⟨"100644", [98, 0, 98], sampleSha⟩] = none ∧
    readBack [⟨"100644", [0xdcc3, 0xdca9], sampleSha⟩] = some [⟨"100644", [0xe9], sampleSha⟩] ∧
    readBack [⟨"100644", points "b", "0020"⟩] = none ∧
    readBack [⟨"40000", points "b", sampleSha⟩, ⟨"100644", points "b/", sampleSha⟩] ≠
      readBack [⟨"100644", points "b/", sampleSha⟩, ⟨"40000", points "b", sampleSha⟩] := by
  decide +kernel

end ChatmanEcosystem.RootCrown
