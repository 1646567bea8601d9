import ChatmanEcosystem.Gall.Policy
import ChatmanEcosystem.Rust.Result

/-!
# Reading a module of a skill

Model of `Reader` and `ParsedModule::parse` (`crates/gall/src/lib.rs`, lines
849–982 and 1081–1137). A reader is the bytes after its cursor.

The loop over the sections is bounded by the number of bytes: a section takes at
least one, so the bound is never met (`parseSections_fuel`).
-/

namespace ChatmanEcosystem.Gall

open Common Rust

/-! ## Model -/

/-- The bytes that a `Reader` has not read (lines 1081–1094). -/
abbrev Reader := List UInt8

namespace Reader

/-- `Reader::read_u8` (lines 1096–1100). -/
def readU8 : Reader → Except Refusal (UInt8 × Reader)
  | [] => .error .malformedWasm
  | value :: reader => .ok (value, reader)

/-- `Reader::read_exact` (lines 1102–1113). -/
def readExact (reader : Reader) (length : ℕ) : Except Refusal (List UInt8 × Reader) :=
  if length ≤ reader.length then .ok (reader.take length, reader.drop length)
  else .error .malformedWasm

/-- The loop of `read_leb_u32` (lines 1118–1125), for the bytes that may follow. -/
def readLebLoop : ℕ → UInt32 → UInt32 → Reader → Except Refusal (UInt32 × Reader)
  | 0, _, _, _ => .error .malformedWasm
  | bytes + 1, result, shift, reader =>
    match readU8 reader with
    | .error refusal => .error refusal
    | .ok (byte, reader) =>
      let result := result ||| ((byte &&& 0x7f).toUInt32 <<< shift)
      if byte &&& 0x80 = 0 then .ok (result, reader)
      else readLebLoop bytes result (shift + 7) reader

/-- `Reader::read_leb_u32` (lines 1115–1127). -/
def readLebU32 (reader : Reader) : Except Refusal (UInt32 × Reader) := readLebLoop 5 0 0 reader

/-- `Reader::read_name` (lines 1129–1135). -/
def readName (reader : Reader) : Except Refusal (String × Reader) := do
  let (length, reader) ← readLebU32 reader
  let (bytes, reader) ← readExact reader length.toNat
  let name ← okOr (String.fromUTF8? ⟨bytes.toArray⟩) .malformedWasm
  return (name, reader)

/-- A loop `for _ in 0..count` that reads. -/
def times {α : Type} (read : Reader → Except Refusal (α × Reader)) :
    ℕ → Reader → Except Refusal (List α × Reader)
  | 0, reader => .ok ([], reader)
  | count + 1, reader => do
    let (x, reader) ← read reader
    let (xs, reader) ← times read count reader
    return (x :: xs, reader)

end Reader

open Reader

/-- `struct WasmImport` (lines 850–853). -/
structure WasmImport where
  module : String
  name : String
  deriving DecidableEq

/-- `struct ParsedModule` (lines 871–875). -/
structure ParsedModule where
  imports : List WasmImport
  runFunctionIndex : UInt32
  runBody : List UInt8
  deriving DecidableEq

/-- The variables of the loop of `parse` (lines 883–887). -/
structure Sections where
  imports : List WasmImport
  declaredFunctions : List UInt32
  runFunctionIndex : Option UInt32
  bodies : List (List UInt8)
  typeCount : UInt32

/-- A function type of section 1 (lines 898–909). -/
def readType (section_ : Reader) : Except Refusal (Unit × Reader) := do
  let (form, section_) ← readU8 section_
  ensure (form = 0x60) .unsupportedWasm
  let (parameters, section_) ← readLebU32 section_
  ensure (parameters = 1) .unsupportedWasm
  let (parameter, section_) ← readU8 section_
  ensure (parameter = 0x7f) .unsupportedWasm
  let (results, section_) ← readLebU32 section_
  ensure (results = 1) .unsupportedWasm
  let (result, section_) ← readU8 section_
  ensure (result = 0x7f) .unsupportedWasm
  return ((), section_)

/-- An import of section 2 (lines 914–924). -/
def readImport (typeCount : UInt32) (section_ : Reader) : Except Refusal (WasmImport × Reader) := do
  let (module, section_) ← readName section_
  let (name, section_) ← readName section_
  let (kind, section_) ← readU8 section_
  ensure (kind = 0) .unsupportedWasm
  let (typeIndex, section_) ← readLebU32 section_
  ensure (typeIndex < typeCount) .malformedWasm
  return ({ module, name }, section_)

/-- A function of section 3 (lines 930–934). -/
def readFunction (typeCount : UInt32) (section_ : Reader) : Except Refusal (UInt32 × Reader) := do
  let (typeIndex, section_) ← readLebU32 section_
  ensure (typeIndex < typeCount) .malformedWasm
  return (typeIndex, section_)

/-- An export of section 7, with the index if it is `run` (lines 940–948). -/
def readExport (section_ : Reader) : Except Refusal (Option UInt32 × Reader) := do
  let (name, section_) ← readName section_
  let (kind, section_) ← readU8 section_
  let (index, section_) ← readLebU32 section_
  if name = "run" then
    ensure (kind = 0) .unsupportedWasm
    return (some index, section_)
  else return (none, section_)

/-- A body of section 10 (lines 954–955). -/
def readBody (section_ : Reader) : Except Refusal (List UInt8 × Reader) := do
  let (size, section_) ← readLebU32 section_
  readExact section_ size.toNat

/-- The match on the id of a section (lines 894–961). -/
def readSection (sectionId : UInt8) (sections : Sections) (section_ : Reader) :
    Except Refusal (Sections × Reader) :=
  if sectionId = 1 then do
    let (typeCount, section_) ← readLebU32 section_
    let (_, section_) ← times readType typeCount.toNat section_
    return ({ sections with typeCount }, section_)
  else if sectionId = 2 then do
    let (count, section_) ← readLebU32 section_
    let (imports, section_) ← times (readImport sections.typeCount) count.toNat section_
    return ({ sections with imports := sections.imports ++ imports }, section_)
  else if sectionId = 3 then do
    let (count, section_) ← readLebU32 section_
    let (functions, section_) ← times (readFunction sections.typeCount) count.toNat section_
    return ({ sections with declaredFunctions := sections.declaredFunctions ++ functions },
      section_)
  else if sectionId = 7 then do
    let (count, section_) ← readLebU32 section_
    let (exports, section_) ← times readExport count.toNat section_
    let runFunctionIndex := exports.foldl (fun index found => found.or index)
      sections.runFunctionIndex
    return ({ sections with runFunctionIndex }, section_)
  else if sectionId = 10 then do
    let (count, section_) ← readLebU32 section_
    let (bodies, section_) ← times readBody count.toNat section_
    return ({ sections with bodies := sections.bodies ++ bodies }, section_)
  else if sectionId ≤ 12 then .ok (sections, section_)
  else .error .unsupportedWasm

/-- The loop over the sections (lines 889–965). -/
def parseSections : ℕ → Sections → Reader → Except Refusal Sections
  | _, sections, [] => .ok sections
  | 0, _, _ :: _ => .error .malformedWasm
  | fuel + 1, sections, reader => do
    let (sectionId, reader) ← readU8 reader
    let (sectionSize, reader) ← readLebU32 reader
    let (sectionBytes, reader) ← readExact reader sectionSize.toNat
    let (sections, section_) ← readSection sectionId sections sectionBytes
    ensure (section_ = []) .malformedWasm
    parseSections fuel sections reader

/-- `ParsedModule::parse` (lines 878–982). -/
def ParsedModule.parse (module : List UInt8) : Except Refusal ParsedModule := do
  ensure (module.take 8 = [0x00, 0x61, 0x73, 0x6d, 0x01, 0x00, 0x00, 0x00]) .malformedWasm
  let reader := module.drop 8
  let sections ← parseSections reader.length
    { imports := [], declaredFunctions := [], runFunctionIndex := none, bodies := [],
      typeCount := 0 } reader
  let runFunctionIndex ← okOr sections.runFunctionIndex .malformedWasm
  let importedCount := UInt32.ofNat sections.imports.length
  ensure (importedCount ≤ runFunctionIndex) .unsupportedWasm
  let bodyIndex := (runFunctionIndex - importedCount).toNat
  ensure (sections.declaredFunctions.length = sections.bodies.length) .malformedWasm
  let runBody ← okOr sections.bodies[bodyIndex]? .malformedWasm
  return { imports := sections.imports, runFunctionIndex, runBody }

/-! ## The bound of the loop -/

variable {bytes : ℕ} {result shift : UInt32} {reader rest : Reader}

theorem length_readLebLoop {value : UInt32}
    (h : readLebLoop bytes result shift reader = .ok (value, rest)) :
    rest.length < reader.length := by
  induction bytes generalizing result shift reader with
  | zero => simp [readLebLoop] at h
  | succ bytes ih =>
    cases reader with
    | nil => simp [readLebLoop, readU8] at h
    | cons byte reader =>
      unfold readLebLoop at h
      simp only [readU8] at h
      split_ifs at h with hlast
      · obtain ⟨-, rfl⟩ := Prod.mk.inj (Except.ok.inj h)
        exact Nat.lt_succ_self _
      · exact Nat.lt_succ_of_lt (ih h)

/-- A number that is cut off is the one failure of the reader. -/
theorem readLebLoop_error {refusal : Refusal}
    (h : readLebLoop bytes result shift reader = .error refusal) : refusal = .malformedWasm := by
  induction bytes generalizing result shift reader with
  | zero => exact (Except.error.inj h).symm
  | succ bytes ih =>
    cases reader with
    | nil => exact (Except.error.inj h).symm
    | cons byte reader =>
      unfold readLebLoop at h
      simp only [readU8] at h
      split_ifs at h with hlast
      exact ih h

theorem length_readExact {length : ℕ} {bytes : List UInt8}
    (h : readExact reader length = .ok (bytes, rest)) : rest.length ≤ reader.length := by
  unfold readExact at h
  split_ifs at h with hlength
  obtain ⟨-, rfl⟩ := Prod.mk.inj (Except.ok.inj h)
  rw [List.length_drop]
  exact Nat.sub_le _ _

/-- Any bound that is as great as the number of bytes gives the same sections. -/
theorem parseSections_fuel {fuel fuel' : ℕ} {sections : Sections} (h : reader.length ≤ fuel)
    (h' : reader.length ≤ fuel') :
    parseSections fuel sections reader = parseSections fuel' sections reader := by
  induction fuel generalizing fuel' sections reader with
  | zero =>
    obtain rfl : reader = [] := List.length_eq_zero_iff.mp (Nat.le_zero.mp h)
    simp [parseSections]
  | succ fuel ih =>
    cases reader with
    | nil => simp [parseSections]
    | cons sectionId reader =>
      cases fuel' with
      | zero => simp at h'
      | succ fuel' =>
        rw [List.length_cons] at h h'
        simp only [parseSections, readU8]
        cases hsize : readLebU32 reader with
        | error refusal => simp [bind, Except.bind, hsize]
        | ok size =>
          obtain ⟨sectionSize, afterSize⟩ := size
          have hafterSize := length_readLebLoop hsize
          cases hbytes : readExact afterSize sectionSize.toNat with
          | error refusal => simp [bind, Except.bind, hsize, hbytes]
          | ok bytes =>
            obtain ⟨sectionBytes, afterBytes⟩ := bytes
            have hafterBytes := length_readExact hbytes
            have hrest : ∀ sections, parseSections fuel sections afterBytes =
                parseSections fuel' sections afterBytes :=
              fun sections => ih (by omega) (by omega)
            simp only [bind, Except.bind, hsize, hbytes, hrest]

end ChatmanEcosystem.Gall
