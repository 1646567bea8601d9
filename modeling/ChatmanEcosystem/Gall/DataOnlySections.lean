import ChatmanEcosystem.Gall.LebNumbers
import ChatmanEcosystem.Gall.WasmRuntime

/-!
# Sections that carry no code

`ParsedModule::parse` (`crates/gall/src/lib.rs`, lines 878–982) cuts a module into
sections and looks into those that it knows. For the ids of line 957 it does
nothing, and then asks that the bytes of the section have been read.

Results:

* `parseAll_append`: whole sections are parsed one after the other.
* `wholeSections_of_parse`: every module that is accepted consists of whole sections.
* `insert_dataOnly_iff`: a section without code can be put between two sections of an
  accepted module exactly if it is empty.
-/

namespace ChatmanEcosystem.Gall

open Common Rust Reader

/-! ## Sections of a module -/

/-- The magic number and the version (line 879). -/
def magic : List UInt8 := [0x00, 0x61, 0x73, 0x6d, 0x01, 0x00, 0x00, 0x00]

/-- The ids of `0 | 4..=6 | 8 | 9 | 11..=12` (line 957). -/
def dataOnly (sectionId : UInt8) : Bool :=
  sectionId = 0 || (4 ≤ sectionId && sectionId ≤ 6) || sectionId = 8 || sectionId = 9 ||
    (11 ≤ sectionId && sectionId ≤ 12)

/-- The bytes are a number, the length of the content. -/
def WellFormedSize (size content : List UInt8) : Prop :=
  ∃ number, readLebU32 size = .ok (number, []) ∧ number.toNat = content.length

/-- The bytes of a section. -/
def sectionBytes (sectionId : UInt8) (size content : List UInt8) : List UInt8 :=
  sectionId :: (size ++ content)

/-- Bytes that can be cut into sections. -/
inductive WholeSections : List UInt8 → Prop
  | nil : WholeSections []
  | cons {sectionId : UInt8} {size content rest : List UInt8} (hsize : WellFormedSize size content)
    (hrest : WholeSections rest) : WholeSections (sectionBytes sectionId size content ++ rest)

/-- The loop over the sections, with a bound that is never met. -/
def parseAll (sections : Sections) (reader : Reader) : Except Refusal Sections :=
  parseSections reader.length sections reader

/-! ## One section -/

theorem readLebU32_append {size : List UInt8} {number : UInt32}
    (h : readLebU32 size = .ok (number, [])) (rest : Reader) :
    readLebU32 (size ++ rest) = .ok (number, rest) := by
  obtain ⟨consumed, hsize, hleb, hlength, hvalue⟩ := readLebU32_spec h
  rw [List.append_nil] at hsize
  subst hsize
  have hnumber : UInt32.ofNat (lebValue size) = number := by
    rw [← UInt32.toNat_inj, UInt32.toNat_ofNat', hvalue]
  rw [readLebU32_of_isLeb hleb hlength, hnumber]

theorem readExact_append (content rest : List UInt8) :
    readExact (content ++ rest) content.length = .ok (content, rest) := by
  unfold readExact
  rw [if_pos (by simp), List.take_left, List.drop_left]

/-- A section is read, must be used up, and the sections after it follow. -/
theorem parseAll_section {sectionId : UInt8} {size content : List UInt8}
    (hsize : WellFormedSize size content) (sections : Sections) (rest : Reader) :
    parseAll sections (sectionBytes sectionId size content ++ rest) = (do
      let (sections, section_) ← readSection sectionId sections content
      ensure (section_ = []) .malformedWasm
      parseAll sections rest) := by
  obtain ⟨number, hnumber, hlength⟩ := hsize
  have hread := readLebU32_append hnumber (content ++ rest)
  have hexact := readExact_append content rest
  have hfuel : ∀ sections, parseSections (size ++ content ++ rest).length sections rest =
      parseAll sections rest := by
    intro sections
    apply parseSections_fuel
    · simp only [List.length_append]
      omega
    · exact le_refl _
  have hbytes : sectionBytes sectionId size content ++ rest =
      sectionId :: (size ++ content ++ rest) := by
    simp [sectionBytes]
  have hloop : parseAll sections (sectionId :: (size ++ content ++ rest)) =
      parseSections ((size ++ content ++ rest).length + 1) sections
        (sectionId :: (size ++ content ++ rest)) := rfl
  rw [hbytes, hloop]
  unfold parseSections
  rw [List.append_assoc] at hfuel ⊢
  simp only [readU8, hread, hlength, hexact, hfuel, bind, Except.bind]

theorem parseAll_append {front : List UInt8} (hfront : WholeSections front) (sections : Sections)
    (back : Reader) : parseAll sections (front ++ back) = (do
      let sections ← parseAll sections front
      parseAll sections back) := by
  induction hfront generalizing sections with
  | nil => rfl
  | @cons sectionId size content rest hsize hrest ih =>
    rw [List.append_assoc, parseAll_section hsize, parseAll_section hsize]
    cases hread : readSection sectionId sections content with
    | error refusal => rfl
    | ok read =>
      obtain ⟨after, section_⟩ := read
      by_cases hleft : section_ = []
      · simp only [bind, Except.bind, ensure, hleft, if_true]
        exact ih after
      · simp only [bind, Except.bind, ensure, hleft, if_false]

/-! ## A section without code -/

theorem readSection_dataOnly {sectionId : UInt8} (h : dataOnly sectionId = true)
    (sections : Sections) (content : List UInt8) :
    readSection sectionId sections content = .ok (sections, content) := by
  simp only [dataOnly, Bool.or_eq_true, Bool.and_eq_true, decide_eq_true_eq,
    UInt8.le_iff_toNat_le, ← UInt8.toNat_inj, UInt8.reduceToNat] at h
  have hne : ∀ id : UInt8, id.toNat = 1 ∨ id.toNat = 2 ∨ id.toNat = 3 ∨ id.toNat = 7 ∨
      id.toNat = 10 → sectionId ≠ id := by
    intro id hid hsame
    rw [hsame] at h
    omega
  have hle : sectionId ≤ 12 := by
    rw [UInt8.le_iff_toNat_le]
    show sectionId.toNat ≤ 12
    omega
  unfold readSection
  rw [if_neg (hne 1 (by decide)), if_neg (hne 2 (by decide)), if_neg (hne 3 (by decide)),
    if_neg (hne 7 (by decide)), if_neg (hne 10 (by decide)), if_pos hle]

/-! ## Modules -/

/-- The variables before the loop (lines 883–887). -/
def noSections : Sections :=
  { imports := [], declaredFunctions := [], runFunctionIndex := none, bodies := [], typeCount := 0 }

/-- What `parse` makes of the sections (lines 967–981). -/
def finishModule (sections : Sections) : Except Refusal ParsedModule := do
  let runFunctionIndex ← okOr sections.runFunctionIndex .malformedWasm
  let importedCount := UInt32.ofNat sections.imports.length
  ensure (importedCount ≤ runFunctionIndex) .unsupportedWasm
  let bodyIndex := (runFunctionIndex - importedCount).toNat
  ensure (sections.declaredFunctions.length = sections.bodies.length) .malformedWasm
  let runBody ← okOr sections.bodies[bodyIndex]? .malformedWasm
  return { imports := sections.imports, runFunctionIndex, runBody }

theorem parse_eq (module : List UInt8) : ParsedModule.parse module = (do
    ensure (module.take 8 = magic) .malformedWasm
    let sections ← parseAll noSections (module.drop 8)
    finishModule sections) := rfl

theorem parse_magic (body : List UInt8) : ParsedModule.parse (magic ++ body) = (do
    let sections ← parseAll noSections body
    finishModule sections) := by
  rw [parse_eq]
  rfl

/-- What the loop accepts consists of whole sections. -/
theorem wholeSections_of_parseSections {fuel : ℕ} {sections after : Sections} {reader : Reader}
    (h : parseSections fuel sections reader = .ok after) : WholeSections reader := by
  induction fuel generalizing sections reader with
  | zero =>
    cases reader with
    | nil => exact .nil
    | cons sectionId reader => exact nomatch h
  | succ fuel ih =>
    cases reader with
    | nil => exact .nil
    | cons sectionId reader =>
      unfold parseSections at h
      simp only [readU8, bind_eq_ok, ensure_eq_ok, Prod.exists] at h
      obtain ⟨id, afterId, hid, number, afterSize, hsize, content, rest, hcontent, middle, left,
        -, -, -, hrest⟩ := h
      obtain ⟨rfl, rfl⟩ := Prod.mk.inj (Except.ok.inj hid)
      obtain ⟨size, rfl, hleb, hshort, hnumber⟩ := readLebU32_spec hsize
      have hread := readLebU32_of_isLeb hleb hshort []
      have hsame : UInt32.ofNat (lebValue size) = number := by
        rw [← UInt32.toNat_inj, UInt32.toNat_ofNat', hnumber]
      rw [List.append_nil, hsame] at hread
      unfold readExact at hcontent
      split_ifs at hcontent with hlength
      obtain ⟨rfl, rfl⟩ := Prod.mk.inj (Except.ok.inj hcontent)
      have hwell : WellFormedSize size (afterSize.take number.toNat) := by
        refine ⟨number, hread, ?_⟩
        rw [List.length_take]
        omega
      have hbytes : sectionId :: (size ++ afterSize) =
          sectionBytes sectionId size (afterSize.take number.toNat) ++
            afterSize.drop number.toNat := by
        simp [sectionBytes]
      rw [hbytes]
      exact .cons hwell (ih hrest)

theorem wholeSections_of_parse {module : List UInt8} {parsed : ParsedModule}
    (h : ParsedModule.parse module = .ok parsed) :
    ∃ body, module = magic ++ body ∧ WholeSections body := by
  rw [parse_eq] at h
  simp only [bind_eq_ok, ensure_eq_ok] at h
  obtain ⟨_, hmagic, sections, hsections, -⟩ := h
  refine ⟨module.drop 8, ?_, wholeSections_of_parseSections hsections⟩
  rw [← hmagic, List.take_append_drop]

theorem gallSkillModule_whole : ∃ body, gallSkillModule = magic ++ body ∧ WholeSections body :=
  wholeSections_of_parse gallSkillModule_parse

/-- Between two sections of an accepted module, a section that carries no code leaves what is
parsed as it is exactly if it is empty. -/
theorem insert_dataOnly_iff {front back size content : List UInt8} {sectionId : UInt8}
    {parsed : ParsedModule} (hfront : WholeSections front)
    (hparse : ParsedModule.parse (magic ++ (front ++ back)) = .ok parsed)
    (hid : dataOnly sectionId = true) (hsize : WellFormedSize size content) :
    ParsedModule.parse (magic ++ (front ++ (sectionBytes sectionId size content ++ back))) =
      .ok parsed ↔ content = [] := by
  rw [parse_magic, parseAll_append hfront] at hparse ⊢
  simp only [bind_eq_ok] at hparse
  obtain ⟨sections, ⟨middle, hmiddle, hback⟩, hfinish⟩ := hparse
  have hinserted : parseAll middle (sectionBytes sectionId size content ++ back) = (do
      ensure (content = []) .malformedWasm
      .ok sections) := by
    rw [parseAll_section hsize, readSection_dataOnly hid, ← hback]
    rfl
  have hmodule : (do
      let sections ← (do
        let sections ← parseAll noSections front
        parseAll sections (sectionBytes sectionId size content ++ back))
      finishModule sections) = (do
      ensure (content = []) .malformedWasm
      finishModule sections) := by
    rw [hmiddle]
    show (parseAll middle (sectionBytes sectionId size content ++ back) >>= finishModule) = _
    rw [hinserted, bind_assoc]
    rfl
  rw [hmodule, bind_eq_ok]
  constructor
  · intro ⟨_, hempty, _⟩
    exact ensure_eq_ok.mp hempty
  · intro hempty
    exact ⟨(), ensure_eq_ok.mpr hempty, hfinish⟩

/-- The type section of the skill of the crate. -/
def typeSection : List UInt8 := sectionBytes 0x01 [0x06] [0x01, 0x60, 0x01, 0x7f, 0x01, 0x7f]

theorem typeSection_whole : WholeSections typeSection :=
  have hsize : WellFormedSize [0x06] [0x01, 0x60, 0x01, 0x7f, 0x01, 0x7f] := ⟨6, rfl, rfl⟩
  .cons hsize .nil

/-- A custom section of one byte, with the empty name, behind the types of the skill. -/
theorem custom_section_refused :
    (ParsedModule.parse gallSkillModule).toOption.isSome = true ∧
      gallSkillModule = magic ++ (typeSection ++ gallSkillModule.drop 16) ∧
      ParsedModule.parse (magic ++ (typeSection ++ (sectionBytes 0x00 [0x01] [0x00] ++
        gallSkillModule.drop 16))) = .error .malformedWasm := by
  exact ⟨by rw [gallSkillModule_parse]; rfl, rfl, rfl⟩

/-- An empty custom section behind the types of the skill. -/
theorem empty_section_accepted :
    ParsedModule.parse (magic ++ (typeSection ++ (sectionBytes 0x00 [0x00] [] ++
      gallSkillModule.drop 16))) =
        .ok { imports := [{ module := "fabric", name := "actuate" }], runFunctionIndex := 1,
              runBody := [0x00, 0x20, 0x00, 0x10, 0x00, 0x0b] } :=
  (insert_dataOnly_iff typeSection_whole gallSkillModule_parse rfl ⟨0, rfl, rfl⟩).mpr rfl

end ChatmanEcosystem.Gall
