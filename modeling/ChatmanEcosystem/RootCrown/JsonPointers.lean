import ChatmanEcosystem.Js.Runtime
import ChatmanEcosystem.RootCrown.Staging

/-!
# Pointers into a document

Model of `_escape`, `walk_strings` and `pointer_get`
(`scripts/durable_locator/durable_locator.py`, lines 235–268). A place of a document is
the keys and indices that lead to it; its pointer is their text.

Results:

* `pointerGet_render`: a pointer is read back at every place of a document.
* `walkPointers_eq`: what `walk_strings` yields, place by place.
* `walk_lossless`: every string once, each with a pointer of its own that gives it back.
-/

namespace ChatmanEcosystem.RootCrown

open Common Py

/-! ## Pointers -/

/-- `_escape` (lines 235–236). -/
def escapeKey (key : String) : String := String.ofList (escape '~' '/' '0' '1' key.toList)

/-- A part of a pointer as a key (line 266). -/
def unescapeKey (raw : List Char) : String := String.ofList (unescape '~' '/' '0' '1' raw)

mutual

/-- `walk_strings` (lines 239–247). -/
def walkPointers (pointer : String) : Value → List (String × String)
  | .dict items => walkPointerMembers pointer items
  | .list items => walkPointerItems pointer 0 items
  | .str text => [(pointer, text)]
  | _ => []

def walkPointerItems (pointer : String) (i : ℕ) : List Value → List (String × String)
  | [] => []
  | item :: items =>
    walkPointers (pointer ++ ("/" ++ i.repr)) item ++ walkPointerItems pointer (i + 1) items

def walkPointerMembers (pointer : String) : List (String × Value) → List (String × String)
  | [] => []
  | (key, value) :: items =>
    walkPointers (pointer ++ ("/" ++ escapeKey key)) value ++ walkPointerMembers pointer items

end

/-- The value of a decimal digit. -/
def digitValue (py : PyRuntime) (c : Char) : Option ℕ :=
  if c.isDigit then some (c.toNat - '0'.toNat) else py.digit c

local instance lawfulDigits : LawfulBEq (List Char) := inferInstance

/-- The number that digits stand for, in groups with an underscore between two of them. -/
def digitsValue (py : PyRuntime) (digits : List Char) : Option ℕ :=
  let groups := digits.splitOn '_'
  if [] ∈ groups then none
  else (groups.flatten.mapM (digitValue py)).map fun values =>
    values.foldl (fun number value => 10 * number + value) 0

/-- `int(text)`. -/
def intOf (py : PyRuntime) (text : String) : Option ℤ :=
  match strip text.toList with
  | '-' :: digits => (digitsValue py digits).map fun n => -(n : ℤ)
  | '+' :: digits => (digitsValue py digits).map (↑)
  | digits => (digitsValue py digits).map (↑)

/-- `items[i]`. -/
def itemAt (items : List Value) (i : ℤ) : Option Value :=
  if 0 ≤ i then items[i.toNat]?
  else if -(items.length : ℤ) ≤ i then items[(items.length + i).toNat]? else none

/-- `cur[int(key)] if isinstance(cur, list) else cur[key]` (line 267), `none` where it raises. -/
def pointerStep (py : PyRuntime) (current : Value) (key : String) : Option Value :=
  match current with
  | .list items => (intOf py key).bind (itemAt items)
  | .dict items => items.lookup key
  | _ => none

/-- `pointer_get` (lines 263–268), `none` where it raises. -/
def pointerGet (py : PyRuntime) (document : Value) (pointer : String) : Option Value :=
  (pointer.toList.splitOn '/').tail.foldlM (fun current raw =>
    pointerStep py current (unescapeKey raw)) document

/-! ## Places -/

/-- What leads from a value to one in it. -/
inductive PlaceStep
  | key (name : String)
  | index (i : ℕ)
  deriving DecidableEq

/-- The value that a step leads to. -/
def childAt : Value → PlaceStep → Option Value
  | .dict items, .key name => items.lookup name
  | .list items, .index i => items[i]?
  | _, _ => none

/-- The value at a place. -/
def valueAt (document : Value) (steps : List PlaceStep) : Option Value :=
  steps.foldlM childAt document

/-- The text of a step. -/
def PlaceStep.text : PlaceStep → String
  | key name => escapeKey name
  | index i => i.repr

/-- The pointer to a place. -/
def render (steps : List PlaceStep) : String :=
  String.ofList (steps.flatMap fun step => '/' :: step.text.toList)

mutual

/-- The keys of every dictionary differ. -/
def KeysDiffer : Value → Prop
  | .dict items => (items.map Prod.fst).Nodup ∧ MembersDiffer items
  | .list items => ItemsDiffer items
  | _ => True

def ItemsDiffer : List Value → Prop
  | [] => True
  | item :: items => KeysDiffer item ∧ ItemsDiffer items

def MembersDiffer : List (String × Value) → Prop
  | [] => True
  | (_, value) :: items => KeysDiffer value ∧ MembersDiffer items

end

/-- A document as `json.loads` gives it: the keys of a dictionary differ. -/
structure Document where
  value : Value
  keysDiffer : KeysDiffer value

mutual

/-- The places of the strings, in the order of the document. -/
def stringPlaces : Value → List (List PlaceStep × String)
  | .dict items => memberPlaces items
  | .list items => itemPlaces 0 items
  | .str text => [([], text)]
  | _ => []

def itemPlaces (i : ℕ) : List Value → List (List PlaceStep × String)
  | [] => []
  | item :: items =>
    (stringPlaces item).map (fun place => (.index i :: place.1, place.2)) ++
      itemPlaces (i + 1) items

def memberPlaces : List (String × Value) → List (List PlaceStep × String)
  | [] => []
  | (key, value) :: items =>
    (stringPlaces value).map (fun place => (.key key :: place.1, place.2)) ++ memberPlaces items

end

/-! ## Texts of steps -/

theorem reserved_pointer : Reserved '~' '/' '0' '1' := by
  constructor <;> decide

@[simp] theorem unescapeKey_escapeKey (key : String) :
    unescapeKey (escapeKey key).toList = key := by
  rw [unescapeKey, escapeKey, String.toList_ofList, unescape_escape reserved_pointer,
    String.ofList_toList]

/-- Digits are neither separators nor escapes. -/
theorem ne_of_isDigit {c d : Char} (hc : c.isDigit = true) (hd : d.isDigit = false) : c ≠ d := by
  rintro rfl
  rw [hc] at hd
  cases hd

theorem notMem_text (step : PlaceStep) : '/' ∉ step.text.toList := by
  cases step with
  | key name =>
    rw [PlaceStep.text, escapeKey, String.toList_ofList]
    exact separator_notMem_escape reserved_pointer _
  | index i => exact fun hmem => ne_of_isDigit (Js.isDigit_of_mem_repr hmem) (by decide) rfl

/-- The parts of a pointer are the texts of its steps. -/
theorem splitOn_render (steps : List PlaceStep) : (render steps).toList.splitOn '/' =
    [] :: steps.map (·.text.toList) := by
  have hjoin : steps.flatMap (fun step => '/' :: step.text.toList) =
      (steps.map (·.text.toList)).flatMap ('/' :: ·) := by
    rw [List.flatMap_map]
  rw [render, String.toList_ofList, hjoin]
  refine splitOn_flatMap_cons fun segment hsegment => ?_
  obtain ⟨step, -, rfl⟩ := List.mem_map.mp hsegment
  exact notMem_text step

theorem toNat_of_isDigit {c : Char} (h : c.isDigit = true) : 48 ≤ c.toNat ∧ c.toNat ≤ 57 := by
  rw [Char.isDigit, Bool.and_eq_true, decide_eq_true_iff, decide_eq_true_iff] at h
  exact ⟨UInt32.le_iff_toNat_le.mp h.1, UInt32.le_iff_toNat_le.mp h.2⟩

theorem isSpace_of_isDigit {c : Char} (h : c.isDigit = true) : isSpace c = false := by
  have hc := toNat_of_isDigit h
  simp only [isSpace, Bool.or_eq_false_iff, Bool.and_eq_false_iff, decide_eq_false_iff_not]
  omega

/-- Digits stand for their decimal number. -/
theorem digitsValue_of_isDigit {py : PyRuntime} {digits : List Char}
    (h : ∀ c ∈ digits, c.isDigit = true) (hne : digits ≠ []) :
    digitsValue py digits = some (Nat.ofDigitChars 10 digits 0) := by
  have hgroups : digits.splitOn '_' = [digits] :=
    List.splitOn_eq_singleton fun hmem => ne_of_isDigit (h _ hmem) (by decide) rfl
  have hvalues : digits.mapM (digitValue py) = some (digits.map fun c => c.toNat - '0'.toNat) := by
    clear hne hgroups
    induction digits with
    | nil => rfl
    | cons c digits ih =>
      obtain ⟨hc, hdigits⟩ := List.forall_mem_cons.mp h
      rw [List.mapM_cons, ih hdigits, digitValue, if_pos hc]
      rfl
  rw [digitsValue, hgroups, if_neg (by simpa using hne.symm), List.flatten_singleton, hvalues,
    Option.map_some, List.foldl_map, Nat.ofDigitChars_eq_foldl]

/-- `int(str(i))` is `i`. -/
theorem intOf_repr (py : PyRuntime) (i : ℕ) : intOf py i.repr = some (i : ℤ) := by
  have hdigits : ∀ c ∈ i.repr.toList, c.isDigit = true := fun c hc => Js.isDigit_of_mem_repr hc
  have hne : i.repr.toList ≠ [] := by
    rw [Nat.toList_repr]
    exact Nat.toDigits_ne_nil
  have hvalue : digitsValue py i.repr.toList = some i := by
    rw [digitsValue_of_isDigit hdigits hne, Nat.toList_repr,
      Nat.ofDigitChars_toDigits (by decide) (by decide)]
  have hstrip : strip i.repr.toList = i.repr.toList := by
    refine strip_eq_self ?_ ?_
    · cases hhead : i.repr.toList.head? with
      | none => rfl
      | some c => exact isSpace_of_isDigit (hdigits c (List.mem_of_mem_head? hhead))
    · cases hlast : i.repr.toList.getLast? with
      | none => rfl
      | some c => exact isSpace_of_isDigit (hdigits c (List.mem_of_getLast? hlast))
  rw [intOf, hstrip]
  obtain ⟨c, digits, hcons⟩ := List.exists_cons_of_ne_nil hne
  have hc := hdigits c (by rw [hcons]; exact List.mem_cons_self)
  rw [hcons] at hvalue ⊢
  have hminus : c ≠ '-' := ne_of_isDigit hc (by decide)
  have hplus : c ≠ '+' := ne_of_isDigit hc (by decide)
  split
  · next heq => exact absurd (List.cons.inj heq).1 hminus
  · next heq => exact absurd (List.cons.inj heq).1 hplus
  · rw [hvalue]
    rfl

theorem unescapeKey_repr (i : ℕ) : unescapeKey i.repr.toList = i.repr := by
  have hesc : '~' ∉ i.repr.toList := fun hmem =>
    ne_of_isDigit (Js.isDigit_of_mem_repr hmem) (by decide) rfl
  rw [unescapeKey, unescape, replacePair_of_notMem hesc, replacePair_of_notMem hesc,
    String.ofList_toList]

/-! ## A pointer is read back -/

/-- The text of a step leads where the step does. -/
theorem pointerStep_text (py : PyRuntime) {current child : Value} {step : PlaceStep}
    (h : childAt current step = some child) :
    pointerStep py current (unescapeKey step.text.toList) = some child := by
  cases step with
  | key name =>
    cases current with
    | dict items =>
      rw [PlaceStep.text, unescapeKey_escapeKey]
      exact h
    | null | bool | int | float | str | list | date => cases h
  | index i =>
    cases current with
    | list items =>
      rw [PlaceStep.text, unescapeKey_repr]
      show (intOf py i.repr).bind (itemAt items) = _
      rw [intOf_repr, Option.bind_some, itemAt, if_pos (Int.natCast_nonneg i), Int.toNat_natCast]
      exact h
    | null | bool | int | float | str | dict | date => cases h

variable {document value : Value} {steps : List PlaceStep}

/-- A pointer is read back at every place of a document. -/
theorem pointerGet_render (py : PyRuntime) (h : valueAt document steps = some value) :
    pointerGet py document (render steps) = some value := by
  rw [pointerGet, splitOn_render, List.tail_cons]
  induction steps generalizing document with
  | nil => exact h
  | cons step steps ih =>
    rw [valueAt, List.foldlM_cons] at h
    obtain ⟨child, hchild, hrest⟩ := Option.bind_eq_some_iff.mp h
    rw [List.map_cons, List.foldlM_cons, pointerStep_text py hchild]
    exact ih hrest

/-- Different places of a document have different pointers. -/
theorem render_inj {other : Value} {places : List PlaceStep}
    (h : valueAt document steps = some value) (hother : valueAt document places = some other)
    (hrender : render steps = render places) : steps = places := by
  have htexts : steps.map (·.text.toList) = places.map (·.text.toList) := by
    have hsplit := congrArg (fun pointer => (pointer.toList.splitOn '/').tail) hrender
    simpa only [splitOn_render, List.tail_cons] using hsplit
  clear hrender
  induction steps generalizing document places with
  | nil =>
    cases places with
    | nil => rfl
    | cons place places => cases htexts
  | cons step steps ih =>
    cases places with
    | nil => cases htexts
    | cons place places =>
      obtain ⟨htext, htexts⟩ := List.cons.inj htexts
      rw [valueAt, List.foldlM_cons] at h hother
      obtain ⟨child, hchild, hrest⟩ := Option.bind_eq_some_iff.mp h
      obtain ⟨child', hchild', hrest'⟩ := Option.bind_eq_some_iff.mp hother
      -- both steps are keys of a dictionary, or both are indices of a list
      have hstep : step = place := by
        have htext := String.toList_inj.mp htext
        cases document with
        | dict items =>
          cases step with
          | index => cases hchild
          | key name =>
            cases place with
            | index => cases hchild'
            | key name' =>
              have hname := congrArg (fun text : String => unescapeKey text.toList) htext
              simp only [PlaceStep.text, unescapeKey_escapeKey] at hname
              rw [hname]
        | list items =>
          cases step with
          | key => cases hchild
          | index i =>
            cases place with
            | key => cases hchild'
            | index i' => rw [Js.repr_inj htext]
        | null | bool | int | float | str | date => cases step <;> cases hchild
      rw [hstep] at hchild
      obtain rfl := Option.some.inj (hchild.symm.trans hchild')
      rw [hstep, ih hrest hrest' htexts]

/-! ## What is walked -/

theorem render_cons (step : PlaceStep) (steps : List PlaceStep) :
    render (step :: steps) = "/" ++ step.text ++ render steps := by
  apply String.toList_inj.mp
  simp [render]

mutual

/-- `walk_strings` yields the strings with their pointers, place by place. -/
theorem walkPointers_eq (pointer : String) : ∀ value : Value, walkPointers pointer value =
    (stringPlaces value).map fun place => (pointer ++ render place.1, place.2)
  | .dict items => walkPointerMembers_eq pointer items
  | .list items => walkPointerItems_eq pointer 0 items
  | .str text => by
    rw [walkPointers, stringPlaces]
    simp [render]
  | .null | .bool _ | .int _ | .float _ | .date _ => rfl

theorem walkPointerItems_eq (pointer : String) (i : ℕ) : ∀ items : List Value,
    walkPointerItems pointer i items =
      (itemPlaces i items).map fun place => (pointer ++ render place.1, place.2)
  | [] => rfl
  | item :: items => by
    rw [walkPointerItems, itemPlaces, List.map_append, List.map_map, walkPointers_eq _ item,
      walkPointerItems_eq pointer (i + 1) items]
    congr 1
    refine List.map_congr_left fun place _ => ?_
    rw [Function.comp_apply, render_cons, String.append_assoc]
    rfl

theorem walkPointerMembers_eq (pointer : String) : ∀ items : List (String × Value),
    walkPointerMembers pointer items =
      (memberPlaces items).map fun place => (pointer ++ render place.1, place.2)
  | [] => rfl
  | (key, value) :: items => by
    rw [walkPointerMembers, memberPlaces, List.map_append, List.map_map, walkPointers_eq _ value,
      walkPointerMembers_eq pointer items]
    congr 1
    refine List.map_congr_left fun place _ => ?_
    rw [Function.comp_apply, render_cons, String.append_assoc]
    rfl

end

mutual

/-- Without the pointers, these are the strings that are staged from a document. -/
theorem map_snd_walkPointers (pointer : String) : ∀ value : Value,
    (walkPointers pointer value).map Prod.snd = walkStrings value
  | .dict items => map_snd_walkPointerMembers pointer items
  | .list items => map_snd_walkPointerItems pointer 0 items
  | .str _ | .null | .bool _ | .int _ | .float _ | .date _ => rfl

theorem map_snd_walkPointerItems (pointer : String) (i : ℕ) : ∀ items : List Value,
    (walkPointerItems pointer i items).map Prod.snd = walkItems items
  | [] => rfl
  | item :: items => by
    rw [walkPointerItems, List.map_append, map_snd_walkPointers _ item,
      map_snd_walkPointerItems pointer (i + 1) items, walkItems]

theorem map_snd_walkPointerMembers (pointer : String) : ∀ items : List (String × Value),
    (walkPointerMembers pointer items).map Prod.snd = walkMembers items
  | [] => rfl
  | (_, value) :: items => by
    rw [walkPointerMembers, List.map_append, map_snd_walkPointers _ value,
      map_snd_walkPointerMembers pointer items, walkMembers]

end

variable {items : List Value} {place : List PlaceStep × String}

/-- The places of the items of a list begin with an index. -/
theorem exists_index_of_mem {i : ℕ} :
    place ∈ itemPlaces i items ↔ ∃ j item rest, place.1 = .index (i + j) :: rest ∧
      items[j]? = some item ∧ (rest, place.2) ∈ stringPlaces item := by
  induction items generalizing i with
  | nil => simp [itemPlaces]
  | cons item items ih =>
    rw [itemPlaces, List.mem_append, List.mem_map, ih]
    constructor
    · rintro (⟨⟨rest, text⟩, hmem, rfl⟩ | ⟨j, found, rest, hplace, hfound, hmem⟩)
      · exact ⟨0, item, rest, rfl, rfl, hmem⟩
      · exact ⟨j + 1, found, rest, by rw [hplace, Nat.add_assoc, Nat.add_comm 1], hfound, hmem⟩
    · rintro ⟨j, found, rest, hplace, hfound, hmem⟩
      cases j with
      | zero =>
        obtain rfl := Option.some.inj hfound
        exact .inl ⟨(rest, place.2), hmem, Prod.ext hplace.symm rfl⟩
      | succ j =>
        exact .inr ⟨j, found, rest, by rw [hplace, Nat.add_assoc, Nat.add_comm 1], hfound, hmem⟩

/-- The places of the members of a dictionary begin with their keys. -/
theorem exists_key_of_mem {items : List (String × Value)} :
    place ∈ memberPlaces items ↔ ∃ key value rest, place.1 = .key key :: rest ∧
      (key, value) ∈ items ∧ (rest, place.2) ∈ stringPlaces value := by
  induction items with
  | nil => simp [memberPlaces]
  | cons item items ih =>
    obtain ⟨name, member⟩ := item
    rw [memberPlaces, List.mem_append, List.mem_map, ih]
    constructor
    · rintro (⟨⟨rest, text⟩, hmem, rfl⟩ | ⟨key, value, rest, hplace, hfound, hmem⟩)
      · exact ⟨name, member, rest, rfl, List.mem_cons_self, hmem⟩
      · exact ⟨key, value, rest, hplace, List.mem_cons_of_mem _ hfound, hmem⟩
    · rintro ⟨key, value, rest, hplace, hfound, hmem⟩
      rcases List.mem_cons.mp hfound with heq | hfound
      · obtain ⟨rfl, rfl⟩ := Prod.mk.inj heq
        exact .inl ⟨(rest, place.2), hmem, Prod.ext hplace.symm rfl⟩
      · exact .inr ⟨key, value, rest, hplace, hfound, hmem⟩

theorem ItemsDiffer.mem (h : ItemsDiffer items) :
    ∀ item ∈ items, KeysDiffer item := by
  induction items with
  | nil => exact fun _ hmem => absurd hmem List.not_mem_nil
  | cons item items ih => exact List.forall_mem_cons.mpr ⟨h.1, ih h.2⟩

theorem MembersDiffer.mem {items : List (String × Value)} (h : MembersDiffer items) :
    ∀ item ∈ items, KeysDiffer item.2 := by
  induction items with
  | nil => exact fun _ hmem => absurd hmem List.not_mem_nil
  | cons item items ih => exact List.forall_mem_cons.mpr ⟨h.1, ih h.2⟩

/-- The places of the strings are where the document has them. -/
theorem mem_stringPlaces (h : KeysDiffer value) {text : String} :
    (steps, text) ∈ stringPlaces value ↔ valueAt value steps = some (.str text) := by
  induction steps generalizing value with
  | nil =>
    cases value with
    | str found => simp [stringPlaces, valueAt, eq_comm]
    | dict items =>
      rw [stringPlaces, exists_key_of_mem]
      simp [valueAt]
    | list items =>
      rw [stringPlaces, exists_index_of_mem]
      simp [valueAt]
    | null | bool | int | float | date => simp [stringPlaces, valueAt]
  | cons step steps ih =>
    rw [valueAt, List.foldlM_cons]
    show _ ↔ (childAt value step).bind (valueAt · steps) = _
    cases value with
    | dict items =>
      rw [stringPlaces, exists_key_of_mem]
      cases step with
      | index i => simp [childAt]
      | key name =>
        have hlookup : ∀ value, items.lookup name = some value ↔ (name, value) ∈ items :=
          fun value => lookup_eq_some_iff h.1
        simp only [List.cons.injEq, PlaceStep.key.injEq, childAt, Option.bind_eq_some_iff, hlookup]
        constructor
        · rintro ⟨key, value, rest, ⟨rfl, rfl⟩, hmem, hplace⟩
          exact ⟨value, hmem, (ih (h.2.mem _ hmem)).mp hplace⟩
        · rintro ⟨value, hmem, hvalue⟩
          exact ⟨name, value, steps, ⟨rfl, rfl⟩, hmem, (ih (h.2.mem _ hmem)).mpr hvalue⟩
    | list items =>
      rw [stringPlaces, exists_index_of_mem]
      cases step with
      | key name => simp [childAt]
      | index i =>
        simp only [List.cons.injEq, PlaceStep.index.injEq, childAt, Option.bind_eq_some_iff,
          Nat.zero_add]
        constructor
        · rintro ⟨j, item, rest, ⟨rfl, rfl⟩, hitem, hplace⟩
          exact ⟨item, hitem, (ih (h.mem _ (List.mem_of_getElem? hitem))).mp hplace⟩
        · rintro ⟨item, hitem, hvalue⟩
          exact ⟨i, item, steps, ⟨rfl, rfl⟩, hitem,
            (ih (h.mem _ (List.mem_of_getElem? hitem))).mpr hvalue⟩
    | null | bool | int | float | str | date => simp [stringPlaces, childAt]

mutual

/-- No place comes twice. -/
theorem nodup_stringPlaces : ∀ value : Value, KeysDiffer value →
    ((stringPlaces value).map Prod.fst).Nodup
  | .dict items, h => nodup_memberPlaces items h.1 h.2
  | .list items, h => nodup_itemPlaces 0 items h
  | .str _, _ => List.nodup_singleton _
  | .null, _ | .bool _, _ | .int _, _ | .float _, _ | .date _, _ => List.nodup_nil

theorem nodup_itemPlaces (i : ℕ) : ∀ items : List Value, ItemsDiffer items →
    ((itemPlaces i items).map Prod.fst).Nodup
  | [], _ => List.nodup_nil
  | item :: items, h => by
    rw [itemPlaces, List.map_append, List.map_map]
    have hfirst : ((stringPlaces item).map (Prod.fst ∘ fun place =>
        (PlaceStep.index i :: place.1, place.2))).Nodup := by
      have hcons : Function.Injective (PlaceStep.index i :: ·) := List.cons_injective
      have hmap := (nodup_stringPlaces item h.1).map hcons
      rw [List.map_map] at hmap
      exact hmap
    refine hfirst.append (nodup_itemPlaces (i + 1) items h.2) fun steps hmem hmem' => ?_
    obtain ⟨place, -, rfl⟩ := List.mem_map.mp hmem
    obtain ⟨place', hplace', heq⟩ := List.mem_map.mp hmem'
    obtain ⟨j, _, rest, hindex, -⟩ := exists_index_of_mem.mp hplace'
    rw [hindex] at heq
    have hsame := PlaceStep.index.inj (List.cons.inj heq).1
    omega

theorem nodup_memberPlaces : ∀ items : List (String × Value), (items.map Prod.fst).Nodup →
    MembersDiffer items → ((memberPlaces items).map Prod.fst).Nodup
  | [], _, _ => List.nodup_nil
  | (key, value) :: items, hkeys, h => by
    obtain ⟨hkey, hkeys⟩ := List.nodup_cons.mp hkeys
    rw [memberPlaces, List.map_append, List.map_map]
    have hfirst : ((stringPlaces value).map (Prod.fst ∘ fun place =>
        (PlaceStep.key key :: place.1, place.2))).Nodup := by
      have hcons : Function.Injective (PlaceStep.key key :: ·) := List.cons_injective
      have hmap := (nodup_stringPlaces value h.1).map hcons
      rw [List.map_map] at hmap
      exact hmap
    refine hfirst.append (nodup_memberPlaces items hkeys h.2) fun steps hmem hmem' => ?_
    obtain ⟨place, -, rfl⟩ := List.mem_map.mp hmem
    obtain ⟨place', hplace', heq⟩ := List.mem_map.mp hmem'
    obtain ⟨other, _, rest, hother, hmember, -⟩ := exists_key_of_mem.mp hplace'
    rw [hother] at heq
    have hsame := PlaceStep.key.inj (List.cons.inj heq).1
    rw [hsame] at hmember
    exact hkey (List.mem_map.mpr ⟨_, hmember, rfl⟩)

end

/-- The pointers that `walk_strings` yields give their strings back, differ from each other, and are
those of all places of strings in the document, each place once. -/
theorem walk_lossless (py : PyRuntime) (document : Document) :
    let pairs := walkPointers "" document.value
    (∀ pair ∈ pairs, pointerGet py document.value pair.1 = some (.str pair.2)) ∧
    (pairs.map Prod.fst).Nodup ∧
    ∃ places : List (List PlaceStep × String), (places.map Prod.fst).Nodup ∧
      (∀ steps text, (steps, text) ∈ places ↔ valueAt document.value steps = some (.str text)) ∧
      pairs = places.map fun place => (render place.1, place.2) := by
  intro pairs
  have hpairs : pairs = (stringPlaces document.value).map fun place =>
      (render place.1, place.2) := by
    have hwalk := walkPointers_eq "" document.value
    simpa only [String.empty_append] using hwalk
  have hmem : ∀ steps text, (steps, text) ∈ stringPlaces document.value ↔
      valueAt document.value steps = some (.str text) :=
    fun _ _ => mem_stringPlaces document.keysDiffer
  refine ⟨fun pair hpair => ?_, ?_, stringPlaces document.value,
    nodup_stringPlaces _ document.keysDiffer, hmem, hpairs⟩
  · rw [hpairs] at hpair
    obtain ⟨place, hplace, rfl⟩ := List.mem_map.mp hpair
    exact pointerGet_render py ((hmem place.1 place.2).mp hplace)
  · rw [hpairs, List.map_map]
    refine (nodup_stringPlaces _ document.keysDiffer).of_map.map_on fun a ha b hb heq => ?_
    have hvalue := (hmem a.1 a.2).mp ha
    have hvalue' := (hmem b.1 b.2).mp hb
    have hsteps := render_inj hvalue hvalue' heq
    rw [hsteps] at hvalue
    have htext := Value.str.inj (Option.some.inj (hvalue.symm.trans hvalue'))
    exact Prod.ext hsteps htext

end ChatmanEcosystem.RootCrown
