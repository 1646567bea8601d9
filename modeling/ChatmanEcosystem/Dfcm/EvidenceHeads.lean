import ChatmanEcosystem.Common.Chain
import ChatmanEcosystem.Dfcm.Execution
import ChatmanEcosystem.Py.Json

/-!
# What a head digest commits to

Model of `receipt` and `replay_receipts` (`scripts/dfcm_autonomic_finish.py`, lines 719–743),
beside `replay_evidence`. The head of a replay is the digest of its last item, or nothing.

Results:

* `replayed_of_replayFrom`, `replayed_of_replayReceiptsFrom`: what either loop accepts is a chain.
* `receiptsAfter_replay`: receipts that are made one after another replay.
* `alike_or_confused`: two chains with one head are alike, or two bodies share a digest.
* `heads_commit`: both for the two loops.
-/

namespace ChatmanEcosystem.Dfcm

open Common Py Rust

/-! ## Receipts -/

/-- The part of a receipt that its digest is about (lines 732–736). -/
def receiptBody (schema previous event : Value) : Dict :=
  [("schema", schema), ("previous", previous), ("event", event)]

/-- The loop of `replay_receipts` (lines 729–742). -/
def replayReceiptsFrom (py : PyRuntime) (previous : Value) (count : ℕ) :
    List Value → Outcome (Value × ℕ)
  | [] => .ok (previous, count)
  | item :: items => do
    let item ← okOr item.dict? (refused "RECEIPT_MALFORMED" (toString count))
    let body := receiptBody (item.get "schema") (item.get "previous") (item.get "event")
    ensure ((item.get "previous").eq previous) (refused "RECEIPT_CHAIN_BROKEN" (toString count))
    let actual ← digest py (.dict body)
    ensure ((item.get "receipt_digest").eq (.str actual))
      (refused "RECEIPT_TAMPERED" (toString count))
    replayReceiptsFrom py (item.get "receipt_digest") (count + 1) items

/-- `replay_receipts` (lines 726–743). -/
def replayReceipts (py : PyRuntime) (items : List Value) : Outcome String := do
  let (previous, count) ← replayReceiptsFrom py .null 0 items
  let last := if previous.truthy then py.str previous else "EMPTY"
  return "ALIVE:REPLAY:" ++ toString count ++ ":" ++ last

/-- `receipt` (lines 719–723). -/
def receipt (py : PyRuntime) (event previous : Value) : Outcome Dict := do
  let body := receiptBody (.str "urn:chatman:dfcm:receipt:v1") previous event
  let receiptDigest ← digest py (.dict body)
  return body ++ [("receipt_digest", .str receiptDigest)]

/-- One receipt for each event, each made after the one before. -/
def receiptsAfter (py : PyRuntime) (previous : Value) : List Value → Outcome (List Value)
  | [] => .ok []
  | event :: events => do
    let first ← receipt py event previous
    let rest ← receiptsAfter py (first.get "receipt_digest") events
    return .dict first :: rest

/-! ## Chains -/

/-- A member of an item, `None` for an item that has none. -/
def memberOf (item : Value) (field : String) : Value := (item.dict?.getD []).get field

/-- The part of an item that has these members. -/
def bodyOf (fields : List String) (item : Value) : Dict :=
  fields.map fun field => (field, memberOf item field)

/-- A chain from `start` to `head`, each item with the digest of its body in `digestKey`. -/
structure Replayed (py : PyRuntime) (fields : List String) (digestKey : String) (start : Value)
    (items : List Value) (head : Value) : Prop where
  linked : Linked (memberOf · digestKey) (fun item => sortKeys (memberOf item "previous")) start
    items
  tip_eq : tip (memberOf · digestKey) start items = head
  digests : ∀ item ∈ items, ∃ text, memberOf item digestKey = .str text ∧
    digest py (.dict (bodyOf fields item)) = .ok text

variable {py : PyRuntime} {fields : List String} {digestKey : String} {start head : Value}
  {items others : List Value} {count n : ℕ}

theorem Replayed.nil : Replayed py fields digestKey start [] start :=
  ⟨trivial, rfl, fun _ h => absurd h List.not_mem_nil⟩

theorem Replayed.cons {item : Value} {text : String}
    (hprevious : sortKeys (memberOf item "previous") = start)
    (hkey : memberOf item digestKey = .str text)
    (hdigest : digest py (.dict (bodyOf fields item)) = .ok text)
    (h : Replayed py fields digestKey (.str text) items head) :
    Replayed py fields digestKey start (item :: items) head := by
  have hlinked := h.linked
  rw [← hkey] at hlinked
  refine ⟨⟨hprevious, hlinked⟩, ?_, ?_⟩
  · rw [tip_cons, hkey, h.tip_eq]
  · intro other hother
    rcases List.mem_cons.mp hother with rfl | hother
    · exact ⟨text, hkey, hdigest⟩
    · exact h.digests other hother

/-- What a link may be compared with: nothing before the first item, a digest from then on. -/
def IsLink (value : Value) : Prop := value = .null ∨ ∃ text, value = .str text

theorem sortKeys_of_eq_link {value link : Value} (hlink : IsLink link)
    (h : value.eq link = true) : sortKeys value = link := by
  rcases hlink with rfl | ⟨text, rfl⟩
  · cases value <;> simp_all [Value.eq, Value.number?, sortKeys]
  · rw [Value.eq_str.mp h]
    rfl

/-- The members of an event that its digest is about. -/
def evidenceFields : List String := ["schema", "previous", "kind", "payload"]

/-- The members of a receipt that its digest is about. -/
def receiptFields : List String := ["schema", "previous", "event"]

theorem replayed_of_replayFrom (hstart : IsLink start)
    (h : replayFrom py start count items = .ok (head, n)) :
    Replayed py evidenceFields "event_digest" start items head ∧ n = count + items.length := by
  induction items generalizing start count with
  | nil =>
    simp only [replayFrom, Except.ok.injEq, Prod.mk.injEq] at h
    obtain ⟨rfl, rfl⟩ := h
    exact ⟨.nil, rfl⟩
  | cons item items ih =>
    simp only [replayFrom, bind_eq_ok, okOr_eq_ok, ensure_eq_ok] at h
    obtain ⟨event, hevent, _, hprevious, actual, hdigest, _, hkey, hrest⟩ := h
    have hmember : ∀ field, memberOf item field = event.get field := fun field => by
      rw [memberOf, hevent, Option.getD_some]
    have hkey' := Value.eq_str.mp hkey
    rw [hkey'] at hrest
    obtain ⟨hreplayed, hn⟩ := ih (.inr ⟨actual, rfl⟩) hrest
    refine ⟨hreplayed.cons ?_ ((hmember _).trans hkey') ?_, ?_⟩
    · rw [hmember, sortKeys_of_eq_link hstart hprevious]
    · rw [← hdigest]
      simp only [bodyOf, evidenceFields, eventBody, hmember, List.map_cons, List.map_nil]
    · rw [hn, List.length_cons]
      omega

theorem replayed_of_replayReceiptsFrom (hstart : IsLink start)
    (h : replayReceiptsFrom py start count items = .ok (head, n)) :
    Replayed py receiptFields "receipt_digest" start items head ∧ n = count + items.length := by
  induction items generalizing start count with
  | nil =>
    simp only [replayReceiptsFrom, Except.ok.injEq, Prod.mk.injEq] at h
    obtain ⟨rfl, rfl⟩ := h
    exact ⟨.nil, rfl⟩
  | cons item items ih =>
    simp only [replayReceiptsFrom, bind_eq_ok, okOr_eq_ok, ensure_eq_ok] at h
    obtain ⟨event, hevent, _, hprevious, actual, hdigest, _, hkey, hrest⟩ := h
    have hmember : ∀ field, memberOf item field = event.get field := fun field => by
      rw [memberOf, hevent, Option.getD_some]
    have hkey' := Value.eq_str.mp hkey
    rw [hkey'] at hrest
    obtain ⟨hreplayed, hn⟩ := ih (.inr ⟨actual, rfl⟩) hrest
    refine ⟨hreplayed.cons ?_ ((hmember _).trans hkey') ?_, ?_⟩
    · rw [hmember, sortKeys_of_eq_link hstart hprevious]
    · rw [← hdigest]
      simp only [bodyOf, receiptFields, receiptBody, hmember, List.map_cons, List.map_nil]
    · rw [hn, List.length_cons]
      omega

/-- What is made one after another replays to its end. -/
theorem receiptsAfter_replay {events receipts : List Value} (hstart : IsLink start)
    (h : receiptsAfter py start events = .ok receipts) :
    ∃ head, replayReceiptsFrom py start count receipts = .ok (head, count + events.length) ∧
      receipts.map (memberOf · "event") = events := by
  induction events generalizing start count receipts with
  | nil =>
    obtain rfl := Except.ok.inj h
    exact ⟨start, rfl, rfl⟩
  | cons event events ih =>
    simp only [receiptsAfter, receipt, bind_eq_ok, pure_eq_ok] at h
    obtain ⟨first, ⟨text, hdigest, rfl⟩, rest, hrest, rfl⟩ := h
    obtain ⟨head, hreplay, hevents⟩ := @ih _ (count + 1) _ (.inr ⟨text, rfl⟩) hrest
    refine ⟨head, ?_, congrArg _ hevents⟩
    have hself : start.eq start = true := by
      rcases hstart with rfl | ⟨text, rfl⟩
      · rfl
      · exact Value.eq_str.mpr rfl
    simp only [replayReceiptsFrom, bind_eq_ok, okOr_eq_ok, ensure_eq_ok]
    refine ⟨_, rfl, (), hself, text, hdigest, (), Value.eq_str.mpr rfl, ?_⟩
    rw [List.length_cons, Nat.add_comm events.length, ← Nat.add_assoc]
    exact hreplay

/-! ## Heads -/

/-- Two items with the same documents in these members. -/
def Alike (fields : List String) (item other : Value) : Prop :=
  ∀ field ∈ fields, sortKeys (memberOf item field) = sortKeys (memberOf other field)

/-- An item of either list whose bodies are two documents with one digest. -/
def Confused (py : PyRuntime) (fields : List String) (items others : List Value) : Prop :=
  ∃ item ∈ items, ∃ other ∈ others,
    sortKeys (.dict (bodyOf fields item)) ≠ sortKeys (.dict (bodyOf fields other)) ∧
    digest py (.dict (bodyOf fields item)) = digest py (.dict (bodyOf fields other))

theorem lookup_bodyOf {field : String} (hfield : field ∈ fields) (item : Value) :
    (bodyOf fields item).lookup field = some (memberOf item field) := by
  induction fields with
  | nil => exact absurd hfield List.not_mem_nil
  | cons first fields ih =>
    rw [bodyOf, List.map_cons, List.lookup_cons]
    by_cases hkey : field = first
    · simp [hkey]
    · rw [beq_false_of_ne hkey]
      exact ih (List.mem_of_ne_of_mem hkey hfield)

theorem alike_of_sortKeys {item other : Value}
    (h : sortKeys (.dict (bodyOf fields item)) = sortKeys (.dict (bodyOf fields other))) :
    Alike fields item other := by
  intro field hfield
  rw [sortKeys_dict, sortKeys_dict, Value.dict.injEq] at h
  have hlookup := congrArg (List.lookup field) h
  rw [lookup_sortKeys, lookup_sortKeys, lookup_bodyOf hfield, lookup_bodyOf hfield] at hlookup
  simpa using hlookup

/-- Two chains from nothing with one head are alike, or two bodies share a digest. -/
theorem alike_or_confused (hprevious : "previous" ∈ fields)
    (hitems : Replayed py fields digestKey .null items head)
    (hothers : Replayed py fields digestKey .null others head) :
    List.Forall₂ (Alike fields) items others ∨ Confused py fields items others := by
  by_cases hconfused : Confused py fields items others
  · exact .inr hconfused
  left
  have hfresh : ∀ {list : List Value}, Replayed py fields digestKey .null list head →
      ∀ item ∈ list, memberOf item digestKey ≠ .null := by
    intro list hlist item hitem
    obtain ⟨text, htext, _⟩ := hlist.digests item hitem
    rw [htext]
    exact Value.noConfusion
  have halike : ∀ item ∈ items, ∀ other ∈ others,
      memberOf item digestKey = memberOf other digestKey → Alike fields item other := by
    intro item hitem other hother heq
    obtain ⟨text, htext, hdigest⟩ := hitems.digests item hitem
    obtain ⟨text', htext', hdigest'⟩ := hothers.digests other hother
    have hsame : text = text' := Value.str.inj (htext.symm.trans (heq.trans htext'))
    refine alike_of_sortKeys ?_
    by_contra hne
    exact hconfused ⟨item, hitem, other, hother, hne, by rw [hdigest, hdigest', hsame]⟩
  exact forall₂_of_tip_eq hitems.linked hothers.linked (hfresh hitems) (hfresh hothers) halike
    (fun item other h => h "previous" hprevious) (hitems.tip_eq.trans hothers.tip_eq.symm)

/-- Two accepted lists with the same head have the same length and agree at every position, or
show two documents with one digest. -/
theorem heads_commit (py : PyRuntime) (items others : List Value) (head : Value) (n m : ℕ) :
    (replayFrom py .null 0 items = .ok (head, n) → replayFrom py .null 0 others = .ok (head, m) →
      List.Forall₂ (Alike evidenceFields) items others ∧ n = m ∨
        Confused py evidenceFields items others) ∧
    (replayReceiptsFrom py .null 0 items = .ok (head, n) →
      replayReceiptsFrom py .null 0 others = .ok (head, m) →
      List.Forall₂ (Alike receiptFields) items others ∧ n = m ∨
        Confused py receiptFields items others) := by
  constructor
  · intro hitems hothers
    obtain ⟨hitems, hn⟩ := replayed_of_replayFrom (.inl rfl) hitems
    obtain ⟨hothers, hm⟩ := replayed_of_replayFrom (.inl rfl) hothers
    refine (alike_or_confused (by decide) hitems hothers).imp_left fun halike => ⟨halike, ?_⟩
    rw [hn, hm, halike.length_eq]
  · intro hitems hothers
    obtain ⟨hitems, hn⟩ := replayed_of_replayReceiptsFrom (.inl rfl) hitems
    obtain ⟨hothers, hm⟩ := replayed_of_replayReceiptsFrom (.inl rfl) hothers
    refine (alike_or_confused (by decide) hitems hothers).imp_left fun halike => ⟨halike, ?_⟩
    rw [hn, hm, halike.length_eq]

/-- One event, and the same one with its members in another order. -/
def sampleEvent : Dict :=
  sealed (eventBody (.str "v1") .null (.str "ADMISSION") (.dict [("scope", .str "BRCE")]))
    "event_digest"

def sampleEventReversed : Dict := sampleEvent.reverse

def sampleReceipt : Dict :=
  sealed (receiptBody (.str "v1") .null (.dict [("phase", .str "OBSERVE")])) "receipt_digest"

theorem replayFrom_sample (event : Dict)
    (hevent : ∀ field ∈ "event_digest" :: evidenceFields,
      event.get field = sampleEvent.get field) :
    replayFrom samplePyRuntime .null 0 [.dict event] =
      .ok (sampleEvent.get "event_digest", 1) := by
  simp only [evidenceFields, List.forall_mem_cons] at hevent
  obtain ⟨hkey, hschema, hprevious, hkind, hpayload, _⟩ := hevent
  simp only [replayFrom, bind_eq_ok, okOr_eq_ok, ensure_eq_ok]
  refine ⟨event, rfl, (), ?_, _, digest_sample _, (), ?_, ?_⟩
  · rw [hprevious]
    rfl
  · rw [hkey, hschema, hprevious, hkind, hpayload]
    exact Value.eq_str.mpr rfl
  · rw [hkey]

theorem replayReceiptsFrom_sample :
    replayReceiptsFrom samplePyRuntime .null 0 [.dict sampleReceipt] =
      .ok (sampleReceipt.get "receipt_digest", 1) := by
  simp only [replayReceiptsFrom, bind_eq_ok, okOr_eq_ok, ensure_eq_ok]
  exact ⟨sampleReceipt, rfl, (), rfl, _, digest_sample _, (), Value.eq_str.mpr rfl, rfl⟩

theorem receiptsAfter_replay_sample : ∃ receipts head,
    receiptsAfter samplePyRuntime .null [.str "OBSERVE", .str "SELECT"] = .ok receipts ∧
      replayReceiptsFrom samplePyRuntime .null 0 receipts = .ok (head, 2) := by
  have hmade : receiptsAfter samplePyRuntime .null [.str "OBSERVE", .str "SELECT"] = .ok _ := rfl
  obtain ⟨head, hreplay, -⟩ := @receiptsAfter_replay _ _ 0 _ _ (.inl rfl) hmade
  exact ⟨_, head, hmade, hreplay⟩

theorem sample_heads_commit :
    (List.Forall₂ (Alike evidenceFields) [.dict sampleEvent] [.dict sampleEventReversed] ∧ 1 = 1 ∨
      Confused samplePyRuntime evidenceFields [.dict sampleEvent] [.dict sampleEventReversed]) ∧
    (List.Forall₂ (Alike receiptFields) [.dict sampleReceipt] [.dict sampleReceipt] ∧ 1 = 1 ∨
      Confused samplePyRuntime receiptFields [.dict sampleReceipt] [.dict sampleReceipt]) := by
  have hevent := replayFrom_sample sampleEvent fun _ _ => rfl
  have hreversed := replayFrom_sample sampleEventReversed (by
    simp only [evidenceFields, List.forall_mem_cons]
    exact ⟨rfl, rfl, rfl, rfl, rfl, fun _ h => absurd h List.not_mem_nil⟩)
  have hreceipt := replayReceiptsFrom_sample
  exact ⟨(heads_commit samplePyRuntime _ _ _ 1 1).1 hevent hreversed,
    (heads_commit samplePyRuntime _ _ _ 1 1).2 hreceipt hreceipt⟩

end ChatmanEcosystem.Dfcm
