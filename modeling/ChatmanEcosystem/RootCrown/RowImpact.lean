import ChatmanEcosystem.RootCrown.Projector

/-!
# What a row's change reaches

The graph of the rows has three layers: premises, rows, and what is projected from them.

Results:

* `OfRows.acyclic`: no rows make a cycle.
* `OfRows.mem_impactOf`, `OfRows.reach_iff`: what a change reaches, in terms of the rows.
* `CompiledFrom.mem_requiredOwners`: which owners are due for a packet.
-/

namespace ChatmanEcosystem.RootCrown

open Common Py Rust Relation

/-! ## Keys -/

theorem startsWith_append {start rest : String} : startsWith (start ++ rest) start = true := by
  simp [startsWith]

/-- The part of the graph that a key is in: a premise, a row, or what is projected from rows. -/
def layer (key : String) : ℕ :=
  if startsWith key "premise:" then 0 else if startsWith key "req:" then 1 else 2

section

attribute [local simp] layer startsWith reqKey projKey packetKey artifactKey

theorem layer_premiseRefKey (ref : String) : layer (premiseRefKey ref) = 0 := by
  rw [layer, premiseRefKey, premiseKey, startsWith_append, if_pos rfl]

theorem layer_reqKey (rid : String) : layer (reqKey rid) = 1 := by
  simp

theorem layer_projKey (name : String) : layer (projKey name) = 2 := by
  simp

theorem layer_packetKey (owner : String) : layer (packetKey owner) = 2 := by
  simp

theorem layer_artifactKey (locator : String) : layer (artifactKey locator) = 2 := by
  simp

theorem packetKey_inj {owner owner' : String} : packetKey owner = packetKey owner' ↔
    owner = owner' := by
  simp

theorem packetKey_ne_projKey {owner name : String} : packetKey owner ≠ projKey name := by
  intro h
  have hlist := congrArg String.toList h
  simp at hlist

theorem packetKey_ne_artifactKey {owner locator : String} :
    packetKey owner ≠ artifactKey locator := by
  intro h
  have hlist := congrArg String.toList h
  simp at hlist

theorem artifactKey_ne_projKey {locator name : String} : artifactKey locator ≠ projKey name := by
  intro h
  have hlist := congrArg String.toList h
  simp at hlist

theorem startsWith_reqKey {rid : String} : startsWith (reqKey rid) "proj:" = false ∧
    startsWith (reqKey rid) "artifact:" = false := by
  constructor <;> simp <;> rfl

theorem startsWith_packetKey {owner : String} : startsWith (packetKey owner) "proj:" = false ∧
    startsWith (packetKey owner) "artifact:" = false := by
  constructor <;> simp <;> rfl

theorem startsWith_projKey {name : String} : startsWith (projKey name) "artifact:" = false := by
  simp
  rfl

theorem startsWith_artifactKey {locator : String} :
    startsWith (artifactKey locator) "proj:" = false := by
  simp
  rfl

end

/-! ## Rows and what they reach -/

variable {py : PyRuntime} {reqs reqs' : List Requirement} {edges : List Edge} {key name : String}

/-- The graph has the edges of some rows. -/
def OfRows (reqs : List Requirement) (edges : List Edge) : Prop :=
  ∀ producer consumer, (graphOf edges).Step producer consumer ↔
    ∃ req ∈ reqs, (producer, consumer) ∈ rowSpecs req

theorem mem_edgeSpecs {spec : String × String} :
    spec ∈ edgeSpecs reqs ↔ ∃ req ∈ reqs, spec ∈ rowSpecs req := by
  rw [edgeSpecs, (List.perm_insertionSort _ _).mem_iff, List.mem_dedup, List.mem_flatMap]

theorem mem_rowSpecs {req : Requirement} {producer consumer : String} :
    (producer, consumer) ∈ rowSpecs req ↔
      (∃ ref ∈ req.premiseRefs, producer = premiseRefKey ref ∧ consumer = reqKey req.id) ∨
        producer = reqKey req.id ∧ ((∃ name ∈ projectedOutputs, consumer = projKey name) ∨
          consumer = packetKey req.ownerRepo ∨ consumer = artifactKey req.evidenceLocator) := by
  simp only [rowSpecs, List.mem_append, List.mem_map, List.mem_cons, List.not_mem_nil, or_false,
    Prod.mk.injEq]
  constructor
  · rintro ((⟨ref, href, rfl, rfl⟩ | ⟨name, hname, rfl, rfl⟩) | ⟨rfl, rfl⟩ | ⟨rfl, rfl⟩)
    · exact .inl ⟨ref, href, rfl, rfl⟩
    · exact .inr ⟨rfl, .inl ⟨name, hname, rfl⟩⟩
    · exact .inr ⟨rfl, .inr (.inl rfl)⟩
    · exact .inr ⟨rfl, .inr (.inr rfl)⟩
  · rintro (⟨ref, href, rfl, rfl⟩ | ⟨rfl, ⟨name, hname, rfl⟩ | rfl | rfl⟩)
    · exact .inl (.inl ⟨ref, href, rfl, rfl⟩)
    · exact .inl (.inr ⟨name, hname, rfl, rfl⟩)
    · exact .inr (.inl ⟨rfl, rfl⟩)
    · exact .inr (.inr ⟨rfl, rfl⟩)

/-- An edge leads one layer up. -/
theorem OfRows.layer (h : OfRows reqs edges) {producer consumer : String}
    (hstep : (graphOf edges).Step producer consumer) :
    RootCrown.layer consumer = RootCrown.layer producer + 1 := by
  obtain ⟨req, -, hspec⟩ := (h producer consumer).mp hstep
  rcases mem_rowSpecs.mp hspec with ⟨ref, -, rfl, rfl⟩ | ⟨rfl, ⟨name, -, rfl⟩ | rfl | rfl⟩
  · rw [layer_premiseRefKey, layer_reqKey]
  · rw [layer_reqKey, layer_projKey]
  · rw [layer_reqKey, layer_packetKey]
  · rw [layer_reqKey, layer_artifactKey]

/-- The graph of rows has no cycle. -/
theorem OfRows.acyclic (h : OfRows reqs edges) : dependencyGraph edges = .ok () := by
  have hup : ∀ {a b : String}, TransGen (graphOf edges).Step a b →
      RootCrown.layer a < RootCrown.layer b := by
    intro a b hpath
    induction hpath with
    | single hstep =>
      have hlayer := h.layer hstep
      omega
    | tail _ hstep ih =>
      have hlayer := h.layer hstep
      omega
  rw [dependencyGraph, ensure_eq_ok, Edges.accepts_iff sorted_perm]
  intro a hcycle
  exact lt_irrefl _ (hup hcycle)

/-- What a change reaches. -/
theorem OfRows.mem_impactOf (h : OfRows reqs edges) (changed : List String) :
    ∃ impact, impactOf edges changed = .ok impact ∧
      ∀ key, key ∈ impact ↔ ∃ source ∈ changed, ReflTransGen (graphOf edges).Step source key :=
  exists_impactOf h.acyclic changed

/-- A node that a row goes by: the row, or a premise of a row with its id. -/
def Feeds (reqs : List Requirement) (key : String) (req : Requirement) : Prop :=
  key = reqKey req.id ∨
    ∃ other ∈ reqs, other.id = req.id ∧ ∃ ref ∈ other.premiseRefs, premiseRefKey ref = key

/-- Nothing is projected from what is projected. -/
theorem OfRows.last (h : OfRows reqs edges) (hkey : RootCrown.layer key = 2) {other : String} :
    ReflTransGen (graphOf edges).Step key other ↔ other = key := by
  constructor
  · intro hreach
    rcases ReflTransGen.cases_head hreach with rfl | ⟨next, hstep, -⟩
    · rfl
    · obtain ⟨req, -, hspec⟩ := (h key next).mp hstep
      rcases mem_rowSpecs.mp hspec with ⟨ref, -, rfl, -⟩ | ⟨rfl, -⟩
      · rw [layer_premiseRefKey] at hkey
        omega
      · rw [layer_reqKey] at hkey
        omega
  · rintro rfl
    exact .refl

/-- What a row reaches. -/
theorem OfRows.reach_row (h : OfRows reqs edges) {rid target : String}
    (htarget : RootCrown.layer target = 2) :
    ReflTransGen (graphOf edges).Step (reqKey rid) target ↔
      ∃ req ∈ reqs, req.id = rid ∧ (reqKey req.id, target) ∈ rowSpecs req := by
  constructor
  · intro hreach
    rcases ReflTransGen.cases_head hreach with rfl | ⟨next, hstep, hrest⟩
    · rw [layer_reqKey] at htarget
      omega
    · have hlayer := h.layer hstep
      rw [layer_reqKey] at hlayer
      obtain rfl := (h.last hlayer).mp hrest
      obtain ⟨req, hreq, hspec⟩ := (h _ _).mp hstep
      rcases mem_rowSpecs.mp hspec with ⟨ref, -, hprem, -⟩ | ⟨hrow, -⟩
      · have hsame := congrArg RootCrown.layer hprem
        rw [layer_reqKey, layer_premiseRefKey] at hsame
        omega
      · exact ⟨req, hreq, (reqKey_inj.mp hrow).symm, by rw [← hrow]; exact hspec⟩
  · rintro ⟨req, hreq, rfl, hspec⟩
    exact .single ((h _ _).mpr ⟨req, hreq, hspec⟩)

/-- What is projected goes by the rows. -/
theorem OfRows.reach_iff (h : OfRows reqs edges) {target : String}
    (hkey : RootCrown.layer key ≠ 2) (htarget : RootCrown.layer target = 2) :
    ReflTransGen (graphOf edges).Step key target ↔
      ∃ req ∈ reqs, Feeds reqs key req ∧ (reqKey req.id, target) ∈ rowSpecs req := by
  constructor
  · intro hreach
    rcases ReflTransGen.cases_head hreach with rfl | ⟨next, hstep, hrest⟩
    · exact absurd htarget hkey
    · obtain ⟨other, hother, hspec⟩ := (h _ _).mp hstep
      rcases mem_rowSpecs.mp hspec with ⟨ref, href, rfl, rfl⟩ | ⟨rfl, -⟩
      · obtain ⟨req, hreq, hid, hspec⟩ := (h.reach_row htarget).mp hrest
        exact ⟨req, hreq, .inr ⟨other, hother, hid.symm, ref, href, rfl⟩, hspec⟩
      · obtain ⟨req, hreq, hid, hspec⟩ := (h.reach_row htarget).mp hreach
        exact ⟨req, hreq, .inl (congrArg reqKey hid.symm), hspec⟩
  · rintro ⟨req, hreq, rfl | ⟨other, hother, hid, ref, href, rfl⟩, hspec⟩
    · exact (h.reach_row htarget).mpr ⟨req, hreq, rfl, hspec⟩
    · refine .head ((h _ _).mpr ⟨other, hother, mem_rowSpecs.mpr (.inl ⟨ref, href, rfl, rfl⟩)⟩) ?_
      rw [hid]
      exact (h.reach_row htarget).mpr ⟨req, hreq, rfl, hspec⟩

/-! ## The owners -/

theorem startsWith_packet {key : String} : startsWith key "packet:" = true ↔
    ∃ owner, key = packetKey owner := by
  constructor
  · intro h
    obtain ⟨rest, hrest⟩ := List.isPrefixOf_iff_prefix.mp h
    refine ⟨String.ofList rest, ?_⟩
    rw [← String.toList_inj, packetKey, String.toList_append, ← hrest]
    simp
  · rintro ⟨owner, rfl⟩
    exact startsWith_append

theorem mem_ownersOf {impact : List String} {owner : String} :
    owner ∈ ownersOf impact ↔ packetKey owner ∈ impact := by
  have hdrop : ∀ name : String, dropText (packetKey name) "packet:" = name := by
    intro name
    simp [dropText, packetKey]
  simp only [ownersOf, mem_sorted, List.mem_map, List.mem_filter, startsWith_packet]
  constructor
  · rintro ⟨_, ⟨hmem, name, rfl⟩, rfl⟩
    rwa [hdrop]
  · intro hmem
    exact ⟨packetKey owner, ⟨hmem, owner, rfl⟩, hdrop owner⟩

/-- The edges were compiled from the digests. -/
structure CompiledFrom (reqs : List Requirement) (sources : Digests) (edges : List Edge) :
  Prop where
  rows : OfRows reqs edges
  digest : ∀ edge ∈ edges, edge.compiledFrom = (sources.lookup edge.producer).getD unobserved

theorem exists_edge {producer consumer : String} :
    (graphOf edges).Step producer consumer ↔
      ∃ edge ∈ edges, edge.producer = producer ∧ edge.consumer = consumer := by
  simp [graphOf, Edges.Step]

/-- What a node was compiled from. -/
def compiledDigest (sources : Digests) (key : String) : String :=
  (sources.lookup key).getD unobserved

variable {sources baseline : Digests}

theorem OfRows.producer (h : OfRows reqs edges) :
    key ∈ edges.map Edge.producer ↔ ∃ req ∈ reqs, Feeds reqs key req := by
  constructor
  · intro hkey
    obtain ⟨edge, hedge, rfl⟩ := List.mem_map.mp hkey
    obtain ⟨req, hreq, hspec⟩ := (h _ _).mp (exists_edge.mpr ⟨edge, hedge, rfl, rfl⟩)
    rcases mem_rowSpecs.mp hspec with ⟨ref, href, hprem, -⟩ | ⟨hrow, -⟩
    · exact ⟨req, hreq, .inr ⟨req, hreq, rfl, ref, href, hprem.symm⟩⟩
    · exact ⟨req, hreq, .inl hrow⟩
  · have hstep : ∀ {consumer : String}, (graphOf edges).Step key consumer →
        key ∈ edges.map Edge.producer := by
      intro consumer hstep
      obtain ⟨edge, hedge, rfl, -⟩ := exists_edge.mp hstep
      exact List.mem_map_of_mem hedge
    rintro ⟨req, hreq, rfl | ⟨other, hother, -, ref, href, rfl⟩⟩
    · exact hstep ((h _ _).mpr ⟨req, hreq, mem_rowSpecs.mpr (.inr ⟨rfl, .inr (.inl rfl)⟩)⟩)
    · exact hstep ((h _ _).mpr ⟨other, hother, mem_rowSpecs.mpr (.inl ⟨ref, href, rfl, rfl⟩)⟩)

theorem OfRows.producer_layer (h : OfRows reqs edges) (hkey : key ∈ edges.map Edge.producer) :
    RootCrown.layer key ≠ 2 := by
  obtain ⟨req, -, rfl | ⟨other, -, -, ref, -, rfl⟩⟩ := h.producer.mp hkey
  · rw [layer_reqKey]
    omega
  · rw [layer_premiseRefKey]
    omega

theorem source_of_layer (hkey : layer key ≠ 2) :
    (startsWith key "premise:" || startsWith key "req:") = true := by
  rw [layer] at hkey
  split_ifs at hkey with hpremise hrow
  · rw [hpremise, Bool.true_or]
  · rw [hrow, Bool.or_true]
  · exact absurd rfl hkey

/-- What has changed since the baseline, of what the edges were compiled from. -/
theorem CompiledFrom.mem_delta (h : CompiledFrom reqs sources edges) :
    key ∈ delta baseline (compiledOf edges) ↔ key ∈ edges.map Edge.producer ∧
      baseline.lookup key ≠ some (compiledDigest sources key) := by
  have hall : edges.filter (fun edge => startsWith edge.producer "premise:" ||
      startsWith edge.producer "req:") = edges :=
    List.filter_eq_self.mpr fun edge hedge =>
      source_of_layer (h.rows.producer_layer (List.mem_map_of_mem hedge))
  have hpairs : ∀ pair ∈ edges.map (fun edge => (edge.producer, edge.compiledFrom)),
      pair.2 = compiledDigest sources pair.1 := by
    intro pair hpair
    obtain ⟨edge, hedge, rfl⟩ := List.mem_map.mp hpair
    exact h.digest edge hedge
  have hkeys : (edges.map fun edge => (edge.producer, edge.compiledFrom)).map Prod.fst =
      edges.map Edge.producer := by
    rw [List.map_map]
    rfl
  simp only [delta, compiledOf, hall, mem_sorted, List.mem_map, List.mem_filter,
    mem_ofPairs hpairs, hkeys, decide_eq_true_eq]
  constructor
  · rintro ⟨item, ⟨⟨hproducer, hvalue⟩, hbaseline⟩, rfl⟩
    rw [hvalue] at hbaseline
    exact ⟨hproducer, hbaseline⟩
  · rintro ⟨hproducer, hbaseline⟩
    exact ⟨(key, compiledDigest sources key), ⟨⟨hproducer, rfl⟩, hbaseline⟩, rfl⟩

/-- A row's packet is its owner's. -/
theorem packetKey_mem_rowSpecs {req : Requirement} {owner : String} :
    (reqKey req.id, packetKey owner) ∈ rowSpecs req ↔ req.ownerRepo = owner := by
  rw [mem_rowSpecs]
  constructor
  · rintro (⟨ref, -, hprem, -⟩ | ⟨-, ⟨name, -, hproj⟩ | hpacket | hartifact⟩)
    · have hsame := congrArg layer hprem
      rw [layer_reqKey, layer_premiseRefKey] at hsame
      omega
    · exact absurd hproj packetKey_ne_projKey
    · exact (packetKey_inj.mp hpacket).symm
    · exact absurd hartifact packetKey_ne_artifactKey
  · rintro rfl
    exact .inr ⟨rfl, .inr (.inl rfl)⟩

/-- The owner of a row that has changed since the baseline, or a premise of it has. -/
def DeltaOwner (reqs : List Requirement) (sources baseline : Digests) (owner : String) : Prop :=
  ∃ req ∈ reqs, req.ownerRepo = owner ∧ ∃ key, Feeds reqs key req ∧
    baseline.lookup key ≠ some (compiledDigest sources key)

/-- Which owners packets are required of. -/
theorem CompiledFrom.mem_requiredOwners (h : CompiledFrom reqs sources edges)
    (baseline : Digests) :
    ∃ impact, impactOf edges (delta baseline (compiledOf edges)) = .ok impact ∧
      ∀ owner, owner ∈ ownersOf impact ↔ DeltaOwner reqs sources baseline owner := by
  obtain ⟨impact, himpact, hmem⟩ := h.rows.mem_impactOf (delta baseline (compiledOf edges))
  refine ⟨impact, himpact, fun owner => ?_⟩
  rw [mem_ownersOf, hmem, DeltaOwner]
  constructor
  · rintro ⟨source, hsource, hreach⟩
    obtain ⟨hproducer, hbaseline⟩ := h.mem_delta.mp hsource
    obtain ⟨req, hreq, hfeeds, hpacket⟩ := (h.rows.reach_iff
      (h.rows.producer_layer hproducer) (layer_packetKey owner)).mp hreach
    exact ⟨req, hreq, packetKey_mem_rowSpecs.mp hpacket, source, hfeeds, hbaseline⟩
  · rintro ⟨req, hreq, howner, source, hfeeds, hbaseline⟩
    have hproducer := h.rows.producer.mpr ⟨req, hreq, hfeeds⟩
    exact ⟨source, h.mem_delta.mpr ⟨hproducer, hbaseline⟩,
      (h.rows.reach_iff (h.rows.producer_layer hproducer) (layer_packetKey owner)).mpr
        ⟨req, hreq, hfeeds, packetKey_mem_rowSpecs.mpr howner⟩⟩

end ChatmanEcosystem.RootCrown
