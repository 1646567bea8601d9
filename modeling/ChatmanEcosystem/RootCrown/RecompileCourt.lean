import ChatmanEcosystem.RootCrown.RowImpact
import Mathlib.Data.List.ReduceOption

/-!
# The recompile court

What the court says of a graph that `compile_graph` wrote, when the sources are not those that it
was compiled from.

Results:

* `CompiledFrom.exists_judge`: the court returns a verdict.
* `judge_complete_iff`: it covers every owner of what has changed exactly when a compiled row or
  one of its premises has moved, or the owners were due for a packet anyway.
-/

namespace ChatmanEcosystem.RootCrown

open Common Py Rust Relation

variable {py : PyRuntime} {reqs reqs' : List Requirement} {edges : List Edge} {key name : String}
  {sources sources' baseline : Digests}

/-! ## What is compiled -/

variable {req : Requirement} {item : String × String}

theorem rowDigest_eq_ok :
    rowDigest py req = .ok item ↔
      ∃ digest, canonicalDigest py req.row = .ok digest ∧ (reqKey req.id, digest) = item := by
  simp only [rowDigest, bind_eq_ok, pure_eq_ok]

variable {texts : List (String × String)}

/-- The premises, and the rows of the sources. -/
theorem lookup_sources (h : sourceDigests py texts reqs = .ok sources) :
    ∃ rows, reqs.mapM (rowDigest py) = .ok rows ∧
      ∀ key, sources.lookup key =
        (rows.reverse.lookup key).or ((sectionDigests py texts).reverse.lookup key) := by
  simp only [sourceDigests, bind_eq_ok, pure_eq_ok] at h
  obtain ⟨rows, hrows, rfl⟩ := h
  refine ⟨rows, hrows, fun key => ?_⟩
  rw [lookup_ofPairs, List.reverse_append, List.lookup_append]

theorem layer_of_section (h : item ∈ sectionDigests py texts) : layer item.1 = 0 := by
  obtain ⟨text, -, hfound⟩ := List.mem_flatMap.mp h
  obtain ⟨found, -, rfl⟩ := List.mem_map.mp hfound
  rw [layer, premiseKey, startsWith_append, if_pos rfl]

theorem lookup_section_eq_none (hkey : layer key ≠ 0) :
    (sectionDigests py texts).reverse.lookup key = none := by
  rw [List.lookup_eq_none_iff]
  intro item hitem
  rw [bne_iff_ne]
  rintro rfl
  exact hkey (layer_of_section (List.mem_reverse.mp hitem))

theorem lookup_rows_eq_none {rows : Digests} (hrows : reqs.mapM (rowDigest py) = .ok rows)
    (hkey : key ∉ reqs.map fun req => reqKey req.id) : rows.reverse.lookup key = none := by
  rw [List.lookup_eq_none_iff]
  intro item hitem
  rw [bne_iff_ne]
  rintro rfl
  obtain ⟨req, hreq, hdigest⟩ := (mem_of_mapM hrows).mp (List.mem_reverse.mp hitem)
  obtain ⟨digest, -, rfl⟩ := rowDigest_eq_ok.mp hdigest
  exact hkey (List.mem_map.mpr ⟨req, hreq, rfl⟩)

/-- Sources are premises and rows. -/
theorem lookup_source (h : sourceDigests py texts reqs = .ok sources) (hkey : layer key = 2) :
    sources.lookup key = none := by
  obtain ⟨rows, hrows, hlookup⟩ := lookup_sources h
  rw [hlookup, lookup_section_eq_none (by omega), lookup_rows_eq_none hrows]
  · rfl
  · intro hrow
    obtain ⟨req, -, rfl⟩ := List.mem_map.mp hrow
    rw [layer_reqKey] at hkey
    omega

theorem lookup_premise (h : sourceDigests py texts reqs = .ok sources) (hkey : layer key = 0) :
    sources.lookup key = (sectionDigests py texts).reverse.lookup key := by
  obtain ⟨rows, hrows, hlookup⟩ := lookup_sources h
  rw [hlookup, lookup_rows_eq_none hrows]
  · rfl
  · intro hrow
    obtain ⟨req, -, rfl⟩ := List.mem_map.mp hrow
    rw [layer_reqKey] at hkey
    omega

theorem lookup_absent {rid : String} (h : sourceDigests py texts reqs = .ok sources)
    (hrid : ∀ req ∈ reqs, req.id ≠ rid) :
    sources.lookup (reqKey rid) = none := by
  obtain ⟨rows, hrows, hlookup⟩ := lookup_sources h
  rw [hlookup, lookup_section_eq_none (by rw [layer_reqKey]; omega), lookup_rows_eq_none hrows]
  · rfl
  · intro hrow
    obtain ⟨req, hreq, hkey⟩ := List.mem_map.mp hrow
    exact hrid req hreq (reqKey_inj.mp hkey)

/-- A row that has its id for itself has its digest. -/
theorem lookup_row (h : sourceDigests py texts reqs = .ok sources) (hreq : req ∈ reqs)
    (hid : ∀ other ∈ reqs, other.id = req.id → other = req) :
    ∃ digest, canonicalDigest py req.row = .ok digest ∧
      sources.lookup (reqKey req.id) = some digest := by
  obtain ⟨rows, hrows, hlookup⟩ := lookup_sources h
  obtain ⟨item, hitem⟩ := ok_of_mapM hrows hreq
  obtain ⟨digest, hdigest, rfl⟩ := rowDigest_eq_ok.mp hitem
  refine ⟨digest, hdigest, ?_⟩
  have hsame : ∀ item ∈ rows.reverse, item.1 = reqKey req.id → item.2 = digest := by
    intro item hitem hkey
    obtain ⟨other, hother, hrow⟩ := (mem_of_mapM hrows).mp (List.mem_reverse.mp hitem)
    obtain ⟨found, hfound, rfl⟩ := rowDigest_eq_ok.mp hrow
    obtain rfl := hid other hother (reqKey_inj.mp hkey)
    rw [hdigest] at hfound
    exact (Except.ok.inj hfound).symm
  have hmem : (reqKey req.id, digest) ∈ rows.reverse :=
    List.mem_reverse.mpr ((mem_of_mapM hrows).mpr ⟨req, hreq, hitem⟩)
  have hrow : rows.reverse.lookup (reqKey req.id) = some digest := by
    cases hfound : rows.reverse.lookup (reqKey req.id) with
    | none =>
      rw [List.lookup_eq_none_iff] at hfound
      exact absurd (hfound _ hmem) (by simp)
    | some found =>
      obtain ⟨before, after, hsplit, -⟩ := List.lookup_eq_some_iff.mp hfound
      have hrow : (reqKey req.id, found) ∈ rows.reverse := by
        rw [hsplit]
        simp
      exact congrArg some (hsame _ hrow rfl)
  rw [hlookup, hrow]
  rfl

/-- An edge that is renewed keeps its ends, and has the new digest. -/
theorem renewFrom_eq_ok {prior : List Edge} {edge renewed : Edge}
    (h : renewFrom prior edge = .ok renewed) : renewed.producer = edge.producer ∧
      renewed.consumer = edge.consumer ∧ renewed.compiledFrom = edge.compiledFrom := by
  rw [renewFrom] at h
  cases hold : prior.reverse.find? fun old =>
      old.producer = edge.producer ∧ old.consumer = edge.consumer with
  | none =>
    rw [hold] at h
    obtain rfl := Except.ok.inj h
    exact ⟨rfl, rfl, rfl⟩
  | some old =>
    simp only [hold] at h
    have hends : old.producer = edge.producer ∧ old.consumer = edge.consumer := by
      simpa using List.find?_some hold
    by_cases hmoved : old.compiledFrom ≠ edge.compiledFrom
    · rw [if_pos hmoved] at h
      simp only [renewProjection, bind_eq_ok, ensure_eq_ok, pure_eq_ok] at h
      obtain ⟨_, hreceipt, rfl⟩ := h
      refine ⟨hends.1, hends.2, ?_⟩
      by_cases hempty : edge.compiledFrom = ""
      · exact absurd (if_pos hempty) hreceipt
      · exact if_neg hempty
    · rw [if_neg hmoved] at h
      obtain rfl := Except.ok.inj h
      exact ⟨rfl, rfl, rfl⟩

theorem compiledFrom_of_renewed {prior fresh : List Edge} {consumers : Digests}
    (hfresh : buildEdges reqs sources consumers = .ok fresh)
    (hedges : fresh.mapM (renewFrom prior) = .ok edges) : CompiledFrom reqs sources edges := by
  simp only [buildEdges, bind_eq_ok, pure_eq_ok] at hfresh
  obtain ⟨_, -, rfl⟩ := hfresh
  refine ⟨fun producer consumer => ?_, fun edge hedge => ?_⟩
  · rw [exists_edge]
    constructor
    · rintro ⟨edge, hedge, rfl, rfl⟩
      obtain ⟨old, hold, hrenewed⟩ := (mem_of_mapM hedges).mp hedge
      obtain ⟨spec, hspec, rfl⟩ := List.mem_map.mp hold
      obtain ⟨hproducer, hconsumer, -⟩ := renewFrom_eq_ok hrenewed
      rw [hproducer, hconsumer]
      exact mem_edgeSpecs.mp hspec
    · intro hspec
      have hold : freshEdge sources consumers (producer, consumer) ∈
          (edgeSpecs reqs).map (freshEdge sources consumers) :=
        List.mem_map_of_mem (mem_edgeSpecs.mpr hspec)
      obtain ⟨edge, hedge⟩ := ok_of_mapM hedges hold
      obtain ⟨hproducer, hconsumer, -⟩ := renewFrom_eq_ok hedge
      exact ⟨edge, (mem_of_mapM hedges).mpr ⟨_, hold, hedge⟩, hproducer, hconsumer⟩
  · obtain ⟨old, hold, hrenewed⟩ := (mem_of_mapM hedges).mp hedge
    obtain ⟨spec, hspec, rfl⟩ := List.mem_map.mp hold
    obtain ⟨hproducer, -, hcompiled⟩ := renewFrom_eq_ok hrenewed
    rw [hproducer, hcompiled]
    rfl

variable {inputs : CompileInputs} {projection : Projection}

theorem sources_of_compileGraph (h : compileGraph py inputs texts = .ok projection) :
    sourceDigests py texts inputs.requirements = .ok projection.graph.compiled := by
  simp only [compileGraph, bind_eq_ok, pure_eq_ok] at h
  obtain ⟨sources, hsources, probe, -, impact, -, packets, -, ttl, -, digests, -, fresh, -, edges,
    -, rfl⟩ := h
  exact hsources

/-- A graph that is compiled has the edges of the rows, with the digests of the sources. -/
theorem compiledFrom_of_compileGraph (h : compileGraph py inputs texts = .ok projection) :
    CompiledFrom inputs.requirements projection.graph.compiled projection.graph.edges := by
  simp only [compileGraph, bind_eq_ok, pure_eq_ok] at h
  obtain ⟨sources, -, probe, -, impact, -, packets, -, ttl, -, digests, -, fresh, hfresh, edges,
    hedges, rfl⟩ := h
  exact compiledFrom_of_renewed hfresh hedges

/-! ## The verdict -/

/-- What the court judges: the sources, and what is projected. -/
def currentOf (sources projected : Digests) : Digests :=
  projected.foldl (fun current output => setItem current (projKey output.1) output.2) sources

theorem lookup_currentOf {projected : Digests} (hkey : layer key ≠ 2) :
    (currentOf sources projected).lookup key = sources.lookup key := by
  induction projected using List.reverseRecOn with
  | nil => rfl
  | append_singleton projected output ih =>
    have hne : key ≠ projKey output.1 := by
      rintro rfl
      exact hkey (layer_projKey _)
    rw [currentOf, List.foldl_append, List.foldl_cons, List.foldl_nil, lookup_setItem, if_neg hne]
    exact ih

/-- A row has another digest, or a premise that it refers to has, or is gone. -/
def Moved (reqs : List Requirement) (sources sources' : Digests) : Prop :=
  ∃ req ∈ reqs, (∃ digest, sources'.lookup (reqKey req.id) = some digest ∧
      digest ≠ compiledDigest sources (reqKey req.id)) ∨
    ∃ ref ∈ req.premiseRefs, sources'.lookup (premiseRefKey ref) ≠
      some (compiledDigest sources (premiseRefKey ref))

theorem CompiledFrom.moved_iff (h : CompiledFrom reqs sources edges) (projected : Digests) :
    Moved reqs sources sources' ↔ ∃ edge ∈ edges,
      isUnbound (currentOf sources' projected) edge = true ∨
        isStale (currentOf sources' projected) edge = true := by
  have hlookup : ∀ edge ∈ edges, (currentOf sources' projected).lookup edge.producer =
      sources'.lookup edge.producer :=
    fun edge hedge => lookup_currentOf (h.rows.producer_layer (List.mem_map_of_mem hedge))
  have hstale : ∀ edge ∈ edges, isStale (currentOf sources' projected) edge = true ↔
      ∃ digest, sources'.lookup edge.producer = some digest ∧
        digest ≠ compiledDigest sources edge.producer := by
    intro edge hedge
    rw [isStale, hlookup edge hedge, h.digest edge hedge]
    cases sources'.lookup edge.producer with
    | none => simp
    | some digest => simp [compiledDigest]
  have hunbound : ∀ edge ∈ edges, isUnbound (currentOf sources' projected) edge = true ↔
      startsWith edge.producer "premise:" = true ∧ sources'.lookup edge.producer = none := by
    intro edge hedge
    rw [isUnbound, hlookup edge hedge, Bool.and_eq_true, Option.isNone_iff_eq_none]
  constructor
  · rintro ⟨req, hreq, ⟨digest, hfound, hmoved⟩ | ⟨ref, href, hmoved⟩⟩
    · obtain ⟨edge, hedge, hproducer, -⟩ := exists_edge.mp ((h.rows _ _).mpr
        ⟨req, hreq, mem_rowSpecs.mpr (.inr ⟨rfl, .inr (.inl rfl)⟩)⟩)
      refine ⟨edge, hedge, .inr ((hstale edge hedge).mpr ?_)⟩
      rw [hproducer]
      exact ⟨digest, hfound, hmoved⟩
    · obtain ⟨edge, hedge, hproducer, -⟩ := exists_edge.mp ((h.rows _ _).mpr
        ⟨req, hreq, mem_rowSpecs.mpr (.inl ⟨ref, href, rfl, rfl⟩)⟩)
      refine ⟨edge, hedge, ?_⟩
      rw [hunbound edge hedge, hstale edge hedge, hproducer]
      cases hfound : sources'.lookup (premiseRefKey ref) with
      | none => exact .inl ⟨startsWith_append, rfl⟩
      | some digest =>
        rw [hfound] at hmoved
        exact .inr ⟨digest, rfl, fun hsame => hmoved (congrArg some hsame)⟩
  · rintro ⟨edge, hedge, hmoved⟩
    rw [hunbound edge hedge, hstale edge hedge] at hmoved
    obtain ⟨req, hreq, hspec⟩ := (h.rows _ _).mp (exists_edge.mpr ⟨edge, hedge, rfl, rfl⟩)
    refine ⟨req, hreq, ?_⟩
    rcases mem_rowSpecs.mp hspec with ⟨ref, href, hprem, -⟩ | ⟨hrow, -⟩
    · refine .inr ⟨ref, href, ?_⟩
      rw [← hprem]
      rcases hmoved with ⟨-, hnone⟩ | ⟨digest, hfound, hne⟩
      · rw [hnone]
        exact nofun
      · rw [hfound]
        exact fun hsame => hne (Option.some.inj hsame)
    · rw [hrow] at hmoved
      rcases hmoved with ⟨hpremise, -⟩ | hmoved
      · have hlayer := layer_reqKey req.id
        rw [layer, if_pos hpremise] at hlayer
        omega
      · exact .inl hmoved

/-- Something is stale exactly if a producer is. -/
theorem CompiledFrom.stale_iff (h : CompiledFrom reqs sources edges) (current : Digests) :
    ∃ stale, impactOf edges (sortedTexts ((edges.filter (isStale current)).map Edge.producer)) =
        .ok stale ∧
      (stale.filter (· ∉ (edges.filter (isStale current)).map Edge.producer) = [] ↔
        ∀ edge ∈ edges, isStale current edge = false) := by
  obtain ⟨stale, hstale, hmem⟩ := h.rows.mem_impactOf
    (sortedTexts ((edges.filter (isStale current)).map Edge.producer))
  refine ⟨stale, hstale, ?_⟩
  rw [List.filter_eq_nil_iff]
  constructor
  · intro hnone edge hedge
    by_contra hmoved
    have hroot : edge.producer ∈ (edges.filter (isStale current)).map Edge.producer :=
      List.mem_map_of_mem (List.mem_filter.mpr ⟨hedge, by simpa using hmoved⟩)
    have hproducer : edge.producer ∈ edges.map Edge.producer := List.mem_map_of_mem hedge
    obtain ⟨req, hreq, hfeeds⟩ := h.rows.producer.mp hproducer
    have hproj : projKey "out/packets.json" ∈ stale := by
      rw [hmem]
      refine ⟨edge.producer, mem_sortedTexts.mpr hroot, ?_⟩
      refine (h.rows.reach_iff (h.rows.producer_layer hproducer) (layer_projKey _)).mpr
        ⟨req, hreq, hfeeds, mem_rowSpecs.mpr (.inr ⟨rfl, .inl ⟨_, by decide, rfl⟩⟩)⟩
    refine hnone _ hproj (decide_eq_true fun hsource => ?_)
    have hlayer : projKey "out/packets.json" ∈ edges.map Edge.producer :=
      List.map_subset _ (List.filter_subset_self _) hsource
    exact h.rows.producer_layer hlayer (layer_projKey _)
  · intro hfresh key hkey
    obtain ⟨source, hsource, -⟩ := (hmem key).mp hkey
    rw [mem_sortedTexts] at hsource
    obtain ⟨edge, hedge, -⟩ := List.mem_map.mp hsource
    obtain ⟨hedge, hmoved⟩ := List.mem_filter.mp hedge
    rw [hfresh edge hedge] at hmoved
    cases hmoved

/-- The court returns a verdict, and says ALIVE when there is nothing to refuse. -/
theorem CompiledFrom.exists_judge (h : CompiledFrom reqs sources edges) (py : PyRuntime)
    (current : Digests) (packets : List Packet) (baseline : Digests) (observed : Observed) :
    ∃ stale verdict, judge py edges current packets baseline observed = .ok verdict ∧
      (stale = [] ↔ ∀ edge ∈ edges, isStale current edge = false) ∧
      (verdict.standing = "ALIVE" ↔ (∀ edge ∈ edges, isUnbound current edge = false) ∧
        stale = [] ∧ (∀ edge ∈ edges, consumerRefusals current observed stale edge = []) ∧
        (∀ owner, DeltaOwner reqs sources baseline owner ↔
          some owner ∈ packets.map Packet.repository) ∧
        ∀ packet ∈ packets, packetRefusals py observed packet = []) := by
  obtain ⟨stale, hstale, hfresh⟩ := h.stale_iff current
  obtain ⟨impact, himpact, howners⟩ := h.mem_requiredOwners baseline
  rw [judge, h.rows.acyclic]
  simp only [judgeAcyclic, hstale, himpact]
  refine ⟨_, _, rfl, hfresh, ?_⟩
  have halive : ∀ refusals : List String,
      ((if refusals = [] then "ALIVE" else "REFUSED") = "ALIVE") ↔ refusals = [] := by
    intro refusals
    by_cases hnone : refusals = []
    · simp [hnone]
    · simp [hnone]
  rw [halive, sortedTexts_eq_nil]
  simp only [List.append_eq_nil_iff, List.map_eq_nil_iff, List.flatMap_eq_nil_iff,
    List.filter_eq_nil_iff, and_assoc, Bool.not_eq_true]
  refine and_congr_right fun _ => and_congr_right fun _ => and_congr_right fun _ => ?_
  rw [← and_assoc]
  refine and_congr_left fun _ => ?_
  simp only [howners, decide_eq_false_iff_not, not_not, List.reduceOption_mem_iff]
  constructor
  · rintro ⟨hrequired, hdeclared⟩ owner
    exact ⟨hrequired owner, hdeclared owner⟩
  · intro hall
    exact ⟨fun owner => (hall owner).mp, fun owner => (hall owner).mpr⟩

/-! ## What has changed -/

/-- A producer that is added, removed or has another digest. -/
def Changed (sources sources' : Digests) (key : String) : Prop :=
  sources.lookup key ≠ sources'.lookup key

/-- The owner of a row that goes by a node, before or after. -/
def Owns (reqs : List Requirement) (key owner : String) : Prop :=
  ∃ req ∈ reqs, req.ownerRepo = owner ∧ Feeds reqs key req

/-- Packets for some owners, with the authority that packets have. -/
def packetsFor (owners : List String) : List Packet :=
  owners.map fun owner => ⟨some owner, some "CONSTRUCT", some "normal"⟩

variable {owners : List String}

theorem packetRefusals_packetsFor {observed : Observed} :
    ∀ packet ∈ packetsFor owners, packetRefusals py observed packet = [] := by
  intro packet hpacket
  obtain ⟨owner, -, rfl⟩ := List.mem_map.mp hpacket
  simp [packetRefusals, requireAuthority]

theorem mem_packetsFor {owner : String} :
    some owner ∈ (packetsFor owners).map Packet.repository ↔ owner ∈ owners := by
  simp [packetsFor]

/-- With the packets that are due, and nothing observed, a graph is ALIVE unless it has moved. -/
theorem CompiledFrom.exists_alive (h : CompiledFrom reqs sources edges) (py : PyRuntime)
    {texts' : List (String × String)} (hsources : sourceDigests py texts' reqs' = .ok sources')
    (hmoved : ¬ Moved reqs sources sources') (baseline : Digests) :
    ∃ packets verdict, judge py edges (currentOf sources' []) packets baseline ⟨none, []⟩ =
        .ok verdict ∧ verdict.standing = "ALIVE" ∧
      ∀ owner, some owner ∈ packets.map Packet.repository →
        DeltaOwner reqs sources baseline owner := by
  obtain ⟨impact, -, howners⟩ := h.mem_requiredOwners baseline
  obtain ⟨stale, verdict, hjudge, hstale, halive⟩ := h.exists_judge py (currentOf sources' [])
    (packetsFor (ownersOf impact)) baseline ⟨none, []⟩
  have hfresh : ∀ edge ∈ edges, isUnbound (currentOf sources' []) edge = false ∧
      isStale (currentOf sources' []) edge = false := by
    intro edge hedge
    rw [h.moved_iff []] at hmoved
    constructor
    · by_contra hunbound
      exact hmoved ⟨edge, hedge, .inl (by simpa using hunbound)⟩
    · by_contra hroot
      exact hmoved ⟨edge, hedge, .inr (by simpa using hroot)⟩
  refine ⟨_, verdict, hjudge, halive.mpr ⟨fun edge hedge => (hfresh edge hedge).1,
    hstale.mpr fun edge hedge => (hfresh edge hedge).2, fun edge hedge => ?_, fun owner => ?_,
    packetRefusals_packetsFor⟩, fun owner howner => ?_⟩
  · have hconsumer : (currentOf sources' []).lookup edge.consumer = none ∨
        startsWith edge.consumer "proj:" = false := by
      obtain ⟨req, -, hspec⟩ := (h.rows _ _).mp (exists_edge.mpr ⟨edge, hedge, rfl, rfl⟩)
      rcases mem_rowSpecs.mp hspec with ⟨ref, -, -, hrow⟩ | ⟨-, hout⟩
      · rw [hrow]
        exact .inr (by simp [startsWith, reqKey]; rfl)
      · refine .inl (lookup_source hsources ?_)
        rcases hout with ⟨name, -, hname⟩ | hname | hname <;> rw [hname]
        · exact layer_projKey name
        · exact layer_packetKey _
        · exact layer_artifactKey _
    rcases hconsumer with hconsumer | hconsumer <;> simp [consumerRefusals, hconsumer]
  · rw [mem_packetsFor, howners]
  · exact (howners owner).mp (mem_packetsFor.mp howner)

/-- A verdict that is ALIVE covers the owners of whatever has changed, exactly when a compiled row
or a premise of one has moved, or every such owner is due for a packet. -/
theorem judge_complete_iff {inputs : CompileInputs} {texts texts' : List (String × String)}
    {projection : Projection} (hcompile : compileGraph py inputs texts = .ok projection)
    (hsources : sourceDigests py texts' reqs' = .ok sources') :
    (∀ projected packets observed verdict,
      judge py projection.graph.edges (currentOf sources' projected) packets
        projection.graph.baseline observed = .ok verdict → verdict.standing = "ALIVE" →
      ∀ key, Changed projection.graph.compiled sources' key →
        ∀ owner, Owns (inputs.requirements ++ reqs') key owner →
          some owner ∈ packets.map Packet.repository) ↔
      Moved inputs.requirements projection.graph.compiled sources' ∨
        ∀ key, Changed projection.graph.compiled sources' key →
          ∀ owner, Owns (inputs.requirements ++ reqs') key owner →
            DeltaOwner inputs.requirements projection.graph.compiled projection.graph.baseline
              owner := by
  have h := compiledFrom_of_compileGraph hcompile
  constructor
  · intro hcomplete
    by_cases hmoved : Moved inputs.requirements projection.graph.compiled sources'
    · exact .inl hmoved
    · obtain ⟨packets, verdict, hjudge, halive, hdue⟩ :=
        h.exists_alive py hsources hmoved projection.graph.baseline
      exact .inr fun key hkey owner howner =>
        hdue owner (hcomplete [] packets _ verdict hjudge halive key hkey owner howner)
  · intro hcover projected packets observed verdict hverdict halive key hkey owner howner
    obtain ⟨stale, verdict', hjudge, hstale, hiff⟩ := h.exists_judge py
      (currentOf sources' projected) packets projection.graph.baseline observed
    rw [hjudge] at hverdict
    obtain rfl := Except.ok.inj hverdict
    obtain ⟨hunbound, hnone, -, howners, -⟩ := hiff.mp halive
    rcases hcover with hmoved | hdue
    · obtain ⟨edge, hedge, hbad⟩ := (h.moved_iff projected).mp hmoved
      rw [hunbound edge hedge, (hstale.mp hnone) edge hedge] at hbad
      simp at hbad
    · exact (howners owner).mp (hdue key hkey owner howner)

/-! ## A row that is added -/

/-- A row about a repository. -/
def sampleRow (rid owner acceptance : String) : Requirement :=
  ⟨rid, "AC", "C", owner, acceptance, "ARTIFACT", owner ++ ":receipt.json", ["§1"], [], true⟩

def sampleTexts : List (String × String) := [("RFC-0004", "# 1. Closure\nEverything is closed.\n")]

def sampleInputs : CompileInputs where
  version := "v26.9.25"
  premiseId := "RFC-0004"
  requirements := [sampleRow "AC-01" "chatman/kernel" "closed"]
  pins := []
  prior := none

/-- The rows with one more, of another owner. -/
def sampleAdded : List Requirement :=
  [sampleRow "AC-01" "chatman/kernel" "closed", sampleRow "AC-02" "chatman/console" "closed"]

theorem exists_of_isOk {α : Type} {x : Outcome α} (h : x.isOk = true) : ∃ a, x = .ok a := by
  cases x with
  | error raised => cases h
  | ok a => exact ⟨a, rfl⟩

theorem exists_sampleProjection :
    ∃ projection, compileGraph samplePyRuntime sampleInputs sampleTexts = .ok projection :=
  exists_of_isOk (by decide +kernel)

/-- The premise has no section 1 any more. -/
theorem judge_complete_unbound : ∃ projection sources',
    compileGraph samplePyRuntime sampleInputs sampleTexts = .ok projection ∧
    sourceDigests samplePyRuntime [("RFC-0004", "# 2. Replay\n")] sampleInputs.requirements =
      .ok sources' ∧
    ∀ projected packets observed verdict,
      judge samplePyRuntime projection.graph.edges (currentOf sources' projected) packets
        projection.graph.baseline observed = .ok verdict → verdict.standing = "ALIVE" →
      ∀ key, Changed projection.graph.compiled sources' key →
        ∀ owner, Owns (sampleInputs.requirements ++ sampleInputs.requirements) key owner →
          some owner ∈ packets.map Packet.repository := by
  obtain ⟨projection, hcompile⟩ := exists_sampleProjection
  obtain ⟨sources', hsources⟩ : ∃ sources', sourceDigests samplePyRuntime
      [("RFC-0004", "# 2. Replay\n")] sampleInputs.requirements = .ok sources' :=
    exists_of_isOk (by decide +kernel)
  refine ⟨projection, sources', hcompile, hsources,
    (judge_complete_iff hcompile hsources).mpr (.inl ?_)⟩
  refine ⟨_, List.mem_singleton_self _, .inr ⟨"§1", List.mem_singleton_self _, ?_⟩⟩
  rw [lookup_premise hsources (layer_premiseRefKey _)]
  have hnone : (sectionDigests samplePyRuntime [("RFC-0004", "# 2. Replay\n")]).reverse.lookup
      (premiseRefKey "§1") = none := by
    decide +kernel
  rw [hnone]
  exact nofun

/-- The row of the console is added, and the kernel's packet is enough. -/
theorem added_row_alive : ∃ projection sources' packets verdict,
    compileGraph samplePyRuntime sampleInputs sampleTexts = .ok projection ∧
    sourceDigests samplePyRuntime sampleTexts sampleAdded = .ok sources' ∧
    judge samplePyRuntime projection.graph.edges (currentOf sources' []) packets
      projection.graph.baseline ⟨none, []⟩ = .ok verdict ∧ verdict.standing = "ALIVE" ∧
    Changed projection.graph.compiled sources' (reqKey "AC-02") ∧
    Owns (sampleInputs.requirements ++ sampleAdded) (reqKey "AC-02") "chatman/console" ∧
    some "chatman/console" ∉ packets.map Packet.repository := by
  obtain ⟨projection, hcompile⟩ := exists_sampleProjection
  obtain ⟨sources', hsources⟩ : ∃ sources',
      sourceDigests samplePyRuntime sampleTexts sampleAdded = .ok sources' :=
    exists_of_isOk (by decide +kernel)
  have h := compiledFrom_of_compileGraph hcompile
  have hcompiled := sources_of_compileGraph hcompile
  have hkept : ∀ req ∈ sampleInputs.requirements, ∃ digest,
      projection.graph.compiled.lookup (reqKey req.id) = some digest ∧
        sources'.lookup (reqKey req.id) = some digest := by
    intro req hreq
    obtain rfl := List.mem_singleton.mp hreq
    obtain ⟨digest, hdigest, hbefore⟩ := lookup_row hcompiled hreq (by decide)
    obtain ⟨digest', hdigest', hafter⟩ := lookup_row hsources (List.mem_cons_self ..) (by decide)
    rw [hdigest] at hdigest'
    obtain rfl := Except.ok.inj hdigest'
    exact ⟨digest, hbefore, hafter⟩
  have hsection : ((sectionDigests samplePyRuntime sampleTexts).reverse.lookup
      (premiseRefKey "§1")).isSome = true := by
    decide +kernel
  obtain ⟨section1, hsection⟩ := Option.isSome_iff_exists.mp hsection
  have hmoved : ¬ Moved sampleInputs.requirements projection.graph.compiled sources' := by
    rintro ⟨req, hreq, ⟨digest, hfound, hne⟩ | ⟨ref, href, hne⟩⟩
    · obtain ⟨digest', hbefore, hafter⟩ := hkept req hreq
      rw [hafter] at hfound
      rw [compiledDigest, hbefore] at hne
      exact hne (Option.some.inj hfound).symm
    · obtain rfl := List.mem_singleton.mp hreq
      obtain rfl := List.mem_singleton.mp href
      rw [compiledDigest, lookup_premise hsources (layer_premiseRefKey _),
        lookup_premise hcompiled (layer_premiseRefKey _), hsection] at hne
      exact hne rfl
  obtain ⟨packets, verdict, hjudge, halive, hdue⟩ :=
    h.exists_alive samplePyRuntime hsources hmoved projection.graph.baseline
  refine ⟨projection, sources', packets, verdict, hcompile, hsources, hjudge, halive, ?_, ?_, ?_⟩
  · have hbefore : projection.graph.compiled.lookup (reqKey "AC-02") = none :=
      lookup_absent hcompiled (by decide)
    have hadded : sampleRow "AC-02" "chatman/console" "closed" ∈ sampleAdded := by decide
    obtain ⟨digest, -, hafter⟩ := lookup_row hsources hadded (by decide)
    have hafter : sources'.lookup (reqKey "AC-02") = some digest := hafter
    rw [Changed, hbefore, hafter]
    exact nofun
  · exact ⟨sampleRow "AC-02" "chatman/console" "closed", by decide, rfl, .inl rfl⟩
  · intro howner
    obtain ⟨req, hreq, hconsole, -⟩ := hdue _ howner
    obtain rfl := List.mem_singleton.mp hreq
    exact absurd hconsole (by decide)

end ChatmanEcosystem.RootCrown
