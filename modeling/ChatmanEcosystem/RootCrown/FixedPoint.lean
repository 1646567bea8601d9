import ChatmanEcosystem.RootCrown.CrownVerdicts
import ChatmanEcosystem.RootCrown.ReleaseFiles

/-!
# The projector reaches a fixed point

What a compile writes is compiled again to the same files, whatever the graph before was, and the
recompile court has nothing to refuse in it.

Results:

* `compileGraph_iff`: what a compile takes from the graph before is its baseline.
* `compileGraph_again`: a compile from the graph that was written gives the same projection.
* `graphIn_graphDocument`: a graph that was written and read is the same, with its digests in order.
* `CompiledAs.mem_owners`: the compiler and the court agree on the owners.
-/

namespace ChatmanEcosystem.RootCrown

open Common Py Rust Relation

variable {py : PyRuntime} {reqs : List Requirement} {edges : List Edge}
  {sources baseline : Digests}

/-! ## Renewal -/

variable {prior : List Edge} {edge : Edge}

/-- An edge is the fresh one, renewed or not. -/
theorem renewFrom_eq {renewed : Edge} (h : renewFrom prior edge = .ok renewed) :
    renewed = edge := by
  obtain ⟨hproducer, hconsumer, hcompiled⟩ := renewFrom_eq_ok h
  have hdigest : renewed.consumerDigest = edge.consumerDigest := by
    rw [renewFrom] at h
    cases hold : prior.reverse.find? fun old =>
        old.producer = edge.producer ∧ old.consumer = edge.consumer with
    | none =>
      rw [hold] at h
      rw [Except.ok.inj h]
    | some old =>
      simp only [hold] at h
      by_cases hmoved : old.compiledFrom ≠ edge.compiledFrom
      · rw [if_pos hmoved] at h
        simp only [renewProjection, bind_eq_ok, ensure_eq_ok, pure_eq_ok] at h
        obtain ⟨_, -, rfl⟩ := h
        rfl
      · rw [if_neg hmoved] at h
        rw [Except.ok.inj h]
  cases renewed
  cases edge
  simp_all

theorem mapM_renewFrom {fresh renewed : List Edge}
    (h : fresh.mapM (renewFrom prior) = .ok renewed) :
    renewed = fresh := by
  have hall := forall₂_of_mapM h
  induction hall with
  | nil => rfl
  | cons hedge _ ih =>
    simp only [List.mapM_cons, bind_eq_ok, pure_eq_ok] at h
    obtain ⟨_, -, rest, hrest, hcons⟩ := h
    obtain ⟨-, rfl⟩ := List.cons.inj hcons
    rw [renewFrom_eq hedge, ih hrest]

/-- An edge that was compiled from the same sources is not renewed. -/
theorem CompiledFrom.renewFrom_self (h : CompiledFrom reqs sources edges) (hedge : edge ∈ edges) :
    renewFrom edges edge = .ok edge := by
  rw [renewFrom]
  cases hold : edges.reverse.find? fun old =>
      old.producer = edge.producer ∧ old.consumer = edge.consumer with
  | none => rfl
  | some old =>
    have hends : old.producer = edge.producer ∧ old.consumer = edge.consumer := by
      simpa using List.find?_some hold
    have hmem : old ∈ edges := List.mem_reverse.mp (List.mem_of_find?_eq_some hold)
    have hsame : old.compiledFrom = edge.compiledFrom := by
      rw [h.digest old hmem, h.digest edge hedge, hends.1]
    exact if_neg (not_not.mpr hsame)

theorem CompiledFrom.mapM_renewFrom_self (h : CompiledFrom reqs sources edges) :
    edges.mapM (renewFrom edges) = .ok edges :=
  mapM_self fun _ hedge => h.renewFrom_self hedge

/-! ## What a compile takes from the graph before -/

/-- The document of the packets. -/
def packetsDocument (version : String) (changed : List String) (packets : List Value) : Value :=
  .dict [("release", .str version), ("premise", .str primaryPremise),
    ("strategic_delta", .list (changed.map .str)), ("packets", .list packets)]

/-- The files that are projected, with their digests. -/
def projectedOf (py : PyRuntime) (projection : Projection) : Digests :=
  [("out/packets.json", py.sha256 projection.packets),
    ("out/requirements.ttl", py.sha256 projection.ttl)]

/-- The consumers of a projection, with their digests. -/
def consumersOf (py : PyRuntime) (projection : Projection) (packets : Digests) : Digests :=
  ofPairs ((projectedOf py projection).map (fun item => (projKey item.1, item.2)) ++ packets)

/-- A projection as it is compiled from what has changed. -/
structure CompiledAs (py : PyRuntime) (inputs : CompileInputs) (texts : List (String × String))
    (changed impact : List String) (projection : Projection) : Prop where
  sources : sourceDigests py texts inputs.requirements = .ok projection.graph.compiled
  reached : ∃ probe, buildEdges inputs.requirements projection.graph.compiled [] = .ok probe ∧
    impactOf probe changed = .ok impact
  packets : jsonBytes py (packetsDocument inputs.version changed
    ((packetsOf py inputs.requirements impact changed inputs.pins).map Prod.snd)) =
      .ok projection.packets
  ttl : renderTtl py inputs = .ok projection.ttl
  edges : ∃ digests, ((packetsOf py inputs.requirements impact changed inputs.pins).mapM
      fun packet => do return (packetKey packet.1, py.sha256 (← jsonBytes py packet.2))) =
        .ok digests ∧
    buildEdges inputs.requirements projection.graph.compiled (consumersOf py projection digests) =
      .ok projection.graph.edges

variable {inputs : CompileInputs} {texts : List (String × String)} {projection : Projection}

/-- What a compile takes from the graph before is the baseline. -/
theorem compileGraph_iff : compileGraph py inputs texts = .ok projection ↔
      projection.graph.baseline = baselineOf inputs.prior projection.graph.compiled ∧
      (∃ impact, CompiledAs py inputs texts
        (delta projection.graph.baseline projection.graph.compiled) impact projection) ∧
      projection.graph.edges.mapM (renewFrom ((inputs.prior.map BerthierGraph.edges).getD [])) =
        .ok projection.graph.edges := by
  simp only [compileGraph, bind_eq_ok, pure_eq_ok]
  constructor
  · rintro ⟨sources, hsources, probe, hprobe, impact, himpact, packets, hpackets, ttl, httl,
      digests,
      hdigests, fresh, hfresh, edges, hedges, rfl⟩
    obtain rfl := mapM_renewFrom hedges
    exact ⟨rfl, ⟨impact, hsources, ⟨probe, hprobe, himpact⟩, hpackets, httl,
      ⟨digests, by simpa only [bind_eq_ok, pure_eq_ok] using hdigests, hfresh⟩⟩, hedges⟩
  · rintro ⟨hbaseline, ⟨impact, hsources, ⟨probe, hprobe, himpact⟩, hpackets, httl,
      ⟨digests, hdigests, hfresh⟩⟩, hedges⟩
    rw [hbaseline] at himpact hpackets hdigests
    refine ⟨_, hsources, probe, hprobe, impact, himpact, _, hpackets, _, httl, digests, hdigests, _,
      hfresh, _, hedges, ?_⟩
    rw [← hbaseline]

theorem nodup_sources (h : sourceDigests py texts reqs = .ok sources) :
    (sources.map Prod.fst).Nodup := by
  simp only [sourceDigests, bind_eq_ok, pure_eq_ok] at h
  obtain ⟨rows, -, rfl⟩ := h
  exact nodup_ofPairs

/-- The order of its keys is not part of a dictionary. -/
theorem sameDigests_orderItems {digests : Digests} (h : (digests.map Prod.fst).Nodup) :
    sameDigests (orderItems digests) digests = true := by
  rw [sameDigests, Bool.and_eq_true, List.all_eq_true]
  refine ⟨by simp [(orderItems_perm digests).length_eq], fun item hitem => ?_⟩
  rw [decide_eq_true_eq, lookup_eq_some_iff h]
  exact (orderItems_perm digests).mem_iff.mp hitem

theorem delta_orderItems (baseline current : Digests) :
    delta (orderItems baseline) current = delta baseline current := by
  simp only [delta, lookup_orderItems]

/-- A graph with its digests in the order of their keys. -/
def BerthierGraph.inOrder (graph : BerthierGraph) : BerthierGraph where
  edges := graph.edges
  baseline := orderItems graph.baseline
  compiled := orderItems graph.compiled

/-- A compile from the graph that was written gives the same projection, with the baseline in
order. -/
theorem compileGraph_again (h : compileGraph py inputs texts = .ok projection) :
    compileGraph py { inputs with prior := some projection.graph.inOrder } texts =
      .ok { projection with graph :=
              { projection.graph with baseline := orderItems projection.graph.baseline } } := by
  have hfrom := compiledFrom_of_compileGraph h
  obtain ⟨-, ⟨impact, hcompiled⟩, -⟩ := compileGraph_iff.mp h
  rw [compileGraph_iff]
  refine ⟨?_, ⟨impact, ?_⟩, hfrom.mapM_renewFrom_self⟩
  · have hsame := sameDigests_orderItems (nodup_sources hcompiled.sources)
    exact (if_pos hsame).symm
  · dsimp only
    rw [delta_orderItems]
    exact ⟨hcompiled.sources, hcompiled.reached, hcompiled.packets, hcompiled.ttl, hcompiled.edges⟩

/-! ## What is read of what was written -/

/-- `json.loads` reads a document that was written. -/
def ReadsBack (py : PyRuntime) (loads : String → Outcome Value) (document : Value) : Prop :=
  ∀ text, jsonBytes py document = .ok text → loads text = .ok (sortKeys document)

theorem sortKeys_str (text : String) : sortKeys (.str text) = .str text := by
  simp [sortKeys]

theorem sortKeys_digests (digests : Digests) :
    sortKeys (digestsDocument digests) = digestsDocument digests := by
  rw [digestsDocument, sortKeys_dict, List.map_map]
  have hmap : ((fun member : String × Value => (member.1, sortKeys member.2)) ∘
      fun item : String × String => (item.1, Value.str item.2)) =
        fun item => (item.1, Value.str item.2) := by
    funext item
    simp [sortKeys_str]
  rw [hmap, orderItems_map, orderItems_orderItems]

theorem digestsOf_document (digests : Digests) :
    digestsOf (digestsDocument digests) = .ok (orderItems digests) := by
  rw [digestsDocument, digestsOf, List.mapM_map]
  exact mapM_self fun _ _ => rfl

variable {members : Dict} {key : String} {value : Value}

/-- A member of a document that was written. -/
theorem itemOf_sortKeys (h : members.lookup key = some value) :
    itemOf (sortKeys (.dict members)) key = .ok (sortKeys value) := by
  rw [sortKeys_dict, itemOf, Value.item, lookup_sortKeys, h]
  rfl

theorem getOr_sortKeys {default : Value} (h : members.lookup key = some value) :
    getOr (sortKeys (.dict members)) key default = .ok (sortKeys value) := by
  rw [sortKeys_dict, getOr, Dict.getD, lookup_sortKeys, h]
  rfl

theorem edgeOf_document (edge : Edge) : edgeOf (sortKeys edge.document) = .ok edge := by
  have hproducer : itemOf (sortKeys edge.document) "producer" = .ok (.str edge.producer) := by
    rw [Edge.document, itemOf_sortKeys (by rfl), sortKeys_str]
  have hconsumer : itemOf (sortKeys edge.document) "consumer" = .ok (.str edge.consumer) := by
    rw [Edge.document, itemOf_sortKeys (by rfl), sortKeys_str]
  have hcompiled : itemOf (sortKeys edge.document) "compiled_from" =
      .ok (.str edge.compiledFrom) := by
    rw [Edge.document, itemOf_sortKeys (by rfl), sortKeys_str]
  have hdigest : getOr (sortKeys edge.document) "consumer_digest" (.str unobserved) =
      .ok (.str edge.consumerDigest) := by
    rw [Edge.document, getOr_sortKeys (by rfl), sortKeys_str]
  rw [edgeOf, hproducer, hconsumer, hcompiled, hdigest]
  rfl

/-- A document with members is read for its parts. -/
theorem graphIn_dict (h : members ≠ []) : graphIn (.dict members) = (do
    let edges ← (← iterateOver (← itemOf (.dict members) "edges")).mapM edgeOf
    let baseline ← digestsOf (← itemOf (.dict members) "baseline")
    let compiled ← digestsOf (← itemOf (.dict members) "compiled")
    return some { edges, baseline, compiled }) := by
  cases members with
  | nil => exact absurd rfl h
  | cons member members => rfl

/-- A graph that was written is read with its digests in order. -/
theorem graphIn_graphDocument (graph : BerthierGraph) :
    graphIn (sortKeys (graphDocument graph)) = .ok (some graph.inOrder) := by
  have hedges : itemOf (sortKeys (graphDocument graph)) "edges" =
      .ok (.list ((graph.edges.map Edge.document).map sortKeys)) := by
    rw [graphDocument, itemOf_sortKeys (by rfl), sortKeys_list]
  have hbaseline : itemOf (sortKeys (graphDocument graph)) "baseline" =
      .ok (digestsDocument graph.baseline) := by
    rw [graphDocument, itemOf_sortKeys (by rfl), sortKeys_digests]
  have hcompiled : itemOf (sortKeys (graphDocument graph)) "compiled" =
      .ok (digestsDocument graph.compiled) := by
    rw [graphDocument, itemOf_sortKeys (by rfl), sortKeys_digests]
  have hrows : ((graph.edges.map Edge.document).map sortKeys).mapM edgeOf = .ok graph.edges := by
    rw [List.map_map, List.mapM_map]
    exact mapM_self fun edge _ => edgeOf_document edge
  have hdocument : graphIn (sortKeys (graphDocument graph)) = (do
      let edges ← (← iterateOver (← itemOf (sortKeys (graphDocument graph)) "edges")).mapM edgeOf
      let baseline ← digestsOf (← itemOf (sortKeys (graphDocument graph)) "baseline")
      let compiled ← digestsOf (← itemOf (sortKeys (graphDocument graph)) "compiled")
      return some { edges, baseline, compiled }) := by
    rw [graphDocument, sortKeys_dict]
    refine graphIn_dict fun hnone => ?_
    have hlength := (orderItems_perm _).length_eq.symm.trans (congrArg List.length hnone)
    simp at hlength
  rw [hdocument, hedges, hbaseline, hcompiled]
  have hlist : iterateOver (.list ((graph.edges.map Edge.document).map sortKeys)) =
      .ok ((graph.edges.map Edge.document).map sortKeys) := rfl
  simp only [bind, Except.bind, hlist, hrows, digestsOf_document]
  rfl

variable {pins : List Pin} {changed : List String}

/-- The court reads the repository, the authority and the mode of a packet that was written. -/
theorem packetIn_document {mine : List Requirement} {owner : String} :
    packetIn (sortKeys (packetDocument py pins changed mine owner)) =
      .ok ⟨some owner, some "CONSTRUCT", some "normal"⟩ := by
  obtain ⟨members, hmembers, ref, sha, hsubject, hceiling, hmode⟩ : ∃ members : Dict,
      packetDocument py pins changed mine owner = .dict members ∧ ∃ ref sha,
      members.lookup "subject" =
        some (.dict [("repository", .str owner), ("ref", ref), ("sha", sha)]) ∧
      members.lookup "authority_ceiling" = some (.str "CONSTRUCT") ∧
      members.lookup "mode" = some (.str "normal") :=
    ⟨_, rfl, _, _, rfl, rfl, rfl⟩
  rw [packetIn, hmembers, getOr_sortKeys hsubject, getOr_sortKeys hceiling, getOr_sortKeys hmode,
    sortKeys_str, sortKeys_str]
  have hrepository : getOr (sortKeys (.dict [("repository", .str owner), ("ref", ref),
      ("sha", sha)])) "repository" .null = .ok (.str owner) := by
    rw [getOr_sortKeys (by rfl), sortKeys_str]
  simp only [bind, Except.bind, hrepository]
  rfl

variable {impact : List String}

/-- The packets that were written are read with their owners. -/
theorem packetsIn_packetsDocument {version : String} :
    packetsIn (sortKeys (packetsDocument version changed
      ((packetsOf py reqs impact changed pins).map Prod.snd))) =
        .ok (packetsFor (ownersOf impact)) := by
  have hitem : itemOf (sortKeys (packetsDocument version changed
      ((packetsOf py reqs impact changed pins).map Prod.snd))) "packets" =
        .ok (.list (((packetsOf py reqs impact changed pins).map Prod.snd).map sortKeys)) := by
    rw [packetsDocument, itemOf_sortKeys (by rfl), sortKeys_list]
  have hpackets : (((packetsOf py reqs impact changed pins).map Prod.snd).map sortKeys).mapM
      packetIn = .ok (packetsFor (ownersOf impact)) := by
    rw [packetsOf, List.map_map, List.map_map, List.mapM_map, packetsFor]
    exact mapM_ok fun owner _ => packetIn_document
  rw [packetsIn, hitem]
  exact hpackets

/-! ## The owners -/

theorem compiledFrom_of_buildEdges {consumers : Digests}
    (h : buildEdges reqs sources consumers = .ok edges) : CompiledFrom reqs sources edges := by
  have hsame : edges.mapM (renewFrom []) = .ok edges := mapM_self fun _ _ => rfl
  exact compiledFrom_of_renewed h hsame

/-- What has changed among the sources. -/
theorem mem_delta_sources (h : (sources.map Prod.fst).Nodup) :
    key ∈ delta baseline sources ↔
      ∃ digest, sources.lookup key = some digest ∧ baseline.lookup key ≠ some digest := by
  simp only [delta, mem_sorted, List.mem_map, List.mem_filter, decide_eq_true_eq]
  constructor
  · rintro ⟨item, ⟨hitem, hmoved⟩, rfl⟩
    exact ⟨item.2, (lookup_eq_some_iff h).mpr hitem, hmoved⟩
  · rintro ⟨digest, hfound, hmoved⟩
    exact ⟨(key, digest), ⟨(lookup_eq_some_iff h).mp hfound, hmoved⟩, rfl⟩

/-- Every row refers to premises that are among the sources. -/
def Bound (reqs : List Requirement) (sources : Digests) : Prop :=
  ∀ req ∈ reqs, ∀ ref ∈ req.premiseRefs, (sources.lookup (premiseRefKey ref)).isSome = true

theorem Bound.isSome_feeds (hbound : Bound reqs sources)
    (hsources : sourceDigests py texts reqs = .ok sources) {req : Requirement} (hreq : req ∈ reqs)
    (hfeeds : Feeds reqs key req) : (sources.lookup key).isSome = true := by
  rcases hfeeds with rfl | ⟨other, hother, -, ref, href, rfl⟩
  · obtain ⟨rows, hrows, hlookup⟩ := lookup_sources hsources
    obtain ⟨item, hitem⟩ := ok_of_mapM hrows hreq
    obtain ⟨digest, -, rfl⟩ := rowDigest_eq_ok.mp hitem
    have hmem : (reqKey req.id, digest) ∈ rows.reverse :=
      List.mem_reverse.mpr ((mem_of_mapM hrows).mpr ⟨req, hreq, hitem⟩)
    have hsome : (rows.reverse.lookup (reqKey req.id)).isSome = true := by
      by_contra hnone
      rw [Option.not_isSome_iff_eq_none, List.lookup_eq_none_iff] at hnone
      exact absurd (hnone _ hmem) (by simp)
    rw [hlookup, Option.isSome_or, hsome, Bool.true_or]
  · exact hbound other hother ref href

/-- The compiler's owners are those that the court requires packets of. -/
theorem Bound.mem_owners (hbound : Bound reqs sources)
    (hsources : sourceDigests py texts reqs = .ok sources) (h : CompiledFrom reqs sources edges)
    (himpact : impactOf edges (delta baseline sources) = .ok impact) (owner : String) :
    owner ∈ ownersOf impact ↔ DeltaOwner reqs sources baseline owner := by
  obtain ⟨impact', himpact', hmem⟩ := h.rows.mem_impactOf (delta baseline sources)
  rw [himpact] at himpact'
  obtain rfl := Except.ok.inj himpact'
  rw [mem_ownersOf, hmem, DeltaOwner]
  constructor
  · rintro ⟨source, hsource, hreach⟩
    obtain ⟨digest, hfound, hmoved⟩ := (mem_delta_sources (nodup_sources hsources)).mp hsource
    have hlayer : layer source ≠ 2 := by
      intro hlast
      rw [lookup_source hsources hlast] at hfound
      cases hfound
    obtain ⟨req, hreq, hfeeds, hpacket⟩ :=
      (h.rows.reach_iff hlayer (layer_packetKey owner)).mp hreach
    refine ⟨req, hreq, packetKey_mem_rowSpecs.mp hpacket, source, hfeeds, ?_⟩
    rw [compiledDigest, hfound]
    exact hmoved
  · rintro ⟨req, hreq, howner, source, hfeeds, hmoved⟩
    have hproducer := h.rows.producer.mpr ⟨req, hreq, hfeeds⟩
    obtain ⟨digest, hfound⟩ :=
      Option.isSome_iff_exists.mp (hbound.isSome_feeds hsources hreq hfeeds)
    rw [compiledDigest, hfound] at hmoved
    refine ⟨source, (mem_delta_sources (nodup_sources hsources)).mpr ⟨digest, hfound, hmoved⟩, ?_⟩
    exact (h.rows.reach_iff (h.rows.producer_layer hproducer) (layer_packetKey owner)).mpr
      ⟨req, hreq, hfeeds, packetKey_mem_rowSpecs.mpr howner⟩

/-- The owners of an impact are in order, each once. -/
theorem sortedTexts_ownersOf (h : impactOf edges changed = .ok impact) :
    sortedTexts (ownersOf impact) = ownersOf impact := by
  have hnodup : impact.Nodup := by
    simp only [impactOf, bind_eq_ok, pure_eq_ok] at h
    obtain ⟨reached, -, rfl⟩ := h
    exact (pairwise_sortedTexts _).imp fun hlt => ne_of_lt hlt
  have howners : ((impact.filter (startsWith · "packet:")).map (dropText · "packet:")).Nodup := by
    refine List.Nodup.map_on ?_ (hnodup.filter _)
    intro a ha b hb hsame
    obtain ⟨owner, rfl⟩ := startsWith_packet.mp (List.mem_filter.mp ha).2
    obtain ⟨owner', rfl⟩ := startsWith_packet.mp (List.mem_filter.mp hb).2
    simpa [dropText, packetKey] using hsame
  rw [sortedTexts, ownersOf, ((sorted_perm _).nodup_iff.mpr howners).dedup]
  exact sorted_eq_of_perm (sorted_perm _)

variable {current : Digests} {observed : Observed}

/-- Whom a verdict requires packets of. -/
theorem CompiledFrom.owners_of_judge (h : CompiledFrom reqs sources edges) {packets : List Packet}
    {verdict : BerthierVerdict}
    (hjudge : judge py edges current packets baseline observed = .ok verdict) :
    impactOf edges (delta baseline (compiledOf edges)) = .ok verdict.impact ∧
      verdict.requiredOwners = sortedTexts (ownersOf verdict.impact) := by
  rw [judge, h.rows.acyclic] at hjudge
  simp only [judgeAcyclic, bind_eq_ok, pure_eq_ok] at hjudge
  obtain ⟨stale, -, impact, himpact, rfl⟩ := hjudge
  exact ⟨himpact, rfl⟩

/-! ## The verdict on what was written -/

/-- A graph has not moved from the sources that it was compiled from. -/
theorem Bound.not_moved (hbound : Bound reqs sources) : ¬ Moved reqs sources sources := by
  rintro ⟨req, hreq, ⟨digest, hfound, hne⟩ | ⟨ref, href, hne⟩⟩
  · rw [compiledDigest, hfound] at hne
    exact hne rfl
  · obtain ⟨digest, hfound⟩ := Option.isSome_iff_exists.mp (hbound req hreq ref href)
    rw [compiledDigest, hfound] at hne
    exact hne rfl

/-- The consumers that are no packets. -/
theorem lookup_consumersOf {packets : List (String × Value)} {digests : Digests}
    (projection : Projection) (h : (packets.mapM fun packet => do
      return (packetKey packet.1, py.sha256 (← jsonBytes py packet.2))) = .ok digests)
    (hkey : ∀ owner, packetKey owner ≠ key) : (consumersOf py projection digests).lookup key =
      ((projectedOf py projection).map fun item => (projKey item.1,
        item.2)).reverse.lookup key := by
  have hpacket : digests.reverse.lookup key = none := by
    rw [List.lookup_eq_none_iff]
    intro item hitem
    obtain ⟨packet, -, hitem⟩ := (mem_of_mapM h).mp (List.mem_reverse.mp hitem)
    simp only [bind_eq_ok, pure_eq_ok] at hitem
    obtain ⟨text, -, rfl⟩ := hitem
    rw [bne_iff_ne]
    exact (hkey packet.1).symm
  rw [consumersOf, lookup_ofPairs, List.reverse_append, List.lookup_append, hpacket, Option.none_or]

/-- The court sees the digest of an output that the compile has written. -/
theorem lookup_projected (py : PyRuntime) (sources : Digests) (projection : Projection)
    {name : String} (hname : name ∈ projectedOutputs) : ∃ digest,
      ((projectedOf py projection).map fun item => (projKey item.1, item.2)).reverse.lookup
        (projKey name) = some digest ∧
      (currentOf sources (projectedOf py projection)).lookup (projKey name) = some digest := by
  simp only [currentOf, projectedOf, List.foldl_cons, List.foldl_nil, lookup_setItem]
  rcases List.mem_cons.mp hname with rfl | hname
  · exact ⟨_, rfl, rfl⟩
  · rw [List.mem_singleton.mp hname]
    exact ⟨_, rfl, rfl⟩

theorem consumerRefusals_of_plain (hproj : startsWith edge.consumer "proj:" = false)
    (hartifact : startsWith edge.consumer "artifact:" = false) :
    consumerRefusals current observed [] edge = [] := by
  simp [consumerRefusals, hproj, hartifact]

theorem consumerRefusals_of_current
    (hcurrent : current.lookup edge.consumer = some edge.consumerDigest)
    (hartifact : startsWith edge.consumer "artifact:" = false) :
    consumerRefusals current observed [] edge = [] := by
  simp [consumerRefusals, hcurrent, hartifact]

theorem consumerRefusals_of_unobserved (hproj : startsWith edge.consumer "proj:" = false)
    (hdigest : edge.consumerDigest = unobserved) :
    consumerRefusals current observed [] edge = [] := by
  simp [consumerRefusals, hproj, hdigest]

/-- No consumer of a graph is refused right after the compile. -/
theorem CompiledAs.consumers (h : CompiledAs py inputs texts changed impact projection)
    (observed : Observed) (hedge : edge ∈ projection.graph.edges) :
    consumerRefusals (currentOf projection.graph.compiled (projectedOf py projection)) observed []
      edge = [] := by
  obtain ⟨digests, hdigests, hedges⟩ := h.edges
  simp only [buildEdges, bind_eq_ok, pure_eq_ok] at hedges
  obtain ⟨_, -, hedges⟩ := hedges
  rw [← hedges] at hedge
  obtain ⟨⟨producer, consumer⟩, hspec, rfl⟩ := List.mem_map.mp hedge
  obtain ⟨req, -, hspec⟩ := mem_edgeSpecs.mp hspec
  rcases mem_rowSpecs.mp hspec with ⟨ref, -, -, rfl⟩ | ⟨-, ⟨name, hname, rfl⟩ | rfl | rfl⟩
  · exact consumerRefusals_of_plain startsWith_reqKey.1 startsWith_reqKey.2
  · obtain ⟨digest, hwritten, hcurrent⟩ :=
      lookup_projected py projection.graph.compiled projection hname
    have hdigest := lookup_consumersOf projection hdigests
      fun owner => @packetKey_ne_projKey owner name
    refine consumerRefusals_of_current ?_ startsWith_projKey
    rw [freshEdge, hdigest, hwritten]
    exact hcurrent
  · exact consumerRefusals_of_plain startsWith_packetKey.1 startsWith_packetKey.2
  · have hdigest := lookup_consumersOf projection hdigests
      fun owner => @packetKey_ne_artifactKey owner req.evidenceLocator
    have hnone : ((projectedOf py projection).map fun item =>
        (projKey item.1, item.2)).reverse.lookup (artifactKey req.evidenceLocator) = none := by
      rw [List.lookup_eq_none_iff]
      intro item hitem
      obtain ⟨output, -, rfl⟩ := List.mem_map.mp (List.mem_reverse.mp hitem)
      exact bne_iff_ne.mpr artifactKey_ne_projKey
    refine consumerRefusals_of_unobserved startsWith_artifactKey ?_
    rw [freshEdge, hdigest, hnone]
    rfl

/-- The court has nothing to refuse in what was compiled, and requires the packets that are
declared. -/
theorem CompiledAs.exists_verdict
    (h : CompiledAs py inputs texts (delta baseline projection.graph.compiled) impact projection)
    (hfrom : CompiledFrom inputs.requirements projection.graph.compiled projection.graph.edges)
    (hbound : Bound inputs.requirements projection.graph.compiled) (observed : Observed) :
    ∃ verdict, judge py projection.graph.edges
        (currentOf projection.graph.compiled (projectedOf py projection))
        (packetsFor (ownersOf impact)) baseline observed = .ok verdict ∧
      verdict.standing = "ALIVE" ∧ verdict.requiredOwners = ownersOf impact ∧
      ∀ owner, owner ∈ verdict.requiredOwners ↔ packetKey owner ∈ verdict.impact := by
  obtain ⟨stale, verdict, hjudge, hstale, halive⟩ := hfrom.exists_judge py
    (currentOf projection.graph.compiled (projectedOf py projection)) (packetsFor (ownersOf impact))
    baseline observed
  obtain ⟨probe, hprobe, himpact⟩ := h.reached
  have howners : ∀ owner, owner ∈ ownersOf impact ↔
      DeltaOwner inputs.requirements projection.graph.compiled baseline owner :=
    hbound.mem_owners h.sources (compiledFrom_of_buildEdges hprobe) himpact
  have hfresh : ∀ edge ∈ projection.graph.edges,
      isUnbound (currentOf projection.graph.compiled (projectedOf py projection)) edge = false ∧
        isStale (currentOf projection.graph.compiled (projectedOf py projection)) edge = false := by
    have hmoved := hbound.not_moved
    rw [hfrom.moved_iff (projectedOf py projection)] at hmoved
    intro edge hedge
    constructor
    · by_contra hunbound
      exact hmoved ⟨edge, hedge, .inl (by simpa using hunbound)⟩
    · by_contra hroot
      exact hmoved ⟨edge, hedge, .inr (by simpa using hroot)⟩
  have hnone : stale = [] := hstale.mpr fun edge hedge => (hfresh edge hedge).2
  obtain ⟨hrequired, hsorted⟩ := hfrom.owners_of_judge hjudge
  have hsame : verdict.requiredOwners = ownersOf impact := by
    obtain ⟨impact', himpact', hmem⟩ := hfrom.mem_requiredOwners baseline
    rw [hrequired] at himpact'
    obtain rfl := Except.ok.inj himpact'
    rw [hsorted, ← sortedTexts_ownersOf himpact]
    exact sortedTexts_congr fun owner => (hmem owner).trans (howners owner).symm
  refine ⟨verdict, hjudge, halive.mpr ⟨fun edge hedge => (hfresh edge hedge).1, hnone,
    fun edge hedge => ?_, fun owner => ?_, packetRefusals_packetsFor⟩, hsame, fun owner => ?_⟩
  · rw [hnone]
    exact h.consumers observed hedge
  · rw [mem_packetsFor, howners]
  · rw [hsorted, mem_sortedTexts, mem_ownersOf]

/-! ## Admission -/

/-- Every row refers to sections of the premises that are compiled. -/
def Admissible (py : PyRuntime) (inputs : HandWritten) : Prop :=
  ∀ req ∈ inputs.requirements, ∀ ref ∈ req.premiseRefs, ∃ text,
    (premiseInput inputs).lookup ((splitRef ref).1.getD primaryPremise) = some text ∧
      (splitRef ref).2 ∈ (premiseSections py text).map Prod.fst

theorem mem_of_lookup {β : Type} {items : List (String × β)} {value : β}
    (h : items.lookup key = some value) : (key, value) ∈ items := by
  obtain ⟨before, after, rfl, -⟩ := List.lookup_eq_some_iff.mp h
  simp

theorem Admissible.bound {inputs : HandWritten} (h : Admissible py inputs)
    (hsources : sourceDigests py (premiseInput inputs) inputs.requirements = .ok sources) :
    Bound inputs.requirements sources := by
  intro req hreq ref href
  obtain ⟨text, htext, hsection⟩ := h req hreq ref href
  obtain ⟨found, hfound, hname⟩ := List.mem_map.mp hsection
  have hmem : (premiseRefKey ref, py.sha256 found.2) ∈
      (sectionDigests py (premiseInput inputs)).reverse := by
    rw [List.mem_reverse, sectionDigests, List.mem_flatMap]
    refine ⟨_, (List.perm_insertionSort _ _).mem_iff.mpr (mem_of_lookup htext), ?_⟩
    refine List.mem_map.mpr ⟨found, hfound, ?_⟩
    rw [hname]
    rfl
  rw [lookup_premise hsources (layer_premiseRefKey ref)]
  by_contra hnone
  rw [Option.not_isSome_iff_eq_none, List.lookup_eq_none_iff] at hnone
  exact absurd (hnone _ hmem) (by simp)

/-- The sections of the premise that a reference names, as the admission finds them. -/
def admittedSections (py : PyRuntime) (premise : Premise) :
    Option String → List (String × String)
  | none => premiseSections py premise.rfcText
  | some rfc => ((premise.premiseSet.lookup rfc).map (premiseSections py)).getD []

variable {premise : Premise} {doc : RequirementsDoc}

/-- What the admission finds of the premises of the rows. -/
theorem sections_of_validate (h : validateRequirements py premise doc = []) :
    (∀ primary, doc.primary = some primary → some primary ∉ doc.members.map PremiseEntry.rfcId) ∧
      ∀ row ∈ doc.rows, ∀ ref ∈ row.premiseRefs,
        (splitRef ref).2 ∈ (admittedSections py premise (splitRef ref).1).map Prod.fst := by
  unfold validateRequirements at h
  split_ifs at h with hrows
  simp only [sortedTexts_eq_nil, List.append_eq_nil_iff, List.flatMap_eq_nil_iff,
    List.map_eq_nil_iff] at h
  obtain ⟨⟨⟨⟨⟨⟨⟨⟨-, hset⟩, hmalformed⟩, hwell⟩, -⟩, -⟩, -⟩, -⟩, -⟩ := h
  constructor
  · intro primary hprimary hmember
    simp only [premiseSetRefusals, List.append_eq_nil_iff, hprimary, if_pos hmember] at hset
    exact absurd hset.1.2 (List.cons_ne_nil _ _)
  · intro row hrow ref href
    have hrow := hwell row (List.mem_filter.mpr ⟨hrow, decide_eq_true (hmalformed row hrow)⟩)
    simp only [rowRefusals, List.append_eq_nil_iff, List.filterMap_eq_nil_iff] at hrow
    have hfound := hrow.1.2 ref href
    by_contra hmissing
    cases hrfc : (splitRef ref).1 with
    | none =>
      rw [hrfc] at hmissing hfound
      exact absurd ((if_neg hmissing).symm.trans hfound) (Option.some_ne_none _)
    | some rfc =>
      rw [hrfc] at hmissing hfound
      exact absurd ((if_neg hmissing).symm.trans hfound) (Option.some_ne_none _)

/-- Rows that are admitted under the premise `RFC-0004` refer to what is compiled. -/
theorem admissible_of_validate {inputs : HandWritten} (hrows : doc.rows = inputs.requirements)
    (hrfc : premise.rfcText = inputs.rfcText) (hset : premise.premiseSet = inputs.premiseSet)
    (hprimary : doc.primary = some primaryPremise)
    (hmembers : ∀ item ∈ inputs.premiseSet, some item.1 ∈ doc.members.map PremiseEntry.rfcId)
    (h : validateRequirements py premise doc = []) : Admissible py inputs := by
  obtain ⟨hprimary', hsections⟩ := sections_of_validate h
  have hother := hprimary' primaryPremise hprimary
  intro req hreq ref href
  have hfound := hsections req (hrows ▸ hreq) ref href
  cases hname : (splitRef ref).1 with
  | none =>
    rw [hname, admittedSections, hrfc] at hfound
    exact ⟨inputs.rfcText, by rw [premiseInput, lookup_setItem]; rfl, hfound⟩
  | some rfc =>
    rw [hname, admittedSections, hset] at hfound
    cases htext : inputs.premiseSet.lookup rfc with
    | none =>
      rw [htext] at hfound
      exact absurd hfound List.not_mem_nil
    | some text =>
      rw [htext] at hfound
      have hne : rfc ≠ primaryPremise := by
        rintro rfl
        exact hother (hmembers _ (mem_of_lookup htext))
      refine ⟨text, ?_, hfound⟩
      rw [premiseInput, lookup_setItem, Option.getD_some, if_neg hne]
      exact htext

theorem admissible_crownRows :
    let release := sampleRelease ["AC-02"] "local:a"
    Admissible samplePyRuntime ⟨"v26.9.25", "RFC-0004", release.doc.rows, .null, .null, .null,
      release.rfcText, [], []⟩ := by
  intro release
  have haccepted : validateRequirements samplePyRuntime release.premise release.doc = [] := by
    decide +kernel
  exact admissible_of_validate rfl rfl rfl rfl (List.forall_mem_nil _) haccepted

/-! ## Writing and checking -/

section Files

variable {courts : ManifestCourts} {loads : String → Outcome Value} {dir before after : ReleaseDir}

/-- The document of the packets that a graph was compiled with. -/
def packetsDocumentOf (py : PyRuntime) (inputs : HandWritten) (graph : BerthierGraph) :
    Outcome Value := do
  let probe ← buildEdges inputs.requirements graph.compiled []
  let changed := delta graph.baseline graph.compiled
  let impact ← impactOf probe changed
  let pins ← pinsOf inputs.pins
  return packetsDocument inputs.version changed
    ((packetsOf py inputs.requirements impact changed pins).map Prod.snd)

/-- `json.loads` reads the documents that a write of the release writes. -/
def Rereads (py : PyRuntime) (loads : String → Outcome Value) (dir : ReleaseDir) : Prop :=
  ∀ prior projection packets, loadPrior loads dir = .ok prior →
    compileFor py dir.inputs prior = .ok projection →
    packetsDocumentOf py dir.inputs projection.graph = .ok packets →
    ReadsBack py loads (graphDocument projection.graph) ∧ ReadsBack py loads packets

/-- The generated files are those of a projection. -/
structure Holds (dir : ReleaseDir) (berthier manifest : String) (projection : Projection) :
    Prop where
  berthier : dir.generated.lookup "berthier.json" = some berthier
  manifest : dir.generated.lookup "manifest.toml" = some manifest
  packets : dir.generated.lookup "out/packets.json" = some projection.packets
  ttl : dir.generated.lookup "out/requirements.ttl" = some projection.ttl

/-- What a write leaves in the release. -/
theorem exists_holds (h : writeProjection py courts loads before = .ok after) :
    ∃ prior projection berthier data manifest, loadPrior loads before = .ok prior ∧
      compileFor py before.inputs prior = .ok projection ∧
      jsonBytes py (graphDocument projection.graph) = .ok berthier ∧
      manifestData py courts before.inputs = .ok data ∧
      renderManifest py before.inputs data = .ok manifest ∧ after.inputs = before.inputs ∧
      Holds after berthier manifest projection := by
  simp only [writeProjection, project, bind_eq_ok, pure_eq_ok] at h
  obtain ⟨prior, hprior, outputs, ⟨projection, hprojection, berthier, hberthier, data, hdata,
    manifest, hmanifest, rfl⟩, rfl⟩ := h
  refine ⟨prior, projection, berthier, data, manifest, hprior, hprojection, hberthier, hdata,
    hmanifest, rfl, ?_⟩
  constructor <;> simp [lookup_setItem]

variable {projection : Projection}

/-- The graph that was written is read with its digests in order. -/
theorem loadPrior_of_holds {berthier manifest : String} (h : Holds dir berthier manifest projection)
    (hberthier : jsonBytes py (graphDocument projection.graph) = .ok berthier)
    (hreads : ReadsBack py loads (graphDocument projection.graph)) :
    loadPrior loads dir = .ok (some projection.graph.inOrder) := by
  simp only [loadPrior, h.berthier, hreads berthier hberthier]
  exact graphIn_graphDocument projection.graph

theorem graphDocument_baseline (graph : BerthierGraph) :
    graphDocument { graph with baseline := orderItems graph.baseline } = graphDocument graph := by
  simp only [graphDocument, digestsDocument, orderItems_orderItems]

variable {inputs : HandWritten} {prior : Option BerthierGraph}

/-- A compile of a release from the graph that it wrote. -/
theorem compileFor_again (h : compileFor py inputs prior = .ok projection) :
    compileFor py inputs (some projection.graph.inOrder) =
      .ok { projection with graph :=
              { projection.graph with baseline := orderItems projection.graph.baseline } } := by
  simp only [compileFor, compileInputs, bind_eq_ok, pure_eq_ok] at h ⊢
  obtain ⟨_, ⟨pins, hpins, rfl⟩, hcompile⟩ := h
  exact ⟨_, ⟨pins, hpins, rfl⟩, compileGraph_again hcompile⟩

/-- There is no drift after a write. -/
theorem check_of_write (h : writeProjection py courts loads before = .ok after)
    (hreads : ∀ prior projection, loadPrior loads before = .ok prior →
      compileFor py before.inputs prior = .ok projection →
      ReadsBack py loads (graphDocument projection.graph)) :
    checkProjection py courts loads after = .ok [] := by
  obtain ⟨prior, projection, berthier, data, manifest, hprior, hprojection, hberthier, hdata,
    hmanifest, hinputs, hholds⟩ := exists_holds h
  have hloaded := loadPrior_of_holds hholds hberthier (hreads prior projection hprior hprojection)
  have hproject : project py courts after.inputs (some projection.graph.inOrder) =
      .ok [("berthier.json", berthier), ("manifest.toml", manifest),
        ("out/packets.json", projection.packets), ("out/requirements.ttl", projection.ttl)] := by
    simp only [project, bind_eq_ok, pure_eq_ok, hinputs]
    refine ⟨_, compileFor_again hprojection, berthier, ?_, data, hdata, manifest, hmanifest, rfl⟩
    rw [graphDocument_baseline]
    exact hberthier
  simp only [checkProjection, bind_eq_ok, pure_eq_ok]
  refine ⟨_, hloaded, _, hproject, ?_⟩
  simp [hholds.berthier, hholds.manifest, hholds.packets, hholds.ttl]

/-- How a release is compiled, and the packets that are written. -/
theorem exists_compiledFor (h : compileFor py inputs prior = .ok projection) :
    ∃ impact, ∃ compile : CompileInputs, compile.requirements = inputs.requirements ∧
      CompiledAs py compile (premiseInput inputs)
        (delta projection.graph.baseline projection.graph.compiled) impact projection ∧
      CompiledFrom compile.requirements projection.graph.compiled projection.graph.edges ∧
      packetsDocumentOf py inputs projection.graph = .ok (packetsDocument compile.version
        (delta projection.graph.baseline projection.graph.compiled)
        ((packetsOf py compile.requirements impact
          (delta projection.graph.baseline projection.graph.compiled) compile.pins).map
            Prod.snd)) := by
  simp only [compileFor, compileInputs, bind_eq_ok, pure_eq_ok] at h
  obtain ⟨_, ⟨pins, hpins, rfl⟩, hcompile⟩ := h
  obtain ⟨-, ⟨impact, hcompiled⟩, -⟩ := compileGraph_iff.mp hcompile
  obtain ⟨probe, hprobe, himpact⟩ := hcompiled.reached
  refine ⟨impact, _, rfl, hcompiled, compiledFrom_of_compileGraph hcompile, ?_⟩
  simp only [packetsDocumentOf, bind_eq_ok, pure_eq_ok]
  exact ⟨probe, hprobe, impact, himpact, pins, hpins, rfl⟩

/-- The court has nothing to refuse after a write. -/
theorem judge_of_write (hadmissible : Admissible py before.inputs)
    (hreads : Rereads py loads before)
    (h : writeProjection py courts loads before = .ok after) (observed : Observed) :
    ∃ declared verdict, declaredPackets loads after = .ok declared ∧
      judgeCommitted py loads after observed = .ok verdict ∧ verdict.standing = "ALIVE" ∧
      declared.map Packet.repository = verdict.requiredOwners.map some ∧
      ∀ owner, owner ∈ verdict.requiredOwners ↔ packetKey owner ∈ verdict.impact := by
  obtain ⟨prior, projection, berthier, data, manifest, hprior, hprojection, hberthier, -, -,
    hinputs,
    hholds⟩ := exists_holds h
  obtain ⟨impact, compile, hrows, hcompiled, hfrom, hpackets⟩ := exists_compiledFor hprojection
  obtain ⟨hgraph, hread⟩ := hreads prior projection _ hprior hprojection hpackets
  have hloaded := loadPrior_of_holds hholds hberthier hgraph
  have hdeclared : declaredPackets loads after = .ok (packetsFor (ownersOf impact)) := by
    simp only [declaredPackets, hholds.packets, hread _ hcompiled.packets]
    exact packetsIn_packetsDocument
  have hsources := hcompiled.sources
  rw [← delta_orderItems] at hcompiled
  have hbound : Bound compile.requirements projection.graph.compiled := by
    rw [hrows] at hsources ⊢
    exact hadmissible.bound hsources
  obtain ⟨verdict, hjudge, halive, howners, himpacted⟩ :=
    hcompiled.exists_verdict hfrom hbound observed
  have hprojected : (projectedOutputs.filterMap fun name =>
      (after.generated.lookup name).map fun text => (name, py.sha256 text)) =
        projectedOf py projection := by
    simp [projectedOutputs, projectedOf, hholds.packets, hholds.ttl]
  refine ⟨_, verdict, hdeclared, ?_, halive, ?_, himpacted⟩
  · simp only [judgeCommitted, bind_eq_ok]
    refine ⟨_, hloaded, projection.graph.compiled, ?_, _, hdeclared, ?_⟩
    · rw [hinputs, ← hrows]
      exact hsources
    · rw [hprojected]
      exact hjudge
  · rw [howners, packetsFor, List.map_map]
    rfl

/-- After a write there is no drift, and the court is ALIVE with a packet for each owner that the
change since the baseline reaches, in every release with admissible rows. -/
theorem write_fixed (courts : ManifestCourts) (loads : String → Outcome Value)
    (before after : ReleaseDir) (hadmissible : Admissible py before.inputs)
    (hreads : Rereads py loads before)
    (hwrite : writeProjection py courts loads before = .ok after) :
    checkProjection py courts loads after = .ok [] ∧
      ∀ observed, ∃ declared verdict, declaredPackets loads after = .ok declared ∧
        judgeCommitted py loads after observed = .ok verdict ∧ verdict.standing = "ALIVE" ∧
        declared.map Packet.repository = verdict.requiredOwners.map some ∧
        ∀ owner, owner ∈ verdict.requiredOwners ↔ packetKey owner ∈ verdict.impact := by
  refine ⟨check_of_write hwrite fun prior projection hprior hprojection => ?_,
    judge_of_write hadmissible hreads hwrite⟩
  obtain ⟨impact, compile, -, -, -, hpackets⟩ := exists_compiledFor hprojection
  exact (hreads prior projection _ hprior hprojection hpackets).1

/-! ## A release that is written -/

/-- A frontier with one repository. -/
def samplePins : Value :=
  .dict [("root_repository", .str "chatman/root"),
    ("repos", .dict [("kernel", .dict [("repository", .str "chatman/kernel"),
      ("ref", .str "main"), ("sha", .str "0a"), ("role", .str "KERNEL"),
      ("disposition", .str "CROWN"), ("required", .bool true)])])]

/-- A release whose graph is empty so far. -/
def sampleReleaseDir : ReleaseDir where
  inputs :=
    { version := "v26.9.25", premiseId := "RFC-0004", requirements := sampleInputs.requirements,
      pins := samplePins, closure := .dict [],
      imports := .dict [("imports", .list [.dict [("source_repo", .str "chatman/rfc"),
        ("source_sha", .str "0b")]])],
      rfcText := "# 1. Closure\nEverything is closed.\n", premiseSet := [], inputDigests := [] }
  generated := [("berthier.json", "{}")]

def sampleCourts : ManifestCourts where
  closureStanding _ := .ok "ALIVE"
  crownStanding _ _ := .ok "ALIVE"

/-- The reading of the empty graph, and of the documents that are written. -/
def sampleLoads (text : String) : Outcome Value :=
  if text = "{}" then .ok (.dict [])
  else match compileFor samplePyRuntime sampleReleaseDir.inputs (some ⟨[], [], []⟩) with
    | .error raised => .error raised
    | .ok projection =>
      if text = compact (graphDocument projection.graph) ++ "\n" then
        .ok (sortKeys (graphDocument projection.graph))
      else sortKeys <$> packetsDocumentOf samplePyRuntime sampleReleaseDir.inputs projection.graph

/-- The text of a document begins with its least member. -/
theorem exists_least (items : Dict) (h : items ≠ []) :
    ∃ least ∈ compactMembers items, (∀ text ∈ compactMembers items, least ≤ text) ∧
      ∃ rest, compact (.dict items) = "\x7b" ++ (least ++ rest) := by
  have hsorted : (sorted (compactMembers items)).Pairwise (· ≤ ·) :=
    List.pairwise_insertionSort (· ≤ ·) _
  cases hmembers : sorted (compactMembers items) with
  | nil =>
    have hperm := sorted_perm (compactMembers items)
    rw [hmembers] at hperm
    obtain ⟨item, items, rfl⟩ := List.exists_cons_of_ne_nil h
    exact absurd hperm.symm.eq_nil (List.cons_ne_nil _ _)
  | cons least others =>
    rw [hmembers, List.pairwise_cons] at hsorted
    have hmem : ∀ {text : String}, text ∈ compactMembers items ↔ text ∈ least :: others := by
      intro text
      rw [← hmembers, mem_sorted]
    refine ⟨least, hmem.mpr List.mem_cons_self, fun text htext => ?_, ?_⟩
    · rcases List.mem_cons.mp (hmem.mp htext) with rfl | hother
      · exact le_refl _
      · exact hsorted.1 text hother
    · rw [compact, hmembers]
      cases others with
      | nil => exact ⟨"\x7d", by rw [String.intercalate_singleton, String.append_assoc]⟩
      | cons next others =>
        exact ⟨"," ++ (",".intercalate (next :: others)) ++ "\x7d", by
          simp [String.intercalate_cons_cons, String.append_assoc]⟩

theorem newline_ne_empty (text : String) : text ++ "\n" ≠ "{}" := by
  intro h
  have hlast := congrArg (fun text : String => text.toList.getLast?) h
  simp [String.toList_append] at hlast

/-- A graph and its packets have different texts. -/
theorem compact_graph_ne (graph : BerthierGraph) (version : String) (changed : List String)
    (packets : List Value) :
    compact (graphDocument graph) ≠ compact (packetsDocument version changed packets) := by
  intro heq
  obtain ⟨least, hleast, hall, rest, hgraph⟩ := exists_least
    [("schema", .str "https://chatman.dev/root-crown/berthier/v1"),
      ("premise", .str primaryPremise), ("baseline", digestsDocument graph.baseline),
      ("compiled", digestsDocument graph.compiled),
      ("edges", .list (graph.edges.map Edge.document))] (List.cons_ne_nil _ _)
  obtain ⟨least', hleast', -, rest', hpackets⟩ := exists_least
    [("release", .str version), ("premise", .str primaryPremise),
      ("strategic_delta", .list (changed.map .str)), ("packets", .list packets)]
    (List.cons_ne_nil _ _)
  rw [graphDocument, hgraph, packetsDocument, hpackets] at heq
  have hchars : least.toList ++ rest.toList = least'.toList ++ rest'.toList := by
    simpa [String.toList_append] using congrArg String.toList heq
  have hbaseline : least ≤ "\"" ++ "baseline" ++ "\":" ++
    compact (digestsDocument graph.baseline) :=
    hall _ (by simp [compactMembers])
  simp only [compactMembers, List.mem_cons, List.not_mem_nil, or_false] at hleast hleast'
  rw [String.le_iff_toList_le] at hbaseline
  have hpremise : ∀ x y : String, ¬ ("\"" ++ "premise" ++ "\":" ++ x).toList ≤
      ("\"" ++ "baseline" ++ "\":" ++ y).toList := by
    intro x y
    rw [not_le]
    simp [String.toList_append, List.cons_lt_cons_iff]
  rcases hleast with rfl | rfl | rfl | rfl | rfl
  case inr.inl => exact hpremise _ _ hbaseline
  all_goals
    rcases hleast' with rfl | rfl | rfl | rfl <;> simp [String.toList_append] at hchars

theorem rereads_sample : Rereads samplePyRuntime sampleLoads sampleReleaseDir := by
  intro prior projection packets hprior hprojection hpackets
  have hempty : loadPrior sampleLoads sampleReleaseDir = .ok (some ⟨[], [], []⟩) := by
    have hloads : sampleLoads "{}" = .ok (.dict []) := if_pos rfl
    simp only [loadPrior, show sampleReleaseDir.generated.lookup "berthier.json" =
      some "{}" from rfl]
    rw [hloads]
    rfl
  rw [hempty] at hprior
  obtain rfl := Except.ok.inj hprior
  constructor
  · intro text htext
    obtain rfl := Except.ok.inj htext
    rw [sampleLoads, if_neg (newline_ne_empty _), hprojection]
    exact if_pos rfl
  · obtain ⟨impact, compile, -, -, -, hdocument⟩ := exists_compiledFor hprojection
    rw [hdocument] at hpackets
    obtain rfl := Except.ok.inj hpackets
    intro text htext
    obtain rfl := Except.ok.inj htext
    have hne : compact (packetsDocument compile.version
        (delta projection.graph.baseline projection.graph.compiled)
        ((packetsOf samplePyRuntime compile.requirements impact
          (delta projection.graph.baseline projection.graph.compiled) compile.pins).map
            Prod.snd)) ++ "\n" ≠ compact (graphDocument projection.graph) ++ "\n" := by
      intro h
      exact compact_graph_ne _ _ _ _ ((String.append_left_inj _).mp h).symm
    rw [sampleLoads, if_neg (newline_ne_empty _), hprojection]
    simp only [if_neg hne, hdocument]
    rfl

theorem admissible_sample : Admissible samplePyRuntime sampleReleaseDir.inputs := by
  have hfound : ((premiseSections samplePyRuntime sampleReleaseDir.inputs.rfcText).map
      Prod.fst).contains "§1" = true := by
    decide +kernel
  intro req hreq ref href
  obtain rfl := List.mem_singleton.mp hreq
  obtain rfl := List.mem_singleton.mp href
  have hsection : (splitRef "§1").2 = "§1" := by decide +kernel
  exact ⟨sampleReleaseDir.inputs.rfcText, by decide +kernel, by
    rw [hsection]
    exact List.contains_iff_mem.mp hfound⟩

/-- The release is written, and stays as it is. -/
theorem write_fixed_sample : ∃ after,
    writeProjection samplePyRuntime sampleCourts sampleLoads sampleReleaseDir = .ok after ∧
      checkProjection samplePyRuntime sampleCourts sampleLoads after = .ok [] ∧
      ∃ verdict, judgeCommitted samplePyRuntime sampleLoads after ⟨none, []⟩ = .ok verdict ∧
        verdict.standing = "ALIVE" := by
  obtain ⟨after, hafter⟩ : ∃ after,
      writeProjection samplePyRuntime sampleCourts sampleLoads sampleReleaseDir = .ok after :=
    exists_of_isOk (by decide +kernel)
  obtain ⟨hcheck, hjudge⟩ := write_fixed sampleCourts sampleLoads sampleReleaseDir after
    admissible_sample rereads_sample hafter
  obtain ⟨declared, verdict, -, hverdict, halive, -⟩ := hjudge ⟨none, []⟩
  exact ⟨after, hafter, hcheck, verdict, hverdict, halive⟩

end Files

end ChatmanEcosystem.RootCrown
