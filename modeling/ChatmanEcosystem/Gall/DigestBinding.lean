import ChatmanEcosystem.Common.Chain
import ChatmanEcosystem.Gall.Policy

/-!
# What the policy digest binds

The digest in an `AdmissionToken` stands for the policy that issued it. Nothing
in the hashed text separates a `|` or a newline inside a name from the ones
that `Policy::digest` writes, so one text is the text of several policies.

Results:

* `digestBinds_iff`: the text of a policy determines the verdicts exactly when
  no rest of the text after a newline can be read as a permission of a subject
  that is not `unknown:`. For two policies without delimiters in their names
  the text does determine the verdicts.
-/

namespace ChatmanEcosystem.Gall

open Common Rust

/-- Every policy with the text of `p` gives the verdicts of `p`, and a token that
carries the digest of `p` and that is accepted under any policy authorises an
action that `p` admits. -/
structure Policy.DigestBinds (sha256Hex : List UInt8 → String) (p : Policy) : Prop where
  verdict : ∀ (q : Policy) (action : Action), asBytes p.canonical = asBytes q.canonical →
    p.admitAction sha256Hex action = q.admitAction sha256Hex action
  token : ∀ (q : Policy) (action : Action) (token accepted : AdmissionToken),
    token.policyDigest = p.digest sha256Hex →
    q.validateToken sha256Hex action token = .ok accepted →
    p.admitAction sha256Hex action = .ok accepted ∨
      Collides sha256Hex (asBytes p.canonical) (asBytes q.canonical)

/-- Whatever follows a newline of the text and holds a `|` begins with
`unknown:`. -/
def Policy.ReadsUnknown (p : Policy) : Prop :=
  ∀ before after, p.canonical.toList = before ++ '\n' :: after → '|' ∈ after →
    "unknown:".toList <+: after

/-- No name of the policy holds a character or a word that `Policy::digest` uses
to separate the names. -/
structure Policy.DelimiterFree (p : Policy) : Prop where
  version : '\n' ∉ p.version.toList
  subject : ∀ row ∈ p.permissions, '\n' ∉ row.1.toList ∧ '|' ∉ row.1.toList ∧ row.1 ≠ "revoked"
  capability : ∀ row ∈ p.permissions, '\n' ∉ row.2.toList
  revoked : ∀ subject ∈ p.revoked, '\n' ∉ subject.toList

/-! ## Policies whose text reads as `unknown:` only -/

variable {p : Policy}

theorem Policy.ReadsUnknown.line (h : p.ReadsUnknown) {line : List Char} (hline : line ∈ p.rows)
    (hbar : '|' ∈ line) :
    ∃ rest, "unknown:".toList <+: line ++ '\n' :: rest := by
  obtain ⟨pre, post, htext⟩ := exists_of_mem_tail '\n' p.versionLine hline
  exact ⟨post, h pre _ (p.canonical_toList.trans htext) (by simp [hbar])⟩

theorem Policy.ReadsUnknown.not_revoked (h : p.ReadsUnknown) (subject : String) :
    subject ∉ p.revoked := by
  intro hrevoked
  have hline : revocationLine subject ∈ p.rows :=
    List.mem_append_right _ (List.mem_map_of_mem (Std.ExtTreeSet.mem_toList.mpr hrevoked))
  obtain ⟨rest, hrest⟩ := h.line hline (List.mem_append_left _ (by decide))
  exact absurd (List.cons_prefix_cons.mp hrest).1 (by decide)

variable {row : String × String}

theorem Policy.ReadsUnknown.permission (h : p.ReadsUnknown) (hrow : row ∈ p.permissions) :
    startsWith row.1 "unknown:" = true := by
  have hline : permissionLine row ∈ p.rows :=
    List.mem_append_left _ (List.mem_map_of_mem hrow)
  obtain ⟨rest, hrest⟩ := h.line hline (by simp [permissionLine])
  rw [permissionLine, List.append_assoc] at hrest
  exact startsWith_iff.mpr (prefix_of_prefix_append_sep (by decide) hrest)

variable {sha256Hex : List UInt8 → String} {q : Policy}

theorem Policy.ReadsUnknown.admit_eq (h : p.ReadsUnknown)
    (htext : asBytes p.canonical = asBytes q.canonical) (action : Action) :
    p.admitAction sha256Hex action = q.admitAction sha256Hex action := by
  have hq : q.ReadsUnknown := fun before after hafter =>
    h before after ((asBytes_inj.mp htext) ▸ hafter)
  refine Policy.admit_congr htext (fun s _ => ?_) (fun row hrow => ?_) action
  · exact iff_of_false (h.not_revoked s) (hq.not_revoked s)
  · refine iff_of_false (fun hp => ?_) (fun hp => ?_)
    · exact absurd (h.permission hp) (by simp [hrow])
    · exact absurd (hq.permission hp) (by simp [hrow])

/-! ## Two readings of one text -/

theorem Policy.rows_new (version : String) : (Policy.new version).rows = [] := rfl

theorem Policy.rows_allow_new (version subject capability : String) :
    ((Policy.new version).allow subject capability).rows =
      [permissionLine (subject, capability)] := rfl

theorem Policy.admit_new (sha256Hex : List UInt8 → String) (version : String) (action : Action)
    (h : startsWith action.subject "unknown:" = false) :
    (Policy.new version).admitAction sha256Hex action = .error .capabilityDenied := by
  simp [Policy.admitAction, Policy.new, h]

theorem Policy.admit_allow_new (sha256Hex : List UInt8 → String) (version : String)
    (action : Action) (h : startsWith action.subject "unknown:" = false) :
    ∃ token, ((Policy.new version).allow action.subject action.capability).admitAction sha256Hex
      action =
      .ok token := by
  simp [Policy.admitAction, Policy.allow, Policy.new, h]

/-- The text is `version=`, something, and a newline at the end. -/
theorem Policy.canonical_shape (p : Policy) :
    ∃ body, p.canonical.toList = versionTag ++ body ++ ['\n'] := by
  rw [p.canonical_toList, unlines_cons, Policy.versionLine]
  rcases unlines_eq_nil_or_concat '\n' p.rows with hrows | ⟨t, ht⟩
  · exact ⟨p.version.toList, by simp [hrows]⟩
  · exact ⟨p.version.toList ++ '\n' :: t, by rw [ht]; simp⟩

/-- A text that does not read as `unknown:` only is the text of a policy that
denies an action and of a policy that admits it. -/
theorem Policy.exists_two_readings (h : ¬ p.ReadsUnknown) :
    ∃ (denying admitting : Policy) (action : Action),
      asBytes p.canonical = asBytes denying.canonical ∧
      asBytes p.canonical = asBytes admitting.canonical ∧
      ∀ sha256Hex : List UInt8 → String,
        denying.admitAction sha256Hex action = .error .capabilityDenied ∧
        ∃ token, admitting.admitAction sha256Hex action = .ok token := by
  simp only [Policy.ReadsUnknown, not_forall] at h
  obtain ⟨before, after, htext, hbar, hunknown⟩ := h
  obtain ⟨body, hbody⟩ := p.canonical_shape
  obtain ⟨version, rfl⟩ : versionTag <+: before := by
    refine prefix_of_prefix_append_sep newline_notMem_versionTag (x := after) ?_
    rw [← htext, hbody, List.append_assoc]
    exact List.prefix_append _ _
  obtain ⟨subject, rest, rfl⟩ := List.append_of_mem hbar
  -- the rest of the text after the `|` is a capability and the last newline
  have hlast : ('|' :: rest).getLast? = some '\n' := by
    have := congrArg List.getLast? (htext.symm.trans hbody)
    rwa [← List.cons_append, ← List.append_assoc, List.getLast?_append_of_ne_nil _ (by simp),
      List.getLast?_concat] at this
  obtain ⟨capability, rfl⟩ : ∃ capability, rest = capability ++ ['\n'] := by
    rcases List.eq_nil_or_concat rest with rfl | ⟨capability, last, rfl⟩
    · exact absurd hlast (by decide)
    · rw [List.concat_eq_append, ← List.cons_append, List.getLast?_concat] at hlast
      exact ⟨capability, by rw [Option.some.inj hlast, List.concat_eq_append]⟩
  have hsubject : startsWith (String.ofList subject) "unknown:" = false := by
    rw [Bool.eq_false_iff, Ne, startsWith_iff, @String.toList_ofList subject]
    exact fun hpre => hunknown (hpre.trans (List.prefix_append _ _))
  let action : Action := { subject := String.ofList subject
                           capability := String.ofList capability
                           arguments := [], workingDirectory := "", nonce := 0 }
  refine ⟨Policy.new (String.ofList body),
    (Policy.new (String.ofList version)).allow (String.ofList subject) (String.ofList capability),
    action, ?_, ?_, fun sha256Hex => ⟨Policy.admit_new _ _ action hsubject,
      Policy.admit_allow_new _ _ action hsubject⟩⟩
  · rw [asBytes_inj, ← String.toList_inj, hbody, Policy.canonical_toList, Policy.rows_new]
    simp [Policy.versionLine, Policy.new]
  · rw [asBytes_inj, ← String.toList_inj, htext, Policy.canonical_toList, Policy.rows_allow_new]
    simp [Policy.versionLine, Policy.allow, Policy.new, permissionLine]

/-! ## Policies without delimiters -/

theorem Policy.DelimiterFree.lines (h : p.DelimiterFree) :
    ∀ line ∈ p.versionLine :: p.rows, '\n' ∉ line := by
  intro line hline
  rcases List.mem_cons.mp hline with rfl | hrow
  · unfold Policy.versionLine
    exact List.mem_append.not.mpr (not_or.mpr ⟨newline_notMem_versionTag, h.version⟩)
  · rcases List.mem_append.mp hrow with hrow | hrow
    · obtain ⟨row, hmem, rfl⟩ := List.mem_map.mp hrow
      simp [permissionLine, (h.subject row hmem).1, h.capability row hmem]
    · obtain ⟨subject, hsubject, rfl⟩ := List.mem_map.mp hrow
      have := h.revoked subject (Std.ExtTreeSet.mem_toList.mp hsubject)
      exact List.mem_append.not.mpr (not_or.mpr ⟨by decide, this⟩)

/-- Without delimiters a line of the text says which row it stands for. -/
theorem Policy.DelimiterFree.permissionLine_mem_rows (hp : p.DelimiterFree) (hq : q.DelimiterFree)
    (hrow : row ∈ p.permissions) (hline : permissionLine row ∈ q.rows) : row ∈ q.permissions := by
  rcases List.mem_append.mp hline with hline | hline
  · obtain ⟨row', hrow', heq⟩ := List.mem_map.mp hline
    have := (append_sep_inj (hq.subject row' hrow').2.1 (hp.subject row hrow).2.1).mp heq
    obtain rfl : row' = row :=
      Prod.ext (String.toList_inj.mp this.1) (String.toList_inj.mp this.2)
    exact hrow'
  · obtain ⟨subject, -, heq⟩ := List.mem_map.mp hline
    have := (append_sep_inj (l := "revoked".toList) (by decide) (hp.subject row hrow).2.1).mp heq
    exact absurd (String.toList_inj.mp this.1).symm (hp.subject row hrow).2.2

theorem Policy.DelimiterFree.revocationLine_mem_rows (hq : q.DelimiterFree) {subject : String}
    (hline : revocationLine subject ∈ q.rows) : subject ∈ q.revoked := by
  rcases List.mem_append.mp hline with hline | hline
  · obtain ⟨row, hrow, heq⟩ := List.mem_map.mp hline
    have := (append_sep_inj (m := "revoked".toList) (hq.subject row hrow).2.1 (by decide)).mp heq
    exact absurd (String.toList_inj.mp this.1) (hq.subject row hrow).2.2
  · obtain ⟨subject', hmem, heq⟩ := List.mem_map.mp hline
    obtain rfl : subject' = subject := String.toList_inj.mp (List.append_cancel_left heq)
    exact Std.ExtTreeSet.mem_toList.mp hmem

theorem Policy.DelimiterFree.admit_eq (hp : p.DelimiterFree) (hq : q.DelimiterFree)
    (htext : asBytes p.canonical = asBytes q.canonical) (action : Action) :
    p.admitAction sha256Hex action = q.admitAction sha256Hex action := by
  obtain ⟨-, hrows⟩ := List.cons.inj (unlines_inj hp.lines hq.lines
    (asBytes_canonical_inj.mp htext))
  have hperm : ∀ {p : Policy} {row}, row ∈ p.permissions → permissionLine row ∈ p.rows :=
    fun h => List.mem_append_left _ (List.mem_map_of_mem h)
  have hrev : ∀ {p : Policy} {s}, s ∈ p.revoked → revocationLine s ∈ p.rows :=
    fun h => List.mem_append_right _ (List.mem_map_of_mem (Std.ExtTreeSet.mem_toList.mpr h))
  refine Policy.admit_congr htext (fun s _ => ⟨fun h => ?_, fun h => ?_⟩)
    (fun row _ => ⟨fun h => ?_, fun h => ?_⟩) action
  · exact hq.revocationLine_mem_rows (hrows ▸ hrev h)
  · exact hp.revocationLine_mem_rows (hrows ▸ hrev h)
  · exact hp.permissionLine_mem_rows hq h (hrows ▸ hperm h)
  · exact hq.permissionLine_mem_rows hp h (hrows ▸ hperm h)

/-! ## Binding -/

/-- An accepted token carries the digest of the policy that accepts it, which
admits the action by itself. -/
theorem Policy.validateToken_eq_ok {action : Action} {token accepted : AdmissionToken}
    (h : q.validateToken sha256Hex action token = .ok accepted) :
    token.policyDigest = q.digest sha256Hex ∧ token.actionDigest = action.digest sha256Hex ∧
      q.admitAction sha256Hex action = .ok accepted := by
  unfold Policy.validateToken at h
  split_ifs at h with hpolicy haction
  exact ⟨not_not.mp hpolicy, not_not.mp haction, h⟩

/-- The text of a policy binds its verdicts exactly when it reads as permissions
of `unknown:` subjects only, that is when the policy, and every other policy with
its text, admits nothing. Between policies without delimiters it binds them. -/
theorem digestBinds_iff (sha256Hex : List UInt8 → String) :
    (∀ p : Policy, p.DigestBinds sha256Hex ↔ p.ReadsUnknown) ∧
    ∀ p q : Policy, p.DelimiterFree → q.DelimiterFree →
      asBytes p.canonical = asBytes q.canonical →
      ∀ action, p.admitAction sha256Hex action = q.admitAction sha256Hex action := by
  refine ⟨fun p => ⟨fun hbinds => ?_, fun hreads => ⟨?_, ?_⟩⟩,
    fun p q hp hq htext => hp.admit_eq hq htext⟩
  · by_contra hreads
    obtain ⟨denying, admitting, action, hdeny, hadm, hverdicts⟩ :=
      Policy.exists_two_readings hreads
    obtain ⟨hdenied, token, hadmitted⟩ := hverdicts sha256Hex
    have := (hbinds.verdict denying action hdeny).symm.trans
      (hbinds.verdict admitting action hadm)
    rw [hdenied, hadmitted] at this
    cases this
  · exact fun q action htext => hreads.admit_eq htext action
  · intro q action token accepted hissued haccepted
    obtain ⟨hpolicy, -, hadm⟩ := Policy.validateToken_eq_ok haccepted
    rcases eq_or_collides (f := sha256Hex) (hissued.symm.trans hpolicy) with htext | hcollision
    · exact .inl ((hreads.admit_eq htext action).trans hadm)
    · exact .inr hcollision

/-- A digest that keeps every byte. -/
def spelled (bytes : List UInt8) : String := String.ofList (bytes.map fun b => Char.ofNat b.toNat)

/-- The text of a policy that has only a version binds its verdicts, and so does
the text of two policies that list the same permissions in a different order. -/
theorem digestBinds_plain :
    (Policy.new "1").DigestBinds spelled ∧
    ∀ action, (((Policy.new "1").allow "ci" "echo").allow "ops" "echo").admitAction spelled action =
      (((Policy.new "1").allow "ops" "echo").allow "ci" "echo").admitAction spelled action := by
  have hbar : '|' ∉ (Policy.new "1").canonical.toList := by decide
  refine ⟨((digestBinds_iff spelled).1 _).mpr fun before after htext hafter => ?_,
    (digestBinds_iff spelled).2 _ _ ?_ ?_ (by decide +kernel)⟩
  · exact absurd (by simp [htext, hafter]) hbar
  all_goals
    refine ⟨by decide +kernel, by decide +kernel, by decide +kernel, fun subject hsubject => ?_⟩
    simp [Policy.allow, Policy.new] at hsubject

/-- The revocation of `echo` and the permission of a subject called `revoked` to
`echo` have one text. The first policy denies what the second admits, and the
second accepts a token that carries the digest of the first. -/
theorem revocation_reads_as_permission :
    let revoking := (Policy.new "1").revoke "echo"
    let allowing := (Policy.new "1").allow "revoked" "echo"
    let action : Action :=
      { subject := "revoked", capability := "echo", arguments := ["hi"], workingDirectory := "/"
        nonce := 1 }
    asBytes revoking.canonical = asBytes allowing.canonical ∧
    ∀ sha256Hex : List UInt8 → String,
      revoking.admitAction sha256Hex action = .error .capabilityDenied ∧
      ∃ accepted, allowing.validateToken sha256Hex action
        { actionDigest := action.digest sha256Hex, policyDigest := revoking.digest sha256Hex } =
          .ok accepted := by
  intro revoking allowing action
  have htext : revoking.canonical = allowing.canonical := by decide +kernel
  refine ⟨by rw [htext], fun sha256Hex => ⟨?_, ?_⟩⟩
  · simp [Policy.admitAction, revoking, action, Policy.revoke, Policy.new, startsWith]
  · have hdigest : revoking.digest sha256Hex = allowing.digest sha256Hex := by
      rw [Policy.digest, htext, Policy.digest]
    obtain ⟨accepted, haccepted⟩ := Policy.admit_allow_new sha256Hex "1" action (by decide)
    refine ⟨accepted, ?_⟩
    rw [Policy.validateToken, if_neg (by simp [hdigest]), if_neg (by simp)]
    exact haccepted

end ChatmanEcosystem.Gall
