import ChatmanEcosystem.Gall.Broker
import Std.Data.ExtHashMap

/-!
# The gateway of the channels

Model of `Channel`, `Message`, `Gateway` and `construct_intent`
(`crates/gall/src/lib.rs`, lines 653–746). A gateway resolves the sender of a
message to a subject, constructs one action from the message and submits it to
its broker. `nonce += 1` and the `sequence += 1` of the broker are the places
where `handle` can panic.

What a run of calls says about a sender and a subject is stated over the calls
(`registered`, `Revoked`, `requests`), and the states of the gateway follow it
(`follows_run`).

Results:

* `Follows.alive_handle`, `Follows.unknown_handle`: what one message is answered.
* `constructed_unchecked`, `pairwise_constructed`: the actions of a run, with
  the nonces that they get.
* `authority_iff`: authority over whole runs, with the exact condition for the
  encodings of the actions to be distinct.
-/

namespace ChatmanEcosystem.Gall

open Common Rust

/-! ## Model -/

/-- `enum Channel` (lines 655–660). -/
inductive Channel
  | cli
  | webChat
  | telegram
  | discord
  deriving DecidableEq, Hashable

/-- `Channel::as_str` (lines 663–670). -/
def Channel.asStr : Channel → String
  | .cli => "cli"
  | .webChat => "webchat"
  | .telegram => "telegram"
  | .discord => "discord"

/-- `struct Message` (lines 675–679). -/
structure Message where
  channel : Channel
  externalSubject : String
  body : String
  deriving DecidableEq

/-- `struct Gateway` (lines 683–688). -/
structure Gateway where
  identities : Std.ExtHashMap (Channel × String) String
  policy : Policy
  broker : Broker
  nonce : UInt64

/-- `construct_intent` (lines 740–746). -/
def constructIntent (body : String) : String × List String :=
  match stripPrefix body "echo " with
  | some value => ("echo", [String.ofList value])
  | none => ("unsupported.request", [body])

/-- The subject of a sender who is not registered (lines 717–723). -/
def unknownSubject (channel : Channel) (externalSubject : String) : String :=
  "unknown:" ++ channel.asStr ++ ":" ++ externalSubject

namespace Gateway

/-- `Gateway::new` (lines 692–699). -/
def new (policy : Policy) : Gateway :=
  { identities := ∅, policy, broker := .new, nonce := 0 }

/-- `Gateway::register` (lines 701–709). -/
def register (gateway : Gateway) (channel : Channel) (externalSubject subject : String) : Gateway :=
  { gateway with identities := gateway.identities.insert (channel, externalSubject) subject }

/-- `Gateway::revoke` (lines 711–713). -/
def revoke (gateway : Gateway) (subject : String) : Gateway :=
  { gateway with policy := gateway.policy.revoke subject }

/-- The action that `handle` constructs with the current nonce (lines 717–732). -/
def intend (gateway : Gateway) (message : Message) : Action :=
  let subject := gateway.identities[(message.channel, message.externalSubject)]?.getD
    (unknownSubject message.channel message.externalSubject)
  let (capability, arguments) := constructIntent message.body
  { subject, capability, arguments, workingDirectory := "/", nonce := gateway.nonce }

variable (sha256Hex : List UInt8 → String) (overflowChecks : Bool)

/-- `Gateway::handle` (lines 715–736); no outcome is a panic. -/
def handle (gateway : Gateway) (message : Message) : Option BrokerOutcome × Gateway :=
  match increment overflowChecks gateway.nonce with
  | none => (none, gateway)
  | some nonce =>
    let gateway := { gateway with nonce }
    let action := gateway.intend message
    match gateway.broker.submit sha256Hex overflowChecks gateway.policy action none with
    | none => (none, gateway)
    | some (outcome, broker) => (some outcome, { gateway with broker })

end Gateway

/-- A call of the gateway. -/
inductive GatewayCall
  | register (channel : Channel) (externalSubject subject : String)
  | revoke (subject : String)
  | handle (message : Message)
  deriving DecidableEq

section Runs

variable (sha256Hex : List UInt8 → String) (overflowChecks : Bool)

def Gateway.next (gateway : Gateway) : GatewayCall → Gateway
  | .register channel externalSubject subject => gateway.register channel externalSubject subject
  | .revoke subject => gateway.revoke subject
  | .handle message => (gateway.handle sha256Hex overflowChecks message).2

/-- The action that a call constructs, if it gets so far. -/
def Gateway.constructs (gateway : Gateway) : GatewayCall → Option Action
  | .handle message =>
    (increment overflowChecks gateway.nonce).map fun nonce =>
      { gateway with nonce }.intend message
  | _ => none

/-- The actions of a run. -/
def constructed (gateway : Gateway) : List GatewayCall → List Action
  | [] => []
  | call :: calls =>
    (gateway.constructs overflowChecks call).toList ++
      constructed (gateway.next sha256Hex overflowChecks call) calls

/-- What the gateway answers to a message after the calls of a run. -/
def answer (policy : Policy) (calls : List GatewayCall) (message : Message) :
    Option BrokerOutcome :=
  ((run (Gateway.next sha256Hex overflowChecks) (.new policy) calls).handle sha256Hex
    overflowChecks message).1

end Runs

/-! ## What a run says -/

/-- The subject that the last registration gives to a sender. -/
def registered (calls : List GatewayCall) (channel : Channel) (externalSubject : String) :
    Option String :=
  calls.reverse.findSome? fun
    | .register channel' externalSubject' subject =>
      if channel' = channel ∧ externalSubject' = externalSubject then some subject else none
    | _ => none

/-- A subject is revoked by the policy at the start, or by a call. -/
def Revoked (policy : Policy) (calls : List GatewayCall) (subject : String) : Prop :=
  subject ∈ policy.revoked ∨ .revoke subject ∈ calls

/-- The subject of the sender of a message. -/
def subjectOf (calls : List GatewayCall) (message : Message) : String :=
  (registered calls message.channel message.externalSubject).getD
    (unknownSubject message.channel message.externalSubject)

/-- Who asks what in the calls that follow `earlier`. -/
def requestsAfter (earlier : List GatewayCall) : List GatewayCall → List (String × String)
  | [] => []
  | .handle message :: later =>
    (subjectOf earlier message, message.body) :: requestsAfter (earlier ++ [.handle message]) later
  | call :: later => requestsAfter (earlier ++ [call]) later

/-- The subject and the text of each message of a run. -/
def requests (calls : List GatewayCall) : List (String × String) := requestsAfter [] calls

/-- A request comes back after a multiple of `2 ^ 64` requests. -/
def Repeats (requests : List (String × String)) : Prop :=
  ∃ i j, i < j ∧ j < requests.length ∧ 2 ^ 64 ∣ j - i ∧ requests[i]? = requests[j]?

/-- Authority over a run of calls. -/
structure Authority (sha256Hex : List UInt8 → String) (overflowChecks : Bool) (policy : Policy)
    (calls : List GatewayCall) : Prop where
  alive : ∀ earlier message later outcome, calls = earlier ++ .handle message :: later →
    answer sha256Hex overflowChecks policy earlier message = some outcome →
    outcome.receipt.standing = .alive →
    ∃ subject payload, registered earlier message.channel message.externalSubject = some subject ∧
      (subject, "echo") ∈ policy.permissions ∧ ¬ Revoked policy earlier subject ∧
      message.body = "echo " ++ payload ∧ outcome.result = .ok (.text payload)
  revoked : ∀ earlier subject between message later outcome,
    calls = earlier ++ .revoke subject :: (between ++ .handle message :: later) →
    subjectOf (earlier ++ .revoke subject :: between) message = subject →
    answer sha256Hex overflowChecks policy (earlier ++ .revoke subject :: between) message =
      some outcome →
    outcome.receipt.standing ≠ .alive
  unknown : ∀ earlier message later outcome, calls = earlier ++ .handle message :: later →
    registered earlier message.channel message.externalSubject = none →
    answer sha256Hex overflowChecks policy earlier message = some outcome →
    outcome.result = .error .subjectUnknown
  distinct : (constructed sha256Hex overflowChecks (.new policy) calls).Pairwise
    fun a b => a.canonicalBytes ≠ b.canonicalBytes

/-! ## One call -/

section Step

variable {sha256Hex : List UInt8 → String} {overflowChecks : Bool}

theorem registered_concat (calls : List GatewayCall) (call : GatewayCall) (channel : Channel)
    (externalSubject : String) :
    registered (calls ++ [call]) channel externalSubject =
      match call with
      | .register channel' externalSubject' subject =>
        if channel' = channel ∧ externalSubject' = externalSubject then some subject
        else registered calls channel externalSubject
      | _ => registered calls channel externalSubject := by
  unfold registered
  rw [List.reverse_append, List.reverse_singleton, List.singleton_append, List.findSome?_cons]
  cases call with
  | register channel' externalSubject' subject =>
    by_cases hsender : channel' = channel ∧ externalSubject' = externalSubject
    · simp [hsender]
    · simp [hsender]
  | revoke subject => rfl
  | handle message => rfl

theorem revoked_concat {policy : Policy} {calls : List GatewayCall} {call : GatewayCall}
    {subject : String} :
    Revoked policy (calls ++ [call]) subject ↔
      Revoked policy calls subject ∨ call = .revoke subject := by
  unfold Revoked
  rw [List.mem_append, List.mem_singleton, or_assoc, eq_comm (a := call)]

theorem subjectOf_of_none {calls : List GatewayCall} {message : Message}
    (h : registered calls message.channel message.externalSubject = none) :
    subjectOf calls message = unknownSubject message.channel message.externalSubject := by
  unfold subjectOf
  rw [h, Option.getD_none]

theorem subjectOf_of_some {calls : List GatewayCall} {message : Message} {subject : String}
    (h : registered calls message.channel message.externalSubject = some subject) :
    subjectOf calls message = subject := by
  unfold subjectOf
  rw [h, Option.getD_some]

theorem startsWith_unknownSubject (channel : Channel) (externalSubject : String) :
    startsWith (unknownSubject channel externalSubject) "unknown:" = true := by
  unfold unknownSubject
  rw [startsWith_iff, String.toList_append, String.toList_append, String.toList_append,
    List.append_assoc, List.append_assoc]
  exact List.prefix_append _ _

/-- A gateway is where the calls of a run lead. -/
structure Follows (policy : Policy) (calls : List GatewayCall) (gateway : Gateway) : Prop where
  identities : ∀ channel externalSubject,
    gateway.identities[(channel, externalSubject)]? = registered calls channel externalSubject
  permissions : gateway.policy.permissions = policy.permissions
  revoked : ∀ subject, subject ∈ gateway.policy.revoked ↔ Revoked policy calls subject

theorem follows_new (policy : Policy) : Follows policy [] (.new policy) where
  identities _ _ := Std.ExtHashMap.getElem?_empty
  permissions := rfl
  revoked _ := by simp [Revoked, Gateway.new]

variable (sha256Hex overflowChecks) in
/-- A message changes neither the identities nor the policy. -/
theorem handle_frame (gateway : Gateway) (message : Message) :
    (gateway.handle sha256Hex overflowChecks message).2.identities = gateway.identities ∧
      (gateway.handle sha256Hex overflowChecks message).2.policy = gateway.policy := by
  unfold Gateway.handle
  cases increment overflowChecks gateway.nonce with
  | none => exact ⟨rfl, rfl⟩
  | some nonce =>
    dsimp only
    split
    · exact ⟨rfl, rfl⟩
    · exact ⟨rfl, rfl⟩

variable (sha256Hex overflowChecks) in
theorem Follows.next {policy : Policy} {calls : List GatewayCall} {gateway : Gateway}
    (h : Follows policy calls gateway) (call : GatewayCall) :
    Follows policy (calls ++ [call]) (gateway.next sha256Hex overflowChecks call) := by
  cases call with
  | register channel externalSubject subject =>
    constructor
    · intro channel' externalSubject'
      show (gateway.identities.insert (channel, externalSubject) subject)[_]? = _
      rw [registered_concat, Std.ExtHashMap.getElem?_insert, h.identities]
      simp
    · exact h.permissions
    · intro subject'
      rw [revoked_concat, ← h.revoked]
      simp [Gateway.next, Gateway.register]
  | revoke subject =>
    constructor
    · intro channel externalSubject
      rw [registered_concat]
      exact h.identities channel externalSubject
    · exact h.permissions
    · intro subject'
      show subject' ∈ gateway.policy.revoked.insert subject ↔ _
      rw [revoked_concat, ← h.revoked, Std.ExtTreeSet.mem_insert, or_comm]
      simp
  | handle message =>
    obtain ⟨hidentities, hpolicy⟩ := handle_frame sha256Hex overflowChecks gateway message
    constructor
    · intro channel externalSubject
      rw [registered_concat]
      show (gateway.handle sha256Hex overflowChecks message).2.identities[_]? = _
      rw [hidentities]
      exact h.identities channel externalSubject
    · show (gateway.handle sha256Hex overflowChecks message).2.policy.permissions = _
      rw [hpolicy]
      exact h.permissions
    · intro subject'
      show subject' ∈ (gateway.handle sha256Hex overflowChecks message).2.policy.revoked ↔ _
      rw [hpolicy, revoked_concat, h.revoked]
      simp

theorem Follows.intend_subject {policy : Policy} {calls : List GatewayCall} {gateway : Gateway}
    (h : Follows policy calls gateway) (message : Message) :
    (gateway.intend message).subject = subjectOf calls message := by
  show (gateway.identities[_]?).getD _ = _
  rw [h.identities]
  rfl

theorem follows_run (policy : Policy) (calls : List GatewayCall) :
    Follows policy calls (run (Gateway.next sha256Hex overflowChecks) (.new policy) calls) := by
  induction calls using List.reverseRecOn with
  | nil => exact follows_new policy
  | append_singleton calls call ih =>
    rw [run_append]
    exact ih.next sha256Hex overflowChecks call

variable {outcome : BrokerOutcome}

/-- What is answered to a message is the verdict on an action that is made of it. -/
theorem handle_eq_some {gateway : Gateway} {message : Message}
    (h : (gateway.handle sha256Hex overflowChecks message).1 = some outcome) :
    ∃ nonce, outcome.result =
        verdict sha256Hex gateway.policy ({ gateway with nonce }.intend message) none ∧
      outcome.receipt.standing = standingOf outcome.result := by
  unfold Gateway.handle at h
  cases hnonce : increment overflowChecks gateway.nonce with
  | none => simp [hnonce] at h
  | some nonce =>
    refine ⟨nonce, ?_⟩
    rw [hnonce] at h
    dsimp only at h
    rw [Broker.submit_eq] at h
    cases hsettle : gateway.broker.settle sha256Hex overflowChecks gateway.policy
        ({ gateway with nonce }.intend message)
        (verdict sha256Hex gateway.policy ({ gateway with nonce }.intend message) none) with
    | none => simp [hsettle] at h
    | some returned =>
      obtain ⟨outcome', after⟩ := returned
      obtain ⟨sequence, -, houtcome, -⟩ :=
        (Broker.settle_eq_some sha256Hex overflowChecks).mp hsettle
      rw [hsettle] at h
      rw [← Option.some.inj h, houtcome]
      exact ⟨rfl, rfl⟩

theorem constructIntent_echo {body : String} {value : List Char}
    (h : stripPrefix body "echo " = some value) :
    constructIntent body = ("echo", [String.ofList value]) := by
  unfold constructIntent
  rw [h]

theorem constructIntent_other {body : String} (h : stripPrefix body "echo " = none) :
    constructIntent body = ("unsupported.request", [body]) := by
  unfold constructIntent
  rw [h]

/-- An intent that the kernel actuates is an echo. -/
theorem actuate_intend {gateway : Gateway} {message : Message} {consequence : Consequence}
    (h : Broker.actuate (gateway.intend message) = .ok consequence) :
    ∃ payload, message.body = "echo " ++ payload ∧ consequence = .text payload ∧
      (gateway.intend message).capability = "echo" := by
  unfold Broker.actuate Gateway.intend at h
  cases hprefix : stripPrefix message.body "echo " with
  | none =>
    rw [constructIntent_other hprefix] at h
    simp at h
  | some value =>
    have hintent := constructIntent_echo hprefix
    refine ⟨String.ofList value, stripPrefix_eq_some.mp hprefix, ?_, ?_⟩
    · rw [hintent] at h
      simpa using h.symm
    · show (constructIntent message.body).1 = "echo"
      rw [hintent]

/-- An Alive answer is the echo of a message whose sender has a subject with that authority. -/
theorem Follows.alive_handle {policy : Policy} {calls : List GatewayCall} {gateway : Gateway}
    {message : Message} (hfollows : Follows policy calls gateway)
    (h : (gateway.handle sha256Hex overflowChecks message).1 = some outcome)
    (halive : outcome.receipt.standing = .alive) :
    ∃ subject payload, registered calls message.channel message.externalSubject = some subject ∧
      subjectOf calls message = subject ∧ (subject, "echo") ∈ policy.permissions ∧
      ¬ Revoked policy calls subject ∧ message.body = "echo " ++ payload ∧
      outcome.result = .ok (.text payload) := by
  obtain ⟨nonce, hresult, hstanding⟩ := handle_eq_some h
  obtain ⟨consequence, hok⟩ := standingOf_eq_alive.mp (hstanding.symm.trans halive)
  have hfollows' : Follows policy calls { gateway with nonce } :=
    ⟨hfollows.identities, hfollows.permissions, hfollows.revoked⟩
  obtain ⟨hknown, hrevoked, hpermitted, hactuate⟩ :=
    (verdict_eq_ok sha256Hex).mp (hresult.symm.trans hok)
  obtain ⟨payload, hbody, hconsequence, hcapability⟩ := actuate_intend hactuate
  rw [hfollows'.intend_subject] at hknown hrevoked hpermitted
  rw [hcapability, hfollows.permissions] at hpermitted
  rw [hfollows.revoked] at hrevoked
  cases hregistered : registered calls message.channel message.externalSubject with
  | none =>
    rw [subjectOf_of_none hregistered, startsWith_unknownSubject] at hknown
    exact absurd hknown (by decide)
  | some subject =>
    have hsubject := subjectOf_of_some hregistered
    rw [hsubject] at hrevoked hpermitted
    exact ⟨subject, payload, rfl, hsubject, hpermitted, hrevoked, hbody, by rw [hok, hconsequence]⟩

/-- A sender without a registration is unknown, whatever the policy says. -/
theorem Follows.unknown_handle {policy : Policy} {calls : List GatewayCall} {gateway : Gateway}
    {message : Message} (hfollows : Follows policy calls gateway)
    (h : (gateway.handle sha256Hex overflowChecks message).1 = some outcome)
    (hregistered : registered calls message.channel message.externalSubject = none) :
    outcome.result = .error .subjectUnknown := by
  obtain ⟨nonce, hresult, -⟩ := handle_eq_some h
  have hfollows' : Follows policy calls { gateway with nonce } :=
    ⟨hfollows.identities, hfollows.permissions, hfollows.revoked⟩
  have hsubject := hfollows'.intend_subject message
  rw [subjectOf_of_none hregistered] at hsubject
  rw [hresult, verdict, Option.elim_none, Policy.admitAction, hsubject,
    if_pos (startsWith_unknownSubject _ _)]
  rfl

end Step

/-! ## The actions of a run -/

section Actions

variable {sha256Hex : List UInt8 → String} {overflowChecks : Bool}

/-- The action of a request with a nonce. -/
def actionOf (request : String × String) (nonce : UInt64) : Action where
  subject := request.1
  capability := (constructIntent request.2).1
  arguments := (constructIntent request.2).2
  workingDirectory := "/"
  nonce := nonce

/-- The intent determines the text. -/
theorem constructIntent_inj {a b : String} (h : constructIntent a = constructIntent b) : a = b := by
  cases ha : stripPrefix a "echo " with
  | none =>
    rw [constructIntent_other ha] at h
    cases hb : stripPrefix b "echo " with
    | none =>
      rw [constructIntent_other hb] at h
      simpa using h
    | some value =>
      rw [constructIntent_echo hb] at h
      simp at h
  | some value =>
    rw [constructIntent_echo ha] at h
    cases hb : stripPrefix b "echo " with
    | none =>
      rw [constructIntent_other hb] at h
      simp at h
    | some value' =>
      rw [constructIntent_echo hb] at h
      have hvalue : String.ofList value = String.ofList value' := by simpa using h
      rw [stripPrefix_eq_some.mp ha, stripPrefix_eq_some.mp hb, hvalue]

theorem actionOf_inj {r r' : String × String} {nonce nonce' : UInt64} :
    actionOf r nonce = actionOf r' nonce' ↔ r = r' ∧ nonce = nonce' := by
  constructor
  · intro h
    have hsubject : r.1 = r'.1 := congrArg Action.subject h
    have hintent : constructIntent r.2 = constructIntent r'.2 :=
      Prod.ext (congrArg Action.capability h) (congrArg Action.arguments h)
    exact ⟨Prod.ext hsubject (constructIntent_inj hintent), congrArg Action.nonce h⟩
  · rintro ⟨rfl, rfl⟩
    rfl

theorem Follows.intend_eq {policy : Policy} {calls : List GatewayCall} {gateway : Gateway}
    (h : Follows policy calls gateway) (message : Message) :
    gateway.intend message = actionOf (subjectOf calls message, message.body) gateway.nonce := by
  have hsubject := h.intend_subject message
  unfold actionOf
  rw [← hsubject]
  rfl

theorem nonce_handle (gateway : Gateway) (message : Message) :
    (gateway.handle sha256Hex overflowChecks message).2.nonce =
      (increment overflowChecks gateway.nonce).getD gateway.nonce := by
  unfold Gateway.handle
  cases increment overflowChecks gateway.nonce with
  | none => rfl
  | some nonce =>
    dsimp only
    split
    · rfl
    · rfl

/-- Without overflow checks the requests of a run get the nonces in turn, modulo `2 ^ 64`. -/
theorem constructed_unchecked {policy : Policy} {earlier : List GatewayCall} {gateway : Gateway}
    (h : Follows policy earlier gateway) (later : List GatewayCall) :
    constructed sha256Hex false gateway later = (requestsAfter earlier later).mapIdx
      fun i request => actionOf request (gateway.nonce + 1 + UInt64.ofNat i) := by
  induction later generalizing earlier gateway with
  | nil => rfl
  | cons call later ih =>
    have hnext := ih (h.next sha256Hex false call)
    cases call with
    | register channel externalSubject subject => exact hnext
    | revoke subject => exact hnext
    | handle message =>
      have hfollows : Follows policy earlier { gateway with nonce := gateway.nonce + 1 } :=
        ⟨h.identities, h.permissions, h.revoked⟩
      have hnonce : (gateway.next sha256Hex false (.handle message)).nonce = gateway.nonce + 1 :=
        nonce_handle gateway message
      have hshift : ∀ i : ℕ, gateway.nonce + 1 + 1 + UInt64.ofNat i =
          gateway.nonce + 1 + UInt64.ofNat (i + 1) := by
        intro i
        rw [UInt64.ofNat_add, UInt64.add_assoc (gateway.nonce + 1),
          UInt64.add_comm (UInt64.ofNat i)]
        rfl
      rw [constructed, hnext, hnonce, requestsAfter, List.mapIdx_cons]
      simp only [Gateway.constructs, increment_unchecked, Option.map_some, hfollows.intend_eq,
        hshift]
      simp

/-- A call does not count down. -/
theorem nonce_le_next (gateway : Gateway) (call : GatewayCall) :
    gateway.nonce.toNat ≤ (gateway.next sha256Hex true call).nonce.toNat := by
  cases call with
  | register channel externalSubject subject => exact le_rfl
  | revoke subject => exact le_rfl
  | handle message =>
    show _ ≤ (gateway.handle sha256Hex true message).2.nonce.toNat
    rw [nonce_handle]
    cases hnonce : increment true gateway.nonce with
    | none => exact le_rfl
    | some nonce =>
      have hcount := toNat_of_increment (.inl rfl) hnonce
      rw [Option.getD_some]
      omega

variable (sha256Hex) in
/-- With overflow checks an action has the nonce to which the call counts up. -/
theorem nonce_constructs {gateway : Gateway} {call : GatewayCall} {action : Action}
    (h : gateway.constructs true call = some action) :
    action.nonce = (gateway.next sha256Hex true call).nonce ∧
      gateway.nonce.toNat < action.nonce.toNat := by
  cases call with
  | register channel externalSubject subject => simp [Gateway.constructs] at h
  | revoke subject => simp [Gateway.constructs] at h
  | handle message =>
    obtain ⟨nonce, hnonce, haction⟩ := Option.map_eq_some_iff.mp h
    have hcount := toNat_of_increment (.inl rfl) hnonce
    have hnext : (gateway.next sha256Hex true (.handle message)).nonce = nonce := by
      show (gateway.handle sha256Hex true message).2.nonce = nonce
      rw [nonce_handle, hnonce, Option.getD_some]
    have hintend : action.nonce = nonce := by rw [← haction]; rfl
    rw [hnext, hintend]
    exact ⟨rfl, by omega⟩

theorem lt_nonce_of_mem {gateway : Gateway} {calls : List GatewayCall} {action : Action}
    (h : action ∈ constructed sha256Hex true gateway calls) :
    gateway.nonce.toNat < action.nonce.toNat := by
  induction calls generalizing gateway with
  | nil => exact absurd h List.not_mem_nil
  | cons call calls ih =>
    rcases List.mem_append.mp h with h | h
    · exact (nonce_constructs sha256Hex (Option.mem_toList.mp h)).2
    · exact lt_of_le_of_lt (nonce_le_next gateway call) (ih h)

/-- With overflow checks the nonces of a run count up. -/
theorem pairwise_constructed (gateway : Gateway) (calls : List GatewayCall) :
    (constructed sha256Hex true gateway calls).Pairwise
      fun a b => a.nonce.toNat < b.nonce.toNat := by
  induction calls generalizing gateway with
  | nil => exact List.Pairwise.nil
  | cons call calls ih =>
    rw [constructed, List.pairwise_append]
    refine ⟨?_, ih _, ?_⟩
    · cases gateway.constructs true call with
      | none => exact List.Pairwise.nil
      | some action => exact List.pairwise_singleton _ _
    · intro a ha b hb
      rw [(nonce_constructs sha256Hex (Option.mem_toList.mp ha)).1]
      exact lt_nonce_of_mem hb

/-- Two numbers give one nonce if they are a multiple of `2 ^ 64` apart. -/
theorem nonce_eq_iff {start : UInt64} {i j : ℕ} (h : i ≤ j) :
    start + UInt64.ofNat i = start + UInt64.ofNat j ↔ 2 ^ 64 ∣ j - i := by
  rw [UInt64.add_right_inj, ← UInt64.toNat_inj, UInt64.toNat_ofNat', UInt64.toNat_ofNat']
  exact Nat.modEq_iff_dvd' h

/-- Numbered requests are all different unless one repeats with the same nonce. -/
theorem nodup_mapIdx_actionOf (requests : List (String × String)) (start : UInt64) :
    (requests.mapIdx fun i request => actionOf request (start + UInt64.ofNat i)).Nodup ↔
      ¬ Repeats requests := by
  rw [List.Nodup, List.pairwise_iff_getElem]
  constructor
  · rintro h ⟨i, j, hlt, hj, hdvd, heq⟩
    have hi : i < requests.length := by omega
    rw [List.getElem?_eq_getElem hi, List.getElem?_eq_getElem hj, Option.some.injEq] at heq
    refine h i j (by simpa using hi) (by simpa using hj) hlt ?_
    rw [List.getElem_mapIdx, List.getElem_mapIdx]
    exact actionOf_inj.mpr ⟨heq, (nonce_eq_iff hlt.le).mpr hdvd⟩
  · intro h i j hi hj hlt heq
    rw [List.getElem_mapIdx, List.getElem_mapIdx] at heq
    obtain ⟨hrequest, hnonce⟩ := actionOf_inj.mp heq
    rw [List.length_mapIdx] at hi hj
    refine h ⟨i, j, hlt, hj, (nonce_eq_iff hlt.le).mp hnonce, ?_⟩
    rw [List.getElem?_eq_getElem hi, List.getElem?_eq_getElem hj, hrequest]

variable (sha256Hex) in
/-- No action of a run comes twice unless a request repeats with a nonce that wrapped. -/
theorem nodup_constructed_iff (policy : Policy) (calls : List GatewayCall) :
    (constructed sha256Hex overflowChecks (.new policy) calls).Nodup ↔
      overflowChecks = true ∨ ¬ Repeats (requests calls) := by
  cases overflowChecks with
  | true =>
    have hnodup : (constructed sha256Hex true (.new policy) calls).Nodup :=
      (pairwise_constructed (.new policy) calls).imp fun h heq => by
        rw [heq] at h
        exact lt_irrefl _ h
    simp [hnodup]
  | false =>
    rw [constructed_unchecked (follows_new policy), nodup_mapIdx_actionOf]
    simp [requests]

/-- The encodings of actions that fit the memory are different if the actions are. -/
theorem pairwise_canonicalBytes_iff {actions : List Action}
    (hfits : ∀ action ∈ actions, action.FitsMemory) :
    actions.Pairwise (fun a b => a.canonicalBytes ≠ b.canonicalBytes) ↔ actions.Nodup := by
  refine List.Pairwise.iff_of_mem fun {a b} ha hb => not_congr ⟨fun h => ?_, fun h => ?_⟩
  · exact Action.canonicalBytes_inj (hfits a ha) (hfits b hb) h
  · rw [h]

end Actions

/-! ## Authority over runs -/

/-- Alive answers go to registered, permitted and unrevoked subjects with their payload, a revoked
subject has none, and an unregistered sender is unknown, in every run; no two actions of the run
have one encoding exactly when no request repeats with a nonce that wrapped. -/
theorem authority_iff (sha256Hex : List UInt8 → String) (overflowChecks : Bool) (policy : Policy)
    (calls : List GatewayCall)
    (hfits : ∀ action ∈ constructed sha256Hex overflowChecks (.new policy) calls,
      action.FitsMemory) :
    Authority sha256Hex overflowChecks policy calls ↔
      overflowChecks = true ∨ ¬ Repeats (requests calls) := by
  rw [← nodup_constructed_iff sha256Hex policy, ← pairwise_canonicalBytes_iff hfits]
  constructor
  · exact Authority.distinct
  · intro hdistinct
    constructor
    · intro earlier message later outcome _ hanswer halive
      obtain ⟨subject, payload, hregistered, -, hpermitted, hrevoked, hbody, hresult⟩ :=
        (follows_run policy earlier).alive_handle hanswer halive
      exact ⟨subject, payload, hregistered, hpermitted, hrevoked, hbody, hresult⟩
    · intro earlier subject between message later outcome _ hsubject hanswer halive
      obtain ⟨subject', -, -, hsubject', -, hrevoked, -⟩ :=
        (follows_run policy _).alive_handle hanswer halive
      refine hrevoked (.inr ?_)
      rw [← hsubject', hsubject]
      simp
    · intro earlier message later outcome _ hregistered hanswer
      exact (follows_run policy earlier).unknown_handle hanswer hregistered
    · exact hdistinct

/-- A registration and two messages. -/
def echoCalls : List GatewayCall :=
  [.register .cli "local" "subject-cli",
    .handle { channel := .cli, externalSubject := "local", body := "echo hello" },
    .handle { channel := .cli, externalSubject := "local", body := "echo hello" }]

theorem requests_echoCalls :
    requests echoCalls = [("subject-cli", "echo hello"), ("subject-cli", "echo hello")] := by decide

/-- What the gateway makes of these messages fits the memory. -/
theorem fitsMemory_echo (nonce : UInt64) :
    (actionOf ("subject-cli", "echo hello") nonce).FitsMemory := by
  have hintent : constructIntent "echo hello" = ("echo", ["hello"]) := by decide
  have hsubject : (asBytes "subject-cli").length < 256 ^ 8 := by decide
  have hcapability : (asBytes "echo").length < 256 ^ 8 := by decide
  have hdirectory : (asBytes "/").length < 256 ^ 8 := by decide
  have harguments : ∀ argument ∈ ["hello"], (asBytes argument).length < 256 ^ 8 := by decide
  unfold actionOf
  rw [hintent]
  exact ⟨hsubject, hcapability, hdirectory, by simp, harguments⟩

theorem authority_echoCalls : Authority (fun _ => "") false (.new "phase-2") echoCalls := by
  refine (authority_iff _ _ _ _ fun action haction => ?_).mpr (.inr ?_)
  · rw [constructed_unchecked (follows_new _)] at haction
    obtain ⟨i, hi, rfl⟩ := List.mem_mapIdx.mp haction
    have hrequest : (requestsAfter [] echoCalls)[i] ∈ requests echoCalls := List.getElem_mem hi
    rw [requests_echoCalls] at hrequest
    simp only [List.mem_cons, List.not_mem_nil, or_false, or_self] at hrequest
    rw [hrequest]
    exact fitsMemory_echo _
  · rintro ⟨i, j, hlt, hj, hdvd, -⟩
    rw [requests_echoCalls] at hj
    have hle := Nat.le_of_dvd (by omega) hdvd
    have hlength : [("subject-cli", "echo hello"), ("subject-cli", "echo hello")].length = 2 := rfl
    omega

/-- A message makes no difference to who is registered. -/
theorem requestsAfter_replicate (earlier : List GatewayCall) (message : Message) (n : ℕ) :
    requestsAfter earlier (List.replicate n (.handle message)) =
      List.replicate n (subjectOf earlier message, message.body) := by
  induction n generalizing earlier with
  | zero => rfl
  | succ n ih =>
    have hsubject : subjectOf (earlier ++ [.handle message]) message =
      subjectOf earlier message := by
      unfold subjectOf
      rw [registered_concat]
    rw [List.replicate_succ, requestsAfter, ih, hsubject, List.replicate_succ]

/-- The message that is handled `2 ^ 64` messages later constructs the same action. -/
theorem repeated_past_the_nonces :
    ¬ ∃ sha256Hex : List UInt8 → String,
      Authority sha256Hex false (.new "phase-2") (List.replicate (2 ^ 64 + 1)
        (.handle { channel := .cli, externalSubject := "local", body := "echo hello" })) := by
  rintro ⟨sha256Hex, h⟩
  have hnodup := h.distinct.imp fun hne heq => hne (congrArg Action.canonicalBytes heq)
  have hrepeats := (nodup_constructed_iff _ _ _).mp hnodup
  rw [requests, requestsAfter_replicate] at hrepeats
  refine hrepeats.resolve_left (by decide) ⟨0, 2 ^ 64, by decide, ?_, dvd_refl _, ?_⟩
  · rw [List.length_replicate]
    exact Nat.lt_succ_self _
  · rw [List.getElem?_replicate, List.getElem?_replicate, if_pos (by decide), if_pos (by decide)]

end ChatmanEcosystem.Gall
