import ChatmanEcosystem.Common.Concurrent
import ChatmanEcosystem.Console.StripeBilling
import ChatmanEcosystem.Js.Runtime

/-!
# The referral ledger

Model of `platform-console/app/lib/referral-ledger.ts`, lines 48–277: the rows of
the ledger table, `recordReferralCredit` that inserts one, and
`applyReferralCredit` that credits the customer of the referred organisation and
marks the row. Instants are milliseconds since 1970 where the source has their
ISO text. The calls run concurrently; each stops at its awaits: the pool, the
table, the organisation, its subscription, and Stripe. A query that fails changes
nothing, and Stripe makes one balance transaction for each call that it answers.
The entries of the audit log are left out, since nobody awaits them.

Results:

* `findCredit_updateCredit`: what an update does to the rows.
-/

namespace ChatmanEcosystem.Console.Referral

open Common.Concurrent Js Rust

/-- Who is credited: the table's check admits exactly one of the two columns. -/
inductive Referrer
  | org (referrerOrgId : String)
  | partner (referrerPartnerId : String)
  deriving DecidableEq

/-- A positive amount in cents. -/
abbrev Cents := { cents : ℤ // 0 < cents }

/-- `ReferralCredit` (lines 52–63), a row of the table. -/
structure ReferralCredit where
  id : String
  referrer : Referrer
  referredOrgId : String
  creditAmountCents : Cents
  currency : String
  reason : String
  createdAt : ℤ
  appliedAt : Option ℤ
  stripeBalanceTransactionId : Option String
  deriving DecidableEq

/-- A balance transaction at Stripe. `credit` is the row that it was created for; Stripe does not
keep it. -/
structure BalanceTransaction where
  id : String
  credit : String
  customer : String
  amount : ℤ
  currency : String
  description : String
  deriving DecidableEq

/-- The table and Stripe, the newest transaction first. -/
structure Ledger where
  rows : List ReferralCredit
  transactions : List BalanceTransaction
  deriving DecidableEq

/-- No row, no transaction. -/
def Ledger.empty : Ledger := { rows := [], transactions := [] }

/-- `SELECT … WHERE id = $1`. -/
def findCredit (rows : List ReferralCredit) (id : String) : Option ReferralCredit :=
  rows.find? fun row => row.id = id

/-- The row as the update of lines 252–258 leaves it. -/
def applied (transactionId : String) (now : ℤ) (row : ReferralCredit) : ReferralCredit :=
  { row with appliedAt := some now, stripeBalanceTransactionId := some transactionId }

/-- `UPDATE … WHERE id = $1`. -/
def updateCredit (rows : List ReferralCredit) (id transactionId : String) (now : ℤ) :
    List ReferralCredit :=
  rows.map fun row => if row.id = id then applied transactionId now row else row

/-! ## What a caller records -/

/-- The parameters of `recordReferralCredit`, the actor apart. -/
structure RecordInput where
  referrerOrgId : Option String
  referrerPartnerId : Option String
  referredOrgId : String
  creditAmountCents : ℚ
  currency : String
  reason : String

/-- A row before it has an id. -/
structure Draft where
  referrer : Referrer
  referredOrgId : String
  creditAmountCents : Cents
  currency : String
  reason : String
  deriving DecidableEq

/-- `value?.trim() || null`. -/
def trimmed (value : Option String) : Option String := (value.map trim).filter (· ≠ "")

/-- The checks of `recordReferralCredit` (lines 143–165). -/
def checkInput (toLowerCase : String → String) (input : RecordInput) : K8sResult Draft := do
  let referredOrgId := trim input.referredOrgId
  let reason := trim input.reason
  let currency := toLowerCase (trim input.currency)
  let referrer ←
    match trimmed input.referrerOrgId, trimmed input.referrerPartnerId with
    | some org, none => .ok (.org org)
    | none, some partner => .ok (.partner partner)
    | _, _ => .error "exactly one of referrerOrgId or referrerPartnerId is required"
  ensure (referredOrgId ≠ "") "referredOrgId is required"
  let cents := input.creditAmountCents.num
  if h : input.creditAmountCents.isInt = true ∧ 0 < cents then
    ensure (currency ≠ "") "currency is required"
    ensure (reason ≠ "") "reason is required"
    return { referrer, referredOrgId, creditAmountCents := ⟨cents, h.2⟩, currency, reason }
  else .error "creditAmountCents must be a positive integer"

/-- The row that `recordReferralCredit` inserts (lines 176–183). -/
def Draft.row (draft : Draft) (id : String) (now : ℤ) : ReferralCredit where
  id
  referrer := draft.referrer
  referredOrgId := draft.referredOrgId
  creditAmountCents := draft.creditAmountCents
  currency := draft.currency
  reason := draft.reason
  createdAt := now
  appliedAt := none
  stripeBalanceTransactionId := none

/-- The transaction that `applyReferralCredit` asks for (lines 246–250). -/
def newTransaction (existing : ReferralCredit) (customerId id : String) : BalanceTransaction where
  id
  credit := existing.id
  customer := customerId
  amount := -existing.creditAmountCents
  currency := existing.currency
  description := "Referral credit: " ++ existing.reason

/-! ## The calls -/

/-- A call of the module. -/
inductive Request
  | record (input : RecordInput)
  | apply (id : String)

/-- How a call ends. -/
inductive Outcome
  | returned (result : K8sResult ReferralCredit)
  | thrown (error : String)
  deriving DecidableEq

/-- Where a call stands: what it awaits, with what it has read. -/
inductive Phase
  | draftOrg (draft : Draft)
  | draftPool (draft : Draft)
  | insert (draft : Draft)
  | pool (id : String)
  | row (id : String)
  | org (existing : ReferralCredit)
  | subscription (existing : ReferralCredit)
  | balance (existing : ReferralCredit) (customerId : String)
  | update (existing : ReferralCredit) (transactionId : String)
  | done (outcome : Outcome)
  deriving DecidableEq

/-- What an awaited operation answers. The pool is there or not, and an organisation is known by
its namespace. -/
inductive Answer
  | pool (result : K8sResult Bool)
  | org (result : K8sResult (Option String))
  | subscription (result : K8sResult (Option StoredSubscription))
  | row (result : K8sResult Unit)
  | balance (result : K8sResult String)
  | update (result : K8sResult ℤ)
  | insert (result : K8sResult (String × ℤ))

namespace Phase

/-- The call returns an error. -/
def fails (error : String) : Phase := .done (.returned (.error error))

/-- A call up to its first await. -/
def enter (toLowerCase : String → String) : Request → Phase
  | .record input =>
    match checkInput toLowerCase input with
    | .error error => fails error
    | .ok draft => .draftOrg draft
  | .apply id => .pool id

/-- What follows the pool (lines 171–174 and 214–217). -/
def pooled (result : K8sResult Bool) (next : Phase) : Phase :=
  match result with
  | .error error => .done (.thrown error)
  | .ok false => fails "referral ledger store not configured or unreachable"
  | .ok true => next

/-- What follows `getOrg` (lines 167–169 and 231–233). -/
def ofOrg (referredOrgId : String) (result : K8sResult (Option String)) (next : Phase) : Phase :=
  match result with
  | .error error => fails error
  | .ok none => fails ("referred org '" ++ referredOrgId ++ "' not found")
  | .ok (some _) => next

/-- `applyReferralCredit` after it has read the row (lines 219–229). -/
def found (credentials : Bool) (id : String) (stored : Option ReferralCredit) : Phase :=
  match stored with
  | none => fails ("referral credit '" ++ id ++ "' not found")
  | some existing =>
    if existing.appliedAt.isSome then .done (.returned (.ok existing))
    else if credentials then .org existing
    else fails "STRIPE_SECRET_KEY not configured"

/-- `applyReferralCredit` after it has read the subscription (lines 235–243). -/
def billed (existing : ReferralCredit) (result : K8sResult (Option StoredSubscription)) : Phase :=
  match result with
  | .error error => fails error
  | .ok stored =>
    match (stored.map (·.stripeCustomerId)).filter (· ≠ "") with
    | none =>
      fails ("org '" ++ existing.referredOrgId ++
        "' has no Stripe customer on file yet -- cannot apply credit")
    | some customerId => .balance existing customerId

/-- The call goes on with an answer, if it waits for such an answer. -/
def resume (credentials : Bool) (ledger : Ledger) : Phase → Answer → Option (Phase × Ledger)
  | .draftOrg draft, .org result =>
    some (ofOrg draft.referredOrgId result (.draftPool draft), ledger)
  | .draftPool draft, .pool result => some (pooled result (.insert draft), ledger)
  | .insert _, .insert (.error error) =>
    some (fails ("referral ledger insert failed: " ++ error), ledger)
  | .insert draft, .insert (.ok (id, now)) =>
    -- the primary key
    if (findCredit ledger.rows id).isSome then none
    else
      some (.done (.returned (.ok (draft.row id now))),
        { ledger with rows := ledger.rows ++ [draft.row id now] })
  | .pool id, .pool result => some (pooled result (.row id), ledger)
  | .row _, .row (.error error) => some (.done (.thrown error), ledger)
  | .row id, .row (.ok ()) => some (found credentials id (findCredit ledger.rows id), ledger)
  | .org existing, .org result =>
    some (ofOrg existing.referredOrgId result (.subscription existing), ledger)
  | .subscription existing, .subscription result => some (billed existing result, ledger)
  | .balance _ _, .balance (.error error) =>
    some (fails ("Stripe balance transaction failed: " ++ error), ledger)
  | .balance existing customerId, .balance (.ok id) =>
    some (.update existing id,
      { ledger with transactions := newTransaction existing customerId id :: ledger.transactions })
  | .update _ _, .update (.error error) =>
    some (fails ("Stripe balance transaction failed: " ++ error), ledger)
  | .update existing transactionId, .update (.ok now) =>
    let rows := updateCredit ledger.rows existing.id transactionId now
    some (match findCredit rows existing.id with
      | none => fails "Stripe balance transaction failed: Cannot read properties of undefined"
      | some credit => .done (.returned (.ok credit)), { ledger with rows })
  | _, _ => none

end Phase

/-! ## The rows -/

theorem findCredit_concat_of_isSome {rows : List ReferralCredit} {id : String}
    (new : ReferralCredit)
    (h : (findCredit rows id).isSome = true) :
    findCredit (rows ++ [new]) id = findCredit rows id := by
  rw [findCredit, List.find?_append]
  exact Option.or_of_isSome h

/-- What an update does to the rows. -/
theorem findCredit_updateCredit (rows : List ReferralCredit) (credit transactionId id : String)
    (now : ℤ) :
    findCredit (updateCredit rows credit transactionId now) id =
      if credit = id then (findCredit rows id).map (applied transactionId now)
      else findCredit rows id := by
  induction rows with
  | nil => split_ifs <;> rfl
  | cons row rows ih =>
    have hid : (if row.id = credit then applied transactionId now row else row).id = row.id := by
      split_ifs <;> rfl
    rw [findCredit, updateCredit, List.map_cons, List.find?_cons, hid]
    by_cases hrow : row.id = id
    · rw [findCredit, List.find?_cons, decide_eq_true hrow]
      by_cases hcredit : credit = id
      · rw [if_pos hcredit, if_pos (hrow.trans hcredit.symm)]
        rfl
      · rw [if_neg hcredit, if_neg fun heq => hcredit (heq.symm.trans hrow)]
    · rw [decide_eq_false hrow]
      show findCredit (updateCredit rows credit transactionId now) id = _
      have hskip : findCredit (row :: rows) id = findCredit rows id := by
        rw [findCredit, List.find?_cons, decide_eq_false hrow]
        rfl
      rw [ih, hskip]

/-- The module as a program of concurrent calls. Nobody else writes the table. -/
def program (toLowerCase : String → String) (credentials : Bool) :
    Program Ledger Phase Request Answer Empty where
  enter ledger request := (Phase.enter toLowerCase request, ledger)
  resume := Phase.resume credentials
  move ledger _ := ledger

end ChatmanEcosystem.Console.Referral
