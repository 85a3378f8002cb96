import PartnerPortal.ApiKeys.Store
import PartnerPortal.Ledger.Recovery
import PartnerPortal.Ledger.Retention

/-!
# Operations on the billing tables

Payments, the email lease, partners and their models, beside the statement write of the store and
the writes of the ledger.  Each is one transaction of the one writer connection, and some read back
what they wrote.

Results:
- `BillingOp.run_writes` — what any operation does to the tables of statements and lines.
-/

namespace PartnerPortal

open MachineInt

/-- The database failing under a call: in its write, or in the read after it. -/
structure CallFault where
  write : Option SqliteError := none
  readBack : Option SqliteError := none

/-! ## Payments -/

/-- `UPDATE daily_statements SET … WHERE …` -/
def Store.updateStatements (store : Store) (selects : Statement → Bool)
    (change : Statement → Statement) : Store :=
  { store with statements := store.statements.map fun s => if selects s then change s else s }

def statementById (store : Store) (id : Int) : Option Statement :=
  store.statements.find? fun s => (s.id : Int) = id

def Statement.isPaid (s : Statement) : Bool := s.paidAt.isSome

/-- `WHERE id = ?1 AND billing_mode = 'invoice' AND paid_at IS NULL` -/
def Statement.payable (id : Int) (s : Statement) : Bool :=
  (s.id : Int) = id && s.billingMode = .invoice && s.paidAt.isNone

/-- The columns a payment sets. -/
def Statement.pay (now paidBy : String) (reference note : Option String) (s : Statement) :
    Statement :=
  { s with
    paidAt := some now
    paidBy := some paidBy
    paymentReference := reference
    paymentNote := note
    updatedAt := now }

/-- The statement a payment was recorded on, or why it was not. -/
def readPaid (fault : CallFault) (id : Int) (store : Store) : Except BillingError Statement :=
  match fault.readBack with
  | some e => .error (.database e)
  | none =>
    match statementById store id with
    | none => .error (.partnerNotFound ("statement " ++ toString id))
    | some s =>
      if s.isPaid then .ok s else .error (.statementNotPayable id s.billingMode.asStr)

/-- Record a payment.  A statement that is paid already is left as it is. -/
def markPaid (fault : CallFault) (now : Instant) (id : Int) (paidBy : String)
    (reference note : Option String) (store : Store) : Store × Except BillingError Statement :=
  if Text.trim paidBy = "" then
    (store, .error (.invalid "a payment must name who recorded it"))
  else
    match fault.write with
    | some e => (store, .error (.database e))
    | none =>
      let written := store.updateStatements (Statement.payable id)
        (Statement.pay (formatInstant now) paidBy reference note)
      (written, readPaid fault id written)

/-! ## The email lease -/

/-- The result of a send attempt. -/
inductive EmailOutcome where
  | sent
  | failed (error : String) (retryAt : OffsetDateTime)
deriving DecidableEq

/-- The columns a sent email sets. -/
def Statement.recordSent (now : String) (s : Statement) : Statement :=
  { s with
    emailSentAt := some (s.emailSentAt.getD now)
    emailAttempts := s.emailAttempts + 1
    emailLastError := none
    emailNextRetryAt := none
    emailClaimInstance := none
    emailClaimedUntil := none
    updatedAt := now }

/-- The columns a failed attempt sets. -/
def Statement.recordFailed (now error retryAt : String) (s : Statement) : Statement :=
  { s with
    emailAttempts := s.emailAttempts + 1
    emailLastError := some error
    emailNextRetryAt := some retryAt
    emailClaimInstance := none
    emailClaimedUntil := none
    updatedAt := now }

/-- What an outcome changes in a row.  A retry that cannot be written as a timestamp panics. -/
def EmailOutcome.change (now : Instant) : EmailOutcome → Except Panic (Statement → Statement)
  | .sent => .ok (Statement.recordSent (formatInstant now))
  | .failed error retryAt => do
    let retryAt ← formatTs retryAt
    return Statement.recordFailed (formatInstant now) error retryAt

/-- Statement email bookkeeping, whichever instance holds the lease. -/
def recordEmailAttempt (fault : CallFault) (now : Instant) (id : Int) (outcome : EmailOutcome)
    (store : Store) : Except Panic (Store × Except BillingError Unit) := do
  let change ← outcome.change now
  match fault.write with
  | some e => return (store, .error (.database e))
  | none => return (store.updateStatements (fun s => (s.id : Int) = id) change, .ok ())

/-- `TRIM(billing_email) <> ''`, where SQL trims spaces only. -/
def hasAddress (billingEmail : String) : Bool := billingEmail.toList.any fun c => c ≠ ' '

/-- The `WHERE` of a claim. -/
def Statement.claimable (partners : List Partner) (nowText : String) (s : Statement) : Bool :=
  s.emailSentAt.isNone && s.billingMode = .invoice && s.paidAt.isNone &&
    (0 < s.totalAmountMicroUsd.value || 0 < s.incompleteUsageCount) &&
    (partners.any fun p => p.consumerId = s.consumerId && hasAddress p.billingEmail) &&
    (s.emailNextRetryAt.all fun retryAt => !(nowText < retryAt)) &&
    (s.emailClaimedUntil.all fun claimedUntil => !(nowText < claimedUntil))

/-- `LIMIT`, where a negative one is none. -/
def limitRows {α : Type} (limit : Int) (rows : List α) : List α :=
  if limit < 0 then rows else rows.take limit.toNat

/-- The ids a claim takes. -/
def claimedIds (store : Store) (nowText : String) (limit : Int) : List Nat :=
  (limitRows limit ((store.statements.filter
    (Statement.claimable store.partners nowText)).insertionSort fun a b =>
      a.dueAt.getD "" < b.dueAt.getD "" ||
        (a.dueAt = b.dueAt && a.id ≤ b.id))).map Statement.id

/-- The columns a claim sets. -/
def Statement.claim (instanceId claimUntil : String) (s : Statement) : Statement :=
  { s with
    emailClaimInstance := some instanceId
    emailClaimedUntil := some claimUntil }

/-- Take the send lease on up to `limit` statements, and return them. -/
def claimEmails (fault : CallFault) (now : Instant) (instanceId : String)
    (limit claimTtlMinutes : Int) (store : Store) :
    Except Panic (Store × Except BillingError (List Statement)) := do
  let ttl ← Duration.minutes claimTtlMinutes
  let lapses ← now.utc.add ttl
  let claimUntil ← formatTs lapses
  match fault.write with
  | some e => return (store, .error (.database e))
  | none =>
    let ids := claimedIds store (formatInstant now) limit
    let written := store.updateStatements (fun s => s.id ∈ ids)
      (Statement.claim instanceId claimUntil)
    return (written, .ok (written.statements.filter fun s => s.id ∈ ids))

/-! ## Partners and models -/

/-- The commercial facts needed to open an account for a partner. -/
structure NewPartner where
  consumerId : String
  name : String
  billingEmail : String
  billingMode : BillingMode
  paymentTermsMinutes : Int
deriving DecidableEq

/-- The editable half of a partner. -/
structure PartnerPatch where
  name : Option String := none
  billingEmail : Option String := none
  billingMode : Option BillingMode := none
  paymentTermsMinutes : Option Int := none
deriving DecidableEq

/-- One model's prices, as configured. -/
structure ModelPrice where
  model : String
  prices : PricingSnapshot
deriving DecidableEq

def negativeTerms : BillingError := .invalid "payment_terms_minutes must not be negative"

/-- The terms as their column holds them. -/
def checkTerms (terms : Int) : Except BillingError Count :=
  match Count.ofInt terms with
  | some terms => .ok terms
  | none => .error negativeTerms

/-- The row of a new partner, or why there is none. -/
def NewPartner.validated (new : NewPartner) (now : String) : Except BillingError Partner :=
  if Text.trim new.consumerId = "" then .error (.invalid "consumer_id must not be blank")
  else if Text.trim new.name = "" then .error (.invalid "name must not be blank")
  else do
    let terms ← checkTerms new.paymentTermsMinutes
    return {
      consumerId := Text.trim new.consumerId
      name := Text.trim new.name
      billingEmail := Text.trim new.billingEmail
      billingMode := new.billingMode
      paymentTermsMinutes := terms
      createdAt := now
      updatedAt := now }

def getPartner (store : Store) (consumerId : String) : Option Partner :=
  store.partners.find? fun p => p.consumerId = consumerId

/-- The read of a partner after a write. -/
def readPartner (fault : CallFault) (consumerId : String) (store : Store) :
    Except BillingError Partner :=
  match fault.readBack, getPartner store consumerId with
  | some e, _ => .error (.database e)
  | none, none => .error (.partnerNotFound consumerId)
  | none, some partner => .ok partner

/-- Whether a SQLite error is a uniqueness violation, whichever code reports it. -/
def isUniquenessViolation (e : SqliteError) : Bool :=
  e = .constraintUnique || e = .constraintPrimaryKey

/-- `INSERT INTO partners` -/
def insertPartner (fault : CallFault) (partner : Partner) (store : Store) :
    Except SqliteError Store :=
  match fault.write with
  | some e => .error e
  | none =>
    if (getPartner store partner.consumerId).isSome then .error .constraintPrimaryKey
    else .ok { store with partners := store.partners ++ [partner] }

/-- Open an account for a partner. -/
def createPartner (fault : CallFault) (now : Instant) (new : NewPartner) (store : Store) :
    Store × Except BillingError Partner :=
  match new.validated (formatInstant now) with
  | .error e => (store, .error e)
  | .ok partner =>
    match insertPartner fault partner store with
    | .ok written => (written, readPartner fault partner.consumerId written)
    | .error e =>
      (store, .error (if isUniquenessViolation e then .partnerExists partner.consumerId
        else .database e))

/-- The columns a patch sets. -/
def PartnerPatch.apply (patch : PartnerPatch) (terms : Option Count) (now : String)
    (partner : Partner) : Partner :=
  { partner with
    name := patch.name.getD partner.name
    billingEmail := patch.billingEmail.getD partner.billingEmail
    billingMode := patch.billingMode.getD partner.billingMode
    paymentTermsMinutes := terms.getD partner.paymentTermsMinutes
    updatedAt := now }

/-- The checks of a patch, with the terms as their column holds them. -/
def PartnerPatch.validated (patch : PartnerPatch) : Except BillingError (Option Count) := do
  let terms ← match patch.paymentTermsMinutes with
    | none => .ok none
    | some terms => (checkTerms terms).map some
  if patch.name.any fun name => Text.trim name = "" then
    .error (.invalid "name must not be blank")
  else return terms

/-- Apply a patch.  An empty one only reads. -/
def updatePartner (fault : CallFault) (now : Instant) (consumerId : String) (patch : PartnerPatch)
    (store : Store) : Store × Except BillingError Partner :=
  match patch.validated with
  | .error e => (store, .error e)
  | .ok terms =>
    if patch = {} then (store, readPartner fault consumerId store)
    else
      match fault.write with
      | some e => (store, .error (.database e))
      | none =>
        if (getPartner store consumerId).isNone then (store, .error (.partnerNotFound consumerId))
        else
          let written := { store with
            partners := store.partners.map fun p =>
              if p.consumerId = consumerId then patch.apply terms (formatInstant now) p else p }
          (written, readPartner fault consumerId written)

/-- Delete a partner, and with it every price.  A partner with a statement is kept by the foreign
key of the statement. -/
def deletePartner (fault : CallFault) (consumerId : String) (db : Database) :
    Database × Except BillingError Unit :=
  match fault.write with
  | some e => (db, .error (.database e))
  | none =>
    if (getPartner db.billing consumerId).isNone then
      (db, .error (.partnerNotFound consumerId))
    else if db.billing.statements.any fun s => s.consumerId = consumerId then
      (db, .error (.database .constraintForeignKey))
    else
      ({ db with
        billing := { db.billing with
          partners := db.billing.partners.filter fun p => p.consumerId ≠ consumerId }
        models := db.models.filter fun m => m.consumerId ≠ consumerId }, .ok ())

/-- The checks of a model list: no blank name and no name twice, trimmed. -/
def checkModels : List String → List ModelPrice → Except BillingError Unit
  | _, [] => .ok ()
  | seen, entry :: rest =>
    let model := Text.trim entry.model
    if model = "" then .error (.invalid "a model name must not be blank")
    else if model ∈ seen then
      .error (.invalid [.quoted model, " is listed twice; a model has one price"])
    else checkModels (model :: seen) rest

/-- SQL's `trim`, which takes spaces only. -/
def sqlTrim (text : List Char) : List Char := (text.dropWhile (· = ' ')).rdropWhile (· = ' ')

/-- SQL's `length`, which counts to the first NUL. -/
def sqlLength (text : List Char) : Nat := (text.takeWhile (· ≠ Char.ofNat 0)).length

/-- The table's `CHECK` of a model name. -/
def storableModel (model : String) : Bool := 0 < sqlLength (sqlTrim model.toList)

/-- Insert one model.  Its partner has to be there. -/
def insertModel (db : Database) (row : PartnerModel) : Except SqliteError Database :=
  if !storableModel row.model then .error .constraintCheck
  else if db.models.any fun m => m.consumerId = row.consumerId && m.model = row.model then
    .error .constraintUnique
  else if (getPartner db.billing row.consumerId).isNone then .error .constraintForeignKey
  else .ok { db with models := db.models ++ [row] }

/-- `UPDATE partners SET updated_at = ?2 WHERE consumer_id = ?1` -/
def touchPartner (now consumerId : String) (db : Database) : Database :=
  { db with
    billing := { db.billing with
      partners := db.billing.partners.map fun p =>
        if p.consumerId = consumerId then { p with updatedAt := now } else p } }

/-- The transaction that replaces a model list: the old models are deleted and the new ones inserted. -/
def writeModels (fault : CallFault) (now : Instant) (consumerId : String)
    (models : List ModelPrice) (db : Database) : Except SqliteError Database :=
  match fault.write with
  | some e => .error e
  | none => do
    let emptied := { db with models := db.models.filter fun m => m.consumerId ≠ consumerId }
    let rows := models.map fun entry => ⟨consumerId, entry.model, entry.prices⟩
    let filled ← rows.foldlM insertModel emptied
    return touchPartner (formatInstant now) consumerId filled

/-- Replace a partner's whole model list. -/
def replaceModels (fault : CallFault) (now : Instant) (consumerId : String)
    (models : List ModelPrice) (db : Database) : Database × Except BillingError Unit :=
  match checkModels [] models with
  | .error e => (db, .error e)
  | .ok () =>
    match writeModels fault now consumerId models db with
    | .ok written => (written, .ok ())
    | .error e =>
      (db, .error (if e = .constraintForeignKey then .partnerNotFound consumerId else .database e))

/-! ## Any operation -/

/-- The tables of the one database: those of billing and the keys, and those of the ledger.  The
usage billing reads is the ledger's. -/
structure Books where
  database : Database
  ledger : Ledger

def Books.withLedger (books : Books) (ledger : Ledger) : Books where
  database := { books.database with billing := { books.database.billing with
    usage := ledger.records } }
  ledger := ledger

def Books.withBilling (books : Books) (billing : Store) : Books :=
  { books with database := { books.database with billing := billing } }

/-- What an operation is refused with. -/
inductive OperationError where
  | billing (error : BillingError)
  | ledger (error : LedgerError)
  | retention (error : SqliteError)
deriving DecidableEq

/-- An operation on the database, with its clock reading and the failures of the database. -/
inductive BillingOp where
  | writeStatement (fault : WriteFault) (now : Instant) (draft : StatementDraft)
  | markPaid (fault : CallFault) (now : Instant) (id : Int) (paidBy : String)
      (reference note : Option String)
  | claimEmails (fault : CallFault) (now : Instant) (instanceId : String)
      (limit claimTtlMinutes : Int)
  | recordEmailAttempt (fault : CallFault) (now : Instant) (id : Int) (outcome : EmailOutcome)
  | createPartner (fault : CallFault) (now : Instant) (new : NewPartner)
  | updatePartner (fault : CallFault) (now : Instant) (consumerId : String) (patch : PartnerPatch)
  | deletePartner (fault : CallFault) (consumerId : String)
  | replaceModels (fault : CallFault) (now : Instant) (consumerId : String)
      (models : List ModelPrice)
  | flush (instanceId : Option String) (faults : Nat → Option SqliteError)
      (batch : List PendingWrite)
  | recover (fault : Option SqliteError) (ctx : RecoveryContext)
  | runRetention (fault : Nat → Option SqliteError) (now : Instant) (retentionDays : UInt32)
      (batchSize : UInt64) (maxBatches : Nat)

/-- The failure of a read that follows a committed write. -/
def BillingOp.readBack : BillingOp → Option SqliteError
  | .writeStatement fault _ _ => fault.readBack
  | .markPaid fault _ _ _ _ _ | .claimEmails fault _ _ _ _ | .recordEmailAttempt fault _ _ _
  | .createPartner fault _ _ | .updatePartner fault _ _ _ | .deletePartner fault _
  | .replaceModels fault _ _ _ => fault.readBack
  | .flush _ _ _ | .recover _ _ | .runRetention _ _ _ _ _ => none

/-- The answer of a billing operation, without its value. -/
def billingAnswer {α : Type} (result : Except BillingError α) : Except OperationError Unit :=
  (result.map fun _ => ()).mapError OperationError.billing

/-- What an operation leaves, and what it answers.  A panic changes nothing. -/
def BillingOp.run (iso : Iso8601) (books : Books) :
    BillingOp → Except Panic (Books × Except OperationError Unit)
  | .writeStatement fault now draft => do
    let (written, result) ← PartnerPortal.writeStatement fault now draft books.database.billing
    return (books.withBilling written, billingAnswer result)
  | .markPaid fault now id paidBy reference note =>
    let answered :=
      PartnerPortal.markPaid fault now id paidBy reference note books.database.billing
    .ok (books.withBilling answered.1, billingAnswer answered.2)
  | .claimEmails fault now instanceId limit claimTtlMinutes => do
    let (written, result) ←
      PartnerPortal.claimEmails fault now instanceId limit claimTtlMinutes books.database.billing
    return (books.withBilling written, billingAnswer result)
  | .recordEmailAttempt fault now id outcome => do
    let (written, result) ←
      PartnerPortal.recordEmailAttempt fault now id outcome books.database.billing
    return (books.withBilling written, billingAnswer result)
  | .createPartner fault now new =>
    let answered := PartnerPortal.createPartner fault now new books.database.billing
    .ok (books.withBilling answered.1, billingAnswer answered.2)
  | .updatePartner fault now consumerId patch =>
    let answered :=
      PartnerPortal.updatePartner fault now consumerId patch books.database.billing
    .ok (books.withBilling answered.1, billingAnswer answered.2)
  | .deletePartner fault consumerId =>
    let answered := PartnerPortal.deletePartner fault consumerId books.database
    .ok ({ books with database := answered.1 }, billingAnswer answered.2)
  | .replaceModels fault now consumerId models =>
    let answered := PartnerPortal.replaceModels fault now consumerId models books.database
    .ok ({ books with database := answered.1 }, billingAnswer answered.2)
  | .flush instanceId faults batch =>
    let flushed := flushWithRetry iso instanceId faults batch books.ledger
    .ok (books.withLedger flushed.ledger, flushed.ack.mapError OperationError.ledger)
  | .recover fault ctx =>
    let answered := recoveryPass iso ctx fault books.ledger
    .ok (books.withLedger answered.1, (answered.2.map fun _ => ()).mapError OperationError.ledger)
  | .runRetention fault now retentionDays batchSize maxBatches => do
    let (written, result) ←
      Retention.runRetention fault now retentionDays batchSize maxBatches books.ledger
    return (books.withLedger written, (result.map fun _ => ()).mapError OperationError.retention)

/-- The tables after an operation. -/
def BillingOp.after (iso : Iso8601) (books : Books) (op : BillingOp) : Books :=
  match op.run iso books with
  | .ok (written, _) => written
  | .error _ => books

/-- Operations one after another. -/
def runOps (iso : Iso8601) (books : Books) (ops : List BillingOp) : Books :=
  ops.foldl (BillingOp.after iso) books

/-! ## What an operation does to statements -/

/-- What the email bookkeeping changes in a row. -/
inductive EmailChange : (Statement → Statement) → Prop
  | sent (now : String) : EmailChange (Statement.recordSent now)
  | failed (now error retryAt : String) : EmailChange (Statement.recordFailed now error retryAt)
  | claim (instanceId claimUntil : String) : EmailChange (Statement.claim instanceId claimUntil)

/-- Tables with the same statements and lines. -/
structure SameStatements (store written : Store) : Prop where
  statements : written.statements = store.statements
  lines : written.lines = store.lines
  nextStatementId : written.nextStatementId = store.nextStatementId

/-- Everything an operation can do to statements and lines: nothing, a payment of the payable row, a
change of the email bookkeeping, or a statement with its lines. -/
inductive StatementWrite (store written : Store) : Prop
  | same (h : SameStatements store written)
  | paid (id : Int) (now paidBy : String) (reference note : Option String)
      (h : written = store.updateStatements (Statement.payable id)
        (Statement.pay now paidBy reference note))
  | emailed (selects : Statement → Bool) {change : Statement → Statement}
      (hchange : EmailChange change) (h : written = store.updateStatements selects change)
  | stated (draft : StatementDraft) (total : MicroUsd) (dueAt : Option String) (now : String)
      (htotal : draft.total = .ok total)
      (h : insertStatement store draft total dueAt now = .ok (written, true))

section Writes

variable {store written : Store}

theorem SameStatements.refl (store : Store) : SameStatements store store := ⟨rfl, rfl, rfl⟩

theorem StatementWrite.refl (store : Store) : StatementWrite store store := .same (.refl store)

/-- A payment is refused before its write, or its rows are read back. -/
theorem markPaid_eq (fault : CallFault) (now : Instant) (id : Int) (paidBy : String)
    (reference note : Option String) (store : Store) :
    (∃ e, markPaid fault now id paidBy reference note store = (store, .error e)) ∨
      ∃ written, written = store.updateStatements (Statement.payable id)
        (Statement.pay (formatInstant now) paidBy reference note) ∧
        markPaid fault now id paidBy reference note store =
          (written, readPaid fault id written) := by
  unfold markPaid
  split
  · exact .inl ⟨_, rfl⟩
  · split
    · exact .inl ⟨_, rfl⟩
    · exact .inr ⟨_, rfl, rfl⟩

theorem markPaid_writes (fault : CallFault) (now : Instant) (id : Int) (paidBy : String)
    (reference note : Option String) (store : Store) :
    StatementWrite store (markPaid fault now id paidBy reference note store).1 := by
  rcases markPaid_eq fault now id paidBy reference note store with ⟨e, h⟩ | ⟨written, hwritten, h⟩
  · rw [h]
    exact .refl store
  · rw [h]
    exact .paid id _ paidBy reference note hwritten

theorem recordEmailAttempt_writes {fault : CallFault} {now : Instant} {id : Int}
    {outcome : EmailOutcome} {result : Except BillingError Unit}
    (h : recordEmailAttempt fault now id outcome store = .ok (written, result)) :
    StatementWrite store written := by
  obtain ⟨change, hchange, h⟩ := Result.bind_ok_iff.1 h
  have hemail : EmailChange change := by
    cases outcome with
    | sent =>
      cases hchange
      exact .sent _
    | failed error retryAt =>
      obtain ⟨text, -, hchange⟩ := Result.bind_ok_iff.1 hchange
      cases hchange
      exact .failed _ error text
  split at h
  · cases h
    exact .refl store
  · cases h
    exact .emailed _ hemail rfl

theorem claimEmails_writes {fault : CallFault} {now : Instant} {instanceId : String}
    {limit claimTtlMinutes : Int} {result : Except BillingError (List Statement)}
    (h : claimEmails fault now instanceId limit claimTtlMinutes store = .ok (written, result)) :
    StatementWrite store written := by
  obtain ⟨ttl, -, h⟩ := Result.bind_ok_iff.1 h
  obtain ⟨lapses, -, h⟩ := Result.bind_ok_iff.1 h
  obtain ⟨claimUntil, -, h⟩ := Result.bind_ok_iff.1 h
  split at h
  · cases h
    exact .refl store
  · cases h
    exact .emailed _ (.claim instanceId claimUntil) rfl

theorem createPartner_same (fault : CallFault) (now : Instant) (new : NewPartner)
    (store : Store) : SameStatements store (createPartner fault now new store).1 := by
  unfold createPartner
  split
  · exact .refl store
  · split
    · rename_i hinsert
      unfold insertPartner at hinsert
      split at hinsert
      · cases hinsert
      · split at hinsert <;> cases hinsert
        exact ⟨rfl, rfl, rfl⟩
    · exact .refl store

theorem updatePartner_same (fault : CallFault) (now : Instant) (consumerId : String)
    (patch : PartnerPatch) (store : Store) :
    SameStatements store (updatePartner fault now consumerId patch store).1 := by
  unfold updatePartner
  split
  · exact .refl store
  · split
    · exact .refl store
    · split
      · exact .refl store
      · split
        · exact .refl store
        · exact ⟨rfl, rfl, rfl⟩

theorem deletePartner_same (fault : CallFault) (consumerId : String) (db : Database) :
    SameStatements db.billing (deletePartner fault consumerId db).1.billing := by
  unfold deletePartner
  split
  · exact .refl _
  · split
    · exact .refl _
    · split
      · exact .refl _
      · exact ⟨rfl, rfl, rfl⟩

theorem insertModels_billing {rows : List PartnerModel} {db filled : Database}
    (h : rows.foldlM insertModel db = .ok filled) : filled.billing = db.billing := by
  induction rows generalizing db with
  | nil =>
    cases h
    rfl
  | cons row rows ih =>
    obtain ⟨next, hnext, hrest⟩ := Result.bind_ok_iff.1 h
    unfold insertModel at hnext
    split at hnext
    · cases hnext
    · split at hnext
      · cases hnext
      · split at hnext <;> cases hnext
        have hbilling := ih hrest
        exact hbilling

theorem replaceModels_same (fault : CallFault) (now : Instant) (consumerId : String)
    (models : List ModelPrice) (db : Database) :
    SameStatements db.billing (replaceModels fault now consumerId models db).1.billing := by
  unfold replaceModels
  split
  · exact .refl _
  · split
    · rename_i hmodels
      unfold writeModels at hmodels
      split at hmodels
      · cases hmodels
      · obtain ⟨filled, hfilled, hwritten⟩ := Result.bind_ok_iff.1 hmodels
        cases hwritten
        have hbilling := insertModels_billing hfilled
        rw [touchPartner, hbilling]
        exact ⟨rfl, rfl, rfl⟩
    · exact .refl _

end Writes

/-- What any operation does to statements and lines. -/
theorem BillingOp.run_writes {iso : Iso8601} {books written : Books} {op : BillingOp}
    {answer : Except OperationError Unit} (h : op.run iso books = .ok (written, answer)) :
    StatementWrite books.database.billing written.database.billing := by
  cases op with
  | writeStatement fault now draft =>
    obtain ⟨⟨store, result⟩, hwrite, h⟩ := Result.bind_ok_iff.1 h
    cases h
    rcases writeStatement_inserts hwrite with
      heq | ⟨-, -, -, total, dueAt, htotal, -, hinsert⟩
    · exact heq ▸ .refl _
    · exact .stated draft total dueAt _ htotal hinsert
  | markPaid fault now id paidBy reference note =>
    simp only [BillingOp.run, Except.ok.injEq, Prod.mk.injEq] at h
    obtain ⟨rfl, -⟩ := h
    exact markPaid_writes fault now id paidBy reference note books.database.billing
  | claimEmails fault now instanceId limit claimTtlMinutes =>
    obtain ⟨⟨store, result⟩, hclaim, h⟩ := Result.bind_ok_iff.1 h
    cases h
    exact claimEmails_writes hclaim
  | recordEmailAttempt fault now id outcome =>
    obtain ⟨⟨store, result⟩, hrecord, h⟩ := Result.bind_ok_iff.1 h
    cases h
    exact recordEmailAttempt_writes hrecord
  | createPartner fault now new =>
    simp only [BillingOp.run, Except.ok.injEq, Prod.mk.injEq] at h
    obtain ⟨rfl, -⟩ := h
    exact .same (createPartner_same fault now new books.database.billing)
  | updatePartner fault now consumerId patch =>
    simp only [BillingOp.run, Except.ok.injEq, Prod.mk.injEq] at h
    obtain ⟨rfl, -⟩ := h
    exact .same (updatePartner_same fault now consumerId patch books.database.billing)
  | deletePartner fault consumerId =>
    simp only [BillingOp.run, Except.ok.injEq, Prod.mk.injEq] at h
    obtain ⟨rfl, -⟩ := h
    exact .same (deletePartner_same fault consumerId books.database)
  | replaceModels fault now consumerId models =>
    simp only [BillingOp.run, Except.ok.injEq, Prod.mk.injEq] at h
    obtain ⟨rfl, -⟩ := h
    exact .same (replaceModels_same fault now consumerId models books.database)
  | flush instanceId faults batch =>
    cases h
    exact .same ⟨rfl, rfl, rfl⟩
  | recover fault ctx =>
    cases h
    exact .same ⟨rfl, rfl, rfl⟩
  | runRetention fault now retentionDays batchSize maxBatches =>
    obtain ⟨⟨ledger, result⟩, -, h⟩ := Result.bind_ok_iff.1 h
    cases h
    exact .same ⟨rfl, rfl, rfl⟩

end PartnerPortal
