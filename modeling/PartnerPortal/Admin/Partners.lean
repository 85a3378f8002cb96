import PartnerPortal.Billing.Accounts
import PartnerPortal.Billing.PriceText
import PartnerPortal.Billing.StatementPages

/-!
# `POST /api/admin/partners`

The request is parsed before anything is written.  The partner and the models are written in commits of
their own, and what the answer shows is read after them.

Results:
- `parseModels_valid` — the models of a parsed request pass the store's check;
- `CreatePartnerCall.atomic_iff` — when a failed call leaves no partner behind.
-/

namespace PartnerPortal

/-- `BillingMode::parse` -/
def BillingMode.parse (text : String) : Option BillingMode :=
  if text = "invoice" then some .invoice
  else if text = "reconciliation" then some .reconciliation
  else none

/-- What a price error says. -/
def PriceError.message : PriceError → Text.Formatted
  | .noPriceSnapshot column => ["no billing configuration: ", column, " is not set"]
  | .incompleteUsage => "the provider did not report usage in full"
  | .cachedExceedsInput inputTokens cachedTokens =>
    ["upstream reported ", toString cachedTokens, " cached tokens out of ", toString inputTokens,
      " input tokens"]
  | .overflow context => ["the amount overflowed micro-dollars while ", context]
  | .notANumber text => [.quoted text, " is not a price in dollars per million tokens"]
  | .outOfRange text => ["the price ", .quoted text, " is out of range"]

example : (PriceError.outOfRange "1e9").message.text (fun text => "«" ++ text ++ "»") =
    "the price «1e9» is out of range" := by decide

/-- What a partner's statements come to. -/
def billedTotal (store : Store) (consumerId : String) : Except SqliteError Int := do
  let total ← (Sql.sum ((store.statements.filter fun s => s.consumerId = consumerId).map fun s =>
    some s.totalAmountMicroUsd.value)).mapError fun _ => SqliteError.integerOverflow
  return total.getD 0

namespace Admin

open Commits

/-! ## The request and the answer -/

structure ModelPriceView where
  model : String
  inputPerMillion : String
  cachedInputPerMillion : String
  outputPerMillion : String
deriving DecidableEq

def ModelPriceView.fromRow (row : ModelPrice) : ModelPriceView where
  model := row.model
  inputPerMillion := toDecimalString row.prices.input
  cachedInputPerMillion := toDecimalString row.prices.cachedInput
  outputPerMillion := toDecimalString row.prices.output

structure PartnerView where
  consumerId : String
  name : String
  billingEmail : String
  billingMode : String
  paymentTermsMinutes : Int
  emailsStatements : Bool
  createdAt : String
  updatedAt : String
  totalBilledMicroUsd : Int
  totalBilled : String
  statementCount : Nat
  models : List ModelPriceView
deriving DecidableEq

def PartnerView.build (partner : Partner) (totalBilled : Int) (statementCount : Nat)
    (models : List ModelPrice) : PartnerView where
  consumerId := partner.consumerId
  name := partner.name
  billingEmail := partner.billingEmail
  billingMode := partner.billingMode.asStr
  paymentTermsMinutes := partner.paymentTermsMinutes.value
  emailsStatements := partner.billingMode.owesPayment && Text.trim partner.billingEmail ≠ ""
  createdAt := partner.createdAt
  updatedAt := partner.updatedAt
  totalBilledMicroUsd := totalBilled
  totalBilled := signedAmountText totalBilled
  statementCount := statementCount
  models := models.map ModelPriceView.fromRow

structure CreatePartnerRequest where
  consumerId : String
  name : String
  billingEmail : String := ""
  billingMode : String
  paymentTermsMinutes : Option Int := none
  models : List ModelPriceView := []

/-- `parse_mode` -/
def parseMode (raw : String) : Except (Halt AdminError) BillingMode :=
  match BillingMode.parse (Text.trim raw) with
  | some mode => .ok mode
  | none =>
    .error (.error (.badRequest
      ["`billing_mode` must be `invoice` or `reconciliation`, not ", .quoted raw]))

/-- `parse_price` -/
def parsePrice (model field raw : String) : Except (Halt AdminError) PricePerMillion :=
  match PartnerPortal.parsePrice (Text.trim raw) with
  | .error _ => .error .panicked
  | .ok (.error e) =>
    .error (.error (.badRequest (.quoted model :: ": `" :: field :: "`: " :: e.message)))
  | .ok (.ok price) => .ok price

/-- The rest of a model list, after names that were seen. -/
def parseModelsFrom (seen : List String) :
    List ModelPriceView → Except (Halt AdminError) (List ModelPrice)
  | [] => .ok []
  | view :: rest =>
    let model := Text.trim view.model
    if model = "" then .error (.error (.badRequest "a model name must not be blank"))
    else if model ∈ seen then
      .error (.error (.badRequest [.quoted model, " is listed twice; a model has one price"]))
    else do
      let input ← parsePrice view.model "input_per_million" view.inputPerMillion
      let cachedInput ← parsePrice view.model "cached_input_per_million" view.cachedInputPerMillion
      let output ← parsePrice view.model "output_per_million" view.outputPerMillion
      let parsed ← parseModelsFrom (model :: seen) rest
      return ⟨view.model, ⟨input, cachedInput, output⟩⟩ :: parsed

/-- `parse_models` -/
def parseModels (views : List ModelPriceView) : Except (Halt AdminError) (List ModelPrice) :=
  parseModelsFrom [] views

/-- `DEFAULT_PAYMENT_TERMS_MINUTES` -/
def defaultPaymentTermsMinutes : Int := 720

/-! ## The handler -/

/-- A task on the blocking pool, which the runtime may not start. -/
def blocking {α : Type} (cancelled : Bool) (step : Step Database BillingError α) :
    Step Database (Halt AdminError) α :=
  if cancelled then answer (.error (.error .join))
  else mapError (fun e => .error (.ofBilling e)) step

/-- A call of `create_partner`, with what fails under it. -/
structure CreatePartnerCall where
  request : CreatePartnerRequest
  now : Instant
  modelsNow : Instant
  partner : CallFault := {}
  models : CallFault := {}
  total : Option SqliteError := none
  count : Option SqliteError := none
  readModels : Option SqliteError := none
  writesCancelled : Bool := false
  readCancelled : Bool := false

namespace CreatePartnerCall

variable (call : CreatePartnerCall)

def parsed : Except (Halt AdminError) (BillingMode × List ModelPrice) := do
  let mode ← parseMode call.request.billingMode
  let models ← parseModels call.request.models
  return (mode, models)

def newPartner (mode : BillingMode) : NewPartner where
  consumerId := call.request.consumerId
  name := call.request.name
  billingEmail := call.request.billingEmail
  billingMode := mode
  paymentTermsMinutes := call.request.paymentTermsMinutes.getD defaultPaymentTermsMinutes

/-- The replacement of the models of a partner. -/
def modelCall (consumerId : String) (models : List ModelPrice) : ModelCall where
  fault := call.models
  now := call.modelsNow
  consumerId := consumerId
  models := models

def replaceModels (consumerId : String) (models : List ModelPrice) : Step Database BillingError Unit :=
  if models = [] then answer (.ok ()) else (call.modelCall consumerId models).run

/-- A read that may fail. -/
def read {α : Type} (fault : Option SqliteError) (result : Except SqliteError α) : Except BillingError α :=
  match fault with
  | some e => .error (.database e)
  | none => result.mapError .database

/-- `total_billed` and `count_statements` -/
def readTotals (partner : Partner) : Step Database BillingError (Partner × Int × Nat) := fun db =>
  (db, do
    let billed ← read call.total (billedTotal db.billing partner.consumerId)
    let count ← read call.count (countStatements db.billing (.one partner.consumerId))
    return (partner, billed, count))

/-- The writes, and the reads of their task. -/
def writes (new : NewPartner) (models : List ModelPrice) :
    Step Database BillingError (Partner × Int × Nat) :=
  andThen (openPartner call.partner call.now new) fun partner =>
    andThen (call.replaceModels partner.consumerId models) fun _ => call.readTotals partner

/-- `store_models` -/
def storeModels (consumerId : String) : Step Database BillingError (List ModelPrice) := fun db =>
  (db, read call.readModels (.ok (modelsOf db consumerId)))

/-- `create_partner`.  The refresh of the snapshot between the writes and the last read answers
nothing. -/
def run : Step Database (Halt AdminError) PartnerView :=
  andThen (answer call.parsed) fun (mode, models) =>
    andThen (blocking call.writesCancelled (call.writes (call.newPartner mode) models))
      fun (partner, billed, count) =>
        andThen (blocking call.readCancelled (call.storeModels partner.consumerId)) fun models =>
          answer (.ok (PartnerView.build partner billed count models))

/-- A call inserts a row: the request is parsed, its task starts, and the store takes the partner. -/
structure Inserts (db : Database) (mode : BillingMode) (models : List ModelPrice) (partner : Partner) :
    Prop where
  parsed : call.parsed = .ok (mode, models)
  started : call.writesCancelled = false
  partner : (call.newPartner mode).Inserts call.partner call.now db.billing partner

/-- What comes after the insert goes well: the table takes the names of the models, the partner's
statements add up, and neither a read nor a write fails. -/
structure Completes (db : Database) (models : List ModelPrice) (partner : Partner) : Prop where
  readBack : call.partner.readBack = none
  models : models ≠ [] → (∀ entry ∈ models, storableModel entry.model = true) ∧ call.models.write = none
  billed : ∃ total, billedTotal db.billing partner.consumerId = .ok total
  totals : call.total = none ∧ call.count = none
  started : call.readCancelled = false
  readModels : call.readModels = none

/-- A failed call creates no partner, and a successful one leaves what was asked for. -/
structure Atomic (db : Database) : Prop where
  failure : Commits.Atomic Database.hasPartner call.run db
  success : ∀ written view, call.run db = (written, .ok view) →
    ∃ mode models, call.parsed = .ok (mode, models) ∧ Provisioned (call.newPartner mode) models written

end CreatePartnerCall

/-! ## Parsing -/

/-- A parsed list passes the store's check. -/
theorem parseModelsFrom_checked {seen : List String} {views : List ModelPriceView}
    {models : List ModelPrice} (h : parseModelsFrom seen views = .ok models) :
    checkModels seen models = .ok () := by
  induction views generalizing seen models with
  | nil =>
    cases h
    rfl
  | cons view rest ih =>
    rw [parseModelsFrom] at h
    split at h
    · cases h
    · rename_i hnamed
      split at h
      · cases h
      · rename_i hnew
        obtain ⟨input, -, h⟩ := Result.bind_ok_iff.1 h
        obtain ⟨cachedInput, -, h⟩ := Result.bind_ok_iff.1 h
        obtain ⟨output, -, h⟩ := Result.bind_ok_iff.1 h
        obtain ⟨parsed, hparsed, h⟩ := Result.bind_ok_iff.1 h
        cases h
        rw [checkModels, if_neg hnamed, if_neg hnew]
        exact ih hparsed

theorem parseModels_valid {views : List ModelPriceView} {models : List ModelPrice}
    (h : parseModels views = .ok models) : ValidModels models :=
  checkModels_valid_iff.1 (parseModelsFrom_checked h)

/-! ## The steps -/

section Steps

variable {α : Type} {cancelled : Bool} {step : Step Database BillingError α} {db written : Database} {a : α}

theorem blocking_ok_iff : blocking cancelled step db = (written, .ok a) ↔
    cancelled = false ∧ step db = (written, .ok a) := by
  unfold blocking
  cases cancelled with
  | false => exact mapError_ok_iff.trans (by rw [eq_self, true_and])
  | true =>
    constructor
    · intro h
      cases (Prod.mk.inj h).2
    · exact fun h => nomatch h.1

theorem blocking_keeps {P : Database → Prop} (h : Keeps P step) : Keeps P (blocking cancelled step) := by
  unfold blocking
  split
  · exact answer_keeps _
  · exact mapError_keeps h

end Steps

namespace CreatePartnerCall

variable {call : CreatePartnerCall} {db written : Database} {mode : BillingMode} {models : List ModelPrice}
  {partner : Partner}

theorem parsed_valid (h : call.parsed = .ok (mode, models)) : ValidModels models := by
  obtain ⟨mode', -, h⟩ := Result.bind_ok_iff.1 h
  obtain ⟨models', hmodels, h⟩ := Result.bind_ok_iff.1 h
  cases h
  exact parseModels_valid hmodels

/-- The database with the row that was inserted. -/
def opened (db : Database) (partner : Partner) : Database :=
  { db with billing := db.billing.withPartner partner }

/-- The database after the models, of which there may be none. -/
def filled (call : CreatePartnerCall) (models : List ModelPrice) (partner : Partner) (db : Database) :
    Database :=
  if models = [] then opened db partner
  else (call.modelCall partner.consumerId models).replaced (opened db partner)

theorem filled_statements :
    (call.filled models partner db).billing.statements = db.billing.statements := by
  unfold filled
  split <;> rfl

theorem read_ok_iff {α : Type} {fault : Option SqliteError} {result : Except SqliteError α} {a : α} :
    read fault result = .ok a ↔ fault = none ∧ result = .ok a := by
  cases fault with
  | none => exact Result.mapError_ok_iff.trans (by rw [eq_self, true_and])
  | some e =>
    constructor
    · intro h
      cases h
    · exact fun h => nomatch h.1

theorem replaceModels_ok_iff (hvalid : ValidModels models)
    (hpartner : getPartner db.billing partner.consumerId = none) :
    call.replaceModels partner.consumerId models (opened db partner) = (written, .ok ()) ↔
      (models ≠ [] → (∀ entry ∈ models, storableModel entry.model = true) ∧ call.models.write = none) ∧
        written = call.filled models partner db := by
  unfold replaceModels filled
  split
  · rename_i hnone
    rw [answer_ok_iff]
    exact ⟨fun h => ⟨fun hsome => absurd hnone hsome, h.1⟩, fun h => ⟨h.2, rfl⟩⟩
  · rename_i hsome
    have hexists : (call.modelCall partner.consumerId models).PartnerExists (opened db partner) := by
      show (getPartner (db.billing.withPartner partner) partner.consumerId).isSome = true
      rw [getPartner_withPartner hpartner]
      rfl
    rw [ModelCall.run_ok_iff hexists]
    constructor
    · exact fun h => ⟨fun _ => ⟨h.1.storable, h.1.written⟩, h.2⟩
    · exact fun h => ⟨⟨hvalid, (h.1 hsome).1, (h.1 hsome).2⟩, h.2⟩

theorem replaceModels_keeps (id consumerId : String) :
    Keeps (fun db : Database => db.hasPartner id = true) (call.replaceModels consumerId models) := by
  unfold replaceModels
  split
  · exact answer_keeps _
  · exact ModelCall.run_keeps _ id

theorem readTotals_ok_iff {billed : Int} {count : Nat} {partner' : Partner} :
    call.readTotals partner db = (written, .ok (partner', billed, count)) ↔
      written = db ∧ partner' = partner ∧
        (call.total = none ∧ billedTotal db.billing partner.consumerId = .ok billed) ∧
        call.count = none ∧ countStatements db.billing (.one partner.consumerId) = .ok count := by
  rw [readTotals, Prod.mk.injEq, Result.bind_ok_iff]
  constructor
  · rintro ⟨rfl, billed', hbilled, h⟩
    obtain ⟨count', hcount, h⟩ := Result.bind_ok_iff.1 h
    cases h
    exact ⟨rfl, rfl, read_ok_iff.1 hbilled, read_ok_iff.1 hcount⟩
  · rintro ⟨rfl, rfl, hbilled, hcount⟩
    exact ⟨rfl, billed, read_ok_iff.2 hbilled,
      Result.bind_ok_iff.2 ⟨count, read_ok_iff.2 hcount, rfl⟩⟩

/-- Once the row is inserted, it is there after the call, whatever the call answers. -/
theorem run_leaves (h : call.Inserts db mode models partner) :
    (call.run db).1.hasPartner partner.consumerId = true := by
  have hparsed : answer call.parsed db = (db, .ok (mode, models)) := by rw [answer, h.parsed]
  rw [run, andThen_of_ok hparsed]
  have hwrites : (call.writes (call.newPartner mode) models db).1.hasPartner partner.consumerId = true :=
    andThen_leaves (P := fun db : Database => db.hasPartner partner.consumerId = true)
      (openPartner_leaves h.partner)
      fun _ => andThen_keeps (replaceModels_keeps _ _) fun _ _ hpartner => hpartner
  refine andThen_leaves (P := fun db : Database => db.hasPartner partner.consumerId = true) ?_
    fun _ => andThen_keeps (blocking_keeps fun _ hpartner => hpartner) fun _ => answer_keeps _
  rw [blocking, h.started, if_neg Bool.false_ne_true, Commits.mapError]
  exact hwrites

/-- A call that inserts the row answers exactly where everything after the insert goes well. -/
theorem run_ok_iff (h : call.Inserts db mode models partner) :
    (∃ view, call.run db = (written, .ok view)) ↔
      call.Completes db models partner ∧ written = call.filled models partner db := by
  have hparsed : answer call.parsed db = (db, .ok (mode, models)) := by rw [answer, h.parsed]
  have hvalid := parsed_valid h.parsed
  rw [run, andThen_of_ok hparsed]
  constructor
  · rintro ⟨view, hrun⟩
    obtain ⟨afterWrites, ⟨partner', billed, count⟩, hwrites, hrun⟩ := andThen_ok_iff.1 hrun
    obtain ⟨afterRead, stored, hread, hview⟩ := andThen_ok_iff.1 hrun
    obtain ⟨hreadStarted, hread⟩ := blocking_ok_iff.1 hread
    obtain ⟨hafterRead, hstored⟩ := Prod.mk.inj hread
    obtain ⟨-, hwrites⟩ := blocking_ok_iff.1 hwrites
    obtain ⟨afterOpen, partner'', hopen, hwrites⟩ := andThen_ok_iff.1 hwrites
    obtain ⟨afterModels, ⟨⟩, hmodels, htotals⟩ := andThen_ok_iff.1 hwrites
    obtain ⟨hinserts, hback, rfl⟩ := openPartner_ok_iff.1 hopen
    obtain rfl : partner'' = partner := Except.ok.inj (hinserts.valid.symm.trans h.partner.valid)
    obtain ⟨hfilled, rfl⟩ := (@replaceModels_ok_iff call db _ _ _ hvalid hinserts.fresh).1 hmodels
    obtain ⟨rfl, rfl, ⟨htotal, hbilled⟩, hcount, -⟩ := readTotals_ok_iff.1 htotals
    rw [billedTotal, filled_statements] at hbilled
    refine ⟨⟨hback, hfilled, ⟨billed, hbilled⟩, ⟨htotal, hcount⟩, hreadStarted,
      (read_ok_iff.1 hstored).1⟩, ?_⟩
    rw [(answer_ok_iff.1 hview).1, ← hafterRead]
  · rintro ⟨hcompletes, rfl⟩
    obtain ⟨billed, hbilled⟩ := hcompletes.billed
    have hbilled' : billedTotal (call.filled models partner db).billing partner.consumerId = .ok billed := by
      rw [billedTotal, filled_statements]
      exact hbilled
    have hopen : openPartner call.partner call.now (call.newPartner mode) db =
        (opened db partner, .ok partner) := openPartner_ok_iff.2 ⟨h.partner, hcompletes.readBack, rfl⟩
    have hmodels := (@replaceModels_ok_iff call db _ _ _ hvalid h.partner.fresh).2 ⟨hcompletes.models, rfl⟩
    obtain ⟨count, hcount⟩ : ∃ count,
        countStatements (call.filled models partner db).billing (.one partner.consumerId) = .ok count :=
      ⟨_, countStatements_eq _ _⟩
    have htotals := readTotals_ok_iff.2 ⟨rfl, rfl, ⟨hcompletes.totals.1, hbilled'⟩,
      hcompletes.totals.2, hcount⟩
    have hwrites : call.writes (call.newPartner mode) models db =
        (call.filled models partner db, .ok (partner, billed, count)) :=
      andThen_ok_iff.2 ⟨_, _, hopen, andThen_ok_iff.2 ⟨_, _, hmodels, htotals⟩⟩
    have hread : call.storeModels partner.consumerId (call.filled models partner db) =
        (call.filled models partner db,
          .ok (modelsOf (call.filled models partner db) partner.consumerId)) := by
      rw [storeModels, read_ok_iff.2 ⟨hcompletes.readModels, rfl⟩]
    refine ⟨PartnerView.build partner billed count
      (modelsOf (call.filled models partner db) partner.consumerId),
      andThen_ok_iff.2 ⟨_, _, blocking_ok_iff.2 ⟨h.started, hwrites⟩, ?_⟩⟩
    exact andThen_ok_iff.2 ⟨_, _, blocking_ok_iff.2 ⟨hcompletes.started, hread⟩, rfl⟩

/-- A call that inserts no row changes nothing, and fails. -/
theorem run_refused (h : ¬∃ mode models partner, call.Inserts db mode models partner) :
    ∃ e, call.run db = (db, .error e) := by
  cases hparsed : call.parsed with
  | error e => exact ⟨e, andThen_of_error (by rw [answer, hparsed])⟩
  | ok request =>
    obtain ⟨mode, models⟩ := request
    have hanswer : answer call.parsed db = (db, .ok (mode, models)) := by rw [answer, hparsed]
    rw [run, andThen_of_ok hanswer]
    cases hstarted : call.writesCancelled with
    | true => exact ⟨_, andThen_of_error rfl⟩
    | false =>
      have hnone : ¬∃ partner, (call.newPartner mode).Inserts call.partner call.now db.billing
          partner := by
        rintro ⟨partner, hpartner⟩
        exact h ⟨mode, models, partner, hparsed, hstarted, hpartner⟩
      obtain ⟨e, hopen⟩ := openPartner_refused hnone
      have hwrites : call.writes (call.newPartner mode) models db = (db, .error e) := andThen_of_error hopen
      have hblocking : blocking false (call.writes (call.newPartner mode) models) db =
          (db, .error (.error (.ofBilling e))) := by
        rw [blocking, if_neg Bool.false_ne_true, mapError, hwrites]
        rfl
      exact ⟨_, andThen_of_error hblocking⟩

theorem filled_provisioned (h : call.Inserts db mode models partner) :
    Provisioned (call.newPartner mode) models (call.filled models partner db) := by
  have hdescribes := validated_describes h.partner.valid
  have hpartner : getPartner (opened db partner).billing (Text.trim (call.newPartner mode).consumerId) =
      some partner := by
    rw [← hdescribes.consumer]
    exact getPartner_withPartner h.partner.fresh
  unfold filled
  split
  · rename_i hnone
    exact ⟨⟨partner, hpartner, hdescribes⟩, fun hsome => absurd hnone hsome⟩
  · exact @provisioned_of_replaced _ _ (call.modelCall partner.consumerId models) _ hdescribes hpartner
      hdescribes.consumer (parsed_valid h.parsed)

/-- A call is atomic exactly where everything after the insert of the partner goes well. -/
theorem atomic_iff (call : CreatePartnerCall) (db : Database) : call.Atomic db ↔
    ∀ mode models partner, call.Inserts db mode models partner → call.Completes db models partner := by
  constructor
  · intro hatomic mode models partner hinserts
    have hfresh : db.hasPartner partner.consumerId = false := by
      rw [Database.hasPartner, hinserts.partner.fresh]
      rfl
    have hchanged : Database.hasPartner (call.run db).1 ≠ Database.hasPartner db := by
      intro hsame
      have hleft := run_leaves hinserts
      rw [hsame, hfresh] at hleft
      cases hleft
    obtain ⟨written, view, hrun⟩ := (atomic_iff_answers hchanged).1 hatomic.failure
    exact ((run_ok_iff hinserts).1 ⟨view, hrun⟩).1
  · intro hcompletes
    by_cases h : ∃ mode models partner, call.Inserts db mode models partner
    · obtain ⟨mode, models, partner, hinserts⟩ := h
      obtain ⟨view, hrun⟩ := (run_ok_iff hinserts).2 ⟨hcompletes mode models partner hinserts, rfl⟩
      refine ⟨fun written e hfailed => ?_, fun written view' hanswer => ?_⟩
      · rw [hrun] at hfailed
        cases (Prod.mk.inj hfailed).2
      · rw [hrun] at hanswer
        rw [← (Prod.mk.inj hanswer).1]
        exact ⟨mode, models, hinserts.parsed, filled_provisioned hinserts⟩
    · obtain ⟨e, hrun⟩ := run_refused h
      refine ⟨atomic_of_unchanged (by rw [hrun]), fun written view hanswer => ?_⟩
      rw [hrun] at hanswer
      cases (Prod.mk.inj hanswer).2

end CreatePartnerCall

end Admin

end PartnerPortal
