import PartnerPortal.Admin.Partners
import PartnerPortal.Keygen.Supplied

/-!
# `keygen::run`

The partner, the models and the key are written one after another, each in a commit of its own, and the
plaintext is read before the last of them.

Results:
- `Call.atomic_iff` — when a failed run changes nothing;
- `provisioning_atomic_iff` — that, and the same for a partner created by an admin.
-/

namespace PartnerPortal

namespace Keygen

open Commits

/-- What the operator asked for. -/
structure Request where
  name : String
  consumerId : String
  partner : NewPartner
  models : List ModelPrice
  plaintext : Plaintext

inductive KeygenError where
  | database (error : SqliteError)
  | store (error : ApiKeyError)
  | billing (error : BillingError)
  | input (error : StdinError)

/-- A run, with what fails under it. -/
structure Call where
  request : Request
  pool : Option SqliteError := none
  partner : CallFault := {}
  models : CallFault := {}
  key : Option SqliteError := none
  partnerNow : Instant
  modelsNow : Instant
  keyNow : Instant
  stdin : Option String := none
  /-- what `generate_plaintext` returns, or why there is no entropy -/
  generated : Except String String

namespace Call

variable (deriveKeyHash : String → String) (call : Call)

/-- `LedgerPool::new` -/
def openPool : Except KeygenError Unit :=
  match call.pool with
  | some e => .error (.database e)
  | none => .ok ()

def modelCall (consumerId : String) : ModelCall where
  fault := call.models
  now := call.modelsNow
  consumerId := consumerId
  models := call.request.models

/-- `create_with_plaintext` -/
def createKey (plaintext : String) : Step Database (Halt KeygenError) (ApiKeyRow × String) := fun db =>
  match createWithPlaintext deriveKeyHash call.key call.keyNow call.request.name
    call.request.consumerId none plaintext db with
  | .error _ => (db, .error .panicked)
  | .ok (.error e) => (db, .error (.error (.store e)))
  | .ok (.ok (written, .error e)) => (written, .error (.error (.store e)))
  | .ok (.ok (written, .ok row)) => (written, .ok (row, plaintext))

/-- The key, with the plaintext that was supplied or one that is generated. -/
def issueKey : Option String → Step Database (Halt KeygenError) (ApiKeyRow × String)
  | some plaintext => call.createKey deriveKeyHash plaintext
  | none =>
    match call.generated with
    | .ok plaintext => call.createKey deriveKeyHash plaintext
    | .error message =>
      answer (.error (.error (.store (.invalid ("could not read system entropy: " ++ message)))))

def run : Step Database (Halt KeygenError) (ApiKeyRow × String) :=
  andThen (answer (call.openPool.mapError .error)) fun _ =>
  andThen (mapError (fun e => .error (.billing e))
    (openPartner call.partner call.partnerNow call.request.partner)) fun partner =>
  andThen (mapError (fun e => .error (.billing e)) (call.modelCall partner.consumerId).run) fun _ =>
  andThen (answer ((resolvePlaintext call.request.plaintext call.stdin).mapError
    fun e => .error (.input e))) fun supplied =>
  call.issueKey deriveKeyHash supplied

/-- The plaintext a run ends with, where it gets one. -/
def plaintext : Option String :=
  match resolvePlaintext call.request.plaintext call.stdin with
  | .error _ => none
  | .ok (some plaintext) => some plaintext
  | .ok none => call.generated.toOption

/-- The key a run writes. -/
def newKey (plaintext : String) : NewKey where
  name := Text.trim call.request.name
  consumerId := Text.trim call.request.consumerId
  keyPrefix := keyPrefixOf plaintext
  hash := deriveKeyHash plaintext
  now := formatInstant call.keyNow
  expiresAt := none

/-- A run inserts a partner: the database opens, and the store takes the partner. -/
structure Inserts (db : Database) (partner : Partner) : Prop where
  pool : call.pool = none
  partner : call.request.partner.Inserts call.partner call.partnerNow db.billing partner

/-- A key is written: its texts are there, its plaintext is new, its consumer has no active one, and
the write does not fail. -/
structure Accepts (plaintext : String) (db : Database) : Prop where
  name : Text.trim call.request.name ≠ ""
  consumer : Text.trim call.request.consumerId ≠ ""
  value : Text.trim plaintext ≠ ""
  newKey : db.hasHash (deriveKeyHash plaintext) = false
  noneActive : db.activeKeyExists (Text.trim call.request.consumerId) = false
  written : call.key = none

/-- What comes after the insert of the partner goes well, and the key is the partner's. -/
structure Completes (db : Database) (partner : Partner) : Prop where
  readBack : call.partner.readBack = none
  models : (call.modelCall partner.consumerId).Writes
  key : ∃ plaintext, call.plaintext = some plaintext ∧ call.Accepts deriveKeyHash plaintext db
  consumer : Text.trim call.request.consumerId = partner.consumerId

/-- The tables a run writes. -/
def written (db : Database) : List Partner × List PartnerModel × List KeyRecord :=
  (db.billing.partners, db.models, db.keys)

def activeKeys (db : Database) (consumerId : String) : List KeyRecord :=
  db.keys.filter fun k => k.row.consumerId = consumerId && k.row.status = .active

/-- A failed run changes no table, and a successful one leaves what was asked for, with one active
key. -/
structure Atomic (db : Database) : Prop where
  failure : Commits.Atomic written (call.run deriveKeyHash) db
  success : ∀ after row plaintext, call.run deriveKeyHash db = (after, .ok (row, plaintext)) →
    Provisioned call.request.partner call.request.models after ∧
      ∃ key, activeKeys after (Text.trim call.request.partner.consumerId) = [key] ∧
        key.row = row ∧ key.keyHash = deriveKeyHash plaintext

end Call

/-! ## The key -/

theorem requireText_ok_iff {field value text : String} :
    requireText field value = .ok text ↔ Text.trim value ≠ "" ∧ text = Text.trim value := by
  unfold requireText
  split
  · rename_i hblank
    exact ⟨fun h => (by cases h), fun h => absurd hblank h.1⟩
  · rename_i hfilled
    exact ⟨fun h => ⟨hfilled, (Except.ok.inj h).symm⟩, fun h => congrArg Except.ok h.2.symm⟩

theorem checkNewKey_ok_iff {name consumerId plaintext : String} {texts : String × String} :
    checkNewKey name consumerId plaintext = .ok texts ↔
      (Text.trim name ≠ "" ∧ Text.trim consumerId ≠ "" ∧ Text.trim plaintext ≠ "") ∧
        texts = (Text.trim name, Text.trim consumerId) := by
  rw [checkNewKey, Result.bind_ok_iff]
  constructor
  · rintro ⟨_, hname, h⟩
    obtain ⟨_, hconsumer, h⟩ := Result.bind_ok_iff.1 h
    obtain ⟨hnamed, rfl⟩ := requireText_ok_iff.1 hname
    obtain ⟨hidentified, rfl⟩ := requireText_ok_iff.1 hconsumer
    split at h
    · cases h
    · rename_i hplaintext
      exact ⟨⟨hnamed, hidentified, hplaintext⟩, (Except.ok.inj h).symm⟩
  · rintro ⟨⟨hname, hconsumer, hplaintext⟩, rfl⟩
    refine ⟨_, requireText_ok_iff.2 ⟨hname, rfl⟩,
      Result.bind_ok_iff.2 ⟨_, requireText_ok_iff.2 ⟨hconsumer, rfl⟩, ?_⟩⟩
    rw [if_neg hplaintext]
    rfl

namespace Call

variable {deriveKeyHash : String → String} {call : Call} {db after : Database} {partner : Partner}
  {row : ApiKeyRow} {plaintext issued : String}

/-- The database with one more key. -/
def withKey (db : Database) (key : NewKey) : Database :=
  { db with keys := db.keys ++ [key.record db.nextKeyId], nextKeyId := db.nextKeyId + 1 }

theorem createKey_accepted (h : call.Accepts deriveKeyHash plaintext db) :
    call.createKey deriveKeyHash plaintext db =
      (withKey db (call.newKey deriveKeyHash plaintext),
        .ok (((call.newKey deriveKeyHash plaintext).record db.nextKeyId).row, plaintext)) := by
  have hcheck := checkNewKey_ok_iff.2 ⟨⟨h.name, h.consumer, h.value⟩, rfl⟩
  have hinsert : db.insertKey (call.newKey deriveKeyHash plaintext) =
      .ok (withKey db (call.newKey deriveKeyHash plaintext),
        ((call.newKey deriveKeyHash plaintext).record db.nextKeyId).row) := by
    have hfree : (db.hasHash (deriveKeyHash plaintext) ||
        db.activeKeyExists (Text.trim call.request.consumerId)) = false := by
      rw [h.newKey, h.noneActive]
      rfl
    exact if_neg (ne_true_of_eq_false hfree)
  have hrow : createRow (call.newKey deriveKeyHash plaintext) db =
      .ok (withKey db (call.newKey deriveKeyHash plaintext),
        .ok ((call.newKey deriveKeyHash plaintext).record db.nextKeyId).row) := by
    rw [createRow, hinsert]
  rw [newKey] at hrow
  rw [createKey, createWithPlaintext, hcheck, h.written]
  simp only [formatDue, Result.ok_bind, Result.pure_eq, mutateDomain, hrow]
  rfl

theorem createKey_refused (h : ¬call.Accepts deriveKeyHash plaintext db) :
    ∃ e, call.createKey deriveKeyHash plaintext db = (db, .error e) := by
  cases hcheck : checkNewKey call.request.name call.request.consumerId plaintext with
  | error e =>
    rw [createKey, createWithPlaintext, hcheck]
    exact ⟨_, rfl⟩
  | ok texts =>
    obtain ⟨⟨hname, hconsumer, hvalue⟩, rfl⟩ := checkNewKey_ok_iff.1 hcheck
    cases hfault : call.key with
    | some e =>
      rw [createKey, createWithPlaintext, hcheck, hfault]
      exact ⟨_, rfl⟩
    | none =>
      have htaken : (db.hasHash (deriveKeyHash plaintext) ||
          db.activeKeyExists (Text.trim call.request.consumerId)) = true := by
        by_contra hfree
        rw [Bool.or_eq_true, not_or, Bool.not_eq_true, Bool.not_eq_true] at hfree
        exact h ⟨hname, hconsumer, hvalue, hfree.1, hfree.2, hfault⟩
      have hinsert : db.insertKey (call.newKey deriveKeyHash plaintext) = .error .constraintUnique :=
        if_pos htaken
      obtain ⟨e, hrow⟩ : ∃ e, createRow (call.newKey deriveKeyHash plaintext) db = .error e := by
        rw [createRow, hinsert]
        simp only
        split
        · exact ⟨_, rfl⟩
        · exact ⟨_, rfl⟩
      rw [newKey] at hrow
      rw [createKey, createWithPlaintext, hcheck, hfault]
      simp only [formatDue, Result.ok_bind, Result.pure_eq, mutateDomain, hrow]
      exact ⟨_, rfl⟩

theorem createKey_ok_iff : call.createKey deriveKeyHash plaintext db = (after, .ok (row, issued)) ↔
    call.Accepts deriveKeyHash plaintext db ∧ after = withKey db (call.newKey deriveKeyHash plaintext) ∧
      row = ((call.newKey deriveKeyHash plaintext).record db.nextKeyId).row ∧ issued = plaintext := by
  by_cases haccepts : call.Accepts deriveKeyHash plaintext db
  · rw [createKey_accepted haccepts]
    constructor
    · intro h
      cases h
      exact ⟨haccepts, rfl, rfl, rfl⟩
    · rintro ⟨-, rfl, rfl, rfl⟩
      rfl
  · obtain ⟨e, hrefused⟩ := @createKey_refused _ _ _ _ haccepts
    rw [hrefused]
    constructor
    · intro h
      cases (Prod.mk.inj h).2
    · exact fun h => absurd h.1 haccepts

theorem createKey_keeps (consumerId : String) : Keeps
    (fun db : Database => db.hasPartner consumerId = true) (call.createKey deriveKeyHash plaintext) := by
  intro db hpartner
  by_cases haccepts : call.Accepts deriveKeyHash plaintext db
  · rw [createKey_accepted haccepts]
    exact hpartner
  · obtain ⟨e, hrefused⟩ := @createKey_refused _ _ _ _ haccepts
    rw [hrefused]
    exact hpartner

/-- The step from what was supplied is the one with the plaintext. -/
theorem issueKey_of_plaintext {supplied : Option String}
    (hsupplied : resolvePlaintext call.request.plaintext call.stdin = .ok supplied)
    (h : call.plaintext = some plaintext) :
    call.issueKey deriveKeyHash supplied = call.createKey deriveKeyHash plaintext := by
  rw [Call.plaintext, hsupplied] at h
  cases supplied with
  | some value =>
    cases h
    rfl
  | none =>
    cases hgenerated : call.generated with
    | error message =>
      rw [hgenerated] at h
      cases h
    | ok value =>
      rw [hgenerated] at h
      cases h
      rw [issueKey, hgenerated]

theorem issueKey_keeps (consumerId : String) (supplied : Option String) : Keeps
    (fun db : Database => db.hasPartner consumerId = true) (call.issueKey deriveKeyHash supplied) := by
  unfold issueKey
  split
  · exact createKey_keeps consumerId
  · split
    · exact createKey_keeps consumerId
    · exact answer_keeps _

theorem issueKey_ok {supplied : Option String}
    (hsupplied : resolvePlaintext call.request.plaintext call.stdin = .ok supplied)
    (h : call.issueKey deriveKeyHash supplied db = (after, .ok (row, issued))) :
    call.plaintext = some issued ∧ call.createKey deriveKeyHash issued db = (after, .ok (row, issued)) := by
  cases hplaintext : call.plaintext with
  | some plaintext =>
    rw [issueKey_of_plaintext hsupplied hplaintext] at h
    obtain ⟨-, -, -, rfl⟩ := createKey_ok_iff.1 h
    exact ⟨rfl, h⟩
  | none =>
    rw [Call.plaintext, hsupplied] at hplaintext
    cases supplied with
    | some value => cases hplaintext
    | none =>
      cases hgenerated : call.generated with
      | error message =>
        rw [issueKey, hgenerated] at h
        cases (Prod.mk.inj h).2
      | ok value =>
        rw [hgenerated] at hplaintext
        cases hplaintext

/-! ## The run -/

/-- The database with the row that was inserted. -/
def opened (db : Database) (partner : Partner) : Database :=
  { db with billing := db.billing.withPartner partner }

/-- The database a run that answers leaves. -/
def provisioned (deriveKeyHash : String → String) (call : Call) (db : Database) (partner : Partner)
    (plaintext : String) : Database :=
  withKey ((call.modelCall partner.consumerId).replaced (opened db partner))
    (call.newKey deriveKeyHash plaintext)

theorem modelCall_ok_iff (hfresh : getPartner db.billing partner.consumerId = none) :
    (call.modelCall partner.consumerId).run (opened db partner) = (after, .ok ()) ↔
      (call.modelCall partner.consumerId).Writes ∧
        after = (call.modelCall partner.consumerId).replaced (opened db partner) := by
  refine ModelCall.run_ok_iff ?_
  show (getPartner (db.billing.withPartner partner) partner.consumerId).isSome = true
  rw [getPartner_withPartner hfresh]
  rfl

theorem openPool_answers (h : call.pool = none) :
    (answer (call.openPool.mapError .error) : Step Database (Halt KeygenError) Unit) db = (db, .ok ()) := by
  rw [answer, openPool, h]
  rfl

/-- Once the partner is inserted, it is there after the run, whatever the run answers. -/
theorem run_leaves (h : call.Inserts db partner) :
    (call.run deriveKeyHash db).1.hasPartner partner.consumerId = true := by
  rw [run, andThen_of_ok (openPool_answers h.pool)]
  refine andThen_leaves (P := fun db : Database => db.hasPartner partner.consumerId = true)
    (openPartner_leaves h.partner) fun _ => ?_
  exact andThen_keeps (mapError_keeps (ModelCall.run_keeps _ _)) fun _ =>
    andThen_keeps (answer_keeps _) fun _ => issueKey_keeps _ _

/-- A run that inserts the partner answers exactly where everything after the insert goes well. -/
theorem run_ok_iff (h : call.Inserts db partner) :
    call.run deriveKeyHash db = (after, .ok (row, plaintext)) ↔
      call.partner.readBack = none ∧ (call.modelCall partner.consumerId).Writes ∧
        call.plaintext = some plaintext ∧ call.Accepts deriveKeyHash plaintext db ∧
        after = provisioned deriveKeyHash call db partner plaintext ∧
        row = ((call.newKey deriveKeyHash plaintext).record db.nextKeyId).row := by
  rw [run, andThen_of_ok (openPool_answers h.pool)]
  constructor
  · intro hrun
    obtain ⟨afterOpen, partner', hopen, hrun⟩ := andThen_ok_iff.1 hrun
    obtain ⟨afterModels, ⟨⟩, hmodels, hrun⟩ := andThen_ok_iff.1 hrun
    obtain ⟨afterRead, supplied, hread, hissue⟩ := andThen_ok_iff.1 hrun
    obtain ⟨hinserts, hback, rfl⟩ := openPartner_ok_iff.1 (mapError_ok_iff.1 hopen)
    obtain rfl : partner' = partner := Except.ok.inj (hinserts.valid.symm.trans h.partner.valid)
    obtain ⟨hwrites, rfl⟩ := (modelCall_ok_iff hinserts.fresh).1 (mapError_ok_iff.1 hmodels)
    obtain ⟨rfl, hsupplied⟩ := answer_ok_iff.1 hread
    obtain ⟨hplaintext, hissue⟩ := issueKey_ok (Result.mapError_ok_iff.1 hsupplied) hissue
    obtain ⟨haccepts, hafter, hrow, -⟩ := createKey_ok_iff.1 hissue
    -- the key is written over the keys the run started with
    exact ⟨hback, hwrites, hplaintext, ⟨haccepts.name, haccepts.consumer, haccepts.value,
      haccepts.newKey, haccepts.noneActive, haccepts.written⟩, hafter, hrow⟩
  · rintro ⟨hback, hwrites, hplaintext, haccepts, rfl, rfl⟩
    obtain ⟨supplied, hsupplied⟩ : ∃ supplied,
        resolvePlaintext call.request.plaintext call.stdin = .ok supplied := by
      cases hresolved : resolvePlaintext call.request.plaintext call.stdin with
      | ok supplied => exact ⟨supplied, rfl⟩
      | error e =>
        rw [Call.plaintext, hresolved] at hplaintext
        cases hplaintext
    have hissue : call.issueKey deriveKeyHash supplied
        ((call.modelCall partner.consumerId).replaced (opened db partner)) =
        (provisioned deriveKeyHash call db partner plaintext,
          .ok (((call.newKey deriveKeyHash plaintext).record db.nextKeyId).row, plaintext)) := by
      rw [issueKey_of_plaintext hsupplied hplaintext]
      exact createKey_accepted ⟨haccepts.name, haccepts.consumer, haccepts.value, haccepts.newKey,
        haccepts.noneActive, haccepts.written⟩
    refine andThen_ok_iff.2 ⟨opened db partner, partner,
      mapError_ok_iff.2 (openPartner_ok_iff.2 ⟨h.partner, hback, rfl⟩), ?_⟩
    refine andThen_ok_iff.2 ⟨_, (),
      mapError_ok_iff.2 ((modelCall_ok_iff h.partner.fresh).2 ⟨hwrites, rfl⟩), ?_⟩
    exact andThen_ok_iff.2 ⟨_, supplied,
      answer_ok_iff.2 ⟨rfl, Result.mapError_ok_iff.2 hsupplied⟩, hissue⟩

/-- A run that inserts no partner changes nothing, and fails. -/
theorem run_refused (h : ¬∃ partner, call.Inserts db partner) :
    ∃ e, call.run deriveKeyHash db = (db, .error e) := by
  cases hpool : call.pool with
  | some e =>
    exact ⟨_, andThen_of_error (by rw [answer, openPool, hpool]; rfl)⟩
  | none =>
    rw [run, andThen_of_ok (openPool_answers hpool)]
    have hnone : ¬∃ partner, call.request.partner.Inserts call.partner call.partnerNow db.billing
        partner := by
      rintro ⟨partner, hpartner⟩
      exact h ⟨partner, hpool, hpartner⟩
    obtain ⟨e, hopen⟩ := openPartner_refused hnone
    exact ⟨_, andThen_of_error (by rw [mapError, hopen]; rfl)⟩

/-! ## What a run leaves -/

theorem provisioned_provisioned (h : call.Inserts db partner)
    (hvalid : ValidModels call.request.models) :
    Provisioned call.request.partner call.request.models
      (provisioned deriveKeyHash call db partner plaintext) := by
  have hdescribes := validated_describes h.partner.valid
  have hpartner : getPartner (opened db partner).billing (Text.trim call.request.partner.consumerId) =
      some partner := by
    rw [← hdescribes.consumer]
    exact getPartner_withPartner h.partner.fresh
  have hmodels := @provisioned_of_replaced _ _ (call.modelCall partner.consumerId) _ hdescribes hpartner
    hdescribes.consumer hvalid
  exact ⟨hmodels.partner, hmodels.models⟩

theorem activeKeys_provisioned (haccepts : call.Accepts deriveKeyHash plaintext db) :
    activeKeys (provisioned deriveKeyHash call db partner plaintext) (Text.trim call.request.consumerId) =
      [(call.newKey deriveKeyHash plaintext).record db.nextKeyId] := by
  have hnone : activeKeys db (Text.trim call.request.consumerId) = [] := by
    rw [activeKeys, List.filter_eq_nil_iff]
    exact List.any_eq_false.1 haccepts.noneActive
  rw [activeKeys] at hnone
  show (db.keys ++ [(call.newKey deriveKeyHash plaintext).record db.nextKeyId]).filter _ = _
  rw [List.filter_append, hnone, List.nil_append]
  simp [NewKey.record, newKey]

/-- A run is atomic exactly where everything after the insert of the partner goes well. -/
theorem atomic_iff (deriveKeyHash : String → String) (call : Call) (db : Database) :
    call.Atomic deriveKeyHash db ↔
      ∀ partner, call.Inserts db partner → call.Completes deriveKeyHash db partner := by
  constructor
  · intro hatomic partner hinserts
    have hfresh : db.hasPartner partner.consumerId = false := by
      rw [Database.hasPartner, hinserts.partner.fresh]
      rfl
    have hchanged : written (call.run deriveKeyHash db).1 ≠ written db := by
      intro hsame
      have hpartners : (call.run deriveKeyHash db).1.billing.partners = db.billing.partners :=
        congrArg Prod.fst hsame
      have hleft := @run_leaves deriveKeyHash call db partner hinserts
      rw [Database.hasPartner, getPartner, hpartners] at hleft
      exact Bool.false_ne_true (hfresh.symm.trans hleft)
    obtain ⟨after, ⟨row, plaintext⟩, hrun⟩ := (atomic_iff_answers hchanged).1 hatomic.failure
    obtain ⟨hback, hwrites, hplaintext, haccepts, -, hrow⟩ := (run_ok_iff hinserts).1 hrun
    obtain ⟨-, key, hactive, hkey, -⟩ := hatomic.success after row plaintext hrun
    have hconsumer : key.row.consumerId = Text.trim call.request.partner.consumerId := by
      have hmem : key ∈ activeKeys after (Text.trim call.request.partner.consumerId) := by
        rw [hactive]
        exact List.mem_singleton.2 rfl
      exact of_decide_eq_true ((Bool.and_eq_true _ _).mp (List.mem_filter.1 hmem).2).1
    refine ⟨hback, hwrites, ⟨plaintext, hplaintext, haccepts⟩, ?_⟩
    rw [(validated_describes hinserts.partner.valid).consumer, ← hconsumer, hkey, hrow]
    rfl
  · intro hcompletes
    by_cases h : ∃ partner, call.Inserts db partner
    · obtain ⟨partner, hinserts⟩ := h
      obtain ⟨hback, hwrites, ⟨plaintext, hplaintext, haccepts⟩, hconsumer⟩ := hcompletes partner hinserts
      have hrun := (run_ok_iff hinserts).2 ⟨hback, hwrites, hplaintext, haccepts, rfl, rfl⟩
      refine ⟨fun after e hfailed => ?_, fun after row issued hanswer => ?_⟩
      · rw [hrun] at hfailed
        cases (Prod.mk.inj hfailed).2
      · rw [hrun] at hanswer
        cases hanswer
        rw [← (validated_describes hinserts.partner.valid).consumer, ← hconsumer]
        exact ⟨provisioned_provisioned hinserts hwrites.valid,
          _, activeKeys_provisioned haccepts, rfl, rfl⟩
    · obtain ⟨e, hrun⟩ := @run_refused deriveKeyHash call db h
      refine ⟨atomic_of_unchanged (by rw [hrun]), fun after row issued hanswer => ?_⟩
      rw [hrun] at hanswer
      cases (Prod.mk.inj hanswer).2

end Call

end Keygen

/-- A run, and a partner created by an admin, are atomic exactly where everything after the insert of the
partner goes well. -/
theorem provisioning_atomic_iff (deriveKeyHash : String → String) (keygen : Keygen.Call)
    (create : Admin.CreatePartnerCall) (db : Database) :
    (keygen.Atomic deriveKeyHash db ↔
      ∀ partner, keygen.Inserts db partner → keygen.Completes deriveKeyHash db partner) ∧
    (create.Atomic db ↔
      ∀ mode models partner, create.Inserts db mode models partner →
        create.Completes db models partner) :=
  ⟨Keygen.Call.atomic_iff deriveKeyHash keygen db, Admin.CreatePartnerCall.atomic_iff create db⟩

namespace Sample

def newAcme : NewPartner where
  consumerId := "acme"
  name := "Acme"
  billingEmail := ""
  billingMode := .invoice
  paymentTermsMinutes := 720

/-- A run whose plaintext is read from an empty standard input. -/
def emptyInput : Keygen.Call where
  request :=
    { name := "Acme"
      consumerId := "acme"
      partner := newAcme
      models := [⟨"gpt-4o", ⟨.zero, .zero, .zero⟩⟩]
      plaintext := .fromStdin }
  partnerNow := keyClock
  modelsNow := keyClock
  keyNow := keyClock
  stdin := some ""
  generated := .error ""

theorem emptyInput_inserts : ∃ partner, emptyInput.Inserts noKeys partner := by
  have hconsumer : Text.trim "acme" ≠ "" := by decide +kernel
  have hname : Text.trim "Acme" ≠ "" := by decide +kernel
  exact ⟨_, rfl, (if_neg hconsumer).trans ((if_neg hname).trans rfl), rfl, rfl⟩

end Sample

/-- With an empty standard input the partner is there after the failure. -/
theorem empty_input_leaves_partner : ¬∀ deriveKeyHash (keygen : Keygen.Call)
    (create : Admin.CreatePartnerCall) (db : Database),
    keygen.Atomic deriveKeyHash db ∧ create.Atomic db := by
  intro hall
  obtain ⟨partner, hinserts⟩ := Sample.emptyInput_inserts
  have hatomic := (hall Sample.keyHash Sample.emptyInput
    { request := { consumerId := "acme", name := "Acme", billingMode := "invoice" }
      now := Sample.keyClock
      modelsNow := Sample.keyClock } Sample.noKeys).1
  obtain ⟨plaintext, hplaintext, -⟩ :=
    ((Keygen.Call.atomic_iff _ _ _).1 hatomic partner hinserts).key
  have hnone : Sample.emptyInput.plaintext = none := by decide +kernel
  rw [hnone] at hplaintext
  cases hplaintext

end PartnerPortal
