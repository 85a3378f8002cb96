import PartnerPortal.Billing.Models
import PartnerPortal.Lib.Commits

/-!
# Opening an account

A partner's row is inserted and read back, and its models are written after that, each in a commit of its
own.

Results:
- `createPartner_ok_iff`, `createPartner_refused` — what an insert leaves, and what is left without one;
- `ModelCall.run_ok_iff` — when the models of a partner are written;
- `provisioned_of_replaced` — what both leave.
-/

namespace PartnerPortal

open MachineInt

def Database.hasPartner (db : Database) (consumerId : String) : Bool :=
  (getPartner db.billing consumerId).isSome

/-- `create_partner`, on the tables of the one database. -/
def openPartner (fault : CallFault) (now : Instant) (new : NewPartner) :
    Commits.Step Database BillingError Partner := fun db =>
  ({ db with billing := (createPartner fault now new db.billing).1 },
    (createPartner fault now new db.billing).2)

/-- A row has what was asked for. -/
structure NewPartner.Describes (new : NewPartner) (partner : Partner) : Prop where
  consumer : partner.consumerId = Text.trim new.consumerId
  name : partner.name = Text.trim new.name
  email : partner.billingEmail = Text.trim new.billingEmail
  mode : partner.billingMode = new.billingMode
  terms : partner.paymentTermsMinutes.value = new.paymentTermsMinutes

/-- A request inserts a row: it is valid, its consumer is new, and the insert does not fail. -/
structure NewPartner.Inserts (new : NewPartner) (fault : CallFault) (now : Instant) (store : Store)
    (partner : Partner) : Prop where
  valid : new.validated (formatInstant now) = .ok partner
  fresh : getPartner store partner.consumerId = none
  written : fault.write = none

/-- The partner is there as asked for, and so are the models asked for. -/
structure Provisioned (new : NewPartner) (models : List ModelPrice) (db : Database) : Prop where
  partner : ∃ partner, getPartner db.billing (Text.trim new.consumerId) = some partner ∧
    new.Describes partner
  models : models ≠ [] → (modelsOf db (Text.trim new.consumerId)).Perm models

/-! ## The partner -/

section Partner

variable {new : NewPartner} {fault : CallFault} {now : Instant} {store written : Store}
  {partner : Partner}

theorem validated_describes {text : String} (h : new.validated text = .ok partner) :
    new.Describes partner := by
  unfold NewPartner.validated at h
  split at h
  · cases h
  · split at h
    · cases h
    · obtain ⟨terms, hterms, h⟩ := Result.bind_ok_iff.1 h
      cases h
      unfold checkTerms at hterms
      split at hterms
      · rename_i hcount
        cases hterms
        exact ⟨rfl, rfl, rfl, rfl, Count.ofInt_eq_some_iff.1 hcount⟩
      · cases hterms

/-- The store with one more partner. -/
def Store.withPartner (store : Store) (partner : Partner) : Store :=
  { store with partners := store.partners ++ [partner] }

theorem getPartner_withPartner (h : getPartner store partner.consumerId = none) :
    getPartner (store.withPartner partner) partner.consumerId = some partner := by
  rw [getPartner, Store.withPartner, List.find?_append]
  show (getPartner store partner.consumerId).or _ = _
  rw [h, Option.none_or, List.find?_singleton, if_pos (decide_eq_true rfl)]

theorem createPartner_inserts (h : new.Inserts fault now store partner) :
    createPartner fault now new store =
      (store.withPartner partner, readPartner fault partner.consumerId (store.withPartner partner)) := by
  have hnew : (getPartner store partner.consumerId).isSome = false := by rw [h.fresh]; rfl
  have hinsert : insertPartner fault partner store = .ok (store.withPartner partner) := by
    rw [insertPartner, h.written]
    exact if_neg (ne_true_of_eq_false hnew)
  rw [createPartner, h.valid]
  simp only [hinsert]

theorem readPartner_withPartner (h : new.Inserts fault now store partner) :
    readPartner fault partner.consumerId (store.withPartner partner) =
      fault.readBack.elim (.ok partner) fun e => .error (.database e) := by
  rw [readPartner, getPartner_withPartner h.fresh]
  cases fault.readBack <;> rfl

/-- Without an insert the store is as it was. -/
theorem createPartner_refused (h : ¬∃ partner, new.Inserts fault now store partner) :
    ∃ e, createPartner fault now new store = (store, .error e) := by
  unfold createPartner
  split
  · exact ⟨_, rfl⟩
  · rename_i partner hvalid
    split
    · rename_i hinsert
      unfold insertPartner at hinsert
      split at hinsert
      · cases hinsert
      · rename_i hwritten
        split at hinsert
        · cases hinsert
        · rename_i hfresh
          exact absurd ⟨partner, hvalid, Option.not_isSome_iff_eq_none.1 hfresh, hwritten⟩ h
    · exact ⟨_, rfl⟩

theorem createPartner_ok_iff : createPartner fault now new store = (written, .ok partner) ↔
    new.Inserts fault now store partner ∧ fault.readBack = none ∧
      written = store.withPartner partner := by
  by_cases h : ∃ partner, new.Inserts fault now store partner
  · obtain ⟨inserted, hinserted⟩ := h
    rw [createPartner_inserts hinserted, readPartner_withPartner hinserted]
    constructor
    · intro hanswer
      obtain ⟨hwritten, hread⟩ := Prod.mk.inj hanswer
      cases hback : fault.readBack with
      | some e =>
        rw [hback] at hread
        cases hread
      | none =>
        rw [hback] at hread
        cases hread
        exact ⟨hinserted, rfl, hwritten.symm⟩
    · rintro ⟨hinserts, hback, rfl⟩
      have hsame : inserted = partner := Except.ok.inj (hinserted.valid.symm.trans hinserts.valid)
      rw [hback, hsame]
      rfl
  · obtain ⟨e, hrefused⟩ := createPartner_refused h
    rw [hrefused]
    constructor
    · intro hanswer
      cases (Prod.mk.inj hanswer).2
    · exact fun hboth => absurd ⟨partner, hboth.1⟩ h

theorem openPartner_ok_iff {db written : Database} :
    openPartner fault now new db = (written, .ok partner) ↔
      new.Inserts fault now db.billing partner ∧ fault.readBack = none ∧
        written = { db with billing := db.billing.withPartner partner } := by
  constructor
  · intro h
    obtain ⟨rfl, hanswer⟩ := Prod.mk.inj h
    obtain ⟨hinserts, hback, hstore⟩ := createPartner_ok_iff.1 (Prod.ext rfl hanswer)
    exact ⟨hinserts, hback, congrArg (fun store => { db with billing := store }) hstore⟩
  · rintro ⟨hinserts, hback, rfl⟩
    rw [openPartner, createPartner_ok_iff.2 ⟨hinserts, hback, rfl⟩]

/-- An inserted row stays, whatever its read back answers. -/
theorem openPartner_leaves {db : Database} (h : new.Inserts fault now db.billing partner) :
    (openPartner fault now new db).1.hasPartner partner.consumerId = true := by
  rw [Database.hasPartner, openPartner, createPartner_inserts h, getPartner_withPartner h.fresh]
  rfl

theorem openPartner_refused {db : Database} (h : ¬∃ partner, new.Inserts fault now db.billing partner) :
    ∃ e, openPartner fault now new db = (db, .error e) := by
  obtain ⟨e, hrefused⟩ := createPartner_refused h
  exact ⟨e, by rw [openPartner, hrefused]⟩

end Partner

/-! ## Its models -/

namespace ModelCall

variable {call : ModelCall} {db written : Database}

/-- The models of a partner are written where they are valid, the table takes their names and the write
does not fail. -/
structure Writes (call : ModelCall) : Prop where
  valid : ValidModels call.models
  storable : ∀ entry ∈ call.models, storableModel entry.model = true
  written : call.fault.write = none

theorem run_ok_iff (hpartner : call.PartnerExists db) :
    call.run db = (written, .ok ()) ↔ call.Writes ∧ written = call.replaced db := by
  constructor
  · intro h
    have houtcome := run_outcome call db
    rw [h] at houtcome
    have hvalid : ValidModels call.models := by cases houtcome; assumption
    have hfault : call.fault.write = none := by cases houtcome; assumption
    rw [run, replaceModels, checkModels_valid_iff.2 hvalid] at h
    simp only [writeModels_of_present hvalid hfault hpartner] at h
    -- the inserts fail at a name the table refuses
    cases hstorable : call.models.all fun entry => storableModel entry.model with
    | false =>
      simp only [hstorable, Bool.false_eq_true, if_false] at h
      cases (Prod.mk.inj h).2
    | true =>
      simp only [hstorable, if_true] at h
      exact ⟨⟨hvalid, List.all_eq_true.1 hstorable, hfault⟩, (Prod.mk.inj h).1.symm⟩
  · rintro ⟨⟨hvalid, hstorable, hfault⟩, rfl⟩
    rw [run, replaceModels, checkModels_valid_iff.2 hvalid]
    simp only [writeModels_of_present hvalid hfault hpartner, List.all_eq_true.2 hstorable, if_true]

theorem getPartner_replaced (consumerId : String) :
    getPartner (call.replaced db).billing consumerId =
      (getPartner db.billing consumerId).map fun p =>
        if p.consumerId = call.consumerId then { p with updatedAt := formatInstant call.now } else p := by
  show (db.billing.partners.map _).find? _ = _
  rw [List.find?_map, getPartner]
  congr 2
  funext p
  rw [Function.comp_apply]
  split <;> rfl

/-- Nobody's row is taken away. -/
theorem run_keeps (call : ModelCall) (consumerId : String) :
    Commits.Keeps (fun db : Database => db.hasPartner consumerId = true) call.run := by
  intro db hpartner
  have houtcome := run_outcome call db
  generalize call.run db = result at houtcome
  cases houtcome with
  | replaced =>
    rw [Database.hasPartner, getPartner_replaced, Option.isSome_map]
    exact hpartner
  | invalid | failed | unstorable | unknown => exact hpartner

end ModelCall

/-- What the two writes leave. -/
theorem provisioned_of_replaced {new : NewPartner} {partner : Partner} {call : ModelCall} {db : Database}
    (hdescribes : new.Describes partner)
    (hpartner : getPartner db.billing (Text.trim new.consumerId) = some partner)
    (hconsumer : call.consumerId = Text.trim new.consumerId) (hvalid : ValidModels call.models) :
    Provisioned new call.models (call.replaced db) where
  partner := by
    rw [ModelCall.getPartner_replaced, hpartner, Option.map_some]
    refine ⟨_, rfl, ?_⟩
    split
    · exact ⟨hdescribes.consumer, hdescribes.name, hdescribes.email, hdescribes.mode, hdescribes.terms⟩
    · exact hdescribes
  models := by
    intro _
    rw [← hconsumer]
    exact (ModelCall.modelsOf_replaced hvalid).1

end PartnerPortal
