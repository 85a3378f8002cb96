import PartnerPortal.ApiKeys.Refresher
import PartnerPortal.Billing.Operations
import PartnerPortal.Lib.OrderBy

/-!
# A partner's model list

The list is checked, its names trimmed; then the stored rows are deleted and the new ones inserted, their
names as given.  Only an inserted row is checked for its partner.

Results:
- `checkModels_ok_iff` — the lists that pass the check;
- `insertModels_eq`, `insertModels_missing` — what the inserts come to with and without the partner;
- `replace_models_exact_iff` — when a list replaces another one exactly.
-/

namespace PartnerPortal

/-- A partner's configured models, in model order. -/
def modelsOf (db : Database) (consumerId : String) : List ModelPrice :=
  ((db.models.filter fun m => m.consumerId = consumerId).map fun m => ⟨m.model, m.prices⟩).insertionSort
    fun a b => !(b.model < a.model)

/-- No name is blank, and no two are equal after trimming. -/
structure ValidModels (models : List ModelPrice) : Prop where
  named : ∀ entry ∈ models, Text.trim entry.model ≠ ""
  distinct : (models.map fun entry => Text.trim entry.model).Nodup

/-- A call of `replace_models`. -/
structure ModelCall where
  fault : CallFault
  now : Instant
  consumerId : String
  models : List ModelPrice

namespace ModelCall

variable (call : ModelCall) (db : Database)

def run : Database × Except BillingError Unit :=
  replaceModels call.fault call.now call.consumerId call.models db

def PartnerExists : Prop := (getPartner db.billing call.consumerId).isSome = true

/-- The list replaces the stored one, and nothing else changes; or it is refused for what is wrong with
it, and nothing changes. -/
structure Exact : Prop where
  ok : ∀ written, call.run db = (written, .ok ()) →
    call.PartnerExists db ∧
    (modelsOf written call.consumerId).Perm call.models ∧
    (modelsOf written call.consumerId).Pairwise (fun a b => a.model < b.model) ∧
    ∀ other, other ≠ call.consumerId → modelsOf written other = modelsOf db other
  error : ∀ written e, call.run db = (written, .error e) → written = db
  notFound : (call.run db).2 = .error (.partnerNotFound call.consumerId) ↔
    ValidModels call.models ∧ ¬call.PartnerExists db
  invalid : (∃ message, (call.run db).2 = .error (.invalid message)) ↔ ¬ValidModels call.models

/-- The partner is there, and no failure reads like a missing one; or the first row is refused for it. -/
def Distinguishable : Prop :=
  (call.PartnerExists db → call.fault.write ≠ some .constraintForeignKey) ∧
  (¬call.PartnerExists db → call.fault.write = some .constraintForeignKey ∨
    call.fault.write = none ∧ ∃ entry ∈ call.models.head?, storableModel entry.model = true)

end ModelCall

/-! ## The check -/

section Check

theorem checkModels_ok_iff {seen : List String} {models : List ModelPrice} :
    checkModels seen models = .ok () ↔
      (∀ entry ∈ models, Text.trim entry.model ≠ "" ∧ Text.trim entry.model ∉ seen) ∧
        (models.map fun entry => Text.trim entry.model).Nodup := by
  induction models generalizing seen with
  | nil => simp [checkModels]
  | cons entry rest ih =>
    rw [checkModels, List.map_cons, List.nodup_cons, List.forall_mem_cons]
    split
    · rename_i hblank
      simp [hblank]
    · rename_i hnamed
      split
      · rename_i hseen
        simp [hseen]
      · rename_i hnew
        rw [ih]
        simp only [List.mem_cons, not_or, List.mem_map, not_exists, not_and]
        constructor
        · rintro ⟨hrest, hnodup⟩
          exact ⟨⟨⟨hnamed, hnew⟩, fun e he => ⟨(hrest e he).1, (hrest e he).2.2⟩⟩,
            fun e he => (hrest e he).2.1, hnodup⟩
        · rintro ⟨⟨-, hrest⟩, hdistinct, hnodup⟩
          exact ⟨fun e he => ⟨(hrest e he).1, hdistinct e he, (hrest e he).2⟩, hnodup⟩

theorem checkModels_valid_iff {models : List ModelPrice} :
    checkModels [] models = .ok () ↔ ValidModels models := by
  rw [checkModels_ok_iff]
  constructor
  · rintro ⟨hnamed, hdistinct⟩
    exact ⟨fun entry hentry => (hnamed entry hentry).1, hdistinct⟩
  · rintro ⟨hnamed, hdistinct⟩
    exact ⟨fun entry hentry => ⟨hnamed entry hentry, List.not_mem_nil⟩, hdistinct⟩

theorem checkModels_error {seen : List String} {models : List ModelPrice} {e : BillingError}
    (h : checkModels seen models = .error e) : ∃ message, e = .invalid message := by
  induction models generalizing seen with
  | nil => cases h
  | cons entry rest ih =>
    rw [checkModels] at h
    split at h
    · cases h
      exact ⟨_, rfl⟩
    · split at h
      · cases h
        exact ⟨_, rfl⟩
      · exact ih h

end Check

/-! ## The inserts -/

section Inserts

variable {consumerId : String} {models : List ModelPrice} {db : Database}

/-- The rows of a list. -/
def modelRows (consumerId : String) (models : List ModelPrice) : List PartnerModel :=
  models.map fun entry => ⟨consumerId, entry.model, entry.prices⟩

/-- A consumer has no row with a name of the list. -/
def NoneNamed (db : Database) (consumerId : String) (models : List ModelPrice) : Prop :=
  ∀ m ∈ db.models, m.consumerId = consumerId → ∀ entry ∈ models, m.model ≠ entry.model

theorem insertModel_eq {entry : ModelPrice} (hnone : NoneNamed db consumerId [entry]) :
    insertModel db ⟨consumerId, entry.model, entry.prices⟩ =
      if storableModel entry.model = false then .error .constraintCheck
      else if (getPartner db.billing consumerId).isNone then .error .constraintForeignKey
      else .ok { db with models := db.models ++ [⟨consumerId, entry.model, entry.prices⟩] } := by
  have hfree : (db.models.any fun m => m.consumerId = consumerId && m.model = entry.model) = false := by
    rw [List.any_eq_false]
    intro m hm hsame
    obtain ⟨hconsumer, hmodel⟩ := (Bool.and_eq_true _ _).mp hsame
    exact hnone m hm (of_decide_eq_true hconsumer) entry List.mem_cons_self (of_decide_eq_true hmodel)
  simp only [insertModel, hfree, Bool.not_eq_true', Bool.false_eq_true, if_false]

/-- The list's other names are not those of the row just inserted. -/
theorem NoneNamed.insert {entry : ModelPrice} {rest : List ModelPrice}
    (hnone : NoneNamed db consumerId (entry :: rest)) (hnew : entry.model ∉ rest.map ModelPrice.model) :
    NoneNamed { db with models := db.models ++ [⟨consumerId, entry.model, entry.prices⟩] } consumerId
      rest := by
  intro m hm hconsumer other hother
  rcases List.mem_append.1 hm with hold | hm
  · exact hnone m hold hconsumer other (List.mem_cons_of_mem _ hother)
  · rw [List.mem_singleton.1 hm]
    exact fun hsame => hnew (List.mem_map.2 ⟨other, hother, hsame.symm⟩)

theorem insertModels_eq (hpartner : (getPartner db.billing consumerId).isNone = false)
    (hnone : NoneNamed db consumerId models) (hnodup : (models.map ModelPrice.model).Nodup) :
    (modelRows consumerId models).foldlM insertModel db =
      if models.all fun entry => storableModel entry.model then
        .ok { db with models := db.models ++ modelRows consumerId models }
      else .error .constraintCheck := by
  induction models generalizing db with
  | nil => simp [modelRows, pure, Except.pure]
  | cons entry rest ih =>
    obtain ⟨hnew, hnodup⟩ := List.nodup_cons.1 hnodup
    have hfirst : NoneNamed db consumerId [entry] := by
      intro m hm hconsumer other hother
      rw [List.mem_singleton.1 hother]
      exact hnone m hm hconsumer entry List.mem_cons_self
    rw [modelRows, List.map_cons, List.foldlM_cons, insertModel_eq hfirst, hpartner, List.all_cons]
    cases hstorable : storableModel entry.model with
    | false => rfl
    | true =>
      have hrest := @ih { db with models := db.models ++ [⟨consumerId, entry.model, entry.prices⟩] }
        hpartner (hnone.insert hnew) hnodup
      rw [modelRows] at hrest
      simp only [Bool.true_eq_false, if_false, Bool.false_eq_true, Result.ok_bind, hrest, Bool.true_and,
        List.append_assoc, List.singleton_append]

/-- Without the partner the first row is refused. -/
theorem insertModels_missing {entry : ModelPrice} {rest : List ModelPrice}
    (hpartner : (getPartner db.billing consumerId).isNone = true)
    (hnone : NoneNamed db consumerId (entry :: rest)) :
    (modelRows consumerId (entry :: rest)).foldlM insertModel db =
      .error (if storableModel entry.model = true then .constraintForeignKey else .constraintCheck) := by
  have hfirst : NoneNamed db consumerId [entry] := by
    intro m hm hconsumer other hother
    rw [List.mem_singleton.1 hother]
    exact hnone m hm hconsumer entry List.mem_cons_self
  rw [modelRows, List.map_cons, List.foldlM_cons, insertModel_eq hfirst, hpartner]
  cases storableModel entry.model <;> rfl

end Inserts

/-! ## The call -/

theorem ValidModels.names {models : List ModelPrice} (h : ValidModels models) :
    (models.map ModelPrice.model).Nodup :=
  List.Nodup.of_map Text.trim (by rw [List.map_map]; exact h.distinct)

namespace ModelCall

variable {call : ModelCall} {db : Database}

/-- The stored models without those of the call's consumer. -/
def emptied (call : ModelCall) (db : Database) : Database :=
  { db with models := db.models.filter fun m => m.consumerId ≠ call.consumerId }

theorem noneNamed_emptied : NoneNamed (call.emptied db) call.consumerId call.models := by
  intro m hm hconsumer
  exact absurd hconsumer (of_decide_eq_true (List.mem_filter.1 hm).2)

/-- What a complete replacement leaves. -/
def replaced (call : ModelCall) (db : Database) : Database :=
  touchPartner (formatInstant call.now) call.consumerId
    { call.emptied db with
      models := (call.emptied db).models ++ modelRows call.consumerId call.models }

/-- Everything a call can do. -/
inductive Outcome (call : ModelCall) (db : Database) : Database × Except BillingError Unit → Prop
  | invalid (message : Text.Formatted) (hinvalid : ¬ValidModels call.models) :
      Outcome call db (db, .error (.invalid message))
  | failed {e : SqliteError} (hvalid : ValidModels call.models) (hfault : call.fault.write = some e) :
      Outcome call db (db, .error
        (if e = .constraintForeignKey then .partnerNotFound call.consumerId else .database e))
  /-- a name is refused by the table -/
  | unstorable (hvalid : ValidModels call.models) (hfault : call.fault.write = none)
      (hname : call.PartnerExists db ∨ ∃ entry ∈ call.models.head?, storableModel entry.model = false) :
      Outcome call db (db, .error (.database .constraintCheck))
  /-- the first row is refused for its partner -/
  | unknown (hvalid : ValidModels call.models) (hfault : call.fault.write = none)
      (hpartner : ¬call.PartnerExists db)
      (hname : ∃ entry ∈ call.models.head?, storableModel entry.model = true) :
      Outcome call db (db, .error (.partnerNotFound call.consumerId))
  | replaced (hvalid : ValidModels call.models) (hfault : call.fault.write = none)
      (hpartner : call.PartnerExists db ∨ call.models = []) :
      Outcome call db (call.replaced db, .ok ())

theorem writeModels_of_present (hvalid : ValidModels call.models) (hfault : call.fault.write = none)
    (hpartner : call.PartnerExists db) :
    writeModels call.fault call.now call.consumerId call.models db =
      if call.models.all fun entry => storableModel entry.model then .ok (call.replaced db)
      else .error .constraintCheck := by
  have hpresent : (getPartner (call.emptied db).billing call.consumerId).isNone = false :=
    Option.isNone_eq_false_iff.2 hpartner
  have hinserts := insertModels_eq hpresent noneNamed_emptied hvalid.names
  rw [writeModels, hfault]
  show ((modelRows call.consumerId call.models).foldlM insertModel (call.emptied db) >>= _) = _
  rw [hinserts]
  split <;> rfl

theorem writeModels_of_missing (hfault : call.fault.write = none) (hpartner : ¬call.PartnerExists db)
    {entry : ModelPrice} {rest : List ModelPrice} (hmodels : call.models = entry :: rest) :
    writeModels call.fault call.now call.consumerId call.models db =
      .error (if storableModel entry.model = true then .constraintForeignKey else .constraintCheck) := by
  have hmissing : (getPartner (call.emptied db).billing call.consumerId).isNone = true := by
    rw [Option.isNone_iff_eq_none, ← Option.not_isSome_iff_eq_none]
    exact hpartner
  have hinserts := insertModels_missing hmissing (hmodels ▸ noneNamed_emptied)
  rw [writeModels, hfault]
  show ((modelRows call.consumerId call.models).foldlM insertModel (call.emptied db) >>= _) = _
  rw [hmodels, hinserts]
  rfl

theorem run_outcome (call : ModelCall) (db : Database) : call.Outcome db (call.run db) := by
  by_cases hvalid : ValidModels call.models
  · have hcheck := checkModels_valid_iff.2 hvalid
    cases hfault : call.fault.write with
    | some e =>
      have hwrite : writeModels call.fault call.now call.consumerId call.models db = .error e := by
        rw [writeModels, hfault]
      rw [run, replaceModels, hcheck]
      simp only [hwrite]
      exact .failed hvalid hfault
    | none =>
      by_cases hpartner : call.PartnerExists db
      · have hwrite := writeModels_of_present hvalid hfault hpartner
        rw [run, replaceModels, hcheck]
        cases hall : call.models.all fun entry => storableModel entry.model with
        | true =>
          simp only [hwrite, hall, if_true]
          exact .replaced hvalid hfault (.inl hpartner)
        | false =>
          simp only [hwrite, hall, Bool.false_eq_true, if_false, reduceCtorEq]
          exact .unstorable hvalid hfault (.inl hpartner)
      · cases hmodels : call.models with
        | nil =>
          -- nothing is inserted, so nothing asks for the partner
          have hwrite : writeModels call.fault call.now call.consumerId call.models db =
              .ok (call.replaced db) := by
            rw [writeModels, hfault, hmodels, replaced, modelRows, hmodels, List.map_nil, List.append_nil]
            rfl
          rw [run, replaceModels, hcheck]
          simp only [hwrite]
          exact .replaced hvalid hfault (.inr hmodels)
        | cons entry rest =>
          have hwrite := writeModels_of_missing hfault hpartner hmodels
          have hhead : entry ∈ call.models.head? := by rw [hmodels]; exact rfl
          rw [run, replaceModels, hcheck]
          cases hstorable : storableModel entry.model with
          | true =>
            simp only [hwrite, hstorable, if_true]
            exact .unknown hvalid hfault hpartner ⟨entry, hhead, hstorable⟩
          | false =>
            simp only [hwrite, hstorable, Bool.false_eq_true, if_false, reduceCtorEq]
            exact .unstorable hvalid hfault (.inr ⟨entry, hhead, hstorable⟩)
  · cases hcheck : checkModels [] call.models with
    | ok => exact absurd (checkModels_valid_iff.1 hcheck) hvalid
    | error e =>
      obtain ⟨message, rfl⟩ := checkModels_error hcheck
      rw [run, replaceModels, hcheck]
      exact .invalid message hvalid

/-! ## The list afterwards -/

/-- Models in the order they are listed in. -/
theorem modelsOf_perm (db : Database) (consumerId : String) :
    (modelsOf db consumerId).Perm
      ((db.models.filter fun m => m.consumerId = consumerId).map fun m => ⟨m.model, m.prices⟩) :=
  List.perm_insertionSort _ _

theorem modelsOf_sorted (db : Database) (consumerId : String) :
    (modelsOf db consumerId).Pairwise fun a b => a.model ≤ b.model :=
  OrderBy.insertionSort_pairwise fun a _ b _ => by
    rw [Bool.not_eq_true', decide_eq_false_iff_not, not_lt]

theorem filter_modelRows (consumerId : String) (models : List ModelPrice) :
    ((modelRows consumerId models).filter fun m => m.consumerId = consumerId) =
      modelRows consumerId models := by
  refine List.filter_eq_self.2 fun m hm => ?_
  obtain ⟨entry, -, rfl⟩ := List.mem_map.1 hm
  exact decide_eq_true rfl

/-- The list of the call is what its consumer has, in order. -/
theorem modelsOf_replaced (hvalid : ValidModels call.models) :
    (modelsOf (call.replaced db) call.consumerId).Perm call.models ∧
      (modelsOf (call.replaced db) call.consumerId).Pairwise fun a b => a.model < b.model := by
  have hold : ((call.emptied db).models.filter fun m => m.consumerId = call.consumerId) = [] := by
    rw [List.filter_eq_nil_iff]
    intro m hm
    simpa using of_decide_eq_true (List.mem_filter.1 hm).2
  have hown : ((call.replaced db).models.filter fun m => m.consumerId = call.consumerId) =
      modelRows call.consumerId call.models := by
    show (((call.emptied db).models ++ modelRows call.consumerId call.models).filter _) = _
    rw [List.filter_append, hold, filter_modelRows, List.nil_append]
  have hperm : (modelsOf (call.replaced db) call.consumerId).Perm call.models := by
    refine (modelsOf_perm _ _).trans ?_
    rw [hown, modelRows, List.map_map]
    exact List.Perm.of_eq (List.map_id _)
  refine ⟨hperm, ?_⟩
  have hnodup : ((modelsOf (call.replaced db) call.consumerId).map ModelPrice.model).Nodup :=
    ((hperm.map ModelPrice.model).nodup_iff).2 hvalid.names
  exact (modelsOf_sorted _ _).imp₂ (fun a b hle hne => lt_of_le_of_ne hle hne)
    (List.pairwise_map.1 hnodup)

/-- The models of another consumer are as they were. -/
theorem modelsOf_replaced_other {other : String} (hother : other ≠ call.consumerId) :
    modelsOf (call.replaced db) other = modelsOf db other := by
  have hrows : ((modelRows call.consumerId call.models).filter fun m => m.consumerId = other) = [] := by
    rw [List.filter_eq_nil_iff]
    intro m hm
    obtain ⟨entry, -, rfl⟩ := List.mem_map.1 hm
    simpa using Ne.symm hother
  have hkept : ((call.emptied db).models.filter fun m => m.consumerId = other) =
      db.models.filter fun m => m.consumerId = other := by
    rw [emptied, List.filter_filter]
    refine List.filter_congr fun m _ => ?_
    by_cases hm : m.consumerId = other <;> simp [hm, hother]
  rw [modelsOf, modelsOf]
  show ((((call.emptied db).models ++ modelRows call.consumerId call.models).filter _).map
    _).insertionSort _ = _
  rw [List.filter_append, hrows, List.append_nil, hkept]

/-- The partner is named as missing exactly where it is. -/
theorem Outcome.notFound_iff {result : Database × Except BillingError Unit}
    (houtcome : call.Outcome db result) (h : ValidModels call.models → call.Distinguishable db) :
    result.2 = .error (.partnerNotFound call.consumerId) ↔
      ValidModels call.models ∧ ¬call.PartnerExists db := by
  cases houtcome with
  | invalid message hinvalid =>
    exact ⟨fun hnot => (by cases hnot), fun hboth => absurd hboth.1 hinvalid⟩
  | @failed e hvalid hfault =>
    by_cases hkey : e = .constraintForeignKey
    · rw [if_pos hkey]
      exact ⟨fun _ => ⟨hvalid, fun hexists => (h hvalid).1 hexists (hkey ▸ hfault)⟩, fun _ => rfl⟩
    · rw [if_neg hkey]
      refine ⟨fun hnot => (by cases hnot), fun hboth => ?_⟩
      rcases (h hvalid).2 hboth.2 with hfail | ⟨hnone, -⟩
      · rw [hfault] at hfail
        exact absurd (Option.some.inj hfail) hkey
      · rw [hfault] at hnone
        cases hnone
  | unstorable hvalid hfault hname =>
    refine ⟨fun hnot => (by cases hnot), fun hboth => ?_⟩
    rcases (h hvalid).2 hboth.2 with hfail | ⟨-, entry, hentry, hstorable⟩
    · rw [hfault] at hfail
      cases hfail
    · obtain ⟨entry', hentry', hrefused⟩ := hname.resolve_left hboth.2
      rw [Option.mem_unique hentry hentry', hrefused] at hstorable
      cases hstorable
  | unknown hvalid hfault hpartner hname =>
    exact ⟨fun _ => ⟨hvalid, hpartner⟩, fun _ => rfl⟩
  | replaced hvalid hfault hpartner =>
    refine ⟨fun hnot => (by cases hnot), fun hboth => ?_⟩
    rcases (h hvalid).2 hboth.2 with hfail | ⟨-, entry, hentry, -⟩
    · rw [hfault] at hfail
      cases hfail
    · rw [hpartner.resolve_left hboth.2] at hentry
      cases hentry

/-- The list is named as invalid exactly where it is. -/
theorem Outcome.invalid_iff {result : Database × Except BillingError Unit}
    (houtcome : call.Outcome db result) :
    (∃ message, result.2 = .error (.invalid message)) ↔ ¬ValidModels call.models := by
  cases houtcome with
  | invalid message hinvalid => exact ⟨fun _ => hinvalid, fun _ => ⟨message, rfl⟩⟩
  | failed hvalid hfault =>
    refine ⟨fun hmessage => ?_, fun hinvalid => absurd hvalid hinvalid⟩
    obtain ⟨message, hmessage⟩ := hmessage
    dsimp only at hmessage
    split at hmessage <;> cases hmessage
  | unstorable hvalid | unknown hvalid | replaced hvalid =>
    exact ⟨fun ⟨_, hmessage⟩ => (by cases hmessage), fun hinvalid => absurd hvalid hinvalid⟩

theorem exact_of_distinguishable (h : ValidModels call.models → call.Distinguishable db) :
    call.Exact db := by
  have houtcome := run_outcome call db
  refine ⟨?_, ?_, houtcome.notFound_iff h, houtcome.invalid_iff⟩
  · intro written hwritten
    rw [hwritten] at houtcome
    cases houtcome with
    | replaced hvalid hfault hpartner =>
      have hexists : call.PartnerExists db := by
        by_contra hmissing
        -- an empty list has no first row that would be refused
        rcases (h hvalid).2 hmissing with hfail | ⟨-, entry, hentry, -⟩
        · rw [hfault] at hfail
          cases hfail
        · rw [hpartner.resolve_left hmissing] at hentry
          cases hentry
      obtain ⟨hperm, hsorted⟩ := @modelsOf_replaced call db hvalid
      exact ⟨hexists, hperm, hsorted, fun other hother => modelsOf_replaced_other hother⟩
  · intro written e hwritten
    rw [hwritten] at houtcome
    cases houtcome <;> rfl

theorem distinguishable_of_exact (h : call.Exact db) (hvalid : ValidModels call.models) :
    call.Distinguishable db := by
  obtain ⟨hok, -, hnotFound, -⟩ := h
  generalize hresult : call.run db = result at hok hnotFound
  have houtcome := run_outcome call db
  rw [hresult] at houtcome
  cases houtcome with
  | invalid message hinvalid => exact absurd hvalid hinvalid
  | @failed e _ hfault =>
    by_cases hkey : e = .constraintForeignKey
    · rw [if_pos hkey] at hnotFound
      subst hkey
      exact ⟨fun hexists => absurd hexists (hnotFound.1 rfl).2, fun _ => .inl hfault⟩
    · rw [if_neg hkey] at hnotFound
      refine ⟨fun _ hfail => hkey (Option.some.inj (hfault.symm.trans hfail)), fun hmissing => ?_⟩
      cases hnotFound.2 ⟨hvalid, hmissing⟩
  | unstorable _ hfault hname =>
    refine ⟨fun _ hfail => (by rw [hfault] at hfail; cases hfail), fun hmissing => ?_⟩
    cases hnotFound.2 ⟨hvalid, hmissing⟩
  | unknown _ hfault hpartner hname =>
    exact ⟨fun hexists => absurd hexists hpartner, fun _ => .inr ⟨hfault, hname⟩⟩
  | replaced _ hfault hpartner =>
    have hexists := (hok _ rfl).1
    exact ⟨fun _ hfail => (by rw [hfault] at hfail; cases hfail), fun hmissing => absurd hexists hmissing⟩

end ModelCall

/-- A call replaces the list exactly, and names what stops it, exactly where a valid list is not met by a
missing partner that its first row does not show. -/
theorem replace_models_exact_iff (call : ModelCall) (db : Database) :
    call.Exact db ↔ (ValidModels call.models → call.Distinguishable db) :=
  ⟨ModelCall.distinguishable_of_exact, ModelCall.exact_of_distinguishable⟩

namespace Sample

/-- An empty list, for a consumer nobody has opened an account for. -/
def emptyList : ModelCall where
  fault := {}
  now := keyClock
  consumerId := "nobody"
  models := []

end Sample

/-- An empty list for a partner that does not exist is accepted. -/
theorem empty_list_accepted : ¬∀ (call : ModelCall) (db : Database), call.Exact db := by
  intro hall
  have hexists := ((hall Sample.emptyList Sample.keyDatabase).ok _ rfl).1
  cases hexists

end PartnerPortal
