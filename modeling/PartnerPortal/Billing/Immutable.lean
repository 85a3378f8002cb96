import PartnerPortal.Billing.Operations
import PartnerPortal.Billing.Statements
import PartnerPortal.Lib.Tables

/-!
# Statements do not change

A statement and its lines are inserted together, and after that only the columns of the payment and
of the email are written, the payment and the sending once each.

Results:
- `insertStatement_lines` — the lines of an insert and what they add up to;
- `StatementWrite.advances` — what any write keeps of the statements there are;
- `BillingOp.run_error` — an operation that is refused leaves every statement and line;
- `statements_immutable` — all of it, over any sequence of operations.
-/

namespace PartnerPortal

open MachineInt

/-! ## What is kept -/

/-- A statement without the columns that payments and emails write. -/
def Statement.issued (s : Statement) : Statement :=
  { s with
    paidAt := none
    paidBy := none
    paymentReference := none
    paymentNote := none
    emailSentAt := none
    emailAttempts := 0
    emailLastError := none
    emailNextRetryAt := none
    emailClaimInstance := none
    emailClaimedUntil := none
    updatedAt := s.createdAt }

/-- The columns of a payment. -/
def Statement.payment (s : Statement) :
    Option String × Option String × Option String × Option String :=
  (s.paidAt, s.paidBy, s.paymentReference, s.paymentNote)

/-- The same statement later. -/
structure Statement.Succeeds (s s' : Statement) : Prop where
  issued : s'.issued = s.issued
  payment : s.paidAt.isSome → s'.payment = s.payment
  emailSentAt : s.emailSentAt.isSome → s'.emailSentAt = s.emailSentAt

/-- What holds of a statement by itself. -/
structure Statement.Valid (s : Statement) : Prop where
  reconciliation : s.billingMode = .reconciliation → s.dueAt = none ∧ s.paidAt = none
  unpaid : s.paidAt = none → s.payment = (none, none, none, none)

/-- The lines of one statement. -/
def Store.linesOf (store : Store) (statementId : Nat) : List StatementLine :=
  store.lines.filter fun line => line.statementId = statementId

/-- What some lines add up to. -/
def linesTotal (lines : List StatementLine) : Int :=
  (lines.map fun line => line.totalCost.value).sum

/-- What holds of statements and lines between operations. -/
structure Store.Settled (store : Store) : Prop where
  days : Tables.Indexed (fun _ => true) (fun s : Statement => (s.consumerId, s.billingDate))
    store.statements
  ids : Tables.Indexed (fun _ => true) Statement.id store.statements
  numbered : ∀ s ∈ store.statements, s.id < store.nextStatementId
  owned : ∀ line ∈ store.lines, line.statementId < store.nextStatementId
  valid : ∀ s ∈ store.statements, s.Valid
  totals : ∀ s ∈ store.statements, s.totalAmountMicroUsd.value = linesTotal (store.linesOf s.id)

/-- A later state of the tables. -/
structure Store.Advances (store written : Store) : Prop where
  settled : written.Settled
  statements : Tables.Kept Statement.Succeeds store.statements written.statements
  lines : ∀ s ∈ store.statements, written.linesOf s.id = store.linesOf s.id

namespace Statement

theorem Succeeds.refl (s : Statement) : s.Succeeds s := ⟨rfl, fun _ => rfl, fun _ => rfl⟩

section Columns

variable {s s' : Statement} (h : s.Succeeds s')

include h

theorem Succeeds.id_eq : s'.id = s.id :=
  show s'.issued.id = s.issued.id by rw [h.issued]

theorem Succeeds.day_eq : (s'.consumerId, s'.billingDate) = (s.consumerId, s.billingDate) :=
  show (s'.issued.consumerId, s'.issued.billingDate) =
    (s.issued.consumerId, s.issued.billingDate) by rw [h.issued]

theorem Succeeds.total_eq : s'.totalAmountMicroUsd = s.totalAmountMicroUsd :=
  show s'.issued.totalAmountMicroUsd = s.issued.totalAmountMicroUsd by rw [h.issued]

end Columns

theorem Succeeds.trans (s s' s'' : Statement) (h : s.Succeeds s') (h' : s'.Succeeds s'') :
    s.Succeeds s'' where
  issued := h'.issued.trans h.issued
  payment hpaid := by
    have hpayment := h.payment hpaid
    have hpaid' : s'.paidAt.isSome := by
      rw [show s'.paidAt = s.paidAt from congrArg Prod.fst hpayment]
      exact hpaid
    exact (h'.payment hpaid').trans hpayment
  emailSentAt hsent := by
    have hsame := h.emailSentAt hsent
    exact (h'.emailSentAt (hsame ▸ hsent)).trans hsame

/-- The payment of a payable statement. -/
theorem pay_succeeds {s : Statement} {id : Int} (h : s.payable id = true)
    (now paidBy : String) (reference note : Option String) :
    s.Succeeds (s.pay now paidBy reference note) := by
  have hunpaid : s.paidAt = none := by
    simpa using (Bool.and_eq_true_iff.1 h).2
  refine ⟨rfl, fun hpaid => ?_, fun _ => rfl⟩
  rw [hunpaid] at hpaid
  cases hpaid

theorem pay_valid {s : Statement} {id : Int} (h : s.payable id = true)
    (now paidBy : String) (reference note : Option String) :
    (s.pay now paidBy reference note).Valid := by
  have hinvoice : s.billingMode = .invoice := by
    simpa using (Bool.and_eq_true_iff.1 (Bool.and_eq_true_iff.1 h).1).2
  refine ⟨fun hmode => ?_, fun hpaid => nomatch hpaid⟩
  cases hinvoice.symm.trans hmode

/-- The email bookkeeping writes neither the statement nor its payment. -/
theorem email_succeeds {change : Statement → Statement} (h : EmailChange change) (s : Statement) :
    s.Succeeds (change s) := by
  cases h with
  | sent now =>
    refine ⟨rfl, fun _ => rfl, fun hsent => ?_⟩
    obtain ⟨at', hat⟩ := Option.isSome_iff_exists.1 hsent
    simp [recordSent, hat]
  | failed | claim => exact ⟨rfl, fun _ => rfl, fun _ => rfl⟩

theorem email_valid {change : Statement → Statement} (h : EmailChange change) {s : Statement}
    (hs : s.Valid) : (change s).Valid := by
  cases h <;> exact ⟨hs.reconciliation, hs.unpaid⟩

end Statement

/-! ## Updates -/

section Updates

variable {store written : Store}

theorem Store.Advances.refl (h : store.Settled) : store.Advances store :=
  ⟨h, Tables.Kept.refl Statement.Succeeds.refl _, fun _ _ => rfl⟩

theorem Store.Advances.trans {reached : Store} (h : store.Advances written)
    (h' : written.Advances reached) : store.Advances reached where
  settled := h'.settled
  statements := h.statements.trans Statement.Succeeds.trans h'.statements
  lines s hs := by
    obtain ⟨s', hs', hsucceeds⟩ := h.statements s hs
    have hid : s'.id = s.id := hsucceeds.id_eq
    rw [← h.lines s hs, ← hid]
    exact h'.lines s' hs'

/-- Tables with the same statements and lines. -/
theorem Store.Advances.same (h : store.Settled) (hsame : SameStatements store written) :
    store.Advances written := by
  obtain ⟨hstatements, hlines, hnext⟩ := hsame
  have hof : ∀ id, written.linesOf id = store.linesOf id := fun id => by
    rw [Store.linesOf, hlines, Store.linesOf]
  refine ⟨⟨?_, ?_, ?_, ?_, ?_, ?_⟩, ?_, fun s _ => hof s.id⟩
  · exact hstatements ▸ h.days
  · exact hstatements ▸ h.ids
  · rw [hstatements, hnext]
    exact h.numbered
  · rw [hlines, hnext]
    exact h.owned
  · exact hstatements ▸ h.valid
  · rw [hstatements]
    intro s hs
    rw [hof, h.totals s hs]
  · rw [hstatements]
    exact Tables.Kept.refl Statement.Succeeds.refl _

/-- An update of rows that leaves each the same statement. -/
theorem Store.Advances.update (h : store.Settled) {change : Statement → Statement}
    (hsucceeds : ∀ s ∈ store.statements, s.Succeeds (change s))
    (hvalid : ∀ s ∈ store.statements, (change s).Valid)
    (hstatements : written.statements = store.statements.map change)
    (hlines : written.lines = store.lines)
    (hnext : written.nextStatementId = store.nextStatementId) : store.Advances written := by
  have hof : ∀ id, written.linesOf id = store.linesOf id := fun id => by
    rw [Store.linesOf, hlines, Store.linesOf]
  have hrow : ∀ s' ∈ written.statements, ∃ s ∈ store.statements, change s = s' := by
    rw [hstatements]
    exact fun s' hs' => List.mem_map.1 hs'
  refine ⟨⟨?_, ?_, ?_, ?_, ?_, ?_⟩, ?_, fun s _ => hof s.id⟩
  · rw [hstatements]
    exact h.days.update fun s hs _ => ⟨rfl, (hsucceeds s hs).day_eq⟩
  · rw [hstatements]
    exact h.ids.update fun s hs _ => ⟨rfl, (hsucceeds s hs).id_eq⟩
  · intro s' hs'
    obtain ⟨s, hs, rfl⟩ := hrow s' hs'
    rw [(hsucceeds s hs).id_eq, hnext]
    exact h.numbered s hs
  · rw [hlines, hnext]
    exact h.owned
  · intro s' hs'
    obtain ⟨s, hs, rfl⟩ := hrow s' hs'
    exact hvalid s hs
  · intro s' hs'
    obtain ⟨s, hs, rfl⟩ := hrow s' hs'
    rw [(hsucceeds s hs).total_eq, (hsucceeds s hs).id_eq, hof, h.totals s hs]
  · rw [hstatements]
    exact Tables.Kept.update hsucceeds

/-- An update of the selected rows. -/
theorem Store.Advances.updateStatements (h : store.Settled) {selects : Statement → Bool}
    {change : Statement → Statement}
    (hsucceeds : ∀ s ∈ store.statements, selects s = true → s.Succeeds (change s))
    (hvalid : ∀ s ∈ store.statements, selects s = true → (change s).Valid) :
    store.Advances (store.updateStatements selects change) := by
  refine @Store.Advances.update store _ h (fun s => if selects s then change s else s)
    (fun s hs => ?_) (fun s hs => ?_) rfl rfl rfl
  · split
    · exact hsucceeds s hs ‹_›
    · exact Statement.Succeeds.refl s
  · split
    · exact hvalid s hs ‹_›
    · exact h.valid s hs

/-- A payment. -/
theorem Store.Advances.pay (h : store.Settled) (id : Int) (now paidBy : String)
    (reference note : Option String) :
    store.Advances (store.updateStatements (Statement.payable id)
      (Statement.pay now paidBy reference note)) :=
  .updateStatements h
    (fun _ _ hpayable => Statement.pay_succeeds hpayable now paidBy reference note)
    fun _ _ hpayable => Statement.pay_valid hpayable now paidBy reference note

end Updates

/-! ## The insert of a statement -/

section Insert

variable {store written : Store} {draft : StatementDraft} {total : MicroUsd}
  {dueAt : Option String} {now : String}

/-- The lines of an insert are the draft's, with the totals the draft has. -/
theorem insertLines_totals {statementId : Nat} {lines : List StatementLineDraft}
    (h : lines.foldlM (insertLine statementId) store = .ok written) :
    ∃ new, written.lines = store.lines ++ new ∧ (∀ line ∈ new, line.statementId = statementId) ∧
      linesTotal new = (lines.map fun line => line.cost.total.value).sum := by
  induction lines generalizing store with
  | nil =>
    cases h
    exact ⟨[], by simp, by simp, rfl⟩
  | cons line lines ih =>
    rw [List.foldlM_cons] at h
    obtain ⟨next, hnext, h⟩ := Result.bind_ok_iff.1 h
    have hline := insertLine_ok hnext
    obtain ⟨new, hnew, hids, htotal⟩ := ih h
    subst hline
    refine ⟨lineOf store.nextLineId statementId line :: new, ?_, ?_, ?_⟩
    · rw [hnew]
      simp
    · exact List.forall_mem_cons.2 ⟨rfl, hids⟩
    · rw [linesTotal, List.map_cons, List.sum_cons, List.map_cons, List.sum_cons, ← htotal]
      rfl

/-- An insert of a reconciliation statement has no due date. -/
theorem insertStatement_due {inserted : Bool}
    (h : insertStatement store draft total dueAt now = .ok (written, inserted))
    (hmode : draft.billingMode = .reconciliation) : dueAt = none := by
  unfold insertStatement at h
  split at h
  · cases h
  · rename_i hcheck
    rw [hmode] at hcheck
    simpa [BillingMode.owesPayment] using hcheck

/-- The lines of a statement that was inserted add up to its amount. -/
theorem insertStatement_lines (htotal : draft.total = .ok total)
    (h : insertStatement store draft total dueAt now = .ok (written, true)) :
    ∃ new, written.lines = store.lines ++ new ∧
      (∀ line ∈ new, line.statementId = store.nextStatementId) ∧
      linesTotal new = total.value := by
  unfold insertStatement at h
  split at h
  · cases h
  · split at h
    · cases h
    · split at h
      · cases h
      · obtain ⟨next, hnext, h⟩ := Result.bind_ok_iff.1 h
        cases h
        obtain ⟨new, hnew, hids, hsum⟩ := insertLines_totals hnext
        exact ⟨new, hnew, hids, hsum.trans ((draft.total_ok_iff total).1 htotal).symm⟩

/-- A new statement leaves those there are, and comes with its lines. -/
theorem Store.Advances.stated (hstore : store.Settled) (htotal : draft.total = .ok total)
    (h : insertStatement store draft total dueAt now = .ok (written, true)) :
    store.Advances written := by
  obtain ⟨new, hnew, hids, hsum⟩ := insertStatement_lines htotal h
  have hdue := insertStatement_due h
  rcases insertStatement_ok h with ⟨hfalse, -, -⟩ | ⟨-, hopen, hadded⟩
  · cases hfalse
  · have hfresh : ∀ s ∈ store.statements, written.linesOf s.id = store.linesOf s.id := by
      intro s hs
      have hother : new.filter (fun line => line.statementId = s.id) = [] :=
        List.filter_eq_nil_iff.2 fun line hline => by
          have := hstore.numbered s hs
          simp only [hids line hline, decide_eq_true_eq]
          omega
      rw [Store.linesOf, hnew, List.filter_append, hother, List.append_nil, Store.linesOf]
    have hown : written.linesOf store.nextStatementId = new := by
      have hold : store.lines.filter (fun line => line.statementId = store.nextStatementId) = [] :=
        List.filter_eq_nil_iff.2 fun line hline => by
          have := hstore.owned line hline
          simp only [decide_eq_true_eq]
          omega
      have hall : new.filter (fun line => line.statementId = store.nextStatementId) = new :=
        List.filter_eq_self.2 fun line hline => decide_eq_true (hids line hline)
      rw [Store.linesOf, hnew, List.filter_append, hold, hall, List.nil_append]
    have hcases : ∀ {P : Statement → Prop}, (∀ s ∈ store.statements, P s) →
        P (statementOf store.nextStatementId draft total dueAt now) →
        ∀ s ∈ written.statements, P s := by
      intro P hall hrow s hs
      rw [hadded.statements] at hs
      rcases List.mem_append.1 hs with hs | hs
      · exact hall s hs
      · rw [List.mem_singleton.1 hs]
        exact hrow
    refine ⟨⟨?_, ?_, ?_, ?_, ?_, ?_⟩, ?_, hfresh⟩
    · rw [hadded.statements]
      refine hstore.days.insert fun _ s hs _ heq => hopen ?_
      obtain ⟨hconsumer, hdate⟩ := Prod.mk.inj heq
      exact getStatement_isSome_iff.2 ⟨s, hs, hconsumer, hdate⟩
    · rw [hadded.statements]
      exact hstore.ids.insert fun _ s hs _ heq => (hstore.numbered s hs).ne heq
    · rw [hadded.nextStatementId]
      exact hcases (fun s hs => Nat.lt_succ_of_lt (hstore.numbered s hs)) (Nat.lt_succ_self _)
    · rw [hadded.nextStatementId, hnew]
      intro line hline
      rcases List.mem_append.1 hline with hline | hline
      · exact Nat.lt_succ_of_lt (hstore.owned line hline)
      · rw [hids line hline]
        exact Nat.lt_succ_self _
    · exact hcases hstore.valid ⟨fun hmode => ⟨hdue hmode, rfl⟩, fun _ => rfl⟩
    · refine hcases (fun s hs => ?_) ?_
      · rw [hfresh s hs, hstore.totals s hs]
      · show total.value = linesTotal (written.linesOf store.nextStatementId)
        rw [hown, hsum]
    · rw [hadded.statements]
      exact Tables.Kept.insert Statement.Succeeds.refl _ _

end Insert

/-! ## Any operation -/

/-- Any write leaves the statements there are. -/
theorem StatementWrite.advances {store written : Store} (h : StatementWrite store written)
    (hstore : store.Settled) : store.Advances written := by
  cases h with
  | same h => exact .same hstore h
  | paid id now paidBy reference note h => exact h ▸ .pay hstore id now paidBy reference note
  | emailed selects hchange h =>
    subst h
    exact .updateStatements hstore (fun s _ _ => Statement.email_succeeds hchange s)
      fun s hs _ => Statement.email_valid hchange (hstore.valid s hs)
  | stated draft total dueAt now htotal h => exact .stated hstore htotal h

theorem BillingOp.after_advances {iso : Iso8601} {books : Books} (op : BillingOp)
    (h : books.database.billing.Settled) :
    books.database.billing.Advances (op.after iso books).database.billing := by
  unfold BillingOp.after
  split
  · rename_i hrun
    exact (BillingOp.run_writes hrun).advances h
  · exact .refl h

/-- Any operations leave the statements there are. -/
theorem runOps_advances {iso : Iso8601} {books : Books} (ops : List BillingOp)
    (h : books.database.billing.Settled) :
    books.database.billing.Advances (runOps iso books ops).database.billing := by
  induction ops generalizing books with
  | nil => exact .refl h
  | cons op ops ih =>
    have hop := @BillingOp.after_advances iso _ op h
    exact hop.trans (ih hop.settled)

/-! ## Refusals -/

section Refusals

variable {store : Store}

/-- An update that selects no row. -/
theorem Store.updateStatements_none {selects : Statement → Bool}
    {change : Statement → Statement} (h : ∀ s ∈ store.statements, selects s = false) :
    store.updateStatements selects change = store := by
  have hmap : (store.statements.map fun s => if selects s then change s else s) =
      store.statements := by
    conv_rhs => rw [← List.map_id store.statements]
    exact List.map_congr_left fun s hs => by simp [h s hs]
  rw [Store.updateStatements, hmap]

/-- The payable row of a payment is read back as paid. -/
theorem readPaid_pay (hstore : store.Settled) {fault : CallFault} (hread : fault.readBack = none)
    {id : Int} (now paidBy : String) (reference note : Option String) {s : Statement}
    (hs : s ∈ store.statements) (hpayable : s.payable id = true) :
    readPaid fault id (store.updateStatements (Statement.payable id)
      (Statement.pay now paidBy reference note)) = .ok (s.pay now paidBy reference note) := by
  have hid : (s.id : Int) = id := by
    simpa using (Bool.and_eq_true_iff.1 (Bool.and_eq_true_iff.1 hpayable).1).1
  have hrow : s.pay now paidBy reference note ∈ (store.updateStatements (Statement.payable id)
      (Statement.pay now paidBy reference note)).statements :=
    List.mem_map.2 ⟨s, hs, if_pos hpayable⟩
  have hids := (Store.Advances.pay hstore id now paidBy reference note).settled.ids
  have hfind := Tables.find?_key (Tables.indexed_all_iff.1 hids) hrow
  have hstatement : statementById (store.updateStatements (Statement.payable id)
      (Statement.pay now paidBy reference note)) id =
        some (s.pay now paidBy reference note) := by
    rw [statementById, ← hfind]
    congr 1
    funext s'
    rw [← hid]
    exact decide_eq_decide.2 Int.ofNat_inj
  simp only [readPaid, hread, hstatement]
  rfl

/-- A payment that is refused was recorded on no row. -/
theorem markPaid_error (hstore : store.Settled) {fault : CallFault} (hread : fault.readBack = none)
    {now : Instant} {id : Int} {paidBy : String} {reference note : Option String}
    {e : BillingError} (h : (markPaid fault now id paidBy reference note store).2 = .error e) :
    (markPaid fault now id paidBy reference note store).1 = store := by
  rcases markPaid_eq fault now id paidBy reference note store with
    ⟨e', heq⟩ | ⟨written, rfl, heq⟩
  · rw [heq]
  · rw [heq] at h ⊢
    refine Store.updateStatements_none fun s hs => Bool.eq_false_iff.2 fun hpayable => ?_
    cases (readPaid_pay hstore hread _ paidBy reference note hs hpayable).symm.trans h

theorem billingAnswer_error {α : Type} {result : Except BillingError α} {e : OperationError}
    (h : billingAnswer result = .error e) : ∃ e', result = .error e' := by
  cases result with
  | ok => cases h
  | error e' => exact ⟨e', rfl⟩

end Refusals

theorem Books.withBilling_same {books : Books} {written : Store}
    (h : SameStatements books.database.billing written) :
    (books.withBilling written).database.billing.statements = books.database.billing.statements ∧
      (books.withBilling written).database.billing.lines = books.database.billing.lines :=
  ⟨h.statements, h.lines⟩

theorem Books.withDatabase_same {books : Books} {written : Database}
    (h : SameStatements books.database.billing written.billing) :
    ({ books with database := written } : Books).database.billing.statements =
        books.database.billing.statements ∧
      ({ books with database := written } : Books).database.billing.lines =
        books.database.billing.lines :=
  ⟨h.statements, h.lines⟩

/-- An operation that is refused, by its own transaction and not by a read after it, leaves every
statement and line. -/
theorem BillingOp.run_error {iso : Iso8601} {books written : Books} {op : BillingOp}
    (hbooks : books.database.billing.Settled) (hread : op.readBack = none) {e : OperationError}
    (h : op.run iso books = .ok (written, .error e)) :
    written.database.billing.statements = books.database.billing.statements ∧
      written.database.billing.lines = books.database.billing.lines := by
  cases op with
  | writeStatement fault now draft =>
    obtain ⟨⟨store, result⟩, hwrite, h⟩ := Result.bind_ok_iff.1 h
    obtain ⟨rfl, hanswer⟩ := Prod.mk.inj (Except.ok.inj h)
    obtain ⟨e', rfl⟩ := billingAnswer_error hanswer
    rw [writeStatement_error hread hwrite]
    exact ⟨rfl, rfl⟩
  | markPaid fault now id paidBy reference note =>
    simp only [BillingOp.run, Except.ok.injEq, Prod.mk.injEq] at h
    obtain ⟨rfl, hanswer⟩ := h
    obtain ⟨e', he'⟩ := billingAnswer_error hanswer
    rw [Books.withBilling, markPaid_error hbooks hread he']
    exact ⟨rfl, rfl⟩
  | claimEmails fault now instanceId limit claimTtlMinutes =>
    obtain ⟨⟨store, result⟩, hclaim, h⟩ := Result.bind_ok_iff.1 h
    obtain ⟨rfl, hanswer⟩ := Prod.mk.inj (Except.ok.inj h)
    obtain ⟨e', rfl⟩ := billingAnswer_error hanswer
    obtain ⟨ttl, -, hclaim⟩ := Result.bind_ok_iff.1 hclaim
    obtain ⟨lapses, -, hclaim⟩ := Result.bind_ok_iff.1 hclaim
    obtain ⟨claimUntil, -, hclaim⟩ := Result.bind_ok_iff.1 hclaim
    split at hclaim <;> cases hclaim
    exact ⟨rfl, rfl⟩
  | recordEmailAttempt fault now id outcome =>
    obtain ⟨⟨store, result⟩, hrecord, h⟩ := Result.bind_ok_iff.1 h
    obtain ⟨rfl, hanswer⟩ := Prod.mk.inj (Except.ok.inj h)
    obtain ⟨e', rfl⟩ := billingAnswer_error hanswer
    obtain ⟨change, -, hrecord⟩ := Result.bind_ok_iff.1 hrecord
    split at hrecord <;> cases hrecord
    exact ⟨rfl, rfl⟩
  | createPartner fault now new =>
    simp only [BillingOp.run, Except.ok.injEq, Prod.mk.injEq] at h
    obtain ⟨rfl, -⟩ := h
    exact Books.withBilling_same (createPartner_same fault now new books.database.billing)
  | updatePartner fault now consumerId patch =>
    simp only [BillingOp.run, Except.ok.injEq, Prod.mk.injEq] at h
    obtain ⟨rfl, -⟩ := h
    exact Books.withBilling_same (updatePartner_same fault now consumerId patch books.database.billing)
  | deletePartner fault consumerId =>
    simp only [BillingOp.run, Except.ok.injEq, Prod.mk.injEq] at h
    obtain ⟨rfl, -⟩ := h
    exact Books.withDatabase_same (deletePartner_same fault consumerId books.database)
  | replaceModels fault now consumerId models =>
    simp only [BillingOp.run, Except.ok.injEq, Prod.mk.injEq] at h
    obtain ⟨rfl, -⟩ := h
    exact Books.withDatabase_same (replaceModels_same fault now consumerId models books.database)
  | flush instanceId faults batch =>
    simp only [BillingOp.run, Except.ok.injEq, Prod.mk.injEq] at h
    obtain ⟨rfl, -⟩ := h
    exact ⟨rfl, rfl⟩
  | recover fault ctx =>
    simp only [BillingOp.run, Except.ok.injEq, Prod.mk.injEq] at h
    obtain ⟨rfl, -⟩ := h
    exact ⟨rfl, rfl⟩
  | runRetention fault now retentionDays batchSize maxBatches =>
    obtain ⟨⟨ledger, result⟩, -, h⟩ := Result.bind_ok_iff.1 h
    obtain ⟨rfl, -⟩ := Prod.mk.inj (Except.ok.inj h)
    exact ⟨rfl, rfl⟩

/-- Books no statement was written in yet. -/
def Books.unbilled (books : Books) : Books :=
  books.withBilling { books.database.billing with
    statements := []
    lines := [] }

theorem Books.unbilled_settled (books : Books) : books.unbilled.database.billing.Settled where
  days := Tables.Indexed.nil
  ids := Tables.Indexed.nil
  numbered _ hs := absurd hs List.not_mem_nil
  owned _ hline := absurd hline List.not_mem_nil
  valid _ hs := absurd hs List.not_mem_nil
  totals _ hs := absurd hs List.not_mem_nil

/-- Once a day is stated, no write for it changes anything. -/
theorem writeStatement_stated {fault : WriteFault} {now : Instant} {draft : StatementDraft}
    {store written : Store} {result : Except BillingError StatementOutcome}
    (hstated : ∃ s ∈ store.statements, s.consumerId = draft.consumerId ∧
      s.billingDate = draft.billingDate.toText)
    (h : writeStatement fault now draft store = .ok (written, result)) : written = store := by
  rcases writeStatement_cases h with heq | hwrote
  · exact heq
  · exact absurd (getStatement_isSome_iff.2 hstated) hwrote.wasOpen

/-- From books without statements on, whatever the operations: one statement per partner and day,
which a second write for the day leaves alone with all lines; every statement keeps, through any
later operations, the columns it was issued with and its lines, and its payment and the time of its
email from the moment they are set; a reconciliation statement has neither a due date nor a
payment; the amount is the sum of the lines; and an operation that its own transaction refuses
leaves every statement and line. -/
theorem statements_immutable (iso : Iso8601) (books : Books) (ops later : List BillingOp) :
    let reached := runOps iso books.unbilled ops
    let store := reached.database.billing
    let after := (runOps iso reached later).database.billing
    (∀ consumerId billingDate, (store.statements.filter fun s =>
      s.consumerId = consumerId && s.billingDate = billingDate).length ≤ 1) ∧
    (∀ fault now draft written result, (∃ s ∈ store.statements,
        s.consumerId = draft.consumerId ∧ s.billingDate = draft.billingDate.toText) →
      writeStatement fault now draft store = .ok (written, result) → written = store) ∧
    (∀ s ∈ store.statements, ∃ s' ∈ after.statements, s.Succeeds s' ∧
      after.linesOf s'.id = store.linesOf s.id) ∧
    (∀ s ∈ store.statements, s.Valid) ∧
    (∀ s ∈ store.statements, s.totalAmountMicroUsd.value = linesTotal (store.linesOf s.id)) ∧
    ∀ (op : BillingOp) (written : Books) (e : OperationError), op.readBack = none →
      op.run iso reached = .ok (written, .error e) →
        written.database.billing.statements = store.statements ∧
          written.database.billing.lines = store.lines := by
  intro reached store after
  have hsettled : store.Settled := (runOps_advances ops books.unbilled_settled).settled
  have hafter : store.Advances after := runOps_advances later hsettled
  refine ⟨fun consumerId billingDate => ?_, fun _ _ _ _ _ hstated h =>
      writeStatement_stated hstated h, fun s hs => ?_, hsettled.valid, hsettled.totals,
    fun op written e hread h => BillingOp.run_error hsettled hread h⟩
  · have hone := hsettled.days.length_le_one (consumerId, billingDate)
    simpa [Prod.mk.injEq, Bool.decide_and] using hone
  · obtain ⟨s', hs', hsucceeds⟩ := hafter.statements s hs
    exact ⟨s', hs', hsucceeds, hsucceeds.id_eq ▸ hafter.lines s hs⟩

end PartnerPortal
