import PartnerPortal.Billing.Reads
import PartnerPortal.Dashboard.Paging

/-!
# Tenancy

What a partner key is answered depends on its own rows only.  A line belongs to the consumer of its
statement.

Results:
- `selectRows_own` — a scoped statement selects from the rows of its consumer;
- `own_joinedLines` — the joined lines of a consumer come from its own lines and statements;
- `consumer_isolation` — two databases that agree on a consumer's rows answer its key alike, and the id of
  another consumer's statement is one that does not exist.
-/

namespace PartnerPortal.Dashboard

open Prepared

/-- The rows of one consumer. -/
def own {ρ : Type} (column : ρ → String) (consumerId : String) (rows : List ρ) : List ρ :=
  rows.filter fun row => column row = consumerId

/-- The lines of a consumer's statements. -/
def ownLines (consumerId : String) (store : Store) : List StatementLine :=
  store.lines.filter fun line =>
    store.statements.any fun s => s.id = line.statementId && s.consumerId = consumerId

/-- What the handlers read.  The ledger's rows are those of the store. -/
structure Portal where
  store : Store
  hourly : List Bucket
  cursorKey : Bytes

/-- Two databases with the same cursor key and the same rows of one consumer. -/
structure Portal.AgreesFor (consumerId : String) (db db' : Portal) : Prop where
  cursorKey : db.cursorKey = db'.cursorKey
  usage : own UsageRow.consumerId consumerId db.store.usage =
    own UsageRow.consumerId consumerId db'.store.usage
  hourly : own (fun bucket => bucket.key.consumerId) consumerId db.hourly =
    own (fun bucket => bucket.key.consumerId) consumerId db'.hourly
  partners : own Partner.consumerId consumerId db.store.partners =
    own Partner.consumerId consumerId db'.store.partners
  statements : own Statement.consumerId consumerId db.store.statements =
    own Statement.consumerId consumerId db'.store.statements
  lines : ownLines consumerId db.store = ownLines consumerId db'.store

/-! ## Statements in the scope of one consumer -/

section Scoped

variable {ρ : Type} {column : ρ → String} {consumerId : String} {parts : List (BoundCond ρ)}
  {table table' : List ρ}

theorem boundCond_one (column : ρ → String) (consumerId : String) (rows : List ρ) :
    rows.filter ((Scope.one consumerId).boundCond column).selects = own column consumerId rows := by
  apply List.filter_congr
  exact fun row _ => Scope.boundCond_selects column (.one consumerId) row

theorem query_own (hpart : (Scope.one consumerId).boundCond column ∈ parts)
    (hagree : own column consumerId table = own column consumerId table') (trailing : List Value) :
    query (parts.map BoundCond.cond) trailing.length (parts.flatMap BoundCond.values ++ trailing)
        table =
      query (parts.map BoundCond.cond) trailing.length (parts.flatMap BoundCond.values ++ trailing)
        table' := by
  refine query_agree hpart ?_ trailing
  rw [boundCond_one, boundCond_one, hagree]

/-- A scoped statement selects from the rows of its consumer. -/
theorem selectRows_own (hpart : (Scope.one consumerId).boundCond column ∈ parts)
    (hagree : own column consumerId table = own column consumerId table') :
    selectRows (parts.map BoundCond.cond) (parts.flatMap BoundCond.values) table =
      selectRows (parts.map BoundCond.cond) (parts.flatMap BoundCond.values) table' := by
  have hquery := query_own hpart hagree []
  rw [List.append_nil, List.length_nil] at hquery
  exact selectRows_congr hquery

end Scoped

/-! ## The rollup and the ledger -/

section Ledger

variable {consumerId : String} {window : TimeWindow} {model status : Option String}

theorem rollup_own {hourly hourly' : List Bucket}
    (h : own (fun bucket => bucket.key.consumerId) consumerId hourly =
      own (fun bucket => bucket.key.consumerId) consumerId hourly') :
    selectRows (RollupFilter.mk (.one consumerId) window model).conds
        (RollupFilter.mk (.one consumerId) window model).params hourly =
      selectRows (RollupFilter.mk (.one consumerId) window model).conds
        (RollupFilter.mk (.one consumerId) window model).params hourly' := by
  have hrows := @selectRows_own _ _ _ (RollupFilter.mk (.one consumerId) window model).bound _ _
    List.mem_cons_self h
  rwa [bucket_conds, bucket_values] at hrows

theorem records_own {records records' : List UsageRow}
    (h : own UsageRow.consumerId consumerId records = own UsageRow.consumerId consumerId records') :
    selectRows (RollupFilter.mk (.one consumerId) window model).recordConds
        (RollupFilter.mk (.one consumerId) window model).recordParams records =
      selectRows (RollupFilter.mk (.one consumerId) window model).recordConds
        (RollupFilter.mk (.one consumerId) window model).recordParams records' :=
  @selectRows_own _ _ _ (recordBound ⟨.one consumerId, window, model⟩) _ _ List.mem_cons_self h

theorem models_own {hourly hourly' : List Bucket}
    (h : own (fun bucket => bucket.key.consumerId) consumerId hourly =
      own (fun bucket => bucket.key.consumerId) consumerId hourly') :
    selectRows (modelConds (.one consumerId))
        ((Scope.one consumerId).params ++ [.text window.startHour, .text window.endHour]) hourly =
      selectRows (modelConds (.one consumerId))
        ((Scope.one consumerId).params ++ [.text window.startHour, .text window.endHour]) hourly' :=
  @selectRows_own _ _ _
    [(Scope.one consumerId).boundCond fun bucket : Bucket => bucket.key.consumerId,
      .compare (fun bucket => .text bucket.key.hour) Value.atLeast (.text window.startHour),
      .compare (fun bucket => .text bucket.key.hour) Value.atMost (.text window.endHour)]
    _ _ List.mem_cons_self h

theorem requestsPage_own {records records' : List UsageRow}
    (h : own UsageRow.consumerId consumerId records = own UsageRow.consumerId consumerId records')
    (sha256 : Bytes → Bytes) (key : Bytes) (cursor : Option (String × Int)) (limit : Nat) :
    requestsPage sha256 key ⟨.one consumerId, window, model, status⟩ cursor limit records =
      requestsPage sha256 key ⟨.one consumerId, window, model, status⟩ cursor limit records' := by
  have hquery := @query_own _ _ _
    (RequestFilter.bound ⟨.one consumerId, window, model, status⟩ ++ boundCursor cursor) _ _
    List.mem_cons_self h [.integer (limit + 1)]
  rw [bound_conds, bound_values, List.length_singleton] at hquery
  rw [requestsPage, requestsPage, hquery]

end Ledger

/-! ## Statements, lines and partners -/

section Statements

variable {consumerId : String} {store store' : Store}

/-- The conditions of a read of one statement, with their values. -/
def byIdBound (consumerId : String) (id : Int) : List (BoundCond Statement) :=
  [.compare (fun s => .integer s.id) Value.equals (.integer id),
    (Scope.one consumerId).boundCond Statement.consumerId]

theorem getStatementById_own
    (h : own Statement.consumerId consumerId store.statements =
      own Statement.consumerId consumerId store'.statements) (id : Int) :
    getStatementById store id (.one consumerId) = getStatementById store' id (.one consumerId) := by
  have hrows := @selectRows_own _ _ _ (byIdBound consumerId id) _ _
    (List.mem_cons_of_mem _ List.mem_cons_self) h
  exact congrArg (fun rows => rows >>= fun rows => pure rows.head?) hrows

/-- The conditions of a read of unpaid statements. -/
def unpaidBound : List (BoundCond Statement) :=
  [.test fun s => some s.paidAt.isNone, .test fun s => some (s.billingMode = .invoice)]

theorem listStatements_own
    (h : own Statement.consumerId consumerId store.statements =
      own Statement.consumerId consumerId store'.statements) (limit offset : Int) (onlyUnpaid : Bool) :
    listStatements store (.one consumerId) limit offset onlyUnpaid =
      listStatements store' (.one consumerId) limit offset onlyUnpaid := by
  have hquery : query (scopedStatement (.one consumerId) :: if onlyUnpaid then unpaidConds else []) 2
        ((Scope.one consumerId).params ++ [.integer limit, .integer offset]) store.statements =
      query (scopedStatement (.one consumerId) :: if onlyUnpaid then unpaidConds else []) 2
        ((Scope.one consumerId).params ++ [.integer limit, .integer offset]) store'.statements := by
    cases onlyUnpaid with
    | false =>
      exact @query_own _ _ _ [(Scope.one consumerId).boundCond Statement.consumerId] _ _
        List.mem_cons_self h [.integer limit, .integer offset]
    | true =>
      exact @query_own _ _ _ ((Scope.one consumerId).boundCond Statement.consumerId :: unpaidBound) _ _
        List.mem_cons_self h [.integer limit, .integer offset]
  simp only [listStatements, hquery]

theorem countStatements_own
    (h : own Statement.consumerId consumerId store.statements =
      own Statement.consumerId consumerId store'.statements) :
    countStatements store (.one consumerId) = countStatements store' (.one consumerId) := by
  have hrows := @selectRows_own _ _ _ [(Scope.one consumerId).boundCond Statement.consumerId] _ _
    List.mem_cons_self h
  exact congrArg (fun rows => rows >>= fun rows => pure rows.length) hrows

theorem outstandingTotals_own
    (h : own Statement.consumerId consumerId store.statements =
      own Statement.consumerId consumerId store'.statements) :
    outstandingTotals store (.one consumerId) = outstandingTotals store' (.one consumerId) := by
  have hrows : selectRows (scopedStatement (.one consumerId) :: unpaidConds.reverse)
        (Scope.one consumerId).params store.statements =
      selectRows (scopedStatement (.one consumerId) :: unpaidConds.reverse)
        (Scope.one consumerId).params store'.statements :=
    @selectRows_own _ _ _
      ((Scope.one consumerId).boundCond Statement.consumerId :: unpaidBound.reverse) _ _
      List.mem_cons_self h
  rw [outstandingTotals, outstandingTotals, hrows]

/-- The joined lines of a consumer come from its own lines and statements. -/
theorem own_joinedLines (store : Store) (consumerId : String) :
    own (fun row => row.2.consumerId) consumerId (joinedLines store) =
      (ownLines consumerId store).flatMap fun line =>
        ((own Statement.consumerId consumerId store.statements).filter fun s =>
          s.id = line.statementId).map fun s => (line, s) := by
  have hline : ∀ line : StatementLine,
      ((store.statements.filter fun s => s.id = line.statementId).map fun s => (line, s)).filter
          (fun row => row.2.consumerId = consumerId) =
        ((own Statement.consumerId consumerId store.statements).filter fun s =>
          s.id = line.statementId).map fun s => (line, s) := by
    intro line
    rw [List.filter_map, own, List.filter_comm]
    rfl
  -- a line of no statement of the consumer joins with none of them
  have hnone : ∀ line : StatementLine,
      (store.statements.any fun s => s.id = line.statementId && s.consumerId = consumerId) = false →
      (((own Statement.consumerId consumerId store.statements).filter fun s =>
          s.id = line.statementId).map fun s => (line, s)) = [] := by
    intro line hline
    rw [List.map_eq_nil_iff, own, List.filter_filter, List.filter_eq_nil_iff]
    exact List.any_eq_false.1 hline
  rw [own, joinedLines, List.filter_flatMap]
  simp only [hline, ownLines]
  induction store.lines with
  | nil => rfl
  | cons line lines ih =>
    rw [List.flatMap_cons, ih, List.filter_cons]
    split
    · rw [List.flatMap_cons]
    · rename_i hno
      rw [hnone line (Bool.eq_false_iff.2 hno), List.nil_append]

/-- The conditions of a read of lines, with their values. -/
def lineBound (consumerId : String) (id : Int) : List (BoundCond (StatementLine × Statement)) :=
  [(Scope.one consumerId).boundCond fun row => row.2.consumerId,
    .compare (fun row => .integer row.1.statementId) Value.equals (.integer id)]

/-- The number of the last parameter is the one that a `?` would have. -/
theorem selectRows_lines (consumerId : String) (id : Int)
    (table : List (StatementLine × Statement)) :
    selectRows (lineConds (.one consumerId) ((Scope.one consumerId).params ++ [.integer id]))
        ((Scope.one consumerId).params ++ [.integer id]) table =
      selectRows ((lineBound consumerId id).map BoundCond.cond)
        ((lineBound consumerId id).flatMap BoundCond.values) table := by
  have hquery := query_numbered
    [(Scope.one consumerId).cond fun row : StatementLine × Statement => row.2.consumerId]
    (fun row => .integer row.1.statementId) Value.equals 0
    ((Scope.one consumerId).params ++ [.integer id]) table
  exact selectRows_congr hquery

theorem statementLines_own
    (hstatements : own Statement.consumerId consumerId store.statements =
      own Statement.consumerId consumerId store'.statements)
    (hlines : ownLines consumerId store = ownLines consumerId store') (id : Int) :
    statementLines store id (.one consumerId) = statementLines store' id (.one consumerId) := by
  have hjoined : own (fun row => row.2.consumerId) consumerId (joinedLines store) =
      own (fun row => row.2.consumerId) consumerId (joinedLines store') := by
    rw [own_joinedLines, own_joinedLines, hstatements, hlines]
  have hrows := @selectRows_own _ _ _ (lineBound consumerId id) _ _ List.mem_cons_self hjoined
  rw [← selectRows_lines, ← selectRows_lines] at hrows
  simp only [statementLines, hrows]

theorem partnersInScope_own
    (h : own Partner.consumerId consumerId store.partners =
      own Partner.consumerId consumerId store'.partners) :
    partnersInScope store (.one consumerId) = partnersInScope store' (.one consumerId) := by
  rw [partnersInScope, partnersInScope, ← List.head?_filter, ← List.head?_filter]
  exact congrArg (fun rows => rows.head?.toList) h

theorem overdueStatements_own
    (h : own Statement.consumerId consumerId store.statements =
      own Statement.consumerId consumerId store'.statements) (now : Instant) :
    overdueStatements store now (some consumerId) = overdueStatements store' now (some consumerId) := by
  have hown : ∀ s : Store, (s.statements.filter fun s =>
      s.billingMode = .invoice && s.paidAt.isNone &&
        (s.dueAt.any fun dueAt => !(formatInstant now < dueAt)) &&
        (some consumerId).all fun id => s.consumerId = id) =
      (own Statement.consumerId consumerId s.statements).filter fun s =>
        s.billingMode = .invoice && s.paidAt.isNone &&
          (s.dueAt.any fun dueAt => !(formatInstant now < dueAt)) := by
    intro s
    rw [own, List.filter_filter]
    rfl
  rw [overdueStatements, overdueStatements, hown, hown, h]

end Statements

/-! ## The answers to a key -/

section Answers

variable (sha256 : Bytes → Bytes) (texts : Texts) (now : Instant) (retentionDays : UInt32)
  (config : PartnerRuntimeConfig)

/-- Two databases answer a partner key alike, whatever is asked. -/
structure Portal.AnswersAlike (db db' : Portal) : Prop where
  summary : ∀ query,
    getSummary texts now retentionDays (.partner config) query db.hourly db.store.usage =
      getSummary texts now retentionDays (.partner config) query db'.hourly db'.store.usage
  timeseries : ∀ query,
    getTimeseries texts now retentionDays (.partner config) query db.hourly =
      getTimeseries texts now retentionDays (.partner config) query db'.hourly
  requests : ∀ query,
    getRequests sha256 db.cursorKey texts now retentionDays (.partner config) query db.store.usage =
      getRequests sha256 db'.cursorKey texts now retentionDays (.partner config) query db'.store.usage
  models : ∀ query,
    getModels texts now retentionDays (.partner config) query db.hourly =
      getModels texts now retentionDays (.partner config) query db'.hourly
  statements : ∀ query,
    listStatementViews (.partner config) query db.store =
      listStatementViews (.partner config) query db'.store
  statement : ∀ query id,
    getStatementView (.partner config) query db.store id =
      getStatementView (.partner config) query db'.store id
  status : ∀ query,
    getStatus (.partner config) query db.store texts.iso now =
      getStatus (.partner config) query db'.store texts.iso now

variable {config} {db db' : Portal}

theorem Portal.AgreesFor.answersAlike (h : db.AgreesFor config.consumerId db') :
    db.AnswersAlike sha256 texts now retentionDays config db' where
  summary query := by
    simp only [getSummary, rollupFilter, resolveScope_partner, readSummary, rollup_own h.hourly,
      records_own h.usage]
  timeseries query := by
    simp only [getTimeseries, rollupFilter, resolveScope_partner, readTimeseries, rollup_own h.hourly]
  requests query := by
    simp only [getRequests, requestFilter, resolveScope_partner, h.cursorKey, requestsPage_own h.usage]
  models query := by
    simp only [getModels, resolveScope_partner, models_own h.hourly]
  statements query := by
    simp only [listStatementViews, resolveScope_partner, listStatements_own h.statements,
      countStatements_own h.statements, outstandingTotals_own h.statements]
  statement query id := by
    simp only [getStatementView, resolveScope_partner, getStatementById_own h.statements,
      statementLines_own h.statements h.lines]
  status query := by
    simp only [getStatus, resolveScope_partner, statusesInScope, Scope.overdueFor,
      partnersInScope_own h.partners, overdueStatements_own h.statements]

/-- An id that is not in scope is answered like one that does not exist. -/
theorem getStatementView_not_found {store : Store} {id : Int}
    (hforeign : ∀ s ∈ store.statements, (s.id : Int) = id → s.consumerId ≠ config.consumerId)
    (query : StatementsQuery) :
    getStatementView (.partner config) query store id =
      .error (.error (.notFound "no statement with that id")) := by
  have hnone : (store.statements.filter fun s =>
      (byIdBound config.consumerId id).all fun part => part.selects s) = [] := by
    rw [List.filter_eq_nil_iff]
    intro s hs hselects
    simp only [byIdBound, List.all_cons, List.all_nil, Bool.and_true, BoundCond.compare_selects,
      selects_equals_integer, Scope.boundCond_selects, Scope.contains, Bool.and_eq_true,
      decide_eq_true_eq] at hselects
    exact hforeign s hs hselects.1 hselects.2
  have hrows : selectRows [.column (fun s => .integer s.id) Value.equals .next,
      scopedStatement (.one config.consumerId)] (.integer id :: (Scope.one config.consumerId).params)
      store.statements = .ok [] :=
    (selectRows_bound (byIdBound config.consumerId id) store.statements).trans (congrArg _ hnone)
  simp only [getStatementView, resolveScope_partner, getStatementById, hrows]
  rfl

end Answers

/-- Two databases that agree on a consumer's rows answer its key alike, and the id of another consumer's
statement is answered like one that does not exist. -/
theorem consumer_isolation (sha256 : Bytes → Bytes) (texts : Texts) (now : Instant)
    (retentionDays : UInt32) {config : PartnerRuntimeConfig} {db db' : Portal}
    (h : db.AgreesFor config.consumerId db') :
    db.AnswersAlike sha256 texts now retentionDays config db' ∧
      ∀ query id, (∀ s ∈ db.store.statements, (s.id : Int) = id → s.consumerId ≠ config.consumerId) →
        getStatementView (.partner config) query db.store id =
          .error (.error (.notFound "no statement with that id")) :=
  ⟨h.answersAlike sha256 texts now retentionDays,
    fun query _ hforeign => getStatementView_not_found hforeign query⟩

namespace Sample

/-- A row of every table for each consumer, under an id of its own. -/
def portal (tenants : List (Nat × String)) : Portal where
  store :=
    { partners := tenants.map fun tenant =>
        { PartnerPortal.Sample.partner .invoice (PartnerPortal.Sample.count 720) with
          consumerId := tenant.2 }
      usage := tenants.map fun tenant => { listedRow tenant.1 with consumerId := tenant.2 }
      statements := tenants.map fun tenant =>
        { PartnerPortal.Sample.invoice tenant.1 PartnerPortal.Sample.noon with consumerId := tenant.2 }
      lines := tenants.flatMap fun tenant =>
        PartnerPortal.Sample.draft.lines.map (lineOf tenant.1 tenant.1)
      nextStatementId := 9
      nextLineId := 9 }
  hourly := tenants.map fun tenant =>
    { key := ⟨"2026-09-27T12:00:00.000000000Z", tenant.2, "m1", .chatCompletions, false⟩
      counters := fun _ => .integer tenant.1 }
  cursorKey := [1, 2, 3]

/-- Two databases with the rows of one consumer, in which all others differ. -/
def besideGlobex : Portal := portal [(1, "acme"), (2, "globex")]

def besideOthers : Portal := portal [(3, "initech"), (1, "acme"), (4, "globex")]

end Sample

theorem consumer_isolation_sample :
    Sample.besideGlobex.AnswersAlike id Sample.texts Sample.noon 60 Sample.keyConfig
        Sample.besideOthers ∧
      ∀ query, getStatementView (.partner Sample.keyConfig) query Sample.besideGlobex.store 2 =
        .error (.error (.notFound "no statement with that id")) := by
  obtain ⟨halike, hforeign⟩ := @consumer_isolation id Sample.texts Sample.noon 60 Sample.keyConfig
    Sample.besideGlobex Sample.besideOthers
    ⟨rfl, by decide +kernel, rfl, by decide +kernel, by decide +kernel, by decide +kernel⟩
  exact ⟨halike, fun query => hforeign query 2 (by decide +kernel)⟩

end PartnerPortal.Dashboard
