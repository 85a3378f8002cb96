import PartnerPortal.Config.Loader
import PartnerPortal.Config.Redaction

/-!
# Reloading the configuration

The watcher reads the file on every tick, keeps what is in force when the file cannot be loaded, and
swaps in what it says when its hash is another.  Before a swap it logs each field that changed, and
whether the running process follows it.

The hash of a configuration and the YAML parser are the parameters `hash` and `fromStr`.

Results:
- `reportChanges_fields` — the fields that are reported are those that differ, and only the billing
  block can change without a line;
- `run_config` — what is in force is what the newest file that loads says, and what was logged are
  the changes from each such file to the next;
- `run_renamed` — other credentials in every version of the file leave the log as it is, but for the
  hashes.
-/

namespace PartnerPortal.HotReload

open Redaction

/-! ## The file -/

structure ServerConfig where
  gracefulShutdown : Bool := true
  shutdownGraceSecs : UInt64 := 5
  maxBodySize : UInt64 := 10 * 1024 * 1024
  corsAllowOrigins : List String := []
  ssePollIntervalMs : UInt64 := 500
  apiKeyRefreshMs : UInt64 := 1000

structure UpstreamConfig extends PartnerPortal.UpstreamConfig where
  timeoutSecs : UInt64 := 120
  connectTimeoutSecs : UInt64 := 10

structure DatabaseConfig extends PartnerPortal.DatabaseConfig where
  path : String := "partner-portal.db"
  batchTimeoutMs : UInt64 := 1000
  retentionIntervalSecs : UInt64 := 3600

/-- With the port of the relay, which stands in the email block. -/
structure BillingConfig extends PartnerPortal.BillingConfig where
  schedulerIntervalSecs : UInt64 := 30
  smtpPort : UInt16 := 587

/-- Every field of the file. -/
structure Config where
  server : ServerConfig := {}
  upstream : UpstreamConfig
  database : DatabaseConfig := {}
  manager : Option ManagerConfig := none
  billing : BillingConfig := {}

/-- The fields that the loader checks. -/
def Config.checked (config : Config) : PartnerPortal.Config where
  upstream := config.upstream.toUpstreamConfig
  manager := config.manager
  database := config.database.toDatabaseConfig
  billing := config.billing.toBillingConfig

inductive LoadError where
  | io (message : String)
  | yamlParse (message : String)
  | refused (error : ConfigError)

/-- The `Display` of an error. -/
def LoadError.text : LoadError → String
  | io message => "IO error: " ++ message
  | yamlParse message => "YAML parse error: " ++ message
  | refused (.invalidUpstreamUrl message) => "Invalid upstream URL: " ++ message
  | refused (.invalid message) => "Invalid configuration: " ++ message

/-! ## The log -/

/-- Whether the running process follows a change. -/
inductive Notice where
  | applied
  | partly (note : String)
  | needsRestart
deriving DecidableEq

structure FieldLine where
  field : String
  old : String
  new : String
  notice : Notice
deriving DecidableEq

inductive LogLine where
  | field (line : FieldLine)
  | reloaded (oldHash newHash : String)
  | keptCurrent (error : String)
deriving DecidableEq

/-- A field that is compared, and how it is logged. -/
structure Reported where
  field : String
  notice : Notice
  {α : Type}
  [eq : DecidableEq α]
  value : Config → α
  render : α → String

def Reported.report (f : Reported) (old new : Config) : List FieldLine :=
  haveI := f.eq
  if f.value old ≠ f.value new then
    [{ field := f.field, old := f.render (f.value old), new := f.render (f.value new),
       notice := f.notice }]
  else []

/-- What is logged of a credential. -/
def redactedText : String → String := fun _ => String.ofList redacted

/-- The fields the running process reads from the snapshot. -/
def liveFields : List Reported :=
  [{ field := "upstream.base_url", notice := .applied, value := (·.upstream.baseUrl), render := id },
    { field := "upstream.api_key", notice := .applied, value := (·.upstream.apiKey),
      render := redactedText },
    { field := "upstream.timeout_secs", notice := .applied, value := (·.upstream.timeoutSecs),
      render := fun n => toString n },
    { field := "manager.password", notice := .applied,
      value := fun config => config.manager.map ManagerConfig.password,
      render := fun _ => String.ofList redacted },
    { field := "server.max_body_size",
      notice := .partly ("partly applied on reload: a smaller limit takes effect now, a larger " ++
        "one is still capped by the body-limit layer built at startup"),
      value := (·.server.maxBodySize), render := fun n => toString n }]

/-- The fields whose value was taken when the process started. -/
def restartFields : List Reported :=
  [{ field := "server.graceful_shutdown", notice := .needsRestart,
      value := (·.server.gracefulShutdown), render := fun b => toString b },
    { field := "server.shutdown_grace_secs", notice := .needsRestart,
      value := (·.server.shutdownGraceSecs), render := fun n => toString n },
    { field := "server.cors_allow_origins", notice := .needsRestart,
      value := (·.server.corsAllowOrigins), render := ",".intercalate },
    { field := "server.sse_poll_interval_ms", notice := .needsRestart,
      value := (·.server.ssePollIntervalMs), render := fun n => toString n },
    { field := "server.api_key_refresh_ms", notice := .needsRestart,
      value := (·.server.apiKeyRefreshMs), render := fun n => toString n },
    { field := "upstream.connect_timeout_secs", notice := .needsRestart,
      value := (·.upstream.connectTimeoutSecs), render := fun n => toString n },
    { field := "database.path", notice := .needsRestart, value := (·.database.path), render := id },
    { field := "database.retention_days",
      notice := .partly ("partly applied on reload: the dashboard's window validation follows the " ++
        "new value, the retention sweep keeps the startup value until restart"),
      value := (·.database.retentionDays), render := fun n => toString n },
    { field := "database.queue_size", notice := .needsRestart,
      value := (·.database.queueSize), render := fun n => toString n },
    { field := "database.batch_size", notice := .needsRestart,
      value := (·.database.batchSize), render := fun n => toString n },
    { field := "database.batch_timeout_ms", notice := .needsRestart,
      value := (·.database.batchTimeoutMs), render := fun n => toString n },
    { field := "database.retention_interval_secs", notice := .needsRestart,
      value := (·.database.retentionIntervalSecs), render := fun n => toString n },
    { field := "database.retention_batch_size", notice := .needsRestart,
      value := (·.database.retentionBatchSize), render := fun n => toString n }]

def reportLiveChanges (old new : Config) : List FieldLine :=
  liveFields.flatMap fun f => f.report old new

def reportRestartRequiredChanges (old new : Config) : List FieldLine :=
  restartFields.flatMap fun f => f.report old new

def reportChanges (old new : Config) : List FieldLine :=
  reportLiveChanges old new ++ reportRestartRequiredChanges old new

/-! ## The watcher -/

/-- What a read of the file gave: its text, or what the system said. -/
abbrev Read := Except String String

abbrev Hash := Config → String

abbrev FromStr := String → Except String Config

/-- `ConfigLoader::from_file` -/
def fromFile (parseUri : ParseUri) (fromStr : FromStr) (read : Read) : Except LoadError Config := do
  let content ← read.mapError .io
  let config ← (fromStr content).mapError fun message =>
    .yamlParse (String.ofList (redactScalars message.toList))
  (validate parseUri config.checked).mapError .refused
  return config

structure ConfigSnapshot where
  config : Config
  hash : String

def ConfigSnapshot.new (hash : Hash) (config : Config) : ConfigSnapshot where
  config := config
  hash := hash config

/-- A hash as it stands in the log. -/
def short (hash : String) : String :=
  String.ofList (hash.toList.take 12)

/-- The shared snapshot, what the task keeps, and what it has logged. -/
structure Watcher where
  current : ConfigSnapshot
  lastHash : String
  log : List LogLine

/-- The task as it starts. -/
def Watcher.start (hash : Hash) (initial : Config) : Watcher where
  current := .new hash initial
  lastHash := hash initial
  log := []

section Task

variable (parseUri : ParseUri) (fromStr : FromStr) (hash : Hash)

/-- What is done about a file that was loaded. -/
def Watcher.loaded (w : Watcher) (config : Config) : Watcher :=
  if hash config ≠ w.lastHash then
    { current := .new hash config
      lastHash := hash config
      log := w.log ++ (reportChanges w.current.config config).map .field ++
        [.reloaded (short w.lastHash) (short (hash config))] }
  else w

/-- One turn of the task. -/
def Watcher.tick (w : Watcher) (read : Read) : Watcher :=
  match fromFile parseUri fromStr read with
  | .ok config => w.loaded hash config
  | .error e => { w with log := w.log ++ [.keptCurrent e.text] }

/-- The task after some reads of the file. -/
def Watcher.run (w : Watcher) (reads : List Read) : Watcher :=
  reads.foldl (Watcher.tick parseUri fromStr hash) w

/-- What the files say that load. -/
def accepted (reads : List Read) : List Config :=
  reads.filterMap fun read => (fromFile parseUri fromStr read).toOption

end Task

/-- What is logged of the step from each configuration to the next. -/
def changes : Config → List Config → List FieldLine
  | _, [] => []
  | old, new :: rest => reportChanges old new ++ changes new rest

/-- The lines about fields. -/
def fieldLines (log : List LogLine) : List FieldLine :=
  log.filterMap fun
    | .field line => some line
    | _ => none

/-! ## One comparison -/

section Report

variable {f : Reported} {old new : Config}

theorem Reported.report_eq_nil : f.report old new = [] ↔ f.value old = f.value new := by
  unfold Reported.report
  split <;> rename_i h
  · exact ⟨nofun, fun heq => absurd heq h⟩
  · exact ⟨fun _ => of_not_not h, fun _ => rfl⟩

/-- A comparison sees no more of a configuration than whether its field changed and how it is
shown. -/
theorem Reported.report_congr {old' new' : Config}
    (heq : f.value old = f.value new ↔ f.value old' = f.value new')
    (hold : f.render (f.value old) = f.render (f.value old'))
    (hnew : f.render (f.value new) = f.render (f.value new')) :
    f.report old new = f.report old' new' := by
  unfold Reported.report
  rw [hold, hnew]
  split <;> rename_i h
  · rw [if_pos (mt heq.2 h)]
  · rw [if_neg (not_not_intro (heq.1 (of_not_not h)))]

end Report

theorem reportChanges_eq_nil {old new : Config} :
    reportChanges old new = [] ↔
      ∀ f ∈ liveFields ++ restartFields, f.value old = f.value new := by
  rw [reportChanges, reportLiveChanges, reportRestartRequiredChanges, ← List.flatMap_append,
    List.flatMap_eq_nil_iff]
  simp only [Reported.report_eq_nil]

theorem password_injective : Function.Injective ManagerConfig.password := by
  rintro ⟨_⟩ ⟨_⟩ rfl
  rfl

/-- No comparison looks at the billing block. -/
theorem value_billing {f : Reported} (h : f ∈ liveFields ++ restartFields) (config : Config)
    (billing : BillingConfig) : f.value { config with billing := billing } = f.value config := by
  revert f
  simp only [liveFields, restartFields, List.cons_append, List.nil_append, List.forall_mem_cons,
    List.not_mem_nil, false_implies, implies_true, and_true]

/-- Every other field is compared. -/
theorem eq_of_value {old new : Config}
    (h : ∀ f ∈ liveFields ++ restartFields, f.value old = f.value new) :
    { new with billing := old.billing } = old := by
  obtain ⟨⟨_, _, _, _, _, _⟩, ⟨⟨_, _⟩, _, _⟩, ⟨⟨_, _, _, _⟩, _, _, _⟩, manager, _⟩ := old
  obtain ⟨⟨_, _, _, _, _, _⟩, ⟨⟨_, _⟩, _, _⟩, ⟨⟨_, _, _, _⟩, _, _, _⟩, manager', _⟩ := new
  simp only [liveFields, restartFields, List.cons_append, List.nil_append, List.forall_mem_cons,
    List.not_mem_nil, false_implies, implies_true, and_true] at h
  obtain ⟨rfl, rfl, rfl, hmanager, rfl, rfl, rfl, rfl, rfl, rfl, rfl, rfl, rfl, rfl, rfl, rfl, rfl,
    rfl⟩ := h
  obtain rfl := Option.map_injective password_injective hmanager
  rfl

/-- Nothing is logged when at most the billing block changed, and then only. -/
theorem reportChanges_fields {old new : Config} :
    reportChanges old new = [] ↔ { new with billing := old.billing } = old := by
  rw [reportChanges_eq_nil]
  constructor
  · exact eq_of_value
  · intro h f hf
    rw [← value_billing hf new old.billing, h]

theorem Reported.field_of_mem {f : Reported} {old new : Config} {line : FieldLine}
    (h : line ∈ f.report old new) : line.field = f.field := by
  unfold Reported.report at h
  split at h
  · rw [List.mem_singleton.1 h]
  · cases h

theorem fields_nodup : ((liveFields ++ restartFields).map Reported.field).Nodup := by
  decide

/-- A field is named when it changed, and then only. -/
theorem mem_reportChanges {f : Reported} (hf : f ∈ liveFields ++ restartFields)
    {old new : Config} :
    (∃ line ∈ reportChanges old new, line.field = f.field) ↔ f.value old ≠ f.value new := by
  rw [reportChanges, reportLiveChanges, reportRestartRequiredChanges, ← List.flatMap_append]
  refine Iff.trans ?_ (not_congr f.report_eq_nil)
  constructor
  · rintro ⟨line, hline, hname⟩ hnil
    obtain ⟨g, hg, hline⟩ := List.mem_flatMap.1 hline
    obtain rfl := List.inj_on_of_nodup_map fields_nodup hg hf ((g.field_of_mem hline).symm.trans hname)
    rw [hnil] at hline
    cases hline
  · intro hne
    obtain ⟨line, hline⟩ := List.exists_mem_of_ne_nil _ hne
    exact ⟨line, List.mem_flatMap.2 ⟨f, hf, hline⟩, f.field_of_mem hline⟩

/-! ## What a run of configurations logs -/

/-- The log of a run names a field when one of its configurations has another value for it than the
first. -/
theorem mem_changes {f : Reported} (hf : f ∈ liveFields ++ restartFields) {first : Config}
    {rest : List Config} :
    (∃ line ∈ changes first rest, line.field = f.field) ↔
      ∃ config ∈ rest, f.value config ≠ f.value first := by
  induction rest generalizing first with
  | nil => simp [changes]
  | cons second rest ih =>
    have hfirst := @mem_reportChanges f hf first second
    simp only [changes, List.mem_append, or_and_right, exists_or, hfirst, ih,
      List.mem_cons, exists_eq_left]
    by_cases heq : f.value first = f.value second
    · simp [heq]
    · simp [heq, Ne.symm heq]

/-- The log of a run names no field when its configurations differ in the billing block at most. -/
theorem changes_eq_nil {first : Config} {rest : List Config} :
    changes first rest = [] ↔ ∀ config ∈ rest, { config with billing := first.billing } = first := by
  induction rest generalizing first with
  | nil => simp [changes]
  | cons second rest ih =>
    rw [changes, List.append_eq_nil_iff, reportChanges_fields, ih, List.forall_mem_cons]
    refine and_congr_right fun hsecond => forall₂_congr fun config _ => ?_
    obtain ⟨_, _, _, _, _⟩ := first
    obtain ⟨_, _, _, _, _⟩ := second
    obtain ⟨_, _, _, _, _⟩ := config
    simp_all

/-! ## The turns of the task -/

section Turns

variable {parseUri : ParseUri} {fromStr : FromStr} {hash : Hash}

/-- A configuration is in force, and its hash is the one the task compares with. -/
structure Watcher.Holds (hash : Hash) (w : Watcher) (config : Config) : Prop where
  current : w.current = .new hash config
  lastHash : w.lastHash = hash config

theorem Watcher.start_holds (initial : Config) : (Watcher.start hash initial).Holds hash initial :=
  ⟨rfl, rfl⟩

@[simp] theorem fieldLines_append (log log' : List LogLine) :
    fieldLines (log ++ log') = fieldLines log ++ fieldLines log' :=
  List.filterMap_append

@[simp] theorem fieldLines_map (lines : List FieldLine) :
    fieldLines (lines.map .field) = lines := by
  rw [fieldLines, List.filterMap_map]
  exact List.filterMap_some

theorem reportChanges_self (config : Config) : reportChanges config config = [] :=
  reportChanges_eq_nil.2 fun _ _ => rfl

/-- A file that loads is in force after the turn, and what it changed has been logged. -/
theorem Watcher.Holds.loaded {w : Watcher} {config new : Config} (hw : w.Holds hash config)
    (hinj : hash new = hash config → new = config) :
    (w.loaded hash new).Holds hash new ∧
      fieldLines (w.loaded hash new).log = fieldLines w.log ++ reportChanges config new := by
  unfold Watcher.loaded
  split <;> rename_i hne
  · refine ⟨⟨rfl, rfl⟩, ?_⟩
    rw [hw.current]
    simp [fieldLines, ConfigSnapshot.new]
  · obtain rfl := hinj (of_not_not hne |>.trans hw.lastHash)
    exact ⟨hw, by rw [reportChanges_self, List.append_nil]⟩

theorem Watcher.tick_ok {read : Read} {config : Config}
    (h : fromFile parseUri fromStr read = .ok config) (w : Watcher) :
    w.tick parseUri fromStr hash read = w.loaded hash config := by
  rw [Watcher.tick, h]

theorem Watcher.tick_error {read : Read} {e : LoadError}
    (h : fromFile parseUri fromStr read = .error e) (w : Watcher) :
    w.tick parseUri fromStr hash read = { w with log := w.log ++ [.keptCurrent e.text] } := by
  rw [Watcher.tick, h]

theorem accepted_ok {read : Read} {config : Config}
    (h : fromFile parseUri fromStr read = .ok config) (reads : List Read) :
    accepted parseUri fromStr (read :: reads) = config :: accepted parseUri fromStr reads := by
  rw [accepted, List.filterMap_cons, h]
  rfl

theorem accepted_error {read : Read} {e : LoadError}
    (h : fromFile parseUri fromStr read = .error e) (reads : List Read) :
    accepted parseUri fromStr (read :: reads) = accepted parseUri fromStr reads := by
  rw [accepted, List.filterMap_cons, h]
  rfl

/-- What is in force after some turns is what the newest file that loads says, and what was logged are
the changes from each such file to the next. -/
theorem Watcher.Holds.run {w : Watcher} {config : Config} {reads : List Read}
    (hw : w.Holds hash config)
    (hinj : Set.InjOn hash {c | c ∈ config :: accepted parseUri fromStr reads}) :
    (w.run parseUri fromStr hash reads).Holds hash
        ((accepted parseUri fromStr reads).getLastD config) ∧
      fieldLines (w.run parseUri fromStr hash reads).log =
        fieldLines w.log ++ changes config (accepted parseUri fromStr reads) := by
  induction reads generalizing w config with
  | nil => exact ⟨hw, (List.append_nil _).symm⟩
  | cons read reads ih =>
    rw [Watcher.run, List.foldl_cons, ← Watcher.run]
    cases hread : fromFile parseUri fromStr read with
    | error e =>
      rw [accepted_error hread] at hinj ⊢
      rw [Watcher.tick_error hread]
      obtain ⟨hholds, hlog⟩ := ih (w := { w with log := w.log ++ [.keptCurrent e.text] })
        ⟨hw.current, hw.lastHash⟩ hinj
      refine ⟨hholds, hlog.trans ?_⟩
      simp [fieldLines]
    | ok new =>
      rw [accepted_ok hread] at hinj ⊢
      rw [Watcher.tick_ok hread]
      obtain ⟨hnew, hline⟩ := hw.loaded fun heq =>
        hinj (List.mem_cons_of_mem config List.mem_cons_self) List.mem_cons_self heq
      obtain ⟨hholds, hlog⟩ := ih hnew (hinj.mono fun c hc => List.mem_cons_of_mem config hc)
      rw [List.getLastD_cons, changes, ← List.append_assoc, ← hline]
      exact ⟨hholds, hlog⟩

end Turns

/-- While no two of the configurations it sees have one hash, the task has in force what the newest
file that loads says, and has logged the changes from each such file to the next: a field is named
when it changed, and nothing is when at most the billing block did. -/
theorem run_config (parseUri : ParseUri) (fromStr : FromStr) (hash : Hash) (initial : Config)
    (reads : List Read)
    (h : Set.InjOn hash {c | c ∈ initial :: accepted parseUri fromStr reads}) :
    let w := (Watcher.start hash initial).run parseUri fromStr hash reads
    w.current = .new hash ((accepted parseUri fromStr reads).getLastD initial) ∧
      fieldLines w.log = changes initial (accepted parseUri fromStr reads) ∧
      (∀ f ∈ liveFields ++ restartFields, (∃ line ∈ fieldLines w.log, line.field = f.field) ↔
        ∃ config ∈ accepted parseUri fromStr reads, f.value config ≠ f.value initial) ∧
      (fieldLines w.log = [] ↔ ∀ config ∈ accepted parseUri fromStr reads,
        { config with billing := initial.billing } = initial) := by
  obtain ⟨hholds, hlog⟩ := (Watcher.start_holds initial).run h
  have hlog : fieldLines _ = changes initial (accepted parseUri fromStr reads) := hlog
  dsimp only
  rw [hlog]
  exact ⟨hholds.current, rfl, fun f hf => mem_changes hf, changes_eq_nil⟩

namespace Sample

def fileUri : ParseUri := fun _ => some { scheme := some "https", authority := some ("api", "api") }

def file (key : String) : Config where
  upstream := { baseUrl := "https://api", apiKey := key }

def fileText (key : String) : String :=
  "upstream:\n  base_url: https://api\n  api_key: " ++ key ++ "\n"

def escape (c : Char) : List Char :=
  if c = '"' ∨ c = '\\' then ['\\', c] else [c]

theorem escape_escapes : Escapes escape := by
  intro c
  unfold escape
  split <;> rename_i h
  · exact .inr ⟨c, [], rfl, fun _ hx => absurd hx List.not_mem_nil⟩
  · exact .inl ⟨rfl, not_or.1 h⟩

theorem proper_of_all {text : List Char} (h : (text.all fun c => !isDelimiter c) = true) :
    (Segment.plain text).Proper := by
  simpa [Segment.Proper] using h

/-- What the parser says of a key that stands where the block is expected. -/
def misplaced (key : List Char) : Message where
  segments := [.plain "upstream: invalid type: string ".toList, .quoted (key.flatMap escape),
    .plain ", expected struct UpstreamConfig at line 1 column 11".toList]
  proper := by
    intro segment h
    rcases List.mem_cons.1 h with rfl | h
    · exact proper_of_all (by decide)
    rcases List.mem_cons.1 h with rfl | h
    · exact quoted_scalar escape_escapes key
    rw [List.mem_singleton.1 h]
    exact proper_of_all (by decide)
  opened := none
  unclosed := nofun

theorem misplaced_hidden (key key' : List Char) : (misplaced key).hidden = (misplaced key').hidden :=
  rfl

/-- The parser, of the file with one of some keys and of a key in place of the block. -/
def fileFromStr : FromStr := fun text =>
  match ["sk-1", "sk-2", "sk-10", "sk-20"].find? fun key => text = fileText key with
  | some key => .ok (file key)
  | none => .error (String.ofList (misplaced (text.toList.drop 10)).text)

def keyHash : Hash := fun config => config.upstream.apiKey

/-- A file whose key is rotated, by way of no file and of a mistake. -/
def rotation (first second : String) : List Read :=
  [.ok (fileText first), .error "No such file or directory (os error 2)", .ok ("upstream: " ++ second),
    .ok (fileText second)]

end Sample

/-- The rotated key is in force at the end, and the log names its field. -/
theorem run_config_rotated :
    let w := (Watcher.start Sample.keyHash (Sample.file "sk-1")).run Sample.fileUri
      Sample.fileFromStr Sample.keyHash (Sample.rotation "sk-1" "sk-2")
    w.current = .new Sample.keyHash (Sample.file "sk-2") ∧
      ∃ line ∈ fieldLines w.log, line.field = "upstream.api_key" := by
  have haccepted : accepted Sample.fileUri Sample.fileFromStr (Sample.rotation "sk-1" "sk-2") =
      [Sample.file "sk-1", Sample.file "sk-2"] := rfl
  have hinj : Set.InjOn Sample.keyHash {c | c ∈ Sample.file "sk-1" ::
      accepted Sample.fileUri Sample.fileFromStr (Sample.rotation "sk-1" "sk-2")} := by
    rw [haccepted]
    simp [Set.InjOn, Sample.keyHash, Sample.file]
  obtain ⟨hcurrent, -, hnamed, -⟩ := run_config Sample.fileUri Sample.fileFromStr Sample.keyHash
    (Sample.file "sk-1") (Sample.rotation "sk-1" "sk-2") hinj
  rw [haccepted] at hcurrent hnamed
  refine ⟨hcurrent, (hnamed liveFields[1] (by simp [liveFields])).2 ?_⟩
  exact ⟨Sample.file "sk-2", by simp, (by decide : "sk-2" ≠ "sk-1")⟩

/-! ## Other credentials -/

/-- Another credential for each; the empty one, which is refused, stays empty. -/
structure Renaming where
  toFun : String → String
  injective : Function.Injective toFun
  empty : toFun "" = ""

theorem Renaming.eq_empty_iff (ρ : Renaming) {secret : String} :
    ρ.toFun secret = "" ↔ secret = "" := by
  conv_lhs => rw [← ρ.empty]
  exact ρ.injective.eq_iff

def ManagerConfig.rename (ρ : Renaming) (manager : ManagerConfig) : ManagerConfig where
  password := ρ.toFun manager.password

/-- The file with other credentials. -/
def Config.rename (ρ : Renaming) (config : Config) : Config :=
  { config with
    upstream := { config.upstream with apiKey := ρ.toFun config.upstream.apiKey }
    manager := config.manager.map (ManagerConfig.rename ρ) }

/-- A line of the log without the hashes. -/
def LogLine.hidden : LogLine → LogLine
  | reloaded _ _ => reloaded "" ""
  | line => line

/-- Two reads of files that differ in their credentials, or in what the parser quotes of them. -/
inductive SameRead (fromStr : FromStr) (ρ : Renaming) : Read → Read → Prop where
  | io (message : String) : SameRead fromStr ρ (.error message) (.error message)
  | parsed {content content' : String} {config : Config} :
      fromStr content = .ok config → fromStr content' = .ok (config.rename ρ) →
      SameRead fromStr ρ (.ok content) (.ok content')
  | refused {content content' : String} {m m' : Message} :
      fromStr content = .error (String.ofList m.text) →
      fromStr content' = .error (String.ofList m'.text) → m.hidden = m'.hidden →
      SameRead fromStr ρ (.ok content) (.ok content')

section Renamed

variable {parseUri : ParseUri} {fromStr : FromStr} {hash : Hash} {ρ : Renaming}

theorem rename_manager (config : Config) :
    (config.rename ρ).manager.map ManagerConfig.password =
      (config.manager.map ManagerConfig.password).map ρ.toFun := by
  rw [Config.rename, Option.map_map, Option.map_map]
  rfl

/-- A comparison sees and shows the same of both. -/
theorem report_rename {f : Reported} (hf : f ∈ liveFields ++ restartFields) (old new : Config) :
    f.report (old.rename ρ) (new.rename ρ) = f.report old new := by
  revert f
  simp only [liveFields, restartFields, List.cons_append, List.nil_append, List.forall_mem_cons]
  refine ⟨rfl, ?_, rfl, ?_, rfl, rfl, rfl, rfl, rfl, rfl, rfl, rfl, rfl, rfl, rfl, rfl, rfl, rfl,
    fun f hf => absurd hf List.not_mem_nil⟩
  · exact Reported.report_congr ρ.injective.eq_iff rfl rfl
  · refine Reported.report_congr ?_ rfl rfl
    dsimp only
    rw [rename_manager, rename_manager, (Option.map_injective ρ.injective).eq_iff]

theorem reportChanges_rename (old new : Config) :
    reportChanges (old.rename ρ) (new.rename ρ) = reportChanges old new := by
  rw [reportChanges, reportChanges, reportLiveChanges, reportLiveChanges,
    reportRestartRequiredChanges, reportRestartRequiredChanges, ← List.flatMap_append,
    ← List.flatMap_append]
  exact List.flatMap_congr fun f hf => report_rename hf old new

/-- The loader refuses both, with one error, or neither. -/
theorem validate_rename (config : Config) :
    validate parseUri (config.rename ρ).checked = validate parseUri config.checked := by
  have hkey : (config.rename ρ).checked.upstream.apiKey ≠ "" ↔ config.checked.upstream.apiKey ≠ "" :=
    not_congr ρ.eq_empty_iff
  have hmanager : (∀ manager ∈ (config.rename ρ).checked.manager, manager.password ≠ "") ↔
      ∀ manager ∈ config.checked.manager, manager.password ≠ "" := by
    simp [Config.rename, Config.checked, ManagerConfig.rename, ρ.eq_empty_iff]
  unfold validate
  simp only [hkey, hmanager]
  rfl

theorem rename_manager_injective : Function.Injective (ManagerConfig.rename ρ) := by
  intro manager manager' h
  exact password_injective (ρ.injective (congrArg ManagerConfig.password h))

theorem rename_injective : Function.Injective (Config.rename ρ) := by
  intro config config' h
  obtain ⟨_, ⟨⟨_, _⟩, _, _⟩, _, manager, _⟩ := config
  obtain ⟨_, ⟨⟨_, _⟩, _, _⟩, _, manager', _⟩ := config'
  simp only [Config.rename, Config.mk.injEq, UpstreamConfig.mk.injEq,
    PartnerPortal.UpstreamConfig.mk.injEq] at h
  obtain ⟨rfl, ⟨⟨rfl, hkey⟩, rfl, rfl⟩, rfl, hmanager, rfl⟩ := h
  obtain rfl := ρ.injective hkey
  obtain rfl := Option.map_injective rename_manager_injective hmanager
  rfl

theorem fromFile_ok {content : String} {config : Config} (h : fromStr content = .ok config) :
    fromFile parseUri fromStr (.ok content) =
      ((validate parseUri config.checked).mapError LoadError.refused).map fun _ => config := by
  change ((fromStr content).mapError _ >>= _) = _
  rw [h]
  change ((validate parseUri config.checked).mapError LoadError.refused >>= _) = _
  cases validate parseUri config.checked <;> rfl

theorem fromFile_error {content message : String} (h : fromStr content = .error message) :
    fromFile parseUri fromStr (.ok content) =
      .error (.yamlParse (String.ofList (redactScalars message.toList))) := by
  change ((fromStr content).mapError _ >>= _) = _
  rw [h]
  rfl

/-- Both files are refused, with one text, or they load as one file with other credentials. -/
theorem fromFile_same {read read' : Read} (h : SameRead fromStr ρ read read') :
    (∃ e, fromFile parseUri fromStr read = .error e ∧ fromFile parseUri fromStr read' = .error e) ∨
      ∃ config, fromFile parseUri fromStr read = .ok config ∧
        fromFile parseUri fromStr read' = .ok (config.rename ρ) := by
  cases h with
  | io message => exact .inl ⟨.io message, rfl, rfl⟩
  | @parsed content content' config hcontent hcontent' =>
    rw [fromFile_ok hcontent, fromFile_ok hcontent', validate_rename]
    cases validate parseUri config.checked with
    | error e => exact .inl ⟨.refused e, rfl, rfl⟩
    | ok => exact .inr ⟨config, rfl, rfl⟩
  | @refused content content' m m' hcontent hcontent' hhidden =>
    rw [fromFile_error hcontent, fromFile_error hcontent', String.toList_ofList,
      String.toList_ofList, redactScalars_text, redactScalars_text, hhidden]
    exact .inl ⟨_, rfl, rfl⟩

/-- Two tasks, one of which has seen other credentials. -/
structure SameTask (hash : Hash) (ρ : Renaming) (w w' : Watcher) (config : Config) : Prop where
  left : w.Holds hash config
  right : w'.Holds hash (config.rename ρ)
  log : w.log.map LogLine.hidden = w'.log.map LogLine.hidden

theorem SameTask.loaded {w w' : Watcher} {config new : Config} (h : SameTask hash ρ w w' config)
    (hinj : hash new = hash config → new = config)
    (hinj' : hash (new.rename ρ) = hash (config.rename ρ) → new.rename ρ = config.rename ρ) :
    SameTask hash ρ (w.loaded hash new) (w'.loaded hash (new.rename ρ)) new := by
  refine ⟨(h.left.loaded hinj).1, (h.right.loaded hinj').1, ?_⟩
  have hiff : hash new ≠ w.lastHash ↔ hash (new.rename ρ) ≠ w'.lastHash := by
    rw [h.left.lastHash, h.right.lastHash]
    refine not_congr ⟨fun heq => ?_, fun heq => ?_⟩
    · rw [hinj heq]
    · rw [rename_injective (hinj' heq)]
  unfold Watcher.loaded
  split <;> rename_i hne
  · rw [if_pos (hiff.1 hne), h.left.current, h.right.current]
    simp [ConfigSnapshot.new, reportChanges_rename, h.log, LogLine.hidden]
  · rw [if_neg (mt hiff.2 hne)]
    exact h.log

theorem SameTask.run {w w' : Watcher} {config : Config} {reads reads' : List Read}
    (hreads : List.Forall₂ (SameRead fromStr ρ) reads reads') (h : SameTask hash ρ w w' config)
    (hinj : Set.InjOn hash {c | c ∈ config :: accepted parseUri fromStr reads})
    (hinj' : Set.InjOn hash {c | c ∈ config.rename ρ :: accepted parseUri fromStr reads'}) :
    (w.run parseUri fromStr hash reads).log.map LogLine.hidden =
      (w'.run parseUri fromStr hash reads').log.map LogLine.hidden := by
  induction hreads generalizing w w' config with
  | nil => exact h.log
  | cons hread _ ih =>
    rw [Watcher.run, Watcher.run, List.foldl_cons, List.foldl_cons, ← Watcher.run, ← Watcher.run]
    rcases @fromFile_same parseUri _ _ _ _ hread with ⟨e, hl, hr⟩ | ⟨new, hl, hr⟩
    · rw [accepted_error hl] at hinj
      rw [accepted_error hr] at hinj'
      rw [Watcher.tick_error hl, Watcher.tick_error hr]
      refine ih ⟨⟨h.left.current, h.left.lastHash⟩, ⟨h.right.current, h.right.lastHash⟩, ?_⟩
        hinj hinj'
      rw [List.map_append, List.map_append, h.log]
    · rw [accepted_ok hl] at hinj
      rw [accepted_ok hr] at hinj'
      rw [Watcher.tick_ok hl, Watcher.tick_ok hr]
      refine ih (h.loaded (fun heq => ?_) fun heq => ?_)
        (hinj.mono fun c hc => List.mem_cons_of_mem config hc)
        (hinj'.mono fun c hc => List.mem_cons_of_mem (config.rename ρ) hc)
      · exact hinj (List.mem_cons_of_mem config List.mem_cons_self) List.mem_cons_self heq
      · exact hinj' (List.mem_cons_of_mem _ List.mem_cons_self) List.mem_cons_self heq

end Renamed

/-- The log does not tell one credential from another: while no two of the configurations that one
task sees have one hash, two tasks whose files differ in the credentials, and in what the parser
quotes of the text it refuses, log the same lines but for the hashes. -/
theorem run_renamed (parseUri : ParseUri) (fromStr : FromStr) (hash : Hash) (ρ : Renaming)
    (initial : Config) {reads reads' : List Read}
    (hreads : List.Forall₂ (SameRead fromStr ρ) reads reads')
    (hinj : Set.InjOn hash {c | c ∈ initial :: accepted parseUri fromStr reads})
    (hinj' : Set.InjOn hash {c | c ∈ initial.rename ρ :: accepted parseUri fromStr reads'}) :
    ((Watcher.start hash initial).run parseUri fromStr hash reads).log.map LogLine.hidden =
      ((Watcher.start hash (initial.rename ρ)).run parseUri fromStr hash reads').log.map
        LogLine.hidden := by
  have hstart : SameTask hash ρ (.start hash initial) (.start hash (initial.rename ρ)) initial :=
    ⟨Watcher.start_holds initial, Watcher.start_holds (initial.rename ρ), rfl⟩
  exact hstart.run hreads hinj hinj'

namespace Sample

/-- A zero after each key. -/
def zeros : Renaming where
  toFun secret := if secret = "" then "" else secret ++ "0"
  injective := by
    intro secret secret' h
    dsimp only at h
    split at h <;> split at h <;> rename_i hne hne'
    · rw [hne, hne']
    · simp at h
    · simp at h
    · exact (String.append_left_inj "0").1 h
  empty := rfl

end Sample

/-- What is logged of the rotation of one key is what is logged of another's. -/
theorem run_renamed_rotated :
    ((Watcher.start Sample.keyHash (Sample.file "sk-1")).run Sample.fileUri Sample.fileFromStr
        Sample.keyHash (Sample.rotation "sk-1" "sk-2")).log.map LogLine.hidden =
      ((Watcher.start Sample.keyHash (Sample.file "sk-10")).run Sample.fileUri Sample.fileFromStr
        Sample.keyHash (Sample.rotation "sk-10" "sk-20")).log.map LogLine.hidden := by
  have hmisplaced := Sample.misplaced_hidden "sk-2".toList "sk-20".toList
  have hreads : List.Forall₂ (SameRead Sample.fileFromStr Sample.zeros)
      (Sample.rotation "sk-1" "sk-2") (Sample.rotation "sk-10" "sk-20") :=
    .cons (@SameRead.parsed _ _ _ _ (Sample.file "sk-1") rfl rfl) <| .cons (.io _) <|
      .cons (.refused rfl rfl hmisplaced) <|
      .cons (@SameRead.parsed _ _ _ _ (Sample.file "sk-2") rfl rfl) .nil
  have haccepted : accepted Sample.fileUri Sample.fileFromStr (Sample.rotation "sk-1" "sk-2") =
      [Sample.file "sk-1", Sample.file "sk-2"] := rfl
  have haccepted' : accepted Sample.fileUri Sample.fileFromStr (Sample.rotation "sk-10" "sk-20") =
      [Sample.file "sk-10", Sample.file "sk-20"] := rfl
  refine run_renamed Sample.fileUri Sample.fileFromStr Sample.keyHash Sample.zeros
    (Sample.file "sk-1") hreads ?_ ?_
  · rw [haccepted]
    simp [Set.InjOn, Sample.keyHash, Sample.file]
  · rw [haccepted']
    simp [Set.InjOn, Sample.keyHash, Sample.file, Config.rename, Sample.zeros]

end PartnerPortal.HotReload
