import PartnerPortal.Ledger.Instance

/-!
# Who is alive

What the lock files of a cluster say about its instances, in every order of their steps.

Results:
- `reached` — the invariant of a cluster holds at the end of every run;
- `serving_spared` — an instance that serves under its lock keeps lock file, registration and requests;
- `gone_resolved` — a pass that began after the end of an instance, and could probe it, resolves its
  requests and sweeps it.
-/

namespace PartnerPortal

open FileLock

/-- An instance that was registered and does not hold its lock any more. -/
def Stage.condemned (stage : Stage) : Bool := stage.settled && !stage.holds

theorem Stage.condemned_iff {stage : Stage} :
    stage.condemned = true ↔ stage.settled = true ∧ stage.holds = false := by
  simp [Stage.condemned]

namespace Cluster

/-! ## The invariant -/

/-- What the stage of an instance says about its lock file. -/
def Placed (files : Files String Descriptor) (id : String) : Stage → Prop
  | .absent => files.entry (lockPathFor id) = none ∧ files.opened (.own id) = none
  | .opened => ∃ file, files.entry (lockPathFor id) = some file ∧ files.opened (.own id) = some file
  | .claimed locked | .running locked | .released locked =>
    locked = true → files.Holds (.own id) (lockPathFor id)
  | .removed => True
  | .gone => files.opened (.own id) = none

/-- The database names the instance. -/
def Known (c : Cluster) (id : String) : Prop :=
  id ∈ c.ledger.instances ∨ ∃ row ∈ c.ledger.records, row.instanceId = some id

/-- A pass found the instance dead. -/
def Condemned (c : Cluster) (id : String) : Prop :=
  (∃ instanceId, id ∈ c.swept instanceId) ∨
    ∃ run ∈ c.recovery, ∃ attempt, (id, attempt) ∈ run.attempts ∧ probe attempt = .dead

/-- A pass has the instance before it. -/
def Pending (c : Cluster) (id : String) : Prop :=
  ∃ run ∈ c.recovery, id ∈ run.todo ∨ ∃ locked, run.probing = some (id, locked)

/-- What is true of an instance at a stage. -/
structure Sited (c : Cluster) (id : String) (stage : Stage) : Prop where
  placed : Placed c.files id stage
  known : c.Known id → stage.settled = true
  registered : stage = .running true → id ∈ c.ledger.instances
  condemned : c.Condemned id → stage.condemned = true
  pending : c.Pending id → stage.settled = true

/-- The lock file a pass has open is that of the candidate, and of nobody else. -/
def Opened (c : Cluster) (id : String) : Prop :=
  ∃ file, c.files.opened .probe = some file ∧
    (∀ id', c.files.opened (.own id') = some file → id' = id) ∧
    ((c.stage id).holds = true → c.files.entry (lockPathFor id) = some file)

structure Inv (c : Cluster) : Prop where
  sound : c.files.Sound
  /-- two instances never have one file -/
  apart : ∀ id id' file, c.files.opened (.own id) = some file →
    c.files.entry (lockPathFor id') = some file → id = id'
  sited : ∀ id, c.Sited id (c.stage id)
  closed : (∀ run ∈ c.recovery, run.probing = none) → c.files.opened .probe = none
  probing : ∀ run ∈ c.recovery, ∀ id locked, run.probing = some (id, locked) → c.Opened id
  runner : ∀ run ∈ c.recovery, c.stage run.instanceId ≠ .gone

section Frames

variable {files files' : Files String Descriptor} {id id' : String} {stage : Stage} {d : Descriptor}

theorem own_ne (h : id' ≠ id) : Descriptor.own id' ≠ .own id := fun heq => h (Descriptor.own.inj heq)

theorem probe_ne (id : String) : Descriptor.probe ≠ .own id := fun heq => by cases heq

theorem path_ne (h : id' ≠ id) : lockPathFor id' ≠ lockPathFor id :=
  fun heq => h (lockPathFor_injective heq)

/-- What leaves name, description and lock of an instance alone. -/
theorem Placed.frame (h : Placed files id stage)
    (hentry : files'.entry (lockPathFor id) = files.entry (lockPathFor id))
    (hopened : files'.opened (.own id) = files.opened (.own id))
    (hholds : files.Holds (.own id) (lockPathFor id) → files'.Holds (.own id) (lockPathFor id)) :
    Placed files' id stage := by
  cases stage with
  | absent => exact ⟨hentry.trans h.1, hopened.trans h.2⟩
  | opened =>
    obtain ⟨file, hfile, hown⟩ := h
    exact ⟨file, hentry.trans hfile, hopened.trans hown⟩
  | claimed | running | released => exact fun hlocked => hholds (h hlocked)
  | removed => trivial
  | gone => exact hopened.trans h

theorem Placed.openAt (h : Placed files id stage) {name : String} :
    Placed (files.openAt name .probe) id stage :=
  h.frame rfl (Files.openAt_opened_of_ne (probe_ne id).symm) fun hholds => hholds.openAt (probe_ne id)

theorem Placed.lock (h : Placed files id stage) : Placed (files.lock d) id stage :=
  h.frame (by rw [Files.lock_entry]) (by rw [Files.lock_opened]) fun hholds => hholds.lock d

theorem Placed.close (h : Placed files id stage) (hd : d ≠ .own id) :
    Placed (files.close d) id stage :=
  h.frame rfl (Files.close_opened_of_ne hd.symm) fun hholds => hholds.close hd

theorem Placed.create (h : Placed files id stage) (hne : id' ≠ id) :
    Placed (files.create (lockPathFor id') (.own id')) id stage :=
  h.frame (Files.create_entry_of_ne (path_ne hne.symm)) (Files.create_opened_of_ne (own_ne hne.symm))
    fun hholds => hholds.create (own_ne hne)

theorem Placed.unlink (h : Placed files id stage) (hne : id' ≠ id) :
    Placed (files.unlink (lockPathFor id')) id stage :=
  h.frame (Function.update_of_ne (path_ne hne.symm) _ _) rfl
    fun hholds => hholds.unlink (path_ne hne)

/-- Of an instance that lost its lock nothing says that its lock file is there. -/
theorem Placed.condemned (h : Placed files id stage) (hstage : stage.condemned = true)
    (hopened : files'.opened (.own id) = files.opened (.own id)) : Placed files' id stage := by
  obtain ⟨hsettled, hholds⟩ := Stage.condemned_iff.1 hstage
  cases stage with
  | absent | opened | claimed => cases hsettled
  | running | released =>
    intro hlocked
    cases hholds.symm.trans hlocked
  | removed => trivial
  | gone => exact hopened.trans h

end Frames

/-- What is true of an instance stays true of it, where less is said about it. -/
theorem Sited.mono {c c' : Cluster} {id : String} {stage : Stage} (h : c.Sited id stage)
    (hplaced : Placed c'.files id stage) (hknown : c'.Known id → c.Known id)
    (hregistered : stage = .running true → id ∈ c.ledger.instances → id ∈ c'.ledger.instances)
    (hcondemned : c'.Condemned id → c.Condemned id) (hpending : c'.Pending id → c.Pending id) :
    c'.Sited id stage where
  placed := hplaced
  known := fun hid => h.known (hknown hid)
  registered := fun hstage => hregistered hstage (h.registered hstage)
  condemned := fun hid => h.condemned (hcondemned hid)
  pending := fun hid => h.pending (hpending hid)

/-- Where neither database nor pass moves, only the lock file counts. -/
theorem Sited.files {c : Cluster} {id : String} {stage : Stage} {files : Files String Descriptor}
    {stages : String → Stage} (h : c.Sited id stage) (hplaced : Placed files id stage) :
    Sited { c with files := files, stage := stages } id stage :=
  h.mono hplaced (fun hid => hid) (fun _ hid => hid) (fun hid => hid) fun hid => hid

/-- An instance that is not settled is known to nobody. -/
theorem Sited.unsettled {c : Cluster} {id : String} {stage stage' : Stage} (h : c.Sited id stage)
    (hstage : stage.settled = false) (hregistered : stage' ≠ .running true)
    {files : Files String Descriptor} {stages : String → Stage} (hplaced : Placed files id stage') :
    Sited { c with files := files, stage := stages } id stage' where
  placed := hplaced
  known := fun hid => absurd (h.known hid) (by rw [hstage]; exact Bool.false_ne_true)
  registered := fun heq => absurd heq hregistered
  condemned := fun hid =>
    absurd (Stage.condemned_iff.1 (h.condemned hid)).1 (by rw [hstage]; exact Bool.false_ne_true)
  pending := fun hid => absurd (h.pending hid) (by rw [hstage]; exact Bool.false_ne_true)

/-! ## Every step keeps it -/

namespace Inv

variable {c : Cluster} {id id' : String}

/-- A stage that lost its lock has no lock file of its own to be found. -/
theorem not_held (h : c.Inv) (hsettled : (c.stage id).settled = true)
    (hheld : ¬c.files.Holds (.own id) (lockPathFor id)) : (c.stage id).condemned = true := by
  refine Stage.condemned_iff.2 ⟨hsettled, ?_⟩
  by_contra hholds
  have hplaced := (h.sited id).placed
  cases hstage : c.stage id with
  | absent | opened | removed | gone => simp [hstage, Stage.holds] at hholds
  | claimed locked | running locked | released locked =>
    rw [hstage] at hplaced hholds
    exact hheld (hplaced (by simpa [Stage.holds] using hholds))

theorem boot (h : c.Inv) (hstage : c.stage id = .absent) :
    Inv { c with
      files := c.files.create (lockPathFor id) (.own id)
      stage := Function.update c.stage id .opened } := by
  have hsited := h.sited id
  rw [hstage] at hsited
  obtain ⟨hentry, hclosed⟩ := hsited.placed
  obtain ⟨hnewEntry, hnewOpened⟩ := Files.create_new_self (d := Descriptor.own id) hentry
  have hunsettled : ∀ id', (c.stage id').settled = true → id' ≠ id := by
    rintro id' hsettled rfl
    rw [hstage] at hsettled
    cases hsettled
  refine ⟨h.sound.create hclosed, fun id₁ id₂ file hopened hfile => ?_,
    (Function.forall_update_iff c.stage fun id' stage => Sited _ id' stage).2
      ⟨hsited.unsettled rfl (by simp) ⟨_, hnewEntry, hnewOpened⟩, fun id' hne =>
        (h.sited id').files ((h.sited id').placed.create hne.symm)⟩, ?_, ?_, ?_⟩
  · dsimp only at hopened hfile
    by_cases h₁ : id₁ = id
    · by_cases h₂ : id₂ = id
      · rw [h₁, h₂]
      · rw [Files.create_entry_of_ne (path_ne h₂)] at hfile
        rw [h₁, hnewOpened] at hopened
        cases hopened
        exact absurd (h.sound.entry_lt _ _ hfile) (Nat.lt_irrefl _)
    · rw [Files.create_opened_of_ne (own_ne h₁)] at hopened
      by_cases h₂ : id₂ = id
      · rw [h₂, hnewEntry] at hfile
        cases hfile
        exact absurd (h.sound.opened_lt _ _ hopened) (Nat.lt_irrefl _)
      · rw [Files.create_entry_of_ne (path_ne h₂)] at hfile
        exact h.apart id₁ id₂ file hopened hfile
  · intro hidle
    exact (Files.create_opened_of_ne (probe_ne id)).trans (h.closed hidle)
  · intro run hrun other locked hprobing
    have hother := hunsettled other ((h.sited other).pending ⟨run, hrun, .inr ⟨locked, hprobing⟩⟩)
    obtain ⟨file, hopened, hown, hholds⟩ := h.probing run hrun other locked hprobing
    refine ⟨file, (Files.create_opened_of_ne (probe_ne id)).trans hopened, fun id' hid' => ?_,
      fun hstage' => ?_⟩
    · dsimp only at hid'
      by_cases hid : id' = id
      · rw [hid, hnewOpened] at hid'
        cases hid'
        exact absurd (h.sound.opened_lt _ _ hopened) (Nat.lt_irrefl _)
      · rw [Files.create_opened_of_ne (own_ne hid)] at hid'
        exact hown id' hid'
    · dsimp only at hstage'
      rw [Function.update_of_ne hother] at hstage'
      exact (Files.create_entry_of_ne (path_ne hother)).trans (hholds hstage')
  · intro run hrun
    by_cases hid : run.instanceId = id
    · simp [hid]
    · simpa [hid] using h.runner run hrun

theorem claim (h : c.Inv) (hstage : c.stage id = .opened) {locked : Bool} {files}
    (hfiles : files = c.files.lock (.own id) ∧ locked = c.files.lockable (.own id) ∨
      files = c.files ∧ locked = false) :
    Inv { c with files := files, stage := Function.update c.stage id (.claimed locked) } := by
  have hsited := h.sited id
  rw [hstage] at hsited
  obtain ⟨file, hentry, hopened⟩ := hsited.placed
  have hsame : files.entry = c.files.entry ∧ files.opened = c.files.opened := by
    rcases hfiles with ⟨rfl, -⟩ | ⟨rfl, -⟩
    · exact ⟨Files.lock_entry .., Files.lock_opened ..⟩
    · exact ⟨rfl, rfl⟩
  refine ⟨?_, fun id₁ id₂ file h₁ h₂ => ?_,
    (Function.forall_update_iff c.stage fun id' stage => Sited _ id' stage).2
      ⟨hsited.unsettled rfl (by simp) ?_, fun id' _ => (h.sited id').files ?_⟩, ?_, ?_, ?_⟩
  · rcases hfiles with ⟨rfl, -⟩ | ⟨rfl, -⟩
    · exact h.sound.lock
    · exact h.sound
  · rw [hsame.2] at h₁
    rw [hsame.1] at h₂
    exact h.apart id₁ id₂ file h₁ h₂
  · intro hlocked
    rcases hfiles with ⟨rfl, rfl⟩ | ⟨-, rfl⟩
    · exact Files.Holds.of_lock hentry hopened hlocked
    · cases hlocked
  · rcases hfiles with ⟨rfl, -⟩ | ⟨rfl, -⟩
    · exact (h.sited id').placed.lock
    · exact (h.sited id').placed
  · intro hidle
    rw [hsame.2]
    exact h.closed hidle
  · intro run hrun other locked' hprobing
    obtain ⟨file', hprobe, hown, hholds⟩ := h.probing run hrun other locked' hprobing
    have hother : other ≠ id := by
      rintro rfl
      have hsettled := (h.sited other).pending ⟨run, hrun, .inr ⟨locked', hprobing⟩⟩
      rw [hstage] at hsettled
      cases hsettled
    refine ⟨file', by rw [hsame.2]; exact hprobe, fun id' hid' => ?_, fun hstage' => ?_⟩
    · rw [hsame.2] at hid'
      exact hown id' hid'
    · dsimp only at hstage'
      rw [Function.update_of_ne hother] at hstage'
      rw [hsame.1]
      exact hholds hstage'
  · intro run hrun
    by_cases hid : run.instanceId = id
    · simp [hid]
    · simpa [hid] using h.runner run hrun

/-- Between passes the database may be written, as long as it names nobody who never registered. -/
theorem written (h : c.Inv) (hrecovery : c.recovery = none) {ledger : Ledger} {stages : String → Stage}
    (hsited : ∀ id, Sited { c with ledger := ledger, stage := stages } id (stages id)) :
    Inv { c with ledger := ledger, stage := stages } where
  sound := h.sound
  apart := h.apart
  sited := hsited
  closed := h.closed
  probing := fun run hrun => by simp [hrecovery] at hrun
  runner := fun run hrun => by simp [hrecovery] at hrun

theorem register (h : c.Inv) (hrecovery : c.recovery = none) {locked : Bool}
    (hstage : c.stage id = .claimed locked) :
    Inv { c with
      ledger := { c.ledger with
        instances := if id ∈ c.ledger.instances then c.ledger.instances
          else c.ledger.instances ++ [id] }
      stage := Function.update c.stage id (.running locked) } := by
  have hsited := h.sited id
  rw [hstage] at hsited
  have hmem : ∀ id', id' ∈ (if id ∈ c.ledger.instances then c.ledger.instances
      else c.ledger.instances ++ [id]) ↔ id' ∈ c.ledger.instances ∨ id' = id := by
    intro id'
    split
    · rename_i hid
      exact ⟨.inl, fun hor => hor.elim (fun hin => hin) fun heq => heq ▸ hid⟩
    · simp
  refine h.written hrecovery ((Function.forall_update_iff c.stage fun id' stage =>
    Sited _ id' stage).2 ⟨⟨hsited.placed, fun _ => rfl, fun _ => (hmem id).2 (.inr rfl),
      fun hid => ?_, fun _ => rfl⟩, fun id' hne => ?_⟩)
  · cases (Stage.condemned_iff.1 (hsited.condemned hid)).1
  · refine (h.sited id').mono (h.sited id').placed (fun hknown => ?_)
      (fun _ hin => (hmem id').2 (.inl hin)) (fun hid => hid) fun hid => hid
    rcases hknown with hin | hrow
    · exact .inl (((hmem id').1 hin).resolve_right hne)
    · exact .inr hrow

theorem flush (h : c.Inv) (hrecovery : c.recovery = none) {locked : Bool}
    (hstage : c.stage id = .running locked) {ledger : Ledger}
    (howners : KeepsOwners (some id) c.ledger ledger) : Inv { c with ledger := ledger } := by
  refine h.written hrecovery fun id' => ⟨(h.sited id').placed, fun hknown => ?_, fun hrunning => ?_,
    (h.sited id').condemned, (h.sited id').pending⟩
  · rcases hknown with hin | ⟨row, hrow, hid⟩
    · rw [howners.instances] at hin
      exact (h.sited id').known (.inl hin)
    · rcases howners.rows row hrow with hown | ⟨old, hold, heq⟩
      · cases hown.symm.trans hid
        rw [hstage]
        rfl
      · exact (h.sited id').known (.inr ⟨old, hold, heq.trans hid⟩)
  · rw [howners.instances]
    exact (h.sited id').registered hrunning

theorem release (h : c.Inv) (hrecovery : c.recovery = none) {locked : Bool}
    (hstage : c.stage id = .running locked) {instances : List String}
    (hgone : ∀ id' ∈ instances, id' ∈ c.ledger.instances)
    (hkept : ∀ id' ∈ c.ledger.instances, id' ≠ id → id' ∈ instances) :
    Inv { c with
      ledger := { c.ledger with instances := instances }
      stage := Function.update c.stage id (.released locked) } := by
  have hsited := h.sited id
  rw [hstage] at hsited
  refine h.written hrecovery ((Function.forall_update_iff c.stage fun id' stage =>
    Sited _ id' stage).2 ⟨⟨hsited.placed, fun _ => rfl, (fun heq => by cases heq),
      hsited.condemned, fun _ => rfl⟩, fun id' hne => ?_⟩)
  exact (h.sited id').mono (h.sited id').placed (fun hknown => hknown.imp_left (hgone id'))
    (fun _ hin => hkept id' hin hne) (fun hid => hid) fun hid => hid

/-- A lock file is removed whose instance lost its lock, or loses it now. -/
theorem unlink (h : c.Inv) {stages : String → Stage} {swept : String → List String}
    (hsited : ∀ id, Sited { c with
      files := c.files.unlink (lockPathFor id'), stage := stages, swept := swept } id (stages id))
    (hheld : ∀ id, (stages id).holds = true → id ≠ id' ∧ (c.stage id).holds = true)
    (hgone : ∀ id, stages id = .gone → c.stage id = .gone) :
    Inv { c with files := c.files.unlink (lockPathFor id'), stage := stages, swept := swept } where
  sound := h.sound.unlink
  apart := fun id₁ id₂ file h₁ h₂ => h.apart id₁ id₂ file h₁ (Files.unlink_entry_iff.1 h₂).1
  sited := hsited
  closed := h.closed
  probing := by
    intro run hrun other locked hprobing
    obtain ⟨file, hopened, hown, hholds⟩ := h.probing run hrun other locked hprobing
    refine ⟨file, hopened, hown, fun hstage => ?_⟩
    obtain ⟨hne, hstage⟩ := hheld other hstage
    exact Files.unlink_entry_iff.2 ⟨hholds hstage, path_ne hne⟩
  runner := fun run hrun hstage => h.runner run hrun (hgone _ hstage)

/-- The guard of an instance is dropped. -/
theorem drop (h : c.Inv) {files}
    (hfiles : files = c.files.unlink (lockPathFor id) ∨ files = c.files) :
    Inv { c with files := files, stage := Function.update c.stage id .removed } := by
  have hholds : ∀ id', (Function.update c.stage id .removed id').holds = true →
      id' ≠ id ∧ (c.stage id').holds = true := by
    intro id' hstage
    by_cases hid : id' = id
    · rw [hid, Function.update_self] at hstage
      cases hstage
    · rw [Function.update_of_ne hid] at hstage
      exact ⟨hid, hstage⟩
  have hgone : ∀ id', Function.update c.stage id .removed id' = .gone → c.stage id' = .gone := by
    intro id' hstage
    by_cases hid : id' = id
    · rw [hid, Function.update_self] at hstage
      cases hstage
    · rwa [Function.update_of_ne hid] at hstage
  have hsited : ∀ id', Sited { c with
      files := files, stage := Function.update c.stage id .removed } id'
        (Function.update c.stage id .removed id') :=
    (Function.forall_update_iff c.stage fun id' stage => Sited _ id' stage).2
      ⟨⟨trivial, fun _ => rfl, (fun heq => by cases heq), fun _ => rfl, fun _ => rfl⟩,
        fun id' hne => (h.sited id').files ?_⟩
  · rcases hfiles with rfl | rfl
    · exact h.unlink hsited hholds hgone
    · refine ⟨h.sound, h.apart, hsited, h.closed, fun run hrun other locked hprobing => ?_,
        fun run hrun hstage => h.runner run hrun (hgone _ hstage)⟩
      obtain ⟨file, hopened, hown, hentry⟩ := h.probing run hrun other locked hprobing
      exact ⟨file, hopened, hown, fun hstage => hentry (hholds other hstage).2⟩
  · rcases hfiles with rfl | rfl
    · exact (h.sited id').placed.unlink hne.symm
    · exact (h.sited id').placed

theorem removeLockFile (h : c.Inv) {dead : String} {rest : List String} {instanceId : String}
    (hswept : c.swept instanceId = dead :: rest) {files}
    (hfiles : files = c.files.unlink (lockPathFor dead) ∨ files = c.files) :
    Inv { c with files := files, swept := Function.update c.swept instanceId rest } := by
  have hdead : (c.stage dead).condemned = true :=
    (h.sited dead).condemned (.inl ⟨instanceId, hswept ▸ List.mem_cons_self⟩)
  have hcondemned : ∀ id, Condemned { c with
      files := files, swept := Function.update c.swept instanceId rest } id → c.Condemned id := by
    rintro id (⟨other, hin⟩ | hrun)
    · refine .inl ?_
      dsimp only at hin
      by_cases hother : other = instanceId
      · rw [hother, Function.update_self] at hin
        exact ⟨instanceId, hswept ▸ List.mem_cons_of_mem dead hin⟩
      · rw [Function.update_of_ne hother] at hin
        exact ⟨other, hin⟩
    · exact .inr hrun
  have hsited : ∀ id, Sited { c with
      files := files, swept := Function.update c.swept instanceId rest } id (c.stage id) := by
    intro id
    refine (h.sited id).mono ?_ (fun hid => hid) (fun _ hin => hin) (hcondemned id) fun hid => hid
    rcases hfiles with rfl | rfl
    · by_cases hid : id = dead
      · rw [hid]
        exact (h.sited dead).placed.condemned hdead rfl
      · exact (h.sited id).placed.unlink (Ne.symm hid)
    · exact (h.sited id).placed
  rcases hfiles with rfl | rfl
  · refine h.unlink hsited (fun id hstage => ⟨?_, hstage⟩) fun _ hstage => hstage
    rintro rfl
    rw [(Stage.condemned_iff.1 hdead).2] at hstage
    cases hstage
  · exact ⟨h.sound, h.apart, hsited, h.closed, h.probing, h.runner⟩

theorem rolledBack (h : c.Inv) : c.rolledBack.Inv where
  sound := h.sound.close
  apart := fun id₁ id₂ file h₁ h₂ =>
    h.apart id₁ id₂ file ((Files.close_opened_of_ne (probe_ne id₁).symm).symm.trans h₁) h₂
  sited := fun id => (h.sited id).mono ((h.sited id).placed.close (probe_ne id)) (fun hid => hid)
    (fun _ hin => hin) (fun hid => hid.imp_right fun ⟨_, hrun, _⟩ => nomatch hrun)
    fun ⟨_, hrun, _⟩ => nomatch hrun
  closed := fun _ => Files.close_opened_self ..
  probing := fun _ hrun => nomatch hrun
  runner := fun _ hrun => nomatch hrun

/-- A process that ends outside a pass leaves its lock file behind, unlocked. -/
theorem closed_own (h : c.Inv) (hrunner : ∀ run ∈ c.recovery, run.instanceId ≠ id) :
    Inv { c with
      files := c.files.close (.own id)
      stage := Function.update c.stage id .gone
      swept := Function.update c.swept id [] } := by
  have hopened : ∀ d file, (c.files.close (.own id)).opened d = some file →
      c.files.opened d = some file := by
    intro d file hd
    by_cases hid : d = .own id
    · rw [hid, Files.close_opened_self] at hd
      cases hd
    · rwa [Files.close_opened_of_ne hid] at hd
  have hcondemned : ∀ id', Condemned { c with
      files := c.files.close (.own id)
      stage := Function.update c.stage id .gone
      swept := Function.update c.swept id [] } id' → c.Condemned id' := by
    rintro id' (⟨other, hin⟩ | hrun)
    · dsimp only at hin
      by_cases hother : other = id
      · rw [hother, Function.update_self] at hin
        cases hin
      · rw [Function.update_of_ne hother] at hin
        exact .inl ⟨other, hin⟩
    · exact .inr hrun
  refine ⟨h.sound.close, fun id₁ id₂ file h₁ h₂ => h.apart id₁ id₂ file (hopened _ _ h₁) h₂,
    (Function.forall_update_iff c.stage fun id' stage => Sited _ id' stage).2
      ⟨⟨Files.close_opened_self .., fun _ => rfl, (fun heq => by cases heq), fun _ => rfl,
        fun _ => rfl⟩, fun id' hne => (h.sited id').mono
          ((h.sited id').placed.close (own_ne hne.symm)) (fun hid => hid) (fun _ hin => hin)
          (hcondemned id') fun hid => hid⟩, fun hidle => ?_, ?_, fun run hrun => ?_⟩
  · exact (Files.close_opened_of_ne (probe_ne id)).trans (h.closed hidle)
  · intro run hrun other locked hprobing
    obtain ⟨file, hprobe, hown, hholds⟩ := h.probing run hrun other locked hprobing
    refine ⟨file, (Files.close_opened_of_ne (probe_ne id)).trans hprobe,
      fun id' hid' => hown id' (hopened _ _ hid'), fun hstage => hholds ?_⟩
    dsimp only at hstage
    by_cases hother : other = id
    · rw [hother, Function.update_self] at hstage
      cases hstage
    · rwa [Function.update_of_ne hother] at hstage
  · simpa [hrunner run hrun] using h.runner run hrun

theorem ended (h : c.Inv) (id : String) : (c.ended id).Inv := by
  unfold Cluster.ended
  by_cases hrun : (c.recovery.any fun run => run.instanceId = id) = true
  · simp only [hrun, if_true]
    exact h.rolledBack.closed_own fun _ hrun => nomatch hrun
  · simp only [hrun]
    refine h.closed_own fun run hmem heq => hrun ?_
    simp [Option.mem_def.1 hmem, heq]

/-! ### The steps of a pass -/

theorem begin (h : c.Inv) (hrecovery : c.recovery = none) {run : RecoveryRun}
    (hrunner : c.stage run.instanceId ≠ .gone) (hprobing : run.probing = none)
    (hattempts : run.attempts = []) (htodo : ∀ id ∈ run.todo, c.Known id) :
    Inv { c with recovery := some run } where
  sound := h.sound
  apart := h.apart
  sited := by
    intro id
    have hsited := h.sited id
    refine ⟨hsited.placed, hsited.known, hsited.registered, fun hid => hsited.condemned ?_,
      fun hid => ?_⟩
    · refine hid.imp_right fun ⟨_, hrun, attempt, hin, _⟩ => ?_
      cases hrun
      simp [hattempts] at hin
    · obtain ⟨_, hrun, hid | ⟨locked, hid⟩⟩ := hid
      · cases hrun
        exact hsited.known (htodo id hid)
      · cases hrun
        simp [hprobing] at hid
  closed := fun _ => h.closed fun run hrun => by simp [hrecovery] at hrun
  probing := by
    rintro _ ⟨⟩ id locked hid
    simp [hprobing] at hid
  runner := by
    rintro _ ⟨⟩
    exact hrunner

/-- A probe was answered. -/
theorem recorded (h : c.Inv) {run : RecoveryRun} (hrun : c.recovery = some run) {rest : List String}
    (hrest : ∀ id' ∈ rest, id' ∈ run.todo) {attempt : LockAttempt}
    (hdead : probe attempt = .dead → (c.stage id).condemned = true)
    {files : Files String Descriptor} {probing : Option (String × Bool)}
    (hsound : files.Sound) (hentry : files.entry = c.files.entry)
    (hown : ∀ id', files.opened (.own id') = c.files.opened (.own id'))
    (hplaced : ∀ id', Placed files id' (c.stage id'))
    (hclosed : probing = none → files.opened .probe = none)
    (hprobing : ∀ id' locked, probing = some (id', locked) →
      (∃ locked', run.probing = some (id', locked')) ∧
        files.opened .probe = c.files.opened .probe) :
    Inv { c with
      files := files
      recovery := some ({ run with todo := rest, probing := probing }.record id attempt) } where
  sound := hsound
  apart := fun id₁ id₂ file h₁ h₂ => by
    rw [hown] at h₁
    rw [hentry] at h₂
    exact h.apart id₁ id₂ file h₁ h₂
  sited := by
    intro id'
    have hsited := h.sited id'
    refine ⟨hplaced id', hsited.known, hsited.registered, fun hid => ?_, fun hid => ?_⟩
    · rcases hid with hswept | ⟨_, ⟨⟩, attempt', hin, hverdict⟩
      · exact hsited.condemned (.inl hswept)
      · rcases List.mem_append.1 hin with hold | hnew
        · exact hsited.condemned (.inr ⟨run, hrun, attempt', hold, hverdict⟩)
        · cases List.mem_singleton.1 hnew
          exact hdead hverdict
    · obtain ⟨_, ⟨⟩, hin | ⟨locked, hlocked⟩⟩ := hid
      · exact hsited.pending ⟨run, hrun, .inl (hrest id' hin)⟩
      · exact hsited.pending ⟨run, hrun, .inr (hprobing id' locked hlocked).1⟩
  closed := fun hidle => hclosed (hidle _ rfl)
  probing := by
    rintro _ ⟨⟩ id' locked hlocked
    obtain ⟨⟨locked', hold⟩, hsame⟩ := hprobing id' locked hlocked
    obtain ⟨file, hprobe, hothers, hholds⟩ := h.probing run hrun id' locked' hold
    refine ⟨file, hsame.trans hprobe, fun other hother => hothers other ?_, fun hstage => ?_⟩
    · exact (hown other).symm.trans hother
    · exact (congrFun hentry _).trans (hholds hstage)
  runner := by
    rintro _ ⟨⟩
    exact h.runner run hrun

theorem openNext (h : c.Inv) {run : RecoveryRun} (hrun : c.recovery = some run)
    (hprobing : run.probing = none) {rest : List String} (htodo : run.todo = id :: rest)
    (fault : Bool) : (c.openNext run id rest fault).Inv := by
  have hrest : ∀ id' ∈ rest, id' ∈ run.todo := fun id' hin => htodo ▸ List.mem_cons_of_mem id hin
  have hclosed : c.files.opened .probe = none := h.closed fun run' hrun' => by
    cases hrun.symm.trans hrun'
    exact hprobing
  have hsettled : (c.stage id).settled = true :=
    (h.sited id).pending ⟨run, hrun, .inl (htodo ▸ List.mem_cons_self)⟩
  have hrecorded : ∀ attempt, (probe attempt = .dead → (c.stage id).condemned = true) →
      Inv { c with recovery := some ({ run with todo := rest }.record id attempt) } := by
    intro attempt hdead
    refine h.recorded hrun hrest hdead h.sound rfl (fun _ => rfl) (fun id' => (h.sited id').placed)
      (fun _ => hclosed) fun id' locked hlocked => ?_
    rw [hprobing] at hlocked
    cases hlocked
  unfold Cluster.openNext
  cases fault with
  | true => exact hrecorded .openFailed fun hdead => by cases hdead
  | false =>
    dsimp only
    rw [if_neg Bool.false_ne_true]
    split
    · rename_i hentry
      refine hrecorded .notFound fun _ => h.not_held hsettled ?_
      rintro ⟨file, hfile, -⟩
      rw [hentry] at hfile
      cases hfile
    · rename_i file hentry
      refine ⟨h.sound.openAt hclosed, fun id₁ id₂ file' h₁ h₂ => ?_, fun id' => ?_, fun hidle => ?_,
        ?_, ?_⟩
      · rw [Files.openAt_opened_of_ne (probe_ne id₁).symm] at h₁
        exact h.apart id₁ id₂ file' h₁ h₂
      · refine (h.sited id').mono (h.sited id').placed.openAt (fun hid => hid) (fun _ hin => hin)
          (fun hid => ?_) fun hid => ?_
        · refine hid.imp_right fun ⟨_, hmem, attempt, hin⟩ => ?_
          cases hmem
          exact ⟨run, hrun, attempt, hin⟩
        · obtain ⟨_, ⟨⟩, hid⟩ := hid
          refine ⟨run, hrun, .inl ?_⟩
          rcases hid with hin | ⟨locked, hlocked⟩
          · exact hrest id' hin
          · cases hlocked
            exact htodo ▸ List.mem_cons_self
      · cases hidle _ rfl
      · rintro _ ⟨⟩ id' locked hlocked
        cases hlocked
        refine ⟨file, Files.openAt_opened_self.trans hentry, fun other hother => ?_, fun _ => hentry⟩
        rw [Files.openAt_opened_of_ne (probe_ne other).symm] at hother
        exact h.apart other id file hother hentry
      · rintro _ ⟨⟩
        exact h.runner run hrun

theorem attempt (h : c.Inv) {run : RecoveryRun} (hrun : c.recovery = some run)
    (hprobing : run.probing = some (id, false)) (fault : Bool) :
    (c.attempt run id fault).Inv := by
  have hopened : c.Opened id := h.probing run hrun id false hprobing
  have hsettled : (c.stage id).settled = true :=
    (h.sited id).pending ⟨run, hrun, .inr ⟨false, hprobing⟩⟩
  have hclose : ∀ attempt, (probe attempt = .dead → (c.stage id).condemned = true) →
      Inv { c with
        files := c.files.close .probe
        recovery := some ({ run with probing := none }.record id attempt) } := fun attempt hdead =>
    h.recorded hrun (fun _ hin => hin) hdead h.sound.close rfl
      (fun id' => Files.close_opened_of_ne (probe_ne id').symm)
      (fun id' => (h.sited id').placed.close (probe_ne id'))
      (fun _ => Files.close_opened_self ..) fun _ _ hlocked => by cases hlocked
  unfold Cluster.attempt
  cases fault with
  | true => exact hclose .lockFailed fun hdead => by cases hdead
  | false =>
    dsimp only
    rw [if_neg Bool.false_ne_true]
    split
    · rename_i hlockable
      refine h.recorded hrun (fun _ hin => hin) (fun _ => ?_) h.sound.lock (Files.lock_entry ..)
        (fun id' => by rw [Files.lock_opened]) (fun id' => (h.sited id').placed.lock)
        (fun hnone => by cases hnone) fun id' locked hlocked => ?_
      · -- whoever still held the file would have refused the lock
        refine Stage.condemned_iff.2 ⟨hsettled, ?_⟩
        by_contra hholds
        rw [Bool.not_eq_false] at hholds
        obtain ⟨file, hprobe, -, hfile⟩ := hopened
        have hheld : c.files.Holds (.own id) (lockPathFor id) := by
          by_contra hnot
          have hcondemned := Stage.condemned_iff.1 (h.not_held hsettled hnot)
          rw [hholds] at hcondemned
          cases hcondemned.2
        have hrefused := hheld.lockable_eq_false (hprobe.trans (hfile hholds).symm) (probe_ne id)
        rw [hlockable] at hrefused
        cases hrefused
      · cases hlocked
        exact ⟨⟨false, hprobing⟩, by rw [Files.lock_opened]⟩
    · exact hclose .held fun hdead => by cases hdead

theorem unlock (h : c.Inv) {run : RecoveryRun} (hrun : c.recovery = some run) :
    Inv { c with
      files := c.files.close .probe
      recovery := some { run with probing := none } } where
  sound := h.sound.close
  apart := fun id₁ id₂ file h₁ h₂ =>
    h.apart id₁ id₂ file ((Files.close_opened_of_ne (probe_ne id₁).symm).symm.trans h₁) h₂
  sited := by
    intro id
    refine (h.sited id).mono ((h.sited id).placed.close (probe_ne id)) (fun hid => hid)
      (fun _ hin => hin) (fun hid => ?_) fun hid => ?_
    · refine hid.imp_right fun ⟨_, hmem, attempt, hin⟩ => ?_
      cases hmem
      exact ⟨run, hrun, attempt, hin⟩
    · obtain ⟨_, ⟨⟩, hid⟩ := hid
      refine ⟨run, hrun, .inl (hid.resolve_right ?_)⟩
      rintro ⟨locked, hlocked⟩
      cases hlocked
  closed := fun _ => Files.close_opened_self ..
  probing := by
    rintro _ ⟨⟩ id locked hlocked
    cases hlocked
  runner := by
    rintro _ ⟨⟩
    exact h.runner run hrun

theorem commit {iso : Iso8601} (h : c.Inv) {run : RecoveryRun} (hrun : c.recovery = some run)
    (hprobing : run.probing = none) (fault : Option SqliteError) :
    (commit iso c run fault).Inv := by
  unfold Cluster.commit
  cases fault with
  | some e => exact h.rolledBack
  | none =>
    dsimp only
    split
    · exact h.rolledBack
    · rename_i written report swept htx
      obtain ⟨cutoff, -, -, rfl, -, rfl⟩ := recoverInTx_ok_iff.1 htx
      have hdead : ∀ id, run.ctx.probe id = .dead → c.Condemned id := fun id hid =>
        .inr ⟨run, hrun, RecoveryRun.exists_attempt (by simp) hid⟩
      refine ⟨h.sound, h.apart, fun id => ?_, fun _ => ?_,
        (fun _ hnone => nomatch hnone), (fun _ hnone => nomatch hnone)⟩
      · refine (h.sited id).mono (h.sited id).placed (fun hid => ?_) (fun hstage hin => ?_)
          (fun hid => ?_) fun ⟨_, hnone, _⟩ => nomatch hnone
        · rcases hid with hin | ⟨row, hrow, hid⟩
          · exact .inl (List.mem_filter.1 hin).1
          · obtain ⟨old, hold, rfl⟩ := List.mem_map.1 hrow
            refine .inr ⟨old, hold, ?_⟩
            rw [← hid]
            split <;> rfl
        · refine List.mem_filter.2 ⟨hin, decide_eq_true fun hprobed => ?_⟩
          have hcondemned := (h.sited id).condemned (hdead id hprobed.2)
          rw [hstage] at hcondemned
          cases hcondemned
        · rcases hid with ⟨other, hin⟩ | ⟨_, hnone, _⟩
          · dsimp only at hin
            by_cases hother : other = run.instanceId
            · rw [hother, Function.update_self] at hin
              exact hdead id (mem_confirmed.1 hin).2
            · rw [Function.update_of_ne hother] at hin
              exact .inl ⟨other, hin⟩
          · cases hnone
      · exact h.closed fun run' hrun' => by
          cases hrun.symm.trans hrun'
          exact hprobing

end Inv

theorem Start.inv {c : Cluster} (h : c.Start) : c.Inv where
  sound := by
    refine ⟨h.entries, fun d file hopened => ?_, fun file d hlocked => ?_⟩
    · rw [h.closed] at hopened
      cases hopened
    · rw [h.unlocked] at hlocked
      cases hlocked
  apart := by
    intro id id' file hopened
    rw [h.closed] at hopened
    cases hopened
  sited := by
    intro id
    have hnone : ¬c.Pending id ∧ ¬c.Condemned id := by
      constructor
      · rintro ⟨run, hrun, -⟩
        simp [h.recovery] at hrun
      · rintro (⟨other, hin⟩ | ⟨run, hrun, -⟩)
        · simp [h.swept] at hin
        · simp [h.recovery] at hrun
    refine ⟨?_, ?_, fun hrunning => ?_, fun hid => absurd hid hnone.2, fun hid => absurd hid hnone.1⟩
    · rcases h.stages id with hstage | hstage
      · rw [hstage]
        exact ⟨h.absent id hstage, h.closed _⟩
      · rw [hstage]
        exact h.closed _
    · rintro (hin | ⟨row, hrow, hid⟩)
      · rw [h.registered id hin]
        rfl
      · rw [h.owners row hrow id hid]
        rfl
    · rcases h.stages id with hstage | hstage <;> rw [hstage] at hrunning <;> cases hrunning
  closed := fun _ => h.closed _
  probing := fun run hrun => by simp [h.recovery] at hrun
  runner := fun run hrun => by simp [h.recovery] at hrun

variable {iso : Iso8601}

/-! ## What each step needs and does -/

section Steps

variable {c t : Cluster} {id : String} {fault : Bool}

theorem step_register (hstep : step iso c (.register id) = some t) :
    ∃ locked, c.stage id = .claimed locked ∧ c.recovery = none ∧
      t = { c with
        ledger := { c.ledger with
          instances := if id ∈ c.ledger.instances then c.ledger.instances
            else c.ledger.instances ++ [id] }
        stage := Function.update c.stage id (.running locked) } := by
  simp only [step] at hstep
  split at hstep
  · rename_i locked hstage hrecovery
    cases hstep
    exact ⟨locked, hstage, hrecovery, rfl⟩
  · cases hstep

/-- A flush that fails leaves everything as it is. -/
theorem step_flush {error : Option SqliteError} {batch : List PendingWrite}
    (hstep : step iso c (.flush id error batch) = some t) :
    ∃ locked, c.stage id = .running locked ∧ c.recovery = none ∧
      (t = c ∨ ∃ written n, tryFlush iso (some id) error batch c.ledger = .ok (written, n) ∧
        t = { c with ledger := written }) := by
  simp only [step] at hstep
  split at hstep
  · rename_i locked hstage hrecovery
    refine ⟨locked, hstage, hrecovery, ?_⟩
    split at hstep
    · rename_i written n hflush
      cases hstep
      exact .inr ⟨written, n, hflush, rfl⟩
    · cases hstep
      exact .inl rfl
  · cases hstep

theorem step_release (hstep : step iso c (.release id fault) = some t) :
    ∃ locked, c.stage id = .running locked ∧ c.recovery = none ∧
      t = { c with
        ledger := if fault then c.ledger
          else { c.ledger with instances := c.ledger.instances.filter fun other => other ≠ id }
        stage := Function.update c.stage id (.released locked) } := by
  simp only [step] at hstep
  split at hstep
  · rename_i locked hstage hrecovery
    cases hstep
    exact ⟨locked, hstage, hrecovery, rfl⟩
  · cases hstep

theorem step_drop (hstep : step iso c (.drop id fault) = some t) :
    (∃ locked, c.stage id = .running locked ∨ c.stage id = .released locked) ∧
      t = { c with
        files := if fault then c.files else c.files.unlink (lockPathFor id)
        stage := Function.update c.stage id .removed } := by
  simp only [step] at hstep
  split at hstep
  · rename_i locked hstage
    cases hstep
    exact ⟨⟨locked, .inl hstage⟩, rfl⟩
  · rename_i locked hstage
    cases hstep
    exact ⟨⟨locked, .inr hstage⟩, rfl⟩
  · cases hstep

theorem step_begin {graceSecs : UInt64} {now : Instant}
    (hstep : step iso c (.begin id graceSecs now) = some t) :
    ∃ locked, c.stage id = .running locked ∧ c.recovery = none ∧ c.swept id = [] ∧
      t = { c with
        recovery := some { (⟨id, graceSecs, now, [], none, []⟩ : RecoveryRun) with
          todo := candidates (⟨id, graceSecs, now, [], none, []⟩ : RecoveryRun).ctx c.ledger } } := by
  simp only [step] at hstep
  split at hstep
  · rename_i locked hstage hrecovery hswept
    cases hstep
    exact ⟨locked, hstage, hrecovery, hswept, rfl⟩
  · cases hstep

theorem step_openNext (hstep : step iso c (.openNext fault) = some t) :
    ∃ run id rest, c.recovery = some run ∧ run.todo = id :: rest ∧ run.probing = none ∧
      t = c.openNext run id rest fault := by
  obtain ⟨run, hrun, hstep⟩ := Option.bind_eq_some_iff.1 hstep
  split at hstep
  · rename_i id rest htodo hprobing
    cases hstep
    exact ⟨run, id, rest, hrun, htodo, hprobing, rfl⟩
  · cases hstep

theorem step_attempt (hstep : step iso c (.attempt fault) = some t) :
    ∃ run id, c.recovery = some run ∧ run.probing = some (id, false) ∧
      t = c.attempt run id fault := by
  obtain ⟨run, hrun, hstep⟩ := Option.bind_eq_some_iff.1 hstep
  split at hstep
  · rename_i id hprobing
    cases hstep
    exact ⟨run, id, hrun, hprobing, rfl⟩
  · cases hstep

theorem step_unlock (hstep : step iso c .unlock = some t) :
    ∃ run id, c.recovery = some run ∧ run.probing = some (id, true) ∧
      t = { c with
        files := c.files.close .probe
        recovery := some { run with probing := none } } := by
  obtain ⟨run, hrun, hstep⟩ := Option.bind_eq_some_iff.1 hstep
  split at hstep
  · rename_i id hprobing
    cases hstep
    exact ⟨run, id, hrun, hprobing, rfl⟩
  · cases hstep

theorem step_commit {error : Option SqliteError} (hstep : step iso c (.commit error) = some t) :
    ∃ run, c.recovery = some run ∧ run.todo = [] ∧ run.probing = none ∧
      t = commit iso c run error := by
  obtain ⟨run, hrun, hstep⟩ := Option.bind_eq_some_iff.1 hstep
  split at hstep
  · rename_i htodo hprobing
    cases hstep
    exact ⟨run, hrun, htodo, hprobing, rfl⟩
  · cases hstep

theorem step_rollback (hstep : step iso c .rollback = some t) :
    c.recovery.isSome ∧ t = c.rolledBack := by
  obtain ⟨run, hrun, ⟨⟩⟩ := Option.bind_eq_some_iff.1 hstep
  exact ⟨by simp [hrun], rfl⟩

theorem step_removeLockFile (hstep : step iso c (.removeLockFile id fault) = some t) :
    ∃ dead rest, c.swept id = dead :: rest ∧
      t = { c with
        files := if fault then c.files else c.files.unlink (lockPathFor dead)
        swept := Function.update c.swept id rest } := by
  simp only [step] at hstep
  split at hstep
  · rename_i dead rest hswept
    cases hstep
    exact ⟨dead, rest, hswept, rfl⟩
  · cases hstep

end Steps

/-- Every step of a cluster keeps the invariant. -/
theorem step_keeps {c t : Cluster} {event : ClusterEvent} (hstep : step iso c event = some t)
    (h : c.Inv) : t.Inv := by
  cases event with
  | boot id =>
    obtain ⟨hstage, ⟨⟩⟩ := Option.ite_none_right_eq_some.1 hstep
    exact h.boot hstage
  | claim id fault =>
    obtain ⟨hstage, hstep⟩ := Option.ite_none_right_eq_some.1 hstep
    split at hstep
    · cases hstep
      exact h.claim hstage (.inr ⟨rfl, rfl⟩)
    · cases hstep
      exact h.claim hstage (.inl ⟨rfl, rfl⟩)
  | register id =>
    obtain ⟨locked, hstage, hrecovery, rfl⟩ := step_register hstep
    exact h.register hrecovery hstage
  | flush id fault batch =>
    obtain ⟨locked, hstage, hrecovery, rfl | ⟨written, n, hflush, rfl⟩⟩ := step_flush hstep
    · exact h
    · exact h.flush hrecovery hstage (tryFlush_owner hflush)
  | release id fault =>
    obtain ⟨locked, hstage, hrecovery, rfl⟩ := step_release hstep
    cases fault with
    | true => exact h.release hrecovery hstage (fun _ hin => hin) fun _ hin _ => hin
    | false =>
      exact h.release hrecovery hstage (fun _ hin => (List.mem_filter.1 hin).1)
        fun _ hin hne => List.mem_filter.2 ⟨hin, decide_eq_true hne⟩
  | drop id fault =>
    obtain ⟨-, rfl⟩ := step_drop hstep
    cases fault with
    | true => exact h.drop (.inr rfl)
    | false => exact h.drop (.inl rfl)
  | exit id =>
    obtain ⟨-, ⟨⟩⟩ := Option.ite_none_right_eq_some.1 hstep
    exact h.ended id
  | crash id =>
    obtain ⟨-, ⟨⟩⟩ := Option.ite_none_left_eq_some.1 hstep
    exact h.ended id
  | begin id graceSecs now =>
    obtain ⟨locked, hstage, hrecovery, -, rfl⟩ := step_begin hstep
    refine h.begin hrecovery (by simp [hstage]) rfl rfl fun id' hin => ?_
    refine (mem_candidates.1 hin).1.imp_right ?_
    rintro ⟨row, hrow, -, hid⟩
    exact ⟨row, hrow, hid⟩
  | openNext fault =>
    obtain ⟨run, id, rest, hrun, htodo, hprobing, rfl⟩ := step_openNext hstep
    exact h.openNext hrun hprobing htodo fault
  | attempt fault =>
    obtain ⟨run, id, hrun, hprobing, rfl⟩ := step_attempt hstep
    exact h.attempt hrun hprobing fault
  | unlock =>
    obtain ⟨run, id, hrun, -, rfl⟩ := step_unlock hstep
    exact h.unlock hrun
  | commit fault =>
    obtain ⟨run, hrun, htodo, hprobing, rfl⟩ := step_commit hstep
    exact h.commit hrun hprobing fault
  | rollback =>
    obtain ⟨-, rfl⟩ := step_rollback hstep
    exact h.rolledBack
  | removeLockFile id fault =>
    obtain ⟨dead, rest, hswept, rfl⟩ := step_removeLockFile hstep
    cases fault with
    | true => exact h.removeLockFile hswept (.inr rfl)
    | false => exact h.removeLockFile hswept (.inl rfl)

theorem reached {start c : Cluster} {events : List ClusterEvent} (hstart : start.Start)
    (hrun : Duty.run (step iso) start events = some c) : c.Inv :=
  Duty.run_keeps (fun _ _ _ hstep h => step_keeps hstep h) hrun hstart.inv

/-! ## Who serves is spared -/

/-- What a commit of a pass made of the ledger. -/
theorem commit_cases {c t : Cluster} {fault : Option SqliteError}
    (hstep : step iso c (.commit fault) = some t) :
    ∃ run, c.recovery = some run ∧ run.todo = [] ∧ run.probing = none ∧
      (t.ledger = c.ledger ∨ ∃ cutoff, run.ctx.oldBefore = .ok cutoff ∧
        t.ledger = c.ledger.recovered iso run.ctx cutoff) := by
  obtain ⟨run, hrun, htodo, hprobing, rfl⟩ := step_commit hstep
  refine ⟨run, hrun, htodo, hprobing, ?_⟩
  unfold commit
  cases fault with
  | some e => exact .inl rfl
  | none =>
    dsimp only
    split
    · exact .inl rfl
    · rename_i written report swept htx
      obtain ⟨cutoff, hold, -, rfl, -, -⟩ := recoverInTx_ok_iff.1 htx
      exact .inr ⟨cutoff, hold, rfl⟩

/-- In every order of steps of any number of instances, one that serves under its lock has its lock
file in place and its registration.  The commit of a pass leaves its registration and every request
of it, but for old ones where the pass could not read its lock file. -/
theorem serving_spared {start c : Cluster} {events : List ClusterEvent} (hstart : start.Start)
    (hrun : Duty.run (step iso) start events = some c) {id : String}
    (hserves : c.stage id = .running true) :
    c.files.Holds (.own id) (lockPathFor id) ∧ id ∈ c.ledger.instances ∧
      ∀ fault t, step iso c (.commit fault) = some t → id ∈ t.ledger.instances ∧
        ∀ row ∈ c.ledger.records, row.instanceId = some id → row ∈ t.ledger.records ∨
          ∃ run ∈ c.recovery, ∃ cutoff, run.ctx.oldBefore = .ok cutoff ∧ row.createdAt < cutoff ∧
            ∃ attempt, (attempt = .openFailed ∨ attempt = .lockFailed) ∧
              (id, attempt) ∈ run.attempts := by
  have h := reached hstart hrun
  have hsited := h.sited id
  have hplaced := hsited.placed
  rw [hserves] at hplaced
  refine ⟨hplaced rfl, hsited.registered hserves, fun fault t hstep => ?_⟩
  have hregistered := (step_keeps hstep h).sited id
  have hstage : t.stage id = c.stage id := by
    obtain ⟨run, -, -, -, rfl⟩ := step_commit hstep
    unfold commit
    repeat' split
    all_goals rfl
  rw [hstage] at hregistered
  refine ⟨hregistered.registered hserves, fun row hrow hid => ?_⟩
  obtain ⟨run, hrecovery, -, -, hledger | ⟨cutoff, hold, hledger⟩⟩ := commit_cases hstep
  · rw [hledger]
    exact .inl hrow
  · rw [hledger]
    by_cases hrecoverable : Recoverable run.ctx cutoff row
    · obtain ⟨-, ⟨owner, howner, -, hdead⟩ | ⟨hage, hunknown⟩⟩ := hrecoverable
      · -- a dead verdict is one on an instance that lost its lock
        cases hid.symm.trans howner
        have hcondemned := hsited.condemned
          (.inr ⟨run, hrecovery, RecoveryRun.exists_attempt (by simp) hdead⟩)
        rw [hserves] at hcondemned
        cases hcondemned
      · refine .inr ⟨run, hrecovery, cutoff, hold, hage, ?_⟩
        obtain ⟨attempt, hin, hverdict⟩ :=
          RecoveryRun.exists_attempt (by simp) (hunknown id hid).2
        refine ⟨attempt, ?_, hin⟩
        cases attempt with
        | openFailed => exact .inl rfl
        | lockFailed => exact .inr rfl
        | notFound | acquired | held => cases hverdict
    · exact .inl (List.mem_map.2 ⟨row, hrow, if_neg hrecoverable⟩)

end Cluster

namespace Sample

def emptyCluster : Cluster where
  files := ⟨fun _ => none, fun _ => none, fun _ => none, 0⟩
  ledger := emptyLedger
  stage := fun _ => .absent
  recovery := none
  swept := fun _ => []

theorem emptyCluster_start : emptyCluster.Start where
  stages := fun _ => .inl rfl
  absent := fun _ _ => rfl
  entries := fun _ _ hentry => by cases hentry
  closed := fun _ => rfl
  unlocked := fun _ => rfl
  registered := fun _ hin => by cases hin
  owners := fun _ hin => by cases hin
  recovery := rfl
  swept := fun _ => rfl

def clusterAfter (events : List ClusterEvent) : Cluster :=
  (Duty.run (Cluster.step iso) emptyCluster events).getD emptyCluster

theorem clusterAfter_run (events : List ClusterEvent)
    (h : (Duty.run (Cluster.step iso) emptyCluster events).isSome = true) :
    Duty.run (Cluster.step iso) emptyCluster events = some (clusterAfter events) := by
  obtain ⟨last, hlast⟩ := Option.isSome_iff_exists.1 h
  rw [clusterAfter, hlast, Option.getD_some]

/-- An instance comes to serve, and accepts a request. -/
def serving (id : String) : List ClusterEvent :=
  [.boot id, .claim id false, .register id, .flush id none [.accept (record id none)]]

/-- A second instance starts beside it and probes it. -/
def overlapping : List ClusterEvent :=
  serving "a" ++ serving "b" ++ [.begin "b" 30 noon, .openNext false, .attempt false]

end Sample

namespace Cluster

theorem serving_spared_overlapping :
    (Sample.clusterAfter Sample.overlapping).files.Holds (.own "a") (lockPathFor "a") ∧
      "a" ∈ (Sample.clusterAfter Sample.overlapping).ledger.instances := by
  have hserving : (Sample.clusterAfter Sample.overlapping).stage "a" = .running true := by
    decide +kernel
  have hspared := serving_spared Sample.emptyCluster_start
    (Sample.clusterAfter_run Sample.overlapping (by decide +kernel)) hserving
  exact ⟨hspared.1, hspared.2.1⟩

/-! ## Who is gone is resolved -/

/-- An instance is gone, and a pass that has it among its candidates probes it and gets its lock. -/
structure Covered (id : String) (c : Cluster) : Prop where
  gone : c.stage id = .gone
  probed : ∀ run ∈ c.recovery, id ∈ candidates run.ctx c.ledger →
    id ∈ run.todo ∨ run.probing = some (id, false) ∨ ∃ attempt, (id, attempt) ∈ run.attempts
  unheld : ∀ run ∈ c.recovery, (id, LockAttempt.held) ∉ run.attempts

theorem candidates_ctx {run run' : RecoveryRun} {ledger : Ledger}
    (h : run.instanceId = run'.instanceId) : candidates run.ctx ledger = candidates run'.ctx ledger := by
  have hctx : run.ctx.instanceId = run'.ctx.instanceId := h
  unfold candidates
  rw [hctx]

section Covering

variable {c t : Cluster} {id : String}

/-- Between passes nothing is owed. -/
theorem Covered.idle (hgone : t.stage id = .gone) (hrecovery : t.recovery = none) : t.Covered id where
  gone := hgone
  probed := fun run hrun => by simp [hrecovery] at hrun
  unheld := fun run hrun => by simp [hrecovery] at hrun

theorem Covered.same (h : c.Covered id) (hgone : t.stage id = .gone)
    (hrecovery : t.recovery = c.recovery) (hledger : t.ledger = c.ledger) : t.Covered id where
  gone := hgone
  probed := by rw [hrecovery, hledger]; exact h.probed
  unheld := by rw [hrecovery]; exact h.unheld

theorem update_gone {id' : String} {stage : Stage} (hgone : c.stage id = .gone)
    (hother : c.stage id' ≠ .gone) : Function.update c.stage id' stage id = .gone := by
  rw [Function.update_of_ne]
  · exact hgone
  · rintro rfl
    exact hother hgone

theorem Covered.ended (h : c.Covered id) {id' : String} (hother : c.stage id' ≠ .gone) :
    (c.ended id').Covered id := by
  unfold Cluster.ended
  by_cases hrun : (c.recovery.any fun run => run.instanceId = id') = true
  · simp only [hrun, if_true]
    exact .idle (update_gone (c := c.rolledBack) h.gone hother) rfl
  · simp only [hrun]
    exact h.same (update_gone h.gone hother) rfl rfl

/-- A probe was answered, or was begun. -/
theorem Covered.answered (h : c.Covered id) {run run' : RecoveryRun} (hrun : c.recovery = some run)
    (hrecovery : t.recovery = some run') (hgone : t.stage id = .gone) (hledger : t.ledger = c.ledger)
    (hrunner : run'.instanceId = run.instanceId)
    (hprobed : (id ∈ run.todo ∨ run.probing = some (id, false) ∨
        ∃ attempt, (id, attempt) ∈ run.attempts) →
      id ∈ run'.todo ∨ run'.probing = some (id, false) ∨ ∃ attempt, (id, attempt) ∈ run'.attempts)
    (hunheld : (id, LockAttempt.held) ∉ run.attempts → (id, LockAttempt.held) ∉ run'.attempts) :
    t.Covered id where
  gone := hgone
  probed := by
    rw [hrecovery, hledger]
    rintro _ ⟨⟩ hcandidate
    rw [candidates_ctx hrunner] at hcandidate
    exact hprobed (h.probed run hrun hcandidate)
  unheld := by
    rw [hrecovery]
    rintro _ ⟨⟩
    exact hunheld (h.unheld run hrun)

theorem Covered.openNext (h : c.Covered id) {run : RecoveryRun} (hrun : c.recovery = some run)
    (hprobing : run.probing = none) {id' : String} {rest : List String}
    (htodo : run.todo = id' :: rest) (fault : Bool) : (c.openNext run id' rest fault).Covered id := by
  have hrecorded : ∀ attempt, attempt ≠ .held →
      Covered id { c with recovery := some ({ run with todo := rest }.record id' attempt) } := by
    intro attempt hattempt
    refine h.answered hrun rfl h.gone rfl rfl (fun hprobed => ?_) fun hunheld hin => ?_
    · rcases hprobed with hin | hlocked | ⟨old, hin⟩
      · rw [htodo] at hin
        rcases List.mem_cons.1 hin with rfl | hin
        · exact .inr (.inr ⟨attempt, List.mem_append_right _ (List.mem_singleton_self _)⟩)
        · exact .inl hin
      · rw [hprobing] at hlocked
        cases hlocked
      · exact .inr (.inr ⟨old, List.mem_append_left _ hin⟩)
    · rcases List.mem_append.1 hin with hold | hnew
      · exact hunheld hold
      · cases List.mem_singleton.1 hnew
        exact hattempt rfl
  unfold Cluster.openNext
  cases fault with
  | true => exact hrecorded .openFailed (by simp)
  | false =>
    dsimp only
    rw [if_neg Bool.false_ne_true]
    split
    · exact hrecorded .notFound (by simp)
    · refine h.answered hrun rfl h.gone rfl rfl (fun hprobed => ?_) fun hunheld => hunheld
      rcases hprobed with hin | hlocked | hold
      · rw [htodo] at hin
        rcases List.mem_cons.1 hin with rfl | hin
        · exact .inr (.inl rfl)
        · exact .inl hin
      · rw [hprobing] at hlocked
        cases hlocked
      · exact .inr (.inr hold)

theorem Covered.attempt (h : c.Covered id) (hinv : c.Inv) {run : RecoveryRun}
    (hrun : c.recovery = some run) {id' : String} (hprobing : run.probing = some (id', false))
    (fault : Bool) : (c.attempt run id' fault).Covered id := by
  have hrecorded : ∀ attempt (files : Files String Descriptor) (probing : Option (String × Bool)),
      (attempt = .held → id' ≠ id) →
      Covered id { c with
        files := files
        recovery := some ({ run with probing := probing }.record id' attempt) } := by
    intro attempt files probing hheld
    refine h.answered hrun rfl h.gone rfl rfl (fun hprobed => ?_) fun hunheld hin => ?_
    · rcases hprobed with hin | hlocked | ⟨old, hin⟩
      · exact .inl hin
      · cases hprobing.symm.trans hlocked
        exact .inr (.inr ⟨attempt, List.mem_append_right _ (List.mem_singleton_self _)⟩)
      · exact .inr (.inr ⟨old, List.mem_append_left _ hin⟩)
    · rcases List.mem_append.1 hin with hold | hnew
      · exact hunheld hold
      · cases List.mem_singleton.1 hnew
        exact hheld rfl rfl
  unfold Cluster.attempt
  cases fault with
  | true => exact hrecorded .lockFailed _ _ fun heq => by cases heq
  | false =>
    dsimp only
    rw [if_neg Bool.false_ne_true]
    split
    · exact hrecorded .acquired _ _ fun heq => by cases heq
    · rename_i hrefused
      refine hrecorded .held _ _ fun _ hid => hrefused ?_
      -- the instance itself does not have the file open, and nobody else does
      subst hid
      obtain ⟨file, hprobe, hown, -⟩ := hinv.probing run hrun id' false hprobing
      refine hinv.sound.lockable_of_free hprobe fun d hopened => ?_
      cases d with
      | probe => rfl
      | own other =>
        have hplaced := (hinv.sited id').placed
        rw [h.gone] at hplaced
        rw [hown other hopened] at hopened
        cases hplaced.symm.trans hopened

/-- Every step covers an instance that is gone. -/
theorem step_covers {event : ClusterEvent} (hstep : step iso c event = some t) (hinv : c.Inv)
    (h : c.Covered id) : t.Covered id := by
  have hgone := h.gone
  cases event with
  | boot id' =>
    obtain ⟨hstage, ⟨⟩⟩ := Option.ite_none_right_eq_some.1 hstep
    exact h.same (update_gone hgone (by simp [hstage])) rfl rfl
  | claim id' fault =>
    obtain ⟨hstage, hstep⟩ := Option.ite_none_right_eq_some.1 hstep
    split at hstep
    all_goals
      cases hstep
      exact h.same (update_gone hgone (by simp [hstage])) rfl rfl
  | register id' =>
    obtain ⟨locked, hstage, hrecovery, rfl⟩ := step_register hstep
    exact .idle (update_gone hgone (by simp [hstage])) hrecovery
  | flush id' fault batch =>
    obtain ⟨locked, -, hrecovery, rfl | ⟨written, n, -, rfl⟩⟩ := step_flush hstep
    · exact h
    · exact .idle hgone hrecovery
  | release id' fault =>
    obtain ⟨locked, hstage, hrecovery, rfl⟩ := step_release hstep
    exact .idle (update_gone hgone (by simp [hstage])) hrecovery
  | drop id' fault =>
    obtain ⟨⟨locked, hstage⟩, rfl⟩ := step_drop hstep
    refine h.same (update_gone hgone fun hgone' => ?_) rfl rfl
    rcases hstage with hstage | hstage <;> cases hstage.symm.trans hgone'
  | exit id' =>
    obtain ⟨hstage, ⟨⟩⟩ := Option.ite_none_right_eq_some.1 hstep
    exact h.ended (by simp [hstage])
  | crash id' =>
    obtain ⟨hstage, ⟨⟩⟩ := Option.ite_none_left_eq_some.1 hstep
    exact h.ended fun heq => hstage (.inr heq)
  | begin id' graceSecs now =>
    obtain ⟨locked, -, -, -, rfl⟩ := step_begin hstep
    refine ⟨hgone, ?_, ?_⟩
    · rintro _ ⟨⟩ hcandidate
      exact .inl hcandidate
    · rintro _ ⟨⟩
      exact List.not_mem_nil
  | openNext fault =>
    obtain ⟨run, id', rest, hrun, htodo, hprobing, rfl⟩ := step_openNext hstep
    exact h.openNext hrun hprobing htodo fault
  | attempt fault =>
    obtain ⟨run, id', hrun, hprobing, rfl⟩ := step_attempt hstep
    exact h.attempt hinv hrun hprobing fault
  | unlock =>
    obtain ⟨run, id', hrun, hprobing, rfl⟩ := step_unlock hstep
    refine h.answered hrun rfl hgone rfl rfl (fun hprobed => ?_) fun hunheld => hunheld
    rcases hprobed with hin | hlocked | hold
    · exact .inl hin
    · cases hprobing.symm.trans hlocked
    · exact .inr (.inr hold)
  | commit fault =>
    obtain ⟨run, -, -, -, rfl⟩ := step_commit hstep
    unfold commit
    repeat' split
    all_goals exact .idle hgone rfl
  | rollback =>
    obtain ⟨-, rfl⟩ := step_rollback hstep
    exact .idle hgone rfl
  | removeLockFile id' fault =>
    obtain ⟨dead, rest, -, rfl⟩ := step_removeLockFile hstep
    exact h.same hgone rfl rfl

end Covering

/-- After a commit nothing of an instance is left that the pass found dead. -/
theorem resolved_of_dead {ctx : RecoveryContext} {cutoff id : String} {ledger : Ledger}
    (hdead : id ∈ candidates ctx ledger → ctx.Probed id .dead) (hrunner : id ≠ ctx.instanceId) :
    id ∉ (ledger.recovered iso ctx cutoff).instances ∧
      ∀ row ∈ (ledger.recovered iso ctx cutoff).records, row.instanceId = some id →
        row.requestStatus ≠ .inFlight := by
  refine ⟨fun hin => ?_, fun row hrow hid hflight => ?_⟩
  · obtain ⟨hregistered, hkept⟩ := List.mem_filter.1 hin
    exact of_decide_eq_true hkept (hdead (mem_candidates.2 ⟨.inl hregistered, hrunner⟩))
  · obtain ⟨old, hold, rfl⟩ := List.mem_map.1 hrow
    by_cases hresolved : Recoverable ctx cutoff old
    · rw [if_pos hresolved] at hflight
      cases hflight
    · rw [if_neg hresolved] at hid hflight
      exact hresolved ⟨hflight, .inl ⟨id, hid,
        hdead (mem_candidates.2 ⟨.inr ⟨old, hold, hflight, hid⟩, hrunner⟩)⟩⟩

theorem ended_ledger (c : Cluster) (id : String) : (c.ended id).ledger = c.ledger := by
  unfold ended
  dsimp only
  split <;> rfl

theorem openNext_ledger (c : Cluster) (run : RecoveryRun) (id : String) (rest : List String)
    (fault : Bool) : (c.openNext run id rest fault).ledger = c.ledger := by
  unfold openNext
  repeat' split
  all_goals rfl

theorem attempt_ledger (c : Cluster) (run : RecoveryRun) (id : String) (fault : Bool) :
    (c.attempt run id fault).ledger = c.ledger := by
  unfold attempt
  repeat' split
  all_goals rfl

/-- Only a flush and the commit of a pass write rows. -/
theorem step_records {c t : Cluster} {event : ClusterEvent} (hstep : step iso c event = some t) :
    t.ledger.records = c.ledger.records ∨
      (∃ id batch n, tryFlush iso (some id) none batch c.ledger = .ok (t.ledger, n)) ∨
      ∃ ctx cutoff, t.ledger = c.ledger.recovered iso ctx cutoff := by
  cases event with
  | flush id fault batch =>
    obtain ⟨locked, -, -, rfl | ⟨written, n, hflush, rfl⟩⟩ := step_flush hstep
    · exact .inl rfl
    · cases fault with
      | none => exact .inr (.inl ⟨id, batch, n, hflush⟩)
      | some e => cases hflush
  | commit fault =>
    obtain ⟨run, -, -, -, hledger | ⟨cutoff, -, hledger⟩⟩ := commit_cases hstep
    · exact .inl (by rw [hledger])
    · exact .inr (.inr ⟨run.ctx, cutoff, hledger⟩)
  | openNext fault =>
    obtain ⟨run, id, rest, -, -, -, rfl⟩ := step_openNext hstep
    exact .inl (by rw [openNext_ledger])
  | attempt fault =>
    obtain ⟨run, id, -, -, rfl⟩ := step_attempt hstep
    exact .inl (by rw [attempt_ledger])
  | unlock =>
    obtain ⟨run, id, -, -, rfl⟩ := step_unlock hstep
    exact .inl rfl
  | rollback =>
    obtain ⟨-, rfl⟩ := step_rollback hstep
    exact .inl rfl
  | exit id =>
    obtain ⟨-, ⟨⟩⟩ := Option.ite_none_right_eq_some.1 hstep
    exact .inl (by rw [ended_ledger])
  | crash id =>
    obtain ⟨-, ⟨⟩⟩ := Option.ite_none_left_eq_some.1 hstep
    exact .inl (by rw [ended_ledger])
  | boot | claim | register | release | drop | begin | removeLockFile =>
    simp only [step] at hstep
    repeat' split at hstep
    all_goals cases hstep
    all_goals exact .inl rfl

/-- Rows keep timestamps the ledger wrote. -/
theorem step_stamped {c t : Cluster} {event : ClusterEvent} (hstep : step iso c event = some t)
    (h : c.ledger.Stamped) : t.ledger.Stamped := by
  rcases step_records hstep with hsame | ⟨id, batch, n, hflush⟩ | ⟨ctx, cutoff, hrecovered⟩
  · intro row hrow
    rw [hsame] at hrow
    exact h row hrow
  · obtain ⟨result, hresult, hstamped⟩ | ⟨failure, hfailure⟩ :
        (∃ result, tryFlush iso (some id) none batch c.ledger = .ok result ∧ result.1.Stamped) ∨
          ∃ failure, tryFlush iso (some id) none batch c.ledger = .error (.sqlite failure) :=
      tryFlush_ends h
    · cases hflush.symm.trans hresult
      exact hstamped
    · cases hflush.symm.trans hfailure
  · intro row hrow
    rw [hrecovered] at hrow
    obtain ⟨old, hold, rfl⟩ := List.mem_map.1 hrow
    obtain ⟨created, hcreated⟩ := h old hold
    refine ⟨created, ?_⟩
    split <;> exact hcreated

/-- A pass that began after the end of an instance, whatever happens meanwhile, resolves every
request of it and sweeps its registration, unless it could not read its lock file. -/
theorem gone_resolved {start c d t : Cluster} {before during : List ClusterEvent} {cutoff : String}
    {run : RecoveryRun} {id : String} (hstart : start.Start) (hstamped : start.ledger.Stamped)
    (hbefore : Duty.run (step iso) start before = some c) (hidle : c.recovery = none)
    (hgone : c.stage id = .gone) (hduring : Duty.run (step iso) c during = some d)
    (hrun : d.recovery = some run) (hold : run.ctx.oldBefore = .ok cutoff)
    (hread : (id, LockAttempt.openFailed) ∉ run.attempts ∧ (id, LockAttempt.lockFailed) ∉ run.attempts)
    (hcommit : step iso d (.commit none) = some t) :
    id ∉ t.ledger.instances ∧
      ∀ row ∈ t.ledger.records, row.instanceId = some id → row.requestStatus ≠ .inFlight := by
  have hledger : d.ledger.Stamped := Duty.run_keeps (P := fun c => c.ledger.Stamped)
    (fun _ _ _ hstep h => step_stamped hstep h) (Duty.run_append_iff.2 ⟨c, hbefore, hduring⟩) hstamped
  obtain ⟨hinv, hcovered⟩ : d.Inv ∧ d.Covered id := Duty.run_keeps
    (P := fun c => c.Inv ∧ c.Covered id) (fun c event t hstep h =>
      ⟨step_keeps hstep h.1, step_covers hstep h.1 h.2⟩) hduring
        ⟨reached hstart hbefore, .idle hgone hidle⟩
  have hrunner : id ≠ run.instanceId := by
    rintro rfl
    exact hinv.runner run hrun hcovered.gone
  -- the pass committed, over rows the ledger wrote
  obtain ⟨run', hrun', hstep⟩ := Option.bind_eq_some_iff.1 hcommit
  cases hrun.symm.trans hrun'
  split at hstep
  · rename_i htodo hprobing
    obtain ⟨⟨written, report, swept⟩, hresult⟩ :
        ∃ result, recoverInTx iso run.ctx d.ledger = .ok result := recoverInTx_isOk hledger hold
    have ht : t.ledger = written := by
      cases hstep
      simp only [commit, hresult]
    obtain ⟨cutoff', -, -, rfl, -, -⟩ := recoverInTx_ok_iff.1 hresult
    rw [ht]
    refine resolved_of_dead (fun hcandidate => ⟨hrunner, ?_⟩) hrunner
    rcases hcovered.probed run hrun hcandidate with hin | hlocked | ⟨attempt, hin⟩
    · rw [htodo] at hin
      cases hin
    · rw [hprobing] at hlocked
      cases hlocked
    · obtain ⟨first, hfirst, hverdict⟩ := RecoveryRun.exists_verdict hin
      rw [hverdict]
      cases first with
      | notFound | acquired => rfl
      | held => exact absurd hfirst (hcovered.unheld run hrun)
      | openFailed => exact absurd hfirst hread.1
      | lockFailed => exact absurd hfirst hread.2
  · cases hstep

end Cluster

namespace Sample

/-- The first instance is killed, the second starts, and its pass probes the first. -/
def abandoned : List ClusterEvent := serving "a" ++ [.crash "a"] ++ serving "b"

def probing : List ClusterEvent := [.begin "b" 30 noon, .openNext false, .attempt false, .unlock]

def probed : RecoveryRun := ⟨"b", 30, noon, [], none, [("a", .acquired)]⟩

theorem clusterAfter_later (events later : List ClusterEvent)
    (h : (Duty.run (Cluster.step iso) emptyCluster (events ++ later)).isSome = true) :
    Duty.run (Cluster.step iso) (clusterAfter events) later = some (clusterAfter (events ++ later)) := by
  obtain ⟨middle, hmiddle, hlater⟩ := Duty.run_append_iff.1 (clusterAfter_run _ h)
  have hfirst : clusterAfter events = middle := by rw [clusterAfter, hmiddle, Option.getD_some]
  rw [hfirst, hlater]

end Sample

theorem Cluster.gone_resolved_abandoned :
    "a" ∉ (Sample.clusterAfter (Sample.abandoned ++ Sample.probing ++ [.commit none])).ledger.instances ∧
      ∀ row ∈ (Sample.clusterAfter
          (Sample.abandoned ++ Sample.probing ++ [.commit none])).ledger.records,
        row.instanceId = some "a" → row.requestStatus ≠ .inFlight := by
  obtain ⟨t, hcommit, ht⟩ := Duty.run_cons_iff.1 (Sample.clusterAfter_later
    (Sample.abandoned ++ Sample.probing) [.commit none] (by decide +kernel))
  cases ht
  have hrun : (Sample.clusterAfter (Sample.abandoned ++ Sample.probing)).recovery =
      some Sample.probed := by decide +kernel
  have hold : Sample.probed.ctx.oldBefore = .ok "2026-09-27T11:59:30.000000000Z" := by decide +kernel
  exact gone_resolved Sample.emptyCluster_start (fun _ hin => by cases hin)
    (Sample.clusterAfter_run Sample.abandoned (by decide +kernel)) (by decide +kernel)
    (by decide +kernel) (Sample.clusterAfter_later Sample.abandoned Sample.probing (by decide +kernel))
    hrun hold (by decide) hcommit

end PartnerPortal
