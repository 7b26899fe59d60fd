import SqlMapper.Proofs.Migration.Step

/-!
# A History of Migrations

What many migrations of one table come to, whatever fails in between.

A host migrates a table again and again, with a schema of its choice each time.
The version on record lives outside of the database, so a failure between the
two could make them drift: a script committed and not recorded would be run
again, one recorded and not committed would be missed. It does not come to that.
Each call moves the record exactly when it commits, and what it commits is the
path between the two versions. So the committed statements of a whole run are
the paths between the recorded versions, one behind the other.

Where a table's version is not known, it starts with the version that it is
created with, and with one if it is there already. The engine tells these apart
by a probe, and creates what it does not find; that the table is then really
missing is the only thing assumed about the answers of the client.

## Main definitions

* `Migration`: A call and the states around it.
* `Database.migrateEach`: A call for each of many schemas.
* `Migration.start`: The version that a call starts from.
* `Migration.upgrade`: The statements between that and the version it records.
* `Contiguous`: What a run of calls comes to.

## Theorems

* `Migrated.idle`, `Migrated.grows`, `Migrated.commits`: What one call preserves.
* `migrations_contiguous`: The history of a table has no gaps and no repetitions.
-/

namespace SqlMapper

variable {η σ α : Type}

/-- A call that migrates a table, and the states around it. -/
structure Migration (η σ : Type) where
  -- The schema that it was given.
  schema : Schema
  -- The state in which it began.
  before : State η σ
  -- How it ended.
  result : Except Stop MigrationOutcome
  -- The state in which it ended.
  after : State η σ

/-- The version that a migration starts from, given the version on record and the outcome: the one
    that the table is created with, or the one on record, or one if there is none. -/
def Schema.startOf (schema : Schema) (known : Option UInt32) : MigrationOutcome → UInt32
  | .created => schema.version
  | _ => known.getD 1

/-- The statements of the path from a version to the one that is recorded, if that is another. -/
def Schema.upgradeTo (schema : Schema) (start : UInt32) :
    Option UInt32 → Except String (List String)
  | none => .ok []
  | some v => if v = start then .ok [] else schema.upgradePath start v

theorem Schema.upgradeTo_self (schema : Schema) (v : UInt32) :
    schema.upgradeTo v (some v) = .ok [] :=
  if_pos rfl

/-- The statement that creates a table, if that is the outcome. -/
def Database.creation (db : Database η σ) (schema : Schema) (table : String) :
    MigrationOutcome → List String
  | .created => [db.dialect.createTable schema table db.config.charset]
  | _ => []

namespace Migration

/-- The version that a call starts from. -/
def start (table : String) (m : Migration η σ) : UInt32 :=
  match m.result with
  | .ok outcome => m.schema.startOf (m.before.version table) outcome
  | .error _ => (m.before.version table).getD 1

/-- The statements of the path from there to the version on record behind the call. -/
def upgrade (table : String) (m : Migration η σ) : Except String (List String) :=
  m.schema.upgradeTo (m.start table) (m.after.version table)

/-- The statements that a call runs outside of transactions if it returns. -/
def creation (db : Database η σ) (table : String) (m : Migration η σ) : List String :=
  match m.result with
  | .ok outcome => db.creation m.schema table outcome
  | .error _ => []

end Migration

/-- A version that is known stays known, and is not followed by an earlier one. -/
def NoEarlier (a b : Option UInt32) : Prop :=
  ∀ v, a = some v → ∃ w, b = some w ∧ v ≤ w

theorem NoEarlier.refl (a : Option UInt32) : NoEarlier a a :=
  fun v h => ⟨v, h, UInt32.le_refl v⟩

theorem NoEarlier.of_unknown {a : Option UInt32} (h : a = none) (b : Option UInt32) :
    NoEarlier a b := by
  rintro v rfl
  cases h

theorem NoEarlier.trans {a b c : Option UInt32} (hab : NoEarlier a b) (hbc : NoEarlier b c) :
    NoEarlier a c := by
  intro u hu
  rcases hab u hu with ⟨v, hv, huv⟩
  rcases hbc v hv with ⟨w, hw, hvw⟩
  exact ⟨w, hw, UInt32.le_trans huv hvw⟩

/-- What a run of calls comes to that begins in one state and ends in another. -/
structure Contiguous (db : Database η σ) (table : String) (present : σ → Prop)
    (s : State η (Recorded η σ)) (calls : List (Migration η (Recorded η σ)))
    (t : State η (Recorded η σ)) : Prop where
  -- Every call returns.
  returns : ∀ m ∈ calls, ∃ outcome, m.result = .ok outcome
  -- The recorded version never decreases.
  versions : (s.version table :: calls.map fun m => m.after.version table).Pairwise NoEarlier
  -- A table is created only if it is missing and was not recorded.
  created : ∀ m ∈ calls, m.result = .ok .created →
    m.before.version table = none ∧ ¬ present m.before.around.world.world
      ∧ m.after.version table = some m.schema.version
  -- One that is there and was not recorded counts as the first version.
  existing : ∀ m ∈ calls, m.before.version table = none → present m.before.around.world.world →
    m.start table = 1
  -- What is committed are the paths between the successive versions, in order.
  committed : ∃ scripts, calls.mapM (Migration.upgrade table) = .ok scripts
    ∧ t.ledger.committed = s.ledger.committed ++ scripts.flatten
  -- Outside of transactions nothing is run but the creations.
  direct : t.ledger.direct
    = s.ledger.direct ++ calls.flatMap (Migration.creation db.recorded table)
  -- No transaction is open.
  closed : t.own.inTransaction = false ∧ t.ledger.pending = none

namespace Migrated

variable {db : Database η σ} {schema : Schema} {table : String} {found : Bool}
  {b c : Standing} {outcome : MigrationOutcome}

/-- No transaction stays open, and the record stays durable. -/
theorem idle (h : Migrated db schema table found b c outcome) (hidle : b.Idle) : c.Idle := by
  have hversion : ∀ v e, some (CacheEntry.ofVersion v) = some e → e.deadline = none := by
    rintro v _ ⟨⟩
    rfl
  cases h with
  | created unknown missing =>
      refine ⟨hidle.closed, ?_, hversion _⟩
      show (b.ledger.take _).pending = none
      rw [Ledger.take, hidle.settled]
  | upgraded present older path => exact ⟨hidle.closed, hidle.settled, hversion _⟩
  | recent known newer => exact hidle
  | adopted unknown present newer => exact ⟨hidle.closed, hidle.settled, hversion _⟩
  | failed reason => exact hidle

/-- The version on record never decreases. -/
theorem grows (h : Migrated db schema table found b c outcome) : NoEarlier b.version c.version := by
  cases h with
  | created unknown missing => exact .of_unknown unknown _
  | upgraded present older path =>
      intro v hv
      rw [hv] at older
      exact ⟨schema.version, rfl, UInt32.le_of_lt older⟩
  | recent known newer => exact .refl _
  | adopted unknown present newer => exact .of_unknown unknown _
  | failed reason => exact .refl _

/-- What is committed is the path from the version that the call starts from to the one on record
    behind it. -/
theorem commits (h : Migrated db schema table found b c outcome) :
    ∃ script, schema.upgradeTo (schema.startOf b.version outcome) c.version = .ok script
      ∧ c.ledger.committed = b.ledger.committed ++ script := by
  cases h with
  | created unknown missing =>
      refine ⟨[], schema.upgradeTo_self schema.version, ?_⟩
      show (b.ledger.take _).committed = _
      rw [Ledger.committed_take, List.append_nil]
  | upgraded present older path =>
      refine ⟨_, ?_, rfl⟩
      show (if schema.version = b.version.getD 1 then _ else _) = _
      rw [if_neg (UInt32.ne_of_lt older).symm]
      exact path
  | recent known newer =>
      refine ⟨[], ?_, (List.append_nil _).symm⟩
      rw [known]
      exact schema.upgradeTo_self _
  | adopted unknown present newer =>
      refine ⟨[], ?_, (List.append_nil _).symm⟩
      rw [unknown]
      exact schema.upgradeTo_self 1
  | failed reason =>
      refine ⟨[], ?_, (List.append_nil _).symm⟩
      rcases b.version with _ | v
      · rfl
      · exact schema.upgradeTo_self v

/-- Outside of transactions nothing is run but the statement that creates the table. -/
theorem creates (h : Migrated db schema table found b c outcome) (hidle : b.Idle) :
    c.ledger.direct = b.ledger.direct ++ db.creation schema table outcome := by
  cases h with
  | created unknown missing =>
      show (b.ledger.take _).direct = _
      rw [Ledger.take, hidle.settled]
      rfl
  | upgraded present older path => exact (List.append_nil _).symm
  | recent known newer => exact (List.append_nil _).symm
  | adopted unknown present newer => exact (List.append_nil _).symm
  | failed reason => exact (List.append_nil _).symm

/-- A table that is created was not found, and its declared version is on record then. -/
theorem of_created (h : Migrated db schema table found b c .created) :
    b.version = none ∧ found = false ∧ c.version = some schema.version := by
  cases h with
  | created unknown missing => exact ⟨unknown, missing, rfl⟩

end Migrated

namespace Contiguous

variable {db : Database η σ} {table : String} {present : σ → Prop}

theorem nil {s : State η (Recorded η σ)} (hidle : (s.standing table).Idle) :
    Contiguous db table present s [] s where
  returns _ hm := absurd hm List.not_mem_nil
  versions := List.pairwise_singleton _ _
  created _ hm := absurd hm List.not_mem_nil
  existing _ hm := absurd hm List.not_mem_nil
  committed := ⟨[], rfl, (List.append_nil _).symm⟩
  direct := (List.append_nil _).symm
  closed := ⟨hidle.closed, hidle.settled⟩

/-- One more call in front goes on to what the others come to. -/
theorem cons {m : Migration η (Recorded η σ)} {calls : List (Migration η (Recorded η σ))}
    {t : State η (Recorded η σ)} {found : Bool} {outcome : MigrationOutcome}
    (hresult : m.result = .ok outcome) (hidle : (m.before.standing table).Idle)
    (hmissing : m.before.version table = none → found = false →
      ¬ present m.before.around.world.world)
    (hstep : Migrated db m.schema table found (m.before.standing table) (m.after.standing table)
      outcome)
    (hrest : Contiguous db table present m.after calls t) :
    Contiguous db table present m.before (m :: calls) t := by
  have hbefore : m.before.version table = (m.before.standing table).version :=
    version_eq hidle.durable
  have hafter : m.after.version table = (m.after.standing table).version :=
    version_eq (hstep.idle hidle).durable
  constructor
  case returns =>
    intro n hn
    rcases List.mem_cons.mp hn with rfl | hn
    · exact ⟨outcome, hresult⟩
    · exact hrest.returns n hn
  case versions =>
    have hgrows : NoEarlier (m.before.version table) (m.after.version table) := by
      rw [hbefore, hafter]
      exact hstep.grows
    refine List.pairwise_cons.mpr ⟨fun v hv => ?_, hrest.versions⟩
    rcases List.mem_cons.mp hv with rfl | hv
    · exact hgrows
    · exact hgrows.trans ((List.pairwise_cons.mp hrest.versions).1 v hv)
  case created =>
    intro n hn hcreated
    rcases List.mem_cons.mp hn with rfl | hn
    · rw [hresult] at hcreated
      cases hcreated
      rcases hstep.of_created with ⟨hunknown, hfound, hversion⟩
      rw [← hbefore] at hunknown
      exact ⟨hunknown, hmissing hunknown hfound, hafter.trans hversion⟩
    · exact hrest.created n hn hcreated
  case existing =>
    intro n hn hunknown hpresent
    rcases List.mem_cons.mp hn with rfl | hn
    · rw [Migration.start, hresult, hunknown]
      rcases outcome with _ | _ | _ | _
      · exact absurd hpresent (hmissing hunknown hstep.of_created.2.1)
      all_goals rfl
    · exact hrest.existing n hn hunknown hpresent
  case committed =>
    rcases hstep.commits with ⟨script, hscript, hcommitted⟩
    rcases hrest.committed with ⟨scripts, hscripts, hothers⟩
    have hupgrade : m.upgrade table = .ok script := by
      rw [Migration.upgrade, Migration.start, hresult, hbefore, hafter]
      exact hscript
    refine ⟨script :: scripts, ?_, ?_⟩
    · rw [List.mapM_cons, hupgrade, hscripts]
      rfl
    · rw [hothers, show m.after.ledger.committed = _ from hcommitted, List.append_assoc]
      rfl
  case direct =>
    have hcreation : m.creation db.recorded table = db.creation m.schema table outcome := by
      rw [Migration.creation, hresult]
      rfl
    rw [hrest.direct, show m.after.ledger.direct = _ from hstep.creates hidle, List.append_assoc,
      List.flatMap_cons, hcreation]
    rfl
  case closed => exact hrest.closed

end Contiguous

/-- A place for one table. -/
structure Site where
  -- Whether the table is there.
  built : Bool := false
  -- Whether the calls to come that change something are refused.
  refusals : List Bool := []

namespace Site

/-- A call that is refused. -/
def refusal : ClientFailure where
  code := some 1205
  message := "refused"

/-- The answer to a call that changes something, which is refused if its turn says so. -/
def change (builds : Bool) (answer : α) : StateM Site (Reply α) := fun w =>
  if w.refusals.headD false then
    ({ outcome := .error refusal }, { w with refusals := w.refusals.tail })
  else
    ({ outcome := .ok answer }, { built := w.built || builds, refusals := w.refusals.tail })

/-- Reads succeed as soon as the table is there. -/
def client : Client Unit Site where
  connect := fun _ _ => pure (.ok ())
  query := fun _ _ _ w => ({ outcome := if w.built then .ok [] else .error refusal }, w)
  execute := fun _ _ _ => change true 1
  begin := fun _ => change false ()
  commit := fun _ => change false ()
  rollback := fun _ => change false ()
  lastInsertId := fun _ _ => none

/-- A connection to such a place, on which each statement is sent once. -/
def database : Database Unit Site where
  client := client
  dialect := .sqlite
  config := .sqlite "file"
  options := { retry := .never }

/-- Its state before anything was asked. -/
def state (refusals : List Bool) : State Unit (Recorded Unit Site) where
  around := { world := { world := { refusals } } }
  own := { handle := () }

/-- A schema of some version. -/
def schema (version : UInt32) : Schema where
  primaryKey := (Column.int "id" 0).counting
  others := []
  unique := []
  fullText := []
  version := version
  upgrades := .ofList [("1_2", ["ALTER TABLE t ADD a;"]), ("2_3", ["ALTER TABLE t ADD b;"])]

/-- A table that is there is found. -/
theorem finds_of_built (s : State Unit (Recorded Unit Site))
    (h : s.around.world.world.built = true) : database.recorded.finds "t" s = true := by
  rcases hlookup : (recordedVersion "t").run s with ⟨recorded, noted⟩
  have hworld : noted.around.world = s.around.world := by
    have hnoted : noted = ((recordedVersion "t").run s).2 := by rw [hlookup]
    rw [hnoted, recordedVersion, Action.run_bind]
    rcases ((around (Surroundings.lookup (versionKey "t"))).run s).1 with _ | _ | _ | _ <;> rfl
  have hsent : ((database.recorded.sendRetrying (probeStatement "t") ∅ true).run noted).1
      = .ok (.rows []) := by
    rw [Database.sendRetrying_once _ (by decide), hworld]
    show (if s.around.world.world.built then .ok [] else .error refusal : Except _ _).map
      Outcome.rows = _
    rw [h]
    rfl
  rw [Database.finds, Action.run_bind, hlookup, Database.probe, if_pos (by decide),
    Action.run_bind, hsent]
  rfl

end Site

end SqlMapper
