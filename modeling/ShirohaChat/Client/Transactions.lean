import ShirohaChat.Client.LocalStore

/-!
# Nested transactions

`DatabaseManager::runInTransaction` with its depth counter, for callbacks that
run statements and call it again.  Only an outermost call talks to the
connection about transactions.  `BEGIN` fails inside of a transaction, and a
`COMMIT` that fails leaves the transaction open.
-/

set_option autoImplicit false

namespace ShirohaChat

/-! ## The connection -/

inductive TransactionCommand where
  | transaction
  | commit
  | rollback
  deriving DecidableEq, Repr

/-- Whether the connection executes `BEGIN` and `COMMIT` when it could. -/
structure TransactionOutcome where
  begun : Bool := true
  committed : Bool := true

structure DatabaseManager (Content : Type) where
  isOpen : Bool := true
  committed : Content
  /-- What the connection sees while a transaction is open. -/
  transaction : Option Content := none
  transactionDepth : Nat := 0
  /-- The commands given to the connection so far. -/
  commands : List TransactionCommand := []

namespace DatabaseManager

variable {Content : Type}

def content (manager : DatabaseManager Content) : Content :=
  manager.transaction.getD manager.committed

/-- A statement outside of a transaction is committed at once. -/
def write (manager : DatabaseManager Content) (content : Content) : DatabaseManager Content :=
  match manager.transaction with
  | some _ => { manager with transaction := some content }
  | none => { manager with committed := content }

def issue (manager : DatabaseManager Content) (command : TransactionCommand) :
    DatabaseManager Content :=
  { manager with commands := manager.commands ++ [command] }

/-- `m_db.transaction()`. -/
def beginTransaction (manager : DatabaseManager Content) (succeeds : Bool) :
    DatabaseManager Content × Bool :=
  if manager.isOpen ∧ succeeds ∧ manager.transaction.isNone then
    ({ manager.issue .transaction with transaction := some manager.committed }, true)
  else (manager.issue .transaction, false)

def commit (manager : DatabaseManager Content) (succeeds : Bool) :
    DatabaseManager Content × Bool :=
  match manager.transaction with
  | none => (manager.issue .commit, false)
  | some content =>
      if succeeds then
        ({ manager.issue .commit with committed := content, transaction := none }, true)
      else (manager.issue .commit, false)

def rollback (manager : DatabaseManager Content) : DatabaseManager Content :=
  { manager.issue .rollback with transaction := none }

def enter (manager : DatabaseManager Content) : DatabaseManager Content :=
  { manager with transactionDepth := manager.transactionDepth + 1 }

def leave (manager : DatabaseManager Content) : DatabaseManager Content :=
  { manager with transactionDepth := manager.transactionDepth - 1 }

def runInTransaction (manager : DatabaseManager Content) (outcome : TransactionOutcome)
    (callback : DatabaseManager Content → DatabaseManager Content × Bool) :
    DatabaseManager Content × Bool :=
  if ¬ manager.isOpen then (manager, false)
  else
    let ownsTransaction := manager.transactionDepth = 0
    match if ownsTransaction then manager.beginTransaction outcome.begun else (manager, true) with
    | (refused, false) => (refused, false)
    | (begun, true) =>
        let (ran, ok) := callback begun.enter
        if ¬ ownsTransaction then (ran.leave, ok)
        else if ok then ran.leave.commit outcome.committed
        else (ran.leave.rollback, false)

end DatabaseManager

/-! ## Callbacks -/

/-- What a callback does: it executes statements and reads, calls
`runInTransaction` and looks at the result, and returns. -/
inductive Callback (Content : Type) where
  | done (result : Bool)
  | statement (change : Content → Content) (rest : Content → Callback Content)
  | nested (outcome : TransactionOutcome) (inner : Callback Content)
      (rest : Bool → Callback Content)

namespace Callback

variable {Content : Type}

def run : Callback Content → DatabaseManager Content → DatabaseManager Content × Bool
  | .done result, manager => (manager, result)
  | .statement change rest, manager =>
      (rest manager.content).run (manager.write (change manager.content))
  | .nested outcome inner rest, manager =>
      let (after, ok) := manager.runInTransaction outcome inner.run
      (rest ok).run after

end Callback

namespace DatabaseManager

variable {Content : Type}

@[simp] theorem isOpen_write (manager : DatabaseManager Content) (content : Content) :
    (manager.write content).isOpen = manager.isOpen := by
  unfold write
  split <;> rfl

@[simp] theorem transactionDepth_write (manager : DatabaseManager Content) (content : Content) :
    (manager.write content).transactionDepth = manager.transactionDepth := by
  unfold write
  split <;> rfl

@[simp] theorem commands_write (manager : DatabaseManager Content) (content : Content) :
    (manager.write content).commands = manager.commands := by
  unfold write
  split <;> rfl

structure Within (manager after : DatabaseManager Content) : Prop where
  isOpen : after.isOpen = manager.isOpen
  depth : after.transactionDepth = manager.transactionDepth
  commands : after.commands = manager.commands
  committed : manager.transaction.isSome = true → after.committed = manager.committed
  transaction : after.transaction.isSome = manager.transaction.isSome

theorem Within.refl (manager : DatabaseManager Content) : Within manager manager :=
  ⟨rfl, rfl, rfl, fun _ => rfl, rfl⟩

theorem Within.trans {first second third : DatabaseManager Content}
    (before : Within first second) (after : Within second third) : Within first third where
  isOpen := after.isOpen.trans before.isOpen
  depth := after.depth.trans before.depth
  commands := after.commands.trans before.commands
  committed isOpen :=
    (after.committed (before.transaction.trans isOpen)).trans (before.committed isOpen)
  transaction := after.transaction.trans before.transaction

theorem Within.write (manager : DatabaseManager Content) (content : Content) :
    Within manager (manager.write content) := by
  refine ⟨by simp, by simp, by simp, ?_, ?_⟩
  · intro isOpen
    unfold DatabaseManager.write
    cases found : manager.transaction with
    | none =>
        rw [found] at isOpen
        cases isOpen
    | some old => rfl
  · unfold DatabaseManager.write
    cases found : manager.transaction with
    | none => simp
    | some old => rfl

/-- A call inside of another one runs its callback and nothing else. -/
theorem runInTransaction_inner {manager : DatabaseManager Content}
    (inside : manager.transactionDepth ≠ 0) (outcome : TransactionOutcome)
    (callback : DatabaseManager Content → DatabaseManager Content × Bool) :
    manager.runInTransaction outcome callback =
      if manager.isOpen then
        ((callback manager.enter).1.leave, (callback manager.enter).2)
      else (manager, false) := by
  unfold runInTransaction
  by_cases isOpen : manager.isOpen = true
  · rw [if_neg (not_not.mpr isOpen), if_pos isOpen]
    simp only [inside, if_false, not_false_eq_true, if_true]
  · rw [if_pos isOpen, if_neg isOpen]

theorem Within.inner {manager : DatabaseManager Content}
    (inside : manager.transactionDepth ≠ 0) (outcome : TransactionOutcome)
    {callback : DatabaseManager Content → DatabaseManager Content × Bool}
    (kept : ∀ inner : DatabaseManager Content, inner.transactionDepth ≠ 0 →
      Within inner (callback inner).1) :
    Within manager (manager.runInTransaction outcome callback).1 := by
  rw [runInTransaction_inner inside]
  split
  · have ran := kept manager.enter (Nat.succ_ne_zero _)
    exact ⟨ran.isOpen, congrArg (· - 1) ran.depth, ran.commands, ran.committed, ran.transaction⟩
  · exact Within.refl manager

/-- Below an outermost call nothing but the open transaction changes, whatever
the callbacks do. -/
theorem Within.run (body : Callback Content) :
    ∀ manager : DatabaseManager Content, manager.transactionDepth ≠ 0 →
      Within manager (body.run manager).1 := by
  induction body with
  | done result =>
      intro manager _
      exact Within.refl manager
  | statement change rest ih =>
      intro manager inside
      exact (Within.write manager _).trans (ih _ _ (by simpa using inside))
  | nested outcome inner rest innerIh restIh =>
      intro manager inside
      have called := Within.inner inside outcome innerIh
      exact called.trans (restIh _ _ (by rw [called.depth]; exact inside))

/-! ## Outermost calls -/

def started (manager : DatabaseManager Content) : DatabaseManager Content :=
  { manager.issue .transaction with transaction := some manager.committed }

def finish (outcome : TransactionOutcome) (ran : DatabaseManager Content × Bool) :
    DatabaseManager Content × Bool :=
  if ran.2 then ran.1.leave.commit outcome.committed else (ran.1.leave.rollback, false)

theorem runInTransaction_outermost {manager : DatabaseManager Content}
    (outermost : manager.transactionDepth = 0) (outcome : TransactionOutcome)
    (callback : DatabaseManager Content → DatabaseManager Content × Bool) :
    (manager.isOpen = false ∧ manager.runInTransaction outcome callback = (manager, false)) ∨
    (manager.isOpen = true ∧ ¬ (outcome.begun = true ∧ manager.transaction = none) ∧
      manager.runInTransaction outcome callback = (manager.issue .transaction, false)) ∨
    (manager.isOpen = true ∧ outcome.begun = true ∧ manager.transaction = none ∧
      manager.runInTransaction outcome callback =
        finish outcome (callback manager.started.enter)) := by
  unfold runInTransaction
  by_cases isOpen : manager.isOpen = true
  · rw [if_neg (not_not.mpr isOpen)]
    simp only [outermost, if_true, not_true_eq_false, if_false]
    unfold beginTransaction
    by_cases begun : outcome.begun = true ∧ manager.transaction = none
    · rw [if_pos ⟨isOpen, begun.1, Option.isNone_iff_eq_none.mpr begun.2⟩]
      exact Or.inr (Or.inr ⟨isOpen, begun.1, begun.2, rfl⟩)
    · rw [if_neg fun all => begun ⟨all.2.1, Option.isNone_iff_eq_none.mp all.2.2⟩]
      exact Or.inr (Or.inl ⟨isOpen, begun, rfl⟩)
  · rw [if_pos isOpen]
    exact Or.inl ⟨Bool.eq_false_iff.mpr isOpen, rfl⟩

structure Ended (manager : DatabaseManager Content) (ran after : DatabaseManager Content × Bool)
    (outcome : TransactionOutcome) : Prop where
  depth : after.1.transactionDepth = 0
  isOpen : after.1.isOpen = manager.isOpen
  commands : after.1.commands = manager.commands ++
    [.transaction, if ran.2 then .commit else .rollback]
  result : after.2 = (ran.2 && outcome.committed)
  committed : after.1.committed =
    if ran.2 && outcome.committed then ran.1.content else manager.committed
  transaction : after.1.transaction =
    if ran.2 && !outcome.committed then some ran.1.content else none

theorem ended_run {manager : DatabaseManager Content} (outermost : manager.transactionDepth = 0)
    (outcome : TransactionOutcome) (body : Callback Content) :
    Ended manager (body.run manager.started.enter)
      (finish outcome (body.run manager.started.enter)) outcome := by
  have within := Within.run body manager.started.enter (Nat.succ_ne_zero _)
  generalize body.run manager.started.enter = ran at within
  obtain ⟨inner, ok⟩ := ran
  have depth : inner.transactionDepth = 1 := within.depth.trans (congrArg (· + 1) outermost)
  have commands : inner.commands = manager.commands ++ [.transaction] := within.commands
  have committed : inner.committed = manager.committed := within.committed rfl
  have isOpen : inner.isOpen = manager.isOpen := within.isOpen
  have stillOpen : inner.transaction.isSome = true := within.transaction
  obtain ⟨content, found⟩ := Option.isSome_iff_exists.mp stillOpen
  cases ok with
  | false =>
      exact ⟨by simp [finish, rollback, leave, issue, depth],
        by simp [finish, rollback, leave, issue, isOpen],
        by simp [finish, rollback, leave, issue, commands],
        rfl, by simp [finish, rollback, leave, issue, committed], rfl⟩
  | true =>
      have seen : inner.content = content := by
        rw [DatabaseManager.content, found]
        rfl
      have ends : finish outcome (inner, true) =
          if outcome.committed then
            ({ inner.leave.issue .commit with committed := content, transaction := none }, true)
          else (inner.leave.issue .commit, false) := by
        simp [finish, commit, leave, found]
      rw [ends]
      cases commits : outcome.committed with
      | true =>
          exact ⟨by simp [leave, issue, depth], by simp [leave, issue, isOpen],
            by simp [leave, issue, commands], by simp [commits], by simp [commits, seen],
            by simp [commits]⟩
      | false =>
          exact ⟨by simp [leave, issue, depth], by simp [leave, issue, isOpen],
            by simp [leave, issue, commands], by simp [commits],
            by simp [leave, issue, commits, committed],
            by simp [leave, issue, commits, found, seen]⟩

structure Restored (before after : DatabaseManager Content) : Prop where
  content : after.content = before.content
  settled : after.transaction = none
  canBegin : (after.beginTransaction true).2 = true

theorem canBegin_iff (manager : DatabaseManager Content) :
    (manager.beginTransaction true).2 = true ↔
      manager.isOpen = true ∧ manager.transaction = none := by
  unfold beginTransaction
  split
  · rename_i all
    exact iff_of_true rfl ⟨all.1, Option.isNone_iff_eq_none.mp all.2.2⟩
  · rename_i refused
    exact iff_of_false Bool.false_ne_true fun both =>
      refused ⟨both.1, rfl, Option.isNone_iff_eq_none.mpr both.2⟩

/-- An outermost call that returns false leaves everything as it was, unless it
found a transaction open, the database closed, or its own commit failed. -/
theorem restored_iff {manager : DatabaseManager Content}
    (outermost : manager.transactionDepth = 0) (outcome : TransactionOutcome)
    (body : Callback Content) :
    ((manager.runInTransaction outcome body.run).2 = false →
        Restored manager (manager.runInTransaction outcome body.run).1) ↔
      manager.isOpen = true ∧ manager.transaction = none ∧
        (outcome.begun = true → (body.run manager.started.enter).2 = true →
          outcome.committed = true) := by
  rcases runInTransaction_outermost outermost outcome body.run with
    ⟨closed, same⟩ | ⟨isOpen, refused, same⟩ | ⟨isOpen, begun, idle, ran⟩
  · rw [same]
    refine iff_of_false ?_ fun all => Bool.false_ne_true (closed.symm.trans all.1)
    intro restored
    have canBegin := (canBegin_iff manager).mp (restored rfl).canBegin
    exact Bool.false_ne_true (closed.symm.trans canBegin.1)
  · rw [same]
    constructor
    · intro restored
      have settled : manager.transaction = none := (restored rfl).settled
      exact ⟨isOpen, settled, fun begun => absurd ⟨begun, settled⟩ refused⟩
    · rintro ⟨_, settled, _⟩ _
      exact ⟨rfl, settled, (canBegin_iff _).mpr ⟨isOpen, settled⟩⟩
  · have ended := ended_run outermost outcome body
    rw [ran]
    generalize body.run manager.started.enter = inner at ended
    constructor
    · intro restored
      refine ⟨isOpen, idle, fun _ asked => ?_⟩
      by_contra failed
      have committedFails : outcome.committed = false := Bool.eq_false_iff.mpr failed
      have settled := (restored (by rw [ended.result, committedFails, Bool.and_false])).settled
      rw [ended.transaction, asked, committedFails] at settled
      cases settled
    · rintro ⟨_, _, commits⟩ failed
      have rolledBack : inner.2 = false := by
        cases asked : inner.2 with
        | false => rfl
        | true =>
            rw [ended.result, asked, commits begun asked] at failed
            cases failed
      have settled : (finish outcome inner).1.transaction = none := by
        rw [ended.transaction, rolledBack]
        rfl
      refine ⟨?_, settled, (canBegin_iff _).mpr ⟨ended.isOpen.trans isOpen, settled⟩⟩
      rw [content, content, settled, idle, Option.getD_none, Option.getD_none, ended.committed,
        rolledBack]
      rfl

theorem runInTransaction_kept (manager : DatabaseManager Content) (outcome : TransactionOutcome)
    (body : Callback Content) :
    (manager.runInTransaction outcome body.run).1.transactionDepth = manager.transactionDepth ∧
      (manager.runInTransaction outcome body.run).1.isOpen = manager.isOpen := by
  by_cases outermost : manager.transactionDepth = 0
  · rcases runInTransaction_outermost outermost outcome body.run with
      ⟨_, same⟩ | ⟨_, _, same⟩ | ⟨_, _, _, ran⟩
    · rw [same]
      exact ⟨rfl, rfl⟩
    · rw [same]
      exact ⟨rfl, rfl⟩
    · have ended := ended_run outermost outcome body
      rw [ran]
      exact ⟨ended.depth.trans outermost.symm, ended.isOpen⟩
  · have within := Within.inner outermost outcome (Within.run body)
    exact ⟨within.depth, within.isOpen⟩

/-- For every tree of calls: the depth comes back, only the outermost call talks
to the connection, and exactly where its own commit does not fail does a call
that returned false leave the database as it found it, ready for the next one. -/
theorem runInTransaction_tree (manager : DatabaseManager Content) (outcome : TransactionOutcome)
    (body : Callback Content) :
    (manager.runInTransaction outcome body.run).1.transactionDepth = manager.transactionDepth ∧
    (manager.transactionDepth ≠ 0 →
      (manager.runInTransaction outcome body.run).1.commands = manager.commands) ∧
    (manager.transactionDepth = 0 →
      (∃ issued ∈ [[], [.transaction], [.transaction, .commit], [.transaction, .rollback]],
        (manager.runInTransaction outcome body.run).1.commands = manager.commands ++ issued) ∧
      (((manager.runInTransaction outcome body.run).2 = false →
          Restored manager (manager.runInTransaction outcome body.run).1) ↔
        manager.isOpen = true ∧ manager.transaction = none ∧
          (outcome.begun = true → (body.run manager.started.enter).2 = true →
            outcome.committed = true))) := by
  refine ⟨(runInTransaction_kept manager outcome body).1, ?_, ?_⟩
  · intro inside
    exact (Within.inner inside outcome (Within.run body)).commands
  · intro outermost
    refine ⟨?_, restored_iff outermost outcome body⟩
    rcases runInTransaction_outermost outermost outcome body.run with
      ⟨_, same⟩ | ⟨_, _, same⟩ | ⟨_, _, _, ran⟩
    · exact ⟨[], by simp, by rw [same, List.append_nil]⟩
    · exact ⟨[.transaction], by simp, by rw [same]; rfl⟩
    · refine ⟨_, ?_, by rw [ran, (ended_run outermost outcome body).commands]⟩
      cases (body.run manager.started.enter).2 <;> simp

/-- The commit of an outermost call fails: the call returns false, yet its writes
stay visible in an open transaction, and no later call can begin. -/
theorem failed_commit_leaves_open :
    let manager : DatabaseManager Nat := { committed := 0 }
    let after := manager.runInTransaction { committed := false }
      (Callback.statement (fun _ => 1) fun _ => .done true).run
    after.2 = false ∧ after.1.content = 1 ∧ manager.content = 0 ∧
      after.1.transaction = some 1 ∧
      (after.1.runInTransaction {} (Callback.done true).run).2 = false := by
  decide

/-! ## Runs of outermost calls -/

def runCalls (calls : List (TransactionOutcome × Callback Content))
    (manager : DatabaseManager Content) : DatabaseManager Content :=
  calls.foldl (fun manager call => (manager.runInTransaction call.1 call.2.run).1) manager

/-- While no commit fails, no transaction is open between two calls. -/
theorem runCalls_idle (calls : List (TransactionOutcome × Callback Content))
    (commits : ∀ call ∈ calls, call.1.committed = true) :
    ∀ manager : DatabaseManager Content, manager.transactionDepth = 0 →
      manager.transaction = none →
      (runCalls calls manager).transactionDepth = 0 ∧
        (runCalls calls manager).transaction = none := by
  induction calls with
  | nil =>
      intro manager outermost idle
      exact ⟨outermost, idle⟩
  | cons call rest ih =>
      intro manager outermost idle
      have restored : (manager.runInTransaction call.1 call.2.run).1.transactionDepth = 0 ∧
          (manager.runInTransaction call.1 call.2.run).1.transaction = none := by
        rcases runInTransaction_outermost outermost call.1 call.2.run with
          ⟨_, same⟩ | ⟨_, _, same⟩ | ⟨_, _, _, ran⟩
        · rw [same]
          exact ⟨outermost, idle⟩
        · rw [same]
          exact ⟨outermost, idle⟩
        · have ended := ended_run outermost call.1 call.2
          rw [ran, ended.transaction, commits call List.mem_cons_self]
          exact ⟨ended.depth, by simp⟩
      exact ih (fun other otherIn => commits other (List.mem_cons_of_mem _ otherIn)) _
        restored.1 restored.2

/-- Once a transaction is left open, every later call fails and the tables that
are seen are never committed by one. -/
theorem runCalls_stuck (calls : List (TransactionOutcome × Callback Content)) :
    ∀ manager : DatabaseManager Content, manager.transactionDepth = 0 →
      manager.transaction.isSome = true →
      (runCalls calls manager).transaction = manager.transaction ∧
        (runCalls calls manager).committed = manager.committed := by
  induction calls with
  | nil =>
      intro manager _ _
      exact ⟨rfl, rfl⟩
  | cons call rest ih =>
      intro manager outermost left
      rcases runInTransaction_outermost outermost call.1 call.2.run with
        ⟨_, same⟩ | ⟨_, _, same⟩ | ⟨_, _, idle, _⟩
      · rw [runCalls, List.foldl_cons, same]
        exact ih manager outermost left
      · rw [runCalls, List.foldl_cons, same]
        exact ih (manager.issue .transaction) outermost left
      · rw [idle] at left
        cases left

/-! ## The tables of the client -/

def database (manager : DatabaseManager LocalTables) : LocalDatabase :=
  ⟨manager.committed, manager.transaction⟩

end DatabaseManager

def TransactionOutcome.onLocal (outcome : TransactionOutcome) : TransactionRun where
  begun := outcome.begun
  commit := if outcome.committed then .committed else .leftOpen

def Callback.onLocal :
    Callback LocalTables → Nat → LocalDatabase → LocalDatabase × Option Unit
  | .done result, _, db => (db, if result then some () else none)
  | .statement change rest, depth, db =>
      (rest db.view).onLocal depth (db.write (change db.view))
  | .nested outcome inner rest, depth, db =>
      let (after, result) :=
        db.runInTransaction depth outcome.onLocal (inner.onLocal (depth + 1))
      (rest result.isSome).onLocal depth after

namespace DatabaseManager

theorem database_write (manager : DatabaseManager LocalTables) (tables : LocalTables) :
    (manager.write tables).database = manager.database.write tables := by
  unfold write database LocalDatabase.write
  cases manager.transaction <;> rfl

/-- The transactions of the client's tables are those of the manager. -/
theorem database_runInTransaction (outcome : TransactionOutcome) (body : Callback LocalTables)
    (agrees : ∀ manager : DatabaseManager LocalTables, manager.isOpen = true →
      body.onLocal manager.transactionDepth manager.database =
        ((body.run manager).1.database, if (body.run manager).2 then some () else none))
    (manager : DatabaseManager LocalTables) (isOpen : manager.isOpen = true) :
    manager.database.runInTransaction manager.transactionDepth outcome.onLocal
        (body.onLocal (manager.transactionDepth + 1)) =
      ((manager.runInTransaction outcome body.run).1.database,
        if (manager.runInTransaction outcome body.run).2 then some () else none) := by
  by_cases outermost : manager.transactionDepth = 0
  · rw [outermost]
    rcases runInTransaction_outermost outermost outcome body.run with
      ⟨closed, _⟩ | ⟨_, refused, same⟩ | ⟨_, begun, idle, ran⟩
    · exact absurd (closed.symm.trans isOpen) Bool.false_ne_true
    · have notBegun : ¬ (outcome.onLocal.begun = true ∧
          manager.database.transaction.isNone = true) := fun both =>
        refused ⟨both.1, Option.isNone_iff_eq_none.mp both.2⟩
      rw [same]
      exact (if_neg (not_not.mpr rfl)).trans
        ((if_neg (not_not.mpr rfl)).trans (if_pos notBegun))
    · have ended := ended_run outermost outcome body
      have agreed := agrees manager.started.enter isOpen
      rw [show manager.started.enter.transactionDepth = 0 + 1 from
        congrArg (· + 1) outermost] at agreed
      have begins : outcome.onLocal.begun = true ∧
          manager.database.transaction.isNone = true :=
        ⟨begun, Option.isNone_iff_eq_none.mpr idle⟩
      unfold LocalDatabase.runInTransaction
      rw [if_neg (not_not.mpr rfl), if_neg (not_not.mpr begins)]
      rw [show ({ manager.database with transaction := some manager.database.committed } :
        LocalDatabase) = manager.started.enter.database from rfl, agreed, ran]
      generalize body.run manager.started.enter = inner at ended
      generalize finish outcome inner = after at ended
      have sameTables : after.1.database = ⟨after.1.committed, after.1.transaction⟩ := rfl
      rw [sameTables, ended.result, ended.committed, ended.transaction]
      have view : LocalDatabase.view ⟨inner.1.committed, inner.1.transaction⟩ =
          inner.1.content := rfl
      cases asked : inner.2 with
      | false => simp [database, idle]
      | true =>
          cases commits : outcome.committed with
          | false => simp [TransactionOutcome.onLocal, commits, view, database]
          | true => simp [TransactionOutcome.onLocal, commits, view, database]
  · obtain ⟨depth, isDepth⟩ := Nat.exists_eq_succ_of_ne_zero outermost
    have agreed := agrees manager.enter isOpen
    rw [runInTransaction_inner outermost, if_pos isOpen, isDepth]
    rw [show manager.enter.transactionDepth = depth + 1 + 1 from
      congrArg (· + 1) isDepth] at agreed
    exact (LocalDatabase.runInTransaction_nested _ _ _ _).trans agreed

/-- A callback does to the client's tables what it does under the manager. -/
theorem database_run (body : Callback LocalTables) :
    ∀ manager : DatabaseManager LocalTables, manager.isOpen = true →
      body.onLocal manager.transactionDepth manager.database =
        ((body.run manager).1.database, if (body.run manager).2 then some () else none) := by
  induction body with
  | done result =>
      intro manager _
      rfl
  | statement change rest ih =>
      intro manager isOpen
      have after := ih manager.content (manager.write (change manager.content))
        (by rw [isOpen_write]; exact isOpen)
      rw [transactionDepth_write, database_write] at after
      exact after
  | nested outcome inner rest innerIh restIh =>
      intro manager isOpen
      have called := database_runInTransaction outcome inner innerIh manager isOpen
      obtain ⟨sameDepth, sameOpen⟩ := runInTransaction_kept manager outcome inner
      have after := restIh (manager.runInTransaction outcome inner.run).2
        (manager.runInTransaction outcome inner.run).1 (sameOpen.trans isOpen)
      rw [sameDepth] at after
      unfold Callback.onLocal
      rw [called]
      cases ok : (manager.runInTransaction outcome inner.run).2 with
      | false =>
          rw [ok] at after
          exact after.trans (by simp [Callback.run, ok])
      | true =>
          rw [ok] at after
          exact after.trans (by simp [Callback.run, ok])

end DatabaseManager

end ShirohaChat
