import Lalaba.Foundation.Outcome
import Mathlib.Data.Option.Basic

/-!
# Transaction callbacks that may be run more than once

A client library hands a callback to `withTransaction`.  The callback edits
objects in memory and makes database calls in a session.  A run can be aborted
at any of its calls: the database then rolls back and the callback is run again,
but what the aborted run did to memory stays.

`Program` is the type of such callbacks.  The budget of a session is the number
of calls that still succeed before the run is aborted; a run that is not
aborted has no budget.  The rest of the module is the logic of programs: what a
program ensures when it succeeds, that it does succeed, and what it leaves
behind however it ends.
-/

namespace Lalaba.Foundation

/-- A run is aborted by the database, or ends with an error of its own. -/
inductive Failure (Error : Type) where
  | transient
  | thrown (error : Error)

/--
What a callback works on.  `store` is the transaction's own view, `durable` what
the database keeps when the transaction is rolled back.
-/
structure Session (Store Memory : Type) where
  store : Store
  durable : Store
  memory : Memory
  budget : Option Nat

def Program (Store Memory Error Value : Type) : Type :=
  Session Store Memory → Except (Failure Error) Value × Session Store Memory

namespace Program

variable {Store Memory Error Value Next : Type}

/-! ## Statements -/

def run (program : Program Store Memory Error Value)
    (session : Session Store Memory) :
    Except (Failure Error) Value × Session Store Memory :=
  program session

def skip (value : Value) : Program Store Memory Error Value :=
  fun session => (.ok value, session)

def andThen (first : Program Store Memory Error Value)
    (next : Value → Program Store Memory Error Next) :
    Program Store Memory Error Next :=
  fun session =>
    match first session with
    | (.ok value, after) => next value after
    | (.error failure, after) => (.error failure, after)

instance : Monad (Program Store Memory Error) where
  pure := skip
  bind := andThen

def raise (error : Error) : Program Store Memory Error Value :=
  fun session => (.error (.thrown error), session)

def check (checked : Except Error Value) :
    Program Store Memory Error Value :=
  match checked with
  | .ok value => skip value
  | .error error => raise error

def remember : Program Store Memory Error Memory :=
  fun session => (.ok session.memory, session)

def edit (change : Memory → Memory) : Program Store Memory Error Unit :=
  fun session =>
    (.ok (), { session with memory := change session.memory })

/--
A database call in the session.  It is aborted when the budget is used up;
otherwise it fails with an error and no effect, or changes the transaction's
view and memory.
-/
def call (action : Store → Memory → Except Error (Value × Store × Memory)) :
    Program Store Memory Error Value :=
  fun session =>
    match session.budget with
    | some 0 => (.error .transient, session)
    | budget =>
      match action session.store session.memory with
      | .error error =>
        (.error (.thrown error), { session with budget := budget.map Nat.pred })
      | .ok (value, store, memory) =>
        (.ok value, { session with
            store, memory, budget := budget.map Nat.pred })

def query (action : Store → Except Error (Value × Store)) :
    Program Store Memory Error Value :=
  call fun store memory =>
    (action store).map fun (value, after) => (value, after, memory)

/--
A database call outside the session, as a service makes it that opens a session
of its own: it is committed at once and a rollback of this transaction does not
undo it.
-/
def outside (action : Store → Value × Store) :
    Program Store Memory Error Value :=
  fun session =>
    ((.ok (action session.durable).1), { session with
        store := (action session.store).2,
        durable := (action session.durable).2 })

/-- A `try` block whose `catch` only logs. -/
def attempt (program : Program Store Memory Error Unit) :
    Program Store Memory Error Unit :=
  fun session => (.ok (), (program session).2)

def runOnce (program : Program Store Memory Error Value)
    (budget : Option Nat) (store : Store) (memory : Memory) :
    Except (Failure Error) Value × Session Store Memory :=
  program.run { store, durable := store, memory, budget }

/--
The final run: its view is committed when it succeeds, and nothing but what it
wrote outside the session stays when it throws.
-/
def commit (program : Program Store Memory Error Value)
    (store : Store) (memory : Memory) :
    Except (Failure Error) Value × Store × Memory :=
  match program.runOnce none store memory with
  | (.ok value, after) => (.ok value, after.store, after.memory)
  | (.error failure, after) =>
    (.error failure, after.durable, after.memory)

/--
Run a callback with the given aborted runs before the final one.  An aborted
run that threw an error of its own ends the transaction; any other is rolled
back and followed by the next, over the same memory.
-/
def withTransaction (program : Program Store Memory Error Value) :
    List Nat → Store → Memory → Except (Failure Error) Value × Store × Memory
  | [], store, memory => program.commit store memory
  | budget :: rest, store, memory =>
    match program.runOnce (some budget) store memory with
    | (.error (.thrown error), after) =>
      (.error (.thrown error), after.durable, after.memory)
    | (_, after) =>
      program.withTransaction rest after.durable after.memory

@[simp]
theorem withTransaction_nil
    (program : Program Store Memory Error Value)
    (store : Store) (memory : Memory) :
    program.withTransaction [] store memory =
      program.commit store memory :=
  rfl

theorem bind_eq (first : Program Store Memory Error Value)
    (next : Value → Program Store Memory Error Next) :
    first >>= next = andThen first next :=
  rfl

theorem pure_eq (value : Value) :
    (pure value : Program Store Memory Error Value) = skip value :=
  rfl

variable {session finish : Session Store Memory} {value : Value}

theorem run_bind_ok {first : Program Store Memory Error Value}
    {next : Value → Program Store Memory Error Next} {result : Next} :
    (first >>= next).run session = (.ok result, finish) ↔
      ∃ value middle, first.run session = (.ok value, middle) ∧
        (next value).run middle = (.ok result, finish) := by
  rw [bind_eq, run, andThen]
  constructor
  · intro ran
    rcases outcome : first session with ⟨_ | value, middle⟩
    · rw [outcome] at ran
      cases ran
    · rw [outcome] at ran
      exact ⟨value, middle, outcome, ran⟩
  · rintro ⟨value, middle, ran, rest⟩
    have ran' : first session = (.ok value, middle) := ran
    rw [ran']
    exact rest

theorem run_call_ok
    {action : Store → Memory → Except Error (Value × Store × Memory)}
    (unlimited : session.budget = none) :
    (call action).run session = (.ok value, finish) ↔
      ∃ store memory,
        action session.store session.memory = .ok (value, store, memory) ∧
          finish = { session with store, memory } := by
  rcases session with ⟨store, durable, memory, budget⟩
  cases unlimited
  rcases outcome : action store memory with error | ⟨result, store', memory'⟩
  · simp [run, call, outcome]
  · simp only [run, call, outcome]
    constructor
    · intro equal
      cases equal
      exact ⟨store', memory', rfl, rfl⟩
    · rintro ⟨_, _, equal, rfl⟩
      cases equal
      rfl

theorem run_query_ok {action : Store → Except Error (Value × Store)}
    (unlimited : session.budget = none) :
    (query action).run session = (.ok value, finish) ↔
      ∃ store, action session.store = .ok (value, store) ∧ finish = { session with store } := by
  rw [query, run_call_ok unlimited]
  rcases action session.store with error | ⟨result, result'⟩
  · simp [Except.map]
  · simp only [Except.map, Except.ok.injEq, Prod.mk.injEq]
    constructor
    · rintro ⟨store, memory, ⟨rfl, rfl, rfl⟩, rfl⟩
      exact ⟨_, ⟨rfl, rfl⟩, rfl⟩
    · rintro ⟨store, ⟨rfl, rfl⟩, rfl⟩
      exact ⟨_, _, ⟨rfl, rfl, rfl⟩, rfl⟩

theorem commit_ok {program : Program Store Memory Error Value}
    {store store' : Store} {memory memory' : Memory} :
    program.commit store memory = (.ok value, store', memory') ↔
      ∃ finish,
        program.run { store, durable := store, memory, budget := none } =
            (.ok value, finish) ∧
          finish.store = store' ∧ finish.memory = memory' := by
  rw [commit, runOnce]
  rcases outcome : program.run { store, durable := store, memory, budget := none } with
    ⟨failure | result, after⟩
  · simp
  · constructor
    · intro equal
      cases equal
      exact ⟨after, rfl, rfl, rfl⟩
    · rintro ⟨finish, equal, rfl, rfl⟩
      cases equal
      rfl

/-! ## What a program ensures

`Ensures before program after` is partial correctness for runs that are not
aborted: from a state with `before`, a run that succeeds ends with `after`.
-/

def Ensures (before : Store → Memory → Prop)
    (program : Program Store Memory Error Value)
    (after : Value → Store → Memory → Prop) : Prop :=
  ∀ session value finish, session.budget = none →
    before session.store session.memory →
    program.run session = (.ok value, finish) →
    finish.budget = none ∧ after value finish.store finish.memory

section

variable {before : Store → Memory → Prop}
  {after : Value → Store → Memory → Prop}
  {program : Program Store Memory Error Value}

theorem Ensures.weaken
    {stronger : Store → Memory → Prop}
    {weaker : Value → Store → Memory → Prop}
    (ensures : Ensures before program after)
    (strengthen : ∀ store memory, stronger store memory → before store memory)
    (relax : ∀ value store memory, after value store memory → weaker value store memory) :
    Ensures stronger program weaker := by
  intro session value finish unlimited holds ran
  obtain ⟨budget, reached⟩ := ensures session value finish unlimited (strengthen _ _ holds) ran
  exact ⟨budget, relax _ _ _ reached⟩

theorem Ensures.strengthen
    {stronger : Store → Memory → Prop}
    (ensures : Ensures before program after)
    (strengthen : ∀ store memory, stronger store memory → before store memory) :
    Ensures stronger program after :=
  ensures.weaken strengthen (fun _ _ _ => id)

theorem Ensures.pure {value : Value}
    (holds : ∀ store memory, before store memory → after value store memory) :
    Ensures before (Pure.pure value : Program Store Memory Error Value)
      after := by
  intro session result finish unlimited start ran
  cases ran
  exact ⟨unlimited, holds _ _ start⟩

theorem Ensures.bind {middle : Value → Store → Memory → Prop}
    {next : Value → Program Store Memory Error Next}
    {post : Next → Store → Memory → Prop}
    (first : Ensures before program middle)
    (second : ∀ value, Ensures (middle value) (next value) post) :
    Ensures before (program >>= next) post := by
  intro session result finish unlimited start ran
  obtain ⟨value, between, ranFirst, ranNext⟩ := run_bind_ok.mp ran
  obtain ⟨budget, reached⟩ := first session value between unlimited start ranFirst
  exact second value between result finish budget reached ranNext

theorem Ensures.call
    {action : Store → Memory → Except Error (Value × Store × Memory)}
    (holds : ∀ store memory value store' memory', before store memory →
      action store memory = .ok (value, store', memory') → after value store' memory') :
    Ensures before (call action) after := by
  intro session value finish unlimited start ran
  obtain ⟨store, memory, acted, rfl⟩ := (run_call_ok unlimited).mp ran
  exact ⟨unlimited, holds _ _ _ _ _ start acted⟩

theorem Ensures.query {action : Store → Except Error (Value × Store)}
    (holds : ∀ store memory value store', before store memory →
      action store = .ok (value, store') → after value store' memory) :
    Ensures before (query action) after := by
  apply Ensures.call
  intro store memory value store' memory' start acted
  rcases outcome : action store with error | ⟨result, result'⟩
  · rw [outcome] at acted
    cases acted
  · rw [outcome] at acted
    cases acted
    exact holds store memory value store' start outcome

theorem Ensures.edit {change : Memory → Memory}
    {after : Unit → Store → Memory → Prop}
    (holds : ∀ store memory, before store memory → after () store (change memory)) :
    Ensures before (edit change : Program Store Memory Error Unit) after := by
  intro session value finish unlimited start ran
  cases ran
  exact ⟨unlimited, holds _ _ start⟩

theorem Ensures.remember {after : Memory → Store → Memory → Prop}
    (holds : ∀ store memory, before store memory → after memory store memory) :
    Ensures before (remember : Program Store Memory Error Memory) after := by
  intro session value finish unlimited start ran
  cases ran
  exact ⟨unlimited, holds _ _ start⟩

theorem Ensures.remembering
    {next : Memory → Program Store Memory Error Next}
    {post : Next → Store → Memory → Prop}
    (rest : ∀ memory, Ensures
      (fun store current => before store current ∧ current = memory)
      (next memory) post) :
    Ensures before (Program.remember >>= next) post :=
  Ensures.bind (Ensures.remember fun _ _ start => ⟨start, rfl⟩) rest

theorem Ensures.reading {Fact : Memory → Prop}
    {next : Memory → Program Store Memory Error Next}
    {post : Next → Store → Memory → Prop}
    (known : ∀ store memory, before store memory → Fact memory)
    (rest : ∀ memory, Fact memory → Ensures before (next memory) post) :
    Ensures before (Program.remember >>= next) post := by
  apply Ensures.remembering
  intro memory session value finish unlimited start ran
  rcases start with ⟨start, rfl⟩
  exact rest _ (known _ _ start) session value finish unlimited start ran

theorem Ensures.unreachable
    {program : Program Store Memory Error Value}
    {after : Value → Store → Memory → Prop} :
    Ensures (fun _ _ => False) program after :=
  fun _ _ _ _ start => start.elim

theorem Ensures.exists {Index : Type} {before : Index → Store → Memory → Prop}
    (each : ∀ index, Ensures (before index) program after) :
    Ensures (fun store memory => ∃ index, before index store memory)
      program after := by
  intro session value finish unlimited start ran
  rcases start with ⟨index, start⟩
  exact each index session value finish unlimited start ran

theorem Ensures.assuming {fact : Prop}
    (rest : fact → Ensures before program after) :
    Ensures (fun store memory => fact ∧ before store memory)
      program after := by
  intro session value finish unlimited start ran
  exact rest start.1 session value finish unlimited start.2 ran

theorem Ensures.knowing {fact : Prop}
    (known : ∀ store memory, before store memory → fact)
    (rest : fact → Ensures before program after) :
    Ensures before program after := by
  intro session value finish unlimited start ran
  exact rest (known _ _ start) session value finish unlimited start ran

theorem Ensures.committed (ensures : Ensures before program after)
    {store store' : Store} {memory memory' : Memory} {value : Value}
    (start : before store memory)
    (committed : program.commit store memory = (.ok value, store', memory')) :
    after value store' memory' := by
  rcases commit_ok.mp committed with ⟨finish, ran, rfl, rfl⟩
  exact (ensures _ _ _ rfl start ran).2

theorem Ensures.and {before' : Store → Memory → Prop}
    {after' : Value → Store → Memory → Prop}
    (first : Ensures before program after)
    (second : Ensures before' program after') :
    Ensures
      (fun store memory => before store memory ∧ before' store memory)
      program
      (fun value store memory =>
        after value store memory ∧ after' value store memory) := by
  intro session value finish unlimited start ran
  have one := first session value finish unlimited start.1 ran
  have other := second session value finish unlimited start.2 ran
  exact ⟨one.1, one.2, other.2⟩

theorem Ensures.raise {error : Error} :
    Ensures before (raise error : Program Store Memory Error Value) after := by
  intro session value finish unlimited start ran
  cases ran

theorem Ensures.check {checked : Except Error Value}
    (holds : ∀ value store memory, checked = .ok value →
      before store memory → after value store memory) :
    Ensures before (check checked : Program Store Memory Error Value) after := by
  cases checked with
  | error error => exact Ensures.raise
  | ok value => exact Ensures.pure (fun _ _ => holds _ _ _ rfl)

end

/-! ## What a program leaves behind however it ends -/

def Keeps (property : Session Store Memory → Prop)
    (program : Program Store Memory Error Value) : Prop :=
  ∀ session, property session → property (program.run session).2

section

variable {property : Session Store Memory → Prop}

theorem Keeps.pure (value : Value) :
    Keeps property (Pure.pure value : Program Store Memory Error Value) :=
  fun _ holds => holds

theorem Keeps.ran {program : Program Store Memory Error Value}
    {session finish : Session Store Memory}
    {result : Except (Failure Error) Value}
    (keeps : Keeps property program) (start : property session)
    (ran : program.run session = (result, finish)) : property finish := by
  have ended := keeps session start
  rw [ran] at ended
  exact ended

theorem Keeps.committed {holds : Store → Memory → Prop}
    {program : Program Store Memory Error Value} {store store' : Store}
    {memory memory' : Memory} {value : Value}
    (keeps : Keeps (fun session => holds session.store session.memory) program)
    (start : holds store memory)
    (committed : program.commit store memory = (.ok value, store', memory')) :
    holds store' memory' := by
  rcases commit_ok.mp committed with ⟨finish, ran, rfl, rfl⟩
  exact Keeps.ran keeps start ran

theorem Keeps.raise (error : Error) :
    Keeps property (raise error : Program Store Memory Error Value) :=
  fun _ holds => holds

theorem Keeps.remember :
    Keeps property (remember : Program Store Memory Error Memory) :=
  fun _ holds => holds

theorem Keeps.check (checked : Except Error Value) :
    Keeps property (check checked : Program Store Memory Error Value) := by
  cases checked with
  | error error => exact Keeps.raise error
  | ok value => exact Keeps.pure value

theorem Keeps.edit {change : Memory → Memory}
    (kept : ∀ session, property session →
      property { session with memory := change session.memory }) :
    Keeps property (edit change : Program Store Memory Error Unit) :=
  fun session holds => kept session holds

theorem Keeps.outside {action : Store → Value × Store}
    (kept : ∀ session, property session → property { session with
          store := (action session.store).2
          durable := (action session.durable).2 }) :
    Keeps property (outside action : Program Store Memory Error Value) :=
  fun session holds => kept session holds

theorem Keeps.call
    {action : Store → Memory → Except Error (Value × Store × Memory)}
    (spent : ∀ session, property session →
      property { session with budget := session.budget.map Nat.pred })
    (kept : ∀ session value store memory, property session →
      action session.store session.memory = .ok (value, store, memory) →
      property { session with store, memory }) :
    Keeps property (call action) := by
  rintro ⟨store, durable, memory, budget⟩ holds
  rcases budget with _ | _ | remaining
  · rcases outcome : action store memory with
      error | ⟨value, store', memory'⟩
    · simpa [run, Program.call, outcome] using spent _ holds
    · simpa [run, Program.call, outcome] using spent _ (kept _ _ _ _ holds outcome)
  · exact holds
  · rcases outcome : action store memory with
      error | ⟨value, store', memory'⟩
    · simpa [run, Program.call, outcome] using spent _ holds
    · simpa [run, Program.call, outcome] using spent _ (kept _ _ _ _ holds outcome)

theorem Keeps.query {action : Store → Except Error (Value × Store)}
    (spent : ∀ session, property session →
      property { session with budget := session.budget.map Nat.pred })
    (kept : ∀ session value store, property session →
      action session.store = .ok (value, store) →
      property { session with store }) :
    Keeps property (query action : Program Store Memory Error Value) := by
  apply Keeps.call spent
  intro session value store memory holds acted
  rcases outcome : action session.store with error | ⟨result, after⟩
  · rw [outcome] at acted
    cases acted
  · rw [outcome] at acted
    cases acted
    exact kept session value store holds outcome

theorem Keeps.bind {first : Program Store Memory Error Value}
    {next : Value → Program Store Memory Error Next}
    (keepsFirst : Keeps property first)
    (keepsNext : ∀ value, Keeps property (next value)) :
    Keeps property (first >>= next) := by
  intro session holds
  have reached := keepsFirst session holds
  show property (andThen first next session).2
  rw [andThen]
  rcases outcome : first session with ⟨_ | value, middle⟩
  · rw [run, outcome] at reached
    exact reached
  · rw [run, outcome] at reached
    exact keepsNext value middle reached

theorem Keeps.reading {Fact : Memory → Prop}
    {next : Memory → Program Store Memory Error Next}
    (known : ∀ session, property session → Fact session.memory)
    (keepsNext : ∀ memory, Fact memory → Keeps property (next memory)) :
    Keeps property (Program.remember >>= next) :=
  fun session holds => keepsNext session.memory (known session holds) session holds

theorem Keeps.checking {checked : Except Error Value}
    {next : Value → Program Store Memory Error Next}
    (keepsNext : ∀ value, Keeps property (next value)) :
    Keeps property (Program.check checked >>= next) :=
  Keeps.bind (Keeps.check checked) keepsNext

theorem Keeps.attempt {program : Program Store Memory Error Unit}
    (keeps : Keeps property program) :
    Keeps property (attempt program) :=
  fun session holds => keeps session holds

end

/--
When nothing is written outside the session, a commit that fails leaves the
database as it was.
-/
theorem commit_cases {store : Store}
    {program : Program Store Memory Error Value}
    (keeps : Keeps (fun session => session.durable = store) program)
    (memory : Memory) :
    (program.commit store memory).2.1 = store ∨
      ∃ value after memory', program.commit store memory = (.ok value, after, memory') := by
  rcases outcome : program.commit store memory with ⟨failure | value, after, memory'⟩
  · left
    rw [commit, runOnce] at outcome
    have ended := keeps { store, durable := store, memory, budget := none } rfl
    rcases ran : program.run { store, durable := store, memory, budget := none } with
      ⟨_ | _, finish⟩
    · rw [ran] at outcome ended
      cases outcome
      exact ended
    · rw [ran] at outcome
      cases outcome
  · exact .inr ⟨value, after, memory', rfl⟩

/--
So a transaction leaves the database as it was, or commits a run over what
earlier runs have made of memory.
-/
theorem withTransaction_cases (Fact : Memory → Prop) {store : Store}
    {program : Program Store Memory Error Value}
    (keeps : Keeps (fun session => session.durable = store) program)
    (known : Keeps (fun session => Fact session.memory) program)
    (aborts : List Nat) {memory : Memory} (fact : Fact memory) :
    (program.withTransaction aborts store memory).2.1 = store ∨
      ∃ value after memory' middle, Fact middle ∧
        program.commit store middle = (.ok value, after, memory') ∧
        (program.withTransaction aborts store memory).2.1 = after := by
  induction aborts generalizing memory with
  | nil =>
    rw [withTransaction_nil]
    rcases commit_cases keeps memory with
      same | ⟨value, after, memory', committed⟩
    · exact .inl same
    · rw [committed]
      exact .inr ⟨value, after, memory', memory, fact, committed, rfl⟩
  | cons budget rest induction =>
    have ended := keeps { store, durable := store, memory, budget := some budget } rfl
    have known' := known { store, durable := store, memory, budget := some budget } fact
    rw [withTransaction, runOnce]
    rcases ran : program.run { store, durable := store, memory, budget := some budget } with
      ⟨(_ | _) | _, finish⟩
    all_goals
      rw [ran] at ended known'
      have durable : finish.durable = store := ended
      have fact' : Fact finish.memory := known'
      simp only [durable]
    · exact induction fact'
    · exact .inl trivial
    · exact induction fact'

theorem withTransaction_memory (Fact : Memory → Prop)
    {program : Program Store Memory Error Value}
    (known : Keeps (fun session => Fact session.memory) program)
    (aborts : List Nat) {store : Store} {memory : Memory}
    (fact : Fact memory) :
    Fact (program.withTransaction aborts store memory).2.2 := by
  induction aborts generalizing store memory with
  | nil =>
    have ended := known { store, durable := store, memory, budget := none } fact
    rw [withTransaction_nil, commit, runOnce]
    rcases ran : program.run { store, durable := store, memory, budget := none } with
      ⟨_ | _, finish⟩
    all_goals
      rw [ran] at ended
      exact ended
  | cons budget rest induction =>
    have ended := known { store, durable := store, memory, budget := some budget } fact
    rw [withTransaction, runOnce]
    rcases ran : program.run { store, durable := store, memory, budget := some budget } with
      ⟨(_ | _) | _, finish⟩
    all_goals rw [ran] at ended
    · exact induction ended
    · exact ended
    · exact induction ended

theorem Ensures.attempt {before : Store → Memory → Prop}
    {program : Program Store Memory Error Unit}
    (keeps : Keeps
      (fun session => session.budget = none ∧ before session.store session.memory) program) :
    Ensures before (attempt program) (fun _ => before) := by
  intro session value finish unlimited start ran
  cases ran
  exact keeps session ⟨unlimited, start⟩

theorem Ensures.keeps_call {before : Store → Memory → Prop}
    {action : Store → Memory → Except Error (Value × Store × Memory)}
    (ensures : Ensures before (Program.call action) (fun _ => before)) :
    Keeps
      (fun session => session.budget = none ∧ before session.store session.memory)
      (Program.call action) := by
  rintro ⟨store, durable, memory, budget⟩ ⟨unlimited, start⟩
  cases unlimited
  rcases outcome : action store memory with
    error | ⟨value, store', memory'⟩
  · simp only [run, Program.call, outcome]
    exact ⟨rfl, start⟩
  · have ran : (Program.call action).run ⟨store, durable, memory, none⟩ =
        (.ok value, ⟨store', durable, memory', none⟩) := by
      simp [run, Program.call, outcome]
    rw [ran]
    exact ensures _ _ _ rfl start ran

section

variable {before : Store → Memory → Prop}
  {after : Value → Store → Memory → Prop}
  {program : Program Store Memory Error Value}

end

end Program

end Lalaba.Foundation
