import ReporterRegistry.Session.State

/-!
# Steps of a session

A script is a list of steps, and `Step.run` is what a step does: an answer or a
failure, and the next state. A failed step may have changed the state too.
`Session.appended` gives the events that a step added to the journal.
-/

namespace ReporterRegistry

namespace Session

/-! ### Steps -/

/-- A question to a registry. -/
inductive Query where
  | owner
  | authority
  | stakeTerms
  | rewardTerms
  | reporter (id : ReporterId)
  | count
  | page (skip take : Nat)
  | findByAccount (account : Account)
  deriving DecidableEq, Repr

/-- Direct use of the ledger. -/
inductive LedgerStep where
  | mint (token holder : Account) (amount : Amount)
  | balance (token holder : Account)
  | allowance (token owner spender : Account)
  | transfer (token payer payee : Account) (amount : Amount)
  | transferFrom (token spender payer payee : Account) (amount : Amount)
  | approve (token owner spender : Account) (amount : Amount)
  deriving DecidableEq, Repr

/-- Direct use of the store. -/
inductive StoreStep where
  | configuration
  | insertConfiguration (config : Configuration)
  | putConfiguration (config : Configuration)
  | reporter (id : ReporterId)
  | insertReporter (reporter : Reporter)
  | putReporter (reporter : Reporter)
  | count
  | page (skip take : Nat)
  | findByAccount (account : Account)
  deriving DecidableEq, Repr

/-- Direct use of the tables of a database. Rows are counted from one. -/
inductive DatabaseStep where
  | row (nth : Nat)
  /-- Put a value into one cell. -/
  | overwrite (nth : Nat) (column : Column) (cell : Cell)
  /-- The blob of the configuration, if its cell holds one. -/
  | blob
  /-- Put a value in place of the configuration's blob. -/
  | setBlob (cell : Cell)
  /-- Put versions in place of the recorded ones. -/
  | setVersions (versions : List Int)
  /-- Open the database once more. -/
  | reopen
  deriving DecidableEq, Repr

/-- A step of a script. -/
inductive Step where
  /-- Start a registry on a store that has no configuration. -/
  | establish (settings : Settings) (owner : Account)
  /-- Start a registry on a store that has one. -/
  | attach (settings : Settings)
  | operation (operation : Operation)
  | query (query : Query)
  | journal
  | drainJournal
  | locate (entity : Entity PublicKey Bytes)
  | settings
  | subscribe
  | receive (subscriber : Nat)
  | clock (change : ClockChange)
  | time
  | ledger (step : LedgerStep)
  | store (step : StoreStep)
  | planStore (method : StoreMethod) (plan : List Bool)
  | planLedger (method : LedgerMethod) (plan : List Bool)
  | database (step : DatabaseStep)
  deriving DecidableEq, Repr

/-! ### Answers -/

/-- What a step answers. -/
inductive Answer where
  | nothing
  | account (account : Account)
  | stakeTerms (terms : StakeTerms)
  | rewardTerms (terms : RewardTerms)
  | configuration (config : Option Configuration)
  | reporter (reporter : Reporter)
  | found (reporter : Option Reporter)
  | reporters (reporters : List Reporter)
  | amount (amount : Amount)
  | count (n : Nat)
  | flag (value : Bool)
  | events (events : List Event)
  | located (found : DerivedAddress)
  | settings (settings : Settings) (now : Seconds)
  | subscriber (number : Nat)
  | receipt (receipt : Receipt)
  | time (now : Seconds)
  | row (row : Option Row)
  | changed (rows : Nat)
  | blob (content : Option Bytes)
  deriving DecidableEq, Repr

/-- Why a step fails. -/
inductive Failure where
  | input (error : InputError)
  | store (error : StoreError)
  | token (error : TokenError)
  | registry (error : RegistryError)
  /-- There is no registry to use. -/
  | noRegistry
  deriving DecidableEq, Repr

/-- A computation of a session. -/
abbrev Act (α : Type) := EStateM Failure State α

/-! ### What steps do -/

/-- Run a computation of the present registry. -/
def onRegistry {α : Type}
    (action : Settings →
      Registry.Action (Faulty StoreMethod Backend) (Faulty LedgerMethod Ledger) α) : Act α :=
  fun state =>
    match state.registry with
    | none => .error .noRegistry state
    | some handle =>
      match action handle.settings (state.world handle) with
      | .ok a world => .ok a (state.ofWorld handle world)
      | .error error world => .error (.registry error) (state.ofWorld handle world)

/-- Use the present registry without running anything. -/
def withHandle {α : Type} (use : Handle → State → α × State) : Act α := fun state =>
  match state.registry with
  | none => .error .noRegistry state
  | some handle =>
    let (a, next) := use handle state
    .ok a next

/-- Run an operation of the store. -/
def onStore {α : Type} (operation : EStateM StoreError (Faulty StoreMethod Backend) α) : Act α :=
  fun state =>
    match operation state.store with
    | .ok a store => .ok a { state with store := store }
    | .error error store => .error (.store error) { state with store := store }

/-- Run an operation of the ledger. -/
def onLedger {α : Type} (operation : EStateM TokenError (Faulty LedgerMethod Ledger) α) : Act α :=
  fun state =>
    match operation state.ledger with
    | .ok a ledger => .ok a { state with ledger := ledger }
    | .error error ledger => .error (.token error) { state with ledger := ledger }

/-- Start a registry on the store. If that fails, the present one stays. -/
def startRegistry (settings : Settings)
    (start : EStateM RegistryError (Faulty StoreMethod Backend) Unit) : Act Answer := fun state =>
  -- The store keeps what the attempt wrote or consumed, whether or not a registry results.
  match start state.store with
  | .ok () store => .ok .nothing ({ state with store := store }.install settings)
  | .error error store => .error (.registry error) { state with store := store }

/-- What an operation of a registry answers. -/
def Answer.ofOutcome : Outcome → Answer
  | .done => .nothing
  | .reporter r => .reporter r
  | .amount paid => .amount paid

/-- Answer a question to a registry. -/
def Query.run {σ τ : Type} [Store σ] : Query → Registry.Action σ τ Answer
  | .owner => (fun config => .account config.owner) <$> Registry.configuration
  | .authority => (fun config => .account config.authority) <$> Registry.configuration
  | .stakeTerms => (fun config => .stakeTerms config.stake) <$> Registry.configuration
  | .rewardTerms => (fun config => .rewardTerms config.reward) <$> Registry.configuration
  | .reporter id => .reporter <$> Registry.reporter id
  | .count => .count <$> Registry.count
  | .page skip take => .reporters <$> Registry.page skip take
  | .findByAccount account => .found <$> Registry.findByAccount account

/-- Credit an amount out of nothing. -/
def credit (token holder : Account) (amount : Amount) : Act Answer := fun state =>
  .ok .nothing
    { state with
      ledger := { state.ledger with inner := state.ledger.inner.mint token holder amount } }

/-- Use the ledger. -/
def LedgerStep.run : LedgerStep → Act Answer
  | .mint token holder amount => credit token holder amount
  | .balance token holder => .amount <$> onLedger (TokenLedger.balance token holder)
  | .allowance token owner spender =>
    .amount <$> onLedger (TokenLedger.allowance token owner spender)
  | .transfer token payer payee amount => do
    onLedger (TokenLedger.transfer token payer payee amount)
    return .nothing
  | .transferFrom token spender payer payee amount => do
    onLedger (TokenLedger.transferFrom token spender payer payee amount)
    return .nothing
  | .approve token owner spender amount => do
    onLedger (TokenLedger.approve token owner spender amount)
    return .nothing

/-- Use a store of any kind. -/
def StoreStep.perform {σ : Type} [Store σ] : StoreStep → EStateM StoreError σ Answer
  | .configuration => .configuration <$> Store.configuration
  | .insertConfiguration config => .flag <$> Store.insertConfiguration config
  | .putConfiguration config => do
    Store.putConfiguration config
    return .nothing
  | .reporter id => .found <$> Store.reporter id
  | .insertReporter r => .flag <$> Store.insertReporter r
  | .putReporter r => do
    Store.putReporter r
    return .nothing
  | .count => .count <$> Store.count
  | .page skip take => .reporters <$> Store.page skip take
  | .findByAccount account => .found <$> Store.findByAccount account

/-- Use the store. -/
def StoreStep.run (step : StoreStep) : Act Answer := onStore step.perform

/-- Use the tables of a database. A store in memory has none. -/
def onDatabase {α : Type} (operation : EStateM StoreError Database α) : Act α := fun state =>
  match state.store.inner with
  | .memory _ => .error (.store .database) state
  | .database db =>
    match operation db with
    | .ok a next => .ok a { state with store := { state.store with inner := .database next } }
    | .error error next =>
      .error (.store error) { state with store := { state.store with inner := .database next } }

/-- The nth row, counted from one. -/
def nthRow (db : Database) (nth : Nat) : Option Row :=
  if nth = 0 then none else (db.reporters.getD [])[nth - 1]?

/-- The database with one cell overwritten, and how many rows that changed. No two
rows may get the same id. -/
def overwriteCell (db : Database) (nth : Nat) (column : Column) (cell : Cell) :
    Except StoreError (Nat × Database) :=
  match nthRow db nth with
  | none => .ok (0, db)
  | some old =>
    let rows := db.reporters.getD []
    let new := old.set column (cell.convert column.affinity)
    if (rows.eraseIdx (nth - 1)).any fun row => row.id = new.id then .error .database
    else .ok (1, { db with reporters := some (rows.set (nth - 1) new) })

/-- Use the tables of a database. -/
def DatabaseStep.run : DatabaseStep → Act Answer
  | .row nth => onDatabase fun db => .ok (.row (nthRow db nth)) db
  | .overwrite nth column cell =>
    .changed <$> onDatabase (Database.change fun db => overwriteCell db nth column cell)
  | .blob => onDatabase fun db => .ok (.blob (db.config.join.bind Cell.blob?)) db
  | .setBlob cell => onDatabase fun db => .ok (.changed 1) { db with config := some (some cell) }
  | .setVersions versions => do
    onDatabase (Database.setVersions versions)
    return .nothing
  | .reopen => do
    onDatabase Database.migrate
    return .nothing

/-- Subscribe to the present registry. -/
def addSubscriber : Act Answer :=
  withHandle fun handle state =>
    (.subscriber state.subscriptions.length,
      { state with
        registry := some { handle with outbox := handle.outbox.subscribe }
        subscriptions :=
          state.subscriptions ++ [.attached handle.outbox.mailboxes.length] })

/-- Read a mailbox of the present registry. -/
def receiveAttached (handle : Handle) (position : Nat) : Receipt × Handle :=
  match handle.outbox.mailboxes[position]? with
  | none => (.empty, handle)
  | some mailbox =>
    let (receipt, mailbox) := mailbox.receive .empty
    let mailboxes := handle.outbox.mailboxes.set position mailbox
    (receipt, { handle with outbox := { handle.outbox with mailboxes := mailboxes } })

/-- Let a subscriber read once. -/
def receiveNext (subscriber : Nat) : Act Answer := fun state =>
  match state.subscriptions[subscriber]?, state.registry with
  | some (.attached position), some handle =>
    let (receipt, handle) := receiveAttached handle position
    .ok (.receipt receipt) { state with registry := some handle }
  | some (.detached mailbox), _ =>
    let (receipt, mailbox) := mailbox.receive .closed
    .ok (.receipt receipt)
      { state with subscriptions := state.subscriptions.set subscriber (.detached mailbox) }
  | _, _ => .ok (.receipt .closed) state

/-- What a step does. -/
def Step.run : Step → Act Answer
  | .establish setup owner => startRegistry setup (Registry.establish setup owner)
  | .attach setup => startRegistry setup (Registry.attach setup)
  | .operation op => Answer.ofOutcome <$> onRegistry op.run
  | .query question => onRegistry fun _ => question.run
  | .journal => withHandle fun handle state => (.events handle.outbox.journal, state)
  | .drainJournal =>
    withHandle fun handle state =>
      let (events, outbox) := handle.outbox.drain
      (.events events, { state with registry := some { handle with outbox := outbox } })
  | .locate entity => do
    let found ← withHandle fun handle state => (entity.locate handle.settings.program, state)
    match found with
    | .ok found => return .located found
    | .error error => throw (.input error)
  | .settings => withHandle fun handle state => (.settings handle.settings state.now, state)
  | .subscribe => addSubscriber
  | .receive subscriber => receiveNext subscriber
  | .clock change => fun state =>
    let now := change.apply state.now
    .ok (.time now) { state with now := now }
  | .time => fun state => .ok (.time state.now) state
  | .ledger step => step.run
  | .store step => step.run
  | .planStore method plan => fun state =>
    .ok .nothing { state with store := state.store.setPlan method plan }
  | .planLedger method plan => fun state =>
    .ok .nothing { state with ledger := state.ledger.setPlan method plan }
  | .database step => step.run

/-! ### Scripts -/

/-- The answer or failure of a computation, with the next state. -/
def outcome {α : Type} (act : Act α) (state : State) : Except Failure α × State :=
  match act state with
  | .ok a next => (.ok a, next)
  | .error failure next => (.error failure, next)

/-- The events that the journal has after a step and did not have before. -/
def appended (before after : State) : List Event := after.journal.drop before.journal.length

end Session

end ReporterRegistry
