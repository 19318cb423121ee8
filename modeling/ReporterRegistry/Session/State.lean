import ReporterRegistry.Clock
import ReporterRegistry.Derivation.Entity
import ReporterRegistry.Faults
import ReporterRegistry.Registry.Operation
import ReporterRegistry.Store.Backend

/-!
# Sessions

A session is scripted use of a registry and everything around it: the store, the
ledger, the clock and the subscribers. Its state outlives any one registry; a new
registry may take over the same store, and the subscribers of the old one read
what they had not read yet.
-/

namespace ReporterRegistry

namespace Session

/-- A registry at work: its settings and what it announced. -/
structure Handle where
  settings : Settings
  outbox : Outbox
  deriving DecidableEq, Repr

/-- Where a subscriber reads from. -/
inductive Subscription where
  /-- The mailbox at a position of the present registry. -/
  | attached (position : Nat)
  /-- A mailbox that is left of a registry that was replaced. -/
  | detached (mailbox : Mailbox)
  deriving DecidableEq, Repr

/-- Everything a script can act on. -/
structure State where
  store : Faulty StoreMethod Backend
  ledger : Faulty LedgerMethod Ledger
  now : Seconds
  registry : Option Handle
  subscriptions : List Subscription

/-- The time at which sessions start: the first second of 2024. -/
def startTime : Seconds := 1704067200

namespace State

/-- A session that starts on a store. -/
def start (backend : Backend) : State :=
  ⟨.reliable backend, .reliable .empty, startTime, none, []⟩

/-- The journal of the present registry. -/
def journal (state : State) : List Event :=
  match state.registry with
  | some handle => handle.outbox.journal
  | none => []

/-- The mailbox that a subscription to an outbox leaves behind. -/
def detach (outbox : Outbox) : Subscription → Subscription
  | .attached position => .detached ((outbox.mailboxes[position]?).getD .new)
  | .detached mailbox => .detached mailbox

/-- Put a new registry to work. -/
def install (state : State) (settings : Settings) : State :=
  let outbox := match state.registry with
    | some handle => handle.outbox
    | none => .empty
  { state with
    registry := some ⟨settings, .empty⟩
    subscriptions := state.subscriptions.map (detach outbox) }

/-- What the present registry works on. -/
def world (state : State) (handle : Handle) :
    World (Faulty StoreMethod Backend) (Faulty LedgerMethod Ledger) :=
  ⟨state.store, state.ledger, state.now, handle.outbox⟩

/-- The session after the present registry has worked. -/
def ofWorld (state : State) (handle : Handle)
    (world : World (Faulty StoreMethod Backend) (Faulty LedgerMethod Ledger)) : State :=
  { state with
    store := world.store
    ledger := world.ledger
    registry := some { handle with outbox := world.outbox } }

end State

end Session

end ReporterRegistry
