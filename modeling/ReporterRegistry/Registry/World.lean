import ReporterRegistry.Registry.Error
import ReporterRegistry.Registry.Outbox
import ReporterRegistry.Registry.Settings

/-!
# What a registry works on

A registry reads and changes a store, a ledger and an outbox, and reads the
clock. `World` holds them; a `Registry.Action` is a computation over it that may
fail. The world it leaves is part of the result in both cases: a failure does
not undo what was done before it.

`onStore` and `onLedger` run an operation of a part, `attempt` turns a failure
into an answer, and `emit` announces an event.
-/

namespace ReporterRegistry

/-- The collaborators of a registry. -/
structure World (σ τ : Type) where
  store : σ
  ledger : τ
  now : Seconds
  outbox : Outbox

namespace Registry

variable {σ τ α ε ε' : Type}

/-- A computation of a registry. -/
abbrev Action (σ τ α : Type) := EStateM RegistryError (World σ τ) α

/-- Run an operation of the store. -/
def onStore (operation : EStateM StoreError σ α) : Action σ τ α := fun world =>
  match operation world.store with
  | .ok a store => .ok a { world with store := store }
  | .error error store => .error (.store error) { world with store := store }

/-- Run an operation of the ledger. -/
def onLedger (operation : EStateM TokenError τ α) : Action σ τ α := fun world =>
  match operation world.ledger with
  | .ok a ledger => .ok a { world with ledger := ledger }
  | .error error ledger => .error (.ofToken error) { world with ledger := ledger }

/-- Run a computation and answer with its error if it fails. What it did
stays done. -/
def attempt {ω : Type} (action : EStateM ε ω α) : EStateM ε' ω (Except ε α) := fun state =>
  match action state with
  | .ok a next => .ok (.ok a) next
  | .error error next => .ok (.error error) next

/-- Go on only if a check passes. -/
def require {ω : Type} (check : Except ε Unit) : EStateM ε ω Unit := fun state =>
  match check with
  | .ok () => .ok () state
  | .error error => .error error state

/-- Announce an event. -/
def emit (event : Event) : Action σ τ Unit := fun world =>
  .ok () { world with outbox := world.outbox.emit event }

/-- The time. -/
def now : Action σ τ Seconds := fun world => .ok world.now world

/-- Accept an account of the registry's format only. -/
def checkFormat (settings : Settings) (account : Account) : Except RegistryError Unit :=
  if account.format = settings.format then .ok ()
  else .error (.formatMismatch settings.format account.format)

/-- Accept an account that is not the zero address. -/
def checkNonZero (kind : ValueKind) (account : Account) : Except RegistryError Unit :=
  if account.isZero then
    .error (.input (.invalidValue kind s!"{account.display} is the zero address"))
  else .ok ()

/-- Accept a caller of the required standing. -/
def checkStanding (required : Standing) (holds : Bool) : Except RegistryError Unit :=
  if holds then .ok () else .error (.unauthorized required)

end Registry

end ReporterRegistry
