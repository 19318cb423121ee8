import ReporterRegistry.Proofs.Registry.Run
import ReporterRegistry.Session.State

/-!
# Sites

Registries of different settings may work on one store and one ledger: the one that
wrote the store's first configuration, and all that took over the store later. A `Site`
is what they share, together with the registries, in the order in which they came. A
`Move` is one thing that happens there, and a run is a list of moves.
-/

namespace ReporterRegistry

open Session (Handle)

/-- Registries, and what they share. -/
structure Site (σ : Type) where
  store : σ
  ledger : Ledger
  now : Seconds
  handles : List Handle

/-- One thing that happens at a site. -/
inductive Move where
  /-- A registry tries to write the first configuration of the store. -/
  | establish (settings : Settings) (owner : Account)
  /-- A registry tries to take over the store. -/
  | attach (settings : Settings)
  /-- The registry at a position carries out an operation. -/
  | operate (position : Nat) (operation : Operation)
  | ledger (call : LedgerCall)
  | clock (change : ClockChange)
  | drain (position : Nat)
  | subscribe (position : Nat)
  deriving DecidableEq, Repr

namespace Site

variable {σ : Type}

/-- What a registry works on. -/
def world (site : Site σ) (handle : Handle) : World σ Ledger :=
  ⟨site.store, site.ledger, site.now, handle.outbox⟩

/-- The site with another outbox for a registry. -/
def withOutbox (site : Site σ) (position : Nat) (handle : Handle) (outbox : Outbox) : Site σ :=
  { site with handles := site.handles.set position { handle with outbox := outbox } }

/-- The site after a registry has worked. -/
def ofWorld (site : Site σ) (position : Nat) (handle : Handle) (world : World σ Ledger) : Site σ :=
  { site.withOutbox position handle world.outbox with
    store := world.store
    ledger := world.ledger
    now := world.now }

/-- The site of a registry that has just written the first configuration of a store. -/
def begun (settings : Settings) (store : σ) (ledger : Ledger) (now : Seconds) : Site σ :=
  ⟨store, ledger, now, [⟨settings, .empty⟩]⟩

/-- The site after a registry has tried to start. -/
def welcome (site : Site σ) (settings : Settings) :
    EStateM.Result RegistryError σ Unit → Site σ
  | .ok () store => { site with store := store, handles := site.handles ++ [⟨settings, .empty⟩] }
  | .error _ store => { site with store := store }

end Site

namespace Move

variable {σ : Type} [Store σ]

/-- The site after a move. -/
def apply (site : Site σ) : Move → Site σ
  | .establish settings owner =>
    site.welcome settings (Registry.establish settings owner site.store)
  | .attach settings => site.welcome settings (Registry.attach settings site.store)
  | .operate position operation =>
    match site.handles[position]? with
    | some handle =>
      site.ofWorld position handle (left (operation.run handle.settings) (site.world handle))
    | none => site
  | .ledger call => { site with ledger := call.apply site.ledger }
  | .clock change => { site with now := change.apply site.now }
  | .drain position =>
    match site.handles[position]? with
    | some handle => site.withOutbox position handle handle.outbox.drain.2
    | none => site
  | .subscribe position =>
    match site.handles[position]? with
    | some handle => site.withOutbox position handle handle.outbox.subscribe
    | none => site

end Move

namespace Site

variable {σ : Type} [Store σ]

/-- The site after some moves. -/
def run (site : Site σ) (moves : List Move) : Site σ := moves.foldl Move.apply site

theorem run_cons (site : Site σ) (move : Move) (moves : List Move) :
    site.run (move :: moves) = (move.apply site).run moves := rfl

/-- The moves of a run, each with the site on which it is made. -/
def steps (site : Site σ) : List Move → List (Site σ × Move)
  | [] => []
  | move :: moves => (site, move) :: steps (move.apply site) moves

theorem steps_cons (site : Site σ) (move : Move) (moves : List Move) :
    site.steps (move :: moves) = (site, move) :: (move.apply site).steps moves := rfl

end Site

/-! ### A sample run -/

namespace Sample

/-- The site of a registry that was just started in memory. -/
def site : Site MemoryStore := .begun settings world.store ledger 0

/-- The site of a registry that was just started with a database. -/
def databaseSite : Site Database := .begun settings databaseWorld.store ledger 0

/-- The worker becomes the authority and locks a stake. A second registry takes over the
store, and a third tries to start on it anew. The stake is withdrawn, and cannot be
locked again, since the worker has not allowed for two. -/
def moves : List Move :=
  [.operate 0 (.updateStakeTerms owner ⟨token, 10, 5, 5, 5, 5⟩),
    .operate 0 (.createReporter owner id worker .validator "" ""),
    .operate 0 (.setAuthority owner worker),
    .operate 0 (.activateReporter worker id),
    .attach settings,
    .establish settings worker,
    .operate 1 (.deactivateReporter worker id),
    .clock (.advance 20),
    .operate 1 (.unstakeReporter worker id),
    .operate 0 (.activateReporter worker id)]

end Sample

end ReporterRegistry
