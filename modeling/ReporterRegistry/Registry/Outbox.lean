import ReporterRegistry.Registry.Event

/-!
# Outboxes

Where a registry's events go: a journal that keeps them all until it is drained,
and the mailboxes of those who subscribed. A mailbox keeps the last
`Mailbox.capacity` events that were not yet read. If more come in, the oldest are
lost, and the reader is told how many before it gets the rest.
-/

namespace ReporterRegistry

/-- The events that a subscriber has not read. -/
structure Mailbox where
  pending : List Event
  /-- Events lost since the last reading. -/
  lost : Nat
  deriving DecidableEq, Repr

/-- What a reading of a mailbox gives. -/
inductive Receipt where
  | event (event : Event)
  | lagged (lost : Nat)
  /-- Nothing to read now. -/
  | empty
  /-- Nothing to read ever again. -/
  | closed
  deriving DecidableEq, Repr

namespace Mailbox

/-- How many events a mailbox keeps. -/
def capacity : Nat := 256

/-- A mailbox without events. -/
def new : Mailbox := ⟨[], 0⟩

/-- Put in an event; a full mailbox loses its oldest one. -/
def deliver (event : Event) (mailbox : Mailbox) : Mailbox :=
  if mailbox.pending.length < capacity then
    { mailbox with pending := mailbox.pending ++ [event] }
  else ⟨mailbox.pending.drop 1 ++ [event], mailbox.lost + 1⟩

/-- Read once. `vacant` is the answer if there is nothing to read. -/
def receive (vacant : Receipt) (mailbox : Mailbox) : Receipt × Mailbox :=
  -- The loss lies before everything that is still pending, so it is reported first.
  if 0 < mailbox.lost then (.lagged mailbox.lost, { mailbox with lost := 0 })
  else
    match mailbox.pending with
    | event :: rest => (.event event, { mailbox with pending := rest })
    | [] => (vacant, mailbox)

end Mailbox

/-- The journal and the mailboxes of a registry, in the order of subscription. -/
structure Outbox where
  journal : List Event
  mailboxes : List Mailbox
  deriving DecidableEq, Repr

namespace Outbox

/-- No events and no subscribers. -/
def empty : Outbox := ⟨[], []⟩

/-- Announce an event. -/
def emit (event : Event) (outbox : Outbox) : Outbox :=
  ⟨outbox.journal ++ [event], outbox.mailboxes.map (Mailbox.deliver event)⟩

/-- Add a subscriber, who gets the events from now on. -/
def subscribe (outbox : Outbox) : Outbox :=
  { outbox with mailboxes := outbox.mailboxes ++ [.new] }

/-- Take all events out of the journal. -/
def drain (outbox : Outbox) : List Event × Outbox :=
  (outbox.journal, { outbox with journal := [] })

@[simp] theorem journal_emit (event : Event) (outbox : Outbox) :
    (outbox.emit event).journal = outbox.journal ++ [event] := rfl

end Outbox

end ReporterRegistry
