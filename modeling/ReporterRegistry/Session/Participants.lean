import ReporterRegistry.Session.Step

/-!
# The standard session

A session on an empty store in memory with an Ethereum registry and named
participants, to try things out in. Each participant's account is one octet,
repeated.
-/

namespace ReporterRegistry

/-- The participants of the standard session. -/
structure Participants where
  owner : Account
  authority : Account
  outsider : Account
  custody : Account
  stakeToken : Account
  deriving DecidableEq, Repr

namespace Participants

/-- The Ethereum account of one octet, repeated. -/
def ethereumAccount (octet : UInt8) : Account :=
  ⟨.ethereum, List.replicate Address.ethereumLength octet⟩

/-- The Solana account of one octet, repeated. -/
def solanaAccount (octet : UInt8) : Account :=
  ⟨.solana, List.replicate Address.solanaLength octet⟩

/-- The participants; the owner is the authority. -/
def standard : Participants where
  owner := ethereumAccount 0x01
  authority := ethereumAccount 0x01
  outsider := ethereumAccount 0x0f
  custody := ethereumAccount 0xee
  stakeToken := ethereumAccount 0x70

/-- The settings of the registry. -/
def settings : Settings where
  format := .ethereum
  custody := standard.custody
  program := ⟨List.replicate 32 0x07, by simp⟩

/-- The authority that takes over from the owner. -/
def secondAuthority : Account := ethereumAccount 0x02

/-- The stake terms of the session. -/
def standardTerms (token : Account) : StakeTerms := ⟨token, 3600, 101, 102, 103, 104⟩

/-- The steps that set up the registry. With `separate`, the authority is no
longer the owner, and the stake terms are set. -/
def setup (separate : Bool) : List Session.Step :=
  let owner := standard.owner
  .establish settings owner ::
    if separate then
      [.operation (.setAuthority owner secondAuthority),
        .operation (.updateStakeTerms secondAuthority (standardTerms standard.stakeToken)),
        .drainJournal]
    else []

/-- The session after some steps, whatever they answer. -/
def after (state : Session.State) (steps : List Session.Step) : Session.State :=
  steps.foldl (fun state step => (Session.outcome step.run state).2) state

/-- The participants, and the session they start with. -/
def start (separate : Bool) : Participants × Session.State :=
  let participants :=
    if separate then { standard with authority := secondAuthority } else standard
  (participants, after (.start (.memory .empty)) (setup separate))

/-- Create a reporter as the authority. Its name and its address on the web are
made from its id. -/
def create (participants : Participants) (id : ReporterId) (account : Account) (role : Role) :
    Session.Step :=
  let n := id.value.toNat
  .operation (.createReporter participants.authority id account role s!"reporter-{n}"
    s!"https://reporter-{n}.example")

/-- Credit stake tokens to a holder, and let the registry's account pull some of
them. -/
def fund (participants : Participants) (holder : Account) (balance allowance : Amount) :
    Session.Act Session.Answer := do
  let _ ← Session.credit participants.stakeToken holder balance
  Session.LedgerStep.run (.approve participants.stakeToken holder participants.custody allowance)

/-- The stake tokens of a holder. -/
def balance (participants : Participants) (holder : Account) : Session.Step :=
  .ledger (.balance participants.stakeToken holder)

end Participants

end ReporterRegistry
