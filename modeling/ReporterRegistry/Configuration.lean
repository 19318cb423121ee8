import ReporterRegistry.Reporter

/-!
# Configuration

What governance decides: who owns and who runs the registry, what reporters have
to stake, and what they are rewarded with.
-/

namespace ReporterRegistry

/-- The token that is staked, how much of it each role stakes, and how long a
stake stays locked after its reporter stops. -/
structure StakeTerms where
  /-- The zero address means that no token is set. -/
  token : Account
  unlockDuration : Seconds
  validator : Amount
  tracer : Amount
  publisher : Amount
  authority : Amount
  deriving DecidableEq, Repr

namespace StakeTerms

/-- No token, and nothing to stake. -/
def unset (format : AddressFormat) : StakeTerms := ⟨.zero format, 0, 0, 0, 0, 0⟩

/-- Refuse a duration that no store can hold. -/
def validate (terms : StakeTerms) : Except InputError Unit :=
  if maxSeconds < terms.unlockDuration then
    .error (.invalidValue .unlockDuration (toString terms.unlockDuration.toNat))
  else .ok ()

/-- When a stake that is given up at `now` may be withdrawn. The sum does not
wrap around; it stops at the greatest time. -/
def unlockAt (terms : StakeTerms) (now : Seconds) : Seconds :=
  BitVec.ofNat 64 (min (now.toNat + terms.unlockDuration.toNat) maxSeconds.toNat)

/-- What a role has to stake. -/
def required (terms : StakeTerms) : Role → Amount
  | .validator => terms.validator
  | .tracer => terms.tracer
  | .publisher => terms.publisher
  | .authority => terms.authority

theorem toNat_unlockAt (terms : StakeTerms) (now : Seconds) :
    (terms.unlockAt now).toNat
      = min (now.toNat + terms.unlockDuration.toNat) maxSeconds.toNat := by
  have h : min (now.toNat + terms.unlockDuration.toNat) maxSeconds.toNat < 2 ^ 64 :=
    Nat.lt_of_le_of_lt (Nat.min_le_right _ _) (by decide)
  rw [unlockAt, BitVec.toNat_ofNat, Nat.mod_eq_of_lt h]

end StakeTerms

/-- The token of rewards and the rates. Rates are kept as given; paying them is
not the registry's business. -/
structure RewardTerms where
  token : Account
  confirmation : Amount
  trace : Amount
  deriving DecidableEq, Repr

namespace RewardTerms

/-- No token, and no rewards. -/
def unset (format : AddressFormat) : RewardTerms := ⟨.zero format, 0, 0⟩

end RewardTerms

/-- The registry's one configuration. -/
structure Configuration where
  /-- Fixed from the start. -/
  owner : Account
  authority : Account
  stake : StakeTerms
  reward : RewardTerms
  deriving DecidableEq, Repr

namespace Configuration

/-- The configuration a registry starts with: the owner is the authority, and
nothing else is set. -/
def new (owner : Account) : Configuration where
  owner := owner
  authority := owner
  stake := .unset owner.format
  reward := .unset owner.format

/-- Whether an account is the owner or the authority. -/
def isOwnerOrAuthority (config : Configuration) (caller : Account) : Bool :=
  caller = config.owner || caller = config.authority

/-- Whether an account is the authority. -/
def isAuthority (config : Configuration) (caller : Account) : Bool := caller = config.authority

end Configuration

end ReporterRegistry
