import ReporterRegistry.Account

/-!
# Settings

What a registry is set up with: the format of every identity it accepts, the
account that holds stakes, and the program id of its derivations.
-/

namespace ReporterRegistry

/-- The setup of a registry. -/
structure Settings where
  format : AddressFormat
  /-- The account that receives and holds stakes. A registry does not start
  while it is the zero address. -/
  custody : Account
  /-- The program id that addresses are derived under. -/
  program : PublicKey
  deriving DecidableEq, Repr

namespace Settings

/-- The setup of a format with nothing else decided. -/
def new (format : AddressFormat) : Settings := ⟨format, .zero format, .zero⟩

/-- The setup that is used where no format is given. -/
def default : Settings := new .ethereum

end Settings

end ReporterRegistry
