import ReporterRegistry.Account
import ReporterRegistry.Proofs.Text.Base58
import ReporterRegistry.Proofs.Text.Hex

/-!
# Spellings of an address

`Address.Spells` says of every format which texts stand for which octets. The codec is
measured against it: `Address.encode` gives exactly the octets that a text spells, and
`Address.decode` writes one of the spellings of its octets, which are all of them but
for letter case and marker.

Accounts inherit this. Whatever a constructor makes is shown as a text that gives the
account back (`Account.parse_display`).
-/

namespace ReporterRegistry

namespace Address

/-- The text is a spelling of the octets. -/
def Spells : AddressFormat → String → Bytes → Prop
  | .ethereum, text, bs =>
    bs.length = ethereumLength ∧ (withoutMarker text.toList).map Char.toLower = Hex.encode bs
  | .solana, text, bs => bs.length = solanaLength ∧ Base58.encode bs = text.toList
  | .plain, text, bs | .bitcoin, text, bs | .near, text, bs => Utf8.encode text.toList = bs

/-- Two texts differ in what does not count: for Ethereum the marker and the letter case,
elsewhere nothing. -/
def Alike : AddressFormat → String → String → Prop
  | .ethereum, text, text' =>
    (withoutMarker text.toList).map Char.toLower = (withoutMarker text'.toList).map Char.toLower
  | .plain, text, text' | .solana, text, text' | .bitcoin, text, text' | .near, text, text' =>
    text = text'

variable {format : AddressFormat} {text text' : String} {bs bs' : Bytes}

theorem requireLength_eq_ok_iff {expected : Nat} :
    requireLength expected bs = .ok () ↔ bs.length = expected := by
  unfold requireLength
  split
  · rename_i h
    exact ⟨fun _ => h, fun _ => rfl⟩
  · rename_i h
    exact ⟨nofun, fun h' => absurd h' h⟩

/-! ### Text to octets -/

theorem encodeEthereum_eq_ok_iff {cs : List Char} :
    encodeEthereum cs = .ok bs ↔
      bs.length = ethereumLength ∧ (withoutMarker cs).map Char.toLower = Hex.encode bs := by
  unfold encodeEthereum
  simp only
  rw [← Hex.decode_eq_ok_iff]
  split
  · rename_i hcount
    refine ⟨nofun, fun ⟨hlength, hread⟩ => absurd ?_ hcount⟩
    rw [Hex.length_of_decode hread, hlength]
  · rename_i hcount
    rw [mapError_eq_ok_iff]
    refine ⟨fun hread => ⟨?_, hread⟩, fun h => h.2⟩
    have hlength := Hex.length_of_decode hread
    omega

theorem encodeSolana_eq_ok_iff {cs : List Char} :
    encodeSolana cs = .ok bs ↔ bs.length = solanaLength ∧ Base58.encode bs = cs := by
  rw [← Base58.decode_eq_ok_iff, encodeSolana, bind_eq_ok_iff]
  constructor
  · rintro ⟨octets, hread, hrest⟩
    obtain ⟨_, hlength, hresult⟩ := bind_eq_ok_iff.mp hrest
    cases hresult
    exact ⟨requireLength_eq_ok_iff.mp hlength, mapError_eq_ok_iff.mp hread⟩
  · rintro ⟨hlength, hread⟩
    refine ⟨bs, mapError_eq_ok_iff.mpr hread, ?_⟩
    rw [requireLength_eq_ok_iff.mpr hlength]
    rfl

/-- A text is encoded as the octets that it spells. -/
theorem encode_eq_ok_iff : encode format text = .ok bs ↔ Spells format text bs := by
  cases format with
  | ethereum => exact encodeEthereum_eq_ok_iff
  | solana => exact encodeSolana_eq_ok_iff
  | plain | bitcoin | near =>
      rw [encode, Spells]
      exact ⟨Except.ok.inj, congrArg Except.ok⟩

/-- Texts that spell octets spell the same octets if and only if they are alike. -/
theorem eq_iff_alike (h : Spells format text bs) (h' : Spells format text' bs') :
    bs = bs' ↔ Alike format text text' := by
  cases format with
  | ethereum =>
      rw [Alike, h.2, h'.2]
      exact ⟨congrArg Hex.encode, Hex.encode_injective⟩
  | solana =>
      rw [Alike, ← String.toList_inj, ← h.2, ← h'.2]
      exact ⟨congrArg Base58.encode, Base58.encode_injective⟩
  | plain | bitcoin | near =>
      rw [Alike, ← String.toList_inj, ← show _ = _ from h, ← show _ = _ from h']
      exact ⟨Utf8.encode_injective, congrArg Utf8.encode⟩

/-! ### Octets to text -/

theorem length_nibbles (bs : Bytes) : (nibbles bs).length = 2 * bs.length := by
  induction bs with
  | nil => rfl
  | cons b bs ih =>
      have hlength : (nibbles (b :: bs)).length = 2 + (nibbles bs).length := by
        rw [nibbles, List.flatMap_cons, List.length_append]
        rfl
      rw [hlength, ih, List.length_cons]
      omega

/-- The letter case that the hash asks for is lost again in lower case. -/
theorem toLower_casedDigit {d : Nat} (h : d < 16) (nibble : Nat) :
    (casedDigit (Hex.digitChar d) nibble).toLower = Hex.digitChar d := by
  have hall : ∀ e ∈ List.range 16, (Hex.digitChar e).toUpper.toLower = Hex.digitChar e := by
    decide
  unfold casedDigit
  split
  · exact hall d (List.mem_range.mpr h)
  · exact Hex.toLower_digitChar h

theorem map_toLower_zipWith_casedDigit {cs : List Char} {ns : List Nat}
    (hdigits : ∀ c ∈ cs, ∃ d < 16, c = Hex.digitChar d) (h : cs.length ≤ ns.length) :
    (List.zipWith casedDigit cs ns).map Char.toLower = cs := by
  induction cs generalizing ns with
  | nil => rfl
  | cons c cs ih =>
      cases ns with
      | nil => cases h
      | cons n ns =>
          obtain ⟨⟨d, hd, rfl⟩, hrest⟩ := List.forall_mem_cons.mp hdigits
          rw [List.zipWith_cons_cons, List.map_cons, toLower_casedDigit hd,
            ih hrest (Nat.le_of_succ_le_succ h)]

/-- The checksum changes letter case only: the hash has a half octet for every digit. -/
theorem checksummed_eq (h : bs.length = ethereumLength) :
    ∃ digits, checksummed bs = '0' :: 'x' :: digits ∧
      digits.map Char.toLower = Hex.encode bs := by
  refine ⟨_, rfl, map_toLower_zipWith_casedDigit (fun c hc => Hex.mem_encode hc) ?_⟩
  rw [Hex.length_encode, length_nibbles, Keccak256.length_digest, h]
  decide

/-- What octets are decoded as spells them. -/
theorem spells_of_decode (h : decode format bs = .ok text) : Spells format text bs := by
  cases format with
  | ethereum =>
      obtain ⟨_, hlength, rfl⟩ := map_eq_ok_iff.mp h
      have hlength := requireLength_eq_ok_iff.mp hlength
      obtain ⟨digits, hchecksummed, hdigits⟩ := checksummed_eq hlength
      refine ⟨hlength, ?_⟩
      rw [String.toList_ofList, hchecksummed]
      exact hdigits
  | solana =>
      obtain ⟨_, hlength, rfl⟩ := map_eq_ok_iff.mp h
      exact ⟨requireLength_eq_ok_iff.mp hlength, String.toList_ofList.symm⟩
  | plain | bitcoin | near =>
      obtain ⟨cs, hread, rfl⟩ := map_eq_ok_iff.mp h
      rw [Spells, String.toList_ofList]
      exact Utf8.decode_eq_ok_iff.mp (mapError_eq_ok_iff.mp hread)

/-- Octets that are spelled at all are decoded. -/
theorem exists_decode_of_spells (h : Spells format text bs) :
    ∃ text', decode format bs = .ok text' := by
  cases format with
  | ethereum => exact ⟨_, map_eq_ok_iff.mpr ⟨(), requireLength_eq_ok_iff.mpr h.1, rfl⟩⟩
  | solana => exact ⟨_, map_eq_ok_iff.mpr ⟨(), requireLength_eq_ok_iff.mpr h.1, rfl⟩⟩
  | plain | bitcoin | near =>
      have hread : Utf8.decode bs = .ok text.toList := Utf8.decode_eq_ok_iff.mpr h
      exact ⟨_, map_eq_ok_iff.mpr ⟨_, mapError_eq_ok_iff.mpr hread, rfl⟩⟩

theorem decode_ethereum (h : decode .ethereum bs = .ok text) :
    ∃ digits, text.toList = '0' :: 'x' :: digits ∧ digits.map Char.toLower = Hex.encode bs := by
  obtain ⟨_, hlength, rfl⟩ := map_eq_ok_iff.mp h
  rw [String.toList_ofList]
  exact checksummed_eq (requireLength_eq_ok_iff.mp hlength)

end Address

open Address (Alike Spells)

namespace Account

/-- The accounts that the constructors make. -/
inductive Made : Account → Prop where
  | parse {format : AddressFormat} {text : String} {account : Account}
      (h : parse format text = .ok account) : Made account
  | ofBytes {format : AddressFormat} {bs : Bytes} {account : Account}
      (h : ofBytes format bs = .ok account) : Made account
  | ofKey (key : PublicKey) : Made (ofKey key)
  | zero (format : AddressFormat) : Made (zero format)

variable {account : Account} {format : AddressFormat} {text : String} {bs : Bytes}

theorem parse_eq_ok_iff :
    parse format text = .ok account ↔
      account.format = format ∧ Spells format text account.bytes := by
  rw [← Address.encode_eq_ok_iff]
  unfold parse
  split
  · rename_i octets hencode
    rw [hencode]
    constructor
    · intro h
      cases h
      exact ⟨rfl, rfl⟩
    · rintro ⟨rfl, h⟩
      cases h
      rfl
  · rename_i hencode
    rw [hencode]
    exact ⟨nofun, fun h => nomatch h.2⟩

/-- Canonical octets are those with a text. -/
theorem isCanonical_iff :
    account.isCanonical = true ↔
      ∃ text, Address.decode account.format account.bytes = .ok text := by
  rw [isCanonical, Address.validate_eq_map_decode]
  cases Address.decode account.format account.bytes with
  | ok text => exact ⟨fun _ => ⟨text, rfl⟩, fun _ => rfl⟩
  | error fault =>
      constructor
      · intro h
        cases h
      · rintro ⟨text, htext⟩
        cases htext

theorem isCanonical_of_spells (h : Spells account.format text account.bytes) :
    account.isCanonical = true :=
  isCanonical_iff.mpr (Address.exists_decode_of_spells h)

/-- The text of a canonical account is one of its spellings. -/
theorem parse_display (h : account.isCanonical = true) :
    parse account.format account.display = .ok account := by
  obtain ⟨text, htext⟩ := isCanonical_iff.mp h
  have hdisplay : account.display = text := by
    unfold display
    rw [htext]
  rw [hdisplay]
  exact parse_eq_ok_iff.mpr ⟨rfl, Address.spells_of_decode htext⟩

theorem Made.isCanonical (h : Made account) : account.isCanonical = true := by
  cases h with
  | parse h =>
      obtain ⟨rfl, hspells⟩ := parse_eq_ok_iff.mp h
      exact isCanonical_of_spells hspells
  | ofBytes h => exact (ofBytes_eq_ok_iff.mp h).2
  | ofKey key =>
      have hspells : Spells .solana key.toBase58 (Account.ofKey key).bytes :=
        ⟨key.length_bytes, String.toList_ofList.symm⟩
      exact isCanonical_of_spells hspells
  | zero format => cases format <;> decide

end Account

open Address (withoutMarker)

/-- **The address codec round-trips.** Octets that have a text are the octets of that text.
The text of the octets of a text is that text; for Ethereum it is the marker and the digits,
up to letter case. So octets make an account exactly if some text does, the text of an
account that a constructor made is parsed as that account, and two Ethereum texts are one
account exactly if they differ at most in marker and letter case. -/
theorem address_round_trip :
    (∀ (format : AddressFormat) (bs : Bytes) (text : String),
      Address.decode format bs = .ok text → Address.encode format text = .ok bs) ∧
    (∀ (format : AddressFormat) (text : String) (bs : Bytes),
      Address.encode format text = .ok bs →
        ∃ text', Address.decode format bs = .ok text' ∧
          (format ≠ .ethereum → text' = text) ∧
          (format = .ethereum → ∃ digits, text'.toList = '0' :: 'x' :: digits ∧
            digits.map Char.toLower = (withoutMarker text.toList).map Char.toLower)) ∧
    (∀ (format : AddressFormat) (bs : Bytes),
      (∃ account, Account.ofBytes format bs = .ok account) ↔
        ∃ text, Account.parse format text = .ok ⟨format, bs⟩) ∧
    (∀ account : Account, account.Made →
      Account.parse account.format account.display = .ok account) ∧
    (∀ (text text' : String) (account account' : Account),
      Account.parse .ethereum text = .ok account →
      Account.parse .ethereum text' = .ok account' →
        (account = account' ↔ (withoutMarker text.toList).map Char.toLower
          = (withoutMarker text'.toList).map Char.toLower)) := by
  refine ⟨?_, ?_, ?_, ?_, ?_⟩
  · intro format bs text h
    exact Address.encode_eq_ok_iff.mpr (Address.spells_of_decode h)
  · intro format text bs h
    have hspells := Address.encode_eq_ok_iff.mp h
    obtain ⟨text', htext'⟩ := Address.exists_decode_of_spells hspells
    have halike : Alike format text' text :=
      (Address.eq_iff_alike (Address.spells_of_decode htext') hspells).mp rfl
    refine ⟨text', htext', ?_, ?_⟩
    · intro hformat
      cases format with
      | ethereum => exact absurd rfl hformat
      | plain | solana | bitcoin | near => exact halike
    · rintro rfl
      obtain ⟨digits, hmarker, hdigits⟩ := Address.decode_ethereum htext'
      exact ⟨digits, hmarker, hdigits.trans hspells.2.symm⟩
  · intro format bs
    constructor
    · rintro ⟨account, haccount⟩
      obtain ⟨rfl, hcanonical⟩ := Account.ofBytes_eq_ok_iff.mp haccount
      exact ⟨_, Account.parse_display hcanonical⟩
    · rintro ⟨text, htext⟩
      have hcanonical := (Account.Made.parse htext).isCanonical
      exact ⟨_, Account.ofBytes_eq_ok_iff.mpr ⟨rfl, hcanonical⟩⟩
  · intro account hmade
    exact Account.parse_display hmade.isCanonical
  · intro text text' account account' h h'
    obtain ⟨hformat, hspells⟩ := Account.parse_eq_ok_iff.mp h
    obtain ⟨hformat', hspells'⟩ := Account.parse_eq_ok_iff.mp h'
    show account = account' ↔ Alike .ethereum text text'
    rw [← Address.eq_iff_alike hspells hspells']
    cases account
    cases account'
    cases hformat
    cases hformat'
    exact ⟨congrArg Account.bytes, congrArg (Account.mk .ethereum)⟩

/-- Two spellings of one Ethereum account, and the account of 32 zero octets, whose text is
all leading digits. -/
theorem address_round_trip_sample :
    Account.parse .ethereum "0xdeadbeef00000000000000000000000000000000"
        = Account.parse .ethereum "DEADBEEF00000000000000000000000000000000" ∧
      Account.parse .solana (Account.zero .solana).display = .ok (Account.zero .solana) := by
  have hlower : ∃ account,
      Account.parse .ethereum "0xdeadbeef00000000000000000000000000000000" = .ok account :=
    ⟨_, rfl⟩
  have hupper : ∃ account,
      Account.parse .ethereum "DEADBEEF00000000000000000000000000000000" = .ok account :=
    ⟨_, rfl⟩
  obtain ⟨account, haccount⟩ := hlower
  obtain ⟨account', haccount'⟩ := hupper
  refine ⟨?_, address_round_trip.2.2.2.1 _ (.zero .solana)⟩
  have hsame := (address_round_trip.2.2.2.2 _ _ _ _ haccount haccount').mpr (by decide)
  rw [haccount, haccount', hsame]

end ReporterRegistry
