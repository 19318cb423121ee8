import ReporterRegistry.Derivation.Entity
import ReporterRegistry.Json.Forms

/-!
# Golden vectors

Known derivations, one for each kind of entity, that pin the layout of the
seeds for clients elsewhere. Keys and asset ids are given in hexadecimal, as a
client would hand them over; `Entity.ofText` reads them, and a text that is no
key or no asset id is an error of its own.
-/

namespace ReporterRegistry

/-! ### Entities given as text -/

/-- The key of a hexadecimal text. -/
def PublicKey.ofHex (text : String) : Except InputError PublicKey :=
  match Hex.decodeText text with
  | .error fault => .error (.invalidValue .vectorKey s!"{text}: {fault.message}")
  | .ok bs =>
    match ofBytes? bs with
    | some key => .ok key
    | none => .error (.invalidValue .vectorKey text)

namespace Entity

/-- The octets of an asset id in hexadecimal. -/
def assetIdOfHex (text : String) : Except InputError Bytes :=
  match Hex.decodeText text with
  | .error fault => .error (.invalidValue .assetId fault.message)
  | .ok bs => .ok bs

/-- An entity whose keys and asset id are given in hexadecimal. The asset id is
read before any key. -/
def ofText : Entity String String → Except InputError (Entity PublicKey Bytes)
  | .communityStash parent => do return .communityStash (← PublicKey.ofHex parent)
  | .network parent name => do return .network (← PublicKey.ofHex parent) name
  | .networkReward parent => do return .networkReward (← PublicKey.ofHex parent)
  | .reporter parent account => do
    let parent ← PublicKey.ofHex parent
    return .reporter parent (← PublicKey.ofHex account)
  | .reporterReward parent signer => do
    let parent ← PublicKey.ofHex parent
    return .reporterReward parent (← PublicKey.ofHex signer)
  | .case parent number => do return .case (← PublicKey.ofHex parent) number
  | .address parent format text => do return .address (← PublicKey.ofHex parent) format text
  | .asset parent format mint id => do
    -- Of a bad asset id and a bad key, the asset id is reported.
    let id ← assetIdOfHex id
    return .asset (← PublicKey.ofHex parent) format mint id

/-- The record of an entity given as text. -/
def toJson (entity : Entity String String) : Json :=
  let fields : List (String × Json) :=
    match entity with
    | .communityStash parent => [("community", .ofString parent)]
    | .network parent name => [("community", .ofString parent), ("name", .ofString name)]
    | .networkReward parent => [("network", .ofString parent)]
    | .reporter parent account =>
      [("community", .ofString parent), ("account", .ofString account)]
    | .reporterReward parent signer =>
      [("network", .ofString parent), ("reporter", .ofString signer)]
    | .case parent number =>
      [("community", .ofString parent), ("case_id", .ofNat number.toNat)]
    | .address parent format text =>
      [("network", .ofString parent), ("address", .ofString text), ("schema", format.toJson)]
    | .asset parent format mint id =>
      [("network", .ofString parent), ("mint", .ofString mint), ("schema", format.toJson),
        ("asset_id", .ofString id)]
  .ofFields (("entity", .ofString entity.tag) :: fields)

end Entity

/-! ### The vectors -/

/-- A derivation and its known result. -/
structure GoldenVector where
  name : String
  entity : Entity String String
  /-- The address in base58. -/
  address : String
  bump : Nat
  deriving DecidableEq, Repr

namespace GoldenVector

/-- The program id in base58 that all vectors are derived under. -/
def program : String := "Fg6PaFpoGXkYsidMpWTK6W2BeZ7FEfcYkg476zPFsLnS"

/-- A key of 32 equal octets, in hexadecimal. -/
def uniformKey (digit : Char) : String := String.ofList (List.replicate 64 digit)

/-- The community of the vectors. -/
def community : String := uniformKey '1'

/-- The network of the vectors. -/
def network : String := uniformKey '2'

/-- The reporter of the vectors. -/
def reporter : String := uniformKey '3'

/-- The account of the vectors. -/
def account : String := uniformKey '4'

/-- All vectors. -/
def all : List GoldenVector := [
  { name := "community stash"
    entity := .communityStash community
    address := "DeDxV8jBagAxURBr8Xdh5eYi7bDcPvhjRs5notggh5yq"
    bump := 255 },
  { name := "network named ethereum"
    entity := .network community "ethereum"
    address := "C682PW1YrjBmkFEETF8oWTSH6LWsD51fjG3RJf46hzj6"
    bump := 253 },
  { name := "network reward signer"
    entity := .networkReward network
    address := "E9HVrpfCVjU77kJRxMeheqp9GACMXKhvKp3Aiiz9ccxt"
    bump := 253 },
  { name := "reporter"
    entity := .reporter community account
    address := "FXFUdcPUyBXS3aEJFsGYxxx22UYS1yh26SVdmQJ1hTdX"
    bump := 255 },
  { name := "reporter reward"
    entity := .reporterReward network reporter
    address := "9iLVLk9ScZTgxpcVJayt3ixQvh1CE3sBrXGJecx23fK2"
    bump := 254 },
  { name := "case 1"
    entity := .case community 1
    address := "JATFsdpg759zR68AUo26wUM3h4xqYrVUwg5UpEckzpY5"
    bump := 252 },
  { name := "flagged ethereum address"
    entity := .address network .ethereum "0x5aAeb6053F3E94C9b9A09f33669435E7Ef1BeAed"
    address := "EgFmxcAqHYj1oE1jWfgVcGYscEyVLP8bTGR5a44MrBY7"
    bump := 255 },
  { name := "flagged solana asset"
    entity := .asset network .solana "So11111111111111111111111111111111111111112" "01"
    address := "2vhKFGRHKVkJWuEGVb9eX1j5pHyyT7EFpeMRunomQyz6"
    bump := 255 }]

/-- The derivation of an entity given as text, under the vectors' program id. -/
def derive (entity : Entity String String) : Except InputError DerivedAddress := do
  let program ← PublicKey.parse program
  let entity ← entity.ofText
  entity.locate program

/-- Whether the derivation gives the known result. -/
def holds (vector : GoldenVector) : Bool :=
  match derive vector.entity with
  | .ok found => found.address.toBase58 = vector.address && found.bump = vector.bump
  | .error _ => false

/-- The names of the vectors that do not hold. -/
def failing : List String := (all.filter fun vector => !vector.holds).map (·.name)

/-- The record of a vector. -/
def toJson (vector : GoldenVector) : Json :=
  .ofFields [("name", .ofString vector.name), ("input", vector.entity.toJson),
    ("expected_address", .ofString vector.address), ("expected_bump", .ofNat vector.bump)]

/-- All vectors as a document. -/
def document : String := Json.pretty (.array (all.map toJson))

end GoldenVector

end ReporterRegistry
