import ReporterRegistry.Proofs.Json.Forms

/-!
# Values as documents

The JSON form of a value is taken apart into the value again (`ofJson?_toJson`, one
lemma a type), and it is legible. So reading the document that a value is written as
gives the value back, for every type of the registry but events
(`values_read_back`). Nothing is asked of the values: a name may hold any characters,
an account any octets, and a number is whatever fits its width.
-/

namespace ReporterRegistry

open Json

namespace Json

/-- Every value of a type is read back from the document it is written as. -/
def ReadsBack {α : Type} (toJson : α → Json) (ofJson? : Json → Option α) : Prop :=
  ∀ value, (parse? (toJson value).render).bind ofJson? = some value

/-- What is legible and can be taken apart is read back. -/
theorem ReadsBack.of_legible {α : Type} {toJson : α → Json} {ofJson? : Json → Option α}
    (hlegible : ∀ value, Legible (toJson value))
    (hform : ∀ value, ofJson? (toJson value) = some value) : ReadsBack toJson ofJson? := by
  intro value
  rw [(hlegible value).parse?_render, Option.bind_some, hform]

end Json

/-! ### Names, numbers and octets -/

/-- A format is written as its name, and no two formats share one. -/
@[simp] theorem AddressFormat.ofJson?_toJson (format : AddressFormat) :
    ofJson? format.toJson = some format := by
  simp [ofJson?, toJson]

@[simp] theorem Role.ofJson?_toJson (role : Role) : ofJson? role.toJson = some role := by
  simp [ofJson?, toJson]

@[simp] theorem Status.ofJson?_toJson (status : Status) : ofJson? status.toJson = some status := by
  simp [ofJson?, toJson]

theorem PublicKey.ofJson?_toJson (key : PublicKey) : ofJson? key.toJson = some key := by
  simp [ofJson?, toJson]

/-- A digest is read if it has 32 octets, as every digest has. -/
theorem Digest.ofJson?_toJson (digest : Digest) : ofJson? digest.toJson = some digest := by
  simp [ofJson?, toJson, digest.length_bytes]

@[simp] theorem ReporterId.ofJson?_toJson (id : ReporterId) : ofJson? id.toJson = some id := by
  simp [ofJson?, toJson]

/-! ### Records

The fields of a record are found in order, and each is taken apart on its own. -/

/-- An account is read as it was written. Its octets are not checked against its format. -/
@[simp] theorem Account.ofJson?_toJson (account : Account) :
    ofJson? account.toJson = some account := by
  have hfields : account.toJson.fields? fieldNames
      = some [account.format.toJson, .ofOctets account.bytes] :=
    fields?_ofFields (by decide : fieldNames.Nodup)
  simp [ofJson?, hfields]

/-- Durations are read back within 64 bits, and amounts within 128. -/
@[simp] theorem StakeTerms.ofJson?_toJson (terms : StakeTerms) :
    ofJson? terms.toJson = some terms := by
  have hfields : terms.toJson.fields? fieldNames = some (terms.fields.map Prod.snd) :=
    fields?_ofFields (by decide : fieldNames.Nodup)
  simp [ofJson?, hfields, fields]

@[simp] theorem RewardTerms.ofJson?_toJson (terms : RewardTerms) :
    ofJson? terms.toJson = some terms := by
  have hfields : terms.toJson.fields? fieldNames = some (terms.fields.map Prod.snd) :=
    fields?_ofFields (by decide : fieldNames.Nodup)
  simp [ofJson?, hfields, fields]

/-- A configuration is made of records, which are read back by themselves. -/
theorem Configuration.ofJson?_toJson (config : Configuration) :
    ofJson? config.toJson = some config := by
  have hfields : config.toJson.fields? fieldNames
      = some [config.owner.toJson, config.authority.toJson, config.stake.toJson,
          config.reward.toJson] :=
    fields?_ofFields (by decide : fieldNames.Nodup)
  simp [ofJson?, hfields]

/-- A reporter has fields of all kinds: numbers, texts, names and accounts. -/
theorem Reporter.ofJson?_toJson (reporter : Reporter) :
    ofJson? reporter.toJson = some reporter := by
  have hfields : reporter.toJson.fields? fieldNames
      = some [reporter.id.toJson, reporter.account.toJson, .ofString reporter.name,
          .ofString reporter.url, reporter.role.toJson, reporter.status.toJson,
          .ofNat reporter.stake.toNat, reporter.stakeToken.toJson,
          .ofNat reporter.unlockTime.toNat] :=
    fields?_ofFields (by decide : fieldNames.Nodup)
  simp [ofJson?, hfields]

theorem Configuration.legible (config : Configuration) : Legible config.toJson := by
  refine Legible.ofFields ?_
  simp only [List.forall_mem_cons]
  exact ⟨config.owner.legible, config.authority.legible,
    Legible.ofFields config.stake.legible_fields, Legible.ofFields config.reward.legible_fields,
    nofun⟩

/-- A name or url may hold any characters, which are escaped where they have to be. -/
theorem Reporter.legible (reporter : Reporter) : Legible reporter.toJson := by
  refine Legible.ofFields ?_
  simp only [List.forall_mem_cons]
  exact ⟨Legible.ofNat _, reporter.account.legible, Legible.ofString _, Legible.ofString _,
    Legible.ofString _, Legible.ofString _, Legible.ofNat _, reporter.stakeToken.legible,
    Legible.ofNat _, nofun⟩

/-! ### All types -/

/-- **Every value is read back from its document**, whatever its type. -/
theorem values_read_back :
    ReadsBack AddressFormat.toJson AddressFormat.ofJson? ∧
      ReadsBack Role.toJson Role.ofJson? ∧
      ReadsBack Status.toJson Status.ofJson? ∧
      ReadsBack PublicKey.toJson PublicKey.ofJson? ∧
      ReadsBack ReporterId.toJson ReporterId.ofJson? ∧
      ReadsBack Digest.toJson Digest.ofJson? ∧
      ReadsBack Account.toJson Account.ofJson? ∧
      ReadsBack StakeTerms.toJson StakeTerms.ofJson? ∧
      ReadsBack RewardTerms.toJson RewardTerms.ofJson? ∧
      ReadsBack Configuration.toJson Configuration.ofJson? ∧
      ReadsBack Reporter.toJson Reporter.ofJson? := by
  refine ⟨?format, ?role, ?status, ?key, ?id, ?digest, ?account, ?stake, ?reward, ?config,
    ?reporter⟩
  case format => exact .of_legible (fun _ => Legible.ofString _) AddressFormat.ofJson?_toJson
  case role => exact .of_legible (fun _ => Legible.ofString _) Role.ofJson?_toJson
  case status => exact .of_legible (fun _ => Legible.ofString _) Status.ofJson?_toJson
  case key => exact .of_legible (fun _ => Legible.ofOctets _) PublicKey.ofJson?_toJson
  case id => exact .of_legible (fun _ => Legible.ofNat _) ReporterId.ofJson?_toJson
  case digest => exact .of_legible (fun _ => Legible.ofOctets _) Digest.ofJson?_toJson
  case account => exact .of_legible Account.legible Account.ofJson?_toJson
  case stake =>
    exact .of_legible (fun terms => Legible.ofFields terms.legible_fields)
      StakeTerms.ofJson?_toJson
  case reward =>
    exact .of_legible (fun terms => Legible.ofFields terms.legible_fields)
      RewardTerms.ofJson?_toJson
  case config => exact .of_legible Configuration.legible Configuration.ofJson?_toJson
  case reporter => exact .of_legible Reporter.legible Reporter.ofJson?_toJson

end ReporterRegistry
