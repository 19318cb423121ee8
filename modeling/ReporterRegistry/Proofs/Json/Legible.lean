import ReporterRegistry.Json.Parser
import ReporterRegistry.Json.Printer
import ReporterRegistry.Proofs.Text.Decimal

/-!
# Reading JSON that was written

`Legible value` says that the compact text of a value is read back as that value, with
whatever comes after it, as long as that cannot be taken for more of a number. Natural
numbers and texts are legible, and so are arrays and objects of what is legible. So
what a type needs is that its form is made of such parts; `Legible.parse?_render` then
reads the whole document.

A document that escapes half of a surrogate pair is not covered: where two such halves
meet they are read as one character.
-/

namespace ReporterRegistry

namespace Json

/-! ### Strings -/

theorem hexValue?_digitChar {d : Nat} (h : d < 16) : hexValue? (Hex.digitChar d) = some d := by
  have hall : ∀ e ∈ List.range 16, hexValue? (Hex.digitChar e) = some e := by decide
  exact hall d (List.mem_range.mpr h)

theorem fourHex?_fourDigits {n : Nat} (h : n < 65536) :
    fourHex? (Hex.digitChar (n / 4096 % 16)) (Hex.digitChar (n / 256 % 16))
      (Hex.digitChar (n / 16 % 16)) (Hex.digitChar (n % 16)) = some n := by
  have hdigit : ∀ m, hexValue? (Hex.digitChar (m % 16)) = some (m % 16) := fun m =>
    hexValue?_digitChar (Nat.mod_lt m (by decide))
  have hvalue : ((n / 4096 % 16 * 16 + n / 256 % 16) * 16 + n / 16 % 16) * 16 + n % 16 = n := by
    omega
  simp only [fourHex?, hdigit, bind, Option.bind, pure, hvalue]

/-- A character that needs no escape stands for itself. -/
theorem scanString_plain {c : Char} (hquote : c ≠ '"') (hescape : c ≠ '\\')
    (hcontrol : ¬ c.toNat < 0x20) (rest : List Char) :
    scanString (c :: rest) = (scanString rest).map fun (places, rest) =>
      (.char c :: places, rest) := by
  rw [scanString.eq_def]
  split
  all_goals simp_all

/-- A control character is read back from the number of its escape. -/
theorem scanString_control {c : Char} (h : c.toNat < 0x20) (rest : List Char) :
    scanString ('\\' :: 'u' :: fourDigits c.toNat ++ rest)
      = (scanString rest).map fun (places, rest) => (.char c :: places, rest) := by
  have hcode : ofCode c.toNat = .char c := by
    have hleading : isLeading c.toNat = false := by
      simp only [isLeading, Bool.and_eq_false_iff, decide_eq_false_iff_not]
      omega
    have htrailing : isTrailing c.toNat = false := by
      simp only [isTrailing, Bool.and_eq_false_iff, decide_eq_false_iff_not]
      omega
    simp only [ofCode, hleading, htrailing, Bool.or_false, Bool.false_eq_true, if_false,
      Char.ofNat_toNat]
  have hdigits := fourHex?_fourDigits (n := c.toNat) (by omega)
  simp only [fourDigits, List.cons_append, List.nil_append, scanString, hdigits]
  cases scanString rest with
  | none => rfl
  | some scanned =>
      show some (ofCode c.toNat :: scanned.1, scanned.2) = some (.char c :: scanned.1, scanned.2)
      rw [hcode]

/-- A character with a short escape is read back from it. -/
theorem scanString_short {e c : Char} (h : ofEscape? e = some c) (rest : List Char) :
    scanString ('\\' :: e :: rest)
      = (scanString rest).map fun (places, rest) => (.char c :: places, rest) := by
  have hne : e ≠ 'u' := by
    rintro rfl
    cases h
  rw [scanString]
  · rw [h]
    cases scanString rest <;> rfl
  · rintro _ _ _ _ _ rfl
    exact absurd rfl hne

/-- **A character is read back** from what it is written as. -/
theorem scanString_escapeChar (c : Char) (rest : List Char) :
    scanString (escapeChar c ++ rest) = (scanString rest).map fun (places, rest) =>
      (.char c :: places, rest) := by
  have hshort : ∀ {e d : Char} {n : Nat}, ofEscape? e = some d → d.toNat = n → c.toNat = n →
      scanString ('\\' :: e :: rest)
        = (scanString rest).map fun (places, rest) => (.char c :: places, rest) := by
    intro e d n hescape hd hc
    obtain rfl : c = d := Char.toNat_inj.mp (hc.trans hd.symm)
    exact scanString_short hescape rest
  unfold escapeChar
  split
  · exact hshort rfl rfl ‹_›
  · exact hshort rfl rfl ‹_›
  · exact hshort rfl rfl ‹_›
  · exact hshort rfl rfl ‹_›
  · exact hshort rfl rfl ‹_›
  · exact hshort rfl rfl ‹_›
  · exact hshort rfl rfl ‹_›
  · rename_i hquote hescape _ _ _ _ _
    split
    · rename_i hcontrol
      exact scanString_control hcontrol rest
    · rename_i hcontrol
      refine scanString_plain ?_ ?_ hcontrol rest
      · rintro rfl
        exact hquote rfl
      · rintro rfl
        exact hescape rfl

/-- A text is read up to the quotation mark that ends it. -/
theorem scanString_ofString (cs rest : List Char) :
    scanString ((cs.map JsonChar.char).flatMap escape ++ '"' :: rest)
      = some (cs.map .char, rest) := by
  induction cs with
  | nil => rfl
  | cons c cs ih =>
      rw [List.map_cons, List.flatMap_cons, List.append_assoc, escape, scanString_escapeChar, ih]
      rfl

/-- Where there are no surrogates there are no pairs of them. -/
theorem joinPairs_map_char (cs : List Char) :
    joinPairs (cs.map .char) = cs.map JsonChar.char := by
  induction cs with
  | nil => rfl
  | cons c cs ih =>
      rw [List.map_cons, joinPairs, ih]
      nofun

/-- A text is read back up to its closing quote. -/
theorem string?_ofString (text : String) (rest : List Char) :
    string? ((JsonText.ofString text).flatMap escape ++ '"' :: rest)
      = some (.ofString text, rest) := by
  simp only [string?, JsonText.ofString, scanString_ofString, Option.map_some, joinPairs_map_char]

theorem quote_append (content : JsonText) (rest : List Char) :
    quote content ++ rest = '"' :: (content.flatMap escape ++ '"' :: rest) := by
  simp [quote]

/-! ### Numbers -/

/-- What may follow a value. -/
inductive Ends : List Char → Prop
  | nothing : Ends []
  | comma (rest : List Char) : Ends (',' :: rest)
  | bracket (rest : List Char) : Ends (']' :: rest)
  | brace (rest : List Char) : Ends ('\x7d' :: rest)

namespace Ends

variable {rest : List Char}

theorem span (h : Ends rest) : Decimal.span rest = ([], rest) := by
  cases h <;> rfl

theorem fraction? (h : Ends rest) : fraction? rest = some ([], rest) := by
  cases h <;> rfl

theorem exponent? (h : Ends rest) : exponent? rest = some (none, rest) := by
  cases h <;> rfl

end Ends

/-- A number is read up to where its digits end. -/
theorem whole?_render (n : Nat) {rest : List Char} (h : Ends rest) :
    whole? (Decimal.render n ++ rest) = some (n, rest) := by
  have hvalue := Decimal.value_digitsOf n
  obtain ⟨d, ds, hdigits, hzero⟩ := Decimal.digitsOf_eq_cons n
  rw [whole?, Decimal.span_render n h.span, hdigits]
  rw [hdigits] at hvalue
  split
  · rename_i heq
    cases heq
  · rename_i heq
    cases heq
    cases hzero rfl
  · rename_i heq
    cases heq
    rw [hvalue]

/-- A number is read back up to what may follow it. -/
theorem unsigned?_render (n : Nat) {rest : List Char} (h : Ends rest) :
    unsigned? false (Decimal.render n ++ rest) = some (.ofNat n, rest) := by
  simp only [unsigned?, whole?_render n h, h.fraction?, h.exponent?, bind, Option.bind, pure]
  rfl

theorem renderNumber_ofNat (n : Nat) : renderNumber (.ofNat n) = Decimal.render n := by
  simp [renderNumber, JsonNumber.ofNat]

theorem render_eq_cons (n : Nat) :
    ∃ d cs, d < 10 ∧ Decimal.render n = Decimal.digitChar d :: cs := by
  obtain ⟨d, ds, hdigits, -⟩ := Decimal.digitsOf_eq_cons n
  refine ⟨d, ds.map Decimal.digitChar, ?_, ?_⟩
  · exact Decimal.lt_of_mem_digitsOf (hdigits ▸ List.mem_cons_self)
  · rw [Decimal.render_eq, hdigits, List.map_cons]

/-- A digit starts a number and nothing else. -/
theorem value?_digitChar {d : Nat} (h : d < 10) (fuel : Nat) (cs : List Char) :
    value? (fuel + 1) (Decimal.digitChar d :: cs)
      = (unsigned? false (Decimal.digitChar d :: cs)).map fun (written, rest) =>
          (.number written, rest) := by
  rcases d with _ | _ | _ | _ | _ | _ | _ | _ | _ | _ | d
  all_goals first | rfl | omega

/-! ### Values -/

/-- What a value is written as starts with neither a blank nor a closing bracket. -/
theorem compact_eq_cons (value : Json) :
    ∃ c cs, compact value = c :: cs ∧ isBlank c = false ∧ c ≠ ']' := by
  cases value with
  | null => exact ⟨_, _, rfl, rfl, by decide⟩
  | bool b => cases b <;> exact ⟨_, _, rfl, rfl, by decide⟩
  | number number =>
      rw [compact, renderNumber]
      cases number.negative with
      | true => exact ⟨_, _, rfl, rfl, by decide⟩
      | false =>
          obtain ⟨d, cs, hd, hrender⟩ := render_eq_cons number.whole
          have hall : ∀ e ∈ List.range 10,
              isBlank (Decimal.digitChar e) = false ∧ Decimal.digitChar e ≠ ']' := by decide
          rw [hrender]
          exact ⟨_, _, rfl, hall d (List.mem_range.mpr hd)⟩
  | string content => exact ⟨_, _, rfl, rfl, by decide⟩
  | array items => exact ⟨_, _, rfl, rfl, by decide⟩
  | object members => exact ⟨_, _, rfl, rfl, by decide⟩

theorem skipBlanks_cons {c : Char} (h : isBlank c = false) (cs : List Char) :
    skipBlanks (c :: cs) = c :: cs := by
  simp [skipBlanks, h]

theorem value?_quote (fuel : Nat) (cs : List Char) :
    value? (fuel + 1) ('"' :: cs) = (string? cs).map fun (content, rest) =>
      (.string content, rest) := rfl

theorem value?_bracket (fuel : Nat) {c : Char} (hblank : isBlank c = false) (hne : c ≠ ']')
    (cs : List Char) :
    value? (fuel + 1) ('[' :: c :: cs) = (items? fuel (c :: cs)).map fun (items, rest) =>
      (.array items, rest) := by
  have hopen : isBlank '[' = false := rfl
  simp only [value?, skipBlanks_cons hopen, skipBlanks_cons hblank]
  split
  · rename_i heq
    cases heq
    exact absurd rfl hne
  · rfl

theorem value?_brace (fuel : Nat) (cs : List Char) :
    value? (fuel + 1) ('\x7b' :: '"' :: cs) = (members? fuel ('"' :: cs)).map
      fun (members, rest) => (.object members, rest) := rfl

theorem items?_bracket {fuel : Nat} {item : Json} {cs rest : List Char}
    (h : value? fuel cs = some (item, ']' :: rest)) :
    items? (fuel + 1) cs = some ([item], rest) := by
  rw [items?, h]
  rfl

/-- A comma says that there is another item, and a bracket that there is none. -/
theorem items?_comma {fuel : Nat} {item : Json} {items : List Json} {cs rest rest' : List Char}
    (h : value? fuel cs = some (item, ',' :: rest))
    (hrest : items? fuel rest = some (items, rest')) :
    items? (fuel + 1) cs = some (item :: items, rest') := by
  rw [items?, h]
  show (do let (items, rest) ← items? fuel rest; return (item :: items, rest)) = _
  rw [hrest]
  rfl

/-- A value is read back from its compact text, with what comes after it. -/
def Legible (value : Json) : Prop :=
  ∀ (fuel : Nat) (rest : List Char), (compact value).length ≤ fuel → Ends rest →
    value? fuel (compact value ++ rest) = some (value, rest)

theorem Legible.ofString (text : String) : Legible (.ofString text) := by
  intro fuel rest hfuel _
  cases fuel with
  | zero => cases hfuel
  | succ fuel =>
      rw [Json.ofString, compact, quote_append, value?_quote, string?_ofString]
      rfl

theorem Legible.ofNat (n : Nat) : Legible (.ofNat n) := by
  intro fuel rest hfuel hends
  obtain ⟨d, cs, hd, hrender⟩ := render_eq_cons n
  have hcompact : compact (.ofNat n) = Decimal.render n := by
    rw [Json.ofNat, compact, renderNumber_ofNat]
  have hread := unsigned?_render n hends
  rw [hcompact] at hfuel ⊢
  rw [hrender] at hfuel hread ⊢
  cases fuel with
  | zero => cases hfuel
  | succ fuel =>
      rw [List.cons_append] at hread ⊢
      rw [value?_digitChar hd, hread]
      rfl

/-! ### Arrays -/

theorem compactItems_cons (item next : Json) (items : List Json) :
    compactItems (item :: next :: items) = compact item ++ ',' :: compactItems (next :: items) :=
  rfl

/-- Items that are legible one by one are read back up to the closing bracket. -/
theorem items?_compactItems {items : List Json} (hitems : ∀ item ∈ items, Legible item)
    (hne : items ≠ []) {fuel : Nat} (hfuel : (compactItems items).length ≤ fuel)
    (rest : List Char) : items? fuel (compactItems items ++ rest) = some (items, rest) := by
  induction items generalizing fuel with
  | nil => exact absurd rfl hne
  | cons item items ih =>
      obtain ⟨hitem, hitems⟩ := List.forall_mem_cons.mp hitems
      cases items with
      | nil =>
          rw [compactItems, List.length_append, List.length_singleton] at hfuel
          obtain ⟨fuel, rfl⟩ : ∃ f, fuel = f + 1 := ⟨fuel - 1, by omega⟩
          rw [compactItems, List.append_assoc]
          exact items?_bracket (hitem _ _ (by omega) (.bracket rest))
      | cons next items =>
          rw [compactItems_cons, List.length_append, List.length_cons] at hfuel
          obtain ⟨fuel, rfl⟩ : ∃ f, fuel = f + 1 := ⟨fuel - 1, by omega⟩
          rw [compactItems_cons, List.append_assoc]
          exact items?_comma (hitem _ _ (by omega) (.comma _)) (ih hitems (by simp) (by omega))

theorem compactItems_eq_cons (item : Json) (items : List Json) :
    ∃ c cs, compactItems (item :: items) = c :: cs ∧ isBlank c = false ∧ c ≠ ']' := by
  obtain ⟨c, cs, hcompact, hstart⟩ := compact_eq_cons item
  cases items with
  | nil => exact ⟨c, cs ++ [']'], by rw [compactItems, hcompact]; rfl, hstart⟩
  | cons next items =>
      exact ⟨c, cs ++ ',' :: compactItems (next :: items),
        by rw [compactItems_cons, hcompact]; rfl, hstart⟩

/-- An array of legible items is legible. -/
theorem Legible.array {items : List Json} (h : ∀ item ∈ items, Legible item) :
    Legible (.array items) := by
  intro fuel rest hfuel _
  cases fuel with
  | zero => cases hfuel
  | succ fuel =>
      cases items with
      | nil => rfl
      | cons item items =>
          have hread := items?_compactItems h (by simp) (Nat.le_of_succ_le_succ hfuel) rest
          obtain ⟨c, cs, hcompact, hblank, hne⟩ := compactItems_eq_cons item items
          rw [hcompact] at hread
          rw [compact, hcompact, List.cons_append, List.cons_append, value?_bracket fuel hblank hne,
            ← List.cons_append, hread]
          rfl

/-! ### Objects -/

theorem members?_brace {fuel : Nat} {key : String} {value : Json} {cs rest : List Char}
    (h : value? fuel cs = some (value, '\x7d' :: rest)) :
    members? (fuel + 1) (quote (.ofString key) ++ ':' :: cs)
      = some ([(.ofString key, value)], rest) := by
  rw [quote_append, members?]
  show (string? _).bind _ = _
  rw [string?_ofString]
  show (value? fuel cs).bind _ = _
  rw [h]
  rfl

/-- It is the same with members, each of which has its key in front. -/
theorem members?_comma {fuel : Nat} {key : String} {value : Json}
    {members : List (JsonText × Json)} {cs rest rest' : List Char}
    (h : value? fuel cs = some (value, ',' :: rest))
    (hrest : members? fuel rest = some (members, rest')) :
    members? (fuel + 1) (quote (.ofString key) ++ ':' :: cs)
      = some ((.ofString key, value) :: members, rest') := by
  rw [quote_append, members?]
  show (string? _).bind _ = _
  rw [string?_ofString]
  show (value? fuel cs).bind _ = _
  rw [h]
  show (members? fuel rest).bind _ = _
  rw [hrest]
  rfl

theorem compactMembers_singleton (key : JsonText) (value : Json) :
    compactMembers [(key, value)] = quote key ++ ':' :: (compact value ++ ['\x7d']) := by
  simp [compactMembers]

theorem compactMembers_cons (key : JsonText) (value : Json) (next : JsonText × Json)
    (members : List (JsonText × Json)) :
    compactMembers ((key, value) :: next :: members)
      = quote key ++ ':' :: (compact value ++ ',' :: compactMembers (next :: members)) := by
  simp [compactMembers]

/-- A field as it stands among the members of an object. -/
def memberOf (field : String × Json) : JsonText × Json := (.ofString field.1, field.2)

/-- Fields that are legible one by one are read back up to the closing brace. -/
theorem members?_compactMembers {fields : List (String × Json)}
    (hfields : ∀ field ∈ fields, Legible field.2) (hne : fields ≠ []) {fuel : Nat}
    (hfuel : (compactMembers (fields.map memberOf)).length ≤ fuel) (rest : List Char) :
    members? fuel (compactMembers (fields.map memberOf) ++ rest)
      = some (fields.map memberOf, rest) := by
  induction fields generalizing fuel with
  | nil => exact absurd rfl hne
  | cons field fields ih =>
      obtain ⟨hfield, hfields⟩ := List.forall_mem_cons.mp hfields
      cases fields with
      | nil =>
          simp only [List.map_cons, List.map_nil, memberOf, compactMembers_singleton,
            List.length_append, List.length_cons, List.append_assoc, List.cons_append,
            List.nil_append] at hfuel ⊢
          obtain ⟨fuel, rfl⟩ : ∃ f, fuel = f + 1 := ⟨fuel - 1, by omega⟩
          exact members?_brace (hfield _ _ (by omega) (.brace rest))
      | cons next fields =>
          rw [List.map_cons] at ih
          simp only [List.map_cons, memberOf, compactMembers_cons, List.length_append,
            List.length_cons, List.append_assoc, List.cons_append] at hfuel ih ⊢
          obtain ⟨fuel, rfl⟩ : ∃ f, fuel = f + 1 := ⟨fuel - 1, by omega⟩
          exact members?_comma (hfield _ _ (by omega) (.comma _))
            (ih hfields (List.cons_ne_nil _ _) (by omega))

theorem compactMembers_eq_cons (member : JsonText × Json) (members : List (JsonText × Json)) :
    ∃ cs, compactMembers (member :: members) = '"' :: cs := by
  obtain ⟨key, value⟩ := member
  cases members with
  | nil => exact ⟨_, by rw [compactMembers_singleton, quote_append]⟩
  | cons next members => exact ⟨_, by rw [compactMembers_cons, quote_append]⟩

/-- An object of legible fields is legible. -/
theorem Legible.ofFields {fields : List (String × Json)}
    (h : ∀ field ∈ fields, Legible field.2) : Legible (.ofFields fields) := by
  intro fuel rest hfuel _
  cases fuel with
  | zero => cases hfuel
  | succ fuel =>
      cases fields with
      | nil => rfl
      | cons field fields =>
          have hread := members?_compactMembers h (List.cons_ne_nil _ _)
            (Nat.le_of_succ_le_succ hfuel) rest
          obtain ⟨cs, hquote⟩ := compactMembers_eq_cons (memberOf field) (fields.map memberOf)
          have hcompact : compact (.ofFields (field :: fields)) = '\x7b' :: '"' :: cs :=
            congrArg _ hquote
          rw [List.map_cons, hquote, List.cons_append] at hread
          rw [hcompact, List.cons_append, List.cons_append, value?_brace, hread]
          rfl

/-! ### Documents -/

/-- **A legible value is read back** from the document it is written as. -/
theorem Legible.parse?_render {value : Json} (h : Legible value) :
    parse? value.render = some value := by
  have hread : value? ((compact value).length + 1) (compact value) = some (value, []) := by
    have hvalue := h _ _ (Nat.le_succ (compact value).length) .nothing
    rwa [List.append_nil] at hvalue
  rw [parse?, render, String.toList_ofList, parseChars?, hread]
  rfl

end Json

end ReporterRegistry
