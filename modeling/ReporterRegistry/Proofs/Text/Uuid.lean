import Mathlib.Algebra.GroupWithZero.Nat
import ReporterRegistry.Proofs.Text.Hex
import ReporterRegistry.ReporterId

/-!
# The texts of an id

`Uuid.Spells` says which texts stand for which 32 digits: the digits alone, in groups, in
groups and braces, or in groups after a marker. The reader accepts these texts and no
others (`Uuid.parse_eq_ok_iff`), although it looks at the length first and at the wrapper
next: every shape has a length of its own, and what is left inside a wrapper of the right
length is compared with the groups character by character.

An accepted text is read as the number of its digits (`Hex.number`), so letter case is all
that two texts of one id can differ in besides their shape (`ReporterId.text_faithful`).
-/

namespace ReporterRegistry

namespace Uuid

/-- 32 hexadecimal digits. -/
structure IsDigits (ds : List Char) : Prop where
  length : ds.length = 32
  digits : ∀ d ∈ ds, Hex.isDigit d = true

/-- The digits are those of 16 octets. -/
theorem IsDigits.exists_octets {ds : List Char} (h : IsDigits ds) :
    ∃ bs : Bytes, bs.length = 16 ∧ ds.map Char.toLower = Hex.encode bs := by
  obtain ⟨bs, hbs⟩ := Hex.exists_encode (k := 16) h.length h.digits
  have hlength := congrArg List.length hbs
  rw [List.length_map, h.length, Hex.length_encode] at hlength
  exact ⟨bs, by omega, hbs⟩

theorem IsDigits.number_lt {ds : List Char} (h : IsDigits ds) : Hex.number ds < 2 ^ 128 := by
  obtain ⟨bs, hlength, hbs⟩ := h.exists_octets
  have hlt := Bytes.toNat_lt bs
  rw [hlength] at hlt
  rw [Hex.number_of_map_toLower hbs]
  exact hlt

/-- Digits write one number exactly if they agree up to letter case. -/
theorem IsDigits.number_eq_iff {ds ds' : List Char} (h : IsDigits ds) (h' : IsDigits ds') :
    Hex.number ds = Hex.number ds' ↔ ds.map Char.toLower = ds'.map Char.toLower := by
  obtain ⟨bs, hlength, hbs⟩ := h.exists_octets
  obtain ⟨bs', hlength', hbs'⟩ := h'.exists_octets
  rw [Hex.number_of_map_toLower hbs, Hex.number_of_map_toLower hbs', hbs, hbs']
  constructor
  · intro hnumber
    rw [← Bytes.ofNatBE_toNat bs, ← Bytes.ofNatBE_toNat bs', hnumber, hlength, hlength']
  · intro hdigits
    rw [Hex.encode_injective hdigits]

theorem ofDigits?_eq_some_iff {cs : List Char} {value : BitVec 128} :
    ofDigits? cs = some value ↔ IsDigits cs ∧ value.toNat = Hex.number cs := by
  unfold ofDigits?
  split
  · rename_i hdigits
    simp only [Bool.and_eq_true, decide_eq_true_eq, List.all_eq_true] at hdigits
    have hcs : IsDigits cs := ⟨hdigits.1, hdigits.2⟩
    obtain ⟨bs, hlength, hbs⟩ := hcs.exists_octets
    have hlt := hcs.number_lt
    rw [Hex.number_of_map_toLower hbs] at hlt ⊢
    rw [Hex.decode_eq_ok_iff.mpr hbs]
    constructor
    · intro h
      cases h
      exact ⟨hcs, by rw [BitVec.toNat_ofNat, Nat.mod_eq_of_lt hlt]⟩
    · intro h
      refine congrArg some ?_
      rw [← h.2, BitVec.ofNat_toNat, BitVec.setWidth_eq]
  · rename_i hdigits
    refine ⟨nofun, fun h => absurd ?_ hdigits⟩
    simp only [Bool.and_eq_true, decide_eq_true_eq, List.all_eq_true]
    exact ⟨h.1.length, h.1.digits⟩

/-! ### Groups -/

/-- Grouped text is read as its digits, if the groups have the lengths that are asked for. -/
theorem ungroup?_eq_some_iff {n : Nat} {ns : List Nat} {cs ds : List Char} :
    ungroup? (n :: ns) cs = some ds ↔
      ds.length = (n :: ns).sum ∧ cs = hyphenate (n :: ns) ds := by
  induction ns generalizing n cs ds with
  | nil =>
      simp only [ungroup?, hyphenate, List.sum_cons, List.sum_nil, Nat.add_zero]
      constructor
      · intro h
        split at h
        · rename_i hlength
          cases h
          exact ⟨hlength, (List.take_of_length_le (Nat.le_of_eq hlength)).symm⟩
        · cases h
      · intro h
        obtain ⟨hlength, rfl⟩ := h
        rw [List.take_of_length_le (Nat.le_of_eq hlength), if_pos hlength]
  | cons m ns ih =>
      simp only [ungroup?, hyphenate]
      constructor
      · intro h
        split at h
        · rename_i rest hrest
          obtain ⟨tail, htail, rfl⟩ := Option.map_eq_some_iff.mp h
          obtain ⟨hlength, rfl⟩ := ih.mp htail
          have hfront : (cs.take n).length = n := by
            have hsplit := congrArg List.length hrest
            rw [List.length_drop, List.length_cons] at hsplit
            rw [List.length_take]
            omega
          constructor
          · rw [List.length_append, hfront, hlength, ← List.sum_cons]
          · rw [List.take_left' hfront, List.drop_left' hfront, ← hrest, List.take_append_drop]
        · cases h
      · intro h
        obtain ⟨hlength, rfl⟩ := h
        have hfront : (ds.take n).length = n := by
          rw [List.sum_cons] at hlength
          rw [List.length_take]
          omega
        have htail : ungroup? (m :: ns) (hyphenate (m :: ns) (ds.drop n)) = some (ds.drop n) := by
          refine ih.mpr ⟨?_, rfl⟩
          rw [List.length_drop, hlength, List.sum_cons, Nat.add_sub_cancel_left]
        rw [List.drop_left' hfront, List.take_left' hfront]
        simp only [htail, Option.map_some, List.take_append_drop]

theorem length_hyphenate {n : Nat} {ns : List Nat} {ds : List Char}
    (h : ds.length = (n :: ns).sum) : (hyphenate (n :: ns) ds).length = ds.length + ns.length := by
  induction ns generalizing n ds with
  | nil =>
      rw [hyphenate, List.take_of_length_le (by simp [h]), List.length_nil, Nat.add_zero]
  | cons m ns ih =>
      rw [List.sum_cons] at h
      have htail : (ds.drop n).length = (m :: ns).sum := by
        rw [List.length_drop, h, Nat.add_sub_cancel_left]
      simp only [hyphenate]
      rw [List.length_append, List.length_cons, ih htail, List.length_take, List.length_drop,
        List.length_cons]
      omega

theorem mem_hyphenate {ns : List Nat} {ds : List Char} {c : Char} (h : c ∈ hyphenate ns ds) :
    c = '-' ∨ c ∈ ds := by
  fun_induction hyphenate ns ds with
  | case1 => cases h
  | case2 n ds => exact Or.inr (List.mem_of_mem_take h)
  | case3 n ns ds _ ih =>
      rcases List.mem_append.mp h with hfront | hrest
      · exact Or.inr (List.mem_of_mem_take hfront)
      · rcases List.mem_cons.mp hrest with hhyphen | htail
        · exact Or.inl hhyphen
        · exact (ih htail).imp_right List.mem_of_mem_drop

theorem ofGroups?_eq_some_iff {cs : List Char} {value : BitVec 128} :
    ofGroups? cs = some value ↔
      ∃ ds, IsDigits ds ∧ cs = hyphenate groups ds ∧ value.toNat = Hex.number ds := by
  rw [ofGroups?, Option.bind_eq_some_iff]
  constructor
  · intro h
    obtain ⟨ds, hgroups, hvalue⟩ := h
    obtain ⟨hdigits, hnumber⟩ := ofDigits?_eq_some_iff.mp hvalue
    exact ⟨ds, hdigits, (ungroup?_eq_some_iff.mp hgroups).2, hnumber⟩
  · intro h
    obtain ⟨ds, hdigits, rfl, hnumber⟩ := h
    exact ⟨ds, ungroup?_eq_some_iff.mpr ⟨hdigits.length, rfl⟩,
      ofDigits?_eq_some_iff.mpr ⟨hdigits, hnumber⟩⟩

/-! ### Wrappers -/

theorem inBraces?_eq_some_iff {cs inner : List Char} :
    inBraces? cs = some inner ↔ cs = '\x7b' :: (inner ++ ['\x7d']) := by
  constructor
  · intro h
    unfold inBraces? at h
    split at h
    · rename_i rest
      split at h
      · rename_i hlast
        obtain ⟨front, rfl⟩ := List.getLast?_eq_some_iff.mp hlast
        cases h
        rw [List.dropLast_concat]
      · cases h
    · cases h
  · intro h
    rw [h]
    simp [inBraces?]

/-- What is dropped is a marker in any letter case. -/
theorem afterMarker?_eq_some_iff {marker cs rest : List Char} :
    afterMarker? marker cs = some rest ↔
      ∃ front, front.map Char.toLower = marker ∧ cs = front ++ rest := by
  induction marker generalizing cs with
  | nil =>
      simp [afterMarker?]
  | cons m ms ih =>
      cases cs with
      | nil =>
          refine ⟨nofun, fun h => ?_⟩
          obtain ⟨front, hmarker, hfront⟩ := h
          rw [(List.append_eq_nil_iff.mp hfront.symm).1] at hmarker
          cases hmarker
      | cons c cs =>
          rw [afterMarker?]
          constructor
          · intro h
            split at h
            · rename_i hc
              obtain ⟨front, rfl, rfl⟩ := ih.mp h
              exact ⟨c :: front, by rw [List.map_cons, hc], rfl⟩
            · cases h
          · intro h
            obtain ⟨front, hmarker, hfront⟩ := h
            cases front with
            | nil => cases hmarker
            | cons d front =>
                obtain ⟨hd, hrest⟩ := List.cons.inj hmarker
                obtain ⟨rfl, rfl⟩ := List.cons.inj hfront
                rw [if_pos hd]
                exact ih.mpr ⟨front, hrest, rfl⟩

/-- What a text is wrapped in leaves a part of 36 octets. -/
theorem grouped?_eq_some_iff {cs part : List Char} :
    grouped? cs = some part ↔
      (Utf8.length cs = 36 ∧ cs = part) ∨
      (Utf8.length cs = 38 ∧ cs = '\x7b' :: (part ++ ['\x7d'])) ∨
      (Utf8.length cs = 45 ∧ ∃ marker, marker.map Char.toLower = urn ∧ cs = marker ++ part) := by
  unfold grouped?
  split
  · rename_i hlength
    simp [hlength]
  · rename_i hlength
    simp [hlength, inBraces?_eq_some_iff]
  · rename_i hlength
    simp [hlength, afterMarker?_eq_some_iff]
  · rename_i h36 h38 h45
    refine ⟨nofun, fun h => ?_⟩
    rcases h with h | h | h
    · exact absurd h.1 h36
    · exact absurd h.1 h38
    · exact absurd h.1 h45

/-! ### Texts -/

/-- The shapes that digits are written in. -/
inductive Shape (ds : List Char) : List Char → Prop where
  /-- The digits alone. -/
  | plain : Shape ds ds
  /-- The digits in groups of 8, 4, 4, 4 and 12. -/
  | grouped : Shape ds (hyphenate groups ds)
  | braced : Shape ds ('\x7b' :: (hyphenate groups ds ++ ['\x7d']))
  | urn {marker : List Char} (h : marker.map Char.toLower = urn) :
    Shape ds (marker ++ hyphenate groups ds)

example : hyphenate groups "0123456789abcdef0123456789ABCDEF".toList
    = "01234567-89ab-cdef-0123-456789ABCDEF".toList := by decide

/-- The text is one of those that stand for the digits. -/
structure Spells (cs ds : List Char) : Prop where
  digits : IsDigits ds
  shape : Shape ds cs

variable {cs ds : List Char}

theorem IsDigits.length_hyphenate (h : IsDigits ds) : (hyphenate groups ds).length = 36 := by
  rw [groups, Uuid.length_hyphenate h.length, h.length]
  rfl

/-- Every spelling is ASCII, so that its octets are as many as its characters. -/
theorem Spells.length_eq (h : Spells cs ds) : Utf8.length cs = cs.length := by
  have hgroups : ∀ c ∈ hyphenate groups ds, c.toNat < 0x80 := by
    intro c hc
    rcases mem_hyphenate hc with rfl | hdigit
    · decide
    · exact Hex.isDigit_ascii (h.digits.digits c hdigit)
  refine Utf8.length_of_ascii ?_
  intro c hc
  cases h.shape with
  | plain => exact Hex.isDigit_ascii (h.digits.digits c hc)
  | grouped => exact hgroups c hc
  | braced =>
      rcases List.mem_cons.mp hc with rfl | hc
      · decide
      rcases List.mem_append.mp hc with hgroup | hclose
      · exact hgroups c hgroup
      · rw [List.mem_singleton.mp hclose]
        decide
  | urn hmarker =>
      rcases List.mem_append.mp hc with hc | hgroup
      · have hurn : urn.all (fun d => d.toNat < 0x80) = true := by decide
        have hlower := List.all_eq_true.mp hurn _ (hmarker ▸ List.mem_map_of_mem hc)
        exact Hex.ascii_of_toLower (of_decide_eq_true hlower)
      · exact hgroups c hgroup

/-- A spelling is the digits alone, or its length and its wrapper lead to the groups. -/
theorem Spells.cases_grouped? (h : Spells cs ds) :
    (cs = ds ∧ grouped? cs = none) ∨ grouped? cs = some (hyphenate groups ds) := by
  have hlength := h.length_eq
  have hgroups := h.digits.length_hyphenate
  cases h.shape with
  | plain =>
      rw [h.digits.length] at hlength
      refine Or.inl ⟨rfl, ?_⟩
      simp only [grouped?, hlength]
  | grouped =>
      rw [hgroups] at hlength
      exact Or.inr (grouped?_eq_some_iff.mpr (Or.inl ⟨hlength, rfl⟩))
  | braced =>
      rw [List.length_cons, List.length_append, hgroups] at hlength
      exact Or.inr (grouped?_eq_some_iff.mpr (Or.inr (Or.inl ⟨hlength, rfl⟩)))
  | urn hmarker =>
      have hnine := congrArg List.length hmarker
      rw [List.length_map] at hnine
      rw [List.length_append, hnine, hgroups] at hlength
      exact Or.inr (grouped?_eq_some_iff.mpr (Or.inr (Or.inr ⟨hlength, _, hmarker, rfl⟩)))

/-- **The reader accepts what spells digits, as their number, and nothing else.** -/
theorem parse_eq_ok_iff {value : BitVec 128} :
    parse cs = .ok value ↔ ∃ ds, Spells cs ds ∧ value.toNat = Hex.number ds := by
  constructor
  · intro h
    unfold parse at h
    split at h
    · rename_i part hpart
      split at h
      · rename_i value' hvalue
        cases h
        obtain ⟨ds, hdigits, rfl, hnumber⟩ := ofGroups?_eq_some_iff.mp hvalue
        refine ⟨ds, ⟨hdigits, ?_⟩, hnumber⟩
        rcases grouped?_eq_some_iff.mp hpart with
          ⟨-, rfl⟩ | ⟨-, rfl⟩ | ⟨-, marker, hmarker, rfl⟩
        · exact .grouped
        · exact .braced
        · exact .urn hmarker
      · cases h
    · split at h
      · rename_i value' hvalue
        cases h
        obtain ⟨hdigits, hnumber⟩ := ofDigits?_eq_some_iff.mp hvalue
        exact ⟨cs, ⟨hdigits, .plain⟩, hnumber⟩
      · cases h
  · intro h
    obtain ⟨ds, hspells, hnumber⟩ := h
    rcases hspells.cases_grouped? with ⟨rfl, hnone⟩ | hpart
    · simp only [parse, hnone, ofDigits?_eq_some_iff.mpr ⟨hspells.digits, hnumber⟩]
    · have hvalue : ofGroups? (hyphenate groups ds) = some value :=
        ofGroups?_eq_some_iff.mpr ⟨ds, hspells.digits, rfl, hnumber⟩
      simp only [parse, hpart, hvalue]

theorem Spells.toNat_ofNat_number (h : Spells cs ds) :
    (BitVec.ofNat 128 (Hex.number ds)).toNat = Hex.number ds := by
  rw [BitVec.toNat_ofNat, Nat.mod_eq_of_lt h.digits.number_lt]

theorem Spells.parse (h : Spells cs ds) :
    parse cs = .ok (BitVec.ofNat 128 (Hex.number ds)) :=
  parse_eq_ok_iff.mpr ⟨ds, h, h.toNat_ofNat_number⟩

/-- What is written for a number spells its digits. -/
theorem spells_render (value : BitVec 128) :
    Spells (render value) (Hex.encode (Bytes.ofNatBE 16 value.toNat)) := by
  refine ⟨⟨by simp, ?_⟩, .grouped⟩
  intro c hc
  obtain ⟨d, hd, rfl⟩ := Hex.mem_encode hc
  exact Hex.isDigit_iff.mpr ⟨d, hd, Hex.toLower_digitChar hd⟩

/-- **A number that was written is read back.** -/
theorem parse_render (value : BitVec 128) : Uuid.parse (render value) = .ok value := by
  refine parse_eq_ok_iff.mpr ⟨_, spells_render value, ?_⟩
  rw [Hex.number_encode, Bytes.toNat_ofNatBE value.isLt]

end Uuid

/-! ### Ids -/

namespace ReporterId

open Uuid (Spells)

variable {text : String} {ds : List Char}

theorem parse_of_spells (h : Spells text.toList ds) :
    parse text = .ok ⟨BitVec.ofNat 128 (Hex.number ds)⟩ := by
  rw [parse, h.parse]

theorem spells_of_parse {id : ReporterId} (h : parse text = .ok id) :
    ∃ ds, Spells text.toList ds ∧ id.value.toNat = Hex.number ds := by
  unfold parse at h
  split at h
  · rename_i value hvalue
    cases h
    exact Uuid.parse_eq_ok_iff.mp hvalue
  · cases h

/-- **Ids have faithful texts.** The text of an id is read as that id. The texts that are
read are those that spell 32 digits, in one of four shapes and in any letter case, and they
are read as the number of the digits; so two of them are read as one id if and only if their
digits agree up to letter case. Every other text is an invalid id. -/
theorem text_faithful :
    (∀ id : ReporterId, parse id.display = .ok id) ∧
    (∀ text, (∃ id, parse text = .ok id) ↔ ∃ ds, Spells text.toList ds) ∧
    (∀ text ds id, Spells text.toList ds → parse text = .ok id →
      id.value.toNat = Hex.number ds) ∧
    (∀ text text' ds ds' id id', Spells text.toList ds → Spells text'.toList ds' →
      parse text = .ok id → parse text' = .ok id' →
        (id = id' ↔ ds.map Char.toLower = ds'.map Char.toLower)) ∧
    ∀ text, (¬ ∃ ds, Spells text.toList ds) →
      ∃ reason : String, parse text = .error (.invalidValue .reporterId s!"{text}: {reason}") := by
  have hnumber : ∀ {text ds id}, Spells text.toList ds → parse text = .ok id →
      id.value.toNat = Hex.number ds := by
    intro text ds id hspells hparse
    rw [parse_of_spells hspells] at hparse
    cases hparse
    exact hspells.toNat_ofNat_number
  refine ⟨?display, ?accepted, fun _ _ _ => hnumber, ?same, ?refused⟩
  case display =>
    intro id
    rw [parse, display, String.toList_ofList, Uuid.parse_render]
  case accepted =>
    intro text
    constructor
    · intro h
      obtain ⟨id, hparse⟩ := h
      obtain ⟨ds, hspells, -⟩ := spells_of_parse hparse
      exact ⟨ds, hspells⟩
    · intro h
      obtain ⟨ds, hspells⟩ := h
      exact ⟨_, parse_of_spells hspells⟩
  case same =>
    intro text text' ds ds' id id' hspells hspells' hparse hparse'
    rw [← hspells.digits.number_eq_iff hspells'.digits, ← hnumber hspells hparse,
      ← hnumber hspells' hparse']
    constructor
    · intro hsame
      rw [hsame]
    · intro hvalue
      cases id
      cases id'
      exact congrArg ReporterId.mk (BitVec.eq_of_toNat_eq hvalue)
  case refused =>
    intro text hnone
    cases hparse : Uuid.parse text.toList with
    | ok value =>
        obtain ⟨ds, hspells, -⟩ := Uuid.parse_eq_ok_iff.mp hparse
        exact absurd ⟨ds, hspells⟩ hnone
    | error fault =>
        refine ⟨fault.message, ?_⟩
        rw [parse, hparse]

/-- Two shapes of one id in different letter case, and its text with a hyphen that stands one
place too far to the right. -/
theorem text_faithful_sample :
    (∃ id, parse "\x7bA8B3A1B0-6C9B-4E2A-9D0E-2F7C3B1A9E55\x7d" = .ok id ∧
      parse "a8b3a1b06c9b4e2a9d0e2f7c3b1a9e55" = .ok id ∧
      parse id.display = .ok id) ∧
    ∃ reason : String, parse "a8b3a1b06-c9b-4e2a-9d0e-2f7c3b1a9e55"
      = .error (.invalidValue .reporterId s!"a8b3a1b06-c9b-4e2a-9d0e-2f7c3b1a9e55: {reason}") := by
  obtain ⟨hdisplay, haccepted, -, hsame, hrefused⟩ := text_faithful
  have hbraced : Spells "\x7bA8B3A1B0-6C9B-4E2A-9D0E-2F7C3B1A9E55\x7d".toList
      "A8B3A1B06C9B4E2A9D0E2F7C3B1A9E55".toList :=
    ⟨⟨by decide, List.all_eq_true.mp (by decide)⟩, .braced⟩
  have hplain : Spells "a8b3a1b06c9b4e2a9d0e2f7c3b1a9e55".toList
      "a8b3a1b06c9b4e2a9d0e2f7c3b1a9e55".toList :=
    ⟨⟨by decide, List.all_eq_true.mp (by decide)⟩, .plain⟩
  constructor
  · obtain ⟨id, hid⟩ := (haccepted _).mpr ⟨_, hbraced⟩
    obtain ⟨id', hid'⟩ := (haccepted _).mpr ⟨_, hplain⟩
    have hids : id = id' := (hsame _ _ _ _ _ _ hbraced hplain hid hid').mpr (by decide)
    exact ⟨id, hid, hids ▸ hid', hdisplay id⟩
  · refine hrefused _ ?_
    intro hspells
    obtain ⟨id, hid⟩ := (haccepted _).mpr hspells
    have hfault : (parse "a8b3a1b06-c9b-4e2a-9d0e-2f7c3b1a9e55").isOk = false := by decide
    rw [hid] at hfault
    cases hfault

end ReporterId

end ReporterRegistry
