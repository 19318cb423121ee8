import ReporterRegistry.Text.Utf8

/-!
# Reading text that was written

The octets of a text are read as that text, whatever comes before them. The cases
are the four lengths of a character. In each, the octets are a lead of the right
range and continuations, so the reader takes the branch of that length; what
keeps out overlong forms and surrogates is passed because a character is a scalar
value that did not fit a shorter form.
-/

namespace ReporterRegistry

namespace Utf8

/-- A character is a scalar value: it is no surrogate, and not past the last one. -/
theorem toNat_valid (c : Char) : c.toNat < 0xD800 ∨ 0xDFFF < c.toNat ∧ c.toNat < 0x110000 :=
  c.valid

theorem toNat_ofNat_of_lt {n : Nat} (h : n < 256) : (UInt8.ofNat n).toNat = n := by
  rw [UInt8.toNat_ofNat']
  exact Nat.mod_eq_of_lt h

/-- Every octet but the first holds six bits. -/
theorem continuation?_ofNat {n : Nat} (h : n < 0x40) :
    continuation? (UInt8.ofNat (0x80 + n)) = some n := by
  unfold continuation?
  rw [toNat_ofNat_of_lt (by omega), if_pos (by omega), Nat.add_sub_cancel_left]

variable {n : Nat} (index : Nat) (rest : Bytes)

theorem decodeFrom_one (h : n < 0x80) :
    decodeFrom index (UInt8.ofNat n :: rest)
      = (decodeFrom (index + 1) rest).map (Char.ofNat n :: ·) := by
  have hlead : (UInt8.ofNat n).toNat = n := toNat_ofNat_of_lt (by omega)
  rw [decodeFrom.eq_def]
  simp only [hlead, if_pos h]

theorem decodeFrom_two (h : 0x80 ≤ n) (h' : n < 0x800) :
    decodeFrom index (UInt8.ofNat (0xC0 + n / 0x40) :: UInt8.ofNat (0x80 + n % 0x40) :: rest)
      = (decodeFrom (index + 2) rest).map (Char.ofNat n :: ·) := by
  have hlead : (UInt8.ofNat (0xC0 + n / 0x40)).toNat = 0xC0 + n / 0x40 :=
    toNat_ofNat_of_lt (by omega)
  have hlast := continuation?_ofNat (Nat.mod_lt n (by decide : 0 < 0x40))
  have hvalue : (0xC0 + n / 0x40 - 0xC0) * 0x40 + n % 0x40 = n := by omega
  rw [decodeFrom.eq_def]
  simp only [hlead, hlast, hvalue]
  rw [if_neg (by omega), if_neg (by omega), if_pos (by omega)]

/-- Three octets must not spell a surrogate, which no character is. -/
theorem decodeFrom_three (h : 0x800 ≤ n) (h' : n < 0x10000) (hvalid : n < 0xD800 ∨ 0xDFFF < n) :
    decodeFrom index (UInt8.ofNat (0xE0 + n / 0x1000) :: UInt8.ofNat (0x80 + n / 0x40 % 0x40)
        :: UInt8.ofNat (0x80 + n % 0x40) :: rest)
      = (decodeFrom (index + 3) rest).map (Char.ofNat n :: ·) := by
  have hlead : (UInt8.ofNat (0xE0 + n / 0x1000)).toNat = 0xE0 + n / 0x1000 :=
    toNat_ofNat_of_lt (by omega)
  have hnext : (UInt8.ofNat (0x80 + n / 0x40 % 0x40)).toNat = 0x80 + n / 0x40 % 0x40 :=
    toNat_ofNat_of_lt (by omega)
  have hlast := continuation?_ofNat (Nat.mod_lt n (by decide : 0 < 0x40))
  have hvalue : (0xE0 + n / 0x1000 - 0xE0) * 0x1000 + (0x80 + n / 0x40 % 0x40 - 0x80) * 0x40
      + n % 0x40 = n := by omega
  have hsecond : secondOfThree (0xE0 + n / 0x1000) (0x80 + n / 0x40 % 0x40) = true := by
    unfold secondOfThree
    split
    · simp only [Bool.and_eq_true, decide_eq_true_eq]
      omega
    · split <;> simp only [Bool.and_eq_true, decide_eq_true_eq] <;> omega
  rw [decodeFrom.eq_def]
  simp only [hlead, hnext, hlast, hvalue, hsecond, if_true]
  rw [if_neg (by omega), if_neg (by omega), if_neg (by omega), if_pos (by omega)]

theorem decodeFrom_four (h : 0x10000 ≤ n) (h' : n < 0x110000) :
    decodeFrom index (UInt8.ofNat (0xF0 + n / 0x40000) :: UInt8.ofNat (0x80 + n / 0x1000 % 0x40)
        :: UInt8.ofNat (0x80 + n / 0x40 % 0x40) :: UInt8.ofNat (0x80 + n % 0x40) :: rest)
      = (decodeFrom (index + 4) rest).map (Char.ofNat n :: ·) := by
  have hlead : (UInt8.ofNat (0xF0 + n / 0x40000)).toNat = 0xF0 + n / 0x40000 :=
    toNat_ofNat_of_lt (by omega)
  have hnext : (UInt8.ofNat (0x80 + n / 0x1000 % 0x40)).toNat = 0x80 + n / 0x1000 % 0x40 :=
    toNat_ofNat_of_lt (by omega)
  have hthird := continuation?_ofNat (Nat.mod_lt (n / 0x40) (by decide : 0 < 0x40))
  have hlast := continuation?_ofNat (Nat.mod_lt n (by decide : 0 < 0x40))
  have hvalue : (0xF0 + n / 0x40000 - 0xF0) * 0x40000
      + (0x80 + n / 0x1000 % 0x40 - 0x80) * 0x1000 + n / 0x40 % 0x40 * 0x40 + n % 0x40 = n := by
    omega
  have hsecond : secondOfFour (0xF0 + n / 0x40000) (0x80 + n / 0x1000 % 0x40) = true := by
    unfold secondOfFour
    split
    · simp only [Bool.and_eq_true, decide_eq_true_eq]
      omega
    · split <;> simp only [Bool.and_eq_true, decide_eq_true_eq] <;> omega
  rw [decodeFrom.eq_def]
  simp only [hlead, hnext, hthird, hlast, hvalue, hsecond, if_true]
  rw [if_neg (by omega), if_neg (by omega), if_neg (by omega), if_neg (by omega),
    if_pos (by omega)]

/-- **One character is read back**, and reading goes on behind it. -/
theorem decodeFrom_encodeChar (c : Char) :
    decodeFrom index (encodeChar c ++ rest)
      = (decodeFrom (index + width c) rest).map (c :: ·) := by
  have hvalid := toNat_valid c
  have hchar : Char.ofNat c.toNat = c := Char.ofNat_toNat c
  unfold encodeChar width
  simp only
  by_cases h1 : c.toNat < 0x80
  · rw [if_pos h1, if_pos h1]
    have hread := decodeFrom_one index rest h1
    rwa [hchar] at hread
  rw [if_neg h1, if_neg h1]
  by_cases h2 : c.toNat < 0x800
  · rw [if_pos h2, if_pos h2]
    have hread := decodeFrom_two index rest (Nat.le_of_not_lt h1) h2
    rwa [hchar] at hread
  rw [if_neg h2, if_neg h2]
  by_cases h3 : c.toNat < 0x10000
  · rw [if_pos h3, if_pos h3]
    have hread := decodeFrom_three index rest (Nat.le_of_not_lt h2) h3 (by omega)
    rwa [hchar] at hread
  · rw [if_neg h3, if_neg h3]
    have hread := decodeFrom_four index rest (Nat.le_of_not_lt h3) (by omega)
    rwa [hchar] at hread

theorem decodeFrom_encode (index : Nat) (cs : List Char) :
    decodeFrom index (encode cs) = .ok cs := by
  induction cs generalizing index with
  | nil => rfl
  | cons c cs ih =>
      rw [encode_cons, decodeFrom_encodeChar, ih]
      rfl

/-- **Text that was written is read back.** -/
theorem decode_encode (cs : List Char) : decode (encode cs) = .ok cs := decodeFrom_encode 0 cs

/-- Different texts have different octets. -/
theorem encode_injective {cs ds : List Char} (h : encode cs = encode ds) : cs = ds := by
  have hread : (.ok cs : Except Fault (List Char)) = .ok ds := by
    rw [← decode_encode cs, h, decode_encode]
  cases hread
  rfl

/-! ### Octets that are read

The other direction: what the reader accepts as a character is what the character is
written as. The bounds on the second octet are what makes the code point a scalar value
that does not fit a shorter form.
-/

theorem continuation?_eq_some {b : UInt8} {x : Nat} (h : continuation? b = some x) :
    0x80 ≤ b.toNat ∧ b.toNat ≤ 0xBF ∧ x = b.toNat - 0x80 := by
  unfold continuation? at h
  split at h
  · rename_i hrange
    exact ⟨hrange.1, hrange.2, (Option.some.inj h).symm⟩
  · cases h

/-- The second octet shows a sequence that is longer than it has to be, or a surrogate. -/
theorem secondOfThree_bounds {lead next : Nat} (h : secondOfThree lead next = true) :
    0x80 ≤ next ∧ next ≤ 0xBF ∧ (lead = 0xE0 → 0xA0 ≤ next) ∧ (lead = 0xED → next ≤ 0x9F) := by
  unfold secondOfThree at h
  repeat' split at h
  all_goals
    simp only [Bool.and_eq_true, decide_eq_true_eq] at h
    omega

theorem secondOfFour_bounds {lead next : Nat} (h : secondOfFour lead next = true) :
    0x80 ≤ next ∧ next ≤ 0xBF ∧ (lead = 0xF0 → 0x90 ≤ next) ∧ (lead = 0xF4 → next ≤ 0x8F) := by
  unfold secondOfFour at h
  repeat' split at h
  all_goals
    simp only [Bool.and_eq_true, decide_eq_true_eq] at h
    omega

theorem toNat_ofNat_of_valid {n : Nat} (h : n < 0xD800 ∨ 0xDFFF < n ∧ n < 0x110000) :
    (Char.ofNat n).toNat = n := by
  rw [Char.ofNat, dif_pos h]
  rfl

theorem ofNat_eq_of_toNat_eq {n : Nat} {b : UInt8} (h : n = b.toNat) : UInt8.ofNat n = b := by
  rw [h, UInt8.ofNat_toNat]

theorem encodeChar_one {lead : UInt8} (h : lead.toNat < 0x80) :
    encodeChar (Char.ofNat lead.toNat) = [lead] := by
  have htoNat : (Char.ofNat lead.toNat).toNat = lead.toNat := toNat_ofNat_of_valid (by omega)
  simp only [encodeChar, htoNat, if_pos h, UInt8.ofNat_toNat]

theorem encodeChar_two {lead next : UInt8} {x : Nat} (hlow : 0xC2 ≤ lead.toNat)
    (hhigh : lead.toNat < 0xE0) (hnext : continuation? next = some x) :
    encodeChar (Char.ofNat ((lead.toNat - 0xC0) * 0x40 + x)) = [lead, next] := by
  obtain ⟨hn, hn', hx⟩ := continuation?_eq_some hnext
  generalize hcode : (lead.toNat - 0xC0) * 0x40 + x = n
  have htoNat : (Char.ofNat n).toNat = n := toNat_ofNat_of_valid (by omega)
  simp only [encodeChar, htoNat]
  rw [if_neg (by omega), if_pos (by omega)]
  rw [ofNat_eq_of_toNat_eq (b := lead) (by omega), ofNat_eq_of_toNat_eq (b := next) (by omega)]

theorem encodeChar_three {lead next last : UInt8} {y : Nat} (hlow : 0xE0 ≤ lead.toNat)
    (hhigh : lead.toNat < 0xF0) (hnext : secondOfThree lead.toNat next.toNat = true)
    (hlast : continuation? last = some y) :
    encodeChar (Char.ofNat ((lead.toNat - 0xE0) * 0x1000 + (next.toNat - 0x80) * 0x40 + y))
      = [lead, next, last] := by
  obtain ⟨hn, hn', hshort, hsurrogate⟩ := secondOfThree_bounds hnext
  obtain ⟨hl, hl', hlastValue⟩ := continuation?_eq_some hlast
  generalize hcode : (lead.toNat - 0xE0) * 0x1000 + (next.toNat - 0x80) * 0x40 + y = n
  have htoNat : (Char.ofNat n).toNat = n := toNat_ofNat_of_valid (by omega)
  simp only [encodeChar, htoNat]
  rw [if_neg (by omega), if_neg (by omega), if_pos (by omega)]
  rw [ofNat_eq_of_toNat_eq (b := lead) (by omega), ofNat_eq_of_toNat_eq (b := next) (by omega),
    ofNat_eq_of_toNat_eq (b := last) (by omega)]

theorem encodeChar_four {lead next third last : UInt8} {y z : Nat} (hlow : 0xF0 ≤ lead.toNat)
    (hhigh : lead.toNat < 0xF5) (hnext : secondOfFour lead.toNat next.toNat = true)
    (hthird : continuation? third = some y) (hlast : continuation? last = some z) :
    encodeChar (Char.ofNat ((lead.toNat - 0xF0) * 0x40000 + (next.toNat - 0x80) * 0x1000
      + y * 0x40 + z)) = [lead, next, third, last] := by
  obtain ⟨hn, hn', hshort, hpast⟩ := secondOfFour_bounds hnext
  obtain ⟨ht, ht', hthirdValue⟩ := continuation?_eq_some hthird
  obtain ⟨hl, hl', hlastValue⟩ := continuation?_eq_some hlast
  generalize hcode : (lead.toNat - 0xF0) * 0x40000 + (next.toNat - 0x80) * 0x1000 + y * 0x40
    + z = n
  have htoNat : (Char.ofNat n).toNat = n := toNat_ofNat_of_valid (by omega)
  simp only [encodeChar, htoNat]
  rw [if_neg (by omega), if_neg (by omega), if_neg (by omega)]
  rw [ofNat_eq_of_toNat_eq (b := lead) (by omega), ofNat_eq_of_toNat_eq (b := next) (by omega),
    ofNat_eq_of_toNat_eq (b := third) (by omega), ofNat_eq_of_toNat_eq (b := last) (by omega)]

/-- A character in front of what is read comes from octets in front. -/
theorem encode_of_map_cons {result : Except Fault (List Char)} {c : Char} {cs : List Char}
    {rest : Bytes} (hrest : ∀ {ds}, result = .ok ds → encode ds = rest)
    (h : result.map (c :: ·) = .ok cs) : encode cs = encodeChar c ++ rest := by
  cases result with
  | error fault => cases h
  | ok ds =>
      cases h
      rw [encode_cons, hrest rfl]

/-- **Text that is read was written so.** No two octet sequences are read as one text. -/
theorem encode_of_decodeFrom {index : Nat} {bs : Bytes} {cs : List Char}
    (h : decodeFrom index bs = .ok cs) : encode cs = bs := by
  fun_induction decodeFrom index bs generalizing cs
  case case1 =>
    cases h
    rfl
  case case2 hone ih =>
    rw [encode_of_map_cons ih h, encodeChar_one hone]
    rfl
  case case6 hlow htwo next _ x hnext ih =>
    rw [encode_of_map_cons ih h, encodeChar_two (Nat.le_of_not_lt hlow) htwo hnext]
    rfl
  case case10 hlow hthree next hsecond last _ y hlast ih =>
    rw [encode_of_map_cons ih h, encodeChar_three (Nat.le_of_not_lt hlow) hthree hsecond hlast]
    rfl
  case case17 hlow hfour next hsecond third y hthird last _ z hlast ih =>
    rw [encode_of_map_cons ih h,
      encodeChar_four (Nat.le_of_not_lt hlow) hfour hsecond hthird hlast]
    rfl
  all_goals cases h

/-- Reading is exact: octets are read as the text that is written as them. -/
theorem decode_eq_ok_iff {bs : Bytes} {cs : List Char} : decode bs = .ok cs ↔ encode cs = bs := by
  constructor
  · exact encode_of_decodeFrom
  · rintro rfl
    exact decode_encode cs

/-! ### ASCII -/

/-- The octet of an ASCII character, and of no other. -/
def octet (c : Char) : UInt8 := UInt8.ofNat c.toNat

theorem encode_of_ascii {cs : List Char} (h : ∀ c ∈ cs, c.toNat < 0x80) :
    encode cs = cs.map octet := by
  induction cs with
  | nil => rfl
  | cons c cs ih =>
      have hc : encodeChar c = [octet c] := by
        simp only [encodeChar, if_pos (h c List.mem_cons_self), octet]
      rw [encode_cons, hc, ih fun d hd => h d (List.mem_cons_of_mem c hd), List.map_cons]
      rfl

/-- An ASCII text has as many octets as characters. -/
theorem length_of_ascii {cs : List Char} (h : ∀ c ∈ cs, c.toNat < 0x80) :
    length cs = cs.length := by
  rw [← length_encode, encode_of_ascii h, List.length_map]

/-- A text whose octets are all ASCII is read off them one by one. -/
theorem eq_map_of_encode_ascii {cs : List Char} {bs : Bytes} (h : encode cs = bs)
    (hascii : ∀ b ∈ bs, b.toNat < 0x80) : cs = bs.map fun b => Char.ofNat b.toNat := by
  refine encode_injective (h.trans ?_)
  clear h
  induction bs with
  | nil => rfl
  | cons b bs ih =>
      rw [List.map_cons, encode_cons, encodeChar_one (hascii b List.mem_cons_self),
        ← ih fun d hd => hascii d (List.mem_cons_of_mem b hd)]
      rfl

end Utf8

end ReporterRegistry
