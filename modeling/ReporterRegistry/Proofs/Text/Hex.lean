import ReporterRegistry.Proofs.Octets
import ReporterRegistry.Proofs.Outcomes
import ReporterRegistry.Proofs.Text.Utf8
import ReporterRegistry.Text.Hex

/-!
# Hexadecimal in both directions

Reading takes digits of either case, writing uses one. A text is read as octets
exactly if it is, in lower case, what is written for them (`Hex.decode_eq_ok_iff`).
Everything else follows: octets are read back, and two texts are read alike if and
only if they differ in letter case at most.

Digits of either case also write a number (`Hex.number`), which is the number of the
octets that they are read as.
-/

namespace ReporterRegistry

open Utf8 (octet)

namespace Hex

/-! ### One digit -/

/-- Only the capital letters of ASCII are changed. -/
theorem toNat_toLower (c : Char) :
    c.toLower.toNat = if 65 ≤ c.toNat ∧ c.toNat ≤ 90 then c.toNat + 32 else c.toNat := by
  have hcapital : (c.val ≥ 'A'.val ∧ c.val ≤ 'Z'.val) ↔ 65 ≤ c.toNat ∧ c.toNat ≤ 90 := Iff.rfl
  unfold Char.toLower
  split
  · rename_i h
    rw [if_pos (hcapital.mp h)]
    have hlast : c.val.toNat ≤ 90 := (hcapital.mp h).2
    have hsum : (c.val + 32).toNat = c.val.toNat + 32 := by
      rw [UInt32.toNat_add]
      exact Nat.mod_eq_of_lt (Nat.lt_of_le_of_lt (Nat.add_le_add_right hlast 32) (by decide))
    exact hsum
  · rename_i h
    rw [if_neg (mt hcapital.mpr h)]

theorem ascii_of_toLower {c : Char} (h : c.toLower.toNat < 0x80) : c.toNat < 0x80 := by
  rw [toNat_toLower] at h
  split at h <;> omega

theorem toNat_digitChar {d : Nat} (h : d < 16) :
    (digitChar d).toNat = if d < 10 then 48 + d else 87 + d := by
  unfold digitChar
  split <;> exact Utf8.toNat_ofNat_of_valid (by omega)

/-- Digits are written in lower case. -/
theorem toLower_digitChar {d : Nat} (h : d < 16) : (digitChar d).toLower = digitChar d := by
  have hall : ∀ e ∈ List.range 16, (digitChar e).toLower = digitChar e := by decide
  exact hall d (List.mem_range.mpr h)

/-- The character of an octet, in lower case. -/
def lowered (b : UInt8) : Char := (Char.ofNat b.toNat).toLower

theorem toNat_lowered (b : UInt8) :
    (lowered b).toNat = if 65 ≤ b.toNat ∧ b.toNat ≤ 90 then b.toNat + 32 else b.toNat := by
  have hb := b.toNat_lt
  rw [lowered, toNat_toLower, Utf8.toNat_ofNat_of_valid (by omega)]

theorem digit?_lt {b : UInt8} {d : Nat} (h : digit? b = some d) : d < 16 := by
  unfold digit? at h
  simp only at h
  repeat' split at h
  all_goals simp only [Option.some.injEq, reduceCtorEq] at h <;> omega

/-- An octet is the digit that its character is in lower case. -/
theorem digit?_eq_some_iff {b : UInt8} {d : Nat} :
    digit? b = some d ↔ d < 16 ∧ lowered b = digitChar d := by
  by_cases hd : d < 16
  · rw [← Char.toNat_inj, toNat_lowered, toNat_digitChar hd]
    unfold digit?
    simp only
    repeat' split
    all_goals
      simp only [Option.some.injEq, reduceCtorEq, false_iff]
      omega
  · exact ⟨fun h => absurd (digit?_lt h) hd, fun h => absurd h.1 hd⟩

/-- An octet is a digit if in lower case it is one that is written. -/
theorem digitAt_eq_ok_iff {index : Nat} {b : UInt8} {d : Nat} :
    digitAt index b = .ok d ↔ d < 16 ∧ lowered b = digitChar d := by
  rw [← digit?_eq_some_iff, digitAt]
  cases digit? b <;> simp

/-! ### One octet -/

/-- An octet is written as its two halves. -/
theorem encodeOctet_ofNat {h l : Nat} (hh : h < 16) (hl : l < 16) :
    encodeOctet (UInt8.ofNat (16 * h + l)) = [digitChar h, digitChar l] := by
  have hvalue : (UInt8.ofNat (16 * h + l)).toNat = 16 * h + l :=
    Utf8.toNat_ofNat_of_lt (by omega)
  have hhigh : (16 * h + l) / 16 = h := by omega
  have hlow : (16 * h + l) % 16 = l := by omega
  rw [encodeOctet, hvalue, hhigh, hlow]

theorem ofNat_halves (b : UInt8) : UInt8.ofNat (16 * (b.toNat / 16) + b.toNat % 16) = b := by
  rw [Nat.div_add_mod, UInt8.ofNat_toNat]

theorem div_lt_sixteen (b : UInt8) : b.toNat / 16 < 16 := by
  have hb := b.toNat_lt
  omega

/-! ### All octets -/

/-- Octets are read exactly if their characters are, in lower case, what is written. -/
theorem decodeFrom_eq_ok_iff {index : Nat} {text bs : Bytes} :
    decodeFrom index text = .ok bs ↔ text.map lowered = encode bs := by
  fun_induction decodeFrom index text generalizing bs
  case case1 =>
    cases bs with
    | nil => exact ⟨fun _ => rfl, fun _ => rfl⟩
    | cons b bs => exact ⟨nofun, nofun⟩
  case case2 =>
    refine ⟨nofun, fun hwritten => ?_⟩
    have hlength := congrArg List.length hwritten
    rw [List.length_map, length_encode, List.length_singleton] at hlength
    omega
  case case3 index hi lo rest ih =>
    constructor
    · intro hread
      obtain ⟨h, hhi, hread⟩ := bind_eq_ok_iff.mp hread
      obtain ⟨l, hlo, hread⟩ := bind_eq_ok_iff.mp hread
      obtain ⟨tail, htail, hread⟩ := bind_eq_ok_iff.mp hread
      cases hread
      obtain ⟨hh, hhigh⟩ := digitAt_eq_ok_iff.mp hhi
      obtain ⟨hl, hlow⟩ := digitAt_eq_ok_iff.mp hlo
      rw [encode_cons, encodeOctet_ofNat hh hl, ← ih.mp htail, List.map_cons, List.map_cons,
        hhigh, hlow]
      rfl
    · intro hwritten
      cases bs with
      | nil => cases hwritten
      | cons b bs =>
          obtain ⟨hhigh, hwritten⟩ := List.cons.inj hwritten
          obtain ⟨hlow, hrest⟩ := List.cons.inj hwritten
          rw [digitAt_eq_ok_iff.mpr ⟨div_lt_sixteen b, hhigh⟩,
            digitAt_eq_ok_iff.mpr ⟨Nat.mod_lt _ (by decide), hlow⟩, ih.mpr hrest]
          rw [ok_bind, ok_bind, ok_bind, ofNat_halves]
          rfl

/-- An odd number of digits is what is written for no octets, so the check takes nothing away. -/
theorem decode_octets_eq_ok_iff {text bs : Bytes} :
    decode text = .ok bs ↔ text.map lowered = encode bs := by
  unfold decode
  split
  · rename_i hodd
    refine ⟨nofun, fun hwritten => ?_⟩
    have hlength := congrArg List.length hwritten
    rw [List.length_map, length_encode] at hlength
    omega
  · exact decodeFrom_eq_ok_iff

theorem length_of_decode {text bs : Bytes} (h : decode text = .ok bs) :
    text.length = 2 * bs.length := by
  rw [← length_encode, ← decode_octets_eq_ok_iff.mp h, List.length_map]

theorem mem_encode {bs : Bytes} {c : Char} (h : c ∈ encode bs) : ∃ d < 16, c = digitChar d := by
  obtain ⟨b, -, hc⟩ := List.mem_flatMap.mp h
  rcases List.mem_cons.mp hc with rfl | hc
  · exact ⟨_, div_lt_sixteen b, rfl⟩
  · rw [List.mem_singleton] at hc
    exact ⟨_, Nat.mod_lt _ (by decide), hc⟩

theorem encode_ascii {bs : Bytes} {c : Char} (h : c ∈ encode bs) : c.toNat < 0x80 := by
  obtain ⟨d, hd, rfl⟩ := mem_encode h
  rw [toNat_digitChar hd]
  split <;> omega

theorem map_toLower_encode (bs : Bytes) : (encode bs).map Char.toLower = encode bs := by
  refine (List.map_congr_left fun c hc => ?_).trans (List.map_id _)
  obtain ⟨d, hd, rfl⟩ := mem_encode hc
  exact toLower_digitChar hd

/-- **A text is read as the octets that are written as it in lower case**, and as no others. -/
theorem decode_eq_ok_iff {cs : List Char} {bs : Bytes} :
    decode (Utf8.encode cs) = .ok bs ↔ cs.map Char.toLower = encode bs := by
  rw [decode_octets_eq_ok_iff]
  constructor
  · intro hwritten
    have hascii : ∀ b ∈ Utf8.encode cs, b.toNat < 0x80 := by
      intro b hb
      have hdigit : lowered b ∈ encode bs := hwritten ▸ List.mem_map_of_mem hb
      have hsmall := encode_ascii hdigit
      rw [toNat_lowered] at hsmall
      split at hsmall <;> omega
    rw [Utf8.eq_map_of_encode_ascii rfl hascii, List.map_map, ← hwritten]
    rfl
  · intro hwritten
    have hascii : ∀ c ∈ cs, c.toNat < 0x80 := by
      intro c hc
      have hdigit : c.toLower ∈ encode bs := hwritten ▸ List.mem_map_of_mem hc
      have hsmall := encode_ascii hdigit
      rw [toNat_toLower] at hsmall
      split at hsmall <;> omega
    rw [Utf8.encode_of_ascii hascii, List.map_map, ← hwritten]
    refine List.map_congr_left fun c hc => ?_
    have hsmall := hascii c hc
    have hoctet : (octet c).toNat = c.toNat := Utf8.toNat_ofNat_of_lt (by omega)
    rw [Function.comp, lowered, hoctet, Char.ofNat_toNat]

/-- Octets are told apart by their digits. -/
theorem encode_injective {bs bs' : Bytes} (h : encode bs = encode bs') : bs = bs' := by
  have hread : decode (Utf8.encode (encode bs)) = .ok bs :=
    decode_eq_ok_iff.mpr (map_toLower_encode bs)
  have hread' : decode (Utf8.encode (encode bs)) = .ok bs' :=
    decode_eq_ok_iff.mpr ((map_toLower_encode bs).trans h)
  exact Except.ok.inj (hread.symm.trans hread')

/-! ### Digits of either case and their number -/

/-- The value of a digit: its place among the digits, whatever its letter case. -/
def digitValue (c : Char) : Nat := "0123456789abcdef".toList.idxOf c.toLower

/-- The number that digits write, the first of them counting most. -/
def number (ds : List Char) : Nat := ds.foldl (fun n d => 16 * n + digitValue d) 0

theorem isDigit_iff {c : Char} : isDigit c = true ↔ ∃ d < 16, c.toLower = digitChar d := by
  have hrange : isDigit c = true ↔
      (48 ≤ c.toNat ∧ c.toNat ≤ 57) ∨ (97 ≤ c.toNat ∧ c.toNat ≤ 102) ∨
        (65 ≤ c.toNat ∧ c.toNat ≤ 70) := by
    simp only [isDigit, Bool.or_eq_true, Bool.and_eq_true, decide_eq_true_eq, or_assoc]
    exact Iff.rfl
  rw [hrange]
  constructor
  · intro h
    have hvalue : ∀ d < 16, c.toLower.toNat = (digitChar d).toNat →
        ∃ d < 16, c.toLower = digitChar d :=
      fun d hd heq => ⟨d, hd, Char.toNat_inj.mp heq⟩
    rcases h with h | h | h
    · refine hvalue (c.toNat - 48) (by omega) ?_
      rw [toNat_toLower, toNat_digitChar (by omega), if_neg (by omega), if_pos (by omega)]
      omega
    · refine hvalue (c.toNat - 87) (by omega) ?_
      rw [toNat_toLower, toNat_digitChar (by omega), if_neg (by omega), if_neg (by omega)]
      omega
    · refine hvalue (c.toNat - 55) (by omega) ?_
      rw [toNat_toLower, toNat_digitChar (by omega), if_pos (by omega), if_neg (by omega)]
      omega
  · intro h
    obtain ⟨d, hd, heq⟩ := h
    have hvalue := congrArg Char.toNat heq
    rw [toNat_toLower, toNat_digitChar hd] at hvalue
    split at hvalue <;> split at hvalue <;> omega

theorem isDigit_ascii {c : Char} (h : isDigit c = true) : c.toNat < 0x80 := by
  obtain ⟨d, hd, heq⟩ := isDigit_iff.mp h
  refine ascii_of_toLower ?_
  rw [heq, toNat_digitChar hd]
  split <;> omega

theorem digitValue_digitChar {d : Nat} (h : d < 16) : digitValue (digitChar d) = d := by
  have hall : ∀ e ∈ List.range 16, digitValue (digitChar e) = e := by decide
  exact hall d (List.mem_range.mpr h)

/-- An even number of digits writes octets. -/
theorem exists_encode {k : Nat} {ds : List Char} (hlength : ds.length = 2 * k)
    (hdigits : ∀ d ∈ ds, isDigit d = true) : ∃ bs, ds.map Char.toLower = encode bs := by
  induction k generalizing ds with
  | zero =>
      rw [List.length_eq_zero_iff.mp hlength]
      exact ⟨[], rfl⟩
  | succ k ih =>
      match ds, hlength, hdigits with
      | hi :: lo :: rest, hlength, hdigits =>
          obtain ⟨h, hh, hhigh⟩ := isDigit_iff.mp (hdigits hi List.mem_cons_self)
          obtain ⟨l, hl, hlow⟩ :=
            isDigit_iff.mp (hdigits lo (List.mem_cons_of_mem hi List.mem_cons_self))
          have hrest : rest.length = 2 * k := by
            rw [List.length_cons, List.length_cons] at hlength
            omega
          obtain ⟨bs, hbs⟩ := ih hrest fun d hd =>
            hdigits d (List.mem_cons_of_mem hi (List.mem_cons_of_mem lo hd))
          refine ⟨UInt8.ofNat (16 * h + l) :: bs, ?_⟩
          rw [encode_cons, encodeOctet_ofNat hh hl, List.map_cons, List.map_cons, hhigh, hlow, hbs]
          rfl

theorem toLower_toLower (c : Char) : c.toLower.toLower = c.toLower := by
  refine Char.toNat_inj.mp ?_
  have honce := toNat_toLower c
  have htwice := toNat_toLower c.toLower
  split at honce <;> split at htwice <;> omega

/-- Letter case does not count. -/
theorem number_map_toLower (ds : List Char) : number (ds.map Char.toLower) = number ds := by
  simp only [number, List.foldl_map, digitValue, toLower_toLower]

theorem foldl_encode (n : Nat) (bs : Bytes) :
    (encode bs).foldl (fun n d => 16 * n + digitValue d) n
      = 256 ^ bs.length * n + Bytes.toNat bs := by
  induction bs generalizing n with
  | nil => simp [Bytes.toNat, Bytes.toNatLE]
  | cons b bs ih =>
      have hoctet : (encodeOctet b).foldl (fun n d => 16 * n + digitValue d) n
          = 256 * n + b.toNat := by
        simp only [encodeOctet, List.foldl_cons, List.foldl_nil,
          digitValue_digitChar (div_lt_sixteen b),
          digitValue_digitChar (Nat.mod_lt b.toNat (by decide : 0 < 16))]
        omega
      rw [encode_cons, List.foldl_append, hoctet, ih, Bytes.toNat_cons, List.length_cons,
        Nat.pow_succ, Nat.mul_add, Nat.mul_assoc, Nat.add_assoc]

/-- The digits of octets write the number that the octets write. -/
theorem number_encode (bs : Bytes) : number (encode bs) = Bytes.toNat bs := by
  rw [number, foldl_encode, Nat.mul_zero, Nat.zero_add]

/-- Digits in either case stand for the number of the octets they write. -/
theorem number_of_map_toLower {ds : List Char} {bs : Bytes}
    (h : ds.map Char.toLower = encode bs) : number ds = Bytes.toNat bs := by
  rw [← number_map_toLower, h, number_encode]

end Hex

end ReporterRegistry
