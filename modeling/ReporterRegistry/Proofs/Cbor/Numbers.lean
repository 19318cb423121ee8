import ReporterRegistry.Cbor.Reader
import ReporterRegistry.Proofs.Octets

/-!
# Reading numbers that were written

Every head that is written is read back with its kind and its argument, in
whichever width the argument was written (`read?_head`). From there, numbers of up
to 128 bits are read back, whether they fit a head or stand in a byte string
under the tag for big numbers (`natural?_encodeNat`).
-/

namespace ReporterRegistry

namespace Cbor

/-! ### Heads -/

theorem split?_append (bs rest : Bytes) : split? bs.length (bs ++ rest) = some (bs, rest) := by
  rw [split?, if_pos (by simp), List.take_left', List.drop_left']
  · rfl
  · rfl

/-- Only heads of the last kind depend on how the argument was written. -/
theorem ofArgument_eq {major : Nat} (hmajor : major < 7) (info n : Nat) :
    Head.ofArgument major info n = Head.ofArgument major 0 n := by
  rcases major with _ | _ | _ | _ | _ | _ | _ | major
  case succ => omega
  all_goals rfl

/-- The first octet of a head gives the kind and how the argument was written. -/
theorem toNat_first {major info : Nat} (hmajor : major < 7) (hinfo : info < 32) :
    (UInt8.ofNat (32 * major + info)).toNat / 32 = major ∧
      (UInt8.ofNat (32 * major + info)).toNat % 32 = info := by
  have hfirst : (UInt8.ofNat (32 * major + info)).toNat = 32 * major + info := by
    rw [UInt8.toNat_ofNat']
    exact Nat.mod_eq_of_lt (by omega)
  rw [hfirst]
  omega

theorem read?_small {major n : Nat} (hmajor : major < 7) (hn : n < 24) (rest : Bytes) :
    Head.read? (UInt8.ofNat (32 * major + n) :: rest) = some (Head.ofArgument major 0 n, rest) := by
  obtain ⟨hkind, hinfo⟩ := toNat_first hmajor (Nat.lt_trans hn (by decide : 24 < 32))
  simp only [Head.read?, hkind, hinfo, if_pos hn, ofArgument_eq hmajor n n]

theorem read?_wide {major info size n : Nat} (hmajor : major < 7) (hinfo : 24 ≤ info ∧ info < 28)
    (hsize : Head.argumentLength? info = some size) (hn : n < 256 ^ size) (rest : Bytes) :
    Head.read? (UInt8.ofNat (32 * major + info) :: Bytes.ofNatBE size n ++ rest)
      = some (Head.ofArgument major 0 n, rest) := by
  obtain ⟨hkind, hinfo'⟩ := toNat_first hmajor (Nat.lt_trans hinfo.2 (by decide : 28 < 32))
  have hsplit : split? size (Bytes.ofNatBE size n ++ rest)
      = some (Bytes.ofNatBE size n, rest) := by
    have happend := split?_append (Bytes.ofNatBE size n) rest
    rwa [Bytes.length_ofNatBE] at happend
  rw [List.cons_append, Head.read?]
  simp only [hkind, hinfo']
  rw [if_neg (by omega), if_neg (by omega)]
  simp only [hsize, hsplit, bind, Option.bind, Bytes.toNat_ofNatBE hn, ofArgument_eq hmajor info n]
  rfl

/-- **A head that was written is read back**, with the octets after it. -/
theorem read?_head {major n : Nat} (hmajor : major < 7) (hn : n < UInt64.size) (rest : Bytes) :
    Head.read? (head major n ++ rest) = some (Head.ofArgument major 0 n, rest) := by
  unfold head
  by_cases h0 : n < 24
  · rw [if_pos h0]
    exact read?_small hmajor h0 rest
  rw [if_neg h0]
  by_cases h1 : n < UInt8.size
  · rw [if_pos h1]
    exact read?_wide hmajor (by decide) rfl h1 rest
  rw [if_neg h1]
  by_cases h2 : n < UInt16.size
  · rw [if_pos h2]
    exact read?_wide hmajor (by decide) rfl h2 rest
  rw [if_neg h2]
  by_cases h4 : n < UInt32.size
  · rw [if_pos h4]
    exact read?_wide hmajor (by decide) rfl h4 rest
  · rw [if_neg h4]
    exact read?_wide hmajor (by decide) rfl hn rest

/-- A head that is not a tag is an item's own. -/
theorem untagged?_of_read? {kept : List Nat} {bs rest : Bytes} {found : Head}
    (h : Head.read? bs = some (found, rest)) (htag : ∀ number, found ≠ .tag number) :
    untagged? kept bs = some (found, rest) := by
  cases bs with
  | nil => cases h
  | cons b bs =>
      rw [untagged?, headBehindTags?, h]
      cases found with
      | tag number => exact absurd rfl (htag number)
      | _ => rfl

theorem untagged?_head {major n : Nat} (kept : List Nat) (hmajor : major < 6) (hn : n < UInt64.size)
    (rest : Bytes) :
    untagged? kept (head major n ++ rest) = some (Head.ofArgument major 0 n, rest) := by
  refine untagged?_of_read? (read?_head (by omega) hn rest) ?_
  intro number htag
  unfold Head.ofArgument at htag
  split at htag <;> first | omega | cases htag

/-- A tag that matters is not passed over. -/
theorem untagged?_bigTag (rest : Bytes) :
    untagged? [bigTag, bigNegativeTag] (head 6 bigTag ++ rest) = some (.tag bigTag, rest) := by
  have hread := read?_head (by decide : 6 < 7) (by decide : bigTag < UInt64.size) rest
  have hcons : head 6 bigTag ++ rest = UInt8.ofNat (32 * 6 + bigTag) :: rest := rfl
  rw [hcons] at hread ⊢
  rw [untagged?, headBehindTags?, hread]
  rfl

/-! ### Numbers -/

/-- A number in a byte string is read back. -/
theorem bigNatural?_octets {n : Nat} (hn : n < 2 ^ 128) (rest : Bytes) :
    bigNatural? (head 2 (Radix.octets n).length ++ Radix.octets n ++ rest) = some (n, rest) := by
  have hlength : (Radix.octets n).length ≤ 16 := Radix.length_octets_le hn
  have hread := read?_head (by decide : 2 < 7)
    (Nat.lt_of_le_of_lt hlength (by decide : 16 < UInt64.size)) (Radix.octets n ++ rest)
  have hdigits : ([Radix.octets n].flatten.dropWhile (· = 0)).length ≤ 16 := by
    rw [List.flatten_singleton]
    exact Nat.le_trans (Bytes.length_dropWhile_le _) hlength
  have hvalue : Bytes.toNat ([Radix.octets n].flatten.dropWhile (· = 0)) = n := by
    rw [List.flatten_singleton, Bytes.toNat_dropWhile, Radix.toNat_octets]
  rw [List.append_assoc, bigNatural?, hread]
  simp only [bind, Option.bind, Head.ofArgument, Head.bytesLength?, content?,
    split?_append, Option.map_some, if_pos hdigits, hvalue]
  rfl

/-- **A number of up to 128 bits is read back.** -/
theorem natural?_encodeNat {n : Nat} (hn : n < 2 ^ 128) (rest : Bytes) :
    natural? (encodeNat n ++ rest) = some (n, rest) := by
  unfold encodeNat
  by_cases hsmall : n < UInt64.size
  · rw [if_pos hsmall, natural?, untagged?_head _ (by decide) hsmall]
    rfl
  · rw [if_neg hsmall, natural?]
    simp only [List.append_assoc]
    rw [untagged?_bigTag]
    have hbig := bigNatural?_octets hn rest
    rw [List.append_assoc] at hbig
    exact hbig

theorem natBelow?_encodeNat {n bound : Nat} (hn : n < 2 ^ 128) (hbound : n < bound)
    (rest : Bytes) : natBelow? bound (encodeNat n ++ rest) = some (n, rest) := by
  rw [natBelow?, natural?_encodeNat hn]
  exact if_pos hbound

theorem octet?_encodeNat (b : UInt8) (rest : Bytes) :
    octet? (encodeNat b.toNat ++ rest) = some (b, rest) := by
  have hb := b.toNat_lt
  rw [octet?, natBelow?_encodeNat (Nat.lt_trans hb (by decide)) hb, Option.map_some]
  simp only [UInt8.ofNat_toNat]

end Cbor

end ReporterRegistry
