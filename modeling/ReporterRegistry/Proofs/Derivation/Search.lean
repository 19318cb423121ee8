import Mathlib.Order.Bounds.Defs
import ReporterRegistry.Proofs.Derivation.OffCurve

/-!
# The search for a bump

`ProgramAddress.find` goes down from the highest bump and stops at the first address that
is created. Only a point of the curve sends it on; every other error ends it.

The limits on the segments do not depend on the bump, which is one more segment of one
octet. So either the first attempt meets a limit (`create_of_overlong`), or none does and
an attempt fails on the curve only (`Fits.create_push`). In the second case what was skipped is
what lies above the bump that is found (`Fits.findFrom_cases`).
-/

namespace ReporterRegistry

namespace ProgramAddress

open Ed25519

variable {segments : List Bytes} {program : PublicKey}

/-! ### One bump -/

/-- Segments that keep to the limits and leave room for a bump. -/
structure Fits (segments : List Bytes) : Prop where
  room : segments.length < maxSegments
  short : ∀ segment ∈ segments, segment.length ≤ maxSegmentLength

/-- An address is created with the bump. -/
def Usable (segments : List Bytes) (program : PublicKey) (bump : Nat) : Prop :=
  ∃ address, create (segments ++ [[UInt8.ofNat bump]]) program = .ok address

theorem overlong?_eq_none_iff :
    overlong? segments = none ↔ ∀ segment ∈ segments, segment.length ≤ maxSegmentLength := by
  simp [overlong?]

/-- The first segment that is too long has none before it. -/
theorem overlong?_append_cons {front rest : List Bytes} {segment : Bytes}
    (hfront : ∀ other ∈ front, other.length ≤ maxSegmentLength)
    (hlong : maxSegmentLength < segment.length) :
    overlong? (front ++ segment :: rest) = some segment := by
  rw [overlong?, List.find?_append, ← overlong?, overlong?_eq_none_iff.mpr hfront, Option.none_or]
  exact List.find?_cons_of_pos (decide_eq_true hlong)

/-- A bump is never too long. -/
theorem overlong?_push (segments : List Bytes) (bump : UInt8) :
    overlong? (segments ++ [[bump]]) = overlong? segments := by
  have hbump : overlong? [[bump]] = none := by simp [overlong?, maxSegmentLength]
  rw [overlong?, List.find?_append, ← overlong?, ← overlong?, hbump, Option.or_none]

theorem not_full_push (h : segments.length < maxSegments) (bump : UInt8) :
    ¬ maxSegments < (segments ++ [[bump]]).length := by
  rw [List.length_append, List.length_singleton]
  exact Nat.not_lt.mpr h

/-- Within the limits, the curve alone decides about a bump. -/
theorem Fits.create_push (h : Fits segments) (program : PublicKey) (bump : UInt8) :
    create (segments ++ [[bump]]) program
      = if isOnCurve (candidate (segments ++ [[bump]]) program).bytes then .error .onCurve
        else .ok (candidate (segments ++ [[bump]]) program) := by
  have hshort : overlong? (segments ++ [[bump]]) = none := by
    rw [overlong?_push, overlong?_eq_none_iff]
    exact h.short
  rw [create, if_neg (not_full_push h.room bump), hshort]

/-- A segment that is too long is reported whatever the bump is. -/
theorem create_of_overlong {segment : Bytes} (hroom : segments.length < maxSegments)
    (hlong : overlong? segments = some segment) (program : PublicKey) (bump : UInt8) :
    create (segments ++ [[bump]]) program = .error (.segmentTooLong segment.length) := by
  rw [create, if_neg (not_full_push hroom bump), overlong?_push, hlong]

/-- A bump is usable if it does not lead to a point of the curve. -/
theorem Fits.usable_iff (h : Fits segments) {bump : Nat} :
    Usable segments program bump ↔
      isOnCurve (candidate (segments ++ [[UInt8.ofNat bump]]) program).bytes = false := by
  rw [Usable, h.create_push]
  cases isOnCurve (candidate (segments ++ [[UInt8.ofNat bump]]) program).bytes <;> simp

/-! ### All bumps -/

/-- The search ends with the highest usable bump, or it has seen that there is none. -/
theorem Fits.findFrom_cases (h : Fits segments) (program : PublicKey) (start : Nat) :
    (∃ found, findFrom segments program start = .ok found ∧
      IsGreatest {bump | (1 ≤ bump ∧ bump ≤ start) ∧ Usable segments program bump} found.bump) ∨
    (findFrom segments program start = .error .bumpsExhausted ∧
      ∀ bump, 1 ≤ bump → bump ≤ start → ¬ Usable segments program bump) := by
  induction start with
  | zero => exact Or.inr ⟨rfl, fun bump hlow hhigh => absurd hhigh (Nat.not_le_of_lt hlow)⟩
  | succ start ih =>
      rw [findFrom, h.create_push]
      cases hcurve : isOnCurve
          (candidate (segments ++ [[UInt8.ofNat (start + 1)]]) program).bytes with
      | false =>
          have husable := h.usable_iff.mpr hcurve
          exact Or.inl ⟨_, rfl, ⟨⟨Nat.le_add_left 1 start, Nat.le_refl _⟩, husable⟩,
            fun bump hbump => hbump.1.2⟩
      | true =>
          have hskipped : ¬ Usable segments program (start + 1) := by
            rw [h.usable_iff, hcurve]
            decide
          -- What lies at or below the bump that was skipped and is usable lies below it.
          have hbelow : ∀ bump, bump ≤ start + 1 → Usable segments program bump → bump ≤ start := by
            intro bump hbump husable
            refine Nat.le_of_lt_succ (Nat.lt_of_le_of_ne hbump ?_)
            intro heq
            rw [heq] at husable
            exact hskipped husable
          cases ih with
          | inl hfound =>
              obtain ⟨found, hfound, hmem, hmax⟩ := hfound
              refine Or.inl ⟨found, hfound, ?_, ?_⟩
              · exact ⟨⟨hmem.1.1, Nat.le_succ_of_le hmem.1.2⟩, hmem.2⟩
              · intro bump hbump
                exact hmax ⟨⟨hbump.1.1, hbelow bump hbump.1.2 hbump.2⟩, hbump.2⟩
          | inr hnone =>
              refine Or.inr ⟨hnone.1, ?_⟩
              intro bump hlow hhigh husable
              exact hnone.2 bump hlow (hbelow bump hhigh husable) husable

theorem find_of_full (h : maxSegments ≤ segments.length) (program : PublicKey) :
    find segments program = .error (.tooManySegments (segments.length + 1)) := by
  rw [find, if_pos (Nat.lt_succ_of_le h)]

theorem find_of_room (h : segments.length < maxSegments) (program : PublicKey) :
    find segments program = findFrom segments program 255 := by
  rw [find, if_neg (Nat.not_lt.mpr h)]

/-- The first segment that is too long ends the search at the first bump. -/
theorem find_of_overlong {segment : Bytes} (hroom : segments.length < maxSegments)
    (hlong : overlong? segments = some segment) (program : PublicKey) :
    find segments program = .error (.segmentTooLong segment.length) := by
  rw [find_of_room hroom, findFrom, create_of_overlong hroom hlong]

/-- Within the limits the search ends with the highest usable bump, or it has seen all bumps. -/
theorem Fits.find_cases (h : Fits segments) (program : PublicKey) :
    (∃ found, find segments program = .ok found ∧
      IsGreatest {bump | (1 ≤ bump ∧ bump ≤ 255) ∧ Usable segments program bump} found.bump) ∨
    (find segments program = .error .bumpsExhausted ∧
      ∀ bump, 1 ≤ bump → bump ≤ 255 → ¬ Usable segments program bump) := by
  rw [find_of_room h.room]
  exact h.findFrom_cases program 255

/-- What is found within the limits is the address of the highest usable bump. -/
theorem Fits.find_eq_ok_iff (h : Fits segments) {found : DerivedAddress} :
    find segments program = .ok found ↔
      IsGreatest {bump | (1 ≤ bump ∧ bump ≤ 255) ∧ Usable segments program bump} found.bump ∧
        create (segments ++ [[UInt8.ofNat found.bump]]) program = .ok found.address := by
  cases h.find_cases program with
  | inl hcase =>
      obtain ⟨found', hfound', hgreatest'⟩ := hcase
      constructor
      · intro hfound
        have hsame := Except.ok.inj (hfound'.symm.trans hfound)
        exact ⟨hsame ▸ hgreatest', create_of_find hfound⟩
      · intro hspec
        obtain ⟨hgreatest, hcreate⟩ := hspec
        have hbump : found'.bump = found.bump :=
          Nat.le_antisymm (hgreatest.2 hgreatest'.1) (hgreatest'.2 hgreatest.1)
        have haddress : found'.address = found.address := by
          have hcreate' := create_of_find hfound'
          rw [hbump, hcreate] at hcreate'
          exact (Except.ok.inj hcreate').symm
        cases found
        cases found'
        cases hbump
        cases haddress
        exact hfound'
  | inr hcase =>
      obtain ⟨hnone, hall⟩ := hcase
      rw [hnone]
      constructor
      · nofun
      · intro hspec
        obtain ⟨⟨hrange, husable⟩, -⟩ := hspec.1
        exact absurd husable (hall _ hrange.1 hrange.2)

/-- The search is exhausted if and only if every bump leads to a point of the curve. -/
theorem Fits.find_eq_exhausted_iff (h : Fits segments) :
    find segments program = .error .bumpsExhausted ↔
      ∀ bump, 1 ≤ bump → bump ≤ 255 →
        isOnCurve (candidate (segments ++ [[UInt8.ofNat bump]]) program).bytes = true := by
  have hcurve : ∀ bump, ¬ Usable segments program bump ↔
      isOnCurve (candidate (segments ++ [[UInt8.ofNat bump]]) program).bytes = true := by
    intro bump
    rw [h.usable_iff, Bool.not_eq_false]
  simp only [← hcurve]
  cases h.find_cases program with
  | inl hcase =>
      obtain ⟨found, hfound, ⟨hrange, husable⟩, -⟩ := hcase
      rw [hfound]
      exact ⟨nofun, fun hall => absurd husable (hall _ hrange.1 hrange.2)⟩
  | inr hcase => exact ⟨fun _ => hcase.2, fun _ => hcase.1⟩

/-- The search meets the limit on the number of segments, or that on their length, or none. -/
theorem limits_cases (segments : List Bytes) :
    maxSegments ≤ segments.length ∨
      (segments.length < maxSegments ∧ ∃ segment, overlong? segments = some segment) ∨
      Fits segments := by
  by_cases hroom : segments.length < maxSegments
  · cases hlong : overlong? segments with
    | some segment => exact Or.inr (Or.inl ⟨hroom, segment, rfl⟩)
    | none => exact Or.inr (Or.inr ⟨hroom, overlong?_eq_none_iff.mp hlong⟩)
  · exact Or.inl (Nat.not_lt.mp hroom)

/-- A point of the curve is never what the search reports. -/
theorem find_ne_onCurve (segments : List Bytes) (program : PublicKey) :
    find segments program ≠ .error .onCurve := by
  rcases limits_cases segments with hfull | ⟨hroom, segment, hlong⟩ | hfits
  · rw [find_of_full hfull]
    nofun
  · rw [find_of_overlong hroom hlong]
    nofun
  · rcases hfits.find_cases program with ⟨found, hfound, -⟩ | ⟨hnone, -⟩
    · rw [hfound]
      nofun
    · rw [hnone]
      nofun

/-- The bumps that are found are those that are tried. -/
theorem bump_of_find {found : DerivedAddress} (h : find segments program = .ok found) :
    1 ≤ found.bump ∧ found.bump ≤ 255 := by
  rcases limits_cases segments with hfull | ⟨hroom, segment, hlong⟩ | hfits
  · rw [find_of_full hfull] at h
    cases h
  · rw [find_of_overlong hroom hlong] at h
    cases h
  · exact (hfits.find_eq_ok_iff.mp h).1.1.1

/-- **The address with the highest bump is found.** With more than 15 segments the search
reports their number, the bump included; otherwise with a segment of more than 32 octets it
reports the length of the first one. Within these limits it finds the highest bump from 255
down to 1 with which an address is created, and that address, which is no point of the
curve; it is exhausted if and only if all of them lead to points of the curve. It never
reports a point of the curve and never finds the bump 0. -/
theorem highest_bump_found (segments : List Bytes) (program : PublicKey) :
    (15 < segments.length →
      find segments program = .error (.tooManySegments (segments.length + 1))) ∧
    (segments.length ≤ 15 →
      (∀ front segment rest, segments = front ++ segment :: rest →
        (∀ other ∈ front, other.length ≤ 32) → 32 < segment.length →
          find segments program = .error (.segmentTooLong segment.length)) ∧
      ((∀ segment ∈ segments, segment.length ≤ 32) →
        (∀ found, find segments program = .ok found ↔
          IsGreatest {bump | (1 ≤ bump ∧ bump ≤ 255) ∧ Usable segments program bump} found.bump ∧
            create (segments ++ [[UInt8.ofNat found.bump]]) program = .ok found.address) ∧
        (find segments program = .error .bumpsExhausted ↔
          ∀ bump, 1 ≤ bump → bump ≤ 255 →
            isOnCurve (candidate (segments ++ [[UInt8.ofNat bump]]) program).bytes = true) ∧
        ((∃ found, find segments program = .ok found) ∨
          find segments program = .error .bumpsExhausted))) ∧
    find segments program ≠ .error .onCurve ∧
    ∀ found, find segments program = .ok found →
      found.bump ≠ 0 ∧ isOnCurve found.address.bytes = false := by
  refine ⟨?full, ?room, find_ne_onCurve segments program, ?found⟩
  case full =>
    intro hfull
    exact find_of_full hfull program
  case room =>
    intro hroom
    refine ⟨?overlong, ?fits⟩
    case overlong =>
      intro front segment rest hsplit hfront hlong
      have hfirst : overlong? segments = some segment := by
        rw [hsplit]
        exact overlong?_append_cons hfront hlong
      exact find_of_overlong (Nat.lt_succ_of_le hroom) hfirst program
    case fits =>
      intro hshort
      have hfits : Fits segments := ⟨Nat.lt_succ_of_le hroom, hshort⟩
      refine ⟨fun found => hfits.find_eq_ok_iff, hfits.find_eq_exhausted_iff, ?_⟩
      rcases hfits.find_cases program with ⟨found, hfound, -⟩ | ⟨hnone, -⟩
      · exact Or.inl ⟨found, hfound⟩
      · exact Or.inr hnone
  case found =>
    intro found hfound
    have hbump := (bump_of_find hfound).1
    exact ⟨Nat.ne_of_gt hbump, isOnCurve_of_create (create_of_find hfound)⟩

/-- Sixteen segments and a segment of 33 octets are refused. The segment of one zero leads
to a point of the curve with the bump 255, so 254 is found. -/
theorem highest_bump_found_sample :
    find (List.replicate 16 []) .zero = .error (.tooManySegments 17) ∧
      find [[1], List.replicate 33 0, List.replicate 40 0] .zero = .error (.segmentTooLong 33) ∧
      find [[0]] .zero = .ok ⟨candidate [[0], [254]] .zero, 254⟩ := by
  refine ⟨?full, ?overlong, ?skipped⟩
  case full => exact (highest_bump_found (List.replicate 16 []) .zero).1 (by decide)
  case overlong =>
    exact ((highest_bump_found _ _).2.1 (by decide)).1 [[1]] (List.replicate 33 0)
      [List.replicate 40 0] rfl (by decide) (by decide)
  case skipped =>
    have hcreate : create [[0], [254]] .zero = .ok (candidate [[0], [254]] .zero) :=
      create_eq_ok_iff.mpr ⟨by decide, by decide, by decide +kernel, rfl⟩
    have hcurve : isOnCurve (candidate [[0], [255]] .zero).bytes = true := by decide +kernel
    have hspec := (((highest_bump_found [[0]] .zero).2.1 (by decide)).2 (by decide)).1
      ⟨candidate [[0], [254]] .zero, 254⟩
    refine hspec.mpr ⟨⟨⟨by decide, _, hcreate⟩, ?_⟩, hcreate⟩
    intro bump hbump
    obtain ⟨⟨-, hhigh⟩, address, haddress⟩ := hbump
    -- A higher bump could only be the one that leads to the curve.
    refine Nat.le_of_lt_succ (Nat.lt_of_le_of_ne hhigh ?_)
    intro hlast
    rw [hlast] at haddress
    obtain ⟨-, -, hoff, -⟩ := create_eq_ok_iff.mp haddress
    exact Bool.false_ne_true (hoff.symm.trans hcurve)

end ProgramAddress

end ReporterRegistry
