import ReporterRegistry.Derivation.ProgramAddress
import ReporterRegistry.Ed25519.Keypair
import ReporterRegistry.Proofs.Derivation.Messages
import ReporterRegistry.Proofs.Ed25519.Curve
import ReporterRegistry.Proofs.Octets

/-!
# No key pair signs for a derived address

The public key of a seed compresses a multiple of the generator. That is a point of the
curve, so the curve test accepts the key, whatever the hash of the seed is. A derived
address was refused by the same test. The two are never equal
(`publicKey_ne_derived`).
-/

namespace ReporterRegistry

/-! ### Public keys -/

namespace Ed25519

/-- **Every public key is a point of the curve.** -/
theorem isOnCurve_publicKey (seed : Bytes) : isOnCurve (publicKey seed).bytes = true := by
  obtain ⟨_, hgenerator⟩ := Point.exists_represents_generator
  obtain ⟨p, hp⟩ := hgenerator.exists_scale (scalar seed)
  have hwritten : (publicKey seed).bytes.toNatLE
      = (Point.scale (scalar seed) Point.generator).compress :=
    Bytes.toNatLE_ofNatLE (Point.compress_lt _)
  rw [isOnCurve, hasPoint_iff, ordinate, hwritten]
  exact ⟨p, hp.cast_compress.symm⟩

/-- A key that the curve test refuses is the public key of no seed. -/
theorem publicKey_ne_of_isOnCurve_eq_false {key : PublicKey}
    (h : isOnCurve key.bytes = false) (seed : Bytes) : publicKey seed ≠ key := by
  rintro rfl
  rw [isOnCurve_publicKey] at h
  cases h

end Ed25519

/-! ### Derived addresses -/

namespace ProgramAddress

open Ed25519

/-- An address is created if the limits on the segments are kept and the curve test
refuses their hash, and in no other case. -/
theorem create_eq_ok_iff {segments : List Bytes} {program address : PublicKey} :
    create segments program = .ok address ↔
      segments.length ≤ maxSegments ∧ overlong? segments = none ∧
        isOnCurve (candidate segments program).bytes = false ∧
        candidate segments program = address := by
  unfold create
  by_cases hcount : maxSegments < segments.length
  · simp [hcount, Nat.not_le.mpr hcount]
  cases hlong : overlong? segments with
  | some segment => simp [hcount]
  | none =>
      cases hcurve : isOnCurve (candidate segments program).bytes <;>
        simp [hcount, Nat.not_lt.mp hcount, hcurve]

theorem isOnCurve_of_create {segments : List Bytes} {program address : PublicKey}
    (h : create segments program = .ok address) : isOnCurve address.bytes = false := by
  obtain ⟨-, -, hoff, rfl⟩ := create_eq_ok_iff.mp h
  exact hoff

/-- An address is found only if it is created with its bump. -/
theorem create_of_find {segments : List Bytes} {program : PublicKey} {found : DerivedAddress}
    (h : find segments program = .ok found) :
    create (segments ++ [[UInt8.ofNat found.bump]]) program = .ok found.address := by
  unfold find at h
  split at h
  · cases h
  · exact create_of_findFrom h

/-- The first bump that is tried is taken if an address is created with it. -/
theorem findFrom_of_create {segments : List Bytes} {program address : PublicKey} {bump : Nat}
    (h : create (segments ++ [[UInt8.ofNat (bump + 1)]]) program = .ok address) :
    findFrom segments program (bump + 1) = .ok ⟨address, bump + 1⟩ := by
  simp only [findFrom, h]

/-- **No key pair can sign for a derived address.** The curve test accepts the public key
of every seed. It refuses every address that is created or found, which is therefore the
public key of no seed. -/
theorem publicKey_ne_derived (segments : List Bytes) (program : PublicKey) :
    (∀ seed : Bytes, isOnCurve (publicKey seed).bytes = true) ∧
    (∀ address, create segments program = .ok address →
      isOnCurve address.bytes = false ∧ ∀ seed : Bytes, publicKey seed ≠ address) ∧
    ∀ found, find segments program = .ok found →
      isOnCurve found.address.bytes = false ∧ ∀ seed : Bytes, publicKey seed ≠ found.address := by
  refine ⟨isOnCurve_publicKey, ?_, ?_⟩
  · intro address h
    have hoff := isOnCurve_of_create h
    exact ⟨hoff, publicKey_ne_of_isOnCurve_eq_false hoff⟩
  · intro found h
    have hoff := isOnCurve_of_create (create_of_find h)
    exact ⟨hoff, publicKey_ne_of_isOnCurve_eq_false hoff⟩

/-- Two addresses of the all-zero program, one created and one found, and a seed whose key
is neither. -/
theorem publicKey_ne_derived_sample :
    create [[1]] .zero = .ok (candidate [[1]] .zero) ∧
      find [] .zero = .ok ⟨candidate [[255]] .zero, 255⟩ ∧
      publicKey PublicKey.zero.bytes ≠ candidate [[1]] .zero ∧
      publicKey PublicKey.zero.bytes ≠ candidate [[255]] .zero := by
  have hcreate : create [[1]] .zero = .ok (candidate [[1]] .zero) :=
    create_eq_ok_iff.mpr ⟨by decide, by decide, by decide +kernel, rfl⟩
  have hlast : create ([] ++ [[255]]) .zero = .ok (candidate [[255]] .zero) :=
    create_eq_ok_iff.mpr ⟨by decide, by decide, by decide +kernel, rfl⟩
  have hfind : find [] .zero = .ok ⟨candidate [[255]] .zero, 255⟩ := by
    rw [find, if_neg (by decide)]
    exact findFrom_of_create hlast
  refine ⟨hcreate, hfind, ?_, ?_⟩
  · exact ((publicKey_ne_derived [[1]] .zero).2.1 _ hcreate).2 _
  · exact ((publicKey_ne_derived [] .zero).2.2 _ hfind).2 _

end ProgramAddress

end ReporterRegistry
