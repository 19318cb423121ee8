import ReporterRegistry.Bytes
import ReporterRegistry.Ed25519.Field

/-!
# Points of the curve

The curve is `-x² + y² = 1 + d x² y²` over the field of `Ed25519.Field`. A point
is kept as a triple `(X : Y : Z)` for `x = X / Z` and `y = Y / Z`; the addition
law is complete, so one formula serves for all sums and doublings.

A compressed point is the octets of `y`, least significant first, with the
lowest bit of `x` in the top bit. Octets stand for a point exactly if the `y`
they write (the top bit aside, and reduced if it is not below the prime) has an
`x` to go with it: `x² = (y² - 1) / (d y² + 1)`, and a quotient is a square
exactly if the product of its two sides is.
-/

namespace ReporterRegistry

namespace Ed25519

open Ed25519.Field

/-- The coefficient of the curve. -/
def d : Nat := 37095705934669439343138083508754565189542113879843219016388785533085940283555

/-- Whether some point of the curve has `y` as its second coordinate. -/
def hasPoint (y : Nat) : Bool :=
  let square := mul y y
  isSquare (mul (sub square 1) (add (mul d square) 1))

/-- The second coordinate in the octets of a compressed point. -/
def ordinate (bs : Bytes) : Nat := bs.toNatLE % (1 <<< 255)

/-- Whether 32 octets are a compressed point. -/
def isOnCurve (bs : Bytes) : Bool := hasPoint (ordinate bs)

/-- A point in projective coordinates. -/
structure Point where
  x : Nat
  y : Nat
  z : Nat
  deriving DecidableEq, Repr

namespace Point

/-- The neutral element. -/
def neutral : Point := ⟨0, 1, 1⟩

/-- The point that generates the group of the signature scheme. -/
def generator : Point where
  x := 15112221349535400772501151409588531511454012693041857206046113283949847762202
  y := 46316835694926478169428394003475163141307993866256225615783033603165251855960
  z := 1

/-- The sum of two points. -/
def add (p q : Point) : Point :=
  -- The addition law of the curve is complete: no pair of points is a special case.
  let a := mul p.z q.z
  let b := mul a a
  let c := mul p.x q.x
  let e := mul p.y q.y
  let cross := mul d (mul c e)
  let f := sub b cross
  let g := Field.add b cross
  let mixed := sub (sub (mul (Field.add p.x p.y) (Field.add q.x q.y)) c) e
  ⟨mul a (mul f mixed), mul a (mul g (Field.add e c)), mul f g⟩

/-- A multiple of a point. -/
def scale (n : Nat) (p : Point) : Point :=
  if n = 0 then neutral
  else
    let rest := scale (n / 2) (p.add p)
    if n % 2 = 1 then p.add rest else rest
termination_by n
decreasing_by exact Nat.div_lt_self (by omega) (by omega)

/-- The number whose octets compress a point. -/
def compress (p : Point) : Nat :=
  let w := inv p.z
  mul p.y w + (1 <<< 255) * (mul p.x w % 2)

end Point

end Ed25519

end ReporterRegistry
