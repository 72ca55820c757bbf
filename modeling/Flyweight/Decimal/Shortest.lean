import Flyweight.Binary64

/- The shortest decimal that identifies a double-precision number.

   A finite number stands for all the reals that round to it. Among the
   decimals in that interval the shortest ones are kept, and of those the one
   nearest to the number. The search tries one to seventeen digits and, on each
   grid, the two grid points next to the number; every comparison is exact. -/

namespace Flyweight

/-- The decimal `digits * 10 ^ exponent`. -/
structure Decimal where
  digits : Nat
  exponent : Int
  deriving DecidableEq, Repr, Inhabited

namespace Decimal

/-- Which of two equally near decimals is taken. -/
inductive Tie where
  /-- the one with the even last digit -/
  | toEven
  /-- the one farther from zero -/
  | awayFromZero
  deriving DecidableEq, Repr

/-- Compares `a * 10 ^ i` with `b * 2 ^ j`. -/
def compareScaled (a : Nat) (i : Int) (b : Nat) (j : Int) : Ordering :=
  compare (a * Nat.pow 10 i.toNat * Nat.pow 2 (-j).toNat)
    (b * Nat.pow 2 j.toNat * Nat.pow 10 (-i).toNat)

/-- Whether the decimal lies among the reals that round to the magnitude of
`x`: between the midpoints to its neighbours, the midpoints themselves included
when the significand is even. -/
def readsBack (x : Binary64) (d : Decimal) : Bool :=
  let below := if x.narrowBelow then 4 * x.significand - 1 else 4 * x.significand - 2
  let above := 4 * x.significand + 2
  let closed := x.significand % 2 == 0
  let low := compareScaled d.digits d.exponent below (x.exponent - 2)
  let high := compareScaled d.digits d.exponent above (x.exponent - 2)
  (low == .gt || (closed && low == .eq)) && (high == .lt || (closed && high == .eq))

/-- The least `k` with the magnitude of `x` below `10 ^ k`, for `x` not zero. -/
def scale (x : Binary64) : Int :=
  let estimate : Int := Int.fdiv ((x.significand.log2 + x.exponent) * 1233) 4096
  let candidates := (List.range 5).map fun (i : Nat) => estimate - 1 + i
  (candidates.find? fun k => compareScaled 1 k x.significand x.exponent == .gt).getD (estimate + 4)

/-- The integer part of the magnitude of `x` over `10 ^ grid`. -/
def floorOn (x : Binary64) (grid : Int) : Nat :=
  x.significand * Nat.pow 2 x.exponent.toNat * Nat.pow 10 (-grid).toNat /
    (Nat.pow 2 (-x.exponent).toNat * Nat.pow 10 grid.toNat)

/-- The point of the grid `10 ^ grid` that identifies `x`, if one of the two
points next to it does: the nearer one if both do. -/
def onGrid (tie : Tie) (x : Binary64) (grid : Int) : Option Decimal :=
  let lower := floorOn x grid
  let down : Decimal := ⟨lower, grid⟩
  let up : Decimal := ⟨lower + 1, grid⟩
  match readsBack x down, readsBack x up with
  | true, true =>
    match compareScaled (2 * lower + 1) grid (2 * x.significand) x.exponent with
    | .gt => some down
    | .lt => some up
    | .eq =>
      match tie with
      | .toEven => some (if lower % 2 = 0 then down else up)
      | .awayFromZero => some up
  | true, false => some down
  | false, true => some up
  | false, false => none

/-- The decimal without the zeros at the end of its digits; `fuel` bounds their
number. -/
def dropZeros : Nat → Decimal → Decimal
  | 0, d => d
  | fuel + 1, d =>
    if d.digits ≠ 0 ∧ d.digits % 10 = 0 then dropZeros fuel ⟨d.digits / 10, d.exponent + 1⟩ else d

/-- The exact value of a finite number. -/
def exact (x : Binary64) : Decimal :=
  ⟨x.significand * Nat.pow 2 x.exponent.toNat * Nat.pow 5 (-x.exponent).toNat, min x.exponent 0⟩

/-- The shortest decimal that identifies the magnitude of a finite number. -/
def shortest (tie : Tie) (x : Binary64) : Decimal :=
  if x.isZero then ⟨0, 0⟩
  else
    let k := scale x
    let found := (List.range 17).findSome? fun (n : Nat) => onGrid tie x (k - (n + 1))
    dropZeros 400 (found.getD (exact x))

end Decimal

end Flyweight
