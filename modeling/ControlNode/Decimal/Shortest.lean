import ControlNode.Decimal.Binary

/-!
# The shortest decimal that reads back

Of all decimals that lie in the interval of reals that round to a binary number, `shortest` takes
one with the fewest digits, and of these the nearest to the number. For a growing count of digits
it tests the two neighbours of the number on the grid of decimals with that count: if any point of
the grid lies in the interval, so does one of them.
-/

namespace ControlNode.Decimal

/-- Which of two equally near decimals is taken. -/
inductive Tie where
  | toEven
  | away
deriving DecidableEq, Repr

/-- Decimal digits, the first of which stands for that power of ten. -/
structure Digits where
  digits : List Char
  exponent : Int
deriving DecidableEq, Repr

/-- The number times a power of the base; a power with a negative exponent leaves it. -/
def scaleUp (base : Nat) (power : Int) (n : Nat) : Nat := n * base.pow power.toNat

/-- The numbers around `m * 2 ^ q` in units of a quarter of the last binary place: the lower end of
the interval of reals that round to it, the number itself, and the upper end. -/
structure Interval where
  low : Nat
  value : Nat
  high : Nat
  /-- Whether the ends belong to the interval. -/
  ends : Bool

/-- The interval of a number in quarters of its last place. An even number takes its ends. -/
def Magnitude.interval (x : Magnitude) : Interval :=
  ⟨4 * x.m - if x.narrowBelow then 1 else 2, 4 * x.m, 4 * x.m + 2, x.m % 2 = 0⟩

/-- The count of decimal digits of a number; zero has none. -/
def digitCount (n : Nat) : Nat := if n = 0 then 0 else (Nat.toDigits 10 n).length

/-- The exponent of the first decimal digit of the quotient of two numbers. -/
def leadingExponent (num den : Nat) : Int :=
  if den ≤ num then digitCount (num / den) - 1 else -(digitCount ((den - 1) / num) : Int)

/-- Whether the decimal `c * 10 ^ k` lies in the interval, whose numbers count `1 / unit` of
`10 ^ k`. -/
def Interval.contains (i : Interval) (scale unit : Nat) (c : Nat) : Bool :=
  if i.ends then i.low * scale ≤ c * unit && c * unit ≤ i.high * scale
  else i.low * scale < c * unit && c * unit < i.high * scale

/-- The neighbour of the number on a grid that lies in the interval, the nearer one of two. -/
def Interval.onGrid (i : Interval) (tie : Tie) (scale unit : Nat) : Option Nat :=
  let c := i.value * scale / unit
  match i.contains scale unit c, i.contains scale unit (c + 1) with
  | true, true =>
    let below := i.value * scale - c * unit
    let above := (c + 1) * unit - i.value * scale
    if below < above then some c
    else if above < below then some (c + 1)
    else match tie with
      | .toEven => some (if c % 2 = 0 then c else c + 1)
      | .away => some (c + 1)
  | true, false => some c
  | false, true => some (c + 1)
  | false, false => none

/-- The digits of `c * 10 ^ k` without zeros at the end. -/
def digitsOf (c : Nat) (k : Int) : Digits :=
  let all := Nat.toDigits 10 c
  ⟨(all.reverse.dropWhile (· = '0')).reverse, k + all.length - 1⟩

/-- Tests grids of more and more digits. The last grid is taken whether or not it has a point in the
interval. -/
def searchGrids (i : Interval) (tie : Tie) (q lead : Int) : (grids count : Nat) → Digits
  | 0, count =>
    let k := lead - count
    digitsOf (scaleUp 2 q (scaleUp 10 (-k) i.value) / scaleUp 2 (-q) (scaleUp 10 k 1)) k
  | grids + 1, count =>
    let k := lead - count
    match i.onGrid tie (scaleUp 2 q (scaleUp 10 (-k) 1)) (scaleUp 2 (-q) (scaleUp 10 k 1)) with
    | some c => digitsOf c k
    | none => searchGrids i tie q lead grids (count + 1)

/-- The most digits that a number of double precision needs. -/
def mostDigits : Nat := 17

/-- The shortest decimal that reads back as the number, which is not zero. -/
def Magnitude.shortest (tie : Tie) (x : Magnitude) : Digits :=
  let i := x.interval
  let q := x.q - 2
  searchGrids i tie q (leadingExponent (scaleUp 2 q i.value) (scaleUp 2 (-q) 1)) mostDigits 0

end ControlNode.Decimal
