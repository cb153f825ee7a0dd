import OptIn.Number.Floating

/-!
# The shortest text of a number

A number in floating point is written with the fewest decimal digits that still tell it from its
neighbours. The numbers that round to it form an interval, ends included when the significand is
even; on the grids of one, two, three and more decimal digits in turn, the two neighbours of the
number are tried until one lies in the interval. `Floating.text` lays the digits out: positionally
from `0.0001` up to sixteen digits before the point, and else with an exponent.
-/

namespace OptIn.Floating

/-- The interval of what rounds to a number, in quarters of its last binary place: the lower end,
the number, and the upper end. Below a power of two the neighbour is only half as far away. -/
structure Interval where
  low : Nat
  middle : Nat
  high : Nat
  closed : Bool
  deriving DecidableEq, Repr

/-- The interval of a number. -/
def interval (significand : Nat) (exponent : Int) : Interval where
  low := if significand = twoTo 52 && leastExponent < exponent then 4 * significand - 1
    else 4 * significand - 2
  middle := 4 * significand
  high := 4 * significand + 2
  closed := significand % 2 = 0

/-- What a unit of a decimal grid and a quarter of a binary place weigh on one scale. -/
structure Scale where
  unit : Nat
  quarter : Nat
  deriving DecidableEq, Repr

/-- The scale for the grid of a power of ten and the quarters of a power of two. -/
def scale (tens : Int) (exponent : Int) : Scale where
  unit := tenTo tens.toNat * twoTo (2 - exponent).toNat
  quarter := twoTo (exponent - 2).toNat * tenTo (-tens).toNat

/-- Whether so many units lie in the interval. -/
def Interval.holds (i : Interval) (s : Scale) (units : Nat) : Bool :=
  let x := units * s.unit
  (i.low * s.quarter < x || (i.closed && i.low * s.quarter == x)) &&
    (x < i.high * s.quarter || (i.closed && x == i.high * s.quarter))

/-- The units of a grid that stand for the number: of the two neighbours of the number the one in
the interval, or of both in it the nearer one, the even one when both are equally near. -/
def Interval.onGrid? (i : Interval) (s : Scale) : Option Nat :=
  let below := i.middle * s.quarter / s.unit
  let above := below + 1
  match i.holds s below, i.holds s above with
  | true, false => some below
  | false, true => some above
  | false, false => none
  | true, true =>
    let twice := 2 * (i.middle * s.quarter)
    let sum := (below + above) * s.unit
    some (if twice < sum || (twice == sum && below % 2 == 0) then below else above)

/-- What is found on a grid lies in the interval. -/
theorem Interval.holds_of_onGrid? {i : Interval} {s : Scale} {units : Nat}
    (h : i.onGrid? s = some units) : i.holds s units = true := by
  simp only [Interval.onGrid?] at h
  split at h
  · next below _ => cases h; exact below
  · next _ above => cases h; exact above
  · cases h
  · next below above =>
    cases h
    split
    · exact below
    · exact above

/-- How many digits a number has before its point, counted below zero by the zeros behind it. -/
def magnitude (significand : Nat) (exponent : Int) : Int :=
  let fits (k : Int) : Bool :=
    4 * significand * (scale k exponent).quarter < (scale k exponent).unit
  (((List.range 700).map fun i : Nat => (i : Int) - 350).find? fits).getD 350

/-- Digits without the zeros at their end, and the power of ten of the last one. -/
def dropZeros : Nat → Nat → Int → Nat × Int
  | 0, digits, tens => (digits, tens)
  | fuel + 1, digits, tens =>
    if digits % 10 = 0 && digits ≠ 0 then dropZeros fuel (digits / 10) (tens + 1)
    else (digits, tens)

/-- The fewest digits that tell a number from its neighbours, and the power of ten of the last
one. -/
def shortest (significand : Nat) (exponent : Int) : Nat × Int :=
  let i := interval significand exponent
  let k := magnitude significand exponent
  let found := (List.range 17).findSome? fun n : Nat =>
    let tens := k - ((n : Int) + 1)
    (i.onGrid? (scale tens exponent)).map fun units => dropZeros 20 units tens
  found.getD (significand * twoTo exponent.toNat, 0)

/-- So many zeros. -/
def zeros (n : Int) : String := String.ofList (List.replicate n.toNat '0')

/-- Digits with the point behind the first `place` of them. -/
def layOut (digits : String) (place : Int) : String :=
  let n : Int := digits.length
  if -4 < place && place ≤ 16 then
    if place ≤ 0 then "0." ++ zeros (-place) ++ digits
    else if n ≤ place then digits ++ zeros (place - n) ++ ".0"
    else
      String.ofList (digits.toList.take place.toNat) ++ "." ++
        String.ofList (digits.toList.drop place.toNat)
  else
    let first := String.ofList (digits.toList.take 1)
    let others := String.ofList (digits.toList.drop 1)
    let power := toString (place - 1).natAbs
    first ++ (if others.isEmpty then "" else "." ++ others) ++ "e" ++
      (if place - 1 < 0 then "-" else "+") ++ (if power.length < 2 then "0" else "") ++ power

/-- The text of a number. -/
def text : Floating → String
  | undefined => "nan"
  | infinite negative => if negative then "-inf" else "inf"
  | finite negative significand exponent =>
    (if negative then "-" else "") ++
      if significand = 0 then "0.0"
      else
        let (digits, tens) := shortest significand exponent
        let written := Nat.repr digits
        layOut written ((written.length : Int) + tens)

end OptIn.Floating
