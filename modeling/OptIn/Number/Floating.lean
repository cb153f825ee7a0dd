/-!
# Numbers in floating point

Values of fields can be numbers with a fraction. They are kept as a whole number of at most 53
binary digits times a power of two, as infinities, or as no number at all. `Floating.ofDecimal`
takes the nearest such number to a decimal one, and of two equally near ones the one with an even
significand.
-/

namespace OptIn

/-- A number in **floating point**: `significand * 2 ^ exponent` with a sign, an infinity, or the
outcome of a calculation that has none. -/
inductive Floating where
  | finite (negative : Bool) (significand : Nat) (exponent : Int)
  | infinite (negative : Bool)
  | undefined
  deriving DecidableEq, Repr

namespace Floating

/-- The power of ten with so many zeros. -/
def tenTo (n : Nat) : Nat := Nat.pow 10 n

/-- The power of two with so many binary zeros. -/
def twoTo (n : Nat) : Nat := Nat.pow 2 n

/-- The least exponent. -/
def leastExponent : Int := -1074

/-- The greatest exponent. -/
def greatestExponent : Int := 971

/-- A quotient rounded to the nearest whole number, halves to the even one. -/
def nearest (num den : Nat) : Nat :=
  let q := num / den
  let r := num % den
  if 2 * r < den || (2 * r == den && q % 2 == 0) then q else q + 1

/-- A rounded quotient is at most half a unit away from the quotient. -/
theorem nearest_close (num den : Nat) (h : 0 < den) :
    2 * (nearest num den * den) ≤ 2 * num + den ∧ 2 * num ≤ 2 * (nearest num den * den) + den := by
  have sum : den * (num / den) + num % den = num := Nat.div_add_mod num den
  have small : num % den < den := Nat.mod_lt _ h
  have low : num / den * den = den * (num / den) := Nat.mul_comm ..
  have high : (num / den + 1) * den = den * (num / den) + den := by
    rw [Nat.add_mul, Nat.one_mul, Nat.mul_comm]
  simp only [nearest, Bool.or_eq_true, Bool.and_eq_true, decide_eq_true_eq, beq_iff_eq]
  split <;> omega

/-- A quotient in units of a power of two, as numerator and denominator. -/
def inUnits (num den : Nat) (exponent : Int) : Nat × Nat :=
  (num * twoTo (-exponent).toNat, den * twoTo exponent.toNat)

/-- The number nearest to a quotient. -/
def ofRatio (negative : Bool) (num den : Nat) : Floating :=
  if num = 0 then .finite negative 0 leastExponent
  else
    let guess : Int := (num.log2 : Int) - (den.log2 : Int) - 53
    let (n, d) := inUnits num den guess
    let exponent := max (if n / d < twoTo 53 then guess else guess + 1) leastExponent
    let (n, d) := inUnits num den exponent
    let m := nearest n d
    let (m, exponent) := if m = twoTo 53 then (twoTo 52, exponent + 1) else (m, exponent)
    if greatestExponent < exponent then .infinite negative else .finite negative m exponent

/-- The number nearest to `digits * 10 ^ exponent`. -/
def ofDecimal (negative : Bool) (digits : Nat) (exponent : Int) : Floating :=
  let magnitude : Int := ((Nat.repr digits).length : Int) + exponent
  if digits = 0 || magnitude < -400 then .finite negative 0 leastExponent
  else if 400 < magnitude then .infinite negative
  else ofRatio negative (digits * tenTo exponent.toNat) (tenTo (-exponent).toNat)

/-- The value of a number without a fraction. -/
def whole? : Floating → Option Int
  | finite negative significand exponent =>
    let num := significand * twoTo exponent.toNat
    let den := twoTo (-exponent).toNat
    if num % den = 0 then
      some (if negative then -((num / den : Nat) : Int) else ((num / den : Nat) : Int))
    else none
  | _ => none

end Floating

end OptIn
