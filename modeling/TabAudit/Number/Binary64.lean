/-!
# Floating-point numbers

A floating-point number is kept as its 64 bits. A finite one is a whole number of at most 53 bits
times a power of two; `Binary64.ofRatio` is the one nearest to a fraction, where of two nearest
ones the even one counts.
-/

namespace TabAudit

/-- A floating-point number of 64 bits. -/
structure Binary64 where
  bits : UInt64
  deriving DecidableEq, Repr

namespace Binary64

/-- Whether the sign bit is set. -/
def negative (x : Binary64) : Bool := Nat.pow 2 63 ≤ x.bits.toNat

/-- The bits of the exponent. -/
def exponentField (x : Binary64) : Nat := x.bits.toNat / Nat.pow 2 52 % Nat.pow 2 11

/-- The bits of the fraction. -/
def fractionField (x : Binary64) : Nat := x.bits.toNat % Nat.pow 2 52

def isInfinite (x : Binary64) : Bool := x.exponentField = 2047 && x.fractionField = 0

def isNaN (x : Binary64) : Bool := x.exponentField = 2047 && x.fractionField ≠ 0

/-- The whole number in a finite one. -/
def mantissa (x : Binary64) : Nat :=
  if x.exponentField = 0 then x.fractionField else Nat.pow 2 52 + x.fractionField

/-- The power of two in a finite one. -/
def scale (x : Binary64) : Int := (max x.exponentField 1 : Nat) - 1075

/-- A number from its sign and the rest of its bits. -/
def ofFields (negative : Bool) (rest : Nat) : Binary64 :=
  ⟨((if negative then Nat.pow 2 63 else 0) + rest).toUInt64⟩

def infinity (negative : Bool) : Binary64 := ofFields negative (2047 * Nat.pow 2 52)

/-- A not-a-number. There are many, told apart by what is left of their fraction. -/
def notANumberOf (own : Nat) : Binary64 :=
  ofFields false (2047 * Nat.pow 2 52 + Nat.pow 2 51 + own % Nat.pow 2 51)

/-- The not-a-number that has a name. -/
def notANumber : Binary64 := notANumberOf 0

def zero (negative : Bool) : Binary64 := ofFields negative 0

def isZero (x : Binary64) : Bool := x.exponentField = 0 && x.fractionField = 0

/-! ## Fractions -/

/-- The fraction of two numbers times a power of two, as two numbers. -/
def scaled (num den : Nat) (power : Int) : Nat × Nat :=
  if power < 0 then (num, den * Nat.pow 2 power.natAbs) else (num * Nat.pow 2 power.toNat, den)

/-- The whole number nearest to a fraction, the even one of two. -/
def nearest (num den : Nat) : Nat :=
  let whole := num / den
  let twice := 2 * (num % den)
  if twice < den then whole
  else if den < twice then whole + 1
  else whole + whole % 2

/-- The power of two that gives a fraction's whole number its 53 bits, or the least there is. -/
def scaleFor (num den : Nat) : Int :=
  let guess : Int := (num.log2 : Int) - den.log2
  let (n, d) := scaled num den (-guess)
  max ((if n < d then guess - 1 else guess) - 52) (-1074)

/-- The number nearest to a fraction. -/
def ofRatio (negative : Bool) (num den : Nat) : Binary64 :=
  if num = 0 then zero negative
  else
    let q := scaleFor num den
    let (n, d) := scaled num den (-q)
    let rest := (q + 1074).toNat * Nat.pow 2 52 + nearest n d
    if 2047 * Nat.pow 2 52 ≤ rest then infinity negative else ofFields negative rest

/-- The number nearest to a decimal fraction. Fractions far outside the range are not computed. -/
def ofDecimal (negative : Bool) (digits : Nat) (power : Int) : Binary64 :=
  if digits = 0 then zero negative
  else if 310 < (digits.log2 * 3 / 10 : Nat) + power then infinity negative
  else if (digits.log2 / 3 : Nat) + power < -330 then zero negative
  else if power < 0 then ofRatio negative digits (Nat.pow 10 power.natAbs)
  else ofRatio negative (digits * Nat.pow 10 power.toNat) 1

/-- A finite number as a fraction without its sign. -/
def ratio (x : Binary64) : Nat × Nat := scaled x.mantissa 1 x.scale

/-- A finite number without its digits behind the point. -/
def truncate (x : Binary64) : Int :=
  let (n, d) := x.ratio
  if x.negative then -((n / d : Nat) : Int) else (n / d : Nat)

/-- Whether a finite number is a given whole number. -/
def isInt (x : Binary64) (n : Int) : Bool :=
  x.exponentField ≠ 2047 && x.truncate = n && x.ratio.1 % x.ratio.2 = 0

/-- Whether two numbers count as one: zeros do, whatever their sign, and a not-a-number only with
itself. -/
def same (x y : Binary64) : Bool := x = y || (x.isZero && y.isZero)

/-! ## Arithmetic -/

/-- A finite number with its sign as a whole number over a denominator. -/
def signedRatio (x : Binary64) : Int × Nat :=
  let (n, d) := x.ratio
  (if x.negative then -(n : Int) else n, d)

/-- The number nearest to a fraction with a sign. -/
def ofSignedRatio (num : Int) (den : Nat) : Binary64 := ofRatio (num < 0) num.natAbs den

/-- The number nearest to a whole number, unless that is too large. -/
def ofInt? (n : Int) : Option Binary64 :=
  let x := ofSignedRatio n 1
  if x.isInfinite then none else some x

/-- The sum of two numbers. A sum of nothing is positive, unless both numbers are negative. -/
def add (x y : Binary64) : Binary64 :=
  if x.isNaN || y.isNaN then notANumber
  else if x.isInfinite then
    if y.isInfinite && x.negative ≠ y.negative then notANumber else x
  else if y.isInfinite then y
  else
    let (a, b) := x.signedRatio
    let (c, d) := y.signedRatio
    let sum := a * d + c * b
    if sum = 0 then zero (x.negative && y.negative) else ofSignedRatio sum (b * d)

/-- The product of two numbers. -/
def mul (x y : Binary64) : Binary64 :=
  let negative := x.negative ≠ y.negative
  if x.isNaN || y.isNaN then notANumber
  else if x.isInfinite || y.isInfinite then
    if x.isZero || y.isZero then notANumber else infinity negative
  else
    let (a, b) := x.ratio
    let (c, d) := y.ratio
    ofRatio negative (a * c) (b * d)

/-- The number with the other sign. -/
def negate (x : Binary64) : Binary64 :=
  ofFields (!x.negative) (x.bits.toNat % Nat.pow 2 63)

end Binary64

end TabAudit
