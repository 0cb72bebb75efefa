import TabAudit.Number.Binary64
import TabAudit.Number.Decimal
/-!
# The shortest decimal of a floating-point number

Of all decimal fractions that lie nearer to a number than to its neighbours, one with the fewest
digits is shown, and of those the one nearest to the number.
-/

namespace TabAudit

/-- A decimal fraction: digits in front of a point that has been moved. `exponent` is the power of
ten of the first digit. -/
structure DecimalFraction where
  digits : List Char
  exponent : Int
  deriving DecidableEq, Repr

namespace Binary64

/-- The ends of the interval of fractions that read back as a number, and the number itself, all
as multiples of one quarter of the number's last place over a common denominator. -/
structure Interval where
  low : Nat
  middle : Nat
  high : Nat
  den : Nat
  /-- The ends belong to the interval. -/
  closed : Bool
  deriving Repr

/-- The interval of a finite number above zero. Below a power of two the next number is half as
far as above it. -/
def interval (x : Binary64) : Interval :=
  let m := x.mantissa
  let below := if x.fractionField = 0 && 1 < x.exponentField then 1 else 2
  let (unit, den) := scaled 1 1 (x.scale - 2)
  ⟨(4 * m - below) * unit, 4 * m * unit, (4 * m + 2) * unit, den, m % 2 = 0⟩

/-- Whether a fraction lies in an interval with its ends over another denominator. -/
def Interval.holds (i : Interval) (num den : Nat) : Bool :=
  let n := num * i.den
  if i.closed then i.low * den ≤ n && n ≤ i.high * den else i.low * den < n && n < i.high * den

/-- Ten to a power, as a fraction. -/
def tenTo (power : Int) : Nat × Nat :=
  if power < 0 then (1, Nat.pow 10 power.natAbs) else (Nat.pow 10 power.toNat, 1)

/-- The power of ten of the first digit of a fraction, from a guess that is not too large. -/
def leadingPower (num den : Nat) : Nat → Int → Int
  | 0, guess => guess
  | fuel + 1, guess =>
    let (n, d) := tenTo (guess + 1)
    if n * den ≤ num * d then leadingPower num den fuel (guess + 1) else guess

/-- The multiple of a power of ten that is nearest to the middle of an interval, if the interval
holds a multiple of it. -/
def Interval.onGrid? (i : Interval) (power : Int) : Option Nat :=
  let (n, d) := tenTo power
  let floor := i.middle * d / (i.den * n)
  let twice := 2 * (i.middle * d % (i.den * n))
  let below := i.holds (floor * n) d
  let above := i.holds ((floor + 1) * n) d
  if below && above then
    if twice < i.den * n then some floor
    else if i.den * n < twice then some (floor + 1)
    else some (floor + floor % 2)
  else if below then some floor
  else if above then some (floor + 1)
  else none

/-- The first grid that meets an interval, from the coarsest on. -/
def Interval.shortest (i : Interval) : Nat → Int → Nat × Int
  | 0, power => ((i.onGrid? power).getD 0, power)
  | fuel + 1, power =>
    match i.onGrid? power with
    | some n => (n, power)
    | none => i.shortest fuel (power - 1)

/-- Digits without the zeros at their end, of which there are so many. -/
def trimZeros (digits : List Char) : List Char :=
  (digits.reverse.dropWhile (· = '0')).reverse

/-- The shortest decimal fraction of a finite number other than zero, without its sign. -/
def shortest (x : Binary64) : DecimalFraction :=
  let i := x.interval
  let guess := ((i.middle.log2 : Int) - i.den.log2 - 1) * 30103 / 100000 - 1
  let first := leadingPower i.middle i.den 8 guess
  let (n, power) := i.shortest 18 first
  let digits := natDigits n
  ⟨trimZeros digits, power + digits.length - 1⟩

/-- The power of ten from which on numbers are written with an exponent. -/
def plainLimit : Int := 16

/-- A fraction with its point in place: at least one digit stands on both sides. -/
def plainText (f : DecimalFraction) : List Char :=
  if f.exponent < 0 then
    '0' :: '.' :: List.replicate (f.exponent.natAbs - 1) '0' ++ f.digits
  else
    let places := f.exponent.toNat + 1
    let whole := f.digits.take places ++ List.replicate (places - f.digits.length) '0'
    let rest := f.digits.drop places
    whole ++ '.' :: (if rest.isEmpty then ['0'] else rest)

/-- A fraction with an exponent of at least two digits. -/
def exponentText (f : DecimalFraction) : List Char :=
  let power := natDigits f.exponent.natAbs
  f.digits.take 1 ++ (if f.digits.length ≤ 1 then [] else '.' :: f.digits.drop 1) ++
    'e' :: (if f.exponent < 0 then '-' else '+') ::
    (if power.length < 2 then '0' :: power else power)

/-- The text of a number. -/
def text (x : Binary64) : String :=
  let sign := if x.negative then ['-'] else []
  if x.isNaN then "nan"
  else if x.isInfinite then String.ofList (sign ++ ['i', 'n', 'f'])
  else if x.isZero then String.ofList (sign ++ ['0', '.', '0'])
  else
    let f := x.shortest
    String.ofList (sign ++
      (if -4 ≤ f.exponent && f.exponent < plainLimit then plainText f else exponentText f))

end Binary64

end TabAudit
