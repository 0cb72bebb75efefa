/-!
# Whole numbers in base ten
-/

namespace TabAudit

/-- The digit of a number below ten. -/
def decimalDigit (n : Nat) : Char := Char.ofNat (48 + n)

/-- The digits of a number in front of others. -/
def digitsBefore (n : Nat) (done : List Char) : List Char :=
  if n < 10 then decimalDigit n :: done
  else digitsBefore (n / 10) (decimalDigit (n % 10) :: done)
termination_by n
decreasing_by omega

/-- A natural number in base ten. -/
def natDigits (n : Nat) : List Char := digitsBefore n []

/-- A whole number in base ten. -/
def intDigits (n : Int) : List Char :=
  if n < 0 then '-' :: natDigits n.natAbs else natDigits n.natAbs

/-- A whole number in base ten. -/
def intText (n : Int) : String := String.ofList (intDigits n)

/-- The number that digits stand for behind others that stand for `n`. -/
def digitsAfter (base n : Nat) (digits : List Nat) : Nat :=
  digits.foldl (fun n d => n * base + d) n

/-- The number that digits stand for. -/
def ofDigits (base : Nat) (digits : List Nat) : Nat := digitsAfter base 0 digits

/-- The number that characters from `0` to `9` stand for. -/
def ofDecimalDigits (s : List Char) : Nat :=
  ofDigits 10 (s.map fun c => c.toNat - 48)

end TabAudit
