import TabAudit.Number.Decimal
/-!
# Dates and times of day

Settings files may hold dates. A time may say how far its clock is ahead of universal time.
-/

namespace TabAudit

/-- A day. -/
structure Date where
  year : Nat
  month : Nat
  day : Nat
  deriving DecidableEq, Repr

/-- A moment of a day. `offset` tells by how many seconds the clock is ahead of universal time. -/
structure DateTime where
  date : Date
  hour : Nat
  minute : Nat
  second : Nat
  microsecond : Nat
  offset : Option Int
  deriving DecidableEq, Repr

/-- Digits of a number, at least so many. -/
def paddedNat (width n : Nat) : String :=
  let digits := natDigits n
  String.ofList (List.replicate (width - digits.length) '0' ++ digits)

namespace Date

def isLeapYear (year : Nat) : Bool := year % 4 = 0 && (year % 100 ≠ 0 || year % 400 = 0)

/-- The number of days of a month. -/
def daysIn (year month : Nat) : Nat :=
  if month = 2 then (if isLeapYear year then 29 else 28)
  else if month = 4 || month = 6 || month = 9 || month = 11 then 30
  else 31

/-- Why numbers are no day. -/
inductive Fault where
  | year (value : Nat)
  | month
  | day
  deriving DecidableEq, Repr

def Fault.message : Fault → String
  | .year value => s!"year {value} is out of range"
  | .month => "month must be in 1..12"
  | .day => "day is out of range for month"

/-- The day of three numbers. -/
def make (year month day : Nat) : Except Fault Date :=
  if year < 1 || 9999 < year then .error (.year year)
  else if month < 1 || 12 < month then .error .month
  else if day < 1 || daysIn year month < day then .error .day
  else .ok ⟨year, month, day⟩

/-- The number of days before a day, from the first day of year one on. -/
def daysBefore (d : Date) : Nat :=
  let y := d.year - 1
  y * 365 + y / 4 - y / 100 + y / 400 +
    (List.range (d.month - 1)).foldl (fun n m => n + daysIn d.year (m + 1)) 0 + d.day - 1

/-- A day as it is written. -/
def text (d : Date) : String :=
  paddedNat 4 d.year ++ "-" ++ paddedNat 2 d.month ++ "-" ++ paddedNat 2 d.day

end Date

namespace DateTime

/-- Why numbers are no moment. -/
inductive Fault where
  | date (fault : Date.Fault)
  | hour
  | minute
  | second
  deriving DecidableEq, Repr

def Fault.message : Fault → String
  | .date fault => fault.message
  | .hour => "hour must be in 0..23"
  | .minute => "minute must be in 0..59"
  | .second => "second must be in 0..59"

/-- The moment of some numbers. -/
def make (year month day hour minute second microsecond : Nat) (offset : Option Int) :
    Except Fault DateTime :=
  match Date.make year month day with
  | .error e => .error (.date e)
  | .ok date =>
    if 23 < hour then .error .hour
    else if 59 < minute then .error .minute
    else if 59 < second then .error .second
    else .ok ⟨date, hour, minute, second, microsecond, offset⟩

/-- The seconds of a moment by its own clock. -/
def clockSeconds (t : DateTime) : Nat :=
  ((t.date.daysBefore * 24 + t.hour) * 60 + t.minute) * 60 + t.second

/-- Whether two values name one moment. A clock without an offset is comparable only to such. -/
def same (t u : DateTime) : Bool :=
  match t.offset, u.offset with
  | none, none => t = u
  | some a, some b =>
    (t.clockSeconds : Int) - a = (u.clockSeconds : Int) - b && t.microsecond = u.microsecond
  | _, _ => false

/-- An offset as it is written. -/
def offsetText (offset : Int) : String :=
  let n := offset.natAbs
  (if offset < 0 then "-" else "+") ++ paddedNat 2 (n / 3600) ++ ":" ++ paddedNat 2 (n / 60 % 60) ++
    (if n % 60 = 0 then "" else ":" ++ paddedNat 2 (n % 60))

/-- A moment as it is written. -/
def text (t : DateTime) : String :=
  t.date.text ++ " " ++ paddedNat 2 t.hour ++ ":" ++ paddedNat 2 t.minute ++ ":" ++
    paddedNat 2 t.second ++
    (if t.microsecond = 0 then "" else "." ++ paddedNat 6 t.microsecond) ++
    (t.offset.map offsetText).getD ""

end DateTime

end TabAudit
