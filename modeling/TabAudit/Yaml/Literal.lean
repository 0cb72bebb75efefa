import TabAudit.Text.Case
import TabAudit.Value.Basic
import TabAudit.Yaml.Binary
import TabAudit.Yaml.Node
/-!
# The values of scalars

A scalar has the value that its tag asks for, or that its characters show. Numbers may be written in
base sixty, with colons between their digits.
-/

namespace TabAudit.Yaml

/-- The truth value of a word, whatever its case. -/
def readBool (text : Text) : Except Fault Value :=
  let small := text.map lowerCase
  match truthWords.find? fun (word, _) => small = .ofChars word with
  | some (_, b) => .ok (.bool b)
  | none => .error (.notTruth small)

/-- Text without its underscores. -/
def dropUnderscores (t : Text) : Text := ⟨t.points.filter (· ≠ .char '_')⟩

/-- A sign in front of a text, and what follows it. -/
def splitSign (t : Text) : Bool × Text :=
  match t.points with
  | .char '-' :: rest => (true, ⟨rest⟩)
  | .char '+' :: rest => (false, ⟨rest⟩)
  | _ => (false, t)

/-- The digits in base sixty that colons separate, if there is a colon. -/
def sixtyParts? (t : Text) : Option (List Text) :=
  match splitAtEach (.char ':') t.points with
  | [_] => none
  | parts => some (parts.map Text.mk)

/-! ## Whole numbers -/

/-- The number of digits in base sixty between colons. -/
def readSixties : List Text → Except NumeralFault Int
  | [] => .ok 0
  | part :: rest =>
    match Numeral.read part with
    | .error e => .error e
    | .ok n => (readSixties rest).map fun more => n * 60 ^ rest.length + more

/-- A whole number without its sign, in the base that its front shows. -/
def readMagnitude (t : Text) : Except NumeralFault Int :=
  match t.points with
  | [.char '0'] => .ok 0
  | .char '0' :: .char 'b' :: digits => Numeral.readIn 2 ⟨digits⟩
  | .char '0' :: .char 'x' :: digits => Numeral.readIn 16 ⟨digits⟩
  | .char '0' :: _ => Numeral.readIn 8 t
  | _ =>
    match sixtyParts? t with
    | some parts => readSixties parts
    | none => Numeral.read t

/-- A whole number. -/
def readInt (text : Text) : Except Fault Value :=
  let (negative, body) := splitSign (dropUnderscores text)
  if body.isEmpty then .error .emptyNumber
  else
    match readMagnitude body with
    | .error e => .error (.integer e)
    | .ok n => .ok (.int (if negative then -n else n))

/-! ## Numbers with a point -/

/-- The numbers with a point that texts stand for. -/
def readPoints : List Text → Except PointFault (List Binary64)
  | [] => .ok []
  | part :: rest =>
    match Numeral.readPoint part with
    | .error e => .error e
    | .ok x => (readPoints rest).map (x :: ·)

/-- The sum of numbers, the first times `base` and each further one times sixty times more. -/
def sumSixties (sum : Binary64) (base : Int) : List Binary64 → Except Fault Binary64
  | [] => .ok sum
  | x :: rest =>
    match Binary64.ofInt? base with
    | none => .error .placeTooLarge
    | some factor => sumSixties (sum.add (x.mul factor)) (base * 60) rest

/-- A number with a point, without its sign. A not-a-number that has no name of its own is told
apart by `own`. -/
def readUnsigned (own : Nat) (body : Text) : Except Fault Binary64 :=
  let apart (x : Binary64) : Binary64 := if x.isNaN then .notANumberOf (own + 1) else x
  if body = ".inf" then .ok (.infinity false)
  else if body = ".nan" then .ok .notANumber
  else
    match sixtyParts? body with
    | some parts =>
      match readPoints parts with
      | .error e => .error (.float e)
      | .ok parts => (sumSixties (.zero false) 1 parts.reverse).map apart
    | none =>
      match Numeral.readPoint body with
      | .error e => .error (.float e)
      | .ok x => .ok (apart x)

/-- A number with a point. -/
def readFloat (own : Nat) (text : Text) : Except Fault Value :=
  let small := (dropUnderscores text).map lowerCase
  let (negative, body) := splitSign small
  if small.isEmpty then .error .emptyNumber
  else
    (readUnsigned own body).map fun x => .float (if negative && !x.isNaN then x.negate else x)

/-! ## Points in time -/

/-- The millionths of a second that digits behind a point stand for. -/
def readFraction (digits : List Char) : Nat :=
  let six := digits.take 6
  ofDecimalDigits (six ++ List.replicate (6 - six.length) '0')

/-- How far ahead of universal time a clock is. -/
def readOffset : Option (Bool × List Char × List Char) → Except Fault Int
  | none => .ok 0
  | some (negative, hour, minute) =>
    let n : Int := ofDecimalDigits hour * 3600 + ofDecimalDigits minute * 60
    let n := if negative then -n else n
    if n.natAbs < 86400 then .ok n else .error (.offset n)

/-- A point in time. An end of line behind it does not count. -/
def readTime (text : Text) : Except Fault Value :=
  match text.chars?.bind fun s => readStamp (dropLineEnd s) with
  | none => .error .notStamp
  | some stamp =>
    let year := ofDecimalDigits stamp.year
    let month := ofDecimalDigits stamp.month
    let day := ofDecimalDigits stamp.day
    match stamp.clock with
    | none =>
      match Date.make year month day with
      | .ok d => .ok (.date d)
      | .error e => .error (.dateTime (.date e))
    | some (hour, minute, second, fraction) =>
      match stamp.zone.mapM readOffset with
      | .error e => .error e
      | .ok offset =>
        match DateTime.make year month day (ofDecimalDigits hour) (ofDecimalDigits minute)
            (ofDecimalDigits second) (readFraction fraction) offset with
        | .ok t => .ok (.dateTime t)
        | .error e => .error (.dateTime e)

/-! ## All kinds -/

/-- The bytes of a text in base 64. -/
def readBinary (text : Text) : Except Fault Value :=
  match text.chars? with
  | none => .error .malformed
  | some s =>
    if s.any fun c => 128 ≤ c.toNat then .error .malformed
    else
      match readBase64 0 0 0 s with
      | some bs => .ok (.bytes bs)
      | none => .error .malformed

/-- The value of a scalar of a kind. -/
def readScalar (own : Nat) (kind : Kind) (text : Text) : Except Fault Value :=
  match kind with
  | .null => .ok .null
  | .bool => readBool text
  | .int => readInt text
  | .float => readFloat own text
  | .timestamp => readTime text
  | .str => .ok (.str text)
  | _ => .error .malformed

end TabAudit.Yaml
