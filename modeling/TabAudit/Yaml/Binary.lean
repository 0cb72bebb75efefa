/-!
# Bytes as text

Bytes are written in base 64: four characters for three bytes, and `=` for what is missing at the
end. Characters that are no digits are passed over when a text is read.
-/

namespace TabAudit.Yaml

/-- The digits in base 64, in order. -/
def base64Digits : List Char :=
  "ABCDEFGHIJKLMNOPQRSTUVWXYZabcdefghijklmnopqrstuvwxyz0123456789+/".toList

/-- The value of a digit in base 64. -/
def base64Value? (c : Char) : Option Nat :=
  if 'A' ≤ c && c ≤ 'Z' then some (c.toNat - 'A'.toNat)
  else if 'a' ≤ c && c ≤ 'z' then some (c.toNat - 'a'.toNat + 26)
  else if '0' ≤ c && c ≤ '9' then some (c.toNat - '0'.toNat + 52)
  else if c = '+' then some 62
  else if c = '/' then some 63
  else none

/-- The bytes of a text. `place` is the number of digits of the group of four that are done, `left`
the bits that they leave over, and `pads` the number of `=` since the last digit. -/
def readBase64 (place left pads : Nat) : List Char → Option (List UInt8)
  | [] => if place = 0 then some [] else none
  | c :: rest =>
    if c = '=' then
      if 2 ≤ place then
        if 4 ≤ place + pads + 1 then some [] else readBase64 place left (pads + 1) rest
      else readBase64 place left pads rest
    else
      match base64Value? c with
      | none => readBase64 place left pads rest
      | some d =>
        match place with
        | 0 => readBase64 1 d 0 rest
        | 1 => (readBase64 2 (d % 16) 0 rest).map ((left * 4 + d / 16).toUInt8 :: ·)
        | 2 => (readBase64 3 (d % 4) 0 rest).map ((left * 16 + d / 4).toUInt8 :: ·)
        | _ => (readBase64 0 0 0 rest).map ((left * 64 + d).toUInt8 :: ·)

/-- A digit in base 64. -/
def base64Digit (n : Nat) : Char := base64Digits.getD n '='

/-- Bytes in base 64. -/
def writeBase64 : List UInt8 → List Char
  | [] => []
  | [a] => [base64Digit (a.toNat / 4), base64Digit (a.toNat % 4 * 16), '=', '=']
  | [a, b] =>
    [base64Digit (a.toNat / 4), base64Digit (a.toNat % 4 * 16 + b.toNat / 16),
     base64Digit (b.toNat % 16 * 4), '=']
  | a :: b :: c :: rest =>
    [base64Digit (a.toNat / 4), base64Digit (a.toNat % 4 * 16 + b.toNat / 16),
     base64Digit (b.toNat % 16 * 4 + c.toNat / 64), base64Digit (c.toNat % 64)] ++ writeBase64 rest

/-- A text in lines of so many characters at most, each with its end. -/
def cutLines (width : Nat) : Nat → List Char → List Char
  | _, [] => ['\n']
  | 0, c :: rest => '\n' :: c :: cutLines width (width - 1) rest
  | room + 1, c :: rest => c :: cutLines width room rest

/-- Bytes as lines of at most 76 characters. -/
def base64Lines (bs : List UInt8) : List Char :=
  if bs.isEmpty then [] else cutLines 76 76 (writeBase64 bs)

end TabAudit.Yaml
