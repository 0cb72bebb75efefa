import TabAudit.Library
/-!
# Decoding bytes

A codec looks at the bytes in front and says which character they give, that they may still become
one, or that they never will. `Codec.decode` goes through a stretch of bytes in this way and
reports a fault by the positions of its bytes within the stretch.
-/

namespace TabAudit

/-- What is wrong with bytes that give no character. -/
inductive DecodeReason where
  | invalidStart
  | invalidContinuation
  | unexpectedEnd
  | truncated
  | unpairedLow
  | unpairedHigh
  | surrogate
  | outOfRange
  | notAscii
  | undefinedByte
  deriving DecidableEq, Repr

def DecodeReason.text : DecodeReason → String
  | invalidStart => "invalid start byte"
  | invalidContinuation => "invalid continuation byte"
  | unexpectedEnd => "unexpected end of data"
  | truncated => "truncated data"
  | unpairedLow => "illegal encoding"
  | unpairedHigh => "illegal UTF-16 surrogate"
  | surrogate => "code point in surrogate code point range(0xd800, 0xe000)"
  | outOfRange => "code point not in range(0x110000)"
  | notAscii => "ordinal not in range(128)"
  | undefinedByte => "character maps to <undefined>"

/-- The ways in which bytes give characters. -/
inductive Codec where
  | utf8
  | ascii
  | latin1
  | windows1252
  | utf16 (bigEndian : Bool)
  | utf32 (bigEndian : Bool)
  deriving DecidableEq, Repr

/-- The name that faults show. -/
def Codec.name : Codec → String
  | utf8 => "utf-8"
  | ascii => "ascii"
  | latin1 => "latin-1"
  | windows1252 => "charmap"
  | utf16 false => "utf-16-le"
  | utf16 true => "utf-16-be"
  | utf32 false => "utf-32-le"
  | utf32 true => "utf-32-be"

/-- Why a text cannot be had from bytes. -/
inductive DecodeFault where
  /-- The bytes at `first` to `last` are wrong; `byte` is the one at `first`. -/
  | undecodable (codec : Codec) (byte : UInt8) (first last : Nat) (reason : DecodeReason)
  /-- A stream whose byte order only a mark can tell starts without one. -/
  | missingMark (width : Nat)
  /-- The fault of another way to decode. -/
  | library (fault : LibraryFault)
  deriving DecidableEq, Repr

/-- Two digits in base sixteen. -/
def hexByte (b : UInt8) : String :=
  String.ofList [Nat.digitChar (b.toNat / 16), Nat.digitChar (b.toNat % 16)]

def DecodeFault.message : DecodeFault → String
  | .undecodable codec byte first last reason =>
    if first = last then
      s!"'{codec.name}' codec can't decode byte 0x{hexByte byte} in position {first}: {reason.text}"
    else
      s!"'{codec.name}' codec can't decode bytes in position {first}-{last}: {reason.text}"
  | .missingMark width => s!"UTF-{width} stream does not start with BOM"
  | .library fault => fault.message

/-- The kind of a fault. A missing mark is not told apart from other values that will not do. -/
def DecodeFault.kind : DecodeFault → FaultKind
  | .undecodable .. => .undecodable
  | .missingMark _ => .value
  | .library fault => fault.kind

/-- What the bytes in front give. -/
inductive Verdict where
  /-- A character, from the first byte and so many after it. -/
  | char (c : Char) (more : Nat)
  /-- Nothing yet. If no byte follows, the first `size` bytes are wrong for this reason. -/
  | wait (size : Nat) (reason : DecodeReason)
  /-- The first `size` bytes are wrong. -/
  | bad (size : Nat) (reason : DecodeReason)
  deriving DecidableEq, Repr

namespace Codec

/-- Whether a byte may continue a UTF-8 sequence. -/
def isTail (b : UInt8) : Bool := 0x80 ≤ b && b < 0xC0

/-- The six bits that a continuing byte carries. -/
def tailBits (b : UInt8) : Nat := b.toNat - 0x80

/-- UTF-8 sequences of three bytes: whether a second byte fits the first. -/
def fitsThree (b b₂ : UInt8) : Bool :=
  isTail b₂ && !(b == 0xE0 && b₂ < 0xA0) && !(b == 0xED && 0xA0 ≤ b₂)

/-- UTF-8 sequences of four bytes: whether a second byte fits the first. -/
def fitsFour (b b₂ : UInt8) : Bool :=
  isTail b₂ && !(b == 0xF0 && b₂ < 0x90) && !(b == 0xF4 && 0x90 ≤ b₂)

/-- UTF-8. Half of an encoded surrogate at the end of the bytes is told apart only once a third
byte is there. -/
def nextUtf8 (b : UInt8) (rest : List UInt8) : Verdict :=
  if b < 0x80 then .char (Char.ofNat b.toNat) 0
  else if b < 0xC2 then .bad 1 .invalidStart
  else if b < 0xE0 then
    match rest with
    | [] => .wait 1 .unexpectedEnd
    | b₂ :: _ =>
      if isTail b₂ then .char (Char.ofNat ((b.toNat - 0xC0) * 64 + tailBits b₂)) 1
      else .bad 1 .invalidContinuation
  else if b < 0xF0 then
    match rest with
    | [] => .wait 1 .unexpectedEnd
    | [b₂] =>
      if fitsThree b b₂ then .wait 2 .unexpectedEnd
      else if b == 0xED && isTail b₂ then .wait 1 .invalidContinuation
      else .bad 1 .invalidContinuation
    | b₂ :: b₃ :: _ =>
      if !fitsThree b b₂ then .bad 1 .invalidContinuation
      else if !isTail b₃ then .bad 2 .invalidContinuation
      else .char (Char.ofNat ((b.toNat - 0xE0) * 4096 + tailBits b₂ * 64 + tailBits b₃)) 2
  else if b < 0xF5 then
    match rest with
    | [] => .wait 1 .unexpectedEnd
    | b₂ :: rest =>
      if !fitsFour b b₂ then .bad 1 .invalidContinuation
      else
        match rest with
        | [] => .wait 2 .unexpectedEnd
        | b₃ :: rest =>
          if !isTail b₃ then .bad 2 .invalidContinuation
          else
            match rest with
            | [] => .wait 3 .unexpectedEnd
            | b₄ :: _ =>
              if !isTail b₄ then .bad 3 .invalidContinuation
              else
                .char (Char.ofNat ((b.toNat - 0xF0) * 262144 + tailBits b₂ * 4096 +
                  tailBits b₃ * 64 + tailBits b₄)) 3
  else .bad 1 .invalidStart

/-- The characters of the bytes from 0x80 to 0x9F in Windows-1252; zero where there is none. -/
def windows1252High : List Nat :=
  [0x20AC, 0, 0x201A, 0x0192, 0x201E, 0x2026, 0x2020, 0x2021,
   0x02C6, 0x2030, 0x0160, 0x2039, 0x0152, 0, 0x017D, 0,
   0, 0x2018, 0x2019, 0x201C, 0x201D, 0x2022, 0x2013, 0x2014,
   0x02DC, 0x2122, 0x0161, 0x203A, 0x0153, 0, 0x017E, 0x0178]

/-- Windows-1252: Latin-1 with another block from 0x80 to 0x9F. -/
def nextWindows1252 (b : UInt8) : Verdict :=
  if 0x80 ≤ b && b < 0xA0 then
    match windows1252High[b.toNat - 0x80]? with
    | some (n + 1) => .char (Char.ofNat (n + 1)) 0
    | _ => .bad 1 .undefinedByte
  else .char (Char.ofNat b.toNat) 0

/-- Two bytes as a number. -/
def word16 (bigEndian : Bool) (b₁ b₂ : UInt8) : Nat :=
  if bigEndian then b₁.toNat * 256 + b₂.toNat else b₂.toNat * 256 + b₁.toNat

/-- Four bytes as a number. -/
def word32 (bigEndian : Bool) (b₁ b₂ b₃ b₄ : UInt8) : Nat :=
  if bigEndian then word16 true b₁ b₂ * 65536 + word16 true b₃ b₄
  else word16 false b₃ b₄ * 65536 + word16 false b₁ b₂

/-- UTF-16: one unit, or a high and a low surrogate. -/
def nextUtf16 (bigEndian : Bool) (b₁ : UInt8) : List UInt8 → Verdict
  | [] => .wait 1 .truncated
  | b₂ :: rest =>
    let unit := word16 bigEndian b₁ b₂
    if unit < 0xD800 || 0xE000 ≤ unit then .char (Char.ofNat unit) 1
    else if 0xDC00 ≤ unit then .bad 2 .unpairedLow
    else
      match rest with
      | [] => .wait 2 .unexpectedEnd
      | [_] => .wait 3 .unexpectedEnd
      | b₃ :: b₄ :: _ =>
        let low := word16 bigEndian b₃ b₄
        if 0xDC00 ≤ low && low < 0xE000 then
          .char (Char.ofNat (0x10000 + (unit - 0xD800) * 1024 + (low - 0xDC00))) 3
        else .bad 2 .unpairedHigh

/-- UTF-32: one unit. -/
def nextUtf32 (bigEndian : Bool) (b₁ : UInt8) : List UInt8 → Verdict
  | b₂ :: b₃ :: b₄ :: _ =>
    let unit := word32 bigEndian b₁ b₂ b₃ b₄
    if 0xD800 ≤ unit && unit < 0xE000 then .bad 4 .surrogate
    else if 0x110000 ≤ unit then .bad 4 .outOfRange
    else .char (Char.ofNat unit) 3
  | rest => .wait (1 + rest.length) .truncated

/-- What the bytes in front give. -/
def next : Codec → UInt8 → List UInt8 → Verdict
  | .utf8, b, rest => nextUtf8 b rest
  | .ascii, b, _ => if b < 0x80 then .char (Char.ofNat b.toNat) 0 else .bad 1 .notAscii
  | .latin1, b, _ => .char (Char.ofNat b.toNat) 0
  | .windows1252, b, _ => nextWindows1252 b
  | .utf16 bigEndian, b, rest => nextUtf16 bigEndian b rest
  | .utf32 bigEndian, b, rest => nextUtf32 bigEndian b rest

/-- The characters of a stretch of bytes, and the bytes at its end that may still become one. When
the stretch is final, nothing may be left. `pos` is the position of the first byte. -/
def decode (c : Codec) (final : Bool) (pos : Nat) :
    List UInt8 → Except DecodeFault (List Char × List UInt8)
  | [] => .ok ([], [])
  | b :: bs =>
    match c.next b bs with
    | .char ch more =>
      match decode c final (pos + 1 + more) (bs.drop more) with
      | .error e => .error e
      | .ok (text, rest) => .ok (ch :: text, rest)
    | .wait size reason =>
      if final then .error (.undecodable c b pos (pos + size - 1) reason) else .ok ([], b :: bs)
    | .bad size reason => .error (.undecodable c b pos (pos + size - 1) reason)
termination_by bs => bs.length
decreasing_by simp only [List.length_drop, List.length_cons]; omega

end Codec

end TabAudit
