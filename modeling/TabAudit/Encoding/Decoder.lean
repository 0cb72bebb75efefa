import TabAudit.Encoding.Codec
/-!
# Decoding a stream

A decoder takes the bytes of a file in pieces and keeps those that are not yet a character. Three
encodings look at the first bytes for a mark: UTF-8 with a signature drops it, and UTF-16 and
UTF-32 without a stated byte order take the order from it and go on with no other.
-/

namespace TabAudit

/-- The encodings a source tree may be in. -/
inductive Encoding where
  | utf8
  | utf8Signature
  | ascii
  | latin1
  | windows1252
  | utf16
  | utf16LittleEndian
  | utf16BigEndian
  | utf32
  | utf32LittleEndian
  | utf32BigEndian
  deriving DecidableEq, Repr

/-- What a decoder is looking for. -/
inductive DecoderMode where
  /-- Characters. -/
  | settled (codec : Codec)
  /-- A signature that may stand in front of UTF-8. -/
  | signature
  /-- The mark in front of UTF-16. -/
  | mark16
  /-- The mark in front of UTF-32. -/
  | mark32
  deriving DecidableEq, Repr

/-- A decoder and the bytes it keeps. -/
structure Decoder where
  mode : DecoderMode
  kept : List UInt8
  deriving DecidableEq, Repr

/-- A new decoder. -/
def Encoding.decoder : Encoding → Decoder
  | utf8 => ⟨.settled .utf8, []⟩
  | utf8Signature => ⟨.signature, []⟩
  | ascii => ⟨.settled .ascii, []⟩
  | latin1 => ⟨.settled .latin1, []⟩
  | windows1252 => ⟨.settled .windows1252, []⟩
  | utf16 => ⟨.mark16, []⟩
  | utf16LittleEndian => ⟨.settled (.utf16 false), []⟩
  | utf16BigEndian => ⟨.settled (.utf16 true), []⟩
  | utf32 => ⟨.mark32, []⟩
  | utf32LittleEndian => ⟨.settled (.utf32 false), []⟩
  | utf32BigEndian => ⟨.settled (.utf32 true), []⟩

namespace Decoder

/-- Decodes with a codec that is settled from now on. -/
def settle (codec : Codec) (final : Bool) (pos : Nat) (data : List UInt8) :
    Except DecodeFault (List Char × Decoder) :=
  match codec.decode final pos data with
  | .error e => .error e
  | .ok (text, kept) => .ok (text, ⟨.settled codec, kept⟩)

/-- Decodes without a mark in an order that is only assumed: a fault counts, but a character
shows that the mark is missing. -/
def assume (mode : DecoderMode) (codec : Codec) (width : Nat) (final : Bool)
    (data : List UInt8) : Except DecodeFault (List Char × Decoder) :=
  match codec.decode final 0 data with
  | .error e => .error e
  | .ok (text, kept) =>
    if data.length - kept.length < width / 8 then .ok (text, ⟨mode, kept⟩)
    else .error (.missingMark width)

/-- The signature of UTF-8. -/
def signatureBytes : List UInt8 := [0xEF, 0xBB, 0xBF]

/-- The text of a further piece, and the decoder after it. The last piece is `final`. -/
def feed (d : Decoder) (piece : List UInt8) (final : Bool) :
    Except DecodeFault (List Char × Decoder) :=
  let data := d.kept ++ piece
  match d.mode with
  | .settled codec => settle codec final 0 data
  | .signature =>
    if data.length < 3 then
      if data.isPrefixOf signatureBytes then .ok ([], ⟨.signature, data⟩)
      else settle .utf8 final 0 data
    else if signatureBytes.isPrefixOf data then settle .utf8 final 0 (data.drop 3)
    else settle .utf8 final 0 data
  | .mark16 =>
    match data with
    | 0xFF :: 0xFE :: rest => settle (.utf16 false) final 2 rest
    | 0xFE :: 0xFF :: rest => settle (.utf16 true) final 2 rest
    | _ => assume .mark16 (.utf16 false) 16 final data
  | .mark32 =>
    match data with
    | 0xFF :: 0xFE :: 0 :: 0 :: rest => settle (.utf32 false) final 4 rest
    | 0 :: 0 :: 0xFE :: 0xFF :: rest => settle (.utf32 true) final 4 rest
    | _ => assume .mark32 (.utf32 false) 32 final data

end Decoder

/-- A way to decode a stream: the state before the first piece, and the text of a further piece
with the state after it. Half of a surrogate pair in the text counts as any other character that
neither is a tab nor ends a line. -/
structure StreamDecoder where
  State : Type
  start : State
  feed : State → List UInt8 → Bool → Except DecodeFault (List Char × State)

/-- The way to decode a stream in an encoding. -/
def Encoding.stream (e : Encoding) : StreamDecoder := ⟨Decoder, e.decoder, Decoder.feed⟩

end TabAudit
