import TabAudit.Encoding.Decoder
/-!
# Names of encodings

A name is compared without regard to case and to the marks between its letters and digits, so
`UTF-8`, `utf 8` and `-utf_8` are one. An encoding has a proper name and some others.
-/

namespace TabAudit.Encoding

/-- Why a name stands for no encoding. -/
inductive NameFault where
  | unknown
  /-- The name holds a zero character. -/
  | embeddedNul
  deriving DecidableEq, Repr

/-- A name in its compared form: lower case, and one `_` for each stretch of other characters
between letters, digits and dots. `gap` tells whether such a stretch stands before. -/
def foldName (started gap : Bool) : List Char → List Char
  | [] => []
  | c :: rest =>
    if c.isAlphanum || c == '.' then
      (if gap && started then ['_'] else []) ++ c.toLower :: foldName true false rest
    else foldName started true rest

/-- The encodings by their proper names. A proper name holds no dot. -/
def properNames : List (String × Encoding) :=
  [("utf_8", utf8), ("utf_8_sig", utf8Signature), ("ascii", ascii), ("latin_1", latin1),
   ("cp1252", windows1252), ("utf_16", utf16), ("utf_16_le", utf16LittleEndian),
   ("utf_16_be", utf16BigEndian), ("utf_32", utf32), ("utf_32_le", utf32LittleEndian),
   ("utf_32_be", utf32BigEndian)]

/-- The other names of encodings. -/
def otherNames : List (String × Encoding) :=
  [("646", ascii), ("ansi_x3.4_1968", ascii), ("ansi_x3_4_1968", ascii),
   ("ansi_x3.4_1986", ascii), ("cp367", ascii), ("csascii", ascii), ("ibm367", ascii),
   ("iso646_us", ascii), ("iso_646.irv_1991", ascii), ("iso_ir_6", ascii), ("us", ascii),
   ("us_ascii", ascii),
   ("1252", windows1252), ("windows_1252", windows1252),
   ("8859", latin1), ("cp819", latin1), ("csisolatin1", latin1), ("ibm819", latin1),
   ("iso8859", latin1), ("iso8859_1", latin1), ("iso_8859_1", latin1),
   ("iso_8859_1_1987", latin1), ("iso_ir_100", latin1), ("l1", latin1), ("latin", latin1),
   ("latin1", latin1),
   ("u16", utf16), ("utf16", utf16),
   ("unicodebigunmarked", utf16BigEndian), ("utf_16be", utf16BigEndian),
   ("unicodelittleunmarked", utf16LittleEndian), ("utf_16le", utf16LittleEndian),
   ("u32", utf32), ("utf32", utf32), ("utf_32be", utf32BigEndian), ("utf_32le", utf32LittleEndian),
   ("u8", utf8), ("utf", utf8), ("utf8", utf8), ("utf8_ucs2", utf8), ("utf8_ucs4", utf8),
   ("cp65001", utf8)]

/-- The encoding that a name stands for. In the other names a dot also stands for `_`. -/
def find (name : String) : Except NameFault Encoding :=
  if name.toList.contains '\x00' then .error .embeddedNul
  else
    let folded := foldName false false name.toList
    let undotted := folded.map fun c => if c == '.' then '_' else c
    match otherNames.lookup (String.ofList folded) with
    | some e => .ok e
    | none =>
      match otherNames.lookup (String.ofList undotted) with
      | some e => .ok e
      | none =>
        match properNames.lookup (String.ofList folded) with
        | some e => .ok e
        | none => .error .unknown

end TabAudit.Encoding
