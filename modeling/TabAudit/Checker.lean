import TabAudit.Bytes.NulReader
import TabAudit.Encoding.Charset
import TabAudit.Position.Tracker
import TabAudit.Text.Quoted
/-!
# Checking one file

The bytes of a file are read in blocks, looked through for runs of zero bytes, decoded, and the
places of the tabs noted. The first thing that goes wrong ends the check.
-/

namespace TabAudit

/-- Why there is no checker for some settings. -/
inductive CheckerFault where
  | unknownEncoding (name : String)
  | nulInEncoding
  /-- The name holds halves of surrogate pairs: the first of them in a row, how many there are, and
  where they start. -/
  | halvesInEncoding (first : CodePoint) (count position : Nat)
  | thresholdNotPositive (value : Int)
  | bufferNotPositive (value : Int)
  deriving DecidableEq, Repr

def CheckerFault.message : CheckerFault → String
  | .unknownEncoding name => s!"Unknown encoding: {name}"
  | .nulInEncoding => "embedded null character"
  | .halvesInEncoding first count position =>
    let which := if count = 1 then s!" {quoted ⟨[first]⟩} in position {position}"
      else s!"s in position {position}-{position + count - 1}"
    s!"'utf-8' codec can't encode character{which}: surrogates not allowed"
  | .thresholdNotPositive value => s!"nul_run_threshold must be positive, but is {value}"
  | .bufferNotPositive value => s!"buffer_size must be positive, but is {value}"

/-- How files are checked. -/
structure Checker where
  encodingName : String
  encoding : Charset
  threshold : Int
  bufferSize : Int

/-- Why a check gives no answer. -/
inductive CheckFault where
  | opening (fault : OpenFault)
  | reading (fault : ReadFault)
  | decoding (fault : DecodeFault)
  deriving DecidableEq, Repr

def CheckFault.message : CheckFault → String
  | .opening fault => fault.message
  | .reading fault => fault.message
  | .decoding fault => fault.message

namespace Checker

/-- What is wrong with a name that holds halves of surrogate pairs. -/
def halvesFault (name : Text) : CheckerFault :=
  let (before, rest) := name.points.span fun p => p.char?.isSome
  .halvesInEncoding (rest.headD (.half 0)) (rest.takeWhile fun p => p.char?.isNone).length
    before.length

/-- The checker for some settings. -/
def make [Runtime] (encodingName : Text) (threshold bufferSize : Int) :
    Except CheckerFault Checker :=
  match encodingName.string? with
  | none => .error (halvesFault encodingName)
  | some encodingName =>
    match Charset.find encodingName with
    | .error .unknown => .error (.unknownEncoding encodingName)
    | .error .embeddedNul => .error .nulInEncoding
    | .ok encoding =>
      if threshold < 1 then .error (.thresholdNotPositive threshold)
      else if bufferSize < 1 then .error (.bufferNotPositive bufferSize)
      else .ok ⟨encodingName, encoding, threshold, bufferSize⟩

/-- The rest of a check: blocks are read, decoded and swept until the reader gives no more.
`tabs` holds what was found before. -/
def checkFrom (way : StreamDecoder) (blockSize : Int) (r : NulReader) (d : way.State) (t : Tracker)
    (tabs : List Position) : Except CheckFault (List Position) × NulReader :=
  match _h : r.readBlock blockSize with
  | (.error e, r) => (.error (.reading e), r)
  | (.ok [], r) =>
    match way.feed d [] true with
    | .error e => (.error (.decoding e), r)
    | .ok (text, _) => (.ok (tabs ++ (t.feed text).1), r)
  | (.ok (b :: bs), r) =>
    match way.feed d (b :: bs) false with
    | .error e => (.error (.decoding e), r)
    | .ok (text, d) => checkFrom way blockSize r d (t.feed text).2 (tabs ++ (t.feed text).1)
termination_by r.pending.length
decreasing_by
  have := congrArg List.length (NulReader.pending_readBlock _h)
  simp only [List.length_append, List.length_cons] at this
  omega

/-- The tabs of a file in order, or why there is no answer, and what the log says of the reading,
for a way to decode its bytes. -/
def checkWith (way : StreamDecoder) (threshold bufferSize : Int) (source : Source) :
    Except CheckFault (List Position) × Log :=
  match NulReader.open (some source) threshold bufferSize with
  | .error e => (.error (.opening e), [])
  | .ok r =>
    let (outcome, r) := checkFrom way bufferSize r way.start .initial []
    (outcome, r.events.filterMap ReaderEvent.record?)

/-- The tabs of a file in order, or why there is no answer, and what the log says of the reading. -/
def check (c : Checker) (source : Source) : Except CheckFault (List Position) × Log :=
  checkWith c.encoding.stream c.threshold c.bufferSize source

end Checker

end TabAudit
