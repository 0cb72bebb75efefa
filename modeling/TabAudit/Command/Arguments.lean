import TabAudit.Number.Numeral
/-!
# Command lines

The program has two commands, one that checks a tree and one that tries out a glob. Options may
stand between the arguments of a command, several short ones in one word, and a value directly
behind its option or in the next word. Two dashes end the options. Of an option that can count only
once, the last one counts.
-/

namespace TabAudit

/-- The options of the program. -/
inductive OptionName where
  | exclude
  | encoding
  | nulThreshold
  | bufferSize
  | config
  | verbose
  | help
  deriving DecidableEq, Repr

namespace OptionName

/-- The long form of an option. -/
def long : OptionName → String
  | exclude => "--exclude"
  | encoding => "--encoding"
  | nulThreshold => "--nul-threshold"
  | bufferSize => "--buffer-size"
  | config => "--config"
  | verbose => "--verbose"
  | help => "--help"

/-- The letter of an option, if it has one. -/
def letter? : OptionName → Option Char
  | exclude => some 'x'
  | encoding => some 'e'
  | config => some 'c'
  | verbose => some 'v'
  | _ => none

/-- Whether an option has a value. -/
def takesValue : OptionName → Bool
  | verbose => false
  | help => false
  | _ => true

end OptionName

/-- What is wrong with a command line. -/
inductive UsageError where
  | commandMissing
  | commandUnknown (name : String)
  | optionUnknown (option : String)
  | valueMissing (option : OptionName)
  | valueUnwanted (option : OptionName)
  | valueNotCount (option : OptionName) (text : String)
  | notAPath (text : String)
  | argumentMissing (name : String)
  | argumentsUnwanted (args : List String)
  deriving DecidableEq, Repr

def UsageError.message : UsageError → String
  | .commandMissing => "a command is missing"
  | .commandUnknown name => s!"there is no command '{name}'"
  | .optionUnknown option => s!"there is no option '{option}'"
  | .valueMissing option => s!"the option '{option.long}' needs a value"
  | .valueUnwanted option => s!"the option '{option.long}' has no value"
  | .valueNotCount option text => s!"'{text}' is no number for the option '{option.long}'"
  | .notAPath text => s!"'{text}' is no path"
  | .argumentMissing name => s!"the argument {name} is missing"
  | .argumentsUnwanted args => "there is no place for " ++ " ".intercalate args

/-- Whether the usage of the command is shown with the error. -/
def UsageError.showsUsage : UsageError → Bool
  | .valueMissing _ => false
  | .valueUnwanted _ => false
  | _ => true

namespace Arguments

/-- Options that are given, each with its value. -/
abbrev Given := List (OptionName × String)

/-- What a word of a command line is. -/
inductive Word where
  | argument
  | endOfOptions
  /-- Options, the last of which has its value in the next word if it is `pending`. -/
  | options (given : Given) (pending : Option OptionName)
  deriving DecidableEq, Repr

/-- Reads letters of options. What follows one that has a value is its value. -/
def readLetters (known : List OptionName) :
    List Char → Except UsageError (Given × Option OptionName)
  | [] => .ok ([], none)
  | c :: rest =>
    match known.find? fun o => o.letter? = some c with
    | none => .error (.optionUnknown (String.ofList ['-', c]))
    | some option =>
      if option.takesValue then
        if rest.isEmpty then .ok ([], some option)
        else .ok ([(option, String.ofList rest)], none)
      else
        match readLetters known rest with
        | .error e => .error e
        | .ok (given, pending) => .ok ((option, "") :: given, pending)

/-- Reads a word with an option in its long form, of which a value may be a part. -/
def readLong (option : OptionName) (value : Option String) :
    Except UsageError (Given × Option OptionName) :=
  match option.takesValue, value with
  | true, some value => .ok ([(option, value)], none)
  | true, none => .ok ([], some option)
  | false, some _ => .error (.valueUnwanted option)
  | false, none => .ok ([(option, "")], none)

/-- Reads a word. -/
def readWord (known : List OptionName) (word : String) : Except UsageError Word :=
  match word.toList with
  | ['-', '-'] => .ok .endOfOptions
  | '-' :: c :: rest =>
    let (name, value) := word.toList.span (· ≠ '=')
    let value := if value.isEmpty then none else some (String.ofList (value.drop 1))
    let options :=
      match known.find? fun o => o.long.toList = name with
      | some option => readLong option value
      | none =>
        if c = '-' then .error (.optionUnknown (String.ofList name))
        else readLetters known (c :: rest)
    match options with
    | .error e => .error e
    | .ok (given, pending) => .ok (.options given pending)
  | _ => .ok .argument

/-- Reads the words of a command line: the options and the arguments. If they are not `mixed`, the
first argument ends the options. -/
def read (known : List OptionName) (mixed : Bool) :
    List String → Except UsageError (Given × List String)
  | [] => .ok ([], [])
  | word :: rest =>
    match readWord known word with
    | .error e => .error e
    | .ok .endOfOptions => .ok ([], rest)
    | .ok .argument =>
      if mixed then
        match read known mixed rest with
        | .error e => .error e
        | .ok (given, args) => .ok (given, word :: args)
      else .ok ([], word :: rest)
    | .ok (.options given none) =>
      match read known mixed rest with
      | .error e => .error e
      | .ok (more, args) => .ok (given ++ more, args)
    | .ok (.options given (some option)) =>
      match rest with
      | [] => .error (.valueMissing option)
      | value :: rest =>
        match read known mixed rest with
        | .error e => .error e
        | .ok (more, args) => .ok (given ++ (option, value) :: more, args)

/-- The values of an option. -/
def values (given : Given) (option : OptionName) : List String :=
  (given.filter (·.1 = option)).map Prod.snd

/-- The value of an option that counts. -/
def value? (given : Given) (option : OptionName) : Option String :=
  (values given option).getLast?

/-- Whether an option is given. -/
def has (given : Given) (option : OptionName) : Bool := !(values given option).isEmpty

/-- The value of an option that is a number from one on. -/
def count? (given : Given) (option : OptionName) : Except UsageError (Option Int) :=
  match value? given option with
  | none => .ok none
  | some text =>
    match Numeral.read text with
    | .error _ => .error (.valueNotCount option text)
    | .ok n => if n < 1 then .error (.valueNotCount option text) else .ok (some n)

/-- The first of some texts that is no path, as it holds a zero character. -/
def firstNoPath? (texts : List String) : Option String :=
  texts.find? fun text => text.toList.contains '\x00'

end Arguments

/-! ## Commands -/

/-- What the command that checks a tree is told. -/
structure CheckRequest where
  path : String
  exclude : List String
  encoding : Option String
  nulThreshold : Option Int
  bufferSize : Option Int
  config : Option String
  verbose : Bool
  deriving DecidableEq, Repr

/-- What the program is asked to do. -/
inductive Command where
  | help
  | check (request : CheckRequest)
  | glob (glob : String) (paths : List String)
  deriving DecidableEq, Repr

namespace Command

/-- The options of the command that checks a tree. -/
def checkOptions : List OptionName :=
  [.exclude, .encoding, .nulThreshold, .bufferSize, .config, .verbose, .help]

/-- Reads what follows the name of the command that checks a tree. -/
def readCheck (words : List String) : Except UsageError Command :=
  match Arguments.read checkOptions true words with
  | .error e => .error e
  | .ok (given, args) =>
    if Arguments.has given .help then .ok .help
    else
      match Arguments.count? given .nulThreshold, Arguments.count? given .bufferSize, args with
      | .error e, _, _ => .error e
      | _, .error e, _ => .error e
      | _, _, [] => .error (.argumentMissing "PATH")
      | _, _, _ :: extra :: more => .error (.argumentsUnwanted (extra :: more))
      | .ok nulThreshold, .ok bufferSize, [path] =>
        let config := Arguments.value? given .config
        match Arguments.firstNoPath? (path :: config.toList) with
        | some text => .error (.notAPath text)
        | none =>
          .ok (.check
            { path := path
              exclude := Arguments.values given .exclude
              encoding := Arguments.value? given .encoding
              nulThreshold := nulThreshold
              bufferSize := bufferSize
              config := config
              verbose := Arguments.has given .verbose })

/-- Reads what follows the name of the command that tries out a glob. -/
def readGlob (words : List String) : Except UsageError Command :=
  match Arguments.read [.help] true words with
  | .error e => .error e
  | .ok (given, args) =>
    if Arguments.has given .help then .ok .help
    else
      match args with
      | [] => .error (.argumentMissing "GLOB")
      | text :: paths => .ok (.glob text paths)

/-- Reads a command line. -/
def read (words : List String) : Except UsageError Command :=
  match Arguments.read [.help] false words with
  | .error e => .error e
  | .ok (given, args) =>
    if Arguments.has given .help then .ok .help
    else
      match args with
      | [] => .error .commandMissing
      | "check" :: words => readCheck words
      | "glob" :: words => readGlob words
      | name :: _ => .error (.commandUnknown name)

end Command

end TabAudit
