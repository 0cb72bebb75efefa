import TabAudit.Config.Defaults
import TabAudit.Config.Environment
import TabAudit.Disk.Change
import TabAudit.Disk.Resolve
import TabAudit.Encoding.Codec
import TabAudit.Json.Read
import TabAudit.Json.Write
/-!
# Files of settings

Settings are read from files in YAML or JSON, told apart by their suffix, and written to them. The
file counts over the defaults, and the environment over the file. Where several things are wrong,
the first on the way counts: the file, its text, the defaults, the sections, the environment.
-/

namespace TabAudit

/-- The formats of files of settings. -/
inductive ConfigFormat where
  | yaml
  | json
  deriving DecidableEq, Repr

/-- The format that a suffix stands for. -/
def ConfigFormat.ofSuffix? (suffix : String) : Option ConfigFormat :=
  if suffix = ".yaml" || suffix = ".yml" then some yaml
  else if suffix = ".json" then some json
  else none

/-- Why there are no settings. -/
inductive ConfigError where
  | missing (path : String)
  | disk (error : DiskError)
  /-- The reading breaks off. -/
  | reading (cause : DiskCause)
  | undecodable (fault : DecodeFault)
  | unknownFormat (suffix : String)
  | yaml (fault : LibraryFault)
  | json (fault : Json.Fault)
  | defaults (fault : DefaultsFault)
  | sections (fault : SectionFault)
  | field (fault : FieldFault)
  | variable (fault : NumeralFault)
  deriving Repr

def ConfigError.message : ConfigError → String
  | .missing path => s!"Configuration file not found: {path}"
  | .disk error => error.message
  | .reading cause => cause.shown
  | .undecodable fault => fault.message
  | .unknownFormat suffix => s!"Unsupported config file format: {suffix}"
  | .yaml fault => fault.message
  | .json fault => fault.message
  | .defaults fault => fault.message
  | .sections fault => fault.message
  | .field fault => fault.message
  | .variable fault => fault.message

/-- The kind of an error. -/
def ConfigError.kind : ConfigError → FaultKind
  | .missing _ => .system
  | .disk error => error.kind
  | .reading cause => cause.kind
  | .undecodable fault => fault.kind
  | .unknownFormat _ => .value
  | .yaml fault => fault.kind
  | .json fault => fault.kind
  | .defaults fault => fault.kind
  | .sections _ => .type
  | .field fault => fault.kind
  | .variable _ => .value

/-! ## Reading -/

/-- The value of a file's text. Where nothing is said, there is an empty mapping. -/
def ConfigFormat.read [Runtime] (format : ConfigFormat) (text : String) :
    Except ConfigError Value :=
  match format with
  | .yaml =>
    match Runtime.loadYaml text with
    | .error e => .error (.yaml e)
    | .ok v => .ok (if v.isTruthy then v else .dict [])
  | .json =>
    if (trimBlanks text.toList).isEmpty then .ok (.dict [])
    else
      match Json.read text with
      | .error e => .error (.json e)
      | .ok v => .ok v

/-- The text of what stands at a path that is shown as given. -/
def Node.readText (shown : String) : Node → Except ConfigError String
  | .file content access =>
    match access.failure? content.length with
    | some (.opening cause) => .error (.disk (.refused cause shown))
    | some (.reading cause) => .error (.reading cause)
    | none =>
      match Codec.utf8.decode true 0 content with
      | .error e => .error (.undecodable e)
      | .ok (text, _) => .ok (textAsRead (String.ofList text))
  | .directory .. => .error (.disk (.refused .isDirectory shown))
  | _ => .ok ""

/-- The text of a file. -/
def Disk.readText (d : Disk) (p : Path) : Except ConfigError String :=
  match d.locate? p with
  | .error e => .error (.disk e)
  | .ok none => .error (.missing (p.text '/'))
  | .ok (some found) => found.node.readText (p.text '/')

/-- The value of a file. -/
def Disk.readConfig [Runtime] (d : Disk) (p : Path) : Except ConfigError Value :=
  match d.readText p with
  | .error e => .error e
  | .ok text =>
    match ConfigFormat.ofSuffix? p.suffix with
    | none => .error (.unknownFormat p.suffix)
    | some format => format.read text

/-- Settings with the scan section of a value. -/
def Settings.replaceScan [Runtime] (s : Settings) (v : Value) : Except ConfigError Settings :=
  match Section.scan.find? v with
  | .error e => .error (.sections e)
  | .ok none => .ok s
  | .ok (some inner) =>
    match Section.scan.pairs inner with
    | .error e => .error (.sections e)
    | .ok pairs =>
      match s.scan.replace pairs with
      | .error e => .error (.field e)
      | .ok scan => .ok { s with scan := scan }

/-- Settings with the logging section of a value. -/
def Settings.replaceLogging (s : Settings) (v : Value) : Except ConfigError Settings :=
  match Section.logging.find? v with
  | .error e => .error (.sections e)
  | .ok none => .ok s
  | .ok (some inner) =>
    match Section.logging.pairs inner with
    | .error e => .error (.sections e)
    | .ok pairs => .ok { s with logging := s.logging.replace pairs }

/-- Settings with the sections of a value. -/
def Settings.replace [Runtime] (s : Settings) (v : Value) : Except ConfigError Settings :=
  match s.replaceScan v with
  | .error e => .error e
  | .ok s => s.replaceLogging v

/-- The settings of a value over defaults, and what the log says. -/
def Settings.ofValue [Runtime] (defaults : Defaults) (v : Value) :
    Except ConfigError Settings × Log :=
  match defaults.settings with
  | (.error e, log) => (.error (.defaults e), log)
  | (.ok s, log) => (s.replace v, log)

/-- The settings of a file over defaults, and what the log says. -/
def Settings.ofFile [Runtime] (d : Disk) (defaults : Defaults) (p : Path) :
    Except ConfigError Settings × Log :=
  match d.readConfig p with
  | .error e => (.error e, [])
  | .ok v => Settings.ofValue defaults v

/-- The settings of a file, if there is one, under those of an environment. -/
def Settings.load [Runtime] (d : Disk) (defaults : Defaults) (env : Environment) (p : Option Path) :
    Except ConfigError Settings × Log :=
  let (found, log) := match p with
    | some p => Settings.ofFile d defaults p
    | none => Settings.ofValue defaults (.dict [])
  match found with
  | .error e => (.error e, log)
  | .ok s =>
    match s.override env with
    | (_, some e) => (.error (.variable e), log)
    | (s, none) => (.ok s, log)

/-! ## Writing -/

/-- Why settings have no text. -/
inductive WriteFault where
  /-- The settings of the log are endless, or too deep. -/
  | tooDeep
  | yaml (fault : LibraryFault)
  | json (fault : Json.WriteFault)
  deriving Repr

def WriteFault.message : WriteFault → String
  | .tooDeep => "maximum recursion depth exceeded"
  | .yaml fault => fault.message
  | .json fault => fault.message

/-- The text of settings. -/
def Settings.write [Runtime] (s : Settings) (format : ConfigFormat) : Except WriteFault String :=
  match s.value?, format with
  | none, _ => .error .tooDeep
  | some v, .json => (Json.write v).mapError .json
  | some _, .yaml => (Runtime.dumpYaml s.copied.toPairs).mapError .yaml

/-- Why settings cannot be saved. -/
inductive SaveError where
  | unknownFormat (suffix : String)
  | unwritable (fault : WriteFault)
  | disk (error : DiskError)
  deriving Repr

def SaveError.message : SaveError → String
  | .unknownFormat suffix => (ConfigError.unknownFormat suffix).message
  | .unwritable fault => fault.message
  | .disk error => error.message

/-- Writes settings to a file, whose directories are made if need be. -/
def Settings.save [Runtime] (s : Settings) (d : Disk) (p : Path) :
    Except SaveError (Disk × String) :=
  match ConfigFormat.ofSuffix? p.suffix with
  | none => .error (.unknownFormat p.suffix)
  | some format =>
    match s.write format with
    | .error e => .error (.unwritable e)
    | .ok text =>
      match d.makeDirectories p.parent with
      | .error e => .error (.disk e)
      | .ok d =>
        match d.writeFile p (.file text.toUTF8.toList .sound) with
        | .error e => .error (.disk e)
        | .ok d => .ok (d, text)

end TabAudit
