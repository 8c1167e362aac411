import StrictFiles.Path.Basic

/-!
Command lines. Flags stand alone, settings take a value behind them or attached, everything else is
the source directory; after `--` nothing is a flag. The value of a setting is looked at only when
the next argument has turned out to be one that is known, so an unknown argument is reported first.
-/

namespace StrictFiles

/-- What a command line asks for. -/
structure Arguments where
  project : Option Bytes
  update : Bool
  remaining : Bool
  verbose : Bool
  noColor : Bool
  tsc : Option Bytes
  /-- The names of vendor directories, when some are given. -/
  vendorDirs : List String
  /-- The extensions of source files, when some are given. -/
  extensions : List String
  source : Bytes

inductive Flag
  | update
  | remaining
  | verbose
  | noColor
  | help
  | version
  deriving DecidableEq

/-- What takes a value; the source directory is one without a name. -/
inductive Setting
  | project
  | tsc
  | vendorDir
  | extension
  | source
  deriving DecidableEq

namespace Flag

def all : List Flag := [.update, .remaining, .verbose, .noColor, .help, .version]

def long : Flag → String
  | .update => "update"
  | .remaining => "remaining"
  | .verbose => "verbose"
  | .noColor => "no-color"
  | .help => "help"
  | .version => "version"

def shown (flag : Flag) : String := "--" ++ flag.long

end Flag

namespace Setting

/-- Those that are named. -/
def named : List Setting := [.project, .tsc, .vendorDir, .extension]

def long : Setting → String
  | .project => "project"
  | .tsc => "tsc"
  | .vendorDir => "vendor-dir"
  | .extension => "extension"
  | .source => ""

def shown : Setting → String
  | .project => "--project <PROJECT>"
  | .tsc => "--tsc <TSC>"
  | .vendorDir => "--vendor-dir <VENDOR_DIRS>"
  | .extension => "--extension <EXTENSIONS>"
  | .source => "<SOURCE_PATH>"

/-- Whether a second value joins the first. -/
def isRepeatable : Setting → Bool
  | .vendorDir | .extension => true
  | .project | .tsc | .source => false

/-- Whether the value is a path, which may hold any bytes but must not be empty. -/
def isPath : Setting → Bool
  | .project | .tsc | .source => true
  | .vendorDir | .extension => false

end Setting

/-- What ends the reading of a command line early. -/
inductive UsageStop
  | unexpectedArgument (text : String)
  | unexpectedValue (value flag : String)
  | missingValue (setting : String)
  | repeated (argument : String)
  | notText
  | missingSource
  | help (long : Bool)
  | version
  deriving DecidableEq

/-- The first line of a usage error. -/
def UsageStop.headline : UsageStop → String
  | .unexpectedArgument text => s!"error: unexpected argument '{text}' found"
  | .unexpectedValue value flag =>
    s!"error: unexpected value '{value}' for '{flag}' found; no more were expected"
  | .missingValue setting => s!"error: a value is required for '{setting}' but none was supplied"
  | .repeated argument => s!"error: the argument '{argument}' cannot be used multiple times"
  | .notText => "error: invalid UTF-8 was detected in one or more arguments"
  | .missingSource => "error: the following required arguments were not provided:"
  | .help _ | .version => ""

namespace CommandLine

/-- A command line that has been read in part. -/
structure Reading where
  flags : List Flag
  values : List (Setting × Bytes)
  /-- The setting read last, with its value once that has come. -/
  pending : Option (Setting × Option Bytes)
  hasSource : Bool
  /-- Whether `--` has been read. -/
  onlyValues : Bool

namespace Reading

def start : Reading := ⟨[], [], none, false, false⟩

/-- Settles a value: it must be there, must not come twice, and must be what the setting takes. -/
def settle (reading : Reading) (setting : Setting) (value : Option Bytes) :
    Except UsageStop Reading :=
  match value with
  | none => .error (.missingValue setting.shown)
  | some value =>
    if !setting.isRepeatable && reading.values.any (·.1 = setting) then
      .error (.repeated setting.shown)
    else if setting.isPath && value.isEmpty then .error (.missingValue setting.shown)
    else if !setting.isPath && (Utf8.decode? value).isNone then .error .notText
    else .ok { reading with values := reading.values ++ [(setting, value)] }

/-- Settles what is pending. -/
def resolve (reading : Reading) : Except UsageStop Reading :=
  match reading.pending with
  | none => .ok reading
  | some (setting, value) => { reading with pending := none }.settle setting value

def lossy (bytes : Bytes) : String :=
  String.ofList (Utf8.decodeLossy bytes)

/-- A flag; `long` when it is spelled in full. -/
def readFlag (reading : Reading) (flag : Flag) (long : Bool) : Except UsageStop Reading := do
  let reading ← reading.resolve
  match flag with
  | .help => throw (.help long)
  | .version => throw .version
  | flag =>
    if flag ∈ reading.flags then throw (.repeated flag.shown)
    pure { reading with flags := flag :: reading.flags }

/-- A setting, with the value attached to it if there is one. -/
def readSetting (reading : Reading) (setting : Setting) (attached : Option Bytes) :
    Except UsageStop Reading := do
  let reading ← reading.resolve
  match attached with
  | some value => reading.settle setting (some value)
  | none => pure { reading with pending := some (setting, none) }

/-- The text before the first equals sign, and what follows the sign. -/
def splitEquals : Bytes → Bytes × Option Bytes
  | [] => ([], none)
  | b :: rest =>
    if b = 61 then ([], some rest)
    else
      let (name, value) := splitEquals rest
      (b :: name, value)

/-- An argument behind two dashes. -/
def readLong (reading : Reading) (body : Bytes) : Except UsageStop Reading :=
  let (name, attached) := splitEquals body
  match Flag.all.find? fun flag => Utf8.ofString flag.long = name with
  | some flag =>
    match attached with
    | some value => .error (.unexpectedValue (lossy value) flag.shown)
    | none => reading.readFlag flag true
  | none =>
    match Setting.named.find? fun setting => Utf8.ofString setting.long = name with
    | some setting => reading.readSetting setting attached
    | none => .error (.unexpectedArgument ("--" ++ lossy name))

/-- What follows `-p`: a value, perhaps behind an equals sign. -/
def attachedShort : Bytes → Option Bytes
  | [] => none
  | b :: rest => if b = 61 then some rest else some (b :: rest)

/-- An argument behind one dash: flags of one letter, the last of which may be a setting. -/
def readShort (reading : Reading) (body : Bytes) : Except UsageStop Reading :=
  match Utf8.pieces body with
  | .char 'h' :: _ => reading.readFlag .help false
  | .char 'V' :: _ => reading.readFlag .version false
  | .char 'p' :: _ => reading.readSetting .project (attachedShort (body.drop 1))
  | .char c :: _ => .error (.unexpectedArgument (String.ofList ['-', c]))
  | _ => .error (.unexpectedArgument ("-" ++ lossy body))

/-- An argument that is no flag: the source directory. -/
def readSource (reading : Reading) (text : Bytes) : Except UsageStop Reading :=
  if reading.hasSource then .error (.unexpectedArgument (lossy text))
  else do
    let reading ← reading.resolve
    pure { reading with pending := some (.source, some text), hasSource := true }

/-- One argument. -/
def read (reading : Reading) (argument : Bytes) : Except UsageStop Reading :=
  if reading.onlyValues then reading.readSource argument
  else match argument with
    | [45, 45] => .ok { reading with onlyValues := true }
    | 45 :: 45 :: body => reading.readLong body
    | 45 :: b :: body => reading.readShort (b :: body)
    | argument =>
      match reading.pending with
      | some (setting, none) => .ok { reading with pending := some (setting, some argument) }
      | _ => reading.readSource argument

/-- The value of a setting that comes at most once. -/
def value? (reading : Reading) (setting : Setting) : Option Bytes :=
  reading.values.lookup setting

/-- The texts of a setting that may come often. -/
def texts (reading : Reading) (setting : Setting) : List String :=
  (reading.values.filter fun known => known.1 = setting).map fun known => lossy known.2

/-- What a command line that has been read to its end asks for. -/
def finish (reading : Reading) : Except UsageStop Arguments := do
  let reading ← reading.resolve
  match reading.value? .source with
  | none => throw .missingSource
  | some source =>
    pure
      { project := reading.value? .project
        update := Flag.update ∈ reading.flags
        remaining := Flag.remaining ∈ reading.flags
        verbose := Flag.verbose ∈ reading.flags
        noColor := Flag.noColor ∈ reading.flags
        tsc := reading.value? .tsc
        vendorDirs := reading.texts .vendorDir
        extensions := reading.texts .extension
        source }

end Reading

/-- Reads the arguments behind the program's name. -/
def parse (arguments : List Bytes) : Except UsageStop Arguments := do
  let reading ← arguments.foldlM Reading.read .start
  reading.finish

end CommandLine

end StrictFiles
