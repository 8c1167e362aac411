import StrictFiles.Distinct
import StrictFiles.Document.Reader
import StrictFiles.Text.Quoted
import StrictFiles.Tree.Lookup

/-!
A project configuration: a document in a file, with the files it declares. Loading fails with the
first thing that is wrong: the file does not open, does not read as text, is no document, is no
object, or declares something other than a list of paths.
-/

namespace StrictFiles

structure Config where
  path : Path
  /-- The directory that declared files are relative to. -/
  directory : Path
  compilerOptions : Json
  /-- The declared files, each once, in the order of their first declaration. -/
  declared : List Path
  document : Json

namespace Config

def filesKey : String := "files"

def compilerOptionsKey : String := "compilerOptions"

def extendsKey : String := "extends"

/-- What the configuration inherits from, as it stands in the document. -/
def inherited? (config : Config) : Option Json := do
  (← config.document.members?).get? extendsKey

/-- The name of the file, for display. -/
def fileName (config : Config) : String :=
  match config.path.fileName? with
  | some name => String.ofList (Utf8.decodeLossy name.bytes)
  | none => config.path.display

end Config

inductive LoadFailure
  | notFound
  | notOpened (cause : SystemError)
  | notRead (cause : SystemError)
  | notParsed
  | notAnObject
  | invalidFiles
  deriving DecidableEq

structure LoadError where
  path : Path
  failure : LoadFailure
  deriving DecidableEq

/-- A path between quotes. -/
def Path.quoted (path : Path) : String :=
  String.ofList (Quoted.path path.toBytes)

namespace LoadError

def message (error : LoadError) : String :=
  let path := error.path.quoted
  match error.failure with
  | .notFound =>
    s!"provided project path {path} doesn't exist, make sure that the project path is correct"
  | .notOpened _ | .notRead _ =>
    s!"cannot read provided project path {path}, make sure that the project path is correct"
  | .notParsed => s!"cannot parse provided project {path}, make sure that the tsconfig is valid"
  | .notAnObject => s!"project {path} is not a JSON object"
  | .invalidFiles => s!"project {path} has a `files` entry that is not a list of paths"

/-- What led to the error, nearest first. -/
def sources (error : LoadError) : List String :=
  let path := error.path.quoted
  match error.failure with
  | .notOpened cause => [s!"unable to open file {path}", cause.message]
  | .notRead cause => [s!"unable to read file {path}", cause.message]
  | .notParsed => [s!"unable to parse file {path}"]
  | .notFound | .notAnObject | .invalidFiles => []

end LoadError

namespace Config

/-- The document in the file at a path. -/
def readDocument (tree : FileTree) (path : Path) : Except LoadFailure Json :=
  match tree.status path with
  | .error .notFound => .error .notFound
  | .error cause => .error (.notOpened cause)
  | .ok entry =>
    match FileTree.textOf entry with
    | .error cause => .error (.notRead cause)
    | .ok text =>
      match Json.read? text with
      | none => .error .notParsed
      | some document => .ok document

/-- The texts of a list of strings; `none` when another value is among them. -/
def strings? : List Json → Option (List String)
  | [] => some []
  | item :: rest => do
    let text ← item.string?
    let texts ← strings? rest
    some (text :: texts)

/-- Where an entry of the `files` list leads. -/
def entryPath (directory : Path) (entry : String) : Path :=
  Path.resolve (Utf8.ofString entry) directory

/-- The files that the members of a document declare. Without a `files` list there are none. -/
def declaredIn? (directory : Path) (members : Members) : Option (List Path) :=
  match members.get? filesKey with
  | none => some []
  | some (.array entries) =>
    (strings? entries).map fun texts => distinct (texts.map (entryPath directory))
  | some _ => none

/-- The configuration that a document at a path is. -/
def ofDocument (path : Path) (document : Json) : Except LoadFailure Config :=
  match document.members? with
  | none => .error .notAnObject
  | some members =>
    match declaredIn? path.parent members with
    | none => .error .invalidFiles
    | some declared =>
      .ok
        { path
          directory := path.parent
          compilerOptions := (members.get? compilerOptionsKey).getD (.object [])
          declared
          document }

def load (tree : FileTree) (path : Path) : Except LoadError Config :=
  match readDocument tree path >>= ofDocument path with
  | .ok config => .ok config
  | .error failure => .error ⟨path, failure⟩

end Config

end StrictFiles
