import StrictFiles.Config.Load
import StrictFiles.Document.Printer
import StrictFiles.Path.Relative
import StrictFiles.Tree.Edit

/-!
Adding files to a configuration. Only the `files` list of the document changes: files that no entry
leads to yet are written behind it, relative to the directory of the configuration.
-/

namespace StrictFiles

inductive UpdateFailure
  | notFound
  | notAnObject
  | invalidFiles
  /-- A file whose way from the configuration is no text. -/
  | notText (relative : Path)
  | notWritten (cause : SystemError)
  deriving DecidableEq

structure UpdateError where
  path : Path
  failure : UpdateFailure
  deriving DecidableEq

namespace UpdateError

def message (error : UpdateError) : String :=
  let path := error.path.quoted
  match error.failure with
  | .notFound => s!"project {path} disappeared before it could be updated"
  | .notAnObject => s!"project {path} is not a JSON object"
  | .invalidFiles => s!"project {path} has a `files` entry that is not a list"
  | .notText relative =>
    let file := relative.quoted
    s!"cannot express {file} as a UTF-8 `files` entry"
  | .notWritten _ => s!"unable to write project {path}"

/-- What led to the error. -/
def sources (error : UpdateError) : List String :=
  match error.failure with
  | .notWritten cause => [cause.message]
  | .notFound | .notAnObject | .invalidFiles | .notText _ => []

end UpdateError

namespace Config

/-- The `files` list of an object, empty when it has none; `none` when it has something else. -/
def entries? (members : Members) : Option (List Json) :=
  match members.get? filesKey with
  | none => some []
  | some (.array entries) => some entries
  | some _ => none

/-- The files that entries lead to. Entries that are no strings lead nowhere. -/
def listed (directory : Path) (entries : List Json) : List Path :=
  entries.filterMap fun entry => entry.string?.map (entryPath directory)

/-- The entries for files that are not listed yet, each file once. -/
def newEntries (directory : Path) (listed : List Path) :
    List Path → Except UpdateFailure (List Json)
  | [] => .ok []
  | file :: rest =>
    if file ∈ listed then newEntries directory listed rest
    else
      let relative := file.relativeTo directory
      match relative.text? with
      | none => .error (.notText relative)
      | some text => do
        let entries ← newEntries directory (file :: listed) rest
        pure (.string text :: entries)

/-- The members with the files added, and how many entries are new. -/
def addFiles (members : Members) (directory : Path) (files : List Path) :
    Except UpdateFailure (Members × Nat) :=
  match entries? members with
  | none => .error .invalidFiles
  | some entries => do
    let added ← newEntries directory (listed directory entries) files
    pure (members.put filesKey (.array (entries ++ added)), added.length)

/-- The text of a configuration file. -/
def fileText (document : Json) : List Char :=
  document.pretty 0 ++ ['\n']

/-- The document with the files added, and how many entries are new. -/
def addToDocument (document : Json) (directory : Path) (files : List Path) :
    Except UpdateFailure (Json × Nat) :=
  match document.members? with
  | none => .error .notAnObject
  | some members => do
    let (members, added) ← addFiles members directory files
    pure (.object members, added)

/-- Writes `document` with the files added to the configuration file at `path`, which must be there.
Answers the tree that is left, and the number of new entries. -/
def updateWith (tree : FileTree) (path : Path) (document : Json) (files : List Path) :
    FileTree × Except UpdateFailure Nat :=
  match tree.status path with
  | .error .notFound => (tree, .error .notFound)
  | .error cause => (tree, .error (.notWritten cause))
  | .ok _ =>
    match addToDocument document path.parent files with
    | .error failure => (tree, .error failure)
    | .ok (document, added) =>
      match tree.replaceContent path (Utf8.encode (fileText document)) with
      | (tree, .ok ()) => (tree, .ok added)
      | (tree, .error cause) => (tree, .error (.notWritten cause))

def update (tree : FileTree) (path : Path) (document : Json) (files : List Path) :
    FileTree × Except UpdateError Nat :=
  match updateWith tree path document files with
  | (tree, .ok added) => (tree, .ok added)
  | (tree, .error failure) => (tree, .error ⟨path, failure⟩)

end Config

end StrictFiles
