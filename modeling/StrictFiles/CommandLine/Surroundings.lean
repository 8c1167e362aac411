import StrictFiles.Environment
import StrictFiles.Document.Value
import StrictFiles.Tree.Edit

/-!
What surrounds a run, as a document. Its members are the working directory, the `searchPath`, the
`files` with their texts, and the `programs` with what each of them prints and the code it ends
with. Directories follow from what lies in them.
-/

namespace StrictFiles

namespace Environment

/-- The text of a member; empty when there is none. -/
def textIn (members : Members) (key : String) : Bytes :=
  match members.get? key with
  | some (.string text) => Utf8.ofString text
  | _ => []

/-- The members of a member; none when it is no object. -/
def membersIn (members : Members) (key : String) : Members :=
  match members.get? key with
  | some (.object found) => found
  | _ => []

/-- Writes a file, making the directories above it. -/
def place (tree : FileTree) (path bytes : Bytes) (execution : Option Execution) :
    Except SystemError FileTree :=
  match tree.makeDirectories (FileTree.parentText path) with
  | (tree, .ok ()) => tree.writeFile path bytes execution
  | (_, .error cause) => .error cause

def addFile (tree : FileTree) (path : String) (content : Json) :
    Except SystemError FileTree :=
  match content.string? with
  | some text => place tree (Utf8.ofString path) (Utf8.ofString text) none
  | none => .error .notText

/-- What running a program does, as its description says. -/
def describedExecution (members : Members) : Execution :=
  let code := match members.get? "exit" with
    | some (.integer n) => UInt8.ofInt n
    | _ => 0
  ⟨textIn members "stdout", textIn members "stderr", .exited code⟩

def addProgram (tree : FileTree) (path : String) (description : Json) :
    Except SystemError FileTree := do
  let execution := describedExecution (description.members?.getD [])
  let tree ← place tree (Utf8.ofString path) [] (some execution)
  tree.changeMode (Utf8.ofString path) 0o755

/-- The environment that a document describes. -/
def ofDocument (document : Json) : Except SystemError Environment := do
  let members := document.members?.getD []
  let directory := textIn members "workingDirectory"
  let start := (FileTree.empty.makeDirectories directory).1
  let tree ← (membersIn members "files").foldlM
    (fun tree (path, content) => addFile tree path content) start
  let tree ← (membersIn members "programs").foldlM
    (fun tree (path, description) => addProgram tree path description) tree
  let searchPath := match members.get? "searchPath" with
    | some (.array items) => items.filterMap fun item => item.string?.map Utf8.ofString
    | _ => []
  let workingDirectory := if directory = [] then none else (tree.locateFrom [] directory).toOption
  pure { tree, workingDirectory, searchPath }

end Environment

namespace FileTree

/-- The files of a tree that are new in it, or changed. -/
def changedSince (before after : FileTree) : List (Path × Bytes) :=
  after.entries.filterMap fun (place, entry) =>
    match entry with
    | .file file => if before.entry? place = some entry then none else some (.absolute place, file.bytes)
    | _ => none

end FileTree

end StrictFiles
