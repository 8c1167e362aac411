import StrictFiles.Search

/-!
What surrounds a run: the file tree, the working directory, and where programs are looked for.
-/

namespace StrictFiles

structure Environment where
  tree : FileTree
  /-- The working directory; `none` when it has been removed. -/
  workingDirectory : Option Location
  /-- The path texts of directories with programs. -/
  searchPath : List Bytes

namespace Environment

/-- Where a path text leads from the working directory, without looking at the tree. Without a
working directory no path is resolved, not even an absolute one. -/
def resolve (environment : Environment) (text : Bytes) : Except SystemError Path :=
  match environment.workingDirectory with
  | none => .error .notFound
  | some place => .ok (Path.resolve text (.absolute place))

/-- The directories in which a program is looked for. The empty text stands for the directory that
the search starts from; an empty search path holds just that one. -/
def directories (environment : Environment) : List Bytes :=
  if environment.searchPath.isEmpty then [[]] else environment.searchPath

/-- The path text of a program in a directory, for running it. -/
def programText (program directory : Bytes) : Bytes :=
  if directory = [] then program else directory ++ slash :: program

/-- The path text of a program in a directory, with one slash before the program. -/
def joinedText (program directory : Bytes) : Bytes :=
  if directory.getLast? = some slash then directory ++ program else programText program directory

/-- Whether someone may run a file of this mode. -/
def isRunnable (mode : Nat) : Bool :=
  mode &&& 0o111 ≠ 0

/-- What running the file behind a path text does, seen from a directory. -/
def execution (tree : FileTree) (directory : Location) (text : Bytes) :
    Except SystemError Execution := do
  match tree.entry? (← tree.locateFrom directory text) with
  | some (.file file) =>
    if !isRunnable file.mode then throw .permissionDenied
    match file.execution with
    | some execution => pure execution
    | none => throw .badFormat
  | _ => throw .permissionDenied

/-- The first candidate that runs. What is missing, or may not be run, is passed over; the refusal
to run something is remembered. -/
def firstExecution (tree : FileTree) (directory : Location) (refusal : SystemError) :
    List Bytes → Except SystemError (Bytes × Execution)
  | [] => .error refusal
  | text :: rest =>
    match execution tree directory text with
    | .ok execution => .ok (text, execution)
    | .error .permissionDenied => firstExecution tree directory .permissionDenied rest
    | .error .notFound => firstExecution tree directory (remembered .notFound) rest
    | .error .notADirectory => firstExecution tree directory (remembered .notADirectory) rest
    | .error cause => .error cause
where
  /-- A refusal outlives what comes after it. -/
  remembered (cause : SystemError) : SystemError :=
    if refusal = .permissionDenied then refusal else cause

/-- Runs a program in a directory, and answers under which path text it was found. A name without a
slash is looked for on the search path. -/
def run (environment : Environment) (directory : Location) (program : Bytes) :
    Except SystemError (Bytes × Execution) :=
  if 0 ∈ program then .error .zeroInCommand
  else if program = [] then .error .notFound
  else if slash ∈ program then (execution environment.tree directory program).map (program, ·)
  else firstExecution environment.tree directory .notFound
    (environment.directories.map (programText program))

/-- The path text of the first runnable file with a name on the search path. -/
def findProgram? (environment : Environment) (program : Bytes) : Option Bytes :=
  (environment.directories.map (joinedText program)).find? fun text =>
    match environment.tree.locateFrom (environment.workingDirectory.getD []) text with
    | .error _ => false
    | .ok place =>
      match environment.tree.entry? place with
      | some (.file file) => isRunnable file.mode
      | _ => false

end Environment

end StrictFiles
