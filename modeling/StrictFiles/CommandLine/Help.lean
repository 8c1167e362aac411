import StrictFiles.CommandLine.Arguments

/-!
The help on the command line: what the program is for, and its arguments. The short form gives each
argument a line, with all purposes in one column; the long form puts the purpose below.
-/

namespace StrictFiles

/-- What the help says about an argument. -/
structure HelpEntry where
  spelling : String
  purpose : String
  /-- What is taken when the argument is not given. -/
  fallback : Option String

/-- How much the help says. -/
inductive HelpForm
  | short
  | long
  deriving DecidableEq

namespace HelpForm

def about : HelpForm → String
  | .short => "Promote TypeScript files that type-check into a strict tsconfig's files list"
  | .long =>
    "Find TypeScript files that type-check under a (stricter) tsconfig and add them to its " ++
      "`files` list.\n\nExample: tscfc --project ../App/tsconfig.strict.json ../App/src"

/-- What the help says about itself: how to get the other form. -/
def ownPurpose : HelpForm → String
  | .short => "Print help (see more with '--help')"
  | .long => "Print help (see a summary with '-h')"

end HelpForm

namespace HelpEntry

/-- An argument without a letter, in line with those that have one. -/
def unlettered (shown : String) : String :=
  "    " ++ shown

def ofFlag (form : HelpForm) (flag : Flag) : HelpEntry :=
  match flag with
  | .update => ⟨unlettered flag.shown, "Include newly passing files in the tsconfig", none⟩
  | .remaining =>
    ⟨unlettered flag.shown, "Print every file that still fails and is not yet included", none⟩
  | .verbose => ⟨unlettered flag.shown, "Print all logs, useful for debugging", none⟩
  | .noColor => ⟨unlettered flag.shown, "Do not colorize output", none⟩
  | .help => ⟨"-h, " ++ flag.shown, form.ownPurpose, none⟩
  | .version => ⟨"-V, " ++ flag.shown, "Print version", none⟩

def ofSetting (setting : Setting) : HelpEntry :=
  match setting with
  | .project =>
    ⟨"-p, " ++ setting.shown,
      "Path to your tsconfig.json; defaults to the nearest one above the working directory", none⟩
  | .tsc =>
    ⟨unlettered setting.shown,
      "Path to the tsc executable; defaults to node_modules/.bin/tsc or tsc on PATH", none⟩
  | .vendorDir =>
    ⟨unlettered setting.shown, "Directory name whose contents are never checked",
      some "node_modules"⟩
  | .extension =>
    ⟨unlettered setting.shown, "Extension of the source files to check", some "ts"⟩
  | .source => ⟨setting.shown, "Directory containing the source files to check", none⟩

/-- The named arguments in the order of the help. -/
def options (form : HelpForm) : List HelpEntry :=
  [ofSetting .project, ofFlag form .update, ofFlag form .remaining, ofFlag form .verbose,
    ofFlag form .noColor, ofSetting .tsc, ofSetting .vendorDir, ofSetting .extension,
    ofFlag form .help, ofFlag form .version]

def defaultText (entry : HelpEntry) : Option String :=
  entry.fallback.map fun value => s!"[default: {value}]"

/-- The entry on one line, its purpose behind a column of so many characters. -/
def line (width : Nat) (entry : HelpEntry) : String :=
  let padding := "".pushn ' ' (width - entry.spelling.length + 2)
  let fallback := (entry.defaultText.map fun text => " " ++ text).getD ""
  "  " ++ entry.spelling ++ padding ++ entry.purpose ++ fallback ++ "\n"

def indent : String := "".pushn ' ' 10

/-- The entry with its purpose below it. -/
def block (entry : HelpEntry) : String :=
  let fallback := (entry.defaultText.map fun text =>
    "\n" ++ indent ++ "\n" ++ indent ++ text).getD ""
  "  " ++ entry.spelling ++ "\n" ++ indent ++ entry.purpose ++ fallback ++ "\n"

/-- Entries under each other. -/
def list (form : HelpForm) (entries : List HelpEntry) : String :=
  match form with
  | .short =>
    let width := entries.foldl (fun width entry => max width entry.spelling.length) 0
    String.join (entries.map (line width))
  | .long => "\n".intercalate (entries.map block)

end HelpEntry

namespace CommandLine

def usage : String := "Usage: tscfc [OPTIONS] <SOURCE_PATH>"

def help (form : HelpForm) : String :=
  form.about ++ "\n\n" ++ usage ++ "\n\nArguments:\n" ++
    HelpEntry.list form [HelpEntry.ofSetting .source] ++
    "\nOptions:\n" ++ HelpEntry.list form (HelpEntry.options form)

def version : String := "tscfc 0.0.0-semantic-release-managed"

end CommandLine

end StrictFiles
