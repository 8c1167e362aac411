import StrictFiles.Path.Basic
import StrictFiles.Text.CharClass

/-!
Glob patterns over path texts. `*` and `?` stay inside a segment, `**` as a whole segment spans any
number of them, classes and alternatives work as in a shell. A pattern is a list of tokens; a token
answers which rests of a text it leaves.
-/

namespace StrictFiles

/-- What is wrong with a pattern. -/
inductive GlobFault
  | unclosedClass
  | invalidRange (low high : Char)
  | unopenedAlternates
  | unclosedAlternates
  | danglingEscape
  deriving DecidableEq

def GlobFault.message : GlobFault → String
  | .unclosedClass => "unclosed character class; missing ']'"
  | .invalidRange low high =>
    String.ofList
      ("invalid range; '".toList ++ [low] ++ "' > '".toList ++ [high] ++ ['\x27'])
  | .unopenedAlternates =>
    "unopened alternate group; missing '\x7b' (maybe escape '\x7d' with '[\x7d]'?)"
  | .unclosedAlternates =>
    "unclosed alternate group; missing '\x7d' (maybe escape '\x7b' with '[\x7b]'?)"
  | .danglingEscape => "dangling '\\'"

/-- A range of bytes, both ends included. -/
structure ByteRange where
  low : UInt8
  high : UInt8

inductive GlobToken
  | bytes (spelling : Bytes)
  /-- One byte of a segment. -/
  | any
  /-- Any part of a segment. -/
  | many
  /-- Any number of whole segments at the start. -/
  | leadingSegments
  /-- A slash and any bytes behind it. -/
  | trailingSegments
  /-- A slash, or two with any segments between them. -/
  | innerSegments
  | oneOf (negated : Bool) (ranges : List ByteRange)
  | either (branches : List (List GlobToken))

/-- One line of an ignore file, read as what it selects. -/
structure Glob where
  tokens : List GlobToken
  directoriesOnly : Bool

namespace Glob

/-- The text itself and what is left of it after each of its bytes. -/
def rests : Bytes → List Bytes
  | [] => [[]]
  | b :: rest => (b :: rest) :: rests rest

/-- The same within the first segment. -/
def restsInSegment : Bytes → List Bytes
  | [] => [[]]
  | b :: rest => if b = slash then [b :: rest] else (b :: rest) :: restsInSegment rest

/-- What follows each slash. -/
def restsBehindSlash : Bytes → List Bytes
  | [] => []
  | b :: rest => if b = slash then rest :: restsBehindSlash rest else restsBehindSlash rest

def stripBytes : Bytes → Bytes → Option Bytes
  | [], text => some text
  | s :: spelling, b :: text => if s = b then stripBytes spelling text else none
  | _ :: _, [] => none

mutual

/-- What a token can leave of a text. -/
def leaves : GlobToken → Bytes → List Bytes
  | .bytes spelling, text => (stripBytes spelling text).toList
  | .any, b :: rest => if b = slash then [] else [rest]
  | .any, [] => []
  | .many, text => restsInSegment text
  | .leadingSegments, text => text :: restsBehindSlash text
  | .trailingSegments, b :: rest => if b = slash then rests rest else []
  | .trailingSegments, [] => []
  | .innerSegments, b :: rest => if b = slash then rest :: restsBehindSlash rest else []
  | .innerSegments, [] => []
  | .oneOf negated ranges, b :: rest =>
    let member := ranges.any fun range => range.low ≤ b && b ≤ range.high
    if member != negated then [rest] else []
  | .oneOf _ _, [] => []
  | .either branches, text => leavesOfAny branches text

/-- What a list of tokens can leave of a text. -/
def leavesAfter : List GlobToken → Bytes → List Bytes
  | [], text => [text]
  | token :: tokens, text => ((leaves token text).flatMap (leavesAfter tokens)).eraseDups

/-- What one of several branches can leave of a text. -/
def leavesOfAny : List (List GlobToken) → Bytes → List Bytes
  | [], _ => []
  | branch :: branches, text => leavesAfter branch text ++ leavesOfAny branches text

end

/-- Whether tokens match a whole text. -/
def matchesAll (tokens : List GlobToken) (text : Bytes) : Bool :=
  [] ∈ leavesAfter tokens text

/-- Class members as byte ranges. A character of several bytes contributes each of them, and a range
lies between the last byte of its low end and the first of its high end. -/
def byteRanges (low high : Char) : List ByteRange :=
  if low = high then (Utf8.encodeChar low).map fun b => ⟨b, b⟩
  else
    let lows := Utf8.encodeChar low
    let highs := Utf8.encodeChar high
    lows.dropLast.map (fun b => ⟨b, b⟩) ++
      [⟨lows.getLast?.getD 0, highs.head?.getD 0⟩] ++ (highs.drop 1).map fun b => ⟨b, b⟩

/-- Members of a class: ranges in reverse, and whether the last one waits for its high end. -/
structure ClassState where
  first : Bool
  ranges : List (Char × Char)
  pending : Bool

def ClassState.add (state : ClassState) (c : Char) : Except GlobFault ClassState :=
  match state.pending, state.ranges with
  | true, (low, _) :: rest =>
    if c < low then .error (.invalidRange low c) else .ok ⟨false, (low, c) :: rest, false⟩
  | _, ranges => .ok ⟨false, (c, c) :: ranges, false⟩

/-- The members of a class up to its closing bracket, and what follows the bracket. A bracket in
first place and a dash in first or last place stand for themselves. -/
def classMembers (state : ClassState) : List Char →
    Except GlobFault (List (Char × Char) × List Char)
  | [] => .error .unclosedClass
  | c :: rest =>
    if c = ']' ∧ !state.first then
      .ok ((if state.pending then ('-', '-') :: state.ranges else state.ranges).reverse, rest)
    else if c = '-' ∧ !state.first ∧ !state.pending then
      classMembers { state with pending := true } rest
    else do classMembers (← state.add c) rest

/-- A class behind its opening bracket. -/
def classToken (text : List Char) : Except GlobFault (GlobToken × List Char) :=
  let (negated, members) := match text with
    | '!' :: rest => (true, rest)
    | '^' :: rest => (true, rest)
    | text => (false, text)
  match classMembers ⟨true, [], false⟩ members with
  | .error fault => .error fault
  | .ok (ranges, rest) =>
    .ok (.oneOf negated (ranges.flatMap fun range => byteRanges range.1 range.2), rest)

/-- A group of alternatives that is open: the branches before the current one, in reverse, and the
tokens in front of the group. Tokens are kept in reverse. -/
structure OpenGroup where
  before : List (List GlobToken)
  outside : List GlobToken

/-- A pattern that has been read in part. -/
structure GlobState where
  groups : List OpenGroup
  tokens : List GlobToken
  previous : Option Char

/-- How a run of two stars counts, by what surrounds it, and what it leaves unread. -/
def doubleStar (state : GlobState) (before : Option Char) (rest : List Char) :
    List GlobToken × List Char :=
  let plain := (.many :: .many :: state.tokens, rest)
  let behindSlash := before = some '/'
  let atBranchStart := !state.groups.isEmpty && (before = some ',' || before = some '\x7b')
  match state.tokens with
  | [] =>
    match rest with
    | [] => ([.leadingSegments], [])
    | '/' :: rest => ([.leadingSegments], rest)
    | _ => plain
  | last :: tokens =>
    if !behindSlash && !atBranchStart then plain
    else
      let merged (token : GlobToken) : List GlobToken := match last with
        | .leadingSegments => .leadingSegments :: tokens
        | .trailingSegments => .trailingSegments :: tokens
        | _ => token :: tokens
      match rest with
      | [] => (merged .trailingSegments, [])
      | '/' :: rest => (merged .innerSegments, rest)
      | c :: _ =>
        if (c = ',' || c = '\x7d') && !state.groups.isEmpty then (merged .trailingSegments, rest)
        else plain

/-- The tokens once a group is closed behind its last branch. Empty branches do not count, and a group
of nothing else stands for nothing. -/
def closeGroup (group : OpenGroup) (branch : List GlobToken) : List GlobToken :=
  match (branch :: group.before).reverse.filter (!·.isEmpty) with
  | [] => group.outside
  | branches => .either (branches.map List.reverse) :: group.outside

/-- Reads a pattern; each step takes at least one character. -/
def readTokens : (steps : Nat) → GlobState → List Char → Except GlobFault (List GlobToken)
  | _, state, [] =>
    if state.groups.isEmpty then .ok state.tokens.reverse else .error .unclosedAlternates
  | 0, state, _ => .ok state.tokens.reverse
  | steps + 1, state, c :: rest =>
    let push (token : GlobToken) (previous : Char) (rest : List Char) :=
      readTokens steps { state with tokens := token :: state.tokens, previous := some previous } rest
    match c, rest with
    | '?', _ => push .any c rest
    | '*', '*' :: behind =>
      let (tokens, behind') := doubleStar state state.previous behind
      let previous := if behind'.length < behind.length then '/' else '*'
      readTokens steps { state with tokens, previous := some previous } behind'
    | '*', _ => push .many c rest
    | '[', _ =>
      match classToken rest with
      | .error fault => .error fault
      | .ok (token, behind) => push token ']' behind
    | '\x7b', _ =>
      readTokens steps ⟨⟨[], state.tokens⟩ :: state.groups, [], some c⟩ rest
    | '\x7d', _ =>
      match state.groups with
      | [] => .error .unopenedAlternates
      | group :: groups =>
        readTokens steps ⟨groups, closeGroup group state.tokens, some c⟩ rest
    | ',', _ =>
      match state.groups with
      | [] => push (.bytes (Utf8.encodeChar c)) c rest
      | group :: groups =>
        readTokens steps ⟨⟨state.tokens :: group.before, group.outside⟩ :: groups, [], some c⟩ rest
    | '\\', [] => .error .danglingEscape
    | '\\', e :: behind => push (.bytes (Utf8.encodeChar e)) e behind
    | c, _ => push (.bytes (Utf8.encodeChar c)) c rest

def readPattern (pattern : List Char) : Except GlobFault (List GlobToken) :=
  readTokens pattern.length ⟨[], [], none⟩ pattern

/-- Blanks at the end do not count, unless the last one is escaped. -/
def trimmed (line : List Char) : List Char :=
  if [' ', '\\'].isPrefixOf line.reverse then line
  else (line.reverse.dropWhile CharClass.blank.has).reverse

/-- Reads a line that starts with neither `#`, `!` nor a slash, and holds a slash. One at its end
says that only directories are meant; everything below a directory does not mean the directory. -/
def ofLine (line : List Char) : Except GlobFault Glob :=
  let directoriesOnly := line.getLast? = some '/'
  let body :=
    if directoriesOnly then
      let body := line.dropLast
      if body.getLast? = some '\\' then body.dropLast else body
    else line
  let body := if "**/".toList.isPrefixOf body.reverse then body ++ ['/', '*'] else body
  match readPattern body with
  | .error fault => .error fault
  | .ok tokens => .ok ⟨tokens, directoriesOnly⟩

/-- Whether a file at `path`, relative to the root, is selected. -/
def selectsFile (glob : Glob) (path : Bytes) : Bool :=
  !glob.directoriesOnly && matchesAll glob.tokens path

end Glob

end StrictFiles
