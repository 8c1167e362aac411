import StrictFiles.Document.Binary64

/-!
Documents: the values a configuration is made of. The members of an object keep their order.
-/

namespace StrictFiles

inductive Json
  | null
  | bool (value : Bool)
  | integer (value : Int)
  | float (value : Binary64)
  | string (text : String)
  | array (items : List Json)
  | object (members : List (String × Json))
  deriving Inhabited

/-- The members of an object, in order. -/
abbrev Members := List (String × Json)

namespace Members

def get? (members : Members) (key : String) : Option Json :=
  List.lookup key members

/-- Gives `key` a value: in the place of the one it had, else behind all other members. -/
def put (members : Members) (key : String) (value : Json) : Members :=
  match members with
  | [] => [(key, value)]
  | (k, v) :: rest => if k = key then (k, value) :: rest else (k, v) :: put rest key value

end Members

namespace Json

def members? : Json → Option Members
  | .object members => some members
  | _ => none

def string? : Json → Option String
  | .string text => some text
  | _ => none

end Json

end StrictFiles
