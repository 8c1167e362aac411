import StrictFiles.Path.Basic

/-!
The way from one path to another: climb out of what is not shared, then go down.
-/

namespace StrictFiles

/-- A step of a path: the root, a climb, or a name. -/
inductive Part
  | root
  | up
  | name (name : Name)
  deriving DecidableEq

namespace Path

def parts : Path → List Part
  | .absolute names => .root :: names.map .name
  | .relative climbs names => List.replicate climbs .up ++ names.map .name

/-- The number of leading parts that two lists share. -/
def sharedLength : List Part → List Part → Nat
  | p :: ps, q :: qs => if p = q then sharedLength ps qs + 1 else 0
  | _, _ => 0

/-- A path with one more part written behind it; the root replaces all that stands before. -/
def append : Path → Part → Path
  | _, .root => .root
  | path, .up => path.push .up
  | path, .name n => path.push (.name n)

/-- The path that leads from `base` to `target`. -/
def relativeTo (target base : Path) : Path :=
  let shared := sharedLength base.parts target.parts
  (target.parts.drop shared).foldl append (.relative (base.parts.length - shared) [])

end Path

end StrictFiles
