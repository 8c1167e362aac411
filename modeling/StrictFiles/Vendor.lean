import StrictFiles.Path.Basic

/-!
Directories whose content belongs to others. A file below one of them is never checked.
-/

namespace StrictFiles

/-- The names of vendor directories. -/
structure VendorFilter where
  directories : List Bytes
  deriving DecidableEq

namespace VendorFilter

def ofStrings (names : List String) : VendorFilter :=
  ⟨names.map Utf8.ofString⟩

def default : VendorFilter :=
  ofStrings ["node_modules"]

/-- Whether a whole segment names a vendor directory. -/
def hasSegment (filter : VendorFilter) : Segment → Bool
  | .up => false
  | .name n => filter.directories.contains n.bytes

/-- Whether a path text passes through a vendor directory, without normalizing it first. -/
def coversText (filter : VendorFilter) (text : Bytes) : Bool :=
  (segments text).any filter.hasSegment

/-- Whether a path passes through a vendor directory. -/
def covers (filter : VendorFilter) (path : Path) : Bool :=
  path.names.any fun n => filter.directories.contains n.bytes

end VendorFilter

end StrictFiles
