import HostProvision.Text.Utf8

/-! # Paths and search paths

A path is an octet string. Two paths are the same when they have the same components: repeated and
trailing slashes and interior `.` components do not matter, while a leading `.` and every `..` do. A
search path is a list of directories joined by colons, so a directory with a colon has no place in
it. -/

namespace HostProvision

namespace Path

/-- The octet `/`. -/
abbrev slash : UInt8 := 0x2F

/-- The octet `.`. -/
abbrev dot : UInt8 := 0x2E

/-- A component of a path. -/
inductive Component where
  /-- The root directory, at the start of an absolute path. -/
  | root
  /-- The current directory, at the start of a relative path. -/
  | current
  /-- The parent directory. -/
  | parent
  /-- An entry of a directory. -/
  | name (octets : Bytes)
  deriving DecidableEq, Repr

/-- The component that a segment between slashes stands for: none for an empty segment and for
`.`. -/
def component? (segment : Bytes) : Option Component :=
  if segment = [] ∨ segment = [dot] then none
  else if segment = [dot, dot] then some .parent
  else some (.name segment)

/-- The component that the first segment of a path stands for. -/
def firstComponent? (segment : Bytes) (absolute : Bool) : Option Component :=
  if segment = [] then if absolute then some .root else none
  else if segment = [dot] then some .current
  else component? segment

/-- The components of a path. -/
def components (path : Bytes) : List Component :=
  match path.splitOn slash with
  | [] => []
  | first :: rest => (firstComponent? first (!rest.isEmpty)).toList ++ rest.filterMap component?

/-- Whether a path starts at the root. -/
def isAbsolute (path : Bytes) : Bool :=
  path.head? = some slash

/-- Whether two paths have the same components. -/
def same (first second : Bytes) : Bool :=
  components first = components second

/-- A path below a directory: an absolute path stands for itself. -/
def join (directory path : Bytes) : Bytes :=
  if isAbsolute path then path
  else if directory = [] ∨ directory.getLast? = some slash then directory ++ path
  else directory ++ slash :: path

/-- A component as it is written. -/
def Component.octets : Component → Bytes
  | .root => [slash]
  | .current => [dot]
  | .parent => [dot, dot]
  | .name octets => octets

/-- The path with given components, below a directory. -/
def below (directory : Bytes) (components : List Component) : Bytes :=
  components.foldl (fun path component => join path component.octets) directory

/-- A path without its last component, if it has one that can be taken off. -/
def parent? (path : Bytes) : Option Bytes :=
  match (components path).reverse with
  | [] | .root :: _ => none
  | _ :: rest => some (below [] rest.reverse)

/-- Every path is the same as itself. -/
@[simp] theorem same_refl (path : Bytes) : same path path = true := by
  simp [same]

/-- Sameness of paths is symmetric. -/
theorem same_comm (first second : Bytes) : same first second = same second first := by
  simp [same, eq_comm]

/-- Sameness of paths is transitive. -/
theorem same_trans {first second third : Bytes} (left : same first second = true)
    (right : same second third = true) : same first third = true := by
  simp_all [same]

@[simp] theorem components_nil : components [] = [] := by
  simp [components, firstComponent?]

example : components (Utf8.encode "//usr/./bin/") =
    [.root, .name (Utf8.encode "usr"), .name (Utf8.encode "bin")] := by decide +kernel
example : components (Utf8.encode "./a/../b") =
    [.current, .name (Utf8.encode "a"), .parent, .name (Utf8.encode "b")] := by decide +kernel
example : components [] = [] := by decide +kernel

end Path

namespace SearchPath

/-- The octet `:`. -/
abbrev colon : UInt8 := 0x3A

/-- The directories of a search path, as they are written. -/
def entries (path : Bytes) : List Bytes :=
  path.splitOn colon

/-- Directories joined to a search path, unless one of them holds a colon. -/
def join? (directories : List Bytes) : Option Bytes :=
  if directories.any fun directory => directory.contains colon then none
  else some ([colon].intercalate directories)

/-- The directories of a search path make it up again. -/
theorem intercalate_entries (path : Bytes) : [colon].intercalate (entries path) = path :=
  List.intercalate_splitOn colon

end SearchPath

end HostProvision
