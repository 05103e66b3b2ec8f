import HostProvision.IoError
import HostProvision.SearchPath

/-! # File trees

A file tree holds directories, regular files and links, each under its location: the names that lead
to it from the root. `FileTree.walk` follows a path segment by segment, as the system does: a
segment may only be taken inside a directory, empty segments and `.` stay there, `..` leads back,
and links are followed up to a fixed number. The user owns all regular files, so what may be done
with one depends on the rights of its owner, and may make files below some directories only. -/

namespace HostProvision

namespace Host

/-- The names that lead from the root to a place in a file tree. -/
abbrev Location : Type :=
  List Bytes

/-- A program that comes with the host. -/
inductive Tool where
  /-- The command interpreter. -/
  | shell
  /-- Copies its input to its output. -/
  | cat
  /-- Does nothing, with success. -/
  | succeed
  /-- Does nothing, without success. -/
  | fail
  deriving DecidableEq, Repr

/-- What the owner of a file may do with it. -/
structure Rights where
  /-- Whether its content may be read. -/
  canRead : Bool
  /-- Whether its content may be changed. -/
  canWrite : Bool
  /-- Whether it may be executed. -/
  canExecute : Bool
  deriving DecidableEq, Repr

namespace Rights

/-- The rights of a mode, of which the third octal digit from the right is the owner's. -/
def ofMode (mode : Nat) : Rights :=
  let own := mode / 64
  ⟨own / 4 % 2 = 1, own / 2 % 2 = 1, own % 2 = 1⟩

/-- The rights on a file that has just been made. -/
def fresh : Rights :=
  ofMode 0o644

/-- A file that has just been made can be read and changed, but not executed. -/
@[simp] theorem fresh_eq : fresh = ⟨true, true, false⟩ := by
  decide

end Rights

/-- A file without a content of its own. -/
inductive Device where
  /-- Nothing comes out, and everything goes in. -/
  | null
  /-- Zeros come out, and everything goes in. -/
  | zero
  /-- Zeros come out, and nothing goes in. -/
  | full
  /-- A terminal, of which there is none. -/
  | terminal
  /-- Whatever a descriptor is connected to. -/
  | descriptor (number : Nat)
  deriving DecidableEq, Repr

/-- What stands at a location. -/
inductive Item where
  /-- A directory. -/
  | directory
  /-- A regular file. -/
  | file (rights : Rights) (content : Bytes)
  /-- A program of the host. -/
  | tool (tool : Tool)
  /-- A device. -/
  | device (device : Device)
  /-- A link to a path. -/
  | link (target : Bytes)
  deriving DecidableEq, Repr

/-- A tree of files, directories and links. The root is always there. -/
structure FileTree where
  /-- Everything in the tree, under its location. -/
  items : List (Location × Item)
  /-- The directories in and below which the user may make files. -/
  writable : List Location := []
  deriving Repr

namespace FileTree

/-- The tree that holds nothing but its root. -/
def empty : FileTree :=
  { items := [] }

/-- What stands at a location. -/
def item? (tree : FileTree) (location : Location) : Option Item :=
  if location = [] then some .directory else tree.items.lookup location

/-- Puts something at a location, in place of what was there. -/
def put (tree : FileTree) (location : Location) (item : Item) : FileTree :=
  { tree with items := (location, item) :: tree.items.filter fun entry => entry.1 ≠ location }

/-- Whether the user may make something in a directory. -/
def mayMakeIn (tree : FileTree) (directory : Location) : Bool :=
  tree.writable.any fun location => location.isPrefixOf directory

/-- Whether a name comes before another one or is the same, octet by octet. -/
def precedes : Bytes → Bytes → Bool
  | [], _ => true
  | _ :: _, [] => false
  | a :: as, b :: bs => a < b || (a = b && precedes as bs)

/-- The names of the entries of a directory, in order. -/
def names (tree : FileTree) (location : Location) : List Bytes :=
  let inside := tree.items.filterMap fun entry =>
    if entry.1.dropLast = location then entry.1.getLast? else none
  inside.mergeSort precedes

/-- What is put at a location other than the root stands there. -/
@[simp] theorem item?_put_self (tree : FileTree) {location : Location} (item : Item)
    (inside : location ≠ []) : (tree.put location item).item? location = some item := by
  simp [item?, put, inside]

/-- How many links a path may lead through. -/
def maxLinks : Nat := 40

/-- How many octets a name may have. -/
def maxName : Nat := 255

/-- How many octets a path may have. -/
def maxPath : Nat := 4095

/-- Where a path leads. -/
inductive Place where
  /-- To something that is there. -/
  | present (location : Location) (item : Item)
  /-- To a name that is free in an existing directory. -/
  | free (location : Location)
  deriving DecidableEq, Repr

/-- Follows the segments of a path from a directory. -/
def walk (tree : FileTree) (links : Nat) (directory : Location) (segments : List Bytes) :
    Except IoError Place :=
  match segments with
  | [] => .ok (.present directory .directory)
  | segment :: rest =>
    if segment = [] ∨ segment = [Path.dot] then tree.walk links directory rest
    else if segment = [Path.dot, Path.dot] then tree.walk links directory.dropLast rest
    else if segment.length > maxName then .error .nameTooLong
    else
      let location := directory ++ [segment]
      match tree.item? location with
      | none => if rest = [] then .ok (.free location) else .error .noSuchEntry
      | some .directory => tree.walk links location rest
      | some (.link target) =>
        match links with
        | 0 => .error .tooManyLinks
        | links + 1 =>
          -- The target counts from the directory that holds the link.
          let start := if Path.isAbsolute target then [] else directory
          tree.walk links start (target.splitOn Path.slash ++ rest)
      | some item => if rest = [] then .ok (.present location item) else .error .notADirectory
  termination_by (links, segments.length)

/-- Where a path leads from a working directory. -/
def find (tree : FileTree) (workingDirectory : Location) (path : Bytes) : Except IoError Place :=
  if path = [] then .error .noSuchEntry
  else if path.length > maxPath then .error .nameTooLong
  else
    let start := if Path.isAbsolute path then [] else workingDirectory
    tree.walk maxLinks start (path.splitOn Path.slash)

/-- An empty path leads nowhere. -/
@[simp] theorem find_nil (tree : FileTree) (workingDirectory : Location) :
    tree.find workingDirectory [] = .error .noSuchEntry :=
  rfl

/-- Where a path leads if a link at its end is not followed. A slash at the end makes it followed
nevertheless. -/
def findItself (tree : FileTree) (workingDirectory : Location) (path : Bytes) :
    Except IoError Place :=
  if path = [] then .error .noSuchEntry
  else if path.length > maxPath then .error .nameTooLong
  else
    let start := if Path.isAbsolute path then [] else workingDirectory
    let segments := path.splitOn Path.slash
    let last := segments.getLast?.getD []
    match tree.walk maxLinks start segments.dropLast with
    | .ok (.present location .directory) =>
      match tree.item? (location ++ [last]) with
      | some (.link target) =>
        if last.length > maxName then .error .nameTooLong
        else .ok (.present (location ++ [last]) (.link target))
      | _ => tree.find workingDirectory path
    | _ => tree.find workingDirectory path

/-- The regular file or program that a path leads to, if the user may execute it. -/
def executable? (tree : FileTree) (workingDirectory : Location) (path : Bytes) : Option Item :=
  match tree.find workingDirectory path with
  | .ok (.present _ (.tool tool)) => some (.tool tool)
  | .ok (.present _ (.file rights content)) =>
    if rights.canExecute then some (.file rights content) else none
  | _ => none

/-- The directory that the last segment of a path is taken in, and that segment. -/
def parent (tree : FileTree) (workingDirectory : Location) (path : Bytes) :
    Except IoError (Location × Bytes) :=
  let start := if Path.isAbsolute path then [] else workingDirectory
  let segments := path.splitOn Path.slash
  match tree.walk maxLinks start segments.dropLast with
  | .error error => .error error
  | .ok (.present location .directory) => .ok (location, segments.getLast?.getD [])
  | .ok (.present ..) => .error .notADirectory
  | .ok (.free _) => .error .noSuchEntry

/-- A path without the slashes at its end. -/
def trimSlashes (path : Bytes) : Bytes :=
  match (path.reverse.dropWhile (· = Path.slash)).reverse with
  | [] => path
  | trimmed => trimmed

/-- A file that has been opened for writing. -/
inductive Opened where
  /-- A regular file. -/
  | file (location : Location)
  /-- A device. -/
  | device (device : Device)
  deriving DecidableEq, Repr

/-- Opens a file for writing. It is made, with some rights, if it is missing. -/
def openForWriting (tree : FileTree) (workingDirectory : Location) (rights : Rights)
    (path : Bytes) : Except IoError (Opened × FileTree) :=
  if path.length > maxPath then .error .nameTooLong
  else if path.getLast? = some Path.slash then
    match tree.parent workingDirectory (trimSlashes path) with
    | .error error => .error error
    | .ok _ => .error .isADirectory
  else match tree.find workingDirectory path with
    | .error error => .error error
    | .ok (.free location) =>
      if tree.mayMakeIn location.dropLast then
        .ok (.file location, tree.put location (.file rights []))
      else .error .accessDenied
    | .ok (.present location (.file rights _)) =>
      if rights.canWrite then .ok (.file location, tree) else .error .accessDenied
    | .ok (.present _ .directory) => .error .isADirectory
    | .ok (.present _ (.device .terminal)) => .error .noSuchDevice
    | .ok (.present _ (.device device)) => .ok (.device device, tree)
    | .ok (.present _ (.tool _)) | .ok (.present _ (.link _)) => .error .accessDenied

/-- Adds octets at the end of the regular file at a location. -/
def extend (tree : FileTree) (location : Location) (octets : Bytes) : FileTree :=
  match tree.item? location with
  | some (.file rights content) => tree.put location (.file rights (content ++ octets))
  | _ => tree

/-- Adds octets at the end of a file, which is made if it is missing. -/
def append (tree : FileTree) (workingDirectory : Location) (path octets : Bytes) :
    Except IoError FileTree :=
  match tree.openForWriting workingDirectory .fresh path with
  | .error error => .error error
  | .ok (.file location, tree) => .ok (tree.extend location octets)
  | .ok (.device .full, tree) => if octets = [] then .ok tree else .error .noSpace
  | .ok (.device _, tree) => .ok tree

/-- Makes a directory whose parent is there. -/
def makeDirectory (tree : FileTree) (workingDirectory : Location) (path : Bytes) :
    Except IoError FileTree :=
  if path = [] then .error .noSuchEntry
  else if path.length > maxPath then .error .nameTooLong
  else match tree.parent workingDirectory (trimSlashes path) with
    | .error error => .error error
    | .ok (location, name) =>
      if name = [] ∨ name = [Path.dot] ∨ name = [Path.dot, Path.dot] then .error .alreadyExists
      else if name.length > maxName then .error .nameTooLong
      else match tree.item? (location ++ [name]) with
        | some _ => .error .alreadyExists
        | none =>
          if tree.mayMakeIn location then .ok (tree.put (location ++ [name]) .directory)
          else .error .accessDenied

/-- Whether a path leads to a directory. -/
def isDirectory (tree : FileTree) (workingDirectory : Location) (path : Bytes) : Bool :=
  match tree.find workingDirectory path with
  | .ok (.present _ .directory) => true
  | _ => false

/-- Makes a directory together with the parents that are missing. A directory that is there already
will do. The path is shortened by one component at a time, at most `depth` times. What has been made
stays even if the directory itself cannot be made. -/
def makeDirectories (depth : Nat) (tree : FileTree) (workingDirectory : Location) (path : Bytes) :
    Except IoError Unit × FileTree :=
  if path = [] then (.ok (), tree)
  else match tree.makeDirectory workingDirectory path with
    | .ok made => (.ok (), made)
    | .error error =>
      if error = .noSuchEntry then
        match depth, Path.parent? path with
        | depth + 1, some shorter =>
          match makeDirectories depth tree workingDirectory shorter with
          | (.error error, made) => (.error error, made)
          | (.ok (), made) =>
            match made.makeDirectory workingDirectory path with
            | .ok made => (.ok (), made)
            | .error error =>
              (if made.isDirectory workingDirectory path then .ok () else .error error, made)
        | _, _ => (.error error, tree)
      else (if tree.isDirectory workingDirectory path then .ok () else .error error, tree)

end FileTree

end Host

end HostProvision
