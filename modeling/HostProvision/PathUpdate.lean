import HostProvision.Failure
import HostProvision.SearchPath
import HostProvision.Text.Quoted

/-! # Updates of the search path

An update puts one directory in front of a search path. `apply` gives the new search path and drops
later copies of the directory, so that repeated updates do not make the path grow; `exportLine` is a
line by which a shell makes the same change. -/

namespace HostProvision

/-- A directory to put in front of a search path. -/
@[ext] structure PathUpdate where
  /-- The directory, as it is written. -/
  directory : Bytes
  deriving DecidableEq, Repr

namespace PathUpdate

/-- The directories after an update: the new one, and then those it is not the same as. -/
def updatedEntries (update : PathUpdate) (current : List Bytes) : List Bytes :=
  update.directory :: current.filter fun entry => !Path.same entry update.directory

/-- The directory as a reader sees it. -/
def shown (update : PathUpdate) : String :=
  Utf8.lossy update.directory

/-- The search path after an update; without a search path before, the directory alone. -/
def apply (update : PathUpdate) (current : Option Bytes) : Except Failure Bytes :=
  match SearchPath.join? (update.updatedEntries ((current.map SearchPath.entries).getD [])) with
  | some path => .ok path
  | none =>
    .error (.settings
      ("Cannot add " ++ update.shown ++ " to PATH: path segment contains separator `:`"))

/-- A line by which a shell puts the directory in front of its search path. -/
def exportLine (update : PathUpdate) : String :=
  "export PATH=\"" ++ update.shown ++ ":$PATH\""

/-- An update as diagnostics show it. -/
def diagnostic (update : PathUpdate) : String :=
  "PathUpdate \x7b dir: " ++ Text.quoted update.directory ++ " \x7d"

/-- The directory comes first. -/
@[simp] theorem head?_updatedEntries (update : PathUpdate) (current : List Bytes) :
    (update.updatedEntries current).head? = some update.directory :=
  rfl

end PathUpdate

end HostProvision
