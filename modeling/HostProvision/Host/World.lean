import HostProvision.Host.Machine
import HostProvision.Text.Blank
import HostProvision.World

/-! # Machines as worlds

A machine answers the requests of procedures: it runs commands on its files, looks programs up and
keeps what is written. Its clock stands still. What it tells on the way are the log messages about
the commands that it runs and, for a streamed command, what that command prints. -/

namespace HostProvision

namespace Host

/-- The location of an absolute path without links. -/
def locationOf (path : String) : Location :=
  (Path.components (Utf8.encode path)).filterMap fun component =>
    match component with
    | .name octets => some octets
    | _ => none

/-- The files of every machine: a shell, a few tools and some devices. Only in the directory for
temporary files may the user make anything. -/
def FileTree.standard : FileTree :=
  let directories :=
    ["/boot", "/dev", "/dev/fd", "/etc", "/home", "/media", "/mnt", "/opt", "/proc", "/root",
     "/run", "/srv", "/sys", "/tmp", "/usr", "/usr/bin", "/usr/lib", "/usr/local",
     "/usr/local/bin", "/usr/sbin", "/usr/share", "/var", "/var/log", "/var/tmp"]
  let tools : List (String × Tool) :=
    [("sh", .shell), ("dash", .shell), ("cat", .cat), ("true", .succeed), ("false", .fail)]
  let links := ["bin", "lib", "sbin"]
  let devices : List (String × Device) :=
    [("null", .null), ("zero", .zero), ("full", .full), ("tty", .terminal),
     ("stdin", .descriptor 0), ("stdout", .descriptor 1), ("stderr", .descriptor 2)]
  let items :=
    directories.map (fun path => (path, Item.directory)) ++
      links.map (fun name => ("/" ++ name, .link (Utf8.encode ("usr/" ++ name)))) ++
      tools.map (fun (name, tool) => ("/usr/bin/" ++ name, .tool tool)) ++
      devices.map (fun (name, device) => ("/dev/" ++ name, .device device)) ++
      (List.range 10).map fun number =>
        ("/dev/fd/" ++ toString number, .device (.descriptor number))
  { items := items.map fun (path, item) => (locationOf path, item)
    writable := ["/tmp", "/var/tmp"].map locationOf }

namespace Machine

/-- Runs a command and keeps what it prints. -/
def capture (machine : Machine) (line : CommandLine) : Answered Machine (Except IoError Reply) :=
  match machine.execute line with
  | .error cause =>
    ⟨.error cause, [.event (.capturing line), .event (.cannotRun line cause)], machine⟩
  | .ok (finished, machine) =>
    let complaints := Text.trimText (Utf8.lossy finished.diagnostics)
    let troubles : List Event :=
      if finished.ending.succeeded then []
      else .endedBadly line finished.ending ::
        if complaints.isEmpty then [] else [.complaints complaints]
    ⟨.ok finished.captured, (.capturing line :: troubles).map .event, machine⟩

/-- Runs a command and shows what it prints. -/
def stream (machine : Machine) (line : CommandLine) : Answered Machine (Except IoError Reply) :=
  match machine.execute line with
  | .error cause =>
    ⟨.error cause, [.event (.streaming line), .event (.cannotRun line cause)], machine⟩
  | .ok (finished, machine) =>
    let troubles : List Notice :=
      if finished.ending.succeeded then [] else [.event (.endedBadly line finished.ending)]
    ⟨.ok ⟨finished.ending.code?, ""⟩,
      .event (.streaming line) :: .diagnostics finished.printed :: troubles, machine⟩

/-- Adds octets at the end of a file. What is added to a device that leads to one of the machine's
own streams is shown there. -/
def append (machine : Machine) (file content : Bytes) : Answered Machine (Except IoError Unit) :=
  let shown : List Notice := match machine.find file with
    | .ok (.present _ (.device (.descriptor 1))) => [.output (Utf8.lossy content)]
    | .ok (.present _ (.device (.descriptor 2))) => [.diagnostics content]
    | _ => []
  match machine.tree.append machine.workingDirectory file content with
  | .error cause => ⟨.error cause, [], machine⟩
  | .ok tree => ⟨.ok (), shown, { machine with tree }⟩

/-- The log file of the day on which the clock stands. -/
def logFileName : Bytes :=
  LogOpening.fileName "1970-01-01"

/-- Makes a directory and opens a log file in it. Of a log file that cannot be opened only the cause
is told. -/
def openLogs (machine : Machine) (directory : Bytes) : Answered Machine LogOpening :=
  let depth := (Path.components directory).length
  match FileTree.makeDirectories depth machine.tree machine.workingDirectory directory with
  | (.error cause, tree) => ⟨.noDirectory cause, [], { machine with tree }⟩
  | (.ok (), tree) =>
    match tree.append machine.workingDirectory (Path.join directory logFileName) [] with
    | .error cause => ⟨.noFile (Utf8.encode (cause.message ++ "\n")), [], { machine with tree }⟩
    | .ok tree => ⟨.opened, [], { machine with tree }⟩

/-- A machine as a world. -/
def world : World Machine where
  handle
    | .clock, machine => ⟨.zero, [], machine⟩
    | .command .capture line, machine => machine.capture line
    | .command .stream line, machine => machine.stream line
    | .lookup program, machine =>
      let result := machine.lookup (Utf8.encode program)
      ⟨result.isFound, [.event (.lookedUp program result)], machine⟩
    | .append file content, machine => machine.append file content
    | .openLogs directory, machine => machine.openLogs directory

end Machine

end Host

end HostProvision
