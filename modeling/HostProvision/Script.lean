import HostProvision.World

/-! # Scripted hosts

A scripted host answers commands from a list of prepared replies. The replies for one command line
are used up in order, and the last of them is given for good; a command without replies succeeds in
silence. A program is found when it is on a list. Nothing takes any time, and there are no files. -/

namespace HostProvision

/-- What a scripted host has prepared. -/
structure Script where
  /-- The prepared replies, each with the command line that it is for. -/
  replies : List (String × Except IoError Reply)
  /-- The programs that are found. -/
  onPath : List String

namespace Script

/-- Takes the first reply for a command line out of a list, unless it is the only one. -/
def takeReply? (line : String) :
    List (String × Except IoError Reply) →
      Option (Except IoError Reply × List (String × Except IoError Reply))
  | [] => none
  | (command, reply) :: rest =>
    if command = line then
      if rest.any fun later => later.1 = line then some (reply, rest)
      else some (reply, (command, reply) :: rest)
    else (takeReply? line rest).map fun (found, others) => (found, (command, reply) :: others)

/-- The reply of a scripted host to a command line, and the script after it. -/
def reply (line : CommandLine) (script : Script) : Except IoError Reply × Script :=
  match takeReply? line.render script.replies with
  | some (reply, replies) => (reply, { script with replies })
  | none => (.ok Reply.success, script)

/-- A host that answers from a script. -/
def world : World Script where
  handle
    | .clock, script => ⟨.zero, [], script⟩
    | .command _ line, script =>
      let (reply, after) := script.reply line
      ⟨reply, [], after⟩
    | .lookup program, script => ⟨script.onPath.contains program, [], script⟩
    | .append .., script => ⟨.error .notOffered, [], script⟩
    | .openLogs _, script => ⟨LogOpening.noDirectory .notOffered, [], script⟩

end Script

end HostProvision
