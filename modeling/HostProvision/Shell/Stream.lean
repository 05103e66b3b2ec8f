import HostProvision.Host.Launch

/-! # Streams

A descriptor of a process is connected to a `Stream`: what the first process prints, what another
process collects, a text, a file or a device. `Shared` holds what all processes of a run have in
common: the files, how far each stream has been read or written, and what has been printed. -/

namespace HostProvision

namespace Shell

open Host (Device FileTree Location)

/-- Where the octets go that a run prints. -/
inductive Sink where
  /-- The output. -/
  | output
  /-- The diagnostics. -/
  | diagnostics
  deriving DecidableEq, Repr

/-- What a stream leads to. -/
inductive Channel where
  /-- What the run prints. -/
  | printed (sink : Sink)
  /-- What somebody collects, by number. -/
  | collected (number : Nat)
  /-- A text that is read once, by number. -/
  | text (number : Nat)
  /-- A file, with the number of its position. -/
  | file (location : Location) (number : Nat) (isAtEnd : Bool)
  /-- A device. -/
  | device (device : Device)
  deriving DecidableEq, Repr

/-- The number that a channel has among texts and positions in files. -/
def Channel.number? : Channel → Option Nat
  | text number | file _ number _ => some number
  | _ => none

/-- What a descriptor is connected to. -/
structure Stream where
  /-- What the stream leads to. -/
  channel : Channel
  /-- Whether it may be read. -/
  canRead : Bool
  /-- Whether it may be written. -/
  canWrite : Bool
  deriving DecidableEq, Repr

namespace Stream

/-- A stream that may be written. -/
def writing (channel : Channel) : Stream :=
  ⟨channel, false, true⟩

/-- A stream that may be read. -/
def reading (channel : Channel) : Stream :=
  ⟨channel, true, false⟩

end Stream

/-- What has been collected of what processes print. -/
structure Collection where
  /-- What has been collected, last first. -/
  chunks : List Bytes := []
  /-- How many octets have been collected. -/
  size : Nat := 0
  /-- How many octets may be collected before somebody has to read them. -/
  limit : Option Nat

/-- What has been collected, in order. -/
def Collection.octets (collection : Collection) : Bytes :=
  collection.chunks.reverse.flatten

/-- Why octets cannot be written. -/
inductive WriteFailure where
  /-- The stream does not take them. -/
  | refused
  /-- Nobody reads them. -/
  | unread
  deriving DecidableEq, Repr

/-- What all processes of a run have in common. -/
structure Shared where
  /-- The files. -/
  tree : FileTree
  /-- What has been printed, last first. -/
  printed : List (Sink × Bytes) := []
  /-- The collections under way, by number. -/
  collected : List (Nat × Collection) := []
  /-- What is left of texts, by number. -/
  texts : List (Nat × Bytes) := []
  /-- The positions in files, by number. -/
  positions : List (Nat × Nat) := []
  /-- How many numbers have been given to collections, texts and positions. -/
  numberCount : Nat := 0
  /-- The greatest number of a process so far. -/
  lastProcess : Nat
  /-- The processes that have not ended, or whose end nobody has asked for. -/
  live : List Nat
  /-- How many commands may still be carried out. -/
  steps : Nat
  /-- The signals that have been sent and not received, each with the process that it was sent
  to. -/
  signals : List (Nat × Nat) := []

namespace Shared

/-- An entry of a list in place of the one of the same number. -/
def replace {α : Type} (number : Nat) (value : α) : List (Nat × α) → List (Nat × α)
  | [] => [(number, value)]
  | entry :: rest =>
    if entry.1 = number then (number, value) :: rest else entry :: replace number value rest

/-- What has just been put under a number is found there. -/
@[simp] theorem lookup_replace {α : Type} (number : Nat) (value : α) (entries : List (Nat × α)) :
    (replace number value entries).lookup number = some value := by
  induction entries with
  | nil => simp [replace]
  | cons entry rest ih =>
    obtain ⟨key, kept⟩ := entry
    by_cases same : key = number
    · simp [replace, same]
    · have other : (number == key) = false := by simpa using fun h => same h.symm
      simp [replace, same, List.lookup_cons, other, ih]

/-- Begins a collection. -/
def collect (shared : Shared) (limit : Option Nat) : Nat × Shared :=
  (shared.numberCount,
    { shared with
      collected := (shared.numberCount, { limit }) :: shared.collected
      numberCount := shared.numberCount + 1 })

/-- Ends a collection, with what has been collected. -/
def finishCollection (shared : Shared) (number : Nat) : Bytes × Shared :=
  (((shared.collected.lookup number).map Collection.octets).getD [],
    { shared with collected := shared.collected.filter fun entry => entry.1 ≠ number })

/-- Forgets texts and positions in files whose numbers are not below a count, but for some. -/
def forget (shared : Shared) (count : Nat) (kept : List Nat) : Shared :=
  { shared with
    texts := shared.texts.filter fun entry => entry.1 < count || kept.contains entry.1
    positions := shared.positions.filter fun entry => entry.1 < count || kept.contains entry.1 }

/-- A stream from which a text is read. -/
def openText (shared : Shared) (octets : Bytes) : Stream × Shared :=
  (.reading (.text shared.numberCount),
    { shared with
      texts := (shared.numberCount, octets) :: shared.texts
      numberCount := shared.numberCount + 1 })

/-- Opens a file at its beginning. -/
def openFile (shared : Shared) (location : Location) (canRead canWrite isAtEnd : Bool) :
    Stream × Shared :=
  (⟨.file location shared.numberCount isAtEnd, canRead, canWrite⟩,
    { shared with
      positions := (shared.numberCount, 0) :: shared.positions
      numberCount := shared.numberCount + 1 })

/-- The content of a file with octets written at a position. -/
def overwrite (content : Bytes) (position : Nat) (octets : Bytes) : Bytes :=
  let before := content.take position
  before ++ List.replicate (position - before.length) 0 ++ octets ++
    content.drop (position + octets.length)

/-- Writes octets on a stream. -/
def write (shared : Shared) (stream : Stream) (octets : Bytes) : Except WriteFailure Shared :=
  if !stream.canWrite then .error .refused
  else match stream.channel with
    | .printed sink => .ok { shared with printed := (sink, octets) :: shared.printed }
    | .collected number =>
      match shared.collected.lookup number with
      | some collection =>
        let size := collection.size + octets.length
        if collection.limit.any (· < size) then .error .unread
        else
          let collection := { collection with size, chunks := octets :: collection.chunks }
          .ok { shared with collected := replace number collection shared.collected }
      | none => .error .unread
    | .text _ => .error .refused
    | .file location number isAtEnd =>
      match shared.tree.item? location with
      | some (.file rights content) =>
        let position :=
          if isAtEnd then content.length else (shared.positions.lookup number).getD 0
        .ok { shared with
          tree := shared.tree.put location (.file rights (overwrite content position octets))
          positions := replace number (position + octets.length) shared.positions }
      | _ => .error .refused
    | .device .full => .error .refused
    | .device _ => .ok shared

/-- What can be read from a stream, if it may be read. -/
def pending? (shared : Shared) (stream : Stream) : Option Bytes :=
  if !stream.canRead then none
  else match stream.channel with
    | .text number => some ((shared.texts.lookup number).getD [])
    | .file location number _ =>
      match shared.tree.item? location with
      | some (.file _ content) => some (content.drop ((shared.positions.lookup number).getD 0))
      | _ => some []
    | .device _ => some []
    | .printed _ | .collected _ => none

/-- Passes over octets of a stream that have been read, given what can be read after them. -/
def skip (shared : Shared) (stream : Stream) (count : Nat) (rest : Bytes) : Shared :=
  match stream.channel with
  | .text number => { shared with texts := replace number rest shared.texts }
  | .file _ number _ =>
    let position := (shared.positions.lookup number).getD 0 + count
    { shared with positions := replace number position shared.positions }
  | _ => shared

end Shared

end Shell

end HostProvision
