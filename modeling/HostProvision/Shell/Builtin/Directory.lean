import HostProvision.Shell.Builtin.Output

/-! # Commands about the surroundings of a process

The working directory, which is known by the path by which it was reached; the rights that new files
do not get; and the limits of a process. -/

namespace HostProvision

namespace Shell

open Host (FileTree Location)

namespace Builtin

/-- The octets at which a path ends up that goes on from another one, without `.`, and with `..`
taking back what was before. -/
def resolve (current path : Bytes) : Bytes :=
  let (start, rest) :=
    if Path.isAbsolute path then
      let isDouble := path[1]? = some Path.slash && path[2]? ≠ some Path.slash
      (if isDouble then [Path.slash, Path.slash] else [Path.slash], path)
    else if current.take 2 = [Path.slash, Path.slash] then
      ([Path.slash, Path.slash], current ++ Path.slash :: path)
    else ([Path.slash], current ++ Path.slash :: path)
  let names := (rest.splitOn Path.slash).foldl (fun names segment =>
    if segment = [] || segment = [Path.dot] then names
    else if segment = [Path.dot, Path.dot] then names.drop 1
    else segment :: names) []
  start ++ [Path.slash].intercalate names.reverse

example : resolve (ascii "/a/b") (ascii "../c/./d//") = ascii "/a/c/d" := by decide +kernel

/-- Whether options ask for paths without links: the last one counts. -/
def isPhysical (options : List (Char × Bytes)) : Bool :=
  options.getLast?.any fun option => option.1 = 'P'

/-- The options of commands about directories. -/
def directoryLetters : Letters :=
  [('L', false), ('P', false)]

/-- Makes a directory the working directory, if there is one. -/
def enter (physical : Bool) (path : Bytes) : Action Bool := do
  let state ← get
  let logical := if physical then path else resolve state.path path
  match state.find (if logical = [] then [Path.dot] else logical) with
  | .ok (.present location .directory) =>
    let before := state.path
    modify fun state =>
      let state := { state with directory := location }
      { state with
        path := if physical then state.physicalPath else logical
        hashed := state.hashed.map fun entry => (entry.1, true) }
    let exported (binding : Variable) : Variable := { binding with isExported := true }
    Action.assignWith exported "OLDPWD" (some before)
    Action.assignWith exported "PWD" (some (← get).path)
    return true
  | _ => return false

/-- Whether a path counts from the working directory or the root alone. -/
def isAnchored (path : Bytes) : Bool :=
  let first := path.takeWhile (· ≠ Path.slash)
  Path.isAbsolute path || first = [Path.dot] || first = [Path.dot, Path.dot]

/-- Changes the working directory. -/
def changeDirectory : Builtin := fun args => do
  let (options, operands) ← takeOptions directoryLetters args
  let state ← get
  let goesBack := operands.head? = some [0x2D]
  let target := match operands with
    | [] => state.valueOf "HOME"
    | [0x2D] :: _ => state.valueOf "OLDPWD"
    | path :: _ => path
  let target' := if target = [] then [Path.dot] else target
  let isDirectory (path : Bytes) : Bool := match state.find path with
    | .ok (.present _ .directory) => true
    | _ => false
  -- A name may be sought in the directories of a search path, which is then worth telling.
  let sought? := if isAnchored target then none else do
    let entries := SearchPath.entries (← state.value? "CDPATH")
    let paths := entries.map fun entry =>
      (entry, if entry = [] then target' else entry ++ Path.slash :: target')
    paths.find? fun (_, path) => isDirectory path
  let (path, isTold) := match sought? with
    | some (entry, path) => (path, goesBack || entry ≠ [])
    | none => (target', goesBack)
  unless ← enter (isPhysical options) path do Action.fail (ascii "can't cd to " ++ target)
  if isTold then sayLine (← get).path 0 else return 0

/-- Tells the working directory. -/
def tellDirectory : Builtin := fun args => do
  let (options, _) ← takeOptions directoryLetters args
  let state ← get
  sayLine (if isPhysical options then state.physicalPath else state.path) 0

/-! ### Rights -/

/-- Rights in letters, for the owner, the group and others. -/
def shownRights (rights : Nat) : String :=
  let part (who : String) (shift : Nat) : String :=
    let own := rights >>> shift
    who ++ "=" ++ (if own &&& 4 ≠ 0 then "r" else "") ++ (if own &&& 2 ≠ 0 then "w" else "") ++
      (if own &&& 1 ≠ 0 then "x" else "")
  String.intercalate "," [part "u" 6, part "g" 3, part "o" 0] ++ "\n"

/-- All rights. -/
def allRights : Nat := 0o777

/-- What letters after an operator stand for, given the rights so far. -/
def lettersValue (rights : Nat) (letters : List Char) : Nat :=
  (letters.foldl (fun value letter => value ||| match letter with
    | 'r' => 4
    | 'w' => 2
    | 'x' => 1
    | 'u' => rights >>> 6
    | 'g' => rights >>> 3
    | 'o' => rights
    | 'X' => if rights &&& 0o111 ≠ 0 then 1 else 0
    | _ => 0) 0) &&& 7

/-- Changes rights as clauses of letters say, given the rights at first, those so far, and whom the
clause is about so far. -/
def changeRights (rights : Nat) : Nat → Nat → Nat → List Char → Option Nat
  | 0, _, _, _ => none
  | _, now, _, [] => some now
  | fuel + 1, now, whom, chars =>
    let who := chars.takeWhile fun c => "augo".toList.contains c
    let rest := chars.drop who.length
    let whom := who.foldl (fun whom c => whom ||| match c with
      | 'a' => 0o111
      | 'u' => 0o100
      | 'g' => 0o010
      | _ => 0o001) whom
    let whom := if whom = 0 then 0o111 else whom
    match rest with
    | [] => some now
    | operator :: rest =>
      if !"=+-".toList.contains operator then none
      else
        let letters := rest.takeWhile fun c => "rwxugoXs".toList.contains c
        let rest := rest.drop letters.length
        let value := lettersValue rights letters * whom
        let now := match operator with
          | '-' => now &&& (allRights ^^^ (value &&& allRights))
          | '=' => value ||| (now &&& (allRights ^^^ (whom * 7 &&& allRights)))
          | _ => now ||| value
        match rest with
        | [] => some now
        | ',' :: rest => changeRights rights fuel now 0 rest
        | next :: _ =>
          if "=+-".toList.contains next then changeRights rights fuel now whom rest else none

/-- Shows or changes the rights that new files do not get. -/
def fileMask : Builtin := fun args => do
  let (options, operands) ← takeOptions [('S', false)] args
  let mask := (← get).fileMask
  let change (mask : Nat) : Action Nat := do
    modify fun state => { state with fileMask := mask &&& allRights }
    return 0
  match operands with
  | [] =>
    let digits := Nat.toDigits 8 mask
    let octal := String.ofList (List.replicate (4 - digits.length) '0' ++ digits) ++ "\n"
    say (ascii (if options = [] then octal else shownRights (allRights ^^^ mask))) 0
  | operand :: _ =>
    let chars := charsOf operand
    if chars.head?.any Char.isDigit then
      if chars.all fun c => '0' ≤ c && c ≤ '7' then change (Arithmetic.digitsValue 8 chars)
      else Action.fail (ascii "Illegal number: " ++ operand)
    else
      let rights := allRights ^^^ mask
      match changeRights rights (chars.length + 1) rights 0 chars with
      | some rights => change (allRights ^^^ (rights &&& allRights))
      | none => Action.fail (ascii "Illegal mode: " ++ operand)

/-! ### Limits -/

/-- The limits of a process, by letter, with their names and values. -/
def limits : List (Char × String × String) :=
  [('t', "time(seconds)", "unlimited"), ('f', "file(blocks)", "unlimited"),
   ('d', "data(kbytes)", "unlimited"), ('s', "stack(kbytes)", "8192"),
   ('c', "coredump(blocks)", "0"), ('m', "memory(kbytes)", "unlimited"),
   ('l', "locked memory(kbytes)", "8192"), ('p', "process", "unlimited"),
   ('n', "nofiles", "1024"), ('v', "vmemory(kbytes)", "unlimited"), ('w', "locks", "unlimited"),
   ('r', "rtprio", "0")]

/-- Shows a limit, or takes note of a new one. -/
def limit : Builtin := fun args => do
  let letters := limits.map fun entry => (entry.1, false)
  let (options, operands) ← takeOptions (('H', false) :: ('S', false) :: ('a', false) :: letters) args
  let chosen := (options.filterMap fun option =>
    if option.1 = 'H' || option.1 = 'S' then none else some option.1).getLast?.getD 'f'
  match operands with
  | [] =>
    if chosen = 'a' then
      let line (entry : Char × String × String) : String :=
        let name := entry.2.1
        name ++ String.ofList (List.replicate (20 - name.length) ' ') ++ " " ++ entry.2.2 ++ "\n"
      say (ascii (String.join (limits.map line))) 0
    else
      sayLine (ascii ((limits.lookup chosen).map Prod.snd |>.getD "")) 0
  | [operand] =>
    let isNumber := (charsOf operand).all Char.isDigit
    if chosen ≠ 'a' && (isNumber || operand = ascii "unlimited") then return 0
    else Action.fail (ascii "bad number")
  | _ => Action.fail (ascii "too many arguments")

end Builtin

end Shell

end HostProvision
