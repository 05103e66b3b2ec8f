import HostProvision.Host.FileTree

/-! # Starting programs

A file is started either because it is a tool of the host or because its first line names an
interpreter, which is started with the file as an argument in its place. `FileTree.launch` follows
interpreters to the tool at the end. -/

namespace HostProvision

namespace Host

/-- A tool that is about to run, under a name and with arguments. -/
structure Launch where
  /-- The tool. -/
  tool : Tool
  /-- The name that it goes by. -/
  name : Bytes
  /-- Its arguments. -/
  args : List Bytes
  deriving DecidableEq, Repr

/-- How many octets of a file are looked at before it is started. -/
def headLength : Nat := 256

/-- Whether an octet separates the words of a first line. -/
def isBlank (octet : UInt8) : Bool :=
  octet = 0x20 || octet = 0x09

/-- The first line of a script after its mark, without blanks at its end. A line that does not end
within the octets that are looked at counts only if the first of its words does, and is cut off. A
file that ends before has a NUL after it. -/
def headLine? (content : Bytes) : Option Bytes :=
  match content.take headLength with
  | 0x23 :: 0x21 :: head =>
    let trimmed (line : Bytes) : Bytes := (line.reverse.dropWhile isBlank).reverse
    if head.contains 0x0A then some (trimmed (head.takeWhile (· ≠ 0x0A)))
    else if content.length < headLength then some (head ++ [0])
    else
      let word := head.dropWhile isBlank
      if word.any fun octet => isBlank octet || octet = 0 then some (trimmed head.dropLast)
      else none
  | _ => none

/-- The interpreter that a script names in its first line, with the argument that may follow it. A
NUL ends either of them. -/
def interpreter? (content : Bytes) : Option (Bytes × Option Bytes) := do
  let words := (← headLine? content).dropWhile isBlank
  if words = [] then none
  else
    let path := words.takeWhile fun octet => !isBlank octet && octet ≠ 0
    let rest := words.drop path.length
    let arg := rest.dropWhile isBlank
    if rest.head? = some 0 ∨ arg = [] then some (path, none)
    else some (path, some (arg.takeWhile (· ≠ 0)))

example : interpreter? (Utf8.encode "#!/bin/sh -e -u\nexit") =
    some (Utf8.encode "/bin/sh", some (Utf8.encode "-e -u")) := by decide +kernel
example : interpreter? (Utf8.encode "#! /bin/sh") = some (Utf8.encode "/bin/sh", none) := by
  decide +kernel
example : interpreter? (Utf8.encode "exit") = none := by decide +kernel

namespace FileTree

/-- How deep interpreters may be nested. -/
def maxInterpreters : Nat := 5

/-- The tool that the file at a path is started as. An interpreter may be a script itself, up to a
depth. -/
def launchFrom (tree : FileTree) (workingDirectory : Location) :
    Nat → Bytes → Bytes → List Bytes → Except IoError Launch
  | depth, path, name, args =>
    match tree.find workingDirectory path with
    | .error error => .error error
    | .ok (.free _) => .error .noSuchEntry
    | .ok (.present _ (.tool tool)) => .ok ⟨tool, name, args⟩
    | .ok (.present _ (.file rights content)) =>
      if !rights.canExecute then .error .accessDenied
      else match interpreter? content, depth with
        | none, _ => .error .execFormat
        | some _, 0 => .error .tooManyLinks
        | some (interpreter, arg), depth + 1 =>
          -- The interpreter goes by its own path and gets the script as an argument.
          tree.launchFrom workingDirectory depth interpreter interpreter
            (arg.toList ++ path :: args)
    | .ok (.present ..) => .error .accessDenied

/-- The tool that the file at a path is started as, under a name and with arguments. -/
def launch (tree : FileTree) (workingDirectory : Location) (path name : Bytes)
    (args : List Bytes) : Except IoError Launch :=
  tree.launchFrom workingDirectory maxInterpreters path name args

end FileTree

end Host

end HostProvision
