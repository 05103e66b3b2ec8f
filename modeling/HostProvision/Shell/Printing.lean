import HostProvision.Shell.Floating

/-! # Printing

How `echo` and `printf` turn their arguments into octets: backslash escapes, and formats whose
directives take arguments and which are used again as long as arguments are left. -/

namespace HostProvision

namespace Shell

namespace Printing

/-- Whether an octet is an octal digit. -/
def isOctal (octet : UInt8) : Bool :=
  0x30 ≤ octet && octet ≤ 0x37

/-- The octet that octal digits stand for. -/
def octalValue (digits : Bytes) : UInt8 :=
  UInt8.ofNat (digits.foldl (fun n digit => n * 8 + (digit.toNat - 0x30)) 0)

/-- The octet that a letter after a backslash stands for. -/
def shortEscape? (octet : UInt8) : Option UInt8 :=
  match octet with
  | 0x61 => some 0x07
  | 0x62 => some 0x08
  | 0x65 => some 0x1B
  | 0x66 => some 0x0C
  | 0x6E => some 0x0A
  | 0x72 => some 0x0D
  | 0x74 => some 0x09
  | 0x76 => some 0x0B
  | 0x5C => some 0x5C
  | _ => none

/-- A text with its escapes read, and whether the escape `\c` ended it. Octal escapes have up to
three digits, before which a zero may stand where `afterZero` says so. -/
def unescape (afterZero : Bool) : Nat → Bytes → Bytes × Bool
  | 0, _ => ([], false)
  | _, [] => ([], false)
  | fuel + 1, octet :: rest =>
    let goOn (read : Bytes) (rest : Bytes) : Bytes × Bool :=
      let (more, ended) := unescape afterZero fuel rest
      (read ++ more, ended)
    if octet ≠ 0x5C then goOn [octet] rest
    else match rest with
      | [] => ([0x5C], false)
      | letter :: after =>
        if afterZero ∧ letter = 0x63 then ([], true)
        else if isOctal letter then
          let digits := if afterZero ∧ letter = 0x30 then after else rest
          let read := (digits.take 3).takeWhile isOctal
          goOn [octalValue read] (digits.drop read.length)
        else match shortEscape? letter with
          | some value => goOn [value] after
          | none => goOn [0x5C] rest

/-- Joins texts with spaces. -/
def joined (texts : List Bytes) : Bytes :=
  [0x20].intercalate texts

/-- What `echo` prints. -/
def echo (args : List Bytes) : Bytes :=
  let (withEnd, args) := match args with
    | [0x2D, 0x6E] :: rest => (false, rest)
    | args => (true, args)
  let text := joined args
  let (read, ended) := unescape true (text.length + 1) text
  if withEnd ∧ !ended then read ++ [0x0A] else read

/-- Without arguments only a line end is printed. -/
@[simp] theorem echo_nil : echo [] = [0x0A] :=
  rfl

example : echo [Utf8.encode "-n", Utf8.encode "a", Utf8.encode "b"] = Utf8.encode "a b" := by
  decide +kernel

/-! ### Formats -/

/-- What a directive of a format makes of its argument. -/
inductive Conversion where
  /-- The argument as it is. -/
  | string
  /-- The argument with its escapes read. -/
  | escaped
  /-- The first octet of the argument. -/
  | character
  /-- The argument as a number with a sign. -/
  | integer
  /-- The argument as a number without a sign, in a base. -/
  | unsigned (base : Nat) (isUpper : Bool)
  /-- The argument as a floating-point number. -/
  | floating (style : Floating.Style) (isUpper : Bool)
  deriving DecidableEq, Repr

/-- How the text of an argument is laid out. -/
structure Layout where
  /-- Whether the text stands at the left of its field. -/
  isLeft : Bool := false
  /-- Whether zeros fill the field of a number. -/
  isZeroFilled : Bool := false
  /-- What stands before a number that is not negative. -/
  positiveSign : Bytes := []
  /-- Whether a number shows the base that it is written in. -/
  showsBase : Bool := false
  /-- The least length. -/
  width : Nat := 0
  /-- How many octets of a text count, or how many digits a number has at least. -/
  precision : Option Nat := none
  deriving Repr

/-- The conversion that a letter stands for. -/
def conversion? (letter : UInt8) : Option Conversion :=
  match Char.ofNat letter.toNat with
  | 's' => some .string
  | 'b' => some .escaped
  | 'c' => some .character
  | 'd' | 'i' => some .integer
  | 'u' => some (.unsigned 10 false)
  | 'o' => some (.unsigned 8 false)
  | 'x' => some (.unsigned 16 false)
  | 'X' => some (.unsigned 16 true)
  | 'f' => some (.floating .positional false)
  | 'F' => some (.floating .positional true)
  | 'e' => some (.floating .exponential false)
  | 'E' => some (.floating .exponential true)
  | 'g' => some (.floating .general false)
  | 'G' => some (.floating .general true)
  | 'a' => some (.floating .hexadecimal false)
  | 'A' => some (.floating .hexadecimal true)
  | _ => none

/-- The number that octets stand for, as a decimal numeral. -/
def numeralValue (octets : Bytes) : Nat :=
  Arithmetic.digitsValue 10 (charsOf octets)

/-- Whether an octet is a decimal digit. -/
def isDigit (octet : UInt8) : Bool :=
  0x30 ≤ octet && octet ≤ 0x39

/-- What is printed and used up while a format is carried out. -/
structure Progress where
  /-- What has been printed. -/
  octets : Bytes := []
  /-- The arguments that are left. -/
  args : List Bytes
  /-- What is wrong with arguments. -/
  complaints : List Bytes := []
  /-- Whether nothing more is printed. -/
  isOver : Bool := false
  /-- Whether the format itself is wrong. -/
  isMalformed : Bool := false
  deriving Repr

namespace Progress

/-- Takes the next argument; there are always more, which are empty. -/
def next (progress : Progress) : Bytes × Progress :=
  (progress.args.head?.getD [], { progress with args := progress.args.drop 1 })

/-- Prints octets. -/
def print (progress : Progress) (octets : Bytes) : Progress :=
  { progress with octets := progress.octets ++ octets }

/-- Complains about an argument that is not a number as a whole, given what follows the number in it,
whether there is one at all, and whether it is out of range. -/
def check (progress : Progress) (arg : Bytes) (rest : List Char) (isNumber isOutOfRange : Bool) :
    Progress :=
  let complaint? :=
    if arg = [] then none
    else if !isNumber then some ": expected numeric value"
    else if !rest.isEmpty then some ": not completely converted"
    else if isOutOfRange then some ": Numerical result out of range"
    else none
  match complaint? with
  | some words =>
    { progress with complaints := progress.complaints ++ [arg ++ Utf8.encode words] }
  | none => progress

/-- The octet after a quote that begins an argument, for which the argument then stands. -/
def quotedOctet? (arg : Bytes) : Option Nat :=
  match arg with
  | 0x27 :: rest | 0x22 :: rest => some (rest.head?.getD 0).toNat
  | _ => none

/-- The greatest number without a sign. -/
def maxUnsigned : Nat := 18446744073709551615

/-- Takes the next argument as an integer. What is no number is complained about, and counts as far as
it is one. -/
def nextInteger (progress : Progress) (isSigned : Bool) : Int × Progress :=
  let (arg, progress) := progress.next
  match quotedOctet? arg with
  | some octet => (octet, progress)
  | none =>
    let (isNegative, digits) := match (charsOf arg).dropWhile Arithmetic.isSpace with
      | '-' :: rest => (true, rest)
      | '+' :: rest => (false, rest)
      | chars => (false, chars)
    let (size, rest, isNumber) := Arithmetic.readDigits digits
    let value : Int := if isNegative then -size else size
    let nearest : Int :=
      if isSigned then max Int64.minValue.toInt (min value Int64.maxValue.toInt)
      else if maxUnsigned < size then maxUnsigned
      else value
    if isNumber then (nearest, progress.check arg rest true (nearest ≠ value))
    else (0, progress.check arg [] false false)

/-- Takes the next argument as a floating-point number. -/
def nextFloating (progress : Progress) : Floating × Progress :=
  let (arg, progress) := progress.next
  match quotedOctet? arg with
  | some octet => (.finite false octet 0, progress)
  | none =>
    let numeral := Floating.read (charsOf arg)
    (numeral.value, progress.check arg numeral.rest numeral.isNumber numeral.isOutOfRange)

end Progress

/-- Fills a text up to the width of its field. -/
def Layout.fill (layout : Layout) (octets : Bytes) : Bytes :=
  let padding := List.replicate (layout.width - octets.length) 0x20
  if layout.isLeft then octets ++ padding else padding ++ octets

/-- Lays a text out. -/
def Layout.text (layout : Layout) (octets : Bytes) : Bytes :=
  layout.fill (match layout.precision with
    | some precision => octets.take precision
    | none => octets)

/-- Lays a number out, given its sign and its digits. -/
def Layout.number (layout : Layout) (sign digits : Bytes) : Bytes :=
  let least :=
    if layout.precision.isNone && layout.isZeroFilled && !layout.isLeft then
      layout.width - sign.length
    else 0
  layout.fill (sign ++ List.replicate (least - digits.length) 0x30 ++ digits)

/-- The digits of a number in a base, with zeros before them up to a precision. -/
def Layout.digits (layout : Layout) (base : Nat) (isUpper : Bool) (value : Nat) : Bytes :=
  let chars := if value = 0 then [] else Nat.toDigits base value
  let octets := chars.map fun c => octetOf (if isUpper then c.toUpper else c)
  let padded := List.replicate (layout.precision.getD 1 - octets.length) 0x30 ++ octets
  -- An octal number shows its base by a zero in front.
  if layout.showsBase && base = 8 && padded.head? ≠ some 0x30 then 0x30 :: padded else padded

/-- Carries a directive out. -/
def Conversion.perform (conversion : Conversion) (layout : Layout) (progress : Progress) :
    Progress :=
  match conversion with
  | .string =>
    let (arg, progress) := progress.next
    progress.print (layout.text arg)
  | .escaped =>
    let (arg, progress) := progress.next
    let (read, ended) := unescape true (arg.length + 1) arg
    { progress.print (layout.text read) with isOver := ended }
  | .character =>
    let (arg, progress) := progress.next
    progress.print (layout.fill [arg.head?.getD 0])
  | .integer =>
    let (value, progress) := progress.nextInteger true
    let sign := if value < 0 then [0x2D] else layout.positiveSign
    progress.print (layout.number sign (layout.digits 10 false value.natAbs))
  | .unsigned base isUpper =>
    let (value, progress) := progress.nextInteger false
    let value := (UInt64.ofInt value).toNat
    let mark : Bytes :=
      if layout.showsBase && base = 16 && value ≠ 0 then [0x30, if isUpper then 0x58 else 0x78]
      else []
    progress.print (layout.number mark (layout.digits base isUpper value))
  | .floating style isUpper =>
    let (value, progress) := progress.nextFloating
    let sign := if value.isNegative then [0x2D] else layout.positiveSign
    let chars := value.shown style layout.showsBase layout.precision
    let digits := chars.map fun c => octetOf (if isUpper then c.toUpper else c)
    let layout := { layout with
      precision := none, isZeroFilled := layout.isZeroFilled && value.isFinite }
    -- Zeros stand after the mark of hexadecimal digits.
    let marked := style = .hexadecimal && value.isFinite
    let mark := if marked then digits.take 2 else []
    progress.print (layout.number (sign ++ mark) (if marked then digits.drop 2 else digits))

/-- Reads the flags of a directive. -/
def readFlags : Layout → Bytes → Layout × Bytes
  | layout, [] => (layout, [])
  | layout, octet :: rest =>
    if octet = 0x2D then readFlags { layout with isLeft := true } rest
    else if octet = 0x30 then readFlags { layout with isZeroFilled := true } rest
    else if octet = 0x2B then readFlags { layout with positiveSign := [0x2B] } rest
    else if octet = 0x20 then
      let positiveSign := if layout.positiveSign = [] then [0x20] else layout.positiveSign
      readFlags { layout with positiveSign } rest
    else if octet = 0x23 then readFlags { layout with showsBase := true } rest
    else (layout, octet :: rest)

/-- Reads the width of a directive, or its precision, which an argument may give. -/
def readCount (progress : Progress) (format : Bytes) : Int × Progress × Bytes :=
  match format with
  | 0x2A :: rest =>
    let (value, progress) := progress.nextInteger true
    ((Int32.ofInt value).toInt, progress, rest)
  | format => (numeralValue (format.takeWhile isDigit), progress, format.dropWhile isDigit)

/-- Carries a format out once. -/
def printOnce : Nat → Bytes → Progress → Progress
  | 0, _, progress => progress
  | _, [], progress => progress
  | fuel + 1, octet :: rest, progress =>
    if progress.isOver then progress
    else if octet = 0x25 then
      if rest.head? = some 0x25 then printOnce fuel (rest.drop 1) (progress.print [0x25])
      else
        let (layout, after) := readFlags {} rest
        let (width, progress, after) := readCount progress after
        let layout := { layout with
          width := width.natAbs, isLeft := layout.isLeft || width < 0 }
        let (precision, progress, after) := match after with
          | 0x2E :: after =>
            let (value, progress, after) := readCount progress after
            (if value < 0 then none else some value.natAbs, progress, after)
          | after => (none, progress, after)
        match after with
        | [] =>
          { progress with
            isOver := true, isMalformed := true
            complaints := progress.complaints ++ [Utf8.encode "missing format character"] }
        | letter :: after =>
          match conversion? letter with
          | some conversion =>
            printOnce fuel after (conversion.perform { layout with precision } progress)
          | none =>
            { progress with
              isOver := true, isMalformed := true
              complaints := progress.complaints ++
                [0x25 :: rest.take (rest.length - after.length) ++
                  Utf8.encode ": invalid directive"] }
    else if octet = 0x5C then
      let length := match rest with
        | letter :: _ => if isOctal letter then ((rest.take 3).takeWhile isOctal).length else 1
        | [] => 0
      printOnce fuel (rest.drop length)
        (progress.print (unescape false (length + 2) (octet :: rest.take length)).1)
    else printOnce fuel rest (progress.print [octet])

/-- Carries a format out until no argument is left. -/
def printAll : Nat → Bytes → Progress → Progress
  | 0, _, progress => progress
  | fuel + 1, format, before =>
    let progress := printOnce (format.length + 1) format before
    if progress.isOver || progress.args.isEmpty || progress.args.length = before.args.length then
      progress
    else printAll fuel format progress

/-- What `printf` does with a format and arguments. -/
def printf (format : Bytes) (args : List Bytes) : Progress :=
  printAll (args.length + 1) format { args }

example : (printf (Utf8.encode "<%s>") [Utf8.encode "a", Utf8.encode "b"]).octets =
    Utf8.encode "<a><b>" := by decide +kernel
example : (printf (Utf8.encode "%05d|%-3s|") [Utf8.encode "-42", Utf8.encode "x"]).octets =
    Utf8.encode "-0042|x  |" := by decide +kernel

end Printing

end Shell

end HostProvision
