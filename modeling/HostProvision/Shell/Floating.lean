import HostProvision.Shell.Arithmetic

/-! # Floating-point numbers

Numbers of 64 bits with a binary exponent, as `printf` reads and shows them. A numeral stands for the
number nearest to it, and of two that are as near for the even one; a number is shown with as many
digits as are asked for, and rounded in the same way. All of this is exact arithmetic with natural
numbers. -/

namespace HostProvision

namespace Shell

/-- A floating-point number. -/
inductive Floating where
  /-- No number at all. -/
  | nan (isNegative : Bool)
  /-- More than all numbers, or less. -/
  | infinite (isNegative : Bool)
  /-- A natural number times a power of two. -/
  | finite (isNegative : Bool) (mantissa : Nat) (exponent : Int)
  deriving DecidableEq, Repr

namespace Floating

/-- A quotient rounded to the nearest natural number, or to the even one of two that are as near. -/
def roundQuotient (numerator denominator : Nat) : Nat :=
  let quotient := numerator / denominator
  let twice := 2 * (numerator % denominator)
  if denominator < twice || (twice = denominator && quotient % 2 = 1) then quotient + 1
  else quotient

/-- A fraction multiplied by a power of a base. -/
def scale (base : Nat) (exponent : Int) (fraction : Nat × Nat) : Nat × Nat :=
  if 0 ≤ exponent then (fraction.1 * Nat.pow base exponent.toNat, fraction.2)
  else (fraction.1, fraction.2 * Nat.pow base (-exponent).toNat)

/-- How many binary digits a mantissa has. -/
def mantissaLength : Nat := 53

/-- The least exponent. -/
def minExponent : Int := -1074

/-- The greatest exponent of a mantissa of full length. -/
def maxExponent : Int := 971

/-- The number nearest to a fraction, and whether the fraction is out of range. -/
def nearest (isNegative : Bool) (fraction : Nat × Nat) : Floating × Bool :=
  let (numerator, denominator) := fraction
  if numerator = 0 then (.finite isNegative 0 0, false)
  else
    let full := Nat.pow 2 (mantissaLength - 1)
    let guess : Int := (numerator.log2 : Int) - denominator.log2 - (mantissaLength - 1 : Nat)
    let (scaled, unit) := scale 2 (-guess) fraction
    let exponent := if scaled / unit < full then guess - 1 else guess
    let exponent := max exponent minExponent
    let (scaled, unit) := scale 2 (-exponent) fraction
    let mantissa := roundQuotient scaled unit
    if maxExponent < exponent || (exponent = maxExponent && 2 * full ≤ mantissa) then
      (.infinite isNegative, true)
    else
      (.finite isNegative mantissa exponent, mantissa < full && scaled % unit ≠ 0)

/-! ### Reading -/

/-- A floating-point number that a text begins with. -/
structure Numeral where
  /-- The number. -/
  value : Floating
  /-- The characters after it. -/
  rest : List Char
  /-- Whether the text begins with a number at all. -/
  isNumber : Bool
  /-- Whether the numeral is out of range. -/
  isOutOfRange : Bool

/-- The rest of a text after a word, whose case does not matter. -/
def afterWord? (word : String) (chars : List Char) : Option (List Char) :=
  let start := chars.take word.length
  if start.map Char.toLower = word.toList then some (chars.drop word.length) else none

/-- An exponent after one of two letters, with the characters after it. -/
def readExponent (letter : Char) (chars : List Char) : Int × List Char :=
  match chars with
  | c :: rest =>
    let (isNegative, digits) := match rest with
      | '-' :: digits => (true, digits)
      | '+' :: digits => (false, digits)
      | digits => (false, digits)
    let read := digits.takeWhile Char.isDigit
    if c.toLower = letter && !read.isEmpty then
      -- So great an exponent counts as any greater one.
      let value : Int := min (Arithmetic.digitsValue 10 read) 100000
      (if isNegative then -value else value, digits.drop read.length)
    else (0, chars)
  | [] => (0, [])

/-- Digits of a base with a point among them, before an exponent. -/
def readPositional (base : Nat) (letter : Char) (isNegative : Bool) (chars : List Char) :
    Option Numeral :=
  let isDigit (c : Char) : Bool := (Arithmetic.digit? base c).isSome
  let whole := chars.takeWhile isDigit
  let (part, rest) := match chars.drop whole.length with
    | '.' :: rest =>
      let part := rest.takeWhile isDigit
      (part, rest.drop part.length)
    | rest => ([], rest)
  let hasPoint := (chars.drop whole.length).head? = some '.'
  if whole.isEmpty && part.isEmpty then none
  else
    let rest := if hasPoint then rest else chars.drop whole.length
    let (exponent, rest) := readExponent letter rest
    let digits := Arithmetic.digitsValue base (whole ++ part)
    let place : Int := part.length
    let fraction := (digits, 1)
    let fraction :=
      if base = 10 then
        -- A number far out of range is far out of it by its length, too.
        let size : Int := (whole ++ part).length
        if exponent - place + size < -400 then scale 10 (-400 - size) fraction
        else if 400 < exponent - place then scale 10 400 fraction
        else scale 10 (exponent - place) fraction
      else scale 2 (max (-3000 - 4 * place) (min 3000 exponent) - 4 * place) fraction
    let (value, isOutOfRange) := nearest isNegative fraction
    some ⟨value, rest, true, isOutOfRange⟩

/-- Reads a number after white space and a sign. -/
def read (text : List Char) : Numeral :=
  let (isNegative, chars) := match text.dropWhile Arithmetic.isSpace with
    | '-' :: rest => (true, rest)
    | '+' :: rest => (false, rest)
    | rest => (false, rest)
  let word (words : List String) : Option (List Char) := words.findSome? (afterWord? · chars)
  match word ["infinity", "inf"], word ["nan"] with
  | some rest, _ => ⟨.infinite isNegative, rest, true, false⟩
  | none, some rest =>
    let name := (rest.drop 1).takeWhile continuesName
    let isNamed := rest.head? = some '(' && (rest.drop (name.length + 1)).head? = some ')'
    ⟨.nan isNegative, if isNamed then rest.drop (name.length + 2) else rest, true, false⟩
  | none, none =>
    let asHexadecimal := match chars with
      | '0' :: x :: rest => if x.toLower = 'x' then readPositional 16 'p' isNegative rest else none
      | _ => none
    match asHexadecimal.or (readPositional 10 'e' isNegative chars) with
    | some numeral => numeral
    | none => ⟨.finite false 0 0, text, false, false⟩

/-! ### Showing -/

/-- How a number is shown. -/
inductive Style where
  /-- With a fixed number of places. -/
  | positional
  /-- With an exponent. -/
  | exponential
  /-- In the shorter of these ways. -/
  | general
  /-- In hexadecimal digits. -/
  | hexadecimal
  deriving DecidableEq, Repr

/-- The digits of a natural number, with zeros before them up to a length. -/
def padded (base length value : Nat) : List Char :=
  let digits := Nat.toDigits base value
  List.replicate (length - digits.length) '0' ++ digits

/-- Digits with a point before the last places. -/
def withPoint (showsPoint : Bool) (places : Nat) (digits : List Char) : List Char :=
  let whole := digits.take (digits.length - places)
  let part := digits.drop (digits.length - places)
  if places = 0 && !showsPoint then whole else whole ++ '.' :: part

/-- An exponent as it is shown after a letter. -/
def shownExponent (letter : Char) (length : Nat) (exponent : Int) : List Char :=
  letter :: (if exponent < 0 then '-' else '+') :: padded 10 length exponent.natAbs

/-- A fraction with a fixed number of decimal places. -/
def positional (showsPoint : Bool) (places : Nat) (fraction : Nat × Nat) : List Char :=
  let (scaled, unit) := scale 10 places fraction
  withPoint showsPoint places (padded 10 (places + 1) (roundQuotient scaled unit))

/-- The decimal exponent of a fraction, with its digits after rounding: one before the point and some
after it. -/
def decimalDigits (places : Nat) (fraction : Nat × Nat) : Int × Nat :=
  if fraction.1 = 0 then (0, 0)
  else
    -- The number of binary digits gives the exponent but for one.
    let guess : Int := (((fraction.1.log2 : Int) - fraction.2.log2) * 30103).fdiv 100000
    let isAtLeast (exponent : Int) : Bool :=
      let (scaled, unit) := scale 10 (-exponent) fraction
      unit ≤ scaled
    let exponent :=
      if isAtLeast (guess + 1) then guess + 1
      else if isAtLeast guess then guess
      else guess - 1
    let (scaled, unit) := scale 10 (places - exponent) fraction
    let digits := roundQuotient scaled unit
    if digits = Nat.pow 10 (places + 1) then (exponent + 1, digits / 10) else (exponent, digits)

/-- A fraction with an exponent. -/
def exponential (showsPoint : Bool) (places : Nat) (fraction : Nat × Nat) : List Char :=
  let (exponent, digits) := decimalDigits places fraction
  withPoint showsPoint places (padded 10 (places + 1) digits) ++ shownExponent 'e' 2 exponent

/-- Digits without zeros at the end of their places. -/
def trimmed (digits : List Char) : List Char :=
  if digits.contains '.' then
    let reversed := digits.reverse.dropWhile (· = '0')
    (if reversed.head? = some '.' then reversed.drop 1 else reversed).reverse
  else digits

/-- A fraction with a number of digits that count, in the shorter way. -/
def general (showsPoint : Bool) (precision : Nat) (fraction : Nat × Nat) : List Char :=
  let precision := max 1 precision
  let (exponent, digits) := decimalDigits (precision - 1) fraction
  let trim (chars : List Char) : List Char := if showsPoint then chars else trimmed chars
  if -4 ≤ exponent && exponent < precision then
    trim (positional showsPoint (precision - 1 - exponent).toNat fraction)
  else
    trim (withPoint showsPoint (precision - 1) (padded 10 precision digits)) ++
      shownExponent 'e' 2 exponent

/-- A number in hexadecimal digits, of which one stands before the point. -/
def hexadecimal (showsPoint : Bool) (precision : Option Nat) (mantissa : Nat) (exponent : Int) :
    List Char :=
  let full := Nat.pow 2 (mantissaLength - 1)
  -- A mantissa of full length begins with a one.
  let shift := if full ≤ mantissa then mantissa.log2 - (mantissaLength - 1) else 0
  let (mantissa, exponent) := (mantissa >>> shift, exponent + shift)
  let allPlaces := (mantissaLength - 1) / 4
  let shown := if mantissa = 0 then 0 else exponent + (mantissaLength - 1 : Nat)
  let digits := match precision with
    | none => trimmed (withPoint showsPoint allPlaces (padded 16 (allPlaces + 1) mantissa))
    | some places =>
      let rounded :=
        if places < allPlaces then roundQuotient mantissa (Nat.pow 16 (allPlaces - places))
        else mantissa * Nat.pow 16 (places - allPlaces)
      withPoint showsPoint places (padded 16 (places + 1) rounded)
  '0' :: 'x' :: digits ++ shownExponent 'p' 1 shown

/-- The number of digits where none is asked for. -/
def defaultPrecision : Nat := 6

/-- Whether a number is negative. -/
def isNegative : Floating → Bool
  | nan isNegative | infinite isNegative | finite isNegative _ _ => isNegative

/-- Whether a number has digits. -/
def isFinite : Floating → Bool
  | finite .. => true
  | _ => false

/-- How a number is shown, without its sign. -/
def shown (style : Style) (showsPoint : Bool) (precision : Option Nat) : Floating → List Char
  | nan _ => "nan".toList
  | infinite _ => "inf".toList
  | finite _ mantissa exponent =>
    let fraction := scale 2 exponent (mantissa, 1)
    let places := precision.getD defaultPrecision
    match style with
    | .positional => positional showsPoint places fraction
    | .exponential => exponential showsPoint places fraction
    | .general => general showsPoint places fraction
    | .hexadecimal => hexadecimal showsPoint precision mantissa exponent

end Floating

end Shell

end HostProvision
