import HostProvision.Text.Invisible
import HostProvision.Text.Utf8

/-! # Quoted octet strings

Diagnostics show a path or an environment value between double quotes in a form that is readable and
keeps every octet apart: double quotes, backslashes and the usual controls have two-character
escapes, characters without a glyph are shown by code point, and octets of an ill-formed UTF-8
sequence as `\xHH`. -/

namespace HostProvision

namespace Text

/-- The hexadecimal digits of a number, most significant first. -/
def hexDigits (n : Nat) : List Char :=
  Nat.toDigits 16 n

/-- A character inside quotes. -/
def quotedChar (c : Char) : List Char :=
  match c with
  | '\x00' => ['\\', '0']
  | '\t' => ['\\', 't']
  | '\r' => ['\\', 'r']
  | '\n' => ['\\', 'n']
  | '"' => ['\\', '"']
  | '\\' => ['\\', '\\']
  | c => if isInvisible c then ['\\', 'u', '\x7b'] ++ hexDigits c.toNat ++ ['\x7d'] else [c]

/-- An octet that belongs to no character, inside quotes. -/
def quotedOctet (octet : UInt8) : List Char :=
  let digits := (hexDigits octet.toNat).map Char.toUpper
  ['\\', 'x'] ++ List.replicate (2 - digits.length) '0' ++ digits

/-- One piece of an octet string inside quotes. -/
def quotedPiece : Utf8.Piece → List Char
  | .scalar value => quotedChar value
  | .broken octets => octets.flatMap quotedOctet

/-- An octet string between double quotes. -/
def quoted (octets : Bytes) : String :=
  String.ofList ('"' :: (Utf8.scan octets).flatMap quotedPiece ++ ['"'])

example : quoted [] = "\"\"" := by decide +kernel
example : quoted (Utf8.encode "a\tb'\u200B") = "\"a\\tb'\\u\x7b200b\x7d\"" := by decide +kernel
example : quoted [0x61, 0xFF, 0x0A] = "\"a\\xFF\\n\"" := by decide +kernel

end Text

end HostProvision
