import HostProvision.Json.Value

/-! # Records, enumerations and numbers in JSON

A record with declared fields is written as an object in declaration order. It is read from an
object that holds each declared field exactly once, among any other members, or from an array of
exactly the field values in declaration order. A case without payload is written as its name and
read from the name or from an object whose one member has that name and the value null. -/

namespace HostProvision

namespace Json

namespace Value

/-- A text as a value. -/
def ofText (text : String) : Value :=
  .text (some text)

/-- A natural number as a value. -/
def ofNat (n : Nat) : Value :=
  .number (Nat.toDigits 10 n)

/-- A record as a value, from its field names and values. -/
def ofFields (fields : List (String × Value)) : Value :=
  .object (fields.map fun (name, value) => (some name, value))

/-- The text that a value holds. -/
def text? : Value → Option String
  | .text value => value
  | _ => none

/-- The natural number that a value holds; a spelling with a sign, a point or an exponent is
none. -/
def nat? : Value → Option Nat
  | .number lexeme =>
    if lexeme.all Char.isDigit then
      some (lexeme.foldl (fun n c => n * 10 + (c.toNat - '0'.toNat)) 0)
    else none
  | _ => none

/-- The list that a value holds, each item read by `item?`. -/
def list? {α : Type} (item? : Value → Option α) : Value → Option (List α)
  | .array items => items.mapM item?
  | _ => none

/-- The value of the only member with a given key. -/
def member? (members : List (Option String × Value)) (name : String) : Option Value :=
  match members.filter fun member => member.1 = some name with
  | [(_, value)] => some value
  | _ => none

/-- The values of the declared fields of a record, in declaration order. Other members are passed
over, but their keys have to be texts. -/
def fields? (names : List String) : Value → Option (List Value)
  | .array items => if items.length = names.length then some items else none
  | .object members =>
    if members.all fun member => member.1.isSome then names.mapM (member? members) else none
  | _ => none

/-- The values of the declared fields of a record that admits no other members. -/
def exactFields? (names : List String) : Value → Option (List Value)
  | .array items => if items.length = names.length then some items else none
  | .object members =>
    if members.all fun member => names.any fun name => member.1 = some name then
      names.mapM (member? members)
    else none
  | _ => none

/-- The name of a case without payload. -/
def case? : Value → Option String
  | .text name => name
  | .object [(name, .null)] => name
  | _ => none

@[simp] theorem text?_ofText (text : String) : (ofText text).text? = some text :=
  rfl

@[simp] theorem case?_ofText (text : String) : (ofText text).case? = some text :=
  rfl

end Value

end Json

end HostProvision
