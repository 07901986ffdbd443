import Workbench.Text.Quoted
import Workbench.Text.Utf8

/-!
What can be wrong with the text of a JSON value, and where.
-/

namespace Workbench.Json

inductive Found where
  | null
  | bool (b : Bool)
  | integer (n : Int)
  | float (text : List Char)
  | string (s : List Char)
  | array
  | object
deriving DecidableEq, Repr

def Found.describe : Found → String
  | null => "null"
  | bool b => s!"boolean \x60{b}\x60"
  | integer n => s!"integer \x60{n}\x60"
  | float text => s!"floating point \x60{String.ofList text}\x60"
  | string s => "string " ++ Text.quote (String.ofList s)
  | array => "sequence"
  | object => "map"

inductive Fault where
  | endInList
  | endInObject
  | endInString
  | endInValue
  | expectedColon
  | expectedListCommaOrEnd
  | expectedObjectCommaOrEnd
  | expectedIdent
  | expectedValue
  | invalidEscape
  | invalidNumber
  | numberOutOfRange
  | loneSurrogate
  | unexpectedEndOfEscape
  | controlCharacter
  | keyMustBeString
  | trailingComma
  | trailingCharacters
  | invalidType (found : Found) (expected : String)
  | invalidLength (length : Nat) (expected : String)
  | missingField (name : String)
  | duplicateField (name : String)
deriving DecidableEq, Repr

def Fault.message : Fault → String
  | endInList => "EOF while parsing a list"
  | endInObject => "EOF while parsing an object"
  | endInString => "EOF while parsing a string"
  | endInValue => "EOF while parsing a value"
  | expectedColon => "expected \x60:\x60"
  | expectedListCommaOrEnd => "expected \x60,\x60 or \x60]\x60"
  | expectedObjectCommaOrEnd => "expected \x60,\x60 or \x60\x7d\x60"
  | expectedIdent => "expected ident"
  | expectedValue => "expected value"
  | invalidEscape => "invalid escape"
  | invalidNumber => "invalid number"
  | numberOutOfRange => "number out of range"
  | loneSurrogate => "lone leading surrogate in hex escape"
  | unexpectedEndOfEscape => "unexpected end of hex escape"
  | controlCharacter => "control character (\\u0000-\\u001F) found while parsing a string"
  | keyMustBeString => "key must be a string"
  | trailingComma => "trailing comma"
  | trailingCharacters => "trailing characters"
  | invalidType found expected => s!"invalid type: {found.describe}, expected {expected}"
  | invalidLength length expected => s!"invalid length {length}, expected {expected}"
  | missingField name => s!"missing field \x60{name}\x60"
  | duplicateField name => s!"duplicate field \x60{name}\x60"

/-- An error: its cause, the text that was left when it was noticed, and how many bytes of that had been
looked at. -/
structure ReadError where
  fault : Fault
  rest : List Char
  ahead : Nat := 0
deriving DecidableEq, Repr

/-- The line and the column after some bytes of a text, from a line and a column on. Columns are bytes. -/
def positionFrom (line column : Nat) : Nat → List Char → Nat × Nat
  | _, [] => (line, column)
  | bytes, c :: cs =>
    if bytes < c.utf8Size then (line, column + bytes)
    else if c = '\n' then positionFrom (line + 1) 0 (bytes - 1) cs
    else positionFrom line (column + c.utf8Size) (bytes - c.utf8Size) cs

def ReadError.message (text : List Char) (e : ReadError) : String :=
  let (line, column) := positionFrom 1 0 (Text.Utf8.size text - Text.Utf8.size e.rest + e.ahead) text
  s!"{e.fault.message} at line {line} column {column}"

end Workbench.Json
