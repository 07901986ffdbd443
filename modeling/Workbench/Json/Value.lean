import Workbench.Text.Quoted

/-!
JSON values. An object keeps its members in order; where a name is repeated the first member counts.
-/

namespace Workbench

/-- A JSON value. Numbers with a fraction or an exponent are kept apart from integers. -/
inductive Json where
  | null
  | bool (b : Bool)
  | int (n : Int)
  | decimal (text : String)
  | str (s : String)
  | arr (items : List Json)
  | obj (members : List (String × Json))
deriving Repr, Inhabited

namespace Json

def member? (name : String) : List (String × Json) → Option Json
  | [] => none
  | (n, v) :: ms => if n = name then some v else member? name ms

def unicodeEscape (c : Char) : List Char :=
  let digits := Nat.toDigits 16 c.toNat
  ['\\', 'u'] ++ List.replicate (4 - digits.length) '0' ++ digits

def escapeChar (c : Char) : List Char :=
  if c = '"' then ['\\', '"']
  else if c = '\\' then ['\\', '\\']
  else if c = '\n' then ['\\', 'n']
  else if c = '\r' then ['\\', 'r']
  else if c = '\t' then ['\\', 't']
  else if c = '\x08' then ['\\', 'b']
  else if c = '\x0c' then ['\\', 'f']
  else if c.toNat < 0x20 then unicodeEscape c
  else [c]

def renderString (s : String) : List Char :=
  '"' :: s.toList.flatMap escapeChar ++ ['"']

mutual

def renderChars : Json → List Char
  | null => "null".toList
  | bool b => (toString b).toList
  | int n => (toString n).toList
  | decimal text => text.toList
  | str s => renderString s
  | arr [] => "[]".toList
  | arr (v :: vs) => '[' :: renderChars v ++ renderItems vs
  | obj [] => ['\x7b', '\x7d']
  | obj ((n, v) :: ms) => '\x7b' :: renderString n ++ ':' :: renderChars v ++ renderMembers ms

def renderItems : List Json → List Char
  | [] => [']']
  | v :: vs => ',' :: renderChars v ++ renderItems vs

def renderMembers : List (String × Json) → List Char
  | [] => ['\x7d']
  | (n, v) :: ms => ',' :: renderString n ++ ':' :: renderChars v ++ renderMembers ms

end

def render (v : Json) : String :=
  String.ofList v.renderChars

end Json

end Workbench
