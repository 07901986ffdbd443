import Workbench.Language.Keyword
import Workbench.Language.Token
import Workbench.Text.Word
import Workbench.Unicode.WordCharacter

/-!
Cutting a line into tokens. An ordered list of rules is tried at each place and the first that
recognises something wins; where none does, one character is an identifier, so the tokens always tile
the line.
-/

namespace Workbench

/-- A word ends after `before` if the text goes on with `after`: exactly one of the two characters at the
seam is a word character. -/
def wordBoundary (before after : List Char) : Bool :=
  before.getLast?.any Unicode.isWordCharacter != after.head?.any Unicode.isWordCharacter

inductive StringEnd where
  | closed (length : Nat)
  | unclosed
  /-- A backslash with nothing to escape. -/
  | broken
deriving DecidableEq, Repr

def StringEnd.add (n : Nat) : StringEnd → StringEnd
  | closed length => closed (length + n)
  | e => e

def StringEnd.of : List Char → StringEnd
  | [] => unclosed
  | '"' :: _ => closed 0
  | ['\\'] => broken
  | '\\' :: c :: cs => if c = '\n' then broken else (StringEnd.of cs).add 2
  | _ :: cs => (StringEnd.of cs).add 1

structure LexicalRule where
  tokenClass : TokenClass
  atWordStart : Bool
  length? : List Char → Option Nat

namespace LexicalRule

def keyword (names : List (List Char)) : LexicalRule where
  tokenClass := .keyword
  atWordStart := true
  length? cs :=
    (names.find? fun n => n.isPrefixOf cs && wordBoundary n (cs.drop n.length)).map (·.length)

def comment : LexicalRule where
  tokenClass := .comment
  atWordStart := false
  length? cs := if cs.head? = some '#' then some (cs.takeWhile (· ≠ '\n')).length else none

def invalidString : LexicalRule where
  tokenClass := .invalidString
  atWordStart := false
  length?
    | '"' :: cs => if StringEnd.of cs = .unclosed then some (cs.length + 1) else none
    | _ => none

def string : LexicalRule where
  tokenClass := .string
  atWordStart := false
  length?
    | '"' :: cs =>
      match StringEnd.of cs with
      | .closed n => some (n + 2)
      | _ => none
    | _ => none

def fractionLength : List Char → Nat
  | '.' :: cs => if cs.head?.any Char.isDigit then (cs.takeWhile Char.isDigit).length + 1 else 0
  | _ => 0

def number : LexicalRule where
  tokenClass := .number
  atWordStart := true
  length? cs :=
    let whole := (cs.takeWhile Char.isDigit).length
    let long := whole + fractionLength (cs.drop whole)
    if whole = 0 then none
    else if wordBoundary (cs.take long) (cs.drop long) then some long
    else if wordBoundary (cs.take whole) (cs.drop whole) then some whole
    else none

def isIdentifierStart (c : Char) : Bool :=
  c.isAlpha || c = '_'

def isIdentifierChar (c : Char) : Bool :=
  c.isAlphanum || c = '_' || c = '-'

def identifier : LexicalRule where
  tokenClass := .identifier
  atWordStart := false
  length? cs := if cs.head?.any isIdentifierStart then some (cs.takeWhile isIdentifierChar).length else none

/-- What the rule takes after the character `before`; taking nothing is no match. -/
def match? (r : LexicalRule) (before : Option Char) (cs : List Char) : Option Nat :=
  if r.atWordStart && before.any Text.isWordChar then none else (r.length? cs).filter (0 < ·)

end LexicalRule

structure Lexer where
  keywords : List (List Char)

namespace Lexer

def withKeywords (names : List String) : Lexer :=
  ⟨names.map (·.toList)⟩

def builtin : Lexer :=
  withKeywords Keyword.names

def rules (lx : Lexer) : List LexicalRule :=
  [.keyword lx.keywords, .comment, .invalidString, .string, .number, .identifier]

def recognize (lx : Lexer) (before : Option Char) (cs : List Char) : TokenClass × Nat :=
  (lx.rules.findSome? fun r => (r.match? before cs).map (r.tokenClass, ·)).getD (.identifier, 1)

def tokenizeFrom (lx : Lexer) (before : Option Char) (start : Nat) : List Char → List Token
  | [] => []
  | c :: cs =>
    let found := lx.recognize before (c :: cs)
    let text := c :: cs.take (found.2 - 1)
    ⟨text, found.1, start⟩ ::
      tokenizeFrom lx text.getLast? (start + Text.Utf8.size text) (cs.drop (found.2 - 1))
termination_by cs => cs.length
decreasing_by
  rw [List.length_drop, List.length_cons]
  omega

def tokenize (lx : Lexer) (line : List Char) : List Token :=
  lx.tokenizeFrom none 0 line

end Lexer

end Workbench
