import Workbench.Text.Utf8

/-!
Tokens: the classified pieces of a line.
-/

namespace Workbench

inductive TokenClass where
  | keyword
  | comment
  | string
  | invalidString
  | number
  | identifier
deriving DecidableEq, Repr

structure Token where
  text : List Char
  tokenClass : TokenClass
  start : Nat
deriving DecidableEq, Repr

def Token.stop (t : Token) : Nat :=
  t.start + Text.Utf8.size t.text

structure Highlight where
  start : Nat
  stop : Nat
  tokenClass : TokenClass
deriving DecidableEq, Repr

structure HighlightedLine where
  highlights : List Highlight := []
deriving DecidableEq, Repr

namespace HighlightedLine

def ofTokens (tokens : List Token) : HighlightedLine :=
  ⟨tokens.map fun t => ⟨t.start, t.stop, t.tokenClass⟩⟩

def classAt? (line : HighlightedLine) (byte : Nat) : Option TokenClass :=
  (line.highlights.find? fun h => h.start ≤ byte && byte < h.stop).map (·.tokenClass)

end HighlightedLine

end Workbench
