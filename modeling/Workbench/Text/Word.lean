import Workbench.Text.Lines
import Workbench.Unicode.Alphanumeric

/-!
The words of a text: the longest runs of letters, numbers and underscores in its lines.
-/

namespace Workbench.Text

/-- A place in a text: a line and a number of characters into it, both from nought. -/
structure Position where
  line : Nat := 0
  column : Nat := 0
deriving DecidableEq, Repr, Inhabited

structure Word where
  text : List Char
  start : Nat
  stop : Nat
deriving DecidableEq, Repr, Inhabited

def isWordChar (c : Char) : Bool :=
  Unicode.isAlphanumeric c || c = '_'

/-- The word that contains a column of a line or ends there; a column past the line counts as its end. -/
def wordAt? (line : List Char) (column : Nat) : Option Word :=
  let before := (line.take column).reverse.takeWhile isWordChar
  let after := (line.drop column).takeWhile isWordChar
  match before.reverse ++ after with
  | [] => none
  | text =>
    some ⟨text, min column line.length - before.length, min column line.length + after.length⟩

def wordUntil? (line : List Char) (column : Nat) : Option Word :=
  (wordAt? line column).bind fun w =>
    let stop := min column w.stop
    if w.start < stop then some ⟨w.text.take (stop - w.start), w.start, stop⟩ else none

structure Model where
  line? : Nat → Option (List Char)

namespace Model

/-- A text whose lines end before line feeds, without the carriage returns at their ends. -/
def ofText (cs : List Char) : Model where
  line? n := (splitAt '\n' cs)[n]?.map (dropTrailing (· == '\r'))

def wordAt? (m : Model) (p : Position) : Option Word :=
  (m.line? p.line).bind (Text.wordAt? · p.column)

def wordUntil? (m : Model) (p : Position) : Option Word :=
  (m.line? p.line).bind (Text.wordUntil? · p.column)

end Model

end Workbench.Text
