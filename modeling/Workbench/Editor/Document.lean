import Workbench.Files.Path
import Workbench.Text.Word

/-!
A document: a text, the file that it belongs to, and whether it has changed since it was read or saved.
Places in it are given by line and column, where a column may run past its line into the next ones. An
operation answers `none` when its place lies outside the text.
-/

namespace Workbench

open Text (Model)

structure Document where
  text : List Char := []
  path? : Option Path := none
  dirty : Bool := false
deriving DecidableEq, Repr, Inhabited

namespace Document

def lines (d : Document) : List (List Char) :=
  Text.lines d.text

def lineCount (d : Document) : Nat :=
  d.lines.length

def line? (d : Document) (n : Nat) : Option (List Char) :=
  d.lines[n]?

/-- The length of a line without a line feed and then a carriage return at its end. -/
def contentLength (line : List Char) : Nat :=
  let line := if line.getLast? = some '\n' then line.dropLast else line
  let line := if line.getLast? = some '\r' then line.dropLast else line
  line.length

def lineLength? (d : Document) (n : Nat) : Option Nat :=
  (d.line? n).map contentLength

/-- The number of characters before a line. The line after the last one begins where the text ends. -/
def lineStart? (d : Document) (n : Nat) : Option Nat :=
  if n ≤ d.lineCount then some (d.lines.take n).flatten.length else none

def index? (d : Document) (line column : Nat) : Option Nat :=
  (d.lineStart? line).map (· + column)

def model (d : Document) : Model where
  line? n := (d.line? n).map Text.content

def insert? (d : Document) (line column : Nat) (cs : List Char) : Option Document :=
  (d.index? line column).bind fun i =>
    if i ≤ d.text.length then
      some { d with text := d.text.take i ++ cs ++ d.text.drop i, dirty := true }
    else none

def deleteRange? (d : Document) (line start stop : Nat) : Option Document :=
  if stop ≤ start then some d
  else (d.lineStart? line).map fun i =>
    if i + start < min (i + stop) d.text.length then
      { d with text := d.text.take (i + start) ++ d.text.drop (i + stop), dirty := true }
    else d

def deleteBefore? (d : Document) (line column : Nat) : Option Document :=
  (d.index? line column).bind fun i =>
    if i = 0 then some d
    else if i ≤ d.text.length then
      some { d with text := d.text.take (i - 1) ++ d.text.drop i, dirty := true }
    else none

def append (d : Document) (cs : List Char) : Document :=
  { d with text := d.text ++ cs, dirty := true }

def markClean (d : Document) : Document :=
  { d with dirty := false }

theorem lineCount_pos (d : Document) : 0 < d.lineCount :=
  List.length_pos_iff.2 (Text.lines_ne_nil d.text)

def lastLine (d : Document) : Nat :=
  d.lineCount - 1

theorem lastLine_lt (d : Document) : d.lastLine < d.lines.length :=
  Nat.sub_lt d.lineCount_pos Nat.one_pos

def lastLength (d : Document) : Nat :=
  contentLength (d.lines.get ⟨d.lastLine, d.lastLine_lt⟩)

end Document

end Workbench
