import Workbench.Screen.Theme

/-!
What a terminal is told, and the escape sequences for it.
-/

namespace Workbench

inductive CursorShape where
  | standard
  | steadyBlock
  | blinkingBar
deriving DecidableEq, Repr

inductive TerminalCommand where
  | moveTo (x y : Nat)
  | foreground (color : Color)
  | background (color : Color)
  | resetStyle
  | bold
  | italic
  | underlined
  | print (text : List Char)
  | clearLine
  | clearScreen
  | hideCursor
  | showCursor
  | cursorShape (shape : CursorShape)
  | enterAlternateScreen
  | leaveAlternateScreen
  | disableLineWrap
  | enableLineWrap
deriving DecidableEq, Repr

namespace TerminalCommand

def sequence (body : String) : String :=
  "\x1b[" ++ body

def colorParts (c : Color) : String :=
  s!"{c.red.toNat};{c.green.toNat};{c.blue.toNat}"

def encode : TerminalCommand → String
  | moveTo x y => sequence s!"{y + 1};{x + 1}H"
  | foreground color => sequence ("38;2;" ++ colorParts color ++ "m")
  | background color => sequence ("48;2;" ++ colorParts color ++ "m")
  | resetStyle => sequence "0m"
  | bold => sequence "1m"
  | italic => sequence "3m"
  | underlined => sequence "4m"
  | print text => String.ofList text
  | clearLine => sequence "2K"
  | clearScreen => sequence "2J"
  | hideCursor => sequence "?25l"
  | showCursor => sequence "?25h"
  | cursorShape .standard => sequence "0 q"
  | cursorShape .steadyBlock => sequence "2 q"
  | cursorShape .blinkingBar => sequence "5 q"
  | enterAlternateScreen => sequence "?1049h"
  | leaveAlternateScreen => sequence "?1049l"
  | disableLineWrap => sequence "?7l"
  | enableLineWrap => sequence "?7h"

def encodeAll (cs : List TerminalCommand) : String :=
  String.join (cs.map encode)

end TerminalCommand

structure TerminalState where
  raw : Bool := false
deriving DecidableEq, Repr

namespace TerminalState

def setup (_ : TerminalState) : TerminalState × List TerminalCommand :=
  ({ raw := true }, [.enterAlternateScreen, .disableLineWrap, .hideCursor, .clearScreen])

def teardown (_ : TerminalState) : TerminalState × List TerminalCommand :=
  ({ raw := false },
    [.cursorShape .standard, .showCursor, .enableLineWrap, .leaveAlternateScreen])

def suspend (t : TerminalState) : TerminalState × List TerminalCommand :=
  t.teardown

def resume (t : TerminalState) : TerminalState × List TerminalCommand :=
  t.setup

end TerminalState

end Workbench
