/-!
What a terminal reports: keys with their modifiers, and other events.
-/

namespace Workbench

inductive KeyCode where
  | char (c : Char)
  | esc
  | enter
  | backspace
  | tab
  | backTab
  | left
  | right
  | up
  | down
  | home
  | endKey
  | delete
  | insert
  | pageUp
  | pageDown
  | function (n : Nat)
deriving DecidableEq, Repr

inductive KeyPhase where
  | press
  | hold
  | release
deriving DecidableEq, Repr

structure Key where
  code : KeyCode
  control : Bool := false
  alt : Bool := false
  shift : Bool := false
deriving DecidableEq, Repr

inductive TerminalEvent where
  | key (key : Key) (phase : KeyPhase)
  | paste (text : String)
  | resize (width height : UInt16)
  | focusGained
  | focusLost
  | mouse
deriving DecidableEq, Repr

namespace Key

def named : List (String × KeyCode) := [
  ("Esc", .esc), ("Enter", .enter), ("Backspace", .backspace), ("Tab", .tab),
  ("BackTab", .backTab), ("Left", .left), ("Right", .right), ("Up", .up), ("Down", .down),
  ("Home", .home), ("End", .endKey), ("Delete", .delete), ("Insert", .insert),
  ("PageUp", .pageUp), ("PageDown", .pageDown), ("F1", .function 1)]

def modifiers? (key : Key) : List Char → Option Key
  | [] => some key
  | 'C' :: cs => modifiers? { key with control := true } cs
  | 'A' :: cs => modifiers? { key with alt := true } cs
  | 'S' :: cs => modifiers? { key with shift := true } cs
  | _ => none

def plain? (cs : List Char) : Option Key :=
  match cs with
  | [c] => some { code := .char c }
  | cs => (named.find? (·.1.toList = cs)).map fun k => { code := k.2 }

/-- Reads a key such as `x`, `Esc` or `C-s`. -/
def read? (text : String) : Option Key :=
  let cs := text.toList
  let held := cs.takeWhile (· ≠ '-')
  match plain? cs, cs.dropWhile (· ≠ '-') with
  | some key, _ => some key
  | none, _ :: rest => (plain? rest).bind (modifiers? · held)
  | none, [] => none

end Key

end Workbench
