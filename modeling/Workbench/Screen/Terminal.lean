import Workbench.Screen.Command
import Workbench.Text.Lines

/-!
What a terminal makes of what it is sent: a grid of cells, one for each printed character. Lines are not
wrapped, so that the cursor stays in the last column when a row is full.
-/

namespace Workbench

structure Pen where
  foreground? : Option Color := none
  background? : Option Color := none
  bold : Bool := false
  italic : Bool := false
  underlined : Bool := false
deriving DecidableEq, Repr

structure Cell where
  char : Char := ' '
  pen : Pen := {}
deriving DecidableEq, Repr

structure Terminal where
  width : Nat
  height : Nat
  cell : Nat → Nat → Cell := fun _ _ => {}
  column : Nat := 0
  row : Nat := 0
  pen : Pen := {}

def Pen.Plain (p : Pen) : Prop :=
  p.bold = false ∧ p.italic = false ∧ p.underlined = false

def Pen.select (p : Pen) : List Nat → Pen
  | [] => p
  | 0 :: ns => Pen.select {} ns
  | 1 :: ns => { p with bold := true }.select ns
  | 3 :: ns => { p with italic := true }.select ns
  | 4 :: ns => { p with underlined := true }.select ns
  | 38 :: 2 :: r :: g :: b :: ns =>
    { p with foreground? := some ⟨UInt8.ofNat r, UInt8.ofNat g, UInt8.ofNat b⟩ }.select ns
  | 48 :: 2 :: r :: g :: b :: ns =>
    { p with background? := some ⟨UInt8.ofNat r, UInt8.ofNat g, UInt8.ofNat b⟩ }.select ns
  | _ :: ns => p.select ns

namespace Terminal

def moveTo (t : Terminal) (x y : Nat) : Terminal :=
  { t with column := min x (t.width - 1), row := min y (t.height - 1) }

def put (t : Terminal) (c : Char) : Terminal :=
  { t with
    cell := fun x y => if x = t.column ∧ y = t.row then ⟨c, t.pen⟩ else t.cell x y
    column := min (t.column + 1) (t.width - 1) }

def erased (t : Terminal) : Cell where
  pen := { background? := t.pen.background? }

def clearLine (t : Terminal) : Terminal :=
  { t with cell := fun x y => if y = t.row then t.erased else t.cell x y }

def clearScreen (t : Terminal) : Terminal :=
  { t with cell := fun _ _ => t.erased }

/-- Carries out a command. The look of the cursor and the modes of the screen are left out. -/
def exec (t : Terminal) : TerminalCommand → Terminal
  | .moveTo x y => t.moveTo x y
  | .foreground color => { t with pen := { t.pen with foreground? := some color } }
  | .background color => { t with pen := { t.pen with background? := some color } }
  | .resetStyle => { t with pen := {} }
  | .bold => { t with pen := { t.pen with bold := true } }
  | .italic => { t with pen := { t.pen with italic := true } }
  | .underlined => { t with pen := { t.pen with underlined := true } }
  | .print text => text.foldl put t
  | .clearLine => t.clearLine
  | .clearScreen => t.clearScreen
  | .hideCursor | .showCursor | .cursorShape _ | .enterAlternateScreen | .leaveAlternateScreen
  | .disableLineWrap | .enableLineWrap => t

def execAll (t : Terminal) (cs : List TerminalCommand) : Terminal :=
  cs.foldl exec t

def isControl (c : Char) : Bool :=
  c < ' ' || ('\x7f' ≤ c && c ≤ '\u009f')

inductive Reading where
  | text
  | escape
  | sequence (parameters : List Char)
deriving DecidableEq, Repr

def isFinal (c : Char) : Bool :=
  '@' ≤ c && c ≤ '~'

def numbers (parameters : List Char) : List Nat :=
  (Text.splitAt ';' parameters).map (Nat.ofDigitChars 10 · 0)

/-- Does what a sequence says. Rows and columns are counted from one there. -/
def obey (t : Terminal) (parameters : List Char) (final : Char) : Terminal :=
  match final, numbers parameters with
  | 'H', [y, x] => t.moveTo (x - 1) (y - 1)
  | 'm', ns => { t with pen := t.pen.select ns }
  | 'K', [2] => t.clearLine
  | 'J', [2] => t.clearScreen
  | _, _ => t

/-- Reads a character. Control characters other than the escape are passed over. -/
def receive (state : Terminal × Reading) (c : Char) : Terminal × Reading :=
  match state with
  | (t, .text) =>
    if c = '\x1b' then (t, .escape)
    else if isControl c then (t, .text)
    else (t.put c, .text)
  | (t, .escape) => if c = '[' then (t, .sequence []) else (t, .text)
  | (t, .sequence parameters) =>
    if isFinal c then (t.obey parameters c, .text) else (t, .sequence (parameters ++ [c]))

def feed (t : Terminal) (text : String) : Terminal :=
  (text.toList.foldl receive (t, .text)).1

end Terminal

end Workbench
