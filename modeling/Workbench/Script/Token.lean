import Workbench.Script.Value
import Workbench.Text.Hex

/-!
The tokens of configuration scripts. Blanks and comments, which may lie in each other, stand between them.
-/

namespace Workbench.Script

structure Position where
  line : Nat := 1
  column : Nat := 1
deriving DecidableEq, Repr, Inhabited

namespace Position

def render (p : Position) : String :=
  s!"line {p.line}, position {p.column}"

def after (p : Position) (cs : List Char) : Position :=
  cs.foldl (fun p c => if c = '\n' then ⟨p.line + 1, 1⟩ else { p with column := p.column + 1 }) p

end Position

inductive Token where
  | literal (v : Value)
  | name (s : String)
  | keyword (s : String)
  | symbol (s : String)
deriving Repr, BEq, Inhabited

namespace Token

def keywords : List String := [
  "let", "const", "if", "else", "while", "loop", "do", "until", "for", "in", "break", "continue",
  "return", "throw", "try", "catch", "switch", "fn", "private", "import", "export", "as", "global",
  "this", "var", "static", "shared", "goto", "match", "case", "default", "void", "null", "nil",
  "spawn", "thread", "go", "sync", "async", "await", "yield", "public", "protected", "new", "use",
  "with", "is", "module", "package", "super", "_"]

/-- The symbols, each in front of those that it starts with. -/
def symbols : List String := [
  "..=", "...", "**=", "<<=", ">>=", "::", "..", "==", "!=", "<=", ">=", "&&", "||", "+=", "-=", "*=",
  "/=", "%=", "**", "=>", "(", ")", "\x7b", "\x7d", "[", "]", ",", ";", ":", ".", "=", "<", ">", "+", "-",
  "*", "/", "%", "!"]

def commentLength (depth : Nat) : List Char → Nat
  | '*' :: '/' :: cs => if depth = 0 then 2 else 2 + commentLength (depth - 1) cs
  | '/' :: '*' :: cs => 2 + commentLength (depth + 1) cs
  | _ :: cs => 1 + commentLength depth cs
  | [] => 0

def codePoint? (cs : List Char) : Option Char :=
  (cs.foldlM (fun n c => (Text.hexValue? c).map (n * 16 + ·)) 0).bind fun n =>
    if n < 0xd800 ∨ 0xe000 ≤ n ∧ n < 0x110000 then some (Char.ofNat n) else none

def escaped? : Char → Option Char
  | '\\' => some '\\'
  | '"' => some '"'
  | 'n' => some '\n'
  | 'r' => some '\r'
  | 't' => some '\t'
  | _ => none

def escapeDigits? : Char → Option Nat
  | 'x' => some 2
  | 'u' => some 4
  | 'U' => some 8
  | _ => none

/-- The content of a text after its opening quote, and its length with the closing quote. A quote in the
text is written twice or after a backslash. -/
def readText (cs : List Char) : Option (List Char × Nat) :=
  match cs with
  | '"' :: '"' :: cs => (readText cs).map fun r => ('"' :: r.1, r.2 + 2)
  | '"' :: _ => some ([], 1)
  | '\\' :: c :: cs =>
    match escapeDigits? c with
    | some n =>
      if cs.length < n then none
      else (codePoint? (cs.take n)).bind fun e =>
        (readText (cs.drop n)).map fun r => (e :: r.1, r.2 + 2 + n)
    | none => (escaped? c).bind fun e => (readText cs).map fun r => (e :: r.1, r.2 + 2)
  | c :: cs => if c = '\n' ∨ c = '\\' then none else (readText cs).map fun r => (c :: r.1, r.2 + 1)
  | [] => none
termination_by cs.length
decreasing_by all_goals simp only [List.length_cons, List.length_drop]; omega

def isDigitOrGap (c : Char) : Bool :=
  c.isDigit || c = '_'

def digits? (base : Nat) (cs : List Char) : Option Nat :=
  (cs.filter (· ≠ '_')).foldlM (fun n c => (Text.hexValue? c).bind fun d =>
    if d < base then some (n * base + d) else none) 0

/-- An integer, or a floating point number if it does not fit. -/
def decimal (cs : List Char) : Value :=
  match digits? 10 cs with
  | some n => if Value.fits n then .int (.ofNat n) else .float (String.ofList cs)
  | none => .float (String.ofList cs)

def fractionLength : List Char → Nat
  | '.' :: c :: cs => if c.isDigit then 2 + (cs.takeWhile isDigitOrGap).length else 0
  | _ => 0

def readNumber (cs : List Char) : Option (Value × Nat) :=
  let prefixed (base : Nat) (cs : List Char) : Option (Value × Nat) :=
    let inner (c : Char) : Bool := c = '_' || (Text.hexValue? c).any (· < base)
    let digits := cs.takeWhile inner
    (digits? base digits).bind fun n =>
      if digits.isEmpty ∨ ¬ Value.fits n then none else some (.int (.ofNat n), digits.length + 2)
  match cs with
  | '0' :: 'x' :: cs | '0' :: 'X' :: cs => prefixed 16 cs
  | '0' :: 'o' :: cs | '0' :: 'O' :: cs => prefixed 8 cs
  | '0' :: 'b' :: cs | '0' :: 'B' :: cs => prefixed 2 cs
  | cs =>
    let whole := cs.takeWhile isDigitOrGap
    let fraction := fractionLength (cs.drop whole.length)
    if fraction = 0 then some (decimal whole, whole.length)
    else some (.float (String.ofList (cs.take (whole.length + fraction))), whole.length + fraction)

def startsName (c : Char) : Bool :=
  c.isAlpha || c = '_'

def ofName (s : String) : Token :=
  if s = "true" then literal (.bool true)
  else if s = "false" then literal (.bool false)
  else if keywords.contains s then keyword s
  else name s

/-- The token that a text starts with, if it is not a blank or a comment, and the length of what was read
after the first character. -/
def readFirst (c : Char) (cs : List Char) : Option (Option Token × Nat) :=
  if c = ' ' ∨ c = '\t' ∨ c = '\n' ∨ c = '\r' then some (none, 0)
  else if c = '/' ∧ cs.head? = some '/' then some (none, (cs.takeWhile (· ≠ '\n')).length)
  else if c = '/' ∧ cs.head? = some '*' then some (none, 1 + commentLength 0 (cs.drop 1))
  else if c = '"' then (readText cs).map fun r => (some (literal (.text (String.ofList r.1))), r.2)
  else if c.isDigit then (readNumber (c :: cs)).map fun r => (some (literal r.1), r.2 - 1)
  else if startsName c then
    let rest := cs.takeWhile fun c => c.isAlphanum || c = '_'
    some (some (ofName (String.ofList (c :: rest))), rest.length)
  else (symbols.find? (·.toList.isPrefixOf (c :: cs))).map fun s => (some (symbol s), s.length - 1)

def scan (p : Position) : List Char → Option (List (Token × Position))
  | [] => some []
  | c :: cs =>
    (readFirst c cs).bind fun (token?, n) =>
      (scan (p.after (c :: cs.take n)) (cs.drop n)).map fun rest =>
        token?.elim rest fun token => (token, p) :: rest
termination_by cs => cs.length
decreasing_by
  rw [List.length_drop, List.length_cons]
  omega

end Token

end Workbench.Script
