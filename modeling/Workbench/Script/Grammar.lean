import Workbench.Script.Program

/-!
The grammar of configuration scripts. Expressions and blocks can only lie in each other to a certain depth.
-/

namespace Workbench.Script

abbrev Tokens := List (Token × Position)

def takeSymbol? (s : String) : Tokens → Option (Position × Tokens)
  | (.symbol t, p) :: ts => if t = s then some (p, ts) else none
  | _ => none

def takeName? : Tokens → Option (String × Tokens)
  | (.name s, _) :: ts => some (s, ts)
  | _ => none

def atEnd : Tokens → Bool
  | [] => true
  | (.symbol s, _) :: _ => s = ";" || s = "\x7d"
  | _ => false

def takePath (name : String) (p : Position) : Tokens → List (String × Position) × Tokens
  | (.symbol "::", _) :: (.name next, q) :: ts =>
    let (names, ts) := takePath next q ts
    ((name, p) :: names, ts)
  | ts => ([(name, p)], ts)

def BinaryOp.ofSymbol? (s : String) : Option (BinaryOp × Nat) :=
  (table.find? (·.1 = s)).map (·.2)

def UnaryOp.ofSymbol? (s : String) : Option UnaryOp :=
  [plus, minus, not].find? (·.symbol = s)

def assignment? (s : String) : Option (Option BinaryOp) :=
  if s = "=" then some none
  else ([.add, .sub, .mul, .div, .rem].find? fun op => op.symbol ++ "=" = s).map some

def maxDepth : Nat := 64

def deeper (n room : Nat) : Option Nat :=
  if n ≤ room then some (room - n) else none

/-!
The readers of expressions. The first argument bounds the number of readers that wait for another one, and
`room` is the number of levels that may still follow.
-/

mutual

def readExpr (fuel room : Nat) (ts : Tokens) : Option (Expr × Tokens) :=
  match fuel with
  | 0 => none
  | n + 1 => do
    let room ← deeper 1 room
    let (left, ts) ← readOperand n room ts
    readOperations n room 0 left ts

def readOperations (fuel room strength : Nat) (left : Expr) (ts : Tokens) : Option (Expr × Tokens) :=
  match fuel, ts with
  | 0, _ => none
  | n + 1, (.symbol s, p) :: rest =>
    match BinaryOp.ofSymbol? s with
    | none => some (left, ts)
    | some (op, own) =>
      -- An operator that binds less tightly belongs to an enclosing expression.
      if own < strength then some (left, ts)
      else do
        let (right, rest) ← readOperand n room rest
        let (right, rest) ← readOperations n room (own + 1) right rest
        readOperations n room strength (.combine p op left right) rest
  | _ + 1, _ => some (left, ts)

def readOperand (fuel room : Nat) (ts : Tokens) : Option (Expr × Tokens) :=
  match fuel with
  | 0 => none
  | n + 1 =>
    let inner : Option (Expr × Tokens) := do
      let (e, ts) ← readPrimary n room ts
      readSuffixes n room e ts
    match ts with
    | (.symbol s, p) :: rest =>
      match UnaryOp.ofSymbol? s with
      | none => inner
      | some op => do
        let room ← deeper 1 room
        let (e, rest) ← readOperand n room rest
        return (.sign p op e, rest)
    | _ => inner

def readPrimary (fuel room : Nat) (ts : Tokens) : Option (Expr × Tokens) :=
  match fuel, ts with
  | _ + 1, (.literal v, p) :: ts => some (.literal p v, ts)
  | n + 1, (.symbol "(", p) :: ts =>
    match takeSymbol? ")" ts with
    | some (_, ts) => some (.literal p .unit, ts)
    | none => do
      let room ← deeper 2 room
      let (e, ts) ← readExpr n room ts
      let (_, ts) ← takeSymbol? ")" ts
      return (e, ts)
  | n + 1, (.symbol "[", p) :: ts => do
    let room ← deeper 1 room
    let (items, ts) ← readItems n room "]" ts
    return (.list p items, ts)
  | n + 1, (.name s, p) :: ts => do
    let (names, ts) := takePath s p ts
    match names.getLast?, takeSymbol? "(" ts with
    | some (name, q), some (_, ts) =>
      let room ← deeper 1 room
      let (args, ts) ← readItems n room ")" ts
      return (.call q names.dropLast name args, ts)
    | _, _ => if names.length = 1 then some (.name p s, ts) else none
  | _, _ => none

def readSuffixes (fuel room : Nat) (target : Expr) (ts : Tokens) : Option (Expr × Tokens) :=
  match fuel, ts with
  | 0, _ => none
  | n + 1, (.symbol "[", _) :: ts => do
    let room ← deeper 1 room
    let (index, ts) ← readExpr n room ts
    let (_, ts) ← takeSymbol? "]" ts
    readSuffixes n room (.item index.position target index) ts
  | n + 1, (.symbol ".", _) :: (.name name, p) :: ts =>
    match takeSymbol? "(" ts with
    -- A property is a method without arguments.
    | none => readSuffixes n room (.method p target name []) ts
    | some (_, ts) => do
      let room ← deeper 1 room
      let (args, ts) ← readItems n room ")" ts
      readSuffixes n room (.method p target name args) ts
  | _ + 1, ts => some (target, ts)

def readItems (fuel room : Nat) (closing : String) (ts : Tokens) : Option (List Expr × Tokens) :=
  match fuel with
  | 0 => none
  | n + 1 =>
    match takeSymbol? closing ts with
    | some (_, ts) => some ([], ts)
    | none => do
      let (e, ts) ← readExpr n room ts
      match takeSymbol? closing ts, takeSymbol? "," ts with
      | some (_, ts), _ => return ([e], ts)
      | none, some (_, ts) =>
        let (es, ts) ← readItems n room closing ts
        return (e :: es, ts)
      | none, none => none

end

structure Surroundings where
  room : Nat := maxDepth
  inLoop : Bool := false
  constants : List String := []
deriving DecidableEq, Repr

def Surroundings.deeper (n : Nat) (c : Surroundings) : Option Surroundings :=
  (Script.deeper n c.room).map fun room => { c with room }

def readValue (fuel room : Nat) (p : Position) (ts : Tokens) : Option (Expr × Tokens) :=
  if atEnd ts then some (.literal p .unit, ts) else readExpr fuel room ts

def readAction (fuel : Nat) (c : Surroundings) (ts : Tokens) : Option (Statement × Tokens) := do
  let (e, ts) ← readExpr fuel c.room ts
  match ts with
  | (.symbol s, p) :: rest =>
    match assignment? s, e with
    | none, _ => return (.expr e, ts)
    | some op?, .name q name =>
      if c.constants.contains name then none
      let (value, rest) ← readExpr fuel c.room rest
      return (.assign p op? q name value, rest)
    | _, _ => none
  | _ => return (.expr e, ts)

def readDeclaration (fuel : Nat) (c : Surroundings) (p : Position) (ts : Tokens) :
    Option (Statement × Tokens) := do
  let (name, ts) ← takeName? ts
  match takeSymbol? "=" ts with
  | none => return (.declare p name (.literal p .unit), ts)
  | some (_, ts) =>
    let (value, ts) ← readExpr fuel c.room ts
    return (.declare p name value, ts)

mutual

def readStatement (fuel : Nat) (c : Surroundings) (ts : Tokens) : Option (Statement × Tokens) :=
  match fuel, ts with
  | 0, _ => none
  | n + 1, (.keyword k, p) :: rest =>
    match k with
    | "let" | "const" => readDeclaration n c p rest
    | "if" => readBranch n c p rest
    | "while" => do
      let (condition, rest) ← readExpr n c.room rest
      let (start, body, rest) ← readBlock n { c with inLoop := true } rest
      return (.repeatWhile p condition start body, rest)
    | "loop" => do
      let (start, body, rest) ← readBlock n { c with inLoop := true } rest
      return (.repeatWhile p (.literal p (.bool true)) start body, rest)
    | "for" => do
      let (name, rest) ← takeName? rest
      match rest with
      | (.keyword "in", _) :: rest =>
        let (range, rest) ← readExpr n c.room rest
        let constants := c.constants.filter (· ≠ name)
        let (start, body, rest) ← readBlock n { c with inLoop := true, constants } rest
        return (.repeatFor p name range start body, rest)
      | _ => none
    | "throw" => (readValue n c.room p rest).map fun (e, rest) => (.raise p e, rest)
    | "return" => (readValue n c.room p rest).map fun (e, rest) => (.finish p e, rest)
    | "break" =>
      if c.inLoop then (readValue n c.room p rest).map fun (e, rest) => (.leaveLoop p e, rest) else none
    | "continue" => if c.inLoop then some (.nextTurn p, rest) else none
    | _ => none
  | n + 1, (.symbol "\x7b", p) :: _ => do
    let (_, body, rest) ← readBlock n c ts
    return (.block p body, rest)
  | n + 1, _ => readAction n c ts

def readBranch (fuel : Nat) (c : Surroundings) (p : Position) (ts : Tokens) : Option (Statement × Tokens) :=
  match fuel with
  | 0 => none
  | n + 1 => do
    let (condition, ts) ← readExpr n c.room ts
    let (_, yes, ts) ← readBlock n c ts
    match ts with
    | (.keyword "else", _) :: (.keyword "if", q) :: ts =>
      let c ← c.deeper 1
      let (other, ts) ← readBranch n c q ts
      return (.branch p condition yes [other], ts)
    | (.keyword "else", _) :: ts =>
      let (_, no, ts) ← readBlock n c ts
      return (.branch p condition yes no, ts)
    | ts => return (.branch p condition yes [], ts)

def readBlock (fuel : Nat) (c : Surroundings) (ts : Tokens) : Option (Position × List Statement × Tokens) :=
  match fuel with
  | 0 => none
  | n + 1 => do
    let (p, ts) ← takeSymbol? "\x7b" ts
    let c ← c.deeper 2
    let (body, ts) ← readStatements n c ts
    let (_, ts) ← takeSymbol? "\x7d" ts
    return (p, body, ts)

def readStatements (fuel : Nat) (c : Surroundings) (ts : Tokens) : Option (List Statement × Tokens) :=
  match fuel with
  | 0 => none
  | n + 1 =>
    if ts.isEmpty || (takeSymbol? "\x7d" ts).isSome then some ([], ts)
    else match takeSymbol? ";" ts with
    | some (_, ts) => readStatements n c ts
    | none => do
      let (s, rest) ← readStatement n c ts
      if !s.endsItself && !atEnd rest then none
      let constants := match ts, s with
        | (.keyword "const", _) :: _, .declare _ name _ => name :: c.constants
        | _, .declare _ name _ => c.constants.filter (· ≠ name)
        | _, _ => c.constants
      let (ss, rest) ← readStatements n { c with constants } rest
      return (s :: ss, rest)

end

def Program.parse? (script : String) : Option Program := do
  let ts ← Token.scan {} script.toList
  let (program, rest) ← readStatements (8 * ts.length + 8) { room := maxDepth - 1 } ts
  if rest.isEmpty then Statement.trimBlock true program else none

end Workbench.Script
