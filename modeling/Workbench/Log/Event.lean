import Workbench.Log.Level
import Workbench.Text.Quoted

/-!
Log events and the lines that they are written as.
-/

namespace Workbench

inductive LogValue where
  | plain (text : String)
  | quoted (text : String)
  | number (n : Nat)
deriving DecidableEq, Repr

def LogValue.render : LogValue → String
  | plain text => text
  | quoted text => Text.quote text
  | number n => toString n

structure LogEvent where
  level : LogLevel
  target : String
  message : String
  fields : List (String × LogValue) := []
deriving DecidableEq, Repr

namespace LogEvent

def escapeControl (c : Char) : List Char :=
  if c = '\x1b' || c = '\x07' || c = '\x08' || c = '\x0c' || c = '\x7f' then
    ['\\', 'x'] ++ (if c.toNat < 16 then ['0'] else []) ++ Nat.toDigits 16 c.toNat
  else if 0x80 ≤ c.toNat ∧ c.toNat ≤ 0x9f then Text.codePointEscape c
  else [c]

def safeMessage (e : LogEvent) : String :=
  String.ofList (e.message.toList.flatMap escapeControl)

def render (e : LogEvent) : String :=
  let fields := e.fields.map fun f => s!"{f.1}={f.2.render}"
  s!"{e.level.label} {e.target}: " ++ String.intercalate " " (e.safeMessage :: fields)

def timedLine (time : String) (e : LogEvent) : String :=
  let padding := "".pushn ' ' (5 - e.level.label.length)
  s!"{time} {padding}{e.render}\n"

end LogEvent

end Workbench
