import Workbench.Unicode.Case

/-!
Levels of log events.
-/

namespace Workbench

inductive LogLevel where
  | error
  | warn
  | info
  | debug
  | trace
deriving DecidableEq, Repr, Inhabited

namespace LogLevel

def all : List LogLevel := [error, warn, info, debug, trace]

def label : LogLevel → String
  | error => "ERROR"
  | warn => "WARN"
  | info => "INFO"
  | debug => "DEBUG"
  | trace => "TRACE"

def name : LogLevel → String
  | error => "error"
  | warn => "warn"
  | info => "info"
  | debug => "debug"
  | trace => "trace"

def rank : LogLevel → Nat
  | error => 1
  | warn => 2
  | info => 3
  | debug => 4
  | trace => 5

/-- The level with a name, whatever the case of the letters A to Z. Warnings have a long name too. -/
def parse? (s : String) : Option LogLevel :=
  let s := Unicode.lowerAscii s
  if s = "warning" then some warn else all.find? (·.name = s)

end LogLevel

end Workbench
