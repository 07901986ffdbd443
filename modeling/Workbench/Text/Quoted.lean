import Workbench.Unicode.Printable

/-!
Quoted text for log lines and messages: on one line, with every character that would not show up
written as an escape.
-/

namespace Workbench.Text

def codePointEscape (c : Char) : List Char :=
  ['\\', 'u', '\x7b'] ++ Nat.toDigits 16 c.toNat ++ ['\x7d']

def quoteChar (c : Char) : List Char :=
  if c = '\x00' then ['\\', '0']
  else if c = '\t' then ['\\', 't']
  else if c = '\r' then ['\\', 'r']
  else if c = '\n' then ['\\', 'n']
  else if c = '"' then ['\\', '"']
  else if c = '\\' then ['\\', '\\']
  else if Unicode.isGraphemeExtend c then codePointEscape c
  else if Unicode.isPrintable c then [c]
  else codePointEscape c

def quote (s : String) : String :=
  String.ofList ('"' :: s.toList.flatMap quoteChar ++ ['"'])

end Workbench.Text
