/-!
The keywords of the built-in language. The table drives highlighting, completion and hover cards alike.
-/

namespace Workbench

structure Keyword where
  name : String
  insertText : String
  documentation : String
  hover : String
deriving DecidableEq, Repr

namespace Keyword

def all : List Keyword := [
  { name := "print"
    insertText := "print "
    documentation := "Print text to the output."
    hover := "**print** - Outputs text to the console." },
  { name := "add"
    insertText := "add "
    documentation := "Add two numbers: add 5 6"
    hover := "**add** - Adds two numbers. Usage: `add 5 6`" },
  { name := "let"
    insertText := "let "
    documentation := "Bind a value to a name: let x 5"
    hover := "**let** - Binds a value to a name. Usage: `let x 5`" },
  { name := "get"
    insertText := "get "
    documentation := "Read a bound value: get x"
    hover := "**get** - Reads the value bound to a name. Usage: `get x`" },
  { name := "repeat"
    insertText := "repeat "
    documentation := "Repeat a word multiple times: repeat hi 3"
    hover := "**repeat** - Repeats a word multiple times." },
  { name := "uppercase"
    insertText := "uppercase "
    documentation := "Convert text to uppercase."
    hover := "**uppercase** - Converts text to uppercase." }]

def find? (name : String) : Option Keyword :=
  all.find? (·.name = name)

def names : List String :=
  all.map (·.name)

end Keyword

structure CompletionItem where
  label : String
  insertText : String
  documentation : String
deriving DecidableEq, Repr

def Keyword.completion (k : Keyword) : CompletionItem :=
  ⟨k.name, k.insertText, k.documentation⟩

end Workbench
