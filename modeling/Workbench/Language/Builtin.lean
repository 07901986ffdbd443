import Workbench.Language.Lexer
import Workbench.Language.Registry
import Workbench.Log.Event

/-!
The built-in language and its services.
-/

namespace Workbench.Language.Builtin

def id : String := "opencode"

def defaultExtension : String := "oc"

def extensions : List String := [defaultExtension, "opencode", "dev"]

def untitledName : String := "untitled." ++ defaultExtension

def completion : CompletionProvider :=
  fun _ _ => Keyword.all.map (·.completion)

def hover : HoverProvider := fun m p =>
  (m.wordAt? p).bind fun w =>
    (Keyword.find? (String.ofList w.text)).map fun k => ⟨k.hover, w⟩

def language : Language where
  id := id
  extensions := extensions
  tokens := some Lexer.builtin.tokenize
  completion := some completion
  hover := some hover

def register (r : Registry) : Except RegistryError Registry := do
  let r := r.register id extensions
  let r ← r.setTokens id Lexer.builtin.tokenize
  let r ← r.setCompletion id completion
  r.setHover id hover

def registered : LogEvent where
  level := .debug
  target := "ocide::language::dsl"
  message := "registered language providers"
  fields := [("language", .quoted id)]

end Workbench.Language.Builtin
