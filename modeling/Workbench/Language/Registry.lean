import Workbench.Files.Path
import Workbench.Language.Keyword
import Workbench.Language.Token
import Workbench.Text.Word
import Workbench.Unicode.Case

/-!
The languages that the editor knows, each with what it offers: tokens, completions and hover cards.
-/

namespace Workbench

open Text (Model Position Word)

structure Hover where
  markdown : String
  range : Word
deriving DecidableEq, Repr

abbrev TokensProvider := List Char → List Token

abbrev CompletionProvider := Model → Position → List CompletionItem

abbrev HoverProvider := Model → Position → Option Hover

structure Language where
  id : String
  /-- The extensions of its files, in lower case. -/
  extensions : List String
  tokens : Option TokensProvider := none
  completion : Option CompletionProvider := none
  hover : Option HoverProvider := none

inductive RegistryError where
  | unknownLanguage (id : String)
deriving DecidableEq, Repr

def RegistryError.message : RegistryError → String
  | unknownLanguage id => s!"language '{id}' is not registered"

structure Registry where
  languages : List Language := []

namespace Registry

def register (r : Registry) (id : String) (extensions : List String) : Registry :=
  ⟨r.languages.filter (·.id ≠ id) ++ [{ id, extensions := extensions.map Unicode.lower }]⟩

def find? (r : Registry) (id : String) : Option Language :=
  r.languages.find? (·.id = id)

def update (r : Registry) (id : String) (f : Language → Language) : Except RegistryError Registry :=
  if (r.find? id).isSome then
    .ok ⟨r.languages.map fun l => if l.id = id then f l else l⟩
  else .error (.unknownLanguage id)

def setTokens (r : Registry) (id : String) (p : TokensProvider) : Except RegistryError Registry :=
  r.update id ({ · with tokens := some p })

def setCompletion (r : Registry) (id : String) (p : CompletionProvider) :
    Except RegistryError Registry :=
  r.update id ({ · with completion := some p })

def setHover (r : Registry) (id : String) (p : HoverProvider) : Except RegistryError Registry :=
  r.update id ({ · with hover := some p })

def languageForPath? (r : Registry) (p : Path) : Option String :=
  p.extension?.bind fun ext =>
    (r.languages.find? (·.extensions.contains (Unicode.lower ext))).map (·.id)

def tokenize? (r : Registry) (id : String) (line : List Char) : Option (List Token) :=
  (r.find? id).bind fun l => l.tokens.map (· line)

def completions (r : Registry) (id : String) (m : Model) (p : Position) : List CompletionItem :=
  (((r.find? id).bind (·.completion)).map (· m p)).getD []

def hover? (r : Registry) (id : String) (m : Model) (p : Position) : Option Hover :=
  ((r.find? id).bind (·.hover)).bind (· m p)

end Registry

end Workbench
