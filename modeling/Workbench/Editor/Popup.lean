import Workbench.Language.Registry

/-!
What can pop up at the caret: a list of completions or a hover card.
-/

namespace Workbench

open Text (Position Word)

structure CompletionPopup where
  items : List CompletionItem
  selected : Nat
  typed? : Option Word
  anchor : Position
deriving DecidableEq, Repr

namespace CompletionPopup

def labelMatches (word : List Char) (item : CompletionItem) : Bool :=
  (Unicode.lower (String.ofList word)).toList.isPrefixOf (Unicode.lower item.label).toList

def filtered? (items : List CompletionItem) (typed? : Option Word) (anchor : Position) :
    Option CompletionPopup :=
  let kept := match typed? with
    | some w => items.filter (labelMatches w.text)
    | none => items
  if kept.isEmpty then none else some ⟨kept, 0, typed?, anchor⟩

def selectNext (p : CompletionPopup) : CompletionPopup :=
  { p with selected := (p.selected + 1) % p.items.length }

def selectPrevious (p : CompletionPopup) : CompletionPopup :=
  { p with selected := if p.selected = 0 then p.items.length - 1 else p.selected - 1 }

def current? (p : CompletionPopup) : Option CompletionItem :=
  p.items[p.selected]?

end CompletionPopup

structure HoverPopup where
  markdown : String
  anchor : Position
deriving DecidableEq, Repr

def HoverPopup.of (h : Hover) (line : Nat) : HoverPopup :=
  ⟨h.markdown, line, h.range.start⟩

end Workbench
