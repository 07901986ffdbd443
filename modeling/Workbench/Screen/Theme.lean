import Workbench.Language.Token

/-!
Colours, styles and the built-in themes.
-/

namespace Workbench

structure Color where
  red : UInt8
  green : UInt8
  blue : UInt8
deriving DecidableEq, Repr, Inhabited

namespace Color

def ofHex (n : Nat) : Color :=
  ⟨UInt8.ofNat (n / 65536), UInt8.ofNat (n / 256), UInt8.ofNat n⟩

def black : Color := ofHex 0x000000

def white : Color := ofHex 0xffffff

end Color

structure Style where
  foreground : Color
  bold : Bool := false
  italic : Bool := false
  underline : Bool := false
deriving DecidableEq, Repr

structure Theme where
  name : String
  background : Color
  foreground : Color
  lineNumber : Color
  lineNumberActive : Color
  statusBackground : Color
  statusForeground : Color
  sidebarBackground : Color
  sidebarForeground : Color
  sidebarSelected : Color
  outputBackground : Color
  outputForeground : Color
  popupBackground : Color
  popupForeground : Color
  popupSelected : Color
  border : Color
  error : Color
  keyword : Style
  comment : Style
  string : Style
  invalidString : Style
  number : Style
  identifier : Style
deriving DecidableEq, Repr

namespace Theme

def dark : Theme where
  name := "vs-dark"
  background := .ofHex 0x1e1e1e
  foreground := .ofHex 0xd4d4d4
  lineNumber := .ofHex 0x858585
  lineNumberActive := .ofHex 0xc6c6c6
  statusBackground := .ofHex 0x007acc
  statusForeground := .white
  sidebarBackground := .ofHex 0x252526
  sidebarForeground := .ofHex 0xcccccc
  sidebarSelected := .ofHex 0x37373d
  outputBackground := .ofHex 0x181818
  outputForeground := .ofHex 0xcccccc
  popupBackground := .ofHex 0x252526
  popupForeground := .ofHex 0xcccccc
  popupSelected := .ofHex 0x04395e
  border := .ofHex 0x444444
  error := .ofHex 0xf48771
  keyword := { foreground := .ofHex 0x569cd6, bold := true }
  comment := { foreground := .ofHex 0x6a9955, italic := true }
  string := { foreground := .ofHex 0xce9178 }
  invalidString := { foreground := .ofHex 0xf44747, underline := true }
  number := { foreground := .ofHex 0xb5cea8 }
  identifier := { foreground := .ofHex 0xd4d4d4 }

def light : Theme where
  name := "vs"
  background := .white
  foreground := .black
  lineNumber := .ofHex 0x237893
  lineNumberActive := .ofHex 0x0b216f
  statusBackground := .ofHex 0x007acc
  statusForeground := .white
  sidebarBackground := .ofHex 0xf3f3f3
  sidebarForeground := .ofHex 0x616161
  sidebarSelected := .ofHex 0xe4e6f1
  outputBackground := .ofHex 0xf8f8f8
  outputForeground := .ofHex 0x333333
  popupBackground := .ofHex 0xf3f3f3
  popupForeground := .black
  popupSelected := .ofHex 0xd6ebff
  border := .ofHex 0xc8c8c8
  error := .ofHex 0xe51400
  keyword := { foreground := .ofHex 0x0000ff, bold := true }
  comment := { foreground := .ofHex 0x008000, italic := true }
  string := { foreground := .ofHex 0xa31515 }
  invalidString := { foreground := .ofHex 0xcd3131, underline := true }
  number := { foreground := .ofHex 0x098658 }
  identifier := { foreground := .black }

def all : List Theme := [dark, light]

def names : List String := all.map (·.name)

def find? (name : String) : Option Theme :=
  all.find? (·.name = name)

/-- The name of the light theme for the dark one, and of the dark theme for every other name. -/
def toggled (name : String) : String :=
  if name = dark.name then light.name else dark.name

def styleFor (t : Theme) : TokenClass → Style
  | .keyword => t.keyword
  | .comment => t.comment
  | .string => t.string
  | .invalidString => t.invalidString
  | .number => t.number
  | .identifier => t.identifier

def plain (t : Theme) : Style :=
  { foreground := t.foreground }

end Theme

end Workbench
