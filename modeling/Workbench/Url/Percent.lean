import Workbench.Text.Hex
import Workbench.Text.Utf8

/-!
Percent encoding: the bytes of a character in hexadecimal notation, each after a percent sign. Every part
of an address has a class of characters that are written so; characters beyond ASCII always are.
-/

namespace Workbench.Url

abbrev EncodeSet := Char → Bool

namespace EncodeSet

def controls : EncodeSet := fun c => c < ' ' || '~' < c

def add (s : EncodeSet) (chars : List Char) : EncodeSet := fun c => s c || chars.contains c

def fragment : EncodeSet := controls.add [' ', '"', '<', '>', '\x60']
def path : EncodeSet := fragment.add ['#', '?', '\x7b', '\x7d']
def query : EncodeSet := controls.add [' ', '"', '#', '<', '>']
def specialQuery : EncodeSet := query.add ['\'']
def userinfo : EncodeSet := path.add ['/', ':', ';', '=', '@', '[', '\\', ']', '^', '|']

end EncodeSet

def hexDigit (n : Nat) : Char :=
  Char.ofNat (if n < 10 then '0'.toNat + n else 'A'.toNat + (n - 10))

def encodeByte (b : UInt8) : List Char :=
  ['%', hexDigit (b.toNat / 16), hexDigit (b.toNat % 16)]

def encode (s : EncodeSet) (cs : List Char) : List Char :=
  cs.flatMap fun c => if s c then (String.singleton c).toUTF8.toList.flatMap encodeByte else [c]

def decode : List Char → List UInt8
  | '%' :: a :: b :: cs =>
    match Text.hexValue? a, Text.hexValue? b with
    | some x, some y => UInt8.ofNat (x * 16 + y) :: decode cs
    | _, _ => '%'.toNat.toUInt8 :: decode (a :: b :: cs)
  | c :: cs => (String.singleton c).toUTF8.toList ++ decode cs
  | [] => []

end Workbench.Url
