import Workbench.Text.Lines
import Workbench.Text.Trim
import Workbench.Text.Utf8
import Workbench.Unicode.Case

/-!
The text of a body. A mark at the start tells the encoding, else the type of the content does. Whatever
cannot be decoded becomes a replacement character.
-/

namespace Workbench

inductive Charset where
  | utf8
  | utf16le
  | utf16be
  | windows1252
deriving DecidableEq, Repr

namespace Charset

def labels : List (String × Charset) :=
  (["ansi_x3.4-1968", "ascii", "cp1252", "cp819", "csisolatin1", "ibm819", "iso-8859-1", "iso-ir-100",
    "iso8859-1", "iso88591", "iso_8859-1", "iso_8859-1:1987", "l1", "latin1", "us-ascii",
    "windows-1252", "x-cp1252"].map (·, windows1252)) ++
  (["csunicode", "iso-10646-ucs-2", "ucs-2", "unicode", "unicodefeff", "utf-16", "utf-16le"].map
    (·, utf16le)) ++
  (["unicodefffe", "utf-16be"].map (·, utf16be))

def ofLabel (label : String) : Charset :=
  (labels.lookup (Unicode.lowerAscii (Text.trimString label))).getD utf8

def windowsSpecials : List Nat :=
  [0x20ac, 0x81, 0x201a, 0x192, 0x201e, 0x2026, 0x2020, 0x2021, 0x2c6, 0x2030, 0x160, 0x2039, 0x152,
   0x8d, 0x17d, 0x8f, 0x90, 0x2018, 0x2019, 0x201c, 0x201d, 0x2022, 0x2013, 0x2014, 0x2dc, 0x2122,
   0x161, 0x203a, 0x153, 0x9d, 0x17e, 0x178]

def windowsChar (b : UInt8) : Char :=
  let n := b.toNat
  Char.ofNat (if 0x80 ≤ n ∧ n < 0xa0 then windowsSpecials.getD (n - 0x80) 0xfffd else n)

/-- The units of two bytes, `none` for a single byte at the end. -/
def units (join : UInt8 → UInt8 → Nat) : List UInt8 → List (Option Nat)
  | a :: b :: bs => some (join a b) :: units join bs
  | [_] => [none]
  | [] => []

def ofUnits : List (Option Nat) → List Char
  | some high :: some low :: us =>
    if 0xd800 ≤ high ∧ high < 0xdc00 ∧ 0xdc00 ≤ low ∧ low < 0xe000 then
      Char.ofNat ((high - 0xd800) * 0x400 + (low - 0xdc00) + 0x10000) :: ofUnits us
    else single high :: ofUnits (some low :: us)
  | some n :: us => single n :: ofUnits us
  | none :: us => '\ufffd' :: ofUnits us
  | [] => []
where
  single (n : Nat) : Char := if 0xd800 ≤ n ∧ n < 0xe000 then '\ufffd' else Char.ofNat n

def decode : Charset → List UInt8 → List Char
  | utf8, bs => Text.Utf8.decodeLossy bs
  | utf16le, bs => ofUnits (units (fun a b => b.toNat * 256 + a.toNat) bs)
  | utf16be, bs => ofUnits (units (fun a b => a.toNat * 256 + b.toNat) bs)
  | windows1252, bs => bs.map windowsChar

def decodeBody (claimed : Charset) : List UInt8 → List Char
  | 0xef :: 0xbb :: 0xbf :: bs => utf8.decode bs
  | 0xff :: 0xfe :: bs => utf16le.decode bs
  | 0xfe :: 0xff :: bs => utf16be.decode bs
  | bs => claimed.decode bs

def unquote (cs : List Char) : List Char :=
  match cs with
  | '"' :: rest => rest.takeWhile (· ≠ '"')
  | _ => cs

def ofContentType (value : String) : Charset :=
  match Text.splitAt ';' value.toList with
  | essence :: parameters =>
    let charset? := parameters.findSome? fun p =>
      let p := Text.trim p
      let name := Unicode.lowerAscii (String.ofList (p.takeWhile (· ≠ '=')))
      if name = "charset" then some (String.ofList (unquote ((p.dropWhile (· ≠ '=')).drop 1))) else none
    if essence.contains '/' then charset?.elim utf8 ofLabel else utf8
  | [] => utf8

end Charset

end Workbench
