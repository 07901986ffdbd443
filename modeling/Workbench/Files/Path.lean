/-!
Names of files. A path is cut at slashes; empty parts and parts that are a single dot do not count, and
the last part that counts is the file's name unless it is two dots.
-/

namespace Workbench

/--
A path to a file, absolute or relative to the working directory. It is a text: paths that are not UTF-8 are left out,
and so is the refusal of an extension that is no text in `FileFilter.matches?` and `Registry.languageForPath?`.
-/
abbrev Path := String

namespace Path

/--
The directory and the name of a path that is given from its end to its start. Both parts of the result
are in reading order, and what follows the name is left out.
-/
def splitReversed : List Char → Option (List Char × List Char)
  | [] => none
  | '/' :: cs => splitReversed cs
  | ['.'] => none
  | '.' :: '/' :: cs => splitReversed cs
  | c :: cs =>
    let name := (c :: cs).takeWhile (· ≠ '/')
    if name = ['.', '.'] then none
    else some (((c :: cs).dropWhile (· ≠ '/')).reverse, name.reverse)

def split? (p : Path) : Option (List Char × List Char) :=
  splitReversed p.toList.reverse

def fileName? (p : Path) : Option String :=
  p.split?.map fun parts => String.ofList parts.2

/--
The stem of a name and what follows its last dot. A dot at the start does not count.
-/
def splitName (name : List Char) : List Char × Option (List Char) :=
  let ext := (name.reverse.takeWhile (· ≠ '.')).reverse
  match (name.reverse.dropWhile (· ≠ '.')).reverse.dropLast with
  | [] => (name, none)
  | stem => (stem, some ext)

def extension? (p : Path) : Option String :=
  p.split?.bind fun parts => (splitName parts.2).2.map String.ofList

/--
Replaces the extension of the file's name, or appends one to a name without. A path without a file name
stays as it is.
-/
def withExtension (p : Path) (ext : String) : Path :=
  match p.split? with
  | none => p
  | some (dir, name) => String.ofList (dir ++ (splitName name).1 ++ '.' :: ext.toList)

def isAbsolute (p : Path) : Bool :=
  p.toList.head? == some '/'

def join (p q : Path) : Path :=
  if q.isAbsolute then q
  else if p.toList.getLast?.all (· == '/') then p ++ q
  else p ++ "/" ++ q

end Path

end Workbench
