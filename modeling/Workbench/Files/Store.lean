import Workbench.Files.Error
import Workbench.Files.Path
import Workbench.Text.Lines

/-!
A file system: the files and directories below a working directory, and the rules by which a path leads
to them. A path is followed part by part, and the first part that does not lead on decides the error.
-/

namespace Workbench

abbrev Place := List String

structure FileStore where
  files : List (Place × ByteArray) := []
  directories : List Place := []

namespace FileStore

def workingDirectory : Place := ["work"]

def maxNameLength : Nat := 255

def maxPathLength : Nat := 4096

def content? (s : FileStore) (p : Place) : Option ByteArray :=
  (s.files.find? (·.1 = p)).map (·.2)

/-- There is a directory at a place: the root, the working directory and whatever holds something. -/
def isDirectory (s : FileStore) (p : Place) : Bool :=
  p.isPrefixOf workingDirectory ||
    s.files.any (fun f => p.isPrefixOf f.1 && p ≠ f.1) ||
    s.directories.any p.isPrefixOf

inductive Target where
  | file (p : Place) (content : ByteArray)
  | directory (p : Place)
  | vacant (p : Place)

def follow (s : FileStore) (dir : Place) : List String → Except FileError Target
  | [] => .ok (.directory dir)
  | "" :: rest => s.follow dir rest
  | "." :: rest => s.follow dir rest
  | ".." :: rest => s.follow dir.dropLast rest
  | name :: rest =>
    let p := dir ++ [name]
    if maxNameLength < name.utf8ByteSize then .error .nameTooLong
    else match s.content? p with
      | some content => if rest.isEmpty then .ok (.file p content) else .error .notADirectory
      | none =>
        if s.isDirectory p then s.follow p rest
        else if rest.isEmpty then .ok (.vacant p)
        else if rest.all (· = "") then .error .isADirectory
        else .error .notFound

def parts (p : Path) : List String :=
  (Text.splitAt '/' p.toList).map String.ofList

def resolve (s : FileStore) (p : Path) : Except FileError Target :=
  if p.toList.contains '\x00' then .error .nulInName
  else if p.isEmpty then .error .notFound
  else if maxPathLength ≤ p.utf8ByteSize then .error .nameTooLong
  else s.follow (if p.isAbsolute then [] else workingDirectory) (parts p)

def read (s : FileStore) (p : Path) : Except FileError ByteArray :=
  match s.resolve p with
  | .ok (.file _ content) => .ok content
  | .ok (.directory _) => .error .isADirectory
  | .ok (.vacant _) => .error .notFound
  | .error .isADirectory => .error .notFound
  | .error e => .error e

def readText (s : FileStore) (p : Path) : Except FileError String := do
  match String.fromUTF8? (← s.read p) with
  | some text => .ok text
  | none => .error .invalidUtf8

def put (s : FileStore) (p : Place) (content : ByteArray) : FileStore :=
  if (s.content? p).isSome then
    { s with files := s.files.map fun f => if f.1 = p then (p, content) else f }
  else { s with files := s.files ++ [(p, content)] }

def write (s : FileStore) (p : Path) (content : ByteArray) : Except FileError FileStore := do
  match ← s.resolve p with
  | .file place _ | .vacant place => .ok (s.put place content)
  | .directory _ => .error .isADirectory

def append (s : FileStore) (p : Path) (content : ByteArray) : Except FileError FileStore := do
  match ← s.resolve p with
  | .file place old => .ok (s.put place (old ++ content))
  | .vacant place => .ok (s.put place content)
  | .directory _ => .error .isADirectory

def pathExists (s : FileStore) (p : Path) : Bool :=
  match s.resolve p with
  | .ok (.file _ _) | .ok (.directory _) => true
  | _ => false

def entryError? (s : FileStore) (p : Path) : Option FileError :=
  match s.resolve p with
  | .ok (.directory _) => none
  | .ok (.file _ _) => some .notADirectory
  | .ok (.vacant _) | .error .isADirectory => some .notFound
  | .error e => some e

def makeDirectoriesFrom (s : FileStore) (dir : Place) : List String → Except FileError FileStore
  | [] => .ok { s with directories := s.directories ++ [dir] }
  | "" :: rest => s.makeDirectoriesFrom dir rest
  | "." :: rest => s.makeDirectoriesFrom dir rest
  | ".." :: rest => s.makeDirectoriesFrom dir.dropLast rest
  | name :: rest =>
    if maxNameLength < name.utf8ByteSize then .error .nameTooLong
    else if (s.content? (dir ++ [name])).isSome then
      .error (if rest.all (· = "") then .alreadyExists else .notADirectory)
    else s.makeDirectoriesFrom (dir ++ [name]) rest

def makeDirectories (s : FileStore) (p : Path) : Except FileError FileStore :=
  if p.toList.contains '\x00' then .error .nulInName
  else if maxPathLength ≤ p.utf8ByteSize then .error .nameTooLong
  else s.makeDirectoriesFrom (if p.isAbsolute then [] else workingDirectory) (parts p)

def ofEntries (files : List (Path × ByteArray)) (directories : List Path) : FileStore where
  files := files.map fun f => (workingDirectory ++ parts f.1, f.2)
  directories := directories.map fun d => workingDirectory ++ parts d

def entries (s : FileStore) : List (Path × ByteArray) :=
  s.files.filterMap fun f =>
    if workingDirectory.isPrefixOf f.1 then
      some (String.intercalate "/" (f.1.drop workingDirectory.length), f.2)
    else none

end FileStore

end Workbench
