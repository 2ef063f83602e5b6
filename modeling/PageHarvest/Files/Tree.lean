import PageHarvest.Data.Table
import PageHarvest.Failure
import PageHarvest.Files.Path
import PageHarvest.Text.Utf8

/-!
Files below one directory, with what they hold, and reading them as text.
-/
namespace PageHarvest

/-- Something at a path. -/
inductive FileEntry where
  | directory
  | file (bytes : List UInt8)

structure FileTree where
  files : Table (List String) (List UInt8) := []
  directories : List (List String) := []

namespace FileTree

/-- All directories above a path, itself not counted. -/
def above (parts : List String) : List (List String) :=
  (List.range parts.length).map fun n => parts.take n

/-- Puts a file, and the directories that it is in. -/
def addFile (t : FileTree) (p : Path) (bytes : List UInt8) : FileTree :=
  { files := t.files.put p.parts bytes, directories := t.directories ++ above p.parts }

/-- Puts a directory, and those that it is in. -/
def addDirectory (t : FileTree) (p : Path) : FileTree :=
  { t with directories := t.directories ++ above p.parts ++ [p.parts] }

def isDirectory (t : FileTree) (parts : List String) : Bool :=
  parts.isEmpty || t.directories.contains parts

/-- What is at exactly these parts. -/
def at? (t : FileTree) (parts : List String) : Option FileEntry :=
  if t.isDirectory parts then some .directory else (t.files.get? parts).map .file

/-- Where the parts of a path lead from a directory, two dots leading back. Parts lead on from
directories only. -/
def resolve (t : FileTree) (here : List String) : List String → Option (List String)
  | [] => some here
  | part :: rest =>
    if t.isDirectory here then
      resolve t (if part == ".." then here.dropLast else here ++ [part]) rest
    else none

/-- What is at a path. Nothing is known outside the tree. -/
def look (t : FileTree) (p : Path) : Option FileEntry :=
  if p.absolute then none else (t.resolve [] p.parts).bind t.at?

/-- The most bytes in the name of a file. -/
def longestName : Nat := 255

/-- The most bytes in a path. -/
def longestPath : Nat := 4095

/-- Whether a path is too long, or a name in it that is reached. A path with a null character is not
looked up at all. -/
def meetsLongName (t : FileTree) (p : Path) : Bool :=
  !p.text.contains '\x00' && (longestPath < p.text.utf8ByteSize || (p.parts.zipIdx.any fun (name, n) =>
    longestName < name.utf8ByteSize && (t.resolve [] (p.parts.take n)).any t.isDirectory))

/-- What is at a path, which must not be too long. -/
def find (t : FileTree) (p : Path) : Except Failure (Option FileEntry) :=
  if t.meetsLongName p then
    .error (Cause.outside (.mk "OSError") ("[Errno 36] File name too long: " ++ Text.quoted p.text))
  else .ok (t.look p)

end FileTree

/-- Every kind of line end as a line feed. -/
def unifiedLines : List Char → List Char
  | [] => []
  | '\r' :: '\n' :: rest => '\n' :: unifiedLines rest
  | '\r' :: rest => '\n' :: unifiedLines rest
  | c :: rest => c :: unifiedLines rest

def textOf (bytes : List UInt8) : Except Failure (List Char) :=
  match Text.Utf8.decode bytes with
  | .ok s => .ok (unifiedLines s.toList)
  | .error m => .error (Cause.undecodable m.message)

def directoryFailure (p : Path) : Failure :=
  Cause.isDirectory ("[Errno 21] Is a directory: " ++ Text.quoted p.text)

end PageHarvest
