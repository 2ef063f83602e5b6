import PageHarvest.Files.Tree
import PageHarvest.Files.Wildcard

/-!
Searching a file tree for the paths that a pattern selects. Two stars stand for any number of
directories, a part with wildcards for the names that fit it, and any other part for itself. A search
goes down as deep as the tree is; that a machine may run out of stack on its way is not modelled.
-/
namespace PageHarvest

/-- One part of a path pattern. -/
inductive PatternPart where
  | anyDepth
  | named (name : String)
  | shaped (signs : List Wildcard)

namespace PatternPart

def ofText (part : String) : Except Failure PatternPart :=
  let cs := part.toList
  if part == "**" then .ok anyDepth
  else if (cs.zip cs.tail).contains ('*', '*') then
    .error (Cause.badValue "Invalid pattern: '**' can only be an entire path component")
  else if cs.any fun c => c == '*' || c == '?' || c == '[' then .ok (shaped (Wildcard.signs cs))
  else .ok (named part)

/-- The parts of a pattern, which has to be relative. -/
def ofPattern (pattern : String) : Except Failure (List PatternPart) :=
  let p := Path.ofText pattern
  if p.absolute then .error (Cause.notSupported "Non-relative patterns are unsupported")
  else p.parts.mapM ofText

end PatternPart

namespace FileTree

/-- Every directory and file by the parts of its path. -/
def everything (t : FileTree) : List (List String) :=
  (t.directories ++ t.files.map (·.1)).eraseDups

/-- The ways from a directory to the directories below it, itself included. -/
def directoriesBelow (t : FileTree) (directory : List String) : List (List String) :=
  [] :: ((t.directories.filter fun d => directory.isPrefixOf d && d != directory).map
    fun d => d.drop directory.length).eraseDups

def namesIn (t : FileTree) (directory : List String) : List String :=
  t.everything.filterMap fun p =>
    if p.length == directory.length + 1 && directory.isPrefixOf p then p.getLast? else none

/-- The paths that a pattern selects from where `here` leads. Only its last part may be a file. -/
def selectFrom (t : FileTree) : List PatternPart → List String → Except Failure (List (List String))
  | [], here => .ok [here]
  | part :: rest, here =>
    match t.resolve [] here with
    | none => .ok []
    | some directory => do
      let next := match part with
        | .anyDepth => t.directoriesBelow directory
        | .named name => [[name]]
        | .shaped signs =>
          ((t.namesIn directory).filter fun (name : String) => Wildcard.fits signs name.toList).map ([·])
      let found ← next.mapM fun way => do
        let there := here ++ way
        match ← t.find ⟨false, there⟩ with
        | some .directory => selectFrom t rest there
        | some (.file _) => return if rest.isEmpty then [there] else []
        | none => return []
      return found.flatten

/-- Files that a pattern selects in a directory or at any depth below it. -/
def filesBelow (t : FileTree) (directory : Path) (pattern : List PatternPart) :
    Except Failure (List Path) := do
  let found ← t.selectFrom (.anyDepth :: pattern) directory.parts
  return (found.eraseDups.map fun parts => (⟨false, parts⟩ : Path)).filter fun p =>
    (t.look p) matches some (.file _)

end FileTree
end PageHarvest
