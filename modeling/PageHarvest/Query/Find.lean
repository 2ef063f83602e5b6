import PageHarvest.Files.Search
import PageHarvest.Query.File

/-!
Definition files by the names of their queries. An earlier ending wins over a later one, and among
equal endings the path that comes first.
-/
namespace PageHarvest
namespace Query

/-- The directory of definition files that have names. -/
def home : Path := Path.ofText "queries"

/-- Endings of definition files, the preferred one first. -/
def endings : List String := [".json", ".yaml", ".yml"]

/-- The rank of a file among those of one name; a name that is all ending has none. -/
def rank (p : Path) : Except Failure Nat :=
  match endings.idxOf? p.suffix with
  | some n => .ok n
  | none => .error (Cause.badValue (Text.quoted p.suffix ++ " is not in list"))

/-- The file of the query `id` in a directory or below it. -/
def findFile (t : FileTree) (directory : Path) (id : String) : Except Failure (Option Path) := do
  match ← t.find directory with
  | some .directory =>
    let found ← endings.mapM fun ending => do
      t.filesBelow directory (← PatternPart.ofPattern (id ++ ending))
    let ranked ← found.flatten.mapM fun p => return (← rank p, p.text, p)
    let best := ranked.mergeSort fun a b => a.1 < b.1 || (a.1 == b.1 && a.2.1 ≤ b.2.1)
    return best.head?.map (·.2.2)
  | _ => return none

/-- The query of a file in the format that its name says. -/
def load [Stack] {C : Type} (t : FileTree) (p : Path) : Except Failure (Query C) := do
  ofFile t (← FileFormat.ofPath p) p p.text

end Query
end PageHarvest
