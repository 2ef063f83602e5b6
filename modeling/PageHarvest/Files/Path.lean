/-!
Paths with slashes. Empty parts and single dots are dropped when a path is read; two dots stay, since
only the files tell where they lead.
-/
namespace PageHarvest

structure Path where
  absolute : Bool := false
  parts : List String := []
  deriving Repr, DecidableEq

namespace Path

/-- Parts between slashes. -/
def pieces : List Char → List (List Char)
  | [] => [[]]
  | '/' :: rest => [] :: pieces rest
  | c :: rest =>
    match pieces rest with
    | p :: ps => (c :: p) :: ps
    | [] => [[c]]

def ofText (s : String) : Path where
  absolute := s.toList.head? == some '/'
  parts := ((pieces s.toList).filter fun p => !p.isEmpty && p != ['.']).map String.ofList

def text (p : Path) : String :=
  let body := "/".intercalate p.parts
  if p.absolute then "/" ++ body else if p.parts.isEmpty then "." else body

def join (p q : Path) : Path :=
  if q.absolute then q else { p with parts := p.parts ++ q.parts }

def name (p : Path) : String := p.parts.getLastD ""

/-- What follows the last dot of a name, with the dot; nothing when the dot is its first or its last
character. -/
def suffixOf (name : String) : String :=
  let cs := name.toList
  let tail := (cs.reverse.takeWhile (· != '.')).reverse
  if tail.isEmpty || cs.length ≤ tail.length + 1 then "" else String.ofList ('.' :: tail)

def suffix (p : Path) : String := suffixOf p.name

end Path
end PageHarvest
