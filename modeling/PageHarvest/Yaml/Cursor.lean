import PageHarvest.Failure

/-!
Places in YAML text. A place knows its line and column, which decide what belongs to what. Line ends
are single characters here: carriage returns are gone before text is read.
-/
namespace PageHarvest.Yaml

/-- The failure of text that is not YAML, whatever is wrong with it. -/
def malformed : Failure := Cause.unloadable "Query file is not valid YAML"

def isBreak (c : Char) : Bool :=
  c == '\n' || c == '\x85' || c == '\u2028' || c == '\u2029'

/-- Blanks inside a line. -/
def isGap (c : Char) : Bool := c == ' ' || c == '\t'

/-- What may follow an indicator: a blank, a line end, or the end of the text, which reads as zero. -/
def isSpaceOrEnd (c : Char) : Bool := isGap c || isBreak c || c == '\x00'

/-- Characters that YAML text may hold. -/
def isAllowed (c : Char) : Bool :=
  let n := c.toNat
  n == 9 || n == 10 || n == 13 || (0x20 ≤ n && n ≤ 0x7e) || n == 0x85 || (0xa0 ≤ n && n ≤ 0xd7ff) ||
    (0xe000 ≤ n && n ≤ 0xfffd) || 0x10000 ≤ n

structure Cursor where
  rest : List Char
  index : Nat := 0
  line : Nat := 0
  column : Nat := 0

namespace Cursor

/-- The next character, or the one `k` further on; zero after the end. -/
def peek (c : Cursor) (k : Nat := 0) : Char := (c.rest.drop k).headD '\x00'

def atEnd (c : Cursor) : Bool := c.rest.isEmpty

/-- The place after one character. A byte order mark takes no column. -/
def step (c : Cursor) : Cursor :=
  match c.rest with
  | [] => c
  | ch :: rest =>
    if isBreak ch then ⟨rest, c.index + 1, c.line + 1, 0⟩
    else ⟨rest, c.index + 1, c.line, if ch == '\ufeff' then c.column else c.column + 1⟩

def skip (c : Cursor) : Nat → Cursor
  | 0 => c
  | n + 1 => c.step.skip n

/-- The characters of a class from here on, and the place after them. -/
def run (c : Cursor) (p : Char → Bool) : List Char × Cursor :=
  let cs := c.rest.takeWhile p
  (cs, c.skip cs.length)

def skipWhile (c : Cursor) (p : Char → Bool) : Cursor := (c.run p).2

/-- The character that a line end here stands for, and the place after it. -/
def lineBreak? (c : Cursor) : Option (Char × Cursor) :=
  let ch := c.peek
  if ch == '\n' || ch == '\x85' then some ('\n', c.step)
  else if ch == '\u2028' || ch == '\u2029' then some (ch, c.step)
  else none

/-- Whether a marker of three characters stands here, with nothing right after it. -/
def hasMarker (c : Cursor) (ch : Char) : Bool :=
  c.peek == ch && c.peek 1 == ch && c.peek 2 == ch && isSpaceOrEnd (c.peek 3)

/-- Whether a document begins or ends here. -/
def atBoundary (c : Cursor) : Bool := c.hasMarker '-' || c.hasMarker '.'

def skipComment (c : Cursor) : Cursor :=
  if c.peek == '#' then c.skipWhile fun ch => !isBreak ch else c

/-- The place after the rest of a line that may hold blanks and a comment only. -/
def restOfLine (c : Cursor) : Except Failure Cursor :=
  let c := (c.skipWhile (· == ' ')).skipComment
  if c.atEnd then .ok c
  else match c.lineBreak? with
    | some (_, c) => .ok c
    | none => .error malformed

end Cursor
end PageHarvest.Yaml
