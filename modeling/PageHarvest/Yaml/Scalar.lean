import PageHarvest.Yaml.Cursor

/-!
Texts in their four written forms: plain, quoted with single or double quotes, and blocks. A line end
inside a text folds to a blank, and every further one stays a line end.
-/
namespace PageHarvest.Yaml

/-- What a line end and those after it fold to. -/
def folded (first : Char) (more : List Char) : List Char :=
  if first != '\n' then first :: more else if more.isEmpty then [' '] else more

/-! Plain texts -/

/-- Whether a plain text ends at `c` before `next`. Inside brackets their signs end it too. -/
def endsPlain (inFlow : Bool) (c next : Char) : Bool :=
  isSpaceOrEnd c ||
    (c == ':' && (isSpaceOrEnd next || (inFlow && [',', '[', ']', '\x7b', '\x7d'].contains next))) ||
    (inFlow && [',', '?', '[', ']', '\x7b', '\x7d'].contains c)

/-- The characters of a plain text up to its next blank or end. -/
def plainChunk (inFlow : Bool) : List Char → List Char
  | [] => []
  | c :: rest => if endsPlain inFlow c (rest.headD '\x00') then [] else c :: plainChunk inFlow rest

/-- Line ends and blanks after a line end; `none` in the first place when a document boundary comes. -/
def plainBreaks : Nat → List Char → Cursor → Option (List Char) × Cursor
  | 0, breaks, c => (some breaks, c)
  | n + 1, breaks, c =>
    if c.peek == ' ' then plainBreaks n breaks c.step
    else match c.lineBreak? with
      | some (b, c) =>
        if c.atBoundary then (none, c) else plainBreaks n (breaks ++ [b]) c
      | none => (some breaks, c)

/-- The gap after a piece of plain text: what it folds to, where it ends, and whether it holds a line
end. Nothing is left of a gap before a document boundary. -/
def plainGap (c : Cursor) : List Char × Cursor × Bool :=
  let (blanks, c) := c.run (· == ' ')
  match c.lineBreak? with
  | none => (blanks, c, false)
  | some (b, c) =>
    if c.atBoundary then ([], c, true)
    else match plainBreaks c.rest.length [] c with
      | (none, c) => ([], c, true)
      | (some breaks, c) => (folded b breaks, c, true)

/-- A plain text whose lines are indented by at least `indent`. What has been read is `text` and a gap
that counts only if more text comes after it; the last part says whether that gap holds a line end. -/
def plainFrom (inFlow : Bool) (indent : Int) : Nat → (text gap : List Char) → Cursor → Bool →
    List Char × Cursor × Bool
  | 0, text, _, c, crossed => (text, c, crossed)
  | n + 1, text, gap, c, crossed =>
    let chunk := plainChunk inFlow c.rest
    if c.peek == '#' || chunk.isEmpty then (text, c, crossed)
    else
      let text := text ++ gap ++ chunk
      let (gap, after, crossed) := plainGap (c.skip chunk.length)
      if gap.isEmpty || after.peek == '#' || (!inFlow && (after.column : Int) < indent) then
        (text, after, crossed)
      else plainFrom inFlow indent n text gap after crossed

/-! Quoted texts -/

def simpleEscape? : Char → Option Char
  | '0' => some '\x00'
  | 'a' => some '\x07'
  | 'b' => some '\x08'
  | 't' => some '\t'
  | '\t' => some '\t'
  | 'n' => some '\n'
  | 'v' => some '\x0b'
  | 'f' => some '\x0c'
  | 'r' => some '\r'
  | 'e' => some '\x1b'
  | ' ' => some ' '
  | '"' => some '"'
  | '\\' => some '\\'
  | '/' => some '/'
  | 'N' => some '\x85'
  | '_' => some '\u00a0'
  | 'L' => some '\u2028'
  | 'P' => some '\u2029'
  | _ => none

/-- How many digits follow a backslash and a letter that announces a code point. -/
def codeDigits? : Char → Option Nat
  | 'x' => some 2
  | 'u' => some 4
  | 'U' => some 8
  | _ => none

def hexValue? (c : Char) : Option Nat :=
  if c.isDigit then some (c.toNat - 48)
  else if 'a' ≤ c && c ≤ 'f' then some (c.toNat - 87)
  else if 'A' ≤ c && c ≤ 'F' then some (c.toNat - 55)
  else none

def hexNumber? (ds : List Char) : Option Nat :=
  ds.foldl (fun n d => do return (← n) * 16 + (← hexValue? d)) (some 0)

/-- The character of a code point. Half of a pair has none of its own. -/
def charOfCode (n : Nat) : Except Failure Char :=
  if 0x7fffffff < n then .error (Cause.overflow "Python int too large to convert to C int")
  else if 0x10ffff < n then .error (Cause.badValue "chr() arg not in range(0x110000)")
  else .ok (if n.isValidChar then Char.ofNat n else '\ufffd')

/-- Line ends inside a quoted text, with the blanks before each. A document boundary may not come. -/
def quotedBreaks : Nat → List Char → Cursor → Except Failure (List Char × Cursor)
  | 0, breaks, c => .ok (breaks, c)
  | n + 1, breaks, c =>
    if c.atBoundary then .error malformed
    else
      let c := c.skipWhile isGap
      match c.lineBreak? with
      | some (b, c) => quotedBreaks n (breaks ++ [b]) c
      | none => .ok (breaks, c)

/-- What the escape after a backslash adds to the text, and the place after it. -/
def escape (c : Cursor) : Except Failure (List Char × Cursor) :=
  let ch := c.peek
  match c.lineBreak? with
  | some (_, c) => quotedBreaks (c.rest.length + 1) [] c
  | none =>
    match simpleEscape? ch, codeDigits? ch with
    | some e, _ => .ok ([e], c.step)
    | none, some n =>
      let ds := c.step.rest.take n
      match if ds.length == n then hexNumber? ds else none with
      | some code => do return ([← charOfCode code], c.step.skip n)
      | none => .error malformed
    | none, none => .error malformed

/-- A quoted text from after its opening quote; `text` is what has been read, last character first. -/
def quotedFrom (double : Bool) : Nat → List Char → Cursor → Except Failure (String × Cursor)
  | 0, _, _ => .error malformed
  | n + 1, text, c =>
    match c.rest with
    | [] => .error malformed
    | ch :: _ =>
      if ch == '\'' && !double && c.peek 1 == '\'' then quotedFrom double n (ch :: text) (c.skip 2)
      else if ch == (if double then '"' else '\'') then .ok (String.ofList text.reverse, c.step)
      else if double && ch == '\\' then do
        let (cs, c) ← escape c.step
        quotedFrom double n (cs.reverse ++ text) c
      else if isGap ch || isBreak ch then
        let (blanks, c) := c.run isGap
        match c.lineBreak? with
        | some (b, c) => do
          let (breaks, c) ← quotedBreaks (c.rest.length + 1) [] c
          quotedFrom double n ((folded b breaks).reverse ++ text) c
        | none => if c.atEnd then .error malformed else quotedFrom double n (blanks.reverse ++ text) c
      else quotedFrom double n (ch :: text) c.step

def quoted (c : Cursor) : Except Failure (String × Cursor) :=
  quotedFrom (c.peek == '"') c.rest.length [] c.step

/-! Blocks -/

/-- What becomes of the line ends at the end of a block. -/
inductive Chomp where
  | strip
  | clip
  | keep
  deriving DecidableEq

/-- A chomping sign, if there is one. -/
def chompSign? (c : Char) : Option Chomp :=
  if c == '+' then some .keep else if c == '-' then some .strip else none

/-- An indentation digit. Zero is not one. -/
def indentDigit? (c : Cursor) : Except Failure (Option Nat × Cursor) :=
  if c.peek == '0' then .error malformed
  else if c.peek.isDigit then .ok (some (c.peek.toNat - 48), c.step)
  else .ok (none, c)

/-- The head of a block: sign and digit in either order. -/
def blockHead (c : Cursor) : Except Failure (Chomp × Option Nat × Cursor) := do
  match chompSign? c.peek with
  | some chomp =>
    let (digit, c) ← indentDigit? c.step
    return (chomp, digit, c)
  | none =>
    let (digit, c) ← indentDigit? c
    match digit.bind fun _ => chompSign? c.peek with
    | some chomp => return (chomp, digit, c.step)
    | none => return (.clip, digit, c)

/-- Empty lines before the first line of a block, and the widest indentation among them and it. -/
def leadingBreaks : Nat → List Char → Nat → Cursor → List Char × Nat × Cursor
  | 0, breaks, widest, c => (breaks, widest, c)
  | n + 1, breaks, widest, c =>
    match c.lineBreak? with
    | some (b, c) => leadingBreaks n (breaks ++ [b]) widest c
    | none =>
      if c.peek == ' ' then leadingBreaks n breaks (max widest (c.column + 1)) c.step
      else (breaks, widest, c)

/-- Up to `width` columns of blanks. -/
def skipIndent (width : Nat) (c : Cursor) : Cursor :=
  c.skip ((c.rest.take (width - c.column)).takeWhile (· == ' ')).length

/-- Line ends between the lines of a block of a width. -/
def blockBreaks (width : Nat) : Nat → List Char → Cursor → List Char × Cursor
  | 0, breaks, c => (breaks, c)
  | n + 1, breaks, c =>
    let c := skipIndent width c
    match c.lineBreak? with
    | some (b, c) => blockBreaks width n (breaks ++ [b]) c
    | none => (breaks, c)

/-- What stands between two lines of a block. -/
def between (fold : Bool) (lineEnd : List Char) (flush : Bool) (breaks : List Char) : List Char :=
  if fold && lineEnd == ['\n'] && flush then (if breaks.isEmpty then [' '] else []) else lineEnd

/-- The lines of a block; `text` is what has been read. The answer also holds the line end of the last
line and the empty lines after it. -/
def blockLines (fold : Bool) (width : Nat) : Nat → List Char → List Char → Cursor →
    List Char × List Char × List Char × Cursor
  | 0, text, breaks, c => (text, [], breaks, c)
  | n + 1, text, breaks, c =>
    let (line, after) := c.run fun ch => !isBreak ch
    let text := text ++ breaks ++ line
    let (lineEnd, after) := match after.lineBreak? with
      | some (b, next) => ([b], next)
      | none => ([], after)
    let (more, after) := blockBreaks width (after.rest.length + 1) [] after
    if after.column == width && !after.atEnd then
      let flush := !isGap c.peek && !isGap after.peek
      blockLines fold width n (text ++ between fold lineEnd flush more) more after
    else (text, lineEnd, more, after)

/-- A block from its sign on; `indent` is the indentation that it has to exceed. -/
def block (indent : Int) (c : Cursor) : Except Failure (String × Cursor) := do
  let fold := c.peek == '>'
  let (chomp, digit, c) ← blockHead c.step
  if !(isSpaceOrEnd c.peek) || c.peek == '\t' then .error malformed
  let c ← c.restOfLine
  let least := (max (indent + 1) 1).toNat
  let (width, breaks, c) := match digit with
    | none =>
      let (breaks, widest, c) := leadingBreaks c.rest.length [] 0 c
      (max least widest, breaks, c)
    | some d =>
      let width := least + d - 1
      let (breaks, c) := blockBreaks width (c.rest.length + 1) [] c
      (width, breaks, c)
  let (text, lineEnd, more, c) :=
    if c.column == width && !c.atEnd then blockLines fold width (c.rest.length + 1) [] breaks c
    else ([], [], breaks, c)
  let tail := match chomp with
    | .strip => []
    | .clip => lineEnd
    | .keep => lineEnd ++ more
  return (String.ofList (text ++ tail), c)

end PageHarvest.Yaml
