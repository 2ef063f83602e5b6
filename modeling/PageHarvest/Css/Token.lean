import PageHarvest.Css.Selector
import PageHarvest.Text.Case

/-!
Tokens of selector text. A token that takes arguments of its own, such as positions or texts, is read
with them; whatever is no token at all is one malformed token.
-/
namespace PageHarvest.Css

inductive Token where
  | close
  | tells (own : Bool) (texts : List String)
  /-- Positions; `among` tells that a list of selectors follows. -/
  | nth (positions : Positions) (among : Bool)
  | named (name : String) (opens : Bool)
  /-- A state that takes arguments. -/
  | state (state : State)
  | pseudoElement (position : Nat)
  | atRule (position : Nat)
  | nesting
  | id (value : String)
  | word (value : String)
  /-- A tag with the name space written before it. -/
  | tag (space : Option String) (name : String)
  | attr (test : AttrTest) (negated : Bool)
  /-- A combinator, or a comma. -/
  | between (combinator : Option Combinator)
  /-- A token with the code of no character. -/
  | beyond (tag : Bool)
  | malformed
  deriving Repr, DecidableEq

/-! White space and comments -/

def isLineEnd (c : Char) : Bool := c == '\n' || c == '\r' || c == '\x0c'

def isWhite (c : Char) : Bool := c == ' ' || c == '\t' || isLineEnd c

/-- What follows one white space; a carriage return takes a line feed with it. -/
def afterWhite? : List Char → Option (List Char)
  | '\r' :: '\n' :: rest => some rest
  | c :: rest => if isWhite c then some rest else none
  | [] => none

def afterComment? : List Char → Option (List Char)
  | '*' :: '/' :: rest => some rest
  | _ :: rest => afterComment? rest
  | [] => none

def afterGap? : List Char → Option (List Char)
  | '/' :: '*' :: rest => afterComment? rest
  | cs => afterWhite? cs

def dropGaps : Nat → List Char → List Char
  | 0, cs => cs
  | n + 1, cs =>
    match afterGap? cs with
    | some rest => dropGaps n rest
    | none => cs

def skip (cs : List Char) : List Char := dropGaps cs.length cs

/-- What follows a character after a gap, or none. -/
def afterSkipped? (c : Char) (cs : List Char) : Option (List Char) :=
  match skip cs with
  | d :: rest => if d == c then some rest else none
  | [] => none

/-! Identifiers -/

def hexValue? (c : Char) : Option Nat :=
  let n := c.toNat
  if c.isDigit then some (n - 48)
  else if 'a' ≤ c && c ≤ 'f' then some (n - 87)
  else if 'A' ≤ c && c ≤ 'F' then some (n - 55)
  else none

/-- Up to `n` hexadecimal digits as a number, and what follows them. -/
def hexNumber : Nat → Nat → List Char → Nat × List Char
  | 0, value, cs => (value, cs)
  | n + 1, value, c :: rest =>
    match hexValue? c with
    | some d => hexNumber n (value * 16 + d) rest
    | none => (value, c :: rest)
  | _ + 1, value, [] => (value, [])

/-- The character of a code point, if there are as many; zero and halves of surrogate pairs become the
replacement character. -/
def charOf? (n : Nat) : Option Char :=
  if 0x110000 ≤ n then none
  else some (if n == 0 || !n.isValidChar then '\ufffd' else Char.ofNat n)

/-- What is written of a text, which may have the code of no character. -/
abbrev Letters := List (Option Char)

/-- The text of letters that are given last first, if all are characters. -/
def spelled? (letters : Letters) : Option String :=
  (letters.reverse.mapM id).map String.ofList

/-- The letter that an escape stands for, the backslash being read. A line end is never escaped. -/
def escape? : List Char → Option (Option Char × List Char)
  | [] => some (some '\ufffd', [])
  | c :: rest =>
    if (hexValue? c).isSome then
      let (n, after) := hexNumber 6 0 (c :: rest)
      some (charOf? n, (afterWhite? after).getD after)
    else if isLineEnd c then none
    else some (some c, rest)

def isNameStart (c : Char) : Bool :=
  c.isAlpha || c == '_' || 0xa0 ≤ c.toNat

def isNameChar (c : Char) : Bool :=
  isNameStart c || c.isDigit || c == '-'

/-- One character of a class, or one escape. -/
def nameChar? (ok : Char → Bool) : List Char → Option (Option Char × List Char)
  | '\\' :: rest => escape? rest
  | c :: rest => if ok c then some (some c, rest) else none
  | [] => none

/-- Up to `n` more letters of a name; `word` is what has been read, last letter first. -/
def nameRest (word : Letters) : Nat → List Char → Letters × List Char
  | 0, cs => (word, cs)
  | n + 1, cs =>
    match nameChar? isNameChar cs with
    | some (c, rest) => nameRest (c :: word) n rest
    | none => (word, cs)

/-- An identifier, its escapes resolved. -/
def identifier? (cs : List Char) : Option (Option String × List Char) :=
  let begun : Option (Letters × List Char) := match cs with
    | '-' :: '-' :: rest => some ([some '-', some '-'], rest)
    | '-' :: rest => (nameChar? isNameStart rest).map fun (c, after) => ([c, some '-'], after)
    | cs => (nameChar? isNameStart cs).map fun (c, after) => ([c], after)
  begun.map fun (word, rest) =>
    let (name, after) := nameRest word rest.length rest
    (spelled? name, after)

/-- The text of a quoted value up to its closing quote. An escaped line end is left out. -/
def quotedText? (quote : Char) (text : Letters) : Nat → List Char → Option (Option String × List Char)
  | 0, _ => none
  | n + 1, cs =>
    match cs with
    | [] => none
    | '\\' :: rest =>
      match rest with
      | [] => none
      | '\r' :: '\n' :: after => quotedText? quote text n after
      | c :: after =>
        if isLineEnd c then quotedText? quote text n after
        else match escape? (c :: after) with
          | some (c, after) => quotedText? quote (c :: text) n after
          | none => none
    | c :: rest =>
      if c == quote then some (spelled? text, rest)
      else if isLineEnd c then none
      else quotedText? quote (some c :: text) n rest

/-- A value: a quoted text or an identifier. -/
def value? : List Char → Option (Option String × List Char)
  | '"' :: rest => quotedText? '"' [] (rest.length + 1) rest
  | '\'' :: rest => quotedText? '\'' [] (rest.length + 1) rest
  | cs => identifier? cs

/-- Values separated by commas up to a closing parenthesis. -/
def valuesToClose? : Nat → List Char → Option (Option (List String) × List Char)
  | 0, _ => none
  | n + 1, cs => do
    let (v, rest) ← value? cs
    match afterSkipped? ')' rest with
    | some after => return (v.map ([·]), after)
    | none =>
      let after ← afterSkipped? ',' rest
      let (vs, after) ← valuesToClose? n (skip after)
      return (v.bind fun v => vs.map (v :: ·), after)

/-! Positions -/

/-- A run of digits as a number; `none` when there is no digit. -/
def number? (cs : List Char) : Option (Nat × List Char) :=
  let ds := cs.takeWhile Char.isDigit
  if ds.isEmpty then none
  else some (ds.foldl (fun n c => n * 10 + (c.toNat - 48)) 0, cs.dropWhile Char.isDigit)

def afterWord? : List Char → List Char → Option (List Char)
  | [], cs => some cs
  | w :: ws, c :: cs => if c.toLower == w then afterWord? ws cs else none
  | _ :: _, [] => none

/-- The offset after the step: a sign and a number, with gaps before each; zero when there is none. -/
def offset (cs : List Char) : Int × List Char :=
  let read : Option (Int × List Char) := match skip cs with
    | '+' :: rest => (number? (skip rest)).map fun r => ((r.1 : Int), r.2)
    | '-' :: rest => (number? (skip rest)).map fun r => (-(r.1 : Int), r.2)
    | _ => none
  read.getD (0, cs)

/-- A formula of positions: a number, a step with an offset, or one of the words for odd and even. -/
def formula? (cs : List Char) : Option (Positions × List Char) :=
  let (sign, body) : Int × List Char := match cs with
    | '+' :: rest => (1, rest)
    | '-' :: rest => (-1, rest)
    | _ => (1, cs)
  let stepped (step : Int) (rest : List Char) : Positions × List Char :=
    let (o, after) := offset rest
    (⟨step, o, false, false, false⟩, after)
  match number? body with
  | some (n, rest) =>
    match afterWord? ['n'] rest with
    | some after => some (stepped (sign * n) after)
    | none => some (⟨0, sign * n, true, false, false⟩, rest)
  | none =>
    match afterWord? ['n'] body with
    | some after => some (stepped sign after)
    | none =>
      match afterWord? "even".toList cs with
      | some after => some (⟨2, 0, false, false, false⟩, after)
      | none => (afterWord? "odd".toList cs).map fun after => (⟨2, 1, false, false, false⟩, after)

/-- What follows the word that introduces the siblings to count, with white space around it. -/
def afterAmong? (cs : List Char) : Option (List Char) := do
  let rest := skip cs
  if rest.length == cs.length then none
  else
    let after ← afterWord? ['o', 'f'] rest
    let last := skip after
    if last.length == after.length then none else some last

def direction? (cs : List Char) : Option (Text.Direction × List Char) :=
  match afterWord? ['l', 't', 'r'] cs with
  | some rest => some (.leftToRight, rest)
  | none => (afterWord? ['r', 't', 'l'] cs).map fun rest => (.rightToLeft, rest)

/-- The token of what is spelled in it, if all of that is. -/
def tokenOf (spelled : Option Token) : Token :=
  spelled.getD (.beyond false)

/-- The token of a name that is followed by arguments of its own kind. -/
def special? (name : String) (args : List Char) : Option (Token × List Char) :=
  let position (ofType fromEnd : Bool) : Option (Token × List Char) := do
    let (p, rest) ← formula? args
    let p := { p with ofType, fromEnd }
    match afterSkipped? ')' rest with
    | some after => return (.nth p false, after)
    | none =>
      if ofType then none
      else return (.nth p true, ← afterAmong? rest)
  match name with
  | "contains" | "-soup-contains" =>
    (valuesToClose? args.length args).map fun (vs, after) => (tokenOf (vs.map (.tells false)), after)
  | "-soup-contains-own" =>
    (valuesToClose? args.length args).map fun (vs, after) => (tokenOf (vs.map (.tells true)), after)
  | "nth-child" => position false false
  | "nth-last-child" => position false true
  | "nth-of-type" => position true false
  | "nth-last-of-type" => position true true
  | "lang" =>
    (valuesToClose? args.length args).map fun (vs, after) => (tokenOf (vs.map (.state <| .speaks ·)), after)
  | "dir" => do
    let (direction, rest) ← direction? args
    return (.state (.runs direction), ← afterSkipped? ')' rest)
  | _ => none

/-! Attributes -/

/-- What is asked of an attribute, from the sign of the comparison; the second part tells whether the
answer is turned round. -/
def comparison? : List Char → Option (ValueTest × Bool × List Char)
  | '=' :: rest => some (.equals, false, rest)
  | '!' :: '=' :: rest => some (.equals, true, rest)
  | '~' :: '=' :: rest => some (.hasWord, false, rest)
  | '^' :: '=' :: rest => some (.startsWith, false, rest)
  | '|' :: '=' :: rest => some (.dashed, false, rest)
  | '*' :: '=' :: rest => some (.contains, false, rest)
  | '$' :: '=' :: rest => some (.endsWith, false, rest)
  | _ => none

/-- The rest of a test of the attribute `name`, up to its closing bracket. -/
def attrRest? (name : Option String) (cs : List Char) : Option (Token × List Char) :=
  match afterSkipped? ']' cs with
  | some after => some (tokenOf (name.map fun name => .attr { name } false), after)
  | none => do
    let (ask, negated, rest) ← comparison? (skip cs)
    let (value, rest) ← value? (skip rest)
    let test (ignoreCase : Bool) : Token :=
      tokenOf (name.bind fun name => value.map fun value => .attr ⟨name, ask, value, ignoreCase⟩ negated)
    match afterSkipped? ']' rest with
    | some after => return (test (name.any (Text.asciiLower · == "type")), after)
    | none =>
      match skip rest with
      | c :: rest =>
        let after ← afterSkipped? ']' rest
        if c.toLower == 'i' then return (test true, after)
        else if c.toLower == 's' then return (test false, after)
        else none
      | [] => none

def afterSpace? : List Char → Option (Option String × List Char)
  | '|' :: rest => some ("", rest)
  | '*' :: '|' :: rest => some ("*", rest)
  | cs =>
    match identifier? cs with
    | some (space, '|' :: rest) => some (space, rest)
    | _ => none

/-- The test of an attribute, its bracket being open. Attributes are in no name space. -/
def attr? (cs : List Char) : Option (Token × List Char) :=
  let plain (cs : List Char) : Option (Token × List Char) := do
    let (name, rest) ← identifier? cs
    attrRest? name rest
  let cs := skip cs
  match (afterSpace? cs).bind fun (space, rest) => (plain rest).map fun (t, r) => (space, t, r) with
  | some (space, t, rest) => some (tokenOf (space.map fun _ => t), rest)
  | none => plain cs

/-! Tokens -/

def tag? (cs : List Char) : Option (Token × List Char) :=
  let name? : List Char → Option (Option String × List Char)
    | '*' :: rest => some ("*", rest)
    | cs => identifier? cs
  let token (spelled : Option Token) : Token := spelled.getD (.beyond true)
  match (afterSpace? cs).bind fun (space, rest) => (name? rest).map fun (n, r) => (space, n, r) with
  | some (space, name, rest) =>
    some (token (space.bind fun space => name.map fun name => .tag (some space) (Text.asciiLower name)), rest)
  | none => (name? cs).map fun (name, rest) => (token (name.map (.tag none <| Text.asciiLower ·)), rest)

/-- Combinators and the comma by their signs. -/
def sign? (c : Char) : Option (Option Combinator) :=
  match c with
  | ',' => some none
  | '+' => some (some .adjacent)
  | '>' => some (some .child)
  | '~' => some (some .later)
  | _ => none

/-- A combinator: a sign, or a white space that no sign follows directly. Gaps before and after it
belong to it. -/
def between? : Nat → List Char → Option (Token × List Char)
  | 0, _ => none
  | n + 1, cs =>
    let bySign := match cs with
      | c :: rest => (sign? c).map fun s => (Token.between s, skip rest)
      | [] => none
    let byWhite := do
      let rest ← afterWhite? cs
      match rest with
      | c :: _ => if (sign? c).isSome then none else some (Token.between (some .descendant), skip rest)
      | [] => some (Token.between (some .descendant), [])
    match bySign.orElse fun _ => byWhite with
    | some r => some r
    | none => (afterGap? cs).bind (between? n)

/-- The token of a name after a colon, and what follows it. -/
def named? (cs : List Char) : Option (Token × List Char) := do
  match ← identifier? cs with
  | (none, rest) => return (.beyond false, rest)
  | (some name, rest) =>
    let name := Text.asciiLower name
    match rest with
    | '(' :: args =>
      let args := skip args
      match special? name args with
      | some r => return r
      | none => return (.named name true, args)
    | rest => return (.named name false, rest)

/-- One token at `position`, and what follows it. -/
def token? (position : Nat) (cs : List Char) : Option (Token × List Char) :=
  match afterSkipped? ')' cs with
  | some rest => some (.close, rest)
  | none =>
    match cs with
    | ':' :: ':' :: rest =>
      (identifier? rest).map fun (_, after) => (.pseudoElement position, after)
    | ':' :: rest => named? rest
    | '&' :: rest => some (.nesting, rest)
    | '@' :: p :: rest =>
      if p.toLower == 'p' then (identifier? rest).map fun (_, after) => (.atRule position, after)
      else none
    | '#' :: rest => (identifier? rest).map fun (name, after) => (tokenOf (name.map .id), after)
    | '.' :: rest => (identifier? rest).map fun (name, after) => (tokenOf (name.map .word), after)
    | '[' :: rest => attr? rest
    | cs => (tag? cs).orElse fun _ => between? cs.length cs

/-- Up to `n` tokens. Text that is no token ends them with the malformed one. -/
def tokensFrom (length : Nat) : Nat → List Char → List Token
  | 0, _ => []
  | n + 1, cs =>
    if cs.isEmpty then []
    else match token? (length - cs.length) cs with
      | some (t, rest) => t :: tokensFrom length n rest
      | none => [.malformed]

/-- Text without the gaps at its end: the longest part that only gaps follow is dropped. -/
def dropLastGaps : List Char → List Char
  | [] => []
  | c :: rest => if (skip (c :: rest)).isEmpty then [] else c :: dropLastGaps rest

def tokens (text : String) : List Token :=
  let cs := text.toList.map fun c => if c == '\x00' then '\ufffd' else c
  let ended := dropLastGaps cs
  let kept := skip ended
  tokensFrom ended.length kept.length kept

end PageHarvest.Css
