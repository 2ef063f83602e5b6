import PageHarvest.Data.Table
import PageHarvest.Text.Blank

/-!
Files of bindings: lines of a name, an equal sign and a value, which may be quoted and may use the
values bound before it. A line that is no binding is passed over.
-/
namespace PageHarvest.Settings

/-- Values by name; a name without an equal sign has none. -/
abbrev Bindings := Table String (Option String)

def isLineEnd (c : Char) : Bool := c == '\n' || c == '\r'

/-- Blanks inside a line. -/
def isGap (c : Char) : Bool := Text.isBlank c && !isLineEnd c

def dropGap (cs : List Char) : List Char := cs.dropWhile isGap

/-- What follows a line end; the end of the text is one too. -/
def afterLineEnd? : List Char → Option (List Char)
  | [] => some []
  | '\r' :: '\n' :: rest => some rest
  | c :: rest => if isLineEnd c then some rest else none

def afterLine (cs : List Char) : List Char :=
  let rest := cs.dropWhile fun c => !isLineEnd c
  (afterLineEnd? rest).getD rest

/-- What follows the word that may stand before a name. -/
def afterExport (cs : List Char) : List Char :=
  if "export".toList.isPrefixOf cs then
    let rest := cs.drop 6
    if (dropGap rest).length < rest.length then dropGap rest else cs
  else cs

/-- The name of a binding; a comment has none. -/
def name? (cs : List Char) : Option (Option String × List Char) :=
  match cs with
  | '#' :: _ => some (none, cs)
  | '\'' :: rest =>
    let name := rest.takeWhile (· != '\'')
    match rest.dropWhile (· != '\'') with
    | _ :: after => if name.isEmpty then none else some (some (String.ofList name), after)
    | [] => none
  | _ =>
    let isName (c : Char) : Bool := !(c == '=' || c == '#' || Text.isBlank c)
    let name := cs.takeWhile isName
    if name.isEmpty then none else some (some (String.ofList name), cs.dropWhile isName)

/-- The text up to the closing quote. An escaped quote closes only when no other one does. -/
def quotedText? (quote : Char) : List Char → Option (List Char × List Char)
  | [] => none
  | '\\' :: c :: rest =>
    if c == quote then
      match quotedText? quote rest with
      | some (text, after) => some ('\\' :: c :: text, after)
      | none => some (['\\'], rest)
    else (quotedText? quote (c :: rest)).map fun (text, after) => ('\\' :: text, after)
  | c :: rest =>
    if c == quote then some ([], rest)
    else (quotedText? quote rest).map fun (text, after) => (c :: text, after)

/-- Text with the escapes of a table resolved. -/
def unescaped (escapes : List (Char × Char)) : List Char → List Char
  | '\\' :: c :: rest =>
    match escapes.find? fun e => e.1 == c with
    | some (_, meant) => meant :: unescaped escapes rest
    | none => '\\' :: unescaped escapes (c :: rest)
  | c :: rest => c :: unescaped escapes rest
  | [] => []

/-- Escapes between single quotes. -/
def singleEscapes : List (Char × Char) := [('\\', '\\'), ('\'', '\'')]

/-- Escapes between double quotes. -/
def doubleEscapes : List (Char × Char) :=
  singleEscapes ++ [('"', '"'), ('a', '\x07'), ('b', '\x08'), ('f', '\x0c'), ('n', '\n'), ('r', '\r'),
    ('t', '\t'), ('v', '\x0b')]

/-- Text up to a comment, which has blanks before its sign. -/
def beforeComment : List Char → List Char
  | [] => []
  | c :: rest =>
    if Text.isBlank c && (rest.dropWhile Text.isBlank).head? == some '#' then []
    else c :: beforeComment rest

/-- A value, quoted or up to the end of its line. -/
def value? : List Char → Option (List Char × List Char)
  | '\'' :: rest => (quotedText? '\'' rest).map fun (t, after) => (unescaped singleEscapes t, after)
  | '"' :: rest => (quotedText? '"' rest).map fun (t, after) => (unescaped doubleEscapes t, after)
  | cs =>
    let line := cs.takeWhile fun c => !isLineEnd c
    let kept := ((beforeComment line).reverse.dropWhile Text.isBlank).reverse
    some (kept, cs.dropWhile fun c => !isLineEnd c)

def afterComment (cs : List Char) : List Char :=
  if (dropGap cs).head? == some '#' then (dropGap cs).dropWhile fun c => !isLineEnd c else cs

/-- One binding and what follows it; text that is none reaches to the end of its line. -/
def binding (cs : List Char) : Option (String × Option (List Char)) × List Char :=
  let cs := afterExport (cs.dropWhile Text.isBlank)
  if cs.isEmpty then (none, [])
  else match name? cs with
    | none => (none, afterLine cs)
    | some (name, rest) =>
      let close (value : Option (List Char)) (rest : List Char) :
          Option (String × Option (List Char)) × List Char :=
        let rest := afterComment rest
        match afterLineEnd? (dropGap rest) with
        | some after => (name.map fun n => (n, value), after)
        | none => (none, afterLine rest)
      match dropGap rest with
      | '=' :: rest =>
        let rest := dropGap rest
        match value? rest with
        | some (value, after) => close (some value) after
        | none => (none, afterLine rest)
      | rest => close none rest

/-- Up to `n` bindings in order. -/
def bindingsFrom : Nat → List Char → List (String × Option (List Char))
  | 0, _ => []
  | n + 1, cs =>
    if cs.isEmpty then []
    else
      let (b, rest) := binding cs
      b.toList ++ bindingsFrom n rest

/-- A use of a name: the name, what stands for a missing value, and what follows. -/
def use? : List Char → Option (String × String × List Char)
  | '$' :: '\x7b' :: rest =>
    let isName (c : Char) : Bool := !(c == '\x7d' || c == ':')
    let name := String.ofList (rest.takeWhile isName)
    match rest.dropWhile isName with
    | '\x7d' :: after => some (name, "", after)
    | ':' :: '-' :: rest =>
      match rest.dropWhile (· != '\x7d') with
      | _ :: after => some (name, String.ofList (rest.takeWhile (· != '\x7d')), after)
      | [] => none
    | _ => none
  | _ => none

/-- A value with the names that it uses replaced by what `known?` knows of them. -/
def expanded (known? : String → Option (Option String)) : Nat → List Char → List Char
  | 0, _ => []
  | n + 1, cs =>
    match use? cs, cs with
    | some (name, missing, after), _ =>
      let value := match known? name with
        | some v => v.getD ""
        | none => missing
      value.toList ++ expanded known? n after
    | none, c :: rest => c :: expanded known? n rest
    | none, [] => []

/-- The bindings of a text. Values may use the bindings before them, and then those of `outer`. A byte
order mark at its start is no part of the text. -/
def Bindings.ofText (outer : Table String String) (text : List Char) : Bindings :=
  let cs := if text.head? == some '\ufeff' then text.drop 1 else text
  let bind (known : Bindings) (b : String × Option (List Char)) : Bindings :=
    let known? (name : String) := (known.get? name).or ((outer.get? name).map some)
    known.put b.1 (b.2.map fun v => String.ofList (expanded known? (v.length + 1) v))
  (bindingsFrom cs.length cs).foldl bind []

end PageHarvest.Settings
