import PageHarvest.Html.Reference

/-!
Tokens of markup. Names are in lower case, the first of two attributes of one name counts, and the
content of some elements is text up to their end tag.
-/
namespace PageHarvest.Html

inductive Token where
  | startTag (name : String) (attrs : List (String × String)) (selfClosing : Bool)
  | endTag (name : String)
  | text (cs : List Char)
  | comment (cs : List Char)
  | doctype

def isSpace (c : Char) : Bool :=
  c == ' ' || c == '\t' || c == '\n' || c == '\x0c' || c == '\r'

/-- Ends of lines as single line feeds, and no NUL. -/
def normalizeLines : List Char → List Char
  | [] => []
  | '\r' :: '\n' :: rest => '\n' :: normalizeLines rest
  | '\r' :: rest => '\n' :: normalizeLines rest
  | '\x00' :: rest => Char.ofNat 0xfffd :: normalizeLines rest
  | c :: rest => c :: normalizeLines rest

/-- Elements whose content is raw text. -/
def rawTextNames : List String := ["script", "style", "xmp", "iframe", "noembed", "noframes"]

/-- Elements whose content is text with references. -/
def plainTextNames : List String := ["textarea", "title"]

def lowerName (cs : List Char) : String :=
  String.ofList (cs.map Char.toLower)

def endsTagName (c : Char) : Bool :=
  isSpace c || c == '/' || c == '>'

/-- The characters before the first one of a class, and the rest from it on. -/
def splitAt (stop : Char → Bool) (cs : List Char) : List Char × List Char :=
  (cs.takeWhile fun c => !stop c, cs.dropWhile fun c => !stop c)

/-- An attribute value at the front, after the equals sign and blanks. -/
def attributeValue (cs : List Char) : List Char × List Char :=
  match cs with
  | '"' :: rest =>
    let (v, after) := splitAt (· == '"') rest
    (v, after.drop 1)
  | '\'' :: rest =>
    let (v, after) := splitAt (· == '\'') rest
    (v, after.drop 1)
  | _ => splitAt (fun c => isSpace c || c == '>') cs

/-- An attribute at the front, and the rest. An equals sign may begin a name. -/
def attributeAt (cs : List Char) : (String × String) × List Char :=
  let (first, more) := (cs.take 1, cs.drop 1)
  let (name, rest) := splitAt (fun c => endsTagName c || c == '=') more
  let key := lowerName (first ++ name)
  match rest.dropWhile isSpace with
  | '=' :: after =>
    let (v, rest) := attributeValue (after.dropWhile isSpace)
    ((key, String.ofList (resolve true v)), rest)
  | _ => ((key, ""), rest)

/-- Attributes up to the end of a tag: the attributes, whether the tag closes itself, and the rest.
There is no answer when the text ends first. -/
def attributes (bound : Nat) (done : List (String × String)) (cs : List Char) :
    Option (List (String × String) × Bool × List Char) :=
  match bound with
  | 0 => none
  | bound + 1 =>
    match cs with
    | [] => none
    | '>' :: rest => some (done.reverse, false, rest)
    | '/' :: '>' :: rest => some (done.reverse, true, rest)
    | c :: rest =>
      if isSpace c || c == '/' then attributes bound done rest
      else
        let (attr, rest) := attributeAt cs
        let done := if done.any fun e => e.1 == attr.1 then done else attr :: done
        attributes bound done rest

/-- A tag after its opening bracket: its name, attributes, and the rest. -/
def tagAt (cs : List Char) : Option (String × List (String × String) × Bool × List Char) :=
  let (name, rest) := splitAt endsTagName cs
  (attributes (rest.length + 1) [] rest).map fun (attrs, closing, rest) =>
    (lowerName name, attrs, closing, rest)

/-- Whether an end tag of the given name stands at the front. -/
def endTagAhead (name : String) : List Char → Bool
  | '<' :: '/' :: rest =>
    let (found, after) := splitAt endsTagName rest
    lowerName found == name && !after.isEmpty
  | _ => false

/-- How deep the text of a script is inside an escaped part. -/
inductive ScriptState where
  | plain
  | escaped
  | nested

/-- The text of a raw element before its end tag, last character first, and the rest from the tag
on. In a script, an end tag inside a script start within a comment does not count. -/
def rawText (name : String) (state : ScriptState) (done : List Char) :
    List Char → List Char × List Char
  | [] => (done, [])
  | c :: rest =>
    let here := c :: rest
    let inNested := match state with
      | .nested => true
      | _ => false
    if endTagAhead name here && !inNested then (done, here)
    else
      let script := name == "script"
      let state := match state with
        | .plain => if script && "<!--".toList.isPrefixOf here then .escaped else .plain
        | .escaped =>
          if "-->".toList.isPrefixOf here then .plain
          else if c == '<' && lowerName (rest.takeWhile fun d => !endsTagName d) == "script" then
            .nested
          else .escaped
        | .nested =>
          if "-->".toList.isPrefixOf here then .plain
          else if endTagAhead name here then .escaped
          else .nested
      rawText name state (c :: done) rest

/-- The content of a comment and the rest after it. -/
def commentAt (done : List Char) : List Char → List Char × List Char
  | [] => (done.reverse, [])
  | '-' :: '-' :: '>' :: rest => (done.reverse, rest)
  | '-' :: '-' :: '!' :: '>' :: rest => (done.reverse, rest)
  | c :: rest => commentAt (c :: done) rest

/-- A comment after its opening; one that is closed at once is empty. -/
def commentBody : List Char → List Char × List Char
  | '>' :: rest => ([], rest)
  | '-' :: '>' :: rest => ([], rest)
  | cs => commentAt [] cs

/-- What is not a tag but looks like markup, up to its bracket. -/
def bogusComment (cs : List Char) : List Char × List Char :=
  let (body, rest) := splitAt (· == '>') cs
  (body, rest.drop 1)

/-- Text without references or with them resolved, as a token unless it is empty. -/
def textToken (cs : List Char) : List Token :=
  if cs.isEmpty then [] else [.text cs]

/-- The tokens after a start tag of the given name: the text of an element that holds text only. -/
def contentOf (name : String) (selfClosing : Bool) (cs : List Char) : List Token × List Char :=
  if selfClosing then ([], cs)
  else if rawTextNames.contains name then
    let (body, rest) := rawText name .plain [] cs
    (textToken body.reverse, rest)
  else if plainTextNames.contains name then
    let (body, rest) := rawText name .plain [] cs
    (textToken (resolve false body.reverse), rest)
  else if name == "plaintext" then (textToken cs, [])
  else ([], cs)

/-- One piece of markup at the front, which is not empty: its tokens and the rest. -/
def piece (cs : List Char) : List Token × List Char :=
  match cs with
  | '<' :: '!' :: '-' :: '-' :: rest =>
    let (body, rest) := commentBody rest
    ([.comment body], rest)
  | '<' :: '!' :: rest =>
    let (body, after) := bogusComment rest
    if lowerName (rest.take 7) == "doctype" then ([.doctype], after) else ([.comment body], after)
  | '<' :: '?' :: rest =>
    let (body, rest) := bogusComment ('?' :: rest)
    ([.comment body], rest)
  | '<' :: '/' :: c :: rest =>
    if c.isAlpha then
      match tagAt (c :: rest) with
      | some (name, _, _, rest) => ([.endTag name], rest)
      | none => ([], [])
    else if c == '>' then ([], rest)
    else
      let (body, rest) := bogusComment (c :: rest)
      ([.comment body], rest)
  | '<' :: c :: rest =>
    if c.isAlpha then
      match tagAt (c :: rest) with
      | some (name, attrs, closing, rest) =>
        let (content, rest) := contentOf name closing rest
        (.startTag name attrs closing :: content, rest)
      | none => ([], [])
    else ([.text ['<']], c :: rest)
  | '<' :: rest => ([.text ['<']], rest)
  | c :: rest =>
    let (run, rest) := splitAt (· == '<') (c :: rest)
    (textToken (resolve false run), rest)
  | [] => ([], [])

/-- The tokens of markup, piece by piece. -/
def tokensFrom (bound : Nat) (cs : List Char) : List Token :=
  match bound with
  | 0 => []
  | bound + 1 =>
    if cs.isEmpty then []
    else
      let (tokens, rest) := piece cs
      tokens ++ tokensFrom bound rest

def tokens (markup : String) : List Token :=
  let cs := normalizeLines markup.toList
  tokensFrom (cs.length + 1) cs

end PageHarvest.Html
