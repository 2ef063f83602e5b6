import PageHarvest.CommandLine.Help
import PageHarvest.Data.Table
import PageHarvest.Text.Digit

/-!
Reading the arguments of a command line. A switch may be shortened as long as one name begins that
way, and its value follows it or an equals sign. Reading stops at the first switch for help.
-/
namespace PageHarvest.CommandLine

/-- A value written into the same argument as its switch. -/
structure Attached where
  /-- Whether an equals sign stands before it. -/
  afterEquals : Bool
  text : String
  deriving Repr, DecidableEq

/-- What an argument is to a list of switches. -/
inductive Word where
  | argument (text : String)
  /-- Two dashes; only arguments follow. -/
  | dashes
  | switch (s : Switch) (name : String) (attached : Option Attached)
  | unknown

/-- The parts before and after the first equals sign. -/
def cutAtEquals (cs : List Char) : List Char × Option (List Char) :=
  match cs.dropWhile (· != '=') with
  | _ :: value => (cs.takeWhile (· != '='), some value)
  | [] => (cs, none)

/-- A dash before a number, with or without a point in it. -/
def isNegativeNumber : List Char → Bool
  | '-' :: cs =>
    let whole := cs.takeWhile Text.isDigit
    match cs.dropWhile Text.isDigit with
    | [] => !whole.isEmpty
    | '.' :: fraction => !fraction.isEmpty && fraction.all Text.isDigit
    | _ => false
  | _ => false

/-- What a shortened argument can stand for. After one dash, what follows the first letter may be
written into the same argument. -/
def candidates (switches : List Switch) (cs : List Char) : List Word :=
  let all := switches.flatMap fun s => s.names.map fun name => (s, name)
  if ['-', '-'].isPrefixOf cs then
    let (head, value) := cutAtEquals cs
    (all.filter fun (_, name) => head.isPrefixOf name.toList).map fun (s, name) =>
      .switch s name (value.map fun v => ⟨true, String.ofList v⟩)
  else
    all.filterMap fun (s, name) =>
      if name.toList == cs.take 2 then some (.switch s name (some ⟨false, String.ofList (cs.drop 2)⟩))
      else if cs.isPrefixOf name.toList then some (.switch s name none)
      else none

namespace Word

/-- What an argument is; none when it can stand for several switches. -/
def ofText? (switches : List Switch) (text : String) : Option Word :=
  let cs := text.toList
  let find? (name : String) := switches.find? fun s => s.names.contains name
  let (head, value) := cutAtEquals cs
  if cs.head? != some '-' || cs.length == 1 then some (.argument text)
  else match find? text, value, find? (String.ofList head) with
    | some s, _, _ => some (.switch s text none)
    | none, some v, some s => some (.switch s (String.ofList head) (some ⟨true, String.ofList v⟩))
    | none, _, _ =>
      match candidates switches cs with
      | [w] => some w
      | [] =>
        some (if isNegativeNumber cs || cs.contains ' ' then .argument text else .unknown)
      | _ => none

/-- What all arguments are; none when one of them can stand for several switches. -/
def ofTexts? (switches : List Switch) : List String → Option (List Word)
  | [] => some []
  | text :: rest =>
    if text == "--" then some (.dashes :: rest.map .argument)
    else do return (← ofText? switches text) :: (← ofTexts? switches rest)

end Word

/-- Whether letters written after a switch of one letter are acceptable: none of them is a dash, and
no value is given to one that is a switch. -/
def acceptsLetters (switches : List Switch) : List Char → Bool
  | [] => true
  | c :: rest =>
    c != '-' &&
      (if switches.any fun s => s.names.contains (String.ofList ['-', c]) then
        rest.head? != some '=' && acceptsLetters switches rest
      else true)

/-- Whether a switch without a value is acceptable with what is written into its argument. -/
def acceptsAttached (switches : List Switch) (name : String) : Option Attached → Bool
  | none => true
  | some a =>
    !(['-', '-'].isPrefixOf name.toList) && !a.afterEquals && !a.text.isEmpty &&
      acceptsLetters switches a.text.toList

/-- Values of switches by their names; one without a value has the empty one. -/
abbrev Values := Table String String

/-- What the arguments of a command come to. -/
inductive Reading where
  | help
  | refused
  /-- Switches with their values, and whether arguments were left over. -/
  | values (given : Values) (surplus : Bool)

def readWords (switches : List Switch) : List Word → Values → Bool → Reading
  | [], given, surplus => .values given surplus
  | .switch s name attached :: rest, given, surplus =>
    match s.value, attached with
    | none, _ =>
      if !acceptsAttached switches name attached then .refused
      else if s == .forHelp then .help
      else readWords switches rest (given.put s.key "") surplus
    | some _, some a =>
      if s.choices.isEmpty || s.choices.contains a.text then
        readWords switches rest (given.put s.key a.text) surplus
      else .refused
    | some _, none =>
      match rest with
      | .argument text :: rest =>
        if s.choices.isEmpty || s.choices.contains text then
          readWords switches rest (given.put s.key text) surplus
        else .refused
      | _ => .refused
  | _ :: rest, given, _ => readWords switches rest given true

/-- Reads the arguments of a command; a switch that is required has to be there. -/
def Command.read (c : Command) (args : List String) : Reading :=
  match Word.ofTexts? c.allSwitches args with
  | none => .refused
  | some words =>
    match readWords c.allSwitches words [] false with
    | .values given surplus =>
      if c.switches.any fun s => s.required && !given.has s.key then .refused
      else .values given surplus
    | r => r

/-- What a command line asks for. -/
inductive Request where
  /-- A help text, asked for or not. -/
  | help (text : String) (asked : Bool)
  | refused
  | command (name : String) (given : Values)

namespace Program

/-- Reads the words of a program, each with its argument; `surplus` says that some were not understood.
The first argument that is no switch names the command. -/
def readWords (p : Program) : List (Word × String) → (surplus : Bool) → Request
  | [], surplus => if surplus then .refused else .help p.helpText false
  | (.argument name, _) :: rest, surplus =>
    match p.commands.find? (·.name == name) with
    | none => .refused
    | some c =>
      match c.read (rest.map (·.2)) with
      | .help => .help (c.helpText p.name) true
      | .values given false => if surplus then .refused else .command c.name given
      | _ => .refused
  | (.dashes, _) :: _, _ => .refused
  | (.switch _ name attached, _) :: _, _ =>
    if acceptsAttached [.forHelp] name attached then .help p.helpText true else .refused
  | (.unknown, _) :: rest, _ => readWords p rest true

def read (p : Program) (args : List String) : Request :=
  match Word.ofTexts? [.forHelp] args with
  | none => .refused
  | some words => p.readWords (words.zip args) false

end Program
end PageHarvest.CommandLine
