import PageHarvest.CommandLine.Interface

/-!
Help texts: a usage line that is broken between switches when it is too long, and sections whose
explanations stand in one column.
-/
namespace PageHarvest.CommandLine

/-- The widest line of usage. -/
def usageWidth : Nat := 78

/-- The column at which explanations start at the latest. -/
def lastColumn : Nat := 24

def blanks (n : Nat) : String :=
  String.ofList (List.replicate n ' ')

/-- Fills lines with parts as long as they fit. The first line already holds `lead` characters and
the others begin at the same column. -/
def fill (lead used : Nat) (line : List String) : List String → List String
  | [] => [" ".intercalate line]
  | part :: rest =>
    if used + 1 + part.length ≤ usageWidth || line.isEmpty then
      fill lead (used + 1 + part.length) (line ++ [part]) rest
    else " ".intercalate line :: fill lead (lead + part.length) [part] rest

def usage (name : String) (parts : List String) : String :=
  let start := "usage: " ++ name
  let lines := fill (start.length + 1) start.length [] parts
  start ++ " " ++ ("\n" ++ blanks (start.length + 1)).intercalate lines ++ "\n"

/-- A line of a section: how deep it stands, what it explains and the explanation. -/
structure HelpRow where
  depth : Nat
  subject : String
  help : String

namespace HelpRow

/-- The column at which the explanations of all rows start. -/
def column (rows : List HelpRow) : Nat :=
  rows.foldl (fun n r => max n (min lastColumn (r.depth + r.subject.length + 2))) 0

/-- A row with its explanation at a column, on a line of its own if the subject leaves no room. -/
def text (margin : Nat) (r : HelpRow) : String :=
  let start := blanks r.depth ++ r.subject
  if r.help.isEmpty then start ++ "\n"
  else if start.length + 2 ≤ margin then start ++ blanks (margin - start.length) ++ r.help ++ "\n"
  else start ++ "\n" ++ blanks margin ++ r.help ++ "\n"

end HelpRow

def sectionText (margin : Nat) (heading : String) (rows : List HelpRow) : String :=
  heading ++ ":\n" ++ String.join (rows.map (HelpRow.text margin))

def Switch.usage (s : Switch) : String :=
  let shown := s.named (s.names.headD "")
  if s.required then shown else "[" ++ shown ++ "]"

def Switch.row (s : Switch) : HelpRow :=
  ⟨2, ", ".intercalate (s.names.map s.named), s.help⟩

def Command.helpText (program : String) (c : Command) : String :=
  let rows := c.allSwitches.map Switch.row
  usage (program ++ " " ++ c.name) (c.allSwitches.map Switch.usage) ++ "\n" ++
    sectionText (HelpRow.column rows) "options" rows

def Program.helpText (p : Program) : String :=
  let all := choicesShown (p.commands.map (·.name))
  let commands := ⟨2, all, ""⟩ :: p.commands.map fun c => (⟨4, c.name, c.help⟩ : HelpRow)
  let switches := [Switch.forHelp.row]
  let margin := HelpRow.column (commands ++ switches)
  usage p.name [Switch.forHelp.usage, all, "..."] ++ "\n" ++ p.about ++ "\n\n" ++
    sectionText margin "positional arguments" commands ++ "\n" ++ sectionText margin "options" switches

end PageHarvest.CommandLine
