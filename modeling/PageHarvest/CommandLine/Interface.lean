/-!
Command lines: programs with commands, and switches with or without a value.
-/
namespace PageHarvest.CommandLine

structure Switch where
  names : List String
  /-- The word for its value in help; a switch without one takes no value. -/
  value : Option String := none
  /-- The values that it takes, when not all are welcome. -/
  choices : List String := []
  required : Bool := false
  help : String := ""
  deriving Repr, DecidableEq

namespace Switch

/-- The switch that every command has. -/
def forHelp : Switch where
  names := ["-h", "--help"]
  help := "show this help message and exit"

/-- A switch with the word that stands for its value. -/
def named (s : Switch) (name : String) : String :=
  match s.value with
  | some word => name ++ " " ++ word
  | none => name

/-- The name under which its value is kept. -/
def key (s : Switch) : String :=
  s.names.getLastD ""

end Switch

def choicesShown (choices : List String) : String :=
  "\x7b" ++ ",".intercalate choices ++ "\x7d"

structure Command where
  name : String
  help : String
  /-- The switches besides the one for help. -/
  switches : List Switch

def Command.allSwitches (c : Command) : List Switch :=
  .forHelp :: c.switches

structure Program where
  name : String
  about : String
  commands : List Command

end PageHarvest.CommandLine
