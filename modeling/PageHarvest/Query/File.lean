import PageHarvest.Files.Tree
import PageHarvest.Json.Reader
import PageHarvest.Query.Definition
import PageHarvest.Text.Case
import PageHarvest.Yaml.Value

/-!
Queries from definition files. The end of a file's name says which format it is in, in any case.
-/
namespace PageHarvest

inductive FileFormat where
  | yaml
  | json
  deriving Repr, DecidableEq

namespace FileFormat
variable [Stack]

def ofPath (p : Path) : Except Failure FileFormat :=
  match Text.lower p.suffix with
  | ".yaml" | ".yml" => .ok yaml
  | ".json" => .ok json
  | other => .error (Cause.unloadable ("Unsupported query format: " ++ other))

/-- The value of a text in a format; blank text has the value null. -/
def read (p : Path) (text : List Char) : FileFormat → Except Failure Value
  | yaml => Yaml.read text
  | json =>
    if text.all Text.isBlank then .ok .null
    else match Json.read text with
      | .ok v => .ok v
      | .error (.malformed reason position) =>
        .error (Cause.unloadable ("Query file is not valid JSON: " ++ p.text ++ ": " ++
          (Json.Fault.malformed reason position).message text))
      | .error fault => .error (fault.cause text)

end FileFormat

namespace Query
variable [Stack] {C : Type}

/-- The query of a file in a format; `shown` is how messages name the file. -/
def ofFile (tree : FileTree) (format : FileFormat) (p : Path) (shown : String) :
    Except Failure (Query C) := do
  match ← tree.find p with
  | none => .error (Cause.unloadable ("Query file not found: " ++ shown))
  | some .directory => .error (directoryFailure p)
  | some (.file bytes) =>
    match ← format.read p (← textOf bytes) with
    | .null => .error (Cause.unloadable ("Query file is empty: " ++ shown))
    | .map m => ofMapping m
    | _ => .error (Cause.unloadable ("Query file is invalid: " ++ shown))

end Query
end PageHarvest
