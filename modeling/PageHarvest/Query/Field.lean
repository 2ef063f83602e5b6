import PageHarvest.Failure

/-!
Fields of a selection. A field is written as a selector, for the text of what it matches, or as a
mapping that also names an attribute.
-/
namespace PageHarvest

/-- Reads the text, or an attribute, of the first match of a selector. -/
structure Field where
  name : String
  selector : String
  attr : Option String
  deriving Repr, DecidableEq

namespace Field
variable [Stack]

/-- What a field reads. -/
def kind (f : Field) : String :=
  if f.attr.isNone then "text" else "attribute"

/-- The value under the first of two names that is there. -/
def either (m : Mapping) (first second : String) : Value :=
  match m.field? first with
  | some v => v
  | none => (m.field? second).getD .null

def malformed : Failure :=
  Cause.invalidPipeline Cause.defaultPipelineMessage

/-- One field from its name and definition. An empty attribute counts as none. -/
def ofDefinition (name : String) : Value → Except Failure Field
  | .text selector => .ok ⟨name, selector, none⟩
  | .map m =>
    match either m "path" "selector" with
    | .text selector =>
      if selector.isEmpty then .error malformed
      else match either m "attr" "attribute" with
        | .null => .ok ⟨name, selector, none⟩
        | .text attr =>
          .ok ⟨name, selector, if attr.isEmpty then none else some attr⟩
        | _ => .error malformed
    | _ => .error malformed
  | _ => .error malformed

/-- The field of an entry. A name that is not a text is used as it is shown, if it can be. -/
def ofEntry (e : Value × Value) : Except Failure Field := do
  let field ← ofDefinition e.1.plain e.2
  match e.1.unshown? with
  | some u => .error (Cause.unshown u)
  | none => return field

/-- All fields of a mapping, in its order. -/
def ofMapping : Value → Except Failure (List Field)
  | .map m => m.mapM ofEntry
  | _ => .error malformed

end Field
end PageHarvest
