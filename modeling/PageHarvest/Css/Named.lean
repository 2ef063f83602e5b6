import PageHarvest.Css.Bounds
import PageHarvest.Css.Selector

/-!
Selectors that have a name of their own: states of form fields, links, and positions.
-/
namespace PageHarvest.Css

def anyTag (tags : List String) : Test :=
  .oneOf (tags.map fun t => [.tag t])

def having (name : String) : Test :=
  .attr { name }

def valued (name value : String) : Test :=
  .attr { name, ask := .equals, value }

/-- Elements whose type is the given one in any case. -/
def typed (value : String) : Test :=
  .attr { name := "type", ask := .equals, value, ignoreCase := true }

def lacking (name : String) : Test :=
  .noneOf [[having name]]

/-- Elements without a type, with an empty one, or with one of those given. -/
def typedAsAny (types : List String) : Test :=
  .oneOf ([lacking "type"] :: (("" :: types).map fun t => [typed t]))

namespace Named

/-- Elements of a form that take part in it; hidden inputs do not. -/
def controls : List Compound :=
  [.tag "input", .noneOf [[typed "hidden"]]] ::
    ["button", "select", "textarea", "fieldset"].map fun t => [.tag t]

def grouped : List Compound :=
  controls ++ [[.tag "optgroup"], [.tag "option"]]

def link : Selector :=
  [[anyTag ["a", "area"], having "href"]]

def checked : Selector := [
  [.oneOf [[.tag "input", typed "checkbox"], [.tag "input", typed "radio"]], having "checked"],
  [.tag "option", having "selected"]]

/-- Positions of the first of its kind. -/
def firstOf (ofType fromEnd : Bool) : Test :=
  .nth { step := 0, offset := 1, single := true, ofType, fromEnd } []

/-- A disabled set of fields, as what an element stands in. -/
def disabledSet : Compound :=
  [.tag "fieldset", having "disabled"]

def disabled : Selector := [
  [.oneOf grouped, having "disabled"],
  [.tag "option", .follows .child [.tag "optgroup", having "disabled"]],
  [.oneOf controls, .follows .child disabledSet],
  [.oneOf controls, .follows .frameDescendant
    [.noneOf [[.tag "legend", firstOf true false]], .follows .child disabledSet]]]

def enabled : Selector :=
  [[.oneOf grouped, .noneOf disabled]]

def fillable : Test :=
  anyTag ["input", "select", "textarea"]

def required : Selector :=
  [[fillable, having "required"]]

def optional : Selector :=
  [[fillable, lacking "required"]]

def textTypes : List String :=
  ["text", "search", "url", "tel", "email", "password", "number"]

def placeholderShown : Selector := [
  [.tag "input", typedAsAny textTypes, having "placeholder", .noneOf [[valued "placeholder" ""]],
    .oneOf [[lacking "value"], [valued "value" ""]]],
  [.tag "textarea", having "placeholder", .noneOf [[valued "placeholder" ""]], .textless]]

def readWrite : Selector := [
  [.oneOf [[.tag "textarea"],
      [.tag "input", typedAsAny (textTypes ++ ["date", "datetime-local", "month", "time", "week"])]],
    .noneOf ([having "readonly"] :: disabled)],
  [.oneOf [[valued "contenteditable" ""],
    [.attr ⟨"contenteditable", .equals, "true", true⟩]]]]

def readOnly : Selector :=
  [[.noneOf readWrite]]

/-- Inputs whose value is beyond the bounds that are given for it, or is not. -/
def bounded (beyond : Bool) : Selector :=
  [[.tag "input", .oneOf ((datedTypes.map (·.1) ++ numberTypes).map fun t => [typed t]),
    .oneOf [[having "min"], [having "max"]], .state (.bounded beyond)]]

/-- What a form has from the start: choices that are made, and the button that submits it. -/
def preset : Selector :=
  checked ++ [[anyTag ["button", "input"], typed "submit", .state .firstSubmit]]

/-- Neither chosen nor not: boxes and bars that say so, and choices of which none is made. -/
def indeterminate : Selector := [
  [.tag "input", typed "checkbox", having "indeterminate"],
  [.tag "input", typed "radio", .oneOf [[lacking "name"], [valued "name" ""]], lacking "checked"],
  [.tag "progress", lacking "value"],
  [.tag "input", typed "radio", having "name", .noneOf [[valued "name" ""]], lacking "checked",
    .state .unchosen]]

def opened : Selector :=
  [[anyTag ["details", "dialog"], having "open"]]

def muted : Selector :=
  [[anyTag ["audio", "video"], having "muted"]]

/-- States that no element of a document at rest is in. -/
def neverStates : List String := [
  "active", "autofill", "buffering", "current", "focus", "focus-visible", "focus-within",
  "fullscreen", "future", "host", "hover", "local-link", "past", "paused", "picture-in-picture",
  "playing", "popover-open", "seeking", "stalled", "target", "target-within", "user-invalid",
  "visited", "volume-locked"]

/-- The tests of a name; `none` when it names nothing. -/
def tests? (name : String) : Option (List Test) :=
  match name with
  | "root" => some [.root]
  | "scope" => some [.scope]
  | "empty" => some [.empty]
  | "link" | "any-link" => some [.oneOf link]
  | "checked" => some [.oneOf checked]
  | "disabled" => some [.oneOf disabled]
  | "enabled" => some [.oneOf enabled]
  | "required" => some [.oneOf required]
  | "optional" => some [.oneOf optional]
  | "placeholder-shown" => some [.oneOf placeholderShown]
  | "read-write" => some [.oneOf readWrite]
  | "read-only" => some [.oneOf readOnly]
  | "in-range" => some [.oneOf (bounded false)]
  | "out-of-range" => some [.oneOf (bounded true)]
  | "default" => some [.oneOf preset]
  | "indeterminate" => some [.oneOf indeterminate]
  | "open" => some [.oneOf opened]
  | "muted" => some [.oneOf muted]
  | "defined" => some [.state .known]
  | "first-child" => some [firstOf false false]
  | "last-child" => some [firstOf false true]
  | "first-of-type" => some [firstOf true false]
  | "last-of-type" => some [firstOf true true]
  | "only-child" => some [firstOf false false, firstOf false true]
  | "only-of-type" => some [firstOf true false, firstOf true true]
  | _ => if neverStates.contains name then some [.never] else none

end Named
end PageHarvest.Css
