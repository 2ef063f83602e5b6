import PageHarvest.Text.Case

/-!
Ranges of languages, which are matched against the tag of a language part by part. A star stands for any
parts; between the other parts there may be further ones, but none of a single character.
-/
namespace PageHarvest.Css

/-- A range without the stars after its first part; `starred` tells that one has just been left out. -/
def withoutStars (starred : Bool) : List Char → List Char
  | [] => []
  | '*' :: after@('-' :: rest) =>
    if starred then withoutStars true rest else '*' :: withoutStars false after
  | ['*'] => if starred then [] else ['*']
  | '-' :: '*' :: '-' :: rest => '-' :: withoutStars true rest
  | ['-', '*'] => ['-']
  | c :: rest => c :: withoutStars false rest

/-- Whether the parts of a range come among those of a tag, in order. -/
def partsCover : List String → List String → Bool
  | [], _ => true
  | _ :: _, [] => false
  | r :: range, t :: tag =>
    if r.isEmpty then false
    else if t == r then partsCover range tag
    else if t.length == 1 then false
    else partsCover (r :: range) tag

/-- Whether a language is in a range, case aside. The empty range holds the unnamed language only. -/
def coversLanguage (range tag : String) : Bool :=
  let ranged := (Text.lower (String.ofList (withoutStars false range.toList))).splitOn "-"
  match ranged, (Text.lower tag).splitOn "-" with
  | [""], [""] => true
  | r :: range, t :: tag =>
    (r == t || (r == "*" && !(tag.isEmpty && t.isEmpty))) && partsCover range tag
  | _, _ => false

end PageHarvest.Css
