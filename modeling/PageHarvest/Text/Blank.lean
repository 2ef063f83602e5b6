/-!
White space as trimming sees it: the Unicode separators together with the line and column controls.
-/
namespace PageHarvest.Text

/-- Blank characters, ASCII and beyond. -/
def isBlank (c : Char) : Bool :=
  let n := c.toNat
  (9 ≤ n && n ≤ 13) || (28 ≤ n && n ≤ 32) || n == 0x85 || n == 0xa0 || n == 0x1680 ||
    (0x2000 ≤ n && n ≤ 0x200a) || n == 0x2028 || n == 0x2029 || n == 0x202f || n == 0x205f ||
    n == 0x3000

def trimBy (drop : Char → Bool) (cs : List Char) : List Char :=
  ((cs.dropWhile drop).reverse.dropWhile drop).reverse

def strip (s : String) : String :=
  String.ofList (trimBy isBlank s.toList)

def isBlankText (s : String) : Bool :=
  s.toList.all isBlank

end PageHarvest.Text
