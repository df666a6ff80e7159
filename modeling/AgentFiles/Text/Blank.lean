/-!
# Blank characters

A character is blank when it has the White_Space property. Trimming removes blanks from the ends of
a text and nothing else, and a text is blank when nothing is left of it.
-/

namespace AgentFiles
namespace Text

/-- The twenty-five characters with the White_Space property. -/
def isBlank (c : Char) : Bool :=
  let n := c.toNat
  (9 ≤ n && n ≤ 13) || n == 0x20 || n == 0x85 || n == 0xA0 || n == 0x1680 ||
    (0x2000 ≤ n && n ≤ 0x200A) || n == 0x2028 || n == 0x2029 || n == 0x202F ||
    n == 0x205F || n == 0x3000

def trimStart (s : List Char) : List Char :=
  s.dropWhile isBlank

def trimEnd (s : List Char) : List Char :=
  (s.reverse.dropWhile isBlank).reverse

def trim (s : List Char) : List Char :=
  trimEnd (trimStart s)

def allBlank (s : List Char) : Bool :=
  s.all isBlank

end Text
end AgentFiles
