import Roundtable.Text.CharRanges
/-!
Blank characters (Unicode White_Space) and the two ways in which a line is freed from them:
trimming both ends, and splitting into words.
-/

namespace Roundtable.Text

/-- The characters with the property White_Space. -/
def blankRanges : CharRanges :=
  #[(0x9, 0xD), (0x20, 0x20), (0x85, 0x85), (0xA0, 0xA0), (0x1680, 0x1680), (0x2000, 0x200A),
    (0x2028, 0x2029), (0x202F, 0x202F), (0x205F, 0x205F), (0x3000, 0x3000)]

def isBlank (c : Char) : Bool :=
  blankRanges.has c

/-- The characters without the blanks at either end. -/
def trimChars (text : List Char) : List Char :=
  ((text.dropWhile isBlank).reverse.dropWhile isBlank).reverse

/-- The text without the blanks at either end. -/
def trim (text : String) : String :=
  String.ofList (trimChars text.toList)

/-- The blank-separated words of `text`, of which the first goes on from `word`, the characters of
it already read, nearest first. -/
def wordsFrom (word : List Char) : List Char → List (List Char)
  | [] => if word.isEmpty then [] else [word.reverse]
  | c :: rest =>
    if isBlank c then
      if word.isEmpty then wordsFrom [] rest else word.reverse :: wordsFrom [] rest
    else wordsFrom (c :: word) rest

/-- The words of a text: its longest runs of characters that are not blank. -/
def words (text : String) : List String :=
  (wordsFrom [] text.toList).map String.ofList

end Roundtable.Text
