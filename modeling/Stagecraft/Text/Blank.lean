/-!
# Blanks

The blank characters of documents, and the ways text is cut at them. `strip` loses the blanks at
both ends, `words` are the maximal runs without blanks.
-/

namespace Stagecraft

namespace Text

/-- A blank: a character that only separates others (Unicode white space, with the four
information separators). -/
def isBlank (c : Char) : Bool :=
  let n := c.toNat
  (9 ≤ n && n ≤ 13) || (28 ≤ n && n ≤ 32) || n = 0x85 || n = 0xa0 || n = 0x1680 ||
    (0x2000 ≤ n && n ≤ 0x200a) || n = 0x2028 || n = 0x2029 || n = 0x202f || n = 0x205f || n = 0x3000

/-- The characters from the first that is not blank to the last. -/
def stripChars (cs : List Char) : List Char :=
  ((cs.dropWhile isBlank).reverse.dropWhile isBlank).reverse

def strip (s : String) : String := String.ofList (stripChars s.toList)

def isAllBlank (s : String) : Bool := s.toList.all isBlank

/-- The pieces between the separators; a text without one is its own single piece. -/
def splitChars (sep : Char) : List Char → List (List Char)
  | [] => [[]]
  | c :: cs =>
    if c = sep then [] :: splitChars sep cs
    else
      match splitChars sep cs with
      | piece :: pieces => (c :: piece) :: pieces
      | [] => [[c]]

/-- The pieces of a text between the separators. -/
def splitOn (sep : Char) (s : String) : List String := (splitChars sep s.toList).map String.ofList

/-- The maximal runs without blanks. -/
def wordChars : List Char → List (List Char)
  | [] => []
  | c :: cs =>
    if isBlank c then wordChars cs
    else
      match cs, wordChars cs with
      | d :: _, word :: words => if isBlank d then [c] :: word :: words else (c :: word) :: words
      | _, words => [c] :: words

def words (s : String) : List String := (wordChars s.toList).map String.ofList

theorem splitChars_ne_nil (sep : Char) (cs : List Char) : splitChars sep cs ≠ [] := by
  cases cs with
  | nil => simp [splitChars]
  | cons c cs =>
      unfold splitChars
      split
      · simp
      · split <;> simp

end Text

end Stagecraft
