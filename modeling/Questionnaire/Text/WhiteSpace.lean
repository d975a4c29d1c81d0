/-
# White space and pieces of text

The White_Space property of Unicode, trimming by it, and cutting a text into
pieces: at every separator, into words, and down to its first line. All
functions work on lists of characters and look at one character at a time, so
that what they keep and what they drop can be read off by induction. Nothing
here depends on a locale.
-/

namespace Questionnaire.Text

/-- The White_Space property: tabs and line breaks, the space, and the spaces
and separators outside ASCII that Unicode lists. The zero-width space and the
byte-order mark are not among them. -/
def isWhiteSpace (c : Char) : Bool :=
  let n := c.toNat
  (0x09 ≤ n && n ≤ 0x0D) || n == 0x20 || n == 0x85 || n == 0xA0 || n == 0x1680 ||
    (0x2000 ≤ n && n ≤ 0x200A) || n == 0x2028 || n == 0x2029 || n == 0x202F ||
    n == 0x205F || n == 0x3000

/-- The text without the white space at its start. -/
def trimLeading (cs : List Char) : List Char :=
  cs.dropWhile isWhiteSpace

/-- The text without the white space at its end. -/
def trimTrailing (cs : List Char) : List Char :=
  (cs.reverse.dropWhile isWhiteSpace).reverse

/-- The text without the white space around it. -/
def trim (cs : List Char) : List Char :=
  trimTrailing (trimLeading cs)

/-- Dropping a first run of characters leaves no more text than there was. -/
theorem length_dropWhile_le (drops : Char → Bool) (cs : List Char) :
    (cs.dropWhile drops).length ≤ cs.length :=
  (List.dropWhile_suffix drops).length_le

/-- Trimming adds no characters. -/
theorem mem_of_mem_trim {c : Char} {cs : List Char} (member : c ∈ trim cs) : c ∈ cs := by
  have leading : c ∈ trimLeading cs :=
    List.mem_reverse.mp ((List.dropWhile_suffix _).subset (List.mem_reverse.mp member))
  exact (List.dropWhile_suffix _).subset leading

/-- Whether a text holds nothing but white space. -/
def isBlank (cs : List Char) : Bool :=
  cs.all isWhiteSpace

/-- The pieces between separators, in order. A text with `n` separators has
`n + 1` pieces, so an empty text has one empty piece. -/
def splitAtEvery (separates : Char → Bool) : List Char → List (List Char)
  | [] => [[]]
  | c :: rest =>
    if separates c then [] :: splitAtEvery separates rest
    else
      match splitAtEvery separates rest with
      | [] => [[c]]
      | piece :: pieces => (c :: piece) :: pieces

/-- The maximal runs of characters that are not white space. -/
def words (cs : List Char) : List (List Char) :=
  (splitAtEvery isWhiteSpace cs).filter (fun piece => !piece.isEmpty)

/-- The text before the first line feed. A carriage return ends no line. -/
def firstLine (cs : List Char) : List Char :=
  cs.takeWhile (fun c => c != '\n')

end Questionnaire.Text
