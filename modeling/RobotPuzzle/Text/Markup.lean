/-! Plain text: which characters are blank, lines, and the markup of a page. A character is blank
that has the Unicode property White_Space, as the no-break spaces and the line and paragraph
separators have, and neither the byte order mark nor the zero-width space. -/

namespace RobotPuzzle.Text

def blankRanges : List (UInt32 × UInt32) :=
  [(0x9, 0xd), (0x20, 0x20), (0x85, 0x85), (0xa0, 0xa0), (0x1680, 0x1680), (0x2000, 0x200a),
    (0x2028, 0x2029), (0x202f, 0x202f), (0x205f, 0x205f), (0x3000, 0x3000)]

def isBlank (c : Char) : Bool :=
  blankRanges.any fun (first, last) => first ≤ c.val && c.val ≤ last

theorem isBlank_of_isWhitespace (c : Char) (h : c.isWhitespace) : isBlank c := by
  simp only [Char.isWhitespace, Bool.or_eq_true, decide_eq_true_eq] at h
  rcases h with ((rfl | rfl) | rfl) | rfl <;> decide

def trim (text : List Char) : List Char :=
  ((text.dropWhile isBlank).reverse.dropWhile isBlank).reverse

def unlines (lines : List String) : String := String.join (lines.map (· ++ "\n"))

def entity : Char → List Char
  | '<' => "&lt;".toList
  | '>' => "&gt;".toList
  | '&' => "&amp;".toList
  | '"' => "&quot;".toList
  | c => [c]

def escape (text : List Char) : List Char := text.flatMap entity

def escapeMarkup (text : String) : String := String.ofList (escape text.toList)

end RobotPuzzle.Text
