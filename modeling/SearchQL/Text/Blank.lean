/-!
# Blank characters — one notion of white space, and what is cut with it

Attribute text, match text and configuration values all arrive with stray
blanks around them. Everywhere in this library "blank" is the same set: the
twenty-five characters with the Unicode property White_Space. The set is wider
than the six ASCII blanks (it holds the no-break space, the ideographic space
and the line separators) and it leaves out the zero-width characters, which
carry no space at all.

The functions work on characters, because the readers and scanners downstream
do; `trim` and `isBlankText` are the same rules on text.
-/

namespace SearchQL.Text

/-- The characters with the property White_Space, as inclusive ranges of code points. -/
def blankRanges : List (Nat × Nat) :=
  [(0x0009, 0x000D), (0x0020, 0x0020), (0x0085, 0x0085), (0x00A0, 0x00A0), (0x1680, 0x1680),
   (0x2000, 0x200A), (0x2028, 0x2029), (0x202F, 0x202F), (0x205F, 0x205F), (0x3000, 0x3000)]

/-- Whether a code point lies in one of the ranges. -/
def inRanges (ranges : List (Nat × Nat)) (code : Nat) : Bool :=
  ranges.any fun range => range.1 ≤ code && code ≤ range.2

/-- Whether a character is white space. -/
def isBlank (c : Char) : Bool := inRanges blankRanges c.toNat

/-- The characters between the first and the last that is not blank. -/
def trimChars (cs : List Char) : List Char :=
  ((cs.dropWhile isBlank).reverse.dropWhile isBlank).reverse

/-- Characters with no blank at either end are kept. -/
theorem trimChars_of_ends {first last : Char} (hf : isBlank first = false)
    (hl : isBlank last = false) (cs : List Char) :
    trimChars (first :: (cs ++ [last])) = first :: (cs ++ [last]) := by
  rw [trimChars, List.dropWhile_cons_of_neg (by rw [hf]; exact Bool.false_ne_true),
    ← List.cons_append, List.reverse_concat,
    List.dropWhile_cons_of_neg (by rw [hl]; exact Bool.false_ne_true), List.reverse_cons,
    List.reverse_reverse]

/-- Text without the blanks at its two ends. -/
def trim (text : String) : String := String.ofList (trimChars text.toList)

/-- Whether a text holds nothing but blanks; the empty text does. -/
def isBlankText (text : String) : Bool := text.toList.all isBlank

/-! ## ASCII case

Keywords and column names are compared without regard to the case of the
letters A to Z. Every other character stands for itself, so these two leave all
of Unicode beyond ASCII alone. -/

/-- Text with the letters A to Z in lower case. -/
def lowerAscii (text : String) : String := String.ofList (text.toList.map Char.toLower)

/-- Text with the letters a to z in upper case. -/
def upperAscii (text : String) : String := String.ofList (text.toList.map Char.toUpper)

/-- Two texts that differ at most in the case of ASCII letters. -/
def sameIgnoringCase (a b : String) : Bool := lowerAscii a == lowerAscii b

end SearchQL.Text
