import SearchQL.Value.NumberText

/-!
# Writing values — compact document text

A value bound as a parameter, cast to text or named in an error is written as a
compact document: no blanks, the fields of an object in their order. In a text
the quote, the backslash and the control characters below the space are escaped,
the usual ones by a letter and the others by four hexadecimal digits; every
other character stands for itself.
-/

namespace SearchQL.Value

/-- A hexadecimal digit, lower case. -/
def hexDigit (n : Nat) : Char := Nat.digitChar n

/-- How a character is written inside quotes. -/
def escapeChar (c : Char) : List Char :=
  match c with
  | '"' => ['\\', '"']
  | '\\' => ['\\', '\\']
  | '\x08' => ['\\', 'b']
  | '\x0c' => ['\\', 'f']
  | '\n' => ['\\', 'n']
  | '\r' => ['\\', 'r']
  | '\t' => ['\\', 't']
  | c =>
    if c.toNat < 0x20 then ['\\', 'u', '0', '0', hexDigit (c.toNat / 16), hexDigit (c.toNat % 16)]
    else [c]

/-- A text in quotes. -/
def quotedChars (s : String) : List Char := '"' :: s.toList.flatMap escapeChar ++ ['"']

mutual

/-- A value as a compact document. -/
def chars : Value → List Char
  | .null => ['n', 'u', 'l', 'l']
  | .bool true => ['t', 'r', 'u', 'e']
  | .bool false => ['f', 'a', 'l', 's', 'e']
  | .number n => n.chars
  | .text s => quotedChars s
  | .array [] => ['[', ']']
  | .array (v :: rest) => '[' :: v.chars ++ charsOfItems rest
  | .object [] => ['\x7b', '\x7d']
  | .object ((name, v) :: rest) => '\x7b' :: quotedChars name ++ ':' :: v.chars ++ charsOfFields rest

/-- The items after the first, each behind a comma, and the closing bracket. -/
def charsOfItems : List Value → List Char
  | [] => [']']
  | v :: rest => ',' :: v.chars ++ charsOfItems rest

/-- The fields after the first, each behind a comma, and the closing brace. -/
def charsOfFields : List (String × Value) → List Char
  | [] => ['\x7d']
  | (name, v) :: rest => ',' :: quotedChars name ++ ':' :: v.chars ++ charsOfFields rest

end

/-- A value as document text. -/
def json (v : Value) : String := String.ofList v.chars

end SearchQL.Value
