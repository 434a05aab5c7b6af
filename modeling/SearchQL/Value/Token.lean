import SearchQL.Value.NumberText

/-!
# Document tokens — brackets, separators, words and texts

The first half of reading a document: its characters become tokens. A document
has three kinds of token: the six signs, words (the three names and the
numbers) and texts in quotes. A word ends where a sign, a quote or a blank begins;
what a word may be is decided once it is complete. A text ends at the first
quote that no backslash escapes; its escapes are undone once it is complete.

The walk is a machine with three states, one step per character, so no position
or count is involved. Blanks are the space, the tab, the line feed and the
carriage return, and no other white space.

## What is refused

An unknown word, a malformed number, a control character inside a text, an escape
that is not one of the nine, and half a surrogate pair. A document that ends inside
a text is refused too.
-/

namespace SearchQL

/-- A token of a document. -/
inductive Token where
  | openArray
  | closeArray
  | openObject
  | closeObject
  | comma
  | colon
  | word (v : Value)
  | text (s : String)

namespace Token

/-- The sign that a character is. -/
def sign? : Char → Option Token
  | '[' => some .openArray
  | ']' => some .closeArray
  | '\x7b' => some .openObject
  | '\x7d' => some .closeObject
  | ',' => some .comma
  | ':' => some .colon
  | _ => none

/-- The blanks of a document. -/
def isSpace (c : Char) : Bool := c == ' ' || c == '\t' || c == '\n' || c == '\r'

/-- The token that a complete word is. -/
def ofWord? : List Char → Option Token
  | ['n', 'u', 'l', 'l'] => some (.word .null)
  | ['t', 'r', 'u', 'e'] => some (.word (.bool true))
  | ['f', 'a', 'l', 's', 'e'] => some (.word (.bool false))
  | cs => (Number.read? cs).map fun n => .word (.number n)

/-! ## Escapes -/

/-- The number of a hexadecimal digit, in either case. -/
def hexValue? (c : Char) : Option Nat :=
  if c.isDigit then some (c.toNat - '0'.toNat)
  else if 'a' ≤ c ∧ c ≤ 'f' then some (c.toNat - 'a'.toNat + 10)
  else if 'A' ≤ c ∧ c ≤ 'F' then some (c.toNat - 'A'.toNat + 10)
  else none

/-- The number of four hexadecimal digits. -/
def hexCode? (a b c d : Char) : Option Nat := do
  let a ← hexValue? a
  let b ← hexValue? b
  let c ← hexValue? c
  let d ← hexValue? d
  return ((a * 16 + b) * 16 + c) * 16 + d

/-- What an escape of one letter stands for. -/
def escaped? : Char → Option Char
  | '"' => some '"'
  | '\\' => some '\\'
  | '/' => some '/'
  | 'b' => some '\x08'
  | 'f' => some '\x0c'
  | 'n' => some '\n'
  | 'r' => some '\r'
  | 't' => some '\t'
  | _ => none

/-- Whether a code is the first half of a surrogate pair. -/
def isHighSurrogate (code : Nat) : Bool := 0xD800 ≤ code && code ≤ 0xDBFF

/-- Whether a code is the second half of a surrogate pair. -/
def isLowSurrogate (code : Nat) : Bool := 0xDC00 ≤ code && code ≤ 0xDFFF

/-- The character of a surrogate pair. -/
def pairChar (high low : Nat) : Char :=
  Char.ofNat (0x10000 + (high - 0xD800) * 0x400 + (low - 0xDC00))

/-- The characters between the quotes of a text, with the escapes undone. -/
def unescape? : List Char → Option (List Char)
  | [] => some []
  | '\\' :: 'u' :: a :: b :: c :: d :: '\\' :: 'u' :: e :: f :: g :: h :: rest =>
    match hexCode? a b c d, hexCode? e f g h with
    | some first, some second =>
      if isHighSurrogate first then
        if isLowSurrogate second then (unescape? rest).map (pairChar first second :: ·) else none
      else if isLowSurrogate first then none
      else (unescape? ('\\' :: 'u' :: e :: f :: g :: h :: rest)).map (Char.ofNat first :: ·)
    | _, _ => none
  | '\\' :: 'u' :: a :: b :: c :: d :: rest =>
    match hexCode? a b c d with
    | some code =>
      if isHighSurrogate code || isLowSurrogate code then none
      else (unescape? rest).map (Char.ofNat code :: ·)
    | none => none
  | '\\' :: c :: rest =>
    match escaped? c with
    | some e => (unescape? rest).map (e :: ·)
    | none => none
  | c :: rest => if c.toNat < 0x20 || c == '\\' then none else (unescape? rest).map (c :: ·)

/-! ## The machine -/

/-- What is being read: nothing, a word, or a text, the latter two with their characters so far,
last first. Inside a text the machine knows whether a backslash escapes the next character. -/
inductive Reading where
  | between
  | word (reversed : List Char)
  | text (reversed : List Char) (escaped : Bool)

/-- What a character begins when it continues neither a word nor a text. -/
def opening (c : Char) : List Token × Reading :=
  if isSpace c then ([], .between)
  else if c = '"' then ([], .text [] false)
  else
    match sign? c with
    | some token => ([token], .between)
    | none => ([], .word [c])

/-- Whether a character continues a word. -/
def continuesWord (c : Char) : Bool := !isSpace c && c != '"' && (sign? c).isNone

/-- The tokens of the rest of a document. -/
def scan? : Reading → List Char → Option (List Token)
  | .between, [] => some []
  | .word reversed, [] => (ofWord? reversed.reverse).map fun token => [token]
  | .text _ _, [] => none
  | .between, c :: rest =>
    let (tokens, next) := opening c
    (scan? next rest).map (tokens ++ ·)
  | .word reversed, c :: rest =>
    if continuesWord c then scan? (.word (c :: reversed)) rest
    else do
      let token ← ofWord? reversed.reverse
      let (tokens, next) := opening c
      let more ← scan? next rest
      return token :: tokens ++ more
  | .text reversed escaped, c :: rest =>
    if escaped then scan? (.text (c :: reversed) false) rest
    else if c = '\\' then scan? (.text (c :: reversed) true) rest
    else if c = '"' then do
      let cs ← unescape? reversed.reverse
      let more ← scan? .between rest
      return .text (String.ofList cs) :: more
    else scan? (.text (c :: reversed) false) rest

/-- The tokens of a document. -/
def ofDocument? (document : String) : Option (List Token) := scan? .between document.toList

end Token

end SearchQL
