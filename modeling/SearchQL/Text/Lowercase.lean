import SearchQL.Text.CaseTable

/-!
# Lower case — the full Unicode mapping, final sigma included

The search daemon lower-cases its operators away when match text is relaxed, so
the text is lower-cased here first, by the rules of the Unicode standard:

- a character with a one-character lower-case form becomes that form;
- the capital I with a dot above becomes a small i and a combining dot;
- a capital sigma becomes the final form `ς` at the end of a word and `σ`
  anywhere else. It is at the end of a word when a cased letter comes before it
  and none after it, characters that are case-ignorable being read across.

The walk carries one bit from left to right, whether the nearest character
behind that is not case-ignorable is cased. The look to the right is a search of
the rest of the text, made for a sigma only.
-/

namespace SearchQL.Text

/-- The lower-case form of a character that does not depend on its neighbours. -/
def lowerChar (c : Char) : List Char :=
  if c.toNat < 0x80 then [c.toLower]
  else if c = 'İ' then ['i', '\u0307']
  else
    match caseRuns.findSome? (·.lower? c.toNat) with
    | some code => [Char.ofNat code]
    | none => [c]

/-- Whether the first character that is not case-ignorable is cased. -/
def startsCased (cs : List Char) : Bool :=
  match cs.dropWhile isCaseIgnorable with
  | [] => false
  | c :: _ => isCased c

/-- Lower case of the rest of a text; `afterCased` says whether a cased letter lies behind. -/
def lowerFrom (afterCased : Bool) : List Char → List Char
  | [] => []
  | c :: rest =>
    let lowered :=
      if c = 'Σ' then (if afterCased && !startsCased rest then ['ς'] else ['σ'])
      else lowerChar c
    lowered ++ lowerFrom (if isCaseIgnorable c then afterCased else isCased c) rest

/-- Lower case of a text. -/
def lowercase (cs : List Char) : List Char := lowerFrom false cs

end SearchQL.Text
