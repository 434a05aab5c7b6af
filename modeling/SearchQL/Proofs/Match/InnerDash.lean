import Mathlib.Data.List.Infix
import SearchQL.Proofs.Match.Words

/-!
# Inner dashes — which of them relaxed escaping leaves unescaped

A dash inside a word would be read as an operator, so relaxed escaping puts a
backslash before it. There are two ways in which it misses one.

It leaves a dash alone that has a backslash before it already. That backslash is
never an escape of the dash: it is the second half of a backslash of the
writer's, which the first stage has doubled. The dash behind it stays unescaped,
an even number of backslashes before it.

And it puts a word with an inner dash in quotes, in front of the dash that may
begin the word. Inside a phrase of the writer's the first of the two quotes ends
the phrase, and the dash behind it opens nothing.

`dashesEscaped_relax_iff` says that a dash is missed in no other way.
`DashesEscaped` is about the written text alone and counts backslashes and
quotes; `Spot` is the same condition as a machine with one step per character,
which makes it a matter of one character after the other: lower-casing steps
through the same spots (`passes_recased`), every space leads back to the
beginning of a word (`passes_intercalate`), and a word is passed through beside
the pass that writes it (`passes_relaxWord_iff`).
-/

namespace SearchQL.Match

/-! ## Escaped dashes -/

/-- How many backslashes stand at the end of a text. -/
def backslashesAtEnd (cs : List Char) : Nat := (cs.rtakeWhile (· = '\\')).length

/-- Whether a text ends with a quote that begins a word and opens a phrase. -/
def EndsOpening (cs : List Char) : Prop := lastWord cs = ['"'] ∧ cs.count '"' % 2 = 1

/-- Whether every dash is escaped, by an odd number of backslashes before it, unless it is the first
character of its word or the first one behind an opening quote. -/
def DashesEscaped (cs : List Char) : Prop :=
  ∀ before after, cs = before ++ '-' :: after → lastWord before ≠ [] → ¬ EndsOpening before →
    backslashesAtEnd before % 2 = 1

theorem backslashesAtEnd_concat (cs : List Char) (c : Char) :
    backslashesAtEnd (cs ++ [c]) = if c = '\\' then backslashesAtEnd cs + 1 else 0 := by
  unfold backslashesAtEnd
  split
  · rename_i backslash
    rw [List.rtakeWhile_concat_pos _ _ _ (by simp [backslash]), List.length_append]
    rfl
  · rename_i other
    rw [List.rtakeWhile_concat_neg _ _ _ (by simp [other])]
    rfl

theorem endsOpening_concat (cs : List Char) (c : Char) :
    EndsOpening (cs ++ [c]) ↔ c = '"' ∧ lastWord cs = [] ∧ cs.count '"' % 2 = 0 := by
  unfold EndsOpening
  rw [lastWord_concat, List.count_append]
  by_cases quote : c = '"'
  · subst quote
    have parity : (cs.count '"' + 1) % 2 = 1 ↔ cs.count '"' % 2 = 0 := by omega
    simp [parity]
  · split <;> simp [List.append_eq_singleton_iff, quote]

/-! ## Spots -/

/-- Where a character stands in its word, as far as a dash is concerned. -/
inductive InWord where
  /-- At the beginning. -/
  | first
  /-- Behind a quote that begins the word and opens a phrase. -/
  | opened
  /-- Behind other characters, escaped or not. -/
  | inside (escaped : Bool)
deriving DecidableEq

/-- Where a character stands in its word, and how many quotes stand before it. -/
structure Spot where
  inWord : InWord
  quotes : Nat

namespace Spot

open InWord

/-- Where the next character stands. -/
def step (spot : Spot) (c : Char) : Spot where
  inWord :=
    if c = ' ' then first
    else if c = '\\' then inside (spot.inWord ≠ inside true)
    else if c = '"' ∧ spot.inWord = first ∧ spot.quotes % 2 = 0 then opened
    else inside false
  quotes := if c = '"' then spot.quotes + 1 else spot.quotes

/-- Whether no dash of a text stands unescaped inside its word. -/
def Passes : Spot → List Char → Prop
  | _, [] => True
  | spot, c :: rest => (c = '-' → spot.inWord ≠ inside false) ∧ Passes (spot.step c) rest

variable {spot : Spot} {c : Char}

theorem step_space (spot : Spot) : spot.step ' ' = ⟨first, spot.quotes⟩ := by
  simp [step]

theorem inWord_step_backslash (spot : Spot) :
    (spot.step '\\').inWord = inside (spot.inWord ≠ inside true) := by
  simp [step]

theorem inWord_step_of_ne (not_space : c ≠ ' ') (not_backslash : c ≠ '\\')
    (not_opening : ¬ (c = '"' ∧ spot.inWord = first ∧ spot.quotes % 2 = 0)) :
    (spot.step c).inWord = inside false := by
  rw [step, if_neg not_space, if_neg not_backslash, if_neg not_opening]

theorem quotes_foldl_step (spot : Spot) (cs : List Char) :
    (cs.foldl step spot).quotes = spot.quotes + cs.count '"' := by
  induction cs generalizing spot with
  | nil => rfl
  | cons c cs ih =>
    rw [List.foldl_cons, ih, List.count_cons]
    by_cases quote : c = '"'
    · simp only [step, quote, if_true, beq_self_eq_true]
      omega
    · simp [step, quote]

/-- The spot behind a text tells what stands before it. -/
theorem inWord_foldl_step (cs : List Char) :
    ((cs.foldl step ⟨first, 0⟩).inWord = first ↔ lastWord cs = []) ∧
      ((cs.foldl step ⟨first, 0⟩).inWord = opened ↔ EndsOpening cs) ∧
      ((cs.foldl step ⟨first, 0⟩).inWord = inside true ↔ backslashesAtEnd cs % 2 = 1) := by
  induction cs using List.reverseRecOn with
  | nil => simp [EndsOpening, lastWord, backslashesAtEnd]
  | append_singleton cs c ih =>
    obtain ⟨at_first, -, escaped⟩ := ih
    have counted := quotes_foldl_step ⟨first, 0⟩ cs
    rw [Nat.zero_add] at counted
    rw [List.foldl_append, List.foldl_cons, List.foldl_nil, lastWord_concat,
      endsOpening_concat, backslashesAtEnd_concat]
    -- the cases are those of a step: a space, a backslash, an opening quote, any other character
    by_cases space : c = ' '
    · subst space
      simp [step]
    · by_cases backslash : c = '\\'
      · subst backslash
        have parity : (backslashesAtEnd cs + 1) % 2 = 1 ↔ ¬ backslashesAtEnd cs % 2 = 1 := by omega
        rw [inWord_step_backslash]
        simp [parity, ← escaped]
      · simp only [step, if_neg space, if_neg backslash, counted, at_first]
        split
        · rename_i opening
          simp [opening]
        · rename_i other
          simp [other]

theorem passes_iff (spot : Spot) (cs : List Char) :
    spot.Passes cs ↔
      ∀ before after, cs = before ++ '-' :: after →
        (before.foldl step spot).inWord ≠ inside false := by
  induction cs generalizing spot with
  | nil => simp [Passes]
  | cons c cs ih =>
    rw [Passes, ih]
    constructor
    · rintro ⟨here, later⟩ (_ | ⟨b, before⟩) after eq
      · exact here (List.cons.inj eq).1
      · obtain ⟨rfl, rest⟩ := List.cons.inj eq
        exact later before after rest
    · intro all
      refine ⟨?_, fun before after eq => ?_⟩
      · rintro rfl
        exact all [] cs rfl
      · exact all (c :: before) after (by rw [eq, List.cons_append])

end Spot

/-- Counting in the text and stepping from spot to spot are the same condition. -/
theorem dashesEscaped_iff_passes (cs : List Char) :
    DashesEscaped cs ↔ Spot.Passes ⟨.first, 0⟩ cs := by
  rw [Spot.passes_iff]
  refine forall_congr' fun before => forall_congr' fun after => imp_congr_right fun _ => ?_
  obtain ⟨at_first, at_opened, escaped⟩ := Spot.inWord_foldl_step before
  rw [Ne, ← at_first, ← at_opened, ← escaped]
  cases (before.foldl Spot.step ⟨.first, 0⟩).inWord with
  | first => simp
  | opened => simp
  | inside escaped => cases escaped <;> simp

/-! ## Stepping through the stages -/

namespace Spot

open InWord

theorem passes_append (spot : Spot) (xs ys : List Char) :
    spot.Passes (xs ++ ys) ↔ spot.Passes xs ∧ (xs.foldl step spot).Passes ys := by
  induction xs generalizing spot with
  | nil => simp [Passes]
  | cons c xs ih => simp [Passes, ih, and_assoc]

/-- Words are passed through one by one, each behind the quotes of the words before it. -/
theorem passes_intercalate (words : List (List Char)) (quotes : Nat) :
    Passes ⟨first, quotes⟩ ([' '].intercalate words) ↔
      ∀ ws w after, words = ws ++ w :: after →
        Passes ⟨first, quotes + ws.flatten.count '"'⟩ w := by
  induction words generalizing quotes with
  | nil => simp [Passes]
  | cons w words ih =>
    -- the space behind a word leads back to the beginning of one and keeps the count
    have apart : Passes ⟨first, quotes⟩ ([' '].intercalate (w :: words)) ↔
        Passes ⟨first, quotes⟩ w ∧
          Passes ⟨first, quotes + w.count '"'⟩ ([' '].intercalate words) := by
      cases words with
      | nil => simp [Passes]
      | cons next words =>
        rw [List.intercalate_cons_cons, List.append_assoc, passes_append, List.singleton_append,
          Passes, step_space, quotes_foldl_step]
        simp
    rw [apart, ih]
    constructor
    · rintro ⟨this, those⟩ (_ | ⟨_, ws⟩) x after eq
      · cases eq
        exact this
      · cases eq
        rw [List.flatten_cons, List.count_append, ← Nat.add_assoc]
        exact those ws x after rfl
    · intro all
      refine ⟨all [] w words rfl, fun ws x after eq => ?_⟩
      have within := all (w :: ws) x after (by rw [eq, List.cons_append])
      rwa [List.flatten_cons, List.count_append, ← Nat.add_assoc] at within

theorem step_of_not_isSign (spot : Spot) {c : Char} (h : Text.isSign c = false) :
    spot.step c = ⟨inside false, spot.quotes⟩ := by
  have ne {d : Char} (sign : Text.isSign d = true) : c ≠ d := by
    rintro rfl
    rw [h] at sign
    cases sign
  have not_quote : c ≠ '"' := ne rfl
  rw [step, if_neg (ne rfl), if_neg (ne rfl), if_neg fun opening => not_quote opening.1,
    if_neg not_quote]

/-- Characters that are no signs are passed, and what is behind them stands inside its word. -/
theorem passes_letters {letters : List Char} (some_letter : letters ≠ [])
    (no_sign : ∀ c ∈ letters, Text.isSign c = false) (spot : Spot) (rest : List Char) :
    spot.Passes (letters ++ rest) ↔ Passes ⟨inside false, spot.quotes⟩ rest := by
  induction letters generalizing spot with
  | nil => exact absurd rfl some_letter
  | cons c letters ih =>
    obtain ⟨head, tail⟩ := List.forall_mem_cons.mp no_sign
    have not_dash : c ≠ '-' := by
      rintro rfl
      cases head
    rw [List.cons_append, Passes, step_of_not_isSign spot head]
    cases letters with
    | nil => simp [not_dash]
    | cons d letters =>
      rw [ih (List.cons_ne_nil d letters) tail]
      exact and_iff_right (absurd · not_dash)

/-- Lower case leaves every dash where it stands. -/
theorem passes_recased {xs ys : List Char} (h : Text.Recased xs ys) (spot : Spot) :
    spot.Passes ys ↔ spot.Passes xs := by
  induction h generalizing spot with
  | nil => exact Iff.rfl
  | sign _ _ ih => rw [Passes, Passes, ih]
  | @letter c _ _ _ not_sign some_letter no_sign _ ih =>
    have not_dash : c ≠ '-' := by
      rintro rfl
      cases not_sign
    rw [passes_letters some_letter no_sign, Passes, step_of_not_isSign spot not_sign, ih]
    simp [not_dash]

/-! ## One word -/

variable {spot : Spot} {c : Char}

/-- A dash that is guarded is passed. -/
theorem passes_guarded_dash (unescaped : spot.inWord ≠ inside true) (rest : List Char) :
    spot.Passes ('\\' :: '-' :: rest) ↔ Passes ⟨inside false, spot.quotes⟩ rest := by
  simp [Passes, step, unescaped]

/-- Any other character of a word is passed, guarded or not, if it is no unescaped dash inside the
word. Behind it nothing is escaped, and behind a backslash a dash stands inside. -/
theorem exists_passes_guardChar (unescaped : spot.inWord ≠ inside true) (not_space : c ≠ ' ') :
    ∃ next : Spot, next.inWord ≠ inside true ∧ (c = '\\' → next.inWord = inside false) ∧
      ∀ rest, spot.Passes (guardChar guardedOperators c ++ rest) ↔
        (c = '-' → spot.inWord ≠ inside false) ∧ next.Passes rest := by
  by_cases mem : c ∈ guardedOperators
  · have not_dash : c ≠ '-' := ne_of_mem_of_not_mem mem dash_not_mem_guardedOperators
    have behind : ((spot.step '\\').step c).inWord = inside false := by
      have escaped : (spot.step '\\').inWord = inside true := by
        simp [inWord_step_backslash, unescaped]
      by_cases backslash : c = '\\'
      · simp [backslash, inWord_step_backslash, escaped]
      · exact inWord_step_of_ne not_space backslash (by simp [escaped])
    refine ⟨(spot.step '\\').step c, by simp [behind], fun _ => behind, fun rest => ?_⟩
    simp [guardChar_of_mem mem, Passes, not_dash]
  · have not_backslash : c ≠ '\\' := by
      rintro rfl
      simp [guardedOperators] at mem
    refine ⟨spot.step c, ?_, fun eq => absurd eq not_backslash, fun rest => ?_⟩
    · rw [step, if_neg not_space, if_neg not_backslash]
      split <;> simp
    · rw [guardChar_of_not_mem mem, List.singleton_append, Passes]

end Spot

/-- A pair of characters stands at the beginning of a text or behind its first character. -/
theorem pair_infix_cons {a b c : Char} {cs : List Char} :
    [a, b] <:+: c :: cs ↔ a = c ∧ cs.head? = some b ∨ [a, b] <:+: cs := by
  rw [List.infix_cons_iff, List.cons_prefix_cons]
  cases cs with
  | nil => simp
  | cons d cs => simp [List.cons_prefix_cons, eq_comm (a := b)]

namespace Spot

open InWord

variable {spot : Spot}

/-- Inside a word the writer's backslashes are what lets a dash through. -/
theorem passes_guardDashes_iff {w : List Char} (one_word : ' ' ∉ w) {before : Char}
    (unescaped : spot.inWord ≠ inside true)
    (behind : before = '\\' → spot.inWord = inside false) :
    spot.Passes (guardDashes before (guardOperators w)) ↔ ¬ ['\\', '-'] <:+: before :: w := by
  induction w generalizing spot before with
  | nil => simp [guardOperators, guardDashes, Passes, pair_infix_cons]
  | cons c w ih =>
    obtain ⟨not_space, rest⟩ := List.ne_and_not_mem_of_not_mem_cons one_word
    rw [guardDashes_guardOperators_cons, pair_infix_cons, List.head?_cons, not_or]
    by_cases dash : c = '-'
    · subst dash
      by_cases backslash : before = '\\'
      · -- the dash is taken for an escaped one
        subst backslash
        rw [if_neg (by simp), guardChar_dash]
        simp [Passes, behind rfl]
      · rw [if_pos ⟨rfl, backslash⟩, List.cons_append, List.singleton_append,
          passes_guarded_dash unescaped, ih rest (by simp) (by simp)]
        simp [Ne.symm backslash]
    · obtain ⟨next, next_unescaped, next_behind, passes⟩ :=
        exists_passes_guardChar unescaped (Ne.symm not_space)
      rw [if_neg fun both => dash both.1, passes, ih rest next_unescaped next_behind]
      simp [dash]

/-- So they are in a whole word, but for the dash that may begin it. -/
theorem passes_guardedWord_iff {w : List Char} (one_word : ' ' ∉ w)
    (unescaped : spot.inWord ≠ inside true) :
    spot.Passes (guardedWord w) ↔
      (w.head? = some '-' → spot.inWord ≠ inside false) ∧ ¬ ['\\', '-'] <:+: w := by
  cases w with
  | nil => simp [guardedWord, guardOperators, guardDashes, Passes]
  | cons c w =>
    obtain ⟨not_space, rest⟩ := List.ne_and_not_mem_of_not_mem_cons one_word
    obtain ⟨next, next_unescaped, next_behind, passes⟩ :=
      exists_passes_guardChar unescaped (Ne.symm not_space)
    rw [guardedWord_cons, passes, passes_guardDashes_iff rest next_unescaped next_behind,
      List.head?_cons, Option.some.injEq]

theorem passes_quoted_iff {w : List Char} (one_word : ' ' ∉ w) (quotes : Nat) :
    Passes ⟨first, quotes⟩ ('"' :: guardedWord w ++ ['"']) ↔
      (w.head? = some '-' → quotes % 2 = 0) ∧ ¬ ['\\', '-'] <:+: w := by
  have opening : step ⟨first, quotes⟩ '"' =
      ⟨if quotes % 2 = 0 then opened else inside false, quotes + 1⟩ := by
    simp [step]
  have unescaped : (step ⟨first, quotes⟩ '"').inWord ≠ inside true := by
    rw [opening]
    dsimp only
    split <;> simp
  have exempt : (step ⟨first, quotes⟩ '"').inWord ≠ inside false ↔ quotes % 2 = 0 := by
    rw [opening]
    dsimp only
    split <;> simp [*]
  rw [List.cons_append, Passes, passes_append, passes_guardedWord_iff one_word unescaped, exempt]
  simp [Passes]

/-- The dashes of a word are passed unless one stands behind a backslash, or the word begins with
one and is put in quotes inside a phrase. -/
theorem passes_relaxWord_iff {w : List Char} (one_word : ' ' ∉ w) (quotes : Nat) :
    Passes ⟨first, quotes⟩ (relaxWord w) ↔
      ¬ ['\\', '-'] <:+: w ∧ (w.head? = some '-' → HasInnerDash w → quotes % 2 = 0) := by
  have bare_iff : Passes ⟨first, quotes⟩ (guardedWord w) ↔ _ :=
    passes_guardedWord_iff one_word (by simp)
  have quoted_iff := passes_quoted_iff one_word quotes
  by_cases dash : w.head? = some '-'
  · rcases relaxWord_dash_cases dash with ⟨no_inner, bare⟩ | ⟨inner, quoted⟩
    · rw [bare, bare_iff]
      simp [no_inner]
    · rw [quoted, quoted_iff]
      simp [dash, inner, and_comm]
  · rcases relaxWord_cases w with bare | quoted
    · rw [bare, bare_iff]
      simp [dash]
    · rw [quoted, quoted_iff]
      simp [dash]

end Spot

/-! ## What the writer wrote -/

theorem pair_infix_closeQuotes (cs : List Char) :
    ['\\', '-'] <:+: closeQuotes cs ↔ ['\\', '-'] <:+: cs := by
  have appended : ['\\', '-'] <:+: cs ++ ['"'] ↔ ['\\', '-'] <:+: cs := by
    induction cs with
    | nil => simp [pair_infix_cons]
    | cons c cs ih =>
      rw [List.cons_append, pair_infix_cons, pair_infix_cons, ih]
      cases cs <;> simp
  unfold closeQuotes
  split
  · exact appended
  · exact Iff.rfl

theorem head?_collapseDashes (cs : List Char) : (collapseDashes cs).head? = cs.head? := by
  cases cs with
  | nil => rfl
  | cons c cs =>
    rw [collapseDashes_cons]
    by_cases dash : c = '-'
    · rw [dash, pushCollapsed_dash_eq]
      split
      · rename_i found
        rw [found, List.head?_cons]
      · rfl
    · rw [pushCollapsed_of_ne dash]
      rfl

theorem pair_infix_dropWhile (cs : List Char) :
    ['\\', '-'] <:+: cs.dropWhile Text.isBlank ↔ ['\\', '-'] <:+: cs := by
  induction cs with
  | nil => exact Iff.rfl
  | cons c cs ih =>
    cases blank : Text.isBlank c with
    | true =>
      have not_backslash : '\\' ≠ c := by
        rintro rfl
        cases blank
      rw [List.dropWhile_cons_of_pos blank, ih, pair_infix_cons]
      simp [not_backslash]
    | false => rw [List.dropWhile_cons_of_neg (by simp [blank])]

theorem pair_infix_collapseDashes (cs : List Char) :
    ['\\', '-'] <:+: collapseDashes cs ↔ ['\\', '-'] <:+: cs := by
  induction cs with
  | nil => exact Iff.rfl
  | cons c cs ih =>
    rw [collapseDashes_cons, pair_infix_cons]
    by_cases dash : c = '-'
    · subst dash
      rw [pushCollapsed_dash_eq]
      split
      · simp [pair_infix_dropWhile, ih]
      · simp [pair_infix_cons, ih]
    · rw [pushCollapsed_of_ne dash, pair_infix_cons, head?_collapseDashes, ih]

/-- No space parts a dash from the backslash before it. -/
theorem pair_infix_intercalate (words : List (List Char)) :
    ['\\', '-'] <:+: [' '].intercalate words ↔ ∃ w ∈ words, ['\\', '-'] <:+: w := by
  have spaced (w rest : List Char) :
      ['\\', '-'] <:+: w ++ ' ' :: rest ↔ ['\\', '-'] <:+: w ∨ ['\\', '-'] <:+: rest := by
    induction w with
    | nil => simp [pair_infix_cons]
    | cons c w ih =>
      rw [List.cons_append, pair_infix_cons, pair_infix_cons, ih, or_assoc]
      cases w <;> simp
  induction words with
  | nil => simp
  | cons w words ih =>
    cases words with
    | nil => simp
    | cons next words =>
      rw [List.intercalate_cons_cons, List.append_assoc, List.singleton_append, spaced,
        List.exists_mem_cons_iff]
      exact or_congr_right ih

theorem exists_pair_infix_words (cs : List Char) :
    (∃ w ∈ words cs, ['\\', '-'] <:+: w) ↔ ['\\', '-'] <:+: cs := by
  rw [words, ← pair_infix_intercalate, List.intercalate_splitOn, pair_infix_collapseDashes,
    pair_infix_closeQuotes]

theorem count_quote_flatten_relaxWord (ws : List (List Char)) :
    (ws.map relaxWord).flatten.count '"' % 2 = ws.flatten.count '"' % 2 := by
  induction ws with
  | nil => rfl
  | cons w ws ih =>
    rw [List.map_cons, List.flatten_cons, List.flatten_cons, List.count_append, List.count_append,
      Nat.add_mod, count_quote_relaxWord, ih, ← Nat.add_mod]

/-- **A dash is missed behind a backslash of the writer's and, inside a phrase of the writer's, at
the beginning of a word with an inner dash; and nowhere else.** -/
theorem dashesEscaped_relax_iff (text : String) :
    DashesEscaped (relax text).toList ↔
      ¬ ['\\', '-'] <:+: text.toList ∧
        ∀ ws w after, words text.toList = ws ++ ('-' :: w) :: after → HasInnerDash ('-' :: w) →
          ws.flatten.count '"' % 2 = 0 := by
  rw [relax, String.toList_ofList, relaxChars_eq, dashesEscaped_iff_passes,
    Spot.passes_recased (Text.recased_lowercase _), Spot.passes_intercalate,
    ← exists_pair_infix_words]
  constructor
  · intro passes
    have each : ∀ ws w after, words text.toList = ws ++ w :: after →
        ¬ ['\\', '-'] <:+: w ∧
          (w.head? = some '-' → HasInnerDash w → ws.flatten.count '"' % 2 = 0) := by
      intro ws w after cut
      have one_word : ' ' ∉ w :=
        space_not_mem_of_mem_words (cut ▸ List.mem_append_right ws List.mem_cons_self)
      have word := passes (ws.map relaxWord) (relaxWord w) (after.map relaxWord) (by simp [cut])
      rwa [Nat.zero_add, Spot.passes_relaxWord_iff one_word, count_quote_flatten_relaxWord] at word
    refine ⟨?_, fun ws w after cut => (each ws ('-' :: w) after cut).2 rfl⟩
    rintro ⟨w, mem, pair⟩
    obtain ⟨ws, after, cut⟩ := List.append_of_mem mem
    exact (each ws w after cut).1 pair
  · rintro ⟨no_pair, in_quotes⟩ _ _ _ written
    obtain ⟨ws, _, cut, rfl, behind⟩ := List.map_eq_append_iff.mp written
    obtain ⟨w, after, rfl, rfl, rfl⟩ := List.map_eq_cons_iff.mp behind
    have mem : w ∈ words text.toList := cut ▸ List.mem_append_right ws List.mem_cons_self
    rw [Nat.zero_add, Spot.passes_relaxWord_iff (space_not_mem_of_mem_words mem),
      count_quote_flatten_relaxWord]
    refine ⟨fun pair => no_pair ⟨w, mem, pair⟩, fun dash inner => ?_⟩
    obtain ⟨v, rfl⟩ := List.head?_eq_some_iff.mp dash
    exact in_quotes ws v after cut inner

/-- The quotes put around a word end the phrase that the word stands in. -/
example : relax "\"foo -bar-baz\"" = "\"foo \"-bar\\-baz\"\"" := by decide +kernel

/-- The dash of a word has two backslashes before it and is an operator. -/
theorem not_dashesEscaped_backslash :
    relax "a\\-b" = "a\\\\-b" ∧ ¬ DashesEscaped (relax "a\\-b").toList := by
  have written : relax "a\\-b" = "a\\\\-b" := by decide +kernel
  refine ⟨written, fun escaped => ?_⟩
  rw [written] at escaped
  exact absurd (escaped ['a', '\\', '\\'] ['b'] rfl (by decide) (fun h => absurd h.1 (by decide)))
    (by decide)

end SearchQL.Match
