import Mathlib.Data.List.TakeWhile
import SearchQL.Proofs.MultiValue.RoundTrip
import SearchQL.Value.Token

/-!
# Lexemes — what is written for a name, a number or a text is one token

A document is cut into tokens before anything is known about its structure, so the
first thing that reading owes to writing is that the pieces come apart where they
were put together. Three kinds of pieces are written: signs, words and texts.

A sign is a token wherever it stands (`scan?_of_sign?`). A text ends at its own quote
whatever it holds, because no character is written with a quote that could be taken
for it (`scan?_quotedChars`). A word has no mark at its end: it is one token only if
what follows begins no further part of it (`EndsWord`), which is the case wherever a
document has a comma or a bracket next (`scan?_of_ofWord?`).

An integer of a word, signed or unsigned, is written as its decimal and read as
itself. Doubles are left out here. The reader of documents rounds twice, so not every
double is read as the one that was written.
-/

namespace SearchQL

/-! ## Integers -/

namespace Number

/-- Whether a number is an integer of a word, signed or unsigned. -/
def FitsWord : Number → Prop
  | .integer n => FitsSigned n ∨ FitsUnsigned n
  | .real _ => False

theorem isDigit_of_mem_toDigits {n : Nat} : ∀ c ∈ Nat.toDigits 10 n, c.isDigit = true :=
  fun _ mem => Nat.isDigit_of_mem_toDigits (by decide) (by decide) mem

/-- The digits of a number above zero begin with another digit than zero. -/
theorem exists_toDigits_eq_cons {n : Nat} (pos : n ≠ 0) :
    ∃ first rest, Nat.toDigits 10 n = first :: rest ∧ first ≠ '0' := by
  induction n using Nat.strongRecOn with
  | ind n ih =>
    by_cases single : n < 10
    · have nonzero : ∀ m < 10, m ≠ 0 → Nat.digitChar m ≠ '0' := by decide
      exact ⟨Nat.digitChar n, [], Nat.toDigits_of_lt_base single, nonzero n single pos⟩
    · obtain ⟨first, rest, digits, first_ne⟩ := ih (n / 10) (by omega) (by omega)
      refine ⟨first, rest ++ [Nat.digitChar (n % 10)], ?_, first_ne⟩
      rw [Nat.toDigits_of_base_le (by decide) (by omega), digits]
      rfl

theorem isWholePart_toDigits (n : Nat) : isWholePart (Nat.toDigits 10 n) = true := by
  by_cases zero : n = 0
  · subst zero
    rfl
  · obtain ⟨first, rest, digits, first_ne⟩ := exists_toDigits_eq_cons zero
    rw [digits]
    unfold isWholePart
    split
    · next empty => cases empty
    · next leading => exact absurd (List.cons.inj leading).1 first_ne
    · rfl

theorem readUnsigned?_toDigits (negative : Bool) (n : Nat) :
    readUnsigned? negative (Nat.toDigits 10 n) = whole? negative (Nat.toDigits 10 n) := by
  rw [readUnsigned?, List.takeWhile_eq_self_iff.mpr isDigit_of_mem_toDigits,
    List.dropWhile_eq_nil_iff.mpr isDigit_of_mem_toDigits, if_pos (isWholePart_toDigits n)]

/-- An integer of a word is read as itself. -/
theorem read?_decimal {n : Int} (word : FitsSigned n ∨ FitsUnsigned n) :
    read? (decimal n).toList = some (.integer n) := by
  rw [toList_decimal]
  unfold FitsSigned FitsUnsigned at word
  by_cases neg : n < 0
  · have own : -(n.natAbs : Int) = n := by omega
    have fits : 0 < n.natAbs ∧ FitsSigned (-(n.natAbs : Int)) := by
      unfold FitsSigned
      omega
    rw [if_pos neg, List.singleton_append, read?, readUnsigned?_toDigits, whole?,
      Nat.ofDigitChars_ten_toDigits, if_pos rfl, if_pos fits, own]
  · have own : (n.natAbs : Int) = n := by omega
    have fits : FitsUnsigned (n.natAbs : Int) := by
      unfold FitsUnsigned
      omega
    rw [if_neg neg, List.nil_append]
    unfold read?
    split
    · next sign =>
      have mem : '-' ∈ Nat.toDigits 10 n.natAbs := sign ▸ List.mem_cons_self
      exact absurd (isDigit_of_mem_toDigits '-' mem) (by decide)
    · rw [readUnsigned?_toDigits, whole?, Nat.ofDigitChars_ten_toDigits, if_neg Bool.false_ne_true,
        if_pos fits, own]

end Number

namespace Token

/-! ## Escapes -/

theorem hexValue?_hexDigit {n : Nat} (h : n < 16) : hexValue? (Value.hexDigit n) = some n :=
  (by decide : ∀ m < 16, hexValue? (Value.hexDigit m) = some m) n h

theorem hexCode?_hexDigit {n : Nat} (h : n < 256) :
    hexCode? '0' '0' (Value.hexDigit (n / 16)) (Value.hexDigit (n % 16)) = some n := by
  have zero : hexValue? '0' = some 0 := by decide
  have high : hexValue? (Value.hexDigit (n / 16)) = some (n / 16) := hexValue?_hexDigit (by omega)
  have low : hexValue? (Value.hexDigit (n % 16)) = some (n % 16) := hexValue?_hexDigit (by omega)
  simp only [hexCode?, zero, high, low, Option.bind_eq_bind, Option.bind_some, Option.pure_def]
  congr 1
  omega

/-- An escape whose digits are none is refused, whatever follows. -/
theorem unescape?_of_hexCode?_eq_none {a b c d : Char} (h : hexCode? a b c d = none)
    (rest : List Char) : unescape? ('\\' :: 'u' :: a :: b :: c :: d :: rest) = none := by
  rw [unescape?.eq_def]
  split
  · next empty => cases empty
  · next eq =>
    cases eq
    rw [h]
  · next eq =>
    cases eq
    rw [h]
  · next apart eq =>
    cases eq
    exact absurd rfl (apart _ _ _ _ _ rfl)
  · next apart eq =>
    cases eq
    exact absurd rfl (apart _ _ rfl)

/-- An escape of four digits stands for its character, unless that is half of a pair. The escape that
may follow is looked at together with it, and then read on its own. -/
theorem unescape?_of_hexCode? {a b c d : Char} {code : Nat} (h : hexCode? a b c d = some code)
    (high : isHighSurrogate code = false) (low : isLowSurrogate code = false) (rest : List Char) :
    unescape? ('\\' :: 'u' :: a :: b :: c :: d :: rest) =
      (unescape? rest).map (Char.ofNat code :: ·) := by
  rw [unescape?.eq_def]
  split
  · next empty => cases empty
  · next e f g h' rest eq =>
    cases eq
    cases following : hexCode? e f g h' with
    | none => simp [h, unescape?_of_hexCode?_eq_none following]
    | some second => simp [h, high, low]
  · next eq =>
    cases eq
    simp [h, high, low]
  · next apart eq =>
    cases eq
    exact absurd rfl (apart _ _ _ _ _ rfl)
  · next apart eq =>
    cases eq
    exact absurd rfl (apart _ _ rfl)

theorem unescape?_cons {c : Char} (visible : ¬ c.toNat < 0x20) (ne : c ≠ '\\') (rest : List Char) :
    unescape? (c :: rest) = (unescape? rest).map (c :: ·) := by
  rw [unescape?.eq_def]
  split
  · next empty => cases empty
  · next eq => exact absurd (List.cons.inj eq).1 ne
  · next eq => exact absurd (List.cons.inj eq).1 ne
  · next eq => exact absurd (List.cons.inj eq).1 ne
  · next eq =>
    cases eq
    simp [visible, ne]

/-- What is written for a character is read as the character. -/
theorem unescape?_escapeChar (c : Char) (rest : List Char) :
    unescape? (Value.escapeChar c ++ rest) = (unescape? rest).map (c :: ·) := by
  unfold Value.escapeChar
  split
  · rfl
  · rfl
  · rfl
  · rfl
  · rfl
  · rfl
  · rfl
  · next no_backslash _ _ _ _ _ =>
    split
    · next control =>
      have high : isHighSurrogate c.toNat = false := by
        rw [isHighSurrogate, decide_eq_false (by omega), Bool.false_and]
      have low : isLowSurrogate c.toNat = false := by
        rw [isLowSurrogate, decide_eq_false (by omega), Bool.false_and]
      have read := unescape?_of_hexCode? (hexCode?_hexDigit (by omega)) high low rest
      rwa [Char.ofNat_toNat] at read
    · next visible => exact unescape?_cons visible no_backslash rest

theorem unescape?_flatMap_escapeChar (cs : List Char) :
    unescape? (cs.flatMap Value.escapeChar) = some cs := by
  induction cs with
  | nil => rfl
  | cons c cs ih => rw [List.flatMap_cons, unescape?_escapeChar, ih, Option.map_some]

/-! ## Texts -/

variable {t : Token}

theorem scan?_text_of_plain {c : Char} (plain : c ≠ '\\' ∧ c ≠ '"') (reversed rest : List Char) :
    scan? (.text reversed false) (c :: rest) = scan? (.text (c :: reversed) false) rest := by
  rw [scan?, if_neg Bool.false_ne_true, if_neg plain.1, if_neg plain.2]

theorem scan?_text_of_backslash (c : Char) (reversed rest : List Char) :
    scan? (.text reversed false) ('\\' :: c :: rest) =
      scan? (.text (c :: '\\' :: reversed) false) rest := by
  rw [scan?, if_neg Bool.false_ne_true, if_pos rfl, scan?, if_pos rfl]

theorem hexDigit_plain {n : Nat} (h : n < 16) :
    Value.hexDigit n ≠ '\\' ∧ Value.hexDigit n ≠ '"' :=
  (by decide : ∀ m < 16, Value.hexDigit m ≠ '\\' ∧ Value.hexDigit m ≠ '"') n h

/-- What is written for a character does not end the text it stands in. -/
theorem scan?_text_escapeChar (c : Char) (reversed rest : List Char) :
    scan? (.text reversed false) (Value.escapeChar c ++ rest) =
      scan? (.text ((Value.escapeChar c).reverse ++ reversed) false) rest := by
  unfold Value.escapeChar
  split
  · exact scan?_text_of_backslash _ _ _
  · exact scan?_text_of_backslash _ _ _
  · exact scan?_text_of_backslash _ _ _
  · exact scan?_text_of_backslash _ _ _
  · exact scan?_text_of_backslash _ _ _
  · exact scan?_text_of_backslash _ _ _
  · exact scan?_text_of_backslash _ _ _
  · next no_quote no_backslash _ _ _ _ _ =>
    split
    · next control =>
      have zero : '0' ≠ '\\' ∧ '0' ≠ '"' := by decide
      have high := hexDigit_plain (n := c.toNat / 16) (by omega)
      have low := hexDigit_plain (n := c.toNat % 16) (by omega)
      simp only [List.cons_append, List.nil_append, scan?_text_of_backslash,
        scan?_text_of_plain zero, scan?_text_of_plain high, scan?_text_of_plain low]
      rfl
    · exact scan?_text_of_plain ⟨no_backslash, no_quote⟩ _ _

theorem scan?_text_flatMap_escapeChar (cs reversed rest : List Char) :
    scan? (.text reversed false) (cs.flatMap Value.escapeChar ++ rest) =
      scan? (.text ((cs.flatMap Value.escapeChar).reverse ++ reversed) false) rest := by
  induction cs generalizing reversed with
  | nil => rfl
  | cons c cs ih =>
    rw [List.flatMap_cons, List.append_assoc, scan?_text_escapeChar, ih, List.reverse_append,
      List.append_assoc]

/-- A text in quotes is one token, whatever follows. -/
theorem scan?_quotedChars (s : String) (rest : List Char) :
    scan? .between (Value.quotedChars s ++ rest) = (scan? .between rest).map (.text s :: ·) := by
  have body := scan?_text_flatMap_escapeChar s.toList [] ('"' :: rest)
  rw [List.append_nil] at body
  have closed : scan? (.text (s.toList.flatMap Value.escapeChar).reverse false) ('"' :: rest) =
      (scan? .between rest).map (.text s :: ·) := by
    cases others : scan? .between rest <;>
      simp [scan?, unescape?_flatMap_escapeChar, others]
  rw [Value.quotedChars, List.cons_append, List.cons_append, List.append_assoc,
    List.singleton_append, ← closed, ← body, scan?]
  exact Option.map_id'

/-! ## Signs and words -/

theorem scan?_of_sign? {c : Char} (h : sign? c = some t) (rest : List Char) :
    scan? .between (c :: rest) = (scan? .between rest).map (t :: ·) := by
  unfold sign? at h
  split at h <;> cases h <;> rfl

/-- Whether a word ends before these characters. -/
def EndsWord (rest : List Char) : Prop := ∀ c ∈ rest.head?, continuesWord c = false

/-- A word that ends here is complete, and what follows is read as if nothing stood before it. -/
theorem scan?_word_of_endsWord {rest : List Char} (ends : EndsWord rest) (reversed : List Char) :
    scan? (.word reversed) rest =
      (ofWord? reversed.reverse).bind fun t => (scan? .between rest).map (t :: ·) := by
  cases rest with
  | nil => cases read : ofWord? reversed.reverse <;> simp [scan?, read]
  | cons c rest =>
    have stops : continuesWord c = false := ends c rfl
    cases read : ofWord? reversed.reverse with
    | none => simp [scan?, stops, read]
    | some t => cases others : scan? (opening c).2 rest <;> simp [scan?, stops, read, others]

theorem scan?_word_append {word : List Char} (continues : ∀ c ∈ word, continuesWord c = true)
    (reversed rest : List Char) :
    scan? (.word reversed) (word ++ rest) = scan? (.word (word.reverse ++ reversed)) rest := by
  induction word generalizing reversed with
  | nil => rfl
  | cons c word ih =>
    obtain ⟨first, others⟩ := List.forall_mem_cons.mp continues
    rw [List.cons_append, scan?, if_pos first, ih others, List.reverse_cons, List.append_assoc,
      List.singleton_append]

theorem opening_of_continuesWord {c : Char} (h : continuesWord c = true) :
    opening c = ([], .word [c]) := by
  simp only [continuesWord, Bool.and_eq_true, Bool.not_eq_true', bne_iff_ne, ne_eq,
    Option.isNone_iff_eq_none] at h
  obtain ⟨⟨no_space, no_quote⟩, no_sign⟩ := h
  simp [opening, no_space, no_quote, no_sign]

/-- A word is one token if it ends where it was meant to. -/
theorem scan?_of_ofWord? {word rest : List Char} (read : ofWord? word = some t)
    (continues : ∀ c ∈ word, continuesWord c = true) (some_char : word ≠ [])
    (ends : EndsWord rest) :
    scan? .between (word ++ rest) = (scan? .between rest).map (t :: ·) := by
  obtain ⟨c, others, rfl⟩ := List.exists_cons_of_ne_nil some_char
  obtain ⟨first, continues⟩ := List.forall_mem_cons.mp continues
  have opened : scan? .between (c :: (others ++ rest)) = scan? (.word [c]) (others ++ rest) := by
    rw [scan?, opening_of_continuesWord first]
    exact Option.map_id'
  rw [List.cons_append, opened, scan?_word_append continues, scan?_word_of_endsWord ends,
    List.reverse_append, List.reverse_reverse, List.reverse_singleton, List.singleton_append, read,
    Option.bind_some]

/-! ## Decimals -/

theorem continuesWord_of_isDigit {c : Char} (h : c.isDigit = true) : continuesWord c = true := by
  have ne {d : Char} (other : d.isDigit = false) : c ≠ d := by
    rintro rfl
    exact Bool.false_ne_true (other.symm.trans h)
  have no_sign : sign? c = none := by
    unfold sign?
    split <;> first | rfl | exact absurd h (by decide)
  simp [continuesWord, isSpace, no_sign, ne (d := ' ') rfl, ne (d := '\t') rfl, ne (d := '\n') rfl,
    ne (d := '\r') rfl, ne (d := '"') rfl]

theorem continuesWord_of_mem_decimal {n : Int} {c : Char} (h : c ∈ (Number.decimal n).toList) :
    continuesWord c = true := by
  rcases MultiValue.of_mem_decimal h with rfl | digit
  · decide
  · exact continuesWord_of_isDigit digit

/-- The decimal of an integer of a word is one token. The names that a word may be begin with
letters. -/
theorem ofWord?_decimal {n : Int} (word : Number.FitsSigned n ∨ Number.FitsUnsigned n) :
    ofWord? (Number.decimal n).toList = some (.word (.number (.integer n))) := by
  have first {c : Char} {cs : List Char} (text : (Number.decimal n).toList = c :: cs) :
      c = '-' ∨ c.isDigit = true :=
    MultiValue.of_mem_decimal (text ▸ List.mem_cons_self)
  unfold ofWord?
  split
  · next text => exact absurd (first text) (by decide)
  · next text => exact absurd (first text) (by decide)
  · next text => exact absurd (first text) (by decide)
  · rw [Number.read?_decimal word, Option.map_some]

end Token

end SearchQL
