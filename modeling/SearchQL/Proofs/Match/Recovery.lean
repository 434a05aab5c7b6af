import SearchQL.Proofs.Match.Grouping

/-!
# Recovery — fully escaped terms can be read back

Full escaping loses nothing. Resolving the escapes of an escaped text gives the
text, and none of its operators stands plain. A whole match expression is then
as good as the list of terms it was made from: `termOf` reads one group back to
its term, `terms?` an expression to its terms, and two lists of terms with one
expression are one list.

The argument needs nothing of the texts, since an escaped text has no plain `@`
that a selector could be taken for and no plain parenthesis that could end its
group. It does need something of the field names, which are pasted as they are:
a name must not be empty, since a list of one empty name is written like a list
of none, and must not hold what a selector puts around it or what an escape is
made of.
-/

namespace SearchQL

open Match

/-! ## Escaped text -/

namespace Match

/-- The character of a glyph. -/
def Glyph.char : Glyph → Char
  | plain c => c
  | escaped c => c

/-- How a character that stands for itself is read. -/
def Glyph.literal (c : Char) : Glyph := if c ∈ operators then escaped c else plain c

@[simp]
theorem Glyph.char_literal (c : Char) : (literal c).char = c := by
  unfold literal
  split <;> rfl

theorem Glyph.literal_ne_plain {operator : Char} (mem : operator ∈ operators) (c : Char) :
    literal c ≠ plain operator := by
  unfold literal
  split
  · nofun
  · rename_i not_operator
    rintro ⟨⟩
    exact not_operator mem

theorem Glyph.plain_not_mem_map_literal {operator : Char} (mem : operator ∈ operators)
    (cs : List Char) : plain operator ∉ cs.map literal := by
  intro found
  obtain ⟨c, -, eq⟩ := List.mem_map.mp found
  exact literal_ne_plain mem c eq

theorem Glyph.map_char_literal (cs : List Char) : (cs.map literal).map char = cs := by
  simp [Function.comp_def]

theorem Glyph.map_char_plain (cs : List Char) : (cs.map plain).map char = cs := by
  simp [Function.comp_def, char]

/-- An escaped text is read character by character, its operators all escaped. -/
theorem read?_escapeChars (cs : List Char) :
    read? (escapeChars cs) = some (cs.map Glyph.literal) := by
  induction cs with
  | nil => rfl
  | cons c cs ih =>
    rw [escapeChars, List.flatMap_cons, List.map_cons, guardChar, Glyph.literal]
    split
    · exact read?_escaped ih
    · rename_i not_operator
      have not_backslash : c ≠ '\\' := by
        rintro rfl
        exact not_operator (by decide)
      exact read?_plain not_backslash ih

end Match

/-! ## Selectors -/

namespace MatchTarget

/-- What a selector puts around its names, and the backslash. -/
def reserved : List Char := ['(', ')', ',', '\\']

/-- Whether every field of a target has a name that can be told from the selector around it. -/
def IsReadable (target : MatchTarget) : Prop :=
  ∀ field ∈ target.fields,
    field ≠ "" ∧ ∀ c ∈ field.toList, Text.isBlank c = false ∧ c ∉ reserved

instance (target : MatchTarget) : Decidable target.IsReadable :=
  decidable_of_iff
    (target.fields.all (fun field =>
      field != "" && field.toList.all fun c => !Text.isBlank c && !reserved.elem c) = true)
    (by simp [IsReadable])

variable {target : MatchTarget}

theorem IsReadable.unparenthesised (readable : target.IsReadable) :
    ∀ field ∈ target.fields, ∀ c ∈ field.toList, c ∉ ['(', ')'] := by
  have parentheses : ['(', ')'] ⊆ reserved := by decide
  exact fun field hf c hc mem => ((readable field hf).2 c hc).2 (parentheses mem)

theorem IsReadable.not_mem_field (readable : target.IsReadable) {c : Char} (mem : c ∈ reserved) :
    ∀ field ∈ target.fields, c ∉ field.toList :=
  fun field hf hc => ((readable field hf).2 c hc).2 mem

theorem IsReadable.space_not_mem_field (readable : target.IsReadable) :
    ∀ field ∈ target.fields, ' ' ∉ field.toList := by
  intro field hf hc
  have not_blank := ((readable field hf).2 ' ' hc).1
  exact absurd not_blank (by decide)

/-- No list of readable names holds a reserved character but the commas between the names. -/
theorem IsReadable.not_mem_names {fields : List String} (readable : (many fields).IsReadable)
    {c : Char} (mem : c ∈ reserved) (not_comma : c ≠ ',') :
    c ∉ [','].intercalate (fields.map String.toList) := by
  intro found
  have apart : ∀ d ∈ [','].intercalate (fields.map String.toList), d ≠ c :=
    forall_mem_names not_comma.symm fun field hf d hd eq =>
      readable.not_mem_field mem field hf (eq ▸ hd)
  exact apart c found rfl

/-- The selector of a readable target holds no escape. -/
theorem IsReadable.backslash_not_mem_selector (readable : target.IsReadable) :
    '\\' ∉ target.selector.toList := by
  cases target with
  | all => exact List.not_mem_nil
  | one field =>
    have absent := readable.not_mem_field (c := '\\') (by decide) field List.mem_cons_self
    rw [toList_selector_one]
    simp [absent]
  | many fields =>
    have absent := readable.not_mem_names (c := '\\') (by decide) (by decide)
    rw [toList_selector_many]
    simp [absent]

end MatchTarget

/-! ## Reading a group back -/

namespace MatchTerm

/-- The text of glyphs, their escapes resolved. -/
def textOf (glyphs : List Glyph) : String := String.ofList (glyphs.map Glyph.char)

/-- The names of a list of fields. -/
def fieldsOf (names : List Glyph) : List String :=
  if names.isEmpty then [] else ((names.map Glyph.char).splitOn ',').map String.ofList

/-- The fully escaped term of a group. A plain `@` begins a selector, which a list of names in
parentheses or a single name follows; a space ends it. -/
def termOf : List Glyph → MatchTerm
  | .plain '@' :: .plain '(' :: rest =>
    ⟨.many (fieldsOf (rest.takeWhile (· ≠ .plain ')'))),
      textOf ((rest.dropWhile (· ≠ .plain ')')).drop 2), false⟩
  | .plain '@' :: rest =>
    ⟨.one (textOf (rest.takeWhile (· ≠ .plain ' '))),
      textOf ((rest.dropWhile (· ≠ .plain ' ')).drop 1), false⟩
  | body => ⟨.all, textOf body, false⟩

/-- The fully escaped terms of an expression. -/
def terms? (text : String) : Option (List MatchTerm) := (groups? text).map (·.map termOf)

/-- What a reader finds in the group of a fully escaped term. -/
def body (term : MatchTerm) : List Glyph :=
  term.target.selector.toList.map .plain ++ term.text.toList.map .literal

theorem textOf_map_plain (text : String) : textOf (text.toList.map .plain) = text := by
  rw [textOf, Glyph.map_char_plain, String.ofList_toList]

theorem textOf_map_literal (text : String) : textOf (text.toList.map .literal) = text := by
  rw [textOf, Glyph.map_char_literal, String.ofList_toList]

/-- Names that are not empty and hold no comma are told apart by the commas between them. -/
theorem fieldsOf_names {fields : List String} (readable : (MatchTarget.many fields).IsReadable) :
    fieldsOf (([','].intercalate (fields.map String.toList)).map .plain) = fields := by
  cases fields with
  | nil => rfl
  | cons field fields =>
    have nonempty : [','].intercalate ((field :: fields).map String.toList) ≠ [] := by
      have named : field.toList ≠ [] := fun eq =>
        (readable field List.mem_cons_self).1 (String.toList_eq_nil_iff.mp eq)
      cases fields with
      | nil =>
        rw [List.map_singleton, List.intercalate_singleton]
        exact named
      | cons next fields =>
        rw [List.map_cons, List.map_cons, List.intercalate_cons_cons, List.append_assoc]
        exact List.append_ne_nil_of_left_ne_nil named _
    have uncomma : ∀ part ∈ (field :: fields).map String.toList, ',' ∉ part := by
      intro part mem
      obtain ⟨name, hn, rfl⟩ := List.mem_map.mp mem
      exact readable.not_mem_field (by decide) name hn
    rw [fieldsOf, if_neg (by simpa using nonempty), Glyph.map_char_plain,
      List.splitOn_intercalate ',' uncomma (by simp)]
    simp [Function.comp_def]

/-- A run of plain characters ends at the first plain mark. -/
theorem takeWhile_mark {mark : Char} {names : List Char} (absent : mark ∉ names)
    (rest : List Glyph) :
    (names.map Glyph.plain ++ .plain mark :: rest).takeWhile (· ≠ .plain mark) =
        names.map Glyph.plain ∧
      (names.map Glyph.plain ++ .plain mark :: rest).dropWhile (· ≠ .plain mark) =
        .plain mark :: rest := by
  have before : ∀ g ∈ names.map Glyph.plain, decide (g ≠ .plain mark) = true := by
    intro g mem
    obtain ⟨c, hc, rfl⟩ := List.mem_map.mp mem
    exact decide_eq_true fun eq => absent (Glyph.plain.inj eq ▸ hc)
  rw [List.takeWhile_append_of_pos before, List.dropWhile_append_of_pos before,
    List.takeWhile_cons_of_neg (by simp), List.dropWhile_cons_of_neg (by simp), List.append_nil]
  exact ⟨rfl, rfl⟩

theorem termOf_of_head?_ne {glyphs : List Glyph} (h : glyphs.head? ≠ some (.plain '@')) :
    termOf glyphs = ⟨.all, textOf glyphs, false⟩ := by
  refine termOf.eq_3 glyphs (fun rest eq => h ?_) fun rest eq => h ?_
  · rw [eq, List.head?_cons]
  · rw [eq, List.head?_cons]

theorem termOf_mark_of_head?_ne {glyphs : List Glyph} (h : glyphs.head? ≠ some (.plain '(')) :
    termOf (.plain '@' :: glyphs) =
      ⟨.one (textOf (glyphs.takeWhile (· ≠ .plain ' '))),
        textOf ((glyphs.dropWhile (· ≠ .plain ' ')).drop 1), false⟩ := by
  refine termOf.eq_2 glyphs fun rest eq => h ?_
  rw [eq, List.head?_cons]

/-- A group is read back to its term. -/
theorem termOf_body {term : MatchTerm} (full : term.relaxed = false)
    (readable : term.target.IsReadable) : termOf term.body = term := by
  obtain ⟨target, text, relaxed⟩ := term
  cases full
  cases target with
  | all =>
    -- an escaped text begins with no plain `@`
    have unmarked : (text.toList.map Glyph.literal).head? ≠ some (.plain '@') := fun eq =>
      Glyph.plain_not_mem_map_literal (by decide) _ (List.mem_of_head? eq)
    calc termOf (text.toList.map Glyph.literal)
        = ⟨.all, textOf (text.toList.map .literal), false⟩ := termOf_of_head?_ne unmarked
      _ = ⟨.all, text, false⟩ := by rw [textOf_map_literal]
  | one field =>
    have unopened : Glyph.plain '(' ∉
        field.toList.map Glyph.plain ++ .plain ' ' :: text.toList.map .literal := by
      have outside := readable.not_mem_field (c := '(') (by decide) field List.mem_cons_self
      have within : Glyph.plain '(' ∉ text.toList.map Glyph.literal :=
        Glyph.plain_not_mem_map_literal (by decide) _
      simp [outside, within]
    obtain ⟨name, rest⟩ := takeWhile_mark (readable.space_not_mem_field field List.mem_cons_self)
      (text.toList.map .literal)
    rw [body, MatchTarget.toList_selector_one, List.map_cons, List.map_append, List.cons_append,
      List.append_assoc]
    refine (termOf_mark_of_head?_ne fun eq => unopened (List.mem_of_head? eq)).trans ?_
    rw [name, rest, textOf_map_plain, List.drop_one, List.tail_cons, textOf_map_literal]
  | many fields =>
    obtain ⟨names, rest⟩ := takeWhile_mark
      (readable.not_mem_names (c := ')') (by decide) (by decide))
      (.plain ' ' :: text.toList.map .literal)
    rw [body, MatchTarget.toList_selector_many, List.map_cons, List.map_cons, List.map_append,
      List.cons_append, List.cons_append, List.append_assoc]
    refine (termOf.eq_1 _).trans ?_
    rw [List.map_cons, List.map_singleton, List.cons_append, List.singleton_append, names, rest,
      fieldsOf_names readable, List.drop_succ_cons, List.drop_succ_cons, List.drop_zero,
      textOf_map_literal]

/-! ## Reading an expression back -/

theorem read?_inner {term : MatchTerm} (full : term.relaxed = false)
    (readable : term.target.IsReadable) : read? term.inner.toList = some term.body := by
  rw [inner, full, String.toList_append, escape, if_neg Bool.false_ne_true, String.toList_ofList]
  exact read?_append (read?_map_plain readable.backslash_not_mem_selector) (read?_escapeChars _)

theorem balanced_body {term : MatchTerm} (readable : term.target.IsReadable) :
    Balanced term.body :=
  (MatchTarget.balanced_selector readable.unparenthesised).append
    (balanced_of_not_mem (Glyph.plain_not_mem_map_literal (by decide) _)
      (Glyph.plain_not_mem_map_literal (by decide) _))

/-- Whether a term is fully escaped and its fields can be told apart. -/
def IsRecoverable (term : MatchTerm) : Prop := term.relaxed = false ∧ term.target.IsReadable

instance (term : MatchTerm) : Decidable term.IsRecoverable :=
  inferInstanceAs (Decidable (term.relaxed = false ∧ term.target.IsReadable))

/-- The terms that an expression was made from; without an expression there are none. -/
def recover? : Option String → Option (List MatchTerm)
  | none => some []
  | some text => terms? text

/-- An expression is read back to its terms. -/
theorem recover?_expression? {terms : List MatchTerm} (h : ∀ term ∈ terms, term.IsRecoverable) :
    recover? (expression? terms) = some terms := by
  by_cases empty : terms = []
  · rw [empty]
    rfl
  · have bodies : List.Forall₂
        (fun term body => read? term.inner.toList = some body ∧ Balanced body)
        terms (terms.map body) := by
      rw [List.forall₂_map_right_iff, List.forall₂_same]
      intro term mem
      exact ⟨read?_inner (h term mem).1 (h term mem).2, balanced_body (h term mem).2⟩
    obtain ⟨glyphs, read, grouped⟩ := exists_read?_spaced empty bodies
    have restored : terms.map (termOf ∘ body) = terms :=
      (List.map_congr_left fun term mem => termOf_body (h term mem).1 (h term mem).2).trans
        (List.map_id' terms)
    rw [expression?_of_ne_nil empty, recover?, terms?, groups?, toList_groups, read,
      Option.bind_some, grouped, Option.map_some, List.map_map, restored]

end MatchTerm

end SearchQL
