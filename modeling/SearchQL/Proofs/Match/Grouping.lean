import SearchQL.Match.Term
import SearchQL.Proofs.Match.Confined
import SearchQL.Proofs.Text.Joined
import Mathlib.Data.List.Forall2

/-!
# Grouping — one group per term, whatever its text

The match expression of a list of terms is read back as one group per term, in
the order of the terms. `IsGroupOf` says what the reader finds in the group of a
term: the selector in front, no parenthesis but those of the selector's list, no
`@` but the selector's own, and an even number of quotes. The field names must
hold no delimiter; about the texts nothing is assumed, and terms of both
escapings may stand side by side.

The trimming of the whole expression is no part of the argument
(`MatchTerm.expression?_of_ne_nil`).
-/

namespace SearchQL

open Match

/-- An element that stands once is found at one place. -/
theorem getElem?_eq_some_iff_of_not_mem {α : Type} {a : α} {xs ys : List α} (hx : a ∉ xs)
    (hy : a ∉ ys) (i : Nat) : (xs ++ a :: ys)[i]? = some a ↔ i = xs.length := by
  constructor
  · intro found
    rcases Nat.lt_trichotomy i xs.length with before | here | behind
    · rw [List.getElem?_append_left before] at found
      exact absurd (List.mem_of_getElem? found) hx
    · exact here
    · rw [List.getElem?_append_right (by omega), List.getElem?_cons, if_neg (by omega)] at found
      exact absurd (List.mem_of_getElem? found) hy
  · rintro rfl
    rw [List.getElem?_append_right (Nat.le_refl _), Nat.sub_self, List.getElem?_cons_zero]

/-! ## Selectors -/

namespace MatchTarget

/-- The names that a selector pastes. -/
def fields : MatchTarget → List String
  | all => []
  | one field => [field]
  | many fields => fields

/-- Whether the fields are written as a list in parentheses. -/
def isMany : MatchTarget → Bool
  | many _ => true
  | _ => false

/-- Whether the fields of a target hold no delimiter. -/
def IsClean (target : MatchTarget) : Prop :=
  ∀ field ∈ target.fields, ∀ c ∈ field.toList, c ∉ delimiters

theorem toList_selector_one (field : String) :
    (one field).selector.toList = '@' :: (field.toList ++ [' ']) := by
  simp only [selector, String.toList_append]
  rfl

theorem toList_selector_many (fields : List String) :
    (many fields).selector.toList =
      '@' :: '(' :: ([','].intercalate (fields.map String.toList) ++ [')', ' ']) := by
  simp only [selector, String.toList_append, String.toList_intercalate]
  rfl

/-- What holds of the characters of every field and of the comma holds of the list of fields. -/
theorem forall_mem_names {P : Char → Prop} (comma : P ',') {fields : List String}
    (within : ∀ field ∈ fields, ∀ c ∈ field.toList, P c) :
    ∀ c ∈ [','].intercalate (fields.map String.toList), P c := by
  refine forall_mem_intercalate comma fun part mem => ?_
  obtain ⟨field, hf, rfl⟩ := List.mem_map.mp mem
  exact within field hf

theorem names_of_many {fields : List String} (clean : (many fields).IsClean) :
    ∀ c ∈ [','].intercalate (fields.map String.toList), c ∉ delimiters :=
  forall_mem_names (by decide) clean

theorem names_of_one {field : String} (clean : (one field).IsClean) :
    ∀ c ∈ field.toList, c ∉ delimiters :=
  clean field List.mem_cons_self

variable {target : MatchTarget}

/-- Of the delimiters a selector holds its own only. -/
theorem of_mem_selector (clean : target.IsClean) {c : Char}
    (mem : c ∈ target.selector.toList) : c ∈ ['@', '(', ')'] ∨ c ∉ delimiters := by
  cases target with
  | all => cases mem
  | one field =>
    rw [toList_selector_one] at mem
    rcases List.mem_cons.mp mem with rfl | mem
    · exact .inl (by decide)
    · rcases List.mem_append.mp mem with mem | mem
      · exact .inr (names_of_one clean c mem)
      · rw [List.mem_singleton.mp mem]
        exact .inr (by decide)
  | many fields =>
    rw [toList_selector_many] at mem
    rcases List.mem_cons.mp mem with rfl | mem
    · exact .inl (by decide)
    rcases List.mem_cons.mp mem with rfl | mem
    · exact .inl (by decide)
    rcases List.mem_append.mp mem with mem | mem
    · exact .inr (names_of_many clean c mem)
    rcases List.mem_cons.mp mem with rfl | mem
    · exact .inl (by decide)
    · rw [List.mem_singleton.mp mem]
      exact .inr (by decide)

/-- The only opening parenthesis of a selector is that of its list. -/
theorem opened_selector (clean : target.IsClean) (i : Nat) :
    target.selector.toList[i]? = some '(' ↔ target.isMany = true ∧ i = 1 := by
  cases target with
  | all => exact iff_of_false nofun nofun
  | one field =>
    have absent : '(' ∉ field.toList := fun mem => names_of_one clean _ mem (by decide)
    refine iff_of_false (fun found => ?_) nofun
    have mem := List.mem_of_getElem? found
    rw [toList_selector_one] at mem
    simp [absent] at mem
  | many fields =>
    have absent : '(' ∉ [','].intercalate (fields.map String.toList) :=
      fun mem => names_of_many clean _ mem (by decide)
    rw [toList_selector_many, ← List.singleton_append,
      getElem?_eq_some_iff_of_not_mem (by decide) (by simp [absent])]
    exact (and_iff_right rfl).symm

/-- The only closing parenthesis of a selector is that of its list. -/
theorem closed_selector (clean : target.IsClean) (i : Nat) :
    target.selector.toList[i]? = some ')' ↔
      target.isMany = true ∧ i + 2 = target.selector.length := by
  cases target with
  | all => exact iff_of_false nofun nofun
  | one field =>
    have absent : ')' ∉ field.toList := fun mem => names_of_one clean _ mem (by decide)
    refine iff_of_false (fun found => ?_) nofun
    have mem := List.mem_of_getElem? found
    rw [toList_selector_one] at mem
    simp [absent] at mem
  | many fields =>
    have absent : ')' ∉ [','].intercalate (fields.map String.toList) :=
      fun mem => names_of_many clean _ mem (by decide)
    rw [← String.length_toList, toList_selector_many, ← List.cons_append, ← List.cons_append,
      getElem?_eq_some_iff_of_not_mem (by simp [absent]) (by decide), List.length_append]
    refine Iff.trans ?_ (and_iff_right rfl).symm
    exact Nat.add_right_cancel_iff.symm

/-- The only `@` of a selector is its first character. -/
theorem marked_selector (clean : target.IsClean) (i : Nat) :
    target.selector.toList[i]? = some '@' ↔ target ≠ .all ∧ i = 0 := by
  cases target with
  | all => exact iff_of_false nofun fun both => both.1 rfl
  | one field =>
    have absent : '@' ∉ field.toList := fun mem => names_of_one clean _ mem (by decide)
    rw [toList_selector_one, ← List.nil_append ('@' :: _),
      getElem?_eq_some_iff_of_not_mem List.not_mem_nil (by simp [absent])]
    exact (and_iff_right nofun).symm
  | many fields =>
    have absent : '@' ∉ [','].intercalate (fields.map String.toList) :=
      fun mem => names_of_many clean _ mem (by decide)
    rw [toList_selector_many, ← List.nil_append ('@' :: _),
      getElem?_eq_some_iff_of_not_mem List.not_mem_nil (by simp [absent])]
    exact (and_iff_right nofun).symm

/-- Plain characters that are no parentheses leave a reader as deep as it was. -/
theorem balanced_map_plain {names : List Char} (free : ∀ c ∈ names, c ∉ ['(', ')']) :
    Balanced (names.map .plain) := by
  have absent {d : Char} (hd : d ∈ ['(', ')']) : Glyph.plain d ∉ names.map .plain := by
    intro mem
    obtain ⟨c, hc, eq⟩ := List.mem_map.mp mem
    exact free c hc (Glyph.plain.inj eq ▸ hd)
  exact balanced_of_not_mem (absent (by decide)) (absent (by decide))

/-- The parentheses of a selector match if no field holds one. -/
theorem balanced_selector (free : ∀ field ∈ target.fields, ∀ c ∈ field.toList, c ∉ ['(', ')']) :
    Balanced (target.selector.toList.map .plain) := by
  have mark : Balanced [.plain '@'] := balanced_of_not_mem (by decide) (by decide)
  have space : Balanced [.plain ' '] := balanced_of_not_mem (by decide) (by decide)
  cases target with
  | all => exact balanced_of_not_mem List.not_mem_nil List.not_mem_nil
  | one field =>
    rw [toList_selector_one, List.map_cons, List.map_append]
    exact mark.append ((balanced_map_plain (free field List.mem_cons_self)).append space)
  | many fields =>
    rw [toList_selector_many]
    have names : ∀ c ∈ [','].intercalate (fields.map String.toList), c ∉ ['(', ')'] :=
      forall_mem_names (by decide) free
    have list := (balanced_map_plain names).parenthesised
    have whole := mark.append (list.append space)
    simpa only [List.map_cons, List.map_append, List.map_nil, List.cons_append, List.append_assoc,
      List.nil_append] using whole

/-- A target without delimiters in its fields has no parentheses in them. -/
theorem IsClean.unparenthesised (clean : target.IsClean) :
    ∀ field ∈ target.fields, ∀ c ∈ field.toList, c ∉ ['(', ')'] := by
  have parentheses : ['(', ')'] ⊆ delimiters := by decide
  exact fun field hf c hc mem => clean field hf c hc (parentheses mem)

end MatchTarget

/-! ## Bodies -/

namespace MatchTerm

/-- What stands between the parentheses of a term's group. -/
def inner (term : MatchTerm) : String :=
  term.target.selector ++ if term.relaxed then relax term.text else escape term.text

theorem group_eq (term : MatchTerm) : term.group = "(" ++ term.inner ++ ")" := by
  rw [group, inner, ← String.append_assoc]

/-- What a reader finds in the group of a term. -/
structure IsGroupOf (term : MatchTerm) (body : List Glyph) : Prop where
  /-- The group is read by itself: no escape reaches over its end. -/
  read : read? term.inner.toList = some body
  /-- The selector stands in front. -/
  selected : term.target.selector.toList.map .plain <+: body
  /-- A plain parenthesis opens the list of fields, behind the `@`. -/
  opened (i : Nat) : body[i]? = some (.plain '(') ↔ term.target.isMany = true ∧ i = 1
  /-- A plain parenthesis closes the list of fields, before the last space of the selector. -/
  closed (i : Nat) : body[i]? = some (.plain ')') ↔
    term.target.isMany = true ∧ i + 2 = term.target.selector.length
  /-- A plain `@` begins the selector. -/
  marked (i : Nat) : body[i]? = some (.plain '@') ↔ term.target ≠ .all ∧ i = 0
  /-- Plain quotes come in pairs. -/
  quoted : body.count (.plain '"') % 2 = 0

/-- The escaped text of a term is read to its end and adds no delimiter but pairs of quotes. -/
theorem exists_read?_text (term : MatchTerm) :
    ∃ value,
      read? (if term.relaxed then relax term.text else escape term.text).toList = some value ∧
        (∀ c ∈ ['(', ')', '@'], Glyph.plain c ∉ value) ∧ value.count (.plain '"') % 2 = 0 := by
  cases term.relaxed with
  | true =>
    rw [if_pos rfl, relax, String.toList_ofList]
    exact (confined_relaxChars term.text.toList).exists_read?
  | false =>
    rw [if_neg Bool.false_ne_true, escape, String.toList_ofList]
    exact (confined_escapeChars term.text.toList).exists_read?

/-- A character that the text does not hold plain stands where the selector has it. -/
theorem getElem?_map_plain_append {selector : List Char} {value : List Glyph} {c : Char}
    (absent : Glyph.plain c ∉ value) (i : Nat) :
    (selector.map .plain ++ value)[i]? = some (.plain c) ↔ selector[i]? = some c := by
  rw [List.getElem?_append, List.length_map]
  split
  · rw [List.getElem?_map, Option.map_eq_some_iff]
    constructor
    · rintro ⟨d, found, eq⟩
      rw [found, Glyph.plain.inj eq]
    · intro found
      exact ⟨c, found, rfl⟩
  · rename_i behind
    rw [List.getElem?_eq_none (Nat.le_of_not_lt behind)]
    exact iff_of_false (fun found => absent (List.mem_of_getElem? found)) nofun

/-- The body of a group is the selector, all plain, and the glyphs of the escaped text. -/
theorem exists_isGroupOf {term : MatchTerm} (clean : term.target.IsClean) :
    ∃ body, IsGroupOf term body ∧ Balanced body := by
  obtain ⟨value, read, quiet, even⟩ := term.exists_read?_text
  have no_backslash : '\\' ∉ term.target.selector.toList := fun mem =>
    (MatchTarget.of_mem_selector clean mem).elim (by decide) (by decide)
  have no_quote : Glyph.plain '"' ∉ term.target.selector.toList.map .plain := by
    intro mem
    obtain ⟨c, hc, eq⟩ := List.mem_map.mp mem
    cases eq
    exact (MatchTarget.of_mem_selector clean hc).elim (by decide) (by decide)
  refine ⟨term.target.selector.toList.map .plain ++ value, ?_, ?_⟩
  · constructor
    · rw [inner, String.toList_append]
      exact read?_append (read?_map_plain no_backslash) read
    · exact List.prefix_append _ _
    · intro i
      rw [getElem?_map_plain_append (quiet _ (by decide)), MatchTarget.opened_selector clean]
    · intro i
      rw [getElem?_map_plain_append (quiet _ (by decide)), MatchTarget.closed_selector clean]
    · intro i
      rw [getElem?_map_plain_append (quiet _ (by decide)), MatchTarget.marked_selector clean]
    · rw [List.count_append, List.count_eq_zero.mpr no_quote, Nat.zero_add]
      exact even
  · exact (MatchTarget.balanced_selector clean.unparenthesised).append
      (balanced_of_not_mem (quiet _ (by decide)) (quiet _ (by decide)))

/-! ## Expressions -/

/-- The groups of a list of terms, a space between each two. -/
def spaced (terms : List MatchTerm) : List Char :=
  [' '].intercalate (terms.map fun term => term.group.toList)

theorem spaced_singleton (term : MatchTerm) : spaced [term] = term.group.toList :=
  List.intercalate_singleton

theorem spaced_cons_cons (term next : MatchTerm) (terms : List MatchTerm) :
    spaced (term :: next :: terms) = term.group.toList ++ ' ' :: spaced (next :: terms) := by
  rw [spaced, List.map_cons, List.map_cons, List.intercalate_cons_cons, List.append_assoc]
  rfl

theorem toList_group (term : MatchTerm) :
    term.group.toList = '(' :: (term.inner.toList ++ [')']) := by
  rw [group_eq, String.toList_append, String.toList_append, List.append_assoc]
  rfl

theorem read?_group {term : MatchTerm} {body : List Glyph}
    (read : read? term.inner.toList = some body) :
    read? term.group.toList = some (.plain '(' :: (body ++ [.plain ')'])) := by
  rw [toList_group]
  exact read?_plain (by decide) (read?_append read (read?_plain (by decide) read?_nil))

/-- Spaced groups are read one by one, if each is read by itself and its parentheses match. -/
theorem exists_read?_spaced {terms : List MatchTerm} {bodies : List (List Glyph)}
    (nonempty : terms ≠ [])
    (those : List.Forall₂ (fun term body => read? term.inner.toList = some body ∧ Balanced body)
      terms bodies) :
    ∃ glyphs, read? (spaced terms) = some glyphs ∧ groupsFrom .before glyphs = some bodies := by
  induction those with
  | nil => exact absurd rfl nonempty
  | @cons term body terms bodies this those ih =>
    obtain ⟨read, balanced⟩ := this
    cases those with
    | nil =>
      refine ⟨_, spaced_singleton term ▸ read?_group read, ?_⟩
      rw [groupsFrom_group balanced]
      rfl
    | @cons next _ terms _ _ _ =>
      obtain ⟨glyphs, rest, grouped⟩ := ih (List.cons_ne_nil next terms)
      refine ⟨.plain '(' :: (body ++ [.plain ')']) ++ .plain ' ' :: glyphs, ?_, ?_⟩
      · rw [spaced_cons_cons]
        exact read?_append (read?_group read) (read?_plain (by decide) rest)
      · rw [List.cons_append, List.append_assoc, List.singleton_append, groupsFrom_group balanced,
          groupsFrom, grouped]
        rfl

/-- Every term has a body of its own, whose parentheses match. -/
theorem exists_forall₂_isGroupOf :
    ∀ {terms : List MatchTerm}, (∀ term ∈ terms, term.target.IsClean) →
      ∃ bodies, List.Forall₂ (fun term body => IsGroupOf term body ∧ Balanced body) terms bodies
  | [], _ => ⟨[], .nil⟩
  | term :: terms, clean => by
    obtain ⟨body, isGroup⟩ := exists_isGroupOf (clean term List.mem_cons_self)
    obtain ⟨bodies, those⟩ :=
      exists_forall₂_isGroupOf fun t mem => clean t (List.mem_cons_of_mem term mem)
    exact ⟨body :: bodies, .cons isGroup those⟩

/-- Spaced groups are read one by one, whatever their texts. -/
theorem exists_groupsFrom {terms : List MatchTerm} (nonempty : terms ≠ [])
    (clean : ∀ term ∈ terms, term.target.IsClean) :
    ∃ glyphs bodies, read? (spaced terms) = some glyphs ∧
      groupsFrom .before glyphs = some bodies ∧ List.Forall₂ IsGroupOf terms bodies := by
  obtain ⟨bodies, those⟩ := exists_forall₂_isGroupOf clean
  obtain ⟨glyphs, read, grouped⟩ :=
    exists_read?_spaced nonempty (those.imp fun _ _ both => ⟨both.1.read, both.2⟩)
  exact ⟨glyphs, bodies, read, grouped, those.imp fun _ _ both => both.1⟩

theorem toList_groups (terms : List MatchTerm) :
    (" ".intercalate (terms.map group)).toList = spaced terms := by
  rw [String.toList_intercalate, List.map_map]
  rfl

/-- The match expression of a list of terms is read as one group per term, in order, a space
between each two, and no text leaves its group. -/
theorem groups?_expression? (terms : List MatchTerm) (nonempty : terms ≠ [])
    (clean : ∀ term ∈ terms, term.target.IsClean) :
    ∃ text bodies, expression? terms = some text ∧ groups? text = some bodies ∧
      List.Forall₂ IsGroupOf terms bodies := by
  obtain ⟨glyphs, bodies, read, grouped, those⟩ := exists_groupsFrom nonempty clean
  refine ⟨_, bodies, expression?_of_ne_nil nonempty, ?_, those⟩
  rw [groups?, toList_groups, read]
  exact grouped

/-- Texts that try to leave their groups. -/
theorem groups?_expression?_delimiters :
    ∃ bodies,
      groups? "(@(title,body) a\\) \"\\@rock\\-\"n\"\") (@title \\\\) (\\)\\(\"\")" = some bodies ∧
        List.Forall₂ IsGroupOf
          [⟨.many ["title", "body"], "a) @Rock-\"n", true⟩, ⟨.one "title", "\\", false⟩,
            ⟨.all, ")(\"", true⟩] bodies := by
  obtain ⟨text, bodies, written, grouped, those⟩ := groups?_expression?
    [⟨.many ["title", "body"], "a) @Rock-\"n", true⟩, ⟨.one "title", "\\", false⟩,
      ⟨.all, ")(\"", true⟩] (by decide)
    (by simp [MatchTarget.IsClean, MatchTarget.fields, delimiters])
  have expected : some text =
      some "(@(title,body) a\\) \"\\@rock\\-\"n\"\") (@title \\\\) (\\)\\(\"\")" := by
    rw [← written]
    decide +kernel
  exact ⟨bodies, Option.some.inj expected ▸ grouped, those⟩

end MatchTerm

end SearchQL
