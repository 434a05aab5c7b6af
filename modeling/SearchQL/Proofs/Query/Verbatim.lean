import SearchQL.Proofs.Placeholder.Filling
import SearchQL.Proofs.Query.Shape

/-!
# Verbatim text — what a query pastes into its statements

Names, operators and option words of a query reach its statements unchanged. A
question mark outside quotes among them would be taken for a placeholder, and an
open quote would hide the placeholders behind it. `Query.verbatim` lists them
all, `Quoting.CleanText` says that one does neither, and a query whose list is
clean compiles to fragments in which every value is a placeholder.

Everything else that is pasted is clean by itself: keywords, numbers, and option
texts, which are quoted.
-/

namespace SearchQL

/-! ## The texts that are pasted -/

/-- The names and operators of a condition. -/
def Condition.verbatim : Condition → List String
  | compare column operator _ => [column, operator]
  | within column _ _ => [column]
  | between column _ _ _ => [column]
  | isNull column _ => [column]
  | multi column (.other operator) _ => [column, operator]
  | multi column _ _ => [column]

/-- The words of an option value. -/
def OptionValue.verbatim : OptionValue → List String
  | ident name => [name]
  | weights pairs => pairs.map (·.1)
  | _ => []

/-- The columns of a facet. -/
def Facet.verbatim (f : Facet) : List String :=
  f.columns ++ f.groupedBy ++ (f.order.map (·.column)).toList

/-- Every text of a query that is pasted into a statement; the name of the index has its prefix. -/
def Query.verbatim (tablePrefix : String) (q : Query) : List String :=
  (q.index.map (tableName tablePrefix)).toList ++ q.columns ++
    q.filter.flatMap (·.condition.verbatim) ++ q.groups ++ q.groupOrder.map (·.column) ++
    q.having.flatMap (·.condition.verbatim) ++ q.order.map (·.column) ++
    q.options.flatMap (fun o => o.1 :: o.2.verbatim) ++ q.facets.flatMap Facet.verbatim

/-! ## Clean texts -/

namespace Quoting

/-- A text without placeholders that leaves no quoted region open. -/
def CleanText (s : String) : Prop := Clean s.toList

instance (s : String) : Decidable (CleanText s) := inferInstanceAs (Decidable (Clean _))

theorem cleanText_append {a b : String} (ha : CleanText a) (hb : CleanText b) :
    CleanText (a ++ b) := by
  rw [CleanText, String.toList_append]
  exact clean_append ha hb

theorem cleanText_intercalate {separator : String} (hs : CleanText separator) {parts : List String}
    (h : ∀ part ∈ parts, CleanText part) : CleanText (separator.intercalate parts) := by
  rw [CleanText, String.toList_intercalate]
  refine clean_intercalate hs fun part mem => ?_
  obtain ⟨s, hs, rfl⟩ := List.mem_map.mp mem
  exact h s hs

theorem cleanText_join {parts : List String} (h : ∀ part ∈ parts, CleanText part) :
    CleanText (String.join parts) := by
  induction parts with
  | nil => decide
  | cons part rest ih =>
    rw [String.join_cons]
    exact cleanText_append (h part List.mem_cons_self)
      (ih fun p hp => h p (List.mem_cons_of_mem _ hp))

theorem cleanText_toString (n : Nat) : CleanText (toString n) := by
  have digits : (toString n).toList = Nat.toDigits 10 n := by
    rw [Nat.toString_eq_repr, Nat.repr_eq_ofList_toDigits, String.toList_ofList]
  rw [CleanText, digits]
  exact clean_of_isPlain fun c hc => Param.isPlain_toDigits hc

end Quoting

open Quoting

theorem Direction.cleanText_keyword (d : Direction) : CleanText d.keyword := by
  cases d <;> decide

theorem SortKey.cleanText_list {keys : List SortKey} (h : ∀ key ∈ keys, CleanText key.column) :
    CleanText (list keys) := by
  refine cleanText_intercalate (by decide) fun part mem => ?_
  obtain ⟨key, hk, rfl⟩ := List.mem_map.mp mem
  exact cleanText_append (cleanText_append (h key hk) (by decide)) key.direction.cleanText_keyword

theorem Window.cleanText_sql (w : Window) : CleanText w.sql := by
  unfold sql
  split
  · decide
  · exact cleanText_append (cleanText_append (cleanText_append (by decide)
      (cleanText_toString _)) (by decide)) (cleanText_toString _)

theorem OptionValue.cleanText_sql {value : OptionValue} (h : ∀ s ∈ value.verbatim, CleanText s) :
    CleanText value.sql := by
  cases value with
  | integer n => exact Param.clean_decimal n.toInt
  | real x => exact Param.clean_plain x
  | ident name => exact h name List.mem_cons_self
  | text s => exact Param.clean_quote s
  | weights pairs =>
    refine cleanText_append (cleanText_append (by decide)
      (cleanText_intercalate (by decide) fun part mem => ?_)) (by decide)
    obtain ⟨⟨name, weight⟩, hp, rfl⟩ := List.mem_map.mp mem
    exact cleanText_append (cleanText_append (h name (List.mem_map.mpr ⟨_, hp, rfl⟩)) (by decide))
      (Param.clean_decimal weight.toInt)

theorem Facet.cleanText_sql {f : Facet} (h : ∀ s ∈ f.verbatim, CleanText s) :
    CleanText f.sql := by
  have columns : ∀ s ∈ f.columns, CleanText s := fun s hs =>
    h s (List.mem_append_left _ (List.mem_append_left _ hs))
  have groupedBy : ∀ s ∈ f.groupedBy, CleanText s := fun s hs =>
    h s (List.mem_append_left _ (List.mem_append_right _ hs))
  have order : ∀ key ∈ f.order, CleanText key.column := fun key hk =>
    h _ (List.mem_append_right _ (by rw [hk]; exact List.mem_cons_self))
  unfold sql
  split
  · decide
  · refine cleanText_append (cleanText_append (cleanText_append (cleanText_append (by decide)
      (cleanText_intercalate (by decide) columns)) ?_) ?_) f.window.cleanText_sql
    · split
      · decide
      · exact cleanText_append (by decide) (cleanText_intercalate (by decide) groupedBy)
    · cases ho : f.order with
      | none => decide
      | some key =>
        exact cleanText_append (by decide) (cleanText_append (cleanText_append
          (order key ho) (by decide)) key.direction.cleanText_keyword)

/-! ## Clean fragments -/

namespace Fragment

/-- Whether every text of a fragment is clean. -/
def CleanTexts (f : Fragment) : Prop := ∀ s, Piece.text s ∈ f → CleanText s

theorem cleanTexts_nil : CleanTexts [] := fun _ h => absurd h List.not_mem_nil

theorem cleanTexts_append {f g : Fragment} (hf : CleanTexts f) (hg : CleanTexts g) :
    CleanTexts (f ++ g) := fun s h => (List.mem_append.mp h).elim (hf s) (hg s)

theorem cleanTexts_text_cons {s : String} {f : Fragment} (hs : CleanText s) (hf : CleanTexts f) :
    CleanTexts (.text s :: f) := by
  intro t h
  rcases List.mem_cons.mp h with eq | h
  · cases eq
    exact hs
  · exact hf t h

theorem cleanTexts_value_cons {p : Param} {f : Fragment} (hf : CleanTexts f) :
    CleanTexts (.value p :: f) := by
  intro t h
  rcases List.mem_cons.mp h with eq | h
  · cases eq
  · exact hf t h

theorem cleanTexts_joined {separator : String} (hs : CleanText separator)
    {fragments : List Fragment} (h : ∀ f ∈ fragments, CleanTexts f) :
    CleanTexts (joined separator fragments) := by
  unfold joined
  induction fragments with
  | nil => exact cleanTexts_nil
  | cons f rest ih =>
    have tail := ih fun g hg => h g (List.mem_cons_of_mem _ hg)
    cases rest with
    | nil => simpa using h f List.mem_cons_self
    | cons g rest =>
      rw [List.intercalate_cons_cons]
      exact cleanTexts_append (cleanTexts_append (h f List.mem_cons_self)
        (cleanTexts_text_cons hs cleanTexts_nil)) tail

theorem cleanTexts_tuple (values : List Param) : CleanTexts (tuple values) := by
  refine cleanTexts_append (cleanTexts_text_cons (by decide)
    (cleanTexts_joined (by decide) fun f hf => ?_)) (cleanTexts_text_cons (by decide) cleanTexts_nil)
  obtain ⟨value, -, rfl⟩ := List.mem_map.mp hf
  exact cleanTexts_value_cons cleanTexts_nil

/-- Between clean texts every value stands outside quotes, and nothing else is a placeholder. -/
theorem standing_of_cleanTexts {f : Fragment} (h : CleanTexts f) : Standing outside f := by
  induction f with
  | nil => trivial
  | cons p rest ih =>
    have tail := ih fun s hs => h s (List.mem_cons_of_mem _ hs)
    cases p with
    | text s =>
      obtain ⟨no_hole, ends_outside⟩ := h s List.mem_cons_self
      refine ⟨no_hole, ?_⟩
      rw [ends_outside]
      exact tail
    | value p => exact ⟨rfl, tail⟩

end Fragment

open Fragment

namespace Condition

theorem cleanText_negation (negated : Bool) : CleanText (negation negated) := by
  cases negated <;> decide

/-- A column, a verb that may be negated, and the keyword behind it. -/
theorem cleanText_negatable {column verb keyword : String} (hc : CleanText column)
    (hv : CleanText verb) (negated : Bool) (hk : CleanText keyword) :
    CleanText (column ++ verb ++ negation negated ++ keyword) := by
  have subject := cleanText_append hc hv
  exact cleanText_append (cleanText_append subject (cleanText_negation negated)) hk

theorem cleanText_multiSubject {column : String} {operator : MultiOperator} {values : List Int64}
    (h : ∀ s ∈ (multi column operator values).verbatim, CleanText s) :
    CleanText (multiSubject column operator) := by
  have column_clean : CleanText column := by
    cases operator <;> exact h column List.mem_cons_self
  cases operator with
  | within => exact cleanText_append column_clean (by decide)
  | notWithin => exact cleanText_append column_clean (by decide)
  | any => exact cleanText_append (cleanText_append (by decide) column_clean) (by decide)
  | all => exact cleanText_append (cleanText_append (by decide) column_clean) (by decide)
  | other text =>
    exact cleanText_append (cleanText_append column_clean (by decide))
      (h text (List.mem_cons_of_mem _ List.mem_cons_self))

theorem cleanTexts_of_listTest {subject : String} {values : List Param} {f : Fragment}
    (hs : CleanText subject) (h : listTest subject values = .test f) : CleanTexts f := by
  cases h
  exact cleanTexts_text_cons (cleanText_append hs (by decide)) (cleanTexts_tuple values)

/-- A condition with clean names is tested by a clean fragment. -/
theorem cleanTexts_of_term {c : Condition} {f : Fragment} (h : ∀ s ∈ c.verbatim, CleanText s)
    (ht : c.term = .test f) : CleanTexts f := by
  cases c with
  | compare column operator value =>
    have column_clean := h column List.mem_cons_self
    have operator_clean := h operator (List.mem_cons_of_mem _ List.mem_cons_self)
    cases ht
    exact cleanTexts_text_cons (cleanText_append (cleanText_append (cleanText_append column_clean
      (by decide)) operator_clean) (by decide)) (cleanTexts_value_cons cleanTexts_nil)
  | within column values negated =>
    have column_clean := h column List.mem_cons_self
    cases values with
    | nil => cases negated <;> cases ht
    | cons value values =>
      exact cleanTexts_of_listTest
        (cleanText_negatable column_clean (by decide) negated (by decide)) ht
  | between column low high negated =>
    have column_clean := h column List.mem_cons_self
    cases ht
    refine cleanTexts_text_cons
      (cleanText_negatable column_clean (by decide) negated (by decide)) ?_
    exact cleanTexts_value_cons (cleanTexts_text_cons (by decide)
      (cleanTexts_value_cons cleanTexts_nil))
  | isNull column negated =>
    have column_clean := h column List.mem_cons_self
    cases ht
    exact cleanTexts_text_cons
      (cleanText_negatable column_clean (by decide) negated (by decide)) cleanTexts_nil
  | multi column operator values =>
    cases values with
    | nil => cases operator <;> cases ht
    | cons value values => exact cleanTexts_of_listTest (cleanText_multiSubject h) ht

end Condition

namespace Filter

/-- Every term of a branch was open before, or is the term of a clause. -/
theorem mem_branchesFrom {opened branch : List Term} {clauses : List Clause} {t : Term}
    (hb : branch ∈ branchesFrom opened clauses) (ht : t ∈ branch) :
    t ∈ opened ∨ ∃ clause ∈ clauses, t = clause.condition.term := by
  induction clauses generalizing opened with
  | nil =>
    rw [List.mem_singleton.mp hb] at ht
    exact .inl ht
  | cons clause rest ih =>
    have later (h : ∃ c ∈ rest, t = c.condition.term) :
        ∃ c ∈ clause :: rest, t = c.condition.term := by
      obtain ⟨c, hc, eq⟩ := h
      exact ⟨c, List.mem_cons_of_mem _ hc, eq⟩
    have here (h : t ∈ [clause.condition.term]) : ∃ c ∈ clause :: rest, t = c.condition.term :=
      ⟨clause, List.mem_cons_self, List.mem_singleton.mp h⟩
    cases joins : clause.joiner with
    | and =>
      simp only [branchesFrom, joins] at hb
      rcases ih hb with h | h
      · exact (List.mem_append.mp h).imp_right here
      · exact .inr (later h)
    | or =>
      simp only [branchesFrom, joins, List.mem_cons] at hb
      rcases hb with rfl | hb
      · exact .inl ht
      · exact .inr ((ih hb).elim here later)

/-- What a filter writes is tests of its clauses, and the match expression. -/
theorem cleanTexts_of_anyOf {terms : List MatchTerm} {clauses : List Clause}
    {emitted : List (List Fragment)} (h : ∀ s ∈ clauses.flatMap (·.condition.verbatim), CleanText s)
    (he : ofClauses terms clauses = anyOf emitted) :
    ∀ branch ∈ emitted, ∀ f ∈ branch, CleanTexts f := by
  have tests {branch : List Term} (hb : branch ∈ branches (matchTerms terms) clauses)
      {f : Fragment} (hf : .test f ∈ branch) : CleanTexts f := by
    have clean_match : .test f ∈ matchTerms terms → CleanTexts f := by
      unfold matchTerms
      cases MatchTerm.expression? terms with
      | none => exact fun h => absurd h List.not_mem_nil
      | some expression =>
        intro h
        cases List.mem_singleton.mp h
        exact cleanTexts_text_cons (by decide) (cleanTexts_value_cons
          (cleanTexts_text_cons (by decide) cleanTexts_nil))
    have clean_clause : (∃ clause ∈ clauses, .test f = clause.condition.term) → CleanTexts f := by
      rintro ⟨clause, hc, eq⟩
      exact Condition.cleanTexts_of_term
        (fun s hs => h s (List.mem_flatMap.mpr ⟨clause, hc, hs⟩)) eq.symm
    cases clauses with
    | nil =>
      rw [List.mem_singleton.mp hb] at hf
      exact clean_match hf
    | cons clause rest =>
      rcases mem_branchesFrom hb hf with hf | ⟨c, hc, eq⟩
      · rcases List.mem_append.mp hf with hf | hf
        · exact clean_match hf
        · exact clean_clause ⟨clause, List.mem_cons_self, List.mem_singleton.mp hf⟩
      · exact clean_clause ⟨c, List.mem_cons_of_mem _ hc, eq⟩
  simp only [ofClauses, ofBranches] at he
  split at he
  · cases he
  · split at he
    · cases he
    · cases he
      intro branch hb f hf
      obtain ⟨terms, ht, rfl⟩ := List.mem_map.mp hb
      obtain ⟨t, mem, shown⟩ := List.mem_filterMap.mp hf
      cases t with
      | always => cases shown
      | never => cases shown
      | test g =>
        cases shown
        exact tests (List.mem_filter.mp ht).1 mem

theorem cleanTexts_fragment {keyword : String} (hk : CleanText keyword) (terms : List MatchTerm)
    {clauses : List Clause} (h : ∀ s ∈ clauses.flatMap (·.condition.verbatim), CleanText s) :
    CleanTexts ((ofClauses terms clauses).fragment keyword) := by
  cases he : ofClauses terms clauses with
  | everything => exact cleanTexts_nil
  | nothing => exact cleanTexts_nil
  | anyOf emitted =>
    refine cleanTexts_text_cons (cleanText_append (cleanText_append (by decide) hk) (by decide))
      (cleanTexts_joined (by decide) fun f hf => ?_)
    obtain ⟨branch, hb, rfl⟩ := List.mem_map.mp hf
    exact cleanTexts_joined (by decide) (cleanTexts_of_anyOf h he branch hb)

end Filter

namespace Query

variable {tablePrefix table : String} {q : Query}

theorem cleanText_sorting {keyword : String} (hk : CleanText keyword) {keys : List SortKey}
    (h : ∀ key ∈ keys, CleanText key.column) : CleanText (sorting keyword keys) := by
  unfold sorting
  split
  · decide
  · exact cleanText_append (cleanText_append (cleanText_append (by decide) hk) (by decide))
      (SortKey.cleanText_list h)

theorem cleanText_grouping (h : ∀ s ∈ q.groups, CleanText s) : CleanText q.grouping := by
  unfold grouping
  split
  · decide
  · refine cleanText_append ?_ (cleanText_intercalate (by decide) h)
    split
    · exact cleanText_append (cleanText_append (by decide) (cleanText_toString _)) (by decide)
    · decide

theorem cleanText_optionList (h : ∀ o ∈ q.options, ∀ s ∈ o.1 :: o.2.verbatim, CleanText s) :
    CleanText q.optionList := by
  unfold optionList
  split
  · decide
  · refine cleanText_append (by decide) (cleanText_intercalate (by decide) fun part mem => ?_)
    obtain ⟨o, ho, rfl⟩ := List.mem_map.mp mem
    have words := h o ho
    exact cleanText_append (cleanText_append (words o.1 List.mem_cons_self) (by decide))
      (OptionValue.cleanText_sql fun s hs => words s (List.mem_cons_of_mem _ hs))

theorem cleanText_projection (h : ∀ s ∈ q.columns, CleanText s) : CleanText q.projection := by
  unfold projection
  split
  · decide
  · exact cleanText_intercalate (by decide) h

end Query

end SearchQL
