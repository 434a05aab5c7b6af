import SearchQL.Proofs.MultiValue.RoundTrip
import SearchQL.Proofs.Number.Numeral

/-!
# Listed words — the texts that are a list of integers

The text of an attribute is read in three steps: what carries no integer is left
out, the rest is split at the commas, and each token is read as a word. Here is the
grammar that the steps come to: numerals of words with a comma between each two
(`Listed`).

Main statement (`ofText_reads_listed`): a text is read as a list of integers exactly
if what is left of it lists them, and as none exactly if nothing is left. Any other
text is refused with the first token that is no numeral of a word. A comma at an
end, or two in a row, leave an empty token, and that is none.
-/

namespace SearchQL.MultiValue

open Number

/-- Numerals of words, a comma between each two, and the words. -/
inductive Listed : List Char → List Int64 → Prop
  | one {cs : List Char} {i : Int64} : Numeral cs i.toInt → Listed cs [i]
  | more {cs rest : List Char} {i : Int64} {values : List Int64} :
      Numeral cs i.toInt → Listed rest values → Listed (cs ++ ',' :: rest) (i :: values)

/-- Whether a token is a numeral of a word. -/
def IsWord (cs : List Char) : Prop := ∃ i : Int64, Numeral cs i.toInt

theorem not_isWord_nil : ¬ IsWord [] := fun ⟨_, numeral⟩ => numeral.ne_nil rfl

variable {raw : String} {cs : List Char}

/-! ## Tokens -/

theorem token_eq_ok_iff {i : Int64} : token raw cs = .ok i ↔ Numeral cs i.toInt := by
  rw [← integer?_eq_some_iff, token]
  cases read : integer? cs with
  | none => simp
  | some n =>
    rw [Option.bind_some, Option.some.injEq, ← toInt64?_eq_some_iff]
    cases narrowed : toInt64? n with
    | none => simp
    | some j => rw [Except.ok.injEq, Option.some.injEq]

theorem exists_token_eq_ok_iff (raw : String) : (∃ i, token raw cs = .ok i) ↔ IsWord cs :=
  exists_congr fun _ => token_eq_ok_iff

theorem token_eq_error_iff {e : Error} :
    token raw cs = .error e ↔ ¬ IsWord cs ∧ e = .decode raw (.badToken (String.ofList cs)) := by
  rw [← exists_token_eq_ok_iff raw, token]
  cases (integer? cs).bind toInt64? with
  | none => simp [eq_comm]
  | some i => simp

/-! ## The list -/

theorem comma_not_mem_of_numeral {n : Int} (h : Numeral cs n) : ',' ∉ cs := by
  intro mem
  rcases h.of_mem mem with sign | sign | digit
  · cases sign
  · cases sign
  · cases digit

theorem Listed.ne_nil {values : List Int64} (h : Listed cs values) : cs ≠ [] := by
  cases h with
  | one numeral => exact numeral.ne_nil
  | more _ _ => exact List.append_ne_nil_of_right_ne_nil _ (List.cons_ne_nil _ _)

theorem Listed.values_ne_nil {values : List Int64} (h : Listed cs values) : values ≠ [] := by
  cases h <;> exact List.cons_ne_nil _ _

theorem map_token_of_listed {values : List Int64} (h : Listed cs values) :
    (cs.splitOn ',').map (token raw) = values.map .ok := by
  induction h with
  | one numeral =>
    rw [List.splitOn_eq_singleton (comma_not_mem_of_numeral numeral), List.map_singleton,
      token_eq_ok_iff.mpr numeral, List.map_singleton]
  | more numeral _ ih =>
    rw [List.splitOn_append_cons_self_of_not_mem (comma_not_mem_of_numeral numeral), List.map_cons,
      token_eq_ok_iff.mpr numeral, ih, List.map_cons]

/-- Numerals of words, joined by commas, list the words. -/
theorem listed_intercalate {tokens : List (List Char)} {values : List Int64} (some_token : tokens ≠ [])
    (each : tokens.map (token raw) = values.map .ok) : Listed ([','].intercalate tokens) values := by
  induction tokens generalizing values with
  | nil => exact absurd rfl some_token
  | cons cs rest ih =>
    obtain ⟨i, values, rfl⟩ : ∃ i others, values = i :: others :=
      List.exists_cons_of_ne_nil (by rintro rfl; cases each)
    obtain ⟨first, others⟩ := List.cons.inj each
    have numeral := token_eq_ok_iff.mp first
    cases rest with
    | nil =>
      obtain rfl : values = [] := List.map_eq_nil_iff.mp others.symm
      rw [List.intercalate_singleton]
      exact .one numeral
    | cons next rest =>
      rw [List.intercalate_cons_cons, List.append_assoc, List.singleton_append]
      exact .more numeral (ih (List.cons_ne_nil _ _) others)

theorem mapM_token_eq_ok_iff {values : List Int64} :
    (cs.splitOn ',').mapM (token raw) = .ok values ↔ Listed cs values := by
  rw [mapM_eq_ok_iff]
  refine ⟨fun each => ?_, map_token_of_listed⟩
  have listed := listed_intercalate (List.splitOn_ne_nil ',' cs) each
  rwa [List.intercalate_splitOn] at listed

theorem mapM_token_eq_error_iff {e : Error} :
    (cs.splitOn ',').mapM (token raw) = .error e ↔
      ∃ before bad after, [','].intercalate (before ++ bad :: after) = cs ∧
        (∀ t ∈ before ++ bad :: after, ',' ∉ t) ∧ (∀ t ∈ before, IsWord t) ∧ ¬ IsWord bad ∧
        e = .decode raw (.badToken (String.ofList bad)) := by
  simp only [mapM_eq_error_iff, exists_token_eq_ok_iff, token_eq_error_iff]
  refine exists_congr fun before => exists_congr fun bad => exists_congr fun after => ?_
  rw [splitOn_eq_iff (by simp), and_assoc]

/-! ## The text -/

theorem ofText_of_significant_eq_nil (h : significant raw.toList = []) : ofText raw = .ok [] := by
  rw [ofText, h]

theorem ofText_of_significant_ne_nil (h : significant raw.toList ≠ []) :
    ofText raw = ((significant raw.toList).splitOn ',').mapM (token raw) := by
  unfold ofText
  split
  · next none => exact absurd none h
  · rfl

/-- **A text is read as the words that it lists**, parentheses and blanks aside. If they are all there
is to it, it is read as no words; otherwise it is refused unless it lists some, and the error names
the first of its tokens that is no word. -/
theorem ofText_reads_listed (raw : String) :
    (ofText raw = .ok [] ↔ significant raw.toList = []) ∧
    (significant raw.toList ≠ [] →
      (∀ values, ofText raw = .ok values ↔ Listed (significant raw.toList) values) ∧
      ∀ e, ofText raw = .error e ↔
        ∃ before bad after, [','].intercalate (before ++ bad :: after) = significant raw.toList ∧
          (∀ t ∈ before ++ bad :: after, ',' ∉ t) ∧ (∀ t ∈ before, IsWord t) ∧ ¬ IsWord bad ∧
          e = .decode raw (.badToken (String.ofList bad))) := by
  have listed (some_char : significant raw.toList ≠ []) (values : List Int64) :
      ofText raw = .ok values ↔ Listed (significant raw.toList) values := by
    rw [ofText_of_significant_ne_nil some_char, mapM_token_eq_ok_iff]
  refine ⟨⟨fun read => ?_, ofText_of_significant_eq_nil⟩, fun some_char => ⟨listed some_char, ?_⟩⟩
  · by_contra some_char
    exact ((listed some_char []).mp read).values_ne_nil rfl
  · intro e
    rw [ofText_of_significant_ne_nil some_char, mapM_token_eq_error_iff]

/-- A sign, leading zeros and the least word; an empty token before one that is no number; the first
number beyond the words. -/
theorem ofText_reads_listed_edges :
    (∃ values, Listed (significant "( +007,\u00a0-9223372036854775808 )".toList) values ∧
      ofText "( +007,\u00a0-9223372036854775808 )" = .ok values) ∧
      ofText "1,,x" = .error (.decode "1,,x" (.badToken "")) ∧
      ofText "-1,(9223372036854775808)" =
        .error (.decode "-1,(9223372036854775808)" (.badToken "9223372036854775808")) := by
  have read : ofText "( +007,\u00a0-9223372036854775808 )" = .ok [7, -9223372036854775808] := by
    decide +kernel
  have one : Numeral ['1'] (1 : Int64).toInt := integer?_eq_some_iff.mp (by decide +kernel)
  have minus_one : Numeral ['-', '1'] (-1 : Int64).toInt :=
    integer?_eq_some_iff.mp (by decide +kernel)
  have beyond : ¬ IsWord "9223372036854775808".toList := by
    rintro ⟨i, numeral⟩
    have value := integer?_eq_some_iff.mpr numeral
    have number : integer? "9223372036854775808".toList = some 9223372036854775808 := by
      decide +kernel
    exact absurd i.toInt_lt (Option.some.inj (number.symm.trans value) ▸ by decide)
  refine ⟨⟨_, (((ofText_reads_listed _).2 (by decide +kernel)).1 _).mp read, read⟩, ?_, ?_⟩
  · refine (((ofText_reads_listed _).2 (by decide +kernel)).2 _).mpr
      ⟨[['1']], [], [['x']], by decide +kernel, by decide +kernel, ?_, not_isWord_nil, by decide +kernel⟩
    exact List.forall_mem_singleton.mpr ⟨1, one⟩
  · refine (((ofText_reads_listed _).2 (by decide +kernel)).2 _).mpr
      ⟨[['-', '1']], "9223372036854775808".toList, [], by decide +kernel, by decide +kernel, ?_, beyond,
        by decide +kernel⟩
    exact List.forall_mem_singleton.mpr ⟨-1, minus_one⟩

end SearchQL.MultiValue
