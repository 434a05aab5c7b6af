import SearchQL.Placeholder
import SearchQL.Proofs.Query.Conversion
import SearchQL.Proofs.Text.Joined

/-!
# Round trips — integers that are written are read back

A multi-value attribute leaves the library as a tuple literal and comes back in
one of several shapes. `Decorated` says which texts are forms of the same list:
the decimals with a comma between each two, and any parentheses and blanks
anywhere in them, inside a number too. Every one of them is read as the list it
was made from (`ofText_of_decorated`), and the tuple literal is the one with a
parenthesis at each end.

The empty list is the corner case. Its decimals are the empty text, which has no
commas to be split at; a reader that splits first would find one empty token.

Reading is idempotent in every shape: what a value denotes, written as text, as an
array of numbers or as a parameter of a statement, denotes the same integers.
-/

namespace SearchQL

namespace MultiValue

/-! ## Decorated text -/

/-- The characters of a text that carry no integer. -/
def isFiller (c : Char) : Bool := c == '(' || c == ')' || Text.isBlank c

/-- The second text is the first one with fillers put in, anywhere. -/
inductive Decorated : List Char → List Char → Prop
  | nil : Decorated [] []
  | keep {c : Char} {plain raw : List Char} :
      Decorated plain raw → Decorated (c :: plain) (c :: raw)
  | insert {c : Char} {plain raw : List Char} :
      isFiller c = true → Decorated plain raw → Decorated plain (c :: raw)

theorem Decorated.refl (cs : List Char) : Decorated cs cs := by
  induction cs with
  | nil => exact .nil
  | cons c cs ih => exact .keep ih

theorem Decorated.append {plain raw plain' raw' : List Char} (h : Decorated plain raw)
    (h' : Decorated plain' raw') : Decorated (plain ++ plain') (raw ++ raw') := by
  induction h with
  | nil => exact h'
  | keep _ ih => exact .keep ih
  | insert filler _ ih => exact .insert filler ih

theorem significant_eq_filter (cs : List Char) :
    significant cs = cs.filter fun c => !isFiller c := by
  unfold significant isFiller
  congr 1
  funext c
  simp [bne, Bool.not_or]

/-- Fillers make no difference to what is read. -/
theorem significant_of_decorated {plain raw : List Char} (h : Decorated plain raw) :
    significant raw = significant plain := by
  rw [significant_eq_filter, significant_eq_filter]
  induction h with
  | nil => rfl
  | @keep c _ _ _ ih => cases filler : isFiller c <;> simp [filler, ih]
  | insert filler _ ih => simp [filler, ih]

/-- Every text is a decorated form of its significant characters. -/
theorem decorated_significant (raw : List Char) : Decorated (significant raw) raw := by
  rw [significant_eq_filter]
  induction raw with
  | nil => exact .nil
  | cons c raw ih =>
    cases filler : isFiller c with
    | true =>
      rw [List.filter_cons_of_neg (by simp [filler])]
      exact .insert filler ih
    | false =>
      rw [List.filter_cons_of_pos (by simp [filler])]
      exact .keep ih

/-! ## Decimals -/

/-- The decimals of integers, a comma between each two. -/
def joined (values : List Int64) : List Char :=
  [','].intercalate (values.map fun i => (Number.decimal i.toInt).toList)

theorem toList_literal (values : List Int64) :
    (literal values).toList = '(' :: (joined values ++ [')']) := by
  simp [literal, joined, Function.comp_def]

/-- A tuple literal is the decimals in parentheses. -/
theorem decorated_literal (values : List Int64) :
    Decorated (joined values) (literal values).toList := by
  have closed := (Decorated.refl (joined values)).append (.insert (c := ')') rfl .nil)
  rw [List.append_nil] at closed
  rw [toList_literal]
  exact .insert rfl closed

theorem not_isFiller_of_isDigit {c : Char} (h : c.isDigit = true) : isFiller c = false := by
  have range : 48 ≤ c.toNat ∧ c.toNat ≤ 57 := by
    simpa [Char.isDigit, UInt32.le_iff_toNat_le] using h
  have not_blank : Text.isBlank c = false := by
    simp only [Text.isBlank, Text.inRanges, Text.blankRanges, List.any_eq_false, List.mem_cons,
      List.not_mem_nil, or_false, Bool.and_eq_true, decide_eq_true_eq]
    rintro _ (rfl | rfl | rfl | rfl | rfl | rfl | rfl | rfl | rfl | rfl) <;> dsimp only <;> omega
  have no_parenthesis : c ≠ '(' ∧ c ≠ ')' := by
    constructor <;> rintro rfl <;> simp at range
  simp [isFiller, not_blank, no_parenthesis]

/-- A decimal is a sign and digits. -/
theorem of_mem_decimal {n : Int} {c : Char} (h : c ∈ (Number.decimal n).toList) :
    c = '-' ∨ c.isDigit = true := by
  rw [Number.toList_decimal] at h
  rcases List.mem_append.mp h with sign | digit
  · split at sign
    · exact .inl (List.mem_singleton.mp sign)
    · cases sign
  · exact .inr (Nat.isDigit_of_mem_toDigits (by decide) (by decide) digit)

theorem not_isFiller_of_mem_decimal {n : Int} {c : Char} (h : c ∈ (Number.decimal n).toList) :
    isFiller c = false := by
  rcases of_mem_decimal h with rfl | digit
  · decide
  · exact not_isFiller_of_isDigit digit

theorem comma_not_mem_decimal (n : Int) : ',' ∉ (Number.decimal n).toList := by
  intro mem
  rcases of_mem_decimal mem with sign | digit
  · cases sign
  · cases digit

theorem decimal_ne_nil (n : Int) : (Number.decimal n).toList ≠ [] := by
  rw [Number.toList_decimal]
  exact List.append_ne_nil_of_right_ne_nil _ Nat.toDigits_ne_nil

theorem significant_joined (values : List Int64) : significant (joined values) = joined values := by
  rw [significant_eq_filter, List.filter_eq_self]
  refine forall_mem_intercalate (by decide) fun part mem c hc => ?_
  obtain ⟨i, -, rfl⟩ := List.mem_map.mp mem
  rw [not_isFiller_of_mem_decimal hc, Bool.not_false]

/-- The decorated forms of a list are the texts that its decimals are left of. -/
theorem decorated_joined_iff {values : List Int64} {raw : List Char} :
    Decorated (joined values) raw ↔ significant raw = joined values := by
  constructor
  · intro h
    rw [significant_of_decorated h, significant_joined]
  · intro h
    rw [← h]
    exact decorated_significant raw

/-! ## Reading text back -/

theorem token_decimal (raw : String) (i : Int64) :
    token raw (Number.decimal i.toInt).toList = .ok i := by
  simp [token, Number.integer?_decimal]

/-- The decimals of at least one integer are one token for each. -/
theorem splitOn_joined {values : List Int64} (h : values ≠ []) :
    (joined values).splitOn ',' = values.map fun i => (Number.decimal i.toInt).toList := by
  refine List.splitOn_intercalate ',' (fun part mem => ?_) (by simpa using h)
  obtain ⟨i, -, rfl⟩ := List.mem_map.mp mem
  exact comma_not_mem_decimal i.toInt

theorem joined_ne_nil {values : List Int64} (h : values ≠ []) : joined values ≠ [] := by
  intro empty
  have tokens := splitOn_joined h
  rw [empty, List.splitOn_nil] at tokens
  -- the one token of the empty text is empty, and no decimal is
  cases values with
  | nil => exact h rfl
  | cons i rest => exact decimal_ne_nil i.toInt (List.cons.inj tokens).1.symm

/-- Every decorated form of a list is read as the list. -/
theorem ofText_of_decorated {values : List Int64} {raw : String}
    (h : Decorated (joined values) raw.toList) : ofText raw = .ok values := by
  unfold ofText
  rw [decorated_joined_iff.mp h]
  by_cases empty : values = []
  · subst empty
    rfl
  · split
    · rename_i none
      exact absurd none (joined_ne_nil empty)
    · rw [splitOn_joined empty, List.mapM_map]
      have each : ∀ i ∈ values,
          (token raw ∘ fun i : Int64 => (Number.decimal i.toInt).toList) i = pure (id i) :=
        fun i _ => token_decimal raw i
      rw [mapM_eq_pure each, List.map_id]
      rfl

theorem ofText_literal (values : List Int64) : ofText (literal values) = .ok values :=
  ofText_of_decorated (decorated_literal values)

/-! ## Reading values back -/

theorem integer_ofInt64 (i : Int64) : integer (Value.ofInt64 i) = .ok i := by
  simp [integer, Value.ofInt64, Number.int64?]

theorem ofValue_toValue (values : List Int64) : ofValue (toValue values) = .ok values := by
  have each : ∀ i ∈ values, (integer ∘ Value.ofInt64) i = pure (id i) :=
    fun i _ => integer_ofInt64 i
  rw [toValue, ofValue, List.mapM_map, mapM_eq_pure each, List.map_id]
  rfl

end MultiValue

/-- A statement that is one placeholder is sent as the literal of its parameter. -/
theorem interpolate_placeholder (p : Param) : interpolate "?" [p] = .ok p.literal := by
  have filled : Quoting.outside.fill ['?'] [p] = p.literal.toList ++ [] := rfl
  have counted : Quoting.outside.count ['?'] = [p].length := rfl
  unfold interpolate
  rw [show ("?" : String).toList = ['?'] from rfl]
  simp only [counted, filled, if_true, List.append_nil, String.ofList_toList]

namespace MultiValue

/-- **Integers that are written are read back**, in order and with their duplicates: from the tuple
literal, from any decorated form of their decimals, and from every shape of the integers that a
value denotes: text, array and, for an array, the parameter that it is bound as. -/
theorem integers_read_back :
    (∀ values : List Int64, ofText (literal values) = .ok values) ∧
    (∀ (values : List Int64) (raw : String), Decorated (joined values) raw.toList →
      ofText raw = .ok values) ∧
    ∀ (v : Value) (values : List Int64), ofValue v = .ok values →
      ofValue (.text (literal values)) = .ok values ∧ ofValue (toValue values) = .ok values ∧
      ∀ items, v = .array items → ∃ p text, Param.ofValue v = .ok p ∧
        interpolate "?" [p] = .ok text ∧ ofValue (.text text) = .ok values := by
  refine ⟨ofText_literal, fun values raw h => ofText_of_decorated h, fun v values h => ?_⟩
  refine ⟨ofText_literal values, ofValue_toValue values, ?_⟩
  rintro items rfl
  refine ⟨.multi values, literal values, ?_, interpolate_placeholder _, ofText_literal values⟩
  rw [Param.ofValue, h]
  rfl

/-- The smallest and the largest word in a text with fillers at both ends and inside a number, and
an array of a text and a number. -/
theorem integers_read_back_extremes :
    ofText "( -9223372036854775808,\u00a09223372036854775 807)\t" =
        .ok [-9223372036854775808, 9223372036854775807] ∧
      ofValue (.array [.text " +7\n", .number (.integer (-7))]) = .ok [7, -7] ∧
      ofValue (.text (literal [7, -7])) = .ok [7, -7] ∧
      ∃ p text, Param.ofValue (.array [.text " +7\n", .number (.integer (-7))]) = .ok p ∧
        interpolate "?" [p] = .ok text ∧ ofValue (.text text) = .ok [7, -7] := by
  have read : ofValue (.array [.text " +7\n", .number (.integer (-7))]) = .ok [7, -7] := by
    decide +kernel
  obtain ⟨-, decorated, shapes⟩ := integers_read_back
  obtain ⟨of_text, -, bound⟩ := shapes _ _ read
  refine ⟨decorated _ _ (decorated_joined_iff.mpr ?_), read, of_text, bound _ rfl⟩
  decide +kernel

end MultiValue

end SearchQL
