import SearchQL.Placeholder

/-!
# Literals in a statement — they keep to themselves

A literal is written into a statement outside quotes, and the statement goes on
outside quotes behind it. For a text this rests on the quoting: every character
that could end the region, or take the meaning from the one after it, is written
behind a backslash. Every other literal is made of characters the scan does not
look at.

`unquote?` reads a quoted text back, up to its closing mark, and so shows that
nothing is lost and that no quoted text begins another one.
-/

namespace SearchQL

namespace Quoting

/-! ## Text that the scan passes through -/

/-- A text without placeholders that begins and ends outside quotes. -/
def Clean (cs : List Char) : Prop := outside.count cs = 0 ∧ outside.run cs = outside

instance (cs : List Char) : Decidable (Clean cs) := inferInstanceAs (Decidable (_ ∧ _))

theorem clean_nil : Clean [] := ⟨rfl, rfl⟩

theorem clean_append {a b : List Char} (ha : Clean a) (hb : Clean b) : Clean (a ++ b) := by
  constructor
  · rw [count_append, ha.1, ha.2, hb.1]
  · rw [run_append, ha.2, hb.2]

/-- Whether the scan looks at a character that stands outside quotes. -/
def isPlain (c : Char) : Bool := !isMark c && c != '?'

theorem clean_of_isPlain {cs : List Char} (h : ∀ c ∈ cs, isPlain c = true) : Clean cs := by
  induction cs with
  | nil => exact clean_nil
  | cons c rest ih =>
    have head := h c List.mem_cons_self
    simp only [isPlain, Bool.and_eq_true, Bool.not_eq_true', bne_iff_ne] at head
    have tail := ih fun d hd => h d (List.mem_cons_of_mem _ hd)
    have stays : outside.step c = outside := by
      rw [step, head.1]
      rfl
    have passed : outside.isPlaceholder c = false := by simp [isPlaceholder, head.2]
    constructor
    · rw [count, passed, stays, tail.1]
      rfl
    · show (outside.step c).run rest = outside
      rw [stays, tail.2]

theorem clean_intercalate {separator : List Char} (hs : Clean separator)
    {parts : List (List Char)} (h : ∀ part ∈ parts, Clean part) :
    Clean (separator.intercalate parts) := by
  induction parts with
  | nil => exact clean_nil
  | cons part rest ih =>
    have head := h part List.mem_cons_self
    have tail := ih fun p hp => h p (List.mem_cons_of_mem _ hp)
    cases rest with
    | nil => simpa using head
    | cons next rest =>
      rw [List.intercalate_cons_cons]
      exact clean_append (clean_append head hs) tail

end Quoting

namespace Param

open Quoting

/-! ## Quoted text -/

/-- Where the scan stands inside a text that single quotes surround. -/
def Within (q : Quoting) : Prop := q = inside '\x27' ∨ q = escaped '\x27'

theorem Within.ne_outside {q : Quoting} (h : Within q) : q ≠ outside := by
  rintro rfl
  rcases h with h | h <;> cases h

/-- A written character is one that the scan passes over, or a backslash with the character that
stands for it. -/
theorem quoteChar_cases (c : Char) :
    (quoteChar c = [c] ∧ c ≠ '\\' ∧ c ≠ '\x27') ∨ ∃ d, quoteChar c = ['\\', d] := by
  unfold quoteChar
  split
  · exact .inr ⟨_, rfl⟩
  · exact .inr ⟨_, rfl⟩
  · exact .inr ⟨_, rfl⟩
  · exact .inr ⟨_, rfl⟩
  · exact .inr ⟨_, rfl⟩
  · next not_backslash not_mark _ _ _ => exact .inl ⟨rfl, not_backslash, not_mark⟩

theorem run_quoteChar (c : Char) : (inside '\x27').run (quoteChar c) = inside '\x27' := by
  rcases quoteChar_cases c with ⟨eq, not_backslash, not_mark⟩ | ⟨d, eq⟩
  · rw [eq]
    show (inside '\x27').step c = inside '\x27'
    rw [step, if_neg not_backslash, if_neg not_mark]
  · rw [eq]
    rfl

theorem run_flatMap_quoteChar (cs : List Char) :
    (inside '\x27').run (cs.flatMap quoteChar) = inside '\x27' := by
  induction cs with
  | nil => rfl
  | cons c rest ih => rw [List.flatMap_cons, run_append, run_quoteChar, ih]

/-- A text holds no placeholder where it does not stand outside quotes. -/
theorem count_of_within {q : Quoting} {cs : List Char}
    (h : ∀ before, before <+: cs → q.run before ≠ outside) : q.count cs = 0 := by
  induction cs generalizing q with
  | nil => rfl
  | cons c rest ih =>
    have here : q ≠ outside := h [] List.nil_prefix
    have passed : q.isPlaceholder c = false := by simp [isPlaceholder, here]
    rw [count, passed, ih fun before pre => h (c :: before) (List.cons_prefix_cons.mpr ⟨rfl, pre⟩)]
    rfl

/-- However far a quoted text is read, the scan stands inside its quotes. -/
theorem run_within (cs : List Char) {before : List Char} (h : before <+: cs.flatMap quoteChar) :
    Within ((inside '\x27').run before) := by
  induction cs generalizing before with
  | nil =>
    rw [List.flatMap_nil, List.prefix_nil] at h
    rw [h]
    exact .inl rfl
  | cons c rest ih =>
    rw [List.flatMap_cons] at h
    rcases quoteChar_cases c with ⟨eq, not_backslash, not_mark⟩ | ⟨d, eq⟩
    · rw [eq, List.singleton_append, List.prefix_cons_iff] at h
      rcases h with rfl | ⟨more, rfl, later⟩
      · exact .inl rfl
      · rw [run_cons, step, if_neg not_backslash, if_neg not_mark]
        exact ih later
    · rw [eq, List.cons_append, List.singleton_append, List.prefix_cons_iff] at h
      rcases h with rfl | ⟨more, rfl, behind⟩
      · exact .inl rfl
      · rcases List.prefix_cons_iff.mp behind with rfl | ⟨more, rfl, later⟩
        · exact .inr rfl
        · show Within ((inside '\x27').run more)
          exact ih later

theorem clean_quote (text : String) : Clean (quote text).toList := by
  have content : (inside '\x27').count (text.toList.flatMap quoteChar) = 0 :=
    count_of_within fun _ pre => (run_within _ pre).ne_outside
  constructor
  · rw [quote, String.toList_ofList, count_append, count]
    show 0 + (inside '\x27').count _ + _ = 0
    rw [content, run_cons]
    show 0 + 0 + ((inside '\x27').run _).count ['\x27'] = 0
    rw [run_flatMap_quoteChar]
    rfl
  · rw [quote, String.toList_ofList, run_append, run_cons]
    show ((inside '\x27').run _).run ['\x27'] = outside
    rw [run_flatMap_quoteChar]
    rfl

/-! ## Reading a quoted text back -/

/-- The character that a backslash and the character behind it stand for. -/
def unescape : Char → Char
  | 'n' => '\n'
  | 'r' => '\r'
  | '0' => '\x00'
  | c => c

/-- The text up to the closing mark, and what follows the mark. -/
def unquote? : List Char → Option (List Char × List Char)
  | [] => none
  | '\x27' :: rest => some ([], rest)
  | '\\' :: c :: rest => (unquote? rest).map fun r => (unescape c :: r.1, r.2)
  | c :: rest => (unquote? rest).map fun r => (c :: r.1, r.2)

theorem unquote?_quoteChar (c : Char) (cs : List Char) :
    unquote? (quoteChar c ++ cs) = (unquote? cs).map fun r => (c :: r.1, r.2) := by
  unfold quoteChar
  split
  · rfl
  · rfl
  · rfl
  · rfl
  · rfl
  · next not_backslash not_mark _ _ _ =>
    rw [List.singleton_append, unquote?.eq_4]
    · exact not_mark
    · intro d rest h _
      exact not_backslash h

/-- What is quoted is read back, whatever follows it. -/
theorem unquote?_flatMap_quoteChar (cs rest : List Char) :
    unquote? (cs.flatMap quoteChar ++ '\x27' :: rest) = some (cs, rest) := by
  induction cs with
  | nil => rfl
  | cons c more ih =>
    rw [List.flatMap_cons, List.append_assoc, unquote?_quoteChar, ih]
    rfl

/-- No quoted text begins another one: where two agree, so do the texts and what follows them. -/
theorem quote_append_inj {s t : String} {x y : List Char}
    (h : (quote s).toList ++ x = (quote t).toList ++ y) : s = t ∧ x = y := by
  simp only [quote, String.toList_ofList, List.cons_append, List.append_assoc, List.nil_append,
    List.cons.injEq, true_and] at h
  have read := congrArg unquote? h
  rw [unquote?_flatMap_quoteChar, unquote?_flatMap_quoteChar] at read
  simpa only [Option.some.injEq, Prod.mk.injEq, String.toList_inj] using read

/-! ## Every literal -/

theorem isPlain_of_isDigit {c : Char} (h : c.isDigit = true) : isPlain c = true := by
  simp only [isPlain, isMark, Bool.and_eq_true, Bool.not_eq_true', Bool.or_eq_false_iff,
    beq_eq_false_iff_ne, bne_iff_ne]
  refine ⟨⟨⟨?_, ?_⟩, ?_⟩, ?_⟩ <;> rintro rfl <;> exact absurd h (by decide)

theorem isPlain_toDigits {n : Nat} {c : Char} (h : c ∈ Nat.toDigits 10 n) : isPlain c = true :=
  isPlain_of_isDigit (Nat.isDigit_of_mem_toDigits (by decide) (by decide) h)

theorem clean_decimal (n : Int) : Clean (Number.decimal n).toList := by
  rw [Number.toList_decimal]
  refine clean_append ?_ (clean_of_isPlain fun c hc => isPlain_toDigits hc)
  split
  · decide
  · exact clean_nil

/-- Digits with at most one point. -/
theorem clean_plainDigits (d : Decimal) : Clean (Binary64.plainDigits d) := by
  have digits : ∀ c ∈ d.digitChars, isPlain c = true := fun c hc => isPlain_toDigits hc
  have zeros (n : Nat) : ∀ c ∈ List.replicate n '0', isPlain c = true := fun c hc => by
    rw [(List.mem_replicate.mp hc).2]
    decide
  refine clean_of_isPlain fun c hc => ?_
  unfold Binary64.plainDigits at hc
  split at hc
  · rcases List.mem_append.mp hc with hc | hc
    · exact digits c hc
    · exact zeros _ c hc
  · dsimp only at hc
    split at hc
    · rcases List.mem_append.mp hc with hc | hc
      · exact digits c (List.mem_of_mem_take hc)
      · rcases List.mem_cons.mp hc with rfl | hc
        · decide
        · exact digits c (List.mem_of_mem_drop hc)
    · simp only [List.cons_append, List.mem_cons] at hc
      rcases hc with rfl | rfl | hc
      · decide
      · decide
      · rcases List.mem_append.mp hc with hc | hc
        · exact zeros _ c hc
        · exact digits c hc

theorem clean_plain (x : Binary64) : Clean x.plain.toList := by
  have signed (negative : Bool) {cs : List Char} (h : Clean cs) :
      Clean (String.ofList (Binary64.signChars negative ++ cs)).toList := by
    rw [String.toList_ofList]
    refine clean_append ?_ h
    cases negative <;> decide
  cases x with
  | nan => decide
  | infinite negative => exact signed negative (by decide)
  | finite negative rank => exact signed negative (clean_plainDigits _)

theorem clean_multiValue (values : List Int64) : Clean (MultiValue.literal values).toList := by
  simp only [MultiValue.literal, String.toList_append, String.toList_intercalate]
  refine clean_append (clean_append (by decide) (clean_intercalate (by decide) fun part hp => ?_))
    (by decide)
  simp only [List.map_map, List.mem_map, Function.comp_apply] at hp
  obtain ⟨i, -, rfl⟩ := hp
  exact clean_decimal i.toInt

/-- A literal holds no placeholder and leaves no region open. -/
theorem clean_literal (p : Param) : Clean p.literal.toList := by
  cases p with
  | null => decide
  | integer n => exact clean_decimal n.toInt
  | real x =>
    rw [literal]
    split
    · exact clean_plain x
    · decide
  | text s => exact clean_quote s
  | bool b => cases b <;> decide
  | multi values => exact clean_multiValue values

end Param

end SearchQL
