import SearchQL.Connection.Operation
import SearchQL.Proofs.Number.Numeral
import SearchQL.Proofs.Value.Spelling

/-!
# Counts — the number that an aggregate denotes, and zero

The answer to a count is the aggregate of the first row. An aggregate denotes an
unsigned word as a number with exactly that value or as the digits of it
(`Value.Denotes`), and a count ought to be the word that its aggregate denotes, or
else an error (`TrueTo`).

Texts are read that way. Of the numbers only the unsigned words themselves are:
negative ones and all doubles count as zero, and so does an aggregate that is neither
number nor text (`Value.CountsUnread`). None of these is reported. Main statement
(`countAnswer_of_aggregate`): what a count answers to each aggregate, on any link. So
a count is true to its aggregate unless this is unread and no zero, and a number and
its text are taken alike exactly if the number is an unsigned word.
-/

namespace SearchQL

/-! ## Unsigned words in documents -/

/-- Whether a value denotes an unsigned word: a number by its exact value, a text by its digits,
which may have a plus sign before them. -/
inductive Value.Denotes (n : UInt64) : Value → Prop
  | number {m : Number} : m.HasValue n.toNat → Denotes n (.number m)
  | digits {s : String} : Number.Digits s.toList n.toNat → Denotes n (.text s)
  | plus {s : String} {cs : List Char} :
      s.toList = '+' :: cs → Number.Digits cs n.toNat → Denotes n (.text s)

/-- A text that denotes a word is a numeral of it. -/
theorem Value.Denotes.numeral {n : UInt64} {s : String} (h : Value.Denotes n (.text s)) :
    Number.Numeral s.toList n.toNat := by
  rcases h with _ | digits | ⟨plus, digits⟩
  · exact .unsigned digits
  · exact plus ▸ .plus digits

namespace Number

/-- Exactly the texts that denote a word are read, each as this word. -/
theorem readUInt64?_eq_some_iff {s : String} {n : UInt64} :
    readUInt64? s = some n ↔ Value.Denotes n (.text s) := by
  have signed {cs : List Char} {m : Nat} : ¬ Digits ('-' :: cs) m := fun h =>
    absurd (h.isDigit_of_mem '-' List.mem_cons_self) (by decide)
  rw [readUInt64?]
  split
  · next cs text =>
    refine iff_of_false (Option.some_ne_none n).symm ?_
    rintro (_ | digits | ⟨plus, -⟩)
    · exact signed (text ▸ digits)
    · cases text.symm.trans plus
  · next no_minus =>
    simp only [Option.bind_eq_some_iff, integer?_eq_some_iff, toUInt64?_eq_some_iff,
      exists_eq_right]
    constructor
    · intro numeral
      generalize text : s.toList = cs at numeral
      generalize word : (n.toNat : Int) = m at numeral
      cases numeral with
      | unsigned digits => exact .digits (text ▸ Int.ofNat.inj word ▸ digits)
      | plus digits => exact .plus text (Int.ofNat.inj word ▸ digits)
      | minus _ => exact absurd text (no_minus _)
    · exact Value.Denotes.numeral

/-- The text of a double has a point or an exponent. -/
theorem point_or_exponent_mem_realChars (rank : Nat) :
    '.' ∈ realChars rank ∨ 'e' ∈ realChars rank := by
  rw [realChars]
  generalize Binary64.shortest .even rank = d
  simp only []
  split
  · left
    split
    · next negative =>
      rw [Binary64.plainDigits, if_neg (Int.not_le.mpr negative)]
      simp only []
      split <;> simp
    · simp
  · rw [scientificChars]
    split
    · next none => exact absurd none Nat.toDigits_ne_nil
    · simp [exponentChars]
    · simp

theorem not_numeral_chars_real (x : Binary64) (n : Int) : ¬ Numeral (Number.real x).chars n := by
  intro numeral
  have foreign {c : Char} (mem : c ∈ (Number.real x).chars) : c ≠ '.' ∧ c ≠ 'e' ∧ c ≠ 'n' := by
    rcases numeral.of_mem mem with rfl | rfl | digit
    · decide
    · decide
    · refine ⟨?_, ?_, ?_⟩ <;> rintro rfl <;> cases digit
  cases x with
  | finite negative rank =>
    rcases point_or_exponent_mem_realChars rank with mem | mem
    · exact (foreign (List.mem_append_right _ mem)).1 rfl
    · exact (foreign (List.mem_append_right _ mem)).2.1 rfl
  | _ => exact (foreign List.mem_cons_self).2.2 rfl

end Number

/-! ## One aggregate -/

namespace Value

/-- An aggregate that counts as zero without being read: a number that is no unsigned word, or
neither a number nor a text. -/
def CountsUnread : Value → Prop
  | .number (.integer m) => ¬ Number.FitsUnsigned m
  | .number (.real _) => True
  | .text _ => False
  | _ => True

/-- What is read off an answer whose first row has this aggregate. -/
def countAnswer (v : Value) : Except Error Answer := Query.readCount [[("aggregate", v)]]

/-- An answer is true to an aggregate: it is a number only if the aggregate denotes this number, and
an error of decoding if the aggregate is a number or a text and denotes none. -/
structure TrueTo (answer : Except Error Answer) (v : Value) : Prop where
  denoted : ∀ n, answer = .ok (.number n) → v.Denotes n
  refused : (∀ n, ¬ v.Denotes n) → (∃ m, v = .number m) ∨ (∃ s, v = .text s) →
    ∃ text fault, answer = .error (.decode text fault)

variable {v : Value} {s : String}

theorem readCount_eq_countAnswer {rows : List Row}
    (aggregate : rows.head?.bind (Fields.get? "aggregate") = some v) :
    Query.readCount rows = v.countAnswer := by
  rw [Query.readCount, aggregate]
  rfl

theorem countAnswer_number (m : Number) :
    (number m).countAnswer = .ok (.number (m.uint64?.getD 0)) := rfl

theorem countAnswer_text_of_read {n : UInt64} (read : Number.readUInt64? s = some n) :
    (text s).countAnswer = .ok (.number n) := by
  simp [countAnswer, Query.readCount, Fields.get?, read]

theorem countAnswer_text_of_unread (unread : Number.readUInt64? s = none) :
    (text s).countAnswer = .error (.decode s .notCount) := by
  simp [countAnswer, Query.readCount, Fields.get?, unread]

theorem countAnswer_of_countsUnread (unread : v.CountsUnread) :
    v.countAnswer = .ok (.number 0) := by
  cases v with
  | text s => exact unread.elim
  | number m =>
    cases m with
    | integer m =>
      rw [countAnswer_number, Number.uint64?, Number.toUInt64?, if_neg unread]
      rfl
    | real x => rfl
  | _ => rfl

theorem denotes_integer_iff {m : Int} {n : UInt64} :
    (number (.integer m)).Denotes n ↔ Number.toUInt64? m = some n := by
  rw [Number.toUInt64?_eq_some_iff]
  constructor
  · rintro ⟨value⟩
    exact value
  · exact fun value => .number value

theorem readUInt64?_chars_real (x : Binary64) :
    Number.readUInt64? (String.ofList (Number.real x).chars) = none := by
  rw [Option.eq_none_iff_forall_ne_some]
  intro n read
  have numeral := (Number.readUInt64?_eq_some_iff.mp read).numeral
  rw [String.toList_ofList] at numeral
  exact Number.not_numeral_chars_real x _ numeral

/-- An aggregate that is read counts as the word that it denotes. -/
theorem countAnswer_eq_ok_iff (read : ¬ v.CountsUnread) {n : UInt64} :
    v.countAnswer = .ok (.number n) ↔ v.Denotes n := by
  cases v with
  | text s =>
    rw [← Number.readUInt64?_eq_some_iff]
    cases h : Number.readUInt64? s with
    | some word => simp [countAnswer_text_of_read h]
    | none => simp [countAnswer_text_of_unread h]
  | number m =>
    cases m with
    | integer m =>
      rw [countAnswer_number, denotes_integer_iff, Number.uint64?]
      have fits : Number.toUInt64? m = some _ := if_pos (not_not.mp read)
      simp [fits]
    | real x => exact absurd trivial read
  | _ => exact absurd trivial read

theorem countAnswer_of_not_denotes (read : ¬ v.CountsUnread) (none : ∀ n, ¬ v.Denotes n) :
    ∃ s, v = .text s ∧ v.countAnswer = .error (.decode s .notCount) := by
  cases v with
  | text s =>
    cases h : Number.readUInt64? s with
    | some word => exact absurd (Number.readUInt64?_eq_some_iff.mp h) (none word)
    | none => exact ⟨s, rfl, countAnswer_text_of_unread h⟩
  | number m =>
    cases m with
    | integer m =>
      have fits : Number.toUInt64? m = some _ := if_pos (not_not.mp read)
      exact absurd (denotes_integer_iff.mpr fits) (none _)
    | real x => exact absurd trivial read
  | _ => exact absurd trivial read

/-- A count is true to its aggregate unless this is unread and no zero. -/
theorem trueTo_countAnswer_iff : TrueTo v.countAnswer v ↔ (v.CountsUnread → v.Denotes 0) := by
  constructor
  · intro law unread
    exact law.denoted 0 (countAnswer_of_countsUnread unread)
  · intro zero
    by_cases unread : v.CountsUnread
    · have answer := countAnswer_of_countsUnread unread
      refine ⟨fun n counted => ?_, fun none _ => absurd (zero unread) (none 0)⟩
      cases answer.symm.trans counted
      exact zero unread
    · refine ⟨fun n => (countAnswer_eq_ok_iff unread).mp, fun none _ => ?_⟩
      obtain ⟨s, -, refused⟩ := countAnswer_of_not_denotes unread none
      exact ⟨s, .notCount, refused⟩

/-- A number and its text are taken alike exactly if the number is an unsigned word. -/
theorem countAnswer_number_eq_text_iff (m : Number) :
    (number m).countAnswer = (text (String.ofList m.chars)).countAnswer ↔
      ∃ n : UInt64, m = .integer n.toNat := by
  cases m with
  | integer m =>
    simp only [Number.integer.injEq, ← Number.toUInt64?_eq_some_iff]
    rw [countAnswer_number, Number.uint64?, Number.chars, String.ofList_toList]
    cases word : Number.toUInt64? m with
    | some n =>
      rw [countAnswer_text_of_read ((readUInt64?_decimal m).trans word)]
      exact iff_of_true rfl ⟨n, rfl⟩
    | none =>
      rw [countAnswer_text_of_unread ((readUInt64?_decimal m).trans word)]
      simp
  | real x =>
    rw [countAnswer_text_of_unread (readUInt64?_chars_real x), countAnswer_number]
    simp

end Value

/-! ## Counts on a link -/

namespace Operation

/-- What a link answers to the count of a query that calls build. -/
def countAnswer (tablePrefix : String) (table : Option String) (calls : List QueryCall)
    (link : Link) : Except Error Answer :=
  ((query table calls .count).run tablePrefix link).answer

/-- The query of a count compiles and may match something, and the first row that the link answers
has this aggregate. -/
def CountAnswered (tablePrefix : String) (table : Option String) (calls : List QueryCall)
    (link : Link) (v : Value) : Prop :=
  ∃ q s rows, ({ index := table } : Query).applyCalls calls = .ok q ∧
    q.count tablePrefix = .ok s ∧ s.matchesNothing = false ∧
    (link.fetch (Query.request .count s)).answer = .ok rows ∧
    rows.head?.bind (Fields.get? "aggregate") = some v

variable {tablePrefix : String} {table : Option String} {calls : List QueryCall} {link : Link}
  {v : Value}

theorem countAnswer_of_countAnswered (answered : CountAnswered tablePrefix table calls link v) :
    countAnswer tablePrefix table calls link = v.countAnswer := by
  obtain ⟨q, s, rows, built, compiled, matters, fetched, aggregate⟩ := answered
  have sent : (query table calls .count).plan tablePrefix =
      .fetch (Query.request .count s) Query.readCount := by
    simp [plan, Plan.after, Query.terminalPlan, Query.fetchPlan, built, compiled, matters]
  rw [countAnswer, run, sent]
  show (link.fetch (Query.request .count s)).answer.bind Query.readCount = _
  rw [fetched]
  exact Value.readCount_eq_countAnswer aggregate

/-- **A count is the word that its aggregate denotes, or an error**, unless the aggregate is not
read: any number but an unsigned word, and what is neither number nor text, counts as zero. So a
count is true to its aggregate unless this is unread and no zero, and a number and its text are
taken alike exactly if the number is an unsigned word. -/
theorem countAnswer_of_aggregate (answered : CountAnswered tablePrefix table calls link v) :
    (v.CountsUnread → countAnswer tablePrefix table calls link = .ok (.number 0)) ∧
      (¬ v.CountsUnread →
        (∀ n, countAnswer tablePrefix table calls link = .ok (.number n) ↔ v.Denotes n) ∧
        ((∀ n, ¬ v.Denotes n) → ∃ s, v = .text s ∧
          countAnswer tablePrefix table calls link = .error (.decode s .notCount))) ∧
      (Value.TrueTo (countAnswer tablePrefix table calls link) v ↔
        (v.CountsUnread → v.Denotes 0)) ∧
      ∀ m other, v = .number m →
        CountAnswered tablePrefix table calls other (.text (String.ofList m.chars)) →
        (countAnswer tablePrefix table calls link = countAnswer tablePrefix table calls other ↔
          ∃ n : UInt64, m = .integer n.toNat) := by
  rw [countAnswer_of_countAnswered answered]
  refine ⟨Value.countAnswer_of_countsUnread, fun read => ⟨fun n => ?_, ?_⟩,
    Value.trueTo_countAnswer_iff, ?_⟩
  · exact Value.countAnswer_eq_ok_iff read
  · exact Value.countAnswer_of_not_denotes read
  · rintro m other rfl text_answered
    rw [countAnswer_of_countAnswered text_answered]
    exact Value.countAnswer_number_eq_text_iff m

/-- A link that answers a count of products with one row of this aggregate. -/
def countLink (aggregate : Value) : Link :=
  .recording (({} : Recorder).respond "SELECT COUNT(*) AS aggregate FROM rt_products"
    [[("aggregate", aggregate)]])

theorem countAnswered_countLink (aggregate : Value) :
    CountAnswered "rt_" (some "products") [] (countLink aggregate) aggregate :=
  ⟨{ index := some "products" }, _, [[("aggregate", aggregate)]], rfl, rfl, rfl, rfl, rfl⟩

/-- A text is read with its sign and its zeros; a negative number counts as zero, and its text is
refused. -/
theorem countAnswer_of_aggregate_signed :
    countAnswer "rt_" (some "products") [] (countLink (.text "+07")) = .ok (.number 7) ∧
      countAnswer "rt_" (some "products") [] (countLink (.number (.integer (-1)))) =
        .ok (.number 0) ∧
      countAnswer "rt_" (some "products") [] (countLink (.number (.integer (-1)))) ≠
        countAnswer "rt_" (some "products") [] (countLink (.text "-1")) := by
  obtain ⟨-, read, -, -⟩ := countAnswer_of_aggregate (countAnswered_countLink (.text "+07"))
  obtain ⟨unread, -, -, alike⟩ :=
    countAnswer_of_aggregate (countAnswered_countLink (.number (.integer (-1))))
  have seven : Value.Denotes 7 (.text "+07") :=
    Number.readUInt64?_eq_some_iff.mp (by decide +kernel)
  have negative : ¬ Number.FitsUnsigned (-1) := by decide
  refine ⟨((read id).1 7).mpr seven, unread negative, ?_⟩
  intro same
  obtain ⟨n, eq⟩ := (alike _ _ rfl (countAnswered_countLink (.text "-1"))).mp same
  cases n.toNat <;> cases eq

/-- A count of minus one is answered with zero, which is not true to it. -/
theorem not_trueTo_minus_one :
    CountAnswered "rt_" (some "products") [] (countLink (.number (.integer (-1))))
        (.number (.integer (-1))) ∧
      countAnswer "rt_" (some "products") [] (countLink (.number (.integer (-1)))) =
        .ok (.number 0) ∧
      ¬ Value.TrueTo (countAnswer "rt_" (some "products") []
        (countLink (.number (.integer (-1))))) (.number (.integer (-1))) := by
  have answer : countAnswer "rt_" (some "products") [] (countLink (.number (.integer (-1)))) =
      .ok (.number 0) := rfl
  refine ⟨countAnswered_countLink _, answer, fun law => ?_⟩
  obtain ⟨value⟩ := law.denoted 0 answer
  cases value

end Operation

end SearchQL
