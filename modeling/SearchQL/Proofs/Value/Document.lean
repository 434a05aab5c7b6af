import SearchQL.Entity.Cast
import SearchQL.Proofs.Value.Lexeme

/-!
# Documents — objects that are bound and read back

A value that is an object leaves the library as document text and comes back as
text, and a cast makes an object of it again. Writer and reader share no code: the
writer is a recursion over the value, the reader a machine over tokens with a stack.
This module says that the second undoes the first.

What is read back unchanged are the `Exact` values: their numbers are integers of a
word, and their objects have their fields in order, each name once. The reader limits
how many containers may be open at once and the writer does not, so an exact value is
read back up to that `depth` and refused beyond it (`read?_json`).

The proof runs the machine over what the writer wrote. `readFrom?` is the machine at
any moment, with the open containers, what may come next and the characters that are
left, and `readFrom?_chars` says that a whole value is passed in one stride: the
machine is after it as it would be after a single token, with the same containers open.
The recursion is the writer's own, a value beside its further items and fields. What
it carries is that the characters behind a value end a word and that the containers
that are open are within the limit.
-/

namespace SearchQL

/-- A name behind all the others is added at the end. -/
theorem Fields.insert_of_above {α : Type} {fields : Fields α} {name : String}
    (above : ∀ f ∈ fields, f.1 < name) (value : α) :
    fields.insert name value = fields ++ [(name, value)] := by
  induction fields with
  | nil => rfl
  | cons f fields ih =>
    obtain ⟨first, others⟩ := List.forall_mem_cons.mp above
    have apart : name ≠ f.1 := fun same => String.lt_irrefl _ (same ▸ first)
    rw [insert, if_neg (String.lt_asymm first), if_neg apart, ih others, List.cons_append]

namespace Value

/-! ## Exact values and their depth -/

mutual

/-- How many containers stand in one another, at the most. -/
def depth : Value → Nat
  | .array items => 1 + depthOfItems items
  | .object fields => 1 + depthOfFields fields
  | _ => 0

/-- The depth of the deepest of several items. -/
def depthOfItems : List Value → Nat
  | [] => 0
  | v :: rest => max v.depth (depthOfItems rest)

/-- The depth of the deepest of several fields. -/
def depthOfFields : List (String × Value) → Nat
  | [] => 0
  | (_, v) :: rest => max v.depth (depthOfFields rest)

end

mutual

/-- Whether every number in a value is an integer of a word, and every object in it has its fields in
order. -/
def Exact : Value → Prop
  | .number n => n.FitsWord
  | .array items => ExactItems items
  | .object fields => Fields.Ordered fields ∧ ExactFields fields
  | _ => True

/-- Whether all items are exact. -/
def ExactItems : List Value → Prop
  | [] => True
  | v :: rest => v.Exact ∧ ExactItems rest

/-- Whether the values of all fields are exact. -/
def ExactFields : List (String × Value) → Prop
  | [] => True
  | (_, v) :: rest => v.Exact ∧ ExactFields rest

end

/-! ## The machine in the middle of a document -/

/-- What becomes of the rest of a document: the containers that are open, what may come next and the
characters that are left. -/
def readFrom? (stack : List Frame) (next : Expectation) (cs : List Char) : Option Value :=
  (Token.scan? .between cs).bind (run? stack next)

variable {stack : List Frame} {next : Expectation} {cs rest : List Char} {t : Token}

/-- A token is one step of the machine. -/
theorem readFrom?_of_scan?
    (scanned : Token.scan? .between cs = (Token.scan? .between rest).map (t :: ·)) :
    readFrom? stack next cs =
      (step? stack next t).bind fun state => readFrom? state.1 state.2 rest := by
  unfold readFrom?
  rw [scanned]
  cases Token.scan? .between rest with
  | none => cases step? stack next t <;> rfl
  | some ts =>
    rw [Option.map_some, Option.bind_some, run?]
    cases step? stack next t <;> rfl

theorem readFrom?_sign {c : Char} (sign : Token.sign? c = some t) :
    readFrom? stack next (c :: rest) =
      (step? stack next t).bind fun state => readFrom? state.1 state.2 rest :=
  readFrom?_of_scan? (Token.scan?_of_sign? sign rest)

/-- Where a value may come next, it begins in the same way, also as the first item of an array. -/
theorem step?_of_allows (allows : next = .value ∨ next = .firstItem) (no_end : t ≠ .closeArray) :
    step? stack next t = begin? stack t := by
  rcases allows with rfl | rfl
  · rfl
  · unfold step?
    split <;> simp_all

/-- A value of one token is complete after it. -/
theorem readFrom?_leaf {v : Value} (allows : next = .value ∨ next = .firstItem)
    (leaf : t = .word v ∨ ∃ s, t = .text s ∧ v = .text s)
    (scanned : Token.scan? .between cs = (Token.scan? .between rest).map (t :: ·)) :
    readFrom? stack next cs = readFrom? stack (.after v) rest := by
  rw [readFrom?_of_scan? scanned]
  rcases leaf with rfl | ⟨s, rfl, rfl⟩ <;> rw [step?_of_allows allows (by simp)] <;> rfl

/-- A container is refused if too many are open already, and so is what is too deep inside it. -/
theorem readFrom?_open {c : Char} {frame : Frame} {first : Expectation} {inner : Nat}
    {result : Option Value} (allows : next = .value ∨ next = .firstItem)
    (sign : Token.sign? c = some t) (no_end : t ≠ .closeArray)
    (opens : begin? stack t = openFrame? frame first stack)
    (inside : stack.length < depthLimit → readFrom? (frame :: stack) first cs =
      if stack.length + 1 + inner ≤ depthLimit then result else none) :
    readFrom? stack next (c :: cs) =
      if stack.length + (1 + inner) ≤ depthLimit then result else none := by
  rw [readFrom?_sign sign, step?_of_allows allows no_end, opens, openFrame?, ← Nat.add_assoc]
  by_cases more : stack.length < depthLimit
  · rw [if_pos more, Option.bind_some, inside more]
  · rw [if_neg more, if_neg (by omega)]
    rfl

/-- What follows a value in a container is read if the value is, and the deeper of the two counts. -/
theorem readFrom?_then {frame : Frame} {v : Value} {inner : Nat} {result : Option Value}
    (value : readFrom? (frame :: stack) next (v.chars ++ rest) =
      if stack.length + 1 + v.depth ≤ depthLimit then readFrom? (frame :: stack) (.after v) rest
      else none)
    (others : readFrom? (frame :: stack) (.after v) rest =
      if stack.length + 1 + inner ≤ depthLimit then result else none) :
    readFrom? (frame :: stack) next (v.chars ++ rest) =
      if stack.length + 1 + max v.depth inner ≤ depthLimit then result else none := by
  rw [value, others, ← ite_and]
  refine if_congr ?_ rfl rfl
  omega

/-- The name of a field and the colon behind it. -/
theorem readFrom?_field {done : Fields Value} {previous : String}
    (names : next = .firstField ∨ next = .field) (name : String) :
    readFrom? (.fields done previous :: stack) next (quotedChars name ++ ':' :: rest) =
      readFrom? (.fields done name :: stack) .value rest := by
  have named : step? (.fields done previous :: stack) next (.text name) =
      some (.fields done name :: stack, .colon) := by
    rcases names with rfl | rfl <;> rfl
  rw [readFrom?_of_scan? (Token.scan?_quotedChars name _), named, Option.bind_some]
  exact readFrom?_sign (t := .colon) rfl

/-! ## What is written, up to its first sign -/

section Written

variable (v : Value) (items : List Value) (name : String) (fields : List (String × Value))
  (rest : List Char)

theorem chars_array_append :
    (array (v :: items)).chars ++ rest = '[' :: (v.chars ++ (charsOfItems items ++ rest)) := by
  simp [chars]

theorem chars_object_append :
    (object ((name, v) :: fields)).chars ++ rest =
      '\x7b' :: (quotedChars name ++ ':' :: (v.chars ++ (charsOfFields fields ++ rest))) := by
  simp [chars]

theorem charsOfItems_append :
    charsOfItems (v :: items) ++ rest = ',' :: (v.chars ++ (charsOfItems items ++ rest)) := by
  simp [charsOfItems]

theorem charsOfFields_append :
    charsOfFields ((name, v) :: fields) ++ rest =
      ',' :: (quotedChars name ++ ':' :: (v.chars ++ (charsOfFields fields ++ rest))) := by
  simp [charsOfFields]

theorem endsWord_charsOfItems : Token.EndsWord (charsOfItems items ++ rest) := by
  cases items <;>
  · rintro c ⟨⟩
    rfl

theorem endsWord_charsOfFields : Token.EndsWord (charsOfFields fields ++ rest) := by
  cases fields <;>
  · rintro c ⟨⟩
    rfl

end Written

/-! ## Reading what is written -/

mutual

/-- A value is passed in one stride, unless its containers are too many. -/
theorem readFrom?_chars (v : Value) (exact : v.Exact) {stack : List Frame} {next : Expectation}
    {rest : List Char} (room : stack.length ≤ depthLimit)
    (allows : next = .value ∨ next = .firstItem) (ends : Token.EndsWord rest) :
    readFrom? stack next (v.chars ++ rest) =
      if stack.length + v.depth ≤ depthLimit then readFrom? stack (.after v) rest else none := by
  match v with
  | .null =>
    have read : Token.ofWord? null.chars = some (.word .null) := rfl
    have continues : null.chars.all Token.continuesWord = true := by decide
    have scanned :=
      Token.scan?_of_ofWord? read (List.all_eq_true.mp continues) (List.cons_ne_nil _ _) ends
    exact (readFrom?_leaf allows (.inl rfl) scanned).trans (if_pos room).symm
  | .bool b =>
    have read : Token.ofWord? (bool b).chars = some (.word (.bool b)) := by cases b <;> rfl
    have continues : (bool b).chars.all Token.continuesWord = true := by cases b <;> decide
    have some_char : (bool b).chars ≠ [] := by cases b <;> exact List.cons_ne_nil _ _
    have scanned := Token.scan?_of_ofWord? read (List.all_eq_true.mp continues) some_char ends
    exact (readFrom?_leaf allows (.inl rfl) scanned).trans (if_pos room).symm
  | .number (.integer n) =>
    have scanned := Token.scan?_of_ofWord? (Token.ofWord?_decimal exact)
      (fun _ => Token.continuesWord_of_mem_decimal) (MultiValue.decimal_ne_nil n) ends
    exact (readFrom?_leaf allows (.inl rfl) scanned).trans (if_pos room).symm
  | .number (.real x) => exact exact.elim
  | .text s =>
    have scanned := Token.scan?_quotedChars s rest
    exact (readFrom?_leaf allows (.inr ⟨s, rfl, rfl⟩) scanned).trans (if_pos room).symm
  | .array [] =>
    refine readFrom?_open allows rfl (by simp) rfl fun more => ?_
    exact (readFrom?_sign (t := .closeArray) rfl).trans (if_pos more).symm
  | .array (v :: items) =>
    rw [chars_array_append]
    refine readFrom?_open allows rfl (by simp) rfl fun more => ?_
    exact readFrom?_then
      (readFrom?_chars v exact.1 more (.inr rfl) (endsWord_charsOfItems items rest))
      (readFrom?_charsOfItems items exact.2 more)
  | .object [] =>
    refine readFrom?_open allows rfl (by simp) rfl fun more => ?_
    exact (readFrom?_sign (t := .closeObject) rfl).trans (if_pos more).symm
  | .object ((name, v) :: fields) =>
    rw [chars_object_append]
    refine readFrom?_open allows rfl (by simp) rfl fun more => ?_
    rw [readFrom?_field (.inl rfl)]
    exact readFrom?_then
      (readFrom?_chars v exact.2.1 more (.inl rfl) (endsWord_charsOfFields fields rest))
      (readFrom?_charsOfFields fields exact.2.2 more exact.1)

/-- The further items of an array are read up to its end. -/
theorem readFrom?_charsOfItems (items : List Value) (exact : ExactItems items)
    {stack : List Frame} {rest : List Char} {v : Value} {done : List Value}
    (room : stack.length < depthLimit) :
    readFrom? (.items done :: stack) (.after v) (charsOfItems items ++ rest) =
      if stack.length + 1 + depthOfItems items ≤ depthLimit then
        readFrom? stack (.after (.array ((v :: done).reverse ++ items))) rest
      else none := by
  match items with
  | [] =>
    rw [List.append_nil]
    exact (readFrom?_sign (t := .closeArray) rfl).trans (if_pos room).symm
  | w :: items =>
    rw [charsOfItems_append, List.append_cons, ← List.reverse_cons]
    refine (readFrom?_sign (t := .comma) rfl).trans ?_
    exact readFrom?_then
      (readFrom?_chars w exact.1 room (.inl rfl) (endsWord_charsOfItems items rest))
      (readFrom?_charsOfItems items exact.2 room)

/-- The further fields of an object are read up to its end. Each goes behind those before it, because
the fields were in order. -/
theorem readFrom?_charsOfFields (fields : Fields Value) (exact : ExactFields fields)
    {stack : List Frame} {rest : List Char} {name : String} {v : Value} {done : Fields Value}
    (room : stack.length < depthLimit) (ordered : Fields.Ordered (done ++ (name, v) :: fields)) :
    readFrom? (.fields done name :: stack) (.after v) (charsOfFields fields ++ rest) =
      if stack.length + 1 + depthOfFields fields ≤ depthLimit then
        readFrom? stack (.after (.object (done ++ (name, v) :: fields))) rest
      else none := by
  have above : ∀ f ∈ done, f.1 < name := fun f mem =>
    (List.pairwise_append.mp ordered).2.2 f mem (name, v) List.mem_cons_self
  have added := Fields.insert_of_above above v
  match fields with
  | [] =>
    rw [← added]
    exact (readFrom?_sign (t := .closeObject) rfl).trans (if_pos room).symm
  | (other, w) :: fields =>
    rw [charsOfFields_append, List.append_cons done, ← added]
    rw [List.append_cons, ← added] at ordered
    refine (readFrom?_sign (t := .comma) rfl).trans ?_
    refine (readFrom?_field (.inr rfl) other).trans ?_
    exact readFrom?_then
      (readFrom?_chars w exact.1 room (.inl rfl) (endsWord_charsOfFields fields rest))
      (readFrom?_charsOfFields fields exact.2 room ordered)

end

/-- What is written for an exact value is read as the value, unless its containers are too many. -/
theorem read?_json {v : Value} (exact : v.Exact) :
    read? v.json = if v.depth ≤ depthLimit then some v else none := by
  have whole : read? v.json = readFrom? [] .value (v.chars ++ []) := by
    rw [read?, Token.ofDocument?, json, String.toList_ofList, List.append_nil]
    rfl
  have ends : Token.EndsWord [] := by simp [Token.EndsWord]
  rw [whole, readFrom?_chars v exact (Nat.zero_le _) (.inl rfl) ends, List.length_nil, Nat.zero_add]
  rfl

end Value

/-- **An object that is bound comes back.** An object whose numbers are integers of a word is bound as
text, and the document cast of this text is the object again, as long as no more containers stand in
one another than a document may have open. Beyond that the text is refused as no document. -/
theorem decode_bound_object {fields : Fields Value} (exact : (Value.object fields).Exact) :
    ∃ s, Param.ofValue (.object fields) = .ok (.text s) ∧
      ((Value.object fields).depth ≤ Value.depthLimit →
        Cast.document.decode (.text s) = .ok (.object fields)) ∧
      (Value.depthLimit < (Value.object fields).depth →
        Cast.document.decode (.text s) = .error (.decode s .notDocument)) := by
  have read := Value.read?_json exact
  refine ⟨(Value.object fields).json, rfl, fun shallow => ?_, fun deep => ?_⟩
  · rw [if_pos shallow] at read
    rw [Cast.decode, Cast.toDocument, read]
    nofun
  · rw [if_neg (Nat.not_le.mpr deep)] at read
    rw [Cast.decode, Cast.toDocument, read]
    nofun

/-- The ends of both ranges of words, signs of the document inside names and texts, and empty
containers. -/
theorem decode_bound_object_nested :
    let words : Value :=
      .array [.number (.integer (-9223372036854775808)), .number (.integer 18446744073709551615)]
    let fields : Fields Value :=
      [("\n\"", .array [words, .object [("\x7d", .array []), ("é\\", .null)]]), ("[", .text "\x01,"),
        ("b", .object []), ("c", .bool false)]
    (Value.object fields).Exact ∧ (Value.object fields).depth = 4 ∧
      ∃ s, Param.ofValue (.object fields) = .ok (.text s) ∧
        Cast.document.decode (.text s) = .ok (.object fields) := by
  intro words fields
  have ordered : Fields.Ordered fields := by
    unfold Fields.Ordered
    decide
  have words_fit : words.Exact := ⟨.inl (by decide), .inr (by decide), trivial⟩
  have inner : Fields.Ordered [("\x7d", Value.array []), ("é\\", Value.null)] := by
    unfold Fields.Ordered
    decide
  have exact : (Value.object fields).Exact :=
    ⟨ordered, ⟨words_fit, ⟨inner, trivial, trivial, trivial⟩, trivial⟩, trivial,
      ⟨List.Pairwise.nil, trivial⟩, trivial, trivial⟩
  obtain ⟨s, bound, read, -⟩ := decode_bound_object exact
  exact ⟨exact, rfl, s, bound, read (by decide)⟩

end SearchQL
