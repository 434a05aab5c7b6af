import Mathlib.Data.List.Induction
import Mathlib.Data.List.Nodup
import SearchQL.Proofs.MultiValue.RoundTrip

/-!
# Filter arguments — the integers of their leaves, each once

The arguments of a filter on a multi-value attribute are values, and arrays among
them may hold arrays. What counts is the sequence of their leaves from left to
right, without nulls and blank texts: the `terms`. The arrays around them, and how
deep they stand, are lost on the way.

Preparing the arguments threads one list of integers through all levels, so the
levels share one memory of what was found before. `addArguments_eq_collect` takes the
nesting out: preparing arguments is collecting the integers of their terms, each
unless it is there already. The induction is on the nesting, and what carries it is
that collecting goes through an append.

Main statement (`arguments_normalized`): the arguments are accepted exactly if every
term is an integer, and the integers are then those of the terms in the order of their
first occurrences; the first term that is none words the error. That nesting, later
repetitions and a second preparation change nothing follows from this, because none
of them changes the first occurrences of the terms.
-/

namespace SearchQL

/-! ## First occurrences -/

/-- The second list is the first without what stands further ahead already. -/
structure FirstOccurrences {α : Type} [DecidableEq α] (xs ys : List α) : Prop where
  nodup : ys.Nodup
  mem_iff : ∀ x, x ∈ ys ↔ x ∈ xs
  inOrder : ys.Pairwise fun x y => xs.idxOf x < xs.idxOf y

/-- Adds what is not there yet. -/
def keepFirst {α : Type} [DecidableEq α] (found : List α) (x : α) : List α :=
  if x ∈ found then found else found ++ [x]

section KeepFirst

variable {α : Type} [DecidableEq α] {found xs : List α}

theorem foldl_keepFirst_of_subset (h : xs ⊆ found) : xs.foldl keepFirst found = found := by
  induction xs with
  | nil => rfl
  | cons x xs ih =>
    obtain ⟨there, others⟩ := List.cons_subset.mp h
    rw [List.foldl_cons, keepFirst, if_pos there, ih others]

theorem foldl_keepFirst_of_nodup (disjoint : ∀ x ∈ xs, x ∉ found) (nodup : xs.Nodup) :
    xs.foldl keepFirst found = found ++ xs := by
  induction xs generalizing found with
  | nil => rw [List.foldl_nil, List.append_nil]
  | cons x xs ih =>
    obtain ⟨apart, nodup⟩ := List.nodup_cons.mp nodup
    obtain ⟨new, others⟩ := List.forall_mem_cons.mp disjoint
    rw [List.foldl_cons, keepFirst, if_neg new, ih ?_ nodup, List.append_assoc,
      List.singleton_append]
    intro y mem
    rw [List.mem_append, List.mem_singleton, not_or]
    exact ⟨others y mem, fun same => apart (same ▸ mem)⟩

/-- Keeping what is not there yet, from nothing on, keeps the first occurrences. -/
theorem firstOccurrences_foldl_keepFirst (xs : List α) :
    FirstOccurrences xs (xs.foldl keepFirst []) := by
  -- from the end: the last element is looked for among what was kept of those before it
  induction xs using List.reverseRecOn with
  | nil => exact ⟨List.nodup_nil, fun _ => Iff.rfl, List.Pairwise.nil⟩
  | append_singleton xs x ih =>
    rw [List.foldl_concat]
    generalize xs.foldl keepFirst [] = found at ih ⊢
    have places : found.Pairwise fun a b => (xs ++ [x]).idxOf a < (xs ++ [x]).idxOf b := by
      refine ih.inOrder.imp_of_mem fun mem_a mem_b before => ?_
      rwa [List.idxOf_append_of_mem ((ih.mem_iff _).mp mem_a),
        List.idxOf_append_of_mem ((ih.mem_iff _).mp mem_b)]
    unfold keepFirst
    split
    · next there =>
      refine ⟨ih.nodup, fun y => ?_, places⟩
      have seen := (ih.mem_iff x).mp there
      rw [ih.mem_iff, List.mem_append, List.mem_singleton]
      exact ⟨.inl, fun h => h.elim id fun same => same ▸ seen⟩
    · next new =>
      have unseen : x ∉ xs := fun mem => new ((ih.mem_iff x).mpr mem)
      refine ⟨?_, fun y => ?_, ?_⟩
      · refine List.nodup_append.mpr ⟨ih.nodup, List.nodup_singleton x, ?_⟩
        rintro a mem _ last rfl
        exact new (List.mem_singleton.mp last ▸ mem)
      · rw [List.mem_append, List.mem_append, ih.mem_iff]
      · refine List.pairwise_append.mpr ⟨places, List.pairwise_singleton _ _, ?_⟩
        intro a mem b last
        have earlier := (ih.mem_iff a).mp mem
        rw [List.mem_singleton.mp last, List.idxOf_append_of_mem earlier,
          List.idxOf_append_of_notMem unseen]
        exact Nat.lt_of_lt_of_le (List.idxOf_lt_length_iff.mpr earlier) (Nat.le_add_right _ _)

end KeepFirst

/-! ## Leaves -/

namespace Value

mutual

/-- The values in a value that are no arrays, from left to right. -/
def leaves : Value → List Value
  | .array items => leavesOf items
  | v => [v]

/-- The leaves of several values, one after the other. -/
def leavesOf : List Value → List Value
  | [] => []
  | v :: rest => v.leaves ++ leavesOf rest

end

/-- Whether a leaf counts as nothing: null, or a text of nothing but blanks. -/
def isNothing : Value → Bool
  | .null => true
  | .text s => Text.isBlankText s
  | _ => false

mutual

theorem leaves_of_mem_leaves {v leaf : Value} (h : leaf ∈ v.leaves) : leaf.leaves = [leaf] := by
  cases v with
  | array items =>
    rw [leaves] at h
    exact leaves_of_mem_leavesOf h
  | _ =>
    rw [leaves, List.mem_singleton] at h
    · subst h
      rfl
    all_goals exact nofun

theorem leaves_of_mem_leavesOf {values : List Value} {leaf : Value} (h : leaf ∈ leavesOf values) :
    leaf.leaves = [leaf] := by
  cases values with
  | nil => cases h
  | cons v rest =>
    rw [leavesOf] at h
    rcases List.mem_append.mp h with h | h
    · exact leaves_of_mem_leaves h
    · exact leaves_of_mem_leavesOf h

end

/-- Values that are no arrays are their own leaves. -/
theorem leavesOf_eq_self {values : List Value} (h : ∀ v ∈ values, v.leaves = [v]) :
    leavesOf values = values := by
  induction values with
  | nil => rfl
  | cons v rest ih =>
    obtain ⟨leaf, others⟩ := List.forall_mem_cons.mp h
    rw [leavesOf, leaf, ih others, List.singleton_append]

end Value

namespace MultiValue

/-- The leaves that count. -/
def terms (values : List Value) : List Value := (Value.leavesOf values).filter (!·.isNothing)

theorem terms_cons (v : Value) (rest : List Value) :
    terms (v :: rest) = v.leaves.filter (!·.isNothing) ++ terms rest := by
  rw [terms, Value.leavesOf, List.filter_append, terms]

theorem terms_leavesOf (values : List Value) : terms (Value.leavesOf values) = terms values := by
  rw [terms, terms, Value.leavesOf_eq_self fun v mem => Value.leaves_of_mem_leavesOf mem]

theorem terms_terms (values : List Value) : terms (terms values) = terms values := by
  have own : Value.leavesOf (terms values) = terms values :=
    Value.leavesOf_eq_self fun v mem => Value.leaves_of_mem_leavesOf (List.mem_of_mem_filter mem)
  rw [terms, own, terms, List.filter_filter]
  simp only [Bool.and_self]

/-! ## Collecting -/

/-- Adds the integers of values to those found before, each unless it is there already. -/
def collect (found : List Int64) (values : List Value) : Except Error (List Int64) :=
  (values.mapM integer).map fun read => read.foldl keepFirst found

theorem collect_nil (found : List Int64) : collect found [] = .ok found := rfl

theorem collect_singleton (found : List Int64) (v : Value) :
    collect found [v] = (integer v).map (keepFirst found) := by
  rw [collect, List.mapM_cons, List.mapM_nil]
  cases integer v <;> rfl

theorem collect_append (found : List Int64) (before after : List Value) :
    collect found (before ++ after) =
      (collect found before).bind fun found => collect found after := by
  unfold collect
  rw [List.mapM_append]
  cases before.mapM integer with
  | error e => rfl
  | ok read =>
    cases after.mapM integer with
    | error e => rfl
    | ok rest => exact congrArg Except.ok List.foldl_append

theorem collect_eq_error_iff {found : List Int64} {values : List Value} {e : Error} :
    collect found values = .error e ↔ values.mapM integer = .error e := by
  rw [collect]
  cases values.mapM integer with
  | error e => exact Iff.rfl
  | ok read => exact iff_of_false nofun nofun

theorem collect_eq_ok_iff {found ints : List Int64} {values : List Value} :
    collect found values = .ok ints ↔
      ∃ read : List Int64, values.map integer = read.map .ok ∧ ints = read.foldl keepFirst found := by
  simp only [← mapM_eq_ok_iff, collect]
  cases values.mapM integer with
  | error e => exact iff_of_false nofun (by rintro ⟨_, ⟨⟩, -⟩)
  | ok read =>
    constructor
    · rintro ⟨⟩
      exact ⟨read, rfl, rfl⟩
    · rintro ⟨_, ⟨⟩, rfl⟩
      rfl

mutual

theorem addArgument_eq_collect (found : List Int64) (v : Value) :
    addArgument found v = collect found (v.leaves.filter (!·.isNothing)) := by
  cases v with
  | null =>
    rw [addArgument]
    rfl
  | array items =>
    rw [addArgument, Value.leaves]
    exact addArguments_eq_collect found items
  | text s =>
    rw [addArgument, Value.leaves, List.filter_singleton, Value.isNothing]
    · cases Text.isBlankText s with
      | true => exact (collect_nil found).symm
      | false => exact (collect_singleton found _).symm
    · exact nofun
  | _ =>
    rw [addArgument]
    · exact (collect_singleton found _).symm
    all_goals exact nofun

/-- Preparing arguments is collecting the integers of their terms. -/
theorem addArguments_eq_collect (found : List Int64) (values : List Value) :
    addArguments found values = collect found (terms values) := by
  cases values with
  | nil =>
    rw [addArguments]
    rfl
  | cons v rest =>
    rw [addArguments, terms_cons, collect_append, addArgument_eq_collect found v]
    exact congrArg _ (funext fun found => addArguments_eq_collect found rest)

end

theorem ofArguments_eq_collect (values : List Value) :
    ofArguments values = collect [] (terms values) :=
  addArguments_eq_collect [] values

/-- What is repeated behind a beginning is collected already, or the beginning has failed. -/
theorem collect_repeated {before again : List Value} (h : again ⊆ before) (after : List Value) :
    collect [] (before ++ again ++ after) = collect [] (before ++ after) := by
  rw [collect_append, collect_append [] before after]
  congr 1
  rw [collect_append]
  cases found : collect [] before with
  | error e => rfl
  | ok ints =>
    obtain ⟨read, denoted, rfl⟩ := collect_eq_ok_iff.mp found
    have each : ∀ v ∈ again, ∃ i, integer v = .ok i := by
      intro v mem
      exact exists_mapM_eq_ok_iff.mp ⟨read, mapM_eq_ok_iff.mpr denoted⟩ v (h mem)
    obtain ⟨read', converted⟩ := exists_mapM_eq_ok_iff.mpr each
    have denoted' := mapM_eq_ok_iff.mp converted
    have within : read' ⊆ read.foldl keepFirst [] := by
      intro i mem
      rw [(firstOccurrences_foldl_keepFirst read).mem_iff]
      have image : (Except.ok i : Except Error Int64) ∈ again.map integer := by
        rw [denoted']
        exact List.mem_map_of_mem mem
      have image' := List.map_subset integer h image
      rw [denoted] at image'
      obtain ⟨j, mem', same⟩ := List.mem_map.mp image'
      exact Except.ok.inj same ▸ mem'
    exact collect_eq_ok_iff.mpr ⟨read', denoted', (foldl_keepFirst_of_subset within).symm⟩

theorem terms_map_ofInt64 (ints : List Int64) :
    terms (ints.map Value.ofInt64) = ints.map Value.ofInt64 := by
  rw [terms, Value.leavesOf_eq_self, List.filter_eq_self]
  all_goals
    intro v mem
    obtain ⟨i, -, rfl⟩ := List.mem_map.mp mem
    rfl

/-- Integers of which none stands twice are prepared as they are. -/
theorem ofArguments_map_ofInt64 {ints : List Int64} (nodup : ints.Nodup) :
    ofArguments (ints.map Value.ofInt64) = .ok ints := by
  rw [ofArguments_eq_collect, terms_map_ofInt64, collect_eq_ok_iff]
  refine ⟨ints, ?_, ?_⟩
  · rw [List.map_map]
    exact List.map_congr_left fun i _ => integer_ofInt64 i
  · rw [foldl_keepFirst_of_nodup (fun _ _ => List.not_mem_nil) nodup, List.nil_append]

/-- **Filter arguments are the integers of their terms, each once, in the order of their first
occurrences.** They are accepted exactly if every term is an integer, and the first term that is
none words the error. Nesting makes no difference, nor do terms that stand further ahead already,
and neither does preparing them a second time. -/
theorem arguments_normalized (values : List Value) :
    ((∃ ints, ofArguments values = .ok ints) ↔ ∀ v ∈ terms values, ∃ i, integer v = .ok i) ∧
    (∀ ints, ofArguments values = .ok ints → ∃ read : List Int64,
      (terms values).map integer = read.map .ok ∧ FirstOccurrences read ints) ∧
    (∀ e, ofArguments values = .error e ↔
      (∃ text fault, e = .decode text fault) ∧
        ∃ before v after, terms values = before ++ v :: after ∧
          (∀ w ∈ before, ∃ i, integer w = .ok i) ∧ integer v = .error e) ∧
    (ofArguments (Value.leavesOf values) = ofArguments values ∧
      ofArguments (terms values) = ofArguments values) ∧
    (∀ others before again after, terms values = before ++ after →
      terms others = before ++ again ++ after → again ⊆ before →
      ofArguments others = ofArguments values) ∧
    ∀ ints, ofArguments values = .ok ints → ofArguments (ints.map Value.ofInt64) = .ok ints := by
  have read_of_ok {ints : List Int64} (h : ofArguments values = .ok ints) : ∃ read : List Int64,
      (terms values).map integer = read.map .ok ∧ FirstOccurrences read ints := by
    rw [ofArguments_eq_collect] at h
    obtain ⟨read, denoted, rfl⟩ := collect_eq_ok_iff.mp h
    exact ⟨read, denoted, firstOccurrences_foldl_keepFirst read⟩
  refine ⟨?_, fun ints => read_of_ok, ?_, ⟨?_, ?_⟩, ?_, ?_⟩
  · rw [← exists_mapM_eq_ok_iff, ofArguments_eq_collect]
    simp only [mapM_eq_ok_iff, collect_eq_ok_iff]
    exact ⟨fun ⟨_, read, denoted, _⟩ => ⟨read, denoted⟩, fun ⟨read, denoted⟩ =>
      ⟨_, read, denoted, rfl⟩⟩
  · intro e
    rw [ofArguments_eq_collect, collect_eq_error_iff, mapM_eq_error_iff]
    refine (and_iff_right_of_imp ?_).symm
    rintro ⟨_, _, _, _, _, failed⟩
    exact exists_of_integer_eq_error failed
  · rw [ofArguments_eq_collect, terms_leavesOf, ofArguments_eq_collect]
  · rw [ofArguments_eq_collect, terms_terms, ofArguments_eq_collect]
  · intro others before again after split repeated within
    rw [ofArguments_eq_collect, ofArguments_eq_collect, split, repeated, collect_repeated within]
  · intro ints h
    obtain ⟨read, -, first⟩ := read_of_ok h
    exact ofArguments_map_ofInt64 first.nodup

/-- Arguments with repetitions, arrays in arrays, null and a blank. -/
def nested : List Value :=
  [.text " 5", .array [.number (.integer 7), .null, .array [.text "\t", .text "5"]],
    .number (.integer 6)]

theorem arguments_normalized_nested :
    ofArguments nested = .ok [5, 7, 6] ∧
      ofArguments (Value.leavesOf nested) = .ok [5, 7, 6] ∧
      ofArguments (nested ++ nested) = .ok [5, 7, 6] ∧
      ofArguments ([5, 7, 6].map Value.ofInt64) = .ok [5, 7, 6] ∧
      ofArguments (nested ++ [.array [.bool true, .text "x"]]) =
        .error (.decode "true" .notInteger) := by
  have prepared : ofArguments nested = .ok [5, 7, 6] := by decide +kernel
  obtain ⟨-, -, -, ⟨flat, -⟩, repeated, again⟩ := arguments_normalized nested
  refine ⟨prepared, flat.trans prepared, ?_, again _ prepared, ?_⟩
  · rw [← prepared]
    exact repeated (nested ++ nested) (terms nested) (terms nested) [] rfl rfl (List.Subset.refl _)
  · refine ((arguments_normalized _).2.2.1 _).mpr ⟨⟨_, _, rfl⟩, terms nested, .bool true,
      [.text "x"], rfl, ?_, rfl⟩
    exact (arguments_normalized nested).1.mp ⟨_, prepared⟩

end MultiValue

end SearchQL
