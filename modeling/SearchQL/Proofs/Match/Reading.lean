/-!
# Reading match text — escapes first, then groups

The full-text daemon reads match text in two passes, and this module is both of
them. `read?` resolves the backslashes: a backslash stands for the character
behind it, with no meaning left, and a backslash with nothing behind it is an
error. What comes out is a list of glyphs, each of which says whether the
character was escaped; only a plain one can be an operator.

`groups?` reads glyphs as parenthesised groups with one space between each two.
It counts the parentheses that stand plain, so an inner pair is part of its
group, and it fails at anything that stands between two groups, at a group that
does not end, and at a parenthesis too many.
-/

namespace SearchQL.Match

/-! ## Escapes -/

/-- A character of match text, and whether a backslash stands before it. -/
inductive Glyph where
  | plain (c : Char)
  | escaped (c : Char)
deriving DecidableEq, Repr

/-- The glyphs of a text; a text that ends in the middle of an escape has none. -/
def read? : List Char → Option (List Glyph)
  | [] => some []
  | '\\' :: c :: rest => (read? rest).map (.escaped c :: ·)
  | c :: rest => if c = '\\' then none else (read? rest).map (.plain c :: ·)

@[simp] theorem read?_nil : read? [] = some [] := rfl

theorem read?_escaped {c : Char} {rest : List Char} {glyphs : List Glyph}
    (h : read? rest = some glyphs) : read? ('\\' :: c :: rest) = some (.escaped c :: glyphs) := by
  rw [read?, h]
  rfl

theorem read?_plain {c : Char} {rest : List Char} {glyphs : List Glyph} (not_backslash : c ≠ '\\')
    (h : read? rest = some glyphs) : read? (c :: rest) = some (.plain c :: glyphs) := by
  rw [read?.eq_3 _ _ fun _ _ eq _ => not_backslash eq, if_neg not_backslash, h]
  rfl

/-- Characters that are no backslashes all stand plain. -/
theorem read?_map_plain {cs : List Char} (h : '\\' ∉ cs) : read? cs = some (cs.map .plain) := by
  induction cs with
  | nil => rfl
  | cons c cs ih =>
    have not_backslash : c ≠ '\\' := fun eq => h (eq ▸ List.mem_cons_self)
    exact read?_plain not_backslash (ih fun mem => h (List.mem_cons_of_mem c mem))

/-- Texts whose escapes are complete are read one by one. -/
theorem read?_append {xs ys : List Char} {first second : List Glyph}
    (hx : read? xs = some first) (hy : read? ys = some second) :
    read? (xs ++ ys) = some (first ++ second) := by
  fun_induction read? xs generalizing first with
  | case1 =>
    cases hx
    exact hy
  | case2 c rest ih =>
    obtain ⟨glyphs, read, rfl⟩ := Option.map_eq_some_iff.mp hx
    exact read?_escaped (ih read)
  | case3 => cases hx
  | case4 c rest _ not_backslash ih =>
    obtain ⟨glyphs, read, rfl⟩ := Option.map_eq_some_iff.mp hx
    exact read?_plain not_backslash (ih read)

/-! ## Groups -/

/-- Where a reader of groups stands. -/
inductive Place where
  /-- A group has to begin here. -/
  | before
  /-- In a group, between this many inner parentheses, with the glyphs read so far. -/
  | inside (depth : Nat) (body : List Glyph)
  /-- A group has just ended. -/
  | behind

/-- The groups that stand from a place on, without their outer parentheses. -/
def groupsFrom : Place → List Glyph → Option (List (List Glyph))
  | .before, .plain '(' :: glyphs => groupsFrom (.inside 0 []) glyphs
  | .inside depth body, .plain '(' :: glyphs =>
    groupsFrom (.inside (depth + 1) (body ++ [.plain '('])) glyphs
  | .inside 0 body, .plain ')' :: glyphs => (groupsFrom .behind glyphs).map (body :: ·)
  | .inside (depth + 1) body, .plain ')' :: glyphs =>
    groupsFrom (.inside depth (body ++ [.plain ')'])) glyphs
  | .inside depth body, glyph :: glyphs => groupsFrom (.inside depth (body ++ [glyph])) glyphs
  | .behind, [] => some []
  | .behind, .plain ' ' :: glyphs => groupsFrom .before glyphs
  | _, _ => none

/-- The groups of a text that consists of groups with one space between each two. -/
def groups? (text : String) : Option (List (List Glyph)) :=
  (read? text.toList).bind (groupsFrom .before)

/-- Glyphs whose plain parentheses match: a reader is as deep behind them as before them. -/
def Balanced (glyphs : List Glyph) : Prop :=
  ∀ (depth : Nat) (body rest : List Glyph),
    groupsFrom (.inside depth body) (glyphs ++ rest) =
      groupsFrom (.inside depth (body ++ glyphs)) rest

theorem Balanced.append {first second : List Glyph} (hf : Balanced first)
    (hs : Balanced second) : Balanced (first ++ second) := by
  intro depth body rest
  rw [List.append_assoc, hf, hs, List.append_assoc]

theorem balanced_of_not_mem {glyphs : List Glyph} (opening : .plain '(' ∉ glyphs)
    (closing : .plain ')' ∉ glyphs) : Balanced glyphs := by
  induction glyphs with
  | nil =>
    intro depth body rest
    rw [List.nil_append, List.append_nil]
  | cons glyph glyphs ih =>
    intro depth body rest
    have not_opening : glyph ≠ .plain '(' := fun eq => opening (eq ▸ List.mem_cons_self)
    have not_closing : glyph ≠ .plain ')' := fun eq => closing (eq ▸ List.mem_cons_self)
    have tail := ih (fun mem => opening (List.mem_cons_of_mem glyph mem))
      fun mem => closing (List.mem_cons_of_mem glyph mem)
    rw [List.cons_append, groupsFrom.eq_5 _ _ _ _ not_opening (fun _ => not_closing)
      (fun _ _ => not_closing), tail, List.append_assoc, List.singleton_append]

theorem Balanced.parenthesised {glyphs : List Glyph} (h : Balanced glyphs) :
    Balanced (.plain '(' :: glyphs ++ [.plain ')']) := by
  intro depth body rest
  rw [List.cons_append, List.cons_append, List.append_assoc, groupsFrom, h,
    List.singleton_append, groupsFrom, List.append_assoc, List.append_assoc,
    List.singleton_append]

/-- A group with balanced glyphs is read as one group. -/
theorem groupsFrom_group {body : List Glyph} (h : Balanced body) (rest : List Glyph) :
    groupsFrom .before (.plain '(' :: (body ++ .plain ')' :: rest)) =
      (groupsFrom .behind rest).map (body :: ·) := by
  rw [groupsFrom, h, List.nil_append, groupsFrom]

end SearchQL.Match
