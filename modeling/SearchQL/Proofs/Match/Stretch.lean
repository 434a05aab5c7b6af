import SearchQL.Proofs.Match.Unescaped

/-!
# Stretches — dashes in a row

Dashes in a row, with blanks between them or without, are one slip of the hand. A
*stretch* is such a row: a dash, then blanks and dashes in any order, then a dash. The
blanks around it belong to the text.

What stands between any two dashes of a stretch, with the two, is a stretch as well. To
replace stretches is therefore to replace those that are part of no longer one
(`MaximalStretch`), and this module says how to tell that it has been done. A text is
cut at some of its stretches (`Cut`). If they are left in place the cut gives the text
back, and if a dash is put in the place of each it gives the replaced text. If no dash
of that has another one ahead, the stretches of the cut are those that are part of no
longer one, all of them and nothing else (`Cut.marks_iff`): a stretch that is cut too
short, or left out, leaves behind a dash with another one ahead.
-/

namespace SearchQL.Match

/-! ## The dash ahead -/

theorem ne_dash_of_isBlank {c : Char} (blank : Text.isBlank c = true) : c ≠ '-' := by
  rintro rfl
  cases blank

/-- Whether the first character that is not blank is a dash. -/
def DashAhead (cs : List Char) : Prop := (cs.dropWhile Text.isBlank).head? = some '-'

theorem not_dashAhead_nil : ¬ DashAhead [] := nofun

theorem dashAhead_cons {c : Char} {cs : List Char} :
    DashAhead (c :: cs) ↔ c = '-' ∨ Text.isBlank c = true ∧ DashAhead cs := by
  unfold DashAhead
  cases blank : Text.isBlank c with
  | true => simp [blank, ne_dash_of_isBlank blank]
  | false => simp [blank]

theorem dashAhead_append {as bs : List Char} :
    DashAhead (as ++ bs) ↔
      DashAhead as ∨ (∀ c ∈ as, Text.isBlank c = true) ∧ DashAhead bs := by
  induction as with
  | nil => simp [not_dashAhead_nil]
  | cons c as ih =>
    rw [List.cons_append, dashAhead_cons, dashAhead_cons, ih, List.forall_mem_cons]
    tauto

theorem DashAhead.append {as : List Char} (ahead : DashAhead as) (bs : List Char) :
    DashAhead (as ++ bs) :=
  dashAhead_append.mpr (.inl ahead)

/-- What stands behind a dash does not matter. -/
theorem dashAhead_append_dash {as bs : List Char} :
    DashAhead (as ++ '-' :: bs) ↔ DashAhead as ∨ ∀ c ∈ as, Text.isBlank c = true := by
  rw [dashAhead_append, dashAhead_cons, and_iff_left (.inl rfl)]

theorem DashAhead.exists_append {cs : List Char} (ahead : DashAhead cs) :
    ∃ blanks after, cs = blanks ++ '-' :: after ∧ ∀ c ∈ blanks, Text.isBlank c = true := by
  obtain ⟨after, found⟩ := List.head?_eq_some_iff.mp ahead
  refine ⟨cs.takeWhile Text.isBlank, after, ?_, fun c mem => List.mem_takeWhile_imp mem⟩
  rw [← found, List.takeWhile_append_dropWhile]

theorem DashesApart.of_append {before after : List Char}
    (apart : DashesApart (before ++ after)) : DashesApart after := fun start blanks rest eq =>
  apart (before ++ start) blanks rest (by rw [eq, List.append_assoc])

theorem DashesApart.not_dashAhead {before after : List Char}
    (apart : DashesApart (before ++ '-' :: after)) :
    ¬ DashAhead before.reverse ∧ ¬ DashAhead after := by
  constructor
  · intro dash_before
    obtain ⟨blanks, more, eq, blank⟩ := dash_before.exists_append
    rw [List.reverse_eq_iff, List.reverse_append, List.reverse_cons] at eq
    exact apart more.reverse blanks.reverse after (by simp [eq]) (by simpa using blank)
  · intro ahead
    obtain ⟨blanks, more, rfl, blank⟩ := ahead.exists_append
    exact apart before blanks more rfl blank

/-! ## Stretches -/

/-- Whether a character may stand between the first and the last dash of a stretch. -/
def isDashOrBlank (c : Char) : Bool := c == '-' || Text.isBlank c

theorem isDashOrBlank_iff {c : Char} :
    isDashOrBlank c = true ↔ c = '-' ∨ Text.isBlank c = true := by
  simp [isDashOrBlank]

/-- A dash, then blanks and dashes, then a dash. -/
@[ext]
structure Stretch where
  inner : List Char
  filling : ∀ c ∈ inner, isDashOrBlank c = true

theorem dashAhead_of_filling {cs : List Char} (filling : ∀ c ∈ cs, isDashOrBlank c = true)
    (dash : '-' ∈ cs) : DashAhead cs := by
  induction cs with
  | nil => cases dash
  | cons c cs ih =>
    obtain ⟨filling_c, filling⟩ := List.forall_mem_cons.mp filling
    rw [dashAhead_cons]
    by_cases is_dash : c = '-'
    · exact .inl is_dash
    · have blank := (isDashOrBlank_iff.mp filling_c).resolve_left is_dash
      exact .inr ⟨blank, ih filling (List.mem_of_ne_of_mem (Ne.symm is_dash) dash)⟩

namespace Stretch

/-- The characters of a stretch. -/
def chars (s : Stretch) : List Char := '-' :: (s.inner ++ ['-'])

/-- A stretch read from its end. -/
def reverse (s : Stretch) : Stretch := ⟨s.inner.reverse, by simpa using s.filling⟩

theorem chars_reverse (s : Stretch) : s.reverse.chars = s.chars.reverse := by
  simp [chars, reverse]

theorem chars_inj {s t : Stretch} (eq : s.chars = t.chars) : s = t := by
  ext1
  simpa [chars] using eq

theorem isDashOrBlank_of_mem {s : Stretch} {c : Char} (mem : c ∈ s.chars) :
    isDashOrBlank c = true := by
  rcases List.mem_cons.mp mem with rfl | mem
  · rfl
  · rcases List.mem_append.mp mem with mem | mem
    · exact s.filling c mem
    · rw [List.mem_singleton.mp mem]
      rfl

theorem dashAhead_of_suffix {s : Stretch} {cs : List Char} (ending : cs <:+ s.chars)
    (some_left : cs ≠ []) : DashAhead cs := by
  refine dashAhead_of_filling (fun c mem => isDashOrBlank_of_mem (ending.subset mem)) ?_
  have last : cs.getLast some_left = '-' := by
    rw [ending.getLast some_left]
    simp [chars]
  exact last ▸ List.getLast_mem some_left

theorem dashAhead_reverse_of_prefix {s : Stretch} {cs : List Char} (start : cs <+: s.chars)
    (some_left : cs ≠ []) : DashAhead cs.reverse := by
  have ending : cs.reverse <:+ s.reverse.chars := by
    rw [chars_reverse]
    exact List.reverse_suffix.mpr start
  exact dashAhead_of_suffix ending (by simpa using some_left)

/-- A stretch with no dash ahead is not the beginning of a longer one. -/
theorem eq_nil_of_longer {s longer : Stretch} {more after : List Char}
    (eq : longer.chars = s.chars ++ more) (not_ahead : ¬ DashAhead (more ++ after)) :
    more = [] := by
  by_contra some_left
  exact not_ahead ((dashAhead_of_suffix ⟨s.chars, eq.symm⟩ some_left).append after)

/-- Two stretches that begin in the same place and have no dash ahead are the same. -/
theorem append_inj {s t : Stretch} {as bs : List Char} (eq : s.chars ++ as = t.chars ++ bs)
    (not_ahead : ¬ DashAhead as) (not_ahead' : ¬ DashAhead bs) : s = t ∧ as = bs := by
  rcases List.append_eq_append_iff.mp eq with ⟨more, longer, rfl⟩ | ⟨more, longer, rfl⟩
  · obtain rfl := eq_nil_of_longer longer not_ahead
    exact ⟨(chars_inj (by simpa using longer)).symm, rfl⟩
  · obtain rfl := eq_nil_of_longer longer not_ahead'
    exact ⟨chars_inj (by simpa using longer), rfl⟩

/-- The second dash of a stretch is ahead of the first one. -/
theorem dashAhead_tail (s : Stretch) : DashAhead (s.inner ++ ['-']) :=
  dashAhead_of_suffix (List.suffix_cons '-' _) (by simp)

theorem not_dashesApart (s : Stretch) (before after : List Char) :
    ¬ DashesApart (before ++ (s.chars ++ after)) :=
  fun apart => apart.not_dashAhead.2 (s.dashAhead_tail.append after)

/-- Behind the first dash of a stretch the next one stands at the latest where the next stretch
begins. -/
theorem dashAhead_of_append_eq {s next : Stretch} {c : Char} {more after rest : List Char}
    (eq : s.chars ++ after = c :: more ++ (next.chars ++ rest)) (written : List Char) :
    c = '-' ∧ DashAhead (more ++ '-' :: written) := by
  obtain ⟨is_dash, -⟩ := List.cons.inj eq
  have behind_dash : s.inner ++ ['-'] ++ after = more ++ (next.chars ++ rest) :=
    (List.cons.inj eq).2
  have ahead := s.dashAhead_tail.append after
  rw [behind_dash, chars, List.cons_append, dashAhead_append_dash] at ahead
  exact ⟨is_dash.symm, dashAhead_append_dash.mpr ahead⟩

end Stretch

/-- A stretch of a text that is part of no longer one. -/
structure MaximalStretch (cs before : List Char) (s : Stretch) (after : List Char) : Prop where
  placed : cs = before ++ (s.chars ++ after)
  whole : ∀ left right, left <:+ before → right <+: after →
    ∀ longer : Stretch, longer.chars = left ++ (s.chars ++ right) → left = [] ∧ right = []

/-- A stretch is as long as it can be if on neither side a dash follows behind blanks. -/
theorem maximalStretch_iff {cs before after : List Char} {s : Stretch} :
    MaximalStretch cs before s after ↔
      cs = before ++ (s.chars ++ after) ∧ ¬ DashAhead before.reverse ∧ ¬ DashAhead after := by
  constructor
  · rintro ⟨placed, whole⟩
    refine ⟨placed, fun dash_before => ?_, fun ahead => ?_⟩
    · obtain ⟨blanks, more, eq, blank⟩ := dash_before.exists_append
      rw [List.reverse_eq_iff, List.reverse_append, List.reverse_cons] at eq
      have filling : ∀ c ∈ blanks.reverse ++ '-' :: s.inner, isDashOrBlank c = true := by
        simp only [List.forall_mem_append, List.forall_mem_cons, List.mem_reverse]
        exact ⟨fun c mem => isDashOrBlank_iff.mpr (.inr (blank c mem)), rfl, s.filling⟩
      have none := whole ('-' :: blanks.reverse) [] ⟨more.reverse, by simp [eq]⟩
        List.nil_prefix ⟨_, filling⟩ (by simp [Stretch.chars])
      simp at none
    · obtain ⟨blanks, more, rfl, blank⟩ := ahead.exists_append
      have filling : ∀ c ∈ s.inner ++ '-' :: blanks, isDashOrBlank c = true := by
        simp only [List.forall_mem_append, List.forall_mem_cons]
        exact ⟨s.filling, rfl, fun c mem => isDashOrBlank_iff.mpr (.inr (blank c mem))⟩
      have none := whole [] (blanks ++ ['-']) List.nil_suffix ⟨more, by simp⟩ ⟨_, filling⟩
        (by simp [Stretch.chars])
      simp at none
  · rintro ⟨placed, not_before, not_ahead⟩
    refine ⟨placed, fun left right left_of right_of longer eq => ⟨?_, ?_⟩⟩
    · by_contra some_left
      have start : left <+: longer.chars := ⟨_, eq.symm⟩
      obtain ⟨more, rfl⟩ := left_of
      rw [List.reverse_append] at not_before
      exact not_before ((Stretch.dashAhead_reverse_of_prefix start some_left).append _)
    · by_contra some_left
      have ending : right <:+ longer.chars := ⟨left ++ s.chars, by simp [eq]⟩
      obtain ⟨more, rfl⟩ := right_of
      exact not_ahead ((Stretch.dashAhead_of_suffix ending some_left).append _)

/-! ## Cutting a text at stretches -/

/-- A text cut at some of its stretches: each with the text before it, and the text behind the
last. -/
structure Cut where
  parts : List (List Char × Stretch)
  behind : List Char

namespace Cut

/-- The text with something in the place of each stretch. -/
def replace (cut : Cut) (f : Stretch → List Char) : List Char :=
  cut.parts.flatMap (fun part => part.1 ++ f part.2) ++ cut.behind

/-- The text that is cut. -/
def text (cut : Cut) : List Char := cut.replace Stretch.chars

/-- The text with a dash in the place of each stretch. -/
def collapsed (cut : Cut) : List Char := cut.replace fun _ => ['-']

/-- Whether a text is cut at a stretch, with the given texts before and after it. -/
def Marks (cut : Cut) (before : List Char) (s : Stretch) (after : List Char) : Prop :=
  ∃ front between back, cut.parts = front ++ (between, s) :: back ∧
    before = text ⟨front, between⟩ ∧ after = text ⟨back, cut.behind⟩

theorem replace_nil (behind : List Char) (f : Stretch → List Char) :
    replace ⟨[], behind⟩ f = behind := rfl

theorem replace_append (front : List (List Char × Stretch)) (between : List Char) (s : Stretch)
    (back : List (List Char × Stretch)) (behind : List Char) (f : Stretch → List Char) :
    replace ⟨front ++ (between, s) :: back, behind⟩ f =
      replace ⟨front, between⟩ f ++ (f s ++ replace ⟨back, behind⟩ f) := by
  simp [replace]

theorem replace_cons (between : List Char) (s : Stretch) (parts : List (List Char × Stretch))
    (behind : List Char) (f : Stretch → List Char) :
    replace ⟨(between, s) :: parts, behind⟩ f =
      between ++ (f s ++ replace ⟨parts, behind⟩ f) :=
  replace_append [] between s parts behind f

/-- What stretches and that which replaces them have none of is the same in both texts. -/
theorem filter_replace {keep : Char → Bool} {f g : Stretch → List Char}
    (same : ∀ s, (f s).filter keep = (g s).filter keep) (cut : Cut) :
    (cut.replace f).filter keep = (cut.replace g).filter keep := by
  simp only [replace, List.filter_append, List.filter_flatMap, same]

/-- A cut with more text in front. -/
def prepend (cs : List Char) : Cut → Cut
  | ⟨[], behind⟩ => ⟨[], cs ++ behind⟩
  | ⟨(between, s) :: parts, behind⟩ => ⟨(cs ++ between, s) :: parts, behind⟩

theorem replace_prepend (cs : List Char) (cut : Cut) (f : Stretch → List Char) :
    (cut.prepend cs).replace f = cs ++ cut.replace f := by
  obtain ⟨_ | ⟨⟨between, s⟩, parts⟩, behind⟩ := cut
  · rfl
  · rw [prepend, replace_cons, replace_cons, List.append_assoc]

/-- A cut with a stretch in front. -/
def prependStretch (s : Stretch) (cut : Cut) : Cut := ⟨([], s) :: cut.parts, cut.behind⟩

theorem replace_prependStretch (s : Stretch) (cut : Cut) (f : Stretch → List Char) :
    (cut.prependStretch s).replace f = f s ++ cut.replace f :=
  replace_cons [] s cut.parts cut.behind f

/-! ### Which stretches a cut marks -/

theorem dashAhead_text_iff (cut : Cut) : DashAhead cut.text ↔ DashAhead cut.collapsed := by
  obtain ⟨_ | ⟨⟨between, s⟩, parts⟩, behind⟩ := cut
  · rfl
  · rw [text, collapsed, replace_cons, replace_cons, Stretch.chars, List.cons_append,
      List.singleton_append, dashAhead_append_dash, dashAhead_append_dash]

theorem dashAhead_reverse_text_iff (cut : Cut) :
    DashAhead cut.text.reverse ↔ DashAhead cut.collapsed.reverse := by
  obtain ⟨parts, behind⟩ := cut
  rcases List.eq_nil_or_concat parts with rfl | ⟨front, ⟨between, s⟩, rfl⟩
  · rfl
  · rw [text, collapsed, List.concat_eq_append, replace_append, replace_append]
    simp only [replace_nil, List.reverse_append, List.append_assoc, ← Stretch.chars_reverse]
    rw [Stretch.chars, List.reverse_singleton, List.cons_append, List.singleton_append,
      dashAhead_append_dash, dashAhead_append_dash]

theorem maximalStretch_of_marks {cut : Cut} (apart : DashesApart cut.collapsed)
    {before after : List Char} {s : Stretch} (marks : cut.Marks before s after) :
    MaximalStretch cut.text before s after := by
  obtain ⟨parts, behind⟩ := cut
  obtain ⟨front, between, back, rfl, rfl, rfl⟩ := marks
  rw [collapsed, replace_append] at apart
  rw [maximalStretch_iff, dashAhead_reverse_text_iff, dashAhead_text_iff]
  exact ⟨replace_append front between s back behind _, apart.not_dashAhead⟩

theorem Marks.cons {parts : List (List Char × Stretch)} {behind before after : List Char}
    {s : Stretch} (marks : Marks ⟨parts, behind⟩ before s after) (between : List Char)
    (first : Stretch) :
    Marks ⟨(between, first) :: parts, behind⟩ (between ++ (first.chars ++ before)) s after := by
  obtain ⟨front, between', back, rfl, rfl, rfl⟩ := marks
  exact ⟨(between, first) :: front, between', back, rfl, (replace_cons ..).symm, rfl⟩

theorem marks_of_maximalStretch {cut : Cut} (apart : DashesApart cut.collapsed)
    {before after : List Char} {s : Stretch} (maximal : MaximalStretch cut.text before s after) :
    cut.Marks before s after := by
  obtain ⟨parts, behind⟩ := cut
  obtain ⟨placed, not_before, not_ahead⟩ := maximalStretch_iff.mp maximal
  clear maximal
  induction parts generalizing before with
  | nil =>
    change behind = _ at placed
    subst placed
    exact absurd apart (s.not_dashesApart before after)
  | cons part parts ih =>
    obtain ⟨between, first⟩ := part
    rw [collapsed, replace_cons] at apart
    rw [text, replace_cons] at placed
    have not_ahead_rest : ¬ DashAhead (text ⟨parts, behind⟩) := by
      rw [dashAhead_text_iff]
      exact apart.not_dashAhead.2
    rcases List.append_eq_append_iff.mp placed with ⟨more, rfl, here⟩ | ⟨more, rfl, here⟩
    · -- the stretch begins in the first one of the cut or behind it
      rw [List.reverse_append] at not_before
      rcases List.append_eq_append_iff.mp here with ⟨before, rfl, later⟩ | ⟨rest, start, -⟩
      · rw [List.reverse_append, List.append_assoc] at not_before
        have not_before_later : ¬ DashAhead before.reverse := fun dash_before =>
          not_before (dash_before.append _)
        exact (ih apart.of_append.of_append later not_before_later).cons between first
      · obtain rfl : more = [] := by
          by_contra some_left
          have ahead := Stretch.dashAhead_reverse_of_prefix ⟨rest, start.symm⟩ some_left
          exact not_before (ahead.append _)
        obtain ⟨rfl, rfl⟩ := Stretch.append_inj here not_ahead_rest not_ahead
        exact ⟨[], between, parts, rfl, List.append_nil between, rfl⟩
    · -- the stretch begins in the text before the first one of the cut
      cases more with
      | nil =>
        obtain ⟨rfl, rfl⟩ := Stretch.append_inj here not_ahead not_ahead_rest
        exact ⟨[], before ++ [], parts, rfl, (List.append_nil before).symm, rfl⟩
      | cons c more =>
        rw [List.append_assoc, List.cons_append, List.singleton_append] at apart
        obtain ⟨rfl, ahead⟩ := Stretch.dashAhead_of_append_eq here (collapsed ⟨parts, behind⟩)
        exact absurd ahead apart.not_dashAhead.2

/-- A cut whose dashes stand apart marks the stretches that are part of no longer one. -/
theorem marks_iff {cut : Cut} (apart : DashesApart cut.collapsed) (before : List Char)
    (s : Stretch) (after : List Char) :
    cut.Marks before s after ↔ MaximalStretch cut.text before s after :=
  ⟨maximalStretch_of_marks apart, marks_of_maximalStretch apart⟩

end Cut

end SearchQL.Match
