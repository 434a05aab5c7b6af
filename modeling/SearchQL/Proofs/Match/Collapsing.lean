import SearchQL.Proofs.Match.InnerDash
import SearchQL.Proofs.Match.Stretch

/-!
# Collapsing — one dash for each stretch

Of a stretch of dashes relaxed escaping leaves one dash, and everything outside of
stretches it leaves alone. `collapseDashes_replaces_stretches` says so of the text as a
whole: it is cut at the stretches that are part of no longer one, and a dash is put in
the place of each.

Collapsing is defined from the end of the text, where each dash looks at what is written
behind it. The cut is found from the beginning. A sweep reads the text once (`Sweep`);
behind a dash it goes on over blanks and dashes, and of what it has read it writes the
first dash and the blanks behind the last one (`Lap`). The two come to the same
(`sweep_iff`), and a sweep has the stretches of its laps to cut the text at. That these
are the right ones follows from the dashes that are left: none has another one ahead
(`dashesApart_collapseDashes`).
-/

namespace SearchQL.Match

/-! ## Collapsing behind a dash -/

theorem dashAhead_collapseDashes (cs : List Char) :
    DashAhead (collapseDashes cs) ↔ DashAhead cs := by
  induction cs with
  | nil => rfl
  | cons c cs ih =>
    by_cases dash : c = '-'
    · subst dash
      obtain ⟨more, eq⟩ := List.head?_eq_some_iff.mp (head?_collapseDashes ('-' :: cs))
      rw [eq, dashAhead_cons, dashAhead_cons]
      exact iff_of_true (.inl rfl) (.inl rfl)
    · rw [collapseDashes_cons, pushCollapsed_of_ne dash, dashAhead_cons, dashAhead_cons, ih]

theorem pushCollapsed_dash_of_ahead {rest : List Char} (ahead : DashAhead rest) :
    pushCollapsed '-' rest = rest.dropWhile Text.isBlank :=
  (pushCollapsed_dash_eq rest).trans (if_pos ahead)

theorem pushCollapsed_dash_of_not_ahead {rest : List Char} (not_ahead : ¬ DashAhead rest) :
    pushCollapsed '-' rest = '-' :: rest :=
  (pushCollapsed_dash_eq rest).trans (if_neg not_ahead)

/-- Behind a dash, what stands before the next one goes character by character. -/
theorem collapseDashes_dash_of_ahead {c : Char} {cs : List Char} (ahead : DashAhead (c :: cs)) :
    collapseDashes ('-' :: c :: cs) = collapseDashes ('-' :: cs) := by
  have ahead_collapsed := (dashAhead_collapseDashes (c :: cs)).mpr ahead
  rw [collapseDashes_cons, pushCollapsed_dash_of_ahead ahead_collapsed]
  rcases dashAhead_cons.mp ahead with rfl | ⟨blank, ahead⟩
  · obtain ⟨more, eq⟩ := List.head?_eq_some_iff.mp (head?_collapseDashes ('-' :: cs))
    rw [eq]
    exact List.dropWhile_cons_of_neg (by decide)
  · rw [collapseDashes_cons, collapseDashes_cons, pushCollapsed_of_ne (ne_dash_of_isBlank blank),
      List.dropWhile_cons_of_pos blank,
      pushCollapsed_dash_of_ahead ((dashAhead_collapseDashes cs).mpr ahead)]

theorem collapseDashes_stretch_append (s : Stretch) (after : List Char) :
    collapseDashes (s.chars ++ after) = collapseDashes ('-' :: after) := by
  obtain ⟨inner, filling⟩ := s
  induction inner with
  | nil => exact collapseDashes_dash_of_ahead (dashAhead_cons.mpr (.inl rfl))
  | cons c inner ih =>
    have ahead := (Stretch.mk (c :: inner) filling).dashAhead_tail.append after
    exact (collapseDashes_dash_of_ahead ahead).trans (ih (List.forall_mem_cons.mp filling).2)

theorem collapseDashes_blanks_append {blanks : List Char}
    (blank : ∀ c ∈ blanks, Text.isBlank c = true) (rest : List Char) :
    collapseDashes (blanks ++ rest) = blanks ++ collapseDashes rest := by
  induction blanks with
  | nil => rfl
  | cons c blanks ih =>
    obtain ⟨blank_c, blank⟩ := List.forall_mem_cons.mp blank
    rw [List.cons_append, collapseDashes_cons, pushCollapsed_of_ne (ne_dash_of_isBlank blank_c),
      ih blank, List.cons_append]

/-! ## From left to right -/

/-- How a text is read on from a dash: up to the last dash of the stretch that begins there, over
the blanks behind that, and up to the first character that is neither. -/
structure Lap (cs read blanks rest : List Char) : Prop where
  split : cs = read ++ (blanks ++ rest)
  stretch : read = [] ∨ ∃ s : Stretch, s.chars = '-' :: read
  blank : ∀ c ∈ blanks, Text.isBlank c = true
  ends : ∀ c ∈ rest.head?, isDashOrBlank c = false

theorem exists_lap (cs : List Char) : ∃ read blanks rest, Lap cs read blanks rest := by
  induction cs with
  | nil => exact ⟨[], [], [], rfl, .inl rfl, by simp, by simp⟩
  | cons c cs ih =>
    cases filling_c : isDashOrBlank c with
    | false => exact ⟨[], [], c :: cs, rfl, .inl rfl, by simp, by simp [filling_c]⟩
    | true =>
      obtain ⟨read, blanks, rest, rfl, stretch, blank, ends⟩ := ih
      rcases stretch with rfl | ⟨⟨inner, filling⟩, eq⟩
      · -- no dash follows
        by_cases dash : c = '-'
        · exact ⟨['-'], blanks, rest, by rw [dash]; rfl, .inr ⟨⟨[], by simp⟩, rfl⟩, blank, ends⟩
        · have blank_c := (isDashOrBlank_iff.mp filling_c).resolve_left dash
          exact ⟨[], c :: blanks, rest, rfl, .inl rfl,
            List.forall_mem_cons.mpr ⟨blank_c, blank⟩, ends⟩
      · have longer : ∀ d ∈ c :: inner, isDashOrBlank d = true :=
          List.forall_mem_cons.mpr ⟨filling_c, filling⟩
        refine ⟨c :: read, blanks, rest, rfl, .inr ⟨⟨c :: inner, longer⟩, ?_⟩, blank, ends⟩
        rw [← (List.cons.inj eq).2]
        rfl

namespace Lap

variable {cs read blanks rest : List Char}

theorem length_le (lap : Lap cs read blanks rest) : rest.length ≤ cs.length := by
  rw [lap.split, List.length_append, List.length_append]
  omega

theorem not_dashAhead (lap : Lap cs read blanks rest) : ¬ DashAhead (blanks ++ rest) := by
  rw [dashAhead_append]
  rintro (ahead | ⟨-, ahead⟩)
  · obtain ⟨before, after, rfl, -⟩ := ahead.exists_append
    exact ne_dash_of_isBlank (lap.blank '-' (by simp)) rfl
  · cases rest with
    | nil => exact not_dashAhead_nil ahead
    | cons c rest =>
      have filling_c := isDashOrBlank_iff.mpr ((dashAhead_cons.mp ahead).imp_right And.left)
      rw [lap.ends c rfl] at filling_c
      cases filling_c

/-- One dash is written for what is read, and the blanks behind it. -/
theorem collapseDashes_eq (lap : Lap cs read blanks rest) :
    collapseDashes ('-' :: cs) = '-' :: (blanks ++ collapseDashes rest) := by
  have one : collapseDashes ('-' :: cs) = collapseDashes ('-' :: (blanks ++ rest)) := by
    rw [lap.split]
    rcases lap.stretch with rfl | ⟨s, eq⟩
    · rfl
    · rw [← List.cons_append, ← eq, collapseDashes_stretch_append]
  have not_ahead := (dashAhead_collapseDashes _).not.mpr lap.not_dashAhead
  rw [one, collapseDashes_cons, pushCollapsed_dash_of_not_ahead not_ahead,
    collapseDashes_blanks_append lap.blank]

end Lap

/-- A sweep over a text from left to right, with what it writes: each dash begins a lap, which
writes that dash and the blanks it ends with, and every other character is written as it is. -/
inductive Sweep : List Char → List Char → Prop
  | nil : Sweep [] []
  | keep {c : Char} {cs written : List Char} (not_dash : c ≠ '-') (later : Sweep cs written) :
      Sweep (c :: cs) (c :: written)
  | lap {cs read blanks rest written : List Char} (lap : Lap cs read blanks rest)
      (later : Sweep rest written) : Sweep ('-' :: cs) ('-' :: (blanks ++ written))

/-- Each lap goes on from a shorter text, so every sweep comes to its end. -/
theorem exists_sweep (cs : List Char) : ∃ written, Sweep cs written := by
  induction length : cs.length using Nat.strong_induction_on generalizing cs with
  | _ n ih =>
    cases cs with
    | nil => exact ⟨[], .nil⟩
    | cons c cs =>
      rw [List.length_cons] at length
      by_cases dash : c = '-'
      · obtain ⟨read, blanks, rest, lap⟩ := exists_lap cs
        have shorter := lap.length_le
        obtain ⟨written, later⟩ := ih rest.length (by omega) rest rfl
        rw [dash]
        exact ⟨_, .lap lap later⟩
      · obtain ⟨written, later⟩ := ih cs.length (by omega) cs rfl
        exact ⟨_, .keep dash later⟩

theorem Sweep.eq_collapseDashes {cs written : List Char} (sweep : Sweep cs written) :
    written = collapseDashes cs := by
  induction sweep with
  | nil => rfl
  | keep not_dash _ ih => rw [collapseDashes_cons, pushCollapsed_of_ne not_dash, ih]
  | lap lap _ ih => rw [lap.collapseDashes_eq, ih]

theorem sweep_iff {cs written : List Char} : Sweep cs written ↔ written = collapseDashes cs := by
  constructor
  · exact Sweep.eq_collapseDashes
  · rintro rfl
    obtain ⟨written, sweep⟩ := exists_sweep cs
    exact sweep.eq_collapseDashes ▸ sweep

/-- A sweep replaces the stretches of its laps. -/
theorem Sweep.exists_cut {cs written : List Char} (sweep : Sweep cs written) :
    ∃ cut : Cut, cut.text = cs ∧ cut.collapsed = written := by
  induction sweep with
  | nil => exact ⟨⟨[], []⟩, rfl, rfl⟩
  | @keep c _ _ _ _ ih =>
    obtain ⟨cut, rfl, rfl⟩ := ih
    exact ⟨cut.prepend [c], cut.replace_prepend _ _, cut.replace_prepend _ _⟩
  | @lap _ _ blanks _ _ lap _ ih =>
    obtain ⟨cut, rfl, rfl⟩ := ih
    rw [lap.split]
    rcases lap.stretch with rfl | ⟨s, eq⟩
    · exact ⟨cut.prepend ('-' :: blanks), cut.replace_prepend _ _, cut.replace_prepend _ _⟩
    · refine ⟨(cut.prepend blanks).prependStretch s, ?_, ?_⟩
      · rw [Cut.text, Cut.replace_prependStretch, Cut.replace_prepend, eq]
        rfl
      · rw [Cut.collapsed, Cut.replace_prependStretch, Cut.replace_prepend]
        rfl

/-! ## What collapsing does -/

theorem dashesApart_collapseDashes (cs : List Char) : DashesApart (collapseDashes cs) := by
  induction cs with
  | nil => exact dashesApart_nil
  | cons c cs ih =>
    rw [collapseDashes_cons]
    by_cases dash : c = '-'
    · rw [dash, pushCollapsed_dash_eq]
      split
      · obtain ⟨blanks, eq⟩ := List.dropWhile_suffix Text.isBlank (l := collapseDashes cs)
        rw [← eq] at ih
        exact ih.of_append
      · rename_i not_ahead
        exact dashesApart_cons.mpr ⟨fun _ => not_ahead, ih⟩
    · rw [pushCollapsed_of_ne dash, dashesApart_cons]
      exact ⟨fun is_dash => absurd is_dash dash, ih⟩

/-- **Collapsing replaces each stretch that is part of no longer one by a dash, and changes nothing
else.** It is what a sweep comes to, and it leaves no dash with another one ahead. -/
theorem collapseDashes_replaces_stretches (cs : List Char) :
    (∀ written, Sweep cs written ↔ written = collapseDashes cs) ∧
      DashesApart (collapseDashes cs) ∧
      (∃ cut : Cut, cut.text = cs ∧ cut.collapsed = collapseDashes cs ∧
        ∀ before s after, cut.Marks before s after ↔ MaximalStretch cs before s after) ∧
      collapseDashes (collapseDashes cs) = collapseDashes cs ∧
      (collapseDashes cs).filter (!isDashOrBlank ·) = cs.filter (!isDashOrBlank ·) := by
  have apart := dashesApart_collapseDashes cs
  obtain ⟨cut, rfl, collapsed⟩ := (sweep_iff.mpr (Eq.refl (collapseDashes cs))).exists_cut
  refine ⟨fun _ => sweep_iff, apart, ⟨cut, rfl, collapsed, ?_⟩, collapseDashes_of_apart apart, ?_⟩
  · exact Cut.marks_iff (collapsed ▸ apart)
  · rw [← collapsed]
    refine Cut.filter_replace (fun s => ?_) cut
    have none_left : s.chars.filter (!isDashOrBlank ·) = [] :=
      List.filter_eq_nil_iff.mpr fun c mem => by simp [Stretch.isDashOrBlank_of_mem mem]
    rw [none_left]
    rfl

/-- Blanks inside the stretches go with them; those beside them, and a dash by itself, stay. -/
example : collapseDashes "a -\t- -- b -c--".toList = "a - b -c-".toList := by decide +kernel

end SearchQL.Match
