import SearchQL.Placeholder

/-!
# Statements — text and values in one sequence

A compiled statement is a sequence of pieces: stretches of text and the values
that stand between them. Each value stays where it belongs, and the three forms
of a statement are three readings of the one sequence:

- `sql` writes a question mark for each value;
- `params` lists the values in order;
- `literal` writes each value as a literal, in place.

The first two are what a connection is given. They agree with each other by
construction, since neither is built beside the other.
-/

namespace SearchQL

/-- A part of a statement. -/
inductive Piece where
  | text (s : String)
  | value (p : Param)
deriving DecidableEq

/-- A sequence of parts. -/
abbrev Fragment := List Piece

namespace Piece

/-- A part with a question mark for its value. -/
def sql : Piece → String
  | text s => s
  | value _ => "?"

/-- A part with its value written out. -/
def literal : Piece → String
  | text s => s
  | value p => p.literal

/-- The value of a part. -/
def param? : Piece → Option Param
  | text _ => none
  | value p => some p

end Piece

namespace Fragment

/-- The text of a fragment, a question mark for each value. -/
def sql (f : Fragment) : String := String.join (f.map Piece.sql)

/-- The values of a fragment, in order. -/
def params (f : Fragment) : List Param := f.filterMap Piece.param?

/-- The text of a fragment, every value written out. -/
def literal (f : Fragment) : String := String.join (f.map Piece.literal)

@[simp]
theorem sql_nil : sql [] = "" := rfl

@[simp]
theorem sql_cons (p : Piece) (f : Fragment) : sql (p :: f) = p.sql ++ sql f := by simp [sql]

theorem toList_sql_value_cons (p : Param) (f : Fragment) :
    (sql (.value p :: f)).toList = '?' :: (sql f).toList := by
  simp [Piece.sql]

@[simp]
theorem literal_nil : literal [] = "" := rfl

@[simp]
theorem literal_cons (p : Piece) (f : Fragment) : literal (p :: f) = p.literal ++ literal f := by
  simp [literal]

@[simp]
theorem params_text_cons (s : String) (f : Fragment) : params (.text s :: f) = params f := rfl

@[simp]
theorem params_value_cons (p : Param) (f : Fragment) : params (.value p :: f) = p :: params f := rfl

@[simp]
theorem sql_append (f g : Fragment) : sql (f ++ g) = sql f ++ sql g := by simp [sql]

@[simp]
theorem params_append (f g : Fragment) : params (f ++ g) = params f ++ params g := by simp [params]

@[simp]
theorem literal_append (f g : Fragment) : literal (f ++ g) = literal f ++ literal g := by
  simp [literal]

/-- Fragments one after the other, with a text between each two. -/
def joined (separator : String) (fragments : List Fragment) : Fragment :=
  [Piece.text separator].intercalate fragments

/-- A reading that keeps text as it is keeps the text between fragments. -/
theorem join_joined (read : Piece → String) {separator : String}
    (keeps : read (.text separator) = separator) (fragments : List Fragment) :
    String.join ((joined separator fragments).map read) =
      separator.intercalate (fragments.map fun f => String.join (f.map read)) := by
  unfold joined
  induction fragments with
  | nil => rfl
  | cons f rest ih =>
    cases rest with
    | nil => simp
    | cons g rest =>
      rw [List.intercalate_cons_cons, List.map_append, List.map_append, String.join_append,
        String.join_append, ih]
      simp [keeps, String.append_assoc]

theorem sql_joined (separator : String) (fragments : List Fragment) :
    sql (joined separator fragments) = separator.intercalate (fragments.map sql) :=
  join_joined Piece.sql rfl fragments

theorem literal_joined (separator : String) (fragments : List Fragment) :
    literal (joined separator fragments) = separator.intercalate (fragments.map literal) :=
  join_joined Piece.literal rfl fragments

theorem params_joined (separator : String) (fragments : List Fragment) :
    params (joined separator fragments) = fragments.flatMap params := by
  unfold joined
  induction fragments with
  | nil => rfl
  | cons f rest ih =>
    cases rest with
    | nil => simp
    | cons g rest =>
      rw [List.intercalate_cons_cons, params_append, params_append, ih]
      simp [params, Piece.param?]

/-- Values with a comma between each two, in parentheses. -/
def tuple (values : List Param) : Fragment :=
  .text "(" :: joined ", " (values.map fun v => [.value v]) ++ [.text ")"]

/-- So many question marks with a comma between each two, in parentheses. -/
def tupleText (width : Nat) : String :=
  "(" ++ ", ".intercalate (List.replicate width "?") ++ ")"

theorem sql_tuple (values : List Param) : (tuple values).sql = tupleText values.length := by
  have marks : (values.map fun v => [Piece.value v]).map sql =
      List.replicate values.length "?" := by
    rw [List.map_map]
    exact List.map_eq_replicate_iff.mpr fun _ _ => rfl
  rw [tuple, sql_append, sql_cons, sql_joined, marks]
  rfl

theorem params_tuple (values : List Param) : (tuple values).params = values := by
  rw [tuple, params_append, params_text_cons, params_joined, List.flatMap_map]
  exact (List.append_nil _).trans (List.flatMap_singleton' values)

end Fragment

/-- A statement ready for a connection. -/
structure Statement where
  fragment : Fragment
  /-- Whether a filter of the statement can never hold, so that it need not be sent. -/
  matchesNothing : Bool := false
deriving DecidableEq

namespace Statement

/-- The text of a statement, a question mark for each parameter. -/
def sql (s : Statement) : String := s.fragment.sql

/-- The parameters of a statement. -/
def params (s : Statement) : List Param := s.fragment.params

end Statement

end SearchQL
