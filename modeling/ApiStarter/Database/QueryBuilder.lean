import Mathlib.Data.List.TakeWhile

/-
  Statements with numbered placeholders, and the builder that assembles them.

  A statement is a list of `Piece`s: text, and values to bind. `render` writes `$1`, `$2`, .. for
  the values, `binds` lists them. `QueryBuilder` is the interface of a builder for such
  statements, with its documentation as `Documented`; `Built` says which pieces a builder holds,
  and `Listing` which items a separated builder has written.

  * `renderFrom_congr`: the text does not depend on the values.
  * `placeholders_render`: whoever reads the text finds the placeholders from 1 on, each once.
  * `built_new`, `Built.push`, `Built.pushBind`, `Listing.item`, `Listing.release`: what each
    operation of the builder adds.
-/

namespace ApiStarter.Sql

/-! ## Pieces -/

inductive Piece (V : Type) where
  | text (s : String)
  | bind (v : V)
  deriving DecidableEq

variable {V : Type}

/-- The text of a piece; a bound value has none. -/
def Piece.written : Piece V → Option String
  | text s => some s
  | bind _ => none

def Piece.value : Piece V → Option V
  | text _ => none
  | bind v => some v

def binds (ps : List (Piece V)) : List V := ps.filterMap Piece.value

def renderFrom (n : Nat) : List (Piece V) → String
  | [] => ""
  | .text s :: rest => s ++ renderFrom n rest
  | .bind _ :: rest => "$" ++ toString n ++ renderFrom (n + 1) rest

def render (ps : List (Piece V)) : String := renderFrom 1 ps

theorem binds_append (ps qs : List (Piece V)) : binds (ps ++ qs) = binds ps ++ binds qs :=
  List.filterMap_append

theorem renderFrom_append (n : Nat) (ps qs : List (Piece V)) :
    renderFrom n (ps ++ qs) = renderFrom n ps ++ renderFrom (n + (binds ps).length) qs := by
  induction ps generalizing n with
  | nil => exact (String.empty_append).symm
  | cons p ps ih =>
    cases p with
    | text s =>
      rw [List.cons_append, renderFrom, renderFrom, ih, String.append_assoc]
      rfl
    | bind v =>
      have hlength : n + (binds (.bind v :: ps)).length = n + 1 + (binds ps).length := by
        simp only [binds, List.filterMap_cons, Piece.value, List.length_cons]
        omega
      rw [List.cons_append, renderFrom, renderFrom, ih, hlength]
      simp only [String.append_assoc]

theorem renderFrom_congr {ps qs : List (Piece V)}
    (h : ps.map Piece.written = qs.map Piece.written) (n : Nat) :
    renderFrom n ps = renderFrom n qs := by
  induction ps generalizing qs n with
  | nil =>
    rw [List.map_nil, eq_comm, List.map_eq_nil_iff] at h
    rw [h]
  | cons p ps ih =>
    obtain ⟨q, qs, rfl, hhead, htail⟩ := List.map_eq_cons_iff.1 h.symm
    have ih := ih htail.symm
    cases p <;> cases q <;> simp_all [Piece.written, renderFrom]

/-! ## Placeholders of a text -/

/-- What follows each dollar sign, as far as it is digits. -/
def placeholders : List Char → List (List Char)
  | [] => []
  | c :: rest =>
    if c = '$' then rest.takeWhile Char.isDigit :: placeholders rest else placeholders rest

theorem placeholders_append {s : List Char} (h : '$' ∉ s) (t : List Char) :
    placeholders (s ++ t) = placeholders t := by
  induction s with
  | nil => rfl
  | cons c s ih =>
    rw [List.mem_cons, not_or] at h
    rw [List.cons_append, placeholders, if_neg (Ne.symm h.1), ih h.2]

/-- No digit comes first. -/
def NoDigitFirst (s : List Char) : Prop := ∀ c ∈ s.head?, c.isDigit = false

instance (s : List Char) : Decidable (NoDigitFirst s) :=
  Option.decidableForallMem s.head?

theorem placeholders_numbered {t : List Char} (h : NoDigitFirst t) (n : Nat) :
    placeholders ('$' :: Nat.toDigits 10 n ++ t) = Nat.toDigits 10 n :: placeholders t := by
  have hdigit : ∀ c ∈ Nat.toDigits 10 n, c.isDigit := fun c hc =>
    Nat.isDigit_of_mem_toDigits (by decide) (by decide) hc
  have hdollar : '$' ∉ Nat.toDigits 10 n := fun hmem => absurd (hdigit _ hmem) (by decide)
  have hstop : t.takeWhile Char.isDigit = [] := by
    cases t with
    | nil => rfl
    | cons c t => rw [List.takeWhile_cons, h c rfl, if_neg Bool.false_ne_true]
  rw [List.cons_append, placeholders, if_pos rfl, placeholders_append hdollar,
    List.takeWhile_append_of_pos hdigit, hstop, List.append_nil]

/-- Text without a dollar sign that no number before it can run into. -/
def Plain (s : String) : Prop := '$' ∉ s.toList ∧ NoDigitFirst s.toList

instance (s : String) : Decidable (Plain s) := inferInstanceAs (Decidable (_ ∧ _))

def PlainPiece : Piece V → Prop
  | .text s => Plain s
  | .bind _ => True

/-- For texts that are written out. -/
theorem plain_ofList {l : List Char} (h : '$' ∉ l ∧ NoDigitFirst l) : Plain (String.ofList l) := by
  unfold Plain
  rwa [String.toList_ofList]

theorem noDigitFirst_append {s t : List Char} (hs : NoDigitFirst s) (ht : NoDigitFirst t) :
    NoDigitFirst (s ++ t) := by
  cases s with
  | nil => exact ht
  | cons c s => exact hs

theorem Plain.append {s t : String} (hs : Plain s) (ht : Plain t) : Plain (s ++ t) := by
  unfold Plain
  rw [String.toList_append, List.mem_append, not_or]
  exact ⟨⟨hs.1, ht.1⟩, noDigitFirst_append hs.2 ht.2⟩

theorem noDigitFirst_renderFrom {ps : List (Piece V)} (h : ∀ p ∈ ps, PlainPiece p) (n : Nat) :
    NoDigitFirst (renderFrom n ps).toList := by
  induction ps generalizing n with
  | nil => exact fun c hc => nomatch hc
  | cons p ps ih =>
    rw [List.forall_mem_cons] at h
    cases p with
    | text s =>
      rw [renderFrom, String.toList_append]
      exact noDigitFirst_append h.1.2 (ih h.2 n)
    | bind v =>
      have hdollar : "$".toList = ['$'] := rfl
      rw [renderFrom, String.toList_append, String.toList_append, hdollar]
      intro c hc
      cases hc
      rfl

theorem placeholders_renderFrom {ps : List (Piece V)} (h : ∀ p ∈ ps, PlainPiece p) (n : Nat) :
    placeholders (renderFrom n ps).toList =
      (List.range' n (binds ps).length).map (Nat.toDigits 10) := by
  induction ps generalizing n with
  | nil => rfl
  | cons p ps ih =>
    rw [List.forall_mem_cons] at h
    cases p with
    | text s =>
      rw [renderFrom, String.toList_append, placeholders_append h.1.1, ih h.2 n]
      rfl
    | bind v =>
      have hdollar : "$".toList = ['$'] := rfl
      have hnumber : (toString n).toList = Nat.toDigits 10 n := Nat.toList_repr
      have hrange : List.range' n (binds (.bind v :: ps)).length =
          n :: List.range' (n + 1) (binds ps).length := rfl
      rw [renderFrom, String.toList_append, String.toList_append, hdollar, hnumber,
        List.singleton_append, placeholders_numbered (noDigitFirst_renderFrom h.2 _), ih h.2,
        hrange, List.map_cons]

theorem placeholders_render {ps : List (Piece V)} (h : ∀ p ∈ ps, PlainPiece p) :
    placeholders (render ps).toList =
      (List.range' 1 (binds ps).length).map (Nat.toDigits 10) :=
  placeholders_renderFrom h 1

/-! ## The builder -/

/-- A builder of statements with bound values, such as `sqlx::QueryBuilder`. `Separated` is the
    state between `separated` and the end of its borrow; `begun` and `separator` are what its
    `push` decides by. -/
structure QueryBuilder (V : Type) where
  Builder : Type
  Separated : Type
  new : String → Builder
  push : Builder → String → Builder
  pushBind : Builder → V → Builder
  separated : Builder → String → Separated
  /-- `Separated::push` -/
  pushSeparated : Separated → String → Separated
  pushBindUnseparated : Separated → V → Separated
  release : Separated → Builder
  separator : Separated → String
  begun : Separated → Bool
  sql : Builder → String
  arguments : Builder → List V

namespace QueryBuilder

/-- A bound value is numbered by its place among the arguments, and a separated push writes the
    separator unless it is the first. -/
structure Documented (lib : QueryBuilder V) : Prop where
  sql_new : ∀ s, lib.sql (lib.new s) = s
  arguments_new : ∀ s, lib.arguments (lib.new s) = []
  sql_push : ∀ b s, lib.sql (lib.push b s) = lib.sql b ++ s
  arguments_push : ∀ b s, lib.arguments (lib.push b s) = lib.arguments b
  sql_pushBind : ∀ b v,
    lib.sql (lib.pushBind b v) = lib.sql b ++ ("$" ++ toString ((lib.arguments b).length + 1))
  arguments_pushBind : ∀ b v, lib.arguments (lib.pushBind b v) = lib.arguments b ++ [v]
  release_separated : ∀ b s, lib.release (lib.separated b s) = b
  separator_separated : ∀ b s, lib.separator (lib.separated b s) = s
  begun_separated : ∀ b s, lib.begun (lib.separated b s) = false
  release_pushSeparated : ∀ st s, lib.release (lib.pushSeparated st s) =
    lib.push (if lib.begun st then lib.push (lib.release st) (lib.separator st)
      else lib.release st) s
  separator_pushSeparated : ∀ st s, lib.separator (lib.pushSeparated st s) = lib.separator st
  begun_pushSeparated : ∀ st s, lib.begun (lib.pushSeparated st s) = true
  release_pushBindUnseparated : ∀ st v,
    lib.release (lib.pushBindUnseparated st v) = lib.pushBind (lib.release st) v
  separator_pushBindUnseparated : ∀ st v,
    lib.separator (lib.pushBindUnseparated st v) = lib.separator st
  begun_pushBindUnseparated : ∀ st v, lib.begun (lib.pushBindUnseparated st v) = lib.begun st

/-- The builder holds these pieces. -/
def Built (lib : QueryBuilder V) (b : lib.Builder) (ps : List (Piece V)) : Prop :=
  lib.sql b = render ps ∧ lib.arguments b = binds ps

/-- The separated builder has written these items after the pieces it began with. -/
structure Listing (lib : QueryBuilder V) (st : lib.Separated) (ps : List (Piece V))
    (separator : String) (items : List (List (Piece V))) : Prop where
  built : lib.Built (lib.release st) (ps ++ [Piece.text separator].intercalate items)
  separator : lib.separator st = separator
  begun : lib.begun st = !items.isEmpty

variable {lib : QueryBuilder V} {b : lib.Builder} {st : lib.Separated} {ps : List (Piece V)}
  {separator : String} {items : List (List (Piece V))}

theorem built_new (hlib : lib.Documented) (s : String) : lib.Built (lib.new s) [.text s] := by
  refine ⟨?_, hlib.arguments_new s⟩
  rw [hlib.sql_new]
  exact (String.append_empty).symm

theorem Built.push (hlib : lib.Documented) (h : lib.Built b ps) (s : String) :
    lib.Built (lib.push b s) (ps ++ [.text s]) := by
  unfold Built render
  rw [hlib.sql_push, hlib.arguments_push, h.1, h.2, renderFrom_append, binds_append]
  refine ⟨?_, (List.append_nil _).symm⟩
  rw [renderFrom, renderFrom, String.append_empty]
  rfl

theorem Built.pushBind (hlib : lib.Documented) (h : lib.Built b ps) (v : V) :
    lib.Built (lib.pushBind b v) (ps ++ [.bind v]) := by
  unfold Built render
  rw [hlib.sql_pushBind, hlib.arguments_pushBind, h.1, h.2, renderFrom_append, binds_append]
  refine ⟨?_, rfl⟩
  rw [renderFrom, renderFrom, String.append_empty, Nat.add_comm]
  rfl

theorem Built.separated (hlib : lib.Documented) (h : lib.Built b ps) (s : String) :
    lib.Listing (lib.separated b s) ps s [] where
  built := by
    rw [hlib.release_separated, List.intercalate_nil, List.append_nil]
    exact h
  separator := hlib.separator_separated b s
  begun := hlib.begun_separated b s

theorem map_intercalate {α β : Type} (f : α → β) (sep : List α) (items : List (List α)) :
    (sep.intercalate items).map f = (sep.map f).intercalate (items.map (List.map f)) := by
  induction items with
  | nil => rfl
  | cons first rest ih =>
    by_cases hrest : rest = []
    · subst hrest
      simp
    · rw [List.map_cons, List.intercalate_cons_of_ne_nil hrest,
        List.intercalate_cons_of_ne_nil (by simpa using hrest), List.map_append, List.map_append,
        ih]

theorem forall_mem_intercalate {α : Type} {P : α → Prop} {sep : List α} (hsep : ∀ x ∈ sep, P x)
    {items : List (List α)} (hitems : ∀ item ∈ items, ∀ x ∈ item, P x) :
    ∀ x ∈ sep.intercalate items, P x := by
  induction items with
  | nil => exact fun x hx => absurd hx List.not_mem_nil
  | cons first rest ih =>
    rw [List.forall_mem_cons] at hitems
    by_cases hrest : rest = []
    · subst hrest
      rw [List.intercalate_singleton]
      exact hitems.1
    · rw [List.intercalate_cons_of_ne_nil hrest, List.forall_mem_append, List.forall_mem_append]
      exact ⟨⟨hitems.1, hsep⟩, ih hitems.2⟩

theorem intercalate_concat {α : Type} (sep item : List α) {items : List (List α)}
    (h : items ≠ []) :
    sep.intercalate (items ++ [item]) = sep.intercalate items ++ sep ++ item := by
  induction items with
  | nil => exact absurd rfl h
  | cons first rest ih =>
    by_cases hrest : rest = []
    · subst hrest
      simp
    · rw [List.cons_append, List.intercalate_cons_of_ne_nil (by simp),
        List.intercalate_cons_of_ne_nil hrest, ih hrest]
      simp only [List.append_assoc]

/-- One more item: a text that is separated from the items before it, and a value. -/
theorem Listing.item (hlib : lib.Documented) (h : lib.Listing st ps separator items) (s : String)
    (v : V) :
    lib.Listing (lib.pushBindUnseparated (lib.pushSeparated st s) v) ps separator
      (items ++ [[.text s, .bind v]]) where
  built := by
    rw [hlib.release_pushBindUnseparated, hlib.release_pushSeparated, h.begun, h.separator]
    by_cases hitems : items = []
    · subst hitems
      have hbuilt := h.built
      rw [List.intercalate_nil, List.append_nil] at hbuilt
      have hitem := (hbuilt.push hlib s).pushBind hlib v
      rwa [List.append_assoc] at hitem
    · have hbegun : (!items.isEmpty) = true := by simpa using hitems
      rw [hbegun, if_pos rfl, intercalate_concat _ _ hitems]
      have hitem := ((h.built.push hlib separator).push hlib s).pushBind hlib v
      simpa only [List.append_assoc, List.singleton_append, List.cons_append, List.nil_append]
        using hitem
  separator := by
    rw [hlib.separator_pushBindUnseparated, hlib.separator_pushSeparated, h.separator]
  begun := by
    rw [hlib.begun_pushBindUnseparated, hlib.begun_pushSeparated]
    simp

/-- The placeholders in the text are numbered from 1 on, one for each argument. -/
def Numbered (lib : QueryBuilder V) (b : lib.Builder) : Prop :=
  placeholders (lib.sql b).toList =
    (List.range' 1 (lib.arguments b).length).map (Nat.toDigits 10)

theorem Built.numbered (h : lib.Built b ps) (hplain : ∀ p ∈ ps, PlainPiece p) :
    lib.Numbered b := by
  unfold Numbered
  rw [h.1, h.2, placeholders_render hplain]

/-- Statements with the same texts around their values have the same text. -/
theorem Built.sql_congr {b' : lib.Builder} {qs : List (Piece V)} (h : lib.Built b ps)
    (h' : lib.Built b' qs) (hwritten : ps.map Piece.written = qs.map Piece.written) :
    lib.sql b = lib.sql b' := by
  rw [h.1, h'.1]
  exact renderFrom_congr hwritten 1

/-- The builder that keeps the text and the arguments. -/
def plain (V : Type) : QueryBuilder V where
  Builder := String × List V
  Separated := (String × List V) × String × Bool
  new s := (s, [])
  push b s := (b.1 ++ s, b.2)
  pushBind b v := (b.1 ++ ("$" ++ toString (b.2.length + 1)), b.2 ++ [v])
  separated b s := (b, s, false)
  pushSeparated st s :=
    let (b, separator, begun) := st
    ((if begun then b.1 ++ separator ++ s else b.1 ++ s, b.2), separator, true)
  pushBindUnseparated st v :=
    let (b, separator, begun) := st
    ((b.1 ++ ("$" ++ toString (b.2.length + 1)), b.2 ++ [v]), separator, begun)
  release st := st.1
  separator st := st.2.1
  begun st := st.2.2
  sql b := b.1
  arguments b := b.2

theorem plain_documented (V : Type) : (plain V).Documented where
  sql_new _ := rfl
  arguments_new _ := rfl
  sql_push _ _ := rfl
  arguments_push _ _ := rfl
  sql_pushBind _ _ := rfl
  arguments_pushBind _ _ := rfl
  release_separated _ _ := rfl
  separator_separated _ _ := rfl
  begun_separated _ _ := rfl
  release_pushSeparated st s := by
    obtain ⟨b, separator, begun⟩ := st
    cases begun <;> rfl
  separator_pushSeparated _ _ := rfl
  begun_pushSeparated _ _ := rfl
  release_pushBindUnseparated _ _ := rfl
  separator_pushBindUnseparated _ _ := rfl
  begun_pushBindUnseparated _ _ := rfl

end QueryBuilder

end ApiStarter.Sql
