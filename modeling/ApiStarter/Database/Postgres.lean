import Mathlib.Data.List.Basic
import Mathlib.Data.List.Induction

/-
  What the statements rely on of `sqlx` and PostgreSQL.

  `Postgres` collects the parts of the server that the migrations do not fix: how a text is
  stored in a `VARCHAR(n)` column, the collation, the case folding of `ILIKE`, and the order
  in which a scan meets its rows.
-/

namespace ApiStarter.Database

/-! ## Results -/

section

variable {ε α β : Type}

theorem ok_of_bind_ok {r : Except ε α} {f : α → Except ε β} {b : β} (h : r >>= f = .ok b) :
    ∃ a, r = .ok a ∧ f a = .ok b := by
  cases r with
  | error err => cases h
  | ok a => exact ⟨a, rfl, h⟩

theorem ok_of_map_ok {r : Except ε α} {f : α → β} {b : β} (h : r.map f = .ok b) :
    ∃ a, r = .ok a ∧ f a = b := by
  cases r with
  | error err => cases h
  | ok a => exact ⟨a, rfl, Except.ok.inj h⟩

end

/-! ## Errors -/

inductive SqlxError where
  | database (code : String) (message : String)
  | columnDecode (column : String)
  | other (message : String)
  deriving DecidableEq, Repr

namespace SqlxError

def text : SqlxError → String
  | database _ message => "error returned from database: " ++ message
  | columnDecode column => "error occurred while decoding column " ++ column
  | other message => message

end SqlxError

/-! ## `database::pg_error` -/

namespace PgError

def uniqueViolation : String := "23505"
def notNullViolation : String := "23502"
def foreignKeyViolation : String := "23503"

def codeOf : SqlxError → Option String
  | .database code _ => some code
  | _ => none

/-- `pg_error::is` -/
def is (err : SqlxError) (code : String) : Bool := codeOf err == some code

end PgError

/-! ## Text -/

/-- A text parameter: PostgreSQL has no NUL character. -/
def bindText (s : String) : Except SqlxError Unit :=
  if s.toList.contains (Char.ofNat 0) then
    .error (.database "22021" "invalid byte sequence for encoding UTF8: 0x00")
  else .ok ()

structure Postgres where
  /-- What storing a text in a `VARCHAR(n)` column makes of it. -/
  varchar : Nat → String → Except SqlxError String
  /-- `x <= y` in the collation of the database. -/
  collate : String → String → Bool
  /-- `lower(x)`, which `ILIKE` applies to both sides. -/
  lower : String → String
  /-- The order in which the `n`-th statement meets the rows of a scan, by their positions. -/
  scan : Nat → List Nat → List Nat

/-- The first `n` characters of a text. -/
def cut (n : Nat) (s : String) : String := String.ofList (s.toList.take n)

theorem cut_of_length_le {n : Nat} {s : String} (h : s.length ≤ n) : cut n s = s := by
  rw [cut, List.take_of_length_le (by rwa [String.length_toList]), String.ofList_toList]

/-- A text without blanks that loses blanks only loses nothing. -/
theorem cut_of_no_blank {n : Nat} {s : String} (hs : ' ' ∉ s.toList)
    (hblank : ∀ c ∈ s.toList.drop n, c = ' ') : cut n s = s := by
  refine cut_of_length_le ?_
  rw [← String.length_toList, ← List.drop_eq_nil_iff, List.eq_nil_iff_forall_not_mem]
  intro c hc
  exact hs (hblank c hc ▸ List.mem_of_mem_drop hc)

theorem cut_ne_empty {n : Nat} {s : String} (hn : 0 < n) (hs : s ≠ "") : cut n s ≠ "" := by
  intro h
  have htake : s.toList.take n = [] := by simpa [cut] using congrArg String.toList h
  rcases List.take_eq_nil_iff.1 htake with h0 | hnil
  · omega
  · exact hs (String.toList_injective hnil)

/-- A value longer than its column is cut to its length if that loses blanks only, and rejected
    with SQLSTATE 22001 otherwise; any other is stored as it is. -/
def Postgres.RejectsLonger (pg : Postgres) : Prop :=
  ∀ n s, pg.varchar n s =
    if (s.toList.drop n).all (· == ' ') then .ok (cut n s)
    else .error (.database "22001" s!"value too long for type character varying({n})")

/-- The value a text parameter leaves in a `VARCHAR(n)` column. -/
def Postgres.store (pg : Postgres) (n : Nat) (s : String) : Except SqlxError String := do
  bindText s
  pg.varchar n s

/-- What is stored is what the column can hold, and only blanks are lost. -/
theorem Postgres.store_ok {pg : Postgres} (hpg : pg.RejectsLonger) {n : Nat} {s s' : String}
    (h : pg.store n s = .ok s') : s' = cut n s ∧ ∀ c ∈ s.toList.drop n, c = ' ' := by
  unfold Postgres.store bindText at h
  rw [hpg n s] at h
  split at h
  · cases h
  · split at h
    next hblank =>
      cases h
      exact ⟨rfl, by simpa using hblank⟩
    · cases h

theorem Postgres.store_eq_of_ok {pg : Postgres} (hpg : pg.RejectsLonger) {n : Nat}
    {s s' : String} (h : pg.store n s = .ok s') : s' = cut n s :=
  (Postgres.store_ok hpg h).1

/-! ## `LIKE` -/

/-- `LIKE` on characters: `%` is any run, `_` any character, a backslash quotes the next
    character. A pattern that ends in a lone backslash matches nothing here; the statements
    of this program never build one, since their patterns end in `%`. -/
def like : List Char → List Char → Bool
  | [], text => text.isEmpty
  | '%' :: pattern, text => text.tails.any (like pattern)
  | '_' :: pattern, _ :: text => like pattern text
  | '\\' :: c :: pattern, d :: text => c == d && like pattern text
  | '_' :: _, [] => false
  | '\\' :: _, _ => false
  | c :: pattern, d :: text => c == d && like pattern text
  | _ :: _, [] => false

def Postgres.ilike (pg : Postgres) (text pattern : String) : Bool :=
  like (pg.lower pattern).toList (pg.lower text).toList

/-- The rows of a scan in the order the `n`-th statement meets them. -/
def Postgres.scanned (pg : Postgres) {α : Type} (n : Nat) (rows : List α) : List α :=
  (pg.scan n (List.range rows.length)).filterMap fun i => rows[i]?

/-- A scan meets every row, in whatever order. -/
def Permutes (scan : Nat → List Nat → List Nat) : Prop :=
  ∀ n positions, (scan n positions).Perm positions

/-- The collation is a total preorder. -/
structure Postgres.Orders (pg : Postgres) : Prop where
  total : ∀ x y, pg.collate x y = true ∨ pg.collate y x = true
  trans : ∀ x y z, pg.collate x y = true → pg.collate y z = true → pg.collate x z = true

theorem range_filterMap_getElem? {α : Type} (rows : List α) :
    (List.range rows.length).filterMap (fun i => rows[i]?) = rows := by
  induction rows using List.reverseRecOn with
  | nil => rfl
  | append_singleton rows row ih =>
    rw [List.length_append, List.length_singleton, List.range_succ, List.filterMap_append]
    have hold : (List.range rows.length).filterMap (fun i => (rows ++ [row])[i]?) =
        (List.range rows.length).filterMap fun i => rows[i]? :=
      List.filterMap_congr fun i hi => List.getElem?_append_left (List.mem_range.1 hi)
    rw [hold, ih]
    simp

theorem Postgres.scanned_perm {pg : Postgres} (h : Permutes pg.scan) {α : Type} (n : Nat)
    (rows : List α) : (pg.scanned n rows).Perm rows := by
  have hperm := (h n (List.range rows.length)).filterMap fun i => rows[i]?
  rwa [range_filterMap_getElem?] at hperm

/-- Whatever order of the rows each statement is to meet, some scan has it. -/
theorem Postgres.exists_scan (pg : Postgres) {α : Type} [DecidableEq α] {rows : List α}
    (hnodup : rows.Nodup) {f : Nat → List α} (hf : ∀ n, (f n).Perm rows) :
    ∃ scan, Permutes scan ∧ ∀ n, ({ pg with scan := scan } : Postgres).scanned n rows = f n := by
  have hpositions : rows.map rows.idxOf = List.range rows.length := by
    refine List.ext_getElem (by simp) fun i h₁ h₂ => ?_
    rw [List.getElem_map, List.getElem_range, hnodup.idxOf_getElem]
  refine ⟨fun n positions => if positions = List.range rows.length then (f n).map rows.idxOf
    else positions, fun n positions => ?_, fun n => ?_⟩
  · dsimp only
    split
    next heq =>
      rw [heq, ← hpositions]
      exact (hf n).map _
    next => exact List.Perm.refl _
  · unfold scanned
    dsimp only
    rw [if_pos rfl, List.filterMap_map]
    refine (List.filterMap_congr fun row hrow => ?_).trans List.filterMap_some
    exact List.getElem?_idxOf ((hf n).subset hrow)

end ApiStarter.Database
