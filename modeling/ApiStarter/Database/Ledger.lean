import ApiStarter.Database.Ddl
import ApiStarter.Effect.Run
import Mathlib.Data.List.Induction

/-
  Ledgers of migrations.

  A migration is applied or reverted in a transaction that also writes its line in the ledger.
  Where each migration adds to the layout what its reverse takes away (`Stacks`), the layout is
  that of as many migrations as the ledger lists, whatever is written to the tables in between and
  whatever fails (`run_stacked`), and no reverse is ever refused (`revertible`).
-/

namespace ApiStarter.Ddl

open ApiStarter.Effect

/-- A reversible pair; `up` may use values that are generated when it runs. -/
structure Migration (G V : Type) where
  version : Nat
  up : G → List (Statement V)
  down : List (Statement V)

/-- A database with its ledger of the versions that are applied. -/
structure Store (V : Type) where
  ledger : List Nat
  catalog : Catalog V

def Store.empty {V : Type} : Store V := { ledger := [], catalog := .empty }

inductive MigrationEvent where
  | applied
  | reverted
  | failed
  /-- Rows were written by others. -/
  | wrote
  deriving DecidableEq, Repr

section

variable {G V : Type} [DecidableEq V]

def nextMigration (migrations : List (Migration G V)) (ledger : List Nat) :
    Option (Migration G V) :=
  migrations.find? fun m => m.version ∉ ledger

def lastMigration (migrations : List (Migration G V)) (ledger : List Nat) :
    Option (Migration G V) :=
  migrations.reverse.find? fun m => m.version ∈ ledger

/-- Each migration is a transaction, together with its line in the ledger. -/
inductive MigrationStep (migrations : List (Migration G V)) :
    Store V → MigrationEvent → Store V → Prop
  | applied {s : Store V} {m : Migration G V} {g : G} {c' : Catalog V}
      (hnext : nextMigration migrations s.ledger = some m)
      (hexec : s.catalog.execAll (m.up g) = .ok c') :
      MigrationStep migrations s .applied { ledger := s.ledger ++ [m.version], catalog := c' }
  | reverted {s : Store V} {m : Migration G V} {c' : Catalog V}
      (hlast : lastMigration migrations s.ledger = some m)
      (hexec : s.catalog.execAll m.down = .ok c') :
      MigrationStep migrations s .reverted
        { ledger := s.ledger.filter (· ≠ m.version), catalog := c' }
  | failed (s : Store V) : MigrationStep migrations s .failed s
  /-- Whatever rows the constraints admit. -/
  | wrote {s : Store V} {contents : Contents V}
      (hvalid : Catalog.Valid { s.catalog with contents := contents }) :
      MigrationStep migrations s .wrote
        { s with catalog := { s.catalog with contents := contents } }

/-- Each migration puts its part of the layout on top of those before it, and its reverse takes
    it away and nothing else. -/
structure Stacks (migrations : List (Migration G V)) (stack : Layout) : Prop where
  versions : (migrations.map (·.version)).Nodup
  up : ∀ (k : Nat) (m : Migration G V), migrations[k]? = some m → ∀ g,
    (m.up g).foldlM Layout.define (stack.take k) = .ok (stack.take (k + 1))
  down : ∀ (k : Nat) (m : Migration G V), migrations[k]? = some m →
    m.down.foldlM Layout.define (stack.take (k + 1)) = .ok (stack.take k)
  noInsert : ∀ m ∈ migrations, ∀ s ∈ m.down, s.isInsert = false

/-- The ledger lists `done`, the layout is theirs, and the constraints hold. -/
structure StackedAt (stack : Layout) (done : List (Migration G V)) (s : Store V) : Prop where
  ledger : s.ledger = done.map (·.version)
  layout : s.catalog.layout = stack.take done.length
  valid : s.catalog.Valid

variable {migrations : List (Migration G V)} {stack : Layout}

omit [DecidableEq V] in
theorem nextMigration_of_split {done rest : List (Migration G V)}
    (h : ((done ++ rest).map (·.version)).Nodup) :
    nextMigration (done ++ rest) (done.map (·.version)) = rest.head? := by
  unfold nextMigration
  rw [List.find?_append]
  have hdone : done.find? (fun m => m.version ∉ done.map (·.version)) = none :=
    List.find?_eq_none.2 fun m hm => by
      simpa using ⟨m, hm, rfl⟩
  rw [hdone, Option.none_or]
  cases rest with
  | nil => rfl
  | cons m rest =>
    rw [List.map_append, List.nodup_append'] at h
    have hm : m.version ∉ done.map (·.version) := fun hmem =>
      h.2.2 hmem (List.mem_map_of_mem List.mem_cons_self)
    rw [List.find?_cons_of_pos (by simpa using hm)]
    rfl

omit [DecidableEq V] in
theorem lastMigration_of_split {done rest : List (Migration G V)} {m : Migration G V}
    (h : ((done ++ m :: rest).map (·.version)).Nodup) :
    lastMigration (done ++ m :: rest) ((done ++ [m]).map (·.version)) = some m := by
  have hsplit : (done ++ m :: rest).reverse = rest.reverse ++ m :: done.reverse := by simp
  unfold lastMigration
  rw [hsplit, List.find?_append]
  have hrest :
      rest.reverse.find? (fun m' => m'.version ∈ (done ++ [m]).map (·.version)) = none := by
    refine List.find?_eq_none.2 fun m' hm' => ?_
    have hsplit' : done ++ m :: rest = (done ++ [m]) ++ rest := by simp
    rw [hsplit', List.map_append, List.nodup_append'] at h
    simpa using fun hmem => h.2.2 hmem (List.mem_map_of_mem (List.mem_reverse.1 hm'))
  rw [hrest, Option.none_or, List.find?_cons_of_pos (by simp)]

section

variable {done rest : List (Migration G V)} {m : Migration G V} {s s' : Store V} {c' : Catalog V}

/-- A migration adds its line to the ledger, and its part to the layout. -/
theorem stackedAt_applied (hstacks : Stacks (done ++ m :: rest) stack) {g : G}
    (hat : StackedAt stack done s) (hexec : s.catalog.execAll (m.up g) = .ok c') :
    StackedAt stack (done ++ [m]) { ledger := s.ledger ++ [m.version], catalog := c' } where
  ledger := by
    dsimp only
    rw [hat.ledger, List.map_append]
    rfl
  layout := by
    have hlayout := Catalog.execAll_layout hexec
    rw [hat.layout, hstacks.up done.length m (by simp) g] at hlayout
    rw [List.length_append]
    exact (Except.ok.inj hlayout).symm
  valid := Catalog.execAll_valid hat.valid hexec

/-- A reverse takes the last line off the ledger, and the top off the layout. -/
theorem stackedAt_reverted (hstacks : Stacks (done ++ m :: rest) stack)
    (hat : StackedAt stack (done ++ [m]) s) (hexec : s.catalog.execAll m.down = .ok c') :
    StackedAt stack done
      { ledger := s.ledger.filter (· ≠ m.version), catalog := c' } where
  ledger := by
    have hversions := hstacks.versions
    rw [List.map_append, List.map_cons, List.nodup_append'] at hversions
    have hkept : (done.map (·.version)).filter (· ≠ m.version) = done.map (·.version) :=
      List.filter_eq_self.2 fun version hversion => by
        simpa using fun heq : version = m.version =>
          hversions.2.2 (heq ▸ hversion) List.mem_cons_self
    dsimp only
    rw [hat.ledger, List.map_append, List.filter_append, hkept]
    simp
  layout := by
    have hlayout := Catalog.execAll_layout hexec
    have hlength : (done ++ [m]).length = done.length + 1 := by simp
    rw [hat.layout, hlength, hstacks.down done.length m (by simp)] at hlayout
    exact (Except.ok.inj hlayout).symm
  valid := Catalog.execAll_valid hat.valid hexec

theorem can_apply (hstacks : Stacks (done ++ m :: rest) stack) {g : G}
    (hat : StackedAt stack done s) (hexec : s.catalog.execAll (m.up g) = .ok c') :
    ∃ s', MigrationStep (done ++ m :: rest) s .applied s' ∧ StackedAt stack (done ++ [m]) s' ∧
      s'.catalog = c' :=
  ⟨_, .applied (by rw [hat.ledger]; exact nextMigration_of_split hstacks.versions) hexec,
    stackedAt_applied hstacks hat hexec, rfl⟩

/-- No reverse is refused. -/
theorem can_revert (hstacks : Stacks (done ++ m :: rest) stack)
    (hat : StackedAt stack (done ++ [m]) s) :
    ∃ s', MigrationStep (done ++ m :: rest) s .reverted s' ∧ StackedAt stack done s' := by
  have hlength : (done ++ [m]).length = done.length + 1 := by simp
  have hdown := hstacks.down done.length m (by simp)
  rw [← hlength, ← hat.layout] at hdown
  obtain ⟨c', hexec, -⟩ := Catalog.execAll_of_define (hstacks.noInsert m (by simp)) hdown
  exact ⟨_, .reverted (by rw [hat.ledger]; exact lastMigration_of_split hstacks.versions) hexec,
    stackedAt_reverted hstacks hat hexec⟩

theorem applied_inv (hstacks : Stacks (done ++ m :: rest) stack) (hat : StackedAt stack done s)
    (hstep : MigrationStep (done ++ m :: rest) s .applied s') :
    StackedAt stack (done ++ [m]) s' ∧ ∃ g, s.catalog.execAll (m.up g) = .ok s'.catalog := by
  cases hstep with
  | applied hnext hexec =>
    rw [hat.ledger, nextMigration_of_split hstacks.versions] at hnext
    cases hnext
    exact ⟨stackedAt_applied hstacks hat hexec, _, hexec⟩

theorem reverted_inv (hstacks : Stacks (done ++ m :: rest) stack)
    (hat : StackedAt stack (done ++ [m]) s)
    (hstep : MigrationStep (done ++ m :: rest) s .reverted s') :
    StackedAt stack done s' ∧ s.catalog.execAll m.down = .ok s'.catalog := by
  cases hstep with
  | reverted hlast hexec =>
    rw [hat.ledger, lastMigration_of_split hstacks.versions] at hlast
    cases hlast
    exact ⟨stackedAt_reverted hstacks hat hexec, hexec⟩

end

/-- What one migration does, whether it is applied, reverted or fails, and what writing does. -/
theorem step_stacked (hstacks : Stacks migrations stack) {s s' : Store V} {e : MigrationEvent}
    (hstep : MigrationStep migrations s e s')
    (hs : ∃ done rest, migrations = done ++ rest ∧ StackedAt stack done s) :
    ∃ done rest, migrations = done ++ rest ∧ StackedAt stack done s' := by
  obtain ⟨done, rest, rfl, hat⟩ := hs
  cases e with
  | applied =>
    cases rest with
    | nil =>
      cases hstep with
      | applied hnext =>
        rw [hat.ledger, nextMigration_of_split hstacks.versions] at hnext
        cases hnext
    | cons m rest =>
      exact ⟨done ++ [m], rest, by simp, (applied_inv hstacks hat hstep).1⟩
  | reverted =>
    obtain rfl | ⟨done, m, rfl⟩ := List.eq_nil_or_concat' done
    · cases hstep with
      | reverted hlast =>
        have hnone : lastMigration ([] ++ rest) ([] : List Nat) = none :=
          List.find?_eq_none.2 fun m _ => by simp
        rw [hat.ledger] at hlast
        exact absurd (hnone.symm.trans hlast) (fun h => nomatch h)
    · have hsplit : done ++ [m] ++ rest = done ++ m :: rest := by simp
      rw [hsplit] at hstacks hstep ⊢
      exact ⟨done, m :: rest, rfl, (reverted_inv hstacks hat hstep).1⟩
  | failed =>
    cases hstep
    exact ⟨done, rest, rfl, hat⟩
  | wrote =>
    cases hstep with
    | wrote hvalid => exact ⟨done, rest, rfl, hat.ledger, hat.layout, hvalid⟩

theorem run_stacked (hstacks : Stacks migrations stack) {s s' : Store V}
    {events : List MigrationEvent} (hrun : Run (MigrationStep migrations) s events s')
    (hs : ∃ done rest, migrations = done ++ rest ∧ StackedAt stack done s) :
    ∃ done rest, migrations = done ++ rest ∧ StackedAt stack done s' :=
  hrun.inv (I := fun s => ∃ done rest, migrations = done ++ rest ∧ StackedAt stack done s)
    (fun _ _ _ hs hstep => step_stacked hstacks hstep hs) hs

omit [DecidableEq V] in
theorem stackedAt_empty (stack : Layout) : StackedAt stack ([] : List (Migration G V)) .empty where
  ledger := rfl
  layout := rfl
  valid := Catalog.valid_empty

/-- The statements of migrations, each with what it drew. -/
def script (done : List (Migration G V × G)) : List (Statement V) :=
  done.flatMap fun m => m.1.up m.2

/-- The contents are those the migrations in the ledger make of an empty database. -/
def Scripted (migrations : List (Migration G V)) (stack : Layout) (s : Store V) : Prop :=
  ∃ (done : List (Migration G V × G)) (rest : List (Migration G V)),
    migrations = done.map Prod.fst ++ rest ∧ StackedAt stack (done.map Prod.fst) s ∧
      s.catalog.contents = (script done).foldl Contents.after Catalog.empty.contents

theorem step_scripted (hstacks : Stacks migrations stack) {s s' : Store V} {e : MigrationEvent}
    (he : e = .applied ∨ e = .failed) (hstep : MigrationStep migrations s e s')
    (hs : Scripted migrations stack s) : Scripted migrations stack s' := by
  obtain ⟨done, rest, rfl, hat, hcontents⟩ := hs
  rcases he with rfl | rfl
  · cases rest with
    | nil =>
      cases hstep with
      | applied hnext =>
        rw [hat.ledger, nextMigration_of_split hstacks.versions] at hnext
        cases hnext
    | cons m rest =>
      obtain ⟨hat', g, hexec⟩ := applied_inv hstacks hat hstep
      have hmap : (done ++ [(m, g)]).map Prod.fst = done.map Prod.fst ++ [m] := by simp
      refine ⟨done ++ [(m, g)], rest, by simp, hmap ▸ hat', ?_⟩
      rw [Catalog.execAll_contents hexec, hcontents, ← List.foldl_append]
      simp [script]
  · cases hstep
    exact ⟨done, rest, rfl, hat, hcontents⟩

/-- However often migrating an empty database fails and is begun again. -/
theorem run_scripted (hstacks : Stacks migrations stack) {s : Store V}
    {events : List MigrationEvent} (hrun : Run (MigrationStep migrations) .empty events s)
    (hevents : ∀ e ∈ events, e = .applied ∨ e = .failed) : Scripted migrations stack s :=
  hrun.inv_of_labels (P := fun e => e = .applied ∨ e = .failed)
    (fun _ _ _ he hs hstep => step_scripted hstacks he hstep hs) hevents
    ⟨[], migrations, rfl, stackedAt_empty stack, rfl⟩

/-- So everything can be taken back. -/
theorem revertible (hstacks : Stacks migrations stack) {done rest : List (Migration G V)}
    (hsplit : migrations = done ++ rest) {s : Store V} (hat : StackedAt stack done s) :
    ∃ s', Run (MigrationStep migrations) s (List.replicate done.length .reverted) s' ∧
      StackedAt stack ([] : List (Migration G V)) s' := by
  subst hsplit
  induction done using List.reverseRecOn generalizing rest s with
  | nil => exact ⟨s, .nil s, hat⟩
  | append_singleton done m ih =>
    have hsplit : done ++ [m] ++ rest = done ++ m :: rest := by simp
    have hlength : (done ++ [m]).length = done.length + 1 := by simp
    rw [hsplit] at hstacks ⊢
    obtain ⟨s₁, hstep, hat₁⟩ := can_revert hstacks hat
    obtain ⟨s', hrun, hs'⟩ := ih hat₁ hstacks
    rw [hlength, List.replicate_succ]
    exact ⟨s', .cons hstep hrun, hs'⟩

end

end ApiStarter.Ddl
