import ApiStarter.Database.Entries
import Mathlib.Data.List.Nodup
import Mathlib.Data.Option.Basic
import Mathlib.Logic.Function.Basic

/-
  Schemas and tables: the statements that define them, and the constraints they declare.

  The layout of a catalog is the list of its schemas and tables, oldest first, each with what it
  declares. `define` is what a statement does to the layout, `exec` what it does to the catalog:
  an `INSERT` is refused unless every constraint holds afterwards. `exec_valid` is the rule for
  the constraints, and `exec_layout` and `exec_of_define` lead from the catalog to its layout.
-/

namespace ApiStarter.Ddl

open ApiStarter.Entries

/-! ## Constraints -/

/-- The values of a row by position; NULL is `none`. -/
abbrev Row (V : Type) := List (Option V)

structure ForeignKey where
  columns : List Nat
  target : String
  referenced : List Nat
  deriving DecidableEq

/-- What a schema or a table declares: what it cannot do without, besides the tables it refers to,
    its columns that are not NULL, its primary and unique keys, its foreign keys, and the indexes
    that were made for it. -/
structure Definition where
  needs : List String := []
  notNull : List Nat := []
  keys : List (List Nat) := []
  foreignKeys : List ForeignKey := []
  indexes : List String := []
  deriving DecidableEq

def Definition.requires (definition : Definition) : List String :=
  definition.needs ++ definition.foreignKeys.map (·.target)

section

variable {V : Type}

/-- The values in these columns, unless one of them is NULL. -/
def cells (columns : List Nat) (row : Row V) : Option (List V) :=
  columns.mapM fun column => row.getD column none

/-- The constraints of one table. A key with a NULL in it collides with none, and a foreign key
    with a NULL in it refers to nothing. -/
structure Satisfied (rows : String → List (Row V)) (name : String) (definition : Definition) :
    Prop where
  notNull : ∀ row ∈ rows name, ∀ column ∈ definition.notNull, (row.getD column none).isSome
  keys : ∀ columns ∈ definition.keys, ((rows name).filterMap (cells columns)).Nodup
  foreignKeys : ∀ key ∈ definition.foreignKeys, ∀ k ∈ (rows name).filterMap (cells key.columns),
    k ∈ (rows key.target).filterMap (cells key.referenced)

theorem satisfied_iff {rows : String → List (Row V)} {name : String} {definition : Definition} :
    Satisfied rows name definition ↔
      (∀ row ∈ rows name, ∀ column ∈ definition.notNull, (row.getD column none).isSome) ∧
      (∀ columns ∈ definition.keys, ((rows name).filterMap (cells columns)).Nodup) ∧
      ∀ key ∈ definition.foreignKeys, ∀ k ∈ (rows name).filterMap (cells key.columns),
        k ∈ (rows key.target).filterMap (cells key.referenced) :=
  ⟨fun h => ⟨h.notNull, h.keys, h.foreignKeys⟩,
    fun ⟨hnull, hkeys, hforeign⟩ => ⟨hnull, hkeys, hforeign⟩⟩

instance [DecidableEq V] (rows : String → List (Row V)) (name : String)
    (definition : Definition) : Decidable (Satisfied rows name definition) :=
  decidable_of_iff' _ satisfied_iff

/-- Only the rows of the table and of the tables it refers to count. -/
theorem Satisfied.congr {rows rows' : String → List (Row V)} {name : String}
    {definition : Definition} (h : Satisfied rows name definition) (hname : rows' name = rows name)
    (htargets : ∀ target ∈ definition.requires, rows' target = rows target) :
    Satisfied rows' name definition where
  notNull := by rw [hname]; exact h.notNull
  keys := by rw [hname]; exact h.keys
  foreignKeys := by
    intro key hkey
    have htarget : key.target ∈ definition.requires :=
      List.mem_append_right _ (List.mem_map_of_mem hkey)
    rw [hname, htargets _ htarget]
    exact h.foreignKeys key hkey

theorem satisfied_of_empty {rows : String → List (Row V)} {name : String}
    (h : rows name = []) (definition : Definition) : Satisfied rows name definition := by
  constructor <;> simp [h]

end

/-! ### Rows of records -/

section

variable {V α β κ : Type} {f : α → Row V} {columns : List Nat}

theorem filterMap_cells {g : α → List V} (hcells : ∀ a, cells columns (f a) = some (g a))
    (as : List α) : (as.map f).filterMap (cells columns) = as.map g := by
  have hcomp : cells columns ∘ f = some ∘ g := funext hcells
  rw [List.filterMap_map, hcomp, List.filterMap_eq_map]

theorem notNull_map (h : ∀ a, ∀ column ∈ columns, ((f a).getD column none).isSome) (as : List α) :
    ∀ row ∈ as.map f, ∀ column ∈ columns, (row.getD column none).isSome :=
  List.forall_mem_map.2 fun a _ => h a

theorem nodup_cells_iff {key : α → κ} {g : κ → List V} (hg : Function.Injective g)
    (hcells : ∀ a, cells columns (f a) = some (g (key a))) (as : List α) :
    ((as.map f).filterMap (cells columns)).Nodup ↔ (as.map key).Nodup := by
  have hmap : as.map (fun a => g (key a)) = (as.map key).map g := List.map_map.symm
  rw [filterMap_cells hcells, hmap, List.nodup_map_iff hg]

/-- A reference that may be NULL. -/
theorem refers_iff {h : β → Row V} {referenced : List Nat} {r : α → Option κ} {key : β → κ}
    {g : κ → List V} (hg : Function.Injective g)
    (hcells : ∀ a, cells columns (f a) = (r a).map g)
    (hreferenced : ∀ b, cells referenced (h b) = some (g (key b))) (as : List α) (bs : List β) :
    (∀ k ∈ (as.map f).filterMap (cells columns), k ∈ (bs.map h).filterMap (cells referenced)) ↔
      ∀ a ∈ as, ∀ k, r a = some k → k ∈ bs.map key := by
  have hmap : bs.map (fun b => g (key b)) = (bs.map key).map g := List.map_map.symm
  rw [filterMap_cells hreferenced, hmap, List.filterMap_map]
  constructor
  · intro hrefers a ha k hk
    have hmem : g k ∈ as.filterMap (cells columns ∘ f) :=
      List.mem_filterMap.2 ⟨a, ha, by rw [Function.comp_apply, hcells, hk, Option.map_some]⟩
    obtain ⟨k', hk', heq⟩ := List.mem_map.1 (hrefers _ hmem)
    exact hg heq ▸ hk'
  · intro hrefers k hk
    obtain ⟨a, ha, hcell⟩ := List.mem_filterMap.1 hk
    rw [Function.comp_apply, hcells] at hcell
    obtain ⟨k', hk', rfl⟩ := Option.map_eq_some_iff.1 hcell
    exact List.mem_map_of_mem (hrefers a ha k' hk')

/-- A reference that may not. -/
theorem refers_some_iff {h : β → Row V} {referenced : List Nat} {r : α → κ} {key : β → κ}
    {g : κ → List V} (hg : Function.Injective g)
    (hcells : ∀ a, cells columns (f a) = some (g (r a)))
    (hreferenced : ∀ b, cells referenced (h b) = some (g (key b))) (as : List α) (bs : List β) :
    (∀ k ∈ (as.map f).filterMap (cells columns), k ∈ (bs.map h).filterMap (cells referenced)) ↔
      ∀ a ∈ as, r a ∈ bs.map key := by
  rw [refers_iff (r := fun a => some (r a)) hg hcells hreferenced]
  exact ⟨fun hrefers a ha => hrefers a ha _ rfl,
    fun hrefers a ha k hk => Option.some.inj hk ▸ hrefers a ha⟩

end

/-! ## Layouts -/

abbrev Layout := List (String × Definition)

namespace Layout

def names (layout : Layout) : List String := layout.map Prod.fst

/-- Each name once, and nothing without what it needs. -/
structure WellFormed (layout : Layout) : Prop where
  keyed : Keyed layout
  closed : ∀ entry ∈ layout, ∀ need ∈ entry.2.requires, need ∈ layout.names

end Layout

/-- An error of PostgreSQL. -/
inductive Refusal where
  | undefined (name : String)
  | duplicate (name : String)
  /-- Another object depends on it. -/
  | inUse (name : String)
  | violated
  deriving DecidableEq, Repr

inductive Statement (V : Type) where
  /-- `CREATE EXTENSION IF NOT EXISTS` -/
  | createExtension (name : String)
  /-- `CREATE SCHEMA IF NOT EXISTS` -/
  | createSchema (name : String)
  | dropSchema (name : String)
  /-- `CREATE TABLE IF NOT EXISTS` -/
  | createTable (name : String) (definition : Definition)
  /-- `DROP TABLE IF EXISTS` -/
  | dropTable (name : String)
  | createIndex (name table : String)
  /-- The rows as the tables and the sequence of a `SERIAL` column make them, and how many numbers
      of the sequence they take. -/
  | insert (table : String) (rows : (String → List (Row V)) → Nat → List (Row V)) (numbers : Nat)

def Statement.isInsert {V : Type} : Statement V → Bool
  | .insert .. => true
  | _ => false

namespace Layout

variable {V : Type}

def create (layout : Layout) (name : String) (definition : Definition) : Except Refusal Layout :=
  if name ∈ layout.names then .ok layout
  else
    match definition.requires.find? fun need => need ∉ layout.names with
    | some need => .error (.undefined need)
    | none => .ok (layout ++ [(name, definition)])

/-- `RESTRICT`, which is the default. -/
def drop (layout : Layout) (name : String) : Except Refusal Layout :=
  let rest := layout.filter fun entry => entry.1 ≠ name
  match rest.find? fun entry => name ∈ entry.2.requires with
  | some entry => .error (.inUse entry.1)
  | none => .ok rest

def addIndex (layout : Layout) (name table : String) : Layout :=
  layout.map fun entry =>
    if entry.1 = table then (entry.1, { entry.2 with indexes := entry.2.indexes ++ [name] })
    else entry

/-- What a statement does to the layout, if it is not refused. -/
def define (layout : Layout) : Statement V → Except Refusal Layout
  | .createExtension _ => .ok layout
  | .createSchema name => layout.create name {}
  | .dropSchema name =>
    if name ∈ layout.names then layout.drop name else .error (.undefined name)
  | .createTable name definition => layout.create name definition
  | .dropTable name => if name ∈ layout.names then layout.drop name else .ok layout
  | .createIndex name table =>
    if table ∉ layout.names then .error (.undefined table)
    else if layout.any fun entry => name ∈ entry.2.indexes then .error (.duplicate name)
    else .ok (layout.addIndex name table)
  | .insert table _ _ => if table ∈ layout.names then .ok layout else .error (.undefined table)

theorem create_cases {layout layout' : Layout} {name : String} {definition : Definition}
    (h : layout.create name definition = .ok layout') :
    (name ∈ layout.names ∧ layout' = layout) ∨
      (name ∉ layout.names ∧ (∀ need ∈ definition.requires, need ∈ layout.names) ∧
        layout' = layout ++ [(name, definition)]) := by
  unfold create at h
  split at h
  next hname =>
    cases h
    exact .inl ⟨hname, rfl⟩
  next hname =>
    split at h
    next => cases h
    next hneeds =>
      cases h
      exact .inr ⟨hname, fun need hneed => by simpa using List.find?_eq_none.1 hneeds need hneed,
        rfl⟩

theorem drop_ok {layout layout' : Layout} {name : String} (h : layout.drop name = .ok layout') :
    layout' = layout.filter (fun entry => entry.1 ≠ name) ∧
      ∀ entry ∈ layout', name ∉ entry.2.requires := by
  unfold drop at h
  dsimp only at h
  split at h
  next => cases h
  next hfree =>
    cases h
    exact ⟨rfl, fun entry hentry => by simpa using List.find?_eq_none.1 hfree entry hentry⟩

@[simp] theorem names_addIndex (layout : Layout) (name table : String) :
    (layout.addIndex name table).names = layout.names := by
  unfold names addIndex
  rw [List.map_map]
  exact List.map_congr_left fun entry _ => by
    dsimp only [Function.comp_apply]
    split <;> rfl

theorem wellFormed_nil : WellFormed [] where
  keyed := List.nodup_nil
  closed := fun _ hentry => nomatch hentry

theorem WellFormed.create {layout layout' : Layout} (h : layout.WellFormed) {name : String}
    {definition : Definition} (hcreate : layout.create name definition = .ok layout') :
    layout'.WellFormed := by
  obtain ⟨-, rfl⟩ | ⟨hname, hneeds, rfl⟩ := create_cases hcreate
  · exact h
  · have hnames : names (layout ++ [(name, definition)]) = layout.names ++ [name] :=
      List.map_append
    refine ⟨?_, fun entry hentry need hneed => ?_⟩
    · unfold Keyed
      rw [List.map_append]
      refine List.nodup_append'.2 ⟨h.keyed, List.nodup_singleton _, ?_⟩
      rw [List.disjoint_comm]
      exact List.singleton_disjoint.2 hname
    · rw [hnames]
      rcases List.mem_append.1 hentry with hold | hnew
      · exact List.mem_append_left _ (h.closed entry hold need hneed)
      · rw [List.mem_singleton.1 hnew] at hneed
        exact List.mem_append_left _ (hneeds need hneed)

theorem WellFormed.drop {layout layout' : Layout} (h : layout.WellFormed) {name : String}
    (hdrop : layout.drop name = .ok layout') : layout'.WellFormed := by
  obtain ⟨rfl, hfree⟩ := drop_ok hdrop
  refine ⟨h.keyed.sublist (List.filter_sublist.map _), fun entry hentry need hneed => ?_⟩
  obtain ⟨other, hother, rfl⟩ :=
    List.mem_map.1 (h.closed entry (List.mem_filter.1 hentry).1 need hneed)
  have hne : other.1 ≠ name := fun heq => hfree entry hentry (heq ▸ hneed)
  exact List.mem_map_of_mem (List.mem_filter.2 ⟨hother, by simpa using hne⟩)

theorem WellFormed.addIndex {layout : Layout} (h : layout.WellFormed) (name table : String) :
    (layout.addIndex name table).WellFormed := by
  refine ⟨?_, fun entry hentry need hneed => ?_⟩
  · have hnames := names_addIndex layout name table
    unfold names at hnames
    unfold Keyed
    rw [hnames]
    exact h.keyed
  · rw [names_addIndex]
    obtain ⟨old, hold, rfl⟩ := List.mem_map.1 hentry
    refine h.closed old hold need ?_
    dsimp only at hneed
    split at hneed <;> exact hneed

end Layout

/-! ## Catalogs -/

/-- The rows of the tables, and the next numbers of their sequences. -/
structure Contents (V : Type) where
  rows : String → List (Row V)
  next : String → Nat

/-- What a statement does to the contents. -/
def Contents.after {V : Type} (c : Contents V) : Statement V → Contents V
  | .createExtension _ | .createSchema _ | .createTable .. | .createIndex .. => c
  | .dropSchema name | .dropTable name =>
    { rows := Function.update c.rows name [], next := Function.update c.next name 1 }
  | .insert table rows numbers => {
      rows := Function.update c.rows table (c.rows table ++ rows c.rows (c.next table))
      next := Function.update c.next table (c.next table + numbers) }

/-- The table whose rows a statement changes. -/
def Statement.changes {V : Type} : Statement V → Option String
  | .createExtension _ | .createSchema _ | .createTable .. | .createIndex .. => none
  | .dropSchema name | .dropTable name => some name
  | .insert table _ _ => some table

theorem Contents.rows_foldl_after {V : Type} {c : Contents V} {statements : List (Statement V)}
    {name : String} (h : ∀ s ∈ statements, s.changes ≠ some name) :
    (statements.foldl Contents.after c).rows name = c.rows name := by
  induction statements generalizing c with
  | nil => rfl
  | cons s statements ih =>
    rw [List.foldl_cons, ih fun s' hs' => h s' (List.mem_cons_of_mem _ hs')]
    have hs := h s List.mem_cons_self
    cases s with
    | dropSchema other | dropTable other =>
      exact Function.update_of_ne (fun heq => hs (congrArg some heq.symm)) _ _
    | insert table rows numbers =>
      exact Function.update_of_ne (fun heq => hs (congrArg some heq.symm)) _ _
    | _ => rfl

structure Catalog (V : Type) where
  layout : Layout
  extensions : List String
  contents : Contents V

namespace Catalog

variable {V : Type}

def empty : Catalog V where
  layout := []
  extensions := []
  contents := { rows := fun _ => [], next := fun _ => 1 }

/-- Every table satisfies its constraints. -/
def Sound (c : Catalog V) : Prop :=
  ∀ entry ∈ c.layout, Satisfied c.contents.rows entry.1 entry.2

instance [DecidableEq V] (c : Catalog V) : Decidable c.Sound :=
  inferInstanceAs (Decidable (∀ entry ∈ c.layout, Satisfied c.contents.rows entry.1 entry.2))

def extend (c : Catalog V) : Statement V → List String
  | .createExtension name => c.extensions.insert name
  | _ => c.extensions

/-- What holds of a catalog whatever statements make of it. -/
structure Valid (c : Catalog V) : Prop where
  layout : c.layout.WellFormed
  sound : c.Sound
  absent : ∀ name, name ∉ c.layout.names → c.contents.rows name = []

theorem valid_empty : (empty : Catalog V).Valid where
  layout := Layout.wellFormed_nil
  sound := fun _ hentry => nomatch hentry
  absent := fun _ _ => rfl

section

variable {c c' : Catalog V} {name : String}

theorem Valid.create (h : c.Valid) {definition : Definition}
    (hcreate : c.layout.create name definition = .ok c'.layout)
    (hcontents : c'.contents = c.contents) : c'.Valid := by
  refine ⟨h.layout.create hcreate, fun entry hentry => ?_, fun other hother => ?_⟩
  · rw [hcontents]
    obtain ⟨-, hlayout⟩ | ⟨hname, -, hlayout⟩ := Layout.create_cases hcreate
    · exact h.sound entry (hlayout ▸ hentry)
    · rw [hlayout] at hentry
      rcases List.mem_append.1 hentry with hold | hnew
      · exact h.sound entry hold
      · rw [List.mem_singleton.1 hnew]
        exact satisfied_of_empty (h.absent name hname) _
  · rw [hcontents]
    refine h.absent other fun hmem => hother ?_
    obtain ⟨-, hlayout⟩ | ⟨-, -, hlayout⟩ := Layout.create_cases hcreate
    · rwa [hlayout]
    · rw [hlayout]
      unfold Layout.names
      rw [List.map_append]
      exact List.mem_append_left _ hmem

theorem Valid.drop (h : c.Valid) (hdrop : c.layout.drop name = .ok c'.layout)
    (hrows : c'.contents.rows = Function.update c.contents.rows name []) : c'.Valid := by
  obtain ⟨hlayout, hfree⟩ := Layout.drop_ok hdrop
  refine ⟨h.layout.drop hdrop, fun entry hentry => ?_, fun other hother => ?_⟩
  · have hold : entry ∈ c.layout ∧ entry.1 ≠ name := by
      rw [hlayout] at hentry
      simpa using List.mem_filter.1 hentry
    rw [hrows]
    refine (h.sound entry hold.1).congr (Function.update_of_ne hold.2 _ _) fun target htarget => ?_
    refine Function.update_of_ne (fun heq => ?_) _ _
    subst heq
    exact hfree entry hentry htarget
  · rw [hrows]
    by_cases hne : other = name
    · rw [hne, Function.update_self]
    · rw [Function.update_of_ne hne]
      refine h.absent other fun hmem => hother ?_
      obtain ⟨entry, hentry, rfl⟩ := List.mem_map.1 hmem
      refine List.mem_map_of_mem ?_
      rw [hlayout]
      exact List.mem_filter.2 ⟨hentry, by simpa using hne⟩

/-- There is nothing to forget of a table that is not there. -/
theorem Valid.absent_drop (h : c.Valid) (hname : name ∉ c.layout.names)
    (hlayout : c'.layout = c.layout)
    (hrows : c'.contents.rows = Function.update c.contents.rows name []) : c'.Valid := by
  rw [Function.update_eq_self_iff.2 (h.absent name hname).symm] at hrows
  refine ⟨hlayout ▸ h.layout, ?_, ?_⟩
  · unfold Sound
    rw [hlayout, hrows]
    exact h.sound
  · rw [hlayout, hrows]
    exact h.absent

theorem Valid.addIndex (h : c.Valid) {table : String}
    (hlayout : c'.layout = c.layout.addIndex name table) (hcontents : c'.contents = c.contents) :
    c'.Valid := by
  refine ⟨hlayout ▸ h.layout.addIndex name table, fun entry hentry => ?_, fun other hother => ?_⟩
  · rw [hlayout] at hentry
    rw [hcontents]
    obtain ⟨old, hold, rfl⟩ := List.mem_map.1 hentry
    have hsound := h.sound old hold
    dsimp only
    split
    · exact ⟨hsound.notNull, hsound.keys, hsound.foreignKeys⟩
    · exact hsound
  · rw [hlayout, Layout.names_addIndex] at hother
    rw [hcontents]
    exact h.absent other hother

end

variable [DecidableEq V]

def exec (c : Catalog V) (s : Statement V) : Except Refusal (Catalog V) := do
  let layout ← c.layout.define s
  let c' : Catalog V :=
    { layout := layout, extensions := c.extend s, contents := c.contents.after s }
  if s.isInsert = false ∨ c'.Sound then return c' else throw .violated

theorem exec_eq_ok_iff {c c' : Catalog V} {s : Statement V} :
    c.exec s = .ok c' ↔
      c.layout.define s = .ok c'.layout ∧ c'.extensions = c.extend s ∧
        c'.contents = c.contents.after s ∧ (s.isInsert = false ∨ c'.Sound) := by
  unfold exec
  cases hdefine : c.layout.define s with
  | error refusal => exact ⟨fun h => (nomatch h), fun h => (nomatch h.1)⟩
  | ok layout =>
    change (if _ then _ else _) = _ ↔ _
    split
    next hsound =>
      constructor
      · intro h
        cases h
        exact ⟨rfl, rfl, rfl, hsound⟩
      · rintro ⟨hlayout, hextensions, hcontents, -⟩
        obtain ⟨layout', extensions, contents⟩ := c'
        cases hlayout
        cases hextensions
        cases hcontents
        rfl
    next hrefused =>
      refine ⟨fun h => (nomatch h), ?_⟩
      rintro ⟨hlayout, hextensions, hcontents, hsound⟩
      obtain ⟨layout', extensions, contents⟩ := c'
      cases hlayout
      cases hextensions
      cases hcontents
      exact absurd hsound hrefused

/-- Every statement keeps the constraints. -/
theorem exec_valid {c c' : Catalog V} {s : Statement V} (hvalid : c.Valid)
    (h : c.exec s = .ok c') : c'.Valid := by
  obtain ⟨hdefine, -, hcontents, hsound⟩ := exec_eq_ok_iff.1 h
  have hrows := congrArg Contents.rows hcontents
  cases s with
  | createExtension name =>
    have hlayout : c.layout = c'.layout := Except.ok.inj hdefine
    refine ⟨hlayout ▸ hvalid.layout, ?_, ?_⟩
    · unfold Sound
      rw [← hlayout, hrows]
      exact hvalid.sound
    · rw [← hlayout, hrows]
      exact hvalid.absent
  | createSchema name =>
    dsimp only [Layout.define] at hdefine
    exact hvalid.create hdefine hcontents
  | dropSchema name =>
    dsimp only [Layout.define] at hdefine
    split at hdefine
    · exact hvalid.drop hdefine hrows
    · cases hdefine
  | createTable name definition =>
    dsimp only [Layout.define] at hdefine
    exact hvalid.create hdefine hcontents
  | dropTable name =>
    dsimp only [Layout.define] at hdefine
    split at hdefine
    · exact hvalid.drop hdefine hrows
    next hname => exact hvalid.absent_drop hname (Except.ok.inj hdefine).symm hrows
  | createIndex name table =>
    dsimp only [Layout.define] at hdefine
    split at hdefine
    · cases hdefine
    · split at hdefine
      · cases hdefine
      · exact hvalid.addIndex (Except.ok.inj hdefine).symm hcontents
  | insert table rows numbers =>
    dsimp only [Layout.define] at hdefine
    split at hdefine
    next htable =>
      have hlayout : c.layout = c'.layout := Except.ok.inj hdefine
      have hsound : c'.Sound := hsound.resolve_left Bool.noConfusion
      refine ⟨hlayout ▸ hvalid.layout, hsound, fun other hother => ?_⟩
      rw [← hlayout] at hother
      have hne : other ≠ table := fun heq => hother (heq ▸ htable)
      rw [hrows]
      exact (Function.update_of_ne hne _ _).trans (hvalid.absent other hother)
    next => cases hdefine

/-- A statement that is not an `INSERT` is refused for the layout only. -/
theorem exec_of_define {c : Catalog V} {s : Statement V} {layout : Layout}
    (hs : s.isInsert = false) (h : c.layout.define s = .ok layout) :
    ∃ c', c.exec s = .ok c' ∧ c'.layout = layout :=
  ⟨{ layout := layout, extensions := c.extend s, contents := c.contents.after s },
    exec_eq_ok_iff.2 ⟨h, rfl, rfl, .inl hs⟩, rfl⟩

/-- An `INSERT` is refused for the constraints only. -/
theorem exec_of_sound {c : Catalog V} {s : Statement V}
    (h : c.layout.define s = .ok c.layout)
    (hsound : Sound { c with contents := c.contents.after s }) : ∃ c', c.exec s = .ok c' :=
  ⟨{ layout := c.layout, extensions := c.extend s, contents := c.contents.after s },
    exec_eq_ok_iff.2 ⟨h, rfl, rfl, .inr hsound⟩⟩

/-! ### Scripts -/

/-- One statement after the other; a refusal leaves nothing behind, since they share a
    transaction. -/
def execAll (c : Catalog V) (statements : List (Statement V)) : Except Refusal (Catalog V) :=
  statements.foldlM exec c

theorem execAll_of_exec {c c₁ : Catalog V} {s : Statement V} {statements : List (Statement V)}
    (h : c.exec s = .ok c₁) : c.execAll (s :: statements) = c₁.execAll statements := by
  unfold execAll
  rw [List.foldlM_cons, h]
  rfl

theorem execAll_cons {c c' : Catalog V} {s : Statement V} {statements : List (Statement V)}
    (h : c.execAll (s :: statements) = .ok c') :
    ∃ c₁, c.exec s = .ok c₁ ∧ c₁.execAll statements = .ok c' := by
  cases hexec : c.exec s with
  | error refusal =>
    unfold execAll at h
    rw [List.foldlM_cons, hexec] at h
    cases h
  | ok c₁ => exact ⟨c₁, rfl, (execAll_of_exec hexec).symm.trans h⟩

theorem execAll_layout {c c' : Catalog V} {statements : List (Statement V)}
    (h : c.execAll statements = .ok c') :
    statements.foldlM Layout.define c.layout = .ok c'.layout := by
  induction statements generalizing c with
  | nil =>
    cases h
    rfl
  | cons s statements ih =>
    obtain ⟨c₁, hexec, hrest⟩ := execAll_cons h
    rw [List.foldlM_cons, (exec_eq_ok_iff.1 hexec).1]
    exact ih hrest

theorem execAll_contents {c c' : Catalog V} {statements : List (Statement V)}
    (h : c.execAll statements = .ok c') :
    c'.contents = statements.foldl Contents.after c.contents := by
  induction statements generalizing c with
  | nil =>
    cases h
    rfl
  | cons s statements ih =>
    obtain ⟨c₁, hexec, hrest⟩ := execAll_cons h
    rw [ih hrest, (exec_eq_ok_iff.1 hexec).2.2.1, List.foldl_cons]

theorem execAll_valid {c c' : Catalog V} {statements : List (Statement V)} (hvalid : c.Valid)
    (h : c.execAll statements = .ok c') : c'.Valid := by
  induction statements generalizing c with
  | nil =>
    cases h
    exact hvalid
  | cons s statements ih =>
    obtain ⟨c₁, hexec, hrest⟩ := execAll_cons h
    exact ih (exec_valid hvalid hexec) hrest

theorem execAll_of_define {c : Catalog V} {statements : List (Statement V)} {layout : Layout}
    (hs : ∀ s ∈ statements, s.isInsert = false)
    (h : statements.foldlM Layout.define c.layout = .ok layout) :
    ∃ c', c.execAll statements = .ok c' ∧ c'.layout = layout := by
  induction statements generalizing c with
  | nil =>
    cases h
    exact ⟨c, rfl, rfl⟩
  | cons s statements ih =>
    rw [List.foldlM_cons] at h
    cases hdefine : c.layout.define s with
    | error refusal =>
      rw [hdefine] at h
      cases h
    | ok layout₁ =>
      rw [hdefine] at h
      obtain ⟨c₁, hexec, rfl⟩ := exec_of_define (hs s List.mem_cons_self) hdefine
      obtain ⟨c', hrest, hlayout⟩ := ih (fun s hs' => hs s (List.mem_cons_of_mem _ hs')) h
      exact ⟨c', (execAll_of_exec hexec).trans hrest, hlayout⟩

end Catalog

end ApiStarter.Ddl
