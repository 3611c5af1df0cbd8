import ApiStarter.Database.Postgres
import ApiStarter.Database.Schema

/-
  The texts the columns of the migrations hold.
-/

namespace ApiStarter.Database

/-- PostgreSQL has no text with a NUL character. -/
def NulFree (s : String) : Prop := Char.ofNat 0 ∉ s.toList

/-- A text a `VARCHAR(n)` column holds. -/
structure Storable (n : Nat) (s : String) : Prop where
  length : s.length ≤ n
  nulFree : NulFree s

instance (s : String) : Decidable (NulFree s) := inferInstanceAs (Decidable (_ ∉ _))

instance (n : Nat) (s : String) : Decidable (Storable n s) :=
  decidable_of_iff (s.length ≤ n ∧ NulFree s) ⟨fun h => ⟨h.1, h.2⟩, fun h => ⟨h.1, h.2⟩⟩

/-- Every text of the database fits its column. -/
structure Db.TextsFit (db : Db) : Prop where
  statuses : ∀ s ∈ db.userStatuses, ∀ text ∈ s.status, Storable 50 text
  companies : ∀ c ∈ db.companies, Storable 100 c.name
  departments : ∀ d ∈ db.departments, ∀ text ∈ d.name, Storable 100 text
  userNames : ∀ u ∈ db.users, Storable 100 u.userName
  avatarIds : ∀ u ∈ db.users, Storable 255 u.avatarId
  emails : ∀ u ∈ db.users, Storable 100 u.email
  passwords : ∀ u ∈ db.users, Storable 255 u.password
  firstNames : ∀ u ∈ db.users, Storable 100 u.firstName
  lastNames : ∀ u ∈ db.users, Storable 100 u.lastName
  modules : ∀ m ∈ db.modules, Storable 100 m.name
  permissionNames : ∀ p ∈ db.permissions, ∀ text ∈ p.name, NulFree text
  permissionResources : ∀ p ∈ db.permissions, ∀ text ∈ p.resource, NulFree text
  roles : ∀ r ∈ db.roles, Storable 100 r.name
  resetEmails : ∀ r ∈ db.passwordResets, Storable 255 r.email
  resetTokens : ∀ r ∈ db.passwordResets, Storable 255 r.token

theorem Db.textsFit_seed (adminId : Uuid) : (seed adminId).TextsFit := by
  constructor <;> simp only [seed, List.forall_mem_cons, List.not_mem_nil, false_imp_iff,
    implies_true, and_true, Option.mem_some_iff, forall_eq'] <;> decide +kernel

end ApiStarter.Database
