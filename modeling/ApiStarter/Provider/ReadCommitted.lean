import ApiStarter.Database.Versions
import ApiStarter.Effect.Crew
import ApiStarter.Provider.Transaction

/-
  Two sessions at READ COMMITTED.

  Every statement sees what is committed when it starts, and a statement of a transaction sees the
  rows the transaction has written in its own versions of them (`Draft.sees`). A row that an open
  transaction has written is locked until the transaction ends (`Draft.locks`). `execIn` answers an
  operation in one of the sessions by `exec`, which is given exactly this view.

  Drafts know the statements of `partial_update`: updates of users, and inserts into and deletes
  from `iam.user_has_roles`. PostgreSQL also locks the rows a foreign key refers to; without that
  there are only more interleavings.
-/

namespace ApiStarter.Provider

open ApiStarter.Database ApiStarter.Effect ApiStarter.Iam ApiStarter.Relational

/-- What an open transaction has written. -/
structure Draft where
  users : List UserRow
  inserted : List UserHasRoleRow
  deleted : List UserHasRoleRow
  deriving DecidableEq, Repr

namespace Draft

def empty : Draft := { users := [], inserted := [], deleted := [] }

/-- What is committed, under the versions of the transaction. -/
def sees (draft : Draft) (db : Db) : Db :=
  { db with
    users := db.users.map (version (·.id) draft.users)
    userHasRoles := patched draft.inserted draft.deleted db.userHasRoles }

/-- The draft after a statement that found `before` and left `after`. -/
def wrote (draft : Draft) (o : Op) (before after : Db) : Draft where
  users := match o with
    | .updateUser _ userId =>
      renew (·.id) (after.users.filter fun u => decide (u.id = userId)) draft.users
    | _ => draft.users
  inserted := draft.inserted.filter after.userHasRoles.contains ++
    after.userHasRoles.filter fun key => !before.userHasRoles.contains key
  deleted := draft.deleted ++
    before.userHasRoles.filter fun key => !after.userHasRoles.contains key

/-- The statement of another session has to wait for the transaction to end: it writes a row the
    transaction has written, or gives a user an address that the transaction has given to another
    one or is taking from it. A delete does not see the rows the transaction has inserted. -/
def locks (draft : Draft) (db : Db) : Op → Bool
  | .updateUser sets userId => draft.users.any fun v =>
      v.id == userId || sets.any fun set =>
        match set with
        | .email address => v.email == cut 100 address ||
            db.users.any fun u => u.id == v.id && u.email == cut 100 address
        | _ => false
  | .insertUserRoles userId names => (rolesNamed db names).any fun r =>
      draft.inserted.contains ⟨userId, r.id⟩ || draft.deleted.contains ⟨userId, r.id⟩
  | .deleteUserRoles userId names => (rolesNamed db names).any fun r =>
      draft.deleted.contains ⟨userId, r.id⟩
  | _ => false

theorem sees_empty (db : Db) : empty.sees db = db := by
  have husers : db.users.map (version (·.id) []) = db.users := by
    refine (List.map_congr_left fun u _ => ?_).trans (List.map_id _)
    exact version_of_ne fun v hv => (List.not_mem_nil hv).elim
  unfold sees empty
  rw [patched_nil, husers]

theorem sees_ids (draft : Draft) (db : Db) :
    (draft.sees db).users.map (·.id) = db.users.map (·.id) := by
  rw [sees, List.map_map]
  exact List.map_congr_left fun u _ => key_version (·.id) draft.users u

/-- The transaction sees the roles the statement left. -/
theorem mem_sees_wrote (draft : Draft) (o : Op) (db after : Db) (key : UserHasRoleRow) :
    key ∈ ((draft.wrote o (draft.sees db) after).sees db).userHasRoles ↔
      key ∈ after.userHasRoles :=
  mem_patched_diff

/-- The transaction sees the user an update left. -/
theorem users_sees_wrote {draft : Draft} {sets : List SetClause} {userId : Uuid} {db after : Db}
    {g : UserRow → UserRow} (hids : (db.users.map (·.id)).Nodup) (hkey : ∀ u, (g u).id = u.id)
    (hg : ∀ u, u.id ≠ userId → g u = u) (hafter : after.users = (draft.sees db).users.map g) :
    ((draft.wrote (.updateUser sets userId) (draft.sees db) after).sees db).users =
      after.users := by
  rw [hafter]
  unfold sees wrote
  dsimp only
  rw [hafter]
  exact map_version_renew hids hkey hg

end Draft

/-- A session: its own counters, the clock, the copy its last statement left while a transaction is
    open, and what that transaction has written. -/
structure Session where
  world : World
  draft : Draft

namespace Session

/-- What the next operation of the session finds. -/
def finds (session : Session) (db : Db) : World :=
  { session.world with db := db, tx := session.world.tx.map fun _ => session.draft.sees db }

/-- The session after an operation. -/
def after (session : Session) (o : Op) (found left : World) : Session where
  world := left
  draft := match found.tx, left.tx with
    | some db, some db' => session.draft.wrote o db db'
    | _, _ => .empty

end Session

structure Sessions where
  db : Db
  session : Bool → Session

namespace Sessions

/-- The sessions after one of them has performed an operation. -/
def put (s : Sessions) (i : Bool) (o : Op) (left : World) : Sessions where
  db := left.db
  session := Function.update s.session i ((s.session i).after o ((s.session i).finds s.db) left)

end Sessions

/-- How the surroundings answer an operation in a session. -/
def execIn (env : Env) (faults : Faults) (i : Bool) : Handler Op Res Sessions := fun o s =>
  let (r, left) := exec env faults o ((s.session i).finds s.db)
  (r, s.put i o left)

/-- The operation waits for the transaction of the other session. -/
def waits (i : Bool) (o : Op) (s : Sessions) : Bool := (s.session !i).draft.locks s.db o

end ApiStarter.Provider
