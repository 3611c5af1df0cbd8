import ApiStarter.Module.Iam.Drafts
import ApiStarter.Provider.Integrity
import ApiStarter.Provider.SampleEnv

/-
  Two calls of `partial_update` at once.

  `concurrently` starts two calls in sessions of their own, and a run interleaves their statements.
  `Consistent` is the invariant: what is committed is what the calls committed so far do one after
  the other (`Committed`), and an open transaction has drafted what its statements do to that. So
  where both calls return `Ok`, the run ends as the calls do in the order of their commits.

  A call that looks for its user after the other one has committed may not find it: a payload can
  leave the user with a status or a department that cannot be read. In the interleaving both calls
  may have looked before that. `KeepsReadable` is what rules it out.
-/

namespace ApiStarter.Iam

open ApiStarter.Auth ApiStarter.Database ApiStarter.Effect ApiStarter.Effect.Fallible
  ApiStarter.Errdef ApiStarter.Provider ApiStarter.Relational

def UpdateCall.run (env : Env) (call : UpdateCall) : Service Error Unit :=
  UserServiceImpl.partialUpdate env call.userId call.fields

/-- The counters and the clock of a world, over a database. -/
def freshAt (db : Db) (w : World) : World := { w with db := db, tx := none }

/-- Two calls, each in a session of its own. -/
def concurrently (env : Env) (calls : Bool → UpdateCall) (worlds : Bool → World) (db : Db) :
    Crew Bool Op Res (Except Error Unit) Sessions where
  state := { db := db, session := fun i => { world := freshAt db (worlds i), draft := .empty } }
  rest i := ExceptT.run ((calls i).run env)

/-- The calls one after the other, that of `i` first, where both return `Ok`. -/
def InOrder (env : Env) (faults : Faults) (calls : Bool → UpdateCall) (worlds : Bool → World)
    (i : Bool) (db db' : Db) : Prop :=
  ∃ w₁ w₂, runE (exec env faults) ((calls i).run env) (freshAt db (worlds i)) =
      (some (.ok ()), w₁) ∧
    runE (exec env faults) ((calls !i).run env) (freshAt w₁.db (worlds !i)) =
      (some (.ok ()), w₂) ∧ db' = w₂.db

/-- The database has the user, with a named status, and a named department with a company. -/
def CanRead (db : Db) (userId : Uuid) : Prop := ∃ u ∈ db.users, u.id = userId ∧ Readable db u

/-! ## The invariant -/

section

variable (env : Env) (calls : Bool → UpdateCall) (worlds : Bool → World) (db₀ : Db)

/-- What is committed after the calls in the list, the last one first. Each of them has read its
    user after some of those before it. -/
inductive Committed : List Bool → Db → Prop
  | start : Committed [] db₀
  | commit {order before : List Bool} {db db' seen : Db} {i : Bool} {ws : List Write}
      (hdb : Committed order db) (hbefore : before <:+ order) (hseen : Committed before seen)
      (hread : CanRead seen (calls i).userId)
      (hsends : Sends env (worlds i).saltsDrawn (calls i).fields ws)
      (hsendable : ∀ write ∈ ws, write.Sendable env.pg)
      (hcarried : Carried (calls i).userId ws db db') (husers : UsersOk db') :
      Committed (i :: order) db'

/-- The call has read its user when some of the commits had happened. -/
def HasSeen (order : List Bool) (i : Bool) : Prop :=
  ∃ before seen, before <:+ order ∧ Committed env calls worlds db₀ before seen ∧
    CanRead seen (calls i).userId

/-- No transaction is open in the session. -/
def Idle (session : Session) : Prop := session.world.tx = none ∧ session.draft = .empty

/-- The session of a call at each of its stages. -/
def AtStage (order : List Bool) (db : Db) (i : Bool) (session : Session) : Stage → Prop
  | .looking => Idle session ∧ session.world.saltsDrawn = (worlds i).saltsDrawn
  | .found => Idle session ∧ session.world.saltsDrawn = (worlds i).saltsDrawn ∧
      HasSeen env calls worlds db₀ order i
  | .salted salt => Idle session ∧ salt = env.salt (worlds i).saltsDrawn ∧
      HasSeen env calls worlds db₀ order i
  | .writing hashed done todo => session.world.tx.isSome ∧
      HashedAt env (worlds i).saltsDrawn (calls i).fields hashed ∧
      writes hashed = .ok (done ++ todo) ∧
      Drafted env.pg (calls i).userId done session.draft db ∧
      HasSeen env calls worlds db₀ order i
  | .committed _ => Idle session
  | .failed => False

structure Consistent (s : Sessions) (qs : Bool → Stage) (order : List Bool) : Prop where
  committed : Committed env calls worlds db₀ order s.db
  nodup : order.Nodup
  mem_order : ∀ i, i ∈ order ↔ ∃ hashed, qs i = .committed hashed
  stage : ∀ i, AtStage env calls worlds db₀ order s.db i (s.session i) (qs i)
  apart : ∀ i, Apart (s.session i).draft (s.session !i).draft

end

section

variable {env : Env} {faults : Faults} {calls : Bool → UpdateCall} {worlds : Bool → World}
  {db₀ db : Db} {order : List Bool} {s : Sessions} {qs : Bool → Stage} {i : Bool}

theorem Committed.rest (h : Committed env calls worlds db₀ order db) :
    db = { db₀ with users := db.users, userHasRoles := db.userHasRoles } := by
  induction h with
  | start => rfl
  | commit _ _ _ _ _ _ hcarried _ ih _ => rw [hcarried.rest, ih]

theorem Committed.usersOk (h : Committed env calls worlds db₀ order db) (h₀ : UsersOk db₀) :
    UsersOk db := by
  cases h with
  | start => exact h₀
  | commit _ _ _ _ _ _ _ husers => exact husers

theorem HasSeen.cons {j : Bool} (h : HasSeen env calls worlds db₀ order i) :
    HasSeen env calls worlds db₀ (j :: order) i := by
  obtain ⟨before, seen, hbefore, hread⟩ := h
  exact ⟨before, seen, hbefore.trans (List.suffix_cons j order), hread⟩

theorem apart_empty (draft : Draft) : Apart .empty draft :=
  fun _ hv => (List.not_mem_nil hv).elim

theorem Idle.finds_tx {session : Session} (h : Idle session) : (session.finds db).tx = none := by
  unfold Session.finds
  rw [h.1]
  rfl

/-- A session that had no transaction open has written nothing. -/
theorem Idle.after {session : Session} (h : Idle session) (o : Op) (left : World) :
    session.after o (session.finds db) left = { world := left, draft := .empty } := by
  unfold Session.after
  rw [h.finds_tx]

theorem finds_tx_of_open {session : Session} (h : session.world.tx.isSome) :
    (session.finds db).tx = some (session.draft.sees db) := by
  obtain ⟨copy, hcopy⟩ := Option.isSome_iff_exists.1 h
  unfold Session.finds
  rw [hcopy]
  rfl

/-! ## The steps -/

theorem session_put_self (o : Op) (left : World) :
    (s.put i o left).session i = (s.session i).after o ((s.session i).finds s.db) left :=
  Function.update_self i _ _

theorem session_put_other (o : Op) (left : World) :
    (s.put i o left).session (!i) = s.session (!i) :=
  Function.update_of_ne (Bool.not_ne_self i) _ _

/-- A step that commits nothing. -/
theorem Consistent.put (h : Consistent env calls worlds db₀ s qs order) {o : Op} {left : World}
    {q : Stage} (hdb : left.db = s.db) (hold : ∀ hashed, qs i ≠ .committed hashed)
    (hnew : ∀ hashed, q ≠ .committed hashed)
    (hstage : AtStage env calls worlds db₀ order s.db i ((s.put i o left).session i) q)
    (hapart : Apart ((s.put i o left).session i).draft (s.session !i).draft) :
    Consistent env calls worlds db₀ (s.put i o left) (Function.update qs i q) order where
  committed := by rw [show (s.put i o left).db = s.db from hdb]; exact h.committed
  nodup := h.nodup
  mem_order j := by
    rw [h.mem_order]
    by_cases hji : j = i
    · subst hji
      rw [Function.update_self]
      exact ⟨fun ⟨hashed, hq⟩ => absurd hq (hold hashed),
        fun ⟨hashed, hq⟩ => absurd hq (hnew hashed)⟩
    · rw [Function.update_of_ne hji]
  stage j := by
    rw [show (s.put i o left).db = s.db from hdb]
    by_cases hji : j = i
    · subst hji
      rw [Function.update_self]
      exact hstage
    · obtain rfl : j = !i := Bool.eq_not_of_ne hji
      rw [Function.update_of_ne hji, session_put_other]
      exact h.stage _
  apart j := by
    by_cases hji : j = i
    · subst hji
      rw [session_put_other]
      exact hapart
    · obtain rfl : j = !i := Bool.eq_not_of_ne hji
      rw [session_put_other, Bool.not_not]
      exact hapart.symm

theorem Consistent.put_idle (h : Consistent env calls worlds db₀ s qs order) {o : Op}
    {left : World} {q : Stage} (hidle : Idle (s.session i)) (hdb : left.db = s.db)
    (hold : ∀ hashed, qs i ≠ .committed hashed) (hnew : ∀ hashed, q ≠ .committed hashed)
    (hstage : AtStage env calls worlds db₀ order s.db i { world := left, draft := .empty } q) :
    Consistent env calls worlds db₀ (s.put i o left) (Function.update qs i q) order := by
  refine h.put hdb hold hnew ?_ ?_
  · rw [session_put_self, hidle.after]
    exact hstage
  · rw [session_put_self, hidle.after]
    exact apart_empty _

/-- A statement of a transaction. -/
theorem Consistent.put_write (hpg : env.pg.RejectsLonger)
    (h : Consistent env calls worlds db₀ s qs order) {hashed : UpdateUser} {write : Write}
    {done todo : List Write} (hq : qs i = .writing hashed done (write :: todo))
    (hready : waits i (write.op (calls i).userId) s = false)
    (hok : (executeInTx faults ((s.session i).finds s.db) fun db =>
      (write.run env.pg (calls i).userId db).map fun db => ((), db)).1 = .ok ()) :
    Consistent env calls worlds db₀ (s.put i (write.op (calls i).userId)
        (executeInTx faults ((s.session i).finds s.db) fun db =>
          (write.run env.pg (calls i).userId db).map fun db => ((), db)).2)
      (Function.update qs i (.writing hashed (done ++ [write]) todo)) order := by
  have hstage := h.stage i
  have hother := h.stage !i
  rw [hq] at hstage
  obtain ⟨hopen, hhashed, hwrites, hdrafted, hseen⟩ := hstage
  have htx := @finds_tx_of_open s.db _ hopen
  obtain ⟨after, hrun, hleft⟩ := executeInTx_write_ok htx hok
  have hafter : ∀ left : World, left.tx = some after →
      (s.session i).after (write.op (calls i).userId) ((s.session i).finds s.db) left =
        { world := left, draft := (s.session i).draft.wrote (write.op (calls i).userId)
            ((s.session i).draft.sees s.db) after } := by
    intro left hleft
    unfold Session.after
    rw [htx, hleft]
  rw [hleft]
  refine h.put rfl (by rw [hq]; exact fun _ hne => nomatch hne) (fun _ hne => nomatch hne) ?_ ?_
  · rw [session_put_self, hafter _ rfl]
    exact ⟨rfl, hhashed, by rw [hwrites, List.append_assoc]; rfl, hdrafted.wrote hpg hrun, hseen⟩
  · rw [session_put_self, hafter _ rfl]
    cases hqj : qs !i with
    | writing hashed' done' todo' =>
      rw [hqj] at hother
      exact (h.apart i).wrote hpg hother.2.2.2.1 hrun hready
    | failed =>
      rw [hqj] at hother
      exact hother.elim
    | _ =>
      rw [hqj] at hother
      have hempty : (s.session !i).draft = .empty := by
        first | exact hother.1.2 | exact hother.2
      rw [hempty]
      exact (apart_empty _).symm

/-- The other call while this one commits. -/
theorem AtStage.commit {j : Bool} {hashed : UpdateUser} {ws : List Write} {q : Stage}
    (hindependent : Independent (calls j) (calls i)) (hids : (db.roles.map (·.id)).Nodup)
    {session session' : Session}
    (h : AtStage env calls worlds db₀ order db j session q) (hhashed : HashedAt env
      (worlds i).saltsDrawn (calls i).fields hashed) (hwrites : writes hashed = .ok ws)
    (hdrafted : Drafted env.pg (calls i).userId ws session'.draft db)
    (hapart : Apart session.draft session'.draft) :
    AtStage env calls worlds db₀ (i :: order) (session'.draft.sees db) j session q := by
  cases q with
  | looking => exact h
  | found => exact ⟨h.1, h.2.1, h.2.2.cons⟩
  | salted salt => exact ⟨h.1, h.2.1, h.2.2.cons⟩
  | writing hashed' done todo =>
    obtain ⟨hopen, hhashed', hwrites', hdrafted', hseen⟩ := h
    refine ⟨hopen, hhashed', hwrites', ?_, hseen.cons⟩
    exact hdrafted'.rebase hdrafted hapart hindependent ⟨hashed', hhashed', hwrites'⟩
      ⟨hashed, hhashed, by rw [hwrites, List.append_nil]⟩ hids
  | committed hashed' => exact h
  | failed => exact h

theorem Consistent.put_commit (hindependent : ∀ i, Independent (calls i) (calls !i))
    (hids : (db₀.roles.map (·.id)).Nodup) (h : Consistent env calls worlds db₀ s qs order)
    {hashed : UpdateUser} {done : List Write} (hq : qs i = .writing hashed done [])
    (hok : (Provider.commit faults ((s.session i).finds s.db)).1 = .ok ()) :
    Consistent env calls worlds db₀
      (s.put i .commit (Provider.commit faults ((s.session i).finds s.db)).2)
      (Function.update qs i (.committed hashed)) (i :: order) := by
  have hstage := h.stage i
  have hother := h.stage !i
  rw [hq] at hstage
  obtain ⟨hopen, hhashed, hwrites, hdrafted, hseen⟩ := hstage
  rw [List.append_nil] at hwrites
  have htx := @finds_tx_of_open s.db _ hopen
  rw [commit_ok hok, htx, Option.getD_some]
  have hafter : ∀ left : World, left.tx = none →
      (s.session i).after .commit ((s.session i).finds s.db) left =
        { world := left, draft := .empty } := by
    intro left hleft
    unfold Session.after
    rw [htx, hleft]
  have hroles : (s.db.roles.map (·.id)).Nodup := by rw [h.committed.rest]; exact hids
  have hnew : i ∉ order := fun hmem => by
    obtain ⟨hashed', hcommitted⟩ := (h.mem_order i).1 hmem
    rw [hq] at hcommitted
    cases hcommitted
  obtain ⟨before, seen, hbefore, hseen, hread⟩ := hseen
  exact {
    committed := .commit h.committed hbefore hseen hread ⟨hashed, hhashed, hwrites⟩
      hdrafted.sendable hdrafted.carried hdrafted.usersOk
    nodup := List.nodup_cons.2 ⟨hnew, h.nodup⟩
    mem_order := by
      intro j
      rw [List.mem_cons, h.mem_order]
      by_cases hji : j = i
      · subst hji
        rw [Function.update_self]
        exact iff_of_true (.inl rfl) ⟨hashed, rfl⟩
      · rw [Function.update_of_ne hji, or_iff_right hji]
    stage := by
      intro j
      by_cases hji : j = i
      · subst hji
        rw [Function.update_self, session_put_self, hafter _ rfl]
        exact ⟨rfl, rfl⟩
      · obtain rfl : j = !i := Bool.eq_not_of_ne hji
        rw [Function.update_of_ne hji, session_put_other]
        exact hother.commit (hindependent i).symm hroles hhashed hwrites hdrafted (h.apart i).symm
    apart := by
      intro j
      by_cases hji : j = i
      · subst hji
        rw [session_put_self, hafter _ rfl]
        exact apart_empty _
      · obtain rfl : j = !i := Bool.eq_not_of_ne hji
        rw [Bool.not_not, session_put_self, hafter _ rfl]
        exact (apart_empty _).symm }

/-- A user that was read was there, with a named status and department. -/
theorem canRead_of_found {w : World} {userId : Uuid} {row : JoinedUser}
    (h : (exec env faults (.selectUserById userId) w).1 = .ok (some row))
    (hdecodes : Decodes row) : CanRead w.db userId := by
  have hfind : selectUserById w.db userId = some row := Except.ok.inj (query_ok h)
  have hmem := List.mem_of_find?_eq_some hfind
  have hid := List.find?_some hfind
  exact ⟨row.user, (mem_joinedUsers.1 hmem).1, beq_iff_eq.1 hid,
    readable_of_decodes hmem hdecodes⟩

theorem Moves.of_failed {userId : Uuid} {fields : UpdateUser} {o : Op} {r : Res o} {q : Stage}
    (h : Moves env userId fields .failed o r q) : q = .failed := by
  cases h with
  | begun _ hhashed => exact hhashed.elim
  | failed => rfl

variable (env calls worlds db₀) in
/-- One of the calls has failed, or the sessions are consistent. -/
def Sound (s : Sessions) (qs : Bool → Stage) : Prop :=
  (∃ i, qs i = .failed) ∨ ∃ order, Consistent env calls worlds db₀ s qs order

/-- Every step of an interleaving keeps the invariant. -/
theorem Sound.step (hpg : env.pg.RejectsLonger)
    (hindependent : ∀ i, Independent (calls i) (calls !i)) (h₀ : UsersOk db₀)
    (hids : (db₀.roles.map (·.id)).Nodup) {o : Op} {q : Stage} (hready : waits i o s = false)
    (h : Sound env calls worlds db₀ s qs)
    (hmove : Moves env (calls i).userId (calls i).fields (qs i) o (execIn env faults i o s).1 q) :
    Sound env calls worlds db₀ (execIn env faults i o s).2 (Function.update qs i q) := by
  rcases h with ⟨j, hj⟩ | ⟨order, h⟩
  · refine .inl ⟨j, ?_⟩
    by_cases hji : j = i
    · subst hji
      rw [hj] at hmove
      rw [Function.update_self, hmove.of_failed]
    · rw [Function.update_of_ne hji, hj]
  have hstage := h.stage i
  have hanswer : (execIn env faults i o s).1 =
    (exec env faults o ((s.session i).finds s.db)).1 := rfl
  rw [hanswer] at hmove
  change Sound env calls worlds db₀ (s.put i o (exec env faults o ((s.session i).finds s.db)).2) _
  generalize hq : qs i = before at hmove hstage
  generalize hr : (exec env faults o ((s.session i).finds s.db)).1 = r at hmove
  cases hmove with
  | found hrow hdecodes =>
    obtain ⟨hidle, hsalts⟩ := hstage
    have hread := canRead_of_found (hr.trans hrow) hdecodes
    rw [show (exec env faults (.selectUserById _) _).2 = _ from query_snd _]
    refine .inr ⟨order, h.put_idle hidle rfl (by rw [hq]; exact fun _ hne => nomatch hne)
      (fun _ hne => nomatch hne) ⟨⟨hidle.finds_tx, rfl⟩, hsalts, ?_⟩⟩
    exact ⟨order, s.db, List.suffix_refl order, h.committed, hread⟩
  | hydrated =>
    obtain ⟨hidle, hsalts, hseen⟩ := hstage
    rw [show (exec env faults (.selectUserRoles _) _).2 = _ from query_snd _]
    exact .inr ⟨order, h.put_idle hidle rfl (by rw [hq]; exact fun _ hne => nomatch hne)
      (fun _ hne => nomatch hne) ⟨⟨hidle.finds_tx, rfl⟩, hsalts, hseen⟩⟩
  | @salted salt =>
    obtain ⟨hidle, hsalts, hseen⟩ := hstage
    have hsalt : salt = env.salt (worlds i).saltsDrawn := by rw [← hr, ← hsalts]; rfl
    exact .inr ⟨order, h.put_idle hidle rfl (by rw [hq]; exact fun _ hne => nomatch hne)
      (fun _ hne => nomatch hne) ⟨⟨hidle.finds_tx, rfl⟩, hsalt, hseen⟩⟩
  | @begun _ hashed _ _ hrow hhashed hwrites =>
    subst hrow
    rw [exec_begin_ok hr]
    have hpayload : Idle (s.session i) ∧
        HashedAt env (worlds i).saltsDrawn (calls i).fields hashed ∧
        HasSeen env calls worlds db₀ order i := by
      cases before with
      | found => exact ⟨hstage.1, .inl hhashed, hstage.2.2⟩
      | salted salt => exact ⟨hstage.1, .inr (hstage.2.1 ▸ hhashed), hstage.2.2⟩
      | _ => exact hhashed.elim
    obtain ⟨hidle, hhashedAt, hseen⟩ := hpayload
    exact .inr ⟨order, h.put_idle hidle rfl
      (by rw [hq]; rintro hashed rfl; exact hhashed) (fun _ hne => nomatch hne)
      ⟨rfl, hhashedAt, hwrites, .empty (h.committed.usersOk h₀), hseen⟩⟩
  | columns hrow => exact .inr ⟨order, h.put_write hpg hq hready (hr.trans hrow)⟩
  | addRoles hrow => exact .inr ⟨order, h.put_write hpg hq hready (hr.trans hrow)⟩
  | removeRoles hrow => exact .inr ⟨order, h.put_write hpg hq hready (hr.trans hrow)⟩
  | committed hrow => exact .inr ⟨i :: order, h.put_commit hindependent hids hq (hr.trans hrow)⟩
  | failed => exact .inl ⟨i, Function.update_self i _ _⟩

theorem consistent_start :
    Consistent env calls worlds db₀ (concurrently env calls worlds db₀).state
      (fun _ => .looking) [] where
  committed := .start
  nodup := List.nodup_nil
  mem_order _ := iff_of_false List.not_mem_nil fun ⟨_, h⟩ => nomatch h
  stage _ := ⟨⟨rfl, rfl⟩, rfl⟩
  apart _ := apart_empty _

theorem order_of_all (hnodup : order.Nodup) (hall : ∀ i, i ∈ order) : ∃ i, order = [!i, i] := by
  have hperm : order.Perm [true, false] :=
    (List.perm_ext_iff_of_nodup hnodup (by decide)).2 fun i => by cases i <;> simp [hall]
  obtain ⟨j, i, rfl⟩ := List.length_eq_two.1 hperm.length_eq
  have hne : j ≠ i := by simpa using hnodup
  exact ⟨i, by rw [Bool.eq_not_of_ne hne]⟩

/-- Where both calls have returned `Ok`, both have committed, one after the other. -/
theorem committed_of_run (hpg : env.pg.RejectsLonger)
    (hindependent : ∀ i, Independent (calls i) (calls !i)) (h₀ : UsersOk db₀)
    (hids : (db₀.roles.map (·.id)).Nodup) {is : List Bool}
    {C : Crew Bool Op Res (Except Error Unit) Sessions}
    (hrun : Run (Crew.Step (execIn env faults) waits) (concurrently env calls worlds db₀) is C)
    (hok : ∀ i, C.outcome i = some (.ok ())) :
    ∃ i, Committed env calls worlds db₀ [!i, i] C.state.db := by
  obtain ⟨qs, hfollows, hsound⟩ := @Crew.run_follows _ _ _ _ _ _ _ _ _ _ _
    (fun i => Moves env (calls i).userId (calls i).fields) (fun _ => Ends)
    (Sound env calls worlds db₀) (fun s qs i o q hready h hmove =>
      h.step hpg hindependent h₀ hids hready hmove) _ hrun (fun _ => .looking)
    (fun i => follows_partialUpdate env (calls i).userId (calls i).fields)
    (.inr ⟨[], consistent_start⟩)
  have hcommitted : ∀ i, ∃ hashed, qs i = .committed hashed := by
    intro i
    have hend := hfollows i
    rw [Crew.rest_of_outcome (hok i)] at hend
    exact hend rfl
  rcases hsound with ⟨i, hfailed⟩ | ⟨order, h⟩
  · obtain ⟨hashed, hq⟩ := hcommitted i
    rw [hfailed] at hq
    cases hq
  · obtain ⟨i, rfl⟩ := order_of_all h.nodup fun i => (h.mem_order i).2 (hcommitted i)
    exact ⟨i, h.committed⟩

/-! ## The calls one after the other -/

theorem CanRead.congr {db db' : Db} {userId : Uuid} (h : CanRead db userId)
    (husers : db'.users = db.users) (hstatuses : db'.userStatuses = db.userStatuses)
    (hdepartments : db'.departments = db.departments) : CanRead db' userId := by
  obtain ⟨u, hu, hid, hreadable⟩ := h
  exact ⟨u, husers ▸ hu, hid, readable_congr hstatuses hdepartments rfl rfl hreadable⟩

/-- The database after the call of `i` alone, up to the roles of the users. -/
def usersAfter (call : UpdateCall) (ws : List Write) (db : Db) : Db :=
  { db with users := db.users.map (rowAfter call.userId ws) }

/-- What is known of two commits, that of `i` first. -/
structure Serial (env : Env) (calls : Bool → UpdateCall) (worlds : Bool → World) (db₀ : Db)
    (i : Bool) (ws ws' : List Write) : Prop where
  sends : Sends env (worlds i).saltsDrawn (calls i).fields ws
  sends' : Sends env (worlds !i).saltsDrawn (calls !i).fields ws'
  sendable : ∀ write ∈ ws, write.Sendable env.pg
  sendable' : ∀ write ∈ ws', write.Sendable env.pg
  usersOk : UsersOk (usersAfter (calls i) ws db₀)
  usersOk' : UsersOk (usersAfter (calls !i) ws' (usersAfter (calls i) ws db₀))

/-- The calls succeed in this order if each can read its user when its turn comes. -/
theorem Serial.inOrder {ws ws' : List Write} (h : Serial env calls worlds db₀ i ws ws')
    (hpg : env.pg.RejectsLonger) (hdb : db₀.Admissible)
    (hread : CanRead db₀ (calls i).userId)
    (hread' : CanRead (usersAfter (calls i) ws db₀) (calls !i).userId) :
    ∃ db', InOrder env .none calls worlds i db₀ db' := by
  have hup : Faults.StoreUp .none := fun _ => rfl
  obtain ⟨u, hu, hid, hreadable⟩ := hread
  obtain ⟨w₁, h₁⟩ := @partialUpdate_succeeds env .none (calls i).userId (calls i).fields
    (freshAt db₀ (worlds i)) hpg hup hdb u hu hid hreadable ws h.sends h.sendable h.usersOk
  obtain ⟨ws₁, hsends₁, hcarried⟩ := partialUpdate_carried hpg h₁
  obtain rfl := h.sends.unique hsends₁
  have hrest := hcarried.rest
  have hadmissible : InDb Db.Admissible w₁ := by
    have huses : UsesE (fun _ => True)
        (UserServiceImpl.partialUpdate env (calls i).userId (calls i).fields) :=
      usesE_partialUpdate (fun _ _ => trivial) (fun _ _ => trivial) (fun _ _ _ => trivial)
        (fun _ _ _ _ _ _ _ _ => trivial) (fun _ _ => trivial) fun _ _ => trivial
    have hinv := runE_inv_of_uses (exec_inDb (preservedBy_admissible hpg _) .none) huses
      (show InDb Db.Admissible (freshAt db₀ (worlds i)) from ⟨hdb, fun _ hnone => nomatch hnone⟩)
    rwa [h₁] at hinv
  have husers : w₁.db.users = (usersAfter (calls i) ws db₀).users := hcarried.users
  have hstatuses : w₁.db.userStatuses = (usersAfter (calls i) ws db₀).userStatuses := by
    rw [hrest]
    rfl
  have hdepartments : w₁.db.departments = (usersAfter (calls i) ws db₀).departments := by
    rw [hrest]
    rfl
  obtain ⟨u', hu', hid', hreadable'⟩ := hread'.congr husers hstatuses hdepartments
  obtain ⟨w₂, h₂⟩ := @partialUpdate_succeeds env .none (calls !i).userId (calls !i).fields
    (freshAt w₁.db (worlds !i)) hpg hup hadmissible.1 u' hu' hid' hreadable' ws' h.sends'
    h.sendable' (usersOk_congr h.usersOk' (congrArg (List.map _) husers) hstatuses
      hdepartments)
  exact ⟨w₂.db, w₁, w₂, h₁, h₂, rfl⟩

/-- Two commits are those of two calls one after the other. The first one had read its user
    before both, the second one before both or between them. -/
theorem serial_of_committed (h : Committed env calls worlds db₀ [!i, i] db) :
    ∃ ws ws' db₁, Serial env calls worlds db₀ i ws ws' ∧ Carried (calls i).userId ws db₀ db₁ ∧
      Carried (calls !i).userId ws' db₁ db ∧ CanRead db₀ (calls i).userId ∧
      (CanRead db₀ (calls !i).userId ∨
        CanRead (usersAfter (calls i) ws db₀) (calls !i).userId) := by
  cases h with
  | @commit _ before' db₁ _ seen' _ ws' hdb hbefore' hseen' hread' hsends' hsendable' hcarried'
      husers' =>
  cases hdb with
  | @commit _ before _ _ seen _ ws hdb hbefore hseen hread hsends hsendable hcarried husers =>
  cases hdb
  have hafter : ∀ {db : Db}, Carried (calls i).userId ws db₀ db →
      (usersAfter (calls i) ws db₀).users = db.users ∧
        (usersAfter (calls i) ws db₀).userStatuses = db.userStatuses ∧
        (usersAfter (calls i) ws db₀).departments = db.departments := by
    intro db hc
    refine ⟨hc.users.symm, ?_, ?_⟩ <;> rw [hc.rest] <;> rfl
  obtain ⟨husers₁, hstatuses₁, hdepartments₁⟩ := hafter hcarried
  refine ⟨ws, ws', db₁, ⟨hsends, hsends', hsendable, hsendable', ?_, ?_⟩, hcarried, hcarried',
    ?_, ?_⟩
  · exact usersOk_congr husers husers₁ hstatuses₁ hdepartments₁
  · have husers₂ : (usersAfter (calls !i) ws' (usersAfter (calls i) ws db₀)).users = db.users := by
      rw [hcarried'.users, ← husers₁]
      rfl
    have hrest := hcarried'.rest
    refine usersOk_congr husers' husers₂ ?_ ?_
    · rw [hrest]
      exact hstatuses₁
    · rw [hrest]
      exact hdepartments₁
  · rw [List.suffix_nil] at hbefore
    subst hbefore
    cases hseen
    exact hread
  · rcases List.suffix_cons_iff.1 hbefore' with rfl | hbefore'
    · cases hseen' with
      | @commit _ _ _ _ _ _ ws₁ hdb _ _ _ hsends₁ _ hcarried₁ _ =>
      cases hdb
      obtain rfl := hsends.unique hsends₁
      obtain ⟨husers, hstatuses, hdepartments⟩ := hafter hcarried₁
      exact .inr (hread'.congr husers hstatuses hdepartments)
    · rw [List.suffix_nil] at hbefore'
      subst hbefore'
      cases hseen'
      exact .inl hread'

/-- A user that can be read can be read after the other call, if that one is about another user or
    keeps this one readable. -/
theorem canRead_usersAfter {call other : UpdateCall} {ws : List Write} {n : Nat}
    (hsends : Sends env n other.fields ws) (h : CanRead db call.userId)
    (hkeeps : call.userId = other.userId → KeepsReadable db other) :
    CanRead (usersAfter other ws db) call.userId := by
  obtain ⟨u, hu, hid, hreadable⟩ := h
  refine ⟨rowAfter other.userId ws u, List.mem_map_of_mem hu, (rowAfter_id _ ws u).trans hid, ?_⟩
  by_cases hother : u.id = other.userId
  · exact @readable_congr db _ _ _ rfl rfl rfl rfl
      ((hkeeps (hid.symm.trans hother)).rowAfter hsends hu hother hreadable)
  · rw [rowAfter_of_ne ws hother]
    exact @readable_congr db _ _ _ rfl rfl rfl rfl hreadable

/-- The calls succeed in the other order too, if they are about one user who can be read. -/
theorem Serial.swap {ws ws' : List Write} (h : Serial env calls worlds db₀ i ws ws')
    (hindependent : Independent (calls i) (calls !i))
    (hid : (calls i).userId = (calls !i).userId) (h₀ : UsersOk db₀) :
    Serial env calls worlds db₀ (!i) ws' ws where
  sends := h.sends'
  sends' := by rw [Bool.not_not]; exact h.sends
  sendable := h.sendable'
  sendable' := h.sendable
  usersOk := usersOk_alone hindependent hid h.sends h.sends' h₀ h.usersOk'
  usersOk' := by
    rw [Bool.not_not]
    refine usersOk_congr h.usersOk' ?_ rfl rfl
    unfold usersAfter
    dsimp only
    rw [List.map_map, List.map_map]
    exact List.map_congr_left fun u _ => rowAfter_comm hindependent h.sends h.sends' u

/-- Independent updates are not lost: where two independent calls both return `Ok`, however their
    statements interleave, the database ends as it does when they run one after the other, in
    either order in which both succeed, and there is such an order. Where both are about one user,
    one of them has to keep the user readable. -/
theorem independent_updates_serialize (hpg : env.pg.RejectsLonger) (hdb : db₀.Admissible)
    (hindependent : Independent (calls false) (calls true))
    (hkeeps : (calls false).userId = (calls true).userId → ∃ k, KeepsReadable db₀ (calls k))
    {is : List Bool} {C : Crew Bool Op Res (Except Error Unit) Sessions}
    (hrun : Run (Crew.Step (execIn env faults) waits) (concurrently env calls worlds db₀) is C)
    (hok : ∀ i, C.outcome i = some (.ok ())) :
    (∀ faults i db', InOrder env faults calls worlds i db₀ db' → SameRows C.state.db db') ∧
      ∃ i db', InOrder env .none calls worlds i db₀ db' := by
  have hindependent : ∀ i, Independent (calls i) (calls !i) := fun i => by
    cases i
    · exact hindependent
    · exact hindependent.symm
  have hsame : ∀ i, (calls i).userId = (calls !i).userId → ∃ k, KeepsReadable db₀ (calls k) := by
    intro i hid
    cases i
    · exact hkeeps hid
    · exact hkeeps hid.symm
  have h₀ := usersOk_of_admissible hdb
  obtain ⟨i, hcommitted⟩ := committed_of_run hpg hindependent h₀ hdb.roleIds hrun hok
  obtain ⟨ws, ws', db₁, hserial, hcarried, hcarried', hread, hread'⟩ :=
    serial_of_committed hcommitted
  refine ⟨fun faults j db' horder => ?_, ?_⟩
  · obtain ⟨w₁, w₂, h₁, h₂, rfl⟩ := horder
    obtain ⟨vs, hsends, hfirst⟩ := partialUpdate_carried hpg h₁
    obtain ⟨vs', hsends', hsecond⟩ := partialUpdate_carried hpg h₂
    by_cases hji : j = i
    · subst hji
      obtain rfl := hserial.sends.unique hsends
      obtain rfl := hserial.sends'.unique hsends'
      exact carried_same hcarried hcarried' hfirst hsecond
    · obtain rfl : j = !i := Bool.eq_not_of_ne hji
      rw [Bool.not_not] at hsends' hsecond
      obtain rfl := hserial.sends'.unique hsends
      obtain rfl := hserial.sends.unique hsends'
      exact carried_comm (hindependent i) hserial.sends hserial.sends' hdb.roleIds hcarried
        hcarried' hfirst hsecond
  · by_cases hfirst : CanRead (usersAfter (calls i) ws db₀) (calls !i).userId
    · exact ⟨i, hserial.inOrder hpg hdb hread hfirst⟩
    -- The first call leaves the user unreadable, so the other order is the one that works.
    have hread' := hread'.resolve_right hfirst
    have hlost : ¬ ((calls !i).userId = (calls i).userId → KeepsReadable db₀ (calls i)) :=
      fun hk => hfirst (canRead_usersAfter hserial.sends hread' hk)
    have hid : (calls i).userId = (calls !i).userId := by
      by_contra hne
      exact hlost fun heq => absurd heq.symm hne
    obtain ⟨k, hk⟩ := hsame i hid
    have hki : k ≠ i := fun heq => hlost fun _ => heq ▸ hk
    obtain rfl : k = !i := Bool.eq_not_of_ne hki
    refine ⟨!i, (hserial.swap (hindependent i) hid h₀).inOrder hpg hdb hread' ?_⟩
    rw [Bool.not_not]
    exact canRead_usersAfter hserial.sends' hread fun _ => hk

end

/-- One call renames the administrator and adds a role, the other one sets their address and takes
    a role from them. -/
def renameAndReaddress : Bool → UpdateCall
  | false => { userId := sampleAdmin, fields := { UpdateUser.default with
      firstName := some "Ann", addRoles := some ["Staff"] } }
  | true => { userId := sampleAdmin, fields := { UpdateUser.default with
      email := some "ann@example.com", removeRoles := some ["Admin"] } }

theorem independent_updates_serialize_sample :
    ∃ is C, Run (Crew.Step (execIn sampleEnv .none) waits) (concurrently sampleEnv
        renameAndReaddress (fun _ => sampleWorld) (Db.seed sampleAdmin)) is C ∧
      (∀ i, C.outcome i = some (.ok ())) ∧
      (∀ faults i db', InOrder sampleEnv faults renameAndReaddress (fun _ => sampleWorld) i
        (Db.seed sampleAdmin) db' → SameRows C.state.db db') ∧
      ∃ i db', InOrder sampleEnv .none renameAndReaddress (fun _ => sampleWorld) i
        (Db.seed sampleAdmin) db' := by
  have hrun : ((concurrently sampleEnv renameAndReaddress (fun _ => sampleWorld)
      (Db.seed sampleAdmin)).execute (execIn sampleEnv .none) waits
        [false, false, true, true, false, true, false, false, false, true, true, true]).map
          (fun C => (C.outcome false, C.outcome true)) = some (some (.ok ()), some (.ok ())) := by
    decide +kernel
  obtain ⟨C, hC, houtcome⟩ := Option.map_eq_some_iff.1 hrun
  have hok : ∀ i, C.outcome i = some (.ok ()) := fun i => by
    cases i
    · exact congrArg Prod.fst houtcome
    · exact congrArg Prod.snd houtcome
  have hkeeps : KeepsReadable (Db.seed sampleAdmin) (renameAndReaddress false) := fun u hu _ _ => by
    rw [List.mem_singleton.1 hu]
    exact ⟨by decide, by decide⟩
  have hindependent : Independent (renameAndReaddress false) (renameAndReaddress true) :=
    fun _ => ⟨by constructor <;> decide, by decide⟩
  exact ⟨_, C, Crew.run_of_execute hC, hok,
    independent_updates_serialize samplePostgres_rejectsLonger (Db.admissible_seed sampleAdmin)
      hindependent (fun _ => ⟨false, hkeeps⟩) (Crew.run_of_execute hC) hok⟩

-- Where both are in their transactions and one has updated the row, the other one has to wait.
example : ((concurrently sampleEnv renameAndReaddress (fun _ => sampleWorld)
    (Db.seed sampleAdmin)).execute (execIn sampleEnv .none) waits
      [false, false, true, true, false, true, false, true]).isNone := by decide +kernel

/-- A second department of no company, and a status without a text. -/
def unnamedDb : Db :=
  { Db.seed sampleAdmin with
    userStatuses := [⟨1, some "Active"⟩, ⟨2, none⟩]
    departments := [⟨1, some "Administration", some 1⟩, ⟨2, some "Contractors", none⟩] }

/-- One call moves the administrator to the second department, the other one deletes them. -/
def moveAndDelete : Bool → UpdateCall
  | false => { userId := sampleAdmin, fields := { UpdateUser.default with departmentId := some 2 } }
  | true => { userId := sampleAdmin, fields := { UpdateUser.default with
      status := some "Deleted" } }

/-- Both calls have read the administrator before one of them commits, and both return `Ok`. After
    either of them the other one finds nobody. -/
theorem moved_and_deleted_in_no_order : samplePostgres.RejectsLonger ∧ unnamedDb.Admissible ∧
    Independent (moveAndDelete false) (moveAndDelete true) ∧
    (∃ is C, Run (Crew.Step (execIn sampleEnv .none) waits)
        (concurrently sampleEnv moveAndDelete (fun _ => sampleWorld) unnamedDb) is C ∧
      ∀ i, C.outcome i = some (.ok ())) ∧
    ∀ i db', ¬ InOrder sampleEnv .none moveAndDelete (fun _ => sampleWorld) i unnamedDb db' := by
  refine ⟨samplePostgres_rejectsLonger, ?_, fun _ => ⟨?_, by decide⟩, ?_, ?_⟩
  · constructor <;> simp [unnamedDb, Db.seed]
  · constructor <;> decide
  · have hrun : ((concurrently sampleEnv moveAndDelete (fun _ => sampleWorld) unnamedDb).execute
        (execIn sampleEnv .none) waits
        [false, false, true, true, false, false, false, true, true, true]).map
          (fun C => (C.outcome false, C.outcome true)) = some (some (.ok ()), some (.ok ())) := by
      decide +kernel
    obtain ⟨C, hC, houtcome⟩ := Option.map_eq_some_iff.1 hrun
    refine ⟨_, C, Crew.run_of_execute hC, fun i => ?_⟩
    cases i
    · exact congrArg Prod.fst houtcome
    · exact congrArg Prod.snd houtcome
  · rintro i db' ⟨w₁, w₂, h₁, h₂, -⟩
    obtain rfl : _ = w₁ := congrArg Prod.snd h₁
    have hsecond : _ = some (Except.ok ()) := congrArg Prod.fst h₂
    cases i <;> revert hsecond <;> decide +kernel

end ApiStarter.Iam
