import ApiStarter.Provider.Connections
import ApiStarter.Security.Mediation

/-
  Requests that share the connections of the pool.

  `requestProgram` is one request as a program over the operations of the store: the router, with
  each call of a service and each question to the engine replaced by the operations it performs.
  `run_requestProgram` connects it to `serve`. It takes a connection only when it holds none
  (`requestProgram_closed`), so any number of requests can share a pool of any size: the general
  rules are those of `Effect.Lease`.
-/

namespace ApiStarter.Security

open ApiStarter.Auth ApiStarter.Effect ApiStarter.Effect.Fallible ApiStarter.Errdef
  ApiStarter.Provider ApiStarter.Server ApiStarter.Web

/-! ## A request as one program -/

/-- What the surroundings of a request perform to answer it. -/
def portProgram (env : Env) (config : AuthConfig) : (o : Port) → Prog Op Res (PortRes o)
  | .call c => Prog.bind (ExceptT.run (c.service env config)) fun result => .ret (some result)
  | .can userId action =>
    Prog.bind (Rbac.RbacEngine.can superRole userId action) fun allowed => .ret (some allowed)

def requestProgram (env : Env) (config : AuthConfig) (web : WebLibrary) (request : Request) :
    Prog Op Res Response :=
  (router env web request).interp (portProgram env config)

section

variable {env : Env} {config : AuthConfig} {web : WebLibrary} {faults : Faults}

theorem portProgram_closed (o : Port) :
    (portProgram env config o).Follows Ordered (fun inTx _ => inTx = false) false := by
  cases o with
  | call c =>
    exact Prog.Follows.bind (Prog.Follows.mono (fun _ _ h => h) (service_closed env config c))
  | can userId action =>
    have huses : (Rbac.RbacEngine.can superRole userId action).Uses Op.Outside := by
      refine Prog.Uses.bind ⟨⟨id, id⟩, fun r => by cases r <;> trivial⟩ fun bypass => ?_
      cases bypass with
      | true => trivial
      | false =>
        cases Rbac.splitAction action with
        | none => trivial
        | some parts => exact ⟨⟨id, id⟩, fun r => by cases r <;> trivial⟩
    exact Prog.Follows.bind (Prog.Follows.mono (fun _ _ h => h)
      (Prog.follows_of_uses (huses.mono fun o ho r => ordered_outside o ho r)))

/-- No connection is taken while one is held. -/
theorem requestProgram_closed (request : Request) :
    (requestProgram env config web request).Follows Ordered (fun inTx _ => inTx = false) false :=
  Prog.follows_interp portProgram_closed _

theorem dropTx_eq {w : World} (h : w.tx = none) : w.dropTx = w := by
  cases w
  cases h
  rfl

/-- What its surroundings perform is what the server answers by. -/
theorem run_portProgram {o : Port} {r : PortRes o} {w w' : World} (hw : w.tx = none)
    (h : (portProgram env config o).run (exec env faults) w = (some r, w')) :
    answer env config faults o w = (r, w') ∧ w'.tx = none := by
  have htx : w'.tx = none := by
    have hleft := tx_none_of_closed (portProgram_closed o) hw (congrArg Prod.fst h)
    rwa [h] at hleft
  refine ⟨?_, htx⟩
  cases o with
  | call c =>
    unfold portProgram at h
    rw [Prog.run_bind] at h
    rcases hrun : Prog.run (exec env faults) (ExceptT.run (c.service env config)) w with
      ⟨outcome, left⟩
    rw [hrun] at h
    cases outcome with
    | none => cases h
    | some result =>
      cases h
      have hleft : (perform env config faults c w).2 = w'.dropTx :=
        congrArg (fun r : _ × World => r.2.dropTx) hrun
      have hvalue : (perform env config faults c w).1 = some result := congrArg Prod.fst hrun
      exact Prod.ext hvalue (hleft.trans (dropTx_eq htx))
  | can userId action =>
    unfold portProgram at h
    rw [Prog.run_bind] at h
    rcases hrun : Prog.run (exec env faults) (Rbac.RbacEngine.can superRole userId action) w with
      ⟨outcome, left⟩
    rw [hrun] at h
    cases outcome with
    | none => cases h
    | some allowed =>
      cases h
      exact hrun

/-- A request that does not panic is served as the server serves it. -/
theorem run_requestProgram {request : Request} {response : Response} {w w' : World}
    (hw : w.tx = none)
    (h : (requestProgram env config web request).run (exec env faults) w = (some response, w')) :
    serve env config web faults request w = (some response, w') := by
  unfold requestProgram at h
  unfold serve
  generalize router env web request = p at h
  induction p generalizing w with
  | ret a => exact h
  | panic => exact h
  | call o k ih =>
    unfold Prog.interp at h
    rw [Prog.run_bind] at h
    rcases hport : (portProgram env config o).run (exec env faults) w with ⟨_ | r, left⟩
    · rw [hport] at h
      cases h
    · rw [hport] at h
      obtain ⟨hanswer, hleft⟩ := run_portProgram hw hport
      rw [Prog.run_call, hanswer]
      exact ih r hleft h

end

/-! ## Many requests -/

theorem res_nonempty (o : Op) : Nonempty (Res o) := by
  cases o <;> first
    | exact ⟨()⟩
    | exact ⟨(0 : Int)⟩
    | exact ⟨""⟩
    | exact ⟨.error (.other "")⟩
    | exact ⟨.ok ""⟩
    | exact ⟨.ok []⟩
    | exact ⟨.ok ()⟩

/-- Requests that share a pool of `n` connections. -/
def sharing (env : Env) (config : AuthConfig) (web : WebLibrary) {m : Nat}
    (requests : Fin m → Request) (more : (o : Op) → Res o → Nat) {T : Type} (t : T) :
    Crew (Fin m) (LeaseOp Op) (LeaseRes Res) (Option Response) (Desk (Fin m) T) :=
  crewOf (leasing more) (fun i => requestProgram env config web (requests i)) t

section

variable {env : Env} {config : AuthConfig} {web : WebLibrary} {m n : Nat}
  {requests : Fin m → Request} {more : (o : Op) → Res o → Nat} {T : Type} {t : T}
  {h : Fin m → Handler Op Res T}

theorem orderlyCrew_sharing : OrderlyCrew n (sharing env config web requests more t) := by
  refine orderlyCrew_crewOf res_nonempty (fun i => ?_) t
  exact (requestProgram_closed (requests i)).moves_mono fun _ _ _ _ hmove => hmove.1

/-- Any number of requests, interleaved in any way, whatever the database, the mailer and the
    libraries answer: no more connections are out than there are, a request that takes one holds
    none, there is no deadlock, and it all comes to an end. -/
theorem requests_share_pool (hn : 0 < n) {schedule : List (Fin m)}
    {C : Crew (Fin m) (LeaseOp Op) (LeaseRes Res) (Option Response) (Desk (Fin m) T)}
    (hrun : Run (LeaseStep h n) (sharing env config web requests more t) schedule C) :
    C.state.inUse ≤ n ∧
      (∀ i k, C.rest i = .call .acquire k → C.state.holding i = false) ∧
      ((∀ i C', ¬ LeaseStep h n C i C') →
        ∀ i, (C.outcome i).isSome ∧ C.state.holding i = false) ∧
      ¬ ∃ f : Nat → Crew (Fin m) (LeaseOp Op) (LeaseRes Res) (Option Response) (Desk (Fin m) T),
        f 0 = C ∧ ∀ k, ∃ i, LeaseStep h n (f k) i (f (k + 1)) := by
  have hC : OrderlyCrew n C := run_orderly hrun orderlyCrew_sharing
  refine ⟨hC.bounded, fun i k hi => ?_, all_ended_of_stuck hn hC, ?_⟩
  · have hbalanced := hC.balanced i
    rw [hi] at hbalanced
    obtain ⟨held, hmove, -⟩ := hbalanced ()
    exact hmove.1
  · rintro ⟨f, -, hf⟩
    exact no_endless_run f hf

end

def firstReading : Fin 2 := ⟨0, Nat.two_pos⟩

def secondReading : Fin 2 := ⟨1, Nat.one_lt_two⟩

/-- Ada reads her own user twice at once, over one connection. -/
def sharedReadings :
    Crew (Fin 2) (LeaseOp Op) (LeaseRes Res) (Option Response) (Desk (Fin 2) World) :=
  sharing sampleEnv sampleConfig sampleWeb (fun _ => sampleReading) (fun _ _ => 1) loggedInWorld

/-- The first reading has taken the connection when the second one gets to its own. -/
def handover : List (Fin 2) := [firstReading, firstReading, secondReading, firstReading]

def halfRead : Crew (Fin 2) (LeaseOp Op) (LeaseRes Res) (Option Response) (Desk (Fin 2) World) :=
  ((sharedReadings.execute (Desk.handle fun _ => exec sampleEnv Faults.none) (Desk.full 1)
    handover).getD sharedReadings)

theorem halfRead_run :
    Run (LeaseStep (fun _ => exec sampleEnv Faults.none) 1) sharedReadings handover halfRead :=
  Crew.run_of_execute rfl

theorem requests_share_pool_sample : halfRead.state.inUse ≤ 1 ∧
    (∀ i k, halfRead.rest i = .call .acquire k → halfRead.state.holding i = false) ∧
    ((∀ i C', ¬ LeaseStep (fun _ => exec sampleEnv Faults.none) 1 halfRead i C') →
      ∀ i, (halfRead.outcome i).isSome ∧ halfRead.state.holding i = false) ∧
    ¬ ∃ f : Nat →
        Crew (Fin 2) (LeaseOp Op) (LeaseRes Res) (Option Response) (Desk (Fin 2) World),
      f 0 = halfRead ∧
        ∀ k, ∃ i, LeaseStep (fun _ => exec sampleEnv Faults.none) 1 (f k) i (f (k + 1)) :=
  requests_share_pool Nat.one_pos halfRead_run

end ApiStarter.Security
