import ApiStarter.Server.Requests

/-
  The calls of a run of requests.

  `journal` lists the service calls of a run of the server in their order, each with the state
  it finds. Between two of them the engine is asked and time passes, neither of which touches
  the database: by `journal_run` a run of requests is a run of the calls of its journal.
-/

namespace ApiStarter.Server

open ApiStarter.Auth ApiStarter.Database ApiStarter.Effect ApiStarter.Provider

/-- The call of an entry, if it is one. -/
def callIn : Port × World → Option (Call × World)
  | (.call c, w) => some (c, w)
  | (.can _ _, _) => none

section

variable (env : Env) (config : AuthConfig) (web : WebLibrary) (faults : Faults)

/-- The calls that are made while a request is served, each with the state it finds. -/
def requestCalls (request : Request) (w : World) : List (Call × World) :=
  ((router env web request).visits (answer env config faults) w).filterMap callIn

def journal : List HttpEvent → World → List (Call × World)
  | [], _ => []
  | .served request _ :: events, w =>
    requestCalls env config web faults request w ++
      journal events (serve env config web faults request w).2
  | .elapsed micros :: events, w => journal events { w with clock := w.clock + micros }

/-- A call with the state it finds, or no call and the database as it was. -/
inductive Moment : World → Option (Call × World) → World → Prop
  | called (c : Call) (w : World) : Moment w (some (c, w)) (perform env config faults c w).2
  | quiet {w w' : World} (hdb : w'.db = w.db) (htx : w'.tx = w.tx) : Moment w none w'

end

section

variable {env : Env} {config : AuthConfig} {web : WebLibrary} {faults : Faults} {w w' : World}

theorem moment_of_answers {w₁ w₂ : World} {l : Port × World}
    (h : Prog.Answers (answer env config faults) w₁ l w₂) :
    Moment env config faults w₁ (callIn l) w₂ := by
  obtain ⟨port, w⟩ := l
  obtain ⟨rfl, rfl⟩ := h
  cases port with
  | call c => exact .called c w
  | can userId action =>
    obtain ⟨n, hworld⟩ := can_world env faults userId action w
    exact .quiet (by change (can env faults userId action w).2.db = _; rw [hworld])
      (by change (can env faults userId action w).2.tx = _; rw [hworld])

theorem requestCalls_run (request : Request) (w : World) :
    Run (Moment env config faults) w
      (((router env web request).visits (answer env config faults) w).map callIn)
      (serve env config web faults request w).2 := by
  obtain ⟨w', hrun, rfl⟩ := (Prog.run_visits (answer env config faults) (router env web request)
    w).simulates (P := fun _ => True) (R := Eq) (f := callIn)
    (fun w₁ l w₂ t _ ht h => ⟨w₂, ht ▸ moment_of_answers h, rfl⟩) (fun _ _ => trivial) rfl
  exact hrun

/-- A run of requests is a run of the calls of its journal, with quiet moments between them. -/
theorem journal_run {events : List HttpEvent}
    (h : Run (HttpStep env config web faults) w events w') :
    ∃ moments, moments.filterMap id = journal env config web faults events w ∧
      Run (Moment env config faults) w moments w' := by
  induction h with
  | nil w => exact ⟨[], rfl, .nil w⟩
  | @cons w w₁ w₂ e events hstep _ ih =>
    obtain ⟨moments, hcalls, hrun⟩ := ih
    cases hstep with
    | @served request response _ _ h =>
      refine ⟨_ ++ moments, ?_, (requestCalls_run request w).append
        (show Run _ (serve env config web faults request w).2 _ _ by rw [h]; exact hrun)⟩
      rw [List.filterMap_append, List.filterMap_map, hcalls, journal, h]
      rfl
    | elapsed micros w =>
      have hquiet : Moment env config faults w none { w with clock := w.clock + micros } :=
        .quiet rfl rfl
      exact ⟨none :: moments, hcalls, .cons hquiet hrun⟩

/-- A run of requests from one of its calls on. -/
theorem journal_split {events : List HttpEvent} {before after : List (Call × World)}
    {c : Call} {v : World} (h : Run (HttpStep env config web faults) w events w')
    (hjournal : journal env config web faults events w = before ++ (c, v) :: after) :
    ∃ moments, moments.filterMap id = after ∧
      Run (Moment env config faults) (perform env config faults c v).2 moments w' := by
  obtain ⟨moments, hcalls, hrun⟩ := journal_run h
  rw [hjournal, List.filterMap_eq_append_iff] at hcalls
  obtain ⟨first, rest, rfl, -, hcalls⟩ := hcalls
  obtain ⟨quiet, l, last, rfl, -, hl, hlast⟩ := List.filterMap_eq_cons_iff.1 hcalls
  obtain ⟨w₁, -, hrun⟩ := hrun.append_inv
  obtain ⟨w₂, -, hrun⟩ := hrun.append_inv
  obtain ⟨w₃, hcall, hrun⟩ := hrun.cons_inv
  rw [id_eq] at hl
  subst hl
  cases hcall with
  | called c v => exact ⟨last, hlast, hrun⟩

end

end ApiStarter.Server
