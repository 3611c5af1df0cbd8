import ApiStarter.Module.Iam.PartialUpdate

/-
  Which values the calls write to the password column.

  Three calls write it, each with a hash of the password it was given: `create` and
  `reset_password` as it is, `partial_update` after `password_checker` has accepted it.
  `service_sends` puts this beside what the calls may perform.
-/

namespace ApiStarter.Provider

open ApiStarter.Auth ApiStarter.Database ApiStarter.Effect ApiStarter.Effect.Fallible
  ApiStarter.Errdef ApiStarter.Iam

/-- A password the operation writes is a hash of the one the call was given. -/
def Call.WritesHashed (env : Env) : Call → Op → Prop
  | createUser newUser, .insertUser user =>
    ∃ salt, env.crypto.bcryptHash salt newUser.password = .ok user.password
  | partialUpdate _ fields, .updateUser sets _ => ∃ hash, Hashed env fields.password hash ∧
    (∀ password, fields.password = some password →
      Validation.passwordChecker env.unicode password = .ok ()) ∧
    PgUserRepository.setClauses { fields with password := hash } = .ok sets
  | resetPassword _ newPassword, .resetPassword _ hash =>
    ∃ salt, env.crypto.bcryptHash salt newPassword = .ok hash
  | _, _ => True

/-- What a call may send to its surroundings, with what is known of the values. -/
def Call.Sends (env : Env) (c : Call) (o : Op) : Prop := c.MayPerform o ∧ c.WritesHashed env o

section

variable {env : Env}

theorem writesHashed_of_reads (c : Call) (o : Op) (h : o.Reads) : c.WritesHashed env o := by
  cases o <;> first | exact h.elim | (cases c <;> trivial)

theorem writesHashed_of_brackets (c : Call) (o : Op) (h : o.Brackets) : c.WritesHashed env o := by
  cases o <;> first | exact h.elim | (cases c <;> trivial)

theorem service_sends (env : Env) (config : AuthConfig) (c : Call) :
    UsesE (c.Sends env) (c.service env config) := by
  have hmay : UsesE c.MayPerform (c.service env config) := service_uses env config c
  refine Prog.Uses.and hmay ?_
  cases c with
  | createUser newUser =>
    exact usesE_create (writesHashed_of_reads _) (writesHashed_of_brackets _)
      (fun salt _ hhash => ⟨salt, hhash⟩) fun _ => trivial
  | partialUpdate userId fields =>
    refine usesE_partialUpdate (writesHashed_of_reads _) (writesHashed_of_brackets _) ?_ ?_
      (fun _ _ => trivial) fun _ _ => trivial
    · intro hnone sets hsets
      refine ⟨fields.password, by rw [hnone]; rfl, fun password h => ?_, hsets⟩
      rw [hnone] at h
      cases h
    · intro password salt hash hsome hchecked hhash sets hsets
      refine ⟨some hash, by rw [hsome]; exact ⟨salt, hash, hhash, rfl⟩, fun password' h => ?_, hsets⟩
      rw [hsome, Option.some.injEq] at h
      exact h ▸ hchecked
  | resetPassword token newPassword =>
    exact usesE_resetPassword (writesHashed_of_reads _) (fun _ salt _ hhash => ⟨salt, hhash⟩)
      fun _ => trivial
  | _ => exact hmay.mono fun o _ => by cases o <;> trivial

/-- The invariant rule for a call: what everything it sends keeps, it keeps. -/
theorem perform_inDb_of_sends {config : AuthConfig} {faults : Faults} {c : Call} {w : World}
    {D : Db → Prop} (hD : PreservedBy env (c.Sends env) D) (hw : InDb D w) :
    InDb D (perform env config faults c w).2 := by
  have hI : InDb D (runE (exec env faults) (c.service env config) w).2 :=
    runE_inv_of_uses (fun o w ho h => exec_inDb hD faults o w ho h) (service_sends env config c) hw
  exact ⟨hI.1, by simp [perform, World.dropTx]⟩

end

end ApiStarter.Provider
