import ApiStarter.Provider.SampleEnv
import ApiStarter.Provider.Transaction

/-
  The mails of a run.

  Only `password_recovery` sends mail, as the last thing it does. So it sends one exactly if it
  returns `Ok` (`recovery_mails`), and the mails of a run are those of its answered recoveries, one
  each and in their order (`run_posts`).
-/

namespace ApiStarter.Security

open ApiStarter.Auth ApiStarter.Database ApiStarter.Effect ApiStarter.Effect.Fallible
  ApiStarter.Errdef ApiStarter.Provider

/-! ## One call -/

section

variable {env : Env} {config : AuthConfig} {faults : Faults} {w w' : World}

/-- Nothing else sends mail. -/
theorem exec_mails {o : Op} (ho : ∀ mail, o ≠ .sendHtml mail) :
    (exec env faults o w).2.mails = w.mails := by
  have hpool : ∀ f : Db → Db, (executeOnPool faults w f).2.mails = w.mails := fun f =>
    statement_keeps (g := World.mails) (fun _ _ => rfl) fun _ _ _ hres => by cases hres; rfl
  have hquery : ∀ {α : Type} (f : Db → Except SqlxError α), (query faults w f).2.mails = w.mails :=
    fun f => by rw [query_snd, World.counted]
  cases o with
  | sendHtml mail => exact absurd rfl (ho mail)
  | createPasswordReset email token => exact hpool _
  | resetPassword email hash => exact hpool _
  | deletePasswordReset email => exact hpool _
  | begin =>
    exact statement_keeps (g := World.mails) (fun _ _ => rfl) fun _ _ _ hres => by cases hres; rfl
  | insertUser user => exact executeInTx_keeps (g := World.mails) (fun _ _ _ => rfl) _
  | updateUser sets userId => exact executeInTx_keeps (g := World.mails) (fun _ _ _ => rfl) _
  | insertUserRoles userId names => exact executeInTx_keeps (g := World.mails) (fun _ _ _ => rfl) _
  | deleteUserRoles userId names => exact executeInTx_keeps (g := World.mails) (fun _ _ _ => rfl) _
  | commit => simp only [exec, commit]; split <;> rfl
  | jwtGenerate claims expiresAt => simp only [exec, jwtGenerate]; split <;> rfl
  | _ => first | rfl | exact hquery _

/-- No mail was sent, and no token taken back. -/
structure Mailless (w w' : World) : Prop where
  mails : w'.mails = w.mails
  drawn : w.tokensDrawn ≤ w'.tokensDrawn

theorem Mailless.trans {w₁ w₂ : World} (h : Mailless w w₁) (h' : Mailless w₁ w₂) :
    Mailless w w₂ where
  mails := h'.mails.trans h.mails
  drawn := h.drawn.trans h'.drawn

theorem exec_mailless {o : Op} (ho : ∀ mail, o ≠ .sendHtml mail) :
    Mailless w (exec env faults o w).2 where
  mails := exec_mails ho
  drawn := by
    by_cases hdraw : o = .randomToken
    · rw [hdraw]
      exact Nat.le_succ _
    · exact (exec_tokensDrawn hdraw).ge

/-- A call that is no recovery sends no mail. -/
theorem perform_mailless {c : Call} {outcome : c.Outcome}
    (hc : ∀ email uri, c ≠ .passwordRecovery email uri)
    (h : perform env config faults c w = (outcome, w')) : Mailless w w' := by
  refine perform_inv (I := Mailless w) (fun o w₁ ho h₁ => ?_) (fun _ h₁ => ⟨h₁.mails, h₁.drawn⟩) h
    ⟨rfl, le_rfl⟩
  refine h₁.trans (exec_mailless ?_)
  rintro mail rfl
  obtain hread | hbracket | hwrite := ho
  · exact hread
  · exact hbracket
  · cases c with
    | passwordRecovery email uri => exact hc email uri rfl
    | _ => exact hwrite

/-- The identity that is found by an address has it. -/
theorem findUserByEmail_email {db : Db} {email : String} {user : Identity}
    (h : PostgresAuthStore.findUserByEmail db email = some user) : user.email = email := by
  obtain ⟨row, hrow, rfl⟩ := Option.map_eq_some_iff.1 h
  have hemail := List.find?_some hrow
  rwa [decide_eq_true_eq] at hemail

/-- The mail of a recovery for `email`, with a token drawn since `w`. -/
structure Posted (env : Env) (email uri : String) (w w' : World) (user : Identity) (draw : Nat) :
    Prop where
  address : user.email = email
  drawn : w.tokensDrawn ≤ draw ∧ draw < w'.tokensDrawn
  mails : w'.mails = w.mails ++ [AuthService.recoveryMail user uri (env.randomToken draw)]

/-- A recovery returns `Ok` exactly if it sent its mail. -/
theorem recovery_mails {email uri : String} {outcome : Option (Except Error Unit)}
    (h : runE (exec env faults) (AuthService.passwordRecovery env email uri) w = (outcome, w')) :
    (Failed outcome ∧ Mailless w w') ∨
      (outcome = some (.ok ()) ∧ ∃ user draw, Posted env email uri w w' user draw) := by
  unfold AuthService.passwordRecovery at h
  rw [runE_ask_bind] at h
  have h₁ : Mailless w (exec env faults (.findUserByEmail email) w).2 := exec_mailless nofun
  obtain ⟨e, -, rfl, rfl⟩ | ⟨found, hfound, h⟩ := runE_mapErr_bind_cases h
  · exact .inl ⟨failed_error _, h₁⟩
  generalize (exec env faults (.findUserByEmail email) w).2 = w₁ at h h₁
  cases found with
  | none =>
    obtain ⟨rfl, rfl⟩ := Prod.mk.inj h
    exact .inl ⟨failed_error _, h₁⟩
  | some user =>
    have hemail : user.email = email := findUserByEmail_email (Except.ok.inj (query_ok hfound))
    rw [okOr_some, pure_bind, runE_ask_bind] at h
    have h₂ : Mailless w (exec env faults (.deletePasswordReset email) w₁).2 :=
      h₁.trans (exec_mailless nofun)
    obtain ⟨e, -, rfl, rfl⟩ | ⟨_, -, h⟩ := runE_mapErr_bind_cases h
    · exact .inl ⟨failed_error _, h₂⟩
    generalize (exec env faults (.deletePasswordReset email) w₁).2 = w₂ at h h₂
    rw [runE_ask_bind, exec_randomToken, runE_ask_bind] at h
    dsimp only at h
    have hdrawn : Mailless { w₂ with tokensDrawn := w₂.tokensDrawn + 1 }
        (exec env faults (.createPasswordReset email
          (Crypto.hashToken env (env.randomToken w₂.tokensDrawn)))
          { w₂ with tokensDrawn := w₂.tokensDrawn + 1 }).2 := exec_mailless nofun
    have hcounted : Mailless w₂ { w₂ with tokensDrawn := w₂.tokensDrawn + 1 } :=
      ⟨rfl, Nat.le_succ _⟩
    have h₃ := (h₂.trans hcounted).trans hdrawn
    obtain ⟨e, -, rfl, rfl⟩ | ⟨_, -, h⟩ := runE_mapErr_bind_cases h
    · exact .inl ⟨failed_error _, h₃⟩
    generalize (exec env faults (.createPasswordReset _ _) _).2 = w₃ at h h₃ hdrawn
    rw [runE_ask_bind] at h
    dsimp only [exec, sendHtml] at h
    cases hmailer : faults.mailer w₃.mailsTried with
    | some err =>
      rw [hmailer] at h
      obtain ⟨rfl, rfl⟩ := Prod.mk.inj h
      exact .inl ⟨failed_error _, h₃.mails, h₃.drawn⟩
    | none =>
      rw [hmailer] at h
      obtain ⟨rfl, rfl⟩ := Prod.mk.inj h
      refine .inr ⟨rfl, user, w₂.tokensDrawn, hemail, ⟨h₂.drawn, hdrawn.drawn⟩, ?_⟩
      exact congrArg (· ++ _) h₃.mails

/-! ## Runs -/

/-- A recovery whose mail was sent. -/
structure Post where
  user : Identity
  callbackUri : String
  draw : Nat

def Post.mail (env : Env) (post : Post) : Mail :=
  AuthService.recoveryMail post.user post.callbackUri (env.randomToken post.draw)

/-- The address and the callback of a recovery that returned `Ok`. -/
def recovered : Event → Option (String × String)
  | .called (.passwordRecovery email uri) (some (.ok _)) => some (email, uri)
  | _ => none

/-- The mails sent from `w` to `w'` are those of the recoveries `asked`, in their order, each with a
    token drawn for it. -/
structure Sent (env : Env) (asked : List (String × String)) (w w' : World) (posts : List Post) :
    Prop where
  mails : w'.mails = w.mails ++ posts.map (Post.mail env)
  asked_eq : posts.map (fun post => (post.user.email, post.callbackUri)) = asked
  ordered : (posts.map Post.draw).Pairwise (· < ·)
  drawn : ∀ post ∈ posts, w.tokensDrawn ≤ post.draw ∧ post.draw < w'.tokensDrawn
  le : w.tokensDrawn ≤ w'.tokensDrawn

theorem Sent.of_mailless (h : Mailless w w') : Sent env [] w w' [] where
  mails := by rw [h.mails, List.map_nil, List.append_nil]
  asked_eq := rfl
  ordered := .nil
  drawn _ hpost := absurd hpost List.not_mem_nil
  le := h.drawn

theorem Sent.append {asked asked' : List (String × String)} {posts posts' : List Post}
    {w₁ w₂ : World} (h : Sent env asked w w₁ posts) (h' : Sent env asked' w₁ w₂ posts') :
    Sent env (asked ++ asked') w w₂ (posts ++ posts') where
  mails := by rw [h'.mails, h.mails, List.map_append, List.append_assoc]
  asked_eq := by rw [List.map_append, h.asked_eq, h'.asked_eq]
  ordered := by
    rw [List.map_append]
    refine List.pairwise_append.2 ⟨h.ordered, h'.ordered, fun n hn m hm => ?_⟩
    obtain ⟨post, hpost, rfl⟩ := List.mem_map.1 hn
    obtain ⟨post', hpost', rfl⟩ := List.mem_map.1 hm
    exact (h.drawn post hpost).2.trans_le (h'.drawn post' hpost').1
  drawn post hpost := by
    rcases List.mem_append.1 hpost with hold | hnew
    · exact ⟨(h.drawn post hold).1, (h.drawn post hold).2.trans_le h'.le⟩
    · exact ⟨h.le.trans (h'.drawn post hnew).1, (h'.drawn post hnew).2⟩
  le := h.le.trans h'.le

theorem step_sent {e : Event} (h : Step env config faults w e w') :
    ∃ posts, Sent env (recovered e).toList w w' posts := by
  cases h with
  | elapsed micros => exact ⟨[], .of_mailless ⟨rfl, le_rfl⟩⟩
  | @called c outcome w w' h =>
    by_cases hc : ∃ email uri, c = .passwordRecovery email uri
    · obtain ⟨email, uri, rfl⟩ := hc
      obtain ⟨w₁, hrun, rfl⟩ := perform_eq h
      obtain ⟨hfailed, hquiet⟩ | ⟨rfl, user, draw, hposted⟩ := recovery_mails hrun
      · have hnone : recovered (.called (.passwordRecovery email uri) outcome) = none := by
          rcases outcome with _ | err | _
          · rfl
          · rfl
          · exact absurd rfl (hfailed ())
        rw [hnone]
        exact ⟨[], .of_mailless ⟨hquiet.mails, hquiet.drawn⟩⟩
      · refine ⟨[⟨user, uri, draw⟩], hposted.mails, ?_, List.pairwise_singleton _ _, ?_, ?_⟩
        · rw [← hposted.address]
          rfl
        · intro post hpost
          rw [List.mem_singleton.1 hpost]
          exact hposted.drawn
        · exact hposted.drawn.1.trans hposted.drawn.2.le
    · have hnone : recovered (.called c outcome) = none := by
        cases c <;> first | rfl | exact absurd ⟨_, _, rfl⟩ hc
      rw [hnone]
      exact ⟨[], .of_mailless (perform_mailless (fun email uri heq => hc ⟨email, uri, heq⟩) h)⟩

/-- Whatever fails, and in whatever order: the mails of a run are one for each recovery that
    returned `Ok`, to its address and with its callback, in their order, each with a token of its
    own. -/
theorem mail_ledger {events : List Event} (h : Run (Step env config faults) w events w') :
    ∃ posts, Sent env (events.filterMap recovered) w w' posts := by
  induction h with
  | nil w => exact ⟨[], .of_mailless ⟨rfl, le_rfl⟩⟩
  | @cons w w₁ w' e events hstep _ ih =>
    obtain ⟨posts, hposts⟩ := step_sent hstep
    obtain ⟨posts', hposts'⟩ := ih
    refine ⟨posts ++ posts', ?_⟩
    rw [show (e :: events).filterMap recovered =
      (recovered e).toList ++ events.filterMap recovered by
        cases hrecovered : recovered e <;> simp [hrecovered]]
    exact hposts.append hposts'

end

def adminForgot : Call := .passwordRecovery "admin@example.com" "https://example.com/"

def nobodyForgot : Call := .passwordRecovery "nobody@example.com" "https://example.com/"

/-- Of three recoveries the one for an unknown address gets no mail. -/
theorem forgotten_run : Run (Step sampleEnv sampleConfig Faults.none) sampleWorld
    [.called adminForgot (some (.ok ())),
      .called nobodyForgot (some (.error (Error.notFound "invalid email address"))),
      .called adminForgot (some (.ok ()))]
    (sampleAfter adminForgot (sampleAfter nobodyForgot (sampleAfter adminForgot sampleWorld))) :=
  .cons (step_sampleAfter rfl) (.cons (step_sampleAfter rfl) (.cons (step_sampleAfter rfl) (.nil _)))

theorem mail_ledger_sample : ∃ posts, Sent sampleEnv
    [("admin@example.com", "https://example.com/"), ("admin@example.com", "https://example.com/")]
    sampleWorld
    (sampleAfter adminForgot (sampleAfter nobodyForgot (sampleAfter adminForgot sampleWorld)))
    posts :=
  mail_ledger forgotten_run

end ApiStarter.Security
