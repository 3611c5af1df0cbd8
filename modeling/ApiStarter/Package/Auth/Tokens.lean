import ApiStarter.Provider.Transaction

/-
  What becomes of a signed token.

  `Signed.Authentic` says that a token decodes to the claims it was signed with; every token
  of every run is authentic (`run_authentic`). `getIdentity` and `refreshToken` then do the
  same with any authentic token that names a subject: they reject it once it has expired, and
  look the subject up otherwise (`runE_getIdentity_of_signed`, `refreshToken_eq`).
-/

namespace ApiStarter.Auth

open ApiStarter.Database ApiStarter.Effect ApiStarter.Effect.Fallible ApiStarter.Errdef
  ApiStarter.Jwt ApiStarter.Provider ApiStarter.Relational

/-! ## Signing -/

/-- The token decodes to its claims and its expiry. -/
def Signed.Authentic (env : Env) (s : Signed) : Prop :=
  env.jwt.decode s.token = .ok (s.claims.insert "exp" (.num s.expiresAt))

/-- Two tokens with the same text have the same subject. -/
theorem Signed.Authentic.subjectOf_eq {env : Env} {s s' : Signed} (hs : Signed.Authentic env s)
    (hs' : Signed.Authentic env s') (h : s.token = s'.token) :
    AuthService.subjectOf env s.claims = AuthService.subjectOf env s'.claims := by
  unfold Signed.Authentic at hs hs'
  rw [h, hs'] at hs
  have hclaims := congrArg (AuthService.subjectOf env) (Except.ok.inj hs)
  unfold AuthService.subjectOf at hclaims ⊢
  rw [Claims.get_insert_ne (by decide), Claims.get_insert_ne (by decide)] at hclaims
  exact hclaims.symm

section

variable {env : Env} {config : AuthConfig} {faults : Faults} {w w' : World} {user : Identity}

theorem exec_jwtGenerate_ok {claims : Claims} {expiresAt : Int} {token : String}
    (h : (exec env faults (.jwtGenerate claims expiresAt) w).1 = .ok token) :
    (exec env faults (.jwtGenerate claims expiresAt) w).2 =
      { w with signed := w.signed ++ [⟨claims, expiresAt, token⟩] } := by
  simp only [exec, jwtGenerate] at h ⊢
  cases hgen : Jwt.generateToken env.jwt claims expiresAt with
  | error err => rw [hgen] at h; cases h
  | ok t => rw [hgen] at h; cases h; rfl

theorem exec_jwtGenerate_isOk (hjwt : env.jwt.RoundTrips) (faults : Faults) (w : World)
    (claims : Claims) (expiresAt : Int) :
    ∃ token, (exec env faults (.jwtGenerate claims expiresAt) w).1 = .ok token := by
  obtain ⟨token, hgen, -⟩ := generateToken_ok hjwt claims expiresAt
  exact ⟨token, by simp only [exec, jwtGenerate, hgen]⟩

/-- A token pair: its access token and its refresh token are signed for the same user. -/
theorem generateTokens_ok {tokens : AuthenticationTokens}
    (h : runE (exec env faults) (AuthService.generateTokens env config user) w =
      (some (.ok tokens), w')) :
    ∃ t₁ t₂, addSeconds w.clock config.tokenTtl = some t₁ ∧
      addSeconds w.clock config.refreshTokenTtl = some t₂ ∧
      w' = { w with signed := w.signed ++
        [⟨AuthService.accessClaims env user, unixSeconds t₁, tokens.token⟩,
          ⟨AuthService.refreshClaims env user, unixSeconds t₂, tokens.refreshToken⟩] } := by
  obtain ⟨t₁, w₁, hexp₁, h₁⟩ := runE_bind_ok (runE_ask_ok h)
  obtain ⟨ht₁, rfl⟩ := runE_expect_ok hexp₁
  obtain ⟨token, w₂, hsign₁, h₂⟩ := runE_bind_ok (runE_ask_ok h₁)
  obtain ⟨htoken, rfl⟩ := runE_mapErr_ok hsign₁
  obtain ⟨t₂, w₃, hexp₂, h₃⟩ := runE_bind_ok h₂
  obtain ⟨ht₂, rfl⟩ := runE_expect_ok hexp₂
  obtain ⟨refreshToken, w₄, hsign₂, h₄⟩ := runE_bind_ok (runE_ask_ok h₃)
  obtain ⟨hrefresh, rfl⟩ := runE_mapErr_ok hsign₂
  cases h₄
  refine ⟨t₁, t₂, ht₁, ht₂, ?_⟩
  rw [exec_jwtGenerate_ok hrefresh, exec_jwtGenerate_ok htoken]
  simp

/-- Signing never fails: a login that got this far ends in a pair, or panics on a lifetime out
    of range. -/
theorem generateTokens_returns (hjwt : env.jwt.RoundTrips) :
    (∃ tokens w', runE (exec env faults) (AuthService.generateTokens env config user) w =
      (some (.ok tokens), w')) ∨
    (addSeconds w.clock config.tokenTtl = none ∨
        addSeconds w.clock config.refreshTokenTtl = none) ∧
      ∃ w', runE (exec env faults) (AuthService.generateTokens env config user) w =
        (none, w') := by
  unfold AuthService.generateTokens
  rw [runE_ask_bind]
  cases ht₁ : addSeconds w.clock config.tokenTtl with
  | none =>
    refine .inr ⟨.inl rfl, w, ?_⟩
    simp only [exec_utcNow, ht₁, runE_bind, runE_expect_none]
  | some t₁ =>
    obtain ⟨token, htoken⟩ := exec_jwtGenerate_isOk hjwt faults w
      (AuthService.accessClaims env user) (unixSeconds t₁)
    simp only [exec_utcNow, ht₁, expect_some, pure_bind, runE_ask_bind, htoken, mapErr_ok]
    -- The world after the access token.
    generalize (exec env faults _ w).2 = w₁
    cases ht₂ : addSeconds w.clock config.refreshTokenTtl with
    | none => exact .inr ⟨.inr rfl, w₁, by rw [runE_bind, runE_expect_none]⟩
    | some t₂ =>
      obtain ⟨refreshToken, hrefresh⟩ := exec_jwtGenerate_isOk hjwt faults w₁
        (AuthService.refreshClaims env user) (unixSeconds t₂)
      refine .inl ⟨⟨token, refreshToken⟩, (exec env faults
        (.jwtGenerate (AuthService.refreshClaims env user) (unixSeconds t₂)) w₁).2, ?_⟩
      simp only [expect_some, pure_bind, runE_ask_bind, hrefresh, mapErr_ok]
      rfl

/-! ## Every token of a run -/

theorem exec_authentic (hjwt : env.jwt.RoundTrips) (o : Op) (w : World)
    (hw : ∀ s ∈ w.signed, Signed.Authentic env s) :
    ∀ s ∈ (exec env faults o w).2.signed, Signed.Authentic env s := by
  by_cases hsign : ∃ claims expiresAt, o = .jwtGenerate claims expiresAt
  · obtain ⟨claims, expiresAt, rfl⟩ := hsign
    obtain ⟨token, hgen, hdec⟩ := generateToken_ok hjwt claims expiresAt
    have hok : (exec env faults (.jwtGenerate claims expiresAt) w).1 = .ok token := by
      simp only [exec, jwtGenerate, hgen]
    rw [exec_jwtGenerate_ok hok]
    intro s hs
    rcases List.mem_append.1 hs with hold | hnew
    · exact hw s hold
    · rw [List.mem_singleton.1 hnew]
      exact hdec
  · rw [exec_signed fun claims expiresAt heq => hsign ⟨claims, expiresAt, heq⟩]
    exact hw

theorem run_authentic (hjwt : env.jwt.RoundTrips) {events : List Event}
    (h : Run (Step env config faults) w events w')
    (hw : ∀ s ∈ w.signed, Signed.Authentic env s) : ∀ s ∈ w'.signed, Signed.Authentic env s := by
  refine h.inv (I := fun w => ∀ s ∈ w.signed, Signed.Authentic env s)
    (fun w₁ l w₂ h₁ hstep => ?_) hw
  cases hstep with
  | called h => exact perform_inv (fun o w _ => exec_authentic hjwt o w) (fun _ hw => hw) h h₁
  | elapsed n w => exact h₁

/-! ## Presenting a token -/

/-- The subject of a token is the one its claims name. -/
theorem runE_userIdFrom_of_signed {s : Signed} {userId : Uuid} (hs : Signed.Authentic env s)
    (hsubject : AuthService.subjectOf env s.claims = some userId) :
    runE (exec env faults) (AuthService.userIdFrom env s.token) w =
      (some (if s.expiresAt < unixSeconds w.clock then
          .error ((Error.unauthorized invalidRefreshToken).withCause
            (JwtError.parse "ExpiredSignature").text)
        else .ok userId), w) := by
  have hclaims : AuthService.subjectOf env
      ((s.claims.insert "exp" (.num s.expiresAt)).remove "exp") = some userId := by
    unfold AuthService.subjectOf at hsubject ⊢
    rwa [Claims.get_remove_ne (by decide), Claims.get_insert_ne (by decide)]
  unfold AuthService.userIdFrom
  rw [runE_ask_bind]
  simp only [exec_jwtValidate, validateToken_of_decode hs]
  split
  · rfl
  · simp only [mapErr_ok, pure_bind, hclaims, okOr_some, runE_pure]

theorem runE_requireUserById {userId : Uuid} :
    runE (exec env faults) (AuthService.requireUserById userId) w =
      (some (match faults.store w.statements with
        | some err => .error (sqlxUnknown err)
        | none =>
          match PostgresAuthStore.findUserById w.db userId with
          | some user => .ok user
          | none => .error (Error.unauthorized invalidRefreshToken)), w.counted) := by
  unfold AuthService.requireUserById
  rw [runE_ask_bind]
  have hsnd : (exec env faults (.findUserById userId) w).2 = w.counted := query_snd _
  rw [hsnd]
  cases hstore : faults.store w.statements with
  | some err =>
    have hfst : (exec env faults (.findUserById userId) w).1 = .error err :=
      query_fst_of_store_some hstore _
    rw [hfst, mapErr_error, runE_bind, runE_throw]
  | none =>
    have hfst : (exec env faults (.findUserById userId) w).1 =
        .ok (PostgresAuthStore.findUserById w.db userId) := query_fst_of_store_none hstore _
    rw [hfst, mapErr_ok, pure_bind]
    cases PostgresAuthStore.findUserById w.db userId <;> rfl

/-- `get_identity` on an authentic token, whichever kind it is. -/
theorem runE_getIdentity_of_signed {s : Signed} {userId : Uuid} {user : Identity}
    (hs : Signed.Authentic env s) (hsubject : AuthService.subjectOf env s.claims = some userId)
    (huser : PostgresAuthStore.findUserById w.db userId = some user) :
    runE (exec env faults) (AuthService.getIdentity env s.token) w =
      if s.expiresAt < unixSeconds w.clock then
        (some (.error ((Error.unauthorized invalidRefreshToken).withCause
          (JwtError.parse "ExpiredSignature").text)), w)
      else
        match faults.store w.statements with
        | some err => (some (.error (sqlxUnknown err)), w.counted)
        | none => (some (.ok user), w.counted) := by
  unfold AuthService.getIdentity
  rw [runE_bind, runE_userIdFrom_of_signed hs hsubject]
  by_cases hexpired : s.expiresAt < unixSeconds w.clock
  · simp only [if_pos hexpired]
  · simp only [if_neg hexpired, runE_requireUserById, huser]
    cases faults.store w.statements <;> rfl

/-- `refresh_token` is `get_identity` followed by a new pair: it reads the token it is given
    exactly as bearer authentication does. -/
theorem refreshToken_eq (token : String) :
    AuthService.refreshToken env config token =
      AuthService.getIdentity env token >>= AuthService.generateTokens env config := by
  unfold AuthService.refreshToken AuthService.getIdentity
  rw [bind_assoc]

/-! ## Rejections -/

def Rejected {α : Type} (outcome : Option (Except Error α)) : Prop :=
  ∃ e, outcome = some (.error e)

instance {α : Type} (outcome : Option (Except Error α)) : Decidable (Rejected outcome) :=
  match outcome with
  | none => isFalse fun ⟨_, h⟩ => by cases h
  | some (.ok _) => isFalse fun ⟨_, h⟩ => by cases h
  | some (.error e) => isTrue ⟨e, rfl⟩

theorem getIdentity_rejected_iff {s : Signed} {userId : Uuid} {user : Identity}
    (hs : Signed.Authentic env s) (hsubject : AuthService.subjectOf env s.claims = some userId)
    (huser : PostgresAuthStore.findUserById w.db userId = some user) :
    Rejected (runE (exec env faults) (AuthService.getIdentity env s.token) w).1 ↔
      s.expiresAt < unixSeconds w.clock ∨ faults.store w.statements ≠ none := by
  rw [runE_getIdentity_of_signed hs hsubject huser]
  by_cases hexpired : s.expiresAt < unixSeconds w.clock
  · simp [Rejected, hexpired]
  · cases hstore : faults.store w.statements <;> simp [Rejected, hexpired]

theorem generateTokens_not_rejected (hjwt : env.jwt.RoundTrips) :
    ¬ Rejected (runE (exec env faults) (AuthService.generateTokens env config user) w).1 := by
  rintro ⟨e, he⟩
  rcases generateTokens_returns hjwt with ⟨tokens, w', hrun⟩ | ⟨-, w', hrun⟩
  · rw [hrun] at he; cases he
  · rw [hrun] at he; cases he

theorem refreshToken_rejected_iff (hjwt : env.jwt.RoundTrips) {s : Signed} {userId : Uuid}
    (hs : Signed.Authentic env s) (hsubject : AuthService.subjectOf env s.claims = some userId)
    (huser : PostgresAuthStore.findUserById w.db userId = some user) :
    Rejected (runE (exec env faults) (AuthService.refreshToken env config s.token) w).1 ↔
      s.expiresAt < unixSeconds w.clock ∨ faults.store w.statements ≠ none := by
  rw [refreshToken_eq, runE_bind, runE_getIdentity_of_signed hs hsubject huser]
  by_cases hexpired : s.expiresAt < unixSeconds w.clock
  · simp [Rejected, hexpired]
  · cases hstore : faults.store w.statements with
    | some err => simp [Rejected, hexpired]
    | none => simpa [hexpired] using generateTokens_not_rejected hjwt

/-- A login is rejected by its password or by a failing query, never by the account. -/
theorem generateToken_rejected_iff (hjwt : env.jwt.RoundTrips) {email password : String}
    (huser : PostgresAuthStore.findUserByEmail w.db email = some user) :
    Rejected (runE (exec env faults)
        (AuthService.generateToken env config email password) w).1 ↔
      Crypto.compareHashAndPassword env user.password password ≠ .ok () ∨
        faults.store w.statements ≠ none := by
  unfold AuthService.generateToken
  rw [runE_ask_bind, show (exec env faults (.findUserByEmail email) w).2 = w.counted from
    query_snd _]
  cases hstore : faults.store w.statements with
  | some err =>
    have hfst : (exec env faults (.findUserByEmail email) w).1 = .error err :=
      query_fst_of_store_some hstore _
    rw [hfst, mapErr_error, runE_bind, runE_throw]
    simp [Rejected]
  | none =>
    have hfst : (exec env faults (.findUserByEmail email) w).1 = .ok (some user) := by
      rw [← huser]
      exact query_fst_of_store_none hstore _
    rw [hfst, mapErr_ok, pure_bind, okOr_some, pure_bind]
    cases hcompare : Crypto.compareHashAndPassword env user.password password with
    | error err => simp [Rejected]
    | ok _ => simpa using generateTokens_not_rejected hjwt

end

end ApiStarter.Auth
