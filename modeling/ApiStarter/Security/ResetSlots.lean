import ApiStarter.Database.SlotTable
import ApiStarter.Package.Auth.Recovery
import ApiStarter.Provider.SampleEnv

/-
  Sequential password recovery refines a map with one slot for each address.

  `SlotStep` is the abstract machine: a slot holds the raw token last mailed to its address and
  the time of the mail; a recovery overwrites the slot, a reset spends it. The table behind the
  code has no key and stores digests; `Refines` ties the two, and every sequential run of the
  code is a run of the machine with the same calls and the same outcomes
  (`recovery_refines_slots`).
-/

namespace ApiStarter.Security

open ApiStarter.Auth ApiStarter.Database ApiStarter.Effect ApiStarter.Effect.Fallible
  ApiStarter.Errdef ApiStarter.Provider ApiStarter.Relational

/-! ## The abstract machine -/

structure Slot where
  token : String
  issuedAt : Timestamp

structure SlotState where
  slots : String → Option Slot
  users : List UserRow
  mails : List Mail
  /-- Every token handed out so far. -/
  issued : Set String
  now : Timestamp

/-- The slot can still be spent at `now`. -/
def Slot.Live (slot : Slot) (now : Timestamp) : Prop :=
  now ≤ addMinutes slot.issuedAt passwordResetTtlMinutes

/-- The mail of a recovery, as a text with the raw token in its link. -/
def slotMail (email userName callbackUri token : String) : Mail :=
  { recipient := email
    subject := "Password Recovery"
    template := "password-reset"
    data := [("username", userName), ("callbackURI", callbackUri ++ token)] }

inductive SlotStep (env : Env) : SlotState → Event → SlotState → Prop
  | recovered {s : SlotState} {email callbackUri token : String} {row : UserRow}
      (hrow : row ∈ s.users) (hemail : row.email = email) (hfresh : token ∉ s.issued) :
      SlotStep env s (.called (.passwordRecovery email callbackUri) (some (.ok ()))) { s with
        slots := Function.update s.slots email (some ⟨token, s.now⟩)
        mails := s.mails ++ [slotMail email row.userName callbackUri token]
        issued := insert token s.issued }
  | unknownAddress {s : SlotState} {email callbackUri : String} {e : Error}
      (hnone : ∀ row ∈ s.users, row.email ≠ email) :
      SlotStep env s (.called (.passwordRecovery email callbackUri) (some (.error e))) s
  | spent {s : SlotState} {token newPassword email hash salt : String} {slot : Slot}
      (hslot : s.slots email = some slot) (htoken : slot.token = token) (hlive : slot.Live s.now)
      (hhash : env.crypto.bcryptHash salt newPassword = .ok hash) :
      SlotStep env s (.called (.resetPassword token newPassword) (some (.ok ()))) { s with
        slots := Function.update s.slots email none
        users := updateWhere (fun row => row.email == email)
          (fun row => { row with password := hash }) s.users }
  | refused {s : SlotState} {token newPassword : String} {e : Error}
      (hnone : ∀ email slot, s.slots email = some slot → slot.token = token →
        ¬ slot.Live s.now) :
      SlotStep env s (.called (.resetPassword token newPassword) (some (.error e))) s
  | elapsed {s : SlotState} (micros : Nat) :
      SlotStep env s (.elapsed micros) { s with now := s.now + micros }

/-! ## The rows behind the slots -/

def Slot.row (env : Env) (email : String) (slot : Slot) : PasswordResetRow :=
  { email := email, token := Crypto.hashToken env slot.token, createdAt := slot.issuedAt }

structure Refines (env : Env) (w : World) (s : SlotState) : Prop where
  rows : Represents PasswordResetRow.email w.db.passwordResets
    fun email => (s.slots email).map (Slot.row env email)
  users : w.db.users = s.users
  mails : w.mails = s.mails
  now : w.clock = s.now
  issued : s.issued = { token | ∃ n, n < w.tokensDrawn ∧ env.randomToken n = token }
  slot_issued : ∀ email slot, s.slots email = some slot → slot.token ∈ s.issued
  /-- A token is in one slot only. -/
  slot_inj : ∀ email email' slot slot', s.slots email = some slot → s.slots email' = some slot' →
    slot.token = slot'.token → email = email'

/-- The events of the claimed runs, with the tokens that are presented in them. -/
def RecoveryEvent (env : Env) : Event → Prop
  | .called (.passwordRecovery _ _) _ => True
  | .called (.resetPassword token _) _ => env.NoCollision token
  | .elapsed _ => True
  | _ => False

section

variable {env : Env} {config : AuthConfig} {faults : Faults} {w w' : World} {s : SlotState}

theorem refines_init {db : Db} (hdb : db.passwordResets = []) (clock : Timestamp) :
    Refines env (World.init db clock)
      { slots := fun _ => none, users := db.users, mails := [], issued := ∅, now := clock } where
  rows := by
    rw [World.init, hdb]
    exact represents_nil
  users := rfl
  mails := rfl
  now := rfl
  issued := by simp [World.init]
  slot_issued := by simp
  slot_inj := by simp

/-! ## What a lookup finds -/

theorem Refines.token_of_digest (hR : Refines env w s) {token email : String} {slot : Slot}
    (hcol : env.NoCollision token) (hslot : s.slots email = some slot)
    (hdigest : Crypto.hashToken env slot.token = Crypto.hashToken env token) :
    slot.token = token := by
  have hissued : slot.token ∈ s.issued := hR.slot_issued email slot hslot
  rw [hR.issued] at hissued
  obtain ⟨n, -, hn⟩ := hissued
  rw [← hn] at hdigest ⊢
  exact (hcol n hdigest.symm).symm

theorem Refines.find_slot (hR : Refines env w s) {token email : String} {slot : Slot}
    (hcol : env.NoCollision token) (hslot : s.slots email = some slot)
    (htoken : slot.token = token) :
    PostgresAuthStore.findPasswordByToken w.db (Crypto.hashToken env token) =
      some (slot.row env email) := by
  refine hR.rows.find?_eq_some (k := email) (by rw [hslot]; rfl) (by simp [Slot.row, htoken]) ?_
  intro email' row hrow hdigest
  obtain ⟨slot', hslot', rfl⟩ := Option.map_eq_some_iff.1 hrow
  have htoken' : slot'.token = token :=
    hR.token_of_digest hcol hslot' (of_decide_eq_true hdigest)
  exact hR.slot_inj email' email slot' slot hslot' hslot (htoken'.trans htoken.symm)

theorem Refines.find_none (hR : Refines env w s) {token : String} (hcol : env.NoCollision token)
    (hnone : ∀ email slot, s.slots email = some slot → slot.token ≠ token) :
    PostgresAuthStore.findPasswordByToken w.db (Crypto.hashToken env token) = none := by
  refine hR.rows.find?_eq_none fun email row hrow => ?_
  obtain ⟨slot, hslot, rfl⟩ := Option.map_eq_some_iff.1 hrow
  refine decide_eq_false fun hdigest => ?_
  exact hnone email slot hslot (hR.token_of_digest hcol hslot hdigest)

/-! ## The steps -/

/-- Writing one slot writes one entry of the represented map. -/
theorem map_update (slots : String → Option Slot) (email : String) (slot : Option Slot) :
    (fun email' => (Function.update slots email slot email').map (Slot.row env email')) =
      Function.update (fun email' => (slots email').map (Slot.row env email')) email
        (slot.map (Slot.row env email)) := by
  funext email'
  by_cases h : email' = email
  · subst h
    rw [Function.update_self, Function.update_self]
  · rw [Function.update_of_ne h, Function.update_of_ne h]

theorem slot_of_update {slots : String → Option Slot} {email email' : String}
    {new : Option Slot} {slot : Slot} (h : Function.update slots email new email' = some slot) :
    (email' = email ∧ new = some slot) ∨ (email' ≠ email ∧ slots email' = some slot) := by
  by_cases he : email' = email
  · rw [he, Function.update_self] at h
    exact .inl ⟨he, h⟩
  · rw [Function.update_of_ne he] at h
    exact .inr ⟨he, h⟩

theorem fresh_token (hfresh : env.FreshTokens) (hR : Refines env w s) :
    env.randomToken w.tokensDrawn ∉ s.issued := by
  rw [hR.issued]
  rintro ⟨n, hn, heq⟩
  have hsame : n = w.tokensDrawn := hfresh (congrArg env.crypto.sha256Hex heq)
  omega

theorem Refines.recovered (hfresh : env.FreshTokens) (hR : Refines env w s) (email : String)
    (mail : Mail) :
    Refines env { recoveredWorld env email w with
      tx := none, mailsTried := w.mailsTried + 1, mails := w.mails ++ [mail] } { s with
      slots := Function.update s.slots email (some ⟨env.randomToken w.tokensDrawn, s.now⟩)
      mails := s.mails ++ [mail]
      issued := insert (env.randomToken w.tokensDrawn) s.issued } where
  rows := by
    have hinsert := (hR.rows.delete email).insert
      (r := Slot.row env email ⟨env.randomToken w.tokensDrawn, s.now⟩)
      (by simp [Slot.row])
    rw [map_update, ← hR.now]
    simpa [recoveredWorld, PostgresAuthStore.createPasswordReset,
      PostgresAuthStore.deletePasswordReset, Slot.row, hR.now] using hinsert
  users := hR.users
  mails := by rw [hR.mails]
  now := hR.now
  issued := by
    rw [hR.issued]
    ext token
    constructor
    · rintro (rfl | ⟨n, hn, rfl⟩)
      · exact ⟨w.tokensDrawn, Nat.lt_succ_self _, rfl⟩
      · exact ⟨n, Nat.lt_succ_of_lt hn, rfl⟩
    · rintro ⟨n, hn, rfl⟩
      rcases Nat.lt_succ_iff_lt_or_eq.1 hn with hlt | heq
      · exact .inr ⟨n, hlt, rfl⟩
      · exact .inl (by rw [heq])
  slot_issued := by
    intro email' slot hslot
    rcases slot_of_update hslot with ⟨-, hnew⟩ | ⟨-, hold⟩
    · cases hnew
      exact .inl rfl
    · exact .inr (hR.slot_issued email' slot hold)
  slot_inj := by
    -- The new token is in no other slot, since every other slot holds an issued one.
    have hother : ∀ email' slot, s.slots email' = some slot →
        slot.token ≠ env.randomToken w.tokensDrawn :=
      fun email' slot hslot heq => fresh_token hfresh hR (heq ▸ hR.slot_issued email' slot hslot)
    intro email₁ email₂ slot₁ slot₂ h₁ h₂ htoken
    rcases slot_of_update h₁ with ⟨he₁, hnew₁⟩ | ⟨-, hold₁⟩
    · rcases slot_of_update h₂ with ⟨he₂, -⟩ | ⟨-, hold₂⟩
      · rw [he₁, he₂]
      · cases hnew₁
        exact absurd htoken.symm (hother email₂ slot₂ hold₂)
    · rcases slot_of_update h₂ with ⟨-, hnew₂⟩ | ⟨-, hold₂⟩
      · cases hnew₂
        exact absurd htoken (hother email₁ slot₁ hold₁)
      · exact hR.slot_inj email₁ email₂ slot₁ slot₂ hold₁ hold₂ htoken

theorem Refines.spent (hR : Refines env w s) (email hash : String) :
    Refines env { resetWorld email hash w with tx := none } { s with
      slots := Function.update s.slots email none
      users := updateWhere (fun row => row.email == email)
        (fun row => { row with password := hash }) s.users } where
  rows := by
    rw [map_update]
    exact hR.rows.delete email
  users := by rw [← hR.users]; rfl
  mails := hR.mails
  now := hR.now
  issued := hR.issued
  slot_issued := by
    intro email' slot hslot
    rcases slot_of_update hslot with ⟨-, hnew⟩ | ⟨-, hold⟩
    · cases hnew
    · exact hR.slot_issued email' slot hold
  slot_inj := by
    intro email₁ email₂ slot₁ slot₂ h₁ h₂
    rcases slot_of_update h₁ with ⟨-, hnew₁⟩ | ⟨-, hold₁⟩
    · cases hnew₁
    rcases slot_of_update h₂ with ⟨-, hnew₂⟩ | ⟨-, hold₂⟩
    · cases hnew₂
    exact hR.slot_inj email₁ email₂ slot₁ slot₂ hold₁ hold₂

/-- A call that leaves the tables, the mails and the clock alone, and draws no token. -/
theorem Refines.of_eq (hR : Refines env w s) (hdb : w'.db = w.db) (hmails : w'.mails = w.mails)
    (hclock : w'.clock = w.clock) (hdrawn : w'.tokensDrawn = w.tokensDrawn) :
    Refines env w' s where
  rows := by rw [hdb]; exact hR.rows
  users := by rw [hdb]; exact hR.users
  mails := by rw [hmails]; exact hR.mails
  now := by rw [hclock]; exact hR.now
  issued := by rw [hdrawn]; exact hR.issued
  slot_issued := hR.slot_issued
  slot_inj := hR.slot_inj

/-! ## The simulation -/

theorem simulate_recovery (hfresh : env.FreshTokens) (hR : Refines env w s)
    {email callbackUri : String} {out : (Call.passwordRecovery email callbackUri).Outcome}
    (h : perform env config Faults.none (.passwordRecovery email callbackUri) w = (out, w')) :
    ∃ s', SlotStep env s (.called (.passwordRecovery email callbackUri) out) s' ∧
      Refines env w' s' := by
  obtain ⟨w₁, hrun, rfl⟩ := perform_eq h
  change runE _ (AuthService.passwordRecovery env email callbackUri) w = _ at hrun
  rw [runE_passwordRecovery fun _ => rfl] at hrun
  cases hfind : PostgresAuthStore.findUserByEmail w.db email with
  | none =>
    rw [hfind] at hrun
    cases hrun
    refine ⟨s, .unknownAddress fun row hrow hemail => ?_, hR.of_eq rfl rfl rfl rfl⟩
    rw [← hR.users] at hrow
    have hnone := List.find?_eq_none.1 (Option.map_eq_none_iff.1 hfind) row hrow
    exact hnone (decide_eq_true hemail)
  | some user =>
    rw [hfind] at hrun
    cases hrun
    obtain ⟨row, hrow, rfl⟩ := Option.map_eq_some_iff.1 hfind
    have hemail : row.email = email := by simpa using List.find?_some hrow
    have hmem : row ∈ s.users := hR.users ▸ List.mem_of_find?_eq_some hrow
    refine ⟨_, .recovered hmem hemail (fresh_token hfresh hR), ?_⟩
    rw [← hemail]
    exact hR.recovered hfresh row.email _

theorem simulate_reset (hhash : ∀ salt password, ∃ hash,
      env.crypto.bcryptHash salt password = .ok hash)
    (hR : Refines env w s) {token newPassword : String} (hcol : env.NoCollision token)
    {out : (Call.resetPassword token newPassword).Outcome}
    (h : perform env config Faults.none (.resetPassword token newPassword) w = (out, w')) :
    ∃ s', SlotStep env s (.called (.resetPassword token newPassword) out) s' ∧
      Refines env w' s' := by
  obtain ⟨w₁, hrun, rfl⟩ := perform_eq h
  change runE _ (AuthService.resetPassword env token newPassword) w = _ at hrun
  rw [runE_resetPassword fun _ => rfl] at hrun
  by_cases hslot : ∃ email slot, s.slots email = some slot ∧ slot.token = token
  · obtain ⟨email, slot, hslot, htoken⟩ := hslot
    rw [hR.find_slot hcol hslot htoken] at hrun
    dsimp only at hrun
    by_cases hexpired : Expired (slot.row env email) w.clock
    · rw [if_pos hexpired] at hrun
      cases hrun
      refine ⟨s, .refused fun email' slot' hslot' htoken' hlive => ?_, hR.of_eq rfl rfl rfl rfl⟩
      have heq : email' = email :=
        hR.slot_inj email' email slot' slot hslot' hslot (htoken'.trans htoken.symm)
      rw [heq, hslot] at hslot'
      cases hslot'
      rw [Slot.Live, ← hR.now] at hlive
      exact absurd hlive (not_le.2 hexpired)
    · rw [if_neg hexpired] at hrun
      obtain ⟨hash, hok⟩ := hhash (env.salt w.saltsDrawn) newPassword
      rw [hok] at hrun
      cases hrun
      refine ⟨_, .spent hslot htoken ?_ hok, hR.spent email hash⟩
      rw [Slot.Live, ← hR.now]
      exact not_lt.1 hexpired
  · have hnone : ∀ email slot, s.slots email = some slot → slot.token ≠ token :=
      fun email slot h₁ h₂ => hslot ⟨email, slot, h₁, h₂⟩
    rw [hR.find_none hcol hnone] at hrun
    cases hrun
    exact ⟨s, .refused fun email slot h₁ h₂ => absurd h₂ (hnone email slot h₁),
      hR.of_eq rfl rfl rfl rfl⟩

/-- One step of the code is one step of the machine. -/
theorem simulate_step (hfresh : env.FreshTokens)
    (hhash : ∀ salt password, ∃ hash, env.crypto.bcryptHash salt password = .ok hash)
    {e : Event} (he : RecoveryEvent env e) (hR : Refines env w s)
    (h : Step env config Faults.none w e w') :
    ∃ s', SlotStep env s e s' ∧ Refines env w' s' := by
  cases h with
  | elapsed micros w =>
    exact ⟨_, .elapsed micros, { hR with now := congrArg (· + (micros : Int)) hR.now }⟩
  | @called c out w w' h =>
    cases c with
    | passwordRecovery email callbackUri => exact simulate_recovery hfresh hR h
    | resetPassword token newPassword => exact simulate_reset hhash hR he h
    | _ => exact he.elim

/-- A sequential run of recoveries and resets is a run of the machine. -/
theorem recovery_refines_slots (hfresh : env.FreshTokens)
    (hhash : ∀ salt password, ∃ hash, env.crypto.bcryptHash salt password = .ok hash)
    {db : Db} (hdb : db.passwordResets = []) {clock : Timestamp} {events : List Event}
    (hevents : ∀ e ∈ events, RecoveryEvent env e)
    (hrun : Run (Step env config Faults.none) (World.init db clock) events w) :
    ∃ s, Run (SlotStep env)
        { slots := fun _ => none, users := db.users, mails := [], issued := ∅, now := clock }
        events s ∧ Refines env w s := by
  obtain ⟨s, habs, hR⟩ := hrun.simulates (P := RecoveryEvent env) (R := Refines env) (f := fun e => e)
    (fun w₁ e w₂ s₁ he hR h => simulate_step hfresh hhash he hR h) hevents
    (refines_init hdb clock)
  rw [List.map_id'] at habs
  exact ⟨s, habs, hR⟩

end

/-- A recovery for the seeded administrator, and the reset its mail asks for. -/
def recoveredAndReset : World :=
  sampleAfter (.resetPassword "t" "N3w-Secret") (sampleAfter
    (.passwordRecovery "admin@example.com" "https://example.com/") sampleWorld)

theorem recovery_refines_slots_sample :
    ∃ s, Run (SlotStep sampleEnv)
        { slots := fun _ => none, users := (Db.seed sampleAdmin).users, mails := [], issued := ∅,
          now := 0 }
        [.called (.passwordRecovery "admin@example.com" "https://example.com/") (some (.ok ())),
          .called (.resetPassword "t" "N3w-Secret") (some (.ok ()))] s ∧
      Refines sampleEnv recoveredAndReset s := by
  have hrun : Run (Step sampleEnv sampleConfig Faults.none) sampleWorld
      [.called (.passwordRecovery "admin@example.com" "https://example.com/") (some (.ok ())),
        .called (.resetPassword "t" "N3w-Secret") (some (.ok ()))] recoveredAndReset :=
    .cons (.called (Prod.ext (by decide) rfl))
      (.cons (.called (Prod.ext (by decide) rfl)) (.nil _))
  refine recovery_refines_slots sampleEnv_freshTokens (fun _ _ => ⟨_, rfl⟩) rfl ?_ hrun
  intro e he
  rcases List.mem_pair.1 he with rfl | rfl
  · trivial
  · exact sampleEnv_noCollision "t"

end ApiStarter.Security
