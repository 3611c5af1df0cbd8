import ApiStarter.Package.Errdef
import ApiStarter.Provider.Surroundings

/-
  `package/crypto.rs`: password hashing, random tokens, token digests.
-/

namespace ApiStarter.Crypto

open ApiStarter.Effect ApiStarter.Effect.Fallible ApiStarter.Errdef ApiStarter.Provider

def hashPassword (env : Env) (password : String) : Service Error String := do
  let salt ← ask .salt
  mapErr Error.unknown (env.crypto.bcryptHash salt password)

/-- One salt is drawn, and what the library makes of it is passed on. -/
theorem runE_hashPassword (env : Env) (faults : Faults) (password : String) (w : World) :
    runE (exec env faults) (hashPassword env password) w =
      (some ((env.crypto.bcryptHash (env.salt w.saltsDrawn) password).mapError Error.unknown),
        { w with saltsDrawn := w.saltsDrawn + 1 }) := by
  unfold hashPassword
  rw [runE_ask_bind, exec_salt]
  dsimp only
  cases env.crypto.bcryptHash (env.salt w.saltsDrawn) password <;> rfl

/-- A wrong password and an unreadable stored hash return the same error, apart from its
    cause. -/
def compareHashAndPassword (env : Env) (hashed password : String) : Except Error Unit :=
  match env.crypto.bcryptVerify password hashed with
  | .ok true => .ok ()
  | .ok false => .error (Error.unauthorized "password mismatch")
  | .error cause => .error ((Error.unauthorized "password mismatch").withCause cause)

/-- Only the digest is persisted. -/
def hashToken (env : Env) (rawToken : String) : String := env.crypto.sha256Hex rawToken

end ApiStarter.Crypto
