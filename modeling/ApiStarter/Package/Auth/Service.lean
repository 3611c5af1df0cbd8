import ApiStarter.Package.Crypto

/-
  `package/auth/service.rs`: login, refresh, identity, password recovery and reset.

  Each method is the program the source writes, one operation an `await` or a reading of the
  clock. `passwordRecovery` and `resetPassword` perform their store operations one by one,
  outside any transaction.
-/

namespace ApiStarter.Auth

open ApiStarter.Database ApiStarter.Effect.Fallible ApiStarter.Errdef ApiStarter.Jwt
  ApiStarter.Provider

def passwordResetTtlMinutes : Int := 15

def invalidCredentials : String := "invalid username or password"
def invalidRefreshToken : String := "invalid or malformed refresh token"

/-- The lifetimes `AuthService::new` is given, in seconds. -/
structure AuthConfig where
  tokenTtl : Int
  refreshTokenTtl : Int
  deriving DecidableEq, Repr

def sqlxUnknown (err : SqlxError) : Error := Error.unknown err.text

namespace AuthService

variable (env : Env) (config : AuthConfig)

def accessClaims (user : Identity) : Claims :=
  [("user_id", .str (env.uuids.toString user.id)), ("roles", .strs user.roles)]

def refreshClaims (user : Identity) : Claims :=
  [("user_id", .str (env.uuids.toString user.id))]

def generateTokens (user : Identity) : Service Error AuthenticationTokens := do
  let now ← ask .utcNow
  let tokenExpiry ← expect (addSeconds now config.tokenTtl)
  let token ← mapErr (fun err => Error.unknown err.text)
    (← ask (.jwtGenerate (accessClaims env user) (unixSeconds tokenExpiry)))
  let refreshExpiry ← expect (addSeconds now config.refreshTokenTtl)
  let refreshToken ← mapErr (fun err => Error.unknown err.text)
    (← ask (.jwtGenerate (refreshClaims env user) (unixSeconds refreshExpiry)))
  return { token := token, refreshToken := refreshToken }

/-- The subject of a claim set: `get("user_id")`, a string, that parses as an id. -/
def subjectOf (claims : Claims) : Option Uuid :=
  ((claims.get "user_id").bind Value.asStr).bind env.uuids.parseStr

def userIdFrom (token : String) : Service Error Uuid := do
  let claims ← mapErr (fun err => (Error.unauthorized invalidRefreshToken).withCause err.text)
    (← ask (.jwtValidate token))
  okOr (Error.unauthorized invalidRefreshToken) (subjectOf env claims)

def requireUserById (userId : Uuid) : Service Error Identity := do
  let user ← mapErr sqlxUnknown (← ask (.findUserById userId))
  okOr (Error.unauthorized invalidRefreshToken) user

def generateToken (email password : String) : Service Error AuthenticationTokens := do
  let found ← mapErr sqlxUnknown (← ask (.findUserByEmail email))
  let user ← okOr (Error.unauthorized invalidCredentials) found
  match Crypto.compareHashAndPassword env user.password password with
  | .error _ => throw (Error.unauthorized invalidCredentials)
  | .ok () => generateTokens env config user

def refreshToken (token : String) : Service Error AuthenticationTokens := do
  let userId ← userIdFrom env token
  let user ← requireUserById userId
  generateTokens env config user

def getIdentity (accessToken : String) : Service Error Identity := do
  let userId ← userIdFrom env accessToken
  requireUserById userId

def recoveryMail (user : Identity) (callbackUri token : String) : Mail :=
  { recipient := user.email
    subject := "Password Recovery"
    template := "password-reset"
    data := [("username", user.userName), ("callbackURI", callbackUri ++ token)] }

def passwordRecovery (email callbackUri : String) : Service Error Unit := do
  let found ← mapErr sqlxUnknown (← ask (.findUserByEmail email))
  let user ← okOr (Error.notFound "invalid email address") found
  -- Only one pending request per address is kept.
  mapErr sqlxUnknown (← ask (.deletePasswordReset email))
  let token ← ask .randomToken
  mapErr sqlxUnknown (← ask (.createPasswordReset email (Crypto.hashToken env token)))
  mapErr Error.unknown (← ask (.sendHtml (recoveryMail user callbackUri token)))

def resetPassword (token newPassword : String) : Service Error Unit := do
  let found ← mapErr sqlxUnknown (← ask (.findPasswordByToken (Crypto.hashToken env token)))
  let passwordReset ← okOr (Error.badRequest "invalid or expired token") found
  let now ← ask .utcNow
  if addMinutes passwordReset.createdAt passwordResetTtlMinutes < now then
    throw (Error.badRequest "invalid or expired token")
  let hashedPassword ← Crypto.hashPassword env newPassword
  mapErr sqlxUnknown (← ask (.resetPassword passwordReset.email hashedPassword))
  mapErr sqlxUnknown (← ask (.deletePasswordReset passwordReset.email))

end AuthService

end ApiStarter.Auth
