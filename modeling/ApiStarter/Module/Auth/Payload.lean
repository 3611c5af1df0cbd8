import ApiStarter.Package.Validation

/-
  `module/auth`: the payloads of the handlers, with the rules they are validated by, and the
  response a token pair is turned into.
-/

namespace ApiStarter.Auth

open ApiStarter.Provider ApiStarter.Validation

def requiredMessage : String := "field is required and cannot be empty"

structure LoginRequest where
  email : String
  password : String
  deriving DecidableEq, Repr

structure RefreshRequest where
  token : String
  deriving DecidableEq, Repr

structure PasswordRecoveryRequest where
  email : String
  callbackUri : String
  deriving DecidableEq, Repr

structure PasswordResetRequest where
  token : String
  password : String
  deriving DecidableEq, Repr

def LoginRequest.validate (payload : LoginRequest) : ValidationErrors :=
  Validation.validate [
    ("email", lengthMin1 requiredMessage payload.email),
    ("password", lengthMin1 requiredMessage payload.password)]

def RefreshRequest.validate (payload : RefreshRequest) : ValidationErrors :=
  Validation.validate [("token", lengthMin1 requiredMessage payload.token)]

def PasswordRecoveryRequest.validate (emailValid urlValid : String → Bool)
    (payload : PasswordRecoveryRequest) : ValidationErrors :=
  Validation.validate [
    ("email", holds "email" (emailValid payload.email)),
    ("callback_uri", holds "url" (urlValid payload.callbackUri))]

def PasswordResetRequest.validate (unicode : UnicodeLibrary) (payload : PasswordResetRequest) :
    ValidationErrors :=
  Validation.validate [
    ("token", lengthMin1 requiredMessage payload.token),
    ("password", custom (strongPassword unicode payload.password))]

structure LoginResponse where
  token : String
  refreshToken : String
  deriving DecidableEq, Repr

def LoginResponse.ofTokens (tokens : AuthenticationTokens) : LoginResponse :=
  { token := tokens.token, refreshToken := tokens.refreshToken }

end ApiStarter.Auth
