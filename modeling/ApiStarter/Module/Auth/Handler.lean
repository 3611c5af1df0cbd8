import ApiStarter.Server.Http

/-
  `module/auth/adapter/handler.rs`: the four handlers of the auth routes.
-/

namespace ApiStarter.Auth.Handler

open ApiStarter.Effect.Fallible ApiStarter.Provider ApiStarter.Server

variable (env : Env) (web : WebLibrary)

def login : Endpoint := fun incoming => respond do
  let payload ← mapErr Response.ofError <|
    validatedJson web.loginRequest LoginRequest.validate incoming.request
  let tokens ← invoke (.generateToken payload.email payload.password)
  return .ok (.tokens (LoginResponse.ofTokens tokens))

def refreshToken : Endpoint := fun incoming => respond do
  let payload ← mapErr Response.ofError <|
    validatedJson web.refreshRequest RefreshRequest.validate incoming.request
  let tokens ← invoke (.refreshToken payload.token)
  return .ok (.tokens (LoginResponse.ofTokens tokens))

def passwordRecovery : Endpoint := fun incoming => respond do
  let payload ← mapErr Response.ofError <| validatedJson web.passwordRecoveryRequest
    (PasswordRecoveryRequest.validate web.emailValid web.urlValid) incoming.request
  invoke (.passwordRecovery payload.email payload.callbackUri)
  return .ok (.message "password recovery email sent")

def passwordReset : Endpoint := fun incoming => respond do
  let payload ← mapErr Response.ofError <| validatedJson web.passwordResetRequest
    (PasswordResetRequest.validate env.unicode) incoming.request
  invoke (.resetPassword payload.token payload.password)
  return .ok (.message "password has been changed")

/-! ## What the handlers ask for -/

section

variable {env web} (incoming : Incoming)

theorem login_once : (login web incoming).Once fun o => ∃ payload : LoginRequest,
    validatedJson web.loginRequest LoginRequest.validate incoming.request = .ok payload ∧
      o = .call (.generateToken payload.email payload.password) :=
  once_respond (once_mapErr_bind fun payload hpayload => once_invoke ⟨payload, hpayload, rfl⟩ _)

theorem refreshToken_once : (refreshToken web incoming).Once fun o => ∃ payload : RefreshRequest,
    validatedJson web.refreshRequest RefreshRequest.validate incoming.request = .ok payload ∧
      o = .call (.refreshToken payload.token) :=
  once_respond (once_mapErr_bind fun payload hpayload => once_invoke ⟨payload, hpayload, rfl⟩ _)

theorem passwordRecovery_once : (passwordRecovery web incoming).Once fun o =>
    ∃ payload : PasswordRecoveryRequest, validatedJson web.passwordRecoveryRequest
      (PasswordRecoveryRequest.validate web.emailValid web.urlValid) incoming.request =
        .ok payload ∧
      o = .call (.passwordRecovery payload.email payload.callbackUri) :=
  once_respond (once_mapErr_bind fun payload hpayload => once_invoke ⟨payload, hpayload, rfl⟩ _)

theorem passwordReset_once : (passwordReset env web incoming).Once fun o =>
    ∃ payload : PasswordResetRequest, validatedJson web.passwordResetRequest
      (PasswordResetRequest.validate env.unicode) incoming.request = .ok payload ∧
      o = .call (.resetPassword payload.token payload.password) :=
  once_respond (once_mapErr_bind fun payload hpayload => once_invoke ⟨payload, hpayload, rfl⟩ _)

end

end ApiStarter.Auth.Handler
