import ApiStarter.Server.Http

/-
  `module/iam/adapter/handler`: the handlers of the iam routes, under the names of the source.
  Each extracts what it needs in the order of its arguments and calls one method of its service.
-/

namespace ApiStarter.Iam.Handler

open ApiStarter.Effect.Fallible ApiStarter.Pagination ApiStarter.Provider ApiStarter.Server

variable (env : Env) (web : WebLibrary)

def index : Endpoint := fun incoming => respond do
  let request := listRequest web incoming.request
  let page ← invoke (.listUsers request)
  let page := page.map User.ofDomain
  return .okPaginated (.users page.data) page.metaData

def create : Endpoint := fun incoming => respond do
  let payload ← mapErr Response.ofError <| validatedJson web.createUserRequest
    (CreateUserRequest.validate env.unicode web.emailValid) incoming.request
  let userId ← invoke (.createUser payload.toDomain)
  return .ok (.userId userId)

def get : Endpoint := fun incoming => respond do
  let userId ← mapErr Rejection.intoResponse (web.pathUuid incoming.params)
  let user ← invoke (.findUser userId)
  return .ok (.user (User.ofDomain user))

def getMyUser : Endpoint := fun incoming => respond do
  let user ← mapErr Response.ofError (authUser incoming)
  let user ← invoke (.findUser user.id)
  return .ok (.user (User.ofDomain user))

def patch : Endpoint := fun incoming => respond do
  let userId ← mapErr Rejection.intoResponse (web.pathUuid incoming.params)
  let payload ← mapErr Response.ofError (json web.updateUser incoming.request)
  invoke (.partialUpdate userId payload)
  return .ok (.message "successfully update user")

def patchMyUser : Endpoint := fun incoming => respond do
  let user ← mapErr Response.ofError (authUser incoming)
  let payload ← mapErr Response.ofError (json web.updateUser incoming.request)
  invoke (.partialUpdate user.id payload.restrictedToSelf)
  return .ok (.message "successfully update user")

def delete : Endpoint := fun incoming => respond do
  let userId ← mapErr Rejection.intoResponse (web.pathUuid incoming.params)
  invoke (.deleteUser userId)
  return .ok (.deletedUser { message := "User deleted successfully", userId := userId })

/-- `permission::index` -/
def permissionIndex : Endpoint := fun _ => respond do
  let permissions ← invoke .listPermissions
  return .ok (.permissions (permissions.map Permission.ofDomain))

/-! ## What the handlers ask for -/

section

variable {env web} (incoming : Incoming)

theorem index_once : (index web incoming).Once fun o =>
    o = .call (.listUsers (listRequest web incoming.request)) :=
  once_respond (once_invoke rfl _)

theorem create_once : (create env web incoming).Once fun o => ∃ payload,
    validatedJson web.createUserRequest (CreateUserRequest.validate env.unicode web.emailValid)
      incoming.request = .ok payload ∧ o = .call (.createUser payload.toDomain) :=
  once_respond (once_mapErr_bind fun payload hpayload => once_invoke ⟨payload, hpayload, rfl⟩ _)

theorem get_once : (get web incoming).Once fun o => ∃ userId,
    web.pathUuid incoming.params = .ok userId ∧ o = .call (.findUser userId) :=
  once_respond (once_mapErr_bind fun userId huser => once_invoke ⟨userId, huser, rfl⟩ _)

theorem getMyUser_once : (getMyUser incoming).Once fun o => ∃ user,
    authUser incoming = .ok user ∧ o = .call (.findUser user.id) :=
  once_respond (once_mapErr_bind fun user huser => once_invoke ⟨user, huser, rfl⟩ _)

theorem patch_once : (patch web incoming).Once fun o => ∃ userId fields,
    web.pathUuid incoming.params = .ok userId ∧
      json web.updateUser incoming.request = .ok fields ∧
      o = .call (.partialUpdate userId fields) :=
  once_respond (once_mapErr_bind fun userId huser => once_mapErr_bind fun fields hfields =>
    once_invoke ⟨userId, fields, huser, hfields, rfl⟩ _)

theorem patchMyUser_once : (patchMyUser web incoming).Once fun o => ∃ user fields,
    authUser incoming = .ok user ∧ json web.updateUser incoming.request = .ok fields ∧
      o = .call (.partialUpdate user.id fields.restrictedToSelf) :=
  once_respond (once_mapErr_bind fun user huser => once_mapErr_bind fun fields hfields =>
    once_invoke ⟨user, fields, huser, hfields, rfl⟩ _)

theorem delete_once : (delete web incoming).Once fun o => ∃ userId,
    web.pathUuid incoming.params = .ok userId ∧ o = .call (.deleteUser userId) :=
  once_respond (once_mapErr_bind fun userId huser => once_invoke ⟨userId, huser, rfl⟩ _)

theorem permissionIndex_once :
    (permissionIndex incoming).Once fun o => o = .call .listPermissions :=
  once_respond (once_invoke rfl _)

end

end ApiStarter.Iam.Handler
