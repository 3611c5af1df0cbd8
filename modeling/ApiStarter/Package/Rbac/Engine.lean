import ApiStarter.Provider.Surroundings

/-
  `package/rbac`: `RbacEngine` decides `Resource.Permission` actions over the rbac store.
-/

namespace ApiStarter.Rbac

open ApiStarter.Database ApiStarter.Effect ApiStarter.Provider

/-- `action.split_once('.')` -/
def splitAction (action : String) : Option (String × String) :=
  let chars := action.toList
  if chars.contains '.' then
    some (String.ofList (chars.takeWhile (· ≠ '.')),
      String.ofList ((chars.dropWhile (· ≠ '.')).drop 1))
  else none

namespace RbacEngine

variable (superRole : String)

/-- A failing query is logged and denies the bypass. -/
def roleBypass (userId : Uuid) : Prog Op Res Bool := do
  let answer : Except SqlxError (List String) ← Prog.op (Op.getRoles userId)
  match answer with
  | .ok roles => return roles.contains superRole
  | .error _ => return false

def can (userId : Uuid) (action : String) : Prog Op Res Bool := do
  if ← roleBypass superRole userId then return true
  match splitAction action with
  | none => return false
  | some (resource, permission) =>
    let answer : Except SqlxError Bool ←
      Prog.op (Op.hasPermission userId resource permission)
    match answer with
    | .ok allowed => return allowed
    | .error _ => return false

/-- `granted.entry(resource).or_default().push(name)` -/
def grant (permission : Permission) :
    List (String × List String) → List (String × List String)
  | [] => [(permission.resource, [permission.name])]
  | (resource, names) :: rest =>
    if resource = permission.resource then (resource, names ++ [permission.name]) :: rest
    else (resource, names) :: grant permission rest

def grantedMap (permissions : List Permission) : List (String × List String) :=
  permissions.foldl (fun granted permission => grant permission granted) []

def canAny (userId : Uuid) (actions : List String) : Prog Op Res Bool := do
  if ← roleBypass superRole userId then return true
  let answer : Except SqlxError (List Permission) ← Prog.op (Op.getPermissions userId)
  match answer with
  | .error _ => return false
  | .ok permissions =>
    let granted := grantedMap permissions
    return actions.any fun action =>
      match splitAction action with
      | none => false
      | some (resource, permission) =>
        match granted.lookup resource with
        | none => false
        | some names => names.contains permission

end RbacEngine

end ApiStarter.Rbac
