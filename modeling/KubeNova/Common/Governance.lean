import KubeNova.Common.Exceptions

/-!
# Platform roles
-/

namespace KubeNova.Common

/-- The authenticated caller as the controllers hand it to the services. -/
structure Actor where
  id : Option String
  username : Option String
  role : Option String
  deriving Repr, DecidableEq

def assertWritePermission (actor : Option Actor) : Except Exception Unit :=
  let role := (actor.bind (·.role)).getD ""
  if ["platform-admin", "admin", "cluster-operator", "operator"].contains role then .ok ()
  else .error (.forbidden "当前角色无写权限")

def assertAdministrationPermission (role : Option String) : Except Exception Unit :=
  if role ≠ some "platform-admin" ∧ role ≠ some "admin" then
    .error (.forbidden "当前操作需要平台管理员权限")
  else .ok ()

/-- `['admin', 'platform-admin'].includes(role)`. -/
def isAdministratorRole (role : String) : Bool := ["admin", "platform-admin"].contains role

end KubeNova.Common
