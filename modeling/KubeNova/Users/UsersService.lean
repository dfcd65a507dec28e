import KubeNova.Auth.State
import KubeNova.Common.Config
import KubeNova.Common.Crypto
import KubeNova.Common.Governance

/-!
# Account administration

`UsersService.updateUser`, `deleteUser` and `setState`.  Every awaited database
call is one statement; the guards before a write are statements of their own.
-/

namespace KubeNova.Users

open KubeNova.Common KubeNova.Foundation KubeNova.Auth

structure UserListItem where
  id : String
  username : String
  name : String
  role : String
  isActive : Bool
  mfaEnabled : Bool
  deriving Repr, DecidableEq

structure DeleteUserResponse where
  id : String
  deleted : Bool
  state : String
  deriving Repr, DecidableEq

structure UpdateUserRequest where
  username : Option String
  name : Option String
  role : Option String
  password : Option String
  deriving Repr, DecidableEq

def toUserItem (id : String) (row : User) : UserListItem where
  id := id
  username := row.email
  name := row.name.getD ""
  role := row.role
  isActive := row.isActive
  mfaEnabled := row.mfaEnabled

/-- `prisma.user.findUnique({ where: { id } })`. -/
def findUser (id : String) : Handler (Option User) := .query fun s => s.users.lookup id

/-- `where: { isActive: true, role: { in: ['admin', 'platform-admin'] } }`. -/
def isActiveAdministrator (user : User) : Bool := user.isActive && isAdministratorRole user.role

/-- `prisma.user.update`, which fails when no row has the id. -/
def updateRow (id : String) (f : User → User) : Statement User := fun s =>
  match s.users.lookup id with
  | some user => .ok (f user, s.updateUser id f)
  | none => .error (.database "P2025")

/-- `prisma.user.delete`: the rows that refer to the user go with it. -/
def deleteRow (id : String) : Statement Unit := fun s =>
  match s.users.lookup id with
  | some _ => .ok ((), { s with
      users := s.users.erase id
      sessions := s.sessions.deleteWhere fun _ session => session.userId == id
      credentials := s.credentials.erase id
      externalIdentities := s.externalIdentities.deleteWhere fun _ userId => userId == id
      authorizationChanges := s.authorizationChanges.map fun change =>
        if change.affectedUserId = some id then { change with affectedUserId := none }
        else change })
  | none => .error (.database "P2025")

def assertSuperadministrator (config : Config) (actor : Option Actor)
    (protectedTargetId : String) : Handler Unit := do
  -- Unrelated account administration retains the existing administrator boundary.
  if some protectedTargetId ≠ config.superadminUserId then
    return ()
  Async.ensure (protectedTargetId ≠ "" ∧ actor.bind (·.id) = config.superadminUserId)
    (.forbidden "Explicit superadministrator identity required")
  let user ← findUser protectedTargetId
  Async.ensure (user.any (·.isActive)) (.forbidden "Active superadministrator required")
  Async.ofExcept (assertAdministrationPermission (user.map (·.role)))

def mustFindUser (id : String) : Handler Unit := do
  let user ← findUser id
  Async.ensure user.isSome (.notFound "用户不存在")

def assertNotLastAdministrator (config : Config) (id nextRole : String) : Handler Unit := do
  Async.ensure (some id ≠ config.superadminUserId) (.badRequest
    "Cannot delete or disable the designated superadministrator; transfer the deployment designation first")
  let current ← findUser id
  if current.any isActiveAdministrator && !isAdministratorRole nextRole then do
    let count ← Async.query fun s => s.users.count fun _ user => isActiveAdministrator user
    Async.ensure (1 < count) (.badRequest "不能移除最后一个平台管理员")
  else return ()

def requiredTrim (value field : String) : Except Exception String :=
  let next := Text.trim value
  if next = "" then .error (.badRequest (field ++ " 不能为空")) else .ok next

/-- The fields of `data` in `updateUser`. -/
structure UserChange where
  email : Option String := none
  name : Option String := none
  passwordHash : Option String := none
  bumpAuthzVersion : Bool := false
  deriving Repr, DecidableEq

def UserChange.isEmpty (data : UserChange) : Bool :=
  data.email.isNone && data.name.isNone && data.passwordHash.isNone

def UserChange.apply (data : UserChange) (user : User) : User :=
  { user with
    email := data.email.getD user.email
    name := data.name.or user.name
    passwordHash := data.passwordHash.or user.passwordHash
    authzVersion := if data.bumpAuthzVersion then user.authzVersion + 1 else user.authzVersion }

/-- The unique index on `email` refuses an address that another row has. -/
def updateProfile (id : String) (data : UserChange) : Statement User := fun s =>
  if (s.users.lookup id).isSome ∧
      (s.users.first? fun k user => k != id && some user.email == data.email).isSome then
    .error (.database "P2002")
  else updateRow id data.apply s

def usernameChange (id : String) : Option String → Handler UserChange
  | none => return {}
  | some value => do
      let username ← Async.ofExcept (requiredTrim value "username")
      let existing ← Async.query fun s =>
        s.users.first? fun k user => user.email == username && k != id
      Async.ensure existing.isNone (.badRequest "username 已存在")
      return { email := some username, name := some username }

def nameChange (data : UserChange) : Option String → Handler UserChange
  | none => return data
  | some value => do
      let name ← Async.ofExcept (requiredTrim value "name")
      return { data with name := some name }

def passwordChange (crypto : Crypto) (salt : String) (data : UserChange) :
    Option String → Handler UserChange
  | none => return data
  | some password => do
      Async.ensure (password ≠ "") (.badRequest "password 不能为空")
      return { data with passwordHash := some (crypto.hashPassword salt password) }

def updateUser (crypto : Crypto) (config : Config) (actor : Option Actor) (id : String)
    (body : UpdateUserRequest) (salt : String) : Handler UserListItem := do
  Async.ofExcept (assertAdministrationPermission (actor.bind (·.role)))
  assertSuperadministrator config actor id
  Async.ensure body.role.isNone (.badRequest "账号资料编辑不支持角色变更")
  mustFindUser id
  let data ← usernameChange id body.username
  let data ← nameChange data body.name
  let data ← passwordChange crypto salt data body.password
  Async.ensure (data.isEmpty = false) (.badRequest "更新内容不能为空")
  let row ← Async.attempt (updateProfile id
    { data with bumpAuthzVersion := body.password.isSome || body.username.isSome })
  return toUserItem id row

def deleteUser (config : Config) (actor : Option Actor) (id : String) :
    Handler DeleteUserResponse := do
  Async.ofExcept (assertAdministrationPermission (actor.bind (·.role)))
  assertSuperadministrator config actor id
  mustFindUser id
  assertNotLastAdministrator config id "user"
  Async.attempt (deleteRow id)
  return { id := id, deleted := true, state := "deleted" }

def setState (config : Config) (actor : Option Actor) (id : String) (isActive : Bool) :
    Handler UserListItem := do
  Async.ofExcept (assertAdministrationPermission (actor.bind (·.role)))
  assertSuperadministrator config actor id
  mustFindUser id
  if !isActive then
    assertNotLastAdministrator config id "disabled"
  let row ← Async.attempt (updateRow id fun user =>
    { user with isActive := isActive, authzVersion := user.authzVersion + 1 })
  return toUserItem id row

end KubeNova.Users
