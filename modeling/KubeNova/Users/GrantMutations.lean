import KubeNova.Access.Authorization
import KubeNova.Common.Date
import KubeNova.Common.Url
import KubeNova.Foundation.Transaction
import KubeNova.Users.UsersService

/-!
# Grants, groups and identities

The mutations of `UsersService` over the tables they share: grants, groups and their members,
external identities and accounts.  A transaction reads what is committed when each of its
statements runs; the one of `setGroupMembership` is serializable and so a single statement.

A handler answers with what it was that it accepted.
-/

namespace KubeNova.Users

open KubeNova.Common KubeNova.Foundation KubeNova.Auth KubeNova.Access

structure ExternalIdentity where
  issuer : String
  subject : String
  userId : String
  deriving Repr, DecidableEq

structure IdentityGroup where
  externalId : Option String
  name : String
  active : Bool
  deriving Repr, DecidableEq

structure Membership where
  state : String
  validFrom : Nat
  expiresAt : Option Nat
  deriving Repr, DecidableEq

structure AccessGrant where
  grant : Grant
  version : Int
  createdByUserId : String
  updatedByUserId : String

structure GrantChange where
  actorUserId : String
  affectedUserId : Option String
  grantId : Option String
  version : Int
  reason : String
  deriving Repr, DecidableEq

/-- `userIds` are the ids given to users so far: none is given twice. -/
structure Registry where
  now : Nat
  users : Table String User
  userIds : List String
  identities : Table String ExternalIdentity
  groups : Table String IdentityGroup
  memberships : Table (String × String) Membership
  grants : Table String AccessGrant
  clusters : String → Option ClusterRow
  changes : List GrantChange

namespace Registry

def storedMembership (key : String × String) (row : Membership) : Option GroupMembership :=
  if h : key.1 ≠ "" then some ⟨key.1, key.2, row.state, row.validFrom, row.expiresAt, h⟩ else none

def directory (s : Registry) : Directory where
  users := s.users.entries.map fun r => ⟨r.1, r.2.isActive, r.2.role, r.2.authzVersion.toNat⟩
  groupActive groupId := (s.groups.lookup groupId).any (·.active)
  memberships := s.memberships.entries.filterMap fun r => storedMembership r.1 r.2
  clusters := s.clusters
  grants := s.grants.entries.map fun r => { r.2.grant with id := r.1 }

/-- `authzVersion: { increment: 1 }`. -/
def incrementVersions (ids : List String) (s : Registry) : Registry :=
  { s with users := s.users.updateWhere (fun id _ => ids.contains id) fun user =>
      { user with authzVersion := user.authzVersion + 1 } }

/-- The accounts, for the handlers that read and write nothing else. -/
def accounts (s : Registry) : State := { emptyState with now := s.now, users := s.users }

def setAccounts (accounts : State) (s : Registry) : Registry := { s with users := accounts.users }

end Registry

inductive Accepted where
  | identityBound (identityId : String)
  | identityUnbound
  | memberSet (groupId userId : String) (active : Bool)
  /-- The user to be removed is no active member. -/
  | noMember (groupId userId : String)
  | groupCreated (groupId : String)
  | grantCreated (grantId : String)
  /-- `userIds` are those whose version the transaction increments. -/
  | grantRevoked (grantId : String) (userIds : List String)
  | alreadyRevoked (grantId : String)
  | userCreated (id : String)
  | userUpdated (item : UserListItem)
  | userDeleted (response : DeleteUserResponse)
  deriving Repr, DecidableEq

abbrev RegistryHandler := Async Exception Registry Accepted

/-! ## Transactions -/

inductive RegistryWrite where
  /-- `updateMany` by id, which fails with the error when it finds no row. -/
  | lockUser (id : String) (activeOnly : Bool) (missing : Exception)
  | incrementVersions (ids : List String)
  | createIdentity (id : String) (row : ExternalIdentity)
  | deleteIdentity (id userId : String)
  | createGroup (id : String) (row : IdentityGroup)
  | createGrant (id : String) (row : AccessGrant)
  | revokeGrant (id : String) (version : Int) (actorId : String) (revokedAt : Nat)
  | appendChange (change : GrantChange)

namespace RegistryWrite

def refersToRows (row : AccessGrant) (s : Registry) : Bool :=
  row.grant.userId.all (fun id => (s.users.lookup id).isSome) &&
    row.grant.groupId.all (fun id => (s.groups.lookup id).isSome) &&
    (s.users.lookup row.createdByUserId).isSome && (s.users.lookup row.updatedByUserId).isSome

def isBound (row : ExternalIdentity) (s : Registry) : Bool :=
  (s.identities.first? fun _ other =>
    other.issuer == row.issuer && other.subject == row.subject).isSome

def revoked (actorId : String) (revokedAt : Nat) (row : AccessGrant) : AccessGrant :=
  let grant := { row.grant with state := "revoked", revokedAt := some revokedAt }
  { row with grant := grant, updatedByUserId := actorId, version := row.version + 1 }

def apply : RegistryWrite → Registry → Except Exception Registry
  | lockUser id activeOnly missing, s => match s.users.lookup id with
      | some user =>
          if activeOnly ∧ user.isActive = false then .error missing
          else .ok (s.incrementVersions [id])
      | none => .error missing
  | incrementVersions ids, s => .ok (s.incrementVersions ids)
  | createIdentity id row, s =>
      if isBound row s then .error (.database "P2002")
      else if id ∈ s.identities ∨ (s.users.lookup row.userId).isNone then
        .error (.database "P2003")
      else .ok { s with identities := s.identities.insert id row }
  | deleteIdentity id userId, s =>
      if (s.identities.lookup id).any (·.userId == userId) then
        .ok { s with identities := s.identities.erase id }
      else .error (.notFound "Identity not found")
  | createGroup id row, s =>
      if id ∈ s.groups then .error (.database "P2002")
      else .ok { s with groups := s.groups.insert id row }
  | createGrant id row, s =>
      if id ∈ s.grants ∨ refersToRows row s = false then .error (.database "P2003")
      else .ok { s with grants := s.grants.insert id row }
  | revokeGrant id version actorId revokedAt, s => match s.grants.lookup id with
      | some row =>
          if row.version ≠ version ∨ row.grant.revokedAt.isSome then
            .error (.conflict "Access grant changed; reload and retry")
          else if (s.users.lookup actorId).isNone then .error (.database "P2003")
          else .ok { s with grants := s.grants.insert id (revoked actorId revokedAt row) }
      | none => .error (.conflict "Access grant changed; reload and retry")
  | appendChange change, s => .ok { s with changes := s.changes ++ [change] }

end RegistryWrite

abbrev RegistryTx (α : Type) := Tx Exception Registry RegistryWrite α

namespace RegistryTx

def read {α : Type} (q : Registry → α) : RegistryTx α := Tx.read RegistryWrite.apply q

def write (w : RegistryWrite) : RegistryTx Unit := Tx.write RegistryWrite.apply w

def commit (body : RegistryTx Accepted) : RegistryHandler := Tx.commit RegistryWrite.apply body

end RegistryTx

/-- `actor.id`, which has to be there. -/
def requiredActor (actor : Option Actor) (message : String) : Except Exception String :=
  match actor.bind (·.id) with
  | some id => if id = "" then .error (.badRequest message) else .ok id
  | none => .error (.badRequest message)

def assertAdministrator (actor : Option Actor) : Async Exception Registry Unit :=
  .ofExcept (assertAdministrationPermission (actor.bind (·.role)))

def onAccounts {α : Type} (h : Handler α) : Async Exception Registry α :=
  h.zoom Registry.accounts Registry.setAccounts

structure IdentityInput where
  issuer : Option String
  subject : Option String
  deriving Repr, DecidableEq

def isIdentityInput (userId issuer subject : String) : Bool :=
  userId ≠ "" && Text.trim subject ≠ "" && Text.length subject ≤ 255 &&
    Text.length issuer ≤ 2048 && subject = Text.trim subject && issuer = Text.trim issuer

def identityRow (parseUrl : UrlParser) (userId : String) (input : IdentityInput) :
    Except Exception ExternalIdentity :=
  match input.issuer, input.subject with
  | some issuer, some subject =>
      if isIdentityInput userId issuer subject then do
        let endpoint ← validatedEndpoint parseUrl issuer
        if endpoint.search ≠ "" then
          throw (.badRequest "Issuer must not contain query parameters")
        else return ⟨issuer, subject, userId⟩
      else .error (.badRequest "Valid issuer and subject required")
  | _, _ => .error (.badRequest "Valid issuer and subject required")

def readVersion (userId : String) : RegistryTx Int :=
  RegistryTx.read fun s => ((s.users.lookup userId).map (·.authzVersion)).getD 0

def bindBody (actorId identityId : String) (row : ExternalIdentity) : RegistryTx Accepted := do
  -- Lock the account so disable and binding cannot race past each other.
  RegistryTx.write (.lockUser row.userId true (.badRequest "User unavailable"))
  RegistryTx.write (.createIdentity identityId row)
  let version ← readVersion row.userId
  RegistryTx.write (.appendChange
    ⟨actorId, some row.userId, none, version, "identity-bound:" ++ identityId⟩)
  return .identityBound identityId

def rethrowBound (error : Exception) : RegistryHandler :=
  .fail (if error = .database "P2002" then .conflict "External identity already bound" else error)

def bindExternalIdentity (parseUrl : UrlParser) (config : Config) (actor : Option Actor)
    (userId : String) (input : IdentityInput) (identityId : String) : RegistryHandler := do
  assertAdministrator actor
  onAccounts (assertSuperadministrator config actor userId)
  let actorId ← Async.ofExcept (requiredActor actor "Valid issuer and subject required")
  let row ← Async.ofExcept (identityRow parseUrl userId input)
  Async.tryCatch (RegistryTx.commit (bindBody actorId identityId row)) rethrowBound

def unbindBody (actorId userId identityId : String) : RegistryTx Accepted := do
  RegistryTx.write (.lockUser userId false (.notFound "User not found"))
  RegistryTx.write (.deleteIdentity identityId userId)
  let version ← readVersion userId
  RegistryTx.write (.appendChange
    ⟨actorId, some userId, none, version, "identity-unbound:" ++ identityId⟩)
  return .identityUnbound

def unbindExternalIdentity (config : Config) (actor : Option Actor) (userId identityId : String) :
    RegistryHandler := do
  assertAdministrator actor
  onAccounts (assertSuperadministrator config actor userId)
  let actorId ← Async.ofExcept (requiredActor actor "Identity required")
  Async.ensure (userId ≠ "" ∧ identityId ≠ "") (.badRequest "Identity required")
  RegistryTx.commit (unbindBody actorId userId identityId)

def joinRow (now : Nat) : Membership := ⟨"active", now, none⟩

def memberChange (actorId groupId userId : String) (active : Bool) : GrantChange :=
  ⟨actorId, some userId, none, 1,
    "group-member-" ++ (if active then "added" else "removed") ++ ":" ++ groupId⟩

def isActiveMember (s : Registry) (groupId userId : String) : Bool :=
  (s.memberships.lookup (groupId, userId)).any (·.state == "active")

def setMember (actorId groupId userId : String) (active : Bool) (s : Registry) : Registry :=
  let row := if active then joinRow s.now else
    { (s.memberships.lookup (groupId, userId)).getD (joinRow s.now) with state := "disabled" }
  let t := s.incrementVersions [userId]
  { t with memberships := s.memberships.insert (groupId, userId) row
           changes := s.changes ++ [memberChange actorId groupId userId active] }

/-- The transaction of `setGroupMembership`. -/
def membershipBody (actorId groupId userId : String) (active : Bool) :
    StateT Registry (Except Exception) Accepted := fun s =>
  match s.groups.lookup groupId, s.users.lookup userId with
  | none, _ => .error (.notFound "Group not found")
  | some group, user =>
      if group.externalId.any (· ≠ "") then
        .error (.forbidden "Membership is managed by the identity provider")
      else if active ∧ group.active = false then .error (.badRequest "Group disabled")
      else if user.isNone ∨ active ∧ user.any (·.isActive) = false then
        .error (.badRequest "User unavailable")
      else if active = false ∧ isActiveMember s groupId userId = false then
        .ok (.noMember groupId userId, s)
      else .ok (.memberSet groupId userId active, setMember actorId groupId userId active s)

def serializable (abort : Option String) (body : StateT Registry (Except Exception) Accepted) :
    StateT Registry (Except Exception) Accepted := fun s =>
  match abort with
  | some code => .error (.database code)
  | none => body s

def setGroupMembership (actor : Option Actor) (groupId userId : String) (active : Bool)
    (abort : Option String) : RegistryHandler := do
  assertAdministrator actor
  let actorId ← Async.ofExcept (requiredActor actor "Identity required")
  Async.ensure (Text.trim groupId ≠ "" ∧ Text.trim userId ≠ "") (.badRequest "Identity required")
  Async.attempt (serializable abort (membershipBody actorId groupId userId active))

def groupName (name : Option String) : Except Exception String :=
  match name with
  | some name =>
      if Text.trim name = "" ∨ 128 < Text.length (Text.trim name) then
        .error (.badRequest "Group name must contain 1-128 characters")
      else .ok (Text.trim name)
  | none => .error (.badRequest "Group name must contain 1-128 characters")

def createGroupBody (actorId groupId name : String) : RegistryTx Accepted := do
  RegistryTx.write (.createGroup groupId ⟨none, name, true⟩)
  RegistryTx.write (.appendChange ⟨actorId, none, none, 1, "group-created:" ++ groupId⟩)
  return .groupCreated groupId

def createIdentityGroup (actor : Option Actor) (name : Option String) (groupId : String) :
    RegistryHandler := do
  assertAdministrator actor
  let actorId ← Async.ofExcept (requiredActor actor "Actor identity required")
  let name ← Async.ofExcept (groupName name)
  RegistryTx.commit (createGroupBody actorId groupId name)

/-! ## Grants -/

inductive Principal where
  | user (id : String)
  | group (id : String) (ne_empty : id ≠ "")

def Principal.userId : Principal → Option String
  | user id => some id
  | group _ _ => none

def Principal.groupId : Principal → Option String
  | user _ => none
  | group id _ => some id

structure GrantInput where
  userId : Option String
  groupId : Option String
  clusterId : Option String
  role : Option String
  namespaces : Option (List String)
  capabilities : Option (List String)
  validFrom : Option String
  expiresAt : Option String
  deriving Repr, DecidableEq

structure GrantRequest where
  principal : Principal
  clusterId : String
  role : String
  namespaces : List String
  capabilities : List String
  validFrom : Int
  expiresAt : Option Int

def inputText (value : Option String) : String := (value.map Text.trim).getD ""

def principalOf (userId groupId : String) : Option Principal :=
  if userId ≠ "" then if groupId ≠ "" then none else some (.user userId)
  else if h : groupId ≠ "" then some (.group groupId h) else none

def grantNamespaces (namespaces : Option (List String)) : Except Exception (List String) :=
  match namespaces with
  | some names =>
      if names.length = 0 ∨ 100 < names.length ∨ names.any (fun name => Text.trim name = "") then
        .error (.badRequest "Explicit namespace scope required")
      else .ok (names.map Text.trim).eraseDups
  | none => .error (.badRequest "Explicit namespace scope required")

def grantCapabilities (capabilities : Option (List String)) : Except Exception (List String) :=
  match capabilities with
  | some names =>
      if names.all ["logs", "exec", "secrets", "kubeconfig", "ai-assistant:use"].contains then
        .ok names.eraseDups
      else .error (.badRequest "Invalid capabilities")
  | none => .error (.badRequest "Invalid capabilities")

def grantInterval (now : Nat) (validFrom expiresAt : Option String) :
    Except Exception (Int × Option Int) :=
  match validFrom.elim (some (now : Int)) fun value => parseDate (Text.trim value), expiresAt with
  | some start, none => .ok (start, none)
  | some start, some value => match parseDate (Text.trim value) with
      | some stop =>
          if stop ≤ start ∨ stop ≤ now then .error (.badRequest "Invalid validity interval")
          else .ok (start, some stop)
      | none => .error (.badRequest "Invalid validity interval")
  | none, _ => .error (.badRequest "Invalid validity interval")

def grantRequest (now : Nat) (input : GrantInput) : Except Exception GrantRequest :=
  match principalOf (inputText input.userId) (inputText input.groupId) with
  | some principal =>
      if inputText input.clusterId = "" ∨ inputText input.role ∉ roles then
        .error (.badRequest "Invalid principal, cluster or role")
      else do
        let namespaces ← grantNamespaces input.namespaces
        let capabilities ← grantCapabilities input.capabilities
        let interval ← grantInterval now input.validFrom input.expiresAt
        return ⟨principal, inputText input.clusterId, inputText input.role, namespaces,
          capabilities, interval.1, interval.2⟩
  | none => .error (.badRequest "Invalid principal, cluster or role")

def newGrant (actorId : String) (request : GrantRequest) (scopes : List NamespaceScope) :
    AccessGrant where
  grant :=
    { id := ""
      userId := request.principal.userId
      groupId := request.principal.groupId
      clusterId := request.clusterId
      role := request.role
      state := "active"
      validFrom := request.validFrom.toNat
      expiresAt := request.expiresAt.map Int.toNat
      revokedAt := none
      namespaces := scopes
      capabilities := request.capabilities
      exactlyOnePrincipal := by
        cases request.principal <;> simp [Principal.userId, Principal.groupId]
      groupId_ne_empty := by
        cases h : request.principal <;> simp_all [Principal.groupId] }
  version := 1
  createdByUserId := actorId
  updatedByUserId := actorId

/-- The users of `groupMembership.findMany({ where: { groupId } })`. -/
def memberIds (groupId : String) (s : Registry) : List String :=
  s.memberships.select (fun key _ => key.1 == groupId) fun key _ => key.2

/-- The users whose version a change of the grant increments. -/
def affectedUsers (grant : Grant) : RegistryTx (List String) :=
  match grant.userId, grant.groupId with
  | some userId, _ => pure [userId]
  | none, some groupId => RegistryTx.read (memberIds groupId)
  | none, none => pure []

def assertPrincipal (principal : Principal) : RegistryTx Unit :=
  match principal with
  | .user id => do
      let user ← RegistryTx.read fun s => s.users.lookup id
      Tx.ensure (user.any (·.isActive)) (.badRequest "User unavailable")
  | .group id _ => do
      let group ← RegistryTx.read fun s => s.groups.lookup id
      Tx.ensure (group.any (·.active)) (.badRequest "Group unavailable")

def createGrantBody (actorId grantId : String) (request : GrantRequest)
    (scopes : List NamespaceScope) : RegistryTx Accepted := do
  let cluster ← RegistryTx.read fun s => s.clusters request.clusterId
  Tx.ensure (cluster.any (·.deletedAt.isNone)) (.badRequest "Cluster unavailable")
  assertPrincipal request.principal
  RegistryTx.write (.createGrant grantId (newGrant actorId request scopes))
  let userIds ← affectedUsers (newGrant actorId request scopes).grant
  RegistryTx.write (.incrementVersions userIds)
  RegistryTx.write (.appendChange
    ⟨actorId, request.principal.userId, some grantId, 1, "grant-created"⟩)
  return .grantCreated grantId

def createAccessGrant (readNamespace : String → String → Option String) (actor : Option Actor)
    (input : GrantInput) (grantId : String) : RegistryHandler := do
  assertAdministrator actor
  let actorId ← Async.ofExcept (requiredActor actor "Actor identity required")
  let now ← Async.query (·.now)
  let request ← Async.ofExcept (grantRequest now input)
  let scopes ← Async.ofExcept (recordScopes readNamespace request.clusterId request.namespaces)
  RegistryTx.commit (createGrantBody actorId grantId request scopes)

def revokeRow (actorId grantId : String) (row : AccessGrant) : RegistryTx Accepted := do
  let revokedAt ← RegistryTx.read (·.now)
  RegistryTx.write (.revokeGrant grantId row.version actorId revokedAt)
  let userIds ← affectedUsers row.grant
  RegistryTx.write (.incrementVersions userIds)
  RegistryTx.write (.appendChange
    ⟨actorId, row.grant.userId, some grantId, row.version + 1, "grant-revoked"⟩)
  return .grantRevoked grantId userIds

def revokeBody (actorId grantId : String) : RegistryTx Accepted := do
  let grant ← RegistryTx.read fun s => s.grants.lookup grantId
  match grant with
  | none => Tx.ofExcept (.error (.notFound "Access grant not found"))
  | some row =>
      if row.grant.revokedAt.isSome then return .alreadyRevoked grantId
      else revokeRow actorId grantId row

def revokeAccessGrant (actor : Option Actor) (grantId : String) : RegistryHandler := do
  assertAdministrator actor
  let actorId ← Async.ofExcept (requiredActor actor "Actor identity required")
  RegistryTx.commit (revokeBody actorId grantId)

structure CreateUserRequest where
  username : Option String
  password : Option String
  role : Option String
  deriving Repr, DecidableEq

def newUser (crypto : Crypto) (salt username password : String) : User where
  email := username
  name := some username
  passwordHash := some (crypto.hashPassword salt password)
  role := "user"
  isActive := true
  authzVersion := 1
  mfaEnabled := false

def insertUser (id : String) (user : User) : StateT Registry (Except Exception) Accepted := fun s =>
  if id ∈ s.userIds ∨ (s.users.first? fun _ other => other.email == user.email).isSome then
    .error (.database "P2002")
  else .ok (.userCreated id,
    { s with users := s.users.insert id user, userIds := id :: s.userIds })

def requiredField (message : String) (value : Option String) : Except Exception String :=
  match value with
  | some text => if text = "" then .error (.badRequest message) else .ok text
  | none => .error (.badRequest message)

def createUser (crypto : Crypto) (actor : Option Actor) (body : CreateUserRequest)
    (id salt : String) : RegistryHandler := do
  assertAdministrator actor
  Async.ensure (body.role.all (· = "user")) (.badRequest "创建账号时不能分配管理角色")
  let username ← Async.ofExcept (requiredField "username 不能为空" (body.username.map Text.trim))
  let password ← Async.ofExcept (requiredField "password 不能为空" body.password)
  let existing ← Async.query fun s => s.users.first? fun _ user => user.email == username
  Async.ensure existing.isNone (.badRequest "username 已存在")
  Async.attempt (insertUser id (newUser crypto salt username password))

def isGrantOf (id : String) (s : Registry) (grantId : String) : Bool :=
  (s.grants.lookup grantId).any fun row => row.grant.userId == some id

def forgetUser (id : String) (s : Registry) (change : GrantChange) : GrantChange :=
  { change with
    affectedUserId := change.affectedUserId.filter (· != id)
    grantId := change.grantId.filter fun grantId => !isGrantOf id s grantId }

/-- The deletion takes the rows that belong to the user along; it is refused while a grant names
the user as the one who made or last changed it. -/
def deleteUserRow (id : String) : StateT Registry (Except Exception) Accepted := fun s =>
  if (s.users.lookup id).isNone then .error (.database "P2025")
  else if (s.grants.first? fun _ row =>
      row.createdByUserId == id || row.updatedByUserId == id).isSome then
    .error (.database "P2003")
  else .ok (.userDeleted ⟨id, true, "deleted"⟩, { s with
    users := s.users.erase id
    identities := s.identities.deleteWhere fun _ row => row.userId == id
    memberships := s.memberships.deleteWhere fun key _ => key.2 == id
    grants := s.grants.deleteWhere fun _ row => row.grant.userId == some id
    changes := s.changes.map (forgetUser id s) })

/-- `deleteUser`, over all the tables. -/
def removeUser (config : Config) (actor : Option Actor) (id : String) : RegistryHandler := do
  assertAdministrator actor
  onAccounts (assertSuperadministrator config actor id)
  onAccounts (mustFindUser id)
  onAccounts (assertNotLastAdministrator config id "user")
  Async.attempt (deleteUserRow id)

inductive Mutation where
  | bindExternalIdentity (userId : String) (input : IdentityInput) (identityId : String)
  | unbindExternalIdentity (userId identityId : String)
  | setGroupMembership (groupId userId : String) (active : Bool) (abort : Option String)
  | createIdentityGroup (name : Option String) (groupId : String)
  | createAccessGrant (input : GrantInput) (grantId : String)
  | revokeAccessGrant (grantId : String)
  | createUser (body : CreateUserRequest) (id salt : String)
  | updateUser (id : String) (body : UpdateUserRequest) (salt : String)
  | setState (id : String) (isActive : Bool)
  | deleteUser (id : String)

/-- What the service is built with, and how the cluster answers. -/
structure RegistryContext where
  crypto : Crypto
  config : Config
  parseUrl : UrlParser
  readNamespace : String → String → Option String

def serveMutation (context : RegistryContext) (actor : Option Actor) : Mutation → RegistryHandler
  | .bindExternalIdentity userId input identityId =>
      bindExternalIdentity context.parseUrl context.config actor userId input identityId
  | .unbindExternalIdentity userId identityId =>
      unbindExternalIdentity context.config actor userId identityId
  | .setGroupMembership groupId userId active abort =>
      setGroupMembership actor groupId userId active abort
  | .createIdentityGroup name groupId => createIdentityGroup actor name groupId
  | .createAccessGrant input grantId => createAccessGrant context.readNamespace actor input grantId
  | .revokeAccessGrant grantId => revokeAccessGrant actor grantId
  | .createUser body id salt => createUser context.crypto actor body id salt
  | .updateUser id body salt =>
      onAccounts (updateUser context.crypto context.config actor id body salt) >>= fun item =>
        .done (.userUpdated item)
  | .setState id isActive =>
      onAccounts (setState context.config actor id isActive) >>= fun item =>
        .done (.userUpdated item)
  | .deleteUser id => removeUser context.config actor id

def isMutation (context : RegistryContext) (h : RegistryHandler) : Prop :=
  ∃ actor request, h = serveMutation context actor request

def registryClock (s t : Registry) : Prop := ∃ now, t = { s with now := now }

end KubeNova.Users
