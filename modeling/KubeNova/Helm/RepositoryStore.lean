import KubeNova.Foundation.JsValue
import KubeNova.Foundation.Machine

/-!
# The store of Helm repositories

`HelmRepositoryStore`: one JSON file, read and written as a whole.  Each instance has a lock that
lets its own operations run one after the other; nothing keeps the instances of a process apart.

`expected` records what the operations so far ought to have left, and is read by none of them.
-/

namespace KubeNova.Helm

open KubeNova.Foundation

inductive HelmRepositoryAuthType where
  | none
  | basic
  deriving Repr, DecidableEq

inductive HelmRepositoryKind where
  | http
  | oci
  deriving Repr, DecidableEq

inductive HelmRepositorySource where
  | manual
  | hostCli
  | preset
  | platform
  deriving Repr, DecidableEq

inductive HelmRepositorySyncStatus where
  | saved
  | validated
  | syncing
  | synced
  | failed
  | ready
  deriving Repr, DecidableEq

structure HelmRepositoryRecord where
  clusterId : String
  name : String
  url : String
  repositoryKind : Option HelmRepositoryKind
  source : Option HelmRepositorySource
  authType : HelmRepositoryAuthType
  username : Option String
  password : Option String
  caFile : Option String
  caData : Option String
  insecureSkipTlsVerify : Option Bool
  syncStatus : HelmRepositorySyncStatus
  lastSyncAt : Option String
  message : Option String
  createdAt : String
  updatedAt : String

def HelmRepositoryAuthType.text : HelmRepositoryAuthType → String
  | .none => "none"
  | .basic => "basic"

def HelmRepositoryKind.text : HelmRepositoryKind → String
  | .http => "http"
  | .oci => "oci"

def HelmRepositorySource.text : HelmRepositorySource → String
  | .manual => "manual"
  | .hostCli => "host-cli"
  | .preset => "preset"
  | .platform => "platform"

def HelmRepositorySyncStatus.text : HelmRepositorySyncStatus → String
  | .saved => "saved"
  | .validated => "validated"
  | .syncing => "syncing"
  | .synced => "synced"
  | .failed => "failed"
  | .ready => "ready"

def repositoryKinds : List String := ["http", "oci"]

def repositorySources : List String := ["manual", "host-cli", "preset", "platform"]

def syncStatuses : List String := ["saved", "validated", "syncing", "synced", "failed", "ready"]

def optionalText (value : Option String) : Js := value.elim .undefined .string

def HelmRepositoryRecord.toJs (record : HelmRepositoryRecord) : Js := .object
  [("clusterId", .string record.clusterId), ("name", .string record.name),
    ("url", .string record.url),
    ("repositoryKind", optionalText (record.repositoryKind.map (·.text))),
    ("source", optionalText (record.source.map (·.text))),
    ("authType", .string record.authType.text), ("username", optionalText record.username),
    ("password", optionalText record.password), ("caFile", optionalText record.caFile),
    ("caData", optionalText record.caData),
    ("insecureSkipTlsVerify", record.insecureSkipTlsVerify.elim .undefined .bool),
    ("syncStatus", .string record.syncStatus.text), ("lastSyncAt", optionalText record.lastSyncAt),
    ("message", optionalText record.message), ("createdAt", .string record.createdAt),
    ("updatedAt", .string record.updatedAt)]

def isText (value : Js) : Bool := value.text?.isSome

/-- `undefined`, or one of the texts. -/
def isUndefinedOr (texts : List String) (value : Js) : Bool :=
  value.isUndefined || value.text?.any texts.contains

def isRepositoryRecord (value : Js) : Bool :=
  value.isComposite && isText (value.field "clusterId") && isText (value.field "name") &&
    isText (value.field "url") && isText (value.field "authType") &&
    isUndefinedOr repositoryKinds (value.field "repositoryKind") &&
    isUndefinedOr repositorySources (value.field "source") &&
    (value.field "syncStatus").text?.any syncStatuses.contains &&
    isText (value.field "createdAt") && isText (value.field "updatedAt")

theorem field_toJs (record : HelmRepositoryRecord) (name : String) :
    record.toJs.field name = (match record.toJs with
      | .object fields => (fields.lookup name).getD .undefined
      | _ => .undefined) :=
  Js.field_object (by simp [List.nodup_cons]) name

/-- What `JSON.parse` makes of the file, if anything. -/
inductive StoreFile where
  | missing
  | garbled
  | json (value : Js)

/-- The elements of the array `repositories`. -/
def StoreFile.entries : StoreFile → List Js
  | .json value =>
      match value.field "repositories" with
      | .array elements => elements
      | _ => []
  | _ => []

/-- The file that `writePayload` leaves. -/
def StoreFile.of (repositories : List Js) : StoreFile :=
  .json (.object [("repositories", .array repositories)])

/-- `readPayload`; `found` says whether `readFile` gave the content. -/
def readPayload (found : Bool) (file : StoreFile) : List Js :=
  if found then file.entries.filter isRepositoryRecord else []

abbrev RepositoryKey := String × String

def keyOf (entry : Js) : Option RepositoryKey :=
  match (entry.field "clusterId").text?, (entry.field "name").text? with
  | some clusterId, some name => some (clusterId, name)
  | _, _ => none

/-! ## Operations -/

inductive StoreOperation where
  | save (record : HelmRepositoryRecord)
  | delete (clusterId name : String)

namespace StoreOperation

def key : StoreOperation → RepositoryKey
  | .save record => (record.clusterId, record.name)
  | .delete clusterId name => (clusterId, name)

def matchesKey (key : RepositoryKey) (entry : Js) : Bool := keyOf entry == some key

def upsert (key : RepositoryKey) (record : Js) : List Js → List Js
  | [] => [record]
  | entry :: rest =>
      if matchesKey key entry then record :: rest else entry :: upsert key record rest

/-- What the operation writes, unless there is nothing to write. -/
def payload (op : StoreOperation) (repositories : List Js) : Option (List Js) :=
  match op with
  | .save record => some (upsert op.key record.toJs repositories)
  | .delete _ _ =>
      if repositories.any (matchesKey op.key) then
        some (repositories.filter fun entry => !matchesKey op.key entry)
      else none

def left : StoreOperation → List Js
  | .save record => [record.toJs]
  | .delete _ _ => []

end StoreOperation

/-- How far the body of an operation has come: it waits for the lock or for `readFile`, it has what
it will write, or `writeFile` has truncated the file; `torn` if another instance writes meanwhile. -/
inductive Stage where
  | waiting
  | loaded (payload : List Js)
  | writing (payload : List Js) (torn : Bool)

structure StoreJob where
  op : StoreOperation
  stage : Stage

def StoreJob.isWriting (job : StoreJob) : Bool :=
  match job.stage with
  | .writing _ _ => true
  | _ => false

def StoreJob.tear (job : StoreJob) : StoreJob :=
  match job.stage with
  | .writing payload _ => { job with stage := .writing payload true }
  | _ => job

/-- The operations of each instance in the order of their calls: the first one holds the lock. -/
structure HelmStores where
  file : StoreFile
  stores : List (List StoreJob)
  expected : List Js

def HelmStores.setStore (i : Nat) (jobs : List StoreJob) (s : HelmStores) : HelmStores :=
  { s with stores := s.stores.set i jobs }

def HelmStores.isWriting (s : HelmStores) : Bool := s.stores.flatten.any (·.isWriting)

def others (key : RepositoryKey) (entries : List Js) : List Js :=
  entries.filter fun entry => !StoreOperation.matchesKey key entry

inductive StoreAction where
  /-- `new HelmRepositoryStore()`. -/
  | created
  | called (i : Nat) (op : StoreOperation)
  /-- `readFile` gives the content, or fails. -/
  | read (i : Nat) (found : Bool)
  /-- `mkdir` and the opening of the file, which truncates it. -/
  | opened (i : Nat) (succeeded : Bool)
  /-- The rest of `writeFile`; `remains` is the file where writes have overlapped. -/
  | wrote (i : Nat) (succeeded : Bool) (remains : StoreFile)
  /-- The process ends, and another one begins. -/
  | crashed

namespace HelmStores

/-- The operation of the instance ends and gives the lock to the next one. -/
def release (i : Nat) (rest : List StoreJob) (s : HelmStores) : HelmStores := s.setStore i rest

def read (i : Nat) (found : Bool) (op : StoreOperation) (rest : List StoreJob) (s : HelmStores) :
    HelmStores :=
  match op.payload (readPayload found s.file) with
  | some payload => s.setStore i (⟨op, .loaded payload⟩ :: rest)
  | none => s.release i rest

def opened (i : Nat) (op : StoreOperation) (payload : List Js) (rest : List StoreJob)
    (s : HelmStores) : HelmStores :=
  { s with
    file := .garbled
    stores := (s.stores.map fun jobs => jobs.map StoreJob.tear).set i
      (⟨op, .writing payload s.isWriting⟩ :: rest) }

def wrote (i : Nat) (op : StoreOperation) (payload : List Js) (torn : Bool) (remains : StoreFile)
    (rest : List StoreJob) (s : HelmStores) : HelmStores :=
  { s.release i rest with
    file := if torn then remains else .of payload
    expected := others op.key s.expected ++ op.left }

/-- The write fails: of its own key the operation promises nothing any more. -/
def failed (i : Nat) (op : StoreOperation) (torn : Bool) (remains : StoreFile)
    (rest : List StoreJob) (s : HelmStores) : HelmStores :=
  { s.release i rest with
    file := if torn then remains else .garbled
    expected := others op.key s.expected }

def cutOff (s : HelmStores) : List RepositoryKey :=
  (s.stores.flatten.filter (·.isWriting)).map (·.op.key)

def crashed (s : HelmStores) : HelmStores :=
  { s with
    stores := []
    expected := s.cutOff.foldl (fun entries key => others key entries) s.expected }

end HelmStores

def helmStores : Machine StoreAction HelmStores where
  step a s := match a with
    | .created => some { s with stores := s.stores ++ [[]] }
    | .called i op => (s.stores[i]?).map fun jobs => s.setStore i (jobs ++ [⟨op, .waiting⟩])
    | .read i found =>
        match s.stores[i]? with
        | some (⟨op, .waiting⟩ :: rest) => some (s.read i found op rest)
        | _ => none
    | .opened i succeeded =>
        match s.stores[i]? with
        | some (⟨op, .loaded payload⟩ :: rest) =>
            some (if succeeded then s.opened i op payload rest else s.release i rest)
        | _ => none
    | .wrote i succeeded remains =>
        match s.stores[i]? with
        | some (⟨op, .writing payload torn⟩ :: rest) =>
            some (if succeeded then s.wrote i op payload torn remains rest
              else s.failed i op torn remains rest)
        | _ => none
    | .crashed => some s.crashed

/-- Nothing has been called yet; what the file holds is expected to stay. -/
def HelmStores.initial (file : StoreFile) : HelmStores :=
  ⟨file, [], file.entries.filter fun entry => (keyOf entry).isSome⟩

end KubeNova.Helm
