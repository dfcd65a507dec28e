import KubeNova.Clusters.ClusterSync
import KubeNova.Common.Exceptions
import KubeNova.Foundation.Observed

/-!
# Configurations

`ConfigsService` with its repository: ConfigMaps and Secrets live in a cluster, the database has a
row for each under a unique key and the revisions of it.  The row of a ServiceAccount, which the
cluster sync writes, is in the same table.

Every call to the cluster or to the database may fail.
-/

namespace KubeNova.Configs

open KubeNova.Clusters (ResourceKey)
open KubeNova.Common KubeNova.Foundation

abbrev ConfigData := List (String × String)

/-- What is not changed here is in `rest`. -/
structure ConfigObject where
  data : ConfigData
  labels : ConfigData
  resourceVersion : Nat
  rest : String
  deriving Repr, DecidableEq

structure ConfigRow where
  key : ResourceKey
  state : String
  dataKeys : Option (List String)
  currentRev : Nat
  labels : Option ConfigData
  deriving Repr, DecidableEq

structure ConfigRevision where
  data : Option ConfigData
  changedBy : String
  changeNote : String
  deriving Repr, DecidableEq

/-- `kubeconfigs` are the clusters that have one; `version` is the last resource version given. -/
structure ConfigWorld where
  kubeconfigs : List String
  objects : Table ResourceKey ConfigObject
  version : Nat
  rows : Table String ConfigRow
  revisions : Table (String × Nat) ConfigRevision

abbrev ConfigState := Unreliable Exception ConfigWorld

abbrev ConfigHandler (α : Type) := Async Exception ConfigState α

abbrev ConfigStatement (α : Type) := StateT ConfigWorld (Except Exception) α

inductive ConfigResourceKind where
  | ConfigMap
  | Secret
  deriving Repr, DecidableEq

inductive ConfigResourceState where
  | active
  | disabled
  | deleted
  deriving Repr, DecidableEq

def ConfigResourceKind.text : ConfigResourceKind → String
  | ConfigMap => "ConfigMap"
  | Secret => "Secret"

def ConfigResourceState.text : ConfigResourceState → String
  | active => "active"
  | disabled => "disabled"
  | deleted => "deleted"

def parseKind (value : String) : ConfigResourceKind :=
  if value = "Secret" then .Secret else .ConfigMap

def parseState (value : String) : ConfigResourceState :=
  if value = "disabled" then .disabled else if value = "deleted" then .deleted else .active

structure ConfigResourceRecord where
  id : String
  clusterId : String
  «namespace» : String
  kind : ConfigResourceKind
  name : String
  state : ConfigResourceState
  dataKeys : Option (List String)
  currentRev : Nat
  labels : Option ConfigData
  deriving Repr, DecidableEq

def toRecord (id : String) (row : ConfigRow) : ConfigResourceRecord where
  id := id
  clusterId := row.key.clusterId
  «namespace» := row.key.namespace
  kind := parseKind row.key.kind
  name := row.key.name
  state := parseState row.state
  dataKeys := row.dataKeys
  currentRev := row.currentRev
  labels := row.labels

def ConfigResourceRecord.objectKey (existing : ConfigResourceRecord) : ResourceKey :=
  ⟨existing.clusterId, existing.namespace, existing.kind.text, existing.name⟩

def getKubeconfig (clusterId : String) : ConfigStatement Unit := fun w =>
  if clusterId ∈ w.kubeconfigs then .ok ((), w)
  else .error (.badRequest "目标集群未配置 kubeconfig")

def createNamespaced (key : ResourceKey) (data labels : ConfigData) : ConfigStatement Unit := fun w =>
  if key ∈ w.objects then .error (.error "AlreadyExists")
  else .ok ((), { w with
    objects := w.objects.insert key ⟨data, labels, w.version + 1, ""⟩
    version := w.version + 1 })

def readNamespaced (key : ResourceKey) : ConfigStatement ConfigObject := fun w =>
  match w.objects.lookup key with
  | some object => .ok (object, w)
  | none => .error (.error "NotFound")

def replaceNamespaced (key : ResourceKey) (body : ConfigObject) : ConfigStatement Unit := fun w =>
  match w.objects.lookup key with
  | some object =>
      if object.resourceVersion ≠ body.resourceVersion then .error (.error "Conflict")
      else if object = body then .ok ((), w)
      else .ok ((), { w with
        objects := w.objects.insert key { body with resourceVersion := w.version + 1 }
        version := w.version + 1 })
  | none => .error (.error "NotFound")

def deleteNamespaced (key : ResourceKey) : ConfigStatement Unit := fun w =>
  if key ∈ w.objects then .ok ((), { w with objects := w.objects.erase key })
  else .error (.error "NotFound")

/-! ## The repository -/

namespace ConfigsRepository

def findById (id : String) : ConfigStatement (Option ConfigResourceRecord) := fun w =>
  .ok ((w.rows.lookup id).map (toRecord id), w)

def rowOf? (key : ResourceKey) (w : ConfigWorld) : Option (String × ConfigRow) :=
  w.rows.first? fun _ row => row.key == key

def findByKey (key : ResourceKey) : ConfigStatement (Option ConfigResourceRecord) := fun w =>
  .ok ((rowOf? key w).map fun found => toRecord found.1 found.2, w)

structure ConfigCreateData where
  key : ResourceKey
  state : Option ConfigResourceState
  dataKeys : Option (List String)
  labels : Option ConfigData

def newRow (data : ConfigCreateData) : ConfigRow where
  key := data.key
  state := (data.state.getD .active).text
  dataKeys := data.dataKeys
  currentRev := 1
  labels := data.labels

/-- The row and its first revision, refused where a key is taken, whatever its row's state. -/
def create (id : String) (data : ConfigCreateData) (initialData : Option ConfigData) :
    ConfigStatement ConfigResourceRecord := fun w =>
  if (rowOf? data.key w).isSome ∨ id ∈ w.rows ∨ (id, 1) ∈ w.revisions then .error (.database "P2002")
  else .ok (toRecord id (newRow data), { w with
    rows := w.rows.insert id (newRow data)
    revisions := w.revisions.insert (id, 1) ⟨initialData, "system", "初始版本"⟩ })

/-- `findUniqueOrThrow({ where: { id }, select: { currentRev } })`. -/
def currentRev (id : String) : ConfigStatement Nat := fun w =>
  match w.rows.lookup id with
  | some row => .ok (row.currentRev, w)
  | none => .error (.database "P2025")

structure ConfigUpdateData where
  «namespace» : Option String := none
  dataKeys : Option (List String) := none
  labels : Option ConfigData := none

def ConfigUpdateData.apply (data : ConfigUpdateData) (row : ConfigRow) : ConfigRow :=
  let key := { row.key with «namespace» := data.namespace.getD row.key.namespace }
  { row with key := key, dataKeys := data.dataKeys.or row.dataKeys, labels := data.labels.or row.labels }

def appendRevision (id : String) (nextRev : Nat) (change : ConfigRow → ConfigRow)
    (revision : ConfigRevision) : ConfigStatement ConfigResourceRecord := fun w =>
  match w.rows.lookup id with
  | none => .error (.database "P2025")
  | some row =>
      if (id, nextRev) ∈ w.revisions then .error (.database "P2002")
      else
        let row' := { change row with currentRev := nextRev }
        .ok (toRecord id row', { w with
          rows := w.rows.insert id row'
          revisions := w.revisions.insert (id, nextRev) revision })

def update (id : String) (data : ConfigUpdateData) (changedBy : Option String) :
    ConfigHandler ConfigResourceRecord := do
  let existing ← call (currentRev id)
  call (appendRevision id (existing + 1) data.apply ⟨none, changedBy.getD "system", "更新配置"⟩)

def setState (id : String) (state : ConfigResourceState) :
    ConfigStatement ConfigResourceRecord := fun w =>
  match w.rows.lookup id with
  | none => .error (.database "P2025")
  | some row => .ok (toRecord id { row with state := state.text },
      { w with rows := w.rows.insert id { row with state := state.text } })

def getRevision (id : String) (revision : Nat) : ConfigStatement (Option ConfigRevision) := fun w =>
  .ok (w.revisions.lookup (id, revision), w)

def rollback (id : String) (revision : Nat) (changedBy : Option String) :
    ConfigHandler ConfigResourceRecord := do
  let targetRevision ← call (getRevision id revision)
  let existing ← call (currentRev id)
  call (appendRevision id (existing + 1) (fun row => row) ⟨targetRevision.bind (·.data),
    changedBy.getD "system", "回滚到版本 " ++ toString revision⟩)

end ConfigsRepository

/-! ## The service -/

structure ConfigActor where
  username : Option String
  deriving Repr, DecidableEq

structure ConfigMutationResponse where
  item : ConfigResourceRecord
  message : String
  deriving Repr, DecidableEq

structure CreateConfigResourceRequest where
  clusterId : Option String
  «namespace» : Option String
  kind : String
  name : Option String
  dataKeys : Option (List String)
  data : Option ConfigData
  labels : Option ConfigData
  deriving Repr, DecidableEq

structure UpdateConfigResourceRequest where
  «namespace» : Option String
  dataKeys : Option (List String)
  data : Option ConfigData
  labels : Option ConfigData
  deriving Repr, DecidableEq

structure ConfigActionRequest where
  action : String
  deriving Repr, DecidableEq

/-- `assertScope(actor, target, true)`, which reads the actor's grants. -/
abbrev ScopeCheck := (clusterId «namespace» kind : String) → Except Exception Unit

def trimmed (value : Option String) : String := (value.map Text.trim).getD ""

def named (kind : ConfigResourceKind) (name rest : String) : String :=
  kind.text ++ " " ++ name ++ " " ++ rest

def missing (id : String) : Exception := .notFound ("ConfigResource " ++ id ++ " 不存在")

def createKey (body : CreateConfigResourceRequest) : Except Exception ResourceKey :=
  let key : ResourceKey := ⟨trimmed body.clusterId, trimmed body.namespace, body.kind,
    trimmed body.name⟩
  if key.clusterId = "" ∨ key.namespace = "" ∨ key.name = "" then
    .error (.badRequest "clusterId/namespace/name 是必填字段")
  else if body.kind ≠ "ConfigMap" ∧ body.kind ≠ "Secret" then
    .error (.badRequest "kind 必须为 ConfigMap 或 Secret")
  else .ok key

def createConfigInCluster (key : ResourceKey) (body : CreateConfigResourceRequest) :
    ConfigHandler Unit := do
  call (getKubeconfig key.clusterId)
  call (createNamespaced key (body.data.getD []) (body.labels.getD []))

def create (scope : ScopeCheck) (id : String) (body : CreateConfigResourceRequest) :
    ConfigHandler ConfigMutationResponse := do
  let key ← Async.ofExcept (createKey body)
  Async.ofExcept (scope key.clusterId key.namespace key.kind)
  let existing ← call (ConfigsRepository.findByKey key)
  Async.ensure (existing.all (·.state = .deleted))
    (.badRequest (key.kind ++ " " ++ key.namespace ++ "/" ++ key.name ++ " 已存在"))
  createConfigInCluster key body
  let item ← call (ConfigsRepository.create id ⟨key, some .active, body.dataKeys, body.labels⟩
    body.data)
  return ⟨item, named item.kind item.name "创建成功"⟩

def updateData (existing : ConfigResourceRecord) (body : UpdateConfigResourceRequest) :
    Except Exception ConfigsRepository.ConfigUpdateData :=
  match body.namespace with
  | none => .ok { dataKeys := body.dataKeys, labels := body.labels }
  | some value =>
      if Text.trim value = "" then .error (.badRequest "namespace 不能为空")
      else if Text.trim value ≠ existing.namespace then
        .error (.badRequest "暂不支持跨名称空间直接修改，请新建后迁移")
      else .ok ⟨some (Text.trim value), body.dataKeys, body.labels⟩

def changedObject (body : UpdateConfigResourceRequest) (object : ConfigObject) : ConfigObject :=
  { object with
    labels := body.labels.getD object.labels
    data := body.data.getD object.data }

def updateConfigInCluster (existing : ConfigResourceRecord) (body : UpdateConfigResourceRequest) :
    ConfigHandler Unit := do
  Async.ensure (body.namespace.all fun value => value = "" ∨ value = existing.namespace)
    (.badRequest "暂不支持跨名称空间直接修改，请新建后迁移")
  call (getKubeconfig existing.clusterId)
  let object ← call (readNamespaced existing.objectKey)
  call (replaceNamespaced existing.objectKey (changedObject body object))

def mustFind (id : String) : ConfigHandler ConfigResourceRecord := do
  let existing ← call (ConfigsRepository.findById id)
  Async.ofExcept (existing.elim (.error (missing id)) .ok)

def update (scope : ScopeCheck) (actor : Option ConfigActor) (id : String)
    (body : UpdateConfigResourceRequest) : ConfigHandler ConfigMutationResponse := do
  let existing ← mustFind id
  Async.ensure (existing.state ≠ .deleted) (.badRequest "已删除的配置不可编辑")
  Async.ofExcept (scope existing.clusterId existing.namespace existing.kind.text)
  let data ← Async.ofExcept (updateData existing body)
  updateConfigInCluster existing body
  let item ← ConfigsRepository.update id data (actor.bind (·.username))
  return ⟨item, named item.kind item.name "更新成功"⟩

def deleteConfigInCluster (existing : ConfigResourceRecord) : ConfigHandler Unit := do
  call (getKubeconfig existing.clusterId)
  call (deleteNamespaced existing.objectKey)

def actOn (id : String) (existing : ConfigResourceRecord) (state : ConfigResourceState)
    (refused done : String) : ConfigHandler ConfigMutationResponse := do
  Async.ensure (existing.state ≠ .deleted) (.badRequest refused)
  if state = .deleted then
    deleteConfigInCluster existing
  let item ← call (ConfigsRepository.setState id state)
  return ⟨item, named item.kind item.name done⟩

def applyAction (scope : ScopeCheck) (id : String) (body : ConfigActionRequest) :
    ConfigHandler ConfigMutationResponse := do
  let existing ← mustFind id
  Async.ofExcept (scope existing.clusterId existing.namespace existing.kind.text)
  if body.action = "delete" then actOn id existing .deleted "配置已删除" "已删除"
  else if body.action = "disable" then actOn id existing .disabled "已删除的配置不可禁用" "已禁用"
  else if body.action = "enable" then actOn id existing .active "已删除的配置不可启用" "已启用"
  else throw (.badRequest "action 必须为 enable/disable/delete")

def assertRevision (revision : Nat) : Except Exception Unit :=
  if 0 < revision ∧ Text.isSafeInteger revision then .ok () else .error (.badRequest "版本必须为正整数")

def rollback (scope : ScopeCheck) (id : String) (revision : Nat) (changedBy : Option String) :
    ConfigHandler ConfigMutationResponse := do
  Async.ofExcept (assertRevision revision)
  let existing ← mustFind id
  Async.ensure (existing.state ≠ .deleted) (.badRequest "已删除的配置不可回滚")
  Async.ofExcept (scope existing.clusterId existing.namespace existing.kind.text)
  let targetRev ← call (ConfigsRepository.getRevision id revision)
  Async.ensure targetRev.isSome (.notFound ("版本 " ++ toString revision ++ " 不存在"))
  let item ← ConfigsRepository.rollback id revision changedBy
  return ⟨item, named item.kind item.name ("已回滚到版本 " ++ toString revision)⟩

end KubeNova.Configs
