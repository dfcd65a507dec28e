import KubeNova.Clusters.HealthPages
import KubeNova.Foundation.JsObject

/-!
# Listing the registry of clusters

The state of a cluster is stored three times: in `deletedAt`, in the status column and in the
metadata.  A listing looks for it in the first two and shows the first and the last.  It takes its
page in the database, or from the rows it has filtered itself.
-/

namespace KubeNova.Clusters.Registry

open KubeNova.Foundation KubeNova.Clusters.Health

/-- A row of `ClusterRegistry`, with the status of the health snapshot that belongs to it. -/
structure RegistryRow where
  id : String
  name : String
  status : String
  metadata : Js
  deletedAt : Option Int
  createdAt : Int
  updatedAt : Int
  snapshotStatus : Option String

/-- `parseState(value)`, for a value that need not be a text. -/
def parseState (value : Js) : Health.ClusterState := Health.parseState (value.text?.getD "")

def parseMetadata (value : Js) : ClusterMetadata :=
  match value with
  | .object _ =>
      { environment := (value.field "environment").text?
        provider := (value.field "provider").text?
        status := (value.field "status").text?
        state := some (parseState (value.field "state")).text
        kubeconfig := (value.field "kubeconfig").text?.filter (· ≠ "") }
  | _ => ⟨none, none, none, none, none⟩

def RegistryRow.toRow (row : RegistryRow) : ClusterRow where
  id := row.id
  name := row.name
  status := row.status
  metadata := parseMetadata row.metadata
  deletedAt := row.deletedAt
  createdAt := row.createdAt
  updatedAt := row.updatedAt
  snapshotStatus := row.snapshotStatus

def RegistryRow.toRecord (row : RegistryRow) : ClusterRecord := Health.toRecord row.toRow

structure Registry where
  rows : List RegistryRow
  distinct : (rows.map (·.id)).Nodup

def Registry.clusterRows (registry : Registry) : List ClusterRow := registry.rows.map (·.toRow)

/-- The parameters of `ClustersRepository.list`, as they are given. -/
structure ListQuery where
  keyword : Option String
  provider : Option String
  state : Option Health.ClusterState
  environment : Option String
  status : Option String
  sortBy : Option String
  ascending : Bool
  page : Nat
  pageSize : Nat
  accessibleClusterIds : Option (List String)

def given (value : Option String) : Option String := value.filter (· ≠ "")

/-- The field to sort by: `runtimeStatus` has to be written exactly, the columns may have blanks
around them. -/
def sortField (sortBy : Option String) : Option String :=
  if sortBy = some "runtimeStatus" then sortBy
  else (sortBy.map Text.trim).filter (· ≠ "runtimeStatus")

def ListQuery.params (query : ListQuery) : ClusterListParams where
  keyword := given query.keyword
  provider := given query.provider
  state := query.state
  environment := given query.environment
  status := given query.status
  sortBy := sortField query.sortBy
  ascending := query.ascending
  page := query.page
  pageSize := query.pageSize
  accessibleClusterIds := query.accessibleClusterIds

variable (texts : Texts)

def list (query : ListQuery) (registry : Registry) : ClusterListResult :=
  repositoryList texts query.params registry.clusterRows

def resultOf (params : ClusterListParams) (rows : List ClusterRow) : ClusterListResult where
  items := (pageOf params.pageSize params.page rows).map Health.toRecord
  total := rows.length
  page := params.page
  pageSize := params.pageSize

def listInDatabase (query : ListQuery) (registry : Registry) : ClusterListResult :=
  resultOf query.params (query.params.found texts registry.clusterRows)

def listInMemory (query : ListQuery) (registry : Registry) : ClusterListResult :=
  let filtered := (query.params.found texts registry.clusterRows).filter fun row =>
    query.params.keeps texts (Health.toRecord row)
  resultOf query.params
    (if query.params.sortsByRuntime then filtered.insertionSort (runtimeOrder texts) else filtered)

theorem list_eq (query : ListQuery) (registry : Registry) : list texts query registry =
    if query.params.needsMemoryFilter then listInMemory texts query registry
    else listInDatabase texts query registry := by
  unfold list repositoryList listInMemory listInDatabase ClusterListParams.listed
  cases query.params.needsMemoryFilter <;> rfl

def Matches (query : ListQuery) (record : ClusterRecord) : Bool :=
  query.accessibleClusterIds.all (·.contains record.id) &&
    (match query.state with
      | some state => record.state == state
      | none => record.state != .deleted) &&
    (given query.keyword).all (texts.nameContains record.name ·) &&
    (given query.provider).all (record.provider == ·) &&
    (given query.environment).all (record.environment == ·) &&
    (given query.status).all (record.status == ·)

structure ListExact (registry : Registry) (query : ListQuery) : Prop where
  states : ∀ state ∈ query.state, ∀ record ∈ (list texts query registry).items,
    record.state = state
  total : (list texts query registry).total =
    registry.rows.countP fun row => Matches texts query row.toRecord
  paths : query.params.needsMemoryFilter = false →
    listInMemory texts query registry = listInDatabase texts query registry

def RegistryRow.Agrees (row : RegistryRow) : Prop :=
  row.deletedAt.isSome = true ∨
    row.status = (Health.parseState ((parseMetadata row.metadata).state.getD row.status)).text

def RegistryRow.FoundAgain (row : RegistryRow) : Prop :=
  ∀ keyword, keyword ≠ "" → texts.nameContains row.name keyword = true →
    texts.lower (Text.trim keyword) = "" ∨
      ∃ text ∈ [row.toRecord.id, row.toRecord.name, row.toRecord.provider],
        Text.contains (texts.lower (Text.trim keyword)) (texts.lower text) = true

end KubeNova.Clusters.Registry
