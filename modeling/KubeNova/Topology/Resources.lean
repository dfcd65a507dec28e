import KubeNova.Foundation.JsFields

/-!
# The rows of the topology graph

What the graph reads of the inventory, and the readers for the JSON in it.
-/

namespace KubeNova.Topology

open KubeNova.Foundation

inductive TopologySource where
  | workloads
  | network
  | storage
  | configuration
  | gateway
  deriving Repr, DecidableEq

structure PersistedResource where
  id : String
  clusterId : String
  «namespace» : Option String
  kind : String
  name : String
  spec : Js
  statusJson : Js
  labels : Js
  replicas : Option Int
  readyReplicas : Option Int
  storageClass : Option String
  /-- In milliseconds. -/
  updatedAt : Int

structure TopologyRow where
  source : TopologySource
  row : PersistedResource

/-! ## Reading JSON

`asRecord(value)?.[name]` is `value.field name`: what is no object has no fields.
-/

def asArray (value : Js) : List Js := value.elements?.getD []

def asString : Js → Option String
  | .string value => if Text.trim value = "" then none else some (Text.trim value)
  | .number value => some value.text
  | .bool value => some (jsText (.bool value))
  | _ => none

end KubeNova.Topology
