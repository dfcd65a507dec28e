import KubeNova.Foundation.Results
import KubeNova.Resources.ResourceWrites

/-!
# What writes are about

Which object a request to write is about, and which object is passed to the Kubernetes client.
-/

namespace KubeNova.Resources

open KubeNova.Foundation KubeNova.Foundation.Results KubeNova.Common

/-! ## Identities -/

structure ActsOn (identity : ObjectIdentity) (object : Js) : Prop where
  apiVersion : object.field "apiVersion" = .string identity.apiVersion
  kind : object.field "kind" = .string identity.kind
  name : (object.field "metadata").field "name" = .string identity.name
  namespaced : ∀ ns, identity.namespace = some ns →
    (object.field "metadata").field "namespace" = .string ns
  unnamespaced : identity.namespace = none →
    ((object.field "metadata").field "namespace").truthy = false

structure KeepsIdentity (manifest object : Js) : Prop where
  apiVersion : object.field "apiVersion" = manifest.field "apiVersion"
  kind : object.field "kind" = manifest.field "kind"
  name : (object.field "metadata").field "name" = (manifest.field "metadata").field "name"
  «namespace» : ((manifest.field "metadata").field "namespace").truthy = true →
    (object.field "metadata").field "namespace" = (manifest.field "metadata").field "namespace"

inductive WriteRequest where
  | updateYaml (input : ResourceYamlUpdateRequest)
  | updateDynamicYaml (input : DynamicYamlUpdateRequest)
  | createDynamicResource (input : DynamicResourceCreateRequest)
  | deleteDynamicResource (identity : DynamicResourceIdentity)
  | applyYaml (authorize : Js → Except Exception Unit) (input : ResourceYamlApplyRequest)

def DynamicResourceIdentity.requested (identity : DynamicResourceIdentity)
    (row : ApiResourceCapability) : ObjectIdentity :=
  ⟨toApiVersion (trimmed identity.group) (trimmed identity.version), row.kind,
    trimmed identity.name, if row.namespaced then some (trimmed identity.namespace) else none⟩

section Requests

variable (service : ResourcesService)

def DynamicResourceIdentity.named (identity : DynamicResourceIdentity) : Option ObjectIdentity :=
  (findDynamicCapability service (Text.trim identity.clusterId) identity).toOption.map
    identity.requested

namespace WriteRequest

def calls (client : KubeClient) : WriteRequest → List KubeCall
  | updateYaml input => (Resources.updateYaml service client input).calls
  | updateDynamicYaml input => (Resources.updateDynamicYaml service client input).calls
  | createDynamicResource input => (Resources.createDynamicResource service client input).calls
  | deleteDynamicResource identity =>
      (Resources.deleteDynamicResource service client identity).calls
  | applyYaml authorize input => (Resources.applyYaml service authorize client input).calls

def named : WriteRequest → Option ObjectIdentity
  | updateYaml input => (resolveKind input.kind).toOption.map fun kind =>
      kind.identity (trimmed input.namespace) input.name
  | updateDynamicYaml input => input.identity.named service
  | createDynamicResource input => input.identity.named service
  | deleteDynamicResource identity => identity.named service
  | applyYaml _ _ => none

def Accepted : WriteRequest → Prop
  | updateYaml input => ∃ prepared, prepareUpdateYaml service input = .ok prepared
  | updateDynamicYaml input => ∃ prepared, prepareUpdateDynamicYaml service input = .ok prepared
  | createDynamicResource input =>
      ∃ prepared, prepareCreateDynamicResource service input = .ok prepared
  | deleteDynamicResource identity =>
      ∃ prepared, prepareDeleteDynamicResource service identity = .ok prepared
  | applyYaml authorize input => ∃ prepared, prepareApplyYaml service authorize input = .ok prepared

end WriteRequest

/-- The group of an `apiVersion`. -/
def groupOf (apiVersion : String) : String :=
  match Text.split '/' apiVersion with
  | group :: _ :: _ => group
  | _ => ""

-- Which kinds of which groups the cluster's discovery says have namespaces.
variable (discovered : String → String → Prop)

def DiscoveredNamespaced (manifest : Js) : Prop :=
  ∃ apiVersion kind, manifest.field "apiVersion" = .string apiVersion ∧
    manifest.field "kind" = .string kind ∧ discovered (groupOf apiVersion) kind

/-- Every manifest up to the one the client refuses is passed on as it is, if its kind has
namespaces; without a refusal all of them are. -/
def AppliesManifests (authorize : Js → Except Exception Unit) (input : ResourceYamlApplyRequest) :
    Prop :=
  ∀ manifests, parseYamlManifests service.loadYaml (Text.trim input.yaml) = .ok manifests →
    ∀ client, ∃ n, List.Forall₂ (fun manifest (call : KubeCall) =>
        DiscoveredNamespaced discovered manifest → KeepsIdentity manifest call.object)
      (manifests.take n) (applyYaml service authorize client input).calls ∧
      ∀ response, (applyYaml service authorize client input).result = .ok response →
        n = manifests.length

def WriteRequest.ActsAsNamed : WriteRequest → Prop
  | applyYaml authorize input => AppliesManifests service discovered authorize input
  | request => ∀ client, ∀ call ∈ request.calls service client,
      ∃ identity, request.named service = some identity ∧ ActsOn identity call.object

/-- A manifest that the preparation leaves as it is: no blanks around its kind, and the table of
kinds, which knows no groups, does not take its namespace away. -/
structure PreparedAsIs (manifest : Js) : Prop where
  apiVersion : ∀ text, manifest.field "apiVersion" = .string text → Text.trim text = text
  kind : ∀ text, manifest.field "kind" = .string text → Text.trim text = text
  «namespace» : ((manifest.field "metadata").field "namespace").truthy = true →
    ∀ text kind, manifest.field "kind" = .string text → resolveKind text = .ok kind →
      kind.namespaced = true

/-- When a request writes what it names: a body to create says no other `apiVersion` than the
identity, and manifests with namespaces are prepared as they are. -/
def WriteRequest.TargetStated : WriteRequest → Prop
  | createDynamicResource input =>
      ((Js.object (input.body.getD [])).field "apiVersion").truthy = true →
        (Js.object (input.body.getD [])).field "apiVersion" =
          .string (toApiVersion (trimmed input.identity.group) (trimmed input.identity.version))
  | applyYaml _ input =>
      ∀ manifests, parseYamlManifests service.loadYaml (Text.trim input.yaml) = .ok manifests →
        ∀ manifest ∈ manifests, DiscoveredNamespaced discovered manifest → PreparedAsIs manifest
  | _ => True

end Requests

/-! ## Values -/

theorem isText_iff {value : Js} {text : String} :
    Js.isText value text = true ↔ value = .string text := by
  cases value <;> simp [Js.isText]

theorem isUndefined_of_truthy {value : Js} (h : value.truthy = true) :
    value.isUndefined = false := by
  cases value <;> first | rfl | cases h

theorem isUndefined_or_string {value : Js} {text : String} :
    (Js.or value (.string text)).isUndefined = false := by
  rw [Js.or]
  split
  · rename_i h
    exact isUndefined_of_truthy h
  · rfl

theorem truthy_clone {value : Js} (h : value.truthy = false) : value.clone.truthy = false := by
  cases value <;> first | (rw [Js.clone]; exact h) | (rw [Js.clone]; rfl)

theorem clone_object (fields : List (String × Js)) :
    (Js.object fields).clone = .object (fieldsOf (Js.object fields).clone) := by
  rw [Js.clone]
  rfl

theorem field_fieldsOf (value : Js) (key : String) :
    (Js.object (fieldsOf value)).field key = value.field key := by
  cases value <;> rfl

theorem field_removeFields {removed : List String} {key : String} (hkey : key ∉ removed)
    (fields : List (String × Js)) :
    (Js.object (removed.foldl removeField fields)).field key = (Js.object fields).field key := by
  induction removed generalizing fields with
  | nil => rfl
  | cons name removed ih =>
      rw [List.mem_cons, not_or] at hkey
      rw [List.foldl_cons, ih hkey.2, Js.field_removeField_of_ne hkey.1]

theorem field_cons_self {key : String} {value : Js} {fields : List (String × Js)}
    (hvalue : value.isUndefined = false) : (Js.object ((key, value) :: fields)).field key = value := by
  rw [Js.field_eq, Js.present_cons, hvalue, if_neg Bool.false_ne_true, List.lookup_cons_self]
  rfl

theorem field_cons_of_ne {key other : String} {value : Js} {fields : List (String × Js)}
    (hne : key ≠ other) :
    (Js.object ((other, value) :: fields)).field key = (Js.object fields).field key := by
  rw [Js.field_eq, Js.field_eq, Js.present_cons]
  split
  · rfl
  · rw [List.lookup_cons, beq_false_of_ne hne]

def unsentMetadata : List String :=
  ["managedFields", "creationTimestamp", "uid", "generation", "selfLink"]

theorem field_sanitizeForManifest {fields : List (String × Js)} {key : String}
    (hstatus : key ≠ "status") (hmetadata : key ≠ "metadata") :
    (sanitizeForManifest fields).field key = (Js.object fields).clone.field key := by
  have hclone : ∀ clone : List (String × Js), (Js.object (if
      ((Js.object clone).field "status").truthy then removeField clone "status" else clone)).field
        key = (Js.object clone).field key := by
    intro clone
    split
    · exact Js.field_removeField_of_ne hstatus
    · rfl
  rw [clone_object fields]
  simp only [sanitizeForManifest]
  split
  · rw [Js.field_setField_of_ne hmetadata]
    exact hclone _
  · exact hclone _

theorem metadata_sanitizeForManifest {fields metadata : List (String × Js)} {key : String}
    (hfield : (Js.object fields).field "metadata" = .object metadata) (hkey : key ∉ unsentMetadata) :
    ((sanitizeForManifest fields).field "metadata").field key =
      (Js.object metadata).clone.field key := by
  have hclone : (Js.object (fieldsOf (Js.object fields).clone)).field "metadata" =
      .object (fieldsOf (Js.object metadata).clone) := by
    rw [← clone_object fields, Js.field_clone, hfield]
    exact clone_object metadata
  have hkept : (Js.object (if
      ((Js.object (fieldsOf (Js.object fields).clone)).field "status").truthy then
        removeField (fieldsOf (Js.object fields).clone) "status"
      else fieldsOf (Js.object fields).clone)).field "metadata" =
        .object (fieldsOf (Js.object metadata).clone) := by
    split
    · rw [Js.field_removeField_of_ne (by decide), hclone]
    · exact hclone
  simp only [sanitizeForManifest]
  rw [hkept]
  show ((Js.object (setField _ "metadata" _)).field "metadata").field key = _
  rw [Js.field_setField_self rfl, clone_object metadata]
  exact field_removeFields hkey _

theorem namespace_completeMetadata {target : ObjectIdentity} (metadata : List (String × Js))
    (hnone : target.namespace = none) :
    ((Js.object (completeMetadata target metadata)).field "namespace").truthy = false := by
  simp only [completeMetadata]
  rw [hnone]
  dsimp only
  split
  · rw [Js.field_removeField_self]
    rfl
  · rename_i hfalsy
    exact Bool.not_eq_true _ |>.mp hfalsy

theorem actsOn_editedManifest {target : ObjectIdentity} {identityMessage namespaceMessage : String}
    {fields metadata : List (String × Js)} {object : Js}
    (h : editedManifest target identityMessage namespaceMessage fields metadata = .ok object) :
    ActsOn target object := by
  simp only [editedManifest] at h
  rw [throwIf_eq_ok rfl, throwIf_eq_ok rfl, throwIf_eq_ok rfl] at h
  obtain ⟨hidentity, hnamespace, -, hobject⟩ := h
  cases hobject
  rw [Bool.or_eq_true, Bool.or_eq_true, not_or, not_or, Bool.not_eq_true', Bool.not_eq_true',
    Bool.not_eq_true', Bool.not_eq_false, Bool.not_eq_false, Bool.not_eq_false, isText_iff,
    isText_iff, isText_iff] at hidentity
  obtain ⟨⟨hapiVersion, hkind⟩, hname⟩ := hidentity
  have hsent : ∀ {key text : String} {fields : List (String × Js)},
      (Js.object fields).field key = .string text →
      (Js.object fields).clone.field key = .string text := by
    intro key text fields hfield
    rw [Js.field_clone, hfield]
    rfl
  have hmetadata : ∀ fields : List (String × Js), (Js.object (removeField (setField fields "metadata"
      (.object (completeMetadata target metadata))) "status")).field "metadata" =
        .object (completeMetadata target metadata) := by
    intro fields
    rw [Js.field_removeField_of_ne (by decide), Js.field_setField_self rfl]
  constructor
  · rw [field_sanitizeForManifest (by decide) (by decide)]
    apply hsent
    rw [Js.field_removeField_of_ne (by decide), Js.field_setField_of_ne (by decide)]
    exact hapiVersion
  · rw [field_sanitizeForManifest (by decide) (by decide)]
    apply hsent
    rw [Js.field_removeField_of_ne (by decide), Js.field_setField_of_ne (by decide)]
    exact hkind
  · rw [metadata_sanitizeForManifest (hmetadata _) (by decide)]
    exact hsent hname
  · intro ns hns
    rw [hns, Option.any_some, Bool.not_eq_true, Bool.not_eq_false', isText_iff] at hnamespace
    rw [metadata_sanitizeForManifest (hmetadata _) (by decide)]
    exact hsent hnamespace
  · intro hnone
    have hfalsy := namespace_completeMetadata metadata hnone
    rw [metadata_sanitizeForManifest (hmetadata _) (by decide), Js.field_clone]
    split
    · rfl
    · exact truthy_clone hfalsy

theorem actsOn_editedYaml {service : ResourcesService} {target : ObjectIdentity}
    {identityMessage namespaceMessage yaml : String} {object : Js}
    (h : editedYaml service target identityMessage namespaceMessage yaml = .ok object) :
    ActsOn target object := by
  simp only [editedYaml] at h
  split at h
  · cases h
  · split at h
    · exact actsOn_editedManifest h
    · exact actsOn_editedManifest h
    · split at h
      · cases h
      · exact actsOn_editedManifest h
  · exact actsOn_editedManifest h
  · cases h

theorem findDynamicCapability_ok {service : ResourcesService} {clusterId : String}
    {identity : DynamicResourceIdentity} {row : ApiResourceCapability}
    (h : findDynamicCapability service clusterId identity = .ok row) :
    row.group = trimmed identity.group ∧ row.version = trimmed identity.version := by
  simp only [findDynamicCapability] at h
  split at h
  · cases h
  · split at h
    · rename_i found hfound
      injection h with h
      subst h
      have hrow := List.find?_some hfound
      simp only [Bool.and_eq_true, beq_iff_eq] at hrow
      exact ⟨hrow.1.1.2, hrow.1.2⟩
    · cases h

theorem resolveDynamicIdentity_ok {service : ResourcesService} {identity : DynamicResourceIdentity}
    {target : DynamicTarget} (h : resolveDynamicIdentity service identity = .ok target) :
    identity.named service = some target.identity ∧
      (target.capability.namespaced = true → target.namespace ≠ "") ∧
      (target.capability.namespaced = false → target.namespace = "") ∧
      target.apiVersion = toApiVersion (trimmed identity.group) (trimmed identity.version) := by
  simp only [resolveDynamicIdentity] at h
  rw [throwIf_eq_ok rfl, bind_eq_ok] at h
  obtain ⟨-, row, hrow, h⟩ := h
  rw [throwIf_eq_ok rfl] at h
  obtain ⟨hns, htarget⟩ := h
  obtain ⟨hgroup, hversion⟩ := findDynamicCapability_ok hrow
  cases htarget
  have hapiVersion : toApiVersion row.group row.version =
      toApiVersion (trimmed identity.group) (trimmed identity.version) := by
    rw [hgroup, hversion]
  refine ⟨?_, ?_, ?_, hapiVersion⟩
  · rw [DynamicResourceIdentity.named, hrow]
    show some (identity.requested row) = some (DynamicTarget.identity _)
    rw [DynamicResourceIdentity.requested, DynamicTarget.identity, DynamicTarget.apiVersion,
      hapiVersion]
    dsimp only
    cases row.namespaced with
    | true => simp only [if_true]
    | false => simp only [Bool.false_eq_true, if_false]
  · intro hnamespaced hempty
    exact hns ⟨hnamespaced, hempty⟩
  · intro hnamespaced
    have hfalse : row.namespaced = false := hnamespaced
    show (if row.namespaced = true then trimmed identity.namespace else "") = ""
    rw [hfalse]
    rfl

theorem resolveNamespace_ok {kind : KindMeta} {requested : Option String} {ns : String}
    (h : resolveNamespace kind requested = .ok ns) :
    kind.namespaced = true → ns = trimmed requested := by
  intro hnamespaced
  rw [resolveNamespace, hnamespaced] at h
  simp only [Bool.not_true, Bool.false_eq_true, if_false] at h
  split at h
  · cases h
  · injection h with h
    exact h.symm

/-- A body is created as the object of its identity unless it has an `apiVersion` of its own, which
nothing compares. -/
theorem actsOn_createdManifest_iff {target : DynamicTarget} {body : List (String × Js)}
    {object : Js} (h : createdManifest target body = .ok object) :
    ActsOn target.identity object ↔
      (((Js.object body).field "apiVersion").truthy = true →
        (Js.object body).field "apiVersion" = .string target.apiVersion) := by
  simp only [createdManifest] at h
  rw [throwIf_eq_ok rfl] at h
  obtain ⟨hchecks, hobject⟩ := h
  cases hobject
  rw [Bool.or_eq_true, Bool.or_eq_true, not_or, not_or, Bool.not_eq_true', Bool.not_eq_true',
    Bool.not_eq_false, Bool.not_eq_false, isText_iff, isText_iff] at hchecks
  obtain ⟨⟨hkind, hname⟩, hnamespace⟩ := hchecks
  have hkindField : ∀ rest : List (String × Js), (Js.object (("apiVersion",
      Js.or ((Js.object body).field "apiVersion") (.string target.apiVersion)) :: ("kind",
      Js.or ((Js.object body).field "kind") (.string target.capability.kind)) :: rest)).field
        "kind" = .string target.capability.kind := by
    intro rest
    rw [field_cons_of_ne (by decide), field_cons_self isUndefined_or_string, hkind]
  have hmetadata : ∀ (metadata : Js) (rest : List (String × Js)), metadata.isUndefined = false →
      (Js.object (("apiVersion",
      Js.or ((Js.object body).field "apiVersion") (.string target.apiVersion)) :: ("kind",
      Js.or ((Js.object body).field "kind") (.string target.capability.kind)) ::
      ("metadata", metadata) :: rest)).field "metadata" = metadata := by
    intro metadata rest hdefined
    rw [field_cons_of_ne (by decide), field_cons_of_ne (by decide), field_cons_self hdefined]
  rw [List.cons_append, List.cons_append, List.cons_append, List.nil_append]
  constructor
  · intro hacts htruthy
    have hfield := hacts.apiVersion
    rw [field_cons_self isUndefined_or_string, Js.or, if_pos htruthy] at hfield
    exact hfield
  · intro hstated
    constructor
    · rw [field_cons_self isUndefined_or_string, Js.or]
      split
      · rename_i htruthy
        exact hstated htruthy
      · rfl
    · exact hkindField _
    · rw [hmetadata _ _ rfl]
      exact hname
    · intro ns hns
      rw [hmetadata _ _ rfl]
      cases hnamespaced : target.capability.namespaced with
      | true =>
          rw [hnamespaced, Bool.true_and, Bool.not_eq_true, Bool.not_eq_false', isText_iff]
            at hnamespace
          have hsame : some target.namespace = some ns := by
            rw [← hns, DynamicTarget.identity, hnamespaced]
            rfl
          rw [hnamespace, Option.some.inj hsame]
      | false =>
          rw [DynamicTarget.identity, hnamespaced] at hns
          cases hns
    · intro hnone
      rw [hmetadata _ _ rfl]
      cases hnamespaced : target.capability.namespaced with
      | true =>
          rw [DynamicTarget.identity, hnamespaced] at hnone
          cases hnone
      | false =>
          rw [createdMetadata, hnamespaced]
          simp only [Bool.false_eq_true, if_false]
          rw [Js.field_removeField_self]
          rfl

theorem actsOn_deleted {service : ResourcesService} {identity : DynamicResourceIdentity}
    {prepared : DynamicTarget × Js}
    (h : prepareDeleteDynamicResource service identity = .ok prepared) :
    ∃ named, identity.named service = some named ∧ ActsOn named prepared.2 := by
  simp only [prepareDeleteDynamicResource] at h
  rw [bind_eq_ok] at h
  obtain ⟨target, htarget, h⟩ := h
  rw [check_eq_ok] at h
  obtain ⟨-, h⟩ := h
  cases h
  obtain ⟨hnamed, hpresent, habsent, -⟩ := resolveDynamicIdentity_ok htarget
  refine ⟨target.identity, hnamed, rfl, rfl, ?_, ?_, ?_⟩
  · show (Js.object (("name", Js.string target.name) :: _)).field "name" = _
    rw [field_cons_self rfl]
    rfl
  · intro ns hns
    cases hnamespaced : target.capability.namespaced with
    | true =>
        have hsame : some target.namespace = some ns := by
          rw [← hns, DynamicTarget.identity, hnamespaced]
          rfl
        show (Js.object ([("name", Js.string target.name)] ++
          if target.namespace = "" then [] else [("namespace", Js.string target.namespace)])).field
            "namespace" = _
        rw [if_neg (hpresent hnamespaced), List.singleton_append, field_cons_of_ne (by decide),
          field_cons_self rfl, Option.some.inj hsame]
    | false =>
        rw [DynamicTarget.identity, hnamespaced] at hns
        cases hns
  · intro hnone
    cases hnamespaced : target.capability.namespaced with
    | true =>
        rw [DynamicTarget.identity, hnamespaced] at hnone
        cases hnone
    | false =>
        show ((Js.object ([("name", Js.string target.name)] ++
          if target.namespace = "" then [] else [("namespace", Js.string target.namespace)])).field
            "namespace").truthy = _
        rw [if_pos (habsent hnamespaced)]
        rfl

theorem trimmedText_string (text : String) : trimmedText (.string text) = Text.trim text := by
  have helse : (Js.string text).orElse (.string "") = .string text := rfl
  rw [trimmedText, helse, jsText]

theorem prepareApplyManifest_ok {manifest prepared : Js} {defaultNamespace : String}
    (h : prepareApplyManifest manifest defaultNamespace = .ok prepared) :
    prepared.field "apiVersion" = .string (trimmedText (manifest.field "apiVersion")) ∧
      prepared.field "kind" = .string (trimmedText (manifest.field "kind")) ∧
      prepared.field "metadata" = .object (preparedMetadata
        (resolveKind (trimmedText (manifest.field "kind"))).toOption defaultNamespace
        (fieldsOf (manifest.field "metadata"))) := by
  simp only [prepareApplyManifest] at h
  rw [throwIf_eq_ok rfl, throwIf_eq_ok rfl, throwIf_eq_ok rfl] at h
  obtain ⟨-, -, -, hprepared⟩ := h
  cases hprepared
  refine ⟨?_, ?_, ?_⟩
  · rw [Js.field_removeField_of_ne (by decide), Js.field_setField_of_ne (by decide),
      Js.field_setField_of_ne (by decide), Js.field_setField_self rfl]
  · rw [Js.field_removeField_of_ne (by decide), Js.field_setField_of_ne (by decide),
      Js.field_setField_self rfl]
  · rw [Js.field_removeField_of_ne (by decide), Js.field_setField_self rfl]

theorem name_preparedMetadata {kind : Option KindMeta} {defaultNamespace : String}
    {metadata : List (String × Js)} :
    (Js.object (preparedMetadata kind defaultNamespace metadata)).field "name" =
      (Js.object metadata).field "name" := by
  have hinner : (Js.object (if kind.any (·.namespaced) &&
      !((Js.object metadata).field "namespace").truthy && defaultNamespace != "" then
        setField metadata "namespace" (.string defaultNamespace) else metadata)).field "name" =
      (Js.object metadata).field "name" := by
    split
    · exact Js.field_setField_of_ne (by decide)
    · rfl
  simp only [preparedMetadata]
  split
  · rw [Js.field_removeField_of_ne (by decide)]
    exact hinner
  · exact hinner

theorem namespace_preparedMetadata_iff {kind : Option KindMeta} {defaultNamespace : String}
    {metadata : List (String × Js)}
    (hstated : ((Js.object metadata).field "namespace").truthy = true) :
    (Js.object (preparedMetadata kind defaultNamespace metadata)).field "namespace" =
        (Js.object metadata).field "namespace" ↔
      ∀ known, kind = some known → known.namespaced = true := by
  simp only [preparedMetadata]
  rw [hstated, Bool.not_true, Bool.and_false, Bool.false_and, if_neg Bool.false_ne_true]
  cases kind with
  | none =>
      rw [if_neg (by exact Bool.false_ne_true)]
      constructor
      · intro _ known hknown
        cases hknown
      · intro _
        rfl
  | some known =>
      cases hnamespaced : known.namespaced with
      | true =>
          rw [Option.any_some, hnamespaced, Bool.not_true, if_neg Bool.false_ne_true]
          constructor
          · intro _ other hother
            cases hother
            exact hnamespaced
          · intro _
            rfl
      | false =>
          rw [Option.any_some, hnamespaced, Bool.not_false, if_pos rfl, Js.field_removeField_self]
          constructor
          · intro hsame
            rw [← hsame] at hstated
            cases hstated
          · intro h
            have hknown := h known rfl
            rw [hnamespaced] at hknown
            cases hknown

/-- A prepared manifest keeps its identity exactly when nothing in it is trimmed and its namespace
is not taken away. -/
theorem keepsIdentity_iff {manifest prepared : Js} {defaultNamespace apiVersion kind : String}
    (h : prepareApplyManifest manifest defaultNamespace = .ok prepared)
    (hapiVersion : manifest.field "apiVersion" = .string apiVersion)
    (hkind : manifest.field "kind" = .string kind) :
    KeepsIdentity manifest prepared ↔ PreparedAsIs manifest := by
  obtain ⟨hapiField, hkindField, hmetadata⟩ := prepareApplyManifest_ok h
  rw [hapiVersion, trimmedText_string] at hapiField
  rw [hkind, trimmedText_string] at hkindField hmetadata
  have hnamespaceField : (prepared.field "metadata").field "namespace" =
      (Js.object (preparedMetadata (resolveKind (Text.trim kind)).toOption defaultNamespace
        (fieldsOf (manifest.field "metadata")))).field "namespace" := by rw [hmetadata]
  have hresolved : ∀ known, (resolveKind (Text.trim kind)).toOption = some known ↔
      resolveKind (Text.trim kind) = .ok known := by
    intro known
    cases resolveKind (Text.trim kind) <;> simp [Except.toOption]
  have hstay : ((manifest.field "metadata").field "namespace").truthy = true →
      ((prepared.field "metadata").field "namespace" =
          (manifest.field "metadata").field "namespace" ↔
        ∀ known, resolveKind (Text.trim kind) = .ok known → known.namespaced = true) := by
    intro hstated
    rw [← field_fieldsOf] at hstated
    rw [hnamespaceField, ← field_fieldsOf (manifest.field "metadata"),
      namespace_preparedMetadata_iff hstated]
    constructor
    · intro hall known hknown
      exact hall known ((hresolved known).mpr hknown)
    · intro hall known hknown
      exact hall known ((hresolved known).mp hknown)
  constructor
  · intro hkeeps
    have hkindTrim : Text.trim kind = kind := by
      have hsame := hkeeps.kind
      rw [hkindField, hkind] at hsame
      exact Js.string.inj hsame
    refine ⟨?_, ?_, ?_⟩
    · intro text htext
      have hsame := hkeeps.apiVersion
      rw [hapiField, hapiVersion] at hsame
      rw [hapiVersion] at htext
      rw [← Js.string.inj htext]
      exact Js.string.inj hsame
    · intro text htext
      rw [hkind] at htext
      rw [← Js.string.inj htext]
      exact hkindTrim
    · intro hstated text known htext hknown
      rw [hkind] at htext
      rw [← Js.string.inj htext] at hknown
      apply (hstay hstated).mp (hkeeps.namespace hstated)
      rw [hkindTrim]
      exact hknown
  · intro hasIs
    have hkindTrim := hasIs.kind kind hkind
    refine ⟨?_, ?_, ?_, ?_⟩
    · rw [hapiField, hapiVersion, hasIs.apiVersion apiVersion hapiVersion]
    · rw [hkindField, hkind, hkindTrim]
    · rw [hmetadata, name_preparedMetadata, field_fieldsOf]
    · intro hstated
      apply (hstay hstated).mpr
      intro known hknown
      rw [hkindTrim] at hknown
      exact hasIs.namespace hstated kind known hkind hknown

/-! ## Requests -/

theorem mem_calls_ofCall {α β : Type} {client : KubeClient} {prepared : Except Exception α}
    {makeCall : α → KubeCall} {failure : KubeError → Exception} {answer : α → Js → β}
    {call : KubeCall} :
    call ∈ (Outcome.ofCall client prepared makeCall failure answer).calls ↔
      ∃ value, prepared = .ok value ∧ call = makeCall value := by
  cases prepared with
  | error e =>
      constructor
      · intro h
        cases h
      · rintro ⟨value, hvalue, -⟩
        cases hvalue
  | ok value =>
      constructor
      · intro h
        exact ⟨value, rfl, List.mem_singleton.mp h⟩
      · rintro ⟨value', hvalue, hcall⟩
        injection hvalue with hvalue
        subst hvalue
        exact List.mem_singleton.mpr hcall

theorem exists_of_mem_left {α β : Type} {R : α → β → Prop} {xs : List α} {ys : List β} {x : α}
    (h : List.Forall₂ R xs ys) (hx : x ∈ xs) : ∃ y, R x y := by
  induction h with
  | nil => cases hx
  | cons hr _ ih =>
      rcases List.mem_cons.mp hx with rfl | hx
      · exact ⟨_, hr⟩
      · exact ih hx

theorem prepareApplyYaml_ok {service : ResourcesService} {authorize : Js → Except Exception Unit}
    {input : ResourceYamlApplyRequest} {prepared : List Js}
    (h : prepareApplyYaml service authorize input = .ok prepared) :
    ∃ manifests, parseYamlManifests service.loadYaml (Text.trim input.yaml) = .ok manifests ∧
      List.Forall₂ (fun manifest object =>
        prepareApplyManifest manifest (trimmed input.namespace) = .ok object) manifests prepared := by
  simp only [prepareApplyYaml] at h
  rw [throwIf_eq_ok rfl, throwIf_eq_ok rfl, bind_eq_ok] at h
  obtain ⟨-, -, manifests, hmanifests, h⟩ := h
  rw [throwIf_eq_ok rfl, bind_eq_ok] at h
  obtain ⟨-, objects, hobjects, h⟩ := h
  rw [check_eq_ok, check_eq_ok] at h
  obtain ⟨-, -, h⟩ := h
  cases h
  exact ⟨manifests, hmanifests, forall₂_of_mapM hobjects⟩

theorem applyAll_calls {client : KubeClient} {dryRun : Bool} (prepared : List Js)
    (calls : List KubeCall) (items : List ResourceYamlApplyItem) :
    ∃ n, (applyAll client dryRun calls items prepared).calls =
        calls ++ (prepared.take n).map (.apply · dryRun) ∧
      ∀ answer, (applyAll client dryRun calls items prepared).result = .ok answer →
        n = prepared.length := by
  induction prepared generalizing calls items with
  | nil =>
      refine ⟨0, ?_, ?_⟩
      · rw [List.take_nil, List.map_nil, List.append_nil]
        rfl
      · intro answer _
        rfl
  | cons object prepared ih =>
      simp only [applyAll]
      cases hanswer : client calls (.apply object dryRun) with
      | error e =>
          refine ⟨1, rfl, ?_⟩
          intro answer hok
          cases hok
      | ok applied =>
          obtain ⟨n, hcalls, hlength⟩ := ih (calls ++ [.apply object dryRun])
            (items ++ [appliedItem dryRun object applied])
          refine ⟨n + 1, ?_, ?_⟩
          · show (applyAll client dryRun _ _ prepared).calls = _
            rw [hcalls, List.take_succ_cons, List.map_cons, List.append_assoc]
            rfl
          · intro answer hok
            rw [hlength answer hok, List.length_cons]

theorem applyAll_accepting {dryRun : Bool} (prepared : List Js) (calls : List KubeCall)
    (items : List ResourceYamlApplyItem) :
    (applyAll (fun _ _ => .ok .null) dryRun calls items prepared).calls =
        calls ++ prepared.map (.apply · dryRun) ∧
      ∃ answer, (applyAll (fun _ _ => .ok .null) dryRun calls items prepared).result =
        .ok answer := by
  induction prepared generalizing calls items with
  | nil =>
      refine ⟨?_, items, rfl⟩
      rw [List.map_nil, List.append_nil]
      rfl
  | cons object prepared ih =>
      simp only [applyAll]
      obtain ⟨hcalls, answer, hanswer⟩ := ih (calls ++ [.apply object dryRun])
        (items ++ [appliedItem dryRun object .null])
      refine ⟨?_, answer, hanswer⟩
      rw [hcalls, List.append_assoc]
      rfl

section Requests

variable {service : ResourcesService} {discovered : String → String → Prop}

theorem actsOn_updateYaml {input : ResourceYamlUpdateRequest} {prepared : KindMeta × String × Js}
    (h : prepareUpdateYaml service input = .ok prepared) :
    ∃ identity, (WriteRequest.updateYaml input).named service = some identity ∧
      ActsOn identity prepared.2.2 := by
  simp only [prepareUpdateYaml] at h
  rw [bind_eq_ok] at h
  obtain ⟨kind, hkind, h⟩ := h
  rw [bind_eq_ok] at h
  obtain ⟨ns, hns, h⟩ := h
  rw [check_eq_ok, bind_eq_ok] at h
  obtain ⟨-, object, hobject, h⟩ := h
  cases h
  refine ⟨kind.identity ns input.name, ?_, actsOn_editedYaml hobject⟩
  have hidentity : kind.identity ns input.name =
      kind.identity (trimmed input.namespace) input.name := by
    cases hnamespaced : kind.namespaced with
    | true => rw [resolveNamespace_ok hns hnamespaced]
    | false =>
        rw [KindMeta.identity, KindMeta.identity, hnamespaced]
        rfl
  rw [hidentity, WriteRequest.named, hkind]
  rfl

theorem actsOn_updateDynamicYaml {input : DynamicYamlUpdateRequest}
    {prepared : DynamicTarget × Js} (h : prepareUpdateDynamicYaml service input = .ok prepared) :
    ∃ identity, (WriteRequest.updateDynamicYaml input).named service = some identity ∧
      ActsOn identity prepared.2 := by
  simp only [prepareUpdateDynamicYaml] at h
  rw [bind_eq_ok] at h
  obtain ⟨target, htarget, h⟩ := h
  rw [throwIf_eq_ok rfl, bind_eq_ok] at h
  obtain ⟨-, object, hobject, h⟩ := h
  rw [check_eq_ok] at h
  obtain ⟨-, h⟩ := h
  cases h
  exact ⟨target.identity, (resolveDynamicIdentity_ok htarget).1, actsOn_editedYaml hobject⟩

theorem actsOn_createDynamicResource_iff {input : DynamicResourceCreateRequest}
    {prepared : DynamicTarget × Js}
    (h : prepareCreateDynamicResource service input = .ok prepared) :
    (∃ identity, (WriteRequest.createDynamicResource input).named service = some identity ∧
        ActsOn identity prepared.2) ↔
      (WriteRequest.createDynamicResource input).TargetStated service discovered := by
  simp only [prepareCreateDynamicResource] at h
  rw [bind_eq_ok] at h
  obtain ⟨target, htarget, h⟩ := h
  rw [check_eq_ok, bind_eq_ok] at h
  obtain ⟨-, object, hobject, h⟩ := h
  cases h
  obtain ⟨hnamed, -, -, hapiVersion⟩ := resolveDynamicIdentity_ok htarget
  have hiff := actsOn_createdManifest_iff hobject
  rw [hapiVersion] at hiff
  have hstated : (WriteRequest.createDynamicResource input).named service =
      some target.identity := hnamed
  rw [hstated]
  constructor
  · rintro ⟨identity, hidentity, hacts⟩
    injection hidentity with hidentity
    rw [← hidentity] at hacts
    exact hiff.mp hacts
  · intro h
    exact ⟨target.identity, rfl, hiff.mpr h⟩

theorem appliesManifests_iff {authorize : Js → Except Exception Unit}
    {input : ResourceYamlApplyRequest} {prepared : List Js}
    (h : prepareApplyYaml service authorize input = .ok prepared) :
    AppliesManifests service discovered authorize input ↔
      (WriteRequest.applyYaml authorize input).TargetStated service discovered := by
  obtain ⟨manifests, hmanifests, hprepared⟩ := prepareApplyYaml_ok h
  have hcalls : ∀ client, (applyYaml service authorize client input).calls =
      (applyAll client input.dryRun [] [] prepared).calls := by
    intro client
    rw [applyYaml, h]
  have hanswer : ∀ client response, (applyYaml service authorize client input).result =
      .ok response → ∃ items, (applyAll client input.dryRun [] [] prepared).result = .ok items := by
    intro client response hok
    rw [applyYaml, h] at hok
    cases hresult : (applyAll client input.dryRun [] [] prepared).result with
    | error e =>
        simp only [hresult, Except.map] at hok
        cases hok
    | ok items => exact ⟨items, rfl⟩
  constructor
  · intro happlies other hother manifest hmanifest hdiscovered
    rw [hmanifests] at hother
    cases hother
    -- a client that refuses nothing gets every manifest
    obtain ⟨n, hforall, hall⟩ := happlies manifests hmanifests fun _ _ => .ok .null
    obtain ⟨hevery, items, hitems⟩ :
        (applyAll (fun _ _ => .ok .null) input.dryRun [] [] prepared).calls =
          [] ++ prepared.map (.apply · input.dryRun) ∧ ∃ items,
          (applyAll (fun _ _ => .ok .null) input.dryRun [] [] prepared).result = .ok items :=
      applyAll_accepting prepared [] []
    have hok : ∃ response, (applyYaml service authorize (fun _ _ => .ok .null) input).result =
        .ok response := by
      rw [applyYaml, h]
      simp only [hitems, Except.map]
      exact ⟨_, rfl⟩
    obtain ⟨response, hresponse⟩ := hok
    rw [hall response hresponse, List.take_length, hcalls, hevery, List.nil_append,
      List.forall₂_map_right_iff] at hforall
    obtain ⟨object, hobject, hkeeps⟩ := exists_of_mem_left
      (hforall.mp (fun _ _ hkeeps hprepare => And.intro hprepare hkeeps) hprepared) hmanifest
    have hkept := hkeeps hdiscovered
    obtain ⟨apiVersion, kind, hapiVersion, hkind, -⟩ := hdiscovered
    exact (keepsIdentity_iff hobject hapiVersion hkind).mp hkept
  · intro hstated other hother client
    rw [hmanifests] at hother
    cases hother
    obtain ⟨n, hsome, hlength⟩ : ∃ n, (applyAll client input.dryRun [] [] prepared).calls =
          [] ++ (prepared.take n).map (.apply · input.dryRun) ∧
        ∀ items, (applyAll client input.dryRun [] [] prepared).result = .ok items →
          n = prepared.length := applyAll_calls prepared [] []
    refine ⟨n, ?_, ?_⟩
    · rw [hcalls client, hsome, List.nil_append, List.forall₂_map_right_iff]
      have hboth := List.forall₂_take n
        (List.forall₂_and_left _ _ |>.mpr ⟨hstated manifests hmanifests, hprepared⟩)
      apply hboth.imp
      rintro manifest object ⟨hasIs, hobject⟩ hdiscovered
      have hprepareAsIs := hasIs hdiscovered
      obtain ⟨apiVersion, kind, hapiVersion, hkind, -⟩ := hdiscovered
      exact (keepsIdentity_iff hobject hapiVersion hkind).mpr hprepareAsIs
    · intro response hok
      obtain ⟨items, hitems⟩ := hanswer client response hok
      rw [hlength items hitems, hprepared.length_eq]

theorem acts_ofCall_iff {α β : Type} {prepared : Except Exception α} {value : α}
    {makeCall : α → KubeCall} {failure : KubeError → Exception} {answer : α → Js → β}
    {P : KubeCall → Prop} (hprepared : prepared = .ok value) :
    (∀ client : KubeClient,
        ∀ call ∈ (Outcome.ofCall client prepared makeCall failure answer).calls, P call) ↔
      P (makeCall value) := by
  constructor
  · intro h
    exact h (fun _ _ => .ok .null) _ (mem_calls_ofCall.mpr ⟨value, hprepared, rfl⟩)
  · intro h client call hcall
    obtain ⟨value', hvalue, rfl⟩ := mem_calls_ofCall.mp hcall
    rw [hprepared] at hvalue
    injection hvalue with hvalue
    rw [← hvalue]
    exact h

/-- An accepted request writes what it names exactly when a body to create states no other
`apiVersion`, and manifests of kinds with namespaces are prepared as they are.  The other paths
compare every part of the identity. -/
theorem actsAsNamed_iff {request : WriteRequest} (haccepted : request.Accepted service) :
    request.ActsAsNamed service discovered ↔ request.TargetStated service discovered := by
  cases request with
  | updateYaml input =>
      obtain ⟨prepared, hprepared⟩ := haccepted
      exact (acts_ofCall_iff hprepared).trans ⟨fun _ => trivial, fun _ => actsOn_updateYaml hprepared⟩
  | updateDynamicYaml input =>
      obtain ⟨prepared, hprepared⟩ := haccepted
      exact (acts_ofCall_iff hprepared).trans
        ⟨fun _ => trivial, fun _ => actsOn_updateDynamicYaml hprepared⟩
  | createDynamicResource input =>
      obtain ⟨prepared, hprepared⟩ := haccepted
      exact (acts_ofCall_iff hprepared).trans (actsOn_createDynamicResource_iff hprepared)
  | deleteDynamicResource identity =>
      obtain ⟨prepared, hprepared⟩ := haccepted
      exact (acts_ofCall_iff hprepared).trans ⟨fun _ => trivial, fun _ => actsOn_deleted hprepared⟩
  | applyYaml authorize input =>
      obtain ⟨prepared, hprepared⟩ := haccepted
      exact appliesManifests_iff hprepared

end Requests

def deploymentsService : ResourcesService where
  loadYaml := fun _ => .error "no YAML here"
  dumpYaml := fun _ => ""
  capabilities := [⟨"prod", "apps", "v1", "deployments", "Deployment", true⟩]
  makeObjectClient := fun _ => .ok ()

/-- The deployment `team/web`, with a body. -/
def createWeb (body : List (String × Js)) : DynamicResourceCreateRequest where
  identity := ⟨"prod", some "apps", some "v1", some "deployments", some "team", some "web"⟩
  body := some body

/-- A body without an identity of its own is created as the deployment. -/
theorem createWeb_actsAsNamed :
    (WriteRequest.createDynamicResource (createWeb [("spec", .object [])])).ActsAsNamed
      deploymentsService (fun _ _ => True) := by
  have haccepted : (WriteRequest.createDynamicResource (createWeb [("spec", .object [])])).Accepted
      deploymentsService := ⟨_, rfl⟩
  apply (actsAsNamed_iff haccepted).mpr
  intro htruthy
  cases htruthy

/-- A body with another `apiVersion`: what is created is a resource of another group. -/
theorem createWeb_leavesGroup :
    (Resources.createDynamicResource deploymentsService (fun _ _ => .ok .null)
        (createWeb [("apiVersion", .string "example.com/v1")])).calls =
      [.create (.object [("apiVersion", .string "example.com/v1"),
        ("kind", .string "Deployment"),
        ("metadata", .object [("name", .string "web"), ("namespace", .string "team")])])] ∧
      ¬ (WriteRequest.createDynamicResource
          (createWeb [("apiVersion", .string "example.com/v1")])).ActsAsNamed
        deploymentsService (fun _ _ => True) := by
  refine ⟨rfl, ?_⟩
  intro hacts
  obtain ⟨identity, hidentity, hacts⟩ := hacts (fun _ _ => .ok .null) _ List.mem_cons_self
  have hnamed : (WriteRequest.createDynamicResource
      (createWeb [("apiVersion", .string "example.com/v1")])).named deploymentsService =
        some ⟨"apps/v1", "Deployment", "web", some "team"⟩ := rfl
  rw [hnamed] at hidentity
  injection hidentity with hidentity
  have hfield := hacts.apiVersion
  rw [← hidentity] at hfield
  have hsame : "example.com/v1" = "apps/v1" := Js.string.inj hfield
  exact absurd hsame (by decide)

/-- A kind of another group that shares its name with one the table knows loses its namespace. -/
example : prepareApplyManifest (.object [("apiVersion", .string "cluster.x-k8s.io/v1beta1"),
      ("kind", .string "Cluster"),
      ("metadata", .object [("name", .string "c1"), ("namespace", .string "team")])]) "" =
    .ok (.object [("apiVersion", .string "cluster.x-k8s.io/v1beta1"),
      ("kind", .string "Cluster"), ("metadata", .object [("name", .string "c1")])]) := rfl

end KubeNova.Resources
