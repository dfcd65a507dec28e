import KubeNova.Foundation.Base64
import KubeNova.Foundation.JsonParse
import KubeNova.Foundation.Results
import KubeNova.Foundation.Triple
import KubeNova.Foundation.Utf8
import KubeNova.Resources.ResourceWrites

/-!
# Batches of the editor

`submitEditor` checks all manifests of a text before it writes one of them, and says what it has
written when a later one fails.  A request is run with the transcript of its calls; the client may
answer each call as it likes.
-/

namespace KubeNova.Resources

open KubeNova.Foundation KubeNova.Common

structure EditorCrypto where
  numbers : Json.Numbers
  checkPrivateKey : String → String → Bool

def base64Bytes (value : String) : Option (List UInt8) :=
  let letters := value.toList.takeWhile fun c => Base64.alphabet.contains c
  let pad := value.toList.drop letters.length
  if value.toList.length % 4 = 0 ∧ (pad = [] ∨ pad = ['='] ∨ pad = ['=', '=']) then
    (letters.mapM Base64.digitValue).bind Base64.bytesOf
  else none

def validateTlsPair (crypto : EditorCrypto) (certificate privateKey : Option String) :
    Except Exception Unit :=
  match certificate, privateKey with
  | some certificate, some privateKey =>
      if 900 * 1024 < certificate.utf8ByteSize + privateKey.utf8ByteSize then
        .error (.badRequest "证书与私钥必须是文本，合计不能超过 900 KiB")
      else if crypto.checkPrivateKey certificate privateKey then .ok ()
      else .error (.badRequest "证书或私钥格式无效，或二者不匹配")
  | _, _ => .error (.badRequest "证书与私钥必须是文本，合计不能超过 900 KiB")

def secretPart (manifest : Js) (part : String) : Except Exception (List (String × Js)) :=
  match (manifest.field part).orElse (.object []) with
  | .object fields => .ok (Js.present fields)
  | _ => .error (.badRequest "Secret 数据必须为键值对象")

def dataBytesOf (value : Js) : Except Exception (List UInt8) :=
  match value.text?.bind base64Bytes with
  | some bytes => .ok bytes
  | none => .error (.badRequest "Secret data 必须是有效的 Base64")

def stringDataBytesOf (value : Js) : Except Exception (List UInt8) :=
  match value.text? with
  | some text => .ok (Utf8.encode text.toList)
  | none => .error (.badRequest "Secret stringData 必须是文本")

/-- The decoded entries; those of `stringData` come last and replace the others. -/
def decodeEntries (decode : Js → Except Exception (List UInt8)) :
    List (String × Js) → List (String × List UInt8) → Except Exception (List (String × List UInt8))
  | [], decoded => .ok decoded
  | (key, value) :: rest, decoded => do
      let bytes ← decode value
      decodeEntries decode rest (setField decoded key bytes)

def decodedText (decoded : List (String × List UInt8)) (key : String) : Option String :=
  (decoded.lookup key).map fun bytes => String.ofList (Utf8.decode bytes)

def hasAuths (crypto : EditorCrypto) (text : String) : Bool :=
  match (Json.parse crypto.numbers text).map fun config => config.field "auths" with
  | some (Js.object _) => true
  | _ => false

def validateSecretManifest (crypto : EditorCrypto) (manifest : Js) : Except Exception Unit := do
  if !(manifest.field "kind").isText "Secret" then return ()
  let data ← secretPart manifest "data"
  let stringData ← secretPart manifest "stringData"
  let decoded ← decodeEntries dataBytesOf data []
  let decoded ← decodeEntries stringDataBytesOf stringData decoded
  if 900 * 1024 < (decoded.map fun entry => entry.2.length).sum then
    .error (.badRequest "Secret 原始数据合计不能超过 900 KiB")
  if (manifest.field "type").isText "kubernetes.io/tls" then
    validateTlsPair crypto (decodedText decoded "tls.crt") (decodedText decoded "tls.key")
  if (manifest.field "type").isText "kubernetes.io/dockerconfigjson" &&
      !hasAuths crypto ((decodedText decoded ".dockerconfigjson").getD "") then
    .error (.badRequest "镜像仓库凭据必须包含有效的 auths 配置")

inductive EditorOperation where
  | create
  | update
  deriving Repr, DecidableEq

structure EditorIdentity where
  apiVersion : Option String
  kind : Option String
  name : Option String
  «namespace» : Option String
  resource : Option String
  deriving Repr, DecidableEq

structure ResourceEditorSubmitRequest where
  clusterId : String
  yaml : String
  operation : EditorOperation
  dryRun : Bool
  «namespace» : Option String
  identity : EditorIdentity
  resourceVersion : Option String

/-- What the request rests on; `authorize` is the check of the controller. -/
structure EditorService extends ResourcesService where
  crypto : EditorCrypto
  authorize : Js → Except Exception Unit

def isBlank (value : Option String) : Bool := Text.trim (value.getD "") == ""

def resolveEditorScope (service : EditorService) (clusterId : String)
    (apiVersion kind «namespace» resource : Option String) :
    Except Exception (ApiResourceCapability × String) :=
  if Text.trim clusterId = "" ∨ isBlank apiVersion ∨ isBlank kind then
    .error (.badRequest "clusterId/apiVersion/kind/namespace/resource 无效")
  else match service.capabilities.find? fun row => row.clusterId == clusterId &&
      some (toApiVersion row.group row.version) == apiVersion && some row.kind == kind &&
      (resource.getD "" == "" || resource == some row.resource) with
    | none => .error (.badRequest "未找到匹配的 discovery GVK/GVR")
    | some row =>
        let ns := if row.namespaced then trimmed «namespace» else ""
        if row.namespaced ∧ ns = "" then .error (.badRequest "namespace 不能为空") else .ok (row, ns)

def optionalText (message : String) : Js → Except Exception (Option String)
  | .undefined => .ok none
  | .string value => .ok (some value)
  | _ => .error (.badRequest message)

def editorManifest (service : EditorService) (clusterId : String)
    (input : ResourceEditorSubmitRequest) (raw : Js) : Except Exception Js :=
  match raw.field "metadata" with
  | .object metadata => do
      let _ ← optionalText "metadata.resourceVersion 必须为 string"
        ((Js.object metadata).field "resourceVersion")
      let ns ← optionalText "clusterId/apiVersion/kind/namespace/resource 无效"
        (((Js.object metadata).field "namespace").orElse
          (input.namespace.elim .undefined .string))
      let (capability, ns) ← resolveEditorScope service clusterId (raw.field "apiVersion").text?
        (raw.field "kind").text? ns none
      if input.operation = .update ∧ capability.namespaced = false ∧
          ((Js.object metadata).field "namespace").truthy = true then
        .error (.badRequest "集群资源的 namespace 必须为空")
      if isBlank ((Js.object metadata).field "name").text? then
        .error (.badRequest "metadata.name 不能为空")
      let manifest := sanitizeForManifest (fieldsOf raw)
      let metadata := fieldsOf (manifest.field "metadata")
      let metadata := if capability.namespaced then setField metadata "namespace" (.string ns)
        else removeField metadata "namespace"
      let metadata := if input.operation = .create then removeField metadata "resourceVersion"
        else metadata
      return .object (setField (fieldsOf manifest) "metadata" (.object metadata))
  | _ => .error (.badRequest "metadata 必须为 object")

def editorKey (manifest : Js) : String :=
  let metadata := manifest.field "metadata"
  jsText (manifest.field "apiVersion") ++ "|" ++ jsText (manifest.field "kind") ++ "|" ++
    jsText ((metadata.field "namespace").orElse (.string "")) ++ "|" ++
    jsText ((metadata.field "name").orElse (.string ""))

/-- `submitEditor`, up to the client. -/
def prepareEditor (service : EditorService) (input : ResourceEditorSubmitRequest) :
    Except Exception (List Js) := do
  let clusterId := Text.trim input.clusterId
  if clusterId = "" ∨ Text.trim input.yaml = "" then
    .error (.badRequest "clusterId 和 yaml 不能为空")
  let parsed ← (parseYamlManifests service.loadYaml input.yaml).mapError fun _ =>
    .badRequest "YAML 解析失败，请检查文档格式"
  let manifests ← parsed.mapM (editorManifest service clusterId input)
  if manifests = [] then .error (.badRequest "YAML 未包含可应用资源")
  authorizeAll service.authorize manifests
  manifests.forM (validateSecretManifest service.crypto)
  if ¬(manifests.map editorKey).Nodup then .error (.badRequest "YAML 包含重复资源")
  service.makeObjectClient clusterId
  return manifests

/-! ## The cluster -/

inductive EditorCall where
  | listIngressClasses
  | read (object : Js)
  | create (object : Js) (dryRun : Bool)
  | replace (object : Js) (dryRun : Bool)

def EditorCall.written? : EditorCall → Option Js
  | create object false => some object
  | replace object false => some object
  | _ => none

abbrev Transcript := List (EditorCall × Except KubeError Js)

abbrev EditorClient := Transcript → EditorCall → Except KubeError Js

structure EditorItem where
  apiVersion : String
  kind : String
  name : String
  «namespace» : String
  resourceVersion : Option String
  deriving Repr, DecidableEq

inductive EditorError where
  | exception (e : Exception)
  /-- `PARTIAL_CREATE_FAILED`. -/
  | partialCreate (completed : List EditorItem) (failed : Js)

structure EditorResponse where
  dryRun : Bool
  items : List EditorItem

abbrev EditorHandler (α : Type) := Async EditorError Transcript α

def refuse {α : Type} (e : Exception) : EditorHandler α := .fail (.exception e)

def send (client : EditorClient) (call : EditorCall) : EditorHandler (Except KubeError Js) :=
  .exec fun t => (client t call, t ++ [(call, client t call)])

def sendChecked (client : EditorClient) (failure : KubeError → Exception) (call : EditorCall) :
    EditorHandler Js :=
  send client call >>= fun answer => match answer with
    | .ok object => .done object
    | .error e => refuse (failure e)

def isDefaultClass (object : Js) : Bool :=
  (((object.field "metadata").field "annotations").field
    "ingressclass.kubernetes.io/is-default-class").isText "true"

def isOtherDefault (manifest item : Js) : Bool :=
  jsText ((item.field "metadata").field "name") !=
    jsText ((manifest.field "metadata").field "name") && isDefaultClass item

def assertIngressClassDefault (client : EditorClient) (manifest : Js) : EditorHandler Unit :=
  if (manifest.field "kind").isText "IngressClass" && isDefaultClass manifest then
    sendChecked client (fun e => .error e.message) .listIngressClasses >>= fun list =>
      if ((list.field "items").elements?.getD []).any (isOtherDefault manifest) then
        refuse (.conflict "已有默认 IngressClass，请在列表中使用“设为默认”并确认影响范围")
      else .done ()
  else .done ()

def editorItem (result fallback : Js) : EditorItem :=
  let metadata := Js.object (fieldsOf ((result.field "metadata").orElse (fallback.field "metadata")))
  { apiVersion := jsText ((result.field "apiVersion").orElse (fallback.field "apiVersion"))
    kind := jsText ((result.field "kind").orElse (fallback.field "kind"))
    name := jsText ((metadata.field "name").orElse (.string ""))
    «namespace» := jsText ((metadata.field "namespace").orElse (.string ""))
    resourceVersion := extractResourceVersion result }

def checkAll (client : EditorClient) : List Js → EditorHandler (List EditorItem)
  | [] => .done []
  | manifest :: rest =>
      assertIngressClassDefault client manifest >>= fun _ =>
        sendChecked client editorApiError (.create manifest true) >>= fun checked =>
          checkAll client rest >>= fun items => .done (editorItem checked checked :: items)

def createAll (client : EditorClient) : List EditorItem → List Js → EditorHandler (List EditorItem)
  | items, [] => .done items
  | items, manifest :: rest =>
      send client (.create manifest false) >>= fun answer => match answer with
        | .ok created => createAll client (items ++ [editorItem created manifest]) rest
        | .error e =>
            if items = [] then refuse (editorApiError e) else .fail (.partialCreate items manifest)

def expectedVersion (service : EditorService) (input : ResourceEditorSubmitRequest) (draft : Js) :
    Except Exception String := do
  let identity := input.identity
  let metadata := draft.field "metadata"
  if isBlank identity.apiVersion ∨ isBlank identity.kind ∨ isBlank identity.name then
    .error (.badRequest "update 必须提供完整 identity")
  let _ ← resolveEditorScope service (Text.trim input.clusterId) identity.apiVersion identity.kind
    identity.namespace identity.resource
  if identity.apiVersion ≠ (draft.field "apiVersion").text? ∨
      identity.kind ≠ (draft.field "kind").text? ∨ identity.name ≠ (metadata.field "name").text? ∨
      identity.namespace.getD "" ≠ (metadata.field "namespace").text?.getD "" then
    .error (.badRequest "YAML 与 identity 不一致")
  let expected := input.resourceVersion.or (extractResourceVersion draft)
  if isBlank expected then .error (.badRequest "update 必须提供 resourceVersion")
  return expected.getD ""

def versionedDraft (draft : Js) (expected : String) : Js :=
  .object (removeField (setField (fieldsOf draft) "metadata" (.object (setField
    (fieldsOf (draft.field "metadata")) "resourceVersion" (.string expected)))) "status")

def updateOne (service : EditorService) (client : EditorClient)
    (input : ResourceEditorSubmitRequest) (draft : Js) : EditorHandler EditorResponse :=
  match expectedVersion service input draft with
  | .error e => refuse e
  | .ok expected =>
      sendChecked client editorApiError (.read draft) >>= fun current =>
        if extractResourceVersion current ≠ some expected then
          refuse (.conflict "资源版本已变更，请刷新后重试")
        else if ((extractResourceVersion draft).filter (· != "")).any (· != expected) then
          refuse (.conflict "YAML resourceVersion 与请求不一致")
        else assertIngressClassDefault client (versionedDraft draft expected) >>= fun _ =>
          sendChecked client editorApiError
              (.replace (versionedDraft draft expected) input.dryRun) >>= fun updated =>
            .done ⟨input.dryRun, [editorItem updated updated]⟩

def submitEditor (service : EditorService) (client : EditorClient)
    (input : ResourceEditorSubmitRequest) : EditorHandler EditorResponse :=
  match prepareEditor service input with
  | .error e => refuse e
  | .ok manifests => match input.operation, manifests with
      | .create, manifests =>
          checkAll client manifests >>= fun checked =>
            if input.dryRun then .done ⟨true, checked⟩
            else createAll client [] manifests >>= fun items => .done ⟨false, items⟩
      | .update, [draft] => updateOne service client input draft
      | .update, _ => refuse (.badRequest "update 仅支持单个 YAML 资源")

/-! ## What the transcript shows -/

def createdItem? : EditorCall × Except KubeError Js → Option EditorItem
  | (.create manifest false, .ok created) => some (editorItem created manifest)
  | _ => none

def createdItems (t : Transcript) : List EditorItem := t.filterMap createdItem?

/-- Each object is written after calls of which `P` holds. -/
def EachWrite (P : Transcript → Js → Prop) (t : Transcript) : Prop :=
  ∀ before entry, before ++ [entry] <+: t → ∀ object, entry.1.written? = some object →
    P before object

def Accounts (t : Transcript) : EditorError → Prop
  | .exception _ => createdItems t = []
  | .partialCreate completed _ => createdItems t = completed ∧ completed ≠ []

def Passed (manifests : List Js) (t : Transcript) : Prop :=
  ∀ manifest ∈ manifests, ∃ o, (EditorCall.create manifest true, .ok o) ∈ t

def Grows (known : Transcript → Prop) : Prop := ∀ t entry, known t → known (t ++ [entry])

theorem grows_passed (manifests : List Js) : Grows (Passed manifests) := by
  intro t entry h manifest hmanifest
  obtain ⟨o, ho⟩ := h manifest hmanifest
  exact ⟨o, List.mem_append_left _ ho⟩

theorem Grows.and_mem {known : Transcript → Prop} (h : Grows known)
    (entry : EditorCall × Except KubeError Js) : Grows fun t => known t ∧ entry ∈ t :=
  fun t _ ht => ⟨h t _ ht.1, List.mem_append_left _ ht.2⟩

/-- What has been created, and what is known from the answers. -/
def Progress (P : Transcript → Js → Prop) (items : List EditorItem) (known : Transcript → Prop)
    (t : Transcript) : Prop :=
  EachWrite P t ∧ createdItems t = items ∧ known t

def Ends {α : Type} (P : Transcript → Js → Prop) (created : α → List EditorItem)
    (known : Transcript → Prop) (r : Except EditorError α) (t : Transcript) : Prop :=
  EachWrite P t ∧ match r with
    | .ok a => createdItems t = created a ∧ known t
    | .error e => Accounts t e

def transcriptOnly : Contract Transcript where
  env _ _ := False
  guar _ _ := True
  assumes _ := True
  refl _ := trivial

theorem stable_transcript (p : Transcript → Prop) : Stable transcriptOnly p :=
  fun _ _ _ h => h.elim

section Phases

variable {α : Type} {P : Transcript → Js → Prop} {items : List EditorItem}
  {known : Transcript → Prop} {client : EditorClient} {call : EditorCall}
  {Q : Except EditorError α → Transcript → Prop}

theorem Progress.append {t : Transcript} (h : Progress P items known t) (hknown : Grows known)
    (answer : Except KubeError Js) (hcall : ∀ object, call.written? = some object → P t object) :
    Progress P (items ++ (createdItem? (call, answer)).toList)
      (fun t => known t ∧ (call, answer) ∈ t) (t ++ [(call, answer)]) := by
  obtain ⟨hwrites, hcreated, ht⟩ := h
  refine ⟨fun before entry hprefix object hobject => ?_, ?_, hknown t _ ht, by simp⟩
  · rcases List.prefix_concat_iff.mp hprefix with heq | hprefix
    · obtain ⟨rfl, hlast⟩ := List.append_inj' heq rfl
      obtain rfl := List.singleton_inj.mp hlast
      exact hcall object hobject
    · exact hwrites before entry hprefix object hobject
  · rw [createdItems, List.filterMap_append, ← createdItems, hcreated]
    cases hitem : createdItem? (call, answer) <;> simp [hitem]

theorem triple_send {k : Except KubeError Js → EditorHandler α} (hknown : Grows known)
    (hcall : ∀ t, Progress P items known t → ∀ object, call.written? = some object → P t object)
    (hk : ∀ answer, Triple transcriptOnly
      (Progress P (items ++ (createdItem? (call, answer)).toList)
        fun t => known t ∧ (call, answer) ∈ t) (k answer) Q) :
    Triple transcriptOnly (Progress P items known) (send client call >>= k) Q :=
  .exec_bind (stable_transcript _) fun t h _ =>
    ⟨trivial, (hk _).guards (h.append hknown _ (hcall t h))⟩

theorem triple_refuse {created : α → List EditorItem} {known' : Transcript → Prop} (x : Exception) :
    Triple transcriptOnly (Progress P [] known) (refuse x) (Ends P created known') :=
  .fail (stable_transcript _) fun _ h => ⟨h.1, h.2.1⟩

theorem triple_sendChecked {created : α → List EditorItem} {known' : Transcript → Prop}
    {failure : KubeError → Exception} {k : Js → EditorHandler α} (hknown : Grows known)
    (hcall : ∀ t, Progress P [] known t → ∀ object, call.written? = some object → P t object)
    (hnone : ∀ answer, createdItem? (call, answer) = none)
    (hk : ∀ o, Triple transcriptOnly (Progress P [] fun t => known t ∧ (call, .ok o) ∈ t) (k o)
      (Ends P created known')) :
    Triple transcriptOnly (Progress P [] known) (sendChecked client failure call >>= k)
      (Ends P created known') := by
  rw [sendChecked, Async.bind_assoc]
  refine triple_send hknown hcall fun answer => ?_
  rw [hnone]
  cases answer with
  | ok o => exact hk o
  | error e => exact triple_refuse _

theorem triple_assertIngressClassDefault (manifest : Js) (hknown : Grows known) :
    Triple transcriptOnly (Progress P [] known) (assertIngressClassDefault client manifest)
      (Ends P (fun _ => []) known) := by
  refine .ite (fun _ => ?_) fun _ => .done (stable_transcript _) fun _ h => h
  refine triple_sendChecked hknown (fun _ _ _ h => by cases h) (fun _ => rfl) fun list => ?_
  exact .ite (fun _ => triple_refuse _) fun _ => .done (stable_transcript _) fun _ h =>
    ⟨h.1, h.2.1, h.2.2.1⟩

theorem triple_checkAll (manifests passed : List Js) :
    Triple transcriptOnly (Progress P [] (Passed passed)) (checkAll client manifests)
      (Ends P (fun _ => []) (Passed (passed ++ manifests))) := by
  induction manifests generalizing passed with
  | nil => exact .done (stable_transcript _) fun _ h => by rwa [List.append_nil]
  | cons manifest rest ih =>
      refine .bind (triple_assertIngressClassDefault manifest (grows_passed passed)) (fun _ => ?_)
        fun _ _ h => h
      refine triple_sendChecked (grows_passed passed) (fun _ _ _ h => by cases h) (fun _ => rfl)
        fun checked => ?_
      refine .bind ((ih (passed ++ [manifest])).conseq (fun t h => ⟨h.1, h.2.1, fun m hm => ?_⟩)
        fun _ _ h => h) (fun items => .done (stable_transcript _) fun _ h => ?_) fun _ _ h => h
      · rcases List.mem_append.mp hm with hold | hnew
        · exact h.2.2.1 m hold
        · rw [List.mem_singleton.mp hnew]
          exact ⟨checked, h.2.2.2⟩
      · rwa [List.append_assoc] at h

theorem triple_createAll (manifests : List Js)
    (hP : ∀ t, Passed manifests t → ∀ manifest ∈ manifests, P t manifest) (rest : List Js)
    (hrest : rest ⊆ manifests) (items : List EditorItem) :
    Triple transcriptOnly (Progress P items (Passed manifests)) (createAll client items rest)
      (Ends P id fun _ => True) := by
  induction rest generalizing items with
  | nil => exact .done (stable_transcript _) fun _ h => ⟨h.1, h.2.1, trivial⟩
  | cons manifest rest ih =>
      refine triple_send (grows_passed _) (fun t h object hobject => ?_) fun answer => ?_
      · obtain rfl := Option.some.inj hobject
        exact hP t h.2.2 manifest (hrest List.mem_cons_self)
      cases answer with
      | ok created =>
          exact (ih (fun m hm => hrest (List.mem_cons_of_mem _ hm)) _).conseq
            (fun _ h => ⟨h.1, h.2.1, h.2.2.1⟩) fun _ _ h => h
      | error e =>
          refine Triple.conseq (q := Progress P items fun _ => True) ?_
            (fun _ h => ⟨h.1, by simpa [createdItem?] using h.2.1, trivial⟩) fun _ _ h => h
          refine .ite (fun hnone => hnone ▸ triple_refuse _) fun hsome => ?_
          exact .fail (stable_transcript _) fun _ h => ⟨h.1, h.2.1, hsome⟩

end Phases

theorem prepareEditor_ok {service : EditorService} {input : ResourceEditorSubmitRequest}
    {manifests : List Js} (h : prepareEditor service input = .ok manifests) :
    ∀ manifest ∈ manifests, service.authorize manifest = .ok () ∧
      validateSecretManifest service.crypto manifest = .ok () := by
  simp only [prepareEditor] at h
  rw [Results.throwIf_eq_ok rfl, Results.bind_eq_ok] at h
  obtain ⟨-, parsed, -, h⟩ := h
  rw [Results.bind_eq_ok] at h
  obtain ⟨prepared, -, h⟩ := h
  rw [Results.throwIf_eq_ok rfl, Results.check_eq_ok, Results.check_eq_ok] at h
  obtain ⟨-, hauthorized, hvalid, h⟩ := h
  rw [Results.throwIf_eq_ok rfl, Results.check_eq_ok] at h
  obtain ⟨-, -, h⟩ := h
  obtain rfl := Except.ok.inj h
  exact fun manifest hmanifest => ⟨Results.forall_of_forM hauthorized manifest hmanifest,
    Results.forall_of_forM hvalid manifest hmanifest⟩

/-- The request is no dry run, all of its manifests were checked, those to create have passed the
dry run of the server, and an object to replace was read in the version that was expected. -/
def WrittenAfterChecks (service : EditorService) (input : ResourceEditorSubmitRequest)
    (before : Transcript) (object : Js) : Prop :=
  input.dryRun = false ∧ ∃ manifests, prepareEditor service input = .ok manifests ∧
    (∀ manifest ∈ manifests, service.authorize manifest = .ok () ∧
      validateSecretManifest service.crypto manifest = .ok ()) ∧
    (input.operation = .create → object ∈ manifests ∧ Passed manifests before) ∧
    (input.operation = .update → ∃ draft expected current, manifests = [draft] ∧
      expectedVersion service input draft = .ok expected ∧
      (EditorCall.read draft, .ok current) ∈ before ∧
      extractResourceVersion current = some expected ∧ object = versionedDraft draft expected)

def liveItems (input : ResourceEditorSubmitRequest) (response : EditorResponse) : List EditorItem :=
  if input.operation = .create ∧ input.dryRun = false then response.items else []

section Request

variable {service : EditorService} {input : ResourceEditorSubmitRequest}

theorem triple_createBatch (client : EditorClient) {manifests : List Js}
    (hprepared : prepareEditor service input = .ok manifests)
    (hoperation : input.operation = .create) :
    Triple transcriptOnly (Progress (WrittenAfterChecks service input) [] (Passed []))
      (checkAll client manifests >>= fun checked =>
        if input.dryRun then .done ⟨true, checked⟩
        else createAll client [] manifests >>= fun items => .done ⟨false, items⟩)
      (Ends (WrittenAfterChecks service input) (liveItems input) fun _ => True) := by
  refine .bind (triple_checkAll manifests []) (fun checked => ?_) fun _ _ h => h
  refine .ite (fun hdry => .done (stable_transcript _) fun _ h => ?_) fun hlive => ?_
  · exact ⟨h.1, by simpa [liveItems, hdry] using h.2.1, trivial⟩
  have hlive : input.dryRun = false := by simpa using hlive
  refine .bind (triple_createAll manifests (fun t hpassed manifest hmanifest => ?_) manifests
    (List.Subset.refl _) []) (fun items => .done (stable_transcript _) fun _ h => ?_)
    fun _ _ h => h
  · exact ⟨hlive, manifests, hprepared, prepareEditor_ok hprepared,
      fun _ => ⟨hmanifest, hpassed⟩, fun h => by cases hoperation.symm.trans h⟩
  · exact ⟨h.1, by simpa [liveItems, hoperation, hlive] using h.2.1, trivial⟩

theorem triple_updateOne (client : EditorClient) {draft : Js}
    (hprepared : prepareEditor service input = .ok [draft])
    (hoperation : input.operation = .update) :
    Triple transcriptOnly (Progress (WrittenAfterChecks service input) [] (Passed []))
      (updateOne service client input draft)
      (Ends (WrittenAfterChecks service input) (liveItems input) fun _ => True) := by
  unfold updateOne
  split
  · exact triple_refuse _
  rename_i expected hexpected
  refine triple_sendChecked (grows_passed _) (fun _ _ _ h => by cases h) (fun _ => rfl)
    fun current => .ite (fun _ => triple_refuse _) fun hcurrent => .ite (fun _ => triple_refuse _)
      fun _ => ?_
  have hread := (grows_passed []).and_mem (EditorCall.read draft, .ok current)
  refine .bind (triple_assertIngressClassDefault _ hread) (fun _ => ?_) fun _ _ h => h
  refine triple_sendChecked hread (fun t h object hobject => ?_) (fun _ => rfl) fun updated =>
    .done (stable_transcript _) fun _ h => ⟨h.1, by simpa [liveItems, hoperation] using h.2.1,
      trivial⟩
  cases hdry : input.dryRun with
  | true => simp [hdry, EditorCall.written?] at hobject
  | false =>
      simp only [hdry, EditorCall.written?, Option.some.injEq] at hobject
      exact ⟨hdry, [draft], hprepared, prepareEditor_ok hprepared,
        fun h => (by cases hoperation.symm.trans h), fun _ => ⟨draft, expected, current, rfl,
          hexpected, h.2.2.2, by simpa using hcurrent, hobject.symm⟩⟩

theorem ends_submitEditor (service : EditorService) (client : EditorClient)
    (input : ResourceEditorSubmitRequest) :
    Ends (WrittenAfterChecks service input) (liveItems input) (fun _ => True)
      ((submitEditor service client input).run []).1
      ((submitEditor service client input).run []).2 := by
  have htriple : Triple transcriptOnly (Progress (WrittenAfterChecks service input) [] (Passed []))
      (submitEditor service client input)
      (Ends (WrittenAfterChecks service input) (liveItems input) fun _ => True) := by
    unfold submitEditor
    split
    · exact triple_refuse _
    rename_i manifests hprepared
    split
    · rename_i hoperation
      exact triple_createBatch client hprepared hoperation
    · rename_i draft hoperation
      exact triple_updateOne client hprepared hoperation
    · exact triple_refuse _
  have hstart : Progress (WrittenAfterChecks service input) [] (Passed []) [] :=
    ⟨fun _ _ h => absurd (List.prefix_nil.mp h) (by simp), rfl, fun _ h =>
      absurd h List.not_mem_nil⟩
  exact (htriple.guards hstart).answer (.of_run (fun _ => trivial) _ _)

/-- However the cluster answers, an object is written only after all checks of the whole batch. -/
theorem submitEditor_writes (service : EditorService) (client : EditorClient)
    (input : ResourceEditorSubmitRequest) : EachWrite (WrittenAfterChecks service input)
      ((submitEditor service client input).run []).2 :=
  (ends_submitEditor service client input).1

/-- However the cluster answers, the objects created are those that the request names: the items of
its response, those completed before a partial failure, and none with any other error. -/
theorem submitEditor_accounts (service : EditorService) (client : EditorClient)
    (input : ResourceEditorSubmitRequest) :
    (∀ response, ((submitEditor service client input).run []).1 = .ok response →
      createdItems ((submitEditor service client input).run []).2 = liveItems input response) ∧
    ∀ e, ((submitEditor service client input).run []).1 = .error e →
      Accounts ((submitEditor service client input).run []).2 e := by
  have hends := (ends_submitEditor service client input).2
  constructor
  · intro response h
    rw [h] at hends
    exact hends.1
  · intro e h
    rw [h] at hends
    exact hends

end Request

end KubeNova.Resources
