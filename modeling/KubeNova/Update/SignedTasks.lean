import KubeNova.Update.CanonicalJson
import KubeNova.Update.ReleaseManifest
import Mathlib.Data.String.Basic

/-!
# Signed tasks

How `KubernetesUpdateTasksService` signs a payload, stores it as JSON and verifies what it reads
back.  A payload is here whatever value `validateTaskPayload` lets pass, with all its fields; the
database keeps the JSON, and may give the keys back in another order.
-/

namespace KubeNova.Update

open KubeNova.Common KubeNova.Foundation KubeNova.Foundation.Json

/-- The secret, the digest under it and the parts of the language the service calls. -/
structure TaskSigning where
  taskKey : Option String
  hmac : String → String → String
  locale : Locale
  parseDate : String → Option Int

namespace TaskSigning

variable (signing : TaskSigning)

def optional (value : Option Js) : Js := value.getD .undefined

def statusText : CheckStatus → String
  | .passed => "passed"
  | .failed => "failed"
  | .skipped => "skipped"

def actionText : TaskAction → String
  | .install => "install"
  | .rollback => "rollback"
  | .preflight => "preflight"

def checkJs (taskCheck : TaskCheck) : Js := .object [("name", .string taskCheck.name),
  ("status", .string (statusText taskCheck.status)), ("message", .string taskCheck.message)]

def checksJs (checks : List TaskCheck) : Js := .array (checks.map checkJs)

def imagesJs (images : Images) : Js := .object [("frontend", .string (images .frontend)),
  ("controlApi", .string (images .controlApi)),
  ("runtimeGateway", .string (images .runtimeGateway))]

def payloadFields (payload : TaskPayload) : List (String × Js) := [
  ("action", .string (actionText payload.action)),
  ("targetVersion", .string payload.targetVersion),
  ("preflightId", .string payload.preflightId),
  ("preflightExpiresAt", .string payload.preflightExpiresAt),
  ("backupTargetId", .string payload.backupTargetId),
  ("migrationTargetId", optional (payload.migrationTargetId.map .string)),
  ("settingsFingerprint", optional (payload.settingsFingerprint.map .string)),
  ("previousVersion", optional (payload.previousVersion.map .string)),
  ("rollbackTaskId", optional (payload.rollbackTaskId.map .string)),
  ("preflightChecks", optional (payload.preflightChecks.map checksJs)),
  ("images", imagesJs payload.images),
  ("operator", .string payload.operator)]

def payloadJs (payload : TaskPayload) : Js := .object (payloadFields payload)

def resultJs (result : TaskResult) : Js := .object [
  ("checks", optional (result.checks.map checksJs)),
  ("previousImages", optional (result.previousImages.map imagesJs)),
  ("previousVersion", optional (result.previousVersion.map .string))]

/-! ## Signatures -/

/-- What `sign` digests. -/
def payloadText (payload : Js) : String := canonicalJson signing.locale payload

/-- What `signResult` digests. -/
def resultText (result : Js) : String := "result:" ++ canonicalJson signing.locale result

def queueConfig : QueueConfig where
  taskKey := signing.taskKey
  mac :=
    { sign := fun key payload => signing.hmac key (signing.payloadText (payloadJs payload))
      signResult := fun key result => signing.hmac key (signing.resultText (resultJs result)) }

def key : Except Exception String := Tasks.key signing.queueConfig

def sign (payload : Js) : Except Exception String := do
  return signing.hmac (← signing.key) (signing.payloadText payload)

def signResult (result : Js) : Except Exception String := do
  return signing.hmac (← signing.key) (signing.resultText result)

def verify (payload : Js) (signature : String) : Except Exception Bool := do
  if isHexDigits 64 true signature = false then return false
  return (← signing.sign payload) == signature

/-- `value !== undefined && (typeof value !== 'string' || …)` lets it pass. -/
def optionalText (value : Js) (p : String → Bool) : Bool := value.isUndefined || value.text?.any p

def isTaskCheck (value : Js) : Bool :=
  (value.field "name").truthy && ["passed", "failed", "skipped"].any (value.field "status").isText &&
    (value.field "message").text?.isSome

/-- `/^[a-f0-9]{64}$/i.test(value.settingsFingerprint ?? '')` -/
def hasFingerprint (value : Js) : Bool :=
  isHexDigits 64 false (jsText ((value.field "settingsFingerprint").orElse (.string "")))

/-- `validateTaskPayload`; `now` is given where the preflight must be unexpired. -/
def validateTaskPayload (value : Js) (now : Option Nat) : Except Exception Unit := do
  check (["install", "rollback", "preflight"].any (value.field "action").isText)
    "Kubernetes update task action is invalid"
  check (isVersionTag (jsText (value.field "targetVersion")))
    "Kubernetes update task version is invalid"
  check (optionalText (value.field "previousVersion") isVersionTag)
    "Kubernetes previous update version is invalid"
  check (optionalText (value.field "rollbackTaskId") isReference)
    "Kubernetes rollback task reference is invalid"
  check (hasFingerprint value) "Kubernetes update settings fingerprint is invalid"
  check ((value.field "preflightId").text?.any fun id => id ≠ "" && Text.length id ≤ 128)
    "Kubernetes update task preflight binding is invalid"
  check ((value.field "backupTargetId").text?.any isReference)
    "Kubernetes update backup target binding is invalid"
  let isPreflight := (value.field "action").isText "preflight"
  check (isPreflight = false ∨
      (value.field "migrationTargetId").text?.any (Text.trim · ≠ "") ∧ hasFingerprint value)
    "Kubernetes preflight migration target binding is invalid"
  check (isPreflight = false ∨ (value.field "preflightChecks").elements?.any (·.all isTaskCheck))
    "Kubernetes preflight checks are invalid"
  check ((value.field "preflightExpiresAt").text?.any fun text =>
      (signing.parseDate text).any fun expiry : Int =>
        now.all fun now : Nat => decide ((now : Int) < expiry))
    "Kubernetes update task preflight expiry is invalid"
  check ((value.field "images").isComposite) "Kubernetes update task image map is invalid"
  for component in [KubernetesComponent.frontend, .controlApi, .runtimeGateway] do
    check (((value.field "images").field (componentKey component)).text?.any fun image =>
        isTrustedImage (imageName component) (image.toList.map Char.toLower))
      ("Kubernetes update task " ++ componentKey component ++
        " image must use a trusted immutable digest")
  check ((value.field "operator").text?.any isReference)
    "Kubernetes update task operator is invalid"

structure SignedTask where
  payload : Js
  signature : String
  result : Option Js
  resultSignature : Option String

/-- The row that `submit` creates, as JSON columns hold it. -/
def submit (now : Nat) (payload : Js) : Except Exception SignedTask := do
  signing.validateTaskPayload payload (some now)
  let signature ← signing.sign payload
  return ⟨(canonicalValue signing.locale payload).clone, signature, none, none⟩

def verifiedPublicTask (row : SignedTask) : Except Exception SignedTask := do
  signing.validateTaskPayload row.payload none
  let verified ← signing.verify row.payload row.signature
  check (verified = true) "Kubernetes update task signature verification failed"
  if let some result := row.result then
    let expected ← signing.signResult result
    check (row.resultSignature.any (isHexDigits 64 true) ∧ row.resultSignature = some expected)
      "Kubernetes update task result signature verification failed"
  return row

/-! ## What validation looks at -/

/-- The same JSON, where `undefined` stands on both sides or on neither. -/
structure Alike (a b : Js) : Prop where
  same : SameJson a b
  left : a.Proper
  right : b.Proper
  isUndefined_eq : a.isUndefined = b.isUndefined

theorem alike_field {a b : Js} (h : SameJson a b) (ha : a.Proper) (hb : b.Proper) (name : String) :
    Alike (a.field name) (b.field name) := by
  have hrel := h.child (.key name)
  have hdefined : ∀ {v part : Js}, v.Proper → v.child (.key name) = some part →
      part.isUndefined = false := by
    intro v part hv hpart
    cases hv with
    | object hnodup _ =>
        have hmem := (mem_iff_lookup (Js.nodup_present hnodup)).mpr hpart
        exact (Js.mem_present.mp hmem).2
    | _ => cases hpart
  unfold Js.field
  cases hca : a.child (.key name) with
  | none =>
      cases hcb : b.child (.key name) with
      | none => exact ⟨.refl _, .undefined, .undefined, rfl⟩
      | some part' =>
          rw [hca, hcb] at hrel
          cases hrel
  | some part =>
      cases hcb : b.child (.key name) with
      | none =>
          rw [hca, hcb] at hrel
          cases hrel
      | some part' =>
          rw [hca, hcb] at hrel
          cases hrel with
          | some hsame =>
              refine ⟨hsame, ha.child hca, hb.child hcb, ?_⟩
              show part.isUndefined = part'.isUndefined
              rw [hdefined ha hca, hdefined hb hcb]

theorem text?_eq_of_leaf {a b : Js} (h : a.leaf = b.leaf) : a.text? = b.text? := by
  have htext : ∀ v : Js, v.text? = match v.leaf with
      | .string value => some value
      | _ => none := by
    intro v
    cases v <;> rfl
  rw [htext, htext, h]

theorem isText_eq_of_leaf {a b : Js} (h : a.leaf = b.leaf) : a.isText = b.isText := by
  have hisText : ∀ (v : Js) text, v.isText text = v.text?.any (· == text) := by
    intro v text
    cases v <;> rfl
  funext text
  rw [hisText, hisText, text?_eq_of_leaf h]

theorem truthy_eq {a b : Js} (ha : a.Proper) (hb : b.Proper) (h : a.leaf = b.leaf) :
    a.truthy = b.truthy := by
  have htruthy : ∀ v : Js, v.Proper → v.truthy = match v.leaf with
      | .null => false
      | .bool value => value
      | .number value => value.text ≠ "0"
      | .string value => value ≠ ""
      | _ => true := by
    intro v hv
    cases hv <;> rfl
  rw [htruthy a ha, htruthy b hb, h]

def elementText (element : Js) : String := if element.leaf = .null then "" else jsText element

theorem jsTexts_eq {elements : List Js} (h : ∀ e ∈ elements, e.Proper) :
    jsTexts elements = elements.map elementText := by
  induction elements with
  | nil => rfl
  | cons element elements ih =>
      have hrest := ih fun e he => h e (List.mem_cons_of_mem _ he)
      have hhead : jsTexts (element :: elements) = elementText element :: jsTexts elements := by
        cases h element List.mem_cons_self <;> rfl
      rw [hhead, hrest, List.map_cons]

def leafWord : Leaf → String
  | .bool value => if value then "true" else "false"
  | .number value => value.text
  | .string value => value
  | _ => "null"

theorem jsText_eq_leafWord {v : Js} (hv : v.Proper) (h : v.isComposite = false) :
    jsText v = if v.isUndefined then "undefined" else leafWord v.leaf := by
  cases hv with
  | array => cases h
  | object => cases h
  | _ => rfl

theorem jsText_congr {a : Js} : a.Proper → ∀ {b : Js}, b.Proper → SameJson a b →
    a.isUndefined = b.isUndefined → jsText a = jsText b := by
  apply Js.induction (v := a)
  · intro a hleaf ha b hb h hundefined
    rw [jsText_eq_leafWord ha hleaf,
      jsText_eq_leafWord hb (by rw [← isComposite_eq_of_leaf h.leaf, hleaf]), hundefined, h.leaf]
  · intro xs ih ha b hb h _
    cases b with
    | array ys =>
        have hxs : ∀ e ∈ xs, e.Proper := by
          cases ha with
          | array hparts => exact hparts
        have hys : ∀ e ∈ ys, e.Proper := by
          cases hb with
          | array hparts => exact hparts
        rw [jsText, jsText, jsTexts_eq hxs, jsTexts_eq hys]
        congr 1
        apply List.ext_getElem?
        intro n
        rw [List.getElem?_map, List.getElem?_map]
        refine map_eq_of_rel (h.child (.index n)) fun x y hx hy hsame => ?_
        have hmem := List.mem_of_getElem? hx
        unfold elementText
        rw [hsame.leaf]
        by_cases hnull : y.leaf = .null
        · rw [if_pos hnull, if_pos hnull]
        · rw [if_neg hnull, if_neg hnull]
          apply ih x hmem (hxs x hmem) (hys y (List.mem_of_getElem? hy)) hsame
          have hdefined : ∀ v : Js, v.leaf ≠ .null → v.isUndefined = false := by
            intro v hv
            cases v with
            | undefined => exact absurd rfl hv
            | _ => rfl
          rw [hdefined y hnull, hdefined x (by rw [hsame.leaf]; exact hnull)]
    | _ => cases h.leaf
  · intro fs _ _ b _ h _
    cases b with
    | object gs => rfl
    | _ => cases h.leaf

theorem Alike.orElse {a b : Js} (h : Alike a b) (other : Js) (hother : other.Proper) :
    Alike (a.orElse other) (b.orElse other) := by
  have hnull : ∀ v : Js, v.Proper → v.orElse other = if v.leaf = .null then other else v := by
    intro v hv
    cases hv <;> rfl
  rw [hnull a h.left, hnull b h.right, h.same.leaf]
  by_cases hleaf : b.leaf = .null
  · rw [if_pos hleaf, if_pos hleaf]
    exact ⟨.refl _, hother, hother, rfl⟩
  · rw [if_neg hleaf, if_neg hleaf]
    exact h

theorem Alike.jsText {a b : Js} (h : Alike a b) : jsText a = jsText b :=
  jsText_congr h.left h.right h.same h.isUndefined_eq

theorem isTaskCheck_congr {a b : Js} (h : SameJson a b) (ha : a.Proper) (hb : b.Proper) :
    isTaskCheck a = isTaskCheck b := by
  have hname := alike_field h ha hb "name"
  rw [isTaskCheck, isTaskCheck, truthy_eq hname.left hname.right hname.same.leaf,
    isText_eq_of_leaf (alike_field h ha hb "status").same.leaf,
    text?_eq_of_leaf (alike_field h ha hb "message").same.leaf]

theorem all_congr {xs ys : List Js} {p : Js → Bool} (h : SameJson (.array xs) (.array ys))
    (hp : ∀ x ∈ xs, ∀ y ∈ ys, SameJson x y → p x = p y) : xs.all p = ys.all p := by
  have hmap : xs.map p = ys.map p := by
    apply List.ext_getElem?
    intro n
    rw [List.getElem?_map, List.getElem?_map]
    exact map_eq_of_rel (h.child (.index n)) fun x y hx hy =>
      hp x (List.mem_of_getElem? hx) y (List.mem_of_getElem? hy)
  have hall : ∀ l : List Js, l.all p = (l.map p).all id := fun l => by rw [List.all_map]; rfl
  rw [hall, hall, hmap]

theorem checks_congr {a b : Js} (h : Alike a b) :
    a.elements?.any (·.all isTaskCheck) = b.elements?.any (·.all isTaskCheck) := by
  cases a with
  | array xs =>
      cases b with
      | array ys =>
          refine all_congr h.same fun x hx y hy hsame => isTaskCheck_congr hsame ?_ ?_
          · cases h.left with
            | array hparts => exact hparts x hx
          · cases h.right with
            | array hparts => exact hparts y hy
      | _ => cases h.same.leaf
  | _ =>
      cases b with
      | array ys => cases h.same.leaf
      | _ => rfl

theorem optionalText_congr {a b : Js} (h : Alike a b) (p : String → Bool) :
    optionalText a p = optionalText b p := by
  rw [optionalText, optionalText, h.isUndefined_eq, text?_eq_of_leaf h.same.leaf]

theorem hasFingerprint_congr {a b : Js} (h : SameJson a b) (ha : a.Proper) (hb : b.Proper) :
    hasFingerprint a = hasFingerprint b := by
  have hfield := (alike_field h ha hb "settingsFingerprint").orElse (.string "") (.string "")
  rw [hasFingerprint, hasFingerprint, hfield.jsText]

theorem validate_congr {a b : Js} (h : SameJson a b) (ha : a.Proper) (hb : b.Proper)
    (now : Option Nat) :
    signing.validateTaskPayload a now = signing.validateTaskPayload b now := by
  have hfield := alike_field h ha hb
  have htext : ∀ name, (a.field name).text? = (b.field name).text? := fun name =>
    text?_eq_of_leaf (hfield name).same.leaf
  have haction : (a.field "action").isText = (b.field "action").isText :=
    isText_eq_of_leaf (hfield "action").same.leaf
  have himages : (a.field "images").isComposite = (b.field "images").isComposite :=
    isComposite_eq_of_leaf (hfield "images").same.leaf
  have himage : ∀ name, ((a.field "images").field name).text? =
      ((b.field "images").field name).text? := fun name =>
    have himages := hfield "images"
    text?_eq_of_leaf (alike_field himages.same himages.left himages.right name).same.leaf
  unfold validateTaskPayload
  simp only [htext, haction, himages, himage, (hfield "targetVersion").jsText,
    optionalText_congr (hfield "previousVersion"), optionalText_congr (hfield "rollbackTaskId"),
    hasFingerprint_congr h ha hb, checks_congr (hfield "preflightChecks")]

theorem validate_of_unexpired {payload : Js} {now : Nat}
    (h : signing.validateTaskPayload payload (some now) = .ok ()) :
    signing.validateTaskPayload payload none = .ok () := by
  unfold validateTaskPayload at h ⊢
  simp only [Results.check_eq_ok] at h ⊢
  obtain ⟨haction, hversion, hprevious, hrollback, hfingerprint, hpreflight, hbackup, hmigration,
    hchecks, hexpiry, hrest⟩ := h
  refine ⟨haction, hversion, hprevious, hrollback, hfingerprint, hpreflight, hbackup, hmigration,
    hchecks, ?_, hrest⟩
  rw [check_eq_ok_iff] at hexpiry ⊢
  cases htext : (payload.field "preflightExpiresAt").text? with
  | none =>
      rw [htext] at hexpiry
      cases hexpiry
  | some text =>
      rw [htext, Option.any_some] at hexpiry
      rw [Option.any_some]
      cases hdate : signing.parseDate text with
      | none =>
          rw [hdate] at hexpiry
          cases hexpiry
      | some expiry => rfl

theorem nodup_payloadFields (payload : TaskPayload) :
    ((payloadFields payload).map Prod.fst).Nodup := by
  simp [payloadFields]

theorem field_payloadJs (payload : TaskPayload) (name : String) :
    (payloadJs payload).field name = ((payloadFields payload).lookup name).getD .undefined :=
  Js.field_object (nodup_payloadFields payload) name

theorem optionalText_optional (o : Option String) (p : String → Bool) :
    optionalText (optional (o.map .string)) p = o.all p := by
  cases o <;> rfl

theorem isTaskCheck_checkJs (taskCheck : TaskCheck) :
    isTaskCheck (checkJs taskCheck) = decide (taskCheck.name ≠ "") := by
  have hname : (checkJs taskCheck).field "name" = .string taskCheck.name := rfl
  have hstatus : (checkJs taskCheck).field "status" = .string (statusText taskCheck.status) := rfl
  have hmessage : (checkJs taskCheck).field "message" = .string taskCheck.message := rfl
  have hknown : ["passed", "failed", "skipped"].any
      (Js.string (statusText taskCheck.status)).isText = true := by
    cases taskCheck.status <;> decide
  rw [isTaskCheck, hname, hstatus, hmessage, hknown, Bool.and_true]
  exact Bool.and_true _

theorem checks_payloadJs (o : Option (List TaskCheck)) :
    (optional (o.map checksJs)).elements?.any (·.all isTaskCheck) =
      o.any fun checks => checks.all fun taskCheck => decide (taskCheck.name ≠ "") := by
  cases o with
  | none => rfl
  | some checks =>
      show (checks.map checkJs).all isTaskCheck = _
      rw [List.all_map, Option.any_some]
      congr 1
      funext taskCheck
      exact isTaskCheck_checkJs taskCheck

theorem hasFingerprint_payloadJs (payload : TaskPayload) : hasFingerprint (payloadJs payload) =
    isHexDigits 64 false (payload.settingsFingerprint.getD "") := by
  have hfield : (payloadJs payload).field "settingsFingerprint" =
      optional (payload.settingsFingerprint.map .string) :=
    field_payloadJs payload "settingsFingerprint"
  rw [hasFingerprint, hfield]
  cases payload.settingsFingerprint <;> rfl

theorem images_payloadJs (images : Images) (component : KubernetesComponent) :
    ((imagesJs images).field (componentKey component)).text? = some (images component) := by
  cases component <;> rfl

theorem validate_payloadJs (hdate : signing.parseDate = Common.parseDate) (payload : TaskPayload)
    (now : Option Nat) : signing.validateTaskPayload (payloadJs payload) now =
      Update.validateTaskPayload payload now := by
  have haction : (payloadJs payload).field "action" = .string (actionText payload.action) :=
    field_payloadJs payload "action"
  have htext : (Js.string (actionText payload.action)).isText "preflight" =
      decide (payload.action = .preflight) := by
    cases payload.action <;> decide
  have hknown : ["install", "rollback", "preflight"].any
      (Js.string (actionText payload.action)).isText = true := by
    cases payload.action <;> decide
  have hmigration : (payloadJs payload).field "migrationTargetId" =
      optional (payload.migrationTargetId.map .string) := field_payloadJs payload "migrationTargetId"
  have htarget : (optional (payload.migrationTargetId.map .string)).text? =
      payload.migrationTargetId := by
    cases payload.migrationTargetId <;> rfl
  have hpreflight : (payloadJs payload).field "preflightId" = .string payload.preflightId :=
    field_payloadJs payload "preflightId"
  have himages : (payloadJs payload).field "images" = imagesJs payload.images :=
    field_payloadJs payload "images"
  have hcomposite : (imagesJs payload.images).isComposite = true := rfl
  have hchecks : (payloadJs payload).field "preflightChecks" =
      optional (payload.preflightChecks.map checksJs) := field_payloadJs payload "preflightChecks"
  have hversion : (payloadJs payload).field "targetVersion" = .string payload.targetVersion :=
    field_payloadJs payload "targetVersion"
  have hbackup : (payloadJs payload).field "backupTargetId" = .string payload.backupTargetId :=
    field_payloadJs payload "backupTargetId"
  unfold validateTaskPayload Update.validateTaskPayload
  rw [haction, check_bind hknown, hasFingerprint_payloadJs]
  refine check_bind_congr (by rw [hversion, jsText]) fun _ => ?_
  refine check_bind_congr (by rw [field_payloadJs, ← optionalText_optional]; rfl) fun _ => ?_
  refine check_bind_congr (by rw [field_payloadJs, ← optionalText_optional]; rfl) fun _ => ?_
  refine check_bind_congr .rfl fun hfingerprint => ?_
  refine check_bind_congr ?_ fun _ => ?_
  · rw [hpreflight, Js.text?, Option.any_some]
    simp
  refine check_bind_congr (by rw [hbackup, Js.text?, Option.any_some]) fun _ => ?_
  refine check_bind_congr ?_ fun _ => ?_
  · rw [htext, hmigration, htarget, hfingerprint]
    simp
  refine check_bind_congr ?_ fun _ => ?_
  · rw [htext, hchecks, checks_payloadJs]
    simp
  refine check_bind_congr (by rw [field_payloadJs, hdate]; rfl) fun _ => ?_
  have hoperator : (payloadJs payload).field "operator" = .string payload.operator :=
    field_payloadJs payload "operator"
  rw [himages, check_bind hcomposite, hoperator]
  simp only [images_payloadJs, Option.any_some]
  rfl

structure PayloadValue where
  value : Js
  proper : value.Proper

structure JsonDocument where
  value : Js
  isJson : value.IsJson

/-- The digests are hexadecimal, and different for different texts of the set. -/
structure Separates (texts : Set String) : Prop where
  isHex : ∀ key text, isHexDigits 64 true (signing.hmac key text) = true
  injective : ∀ key, Set.InjOn (signing.hmac key) texts

variable {signing}

theorem sign_eq_ok {payload : Js} {signature : String} (h : signing.sign payload = .ok signature) :
    ∃ key, signing.key = .ok key ∧ signature = signing.hmac key (signing.payloadText payload) := by
  obtain ⟨key, hkey, hsignature⟩ := Results.bind_eq_ok.mp h
  exact ⟨key, hkey, (Except.ok.inj hsignature).symm⟩

theorem signResult_eq_ok {result : Js} {signature : String}
    (h : signing.signResult result = .ok signature) :
    ∃ key, signing.key = .ok key ∧ signature = signing.hmac key (signing.resultText result) := by
  obtain ⟨key, hkey, hsignature⟩ := Results.bind_eq_ok.mp h
  exact ⟨key, hkey, (Except.ok.inj hsignature).symm⟩

theorem verify_iff {texts : Set String} (hmac : signing.Separates texts) {key text : String}
    (hkey : signing.key = .ok key) {payload : Js} (htext : text ∈ texts)
    (hpayload : signing.payloadText payload ∈ texts) :
    signing.verify payload (signing.hmac key text) = .ok true ↔
      signing.payloadText payload = text := by
  have hverify : signing.verify payload (signing.hmac key text) =
      .ok (signing.hmac key (signing.payloadText payload) == signing.hmac key text) := by
    rw [verify, hmac.isHex key text, if_neg (by decide), sign, hkey]
    rfl
  rw [hverify]
  constructor
  · intro h
    exact hmac.injective key hpayload htext (beq_iff_eq.mp (Except.ok.inj h))
  · intro h
    rw [h, beq_self_eq_true]

theorem submit_eq_ok {now : Nat} {payload : Js} {row : SignedTask}
    (h : signing.submit now payload = .ok row) :
    signing.validateTaskPayload payload none = .ok () ∧
      ∃ key, signing.key = .ok key ∧ row = ⟨(canonicalValue signing.locale payload).clone,
        signing.hmac key (signing.payloadText payload), none, none⟩ := by
  obtain ⟨hvalid, h⟩ := Results.check_eq_ok.mp h
  obtain ⟨signature, hsignature, h⟩ := Results.bind_eq_ok.mp h
  obtain ⟨key, hkey, rfl⟩ := sign_eq_ok hsignature
  exact ⟨validate_of_unexpired signing hvalid, key, hkey, (Except.ok.inj h).symm⟩

theorem verifiedPublicTask_eq_ok_iff {row row' : SignedTask} (hresult : row.result = none) :
    signing.verifiedPublicTask row = .ok row' ↔
      (signing.validateTaskPayload row.payload none = .ok () ∧
        signing.verify row.payload row.signature = .ok true) ∧ row' = row := by
  unfold verifiedPublicTask
  rw [Results.check_eq_ok, Results.bind_eq_ok, hresult]
  constructor
  · rintro ⟨hvalid, verified, hverified, h⟩
    obtain ⟨hcheck, h⟩ := Results.check_eq_ok.mp h
    rw [check_eq_ok_iff] at hcheck
    subst hcheck
    exact ⟨⟨hvalid, hverified⟩, (Except.ok.inj h).symm⟩
  · rintro ⟨⟨hvalid, hverified⟩, rfl⟩
    refine ⟨hvalid, true, hverified, Results.check_eq_ok.mpr ⟨check_eq_ok_iff.mpr rfl, rfl⟩⟩

theorem sameJson_stored {payload : Js} (h : payload.Proper) :
    SameJson (canonicalValue signing.locale payload).clone payload :=
  (SameJson.clone _).trans (sameJson_canonicalValue h)

theorem payloadText_ne_resultText (payload result : Js) :
    signing.payloadText payload ≠ signing.resultText result := by
  intro h
  have hchars := congrArg String.toList h
  rw [payloadText, resultText, canonicalJson, String.toList_ofList, String.toList_append] at hchars
  exact stringify_ne_cons (by decide) (by decide) _ _ hchars

theorem resultText_injective {a b : Js} (h : signing.resultText a = signing.resultText b) :
    canonicalJson signing.locale a = canonicalJson signing.locale b := by
  have hchars := congrArg String.toList h
  rw [resultText, resultText, String.toList_append, String.toList_append] at hchars
  exact String.toList_inj.mp (List.append_cancel_left hchars)

/-- Every order of the keys is let through exactly if no two keys tie; no other JSON is, and no
signature made for a result. -/
theorem stored_payload_verifies_iff (signing : TaskSigning) {texts : Set String}
    (hmac : signing.Separates texts) {now : Nat} {payload : PayloadValue} {row : SignedTask}
    (hsubmit : signing.submit now payload.value = .ok row)
    (htext : signing.payloadText payload.value ∈ texts)
    (htexts : ∀ p : JsonDocument, SameJson p.value payload.value →
      signing.payloadText p.value ∈ texts) :
    ((∀ p : JsonDocument, SameJson p.value row.payload →
        ∃ row', signing.verifiedPublicTask { row with payload := p.value } = .ok row') ↔
      KeysApart signing.locale payload.value) ∧
    (∀ p : JsonDocument, signing.payloadText p.value ∈ texts → ¬SameJson p.value payload.value →
      ∀ row', signing.verifiedPublicTask { row with payload := p.value } ≠ .ok row') ∧
    (∀ (p : JsonDocument) (result : Js) (signature : String),
      signing.payloadText p.value ∈ texts → signing.resultText result ∈ texts →
        signing.signResult result = .ok signature → ∀ row', signing.verifiedPublicTask
          { row with payload := p.value, signature := signature } ≠ .ok row') ∧
    (∀ a b : PayloadValue, ¬SameJson a.value b.value →
      signing.payloadText a.value ≠ signing.payloadText b.value ∧
        signing.resultText a.value ≠ signing.resultText b.value) ∧
    ∀ a b : PayloadValue, signing.payloadText a.value ≠ signing.resultText b.value := by
  obtain ⟨hvalid, key, hkey, rfl⟩ := submit_eq_ok hsubmit
  have hstored := @sameJson_stored signing _ payload.proper
  have htexts' : ∀ a b : PayloadValue, ¬SameJson a.value b.value →
      canonicalJson signing.locale a.value ≠ canonicalJson signing.locale b.value :=
    fun a b hdiffer hsame => hdiffer (sameJson_of_canonicalJson a.proper b.proper hsame)
  refine ⟨⟨fun hall => ?_, fun hapart p hp => ?_⟩, fun p hp hdiffer row' haccepted => ?_,
    fun p result signature hp hresult hsigned row' haccepted => ?_, fun a b hdiffer => ?_,
    fun a b => payloadText_ne_resultText a.value b.value⟩
  · -- Every order has the text that was signed, so all have one.
    have hsigned : ∀ b : Js, b.IsJson → SameJson b (canonicalValue signing.locale payload.value).clone →
        signing.payloadText b = signing.payloadText payload.value := by
      intro b hb hsame
      obtain ⟨row', haccepted⟩ := hall ⟨b, hb⟩ hsame
      obtain ⟨⟨-, hverified⟩, -⟩ := (verifiedPublicTask_eq_ok_iff rfl).mp haccepted
      exact (verify_iff hmac hkey htext (htexts ⟨b, hb⟩ (hsame.trans hstored))).mp hverified
    have hone : OneText signing.locale (canonicalValue signing.locale payload.value).clone := by
      intro b c hb hc hbs hcs
      exact String.ofList_injective ((hsigned b hb hbs).trans (hsigned c hc hcs).symm)
    exact (hone.keysApart (proper_canonicalValue payload.proper).isJson_clone).sameJson hstored
  · have hsame : SameJson p.value payload.value := hp.trans hstored
    have htexteq : signing.payloadText p.value = signing.payloadText payload.value :=
      congrArg String.ofList
        (canonicalText_congr payload.proper hapart p.isJson.proper hsame.symm).symm
    refine ⟨_, (verifiedPublicTask_eq_ok_iff rfl).mpr ⟨⟨?_, ?_⟩, rfl⟩⟩
    · rw [validate_congr signing hsame p.isJson.proper payload.proper]
      exact hvalid
    · exact (verify_iff hmac hkey htext (htexts p hsame)).mpr htexteq
  · obtain ⟨⟨-, hverified⟩, -⟩ := (verifiedPublicTask_eq_ok_iff rfl).mp haccepted
    have htexteq := (verify_iff hmac hkey htext hp).mp hverified
    exact hdiffer (sameJson_of_canonicalJson p.isJson.proper payload.proper htexteq)
  · obtain ⟨⟨-, hverified⟩, -⟩ := (verifiedPublicTask_eq_ok_iff rfl).mp haccepted
    obtain ⟨key', hkey', rfl⟩ := signResult_eq_ok hsigned
    exact payloadText_ne_resultText _ _ ((verify_iff hmac hkey' hresult hp).mp hverified)
  · exact ⟨htexts' a b hdiffer, fun hsame => htexts' a b hdiffer (resultText_injective hsame)⟩

/-! ## A payload with two keys that look alike -/

theorem proper_payloadJs (payload : TaskPayload) : (payloadJs payload).Proper := by
  have htext : ∀ o : Option String, (optional (o.map Js.string)).Proper := by
    intro o
    cases o with
    | none => exact .undefined
    | some text => exact .string text
  have hchecks : (optional (payload.preflightChecks.map checksJs)).Proper := by
    cases payload.preflightChecks with
    | none => exact .undefined
    | some checks =>
        refine .array fun e he => ?_
        obtain ⟨taskCheck, -, rfl⟩ := List.mem_map.mp he
        refine .object (by simp) fun f hf => ?_
        simp only [List.mem_cons, List.not_mem_nil, or_false] at hf
        rcases hf with rfl | rfl | rfl <;> exact .string _
  have himages : (imagesJs payload.images).Proper := by
    refine .object (by simp) fun f hf => ?_
    simp only [List.mem_cons, List.not_mem_nil, or_false] at hf
    rcases hf with rfl | rfl | rfl <;> exact .string _
  refine .object (nodup_payloadFields payload) fun f hf => ?_
  simp only [payloadFields, List.mem_cons, List.not_mem_nil, or_false] at hf
  rcases hf with rfl | rfl | rfl | rfl | rfl | rfl | rfl | rfl | rfl | rfl | rfl | rfl
  all_goals first | exact .string _ | exact htext _ | exact hchecks | exact himages

theorem submit_of_valid {now : Nat} {payload : Js} {key : String}
    (hvalid : signing.validateTaskPayload payload (some now) = .ok ())
    (hkey : signing.key = .ok key) : signing.submit now payload =
      .ok ⟨(canonicalValue signing.locale payload).clone,
        signing.hmac key (signing.payloadText payload), none, none⟩ := by
  rw [submit, hvalid, sign, hkey]
  rfl

theorem key_of_sample (h : signing.taskKey = some sampleDigest) :
    signing.key = .ok sampleDigest := by
  have htrim : Text.trim sampleDigest = sampleDigest := by decide +kernel
  have hgood : (isHexDigits 64 false sampleDigest &&
      !sampleDigest.toList.all (some · == sampleDigest.toList.head?)) = true := by decide +kernel
  have hraw : Text.trim (signing.queueConfig.taskKey.getD "") = sampleDigest := by
    rw [queueConfig, h, Option.getD_some, htrim]
  rw [key, Tasks.key, hraw, if_pos hgood]

/-- The digest of the payload of `releasePayload`. -/
def releaseDigest : String := "0ed23270e457d89eafc3f3da8f710802bff0bd812a1aeff5c66b941b2edcf333"

def plainSigning : TaskSigning where
  taskKey := some sampleDigest
  hmac _ _ := releaseDigest
  locale := foldLocale id
  parseDate := Common.parseDate

theorem valid_release : plainSigning.validateTaskPayload (payloadJs (releasePayload 'a'))
    (some 1769846000000) = .ok () :=
  (validate_payloadJs plainSigning rfl _ _).trans (submit_release (.inl rfl))

theorem keysApart_id (value : Js) : KeysApart (foldLocale id) value := by
  intro path key other hne _ _
  refine .inr (.inr ?_)
  show (if key = other then (0 : Int) else if key < other then -1 else 1) ≠ 0
  rw [if_neg hne]
  split <;> decide

def releaseValue : PayloadValue := ⟨payloadJs (releasePayload 'a'), proper_payloadJs _⟩

/-- A release as it is signed, stored with its keys in any order and read back. -/
theorem stored_release_verifies : ∃ row,
    plainSigning.submit 1769846000000 releaseValue.value = .ok row ∧
    ∀ p : JsonDocument, SameJson p.value row.payload →
      ∃ row', plainSigning.verifiedPublicTask { row with payload := p.value } = .ok row' := by
  have hapart := keysApart_id releaseValue.value
  have hsubmit : plainSigning.submit 1769846000000 releaseValue.value = .ok _ :=
    submit_of_valid valid_release (key_of_sample rfl)
  have hdigest : isHexDigits 64 true releaseDigest = true := by decide +kernel
  have hmac : plainSigning.Separates {plainSigning.payloadText releaseValue.value} :=
    ⟨fun _ _ => hdigest, fun _ => Set.injOn_singleton _ _⟩
  have htexts : ∀ p : JsonDocument, SameJson p.value releaseValue.value →
      plainSigning.payloadText p.value ∈
        ({plainSigning.payloadText releaseValue.value} : Set String) := by
    intro p hp
    rw [Set.mem_singleton_iff]
    exact congrArg String.ofList
      (canonicalText_congr releaseValue.proper hapart p.isJson.proper hp.symm).symm
  have hall := stored_payload_verifies_iff plainSigning hmac hsubmit (Set.mem_singleton _) htexts
  exact ⟨_, hsubmit, hall.1.mpr hapart⟩

def payloadNames : List String :=
  ["action", "targetVersion", "preflightId", "preflightExpiresAt", "backupTargetId",
    "migrationTargetId", "settingsFingerprint", "previousVersion", "rollbackTaskId",
    "preflightChecks", "images", "operator"]

theorem keys_payloadFields (payload : TaskPayload) :
    (payloadFields payload).map Prod.fst = payloadNames := rfl

theorem validate_of_fields {a b : Js} (now : Option Nat)
    (h : ∀ name ∈ payloadNames, a.field name = b.field name) :
    signing.validateTaskPayload a now = signing.validateTaskPayload b now := by
  unfold validateTaskPayload
  simp only [hasFingerprint, h "action" (by decide), h "targetVersion" (by decide),
    h "previousVersion" (by decide), h "rollbackTaskId" (by decide), h "preflightId" (by decide),
    h "settingsFingerprint" (by decide), h "backupTargetId" (by decide), h "images" (by decide),
    h "migrationTargetId" (by decide), h "preflightChecks" (by decide), h "operator" (by decide),
    h "preflightExpiresAt" (by decide)]
  rfl

/-- The letter e with an acute accent, as one character and as two. -/
def twinFields : List (String × Js) := [("\u00e9", .bool true), ("e\u0301", .bool false)]

def twinPayload : Js := .object (payloadFields (releasePayload 'a') ++ twinFields)

def accentFold (text : String) : String := if text = "\u00e9" then "e\u0301" else text

def twinHmac (twinText text : String) : String :=
  if text = twinText then releaseDigest else sampleDigest

def twinSigning : TaskSigning where
  taskKey := some sampleDigest
  hmac _ := twinHmac (canonicalJson (foldLocale accentFold) twinPayload)
  locale := foldLocale accentFold
  parseDate := Common.parseDate

theorem nodup_twinPayload :
    ((payloadFields (releasePayload 'a') ++ twinFields).map Prod.fst).Nodup := by
  simp [payloadFields, twinFields]

theorem proper_twinPayload : twinPayload.Proper := by
  refine .object nodup_twinPayload fun f hf => ?_
  rcases List.mem_append.mp hf with hf | hf
  · have hproper := proper_payloadJs (releasePayload 'a')
    rw [payloadJs] at hproper
    cases hproper with
    | object _ hparts => exact hparts f hf
  · simp only [twinFields, List.mem_cons, List.not_mem_nil, or_false] at hf
    rcases hf with rfl | rfl <;> exact .bool _

theorem valid_twinPayload :
    twinSigning.validateTaskPayload twinPayload (some 1769846000000) = .ok () := by
  have hfields : ∀ name ∈ payloadNames, twinPayload.field name = (payloadJs (releasePayload 'a')).field name := by
    intro name hname
    rw [twinPayload, Js.field_object nodup_twinPayload, field_payloadJs, List.lookup_append]
    have hsome : ((payloadFields (releasePayload 'a')).lookup name).isSome = true := by
      rw [← keys_payloadFields (releasePayload 'a')] at hname
      obtain ⟨field, hfield, rfl⟩ := List.mem_map.mp hname
      rw [(mem_iff_lookup (nodup_payloadFields _)).mp hfield]
      rfl
    obtain ⟨value, hvalue⟩ := Option.isSome_iff_exists.mp hsome
    rw [hvalue]
    rfl
  rw [validate_of_fields (some 1769846000000) hfields]
  exact (validate_payloadJs twinSigning rfl _ _).trans (submit_release (.inl rfl))

theorem not_keysApart_twin : ¬KeysApart twinSigning.locale twinPayload := by
  intro h
  have hchild : ∀ field ∈ twinFields, (twinPayload.child (.key field.1)).isSome := by
    intro field hfield
    have hmem : field ∈ Js.present (payloadFields (releasePayload 'a') ++ twinFields) := by
      rw [Js.mem_present]
      refine ⟨List.mem_append_right _ hfield, ?_⟩
      simp only [twinFields, List.mem_cons, List.not_mem_nil, or_false] at hfield
      rcases hfield with rfl | rfl <;> rfl
    have hlookup := (mem_iff_lookup (Js.nodup_present nodup_twinPayload)).mp hmem
    show ((Js.present (payloadFields (releasePayload 'a') ++ twinFields)).lookup field.1).isSome = _
    rw [hlookup]
    rfl
  have htells := @KeysApart.node _ _ h "\u00e9" "e\u0301" (by decide)
    (hchild ("\u00e9", .bool true) (by simp [twinFields]))
    (hchild ("e\u0301", .bool false) (by simp [twinFields]))
  have hplain : isIndex "\u00e9" = false ∧ isIndex "e\u0301" = false := by decide +kernel
  rcases htells with hindex | hindex | hcompare
  · rw [hplain.1] at hindex
    cases hindex
  · rw [hplain.2] at hindex
    cases hindex
  · exact hcompare (by decide)

theorem twin_keys_rejected : ¬∀ (signing : TaskSigning) (now : Nat) (payload : PayloadValue)
    (row : SignedTask), signing.submit now payload.value = .ok row →
      ∀ p : JsonDocument, SameJson p.value row.payload →
        ∃ row', signing.verifiedPublicTask { row with payload := p.value } = .ok row' := by
  intro hclaim
  have hsubmit : twinSigning.submit 1769846000000 twinPayload = .ok _ :=
    submit_of_valid valid_twinPayload (key_of_sample rfl)
  have hall := hclaim twinSigning 1769846000000 ⟨twinPayload, proper_twinPayload⟩ _ hsubmit
  have hstored := @sameJson_stored twinSigning twinPayload proper_twinPayload
  -- What verifies has the text whose digest was stored.
  have htext : ∀ b : Js, b.IsJson →
      SameJson b (canonicalValue twinSigning.locale twinPayload).clone →
        twinSigning.payloadText b = canonicalJson (foldLocale accentFold) twinPayload := by
    intro b hb hsame
    obtain ⟨row', haccepted⟩ := hall ⟨b, hb⟩ hsame
    obtain ⟨⟨-, hverified⟩, -⟩ := (verifiedPublicTask_eq_ok_iff rfl).mp haccepted
    by_contra hother
    have hhmac : ∀ text, twinSigning.hmac sampleDigest text =
        twinHmac (canonicalJson (foldLocale accentFold) twinPayload) text := by
      intro text
      rw [twinSigning]
    have hstored : twinSigning.hmac sampleDigest (twinSigning.payloadText twinPayload) =
        releaseDigest := by
      rw [hhmac, twinHmac]
      exact if_pos rfl
    have hread : twinSigning.hmac sampleDigest (twinSigning.payloadText b) = sampleDigest := by
      rw [hhmac, twinHmac]
      exact if_neg hother
    have hhex : isHexDigits 64 true releaseDigest = true := by decide +kernel
    have hdiffer : (sampleDigest == releaseDigest) = false := by decide +kernel
    dsimp only at hverified
    rw [hstored, verify, hhex, if_neg (by decide), sign, key_of_sample rfl] at hverified
    have hequal := Except.ok.inj hverified
    rw [hread, hdiffer] at hequal
    cases hequal
  have hone : OneText twinSigning.locale (canonicalValue twinSigning.locale twinPayload).clone := by
    intro b c hb hc hbs hcs
    exact String.ofList_injective ((htext b hb hbs).trans (htext c hc hcs).symm)
  have hjson := (@proper_canonicalValue twinSigning.locale _ proper_twinPayload).isJson_clone
  exact not_keysApart_twin ((hone.keysApart hjson).sameJson hstored)

end TaskSigning

end KubeNova.Update
