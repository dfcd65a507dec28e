import KubeNova.Editor.DraftMerge
import KubeNova.Foundation.Base64
import KubeNova.Foundation.Utf8

/-!
# Files for a Secret

`applySecretFiles` writes uploaded files into a Secret one after another: the bytes of a file go
into `data` under its key, and what `stringData` has under the key is deleted.
-/

namespace KubeNova.Editor

open KubeNova.Foundation KubeNova.Foundation.Json
open Found

structure SecretFile where
  name : String
  bytes : List UInt8
  deriving DecidableEq

inductive FileAction where
  | overwrite
  | skip
  | rename
  deriving DecidableEq

structure FileDecision where
  action : FileAction
  key : Option String := none
  deriving DecidableEq

inductive SecretError where
  | tooManyFiles
  | fileTooLarge
  | invalidKey
  | keyExists (key : String)
  | dataNotText
  | dataNotBase64
  | stringDataNotText
  | tooMuchData
  /-- What `setManifestValue` throws. -/
  | path (text : String)
  deriving DecidableEq

def SecretError.message : SecretError → String
  | tooManyFiles => "每次最多上传 50 个文件"
  | fileTooLarge => "单文件大小不能超过 1 MiB"
  | invalidKey => "文件键名只能包含字母、数字、点、下划线和短横线"
  | keyExists key => "键 " ++ key ++ " 已存在，请选择覆盖、跳过或重命名"
  | dataNotText => "Secret data 必须是 base64 字符串映射"
  | dataNotBase64 => "Secret data 包含无效 base64"
  | stringDataNotText => "Secret stringData 必须是字符串映射"
  | tooMuchData => "Secret 原始数据总量不能超过 900 KiB"
  | path text => text

def binaryText (bytes : List UInt8) : List UInt8 :=
  (List.range ((bytes.length + 8191) / 8192)).flatMap fun n => (bytes.drop (8192 * n)).take 8192

def encodeSecretBytes (bytes : List UInt8) : String :=
  String.ofList (Base64.btoa (binaryText bytes))

/-- `isRecord(value[part]) ? value[part] : {}` -/
def recordOf (value : Js) (part : String) : List (String × Js) :=
  match member (.value value) part with
  | .value (.object entries) => entries
  | _ => []

def dataBytes (item : Js) : Except SecretError Nat :=
  match item with
  | .string text =>
      match Base64.atob text.toList with
      | some bytes => .ok bytes.length
      | none => .error .dataNotBase64
  | _ => .error .dataNotText

def stringDataBytes (item : Js) : Except SecretError Nat :=
  match item with
  | .string text => .ok (Utf8.encode text.toList).length
  | _ => .error .stringDataNotText

/-- What is in `data` counts where `stringData` does not hide it. -/
def secretRawBytes (value : Js) : Except SecretError Nat := do
  let data := recordOf value "data"
  let plain := recordOf value "stringData"
  let total ← (ownOrder data).foldlM (fun total entry =>
    if (plain.map Prod.fst).contains entry.1 then .ok total
    else do
      let size ← dataBytes entry.2
      return total + size) 0
  (ownOrder plain).foldlM (fun total entry => do
    let size ← stringDataBytes entry.2
    return total + size) total

def validateSecretSize (value : Js) : Except SecretError Unit := do
  let total ← secretRawBytes value
  if total > 900 * 1024 then throw .tooMuchData

/-- `/^[A-Za-z0-9._-]+$/` -/
def isKeyChar (c : Char) : Bool :=
  ('A' ≤ c && c ≤ 'Z') || ('a' ≤ c && c ≤ 'z') || ('0' ≤ c && c ≤ '9') || ['.', '_', '-'].contains c

def isFileKey (key : String) : Bool :=
  !key.toList.isEmpty && key.toList.all isKeyChar &&
    !(["__proto__", "constructor", "prototype"].contains key)

section Files

variable (decisions : String → Option FileDecision)

def isSkipped (file : SecretFile) : Bool := (decisions file.name).map (·.action) == some .skip

def isOverwrite (file : SecretFile) : Bool :=
  (decisions file.name).map (·.action) == some .overwrite

def fileKey (file : SecretFile) : String :=
  match decisions file.name with
  | some ⟨.rename, key⟩ => key.getD ""
  | _ => file.name

def keyExists (value : Js) (key : String) : Bool :=
  !isMissing (getManifestValue (.value value) ["data", key]) ||
    !isMissing (getManifestValue (.value value) ["stringData", key])

def writeValue (value : Js) (path : List String) (next : Found) : Except SecretError Js :=
  (setManifestValue value path next).mapError .path

def applyFile (next : Js) (file : SecretFile) : Except SecretError Js :=
  if file.bytes.length > 1024 * 1024 then .error .fileTooLarge
  else if isSkipped decisions file then .ok next
  else
    let key := fileKey decisions file
    if !isFileKey key then .error .invalidKey
    else if keyExists next key && !isOverwrite decisions file then .error (.keyExists key)
    else do
      let next ← writeValue next ["data", key] (.value (.string (encodeSecretBytes file.bytes)))
      writeValue next ["stringData", key] missing

def applySecretFiles (value : Js) (files : List SecretFile) : Except SecretError Js :=
  if files.length > 50 then .error .tooManyFiles
  else do
    let next ← files.foldlM (applyFile decisions) value
    validateSecretSize next
    return next

end Files

end KubeNova.Editor
