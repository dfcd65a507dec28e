import KubeNova.Common.Url
import KubeNova.Foundation.Text

/-!
# The update settings

`UpdateSettingsService` and `update-settings.crypto.ts`: the backup and migration targets, kept
as one encrypted text in one row.  Its fingerprint is a digest of that text.
-/

namespace KubeNova.Update

open KubeNova.Common KubeNova.Foundation

inductive BackupType where
  | local
  | s3
  deriving Repr, DecidableEq

inductive MigrationType where
  | local
  | external
  deriving Repr, DecidableEq

structure StoredBackupTarget where
  id : String
  name : String
  type : BackupType
  location : String
  secret : Option (List (String × String))
  deriving Repr, DecidableEq

structure StoredMigrationTarget where
  id : String
  name : String
  type : MigrationType
  connection : Option String
  deriving Repr, DecidableEq

structure StoredRegistry where
  defaultPrefix : String
  components : List (String × String)
  imagePullSecretName : Option String
  token : Option String
  deriving Repr, DecidableEq

/-- `UpdateSettingsInput`, which is also what is stored. -/
structure StoredSettings where
  backupTargets : List StoredBackupTarget
  migrationTargets : List StoredMigrationTarget
  registry : StoredRegistry
  deriving Repr, DecidableEq

/-- What `readStored` answers where there is no row. -/
def unconfiguredSettings : StoredSettings := ⟨[], [], ⟨"", [], none, none⟩⟩

/-! ## Normalisation -/

structure LocatedUrl extends Url where
  pathname : String
  deriving Repr, DecidableEq

abbrev LocatedUrlParser := String → Option LocatedUrl

/-- `/^[A-Za-z][A-Za-z0-9_]{0,63}$/`. -/
def isSecretKey (key : String) : Bool :=
  match key.toList with
  | c :: cs => c.isAlpha && cs.length ≤ 63 && cs.all fun c => c.isAlphanum || c == '_'
  | [] => false

def supportedSecrets : List String :=
  ["AWS_ACCESS_KEY_ID", "AWS_SECRET_ACCESS_KEY", "AWS_SESSION_TOKEN", "AWS_REGION",
    "AWS_DEFAULT_REGION", "AWS_ENDPOINT_URL"]

def refuseUnless (c : Prop) [Decidable c] (message : String) : Except Exception Unit :=
  if c then .ok () else .error (.badRequest message)

theorem of_refuseUnless {c : Prop} [Decidable c] {message : String} {u : Unit}
    (h : refuseUnless c message = .ok u) : c := by
  unfold refuseUnless at h
  split at h
  · assumption
  · cases h

theorem refuseUnless_eq_ok {c : Prop} [Decidable c] {message : String} :
    refuseUnless c message = .ok () ↔ c := by
  constructor
  · exact of_refuseUnless
  · intro h
    rw [refuseUnless, if_pos h]

def normalizeSecret (value : List (String × String)) (type : BackupType) :
    Except Exception (List (String × String)) := do
  refuseUnless (value.all fun entry => isSecretKey entry.1) "备份凭据格式无效"
  refuseUnless (type ≠ .s3 ∨ value.all fun entry => supportedSecrets.contains entry.1)
    "S3 备份凭据包含不支持的字段"
  return value.map fun entry => (entry.1, Text.trim entry.2)

def normalizeBackupTarget (target : StoredBackupTarget) : Except Exception StoredBackupTarget := do
  let secret ← target.secret.mapM fun secret => normalizeSecret secret target.type
  return ⟨Text.trim target.id, Text.trim target.name, target.type, Text.trim target.location, secret⟩

def LocatedUrl.isPlain (url : LocatedUrl) : Bool :=
  url.username == "" && url.password == "" && url.search == "" && url.hash == ""

def secretField (secret : List (String × String)) (key : String) : String :=
  (secret.lookup key).getD ""

def checkS3Secret (parseUrl : LocatedUrlParser) (secret : List (String × String)) :
    Except Exception Unit := do
  refuseUnless (Text.trim (secretField secret "AWS_ACCESS_KEY_ID") ≠ "" ∧
      Text.trim (secretField secret "AWS_SECRET_ACCESS_KEY") ≠ "")
    "S3 备份目标需要 AWS_ACCESS_KEY_ID 和 AWS_SECRET_ACCESS_KEY"
  let endpoint := secretField secret "AWS_ENDPOINT_URL"
  refuseUnless (endpoint = "" ∨ (parseUrl endpoint).any fun url =>
      (url.protocol == "http:" || url.protocol == "https:") && url.isPlain)
    "S3 Endpoint 必须是有效的 HTTP(S) 地址"

def checkBackupTarget (parseUrl : LocatedUrlParser) (target : StoredBackupTarget) :
    Except Exception Unit :=
  match target.type with
  | .local => refuseUnless (Text.startsWith "/" target.location) "本地备份目标必须使用绝对路径"
  | .s3 => do
      refuseUnless ((parseUrl target.location).any fun url =>
          url.protocol == "s3:" && url.hostname != "" && url.isPlain)
        "S3 备份目标必须使用 s3://bucket/path 地址"
      refuseUnless ((Text.split '/' target.location).all fun part => part != "." && part != "..")
        "S3 备份前缀不能包含 . 或 .. 路径段"
      match target.secret with
      | some secret => checkS3Secret parseUrl secret
      | none => return ()

def loopbackHosts : List String := ["localhost", "127.0.0.1", "::1", "[::1]"]

def checkMigrationTarget (parseUrl : LocatedUrlParser) (target : StoredMigrationTarget) :
    Except Exception Unit :=
  match target.connection with
  | none => return ()
  | some connection => do
      let url := parseUrl connection
      refuseUnless (url.any fun url =>
          (url.protocol == "postgres:" || url.protocol == "postgresql:") && url.hostname != "" &&
            url.pathname.toList.drop 1 != [])
        "外部迁移测试目标必须提供 PostgreSQL 连接串"
      refuseUnless (target.type = .external ∨ url.any fun url =>
          loopbackHosts.contains (Text.toLower url.hostname))
        "本机迁移测试目标只允许 PostgreSQL 回环地址；远程数据库请选择外部测试目标"

def nonEmpty (value : Option String) : Option String := value.filter (· ≠ "")

def normalizeSettings (parseUrl : LocatedUrlParser) (input : StoredSettings) :
    Except Exception StoredSettings := do
  let backupTargets ← input.backupTargets.mapM normalizeBackupTarget
  refuseUnless (backupTargets.all fun t => t.id ≠ "" ∧ t.name ≠ "" ∧ t.location ≠ "")
    "备份目标必须提供有效的本地目录或 S3 地址"
  for target in backupTargets do
    checkBackupTarget parseUrl target
  let migrationTargets := input.migrationTargets.map fun t =>
    (⟨Text.trim t.id, Text.trim t.name, t.type, nonEmpty t.connection⟩ : StoredMigrationTarget)
  refuseUnless (migrationTargets.all fun t => t.id ≠ "" ∧ t.name ≠ "") "迁移测试目标格式无效"
  for target in migrationTargets do
    checkMigrationTarget parseUrl target
  return ⟨backupTargets, migrationTargets,
    ⟨Text.trim input.registry.defaultPrefix,
      input.registry.components.map fun entry => (entry.1, Text.trim entry.2),
      (nonEmpty input.registry.imagePullSecretName).map Text.trim, nonEmpty input.registry.token⟩⟩

def keepSecrets (existing input : StoredSettings) : StoredSettings where
  backupTargets := input.backupTargets.map fun target =>
    let previous := existing.backupTargets.find? fun item =>
      item.id == target.id && item.type == target.type && item.location == target.location
    { target with secret := target.secret.or (previous.bind (·.secret)) }
  migrationTargets := input.migrationTargets.map fun target =>
    let previous := existing.migrationTargets.find? fun item =>
      item.id == target.id && item.type == target.type
    { target with
      connection := (nonEmpty target.connection).or (previous.bind fun p => nonEmpty p.connection) }
  registry := { input.registry with
    token := (nonEmpty input.registry.token).or (nonEmpty existing.registry.token) }

structure PublicBackupTarget where
  id : String
  name : String
  type : BackupType
  location : String
  configured : Bool
  deriving Repr, DecidableEq

structure PublicMigrationTarget where
  id : String
  name : String
  type : MigrationType
  configured : Bool
  deriving Repr, DecidableEq

structure PublicRegistry where
  defaultPrefix : String
  components : List (String × String)
  imagePullSecretName : Option String
  configured : Bool
  deriving Repr, DecidableEq

structure PublicSettings where
  backupTargets : List PublicBackupTarget
  migrationTargets : List PublicMigrationTarget
  registry : PublicRegistry
  deriving Repr, DecidableEq

def publicSettings (value : StoredSettings) : PublicSettings where
  backupTargets := value.backupTargets.map fun t =>
    ⟨t.id, t.name, t.type, t.location, t.secret.isSome || t.type == .local⟩
  migrationTargets := value.migrationTargets.map fun t =>
    ⟨t.id, t.name, t.type, (nonEmpty t.connection).isSome⟩
  registry := ⟨value.registry.defaultPrefix, value.registry.components,
    value.registry.imagePullSecretName,
    value.registry.defaultPrefix != "" || (nonEmpty value.registry.imagePullSecretName).isSome⟩

/-- SHA-256 in hexadecimal, and AES-256-GCM on the JSON of the settings: the key and the vector
drawn for a text give the three parts of its envelope. -/
structure SettingsCrypto where
  sha256 : String → String
  encrypt : String → String → StoredSettings → String × String × String
  decrypt : String → String → String → String → Option StoredSettings

structure SettingsConfig where
  crypto : SettingsCrypto
  encryptionKey : Option String
  parseUrl : LocatedUrlParser

namespace SettingsConfig

variable (config : SettingsConfig)

def key : Except Exception String :=
  let key := Text.trim (config.encryptionKey.getD "")
  if key.toList.length = 64 ∧ key.toList.all Text.isHex then .ok key
  else .error (.badRequest "KUBENOVA_UPDATE_ENCRYPTION_KEY 必须是 64 位十六进制密钥")

def encryptUpdateSettings (iv : String) (value : StoredSettings) : Except Exception String := do
  let key ← config.key
  let (ivText, tag, data) := config.crypto.encrypt key iv value
  return ".".intercalate ["v1", ivText, tag, data]

def decryptUpdateSettings (envelope : String) : Option StoredSettings :=
  match Text.split '.' envelope with
  | [version, iv, tag, data] =>
      if version = "v1" ∧ iv ≠ "" ∧ tag ≠ "" ∧ data ≠ "" then
        match config.key with
        | .ok key => config.crypto.decrypt key iv tag data
        | .error _ => none
      else none
  | _ => none

/-- What `readStored` makes of the row. -/
def decode : Option String → Except Exception StoredSettings
  | none => .ok unconfiguredSettings
  | some encryptedData =>
      match config.decryptUpdateSettings encryptedData with
      | some settings => .ok settings
      | none => .error (.badRequest "更新设置无法解密，请检查独立更新凭据密钥")

def unconfiguredText : String := "system-update-settings-unconfigured"

/-- `fingerprint` of the row. -/
def digest (row : Option String) : String := config.crypto.sha256 (row.getD unconfiguredText)

/-- The fingerprints of these rows collide only where the same text was hashed. -/
def TellsApart (row row' : Option String) : Prop :=
  config.digest row = config.digest row' →
    row.getD unconfiguredText = row'.getD unconfiguredText

instance (row row' : Option String) : Decidable (config.TellsApart row row') :=
  inferInstanceAs (Decidable (_ → _))

theorem eq_of_digest_eq {row row' : Option String} (hsha : config.TellsApart row row')
    {settings settings' : StoredSettings} (hrow : config.decode row = .ok settings)
    (hrow' : config.decode row' = .ok settings') (hdigest : config.digest row = config.digest row') :
    row = row' := by
  have htext := hsha hdigest
  cases row with
  | none =>
      cases row' with
      | none => rfl
      | some envelope =>
          obtain rfl : unconfiguredText = envelope := htext
          cases hrow'
  | some envelope =>
      cases row' with
      | none =>
          obtain rfl : envelope = unconfiguredText := htext
          cases hrow
      | some envelope' => exact congrArg some htext

end SettingsConfig

end KubeNova.Update
