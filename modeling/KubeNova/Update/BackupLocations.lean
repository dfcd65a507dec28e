import KubeNova.Foundation.PosixPath
import KubeNova.Update.BackupRetention
import KubeNova.Update.SettingsStore

/-!
# Locations of backups

`createBackup` and `withBackupFile` of `KubernetesDatabaseBackupService`: where a backup is put, and
what is opened of a location.  A location is the text of a path, or the URI of an object in S3.
-/

namespace KubeNova.Update

open KubeNova.Common KubeNova.Foundation

inductive DiskEntry where
  | directory
  | file (bytes : List UInt8)
  deriving Repr, DecidableEq

structure BackupStorage where
  files : String → Option DiskEntry
  objects : String → Option (List UInt8)

inductive BackupSource where
  | file (path : String)
  | object (uri : String)
  deriving Repr, DecidableEq

namespace BackupStorage

variable (s : BackupStorage)

def setFile (path : String) (entry : Option DiskEntry) : BackupStorage :=
  { s with files := Function.update s.files path entry }

def setObject (uri : String) (bytes : List UInt8) : BackupStorage :=
  { s with objects := Function.update s.objects uri (some bytes) }

def removeFiles (paths : List String) : BackupStorage :=
  { s with files := fun path => if path ∈ paths then none else s.files path }

def removeObjects (uris : List String) : BackupStorage :=
  { s with objects := fun uri => if uri ∈ uris then none else s.objects uri }

def found : BackupSource → Option DiskEntry
  | .file path => s.files path
  | .object uri => (s.objects uri).map .file

end BackupStorage

/-! ## What the service runs on -/

/-- Where the process runs, `KUBENOVA_K8S_UPDATE_BACKUP_ROOT` and the URL parser. -/
structure BackupHost where
  cwd : AbsolutePath
  backupRoot : String
  parseUrl : LocatedUrlParser

namespace BackupHost

variable (host : BackupHost)

def locate (path : String) : AbsolutePath := host.cwd.locate path.toList

def resolve (path : String) : String := String.ofList (host.cwd.resolve path.toList)

def relative (directory path : String) : String :=
  String.ofList (host.cwd.relative directory.toList path.toList)

def leaves (directory path : String) : Bool :=
  PosixPath.climbs (host.relative directory path).toList

end BackupHost

def joinPath (directory name : String) : String :=
  String.ofList (AbsolutePath.join directory.toList name.toList)

/-- `path.slice(path.lastIndexOf(sep) + 1)` -/
def baseName (path : String) : String := String.ofList (afterLastSlash path.toList)

/-- A text that `randomUUID` may draw. -/
structure Uuid where
  text : String
  chars : text.toList.all isNameChar = true

/-- An entry of a directory, with its `mtimeMs`. -/
structure BackupEntry where
  name : String
  isFile : Bool
  modifiedAt : ℚ
  deriving Repr, DecidableEq

/-- An item of a listing, with its `LastModified`. -/
structure ListedBackup where
  key : String
  modifiedAt : ℚ
  deriving Repr, DecidableEq

/-- What a run of `createBackup` draws and is answered. -/
structure BackupRun where
  uuid : Uuid
  /-- `mkdtemp` -/
  workDir : AbsolutePath
  makesDirectory : Bool
  /-- `postgresDumpConfig` -/
  config : Except Exception Unit
  /-- What `pg_dump` writes; nothing where it fails. -/
  dump : Option (List UInt8)
  uploads : Bool
  entries : List BackupEntry
  listing : Option (List ListedBackup)
  deletes : Bool
  cleansUp : Bool
  now : ℚ

/-- `/^[a-z0-9][a-z0-9.-]{1,61}[a-z0-9]$/` -/
def isBucketName (name : String) : Bool :=
  let isEnd := fun c : Char => ('a' ≤ c && c ≤ 'z') || Text.isDigit c
  let inner := (name.toList.drop 1).dropLast
  name.toList.head?.any isEnd && name.toList.getLast?.any isEnd &&
    1 ≤ inner.length && inner.length ≤ 61 && inner.all fun c => isEnd c || c == '.' || c == '-'

namespace S3Target

variable (target : S3Target)

def uri (key : String) : String := "s3://" ++ target.hostname ++ "/" ++ key

end S3Target

/-- The target in S3 that `validateS3Target` accepts. -/
def validateS3Target (parseUrl : LocatedUrlParser) (target : StoredBackupTarget) :
    Except Exception S3Target :=
  match parseUrl target.location with
  | none => .error (.badRequest "Kubernetes S3 backup target is invalid")
  | some url => do
      refuseUnless (url.protocol = "s3:" ∧ isBucketName url.hostname = true ∧ url.isPlain = true)
        "Kubernetes S3 backup target must use s3://bucket/prefix"
      refuseUnless (url.pathname ≠ "/" ∧
          (Text.split '/' url.pathname).all fun part => part != "." && part != "..")
        "Kubernetes S3 backup target requires a dedicated prefix"
      let secret := target.secret.getD []
      refuseUnless (secret.all fun entry => supportedSecrets.contains entry.1)
        "Kubernetes S3 backup credentials contain unsupported values"
      refuseUnless (Text.trim (secretField secret "AWS_ACCESS_KEY_ID") ≠ "" ∧
          Text.trim (secretField secret "AWS_SECRET_ACCESS_KEY") ≠ "")
        "Kubernetes S3 backup credentials are incomplete"
      let endpoint := secretField secret "AWS_ENDPOINT_URL"
      refuseUnless (endpoint = "" ∨ (parseUrl endpoint).any fun url =>
          (url.protocol == "http:" || url.protocol == "https:") && url.isPlain)
        "Kubernetes S3 endpoint must be an HTTP(S) URL"
      return ⟨target.id, url.hostname, url.pathname⟩

/-- `/^[A-Za-z0-9-]{1,64}$/` -/
def isTaskId (id : String) : Bool :=
  1 ≤ id.toList.length && id.toList.length ≤ 64 && id.toList.all fun c => isNameChar c && c != '_'

def backupFileName (taskId : String) (uuid : Uuid) : String :=
  "kubenova-update-" ++ taskId ++ "-" ++ uuid.text ++ ".dump"

def systemCall (succeeds : Bool) (code : String) : Except Exception Unit :=
  if succeeds then .ok () else .error (.error code)

/-- The dump is written under a name of its own and renamed when it is there. -/
def dumpDatabase (run : BackupRun) (localFile : String) (s : BackupStorage) :
    Except Exception (List UInt8 × BackupStorage) := do
  systemCall run.makesDirectory "EEXIST"
  run.config
  match run.dump with
  | none =>
      .error (.badRequest "Kubernetes PostgreSQL backup failed; no Deployment was changed")
  | some bytes => do
      let partialFile := localFile ++ ".partial"
      let s := s.setFile partialFile (some (.file bytes))
      refuseUnless (bytes ≠ [])
        "Kubernetes PostgreSQL backup is empty; no Deployment was changed"
      return (bytes, (s.setFile partialFile none).setFile localFile (some (.file bytes)))

/-- The paths `pruneLocalBackups` removes. -/
def prunedFiles (directory currentFile : String) (now : ℚ) (entries : List BackupEntry) :
    List String :=
  let backups := entries.filter fun entry => entry.isFile && isBackupName [".dump"] entry.name
  unprotected (fun entry : BackupEntry => joinPath directory entry.name) (·.modifiedAt)
    (fun entry => joinPath directory entry.name == currentFile) now
    (newestFirst (·.modifiedAt) backups)

def createLocalBackup (host : BackupHost) (run : BackupRun) (target : StoredBackupTarget)
    (fileName : String) (s : BackupStorage) : Except Exception (String × BackupStorage) := do
  let outputDir := host.resolve target.location
  let root := host.resolve host.backupRoot
  refuseUnless (PosixPath.isAbsolute target.location.toList = true ∧
      host.leaves root outputDir = false)
    ("Kubernetes local backup path must be inside the persistent update-backup volume (" ++
      root ++ ")")
  let localFile := joinPath outputDir fileName
  let (_, s) ← dumpDatabase run localFile s
  systemCall run.deletes "EPERM"
  let s := s.removeFiles (prunedFiles outputDir localFile run.now run.entries)
  refuseUnless (run.cleansUp = true)
    "Kubernetes temporary backup data cleanup failed; no Deployment was changed"
  return (localFile, s)

def createS3Backup (host : BackupHost) (run : BackupRun) (target : StoredBackupTarget)
    (fileName : String) (s : BackupStorage) : Except Exception (String × BackupStorage) := do
  let s3 ← validateS3Target host.parseUrl target
  let remoteUri := s3.uri (s3.objectKey fileName)
  let localFile := joinPath (String.ofList run.workDir.text) fileName
  let (bytes, s) ← dumpDatabase run localFile s
  refuseUnless (run.uploads = true)
    "Kubernetes backup upload failed; no Deployment was changed"
  let s := s.setObject remoteUri bytes
  match run.listing with
  | none =>
      .error (.badRequest
        "Kubernetes S3 backup listing failed; update stopped before changing Deployments")
  | some listing => do
      refuseUnless (run.deletes = true)
        "Kubernetes S3 backup retention cleanup failed; update stopped before changing Deployments"
      let pruned := prunedKeys .service s3 (some remoteUri) run.now
        (listing.map fun item => ⟨s3.hostname, item.key, "", item.modifiedAt⟩)
      let s := (s.removeObjects (pruned.map s3.uri)).removeFiles [localFile]
      refuseUnless (run.cleansUp = true)
        "Kubernetes temporary backup data cleanup failed; no Deployment was changed"
      return (remoteUri, s)

def createBackup (host : BackupHost) (run : BackupRun) (target : StoredBackupTarget)
    (taskId : String) (s : BackupStorage) : Except Exception (String × BackupStorage) := do
  refuseUnless (isTaskId taskId = true) "Kubernetes backup task id is invalid"
  refuseUnless (target.id ≠ "" ∧ target.location ≠ "") "Kubernetes backup target is incomplete"
  match target.type with
  | .s3 => createS3Backup host run target (backupFileName taskId run.uuid) s
  | .local => createLocalBackup host run target (backupFileName taskId run.uuid) s

structure OpenedBackup where
  source : BackupSource
  bytes : List UInt8
  deriving Repr, DecidableEq

def openBackup (source : BackupSource) : Option DiskEntry → Except Exception OpenedBackup
  | some (.file (byte :: bytes)) => .ok ⟨source, byte :: bytes⟩
  | some _ => .error (.badRequest "Kubernetes rehearsal backup is empty or unavailable")
  | none => .error (.error "ENOENT")

def openLocalBackup (host : BackupHost) (location : String) (target : StoredBackupTarget)
    (s : BackupStorage) : Except Exception OpenedBackup := do
  let targetDir := host.resolve target.location
  refuseUnless (host.leaves (host.resolve host.backupRoot) targetDir = false)
    "Kubernetes local backup path must be inside the persistent update-backup volume"
  let localFile := host.resolve location
  refuseUnless (host.leaves targetDir localFile = false ∧
      isBackupName [".dump"] (baseName localFile) = true)
    "Kubernetes rehearsal backup is outside the configured local backup target"
  openBackup (.file localFile) (s.files localFile)

def downloadBackup (downloads : Bool) (location : String) (s : BackupStorage) :
    Except Exception (List UInt8) :=
  match s.objects location, downloads with
  | some bytes, true => .ok bytes
  | _, _ => .error (.badRequest "Kubernetes backup download for migration rehearsal failed")

def openS3Backup (host : BackupHost) (downloads : Bool) (location : String)
    (target : StoredBackupTarget) (s : BackupStorage) : Except Exception OpenedBackup := do
  let s3 ← validateS3Target host.parseUrl target
  let expectedPrefix := s3.uri s3.keyPrefix
  let key := String.ofList (location.toList.drop expectedPrefix.toList.length)
  refuseUnless (Text.startsWith expectedPrefix location = true ∧
      isBackupName [".dump"] key = true)
    "Kubernetes rehearsal backup is outside the configured S3 prefix"
  let bytes ← downloadBackup downloads location s
  openBackup (.object location) (some (.file bytes))

/-- What `consume` is given of a location; `downloads` tells whether the objects can be read. -/
def withBackupFile (host : BackupHost) (downloads : Bool) (location : String)
    (target : StoredBackupTarget) (s : BackupStorage) : Except Exception OpenedBackup := do
  refuseUnless (location ≠ "" ∧ target.location ≠ "")
    "Kubernetes rehearsal backup reference is incomplete"
  match target.type with
  | .local => openLocalBackup host location target s
  | .s3 => openS3Backup host downloads location target s

end KubeNova.Update
