import KubeNova.Foundation.Machine
import KubeNova.Foundation.Newest
import KubeNova.Foundation.Text
import Mathlib.Algebra.Order.Ring.Rat

/-!
# Retention of backups

What is deleted of the backups in S3: `pruneS3Backups` of `KubernetesDatabaseBackupService`, and
`prune` of `s3-backup-storage.mjs`, which the executors run after an update.  Both keep the first
three backups they list and those of the last thirty days; the service sorts the listing by the
times, the script by the texts of the times.  A target lists all objects whose keys begin with its
prefix, so it also finds the backups of a target further down.
-/

namespace KubeNova.Update

open KubeNova.Foundation

/-- Where backups go: the host and the path of an `s3:` URL. -/
structure S3Target where
  id : String
  hostname : String
  pathname : String
  deriving Repr, DecidableEq

/-- An object with its `LastModified`, as the listing has it and as `Date.parse` reads it. -/
structure S3Object where
  bucket : String
  key : String
  text : String
  lastModified : ℚ
  deriving Repr, DecidableEq

def S3Object.uri (object : S3Object) : String := "s3://" ++ object.bucket ++ "/" ++ object.key

namespace S3Target

/-- The path without its first and last slashes, and a slash after it. -/
def keyPrefix (target : S3Target) : String :=
  let path := target.pathname.toList.dropWhile (· == '/')
  String.ofList (path.reverse.dropWhile (· == '/')).reverse ++ "/"

def objectKey (target : S3Target) (fileName : String) : String := target.keyPrefix ++ fileName

end S3Target

def isNameChar (c : Char) : Bool :=
  ('a' ≤ c && c ≤ 'z') || ('A' ≤ c && c ≤ 'Z') || ('0' ≤ c && c ≤ '9') || c == '_' || c == '-'

/-- `/^kubenova-update-[A-Za-z0-9_-]+\.dump$/`, with the extensions that are looked for. -/
def isBackupName (extensions : List String) (name : String) : Bool :=
  Text.startsWith "kubenova-update-" name && extensions.any fun ext => Text.endsWith ext name &&
    let stem := (name.toList.drop 16).take (name.toList.length - 16 - ext.toList.length)
    !stem.isEmpty && stem.all isNameChar

def afterLastSlash (cs : List Char) : List Char := (cs.reverse.takeWhile (· != '/')).reverse

/-- The two implementations; the script sorts texts by `localeCompare`. -/
inductive Pruner where
  | service
  | script (atMost : String → String → Bool)

/-- Whether a key has the name of a backup; `posix.basename` ignores slashes at the end. -/
def Pruner.isBackup : Pruner → String → Bool
  | service, key => isBackupName [".dump"] (String.ofList (afterLastSlash key.toList))
  | script _, key => isBackupName [".dump", ".sql"]
      (String.ofList (afterLastSlash (key.toList.reverse.dropWhile (· == '/')).reverse))

def keepNewest : Nat := 3

def retainMs : ℚ := 30 * 24 * 60 * 60 * 1000

/-- `list-objects-v2` with the prefix of the target finds the object. -/
def S3Target.lists (target : S3Target) (object : S3Object) : Bool :=
  object.bucket == target.hostname && Text.startsWith target.keyPrefix object.key

def lastTextFirst {α : Type} (atMost : String → String → Bool) (text : α → String)
    (l : List α) : List α :=
  l.insertionSort fun a b => atMost (text b) (text a) = true

def Pruner.sort : Pruner → List S3Object → List S3Object
  | service, listing => newestFirst (·.lastModified) listing
  | script atMost, listing => lastTextFirst atMost (·.text) listing

def listedBackups (pruner : Pruner) (target : S3Target) (listing : List S3Object) :
    List S3Object :=
  pruner.sort (listing.filter fun object =>
    Text.startsWith target.keyPrefix object.key && pruner.isBackup object.key)

def protectedKeys {α : Type} (key : α → String) (time : α → ℚ) (now : ℚ) (backups : List α) :
    List String :=
  (backups.take keepNewest).map key ++
    (backups.filter fun backup => now - time backup < retainMs).map key

def unprotected {α : Type} (key : α → String) (time : α → ℚ) (isCurrent : α → Bool) (now : ℚ)
    (backups : List α) : List String :=
  (backups.filter fun backup =>
    !(protectedKeys key time now backups).contains (key backup) && !isCurrent backup).map key

/-- The keys that are deleted, in turn; the service spares the backup it has just written. -/
def prunedKeys (pruner : Pruner) (target : S3Target) (currentUri : Option String) (now : ℚ)
    (listing : List S3Object) : List String :=
  unprotected (·.key) (·.lastModified) (fun backup => currentUri == some backup.uri) now
    (listedBackups pruner target listing)

structure StoredObject where
  object : S3Object
  writer : Option S3Target
  deriving Repr, DecidableEq

structure BucketState where
  objects : List StoredObject
  written : List StoredObject
  deriving Repr, DecidableEq

inductive BucketAction where
  /-- A backup is uploaded under a name of its own. -/
  | backup (target : S3Target) (fileName : String) (text : String) (lastModified : ℚ)
  /-- A target is pruned from a listing in any order; the deletions may stop part of the way. -/
  | prune (pruner : Pruner) (target : S3Target) (currentUri : Option String) (now : ℚ)
      (listing : List S3Object) (done : Nat)

def BucketState.holds (s : BucketState) (bucket key : String) : Bool :=
  s.objects.any fun stored => stored.object.bucket == bucket && stored.object.key == key

def BucketState.delete (s : BucketState) (bucket : String) (keys : List String) : BucketState :=
  { s with objects := s.objects.filter fun stored =>
      !(stored.object.bucket == bucket && keys.contains stored.object.key) }

def retention : Machine BucketAction BucketState where
  step
    | .backup target fileName text lastModified, s =>
        let object := ⟨target.hostname, target.objectKey fileName, text, lastModified⟩
        if s.holds target.hostname (target.objectKey fileName) then none
        else some ⟨s.objects ++ [⟨object, some target⟩], s.written ++ [⟨object, some target⟩]⟩
    | .prune pruner target currentUri now listing done, s =>
        if listing.Perm ((s.objects.map (·.object)).filter target.lists) then
          some (s.delete target.hostname
            ((prunedKeys pruner target currentUri now listing).take done))
        else none

def BucketState.start (objects : List StoredObject) : BucketState :=
  ⟨objects, objects.filter (·.writer.isSome)⟩

end KubeNova.Update
