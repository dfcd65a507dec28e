import KubeNova.Foundation.Results
import KubeNova.Update.BackupLocations

/-!
# Backups are found again, and only backups

The location `createBackup` answers with names the file or the object it has written, and
`withBackupFile` opens it as long as it is there.  Of any other location it opens nothing but what
is inside the target, unless the location is the path of the target itself.
-/

namespace KubeNova.Update

open KubeNova.Common KubeNova.Foundation

variable {host : BackupHost} {target : StoredBackupTarget} {location : String}
  {s s' : BackupStorage}

def backupStart : List Char := "kubenova-update-".toList

def backupEnd : List Char := ".dump".toList

theorem isBackupName_iff {name : String} : isBackupName [".dump"] name = true ↔
    ∃ stem, name.toList = backupStart ++ (stem ++ backupEnd) ∧ stem ≠ [] ∧
      ∀ c ∈ stem, isNameChar c = true := by
  have hstart : backupStart.length = 16 := rfl
  have hend : backupEnd.length = 5 := rfl
  have hstem : ∀ stem : List Char,
      ((backupStart ++ (stem ++ backupEnd)).drop 16).take
        ((backupStart ++ (stem ++ backupEnd)).length - 16 - ".dump".toList.length) = stem := by
    intro stem
    have hlength : (backupStart ++ (stem ++ backupEnd)).length - 16 - ".dump".toList.length =
        stem.length := by
      rw [List.length_append, List.length_append, hstart]
      change 16 + (stem.length + 5) - 16 - 5 = stem.length
      omega
    rw [hlength, ← hstart, List.drop_left, List.take_left]
  simp only [isBackupName, Text.startsWith, Text.endsWith, List.any_cons, List.any_nil,
    Bool.or_false, Bool.and_eq_true, List.isPrefixOf_iff_prefix, List.isSuffixOf_iff_suffix,
    Bool.not_eq_true', List.isEmpty_eq_false_iff, List.all_eq_true]
  constructor
  · rintro ⟨⟨rest, hrest⟩, hsuffix, hne, hall⟩
    have hlonger : 21 < name.toList.length := by
      have hpos := List.length_pos_of_ne_nil hne
      rw [List.length_take, List.length_drop] at hpos
      change 0 < min (name.toList.length - 16 - 5) (name.toList.length - 16) at hpos
      omega
    have hback : backupEnd <:+ rest := by
      apply List.suffix_of_suffix_length_le hsuffix ⟨_, hrest⟩
      have hlength := congrArg List.length hrest
      rw [List.length_append] at hlength
      change 16 + rest.length = _ at hlength
      change 5 ≤ rest.length
      omega
    obtain ⟨stem, hstem'⟩ := hback
    have hname : name.toList = backupStart ++ (stem ++ backupEnd) := by
      rw [hstem', ← hrest]
      rfl
    rw [hname, hstem] at hne hall
    exact ⟨stem, hname, hne, hall⟩
  · rintro ⟨stem, hname, hne, hall⟩
    refine ⟨⟨stem ++ backupEnd, hname.symm⟩, ⟨backupStart ++ stem, ?_⟩, ?_⟩
    · rw [hname, ← List.append_assoc]
      rfl
    · rw [hname, hstem]
      exact ⟨hne, hall⟩

theorem names_of_isBackupName {name : String} (h : isBackupName [".dump"] name = true) :
    PosixPath.Names name.toList := by
  obtain ⟨stem, hname, -, hall⟩ := isBackupName_iff.mp h
  rw [hname]
  have hnotDot : ∀ rest, backupStart ++ rest ≠ ['.'] := fun rest heq => by cases heq
  have hnotDotDot : ∀ rest, backupStart ++ rest ≠ dotDot := fun rest heq => by cases heq
  refine ⟨List.cons_ne_nil _ _, hnotDot _, hnotDotDot _, fun hslash => ?_⟩
  rcases List.mem_append.mp hslash with hslash | hslash
  · revert hslash
    decide
  · rcases List.mem_append.mp hslash with hslash | hslash
    · exact absurd (hall _ hslash) (by decide)
    · revert hslash
      decide

theorem toList_joined (a b c d e : String) : (a ++ b ++ c ++ d ++ e).toList =
    a.toList ++ (b.toList ++ (c.toList ++ d.toList) ++ e.toList) := by
  rw [String.toList_append, String.toList_append, String.toList_append, String.toList_append]
  rw [List.append_assoc, List.append_assoc, List.append_assoc, List.append_assoc,
    List.append_assoc]

theorem isBackupName_fileName {taskId : String} {uuid : Uuid} (h : isTaskId taskId = true) :
    isBackupName [".dump"] (backupFileName taskId uuid) = true := by
  simp only [isTaskId, Bool.and_eq_true, decide_eq_true_eq, List.all_eq_true] at h
  refine isBackupName_iff.mpr ⟨taskId.toList ++ ('-' :: uuid.text.toList), ?_, ?_, ?_⟩
  · exact toList_joined "kubenova-update-" taskId "-" uuid.text ".dump"
  · exact List.append_ne_nil_of_right_ne_nil _ (List.cons_ne_nil _ _)
  · intro c hc
    rcases List.mem_append.mp hc with hc | hc
    · exact (h.2 c hc).1
    · rcases List.mem_cons.mp hc with rfl | hc
      · decide
      · exact List.all_eq_true.mp uuid.chars c hc

theorem afterLastSlash_append {front name : List Char} (h : '/' ∉ name) :
    afterLastSlash (front ++ '/' :: name) = name := by
  have hall : ∀ c ∈ name.reverse, (c != '/') = true := by
    intro c hc
    rw [bne_iff_ne]
    intro heq
    exact h (heq ▸ List.mem_reverse.mp hc)
  rw [afterLastSlash, List.reverse_append, List.reverse_cons, List.append_assoc,
    List.takeWhile_append_of_pos hall]
  exact (congrArg List.reverse (List.append_nil _)).trans (List.reverse_reverse name)

namespace BackupHost

theorem locate_text (path : AbsolutePath) : host.locate (String.ofList path.text) = path := by
  rw [locate, String.toList_ofList, AbsolutePath.locate_text]

theorem locate_resolve (path : String) : host.locate (host.resolve path) = host.locate path :=
  locate_text _

theorem resolve_text (path : AbsolutePath) :
    host.resolve (String.ofList path.text) = String.ofList path.text := by
  rw [resolve, AbsolutePath.resolve, String.toList_ofList, AbsolutePath.locate_text]

theorem leaves_iff (directory path : String) :
    host.leaves directory path = false ↔ (host.locate directory).Within (host.locate path) := by
  rw [leaves, relative, String.toList_ofList, AbsolutePath.climbs_relative_iff]
  rfl

theorem joinPath_resolve (directory : String) {name : String} (h : PosixPath.Names name.toList) :
    joinPath (host.resolve directory) name =
      String.ofList ((host.locate directory).child name.toList h).text := by
  rw [joinPath, resolve, AbsolutePath.resolve, String.toList_ofList, AbsolutePath.join_text h]
  rfl

end BackupHost

theorem baseName_child {path : AbsolutePath} {name : String} (h : PosixPath.Names name.toList) :
    baseName (String.ofList (path.child name.toList h).text) = name := by
  have htext : (path.child name.toList h).text =
      path.segments.flatMap ('/' :: ·) ++ '/' :: name.toList := by
    rw [AbsolutePath.text, PosixPath.write, if_neg (by simp [AbsolutePath.child])]
    rw [AbsolutePath.child, List.flatMap_append, List.flatMap_singleton]
  rw [baseName, String.toList_ofList, htext, afterLastSlash_append h.noSlash, String.ofList_toList]

theorem notMem_unprotected {α : Type} {key : α → String} {time : α → ℚ} {isCurrent : α → Bool}
    {now : ℚ} {backups : List α} {current : String}
    (h : ∀ backup, key backup = current → isCurrent backup = true) :
    current ∉ unprotected key time isCurrent now backups := by
  intro hmem
  obtain ⟨backup, hbackup, hkey⟩ := List.mem_map.mp hmem
  have hfilter := (List.mem_filter.mp hbackup).2
  rw [h backup hkey, Bool.not_true, Bool.and_false] at hfilter
  cases hfilter

theorem notMem_prunedFiles {directory currentFile : String} {now : ℚ}
    {entries : List BackupEntry} :
    currentFile ∉ prunedFiles directory currentFile now entries :=
  notMem_unprotected fun _ h => beq_iff_eq.mpr h

theorem notMem_prunedUris {s3 : S3Target} {current : String} {now : ℚ}
    {listing : List ListedBackup} : current ∉ (prunedKeys .service s3 (some current) now
      (listing.map fun item => ⟨s3.hostname, item.key, "", item.modifiedAt⟩)).map s3.uri := by
  rw [prunedKeys, unprotected, List.map_map]
  intro hmem
  obtain ⟨backup, hbackup, huri⟩ := List.mem_map.mp hmem
  obtain ⟨hlisted, hfilter⟩ := List.mem_filter.mp hbackup
  have hmap := (List.mem_filter.mp ((newestFirst_perm _ _).mem_iff.mp hlisted)).1
  obtain ⟨item, -, rfl⟩ := List.mem_map.mp hmap
  have hcurrent : (some current == some (S3Object.uri ⟨s3.hostname, item.key, "",
      item.modifiedAt⟩)) = true := by
    rw [beq_iff_eq, Option.some.injEq]
    exact huri.symm
  rw [hcurrent, Bool.not_true, Bool.and_false] at hfilter
  cases hfilter

theorem openBackup_file {source : BackupSource} {bytes : List UInt8} (h : bytes ≠ []) :
    openBackup source (some (.file bytes)) = .ok ⟨source, bytes⟩ := by
  cases bytes with
  | nil => exact absurd rfl h
  | cons byte bytes => rfl

theorem openBackup_eq_ok {source : BackupSource} {entry : Option DiskEntry}
    {opened : OpenedBackup} (h : openBackup source entry = .ok opened) :
    opened.source = source ∧ opened.bytes ≠ [] ∧ entry = some (.file opened.bytes) := by
  match entry, h with
  | some (.file (byte :: bytes)), h =>
      cases h
      exact ⟨rfl, List.cons_ne_nil _ _, rfl⟩

def sourceOf (target : StoredBackupTarget) (location : String) : BackupSource :=
  match target.type with
  | .local => .file location
  | .s3 => .object location

theorem withBackupFile_local_iff {downloads : Bool} {opened : OpenedBackup}
    (htype : target.type = .local) :
    withBackupFile host downloads location target s = .ok opened ↔
      (location ≠ "" ∧ target.location ≠ "") ∧
        (host.locate host.backupRoot).Within (host.locate target.location) ∧
        ((host.locate target.location).Within (host.locate location) ∧
          isBackupName [".dump"] (baseName (host.resolve location)) = true) ∧
        openBackup (.file (host.resolve location)) (s.files (host.resolve location)) =
          .ok opened := by
  simp only [withBackupFile, htype, openLocalBackup, Results.check_eq_ok, refuseUnless_eq_ok,
    BackupHost.leaves_iff, BackupHost.locate_resolve]

theorem S3Target.uri_objectKey (s3 : S3Target) (name : String) :
    s3.uri (s3.objectKey name) = s3.uri s3.keyPrefix ++ name := by
  rw [uri, uri, objectKey, String.append_assoc, String.append_assoc, String.append_assoc,
    String.append_assoc, String.append_assoc]

theorem startsWith_uri_iff {s3 : S3Target} :
    Text.startsWith (s3.uri s3.keyPrefix) location = true ∧ isBackupName [".dump"]
        (String.ofList (location.toList.drop (s3.uri s3.keyPrefix).toList.length)) = true ↔
      ∃ name, location = s3.uri (s3.objectKey name) ∧ isBackupName [".dump"] name = true := by
  constructor
  · rintro ⟨hstart, hname⟩
    obtain ⟨rest, hrest⟩ := List.isPrefixOf_iff_prefix.mp hstart
    rw [← hrest, List.drop_left] at hname
    refine ⟨String.ofList rest, ?_, hname⟩
    rw [s3.uri_objectKey, ← String.toList_inj, String.toList_append, String.toList_ofList, hrest]
  · rintro ⟨name, rfl, hname⟩
    rw [s3.uri_objectKey, Text.startsWith, String.toList_append, List.drop_left,
      String.ofList_toList]
    exact ⟨List.isPrefixOf_iff_prefix.mpr (List.prefix_append _ _), hname⟩

theorem downloadBackup_eq_ok {downloads : Bool} {bytes : List UInt8} :
    downloadBackup downloads location s = .ok bytes ↔
      downloads = true ∧ s.objects location = some bytes := by
  cases hobject : s.objects location with
  | none => simp [downloadBackup, hobject]
  | some found => cases downloads <;> simp [downloadBackup, hobject]

theorem withBackupFile_s3_iff {downloads : Bool} {opened : OpenedBackup}
    (htype : target.type = .s3) :
    withBackupFile host downloads location target s = .ok opened ↔
      (location ≠ "" ∧ target.location ≠ "") ∧ ∃ s3,
        validateS3Target host.parseUrl target = .ok s3 ∧
        (∃ name, location = s3.uri (s3.objectKey name) ∧ isBackupName [".dump"] name = true) ∧
        downloads = true ∧ ∃ bytes, s.objects location = some bytes ∧
          openBackup (.object location) (some (.file bytes)) = .ok opened := by
  simp only [withBackupFile, htype]
  rw [Results.check_eq_ok, refuseUnless_eq_ok, openS3Backup, Results.bind_eq_ok]
  refine and_congr_right fun _ => exists_congr fun s3 => and_congr_right fun _ => ?_
  rw [Results.check_eq_ok, refuseUnless_eq_ok, startsWith_uri_iff, Results.bind_eq_ok]
  simp only [downloadBackup_eq_ok, and_assoc, exists_and_left]

def Contained (host : BackupHost) (target : StoredBackupTarget) : BackupSource → Prop
  | .file path => target.type = .local ∧ ∃ file : AbsolutePath,
      path = String.ofList file.text ∧ (host.locate target.location).Inside file
  | .object uri => target.type = .s3 ∧ ∃ s3 name, validateS3Target host.parseUrl target = .ok s3 ∧
      uri = s3.uri (s3.objectKey name) ∧ '/' ∉ name.toList

structure OpensTarget (host : BackupHost) (target : StoredBackupTarget) (location : String)
    (s : BackupStorage) : Prop where
  isLocal : target.type = .local
  given : location ≠ "" ∧ target.location ≠ ""
  belongs : (host.locate host.backupRoot).Within (host.locate target.location)
  same : host.locate location = host.locate target.location
  named : isBackupName [".dump"] (baseName (host.resolve location)) = true
  isFile : ∃ bytes, bytes ≠ [] ∧ s.files (host.resolve location) = some (.file bytes)

theorem contained_iff (downloads : Bool) :
    (∀ opened, withBackupFile host downloads location target s = .ok opened →
      Contained host target opened.source) ↔ ¬OpensTarget host target location s := by
  constructor
  · intro h hself
    obtain ⟨bytes, hbytes, hfile⟩ := hself.isFile
    have hopened := @openBackup_file (.file (host.resolve location)) _ hbytes
    rw [← hfile] at hopened
    have hwithin : (host.locate target.location).Within (host.locate location) := by
      rw [hself.same]
      exact List.prefix_refl _
    have hok := (@withBackupFile_local_iff host target location s downloads _ hself.isLocal).mpr
      ⟨hself.given, hself.belongs, ⟨hwithin, hself.named⟩, hopened⟩
    obtain ⟨-, file, hpath, hinside⟩ := h _ hok
    have hlist := String.ofList_inj.mp hpath
    exact hinside.2 ((AbsolutePath.text_injective hlist).symm.trans hself.same)
  · intro hself opened hopened
    cases htype : target.type with
    | «local» =>
        rw [withBackupFile_local_iff htype] at hopened
        obtain ⟨hgiven, hbelongs, ⟨hwithin, hnamed⟩, hopen⟩ := hopened
        obtain ⟨hsource, hbytes, hfile⟩ := openBackup_eq_ok hopen
        rw [hsource]
        refine ⟨htype, host.locate location, rfl, hwithin, fun hsame => hself ?_⟩
        exact ⟨htype, hgiven, hbelongs, hsame, hnamed, opened.bytes, hbytes, hfile⟩
    | s3 =>
        rw [withBackupFile_s3_iff htype] at hopened
        obtain ⟨-, s3, hvalid, ⟨name, hlocation, hname⟩, -, bytes, -, hopen⟩ := hopened
        obtain ⟨hsource, -, -⟩ := openBackup_eq_ok hopen
        rw [hsource]
        exact ⟨htype, s3, name, hvalid, hlocation, (names_of_isBackupName hname).noSlash⟩

section Creation

variable {run : BackupRun} {fileName taskId : String} {bytes : List UInt8}

theorem dumpDatabase_eq_ok {localFile : String}
    (h : dumpDatabase run localFile s = .ok (bytes, s')) :
    run.dump = some bytes ∧ bytes ≠ [] ∧ s'.files localFile = some (.file bytes) := by
  rw [dumpDatabase] at h
  obtain ⟨-, h⟩ := Results.check_eq_ok.mp h
  obtain ⟨-, h⟩ := Results.check_eq_ok.mp h
  cases hdump : run.dump with
  | none =>
      rw [hdump] at h
      cases h
  | some dumped =>
      rw [hdump] at h
      obtain ⟨hne, h⟩ := Results.check_eq_ok.mp h
      cases h
      exact ⟨rfl, refuseUnless_eq_ok.mp hne, Function.update_self ..⟩

theorem createLocalBackup_eq_ok (hname : isBackupName [".dump"] fileName = true)
    (h : createLocalBackup host run target fileName s = .ok (location, s')) :
    (host.locate host.backupRoot).Within (host.locate target.location) ∧
      location = String.ofList ((host.locate target.location).child fileName.toList
        (names_of_isBackupName hname)).text ∧
      ∃ bytes, run.dump = some bytes ∧ bytes ≠ [] ∧ s'.files location = some (.file bytes) := by
  rw [createLocalBackup] at h
  obtain ⟨hroot, h⟩ := Results.check_eq_ok.mp h
  rw [refuseUnless_eq_ok, BackupHost.leaves_iff, BackupHost.locate_resolve,
    BackupHost.locate_resolve] at hroot
  obtain ⟨⟨bytes, dumped⟩, hdump, h⟩ := Results.bind_eq_ok.mp h
  obtain ⟨-, h⟩ := Results.check_eq_ok.mp h
  obtain ⟨-, h⟩ := Results.check_eq_ok.mp h
  obtain ⟨hlocation, hstored⟩ := Prod.mk.inj (Except.ok.inj h)
  obtain ⟨hbytes, hne, hfile⟩ := dumpDatabase_eq_ok hdump
  rw [← hlocation, ← hstored]
  refine ⟨hroot.2, BackupHost.joinPath_resolve _ _, bytes, hbytes, hne, ?_⟩
  rw [BackupStorage.removeFiles]
  exact (if_neg notMem_prunedFiles).trans hfile

theorem createS3Backup_eq_ok
    (h : createS3Backup host run target fileName s = .ok (location, s')) :
    ∃ s3, validateS3Target host.parseUrl target = .ok s3 ∧
      location = s3.uri (s3.objectKey fileName) ∧
      ∃ bytes, run.dump = some bytes ∧ bytes ≠ [] ∧ s'.objects location = some bytes := by
  rw [createS3Backup] at h
  obtain ⟨s3, hvalid, h⟩ := Results.bind_eq_ok.mp h
  obtain ⟨⟨bytes, dumped⟩, hdump, h⟩ := Results.bind_eq_ok.mp h
  obtain ⟨-, h⟩ := Results.check_eq_ok.mp h
  cases hlisting : run.listing with
  | none =>
      rw [hlisting] at h
      cases h
  | some listing =>
      rw [hlisting] at h
      obtain ⟨-, h⟩ := Results.check_eq_ok.mp h
      obtain ⟨-, h⟩ := Results.check_eq_ok.mp h
      obtain ⟨hlocation, hstored⟩ := Prod.mk.inj (Except.ok.inj h)
      obtain ⟨hbytes, hne, -⟩ := dumpDatabase_eq_ok hdump
      rw [← hlocation, ← hstored]
      refine ⟨s3, hvalid, rfl, bytes, hbytes, hne, ?_⟩
      exact (if_neg notMem_prunedUris).trans (Function.update_self ..)

theorem createBackup_opened (h : createBackup host run target taskId s = .ok (location, s')) :
    ∃ bytes, run.dump = some bytes ∧
      s'.found (sourceOf target location) = some (.file bytes) ∧
      Contained host target (sourceOf target location) ∧
      ∀ later : BackupStorage, later.found (sourceOf target location) = some (.file bytes) →
        withBackupFile host true location target later =
          .ok ⟨sourceOf target location, bytes⟩ := by
  rw [createBackup] at h
  obtain ⟨htask, h⟩ := Results.check_eq_ok.mp h
  obtain ⟨hgiven, h⟩ := Results.check_eq_ok.mp h
  rw [refuseUnless_eq_ok] at htask hgiven
  have hname := @isBackupName_fileName _ run.uuid htask
  have hnames := names_of_isBackupName hname
  cases htype : target.type with
  | «local» =>
      rw [htype] at h
      obtain ⟨hroot, hlocation, bytes, hbytes, hne, hfile⟩ := createLocalBackup_eq_ok hname h
      have hsource : sourceOf target location = .file location := by rw [sourceOf, htype]
      rw [hsource]
      have hinside := (host.locate target.location).inside_child hnames
      refine ⟨bytes, hbytes, hfile, ⟨htype, _, hlocation, hinside⟩, fun later hlater => ?_⟩
      have hresolve : host.resolve location = location := by
        rw [hlocation, BackupHost.resolve_text]
      have hwithin : (host.locate target.location).Within (host.locate location) := by
        rw [hlocation, BackupHost.locate_text]
        exact hinside.1
      have hbase : isBackupName [".dump"] (baseName location) = true := by
        rw [hlocation, baseName_child]
        exact hname
      rw [withBackupFile_local_iff htype, hresolve]
      refine ⟨⟨?_, hgiven.2⟩, hroot, ⟨hwithin, hbase⟩, ?_⟩
      · intro hempty
        rw [hempty] at hbase
        revert hbase
        decide
      · rw [show later.files location = some (.file bytes) from hlater]
        exact openBackup_file hne
  | s3 =>
      rw [htype] at h
      obtain ⟨s3, hvalid, hlocation, bytes, hbytes, hne, hobject⟩ := createS3Backup_eq_ok h
      have hsource : sourceOf target location = .object location := by rw [sourceOf, htype]
      rw [hsource]
      refine ⟨bytes, hbytes, ?_, ⟨htype, s3, _, hvalid, hlocation, hnames.noSlash⟩,
        fun later hlater => ?_⟩
      · rw [BackupStorage.found, hobject]
        rfl
      · obtain ⟨found, hfound, hsame⟩ := Option.map_eq_some_iff.mp hlater
        cases hsame
        rw [withBackupFile_s3_iff htype]
        refine ⟨⟨?_, hgiven.2⟩, s3, hvalid, ⟨_, hlocation, hname⟩, rfl, _, hfound,
          openBackup_file hne⟩
        intro hempty
        rw [hlocation, S3Target.uri] at hempty
        simp at hempty

end Creation

/-- A new backup is opened again at its location while it is there, and a location opens nothing
outside the target if and only if it does not open the path of the target itself. -/
theorem backupLocations_iff (host : BackupHost) (target : StoredBackupTarget) :
    (∀ run taskId s location s', createBackup host run target taskId s = .ok (location, s') →
      ∃ bytes, run.dump = some bytes ∧
        s'.found (sourceOf target location) = some (.file bytes) ∧
        Contained host target (sourceOf target location) ∧
        ∀ later : BackupStorage, later.found (sourceOf target location) = some (.file bytes) →
          withBackupFile host true location target later =
            .ok ⟨sourceOf target location, bytes⟩) ∧
    ∀ downloads location s,
      (∀ opened, withBackupFile host downloads location target s = .ok opened →
        Contained host target opened.source) ↔ ¬OpensTarget host target location s :=
  ⟨fun _ _ _ _ _ h => createBackup_opened h, fun downloads _ _ => contained_iff downloads⟩

def backupAsTarget : StoredBackupTarget :=
  ⟨"old", "old", .local, "/backups/kubenova-update-a.dump", none⟩

def backupsHost : BackupHost := ⟨⟨[], by simp⟩, "/backups", fun _ => none⟩

def oneBackup : BackupStorage where
  files path := if path = "/backups/kubenova-update-a.dump" then some (.file [1]) else none
  objects _ := none

theorem opensTarget_backupAsTarget :
    OpensTarget backupsHost backupAsTarget backupAsTarget.location oneBackup where
  isLocal := rfl
  given := by decide
  belongs := by
    rw [AbsolutePath.Within]
    decide +kernel
  same := rfl
  named := by decide +kernel
  isFile := ⟨[1], by decide, by decide +kernel⟩

/-- The settings accept the path of a backup as a target, and its location opens that backup, which
is not inside the target. -/
theorem target_opened_as_backup :
    ¬∀ (host : BackupHost) (input settings : StoredSettings) (target : StoredBackupTarget)
      (downloads : Bool) (location : String) (s : BackupStorage),
      normalizeSettings host.parseUrl input = .ok settings → target ∈ settings.backupTargets →
        ∀ opened, withBackupFile host downloads location target s = .ok opened →
          Contained host target opened.source := by
  intro h
  have hsettings : normalizeSettings backupsHost.parseUrl
      { unconfiguredSettings with backupTargets := [backupAsTarget] } =
        .ok { unconfiguredSettings with backupTargets := [backupAsTarget] } := by
    decide +kernel
  have hcontained := h backupsHost _ _ backupAsTarget false backupAsTarget.location oneBackup
    hsettings List.mem_cons_self
  exact (contained_iff false).mp hcontained opensTarget_backupAsTarget

end KubeNova.Update
