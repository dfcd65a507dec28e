import KubeNova.Common.Exceptions
import KubeNova.Foundation.Percent
import KubeNova.Foundation.Pgpass
import KubeNova.Foundation.Results

/-!
# Connections of backups and rehearsals

The command lines and password files `KubernetesDatabaseBackupService` and
`KubernetesMigrationDatabaseService` make of a connection URL, and the connection each of the two
describes.  A rehearsal restores a backup to a temporary database of the same server.
-/

namespace KubeNova.Update.Database

open KubeNova.Common KubeNova.Foundation

/-- The parts of a parsed connection URL that are read, with its first `sslmode` parameter. -/
structure ConnectionUrl where
  protocol : String
  hostname : String
  port : String
  username : String
  password : String
  pathname : String
  sslmode : Option String
  deriving Repr, DecidableEq

/-- `new URL(text)`, nothing where it throws, and the text of a URL after its path was assigned. -/
structure ConnectionUrls where
  parse : String → Option ConnectionUrl
  withPathname : String → String → String

def isPostgres (url : ConnectionUrl) : Bool :=
  ["postgres:", "postgresql:"].contains url.protocol

def afterFirst (text : String) : String := String.ofList (text.toList.drop 1)

def orElse (text fallback : String) : String := if text = "" then fallback else text

def decode (text : String) : Except Exception String :=
  match Percent.decodeURIComponent text with
  | some decoded => .ok decoded
  | none => .error (.error "URI malformed")

def pgpassLine (host port database username password : String) : String :=
  Pgpass.line host port database username password

structure DumpConfig where
  args : List String
  passwordLine : Option String
  sslmode : Option String
  deriving Repr, DecidableEq

def hasBreak (text : String) : Bool := text.toList.any Pgpass.isBreak

def postgresDumpConfig (urls : ConnectionUrls) (databaseUrl outputFile : String) :
    Except Exception DumpConfig :=
  match urls.parse databaseUrl with
  | none => .error (.badRequest "PostgreSQL DATABASE_URL 格式无效")
  | some parsed =>
      if !isPostgres parsed || parsed.hostname = "" || parsed.pathname = "" ||
          parsed.pathname = "/" then
        .error (.badRequest "Kubernetes 备份仅支持带主机和数据库名的 PostgreSQL DATABASE_URL")
      else do
        let host := parsed.hostname
        let port := orElse parsed.port "5432"
        let database ← decode (afterFirst parsed.pathname)
        let username ← decode (orElse parsed.username "postgres")
        if database = "" || hasBreak (database ++ username ++ host ++ port) then
          .error (.badRequest "PostgreSQL DATABASE_URL 包含无效字符")
        else do
          let passwordLine ← if parsed.password = "" then pure none else do
            let password ← decode parsed.password
            pure (some (pgpassLine host port database username password))
          return {
            args := ["--format=custom", "--no-owner", "--file", outputFile, "--host", host,
              "--port", port, "--username", username, database]
            passwordLine := passwordLine
            sslmode := parsed.sslmode }

structure TemporaryDatabaseHandle where
  name : String
  connectionString : String
  deriving Repr, DecidableEq

structure TemporaryDatabaseTarget where
  handle : TemporaryDatabaseHandle
  adminUrl : String
  deriving Repr, DecidableEq

def temporaryPrefix : String := "kubenova_preflight_"

/-- `/^[a-f0-9]{8,32}$/i` -/
def isSuffix (suffix : String) : Bool :=
  8 ≤ suffix.toList.length && suffix.toList.length ≤ 32 && suffix.toList.all Text.isHex

def createKubernetesTemporaryDatabaseTarget (urls : ConnectionUrls)
    (connectionString suffix : String) : Except Exception TemporaryDatabaseTarget :=
  if !isSuffix suffix then
    .error (.badRequest "Kubernetes temporary database suffix is invalid")
  else
    match urls.parse connectionString with
    | none => .error (.badRequest "A PostgreSQL migration-test connection URL is required")
    | some parsed =>
        if !isPostgres parsed || parsed.hostname = "" || afterFirst parsed.pathname = "" then
          .error (.badRequest "A PostgreSQL migration-test connection URL is required")
        else
          let name := temporaryPrefix ++ Text.toLower suffix
          .ok {
            handle := {
              name := name
              connectionString := urls.withPathname connectionString ("/" ++ name) }
            adminUrl := urls.withPathname connectionString "/postgres" }

/-- `value.replace(/^\[|\]$/g, '')` -/
def normalizeHost (value : String) : String :=
  let opened := if value.toList.head? = some '[' then value.toList.drop 1 else value.toList
  String.ofList (if opened.getLast? = some ']' then opened.dropLast else opened)

/-- `name.replace(/^kubenova_preflight_/, '')` -/
def withoutPrefix (name : String) : String :=
  if Text.startsWith temporaryPrefix name then
    String.ofList (name.toList.drop temporaryPrefix.toList.length)
  else name

/-- The run of `pg_restore`: its arguments, the password file and the `PGSSLMODE` it is given. -/
structure RestoreRun where
  args : List String
  passwordFile : String
  sslmode : Option String
  deriving Repr, DecidableEq

def restoreBackup (urls : ConnectionUrls) (database : TemporaryDatabaseHandle)
    (backupFile : String) : Except Exception RestoreRun :=
  if database.name = "" || database.connectionString = "" || backupFile = "" then
    .error (.badRequest "Kubernetes migration restore inputs are incomplete")
  else do
    let target ← createKubernetesTemporaryDatabaseTarget urls database.connectionString
      (withoutPrefix database.name)
    if database.name ≠ target.handle.name then
      .error (.badRequest
        "Kubernetes temporary database handle does not match its generated identifier")
    else
      match urls.parse database.connectionString with
      | none => .error (.error "Invalid URL")
      | some url => do
          let host := normalizeHost url.hostname
          let port := orElse url.port "5432"
          let username ← decode (orElse url.username "postgres")
          let password ← decode url.password
          return {
            args := ["--exit-on-error", "--no-owner", "--no-acl", "--host", host, "--port", port,
              "--username", username, "--dbname", database.name, backupFile]
            passwordFile := pgpassLine host port database.name username password
            sslmode := url.sslmode.filter (· ≠ "") }

/-! ## The connections they describe -/

structure Connection where
  host : String
  port : String
  username : String
  password : String
  database : String
  deriving Repr, DecidableEq

/-- The value of an option on a command line, where the options of `valued` take one. -/
def optionValue (valued : List String) (flag : String) : List String → Option String
  | option :: value :: rest =>
      if valued.contains option then
        if option = flag then some value else optionValue valued flag rest
      else optionValue valued flag (value :: rest)
  | _ => none

/-- What `pg_dump` connects to: its options, its last argument, and the password its file has for
these. -/
def DumpConfig.connection (config : DumpConfig) : Connection :=
  let option (flag : String) : String :=
    (optionValue ["--file", "--host", "--port", "--username"] flag config.args).getD ""
  let host := option "--host"
  let port := option "--port"
  let username := option "--username"
  let database := config.args.getLast?.getD ""
  let password := config.passwordLine.bind fun line =>
    Pgpass.password? line host port database username
  ⟨host, port, username, password.getD "", database⟩

/-- What `pg_restore` connects to. -/
def RestoreRun.connection (run : RestoreRun) : Connection :=
  let option (flag : String) : String :=
    (optionValue ["--host", "--port", "--username", "--dbname"] flag run.args).getD ""
  let host := option "--host"
  let port := option "--port"
  let username := option "--username"
  let database := option "--dbname"
  ⟨host, port, username,
    (Pgpass.password? run.passwordFile host port database username).getD "", database⟩

def withoutBreaks (text : String) : String := String.ofList (Pgpass.strip text.toList)

variable {urls : ConnectionUrls} {databaseUrl outputFile backupFile suffix : String}

/-- What `postgresDumpConfig` requires of a URL. -/
structure Dumps (parsed : ConnectionUrl) (database username password : String) : Prop where
  postgres : isPostgres parsed = true
  hasHost : parsed.hostname ≠ ""
  hasPath : parsed.pathname ≠ "" ∧ parsed.pathname ≠ "/"
  databaseRead : decode (afterFirst parsed.pathname) = .ok database
  usernameRead : decode (orElse parsed.username "postgres") = .ok username
  passwordRead : decode parsed.password = .ok password
  named : database ≠ ""
  unbroken : hasBreak (database ++ username ++ parsed.hostname ++ orElse parsed.port "5432") = false

def dumpOf (parsed : ConnectionUrl) (outputFile database username password : String) :
    DumpConfig where
  args := ["--format=custom", "--no-owner", "--file", outputFile, "--host", parsed.hostname,
    "--port", orElse parsed.port "5432", "--username", username, database]
  passwordLine :=
    if parsed.password = "" then none
    else some (pgpassLine parsed.hostname (orElse parsed.port "5432") database username password)
  sslmode := parsed.sslmode

theorem decode_empty : decode "" = .ok "" := rfl

theorem postgresDumpConfig_eq_ok {config : DumpConfig} :
    postgresDumpConfig urls databaseUrl outputFile = .ok config ↔
      ∃ parsed database username password, urls.parse databaseUrl = some parsed ∧
        Dumps parsed database username password ∧
        config = dumpOf parsed outputFile database username password := by
  unfold postgresDumpConfig
  constructor
  · intro h
    cases hparse : urls.parse databaseUrl with
    | none =>
        rw [hparse] at h
        cases h
    | some parsed =>
        simp only [hparse] at h
        split at h
        · cases h
        · rename_i hurl
          simp only [Bool.or_eq_true, Bool.not_eq_true', decide_eq_true_eq, not_or,
            Bool.not_eq_false] at hurl
          obtain ⟨database, hdatabase, h⟩ := Results.bind_eq_ok.mp h
          obtain ⟨username, husername, h⟩ := Results.bind_eq_ok.mp h
          split at h
          · cases h
          · rename_i hvalid
            simp only [Bool.or_eq_true, decide_eq_true_eq, not_or, Bool.not_eq_true] at hvalid
            by_cases hpassword : parsed.password = ""
            · have hdecoded : decode parsed.password = .ok "" := by
                rw [hpassword]
                rfl
              rw [if_pos hpassword] at h
              cases h
              refine ⟨parsed, database, username, "", rfl, ?_, ?_⟩
              · exact ⟨hurl.1.1.1, hurl.1.1.2, ⟨hurl.1.2, hurl.2⟩, hdatabase, husername, hdecoded,
                  hvalid.1, hvalid.2⟩
              · rw [dumpOf, if_pos hpassword]
            · rw [if_neg hpassword] at h
              obtain ⟨password, hdecoded, h⟩ := Results.bind_eq_ok.mp h
              cases h
              refine ⟨parsed, database, username, password, rfl, ?_, ?_⟩
              · exact ⟨hurl.1.1.1, hurl.1.1.2, ⟨hurl.1.2, hurl.2⟩, hdatabase, husername, hdecoded,
                  hvalid.1, hvalid.2⟩
              · rw [dumpOf, if_neg hpassword]
  · rintro ⟨parsed, database, username, password, hparse, hdumps, rfl⟩
    have hurl : (!isPostgres parsed || parsed.hostname = "" || parsed.pathname = "" ||
        parsed.pathname = "/") = false := by
      simp [hdumps.postgres, hdumps.hasHost, hdumps.hasPath]
    have hvalid : (database = "" || hasBreak (database ++ username ++ parsed.hostname ++
        orElse parsed.port "5432")) = false := by
      simp [hdumps.named, hdumps.unbroken]
    simp only [hparse, hurl, Bool.false_eq_true, if_false]
    refine Results.bind_eq_ok.mpr ⟨database, hdumps.databaseRead, ?_⟩
    refine Results.bind_eq_ok.mpr ⟨username, hdumps.usernameRead, ?_⟩
    rw [if_neg (by rw [hvalid]; exact Bool.false_ne_true), dumpOf]
    by_cases hpassword : parsed.password = ""
    · rw [if_pos hpassword, if_pos hpassword]
      rfl
    · rw [if_neg hpassword, if_neg hpassword]
      exact Results.bind_eq_ok.mpr ⟨password, hdumps.passwordRead, rfl⟩

def runOf (url : ConnectionUrl) (backupFile database username password : String) : RestoreRun where
  args := ["--exit-on-error", "--no-owner", "--no-acl", "--host", normalizeHost url.hostname,
    "--port", orElse url.port "5432", "--username", username, "--dbname", database, backupFile]
  passwordFile :=
    pgpassLine (normalizeHost url.hostname) (orElse url.port "5432") database username password
  sslmode := url.sslmode.filter (· ≠ "")

theorem restoreBackup_eq_ok {handle : TemporaryDatabaseHandle} {run : RestoreRun}
    (h : restoreBackup urls handle backupFile = .ok run) :
    ∃ url username password, urls.parse handle.connectionString = some url ∧
      decode (orElse url.username "postgres") = .ok username ∧
      decode url.password = .ok password ∧
      run = runOf url backupFile handle.name username password := by
  unfold restoreBackup at h
  split at h
  · cases h
  · obtain ⟨target, -, h⟩ := Results.bind_eq_ok.mp h
    split at h
    · cases h
    · cases hparse : urls.parse handle.connectionString with
      | none =>
          rw [hparse] at h
          cases h
      | some url =>
          simp only [hparse] at h
          obtain ⟨username, husername, h⟩ := Results.bind_eq_ok.mp h
          obtain ⟨password, hpassword, h⟩ := Results.bind_eq_ok.mp h
          cases h
          exact ⟨url, username, password, rfl, husername, hpassword, rfl⟩

theorem hasBreak_append (front back : String) :
    hasBreak (front ++ back) = (hasBreak front || hasBreak back) := by
  rw [hasBreak, String.toList_append, List.any_append]
  rfl

theorem not_break {text : String} (h : hasBreak text = false) :
    ∀ c ∈ text.toList, Pgpass.isBreak c = false := by
  intro c hc
  rw [hasBreak, List.any_eq_false] at h
  exact Bool.eq_false_iff.mpr (h c hc)

theorem passwordOf_line {host port database username : String} (password : String)
    (h : hasBreak (database ++ username ++ host ++ port) = false) :
    Pgpass.password? (pgpassLine host port database username password) host port database username =
      some (withoutBreaks password) := by
  simp only [hasBreak_append, Bool.or_eq_false_iff] at h
  exact Pgpass.password?_line password (not_break h.1.2) (not_break h.2) (not_break h.1.1.1)
    (not_break h.1.1.2)

theorem connection_dumpOf {parsed : ConnectionUrl} {database username password : String}
    (h : Dumps parsed database username password) :
    (dumpOf parsed outputFile database username password).connection =
      ⟨parsed.hostname, orElse parsed.port "5432", username, withoutBreaks password, database⟩ := by
  have hline := passwordOf_line password h.unbroken
  unfold DumpConfig.connection dumpOf
  by_cases hpassword : parsed.password = ""
  · have hempty : password = "" := by
      have hread := h.passwordRead
      rw [hpassword, decode_empty] at hread
      cases hread
      rfl
    subst hempty
    simp [optionValue, hpassword]
    rfl
  · simp [optionValue, hpassword, hline]

theorem connection_runOf {url : ConnectionUrl} {database username : String}
    (backupFile password : String)
    (h : hasBreak (database ++ username ++ normalizeHost url.hostname ++ orElse url.port "5432") =
      false) :
    (runOf url backupFile database username password).connection =
      ⟨normalizeHost url.hostname, orElse url.port "5432", username, withoutBreaks password,
        database⟩ := by
  have hline := passwordOf_line password h
  unfold RestoreRun.connection runOf
  simp [optionValue, hline]

/-- The host is written in brackets, as that of an IPv6 address is. -/
def Bracketed (hostname : String) : Prop :=
  hostname.toList.head? = some '[' ∨ hostname.toList.getLast? = some ']'

theorem normalizeHost_eq_self_iff {hostname : String} :
    normalizeHost hostname = hostname ↔ ¬Bracketed hostname := by
  have hlist : normalizeHost hostname = hostname ↔
      (normalizeHost hostname).toList = hostname.toList := String.toList_inj.symm
  rw [hlist, normalizeHost, String.toList_ofList, Bracketed, not_or]
  generalize hostname.toList = cs
  by_cases hopen : cs.head? = some '['
  · rw [if_pos hopen]
    refine iff_of_false ?_ fun h => h.1 hopen
    intro h
    have hlength := congrArg List.length h
    cases cs with
    | nil => cases hopen
    | cons c cs =>
        rw [List.drop_succ_cons, List.drop_zero, List.length_cons] at hlength
        split at hlength
        · rw [List.length_dropLast] at hlength
          omega
        · omega
  · rw [if_neg hopen]
    by_cases hclose : cs.getLast? = some ']'
    · rw [if_pos hclose]
      refine iff_of_false ?_ fun h => h.2 hclose
      intro h
      have hlength := congrArg List.length h
      rw [List.length_dropLast] at hlength
      have hnil : cs = [] := List.length_eq_zero_iff.mp (by omega)
      subst hnil
      cases hclose
    · rw [if_neg hclose]
      exact iff_of_true rfl ⟨hopen, hclose⟩

theorem mem_normalizeHost {hostname : String} {c : Char}
    (h : c ∈ (normalizeHost hostname).toList) : c ∈ hostname.toList := by
  rw [normalizeHost, String.toList_ofList] at h
  have hopened : ∀ cs : List Char, c ∈ (if cs.getLast? = some ']' then cs.dropLast else cs) →
      c ∈ cs := by
    intro cs hc
    split at hc
    · exact (List.dropLast_sublist cs).subset hc
    · exact hc
  have hdropped := hopened _ h
  split at hdropped
  · exact List.mem_of_mem_drop hdropped
  · exact hdropped

def isWordChar (c : Char) : Bool := c.isAlphanum || c == '_'

/-- Assigning a path of letters, digits and underscores to a URL with a host changes nothing else,
and the text that comes of it is read back. -/
def ConnectionUrls.AssignsPathname (urls : ConnectionUrls) : Prop :=
  ∀ text url name, urls.parse text = some url → url.hostname ≠ "" →
    (∀ c ∈ name.toList, isWordChar c = true) →
    urls.parse (urls.withPathname text ("/" ++ name)) = some { url with pathname := "/" ++ name }

theorem createTarget_eq_ok {connectionString : String} {target : TemporaryDatabaseTarget}
    (h : createKubernetesTemporaryDatabaseTarget urls connectionString suffix = .ok target) :
    isSuffix suffix = true ∧ target.handle.name = temporaryPrefix ++ Text.toLower suffix ∧
      target.handle.connectionString =
        urls.withPathname connectionString ("/" ++ target.handle.name) := by
  unfold createKubernetesTemporaryDatabaseTarget at h
  split at h
  · cases h
  · rename_i hsuffix
    cases hparse : urls.parse connectionString with
    | none =>
        rw [hparse] at h
        cases h
    | some parsed =>
        simp only [hparse] at h
        split at h
        · cases h
        · cases h
          refine ⟨?_, rfl, rfl⟩
          simpa only [Bool.not_eq_true', Bool.not_eq_false] using hsuffix

theorem isWordChar_toLower {c : Char} (h : Text.isHex c = true) : isWordChar c.toLower = true := by
  have hsmall : ∀ n : Fin 128, Text.isHex (Char.ofNat n) = true →
      isWordChar (Char.ofNat n).toLower = true := by
    decide
  have hlt : c.toNat < 128 := by
    have hbound (d : Char) (hd : c ≤ d) (hd' : d.toNat < 128) : c.toNat < 128 := by
      have hle : c.toNat ≤ d.toNat := hd
      omega
    simp only [Text.isHex, Text.isLowerHex, Text.isDigit, Bool.or_eq_true, Bool.and_eq_true,
      decide_eq_true_eq] at h
    obtain (h | h) | h := h
    · exact hbound '9' h.2 (by decide)
    · exact hbound 'f' h.2 (by decide)
    · exact hbound 'F' h.2 (by decide)
  have hc := hsmall ⟨c.toNat, hlt⟩
  rw [Char.ofNat_toNat] at hc
  exact hc h

theorem word_temporaryName (h : isSuffix suffix = true) :
    ∀ c ∈ (temporaryPrefix ++ Text.toLower suffix).toList, isWordChar c = true := by
  intro c hc
  rw [String.toList_append, List.mem_append] at hc
  obtain hc | hc := hc
  · have hprefix : temporaryPrefix.toList.all isWordChar = true := by decide
    exact List.all_eq_true.mp hprefix c hc
  · rw [Text.toLower, String.toList_ofList, List.mem_map] at hc
    obtain ⟨d, hd, rfl⟩ := hc
    simp only [isSuffix, Bool.and_eq_true] at h
    exact isWordChar_toLower (List.all_eq_true.mp h.2 d hd)

theorem decode_word {name : String} (h : ∀ c ∈ name.toList, isWordChar c = true) :
    decode name = .ok name := by
  have hplain : '%' ∉ name.toList := by
    intro hmem
    have hword := h '%' hmem
    cases hword
  rw [decode, Percent.decodeURIComponent_of_plain hplain]

theorem hasBreak_word {name : String} (h : ∀ c ∈ name.toList, isWordChar c = true) :
    hasBreak name = false := by
  rw [hasBreak, List.any_eq_false]
  intro c hc hbreak
  have hword := h c hc
  simp only [Pgpass.isBreak, Bool.or_eq_true, beq_iff_eq] at hbreak
  obtain rfl | rfl := hbreak
  · cases hword
  · cases hword

theorem afterFirst_slash (name : String) : afterFirst ("/" ++ name) = name := by
  rw [afterFirst, String.toList_append]
  exact String.ofList_toList

theorem hasBreak_normalizeHost {hostname : String} (h : hasBreak hostname = false) :
    hasBreak (normalizeHost hostname) = false := by
  rw [hasBreak, List.any_eq_false]
  intro c hc
  exact Bool.eq_false_iff.mp (not_break h c (mem_normalizeHost hc))

theorem Dumps.temporary {parsed : ConnectionUrl} {database username password name : String}
    (h : Dumps parsed database username password) (hne : name ≠ "")
    (hname : ∀ c ∈ name.toList, isWordChar c = true) :
    Dumps { parsed with pathname := "/" ++ name } name username password where
  postgres := h.postgres
  hasHost := h.hasHost
  hasPath := by
    have hlist : ("/" ++ name).toList = '/' :: name.toList := by
      rw [String.toList_append]
      rfl
    constructor
    · intro (heq : "/" ++ name = "")
      rw [heq] at hlist
      cases hlist
    · intro (heq : "/" ++ name = "/")
      rw [heq] at hlist
      have hnil : name.toList = [] := (List.cons.inj hlist).2.symm
      exact hne (String.toList_eq_nil_iff.mp hnil)
  databaseRead := by
    rw [afterFirst_slash]
    exact decode_word hname
  usernameRead := h.usernameRead
  passwordRead := h.passwordRead
  named := hne
  unbroken := by
    have hbreaks := h.unbroken
    simp only [hasBreak_append, Bool.or_eq_false_iff] at hbreaks ⊢
    exact ⟨⟨⟨hasBreak_word hname, hbreaks.1.1.2⟩, hbreaks.1.2⟩, hbreaks.2⟩

/-- A rehearsal connects to the server its backup was taken from, with the same user and password,
if and only if the host of the connection URL is not written in brackets; a backup of the temporary
database would then connect to what the rehearsal connects to. -/
theorem connections_agree_iff (urls : ConnectionUrls) (hurls : urls.AssignsPathname)
    {databaseUrl suffix outputFile backupFile : String} {url : ConnectionUrl}
    {target : TemporaryDatabaseTarget} {config : DumpConfig} {run : RestoreRun}
    (hurl : urls.parse databaseUrl = some url)
    (hdump : postgresDumpConfig urls databaseUrl outputFile = .ok config)
    (htarget : createKubernetesTemporaryDatabaseTarget urls databaseUrl suffix = .ok target)
    (hrestore : restoreBackup urls target.handle backupFile = .ok run) :
    (run.connection = { config.connection with database := target.handle.name } ↔
      ¬Bracketed url.hostname) ∧
    ∃ temporary,
      postgresDumpConfig urls target.handle.connectionString outputFile = .ok temporary ∧
        (run.connection = temporary.connection ↔ ¬Bracketed url.hostname) := by
  obtain ⟨hsuffix, hname, hconnection⟩ := createTarget_eq_ok htarget
  obtain ⟨parsed, database, username, password, hparsed, hdumps, rfl⟩ :=
    postgresDumpConfig_eq_ok.mp hdump
  rw [hurl] at hparsed
  cases hparsed
  have hword : ∀ c ∈ target.handle.name.toList, isWordChar c = true := by
    rw [hname]
    exact word_temporaryName hsuffix
  have hne : target.handle.name ≠ "" := by
    rw [hname]
    intro hempty
    have hlist := congrArg String.toList hempty
    rw [String.toList_append] at hlist
    cases hlist
  have hreparsed : urls.parse target.handle.connectionString =
      some { url with pathname := "/" ++ target.handle.name } := by
    rw [hconnection]
    exact hurls databaseUrl url target.handle.name hurl hdumps.hasHost hword
  obtain ⟨url', username', password', hurl', husername, hpassword, rfl⟩ :=
    restoreBackup_eq_ok hrestore
  rw [hreparsed] at hurl'
  cases hurl'
  have hsameUser : username' = username := by
    have hread := hdumps.usernameRead
    rw [husername] at hread
    cases hread
    rfl
  have hsamePassword : password' = password := by
    have hread := hdumps.passwordRead
    rw [hpassword] at hread
    cases hread
    rfl
  subst hsameUser hsamePassword
  have htemporary := hdumps.temporary hne hword
  have hunbroken : hasBreak (target.handle.name ++ username' ++ normalizeHost url.hostname ++
      orElse url.port "5432") = false := by
    have hbreaks := htemporary.unbroken
    simp only [hasBreak_append, Bool.or_eq_false_iff] at hbreaks ⊢
    exact ⟨⟨hbreaks.1.1, hasBreak_normalizeHost hbreaks.1.2⟩, hbreaks.2⟩
  have hrun : (runOf { url with pathname := "/" ++ target.handle.name } backupFile
      target.handle.name username' password').connection = ⟨normalizeHost url.hostname,
        orElse url.port "5432", username', withoutBreaks password', target.handle.name⟩ :=
    connection_runOf backupFile password' hunbroken
  have hagree (connection : Connection) (hconnection : connection = ⟨url.hostname,
      orElse url.port "5432", username', withoutBreaks password', target.handle.name⟩) :
      (runOf { url with pathname := "/" ++ target.handle.name } backupFile target.handle.name
        username' password').connection = connection ↔ ¬Bracketed url.hostname := by
    rw [hrun, hconnection, ← normalizeHost_eq_self_iff]
    simp only [Connection.mk.injEq, and_true]
  constructor
  · apply hagree
    rw [connection_dumpOf hdumps]
  · refine ⟨_, postgresDumpConfig_eq_ok.mpr ⟨_, _, _, _, hreparsed, htemporary, rfl⟩, ?_⟩
    apply hagree
    exact connection_dumpOf htemporary

def urlsOf (origin : String) (server : ConnectionUrl) : ConnectionUrls where
  parse text :=
    if Text.startsWith origin text then
      some { server with pathname := String.ofList (text.toList.drop origin.toList.length) }
    else none
  withPathname text pathname := if Text.startsWith origin text then origin ++ pathname else text

theorem urlsOf_assignsPathname (origin : String) (server : ConnectionUrl) :
    (urlsOf origin server).AssignsPathname := by
  intro text url name hparse _ _
  simp only [urlsOf] at hparse ⊢
  split at hparse
  · rename_i hstarts
    cases hparse
    have hprefix : Text.startsWith origin (origin ++ ("/" ++ name)) = true := by
      rw [Text.startsWith, String.toList_append, List.isPrefixOf_iff_prefix]
      exact List.prefix_append _ _
    rw [if_pos hstarts, if_pos hprefix, String.toList_append, List.drop_left, String.ofList_toList]
  · cases hparse

def namedServer : ConnectionUrl where
  protocol := "postgres:"
  hostname := "db"
  port := ""
  username := "k"
  password := "%40"
  pathname := ""
  sslmode := none

def addressServer : ConnectionUrl := { namedServer with hostname := "[::1]" }

def namedUrls : ConnectionUrls := urlsOf "postgres://k:%40@db" namedServer

def addressUrls : ConnectionUrls := urlsOf "postgres://k:%40@[::1]" addressServer

/-- What a backup of the database, and of the temporary one, is run with. -/
def dumpFrom (host database : String) : DumpConfig where
  args := ["--format=custom", "--no-owner", "--file", "/k", "--host", host, "--port",
    "5432", "--username", "k", database]
  passwordLine := some (pgpassLine host "5432" database "k" "@")
  sslmode := none

def restoreTo (host : String) : RestoreRun where
  args := ["--exit-on-error", "--no-owner", "--no-acl", "--host", host, "--port", "5432",
    "--username", "k", "--dbname", "kubenova_preflight_0123abcd", "/k"]
  passwordFile := pgpassLine host "5432" "kubenova_preflight_0123abcd" "k" "@"
  sslmode := none

def temporaryAt (origin : String) : TemporaryDatabaseTarget where
  handle := ⟨"kubenova_preflight_0123abcd", origin ++ "/kubenova_preflight_0123abcd"⟩
  adminUrl := origin ++ "/postgres"

theorem namedServer_agrees :
    (restoreTo "db").connection =
      { (dumpFrom "db" "k").connection with database := "kubenova_preflight_0123abcd" } := by
  have hunbracketed : ¬Bracketed "db" := by
    rw [Bracketed]
    decide
  have hurl : namedUrls.parse "postgres://k:%40@db/k" =
      some { namedServer with pathname := "/k" } := by
    decide +kernel
  have hdump : postgresDumpConfig namedUrls "postgres://k:%40@db/k" "/k" =
      .ok (dumpFrom "db" "k") := by
    decide +kernel
  have htarget : createKubernetesTemporaryDatabaseTarget namedUrls
      "postgres://k:%40@db/k" "0123abcd" =
        .ok (temporaryAt "postgres://k:%40@db") := by
    decide +kernel
  have hrestore : restoreBackup namedUrls (temporaryAt "postgres://k:%40@db").handle
      "/k" = .ok (restoreTo "db") := by
    decide +kernel
  exact (connections_agree_iff namedUrls (urlsOf_assignsPathname _ _) hurl hdump htarget
    hrestore).1.mpr hunbracketed

/-- The backup looks for a host named `[::1]`, the rehearsal connects to `::1`. -/
theorem address_disagrees :
    postgresDumpConfig addressUrls "postgres://k:%40@[::1]/k" "/k" =
      .ok (dumpFrom "[::1]" "k") ∧
    createKubernetesTemporaryDatabaseTarget addressUrls "postgres://k:%40@[::1]/k"
      "0123abcd" = .ok (temporaryAt "postgres://k:%40@[::1]") ∧
    restoreBackup addressUrls (temporaryAt "postgres://k:%40@[::1]").handle "/k" =
      .ok (restoreTo "::1") ∧
    postgresDumpConfig addressUrls
      "postgres://k:%40@[::1]/kubenova_preflight_0123abcd" "/k" =
      .ok (dumpFrom "[::1]" "kubenova_preflight_0123abcd") ∧
    (dumpFrom "[::1]" "k").connection.host = "[::1]" ∧
    (dumpFrom "[::1]" "kubenova_preflight_0123abcd").connection.host = "[::1]" ∧
    (restoreTo "::1").connection.host = "::1" := by
  refine ⟨?_, ?_, ?_, ?_, ?_, ?_, ?_⟩
  · decide +kernel
  · decide +kernel
  · decide +kernel
  · decide +kernel
  · decide +kernel
  · decide +kernel
  · decide +kernel

end KubeNova.Update.Database
