import KubeNova.Update.UpdateRuns

/-!
# The steps of update requests

`UpdateStep` is what one statement of a request may do, with what the request knows by then.
From it follows what the log and the state say of each other in every run: `UpdateInv`.
-/

namespace KubeNova.Update

open KubeNova.Common KubeNova.Foundation

def rowAt (saves : List String) (n : Nat) : Option String := (saves.drop (saves.length - n)).head?

theorem rowAt_length (saves : List String) : rowAt saves saves.length = saves.head? := by
  simp [rowAt]

theorem rowAt_of_suffix {saves later : List String} (h : saves <:+ later) {n : Nat}
    (hn : n ≤ saves.length) : rowAt later n = rowAt saves n := by
  obtain ⟨front, rfl⟩ := h
  have hdrop : (front ++ saves).length - n = front.length + (saves.length - n) := by
    rw [List.length_append]
    omega
  rw [rowAt, rowAt, hdrop, ← List.drop_drop, List.drop_left]

structure PreflightRun.IsReadFrom (config : SettingsConfig) (saves : List String)
    (run : PreflightRun) : Prop where
  last : run.last ≤ saves.length
  settings : ∃ stored, config.decode (rowAt saves run.first) = .ok stored ∧
    run.settings = publicSettings stored
  executorSettings : ∃ n, run.first ≤ n ∧ n ≤ run.last ∧
    config.decode (rowAt saves n) = .ok run.executorSettings
  fingerprint : run.fingerprint = config.digest (rowAt saves run.last)

theorem PreflightRun.IsReadFrom.mono {config : SettingsConfig} {saves later : List String}
    {run : PreflightRun} (h : run.IsReadFrom config saves) (hsaves : saves <:+ later) :
    run.IsReadFrom config later := by
  obtain ⟨n, hfirst, hlast, hdecode⟩ := h.executorSettings
  obtain ⟨stored, hstored, hpublic⟩ := h.settings
  have hle := h.last
  refine ⟨h.last.trans hsaves.length_le, ⟨stored, ?_, hpublic⟩, ⟨n, hfirst, hlast, ?_⟩, ?_⟩
  · rw [rowAt_of_suffix hsaves (by omega)]
    exact hstored
  · rw [rowAt_of_suffix hsaves (by omega)]
    exact hdecode
  · rw [rowAt_of_suffix hsaves hle]
    exact h.fingerprint

def IsSpent (q : Queue) (id : String) : Prop :=
  ∃ row, q.tasks.lookup id = some row ∧ (row.status = .failed ∨
    ∃ other row', other ≠ id ∧ q.tasks.lookup other = some row' ∧ row'.action = .preflight ∧
      row.createdAt ≤ row'.createdAt)

structure UpdateState.Supports (service : UpdateService) (s : UpdateState) (a : Acceptance) :
    Prop where
  record : .consulted a.since a.preflightId ∈ s.log ∨ .recalled a.since a.preflightId ∈ s.log
  compared : ∃ writer,
    .compared a.preflightId writer (service.settings.digest (rowAt s.saves a.compared)) ∈ s.log
  used : service.settings.decode (rowAt s.saves a.read) = .ok a.used
  order : a.compared ≤ a.read ∧ a.read ≤ s.saves.length

def UpdateState.HasRead (s : UpdateState) (request : Nat) (id : String)
    (fingerprint : Option String) : Prop :=
  ∃ run, .executed request id run ∈ s.log ∧ fingerprint = some run.fingerprint

open UpdateService in
inductive UpdateStep (service : UpdateService) (s : UpdateState) : UpdateState → Prop
  | outside {t : UpdateState} (h : OutsideUpdate s t) : UpdateStep service s t
  | queue (queue : Queue) (h : TasksKept s.queue queue) :
      UpdateStep service s { s with queue := queue }
  | save (text : String) : UpdateStep service s { s with saves := text :: s.saves }
  | request : UpdateStep service s { s with requests := s.requests + 1 }
  | execute (request : Nat) (run : PreflightRun)
      (hrun : run.IsReadFrom service.settings s.saves) :
      UpdateStep service s (service.execute request run s).2
  | submit (id : String) (row : Task) (request : Nat) (hmode : service.mode = .kubernetes)
      (hfresh : id ∉ s.queue.tasks) (haction : row.action = .preflight)
      (hcreated : row.createdAt = s.queue.now)
      (hread : s.HasRead request row.payload.preflightId row.payload.settingsFingerprint) :
      UpdateStep service s
        ({ s with queue := { s.queue with tasks := s.queue.tasks.insert id row } }.note
          (.submitted request s.queue.now))
  | refuse (request : Nat) (found : Option (String × TaskStatus)) (preflight : PreflightPayload)
      (hmode : service.mode = .kubernetes) (hstatus : preflight.status ≠ .passed)
      (hspent : ∀ task ∈ found, task.2 ≠ .queued → task.2 ≠ .running → IsSpent s.queue task.1) :
      UpdateStep service s (setPreflight preflight
        (s.note (.invalidated request found ((latestPreflight s).map Prod.fst)))).2
  | running (preflight : PreflightPayload) (hstatus : preflight.status ≠ .passed) :
      UpdateStep service s { s with preflight := some preflight }
  | publish (request : Nat) (preflight : PreflightPayload) (hmode : service.mode ≠ .kubernetes)
      (hread : ∃ fingerprint, s.HasRead request preflight.id fingerprint) :
      UpdateStep service s (setPreflight preflight (s.note (.published request))).2
  | abandon (request : Nat) : UpdateStep service s (s.note (.abandoned request))
  | consult (since : Nat) (id : String) (row : Task) (hmode : service.mode = .kubernetes)
      (hlatest : latestPreflight s = some (id, row)) (hpassed : row.status = .succeeded) :
      UpdateStep service s (s.note (.consulted since row.payload.preflightId))
  | «recall» (since : Nat) (id : String) : UpdateStep service s (s.note (.recalled since id))
  | load (preflight : PreflightPayload) (fingerprint : Option String)
      (hmode : service.mode = .kubernetes)
      (hread : ∃ request, s.HasRead request preflight.id fingerprint) :
      UpdateStep service s { s with
        preflight := some preflight
        preflightSettingsFingerprint := fingerprint
        writer := some preflight.id }
  | compare (id fingerprint : String) (hfield : s.preflightSettingsFingerprint = some fingerprint) :
      UpdateStep service s (s.note (.compared id s.writer fingerprint))
  | compareOnHost (since : Nat) (preflight : PreflightPayload) (fingerprint : String)
      (hmode : service.mode ≠ .kubernetes) (hrecord : s.preflight = some preflight)
      (hpassed : preflight.status = .passed)
      (hfield : s.preflightSettingsFingerprint = some fingerprint) :
      UpdateStep service s ((s.note (.compared preflight.id s.writer fingerprint)).note
        (.consulted since preflight.id))
  | accept (a : Acceptance) (queue : Queue) (status : InstallStatus)
      (hqueue : TasksKept s.queue queue) (hsupports : s.Supports service a) :
      UpdateStep service s ({ s with queue := queue, installStatus := status }.note (.accepted a))

structure Later (s t : UpdateState) : Prop where
  log_suffix : s.log <:+ t.log
  saves : s.saves <:+ t.saves
  executions : s.executions ≤ t.executions
  tasks : TasksStay s.queue t.queue

theorem Later.log {s t : UpdateState} (h : Later s t) : s.log ⊆ t.log := h.log_suffix.subset

theorem Later.of_note {s t : UpdateState} (event : UpdateEvent) (hlog : t.log = event :: s.log)
    (hsaves : t.saves = s.saves) (hexecutions : t.executions = s.executions)
    (htasks : TasksKept s.queue t.queue) : Later s t :=
  ⟨by rw [hlog]; exact List.suffix_cons _ _, hsaves ▸ List.suffix_refl _,
    Nat.le_of_eq hexecutions.symm, htasks.kept⟩

theorem Later.of_same {s t : UpdateState} (hlog : t.log = s.log) (hsaves : t.saves = s.saves)
    (hexecutions : t.executions = s.executions) (htasks : TasksKept s.queue t.queue) :
    Later s t :=
  ⟨hlog ▸ List.suffix_refl _, hsaves ▸ List.suffix_refl _,
    Nat.le_of_eq hexecutions.symm, htasks.kept⟩

theorem OutsideUpdate.tasksKept {s t : UpdateState} (h : OutsideUpdate s t) :
    TasksKept s.queue t.queue := by
  cases h <;> exact .of_eq rfl

theorem OutsideUpdate.log {s t : UpdateState} (h : OutsideUpdate s t) :
    t.log = s.log ∧ t.saves = s.saves ∧ t.executions = s.executions := by
  cases h <;> exact ⟨rfl, rfl, rfl⟩

theorem UpdateStep.later {service : UpdateService} {s t : UpdateState}
    (h : UpdateStep service s t) : Later s t := by
  cases h with
  | outside h => exact .of_same h.log.1 h.log.2.1 h.log.2.2 h.tasksKept
  | queue queue h => exact .of_same rfl rfl rfl h
  | save text => exact ⟨List.suffix_refl _, List.suffix_cons _ _, Nat.le_refl _,
      (TasksKept.refl s.queue).kept⟩
  | request => exact .of_same rfl rfl rfl (.refl _)
  | execute request run =>
      exact ⟨List.suffix_cons _ _, List.suffix_refl _, Nat.le_succ _,
        (TasksKept.refl s.queue).kept⟩
  | submit id row request _ hfresh =>
      exact ⟨List.suffix_cons _ _, List.suffix_refl _, Nat.le_refl _, tasksStay_insert hfresh⟩
  | refuse request found preflight =>
      exact .of_note (.invalidated request found _) rfl rfl rfl (.refl _)
  | running preflight => exact .of_same rfl rfl rfl (.refl _)
  | publish request preflight => exact .of_note (.published request) rfl rfl rfl (.refl _)
  | abandon request => exact .of_note (.abandoned request) rfl rfl rfl (.refl _)
  | consult since id row => exact .of_note (.consulted since _) rfl rfl rfl (.refl _)
  | «recall» since id => exact .of_note (.recalled since id) rfl rfl rfl (.refl _)
  | load preflight fingerprint => exact .of_same rfl rfl rfl (.refl _)
  | compare id fingerprint => exact .of_note (.compared id s.writer fingerprint) rfl rfl rfl (.refl _)
  | compareOnHost since preflight fingerprint =>
      exact ⟨(List.suffix_cons _ _).trans (List.suffix_cons _ _), List.suffix_refl _,
        Nat.le_refl _, (TasksKept.refl s.queue).kept⟩
  | accept a queue status hqueue => exact .of_note (.accepted a) rfl rfl rfl hqueue

theorem UpdateState.HasRead.mono {s t : UpdateState} (hlater : Later s t) {request : Nat}
    {id : String} {fingerprint : Option String} (h : s.HasRead request id fingerprint) :
    t.HasRead request id fingerprint := by
  obtain ⟨run, hmem, hfingerprint⟩ := h
  exact ⟨run, hlater.log hmem, hfingerprint⟩

theorem UpdateState.Supports.mono {service : UpdateService} {s t : UpdateState} {a : Acceptance}
    (h : s.Supports service a) (hlater : Later s t) : t.Supports service a := by
  obtain ⟨hcompared, hread⟩ := h.order
  refine ⟨h.record.imp (fun h => hlater.log h) fun h => hlater.log h, ?_, ?_, hcompared,
    hread.trans hlater.saves.length_le⟩
  · obtain ⟨writer, hmem⟩ := h.compared
    refine ⟨writer, ?_⟩
    rw [rowAt_of_suffix hlater.saves (hcompared.trans hread)]
    exact hlater.log hmem
  · rw [rowAt_of_suffix hlater.saves hread]
    exact h.used

theorem IsSpent.mono {q t : Queue} (htasks : TasksStay q t) {id : String} (h : IsSpent q id) :
    IsSpent t id := by
  obtain ⟨row, hrow, hspent⟩ := h
  obtain ⟨row', hrow', hsame⟩ := htasks id row hrow
  refine ⟨row', hrow', ?_⟩
  rcases hspent with hfailed | ⟨other, old, hother, hold, hpreflight, hle⟩
  · exact .inl (hsame.failed hfailed)
  · obtain ⟨new, hnew, hsame'⟩ := htasks other old hold
    refine .inr ⟨other, new, hother, hnew, hsame'.action.trans hpreflight, ?_⟩
    rw [hsame.createdAt, hsame'.createdAt]
    exact hle

/-! ## The invariant -/

def UpdateState.Known (service : UpdateService) (s : UpdateState) : UpdateEvent → Prop
  | .executed _ id run =>
      run.IsReadFrom service.settings s.saves ∧ ∃ n < s.executions, id = service.newId n
  | .submitted request createdAt => service.mode = .kubernetes ∧
      ∃ id row fingerprint, s.queue.tasks.lookup id = some row ∧ row.action = .preflight ∧
        row.createdAt = createdAt ∧ s.HasRead request row.payload.preflightId fingerprint
  | .invalidated _ _ _ => service.mode = .kubernetes
  | .published _ => service.mode ≠ .kubernetes
  | .compared _ writer fingerprint =>
      ∃ id request, writer = some id ∧ s.HasRead request id (some fingerprint)
  | .accepted a => s.Supports service a
  | _ => True

theorem UpdateState.Known.mono {service : UpdateService} {s t : UpdateState} (hlater : Later s t)
    {event : UpdateEvent} (h : s.Known service event) : t.Known service event := by
  cases event with
  | executed request id run =>
      obtain ⟨hrun, n, hn, hid⟩ := h
      exact ⟨hrun.mono hlater.saves, n, Nat.lt_of_lt_of_le hn hlater.executions, hid⟩
  | submitted request createdAt =>
      obtain ⟨hmode, id, row, fingerprint, hrow, haction, hcreated, hread⟩ := h
      obtain ⟨row', hrow', hsame⟩ := hlater.tasks id row hrow
      refine ⟨hmode, id, row', fingerprint, hrow', hsame.action.trans haction,
        hsame.createdAt.trans hcreated, ?_⟩
      rw [hsame.payload]
      exact hread.mono hlater
  | compared id writer fingerprint =>
      obtain ⟨id, request, hwriter, hread⟩ := h
      exact ⟨id, request, hwriter, hread.mono hlater⟩
  | accepted a => exact UpdateState.Supports.mono h hlater
  | invalidated | published | abandoned | consulted | recalled => exact h

def UpdateState.FieldKnown (s : UpdateState) : Prop :=
  ∀ fingerprint, s.preflightSettingsFingerprint = some fingerprint →
    ∃ id request, s.writer = some id ∧ s.HasRead request id (some fingerprint)

def UpdateState.RecordKnown (service : UpdateService) (s : UpdateState) : Prop :=
  service.mode ≠ .kubernetes → ∀ preflight, s.preflight = some preflight →
    preflight.status = .passed → ∃ request fingerprint, s.HasRead request preflight.id fingerprint

def UpdateState.TasksKnown (s : UpdateState) : Prop :=
  ∀ id row, s.queue.tasks.lookup id = some row → row.action = .preflight →
    ∃ request, s.HasRead request row.payload.preflightId row.payload.settingsFingerprint ∧
      .submitted request row.createdAt ∈ s.log

structure UpdateInv (service : UpdateService) (s : UpdateState) : Prop where
  log : ∀ event ∈ s.log, s.Known service event
  unique : ∀ {request request' id run run'}, .executed request id run ∈ s.log →
    .executed request' id run' ∈ s.log → request = request' ∧ run = run'
  field : s.FieldKnown
  record : s.RecordKnown service
  tasks : s.TasksKnown

namespace UpdateInv

variable {service : UpdateService} {s t : UpdateState}

theorem unique_of_note (hs : UpdateInv service s)
    (hlog : ∀ {request id run}, .executed request id run ∈ t.log → .executed request id run ∈ s.log)
    {request request' : Nat} {id : String} {run run' : PreflightRun}
    (h : .executed request id run ∈ t.log) (h' : .executed request' id run' ∈ t.log) :
    request = request' ∧ run = run' := hs.unique (hlog h) (hlog h')

theorem log_same (hs : UpdateInv service s) (hlater : Later s t) (hlog : t.log = s.log) :
    ∀ event ∈ t.log, t.Known service event := by
  intro event hevent
  rw [hlog] at hevent
  exact (hs.log event hevent).mono hlater

theorem log_note (hs : UpdateInv service s) (hlater : Later s t) {new : UpdateEvent}
    (hlog : t.log = new :: s.log) (hnew : t.Known service new) :
    ∀ event ∈ t.log, t.Known service event := by
  intro event hevent
  rw [hlog] at hevent
  rcases List.mem_cons.mp hevent with rfl | hold
  · exact hnew
  · exact (hs.log event hold).mono hlater

theorem field_same (hs : UpdateInv service s) (hlater : Later s t)
    (hfield : t.preflightSettingsFingerprint = s.preflightSettingsFingerprint)
    (hwriter : t.writer = s.writer) : t.FieldKnown := by
  intro fingerprint hfingerprint
  rw [hfield] at hfingerprint
  obtain ⟨id, request, hid, hread⟩ := hs.field fingerprint hfingerprint
  exact ⟨id, request, hwriter.trans hid, hread.mono hlater⟩

theorem record_same (hs : UpdateInv service s) (hlater : Later s t)
    (hrecord : t.preflight = s.preflight) : t.RecordKnown service := by
  intro hmode preflight hpreflight hpassed
  rw [hrecord] at hpreflight
  obtain ⟨request, fingerprint, hread⟩ := hs.record hmode preflight hpreflight hpassed
  exact ⟨request, fingerprint, hread.mono hlater⟩

theorem tasks_kept (hs : UpdateInv service s) (hlater : Later s t)
    (htasks : TasksKept s.queue t.queue) : t.TasksKnown := by
  intro id row' hrow' haction
  obtain ⟨row, hrow, hsame⟩ := htasks.known id row' hrow' haction
  obtain ⟨request, hread, hsubmitted⟩ := hs.tasks id row hrow (hsame.action ▸ haction)
  refine ⟨request, ?_, ?_⟩
  · rw [hsame.payload]
    exact hread.mono hlater
  · rw [hsame.createdAt]
    exact hlater.log hsubmitted

theorem same (hs : UpdateInv service s) (hlater : Later s t) (hlog : t.log = s.log)
    (hfield : t.preflightSettingsFingerprint = s.preflightSettingsFingerprint)
    (hwriter : t.writer = s.writer) (hrecord : t.preflight = s.preflight)
    (htasks : TasksKept s.queue t.queue) : UpdateInv service t :=
  ⟨hs.log_same hlater hlog, fun h h' => hs.unique_of_note (fun h => hlog ▸ h) h h',
    hs.field_same hlater hfield hwriter, hs.record_same hlater hrecord,
    hs.tasks_kept hlater htasks⟩

theorem note (hs : UpdateInv service s) (hlater : Later s t) {new : UpdateEvent}
    (hlog : t.log = new :: s.log) (hnew : t.Known service new)
    (hexecuted : ∀ request id run, new ≠ .executed request id run)
    (hfield : t.preflightSettingsFingerprint = s.preflightSettingsFingerprint)
    (hwriter : t.writer = s.writer) (hrecord : t.RecordKnown service)
    (htasks : TasksKept s.queue t.queue) : UpdateInv service t := by
  refine ⟨hs.log_note hlater hlog hnew, fun h h' => hs.unique_of_note (fun {_ _ _} h => ?_) h h',
    hs.field_same hlater hfield hwriter, hrecord, hs.tasks_kept hlater htasks⟩
  rw [hlog] at h
  exact (List.mem_cons.mp h).resolve_left fun h => hexecuted _ _ _ h.symm

theorem outside (hs : UpdateInv service s) (h : OutsideUpdate s t) : UpdateInv service t := by
  have hlater : Later s t := (UpdateStep.outside h : UpdateStep service s t).later
  cases h with
  | clock now => exact hs.same hlater rfl rfl rfl rfl (.of_eq rfl)
  | polled => exact hs.same hlater rfl rfl rfl rfl (.refl _)
  | restarted =>
      exact ⟨hs.log_same hlater rfl, hs.unique, fun _ h => (nomatch h), fun _ _ h => (nomatch h),
        hs.tasks_kept hlater (.refl _)⟩

theorem execute (hids : Function.Injective service.newId) (hs : UpdateInv service s)
    {request : Nat} {run : PreflightRun} (hrun : run.IsReadFrom service.settings s.saves) :
    UpdateInv service (service.execute request run s).2 := by
  have hlater := (UpdateStep.execute request run hrun : UpdateStep service s _).later
  -- The id is drawn for this preflight: nobody has read under it yet.
  have hfresh : ∀ request' run', .executed request' (service.newId s.executions) run' ∉ s.log := by
    intro request' run' hmem
    obtain ⟨-, n, hn, hid⟩ := hs.log _ hmem
    rw [hids hid] at hn
    exact Nat.lt_irrefl _ hn
  refine ⟨hs.log_note hlater rfl ⟨hrun, s.executions, Nat.lt_succ_self _, rfl⟩, ?_, ?_,
    hs.record_same hlater rfl, hs.tasks_kept hlater (.refl _)⟩
  · intro request₁ request₂ id run₁ run₂ h h'
    rcases List.mem_cons.mp h with hnew | hold <;> rcases List.mem_cons.mp h' with hnew' | hold'
    · cases hnew
      cases hnew'
      exact ⟨rfl, rfl⟩
    · cases hnew
      exact absurd hold' (hfresh _ _)
    · cases hnew'
      exact absurd hold (hfresh _ _)
    · exact hs.unique hold hold'
  · intro fingerprint hfingerprint
    obtain rfl := Option.some.inj hfingerprint
    exact ⟨_, request, rfl, run, List.mem_cons_self, rfl⟩

theorem submit (hs : UpdateInv service s) {id : String} {row : Task} {request : Nat}
    (hmode : service.mode = .kubernetes) (hfresh : id ∉ s.queue.tasks)
    (haction : row.action = .preflight) (hcreated : row.createdAt = s.queue.now)
    (hread : s.HasRead request row.payload.preflightId row.payload.settingsFingerprint) :
    UpdateInv service
      ({ s with queue := { s.queue with tasks := s.queue.tasks.insert id row } }.note
        (.submitted request s.queue.now)) := by
  have hlater := (UpdateStep.submit id row request hmode hfresh haction hcreated hread :
    UpdateStep service s _).later
  have hself : (s.queue.tasks.insert id row).lookup id = some row := by
    rw [Table.lookup_insert, if_pos rfl]
  refine ⟨hs.log_note hlater rfl ⟨hmode, id, row, _, hself, haction, hcreated, hread.mono hlater⟩,
    fun h h' => hs.unique_of_note (fun {_ _ _} h => ?_) h h', hs.field_same hlater rfl rfl,
    hs.record_same hlater rfl, ?_⟩
  · exact (List.mem_cons.mp h).resolve_left fun h => nomatch h
  · intro k other hother hpreflight
    have hother : (s.queue.tasks.insert id row).lookup k = some other := hother
    rw [Table.lookup_insert] at hother
    split at hother
    · obtain rfl := Option.some.inj hother
      refine ⟨request, hread.mono hlater, ?_⟩
      rw [hcreated]
      exact List.mem_cons_self
    · obtain ⟨request', hread', hsubmitted⟩ := hs.tasks k other hother hpreflight
      exact ⟨request', hread'.mono hlater, hlater.log hsubmitted⟩

theorem step (hids : Function.Injective service.newId) (hs : UpdateInv service s)
    (hstep : UpdateStep service s t) : UpdateInv service t := by
  have hlater := hstep.later
  cases hstep with
  | outside h => exact hs.outside h
  | queue queue h => exact hs.same hlater rfl rfl rfl rfl h
  | save text => exact hs.same hlater rfl rfl rfl rfl (.refl _)
  | request => exact hs.same hlater rfl rfl rfl rfl (.refl _)
  | execute request run hrun => exact hs.execute hids hrun
  | submit id row request hmode hfresh haction hcreated hread =>
      exact hs.submit hmode hfresh haction hcreated hread
  | refuse request found preflight hmode hstatus =>
      refine hs.note hlater rfl hmode (fun _ _ _ h => nomatch h) rfl rfl ?_ (.refl _)
      exact fun hhost => absurd hmode hhost
  | running preflight hstatus =>
      refine ⟨hs.log_same hlater rfl, hs.unique, hs.field_same hlater rfl rfl, ?_,
        hs.tasks_kept hlater (.refl _)⟩
      intro _ p hp hpassed
      rw [← Option.some.inj hp] at hpassed
      exact absurd hpassed hstatus
  | publish request preflight hmode hread =>
      refine hs.note hlater rfl hmode (fun _ _ _ h => nomatch h) rfl rfl ?_ (.refl _)
      intro _ p hp _
      obtain ⟨fingerprint, hread⟩ := hread
      rw [← Option.some.inj hp]
      exact ⟨request, fingerprint, hread.mono hlater⟩
  | abandon request =>
      exact hs.note hlater rfl trivial (fun _ _ _ h => nomatch h) rfl rfl
        (hs.record_same hlater rfl) (.refl _)
  | consult since id row =>
      exact hs.note hlater rfl trivial (fun _ _ _ h => nomatch h) rfl rfl
        (hs.record_same hlater rfl) (.refl _)
  | «recall» since id =>
      exact hs.note hlater rfl trivial (fun _ _ _ h => nomatch h) rfl rfl
        (hs.record_same hlater rfl) (.refl _)
  | load preflight fingerprint hmode hread =>
      refine ⟨hs.log_same hlater rfl, hs.unique, ?_, fun hhost => absurd hmode hhost,
        hs.tasks_kept hlater (.refl _)⟩
      intro fingerprint' hfingerprint
      obtain ⟨request, hread⟩ := hread
      refine ⟨preflight.id, request, rfl, ?_⟩
      rw [← hfingerprint]
      exact hread.mono hlater
  | compare id fingerprint hfield =>
      obtain ⟨writer, request, hwriter, hread⟩ := hs.field fingerprint hfield
      exact hs.note hlater rfl ⟨writer, request, hwriter, hread.mono hlater⟩
        (fun _ _ _ h => nomatch h) rfl rfl (hs.record_same hlater rfl) (.refl _)
  | compareOnHost since preflight fingerprint hmode hrecord hpassed hfield =>
      obtain ⟨writer, request, hwriter, hread⟩ := hs.field fingerprint hfield
      have hmiddle : Later s (s.note (.compared preflight.id s.writer fingerprint)) :=
        .of_note _ rfl rfl rfl (.refl _)
      have hcompared := hs.note hmiddle rfl ⟨writer, request, hwriter, hread.mono hmiddle⟩
        (fun _ _ _ h => nomatch h) rfl rfl (hs.record_same hmiddle rfl) (.refl _)
      have hlast : Later _ ((s.note (.compared preflight.id s.writer fingerprint)).note
          (.consulted since preflight.id)) := .of_note _ rfl rfl rfl (.refl _)
      exact hcompared.note hlast rfl trivial (fun _ _ _ h => nomatch h) rfl rfl
        (hcompared.record_same hlast rfl) (.refl _)
  | accept a queue status hqueue hsupports =>
      exact hs.note hlater rfl (hsupports.mono hlater) (fun _ _ _ h => nomatch h) rfl rfl
        (hs.record_same hlater rfl) hqueue

end UpdateInv

/-- The protocol of update requests, where the ids drawn are different ones. -/
def updateProtocol (service : UpdateService) (hids : Function.Injective service.newId) :
    Protocol UpdateState where
  inv := UpdateInv service
  guar s t := s = t ∨ UpdateStep service s t
  refl _ := .inl rfl
  preserves hs h := by
    rcases h with rfl | h
    · exact hs
    · exact hs.step hids h

end KubeNova.Update
