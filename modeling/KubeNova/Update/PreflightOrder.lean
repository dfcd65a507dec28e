import KubeNova.Update.UpdateHandlers

/-!
# The preflight requested last

The outcomes of preflights take effect in the order in which they come to their end, not in the
order of the requests.  In runs where both orders agree, and where an install waits for the
preflights requested before it, an install relies on the preflight requested last.
-/

namespace KubeNova.Update

open KubeNova.Common KubeNova.Foundation

/-- The preflight request whose outcome the event puts on record. -/
def UpdateEvent.effect? : UpdateEvent → Option Nat
  | .submitted request _ | .invalidated request _ _ | .published request => some request
  | _ => none

def UpdateEvent.created? : UpdateEvent → Option Nat
  | .submitted _ createdAt => some createdAt
  | _ => none

/-- The preflight has come to its end, or has failed on the way. -/
def HasEnded (past : List UpdateEvent) (request : Nat) : Prop :=
  (∃ e ∈ past, e.effect? = some request) ∨ .abandoned request ∈ past

/-- No outcome is on record of a preflight requested as late. -/
def IsNewest (past : List UpdateEvent) (request : Nat) : Prop :=
  ∀ e ∈ past, ∀ other ∈ e.effect?, other < request

/-- Outcomes come in the order of the requests, with growing times of creation; a task is
invalidated after it has ended, while it is the latest; a preflight that fails leaves no older one
on record; and an install takes the one on record when those requested before it have ended, never
one that came into memory after it had found no task. -/
def IsInOrder (past : List UpdateEvent) : UpdateEvent → Prop
  | .submitted request createdAt =>
      IsNewest past request ∧ ∀ e ∈ past, ∀ other ∈ e.created?, other < createdAt
  | .invalidated request found left =>
      IsNewest past request ∧ found.map Prod.fst = left ∧
        ∀ task ∈ found, task.2 ≠ .queued ∧ task.2 ≠ .running
  | .published request => IsNewest past request
  | .abandoned request => ∃ e ∈ past, ∃ other ∈ e.effect?, request < other
  | .consulted since _ => ∀ request < since, HasEnded past request
  | .recalled _ _ => False
  | _ => True

instance (past : List UpdateEvent) (request : Nat) : Decidable (HasEnded past request) :=
  inferInstanceAs (Decidable (_ ∨ _))

instance (past : List UpdateEvent) (request : Nat) : Decidable (IsNewest past request) :=
  inferInstanceAs (Decidable (∀ e ∈ past, ∀ other ∈ e.effect?, other < request))

instance (past : List UpdateEvent) (e : UpdateEvent) : Decidable (IsInOrder past e) := by
  cases e <;> unfold IsInOrder <;> infer_instance

def Orderly : List UpdateEvent → Prop
  | [] => True
  | e :: past => IsInOrder past e ∧ Orderly past

instance Orderly.decidable : (log : List UpdateEvent) → Decidable (Orderly log)
  | [] => .isTrue trivial
  | _ :: past => @instDecidableAnd _ _ inferInstance (Orderly.decidable past)

/-- An accepted install relies on a preflight that was the last one requested when the install
began. -/
def LastAuthorises (s : UpdateState) : Prop :=
  ∀ a, .accepted a ∈ s.log →
    ∃ request run, .executed request a.preflightId run ∈ s.log ∧ a.since ≤ request + 1

theorem Orderly.effect {log : List UpdateEvent} (h : Orderly log) {request : Nat}
    (hended : HasEnded log request) : ∃ e ∈ log, ∃ other ∈ e.effect?, request ≤ other := by
  rcases hended with ⟨e, he, heffect⟩ | habandoned
  · exact ⟨e, he, request, heffect, Nat.le_refl _⟩
  · induction log with
    | nil => cases habandoned
    | cons e past ih =>
        rcases List.mem_cons.mp habandoned with rfl | hpast
        · obtain ⟨e', he', other, hother, hlt⟩ := h.1
          exact ⟨e', List.mem_cons_of_mem _ he', other, hother, Nat.le_of_lt hlt⟩
        · obtain ⟨e', he', hrest⟩ := ih h.2 hpast
          exact ⟨e', List.mem_cons_of_mem _ he', hrest⟩

theorem Orderly.created {log : List UpdateEvent} (h : Orderly log) {n n' created created' : Nat}
    (hn : .submitted n created ∈ log) (hn' : .submitted n' created' ∈ log) (hlt : n < n') :
    created < created' := by
  induction log with
  | nil => cases hn
  | cons e past ih =>
      rcases List.mem_cons.mp hn with rfl | hpast <;> rcases List.mem_cons.mp hn' with heq | hpast'
      · cases heq
        exact absurd hlt (Nat.lt_irrefl _)
      · have := h.1.1 _ hpast' n' rfl
        omega
      · cases heq
        exact h.1.2 _ hpast created rfl
      · exact ih h.2 hpast hpast'

/-! ## What orderly logs say of the state -/

def UpdateState.HostNewest (service : UpdateService) (s : UpdateState) : Prop :=
  service.mode ≠ .kubernetes → ∀ preflight, s.preflight = some preflight →
    preflight.status = .passed → ∃ request run, .executed request preflight.id run ∈ s.log ∧
      ∀ e ∈ s.log, ∀ other ∈ e.effect?, other ≤ request

def UpdateState.TasksApart (s : UpdateState) : Prop :=
  ∀ id id' row row', s.queue.tasks.lookup id = some row → s.queue.tasks.lookup id' = some row' →
    row.action = .preflight → row'.action = .preflight → id ≠ id' → row.createdAt ≠ row'.createdAt

def UpdateState.Invalidated (s : UpdateState) : Prop :=
  ∀ r found left, .invalidated r found left ∈ s.log → ∀ id row,
    s.queue.tasks.lookup id = some row → row.action = .preflight → IsSpent s.queue id ∨
      ∃ request fingerprint, r < request ∧ s.HasRead request row.payload.preflightId fingerprint

def UpdateState.ConsultedLast (s : UpdateState) : Prop :=
  ∀ since id, .consulted since id ∈ s.log →
    ∃ request run, .executed request id run ∈ s.log ∧ since ≤ request + 1

structure OrderFacts (service : UpdateService) (s : UpdateState) : Prop where
  host : s.HostNewest service
  apart : s.TasksApart
  invalidated : s.Invalidated
  consulted : s.ConsultedLast

namespace OrderFacts

variable {service : UpdateService} {s t : UpdateState}

theorem apart_kept (hs : OrderFacts service s) (htasks : TasksKept s.queue t.queue) :
    t.TasksApart := by
  intro id id' row row' hrow hrow' haction haction' hne
  obtain ⟨old, hold, hsame⟩ := htasks.known id row hrow haction
  obtain ⟨old', hold', hsame'⟩ := htasks.known id' row' hrow' haction'
  rw [hsame.createdAt, hsame'.createdAt]
  exact hs.apart id id' old old' hold hold' (hsame.action ▸ haction) (hsame'.action ▸ haction') hne

theorem invalidated_kept (hs : OrderFacts service s) (hlater : Later s t)
    (htasks : TasksKept s.queue t.queue) {r : Nat} {found : Option (String × TaskStatus)}
    {left : Option String} (hmem : .invalidated r found left ∈ s.log) :
    ∀ id row, t.queue.tasks.lookup id = some row → row.action = .preflight → IsSpent t.queue id ∨
      ∃ request fingerprint, r < request ∧
        t.HasRead request row.payload.preflightId fingerprint := by
  intro id row hrow haction
  obtain ⟨old, hold, hsame⟩ := htasks.known id row hrow haction
  rcases hs.invalidated r found left hmem id old hold (hsame.action ▸ haction) with
    hspent | ⟨request, fingerprint, hlt, hread⟩
  · exact .inl (hspent.mono hlater.tasks)
  · refine .inr ⟨request, fingerprint, hlt, ?_⟩
    rw [hsame.payload]
    exact hread.mono hlater

theorem consulted_kept (hs : OrderFacts service s) (hlater : Later s t) {since : Nat} {id : String}
    (hmem : .consulted since id ∈ s.log) :
    ∃ request run, .executed request id run ∈ t.log ∧ since ≤ request + 1 := by
  obtain ⟨request, run, hexecuted, hle⟩ := hs.consulted since id hmem
  exact ⟨request, run, hlater.log hexecuted, hle⟩

theorem kept (hs : OrderFacts service s) (hlater : Later s t) (htasks : TasksKept s.queue t.queue)
    (hnew : ∀ e ∈ t.log, e ∈ s.log ∨ (e.effect? = none ∧ ∀ since id, e ≠ .consulted since id))
    (hrecord : ∀ preflight, t.preflight = some preflight → preflight.status = .passed →
      service.mode ≠ .kubernetes → s.preflight = some preflight) : OrderFacts service t where
  host := by
    intro hmode preflight hpreflight hpassed
    obtain ⟨request, run, hexecuted, hle⟩ :=
      hs.host hmode preflight (hrecord preflight hpreflight hpassed hmode) hpassed
    refine ⟨request, run, hlater.log hexecuted, fun e he other hother => ?_⟩
    rcases hnew e he with hold | ⟨hnone, -⟩
    · exact hle e hold other hother
    · rw [hnone] at hother
      cases hother
  apart := hs.apart_kept htasks
  invalidated := by
    intro r found left hmem
    rcases hnew _ hmem with hold | ⟨hnone, -⟩
    · exact hs.invalidated_kept hlater htasks hold
    · cases hnone
  consulted := by
    intro since id hmem
    rcases hnew _ hmem with hold | ⟨-, hne⟩
    · exact hs.consulted_kept hlater hold
    · exact absurd rfl (hne since id)

theorem latest_last (hf : OrderFacts service s) (hs : UpdateInv service s) (ho : Orderly s.log)
    (hmode : service.mode = .kubernetes) {id : String} {row : Task}
    (hlatest : UpdateService.latestPreflight s = some (id, row))
    (hsucceeded : row.status = .succeeded) {since : Nat}
    (hended : ∀ request < since, HasEnded s.log request) :
    ∃ request run, .executed request row.payload.preflightId run ∈ s.log ∧ since ≤ request + 1 := by
  obtain ⟨hrow, hpreflight⟩ := Table.latest?_eq_some hlatest
  have haction : row.action = .preflight := eq_of_beq hpreflight
  have hnewest : ∀ id' row', s.queue.tasks.lookup id' = some row' → row'.action = .preflight →
      row'.createdAt ≤ row.createdAt := fun id' row' hrow' haction' =>
    Table.latest?_le hlatest hrow' (by simp [UpdateService.isLatestPreflight, haction'])
  obtain ⟨request, ⟨run, hexecuted, -⟩, hsubmitted⟩ := hs.tasks id row hrow haction
  refine ⟨request, run, hexecuted, ?_⟩
  by_contra hnot
  obtain ⟨e, he, other, hother, hle⟩ := ho.effect (hended (request + 1) (by omega))
  have hlt : request < other := hle
  -- The outcome of a later request: its task, or its invalidation of this one.
  cases e with
  | submitted r created =>
      obtain rfl := Option.some.inj hother
      obtain ⟨-, id', row', fingerprint, hrow', haction', hcreated, -⟩ := hs.log _ he
      have hbefore := ho.created hsubmitted he hlt
      have := hnewest id' row' hrow' haction'
      omega
  | invalidated r found left =>
      obtain rfl := Option.some.inj hother
      rcases hf.invalidated r found left he id row hrow haction with
        ⟨row', hrow', hspent⟩ | ⟨request', fingerprint, hlater, run', hexecuted', -⟩
      · obtain rfl : row = row' := Option.some.inj (hrow.symm.trans hrow')
        rcases hspent with hfailed | ⟨id', row', hne, hrow', haction', hafter⟩
        · rw [hsucceeded] at hfailed
          cases hfailed
        · have hsame := hf.apart id id' row row' hrow hrow' haction haction' hne.symm
          have := hnewest id' row' hrow' haction'
          omega
      · have := (hs.unique hexecuted hexecuted').1
        omega
  | published r => exact hs.log _ he hmode
  | executed | abandoned | consulted | recalled | compared | accepted => cases hother

theorem record_last (hf : OrderFacts service s) (ho : Orderly s.log)
    (hmode : service.mode ≠ .kubernetes) {preflight : PreflightPayload}
    (hrecord : s.preflight = some preflight) (hpassed : preflight.status = .passed) {since : Nat}
    (hended : ∀ request < since, HasEnded s.log request) :
    ∃ request run, .executed request preflight.id run ∈ s.log ∧ since ≤ request + 1 := by
  obtain ⟨request, run, hexecuted, hnewest⟩ := hf.host hmode preflight hrecord hpassed
  refine ⟨request, run, hexecuted, ?_⟩
  by_contra hnot
  obtain ⟨e, he, other, hother, hle⟩ := ho.effect (hended (request + 1) (by omega))
  have := hnewest e he other hother
  omega

theorem submit (hf : OrderFacts service s) (hs : UpdateInv service s) {id : String} {row : Task}
    {request : Nat} (hmode : service.mode = .kubernetes) (hfresh : id ∉ s.queue.tasks)
    (haction : row.action = .preflight) (hcreated : row.createdAt = s.queue.now)
    (hread : s.HasRead request row.payload.preflightId row.payload.settingsFingerprint)
    (horder : IsInOrder s.log (.submitted request s.queue.now)) :
    OrderFacts service
      ({ s with queue := { s.queue with tasks := s.queue.tasks.insert id row } }.note
        (.submitted request s.queue.now)) := by
  have hlater := (UpdateStep.submit id row request hmode hfresh haction hcreated hread :
    UpdateStep service s _).later
  have hlookup : ∀ {k other}, (s.queue.tasks.insert id row).lookup k = some other →
      (k = id ∧ other = row) ∨ s.queue.tasks.lookup k = some other := by
    intro k other hother
    rw [Table.lookup_insert] at hother
    split at hother
    · exact .inl ⟨‹_›, (Option.some.inj hother).symm⟩
    · exact .inr hother
  have hnew : ∀ k other, s.queue.tasks.lookup k = some other → other.action = .preflight →
      other.createdAt < row.createdAt := by
    intro k other hother hpreflight
    obtain ⟨_, -, hsubmitted⟩ := hs.tasks k other hother hpreflight
    rw [hcreated]
    exact horder.2 _ hsubmitted _ rfl
  refine ⟨fun hhost => absurd hmode hhost, ?_, ?_, ?_⟩
  · intro k k' other other' hother hother' hpreflight hpreflight' hne
    rcases hlookup hother with ⟨rfl, rfl⟩ | hold <;> rcases hlookup hother' with ⟨rfl, rfl⟩ | hold'
    · exact absurd rfl hne
    · exact Nat.ne_of_gt (hnew _ _ hold' hpreflight')
    · exact Nat.ne_of_lt (hnew _ _ hold hpreflight)
    · exact hf.apart k k' other other' hold hold' hpreflight hpreflight' hne
  · intro r found left hmem k other hother hpreflight
    have hold := (List.mem_cons.mp hmem).resolve_left fun h => nomatch h
    rcases hlookup hother with ⟨rfl, rfl⟩ | hother
    · exact .inr ⟨request, _, horder.1 _ hold r rfl, hread.mono hlater⟩
    · rcases hf.invalidated r found left hold k other hother hpreflight with
        hspent | ⟨request', fingerprint, hlt, hread'⟩
      · exact .inl (hspent.mono hlater.tasks)
      · exact .inr ⟨request', fingerprint, hlt, hread'.mono hlater⟩
  · intro since consulted hmem
    exact hf.consulted_kept hlater ((List.mem_cons.mp hmem).resolve_left fun h => nomatch h)

theorem refuse (hf : OrderFacts service s) {request : Nat} {found : Option (String × TaskStatus)}
    {preflight : PreflightPayload} (hmode : service.mode = .kubernetes)
    (hspent : ∀ task ∈ found, task.2 ≠ .queued → task.2 ≠ .running → IsSpent s.queue task.1)
    (horder : IsInOrder s.log
      (.invalidated request found ((UpdateService.latestPreflight s).map Prod.fst))) :
    OrderFacts service (UpdateService.setPreflight preflight (s.note
      (.invalidated request found ((UpdateService.latestPreflight s).map Prod.fst)))).2 := by
  have hlater : Later s (UpdateService.setPreflight preflight (s.note (.invalidated request found
      ((UpdateService.latestPreflight s).map Prod.fst)))).2 :=
    .of_note _ rfl rfl rfl (.refl s.queue)
  refine ⟨fun hhost => absurd hmode hhost, hf.apart, ?_, ?_⟩
  · intro r found' left' hmem id row hrow haction
    rcases List.mem_cons.mp hmem with heq | hold
    · cases heq
      refine .inl ?_
      obtain ⟨-, hleft, hended⟩ := horder
      cases hlatest : UpdateService.latestPreflight s with
      | none =>
          have hnone := Table.latest?_eq_none hlatest hrow
          simp [UpdateService.isLatestPreflight, haction] at hnone
      | some latest =>
          rw [hlatest] at hleft
          obtain ⟨task, rfl, htask⟩ := Option.map_eq_some_iff.mp hleft
          obtain ⟨hqueued, hrunning⟩ := hended task rfl
          by_cases hid : id = task.1
          · rw [hid]
            exact hspent task rfl hqueued hrunning
          · have hfound := Table.latest?_eq_some (k := latest.1) (v := latest.2) hlatest
            have hle := Table.latest?_le (k := latest.1) (v := latest.2) hlatest hrow
              (by simp [UpdateService.isLatestPreflight, haction])
            refine ⟨row, hrow, .inr ⟨latest.1, latest.2, ?_, hfound.1, eq_of_beq hfound.2, hle⟩⟩
            rw [← htask]
            exact Ne.symm hid
    · exact hf.invalidated_kept hlater (.refl _) hold id row hrow haction
  · intro since consulted hmem
    exact hf.consulted_kept hlater ((List.mem_cons.mp hmem).resolve_left fun h => nomatch h)

theorem consult (hf : OrderFacts service s) (hlater : Later s t)
    (htasks : TasksKept s.queue t.queue) {since : Nat} {id : String}
    (hnew : ∀ e ∈ t.log, e ∈ s.log ∨ e = .consulted since id ∨
      (e.effect? = none ∧ ∀ since id, e ≠ .consulted since id))
    (hrecord : t.preflight = s.preflight)
    (hlast : ∃ request run, .executed request id run ∈ s.log ∧ since ≤ request + 1) :
    OrderFacts service t := by
  refine ⟨?_, hf.apart_kept htasks, ?_, ?_⟩
  · intro hmode preflight hpreflight hpassed
    rw [hrecord] at hpreflight
    obtain ⟨request, run, hexecuted, hle⟩ := hf.host hmode preflight hpreflight hpassed
    refine ⟨request, run, hlater.log hexecuted, fun e he other hother => ?_⟩
    rcases hnew e he with hold | rfl | ⟨hnone, -⟩
    · exact hle e hold other hother
    · cases hother
    · rw [hnone] at hother
      cases hother
  · intro r found left hmem
    rcases hnew _ hmem with hold | heq | ⟨hnone, -⟩
    · exact hf.invalidated_kept hlater htasks hold
    · cases heq
    · cases hnone
  · intro since' id' hmem
    rcases hnew _ hmem with hold | heq | ⟨-, hne⟩
    · exact hf.consulted_kept hlater hold
    · cases heq
      obtain ⟨request, run, hexecuted, hle⟩ := hlast
      exact ⟨request, run, hlater.log hexecuted, hle⟩
    · exact absurd rfl (hne since' id')

theorem publish (hf : OrderFacts service s) {request : Nat} {preflight : PreflightPayload}
    (hread : ∃ fingerprint, s.HasRead request preflight.id fingerprint)
    (horder : IsInOrder s.log (.published request)) :
    OrderFacts service (UpdateService.setPreflight preflight (s.note (.published request))).2 := by
  have hlater : Later s (UpdateService.setPreflight preflight (s.note (.published request))).2 :=
    .of_note _ rfl rfl rfl (.refl s.queue)
  refine ⟨?_, hf.apart, ?_, ?_⟩
  · intro _ p hp _
    obtain rfl := Option.some.inj hp
    obtain ⟨fingerprint, run, hexecuted, -⟩ := hread
    refine ⟨request, run, hlater.log hexecuted, fun e he other hother => ?_⟩
    rcases List.mem_cons.mp he with rfl | hold
    · exact Nat.le_of_eq (Option.some.inj hother).symm
    · exact Nat.le_of_lt (horder e hold other hother)
  · intro r found left hmem
    exact hf.invalidated_kept hlater (.refl _) ((List.mem_cons.mp hmem).resolve_left fun h => nomatch h)
  · intro since consulted hmem
    exact hf.consulted_kept hlater ((List.mem_cons.mp hmem).resolve_left fun h => nomatch h)

theorem step (hf : OrderFacts service s) (hs : UpdateInv service s) (ho : Orderly s.log)
    (ht : Orderly t.log) (hstep : UpdateStep service s t) : OrderFacts service t := by
  have hlater := hstep.later
  have hsame : ∀ {u : UpdateState}, u.log = s.log → ∀ e ∈ u.log,
      e ∈ s.log ∨ (e.effect? = none ∧ ∀ since id, e ≠ .consulted since id) := by
    intro u hu e he
    rw [hu] at he
    exact .inl he
  have hnote : ∀ {u : UpdateState} {new : UpdateEvent}, u.log = new :: s.log → new.effect? = none →
      (∀ since id, new ≠ .consulted since id) → ∀ e ∈ u.log,
      e ∈ s.log ∨ (e.effect? = none ∧ ∀ since id, e ≠ .consulted since id) := by
    intro u new hu hnone hne e he
    rw [hu] at he
    rcases List.mem_cons.mp he with rfl | hold
    · exact .inr ⟨hnone, hne⟩
    · exact .inl hold
  cases hstep with
  | outside h =>
      refine hf.kept hlater h.tasksKept (hsame h.log.1) fun preflight hpreflight _ _ => ?_
      cases h with
      | clock | polled => exact hpreflight
      | restarted => cases hpreflight
  | queue queue h => exact hf.kept hlater h (hsame rfl) fun _ h _ _ => h
  | save text => exact hf.kept hlater (.refl _) (hsame rfl) fun _ h _ _ => h
  | request => exact hf.kept hlater (.refl _) (hsame rfl) fun _ h _ _ => h
  | execute request run hrun =>
      exact hf.kept hlater (.refl _) (hnote rfl rfl fun _ _ h => nomatch h) fun _ h _ _ => h
  | submit id row request hmode hfresh haction hcreated hread =>
      exact hf.submit hs hmode hfresh haction hcreated hread ht.1
  | refuse request found preflight hmode _ hspent => exact hf.refuse hmode hspent ht.1
  | running preflight hstatus =>
      refine hf.kept hlater (.refl _) (hsame rfl) fun p hp hpassed _ => ?_
      rw [← Option.some.inj hp] at hpassed
      exact absurd hpassed hstatus
  | publish request preflight hmode hread => exact hf.publish hread ht.1
  | abandon request =>
      exact hf.kept hlater (.refl _) (hnote rfl rfl fun _ _ h => nomatch h) fun _ h _ _ => h
  | consult since id row hmode hlatest hpassed =>
      refine hf.consult hlater (.refl _) (fun e he => ?_) rfl
        (hf.latest_last hs ho hmode hlatest hpassed ht.1)
      exact (List.mem_cons.mp he).elim (fun h => .inr (.inl h)) .inl
  | «recall» since id => exact ht.1.elim
  | load preflight fingerprint hmode _ =>
      exact hf.kept hlater (.refl _) (hsame rfl) fun _ _ _ hhost => absurd hmode hhost
  | compare id fingerprint _ =>
      exact hf.kept hlater (.refl _) (hnote rfl rfl fun _ _ h => nomatch h) fun _ h _ _ => h
  | compareOnHost since preflight fingerprint hmode hrecord hpassed _ =>
      have hended : ∀ request < since, HasEnded s.log request := by
        intro request hlt
        rcases ht.1 request hlt with ⟨e, he, heffect⟩ | habandoned
        · rcases List.mem_cons.mp he with rfl | hold
          · cases heffect
          · exact .inl ⟨e, hold, heffect⟩
        · exact .inr ((List.mem_cons.mp habandoned).resolve_left fun h => nomatch h)
      refine hf.consult hlater (.refl _) (fun e he => ?_) rfl
        (hf.record_last ho hmode hrecord hpassed hended)
      rcases List.mem_cons.mp he with rfl | he
      · exact .inr (.inl rfl)
      · rcases List.mem_cons.mp he with rfl | hold
        · exact .inr (.inr ⟨rfl, fun _ _ h => nomatch h⟩)
        · exact .inl hold
  | accept a queue status hqueue _ =>
      exact hf.kept hlater hqueue (hnote rfl rfl fun _ _ h => nomatch h) fun _ h _ _ => h

end OrderFacts

theorem Orderly.of_suffix {log later : List UpdateEvent} (h : Orderly later) (hsuffix : log <:+ later) :
    Orderly log := by
  obtain ⟨front, rfl⟩ := hsuffix
  induction front with
  | nil => exact h
  | cons e front ih => exact ih h.2

theorem IsFreshUpdate.orderFacts {service : UpdateService} {s : UpdateState}
    (hs : IsFreshUpdate s) : OrderFacts service s where
  host _ preflight h := by
    rw [hs.preflight] at h
    cases h
  apart id _ row _ hrow _ haction _ _ := absurd haction (hs.tasks id row hrow)
  invalidated r found left h := by
    rw [hs.log] at h
    cases h
  consulted since id h := by
    rw [hs.log] at h
    cases h

/-- In runs in which everything came in order, only the preflight requested last authorises an
install. -/
theorem orderly_lastAuthorises (service : UpdateService)
    (hids : Function.Injective service.newId) {init : UpdateState} (hinit : IsFreshUpdate init)
    {c : Pool Exception UpdateState UpdateAnswer} (hc : UpdateReach service init c)
    (ho : Orderly c.shared.log) : LastAuthorises c.shared := by
  obtain ⟨hinv, hrun⟩ := update_run hids hinit hc
  have hfacts : OrderFacts service c.shared := by
    refine (Protocol.rely_induction (J := fun s => Orderly s.log → OrderFacts service s) ?_ hrun
      hinit.inv fun _ => hinit.orderFacts).2 ho
    intro s t hs hJ hguar ht
    rcases hguar with rfl | hstep
    · exact hJ ht
    · have hs' := ht.of_suffix hstep.later.log_suffix
      exact (hJ hs').step hs hs' ht hstep
  intro a ha
  rcases (hinv.log _ ha).record with hconsulted | hrecalled
  · exact hfacts.consulted a.since a.preflightId hconsulted
  · obtain ⟨front, rest, hlog⟩ := List.append_of_mem hrecalled
    have hlast : Orderly (.recalled a.since a.preflightId :: rest) :=
      ho.of_suffix ⟨front, hlog.symm⟩
    exact hlast.1.elim

/-! ## A host -/

def firstSettings : StoredSettings :=
  ⟨[⟨"b", "B", .local, "/b", none⟩], [⟨"m", "M", .external, some "postgres://h/d"⟩],
    ⟨"", [], none, none⟩⟩

def secondSettings : StoredSettings := { firstSettings with
  backupTargets := [⟨"b", "B", .local, "/c", none⟩] }

def sampleSettings : SettingsConfig where
  crypto :=
    { sha256 := id
      encrypt := fun _ iv value => (iv, "t", if value = firstSettings then "1" else "2")
      decrypt := fun _ _ _ data => some (if data = "1" then firstSettings else secondSettings) }
  encryptionKey := some (String.ofList (List.replicate 64 '0'))
  parseUrl text :=
    if text = "postgres://h/d" then
      some ⟨⟨"postgres:", "h", "", "", "", "", "null"⟩, "/d"⟩
    else none

def hostService : UpdateService where
  mode := .compose
  runningVersion := "v1.0.0"
  executorConfigured := true
  settings := sampleSettings
  queue := ⟨none, ⟨fun _ _ => "", fun _ _ => ""⟩⟩
  newId n := String.ofList (List.replicate (n + 1) 'p')

theorem hostService_newId_injective : Function.Injective hostService.newId := by
  intro m n h
  have hlists := congrArg (fun text : String => text.toList.length) h
  simpa [hostService] using hlists

def hostState : UpdateState where
  queue := ⟨0, ∅, []⟩
  saves := ["v1.i.t.1"]
  preflight := none
  preflightSettingsFingerprint := none
  installStatus := .idle
  latestVersion := "v1.1.0"
  updateCheckError := none
  executorReady := true
  executorReason := ""
  requests := 0
  executions := 0
  writer := none
  log := []

theorem hostState_isFresh : IsFreshUpdate hostState := ⟨rfl, rfl, fun _ _ h => (nomatch h), rfl⟩

def sampleRelease : Release := ⟨true, none, some "u", some "c"⟩

def hostPreflight (passed : Bool) : UpdateHandler UpdateAnswer :=
  hostService.preflight ⟨none, none, none⟩
    ⟨some sampleRelease, none, .error "", .ok (passed, []), ""⟩

def hostInstall (preflightId : String) : UpdateHandler UpdateAnswer :=
  hostService.install ⟨true, none, some preflightId, some "b"⟩ "o"
    ⟨some sampleRelease, none, .ok (), ""⟩

theorem hostReach (handlers : List (UpdateHandler UpdateAnswer))
    (hhandlers : ∀ h ∈ handlers, hostService.IsUpdateHandler h) (order : List Nat) :
    UpdateReach hostService hostState
      (Pool.play (⟨hostState, handlers⟩ : Pool Exception UpdateState UpdateAnswer) order) := by
  have harrived : UpdateReach hostService hostState ⟨hostState, handlers⟩ :=
    Reach.arrive_all .refl handlers hhandlers
  exact harrived.play order

def onePreflight : Pool Exception UpdateState UpdateAnswer :=
  Pool.play ⟨hostState, [hostPreflight true, hostInstall "p"]⟩
    (List.replicate 12 0 ++ List.replicate 9 1)

theorem onePreflight_reach : UpdateReach hostService hostState onePreflight := by
  refine hostReach _ (fun h hh => ?_) _
  rcases List.mem_cons.mp hh with rfl | hh
  · exact .preflight _ _
  · rw [List.mem_singleton.mp hh]
    exact .install _ _ _

theorem onePreflight_lastAuthorises : LastAuthorises onePreflight.shared ∧
    onePreflight.shared.log.any (fun e => e matches .accepted _) = true :=
  ⟨orderly_lastAuthorises hostService hostService_newId_injective hostState_isFresh
    onePreflight_reach (by decide +kernel), by decide +kernel⟩

/-- Two preflights of which the one requested first ends last, and an install on it. -/
def overtaken : Pool Exception UpdateState UpdateAnswer :=
  Pool.play ⟨hostState, [hostPreflight true, hostPreflight false, hostInstall "pp"]⟩
    (0 :: List.replicate 12 1 ++ List.replicate 11 0 ++ List.replicate 9 2)

theorem overtaken_reach : UpdateReach hostService hostState overtaken := by
  refine hostReach _ (fun h hh => ?_) _
  rcases List.mem_cons.mp hh with rfl | hh
  · exact .preflight _ _
  · rcases List.mem_cons.mp hh with rfl | hh
    · exact .preflight _ _
    · rw [List.mem_singleton.mp hh]
      exact .install _ _ _

theorem overtaken_authorises :
    ¬∀ (service : UpdateService) (init : UpdateState)
      (c : Pool Exception UpdateState UpdateAnswer), Function.Injective service.newId →
      IsFreshUpdate init → UpdateReach service init c → LastAuthorises c.shared := by
  intro h
  have hlast := h hostService hostState overtaken hostService_newId_injective hostState_isFresh
    overtaken_reach
  have haccepted : .accepted ⟨2, "pp", firstSettings, 1, 1⟩ ∈ overtaken.shared.log := by
    decide +kernel
  obtain ⟨request, run, hexecuted, hle⟩ := hlast _ haccepted
  have hfirst : overtaken.shared.log.all (fun e => match e with
      | .executed request id _ => id != "pp" || request == 0
      | _ => true) = true := by decide +kernel
  have hrequest := List.all_eq_true.mp hfirst _ hexecuted
  obtain rfl : request = 0 := by simpa using hrequest
  exact absurd hle (by decide)

end KubeNova.Update
