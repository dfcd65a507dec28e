import KubeNova.Monitoring.AlertIngestion
import KubeNova.Monitoring.NotificationWorker

/-!
# What happens to the tables

Alerts and deliveries come from ingestion, and both disappear for good when their
cluster is removed.  `Evolves` is what every step keeps of them; `Background` is what
everybody but the workers does.
-/

namespace KubeNova.Monitoring

open KubeNova.Common KubeNova.Foundation

def MonitoringState.removeAlerts (clusterId : String) (s : MonitoringState) : MonitoringState :=
  { s with
    alerts := s.alerts.deleteWhere fun _ alert => alert.clusterId == some clusterId
    deliveries := s.deliveries.deleteWhere fun _ row =>
      (s.alerts.lookup row.alertId).any fun alert => alert.clusterId == some clusterId }

/-- `resolveAlert`: somebody declares the alert resolved. -/
def MonitoringState.resolveAlert (id : String) (resolvedAt : Int) (s : MonitoringState) :
    MonitoringState :=
  { s with alerts := s.alerts.update id fun row =>
      { row with status := .resolved, resolvedAt := some resolvedAt } }

inductive Outside : MonitoringState → MonitoringState → Prop
  | clock (s) (now : Int) : Outside s { s with now := now }
  | clusters (s) (clusters : Table String ClusterRegistry) :
      Outside s { s with clusters := clusters }
  | credentials (s) (credentials : Table String AlertReceiverCredential) :
      Outside s { s with credentials := credentials }
  | templates (s) (templates : Table String NotificationTemplate) :
      Outside s { s with templates := templates }
  | resolveAlert (s) (id : String) (resolvedAt : Int) : Outside s (s.resolveAlert id resolvedAt)
  | removeAlerts (s) (clusterId : String) : Outside s (s.removeAlerts clusterId)

def isMonitoringHandler (crypto : Crypto) (h : MonitoringHandler Unit) : Prop :=
  (∃ outcomes clusterId, h = discard (NotificationWorker.runOnce outcomes clusterId)) ∨
    ∃ cuid clusterId authorization body,
      h = discard (AlertIngestionService.ingest crypto cuid clusterId authorization body)

def MonitoringState.blank : MonitoringState where
  now := 0
  clusters := ∅
  credentials := ∅
  alerts := ∅
  templates := ∅
  deliveries := ∅
  issued := []
  log := []

/-! ## Steps -/

structure Issued (s : MonitoringState) : Prop where
  alerts : ∀ id alert, s.alerts.lookup id = some alert → id ∈ s.issued
  deliveries : ∀ id row, s.deliveries.lookup id = some row → id ∈ s.issued

def Gone (alertId : String) (s : MonitoringState) : Prop :=
  alertId ∈ s.issued ∧ s.alerts.lookup alertId = none

structure Evolves (s t : MonitoringState) : Prop where
  gone : ∀ id, Gone id s → Gone id t
  alerts : ∀ id alert, s.alerts.lookup id = some alert → Gone id t ∨
    ∃ alert', t.alerts.lookup id = some alert' ∧
      (alert.status = .resolved → alert'.status = .resolved)
  deliveries : ∀ id row, s.deliveries.lookup id = some row → Gone row.alertId t ∨
    ∃ row', t.deliveries.lookup id = some row' ∧ row'.alertId = row.alertId ∧
      row'.templateId = row.templateId ∧ row'.event = row.event

namespace Evolves

theorem refl (s : MonitoringState) : Evolves s s where
  gone _ h := h
  alerts _ alert h := .inr ⟨alert, h, fun h => h⟩
  deliveries _ row h := .inr ⟨row, h, rfl, rfl, rfl⟩

theorem trans {s t u : MonitoringState} (h : Evolves s t) (h' : Evolves t u) : Evolves s u where
  gone id hid := h'.gone id (h.gone id hid)
  alerts id alert halert := by
    rcases h.alerts id alert halert with hgone | ⟨alert₁, h₁, hstatus₁⟩
    · exact .inl (h'.gone id hgone)
    rcases h'.alerts id alert₁ h₁ with hgone | ⟨alert₂, h₂, hstatus₂⟩
    · exact .inl hgone
    · exact .inr ⟨alert₂, h₂, fun hresolved => hstatus₂ (hstatus₁ hresolved)⟩
  deliveries id row hrow := by
    rcases h.deliveries id row hrow with hgone | ⟨row₁, h₁, halert₁, htemplate₁, hevent₁⟩
    · exact .inl (h'.gone _ hgone)
    rcases h'.deliveries id row₁ h₁ with hgone | ⟨row₂, h₂, halert₂, htemplate₂, hevent₂⟩
    · exact .inl (halert₁ ▸ hgone)
    · exact .inr ⟨row₂, h₂, halert₂.trans halert₁, htemplate₂.trans htemplate₁,
        hevent₂.trans hevent₁⟩

end Evolves

structure Background (s t : MonitoringState) : Prop where
  evolves : Evolves s t
  issued : s.issued ⊆ t.issued
  wellIssued : Issued t
  log : t.log = s.log
  deliveries : ∀ id, t.deliveries.lookup id = s.deliveries.lookup id ∨
    (t.deliveries.lookup id = none ∧ ∀ row, s.deliveries.lookup id = some row →
      Gone row.alertId t) ∨
    (id ∉ s.issued ∧ ∃ row, t.deliveries.lookup id = some row ∧ row.status = .pending)

namespace Background

theorem refl {s : MonitoringState} (hs : Issued s) : Background s s :=
  ⟨.refl s, fun _ h => h, hs, rfl, fun _ => .inl rfl⟩

theorem trans {s t u : MonitoringState} (hs : Issued s) (h : Background s t)
    (h' : Background t u) : Background s u := by
  refine ⟨h.evolves.trans h'.evolves, fun id hid => h'.issued (h.issued hid), h'.wellIssued,
    h'.log.trans h.log, fun id => ?_⟩
  rcases h'.deliveries id with hsame | ⟨hnone, hgone⟩ | ⟨hnew, row, hrow, hpending⟩
  · rw [hsame]
    exact (h.deliveries id).imp_right (.imp_left fun hremoved =>
      ⟨hremoved.1, fun row hrow => h'.evolves.gone _ (hremoved.2 row hrow)⟩)
  · refine .inr (.inl ⟨hnone, fun row hrow => ?_⟩)
    rcases h.deliveries id with hsame | ⟨-, hgone'⟩ | ⟨hfresh, -⟩
    · exact hgone row (hsame.trans hrow)
    · exact h'.evolves.gone _ (hgone' row hrow)
    · exact absurd (hs.deliveries id row hrow) hfresh
  · exact .inr (.inr ⟨fun hid => hnew (h.issued hid), row, hrow, hpending⟩)

theorem of_same {s t : MonitoringState} (hs : Issued s) (halerts : t.alerts = s.alerts)
    (hdeliveries : t.deliveries = s.deliveries) (hissued : t.issued = s.issued)
    (hlog : t.log = s.log) : Background s t := by
  refine ⟨⟨fun id h => ?_, fun id alert h => .inr ⟨alert, ?_, fun h => h⟩,
    fun id row h => .inr ⟨row, ?_, rfl, rfl, rfl⟩⟩, ?_, ⟨?_, ?_⟩, hlog, fun id => .inl ?_⟩
  · exact ⟨hissued ▸ h.1, halerts ▸ h.2⟩
  · rw [halerts, h]
  · rw [hdeliveries, h]
  · rw [hissued]
    exact fun _ h => h
  · rw [halerts, hissued]
    exact hs.alerts
  · rw [hdeliveries, hissued]
    exact hs.deliveries
  · rw [hdeliveries]

theorem of_update {s t : MonitoringState} (hs : Issued s) {id : String}
    {f : MonitoringAlert → MonitoringAlert} (hf : ∀ alert, (f alert).status = .resolved)
    (ht : t = { s with alerts := s.alerts.update id f }) : Background s t := by
  subst ht
  have hlookup : ∀ k, (s.alerts.update id f).lookup k =
      if k = id then (s.alerts.lookup k).map f else s.alerts.lookup k := by
    intro k
    by_cases hk : k = id
    · rw [if_pos hk, hk, Table.lookup_update_self]
    · rw [if_neg hk, Table.lookup_update_ne f s.alerts hk]
  refine ⟨⟨fun k hk => ⟨hk.1, ?_⟩, fun k alert halert => .inr ?_,
    fun k row hrow => .inr ⟨row, hrow, rfl, rfl, rfl⟩⟩, fun _ h => h, ⟨fun k alert halert => ?_,
    hs.deliveries⟩, rfl, fun k => .inl rfl⟩
  · show (s.alerts.update id f).lookup k = none
    rw [hlookup, hk.2]
    simp
  · show ∃ alert', (s.alerts.update id f).lookup k = some alert' ∧ _
    rw [hlookup, halert]
    split
    · exact ⟨f alert, rfl, fun _ => hf alert⟩
    · exact ⟨alert, rfl, fun h => h⟩
  · have hmem : (s.alerts.update id f).lookup k = some alert := halert
    rw [hlookup] at hmem
    cases hold : s.alerts.lookup k with
    | none =>
        rw [hold] at hmem
        simp at hmem
    | some old => exact hs.alerts k old hold

end Background

theorem lookup_removeAlerts_deliveries (clusterId : String) (s : MonitoringState) (id : String)
    (row : NotificationDelivery) :
    (s.removeAlerts clusterId).deliveries.lookup id = some row ↔
      s.deliveries.lookup id = some row ∧
        (s.alerts.lookup row.alertId).any (·.clusterId == some clusterId) = false := by
  simp [MonitoringState.removeAlerts, Table.lookup_deleteWhere, Option.filter_eq_some_iff]

theorem lookup_removeAlerts_alerts (clusterId : String) (s : MonitoringState) (id : String)
    (alert : MonitoringAlert) :
    (s.removeAlerts clusterId).alerts.lookup id = some alert ↔
      s.alerts.lookup id = some alert ∧ (alert.clusterId == some clusterId) = false := by
  simp [MonitoringState.removeAlerts, Table.lookup_deleteWhere, Option.filter_eq_some_iff]

theorem Outside.background {s t : MonitoringState} (hs : Issued s) (h : Outside s t) :
    Background s t := by
  cases h with
  | clock now => exact .of_same hs rfl rfl rfl rfl
  | clusters clusters => exact .of_same hs rfl rfl rfl rfl
  | credentials credentials => exact .of_same hs rfl rfl rfl rfl
  | templates templates => exact .of_same hs rfl rfl rfl rfl
  | resolveAlert id resolvedAt => exact .of_update hs (fun _ => rfl) rfl
  | removeAlerts clusterId =>
      have hrow := lookup_removeAlerts_deliveries clusterId s
      have halert := lookup_removeAlerts_alerts clusterId s
      have hremoved : ∀ id alert, s.alerts.lookup id = some alert →
          (alert.clusterId == some clusterId) = true → Gone id (s.removeAlerts clusterId) := by
        intro id alert hthere hcluster
        refine ⟨hs.alerts id alert hthere, Option.eq_none_iff_forall_not_mem.mpr fun other hother => ?_⟩
        obtain ⟨hsame, hfalse⟩ := (halert _ _).mp hother
        rw [hthere] at hsame
        cases hsame
        rw [hcluster] at hfalse
        cases hfalse
      have hkeep : ∀ id row, s.deliveries.lookup id = some row →
          Gone row.alertId (s.removeAlerts clusterId) ∨
            (s.removeAlerts clusterId).deliveries.lookup id = some row := by
        intro id row hlookup
        cases hany : (s.alerts.lookup row.alertId).any (·.clusterId == some clusterId) with
        | false => exact .inr ((hrow id row).mpr ⟨hlookup, hany⟩)
        | true =>
            obtain ⟨alert, hthere, hcluster⟩ := (Option.any_eq_true _ _).mp hany
            exact .inl (hremoved _ alert hthere hcluster)
      refine ⟨⟨fun id hid => ⟨hid.1, ?_⟩, fun id alert hthere => ?_, fun id row hlookup => ?_⟩,
        fun _ h => h, ⟨fun id alert hthere => ?_, fun id row hlookup => ?_⟩, rfl, fun id => ?_⟩
      · refine Option.eq_none_iff_forall_not_mem.mpr fun alert hthere => ?_
        have hnone := hid.2
        rw [((halert id alert).mp hthere).1] at hnone
        cases hnone
      · cases hcluster : alert.clusterId == some clusterId with
        | false => exact .inr ⟨alert, (halert id alert).mpr ⟨hthere, hcluster⟩, fun h => h⟩
        | true => exact .inl (hremoved id alert hthere hcluster)
      · exact (hkeep id row hlookup).imp_right fun h => ⟨row, h, rfl, rfl, rfl⟩
      · exact hs.alerts id alert ((halert id alert).mp hthere).1
      · exact hs.deliveries id row ((hrow id row).mp hlookup).1
      · cases hlookup : (s.removeAlerts clusterId).deliveries.lookup id with
        | some row => exact .inl ((hrow id row).mp hlookup).1.symm
        | none =>
            refine .inr (.inl ⟨rfl, fun row hold => ?_⟩)
            rcases hkeep id row hold with hgone | hthere
            · exact hgone
            · rw [hlookup] at hthere
              cases hthere

theorem insertDelivery_cases {alertId : String} {event : AlertStatus} {expiresAt : Int}
    {channel : String × String} {s t : MonitoringState}
    (h : insertDelivery alertId event expiresAt channel s = .ok t) :
    (∃ alert, s.alerts.lookup alertId = some alert) ∧
      ((t = s ∧ ∃ known, s.findDelivery alertId channel.2 event = some known) ∨
        (channel.1 ∉ s.issued ∧ s.findDelivery alertId channel.2 event = none ∧
          t = { s with
            deliveries := AList.insert channel.1
              (newDelivery alertId channel.2 event expiresAt s.now) s.deliveries
            issued := channel.1 :: s.issued })) := by
  unfold insertDelivery at h
  split at h
  · cases h
  rename_i halert
  refine ⟨Option.ne_none_iff_exists'.mp halert, ?_⟩
  split at h
  · cases h
  rename_i hfresh
  split at h
  · rename_i hknown
    exact .inl ⟨(Except.ok.inj h).symm, Option.isSome_iff_exists.mp hknown⟩
  · rename_i hunknown
    refine .inr ⟨by simpa using hfresh, ?_, (Except.ok.inj h).symm⟩
    simpa using hunknown

theorem insertDelivery_background {alertId : String} {event : AlertStatus} {expiresAt : Int}
    {channel : String × String} {s t : MonitoringState} (hs : Issued s)
    (h : insertDelivery alertId event expiresAt channel s = .ok t) : Background s t := by
  obtain ⟨-, ⟨rfl, -⟩ | ⟨hfresh, -, rfl⟩⟩ := insertDelivery_cases h
  · exact .refl hs
  · have hne : ∀ id row, s.deliveries.lookup id = some row → id ≠ channel.1 := by
      rintro id row hrow rfl
      exact hfresh (hs.deliveries _ row hrow)
    refine ⟨⟨fun id hid => ⟨List.mem_cons_of_mem _ hid.1, hid.2⟩,
      fun id alert halert => .inr ⟨alert, halert, fun h => h⟩, fun id row hrow => .inr ⟨row, ?_,
      rfl, rfl, rfl⟩⟩, fun id hid => List.mem_cons_of_mem _ hid, ⟨fun id alert halert => ?_,
      fun id row hrow => ?_⟩, rfl, fun id => ?_⟩
    · rw [Table.lookup_insert, if_neg (hne id row hrow), hrow]
    · exact List.mem_cons_of_mem _ (hs.alerts id alert halert)
    · rw [Table.lookup_insert] at hrow
      split at hrow
      · subst id
        exact List.mem_cons_self
      · exact List.mem_cons_of_mem _ (hs.deliveries id row hrow)
    · simp only [Table.lookup_insert]
      split
      · subst id
        exact .inr (.inr ⟨hfresh, _, rfl, rfl⟩)
      · exact .inl rfl

theorem createAlert_cases {id : String} {alert : MonitoringAlert} {s t : MonitoringState}
    (h : (Write.createAlert id alert).apply s = .ok t) :
    id ∉ s.issued ∧
      (∀ k row key, s.alerts.lookup k = some row → row.occurrenceKey = some key →
        alert.occurrenceKey ≠ some key) ∧
      t = { s with alerts := AList.insert id alert s.alerts, issued := id :: s.issued } := by
  simp only [Write.apply] at h
  split at h
  · cases h
  rename_i hfresh
  split at h
  · cases h
  rename_i hunique
  refine ⟨by simpa using hfresh, fun k row key hrow hkey halert => ?_, (Except.ok.inj h).symm⟩
  have hnone := Table.first?_eq_none (by simpa using hunique) hrow
  rw [hkey, halert] at hnone
  simp at hnone

theorem resolveAlert_cases {id : String} {resolvedAt : Option Int} {s t : MonitoringState}
    (h : (Write.resolveAlert id resolvedAt).apply s = .ok t) :
    (∃ alert, s.alerts.lookup id = some alert) ∧
      t = { s with alerts := s.alerts.update id fun row =>
        { row with status := .resolved, resolvedAt := resolvedAt } } := by
  simp only [Write.apply] at h
  split at h
  · cases h
  · exact ⟨Option.ne_none_iff_exists'.mp ‹_›, (Except.ok.inj h).symm⟩

theorem Write.background {w : Write} {s t : MonitoringState} (hs : Issued s)
    (h : w.apply s = .ok t) : Background s t := by
  cases w with
  | createAlert id alert =>
      obtain ⟨hfresh, -, rfl⟩ := createAlert_cases h
      have hne : ∀ k, k ∈ s.issued → k ≠ id := by
        rintro k hk rfl
        exact hfresh hk
      refine ⟨⟨fun k hk => ⟨List.mem_cons_of_mem _ hk.1, ?_⟩, fun k old hold => .inr ⟨old, ?_,
        fun h => h⟩, fun k row hrow => .inr ⟨row, hrow, rfl, rfl, rfl⟩⟩,
        fun k hk => List.mem_cons_of_mem _ hk, ⟨fun k old hold => ?_, fun k row hrow => ?_⟩, rfl,
        fun k => .inl rfl⟩
      · rw [Table.lookup_insert, if_neg (hne k hk.1), hk.2]
      · rw [Table.lookup_insert, if_neg (hne k (hs.alerts k old hold)), hold]
      · rw [Table.lookup_insert] at hold
        split at hold
        · subst k
          exact List.mem_cons_self
        · exact List.mem_cons_of_mem _ (hs.alerts k old hold)
      · exact List.mem_cons_of_mem _ (hs.deliveries k row hrow)
  | resolveAlert id resolvedAt =>
      obtain ⟨-, rfl⟩ := resolveAlert_cases h
      exact .of_update hs (fun _ => rfl) rfl
  | createDeliveries alertId event expiresAt channels =>
      refine applyAll_induction (p := Background s) (fun channel _ u v hu hv => ?_) (.refl hs) h
      exact .trans hs hu (insertDelivery_background hu.wellIssued hv)

def backgroundProtocol : Protocol MonitoringState where
  inv := Issued
  guar s t := Issued s → Background s t
  refl _ := .refl
  preserves hs h := (h hs).wellIssued

section Ingest

variable (crypto : Crypto)

theorem obeys_authenticate {P : Protocol MonitoringState} (clusterId : String)
    (authorization : Option String) :
    Obeys P (AlertReceiverService.authenticate crypto clusterId authorization) :=
  .bind (.ensure _ _) fun _ => .bind (.query _) fun _ => .bind (.ensure _ _) fun _ =>
    .bind (.query _) fun _ => .ensure _ _

theorem obeys_authenticateTx {P : Protocol MonitoringState} (clusterId : String)
    (authorization : Option String) (ws : List Write) :
    Obeys P (AlertReceiverService.authenticateTx crypto clusterId authorization ws) :=
  Tx.obeys_bind (Tx.obeys_ensure _ _ _) fun _ _ => Tx.obeys_bind (Tx.obeys_read _ _) fun _ _ =>
    Tx.obeys_bind (Tx.obeys_ensure _ _ _) fun _ _ => Tx.obeys_bind (Tx.obeys_read _ _) fun _ _ =>
      Tx.obeys_ensure _ _ _

theorem obeys_createDeliveries {P : Protocol MonitoringState} (cuid : Nat → String)
    (clusterId alertId : String) (event : AlertStatus) (ws : List Write) :
    Obeys P (AlertIngestionService.createDeliveries cuid clusterId alertId event ws) := by
  refine Tx.obeys_bind (Tx.obeys_read _ _) fun templates vs => ?_
  split
  · exact .done _
  · exact Tx.obeys_bind (Tx.obeys_read _ _) fun _ _ => Tx.obeys_write _ _

theorem obeys_ingestEvent {P : Protocol MonitoringState} (cuid : Nat → String) (clusterId : String)
    (event : AlertmanagerEvent) (ws : List Write) :
    Obeys P (AlertIngestionService.ingestEvent crypto cuid clusterId event ws) := by
  refine Tx.obeys_bind (Tx.obeys_read _ _) fun existing vs => ?_
  split
  · exact .done _
  · refine Tx.obeys_bind ?_ fun alertId us => ?_
    · cases existing with
      | none => exact Tx.obeys_bind (Tx.obeys_write _ _) fun _ _ => .done _
      | some known => exact Tx.obeys_bind (Tx.obeys_write _ _) fun _ _ => .done _
    · split
      · exact .done _
      · exact Tx.obeys_bind (obeys_createDeliveries _ _ _ _ _) fun _ _ => .done _

theorem obeys_ingestEvents {P : Protocol MonitoringState} (cuid : Nat → Nat → String)
    (clusterId : String) (events : List AlertmanagerEvent) (changed : Nat) (ws : List Write) :
    Obeys P (AlertIngestionService.ingestEvents crypto cuid clusterId events changed ws) := by
  induction events generalizing changed ws with
  | nil => exact .done _
  | cons event rest ih =>
      exact Tx.obeys_bind (obeys_ingestEvent crypto _ _ _ _) fun _ _ => ih _ _

theorem obeys_ingest_body {P : Protocol MonitoringState} (cuid : Nat → Nat → String)
    (clusterId : String) (authorization : Option String) (events : List AlertmanagerEvent)
    (ws : List Write) :
    Obeys P ((do
      AlertReceiverService.authenticateTx crypto clusterId authorization
      let changed ← AlertIngestionService.ingestEvents crypto cuid clusterId events 0
      pure (⟨events.length, changed⟩ : AlertIngestionService.Ingested) : IngestTx _) ws) :=
  Tx.obeys_bind (obeys_authenticateTx crypto _ _ _) fun _ _ =>
    Tx.obeys_bind (obeys_ingestEvents crypto _ _ _ _ _) fun _ _ => .done _

theorem obeys_ingest (cuid : Nat → Nat → String) (clusterId : String)
    (authorization : Option String) (body : Js) :
    Obeys backgroundProtocol
      (AlertIngestionService.ingest crypto cuid clusterId authorization body) := by
  refine .bind (obeys_authenticate crypto _ _) fun _ => .bind (.ofExcept _) fun events => ?_
  refine Tx.obeys_commit (obeys_ingest_body crypto _ _ _ _ _) (fun s t u hs h h' => ?_)
    fun w s t hs h _ => w.background hs h
  exact fun _ => .trans hs (h hs) (h' (h hs).wellIssued)

end Ingest
end KubeNova.Monitoring
