import KubeNova.Monitoring.DeliverySafety

/-!
# What ingestion leaves in the tables

An alert has one row however often its batch arrives, and a notification one delivery.
A resolved delivery always stands beside the firing delivery of its alert: what a
transaction has read about firing deliveries stays true until its commit, or the alert
has disappeared and the commit is refused (`Accounted.committed`).
-/

namespace KubeNova.Monitoring

open KubeNova.Common KubeNova.Foundation Relation

def HasFiring (alertId templateId : String) (s : MonitoringState) : Prop :=
  ∃ id row, s.deliveries.lookup id = some row ∧ row.alertId = alertId ∧
    row.templateId = templateId ∧ row.event = .firing

def HasKey (crypto : Crypto) (alert : MonitoringAlert) : Prop :=
  ∃ clusterId fingerprint, alert.clusterId = some clusterId ∧
    alert.occurrenceKey = some (occurrenceKey crypto clusterId fingerprint alert.firedAt)

structure IngestionInv (crypto : Crypto) (s : MonitoringState) : Prop where
  issued : Issued s
  keys : ∀ id id' a a' key, s.alerts.lookup id = some a → s.alerts.lookup id' = some a' →
    a.occurrenceKey = some key → a'.occurrenceKey = some key → id = id'
  keyed : ∀ id alert, s.alerts.lookup id = some alert → HasKey crypto alert
  unique : ∀ id id' row row', s.deliveries.lookup id = some row →
    s.deliveries.lookup id' = some row' → SameNotification row row' → id = id'
  owned : ∀ id row, s.deliveries.lookup id = some row →
    ∃ alert, s.alerts.lookup row.alertId = some alert
  fired : ∀ id row, s.deliveries.lookup id = some row → row.event = .resolved →
    HasFiring row.alertId row.templateId s

variable {crypto : Crypto} {s t : MonitoringState}

theorem Evolves.hasFiring (h : Evolves s t) {alertId templateId : String}
    (hs : HasFiring alertId templateId s) :
    HasFiring alertId templateId t ∨ Gone alertId t := by
  obtain ⟨id, row, hrow, halert, htemplate, hevent⟩ := hs
  rcases h.deliveries id row hrow with hgone | ⟨row', hrow', halert', htemplate', hevent'⟩
  · exact .inr (halert ▸ hgone)
  · exact .inl ⟨id, row', hrow', halert'.trans halert, htemplate'.trans htemplate,
      hevent'.trans hevent⟩

def ingestionProtocol (crypto : Crypto) : Protocol MonitoringState where
  inv := IngestionInv crypto
  guar s t := IngestionInv crypto s → IngestionInv crypto t ∧ Evolves s t
  refl s hs := ⟨hs, .refl s⟩
  preserves hs h := (h hs).1

theorem guar_of_same (halerts : t.alerts = s.alerts) (hdeliveries : t.deliveries = s.deliveries)
    (hissued : t.issued = s.issued) (hlog : t.log = s.log) : (ingestionProtocol crypto).guar s t := by
  intro hs
  have hback : Background s t := .of_same hs.issued halerts hdeliveries hissued hlog
  refine ⟨⟨hback.wellIssued, ?_, ?_, ?_, ?_, ?_⟩, hback.evolves⟩
  · rw [halerts]
    exact hs.keys
  · rw [halerts]
    exact hs.keyed
  · rw [hdeliveries]
    exact hs.unique
  · rw [halerts, hdeliveries]
    exact hs.owned
  · unfold HasFiring
    rw [hdeliveries]
    exact hs.fired

theorem guar_of_update {id : String} {f : MonitoringAlert → MonitoringAlert}
    (ht : t = { s with alerts := s.alerts.update id f })
    (hf : ∀ alert, (f alert).status = .resolved) (hkey : ∀ alert, (f alert).occurrenceKey =
      alert.occurrenceKey ∧ (f alert).clusterId = alert.clusterId ∧
      (f alert).firedAt = alert.firedAt) : (ingestionProtocol crypto).guar s t := by
  intro hs
  have hback : Background s t := .of_update hs.issued hf ht
  subst ht
  have hlookup : ∀ k alert, (s.alerts.update id f).lookup k = some alert →
      ∃ old, s.alerts.lookup k = some old ∧ alert.occurrenceKey = old.occurrenceKey ∧
        alert.clusterId = old.clusterId ∧ alert.firedAt = old.firedAt := by
    intro k alert halert
    by_cases hk : k = id
    · subst k
      rw [Table.lookup_update_self] at halert
      obtain ⟨old, hold, rfl⟩ := Option.map_eq_some_iff.mp halert
      exact ⟨old, hold, hkey old⟩
    · rw [Table.lookup_update_ne _ _ hk] at halert
      exact ⟨alert, halert, rfl, rfl, rfl⟩
  refine ⟨⟨hback.wellIssued, ?_, ?_, hs.unique, ?_, hs.fired⟩, hback.evolves⟩
  · intro k k' a a' key ha ha' hakey hakey'
    obtain ⟨old, hold, hsame, -⟩ := hlookup k a ha
    obtain ⟨old', hold', hsame', -⟩ := hlookup k' a' ha'
    exact hs.keys k k' old old' key hold hold' (hsame ▸ hakey) (hsame' ▸ hakey')
  · intro k alert halert
    obtain ⟨old, hold, hsame, hcluster, hfired⟩ := hlookup k alert halert
    unfold HasKey
    rw [hsame, hcluster, hfired]
    exact hs.keyed k old hold
  · intro k row hrow
    obtain ⟨alert, halert⟩ := hs.owned k row hrow
    by_cases hk : row.alertId = id
    · refine ⟨f alert, ?_⟩
      show (s.alerts.update id f).lookup row.alertId = some (f alert)
      rw [hk, Table.lookup_update_self, ← hk, halert]
      rfl
    · refine ⟨alert, ?_⟩
      show (s.alerts.update id f).lookup row.alertId = some alert
      rw [Table.lookup_update_ne _ _ hk, halert]

theorem guar_of_writes {id : String} {row row' : NotificationDelivery} {event : DeliveryEvent}
    (hrow : s.deliveries.lookup id = some row) (ht : Writes id row' event s t)
    (hsame : SameNotification row row') : (ingestionProtocol crypto).guar s t := by
  intro hs
  have hforward : ∀ k old, s.deliveries.lookup k = some old → ∃ new,
      t.deliveries.lookup k = some new ∧ SameNotification old new := by
    intro k old hold
    rw [ht.deliveries]
    split
    · subst k
      rw [hrow] at hold
      obtain rfl := Option.some.inj hold
      exact ⟨row', rfl, hsame⟩
    · exact ⟨old, hold, ⟨rfl, rfl, rfl⟩⟩
  have hback : ∀ k new, t.deliveries.lookup k = some new → ∃ old,
      s.deliveries.lookup k = some old ∧ SameNotification old new := by
    intro k new hnew
    rw [ht.deliveries] at hnew
    split at hnew
    · subst k
      obtain rfl := Option.some.inj hnew
      exact ⟨row, hrow, hsame⟩
    · exact ⟨new, hnew, ⟨rfl, rfl, rfl⟩⟩
  refine ⟨⟨ht.issued_inv hs.issued hrow, ?_, ?_, ?_, ?_, ?_⟩, ⟨?_, ?_, ?_⟩⟩
  · rw [ht.alerts]
    exact hs.keys
  · rw [ht.alerts]
    exact hs.keyed
  · intro k k' new new' hnew hnew' hnews
    obtain ⟨old, hold, ⟨h₁, h₂, h₃⟩⟩ := hback k new hnew
    obtain ⟨old', hold', ⟨h₁', h₂', h₃'⟩⟩ := hback k' new' hnew'
    exact hs.unique k k' old old' hold hold' ⟨by rw [← h₁, ← h₁', hnews.alertId],
      by rw [← h₂, ← h₂', hnews.templateId], by rw [← h₃, ← h₃', hnews.event]⟩
  · intro k new hnew
    obtain ⟨old, hold, ⟨h₁, -, -⟩⟩ := hback k new hnew
    rw [ht.alerts, h₁]
    exact hs.owned k old hold
  · intro k new hnew hresolved
    obtain ⟨old, hold, ⟨h₁, h₂, h₃⟩⟩ := hback k new hnew
    obtain ⟨j, firing, hfiring, ha, hc, he⟩ := hs.fired k old hold (h₃ ▸ hresolved)
    obtain ⟨firing', hfiring', ⟨h₁', h₂', h₃'⟩⟩ := hforward j firing hfiring
    exact ⟨j, firing', hfiring', by rw [h₁', ha, h₁], by rw [h₂', hc, h₂], by rw [h₃', he]⟩
  · exact fun k hk => ⟨ht.issued ▸ hk.1, ht.alerts ▸ hk.2⟩
  · exact fun k alert halert => .inr ⟨alert, ht.alerts ▸ halert, fun h => h⟩
  · intro k old hold
    obtain ⟨new, hnew, ⟨h₁, h₂, h₃⟩⟩ := hforward k old hold
    exact .inr ⟨new, hnew, h₁, h₂, h₃⟩

theorem guar_of_removeAlerts (clusterId : String) :
    (ingestionProtocol crypto).guar s (s.removeAlerts clusterId) := by
  intro hs
  have hback := Outside.background hs.issued (.removeAlerts s clusterId)
  have hrow := lookup_removeAlerts_deliveries clusterId s
  have halert := lookup_removeAlerts_alerts clusterId s
  refine ⟨⟨hback.wellIssued, ?_, ?_, ?_, ?_, ?_⟩, hback.evolves⟩
  · intro id id' a a' key ha ha'
    exact hs.keys id id' a a' key ((halert id a).mp ha).1 ((halert id' a').mp ha').1
  · exact fun id alert h => hs.keyed id alert ((halert id alert).mp h).1
  · intro id id' row row' h h'
    exact hs.unique id id' row row' ((hrow id row).mp h).1 ((hrow id' row').mp h').1
  · intro id row h
    obtain ⟨hold, hcluster⟩ := (hrow id row).mp h
    obtain ⟨alert, hthere⟩ := hs.owned id row hold
    rw [hthere, Option.any_some] at hcluster
    exact ⟨alert, (halert _ alert).mpr ⟨hthere, hcluster⟩⟩
  · intro id row h hresolved
    obtain ⟨hold, hcluster⟩ := (hrow id row).mp h
    obtain ⟨j, firing, hfiring, ha, hc, he⟩ := hs.fired id row hold hresolved
    exact ⟨j, firing, (hrow j firing).mpr ⟨hfiring, by rw [ha]; exact hcluster⟩, ha, hc, he⟩

theorem guar_of_outside (h : Outside s t) : (ingestionProtocol crypto).guar s t := by
  cases h with
  | clock now => exact guar_of_same rfl rfl rfl rfl
  | clusters clusters => exact guar_of_same rfl rfl rfl rfl
  | credentials credentials => exact guar_of_same rfl rfl rfl rfl
  | templates templates => exact guar_of_same rfl rfl rfl rfl
  | resolveAlert id resolvedAt =>
      exact guar_of_update rfl (fun _ => rfl) fun _ => ⟨rfl, rfl, rfl⟩
  | removeAlerts clusterId => exact guar_of_removeAlerts clusterId

section Worker

variable (outcomes : WorkerOutcomes) (leased : Leased)

theorem guar_of_log {log : List DeliveryEvent} :
    (ingestionProtocol crypto).guar s { s with log := log } := by
  intro hs
  exact ⟨⟨⟨hs.issued.alerts, hs.issued.deliveries⟩, hs.keys, hs.keyed, hs.unique, hs.owned,
    hs.fired⟩, ⟨fun _ h => h, fun _ alert h => .inr ⟨alert, h, fun h => h⟩,
    fun _ row h => .inr ⟨row, h, rfl, rfl, rfl⟩⟩⟩

theorem guar_updateLeased {event : DeliveryEvent}
    {data : Int → NotificationDelivery → NotificationDelivery}
    (hdata : ∀ now row, SameNotification row (data now row)) :
    (ingestionProtocol crypto).guar s (NotificationWorker.updateLeased leased event data s).2 := by
  rcases NotificationWorker.updateLeased_cases leased event data s with
    hsame | ⟨row, hrow, -, -, ht⟩
  · rw [hsame]
    exact (ingestionProtocol crypto).refl s
  · exact guar_of_writes hrow ht (hdata _ row)

theorem obeys_unlessFails {α : Type} {P : Protocol MonitoringState} (error : Option Exception)
    {call : MonitoringHandler α} (h : Obeys P call) : Obeys P (unlessFails error call) := by
  cases error with
  | none => exact h
  | some e => exact .fail e

theorem obeys_finish (error : Option Exception) (status : DeliveryStatus)
    (lastError : Option String) (delay : Int) :
    Obeys (ingestionProtocol crypto)
      (NotificationWorker.finish error leased status lastError delay) :=
  obeys_unlessFails error (.exec fun _ _ => guar_updateLeased leased fun _ _ => ⟨rfl, rfl, rfl⟩)

theorem obeys_dispatch :
    Obeys (ingestionProtocol crypto) (NotificationWorker.dispatch outcomes leased) :=
  .bind (.bind (.exec fun _ _ => guar_of_log) fun _ => .ofExcept _) fun _ =>
    .bind (obeys_finish leased _ _ _ _) fun _ => .done _

theorem obeys_dispatchResolved :
    Obeys (ingestionProtocol crypto) (NotificationWorker.dispatchResolved outcomes leased) := by
  refine .bind (obeys_unlessFails _ (.query _)) fun firing => ?_
  have hcancel := Obeys.bind (@obeys_finish crypto leased outcomes.finishError .cancelled none 0)
    fun _ => .done true
  cases firing.map (·.2.status) with
  | none => exact hcancel
  | some status =>
      refine .ite hcancel (.ite (.bind (obeys_unlessFails _ (.exec fun _ _ => ?_)) fun _ => .done _)
        (obeys_dispatch outcomes leased))
      exact guar_updateLeased leased fun _ _ => ⟨rfl, rfl, rfl⟩

theorem obeys_deliver (clusterId : String) :
    Obeys (ingestionProtocol crypto) (NotificationWorker.deliver outcomes clusterId leased) := by
  have hfinish : ∀ status lastError, Obeys (ingestionProtocol crypto) (do
      NotificationWorker.finish outcomes.finishError leased status lastError 0
      pure true : MonitoringHandler Bool) :=
    fun status lastError => .bind (obeys_finish leased _ _ _ _) fun _ => .done _
  refine .bind (.query _) fun now => .ite (hfinish _ _) (.ite (hfinish _ _) ?_)
  refine .bind (obeys_unlessFails _ (.query _)) fun alert => .bind (.query _) fun template =>
    .bind (.query _) fun cluster => ?_
  split
  · exact .ite (hfinish _ _) (.ite (hfinish _ _) (.ite (obeys_dispatchResolved outcomes leased)
      (obeys_dispatch outcomes leased)))
  · exact hfinish _ _

theorem obeys_runOnce (clusterId : String) :
    Obeys (ingestionProtocol crypto) (NotificationWorker.runOnce outcomes clusterId) := by
  refine .bind (obeys_unlessFails _ (.exec fun s _ => ?_)) fun leased => ?_
  · unfold NotificationWorker.lease
    cases hcandidate : NotificationWorker.candidate clusterId outcomes.isLocked s with
    | none => exact (ingestionProtocol crypto).refl s
    | some known =>
        obtain ⟨id, row⟩ := known
        have hrow := (NotificationWorker.candidate_mem hcandidate).1
        exact guar_of_writes hrow (NotificationWorker.writes_update (f := fun _ => _) hrow)
          ⟨rfl, rfl, rfl⟩
  · cases leased with
    | none => exact .done _
    | some leased =>
        exact .tryCatch (obeys_deliver outcomes leased clusterId) fun _ =>
          .bind (obeys_finish leased _ _ _ _) fun _ => .done _

end Worker

theorem Write.alerts_kept {w : Write} (h : w.apply s = .ok t) {id : String}
    (hs : ∃ alert, s.alerts.lookup id = some alert) :
    ∃ alert, t.alerts.lookup id = some alert := by
  obtain ⟨alert, halert⟩ := hs
  cases w with
  | createAlert k new =>
      obtain ⟨-, -, rfl⟩ := createAlert_cases h
      simp only [Table.lookup_insert]
      split
      · exact ⟨new, rfl⟩
      · exact ⟨alert, halert⟩
  | resolveAlert k resolvedAt =>
      obtain ⟨-, rfl⟩ := resolveAlert_cases h
      by_cases hk : id = k
      · subst k
        simp [halert]
      · exact ⟨alert, by simpa only [Table.lookup_update_ne _ _ hk] using halert⟩
  | createDeliveries alertId event expiresAt channels =>
      refine ⟨alert, ?_⟩
      refine applyAll_induction (p := fun s => s.alerts.lookup id = some alert)
        (fun channel _ u v hu hv => ?_) halert h
      obtain ⟨-, ⟨rfl, -⟩ | ⟨-, -, rfl⟩⟩ := insertDelivery_cases hv
      · exact hu
      · exact hu

theorem Evolves.hasFiring_of_present (h : Evolves s t) {alertId templateId : String}
    (hs : HasFiring alertId templateId s) (ht : ∃ alert, t.alerts.lookup alertId = some alert) :
    HasFiring alertId templateId t := by
  rcases h.hasFiring hs with hfiring | hgone
  · exact hfiring
  · obtain ⟨alert, halert⟩ := ht
    rw [hgone.2] at halert
    cases halert

theorem HasFiring.present (hs : IngestionInv crypto s) {alertId templateId : String}
    (h : HasFiring alertId templateId s) : ∃ alert, s.alerts.lookup alertId = some alert := by
  obtain ⟨id, row, hrow, rfl, -, -⟩ := h
  exact hs.owned id row hrow

theorem findDelivery_some {alertId templateId : String} {event : AlertStatus} {id : String}
    {row : NotificationDelivery}
    (h : s.findDelivery alertId templateId event = some (id, row)) :
    s.deliveries.lookup id = some row ∧ row.alertId = alertId ∧ row.templateId = templateId ∧
      row.event = event := by
  obtain ⟨hrow, hkey⟩ := Table.first?_eq_some h
  simp only [Bool.and_eq_true, beq_iff_eq] at hkey
  exact ⟨hrow, hkey.1.1, hkey.1.2, hkey.2⟩

theorem insertDelivery_inv {alertId : String} {event : AlertStatus} {expiresAt : Int}
    {channel : String × String} (hs : IngestionInv crypto s)
    (hfired : event = .resolved → HasFiring alertId channel.2 s)
    (h : insertDelivery alertId event expiresAt channel s = .ok t) :
    IngestionInv crypto t ∧ (event = .firing → HasFiring alertId channel.2 t) := by
  have hback := insertDelivery_background hs.issued h
  obtain ⟨⟨alert, halert⟩, ⟨rfl, ⟨k, known⟩, hknown⟩ | ⟨hfresh, hnone, rfl⟩⟩ :=
    insertDelivery_cases h
  · obtain ⟨hrow, ha, hc, he⟩ := findDelivery_some hknown
    exact ⟨hs, fun hfiring => ⟨k, known, hrow, ha, hc, he.trans hfiring⟩⟩
  have hne : ∀ id row, s.deliveries.lookup id = some row → id ≠ channel.1 := by
    rintro id row hrow rfl
    exact hfresh (hs.issued.deliveries _ row hrow)
  have hnew : ∀ id row, s.deliveries.lookup id = some row →
      ¬(row.alertId = alertId ∧ row.templateId = channel.2 ∧ row.event = event) := by
    rintro id row hrow ⟨rfl, hc, rfl⟩
    have hfalse := Table.first?_eq_none hnone hrow
    simp [hc] at hfalse
  have hlookup : ∀ id row, (AList.insert channel.1
      (newDelivery alertId channel.2 event expiresAt s.now) s.deliveries).lookup id = some row →
      (id = channel.1 ∧ row = newDelivery alertId channel.2 event expiresAt s.now) ∨
        s.deliveries.lookup id = some row := by
    intro id row hrow
    rw [Table.lookup_insert] at hrow
    split at hrow
    · exact .inl ⟨‹_›, (Option.some.inj hrow).symm⟩
    · exact .inr hrow
  have hmono : ∀ a c, HasFiring a c s → HasFiring a c { s with
      deliveries := AList.insert channel.1
        (newDelivery alertId channel.2 event expiresAt s.now) s.deliveries
      issued := channel.1 :: s.issued } := by
    rintro a c ⟨id, row, hrow, hrest⟩
    refine ⟨id, row, ?_, hrest⟩
    rw [Table.lookup_insert, if_neg (hne id row hrow), hrow]
  refine ⟨⟨hback.wellIssued, hs.keys, hs.keyed, ?_, ?_, ?_⟩, fun hfiring => ?_⟩
  · intro id id' row row' hrow hrow' hsame
    rcases hlookup id row hrow with ⟨rfl, rfl⟩ | hold
    · rcases hlookup id' row' hrow' with ⟨rfl, -⟩ | hold'
      · rfl
      · exact absurd ⟨hsame.alertId, hsame.templateId, hsame.event⟩ (hnew id' row' hold')
    · rcases hlookup id' row' hrow' with ⟨rfl, rfl⟩ | hold'
      · exact absurd ⟨hsame.alertId.symm, hsame.templateId.symm, hsame.event.symm⟩
          (hnew id row hold)
      · exact hs.unique id id' row row' hold hold' hsame
  · intro id row hrow
    rcases hlookup id row hrow with ⟨-, rfl⟩ | hold
    · exact ⟨alert, halert⟩
    · exact hs.owned id row hold
  · intro id row hrow hresolved
    rcases hlookup id row hrow with ⟨-, rfl⟩ | hold
    · exact hmono _ _ (hfired hresolved)
    · exact hmono _ _ (hs.fired id row hold hresolved)
  · refine ⟨channel.1, newDelivery alertId channel.2 event expiresAt s.now, ?_, rfl, rfl, hfiring⟩
    rw [Table.lookup_insert, if_pos rfl]

theorem createDeliveries_inv {alertId : String} {event : AlertStatus} {expiresAt : Int}
    {channels : List (String × String)} (hs : IngestionInv crypto s)
    (hfired : event = .resolved → ∀ channel ∈ channels,
      (∃ alert, s.alerts.lookup alertId = some alert) → HasFiring alertId channel.2 s)
    (h : applyAll (insertDelivery alertId event expiresAt) channels s = .ok t) :
    IngestionInv crypto t ∧
      (event = .firing → ∀ channel ∈ channels, HasFiring alertId channel.2 t) := by
  induction channels generalizing s with
  | nil =>
      obtain rfl : s = t := Except.ok.inj h
      exact ⟨hs, fun _ channel hchannel => nomatch hchannel⟩
  | cons channel rest ih =>
      obtain ⟨u, hu, hrest⟩ := exists_of_bind_eq_ok h
      have hthere := (insertDelivery_cases hu).1
      have hstep := insertDelivery_inv hs
        (fun hresolved => hfired hresolved channel List.mem_cons_self hthere) hu
      have hmove := (insertDelivery_background hs.issued hu).evolves
      have hpresent : ∃ alert, u.alerts.lookup alertId = some alert := by
        obtain ⟨-, ⟨rfl, -⟩ | ⟨-, -, rfl⟩⟩ := insertDelivery_cases hu <;> exact hthere
      have hlater := ih hstep.1 (fun hresolved other hother _ =>
        hmove.hasFiring_of_present
          (hfired hresolved other (List.mem_cons_of_mem _ hother) hthere) hpresent) hrest
      refine ⟨hlater.1, fun hfiring other hother => ?_⟩
      rcases List.mem_cons.mp hother with rfl | hother
      · have hkept := Write.alerts_kept (w := .createDeliveries alertId event expiresAt rest) hrest
          hpresent
        have hsteps := Write.background (w := .createDeliveries alertId event expiresAt rest)
          hstep.1.issued hrest
        exact hsteps.evolves.hasFiring_of_present (hstep.2 hfiring) hkept
      · exact hlater.2 hfiring other hother

def Wrote (ws : List Write) (alertId templateId : String) : Prop :=
  ∃ expiresAt channels, .createDeliveries alertId .firing expiresAt channels ∈ ws ∧
    ∃ id, (id, templateId) ∈ channels

/-- Where the writes can be committed, there will be a firing delivery. -/
def Backed (ws : List Write) (alertId templateId : String) (s : MonitoringState) : Prop :=
  HasFiring alertId templateId s ∨ Gone alertId s ∨ Wrote ws alertId templateId

/-- The writes of a transaction that may be committed, as far as the state `s` shows. -/
inductive Accounted (crypto : Crypto) (s : MonitoringState) : List Write → Prop
  | nil : Accounted crypto s []
  | createAlert {ws id alert} (h : Accounted crypto s ws) (hkey : HasKey crypto alert) :
      Accounted crypto s (ws ++ [.createAlert id alert])
  | resolveAlert {ws id resolvedAt} (h : Accounted crypto s ws) :
      Accounted crypto s (ws ++ [.resolveAlert id resolvedAt])
  | createDeliveries {ws alertId event expiresAt channels} (h : Accounted crypto s ws)
      (hbacked : event = .resolved → ∀ channel ∈ channels, Backed ws alertId channel.2 s) :
      Accounted crypto s (ws ++ [.createDeliveries alertId event expiresAt channels])

theorem createAlert_inv {id : String} {alert : MonitoringAlert} (hs : IngestionInv crypto s)
    (hkey : HasKey crypto alert) (h : (Write.createAlert id alert).apply s = .ok t) :
    IngestionInv crypto t := by
  have hback := Write.background hs.issued h
  have hkept := fun k => @Write.alerts_kept _ _ _ h k
  obtain ⟨hfresh, hnew, rfl⟩ := createAlert_cases h
  have hlookup : ∀ k row, (AList.insert id alert s.alerts).lookup k = some row →
      (k = id ∧ row = alert) ∨ s.alerts.lookup k = some row := by
    intro k row hrow
    rw [Table.lookup_insert] at hrow
    split at hrow
    · exact .inl ⟨‹_›, (Option.some.inj hrow).symm⟩
    · exact .inr hrow
  refine ⟨hback.wellIssued, ?_, ?_, hs.unique, fun k row hrow => hkept _ (hs.owned k row hrow),
    hs.fired⟩
  · intro k k' a a' key ha ha' hakey hakey'
    rcases hlookup k a ha with ⟨rfl, rfl⟩ | hold
    · rcases hlookup k' a' ha' with ⟨rfl, -⟩ | hold'
      · rfl
      · exact absurd hakey (hnew k' a' key hold' hakey')
    · rcases hlookup k' a' ha' with ⟨rfl, rfl⟩ | hold'
      · exact absurd hakey' (hnew k a key hold hakey)
      · exact hs.keys k k' a a' key hold hold' hakey hakey'
  · intro k row hrow
    rcases hlookup k row hrow with ⟨-, rfl⟩ | hold
    · exact hkey
    · exact hs.keyed k row hold

namespace Accounted

variable {ws : List Write}

theorem stable (h : Accounted crypto s ws) (hmove : Evolves s t) : Accounted crypto t ws := by
  induction h with
  | nil => exact .nil
  | createAlert _ hkey ih => exact .createAlert ih hkey
  | resolveAlert _ ih => exact .resolveAlert ih
  | createDeliveries _ hbacked ih =>
      refine .createDeliveries ih fun hresolved channel hchannel => ?_
      rcases hbacked hresolved channel hchannel with hfiring | hgone | hwrote
      · exact (hmove.hasFiring hfiring).imp_right .inl
      · exact .inr (.inl (hmove.gone _ hgone))
      · exact .inr (.inr hwrote)

theorem committed (h : Accounted crypto s ws) (hs : IngestionInv crypto s)
    (ht : applyAll Write.apply ws s = .ok t) :
    IngestionInv crypto t ∧ Evolves s t ∧
      ∀ alertId templateId, Wrote ws alertId templateId → HasFiring alertId templateId t := by
  induction h generalizing t with
  | nil =>
      obtain rfl : s = t := Except.ok.inj ht
      refine ⟨hs, .refl s, ?_⟩
      rintro alertId templateId ⟨expiresAt, channels, hmem, -⟩
      cases hmem
  | @createAlert ws id alert _ hkey ih =>
      obtain ⟨u, hu, hlast⟩ := applyAll_concat_eq_ok ht
      obtain ⟨hinv, hmove, hwrote⟩ := ih hu
      have hlater := (Write.background hinv.issued hlast).evolves
      refine ⟨createAlert_inv hinv hkey hlast, hmove.trans hlater, ?_⟩
      rintro alertId templateId ⟨expiresAt, channels, hmem, hid⟩
      have hfiring := hwrote alertId templateId ⟨expiresAt, channels, by simpa using hmem, hid⟩
      exact hlater.hasFiring_of_present hfiring (Write.alerts_kept hlast (hfiring.present hinv))
  | @resolveAlert ws id resolvedAt _ ih =>
      obtain ⟨u, hu, hlast⟩ := applyAll_concat_eq_ok ht
      obtain ⟨hinv, hmove, hwrote⟩ := ih hu
      have hlater := (Write.background hinv.issued hlast).evolves
      obtain ⟨-, hupdate⟩ := resolveAlert_cases hlast
      refine ⟨(guar_of_update hupdate (fun _ => rfl) (fun _ => ⟨rfl, rfl, rfl⟩) hinv).1,
        hmove.trans hlater, ?_⟩
      rintro alertId templateId ⟨expiresAt, channels, hmem, hid⟩
      have hfiring := hwrote alertId templateId ⟨expiresAt, channels, by simpa using hmem, hid⟩
      exact hlater.hasFiring_of_present hfiring (Write.alerts_kept hlast (hfiring.present hinv))
  | @createDeliveries ws a event expiresAt channels _ hbacked ih =>
      obtain ⟨u, hu, hlast⟩ := applyAll_concat_eq_ok ht
      obtain ⟨hinv, hmove, hwrote⟩ := ih hu
      have hlater := (Write.background hinv.issued hlast).evolves
      have hrows := createDeliveries_inv hinv (fun hresolved channel hchannel hthere => ?_) hlast
      · refine ⟨hrows.1, hmove.trans hlater, ?_⟩
        rintro alertId templateId ⟨expiresAt', channels', hmem, id, hid⟩
        rcases List.mem_append.mp hmem with hold | hnew
        · have hfiring := hwrote alertId templateId ⟨expiresAt', channels', hold, id, hid⟩
          exact hlater.hasFiring_of_present hfiring
            (Write.alerts_kept hlast (hfiring.present hinv))
        · obtain ⟨rfl, rfl, rfl, rfl⟩ : alertId = a ∧ AlertStatus.firing = event ∧
              expiresAt' = expiresAt ∧ channels' = channels := by simpa using hnew
          exact hrows.2 rfl _ hid
      · rcases hbacked hresolved channel hchannel with hfiring | hgone | hwritten
        · exact hmove.hasFiring_of_present hfiring hthere
        · obtain ⟨alert, halert⟩ := hthere
          rw [(hmove.gone _ hgone).2] at halert
          cases halert
        · exact hwrote _ _ hwritten

end Accounted

/-- The other way round: a firing delivery that the transaction sees was there, or the
transaction created it. -/
theorem hasFiring_applyAll {ws : List Write} {alertId templateId : String}
    (ht : applyAll Write.apply ws s = .ok t) (h : HasFiring alertId templateId t) :
    HasFiring alertId templateId s ∨ Wrote ws alertId templateId := by
  induction ws generalizing s with
  | nil =>
      obtain rfl : s = t := Except.ok.inj ht
      exact .inl h
  | cons w ws ih =>
      obtain ⟨u, hu, hrest⟩ := exists_of_bind_eq_ok ht
      have hmore : Wrote ws alertId templateId → Wrote (w :: ws) alertId templateId :=
        fun ⟨expiresAt, channels, hmem, hid⟩ =>
          ⟨expiresAt, channels, List.mem_cons_of_mem _ hmem, hid⟩
      rcases ih hrest with hfiring | hwrote
      · cases w with
        | createAlert id alert =>
            obtain ⟨-, -, rfl⟩ := createAlert_cases hu
            exact .inl hfiring
        | resolveAlert id resolvedAt =>
            obtain ⟨-, rfl⟩ := resolveAlert_cases hu
            exact .inl hfiring
        | createDeliveries a event expiresAt channels =>
            have hrows : HasFiring alertId templateId s ∨
                (alertId = a ∧ event = .firing ∧ ∃ id, (id, templateId) ∈ channels) := by
              refine applyAll_induction (p := fun v => HasFiring alertId templateId v →
                HasFiring alertId templateId s ∨ (alertId = a ∧ event = .firing ∧
                  ∃ id, (id, templateId) ∈ channels)) (fun channel hchannel v v' hv hv' => ?_)
                .inl hu hfiring
              rintro ⟨id, row, hrow, ha, hc, he⟩
              obtain ⟨-, ⟨rfl, -⟩ | ⟨-, -, rfl⟩⟩ := insertDelivery_cases hv'
              · exact hv ⟨id, row, hrow, ha, hc, he⟩
              · rw [Table.lookup_insert] at hrow
                split at hrow
                · obtain rfl := Option.some.inj hrow
                  exact .inr ⟨ha.symm, he, channel.1, hc ▸ hchannel⟩
                · exact hv ⟨id, row, hrow, ha, hc, he⟩
            rcases hrows with hold | ⟨rfl, rfl, id, hid⟩
            · exact .inl hold
            · exact .inr ⟨expiresAt, channels, List.mem_cons_self, id, hid⟩
      · exact .inr (hmore hwrote)

/-! ## The transaction -/

section Ingest

variable (crypto : Crypto)

/-- Everything is in order, and the transaction's writes are accounted for. -/
def Ready (ws : List Write) (s : MonitoringState) : Prop :=
  IngestionInv crypto s ∧ Accounted crypto s ws

theorem ready_stable (ws : List Write) :
    Stable (ingestionProtocol crypto).contract (Ready crypto ws) :=
  fun _ _ h hmove => ⟨(hmove.2 h.1).1, h.2.stable (hmove.2 h.1).2⟩

abbrev KeepsAccount {α : Type} (body : IngestTx α) : Prop :=
  ∀ ws, Returns (ingestionProtocol crypto).contract (Ready crypto ws) (body ws)
    fun r s => Ready crypto r.2 s

namespace KeepsAccount

variable {crypto}

theorem pure {α : Type} (a : α) : KeepsAccount crypto (Pure.pure a : IngestTx α) :=
  fun ws => .done (ready_stable crypto ws) fun _ h => h

theorem bind {α β : Type} {body : IngestTx α} {k : α → IngestTx β}
    (hbody : KeepsAccount crypto body) (hk : ∀ a, KeepsAccount crypto (k a)) :
    KeepsAccount crypto (body >>= k) :=
  fun ws => Tx.returns_bind (hbody ws) fun a vs => hk a vs

theorem read {α : Type} (q : MonitoringState → α) : KeepsAccount crypto (Tx.read Write.apply q) :=
  fun ws => Tx.returns_read (ready_stable crypto ws) (fun _ _ h _ => h)
    fun r => ready_stable crypto r.2

theorem ensure (c : Prop) [Decidable c] (e : Exception) :
    KeepsAccount crypto (Tx.ensure c e : IngestTx Unit) :=
  fun ws => (Tx.returns_ensure (ready_stable crypto ws) c e).conseq (fun _ h => h)
    fun _ _ h => h.1 ▸ h.2

theorem write {w : Write} (hw : ∀ ws s, Accounted crypto s ws → Accounted crypto s (ws ++ [w])) :
    KeepsAccount crypto (Tx.write Write.apply w) :=
  fun ws => (Tx.returns_write (ready_stable crypto ws) w).conseq (fun _ h => h)
    fun _ s h => h.1 ▸ ⟨h.2.1, hw ws s h.2.2⟩

end KeepsAccount

theorem keeps_authenticateTx (clusterId : String) (authorization : Option String) :
    KeepsAccount crypto
      (AlertReceiverService.authenticateTx crypto clusterId authorization) :=
  .bind (.ensure _ _) fun _ => .bind (.read _) fun _ => .bind (.ensure _ _) fun _ =>
    .bind (.read _) fun _ => .ensure _ _

theorem keeps_storeAlert (id clusterId : String) (event : AlertmanagerEvent)
    (existing : Option (String × MonitoringAlert)) :
    KeepsAccount crypto (AlertIngestionService.storeAlert id
      (occurrenceKey crypto clusterId event.fingerprint event.startsAt) clusterId event existing) := by
  cases existing with
  | none =>
      exact .bind (.write fun ws s h => .createAlert h ⟨clusterId, event.fingerprint, rfl, rfl⟩)
        fun _ => .pure _
  | some known => exact .bind (.write fun ws s h => .resolveAlert h) fun _ => .pure _

theorem hasFiring_of_channels {clusterId alertId templateId : String}
    (h : templateId ∈ AlertIngestionService.channels clusterId alertId .resolved s) :
    HasFiring alertId templateId s := by
  obtain ⟨r, hr, rfl⟩ := List.mem_map.mp h
  obtain ⟨hentry, hkey⟩ := List.mem_filter.mp hr
  simp only [Bool.and_eq_true, beq_iff_eq] at hkey
  exact ⟨r.1, r.2, Table.mem_entries_iff.mp hentry, hkey.1, rfl, hkey.2⟩

theorem keeps_createDeliveries (cuid : Nat → String) (clusterId alertId : String)
    (event : AlertStatus) :
    KeepsAccount crypto
      (AlertIngestionService.createDeliveries cuid clusterId alertId event) := by
  intro ws
  -- What was read about firing deliveries is kept until the write is on the account.
  let found : List String → MonitoringState → Prop := fun templates s =>
    Ready crypto ws s ∧ (event = .resolved → ∀ c ∈ templates, Backed ws alertId c s)
  have hfound : ∀ templates, Stable (ingestionProtocol crypto).contract (found templates) := by
    intro templates s t h hmove
    refine ⟨ready_stable crypto ws s t h.1 hmove, fun hresolved c hc => ?_⟩
    have hevolves := (hmove.2 h.1.1).2
    rcases h.2 hresolved c hc with hfiring | hgone | hwrote
    · exact (hevolves.hasFiring hfiring).imp_right .inl
    · exact .inr (.inl (hevolves.gone _ hgone))
    · exact .inr (.inr hwrote)
  refine @Tx.returns_bind _ _ _ _ _ _ _ _ _ _ (fun r s => r.2 = ws ∧ found r.1 s) _
    (Tx.returns_read (ready_stable crypto ws) (fun s t h ht => ?_) fun r s t h hmove => ?_)
    fun templates vs => ?_
  · refine ⟨rfl, h, fun hresolved c hc => ?_⟩
    subst hresolved
    have hseen : HasFiring alertId c t := @hasFiring_of_channels t clusterId alertId c hc
    rcases hasFiring_applyAll ht hseen with hfiring | hwrote
    · exact .inl hfiring
    · exact .inr (.inr hwrote)
  · exact ⟨h.1, hfound _ s t h.2 hmove⟩
  · intro s hs
    obtain ⟨rfl, hs⟩ := hs
    dsimp only
    split
    · exact (KeepsAccount.pure () vs).guards hs.1
    · refine (@Tx.returns_bind _ _ _ _ _ _ _ _ _ _ (fun r s => r.2 = vs ∧ found templates s) _
        (Tx.returns_read (hfound templates) (fun s t h ht => ⟨rfl, h⟩)
          fun r s t h hmove => ⟨h.1, hfound _ s t h.2 hmove⟩) fun now us => ?_).guards hs
      intro s hs
      obtain ⟨rfl, hs⟩ := hs
      refine ((Tx.returns_write (hfound templates) _).conseq (fun _ h => h)
        fun _ s h => h.1 ▸ ⟨h.2.1.1, .createDeliveries h.2.1.2 fun hresolved channel hchannel => ?_⟩).guards
        hs
      obtain ⟨i, hi, rfl⟩ := List.mem_mapIdx.mp hchannel
      exact h.2.2 hresolved _ (List.getElem_mem hi)

theorem keeps_ingestEvent (cuid : Nat → String) (clusterId : String) (event : AlertmanagerEvent) :
    KeepsAccount crypto (AlertIngestionService.ingestEvent crypto cuid clusterId event) := by
  refine .bind (.read _) fun existing => ?_
  split
  · exact .pure _
  · refine .bind (keeps_storeAlert crypto _ _ _ _) fun alertId => ?_
    split
    · exact .pure _
    · exact .bind (keeps_createDeliveries crypto _ _ _ _) fun _ => .pure _

theorem keeps_ingestEvents (cuid : Nat → Nat → String) (clusterId : String)
    (events : List AlertmanagerEvent) (changed : Nat) :
    KeepsAccount crypto
      (AlertIngestionService.ingestEvents crypto cuid clusterId events changed) := by
  induction events generalizing changed with
  | nil => exact .pure _
  | cons event rest ih => exact .bind (keeps_ingestEvent crypto _ _ _) fun _ => ih _

theorem guards_ingest (cuid : Nat → Nat → String) (clusterId : String)
    (authorization : Option String) (body : Js) (hs : IngestionInv crypto s) :
    Guards (ingestionProtocol crypto).contract (fun _ _ => True)
      (AlertIngestionService.ingest crypto cuid clusterId authorization body) s := by
  have hstable : Stable (ingestionProtocol crypto).contract (IngestionInv crypto) :=
    fun _ _ h hmove => (hmove.2 h).1
  have hreturns : Returns (ingestionProtocol crypto).contract (IngestionInv crypto)
      (AlertIngestionService.ingest crypto cuid clusterId authorization body)
      fun _ _ => True := by
    have hauth := (obeys_authenticate (P := ingestionProtocol crypto) crypto clusterId
      authorization).triple (C := (ingestionProtocol crypto).contract) (p := IngestionInv crypto)
      (fun _ _ _ h => h) hstable (fun _ h => h) fun _ _ h hmove => (hmove h).1
    refine .bind (S := fun _ => IngestionInv crypto) (hauth.conseq (fun _ h => h)
      fun _ _ h _ _ => h) fun _ => .ofExcept_bind hstable fun events _ => ?_
    refine Tx.returns_commit (J := Ready crypto) ?_ (ready_stable crypto) ?_ fun _ => .true
    · refine Returns.conseq (KeepsAccount.bind (keeps_authenticateTx crypto clusterId authorization)
        (fun _ => .bind (keeps_ingestEvents crypto cuid clusterId events 0) fun _ => .pure _) [])
        (fun _ h => ⟨h, .nil⟩) fun _ _ h => h
    · intro ws a u v hu _ hv
      have hcommitted := hu.2.committed hu.1 hv
      exact ⟨fun _ => ⟨hcommitted.1, hcommitted.2.1⟩, trivial⟩
  exact (hreturns.guards hs).mono fun _ _ _ => trivial

end Ingest

theorem monitoringHandler_guards (h : MonitoringHandler Unit) (s : MonitoringState)
    (hh : isMonitoringHandler crypto h) (hs : IngestionInv crypto s) :
    Guards (ingestionProtocol crypto).contract (fun _ _ => True) h s := by
  have hdiscard : ∀ {α : Type} (g : MonitoringHandler α),
      Guards (ingestionProtocol crypto).contract (fun _ _ => True) g s →
      Guards (ingestionProtocol crypto).contract (fun _ _ => True) (discard g) s :=
    fun g hg => hg.bind (k := fun _ => .done ())
      (fun _ _ _ => Guards.done_iff.mpr fun _ _ => trivial) fun _ _ _ => trivial
  rcases hh with ⟨outcomes, clusterId, rfl⟩ | ⟨cuid, clusterId, authorization, body, rfl⟩
  · exact hdiscard _ ((obeys_runOnce outcomes clusterId).guards hs)
  · exact hdiscard _ (guards_ingest crypto cuid clusterId authorization body hs)

theorem blank_ingestionInv : IngestionInv crypto .blank where
  issued := blank_inv.issued
  keys _ _ _ _ _ h := nomatch h
  keyed _ _ h := nomatch h
  unique _ _ _ _ h := nomatch h
  owned _ _ h := nomatch h
  fired _ _ h := nomatch h

section Runs

variable {c c' : Pool Exception MonitoringState Unit}

theorem ingestion_safe (hc : Reach (isMonitoringHandler crypto) Outside .blank c) :
    (ingestionProtocol crypto).Safe (fun _ _ => True) c :=
  (Protocol.reachable monitoringHandler_guards (fun _ _ _ h => guar_of_outside h)
    blank_ingestionInv hc).1

theorem alerts_evolve (hc : (ingestionProtocol crypto).Safe (fun _ _ => True) c)
    (hrun : ReflTransGen (Step (isMonitoringHandler crypto) Outside) c c') :
    Evolves c.shared c'.shared := by
  induction hrun with
  | refl => exact .refl _
  | @tail d d' hprefix hstep ih =>
      have hd := (Protocol.safe_run monitoringHandler_guards (fun _ _ _ h => guar_of_outside h) hc
        hprefix).1
      have hmove := Protocol.safe_step monitoringHandler_guards
        (fun _ _ _ h => guar_of_outside h) hd hstep
      exact ih.trans (hmove.2 hd.inv).2

end Runs

theorem ingest_concludes (cuid : Nat → Nat → String) (clusterId : String)
    (authorization : Option String) (body : Js) :
    Concludes (· = ·) (fun _ _ _ => True)
      (AlertIngestionService.ingest crypto cuid clusterId authorization body) := by
  let unchanged : Protocol MonitoringState :=
    ⟨fun _ => True, (· = ·), fun _ => rfl, fun _ _ => trivial⟩
  have hquiet : ∀ {α : Type} {h : MonitoringHandler α}, Obeys unchanged h →
      Quietly (· = ·) (fun _ => True) h :=
    fun h => .of_obeys h (fun _ => trivial) fun _ _ h => h
  refine .bind (hquiet (obeys_authenticate crypto _ _)) (fun _ _ => ?_) fun _ _ => ?_
  · cases parseAlertmanagerInput body with
    | ok events => exact Tx.isRunning_commit _ _
    | error e => rfl
  cases parseAlertmanagerInput body with
  | error e => exact .fail e
  | ok events =>
      exact Tx.concludes_commit (fun _ => rfl) (hquiet (obeys_ingest_body crypto _ _ _ _ _))
        fun _ _ _ _ _ _ => trivial

theorem obeys_invalid_ingest {P : Protocol MonitoringState} (cuid : Nat → Nat → String)
    (clusterId : String) (authorization : Option String) {body : Js} {e : Exception}
    (hbody : parseAlertmanagerInput body = .error e) :
    Obeys P (AlertIngestionService.ingest crypto cuid clusterId authorization body) := by
  refine .bind (obeys_authenticate crypto _ _) fun _ => ?_
  rw [hbody]
  exact .fail e

/-- Whatever batches arrive, in any order, repeated and at the same time, with workers
and the platform in between: an alert has one row for its cluster, fingerprint and
beginning; its status only goes from firing to resolved; a notification has one
delivery; a resolved delivery stands beside a firing one; and a batch writes with its
last statement or not at all, not at all when it is invalid. -/
theorem alerts_ingested {c : Pool Exception MonitoringState Unit}
    (hc : Reach (isMonitoringHandler crypto) Outside .blank c) :
    ((∀ id alert, c.shared.alerts.lookup id = some alert → HasKey crypto alert) ∧
      ∀ id id' alert alert' clusterId fingerprint startsAt,
        c.shared.alerts.lookup id = some alert → c.shared.alerts.lookup id' = some alert' →
        alert.occurrenceKey = some (occurrenceKey crypto clusterId fingerprint startsAt) →
        alert'.occurrenceKey = some (occurrenceKey crypto clusterId fingerprint startsAt) →
        id = id') ∧
    (∀ c', ReflTransGen (Step (isMonitoringHandler crypto) Outside) c c' → ∀ id alert alert',
      c.shared.alerts.lookup id = some alert → c'.shared.alerts.lookup id = some alert' →
      alert'.status = alert.status ∨ (alert.status = .firing ∧ alert'.status = .resolved)) ∧
    (∀ id id' row row', c.shared.deliveries.lookup id = some row →
      c.shared.deliveries.lookup id' = some row' → row'.alertId = row.alertId →
      row'.templateId = row.templateId → row'.event = row.event → id = id') ∧
    (∀ id row, c.shared.deliveries.lookup id = some row → row.event = .resolved →
      HasFiring row.alertId row.templateId c.shared) ∧
    ∀ (C : Contract MonitoringState) (cuid : Nat → Nat → String) (clusterId : String)
      (authorization : Option String) (body : Js) (s t : MonitoringState)
      (u : MonitoringState → MonitoringState)
      (n : MonitoringState → MonitoringHandler AlertIngestionService.Ingested),
      Executes C (AlertIngestionService.ingest crypto cuid clusterId authorization body) s
        (.stmt u n) t →
      (t = u t ∨ ∃ answer, n t = .done answer) ∧
        ∀ e, parseAlertmanagerInput body = .error e → t = u t := by
  have hsafe := ingestion_safe hc
  refine ⟨⟨hsafe.inv.keyed, fun id id' alert alert' clusterId fingerprint startsAt h h' hkey hkey' =>
    hsafe.inv.keys id id' alert alert' _ h h' hkey hkey'⟩, ?_,
    fun id id' row row' h h' ha ht he => hsafe.inv.unique id id' row row' h h' ⟨ha, ht, he⟩,
    hsafe.inv.fired, ?_⟩
  · intro c' hrun id alert alert' halert halert'
    rcases (alerts_evolve hsafe hrun).alerts id alert halert with hgone | ⟨other, hother, hresolved⟩
    · rw [hgone.2] at halert'
      cases halert'
    · rw [hother] at halert'
      obtain rfl := Option.some.inj halert'
      cases hold : alert.status with
      | resolved => exact .inl (hresolved hold)
      | firing =>
          cases hnew : other.status with
          | firing => exact .inl rfl
          | resolved => exact .inr ⟨rfl, rfl⟩
  · intro C cuid clusterId authorization body s t u n hrun
    refine ⟨((ingest_concludes cuid clusterId authorization body).executes hrun).imp_right
      fun ⟨answer, hdone, _⟩ => ⟨answer, hdone⟩, fun e hbody => ?_⟩
    have hquiet := @obeys_invalid_ingest crypto
      ⟨fun _ => True, (· = ·), fun _ => rfl, fun _ _ => trivial⟩ cuid clusterId authorization body e
      hbody
    cases hquiet.executes (fun _ => trivial) hrun with
    | stmt hstep _ => exact hstep t trivial

/-- The batch of the example has left one alert and one delivery for it. -/
theorem takenOver_ingested : (∀ id row, takenOverPool.shared.deliveries.lookup id = some row →
      row.event = .resolved → HasFiring row.alertId row.templateId takenOverPool.shared) ∧
    (takenOverPool.shared.alerts.lookup "a1").map (·.status) = some .firing ∧
    takenOverPool.shared.deliveries.keys = ["d1"] :=
  ⟨(alerts_ingested takenOverPool_reachable).2.2.2.1, by decide +kernel, by decide +kernel⟩

end KubeNova.Monitoring
