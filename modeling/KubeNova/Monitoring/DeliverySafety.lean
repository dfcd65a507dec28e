import KubeNova.Foundation.Tokens
import KubeNova.Monitoring.Background

/-!
# The delivery protocol

Every lease of a delivery is a token that its worker spends with the one record it
makes.  The number of attempts is ahead of every lease that is not the newest one,
unless that lease was given back (`DeliveryInv.ahead`), so a guard on it lets only the
newest lease through.
-/

namespace KubeNova.Monitoring

open KubeNova.Common KubeNova.Foundation Relation TokenProtocol

/-! ## The log -/

namespace DeliveryEvent

def ticket : DeliveryEvent → Nat
  | leased _ ticket _ => ticket
  | finished _ ticket => ticket
  | returned _ ticket => ticket
  | sent _ ticket _ _ _ _ => ticket

def ends (t : Nat) : DeliveryEvent → Bool
  | finished _ ticket => ticket == t
  | returned _ ticket => ticket == t
  | _ => false

def leaseTicket : DeliveryEvent → Option Nat
  | leased _ ticket _ => some ticket
  | _ => none

def sentTicket : DeliveryEvent → Option Nat
  | sent _ ticket _ _ _ _ => some ticket
  | _ => none

def sentAttempt (id : String) : DeliveryEvent → Option Nat
  | sent k _ attempts _ _ _ => if k = id then some attempts else none
  | _ => none

theorem ticket_of_ends {t : Nat} {e : DeliveryEvent} (h : e.ends t = true) : e.ticket = t := by
  cases e <;> simp_all [ends, ticket]

end DeliveryEvent

open DeliveryEvent

def newestLease (id : String) : List DeliveryEvent → Option Nat
  | [] => none
  | .leased k ticket _ :: rest => if k = id then some ticket else newestLease id rest
  | .finished _ _ :: rest => newestLease id rest
  | .returned _ _ :: rest => newestLease id rest
  | .sent _ _ _ _ _ _ :: rest => newestLease id rest

def Unspent (ticket : Nat) (log : List DeliveryEvent) : Prop := ∀ e ∈ log, e.ends ticket = false

/-- The delivery was leased again after its attempt number `n`, or is free for that. -/
def Ahead (row : NotificationDelivery) (n : Nat) : Prop :=
  (row.status = .pending → n ≤ row.attempts) ∧ (row.status = .sending → n < row.attempts)

def FiringSent (alertId templateId : String) (s : MonitoringState) : Prop :=
  ∃ id row, s.deliveries.lookup id = some row ∧ row.alertId = alertId ∧
    row.templateId = templateId ∧ row.event = .firing ∧ row.status = .sent

structure Writes (id : String) (row : NotificationDelivery) (event : DeliveryEvent)
    (s t : MonitoringState) : Prop where
  deliveries : ∀ k, t.deliveries.lookup k = if k = id then some row else s.deliveries.lookup k
  log : t.log = event :: s.log
  alerts : t.alerts = s.alerts
  issued : t.issued = s.issued

structure SameNotification (row row' : NotificationDelivery) : Prop where
  alertId : row'.alertId = row.alertId
  templateId : row'.templateId = row.templateId
  event : row'.event = row.event

/-- What one step does, for a worker that holds the first ticket and holds the second one
afterwards. -/
inductive DeliveryStep : Option Nat → MonitoringState → MonitoringState → Option Nat → Prop
  | background {a s t} (hlog : t.log = s.log) (h : Issued s → Background s t) :
      DeliveryStep a s t a
  | lease {s t id row row'} (hrow : s.deliveries.lookup id = some row)
      (hstatus : row.status.isTerminal = false) (hfresh : ∀ e ∈ s.log, e.ticket ≠ s.log.length)
      (ht : Writes id row' (.leased id s.log.length row'.attempts) s t)
      (hsame : SameNotification row row') (hsending : row'.status = .sending)
      (hattempts : row'.attempts = row.attempts + 1) : DeliveryStep none s t (some s.log.length)
  | finish {s t id ticket n row row'} (hleased : .leased id ticket n ∈ s.log)
      (hrow : s.deliveries.lookup id = some row) (hsending : row.status = .sending)
      (hattempts : row.attempts = n) (ht : Writes id row' (.finished id ticket) s t)
      (hsame : SameNotification row row') (hstatus : row'.status ≠ .sending)
      (hkept : row'.attempts = n) : DeliveryStep (some ticket) s t none
  | giveBack {s t id ticket n row row'} (hleased : .leased id ticket n ∈ s.log)
      (hrow : s.deliveries.lookup id = some row) (hsending : row.status = .sending)
      (hattempts : row.attempts = n) (ht : Writes id row' (.returned id ticket) s t)
      (hsame : SameNotification row row') (hpending : row'.status = .pending)
      (hback : row'.attempts = n - 1) (hunsent : ∀ e ∈ s.log, e.sentTicket ≠ some ticket) :
      DeliveryStep (some ticket) s t none
  | send {s t id ticket n alertId templateId event} (hleased : .leased id ticket n ∈ s.log)
      (hfive : n ≤ 5) (hunsent : ∀ e ∈ s.log, e.sentTicket ≠ some ticket)
      (hfiring : event = .resolved → FiringSent alertId templateId s ∨ Gone alertId s)
      (ht : t = { s with log := .sent id ticket n alertId templateId event :: s.log }) :
      DeliveryStep (some ticket) s t (some ticket)

theorem DeliveryStep.rows {a b : Option Nat} {s t : MonitoringState} (h : DeliveryStep a s t b) :
    (Issued s → Background s t) ∨
      (∃ id row row' event, s.deliveries.lookup id = some row ∧ row.status.isTerminal = false ∧
        SameNotification row row' ∧ Writes id row' event s t) ∨
      ∃ event, t = { s with log := event :: s.log } := by
  cases h with
  | background _ h => exact .inl h
  | lease hrow hstatus _ ht hsame _ _ => exact .inr (.inl ⟨_, _, _, _, hrow, hstatus, hsame, ht⟩)
  | finish _ hrow hsending _ ht hsame _ _ =>
      exact .inr (.inl ⟨_, _, _, _, hrow, by rw [hsending]; rfl, hsame, ht⟩)
  | giveBack _ hrow hsending _ ht hsame _ _ _ =>
      exact .inr (.inl ⟨_, _, _, _, hrow, by rw [hsending]; rfl, hsame, ht⟩)
  | send _ _ _ _ ht => exact .inr (.inr ⟨_, ht⟩)

structure DeliveryInv (s : MonitoringState) : Prop where
  issued : Issued s
  leases : ∀ id ticket n, .leased id ticket n ∈ s.log → id ∈ s.issued ∧ 1 ≤ n
  tickets : ∀ e ∈ s.log, e.ticket < s.log.length
  leaseOnce : (s.log.filterMap leaseTicket).Nodup
  /-- A lease that was not given back is the newest one of its row, or the row is ahead of it. -/
  ahead : ∀ id ticket n row, .leased id ticket n ∈ s.log → (∀ k, .returned k ticket ∉ s.log) →
    s.deliveries.lookup id = some row →
    (newestLease id s.log = some ticket ∧ row.attempts = n ∧
      (Unspent ticket s.log → row.status = .sending)) ∨
    (newestLease id s.log ≠ some ticket ∧ Ahead row n)
  distinct : ∀ id ticket ticket' n, .leased id ticket n ∈ s.log → .leased id ticket' n ∈ s.log →
    ticket = ticket' ∨ ∃ k, .returned k ticket ∈ s.log ∨ .returned k ticket' ∈ s.log
  sent : ∀ id ticket n alertId templateId event,
    .sent id ticket n alertId templateId event ∈ s.log →
    .leased id ticket n ∈ s.log ∧ n ≤ 5 ∧ ∀ k, .returned k ticket ∉ s.log
  sentOnce : (s.log.filterMap sentTicket).Nodup

section Invariant

variable {s t : MonitoringState}

theorem not_returned_of_unspent {ticket : Nat} {log : List DeliveryEvent}
    (h : Unspent ticket log) (k : String) : .returned k ticket ∉ log := by
  intro hmem
  have hends := h _ hmem
  simp [ends] at hends

theorem newest_of_guard (hs : DeliveryInv s) {id : String} {ticket n : Nat}
    {row : NotificationDelivery} (hleased : .leased id ticket n ∈ s.log)
    (hunspent : Unspent ticket s.log) (hrow : s.deliveries.lookup id = some row)
    (hsending : row.status = .sending) (hattempts : row.attempts = n) :
    newestLease id s.log = some ticket := by
  rcases hs.ahead id ticket n row hleased (not_returned_of_unspent hunspent) hrow with
    ⟨hnewest, -, -⟩ | ⟨-, hahead⟩
  · exact hnewest
  · have hlt := hahead.2 hsending
    omega

theorem Background.inv (hs : DeliveryInv s) (h : Background s t) : DeliveryInv t where
  issued := h.wellIssued
  leases id ticket n hleased := by
    rw [h.log] at hleased
    exact (hs.leases id ticket n hleased).imp_left fun hid => h.issued hid
  tickets := by
    rw [h.log]
    exact hs.tickets
  leaseOnce := by
    rw [h.log]
    exact hs.leaseOnce
  ahead id ticket n row hleased hkept hrow := by
    rw [h.log] at hleased hkept ⊢
    rcases h.deliveries id with hsame | ⟨hnone, -⟩ | ⟨hnew, -⟩
    · exact hs.ahead id ticket n row hleased hkept (hsame ▸ hrow)
    · rw [hnone] at hrow
      cases hrow
    · exact absurd (hs.leases id ticket n hleased).1 hnew
  distinct := by
    rw [h.log]
    exact hs.distinct
  sent := by
    rw [h.log]
    exact hs.sent
  sentOnce := by
    rw [h.log]
    exact hs.sentOnce

theorem Writes.issued_inv {id : String} {row row' : NotificationDelivery} {event : DeliveryEvent}
    (hs : Issued s) (hrow : s.deliveries.lookup id = some row) (h : Writes id row' event s t) :
    Issued t where
  alerts k alert halert := by
    rw [h.alerts] at halert
    rw [h.issued]
    exact hs.alerts k alert halert
  deliveries k other hother := by
    rw [h.deliveries] at hother
    rw [h.issued]
    split at hother
    · subst k
      exact hs.deliveries id row hrow
    · exact hs.deliveries k other hother

theorem lease_inv (hs : DeliveryInv s) {id : String} {row row' : NotificationDelivery}
    (hrow : s.deliveries.lookup id = some row) (hstatus : row.status.isTerminal = false)
    (hsending : row'.status = .sending) (hattempts : row'.attempts = row.attempts + 1)
    (ht : Writes id row' (.leased id s.log.length row'.attempts) s t) : DeliveryInv t := by
  have hfresh : ∀ e ∈ s.log, e.ticket ≠ s.log.length := fun e he => (hs.tickets e he).ne
  have hbelow : ∀ ticket n, .leased id ticket n ∈ s.log → (∀ k, .returned k ticket ∉ s.log) →
      n < row'.attempts := by
    intro ticket n hleased hkept
    rcases hs.ahead id ticket n row hleased hkept hrow with ⟨-, hn, -⟩ | ⟨-, hahead⟩
    · omega
    · cases hrowStatus : row.status with
      | pending => have hle := hahead.1 hrowStatus; omega
      | sending => have hlt := hahead.2 hrowStatus; omega
      | sent => rw [hrowStatus] at hstatus; cases hstatus
      | failed => rw [hrowStatus] at hstatus; cases hstatus
      | expired => rw [hrowStatus] at hstatus; cases hstatus
      | cancelled => rw [hrowStatus] at hstatus; cases hstatus
  refine ⟨ht.issued_inv hs.issued hrow, ?_, ?_, ?_, ?_, ?_, ?_, ?_⟩
  · intro k ticket n hleased
    rw [ht.issued]
    rw [ht.log] at hleased
    rcases List.mem_cons.mp hleased with hnew | hold
    · cases hnew
      exact ⟨hs.issued.deliveries id row hrow, by omega⟩
    · exact hs.leases k ticket n hold
  · intro e he
    rw [ht.log] at he ⊢
    rcases List.mem_cons.mp he with rfl | hold
    · simp [ticket]
    · have hlt := hs.tickets e hold
      rw [List.length_cons]
      omega
  · rw [ht.log, List.filterMap_cons]
    refine List.nodup_cons.mpr ⟨fun hmem => ?_, hs.leaseOnce⟩
    obtain ⟨e, he, hticket⟩ := List.mem_filterMap.mp hmem
    cases e with
    | leased k k' n => exact hfresh _ he (Option.some.inj hticket)
    | finished => cases hticket
    | returned => cases hticket
    | sent => cases hticket
  · intro k ticket n other hleased hkept hother
    rw [ht.log] at hleased hkept ⊢
    rw [ht.deliveries] at hother
    by_cases hk : k = id
    · subst k
      rw [if_pos rfl] at hother
      obtain rfl := Option.some.inj hother
      rcases List.mem_cons.mp hleased with hnew | hold
      · cases hnew
        exact .inl ⟨by simp [newestLease], rfl, fun _ => hsending⟩
      · refine .inr ⟨?_, fun hpending => ?_, fun _ => ?_⟩
        · simp only [newestLease, if_true, ne_eq, Option.some.injEq]
          exact fun h => hfresh _ hold h.symm
        · rw [hsending] at hpending
          cases hpending
        · exact hbelow ticket n hold fun j hj => hkept j (List.mem_cons_of_mem _ hj)
    · rw [if_neg hk] at hother
      have hold : .leased k ticket n ∈ s.log := by
        rcases List.mem_cons.mp hleased with hnew | hold
        · cases hnew
          exact absurd rfl hk
        · exact hold
      have hnewest : newestLease k (.leased id s.log.length row'.attempts :: s.log) =
          newestLease k s.log := by
        simp [newestLease, Ne.symm hk]
      rw [hnewest]
      exact (hs.ahead k ticket n other hold (fun j hj => hkept j (List.mem_cons_of_mem _ hj))
        hother).imp_left fun ⟨hnew, hn, hsend⟩ =>
          ⟨hnew, hn, fun hunspent => hsend fun e he => hunspent e (List.mem_cons_of_mem _ he)⟩
  · intro k ticket ticket' n hleased hleased'
    rw [ht.log] at hleased hleased' ⊢
    have hpast : ∀ ticket n, .leased id ticket n ∈ s.log → n = row'.attempts →
        ∃ j, .returned j ticket ∈ s.log := by
      intro ticket n hold hn
      by_contra hnone
      have hlt := hbelow ticket n hold fun j hj => hnone ⟨j, hj⟩
      omega
    rcases List.mem_cons.mp hleased with hnew | hold <;>
      rcases List.mem_cons.mp hleased' with hnew' | hold'
    · cases hnew
      cases hnew'
      exact .inl rfl
    · cases hnew
      obtain ⟨j, hj⟩ := hpast ticket' _ hold' rfl
      exact .inr ⟨j, .inr (List.mem_cons_of_mem _ hj)⟩
    · cases hnew'
      obtain ⟨j, hj⟩ := hpast ticket _ hold rfl
      exact .inr ⟨j, .inl (List.mem_cons_of_mem _ hj)⟩
    · exact (hs.distinct k ticket ticket' n hold hold').imp_right fun ⟨j, hj⟩ =>
        ⟨j, hj.imp (List.mem_cons_of_mem _) (List.mem_cons_of_mem _)⟩
  · intro k ticket n alertId templateId event hsent
    rw [ht.log] at hsent ⊢
    rcases List.mem_cons.mp hsent with hnew | hold
    · cases hnew
    · obtain ⟨hleased, hfive, hkept⟩ := hs.sent k ticket n alertId templateId event hold
      refine ⟨List.mem_cons_of_mem _ hleased, hfive, fun j hj => ?_⟩
      rcases List.mem_cons.mp hj with hnew | hold
      · cases hnew
      · exact hkept j hold
  · rw [ht.log]
    exact hs.sentOnce

inductive Records (id : String) (ticket n : Nat) (row' : NotificationDelivery) :
    DeliveryEvent → List DeliveryEvent → Prop
  | finish {log} (hkept : row'.attempts = n) : Records id ticket n row' (.finished id ticket) log
  | giveBack {log} (hback : row'.attempts = n - 1)
      (hunsent : ∀ e ∈ log, e.sentTicket ≠ some ticket) :
      Records id ticket n row' (.returned id ticket) log

theorem record_inv (hs : DeliveryInv s) {id : String} {ticket n : Nat} {event : DeliveryEvent}
    {row row' : NotificationDelivery} (hleased : .leased id ticket n ∈ s.log)
    (hunspent : Unspent ticket s.log) (hrow : s.deliveries.lookup id = some row)
    (hsending : row.status = .sending) (hattempts : row.attempts = n)
    (hstatus : row'.status ≠ .sending) (hrecord : Records id ticket n row' event s.log)
    (ht : Writes id row' event s t) : DeliveryInv t := by
  have hnewest := newest_of_guard hs hleased hunspent hrow hsending hattempts
  have hticket : event.ticket = ticket ∧ event.ends ticket = true ∧ event.leaseTicket = none ∧
      event.sentTicket = none ∧ ∀ k, newestLease k (event :: s.log) = newestLease k s.log := by
    cases hrecord with
    | finish => exact ⟨rfl, by simp [ends], rfl, rfl, fun _ => rfl⟩
    | giveBack => exact ⟨rfl, by simp [ends], rfl, rfl, fun _ => rfl⟩
  obtain ⟨heventTicket, hends, hnotLease, hnotSent, hsameNewest⟩ := hticket
  have hold : ∀ k ticket' m, .leased k ticket' m ∈ event :: s.log → .leased k ticket' m ∈ s.log := by
    intro k ticket' m hmem
    rcases List.mem_cons.mp hmem with rfl | hold
    · cases hnotLease
    · exact hold
  refine ⟨ht.issued_inv hs.issued hrow, ?_, ?_, ?_, ?_, ?_, ?_, ?_⟩
  · intro k ticket' m hmem
    rw [ht.log] at hmem
    rw [ht.issued]
    exact hs.leases k ticket' m (hold k ticket' m hmem)
  · intro e he
    rw [ht.log] at he ⊢
    rw [List.length_cons]
    rcases List.mem_cons.mp he with rfl | hmem
    · have hlt := hs.tickets _ hleased
      rw [heventTicket]
      exact hlt.trans (Nat.lt_succ_self _)
    · exact (hs.tickets e hmem).trans (Nat.lt_succ_self _)
  · rw [ht.log, List.filterMap_cons, hnotLease]
    exact hs.leaseOnce
  · intro k ticket' m other hmem hkept hother
    rw [ht.log] at hmem hkept ⊢
    rw [ht.deliveries] at hother
    have hmem' := hold k ticket' m hmem
    have hkept' : ∀ j, .returned j ticket' ∉ s.log := fun j hj =>
      hkept j (List.mem_cons_of_mem _ hj)
    rw [hsameNewest]
    by_cases hk : k = id
    · subst k
      rw [if_pos rfl] at hother
      obtain rfl := Option.some.inj hother
      rcases hs.ahead id ticket' m row hmem' hkept' hrow with ⟨hnew, hm, -⟩ | ⟨hnot, hahead⟩
      · -- This is the lease that makes the record, so it is the newest one and spent.
        obtain rfl : ticket = ticket' := Option.some.inj (hnewest.symm.trans hnew)
        refine .inl ⟨hnew, ?_, fun hunspent' => ?_⟩
        · cases hrecord with
          | finish hsame => omega
          | giveBack => exact absurd List.mem_cons_self (hkept id)
        · have hfalse := hunspent' event List.mem_cons_self
          rw [hends] at hfalse
          cases hfalse
      · refine .inr ⟨hnot, fun _ => ?_, fun hsending' => absurd hsending' hstatus⟩
        have hlt := hahead.2 hsending
        cases hrecord with
        | finish hsame => omega
        | giveBack hback => omega
    · rw [if_neg hk] at hother
      exact (hs.ahead k ticket' m other hmem' hkept' hother).imp_left fun ⟨hnew, hm, hsend⟩ =>
        ⟨hnew, hm, fun hunspent => hsend fun e he => hunspent e (List.mem_cons_of_mem _ he)⟩
  · intro k ticket₁ ticket₂ m h₁ h₂
    rw [ht.log] at h₁ h₂ ⊢
    exact (hs.distinct k ticket₁ ticket₂ m (hold k ticket₁ m h₁) (hold k ticket₂ m h₂)).imp_right
      fun ⟨j, hj⟩ => ⟨j, hj.imp (List.mem_cons_of_mem _) (List.mem_cons_of_mem _)⟩
  · intro k ticket' m alertId templateId kind hsent
    rw [ht.log] at hsent ⊢
    rcases List.mem_cons.mp hsent with rfl | hmem
    · cases hnotSent
    obtain ⟨hmemLease, hfive, hkept⟩ := hs.sent k ticket' m alertId templateId kind hmem
    refine ⟨List.mem_cons_of_mem _ hmemLease, hfive, fun j hj => ?_⟩
    rcases List.mem_cons.mp hj with hnew | hj
    · cases hrecord with
      | finish => cases hnew
      | giveBack hback hunsent =>
          cases hnew
          exact hunsent _ hmem rfl
    · exact hkept j hj
  · rw [ht.log, List.filterMap_cons, hnotSent]
    exact hs.sentOnce

theorem send_inv (hs : DeliveryInv s) {id : String} {ticket n : Nat} {alertId templateId : String}
    {event : AlertStatus} (hleased : .leased id ticket n ∈ s.log)
    (hunspent : Unspent ticket s.log) (hfive : n ≤ 5)
    (hunsent : ∀ e ∈ s.log, e.sentTicket ≠ some ticket) :
    DeliveryInv { s with log := .sent id ticket n alertId templateId event :: s.log } := by
  have hold : ∀ e, e ∈ DeliveryEvent.sent id ticket n alertId templateId event :: s.log →
      e.sentTicket = none → e ∈ s.log := by
    intro e he hnot
    rcases List.mem_cons.mp he with rfl | hmem
    · cases hnot
    · exact hmem
  refine ⟨⟨hs.issued.alerts, hs.issued.deliveries⟩, ?_, ?_, ?_, ?_, ?_, ?_, ?_⟩
  · intro k ticket' m hmem
    exact hs.leases k ticket' m (hold _ hmem rfl)
  · intro e he
    simp only [List.length_cons]
    rcases List.mem_cons.mp he with rfl | hmem
    · exact (hs.tickets _ hleased).trans (Nat.lt_succ_self _)
    · exact (hs.tickets e hmem).trans (Nat.lt_succ_self _)
  · exact hs.leaseOnce
  · intro k ticket' m row hmem hkept hrow
    have hkept' : ∀ j, .returned j ticket' ∉ s.log := fun j hj =>
      hkept j (List.mem_cons_of_mem _ hj)
    exact (hs.ahead k ticket' m row (hold _ hmem rfl) hkept' hrow).imp_left
      fun ⟨hnew, hm, hsend⟩ =>
        ⟨hnew, hm, fun hunspent => hsend fun e he => hunspent e (List.mem_cons_of_mem _ he)⟩
  · intro k ticket₁ ticket₂ m h₁ h₂
    exact (hs.distinct k ticket₁ ticket₂ m (hold _ h₁ rfl) (hold _ h₂ rfl)).imp_right
      fun ⟨j, hj⟩ => ⟨j, hj.imp (List.mem_cons_of_mem _) (List.mem_cons_of_mem _)⟩
  · intro k ticket' m alertId' templateId' event' hsent
    have hkept : ∀ ticket', (∀ j, .returned j ticket' ∉ s.log) →
        ∀ j, .returned j ticket' ∉ DeliveryEvent.sent id ticket n alertId templateId event :: s.log :=
      fun ticket' h j hj => h j (hold _ hj rfl)
    rcases List.mem_cons.mp hsent with hnew | hmem
    · cases hnew
      exact ⟨List.mem_cons_of_mem _ hleased, hfive, hkept _ (not_returned_of_unspent hunspent)⟩
    · obtain ⟨hmemLease, hle, hnot⟩ := hs.sent k ticket' m alertId' templateId' event' hmem
      exact ⟨List.mem_cons_of_mem _ hmemLease, hle, hkept _ hnot⟩
  · refine List.nodup_cons.mpr ⟨fun hmem => ?_, hs.sentOnce⟩
    obtain ⟨e, he, hticket⟩ := List.mem_filterMap.mp hmem
    exact hunsent e he hticket

theorem sent_le_five (hs : DeliveryInv s) (id : String) :
    (s.log.filterMap (sentAttempt id)).length ≤ 5 := by
  have hnodup : (s.log.filterMap (sentAttempt id)).Nodup := by
    have honce := List.pairwise_filterMap.mp hs.sentOnce
    refine List.pairwise_filterMap.mpr (honce.imp_of_mem fun {e e'} he he' hne m hm m' hm' hsame => ?_)
    cases e with
    | leased => cases hm
    | finished => cases hm
    | returned => cases hm
    | sent k ticket n alertId templateId event =>
    cases e' with
    | leased => cases hm'
    | finished => cases hm'
    | returned => cases hm'
    | sent k' ticket' n' alertId' templateId' event' =>
        simp only [sentAttempt, Option.ite_none_right_eq_some, Option.some.injEq] at hm hm'
        obtain ⟨rfl, rfl⟩ := hm
        obtain ⟨rfl, rfl⟩ := hm'
        obtain ⟨hleased, -, hkept⟩ := hs.sent _ _ _ _ _ _ he
        obtain ⟨hleased', -, hkept'⟩ := hs.sent _ _ _ _ _ _ he'
        subst hsame
        rcases hs.distinct _ _ _ _ hleased hleased' with heq | ⟨j, hj | hj⟩
        · exact hne ticket rfl ticket' rfl heq
        · exact hkept j hj
        · exact hkept' j hj
  have hsub : (s.log.filterMap (sentAttempt id)) ⊆ List.range' 1 5 := by
    intro m hm
    obtain ⟨e, he, hattempt⟩ := List.mem_filterMap.mp hm
    cases e with
    | leased => cases hattempt
    | finished => cases hattempt
    | returned => cases hattempt
    | sent k ticket n alertId templateId event =>
        simp only [sentAttempt, Option.ite_none_right_eq_some, Option.some.injEq] at hattempt
        obtain ⟨-, rfl⟩ := hattempt
        obtain ⟨hleased, hfive, -⟩ := hs.sent _ _ _ _ _ _ he
        have hone := (hs.leases _ _ _ hleased).2
        rw [List.mem_range'_1]
        omega
  exact (List.subperm_of_subset hnodup hsub).length_le

end Invariant

def Out (ticket : Nat) (s : MonitoringState) : Prop :=
  (∃ id n, .leased id ticket n ∈ s.log) ∧ Unspent ticket s.log

theorem out_of_log {ticket : Nat} {s t : MonitoringState} (h : Out ticket s)
    (ht : t.log = s.log ∨ ∃ e, t.log = e :: s.log ∧ e.ends ticket = false) : Out ticket t := by
  obtain ⟨⟨id, n, hleased⟩, hunspent⟩ := h
  rcases ht with hsame | ⟨e, hcons, he⟩
  · exact ⟨⟨id, n, hsame ▸ hleased⟩, hsame ▸ hunspent⟩
  · refine ⟨⟨id, n, hcons ▸ List.mem_cons_of_mem _ hleased⟩, ?_⟩
    rw [hcons]
    exact List.forall_mem_cons.mpr ⟨he, hunspent⟩

theorem DeliveryStep.inv {a b : Option Nat} {s t : MonitoringState} (hs : DeliveryInv s)
    (hout : ∀ x ∈ a, Out x s) (h : DeliveryStep a s t b) : DeliveryInv t := by
  cases h with
  | background _ h => exact (h hs.issued).inv hs
  | lease hrow hstatus _ ht _ hsending hattempts =>
      exact lease_inv hs hrow hstatus hsending hattempts ht
  | finish hleased hrow hsending hattempts ht _ hstatus hkept =>
      exact record_inv hs hleased (hout _ rfl).2 hrow hsending hattempts hstatus (.finish hkept) ht
  | giveBack hleased hrow hsending hattempts ht _ hpending hback hunsent =>
      exact record_inv hs hleased (hout _ rfl).2 hrow hsending hattempts (by simp [hpending])
        (.giveBack hback hunsent) ht
  | send hleased hfive hunsent _ ht =>
      subst ht
      exact send_inv hs hleased (hout _ rfl).2 hfive hunsent

/-- What a step adds to the log: a lease with a ticket of its own, or something with the
ticket that the worker holds. -/
theorem DeliveryStep.log {a b : Option Nat} {s t : MonitoringState} (h : DeliveryStep a s t b) :
    t.log = s.log ∨ ∃ e, t.log = e :: s.log ∧ (e.leaseTicket.isSome ∨ a = some e.ticket) := by
  cases h with
  | background hlog _ => exact .inl hlog
  | lease _ _ _ ht _ _ _ => exact .inr ⟨_, ht.log, .inl rfl⟩
  | finish _ _ _ _ ht _ _ _ => exact .inr ⟨_, ht.log, .inr rfl⟩
  | giveBack _ _ _ _ ht _ _ _ _ => exact .inr ⟨_, ht.log, .inr rfl⟩
  | send _ _ _ _ ht =>
      subst ht
      exact .inr ⟨_, rfl, .inr rfl⟩

theorem not_ends_of_lease {e : DeliveryEvent} {ticket : Nat} (h : e.leaseTicket.isSome) :
    e.ends ticket = false := by
  cases e with
  | leased => rfl
  | finished => cases h
  | returned => cases h
  | sent => cases h

def deliveryProtocol : TokenProtocol MonitoringState Nat where
  inv := DeliveryInv
  step := DeliveryStep
  out := Out
  refl _ _ := .background rfl fun hs => .refl hs
  preserves hs hout h := h.inv hs hout
  fresh := by
    intro a s t x h
    cases h with
    | background => exact .inl rfl
    | lease _ _ hfresh _ _ _ _ =>
        refine .inr fun hout => ?_
        obtain ⟨⟨k, m, hmem⟩, -⟩ := hout
        exact hfresh _ hmem rfl
    | send => exact .inl rfl
  held := by
    intro a s t x hs h hout
    cases h with
    | background hlog _ => exact out_of_log (hout x rfl) (.inl hlog)
    | lease _ _ hfresh ht _ _ _ =>
        refine ⟨⟨_, _, ht.log ▸ List.mem_cons_self⟩, ?_⟩
        rw [ht.log]
        refine List.forall_mem_cons.mpr ⟨rfl, fun e he => ?_⟩
        exact Bool.eq_false_iff.mpr fun hends => hfresh e he (ticket_of_ends hends)
    | send _ _ _ _ ht =>
        subst ht
        exact out_of_log (hout x rfl) (.inr ⟨_, rfl, rfl⟩)
  keeps := by
    intro a b s t x h hout hne
    refine out_of_log hout (h.log.imp_right fun ⟨e, hcons, he⟩ => ⟨e, hcons, ?_⟩)
    rcases he with hlease | ha
    · exact not_ends_of_lease hlease
    · exact Bool.eq_false_iff.mpr fun hends => hne (ha.trans (congrArg some (ticket_of_ends hends)))

/-! ## The worker -/

namespace NotificationWorker

def HasLease (leased : Leased) (s : MonitoringState) : Prop :=
  .leased leased.id leased.ticket leased.delivery.attempts ∈ s.log

def HasNotSent (leased : Leased) (s : MonitoringState) : Prop :=
  HasLease leased s ∧ ∀ e ∈ s.log, e.sentTicket ≠ some leased.ticket

variable {leased : Leased}

theorem hasLease_stable (tok : Option Nat) :
    StableFor deliveryProtocol tok (HasLease leased) := by
  rintro s t h ⟨-, a, b, hstep, -⟩
  rcases DeliveryStep.log hstep with hsame | ⟨e, hcons, -⟩
  · exact show _ ∈ t.log from hsame ▸ h
  · exact show _ ∈ t.log from hcons ▸ List.mem_cons_of_mem _ h

theorem hasNotSent_stable :
    StableFor deliveryProtocol (some leased.ticket) (HasNotSent leased) := by
  rintro s t ⟨h, hunsent⟩ hothers
  refine ⟨hasLease_stable _ s t h hothers, ?_⟩
  obtain ⟨-, a, b, hstep, hne⟩ := hothers
  rcases DeliveryStep.log hstep with hsame | ⟨e, hcons, he⟩
  · exact hsame ▸ hunsent
  · rw [hcons]
    refine List.forall_mem_cons.mpr ⟨fun hsent => ?_, hunsent⟩
    rcases he with hlease | ha
    · cases e with
      | leased => cases hsent
      | finished => cases hlease
      | returned => cases hlease
      | sent => cases hlease
    · cases e with
      | leased => cases hsent
      | finished => cases hsent
      | returned => cases hsent
      | sent => exact hne leased.ticket rfl (ha.trans hsent)

theorem terminal_kept {a b : Option Nat} {s t : MonitoringState} (hs : DeliveryInv s)
    (hstep : DeliveryStep a s t b) {id : String} {row : NotificationDelivery}
    (hrow : s.deliveries.lookup id = some row) (hterminal : row.status.isTerminal = true) :
    t.deliveries.lookup id = some row ∨ (t.deliveries.lookup id = none ∧ Gone row.alertId t) := by
  rcases hstep.rows with hback | ⟨k, old, new, event, hold, hfalse, -, ht⟩ | ⟨event, rfl⟩
  · rcases (hback hs.issued).deliveries id with hsame | ⟨hnone, hgone⟩ | ⟨hnew, -⟩
    · exact .inl (hsame.trans hrow)
    · exact .inr ⟨hnone, hgone row hrow⟩
    · exact absurd (hs.issued.deliveries id row hrow) hnew
  · refine .inl ?_
    rw [ht.deliveries, if_neg, hrow]
    rintro rfl
    rw [hrow] at hold
    obtain rfl := Option.some.inj hold
    rw [hterminal] at hfalse
    cases hfalse
  · exact .inl hrow

theorem gone_kept {a b : Option Nat} {s t : MonitoringState} (hs : DeliveryInv s)
    (hstep : DeliveryStep a s t b) {alertId : String} (h : Gone alertId s) : Gone alertId t := by
  rcases hstep.rows with hback | ⟨k, old, new, event, -, -, -, ht⟩ | ⟨event, rfl⟩
  · exact (hback hs.issued).evolves.gone alertId h
  · refine ⟨?_, ?_⟩
    · rw [ht.issued]
      exact h.1
    · rw [ht.alerts]
      exact h.2
  · exact h

theorem firingSent_stable (tok : Option Nat) (alertId templateId : String) :
    StableFor deliveryProtocol tok
      fun s => FiringSent alertId templateId s ∨ Gone alertId s := by
  rintro s t h ⟨hs, a, b, hstep, -⟩
  rcases h with ⟨id, row, hrow, halert, htemplate, hevent, hsent⟩ | hgone
  · rcases terminal_kept hs hstep hrow (by rw [hsent]; rfl) with hsame | ⟨-, hgone⟩
    · exact .inl ⟨id, row, hsame, halert, htemplate, hevent, hsent⟩
    · exact .inr (halert ▸ hgone)
  · exact .inr (gone_kept hs hstep hgone)

theorem writes_update {id : String} {row : NotificationDelivery} {event : DeliveryEvent}
    {s : MonitoringState} {f : NotificationDelivery → NotificationDelivery}
    (hrow : s.deliveries.lookup id = some row) :
    Writes id (f row) event s
      { s with deliveries := s.deliveries.update id f, log := event :: s.log } := by
  refine ⟨fun k => ?_, rfl, rfl, rfl⟩
  by_cases hk : k = id
  · subst k
    simp [hrow]
  · rw [if_neg hk, Table.lookup_update_ne _ _ hk]

theorem updateLeased_cases (leased : Leased) (event : DeliveryEvent)
    (data : Int → NotificationDelivery → NotificationDelivery) (s : MonitoringState) :
    (updateLeased leased event data s).2 = s ∨
      ∃ row, s.deliveries.lookup leased.id = some row ∧ row.status = .sending ∧
        row.attempts = leased.delivery.attempts ∧
        Writes leased.id (data s.now row) event s (updateLeased leased event data s).2 := by
  unfold updateLeased
  split
  · rename_i hguard
    obtain ⟨row, hrow, hmatch⟩ := (Option.any_eq_true _ _).mp hguard
    simp only [Bool.and_eq_true, beq_iff_eq] at hmatch
    exact .inr ⟨row, hrow, hmatch.1, hmatch.2, writes_update hrow⟩
  · exact .inl rfl

theorem finish_step {s : MonitoringState} (h : HasLease leased s) {status : DeliveryStatus}
    (hstatus : status ≠ .sending) (lastError : Option String) (delay : Int) :
    ∃ tok, DeliveryStep (some leased.ticket) s (updateLeased leased
      (.finished leased.id leased.ticket) (finishedRow status lastError delay) s).2 tok := by
  rcases updateLeased_cases leased (.finished leased.id leased.ticket)
    (finishedRow status lastError delay) s with hsame | ⟨row, hrow, hsending, hattempts, ht⟩
  · rw [hsame]
    exact ⟨some leased.ticket, deliveryProtocol.refl _ s⟩
  · exact ⟨none, .finish h hrow hsending hattempts ht ⟨rfl, rfl, rfl⟩ hstatus hattempts⟩

theorem giveBack_step {s : MonitoringState} (h : HasNotSent leased s) :
    ∃ tok, DeliveryStep (some leased.ticket) s (updateLeased leased
      (.returned leased.id leased.ticket) returnedRow s).2 tok := by
  rcases updateLeased_cases leased (.returned leased.id leased.ticket) returnedRow s with
    hsame | ⟨row, hrow, hsending, hattempts, ht⟩
  · rw [hsame]
    exact ⟨some leased.ticket, deliveryProtocol.refl _ s⟩
  · exact ⟨none, .giveBack h.1 hrow hsending hattempts ht ⟨rfl, rfl, rfl⟩ rfl
      (congrArg (· - 1) hattempts) h.2⟩

theorem afterFailure_ne_sending (leased : Leased) : afterFailure leased ≠ .sending := by
  unfold afterFailure
  split <;> decide

theorem holds_recover (outcomes : WorkerOutcomes) :
    Holds deliveryProtocol (some leased.ticket) (HasLease leased) (recover outcomes leased) := by
  unfold recover finish unlessFails
  cases outcomes.recoverError with
  | some e => exact .fail e
  | none =>
      refine .exec_bind (hasLease_stable _) fun s hs _ _ => ?_
      obtain ⟨tok, hstep⟩ := finish_step hs (afterFailure_ne_sending leased) (some "通知投递失败")
        30000
      exact ⟨tok, fun _ => True, hstep, trivial, .done _⟩

theorem holds_finish (outcomes : WorkerOutcomes) (error : Option Exception)
    {status : DeliveryStatus} (hstatus : status ≠ .sending) (lastError : Option String)
    (delay : Int) : Holds deliveryProtocol (some leased.ticket) (HasLease leased)
      ((finish error leased status lastError delay >>= fun _ => .done true).tryCatch
        fun _ => recover outcomes leased) := by
  unfold finish unlessFails
  cases error with
  | some e => exact holds_recover outcomes
  | none =>
      rw [Async.exec_bind_tryCatch]
      refine .exec_bind (hasLease_stable _) fun s hs _ _ => ?_
      obtain ⟨tok, hstep⟩ := finish_step hs hstatus lastError delay
      exact ⟨tok, fun _ => True, hstep, trivial, .done _⟩

theorem holds_giveBack (outcomes : WorkerOutcomes) (error : Option Exception) :
    Holds deliveryProtocol (some leased.ticket) (HasNotSent leased)
      ((giveBack error leased >>= fun _ => .done true).tryCatch
        fun _ => recover outcomes leased) := by
  unfold giveBack unlessFails
  cases error with
  | some e => exact (holds_recover outcomes).conseq fun _ h => h.1
  | none =>
      rw [Async.exec_bind_tryCatch]
      refine .exec_bind hasNotSent_stable fun s hs _ _ => ?_
      obtain ⟨tok, hstep⟩ := giveBack_step hs
      exact ⟨tok, fun _ => True, hstep, trivial, .done _⟩

/-- The worker may send: it has not yet, this is no sixth attempt, and what it is about to
announce may be announced. -/
def MaySend (leased : Leased) (s : MonitoringState) : Prop :=
  HasNotSent leased s ∧ leased.delivery.attempts ≤ 5 ∧ (leased.delivery.event = .resolved →
    FiringSent leased.delivery.alertId leased.delivery.templateId s ∨
      Gone leased.delivery.alertId s)

theorem maySend_stable : StableFor deliveryProtocol (some leased.ticket) (MaySend leased) :=
  fun s t h hothers => ⟨hasNotSent_stable s t h.1 hothers, h.2.1,
    fun hevent => firingSent_stable _ _ _ s t (h.2.2 hevent) hothers⟩

theorem holds_dispatch (outcomes : WorkerOutcomes) :
    Holds deliveryProtocol (some leased.ticket) (MaySend leased)
      ((dispatch outcomes leased).tryCatch fun _ => recover outcomes leased) := by
  unfold dispatch sendNotification
  rw [Async.call_bind_tryCatch]
  refine .exec_bind maySend_stable fun s hs _ _ => ?_
  refine ⟨some leased.ticket, HasLease leased, .send hs.1.1 hs.2.1 hs.1.2 hs.2.2 rfl,
    List.mem_cons_of_mem _ hs.1.1, ?_⟩
  cases outcomes.sendNotification with
  | error e => exact holds_recover outcomes
  | ok success =>
      refine holds_finish outcomes _ ?_ _ _
      cases success with
      | true => exact fun h => nomatch h
      | false => exact afterFailure_ne_sending leased

theorem holds_dispatchResolved (outcomes : WorkerOutcomes) :
    Holds deliveryProtocol (some leased.ticket)
      (fun s => HasNotSent leased s ∧ leased.delivery.attempts ≤ 5)
      ((dispatchResolved outcomes leased).tryCatch fun _ => recover outcomes leased) := by
  have hstable : StableFor deliveryProtocol (some leased.ticket)
      fun s => HasNotSent leased s ∧ leased.delivery.attempts ≤ 5 :=
    fun s t h hothers => ⟨hasNotSent_stable s t h.1 hothers, h.2⟩
  unfold dispatchResolved unlessFails
  cases outcomes.firingError with
  | some e => exact (holds_recover outcomes).conseq fun _ h => h.1.1
  | none =>
      rw [Async.query_bind_tryCatch]
      refine .query_bind hstable fun s hs _ => ?_
      cases hfound : s.findDelivery leased.delivery.alertId leased.delivery.templateId .firing with
      | none => exact ⟨_, hs.1.1, holds_finish outcomes _ (by decide) _ _⟩
      | some known =>
          obtain ⟨id, row⟩ := known
          simp only [Option.map_some]
          split
          · exact ⟨_, hs.1.1, holds_finish outcomes _ (by decide) _ _⟩
          split
          · exact ⟨_, hs.1, holds_giveBack outcomes _⟩
          · rename_i hsent
            obtain ⟨hrow, hkey⟩ := Table.first?_eq_some hfound
            simp only [Bool.and_eq_true, beq_iff_eq] at hkey
            refine ⟨_, ⟨hs.1, hs.2, fun _ => .inl ?_⟩, holds_dispatch outcomes⟩
            exact ⟨id, row, hrow, hkey.1.1, hkey.1.2, hkey.2, not_not.mp hsent⟩

theorem holds_deliver (outcomes : WorkerOutcomes) (clusterId : String) :
    Holds deliveryProtocol (some leased.ticket) (HasNotSent leased)
      ((deliver outcomes clusterId leased).tryCatch fun _ => recover outcomes leased) := by
  unfold deliver
  rw [Async.query_bind_tryCatch]
  refine .query_bind hasNotSent_stable fun s hs _ => ⟨_, hs, ?_⟩
  split
  · exact (holds_finish outcomes _ (by decide) _ _).conseq fun _ h => h.1
  split
  · exact (holds_finish outcomes _ (by decide) _ _).conseq fun _ h => h.1
  rename_i hfive
  unfold unlessFails
  cases outcomes.readError with
  | some e => exact (holds_recover outcomes).conseq fun _ h => h.1
  | none =>
      rw [Async.query_bind_tryCatch]
      refine .query_bind hasNotSent_stable fun s hs _ => ⟨_, hs, ?_⟩
      rw [Async.query_bind_tryCatch]
      refine .query_bind hasNotSent_stable fun s' hs' _ => ⟨_, hs', ?_⟩
      rw [Async.query_bind_tryCatch]
      refine .query_bind hasNotSent_stable fun s'' hs'' _ => ⟨_, hs'', ?_⟩
      split
      · split
        · exact (holds_finish outcomes _ (by decide) _ _).conseq fun _ h => h.1
        split
        · exact (holds_finish outcomes _ (by decide) _ _).conseq fun _ h => h.1
        split
        · exact (holds_dispatchResolved outcomes).conseq fun _ h => ⟨h, by omega⟩
        · rename_i hevent
          exact (holds_dispatch outcomes).conseq fun _ h =>
            ⟨h, by omega, fun hresolved => absurd hresolved hevent⟩
      · exact (holds_finish outcomes _ (by decide) _ _).conseq fun _ h => h.1

theorem candidate_mem {clusterId : String} {isLocked : String → Bool} {s : MonitoringState}
    {id : String} {row : NotificationDelivery}
    (h : candidate clusterId isLocked s = some (id, row)) :
    s.deliveries.lookup id = some row ∧ isDue clusterId isLocked s id row = true := by
  obtain ⟨r, hhead, heq⟩ := Option.map_eq_some_iff.mp h
  obtain ⟨rfl, rfl⟩ : r.1 = id ∧ r.2 = row := by simpa using heq
  have hmem := List.mem_mergeSort.mp (List.mem_of_mem_head? hhead)
  obtain ⟨hentry, hdue⟩ := List.mem_filter.mp hmem
  exact ⟨Table.mem_entries_iff.mp hentry, hdue⟩

theorem holds_runOnce (outcomes : WorkerOutcomes) (clusterId : String) :
    Holds deliveryProtocol none (fun _ => True) (runOnce outcomes clusterId) := by
  unfold runOnce unlessFails
  cases outcomes.leaseError with
  | some e => exact .fail e
  | none =>
      refine .exec_bind (.true _) fun s _ hs _ => ?_
      unfold lease
      cases hcandidate : candidate clusterId outcomes.isLocked s with
      | none => exact ⟨none, fun _ => True, deliveryProtocol.refl _ _, trivial, .done _⟩
      | some known =>
          obtain ⟨id, row⟩ := known
          obtain ⟨hrow, hdue⟩ := candidate_mem hcandidate
          have hstatus : row.status.isTerminal = false := by
            unfold isDue at hdue
            cases hrowStatus : row.status <;> simp [hrowStatus] at hdue <;> rfl
          have hfresh : ∀ e ∈ s.log, e.ticket ≠ s.log.length := fun e he => (hs.tickets e he).ne
          refine ⟨some s.log.length, HasNotSent _, .lease hrow hstatus hfresh
            (writes_update (f := fun _ => _) hrow) ⟨rfl, rfl, rfl⟩ rfl rfl,
            ⟨List.mem_cons_self, ?_⟩, holds_deliver outcomes clusterId⟩
          refine List.forall_mem_cons.mpr ⟨(fun h => nomatch h), fun e he hsent => ?_⟩
          cases e with
          | leased => cases hsent
          | finished => cases hsent
          | returned => cases hsent
          | sent => exact hfresh _ he (Option.some.inj hsent)

end NotificationWorker

theorem DeliveryStep.change {a b : Option Nat} {s t : MonitoringState} (hs : DeliveryInv s)
    (hout : ∀ x ∈ a, Out x s) (h : DeliveryStep a s t b) {id : String}
    {row row' : NotificationDelivery} (hrow : s.deliveries.lookup id = some row)
    (hrow' : t.deliveries.lookup id = some row') (hne : row ≠ row') :
    t.log = .leased id s.log.length row'.attempts :: s.log ∨
      ∃ ticket, newestLease id s.log = some ticket ∧
        (t.log = .finished id ticket :: s.log ∨ t.log = .returned id ticket :: s.log) := by
  have hwritten : ∀ {k row₁ event}, Writes k row₁ event s t → k = id ∧ row₁ = row' := by
    intro k row₁ event ht
    rw [ht.deliveries] at hrow'
    split at hrow'
    · exact ⟨Eq.symm ‹_›, Option.some.inj hrow'⟩
    · rw [hrow] at hrow'
      exact absurd (Option.some.inj hrow') hne
  cases h with
  | background _ h =>
      rcases (h hs.issued).deliveries id with hsame | ⟨hnone, -⟩ | ⟨hnew, -⟩
      · rw [hsame, hrow] at hrow'
        exact absurd (Option.some.inj hrow') hne
      · rw [hnone] at hrow'
        cases hrow'
      · exact absurd (hs.issued.deliveries id row hrow) hnew
  | lease _ _ _ ht _ _ _ =>
      obtain ⟨rfl, rfl⟩ := hwritten ht
      exact .inl ht.log
  | @finish _ _ _ ticket _ _ _ hleased hrow₁ hsending hattempts ht _ _ _ =>
      obtain ⟨rfl, rfl⟩ := hwritten ht
      exact .inr ⟨ticket, newest_of_guard hs hleased (hout ticket rfl).2 hrow₁ hsending hattempts,
        .inl ht.log⟩
  | @giveBack _ _ _ ticket _ _ _ hleased hrow₁ hsending hattempts ht _ _ _ _ =>
      obtain ⟨rfl, rfl⟩ := hwritten ht
      exact .inr ⟨ticket, newest_of_guard hs hleased (hout ticket rfl).2 hrow₁ hsending hattempts,
        .inr ht.log⟩
  | send _ _ _ _ ht =>
      subst ht
      rw [hrow] at hrow'
      exact absurd (Option.some.inj hrow') hne

theorem DeliveryStep.issued {a b : Option Nat} {s t : MonitoringState} (hs : DeliveryInv s)
    (h : DeliveryStep a s t b) : s.issued ⊆ t.issued := by
  rcases h.rows with hback | ⟨k, old, new, event, -, -, -, ht⟩ | ⟨event, rfl⟩
  · exact (hback hs.issued).issued
  · rw [ht.issued]
    exact fun _ h => h
  · exact fun _ h => h

theorem DeliveryStep.announce {a b : Option Nat} {s t : MonitoringState} (h : DeliveryStep a s t b)
    {id alertId templateId : String} {ticket n : Nat}
    (hlog : t.log = .sent id ticket n alertId templateId .resolved :: s.log) :
    FiringSent alertId templateId s ∨ Gone alertId s := by
  cases h with
  | background hsame _ =>
      rw [hsame] at hlog
      exact absurd (congrArg List.length hlog) (by simp)
  | lease _ _ _ ht _ _ _ =>
      rw [ht.log] at hlog
      cases hlog
  | finish _ _ _ _ ht _ _ _ =>
      rw [ht.log] at hlog
      cases hlog
  | giveBack _ _ _ _ ht _ _ _ _ =>
      rw [ht.log] at hlog
      cases hlog
  | send _ _ _ hfiring ht =>
      subst ht
      cases hlog
      exact hfiring rfl

section Runs

variable {crypto : Crypto}

theorem monitoringHandler_safe (h : MonitoringHandler Unit) (s : MonitoringState)
    (hh : isMonitoringHandler crypto h) : deliveryProtocol.Safe h none s := by
  rcases hh with ⟨outcomes, clusterId, rfl⟩ | ⟨cuid, clusterId, authorization, body, rfl⟩
  · exact (NotificationWorker.holds_runOnce outcomes clusterId s trivial).map _
  · have hholds : Holds deliveryProtocol none (fun _ => True)
        (AlertIngestionService.ingest crypto cuid clusterId authorization body) :=
      .of_obeys (obeys_ingest crypto cuid clusterId authorization body) (fun _ hs => hs.issued)
        fun s t hs h => .background (h hs.issued).log h
    exact (hholds s trivial).map _

theorem outside_step (s t : MonitoringState) (hs : DeliveryInv s) (h : Outside s t) :
    DeliveryStep none s t none :=
  .background (h.background hs.issued).log fun hissued => h.background hissued

theorem blank_inv : DeliveryInv .blank where
  issued := ⟨fun _ _ h => (nomatch h), fun _ _ h => (nomatch h)⟩
  leases _ _ _ h := nomatch h
  tickets _ h := nomatch h
  leaseOnce := List.nodup_nil
  ahead _ _ _ _ h := nomatch h
  distinct _ _ _ _ h := nomatch h
  sent _ _ _ _ _ _ h := nomatch h
  sentOnce := List.nodup_nil

theorem shared_of_reach {c : Pool Exception MonitoringState Unit}
    (hc : Reach (isMonitoringHandler crypto) Outside .blank c) : deliveryProtocol.Shared c :=
  Shared.run monitoringHandler_safe outside_step (shared_init blank_inv) hc

theorem terminal_row_final {c c' : Pool Exception MonitoringState Unit}
    (hc : deliveryProtocol.Shared c)
    (hrun : ReflTransGen (Step (isMonitoringHandler crypto) Outside) c c') {id : String}
    {row : NotificationDelivery} (hrow : c.shared.deliveries.lookup id = some row)
    (hterminal : row.status.isTerminal = true) :
    c'.shared.deliveries.lookup id = some row ∨
      (c'.shared.deliveries.lookup id = none ∧ id ∈ c'.shared.issued) := by
  induction hrun with
  | refl => exact .inl hrow
  | @tail d d' hprefix hstep ih =>
      have hd := hc.run monitoringHandler_safe outside_step hprefix
      obtain ⟨a, b, hmove, hout⟩ := hd.moves outside_step hstep
      rcases ih with hthere | ⟨hnone, hid⟩
      · rcases NotificationWorker.terminal_kept hd.inv hmove hthere hterminal with hsame | ⟨hgone, -⟩
        · exact .inl hsame
        · exact .inr ⟨hgone, DeliveryStep.issued hd.inv hmove (hd.inv.issued.deliveries id row hthere)⟩
      · refine .inr ⟨?_, DeliveryStep.issued hd.inv hmove hid⟩
        rcases hmove.rows with hback | ⟨k, old, new, event, hold, -, -, ht⟩ | ⟨event, hsame⟩
        · rcases (hback hd.inv.issued).deliveries id with hsame | ⟨hgone, -⟩ | ⟨hnew, -⟩
          · exact hsame.trans hnone
          · exact hgone
          · exact absurd hid hnew
        · rw [ht.deliveries, if_neg, hnone]
          rintro rfl
          rw [hnone] at hold
          cases hold
        · exact hsame ▸ hnone

end Runs

def sampleToken : String := String.ofList (List.replicate 43 'A')

def sampleDigest : String := "0f007385b6f9d4b7eeb2748605afe1a984a0a3bfa3f014d09e2a784ce9e5cd1a"

def sampleCrypto : Crypto := .ofDigests [(sampleToken, sampleDigest),
  ("[\"c1\",\"f1\",\"2026-01-31T08:00:00.000Z\"]",
    "4c4af7b02480c6585b361d3ef6ab2db1e5ffb59a0c05664eba50d6b44ce57f8d")]

def sampleBatch : Js := .object [("alerts", .array [.object [("fingerprint", .string "f1"),
  ("status", .string "firing"), ("startsAt", .string "2026-01-31T08:00:00Z"),
  ("labels", .object [("alertname", .string "Down")])]])]

def sampleState : MonitoringState :=
  { MonitoringState.blank with
    clusters := AList.insert "c1" ⟨none, "running"⟩ ∅
    credentials := AList.insert "c1" ⟨sampleDigest, true⟩ ∅
    templates := AList.insert "t1" ⟨some "c1", true⟩ ∅ }

def sampleOutcomes : WorkerOutcomes where
  isLocked _ := false
  leaseError := none
  readError := none
  firingError := none
  returnError := none
  finishError := none
  recoverError := none
  sendNotification := .ok true

def sampleHandlers : List (MonitoringHandler Unit) :=
  [discard (AlertIngestionService.ingest sampleCrypto (fun _ i => if i = 0 then "a1" else "d1") "c1"
      (some ("Bearer " ++ sampleToken)) sampleBatch),
    discard (NotificationWorker.runOnce sampleOutcomes "c1"),
    discard (NotificationWorker.runOnce sampleOutcomes "c1")]

/-- The batch is stored, and the first worker leases the delivery. -/
def leasedPool : Pool Exception MonitoringState Unit :=
  Pool.play ⟨sampleState, sampleHandlers⟩ [0, 0, 0, 0, 0, 0, 0, 0, 0, 0, 1]

/-- The lease expires; the second worker takes over and finishes before the first one. -/
def takenOverPool : Pool Exception MonitoringState Unit :=
  Pool.play ⟨{ leasedPool.shared with now := 40000 }, leasedPool.handlers⟩
    [2, 2, 2, 2, 2, 2, 2, 1, 1, 1, 1, 1, 1]

theorem takenOverPool_reachable :
    Reach (isMonitoringHandler sampleCrypto) Outside .blank takenOverPool := by
  have htables : Reach (isMonitoringHandler sampleCrypto) Outside .blank
      (⟨sampleState, []⟩ : Pool Exception MonitoringState Unit) :=
    ((ReflTransGen.refl.tail (.environment (.clusters _ (AList.insert "c1" ⟨none, "running"⟩ ∅)))).tail
      (.environment (.credentials _ (AList.insert "c1" ⟨sampleDigest, true⟩ ∅)))).tail
      (.environment (.templates _ (AList.insert "t1" ⟨some "c1", true⟩ ∅)))
  have hleased : Reach (isMonitoringHandler sampleCrypto) Outside .blank leasedPool := by
    refine Reach.play (Reach.arrive_all htables sampleHandlers fun h hh => ?_) _
    simp only [sampleHandlers, List.mem_cons, List.not_mem_nil, or_false] at hh
    rcases hh with rfl | rfl | rfl
    · exact .inr ⟨_, _, _, _, rfl⟩
    · exact .inl ⟨_, _, rfl⟩
    · exact .inl ⟨_, _, rfl⟩
  exact Reach.play (Reach.environment hleased (.clock _ 40000)) _

end KubeNova.Monitoring
