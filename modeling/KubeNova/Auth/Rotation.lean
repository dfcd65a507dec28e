import KubeNova.Auth.Accounts

/-!
# Chains of rotated sessions

What may happen to the table of sessions, and what an observer of it notes: the
value of `refreshExpiresAt` each session was issued with, and which session was
exchanged for which.  Every step leaves the notes and the table in agreement;
from that agreement follow single use, the unmoved expiry and the one live
session of a chain.
-/

namespace KubeNova.Auth

open KubeNova.Foundation Function Relation

abbrev Sessions := String → Option Session

def Live (s : Sessions) (id : String) : Prop := ∃ row, s id = some row ∧ row.revokedAt = none

def Revoked (s : Sessions) (id : String) : Prop := ∃ row, s id = some row ∧ row.revokedAt ≠ none

/-- Nothing happened to the row but, perhaps, its revocation. -/
def OnlyRevoked (old new : Option Session) : Prop :=
  new = old ∨ ∃ row revokedAt, old = some row ∧ row.revokedAt = none ∧
    new = some { row with revokedAt := some revokedAt }

/-- One change of the sessions.  `issued id hash`: the platform has drawn a
refresh token with this hash for the session `id`. -/
inductive SessionStep (issued : String → String → Prop) (s t : Sessions) : Prop
  | revoke (h : ∀ id, OnlyRevoked (s id) (t id))
  | login {id : String} {row : Session} (hfresh : s id = none) (hlive : row.revokedAt = none)
      (hissued : issued id row.refreshTokenHash) (ht : t = update s id (some row))
  /-- The old session is revoked and its successor created, at once. -/
  | rotate {old new : String} {oldRow row : Session} {revokedAt : Nat} (hold : s old = some oldRow)
      (holdLive : oldRow.revokedAt = none) (hfresh : s new = none) (hlive : row.revokedAt = none)
      (hissued : issued new row.refreshTokenHash)
      (hcap : row.refreshExpiresAt = oldRow.refreshExpiresAt)
      (hexpires : row.expiresAt ≤ row.refreshExpiresAt)
      (ht : t = update (update s old (some { oldRow with revokedAt := some revokedAt })) new
        (some row))

/-- A change exchanged the session `old` for the session `new`: it revoked the
one and created the other. -/
def Exchanged (s t : Sessions) (old new : String) : Prop :=
  Live s old ∧ Revoked t old ∧ s new = none ∧ ∃ row, t new = some row

structure History where
  /-- How many changes were seen. -/
  steps : Nat
  /-- The session was there first, or was issued other than in exchange for
  another one, with this value of `refreshExpiresAt`. -/
  login : String → Nat → Prop
  /-- The change of this number exchanged the one session for the other. -/
  exchanged : Nat → String → String → Prop

namespace History

def start (s : Sessions) : History where
  steps := 0
  login id value := ∃ row, s id = some row ∧ row.refreshExpiresAt = value
  exchanged _ _ _ := False

def observe (h : History) (s t : Sessions) : History where
  steps := h.steps + 1
  login id value := h.login id value ∨ (s id = none ∧ (∀ old, ¬Exchanged s t old id) ∧
    ∃ row, t id = some row ∧ row.refreshExpiresAt = value)
  exchanged n old new := h.exchanged n old new ∨ (n = h.steps ∧ Exchanged s t old new)

def follows (h : History) (old new : String) : Prop := ∃ n, h.exchanged n old new

/-- The second session comes from the first one by any number of exchanges. -/
def chain (h : History) : String → String → Prop := ReflTransGen h.follows

end History

/-- What rotation promises: single use of a refresh token, an expiry that no
rotation moves, and one live session for a chain. -/
structure RotationSafe (h : History) (s : Sessions) : Prop where
  /-- Two exchanges of one refresh token are the same exchange. -/
  once : ∀ n m old old' new new', h.exchanged n old new → h.exchanged m old' new' →
    ∃ row row', s old = some row ∧ s old' = some row' ∧
      (row.refreshTokenHash = row'.refreshTokenHash → n = m ∧ old = old' ∧ new = new')
  /-- Every session belongs to a chain. -/
  rooted : ∀ id row, s id = some row → ∃ first value, h.login first value ∧ h.chain first id
  /-- Along a chain `refreshExpiresAt` is the value of its first session, and no
  rotated session outlives it. -/
  capped : ∀ first value last, h.login first value → h.chain first last →
    ∃ row, s last = some row ∧ row.refreshExpiresAt = value ∧
      ((∃ old, h.follows old last) → row.expiresAt ≤ value)
  single : ∀ first id id', h.chain first id → h.chain first id' → Live s id → Live s id' → id = id'

theorem OnlyRevoked.row {s t : Sessions} {id : String} (h : OnlyRevoked (s id) (t id))
    {row : Session} (hrow : s id = some row) :
    ∃ revokedAt, t id = some { row with revokedAt := revokedAt } ∧
      (row.revokedAt ≠ none → revokedAt ≠ none) := by
  rcases h with hsame | ⟨old, revokedAt, hold, -, hnew⟩
  · exact ⟨row.revokedAt, by rw [hsame, hrow], fun h => h⟩
  · obtain rfl : old = row := Option.some.inj (hold.symm.trans hrow)
    exact ⟨some revokedAt, hnew, fun _ => by simp⟩

theorem OnlyRevoked.eq_none {old new : Option Session} (h : OnlyRevoked old new)
    (hold : old = none) : new = none := by
  rcases h with hsame | ⟨row, revokedAt, hrow, -, -⟩
  · rw [hsame, hold]
  · rw [hold] at hrow
    cases hrow

namespace SessionStep

variable {issued : String → String → Prop} {s t : Sessions}

theorem row (h : SessionStep issued s t) {id : String} {row : Session} (hrow : s id = some row) :
    ∃ revokedAt, t id = some { row with revokedAt := revokedAt } ∧
      (row.revokedAt ≠ none → revokedAt ≠ none) := by
  cases h with
  | revoke h => exact (h id).row hrow
  | @login id' row' hfresh _ _ ht =>
      have hne : id ≠ id' := fun h => by rw [h, hfresh] at hrow; cases hrow
      exact ⟨row.revokedAt, by rw [ht, update_of_ne hne, hrow], fun h => h⟩
  | @rotate old new oldRow row' revokedAt hold _ hfresh _ _ _ _ ht =>
      have hne : id ≠ new := fun h => by rw [h, hfresh] at hrow; cases hrow
      by_cases hid : id = old
      · subst hid
        obtain rfl : oldRow = row := Option.some.inj (hold.symm.trans hrow)
        exact ⟨some revokedAt, by rw [ht, update_of_ne hne, update_self], fun _ => by simp⟩
      · exact ⟨row.revokedAt, by rw [ht, update_of_ne hne, update_of_ne hid, hrow], fun h => h⟩

theorem exchange_cases (h : SessionStep issued s t) :
    (∀ old new, ¬Exchanged s t old new) ∨
      ∃ old new oldRow row, s old = some oldRow ∧ t new = some row ∧
        row.refreshExpiresAt = oldRow.refreshExpiresAt ∧ row.expiresAt ≤ row.refreshExpiresAt ∧
        ∀ old' new', Exchanged s t old' new' ↔ old' = old ∧ new' = new := by
  cases h with
  | revoke h =>
      refine .inl fun old new hex => ?_
      obtain ⟨-, -, hfresh, row, hrow⟩ := hex
      rw [(h new).eq_none hfresh] at hrow
      cases hrow
  | @login id row hfresh _ _ ht =>
      refine .inl fun old new hex => ?_
      obtain ⟨⟨oldRow, hold, hlive⟩, ⟨newRow, hrevoked, hne⟩, -, -⟩ := hex
      have hid : old ≠ id := fun h => by rw [h, hfresh] at hold; cases hold
      rw [ht, update_of_ne hid, hold] at hrevoked
      obtain rfl := Option.some.inj hrevoked
      exact hne hlive
  | @rotate old new oldRow row revokedAt hold holdLive hfresh _ _ hcap hexpires ht =>
      have hdistinct : old ≠ new := fun h => by rw [h, hfresh] at hold; cases hold
      refine .inr ⟨old, new, oldRow, row, hold, by rw [ht, update_self], hcap, hexpires,
        fun old' new' => ⟨fun hex => ?_, ?_⟩⟩
      · obtain ⟨⟨row', hrow', hlive'⟩, ⟨newRow, hrevoked, hne⟩, hfresh', created, hcreated⟩ := hex
        have hold' : old' ≠ new := fun h => by rw [h, hfresh] at hrow'; cases hrow'
        have hnew' : new' ≠ old := fun h => by rw [h, hold] at hfresh'; cases hfresh'
        refine ⟨Classical.byContradiction fun hother => hne ?_,
          Classical.byContradiction fun hother => ?_⟩
        · rw [ht, update_of_ne hold', update_of_ne hother, hrow'] at hrevoked
          obtain rfl := Option.some.inj hrevoked
          exact hlive'
        · rw [ht, update_of_ne hother, update_of_ne hnew', hfresh'] at hcreated
          cases hcreated
      · rintro ⟨rfl, rfl⟩
        refine ⟨⟨oldRow, hold, holdLive⟩, ⟨{ oldRow with revokedAt := some revokedAt }, ?_, by simp⟩,
          hfresh, row, by rw [ht, update_self]⟩
        rw [ht, update_of_ne hdistinct, update_self]

theorem created (h : SessionStep issued s t) {id : String} {row : Session} (hfresh : s id = none)
    (hrow : t id = some row) : issued id row.refreshTokenHash := by
  cases h with
  | revoke h =>
      rw [(h id).eq_none hfresh] at hrow
      cases hrow
  | @login id' row' _ _ hissued ht =>
      by_cases hid : id = id'
      · subst hid
        rw [ht, update_self] at hrow
        exact Option.some.inj hrow ▸ hissued
      · rw [ht, update_of_ne hid, hfresh] at hrow
        cases hrow
  | @rotate old new oldRow row' revokedAt hold _ _ _ hissued _ _ ht =>
      have hne : id ≠ old := fun h => by rw [h, hold] at hfresh; cases hfresh
      by_cases hid : id = new
      · subst hid
        rw [ht, update_self] at hrow
        exact Option.some.inj hrow ▸ hissued
      · rw [ht, update_of_ne hid, update_of_ne hne, hfresh] at hrow
        cases hrow

end SessionStep

structure Agrees (issued : String → String → Prop) (h : History) (s : Sessions) : Prop where
  issued : ∀ id row, s id = some row → issued id row.refreshTokenHash
  past : ∀ n old new, h.exchanged n old new → n < h.steps
  login : ∀ id value, h.login id value → ∃ row, s id = some row ∧ row.refreshExpiresAt = value
  rooted : ∀ id row, s id = some row → ∃ first value, h.login first value ∧ h.chain first id
  once : ∀ n m old new new', h.exchanged n old new → h.exchanged m old new' → n = m ∧ new = new'
  exchanged : ∀ old new, h.follows old new → ∃ oldRow row, s old = some oldRow ∧
    oldRow.revokedAt ≠ none ∧ s new = some row ∧ row.refreshExpiresAt = oldRow.refreshExpiresAt ∧
    row.expiresAt ≤ row.refreshExpiresAt

theorem History.chain_observe {h : History} {s t : Sessions} {first last : String}
    (hchain : h.chain first last) : (h.observe s t).chain first last :=
  ReflTransGen.mono (fun _ _ ⟨n, hn⟩ => ⟨n, .inl hn⟩) _ _ hchain

namespace Agrees

variable {issued : String → String → Prop} {h : History} {s t : Sessions}

theorem start (hissued : ∀ id row, s id = some row → issued id row.refreshTokenHash) :
    Agrees issued (.start s) s where
  issued := hissued
  past := fun _ _ _ hex => hex.elim
  login := fun _ _ hlogin => hlogin
  rooted := fun id row hrow => ⟨id, row.refreshExpiresAt, ⟨row, hrow, rfl⟩, .refl⟩
  once := fun _ _ _ _ _ hex => hex.elim
  exchanged := fun _ _ ⟨_, hex⟩ => hex.elim

theorem not_again (ha : Agrees issued h s) {n : Nat} {old new new' : String}
    (hex : h.exchanged n old new) : ¬Exchanged s t old new' := by
  rintro ⟨⟨row, hrow, hlive⟩, -, -, -⟩
  obtain ⟨oldRow, -, hold, hrevoked, -⟩ := ha.exchanged old new ⟨n, hex⟩
  obtain rfl : row = oldRow := Option.some.inj (hrow.symm.trans hold)
  exact hrevoked hlive

theorem observe_once (ha : Agrees issued h s) (hstep : SessionStep issued s t) {n m : Nat}
    {old new new' : String} (hex : (h.observe s t).exchanged n old new)
    (hex' : (h.observe s t).exchanged m old new') : n = m ∧ new = new' := by
  rcases hex with hex | ⟨rfl, hex⟩ <;> rcases hex' with hex' | ⟨rfl, hex'⟩
  · exact ha.once _ _ _ _ _ hex hex'
  · exact (ha.not_again hex hex').elim
  · exact (ha.not_again hex' hex).elim
  · refine ⟨rfl, ?_⟩
    rcases hstep.exchange_cases with hnone | ⟨a, b, -, -, -, -, -, -, hiff⟩
    · exact (hnone _ _ hex).elim
    · exact ((hiff _ _).mp hex).2.trans ((hiff _ _).mp hex').2.symm

theorem observe_exchanged (ha : Agrees issued h s) (hstep : SessionStep issued s t)
    {old new : String} (hfollows : (h.observe s t).follows old new) :
    ∃ oldRow row, t old = some oldRow ∧ oldRow.revokedAt ≠ none ∧ t new = some row ∧
      row.refreshExpiresAt = oldRow.refreshExpiresAt ∧ row.expiresAt ≤ row.refreshExpiresAt := by
  obtain ⟨n, hex | ⟨-, hex⟩⟩ := hfollows
  · obtain ⟨oldRow, row, hold, hrevoked, hnew, hcap, hexpires⟩ := ha.exchanged old new ⟨n, hex⟩
    obtain ⟨oldAt, hold', hkept⟩ := hstep.row hold
    obtain ⟨newAt, hnew', -⟩ := hstep.row hnew
    exact ⟨_, _, hold', hkept hrevoked, hnew', hcap, hexpires⟩
  · obtain ⟨oldRow, hold, hrevoked⟩ := hex.2.1
    rcases hstep.exchange_cases with hnone | ⟨a, b, aRow, row, ha', hb, hcap, hexpires, hiff⟩
    · exact (hnone _ _ hex).elim
    obtain ⟨rfl, rfl⟩ := (hiff _ _).mp hex
    obtain ⟨aAt, hrow, -⟩ := hstep.row ha'
    obtain rfl := Option.some.inj (hrow.symm.trans hold)
    exact ⟨_, row, hold, hrevoked, hb, hcap, hexpires⟩

theorem observe_rooted (ha : Agrees issued h s) {id : String} {row : Session}
    (hrow : t id = some row) :
    ∃ first value, (h.observe s t).login first value ∧ (h.observe s t).chain first id := by
  cases hold : s id with
  | some oldRow =>
      obtain ⟨first, value, hlogin, hchain⟩ := ha.rooted id oldRow hold
      exact ⟨first, value, .inl hlogin, History.chain_observe hchain⟩
  | none =>
      by_cases hex : ∃ old, Exchanged s t old id
      · obtain ⟨old, hex⟩ := hex
        obtain ⟨oldRow, hlive, -⟩ := hex.1
        obtain ⟨first, value, hlogin, hchain⟩ := ha.rooted old oldRow hlive
        have hlast : (h.observe s t).follows old id := ⟨h.steps, .inr ⟨rfl, hex⟩⟩
        exact ⟨first, value, .inl hlogin, (History.chain_observe hchain).tail hlast⟩
      · have hlogin : (h.observe s t).login id row.refreshExpiresAt :=
          .inr ⟨hold, fun old ho => hex ⟨old, ho⟩, row, hrow, rfl⟩
        exact ⟨id, _, hlogin, .refl⟩

theorem observe (ha : Agrees issued h s) (hstep : SessionStep issued s t) :
    Agrees issued (h.observe s t) t where
  issued := by
    intro id row hrow
    cases hold : s id with
    | none => exact hstep.created hold hrow
    | some oldRow =>
        obtain ⟨revokedAt, hkept, -⟩ := hstep.row hold
        obtain rfl := Option.some.inj (hkept.symm.trans hrow)
        exact ha.issued id oldRow hold
  past := by
    rintro n old new (hex | ⟨rfl, -⟩)
    · exact (ha.past n old new hex).trans (Nat.lt_succ_self _)
    · exact Nat.lt_succ_self _
  login := by
    rintro id value (hlogin | ⟨-, -, hrow⟩)
    · obtain ⟨row, hrow, hvalue⟩ := ha.login id value hlogin
      obtain ⟨revokedAt, hkept, -⟩ := hstep.row hrow
      exact ⟨_, hkept, hvalue⟩
    · exact hrow
  rooted := fun _ _ hrow => ha.observe_rooted hrow
  once := fun _ _ _ _ _ hex hex' => ha.observe_once hstep hex hex'
  exchanged := fun _ _ hfollows => ha.observe_exchanged hstep hfollows

end Agrees

/-- Where a thing has at most one successor and loses its life with it, two live
things that come from one are the same. -/
theorem eq_of_live {α : Type} {r : α → α → Prop} {live : α → Prop}
    (hunique : Relator.RightUnique r) (hretired : ∀ a b, r a b → ¬live a) {x a b : α}
    (ha : ReflTransGen r x a) (hb : ReflTransGen r x b) (hlive : live a) (hlive' : live b) :
    a = b := by
  rcases ReflTransGen.total_of_right_unique hunique ha hb with hab | hba
  · rcases hab.cases_head with rfl | ⟨c, hac, -⟩
    · rfl
    · exact (hretired a c hac hlive).elim
  · rcases hba.cases_head with rfl | ⟨c, hbc, -⟩
    · rfl
    · exact (hretired b c hbc hlive').elim

theorem Agrees.capped {issued : String → String → Prop} {h : History} {s : Sessions}
    (ha : Agrees issued h s) {first last : String} {value : Nat} (hlogin : h.login first value)
    (hchain : h.chain first last) :
    ∃ row, s last = some row ∧ row.refreshExpiresAt = value := by
  induction hchain with
  | refl => exact ha.login first value hlogin
  | tail _ hlast ih =>
      obtain ⟨row, hrow, hvalue⟩ := ih
      obtain ⟨oldRow, newRow, hold, -, hnew, hcap, -⟩ := ha.exchanged _ _ hlast
      obtain rfl := Option.some.inj (hrow.symm.trans hold)
      exact ⟨newRow, hnew, hcap.trans hvalue⟩

theorem Agrees.rotationSafe {issued : String → String → Prop} {h : History} {s : Sessions}
    (ha : Agrees issued h s)
    (hissued : ∀ id id' hash, issued id hash → issued id' hash → id = id') : RotationSafe h s where
  once := by
    intro n m old old' new new' hex hex'
    obtain ⟨row, -, hrow, -⟩ := ha.exchanged old new ⟨n, hex⟩
    obtain ⟨row', -, hrow', -⟩ := ha.exchanged old' new' ⟨m, hex'⟩
    refine ⟨row, row', hrow, hrow', fun hhash => ?_⟩
    have hdrawn := ha.issued old' row' hrow'
    obtain rfl : old = old' := hissued old old' _ (ha.issued old row hrow) (hhash ▸ hdrawn)
    obtain ⟨hn, hnew⟩ := ha.once n m old new new' hex hex'
    exact ⟨hn, rfl, hnew⟩
  rooted := ha.rooted
  capped := by
    intro first value last hlogin hchain
    obtain ⟨row, hrow, hvalue⟩ := ha.capped hlogin hchain
    refine ⟨row, hrow, hvalue, fun ⟨old, hfollows⟩ => ?_⟩
    obtain ⟨-, newRow, -, -, hnew, -, hexpires⟩ := ha.exchanged old last hfollows
    obtain rfl := Option.some.inj (hrow.symm.trans hnew)
    exact hvalue ▸ hexpires
  single := by
    intro first id id' hchain hchain' hlive hlive'
    refine eq_of_live (r := h.follows) ?_ ?_ hchain hchain' hlive hlive'
    · rintro a b c ⟨n, hb⟩ ⟨m, hc⟩
      exact (ha.once n m a b c hb hc).2
    · rintro a b hab ⟨row, hrow, hlive⟩
      obtain ⟨oldRow, -, hold, hrevoked, -⟩ := ha.exchanged a b hab
      obtain rfl := Option.some.inj (hrow.symm.trans hold)
      exact hrevoked hlive

end KubeNova.Auth
