import KubeNova.Auth.AuthRepository
import KubeNova.Foundation.Trimming
import KubeNova.Users.Administrators
import KubeNova.Users.GrantMutations

/-!
# Whom a login name stands for

A login is looked up among the addresses and the names of the active users.  Addresses are unique,
names are not, and nothing relates the name of one user to the address of another.  What a step does
to them is said once, over the logins alone; a login is unambiguous exactly as long as no active
user is named like the address of another one.
-/

namespace KubeNova.Users

open KubeNova.Common KubeNova.Foundation KubeNova.Auth Function

structure Login where
  email : String
  name : Option String
  isActive : Bool
  deriving Repr, DecidableEq

abbrev Logins := String → Option Login

/-- Addresses are trimmed, and no two users have the same. -/
structure EmailsUnique (f : Logins) : Prop where
  trimmed : ∀ id login, f id = some login → Text.trim login.email = login.email
  unique : ∀ id login k other, f id = some login → f k = some other →
    other.email = login.email → k = id

def NamesApart (f : Logins) : Prop :=
  ∀ id login k other, f id = some login → f k = some other → login.isActive = true →
    other.isActive = true → k ≠ id → other.name ≠ some login.email

/-- A login is written whose address no other user has, one is removed, or nothing changes. -/
inductive LoginStep (f : Logins) : Logins → Prop
  | same : LoginStep f f
  | write {id : String} {login : Login} : Text.trim login.email = login.email →
      (∀ k other, f k = some other → k ≠ id → other.email ≠ login.email) →
      LoginStep f (update f id (some login))
  | remove {id : String} : LoginStep f (update f id none)

/-- An active login that was not there before has neither the address nor the name of another active
one as its name or address. -/
def Spares (f g : Logins) : Prop :=
  ∀ id login, g id = some login → f id ≠ some login → login.isActive = true →
    ∀ k other, f k = some other → k ≠ id → other.isActive = true →
      other.name ≠ some login.email ∧ login.name ≠ some other.email

theorem EmailsUnique.step {f g : Logins} (hf : EmailsUnique f) (h : LoginStep f g) :
    EmailsUnique g := by
  cases h with
  | same => exact hf
  | @write id login htrimmed hother =>
      refine ⟨fun k other hk => ?_, fun k other k' other' hk hk' hsame => ?_⟩
      · by_cases hid : k = id
        · subst hid
          rw [update_self] at hk
          obtain rfl := Option.some.inj hk
          exact htrimmed
        · rw [update_of_ne hid] at hk
          exact hf.trimmed k other hk
      · by_cases hid : k = id
        · by_cases hid' : k' = id
          · rw [hid, hid']
          · subst hid
            rw [update_self] at hk
            rw [update_of_ne hid'] at hk'
            obtain rfl := Option.some.inj hk
            exact absurd hsame (hother k' other' hk' hid')
        · rw [update_of_ne hid] at hk
          by_cases hid' : k' = id
          · subst hid'
            rw [update_self] at hk'
            obtain rfl := Option.some.inj hk'
            exact absurd hsame.symm (hother k other hk hid)
          · rw [update_of_ne hid'] at hk'
            exact hf.unique k other k' other' hk hk' hsame
  | @remove id =>
      have hold : ∀ k other, update f id none k = some other → f k = some other := by
        intro k other hk
        by_cases hid : k = id
        · subst hid
          rw [update_self] at hk
          cases hk
        · rw [update_of_ne hid] at hk
          exact hk
      refine ⟨fun k other hk => hf.trimmed k other (hold k other hk), ?_⟩
      intro k other k' other' hk hk'
      exact hf.unique k other k' other' (hold k other hk) (hold k' other' hk')

theorem NamesApart.step {f g : Logins} (hf : NamesApart f) (h : LoginStep f g)
    (hspares : Spares f g) : NamesApart g := by
  intro k login k' other hk hk' hactive hactive' hne
  by_cases hold : f k = some login
  · by_cases hold' : f k' = some other
    · exact hf k login k' other hold hold' hactive hactive' hne
    · exact (hspares k' other hk' hold' hactive' k login hold (Ne.symm hne) hactive).2
  · -- The step wrote the one login, so the other one was there.
    have hold' : f k' = some other := by
      cases h with
      | same => exact hk'
      | @write id written _ _ =>
          have hid : k = id := by
            by_contra hid
            rw [update_of_ne hid] at hk
            exact hold hk
          rw [hid] at hne
          rw [update_of_ne hne] at hk'
          exact hk'
      | @remove id =>
          by_cases hid : k' = id
          · subst hid
            rw [update_self] at hk'
            cases hk'
          · rw [update_of_ne hid] at hk'
            exact hk'
    exact (hspares k login hk hold hactive k' other hold' hne hactive').1

def loginOf (user : User) : Login := ⟨user.email, user.name, user.isActive⟩

def logins (users : Table String User) : Logins := fun id => (users.lookup id).map loginOf

theorem logins_eq_some {users : Table String User} {id : String} {user : User}
    (h : users.lookup id = some user) : logins users id = some (loginOf user) := by
  rw [logins, h, Option.map_some]

theorem exists_of_logins {users : Table String User} {id : String} {login : Login}
    (h : logins users id = some login) : ∃ user, users.lookup id = some user ∧ loginOf user = login :=
  Option.map_eq_some_iff.mp h

theorem logins_update {users : Table String User} {id : String} {f : User → User} {user : User}
    (h : users.lookup id = some user) :
    logins (users.update id f) = update (logins users) id (some (loginOf (f user))) := by
  funext k
  by_cases hid : k = id
  · subst hid
    rw [logins, Table.lookup_update_self, h, update_self]
    rfl
  · rw [logins, Table.lookup_update_ne _ _ hid, update_of_ne hid, logins]

theorem logins_insert (users : Table String User) (id : String) (user : User) :
    logins (users.insert id user) = update (logins users) id (some (loginOf user)) := by
  funext k
  by_cases hid : k = id
  · subst hid
    rw [logins, AList.lookup_insert, update_self, Option.map_some]
  · rw [logins, AList.lookup_insert_ne hid, update_of_ne hid, logins]

theorem logins_erase (users : Table String User) (id : String) :
    logins (users.erase id) = update (logins users) id none := by
  funext k
  by_cases hid : k = id
  · subst hid
    rw [logins, AList.lookup_erase, update_self, Option.map_none]
  · rw [logins, AList.lookup_erase_ne hid, update_of_ne hid, logins]

/-- In whatever order the database has the rows, the address of an active user is the login of
that user alone. -/
def LoginsUnambiguous (users : Table String User) : Prop :=
  ∀ id user, users.lookup id = some user → user.isActive = true →
    ∀ (s : State) username, (∀ k, s.users.lookup k = users.lookup k) →
      Text.trim username = user.email →
        ((AuthRepository.findActiveUserByUsername username).run s).1 = .ok (some (id, user))

theorem first?_insert_self {p : String → User → Bool} {users : Table String User} {id : String}
    {user : User} (hp : p id user = true) :
    Table.first? p (AList.insert id user users) = some (id, user) := by
  have hfind : (AList.insert id user users).entries.find? (fun r => p r.1 r.2) = some ⟨id, user⟩ := by
    rw [AList.entries_insert]
    exact List.find?_cons_of_pos hp
  rw [Table.first?, hfind]
  rfl

theorem loginsUnambiguous_iff {users : Table String User} (hunique : EmailsUnique (logins users)) :
    LoginsUnambiguous users ↔ NamesApart (logins users) := by
  constructor
  · intro h id login k other hid hk hactive hactive' hne hname
    obtain ⟨user, huser, rfl⟩ := exists_of_logins hid
    obtain ⟨user', huser', rfl⟩ := exists_of_logins hk
    -- The other user's row may be the first that the database finds.
    obtain ⟨s, hs⟩ : ∃ s : State, s.users = AList.insert k user' users :=
      ⟨{ emptyState with users := AList.insert k user' users }, rfl⟩
    have hrows : ∀ j, s.users.lookup j = users.lookup j := by
      intro j
      rw [hs, Table.lookup_insert]
      split_ifs with hj
      · rw [hj, huser']
      · rfl
    have htrim : Text.trim user.email = user.email := hunique.trimmed id (loginOf user) hid
    have hfound := h id user huser hactive s user.email hrows htrim
    have hactive' : user'.isActive = true := hactive'
    have hname : user'.name = some user.email := hname
    have hfirst : (s.users.first? fun _ other => other.isActive &&
        (other.email == Text.trim user.email || other.name == some (Text.trim user.email))) =
          some (k, user') := by
      rw [hs]
      apply first?_insert_self
      rw [htrim, hactive', hname]
      simp
    have hrun : ((AuthRepository.findActiveUserByUsername user.email).run s).1 =
        .ok (some (k, user')) := congrArg Except.ok hfirst
    rw [hrun] at hfound
    exact hne (Prod.mk.inj (Option.some.inj (Except.ok.inj hfound))).1
  · intro h id user huser hactive s username hrows htrim
    have hlogin := logins_eq_some huser
    show Except.ok (s.users.first? fun _ other => other.isActive &&
      (other.email == Text.trim username || other.name == some (Text.trim username))) = _
    rw [htrim]
    cases hfirst : s.users.first? fun _ other => other.isActive &&
        (other.email == user.email || other.name == some user.email) with
    | none =>
        have hnone := Table.first?_eq_none hfirst ((hrows id).trans huser)
        simp [hactive] at hnone
    | some found =>
        obtain ⟨k, other⟩ := found
        obtain ⟨hother, hmatches⟩ := Table.first?_eq_some hfirst
        rw [hrows k] at hother
        simp only [Bool.and_eq_true, Bool.or_eq_true, beq_iff_eq] at hmatches
        have hsame : k = id := by
          by_contra hne
          rcases hmatches.2 with hemail | hname
          · exact hne (hunique.unique id (loginOf user) k (loginOf other) hlogin (logins_eq_some hother) hemail)
          · exact h id (loginOf user) k (loginOf other) hlogin (logins_eq_some hother) hactive hmatches.1 hne
              hname
        subst hsame
        rw [huser] at hother
        rw [Option.some.inj hother]

/-! ## What the requests do -/

def loginProtocol {σ : Type} (users : σ → Table String User) : Protocol σ where
  inv s := EmailsUnique (logins (users s))
  guar s t := LoginStep (logins (users s)) (logins (users t))
  refl _ := .same
  preserves := EmailsUnique.step

theorem loginStep_update {users : Table String User} (hunique : EmailsUnique (logins users))
    {id : String} {f : User → User} {user : User} (huser : users.lookup id = some user)
    (hemail : (f user).email = user.email ∨ (Text.trim (f user).email = (f user).email ∧
      ∀ k other, users.lookup k = some other → k ≠ id → other.email ≠ (f user).email)) :
    LoginStep (logins users) (logins (users.update id f)) := by
  rw [logins_update huser]
  have hlogin := logins_eq_some huser
  refine .write ?_ ?_
  · rcases hemail with hsame | ⟨htrimmed, -⟩
    · have htrim := hunique.trimmed id (loginOf user) hlogin
      show Text.trim (f user).email = (f user).email
      rw [hsame]
      exact htrim
    · exact htrimmed
  · intro k other hk hne hclash
    rcases hemail with hsame | ⟨-, hfree⟩
    · exact hne (hunique.unique id (loginOf user) k other hlogin hk (hclash.trans hsame))
    · obtain ⟨row, hrow, rfl⟩ := exists_of_logins hk
      exact hfree k row hrow hne hclash

theorem obeys_setLogin (config : Config) (actor : Option Actor) (id : String) (isActive : Bool) :
    Obeys (loginProtocol State.users) (setState config actor id isActive) := by
  refine obeys_setState _ _ _ _ fun _ => .attempt fun s hs user t h => ?_
  obtain ⟨old, hold, -, rfl⟩ := updateRow_eq_ok h
  exact loginStep_update hs hold (.inl rfl)

def HasTrimmedEmail (data : UserChange) : Prop :=
  ∀ email, data.email = some email → Text.trim email = email

theorem trim_requiredTrim {value field text : String} (h : requiredTrim value field = .ok text) :
    Text.trim text = text := by
  unfold requiredTrim at h
  dsimp only at h
  split at h
  · cases h
  · obtain rfl := Except.ok.inj h
    exact Text.trim_trim value

theorem obeys_usernameChange_bind {α : Type} {P : Protocol State} {id : String}
    {k : UserChange → Handler α} (hk : ∀ data, HasTrimmedEmail data → Obeys P (k data)) :
    ∀ username, Obeys P (usernameChange id username >>= k)
  | none => hk {} (fun _ h => nomatch h)
  | some value => by
      simp only [usernameChange, Async.bind_assoc]
      refine .ofExcept_bind fun username husername => .bind (.query _) fun _ =>
        .bind (.ensure _ _) fun _ => hk _ fun email hemail => ?_
      obtain rfl := Option.some.inj hemail
      exact trim_requiredTrim husername

theorem obeys_nameChange_bind {α : Type} {P : Protocol State} {data : UserChange}
    {k : UserChange → Handler α}
    (hk : ∀ data', data'.email = data.email → Obeys P (k data')) :
    ∀ name, Obeys P (nameChange data name >>= k)
  | none => hk data rfl
  | some value => by
      simp only [nameChange, Async.bind_assoc]
      exact .ofExcept_bind fun name _ => hk _ rfl

theorem obeys_passwordChange_bind {α : Type} {P : Protocol State} {crypto : Crypto} {salt : String}
    {data : UserChange} {k : UserChange → Handler α}
    (hk : ∀ data', data'.email = data.email → Obeys P (k data')) :
    ∀ password, Obeys P (passwordChange crypto salt data password >>= k)
  | none => hk data rfl
  | some value => by
      simp only [passwordChange, Async.bind_assoc]
      exact .bind (.ensure _ _) fun _ => hk _ rfl

theorem loginStep_updateProfile {id : String} {data : UserChange} (hdata : HasTrimmedEmail data)
    {s t : State} {user : User} (hs : EmailsUnique (logins s.users))
    (h : updateProfile id data s = .ok (user, t)) :
    LoginStep (logins s.users) (logins t.users) := by
  unfold updateProfile at h
  split at h
  · cases h
  rename_i hfree
  obtain ⟨old, hold, -, rfl⟩ := updateRow_eq_ok h
  refine loginStep_update hs hold ?_
  cases hemail : data.email with
  | none => exact .inl (by simp [UserChange.apply, hemail])
  | some email =>
      refine .inr ?_
      have happly : (data.apply old).email = email := by simp [UserChange.apply, hemail]
      rw [happly]
      refine ⟨hdata email hemail, fun k other hother hne hclash => hfree ⟨by rw [hold]; rfl, ?_⟩⟩
      rw [← Option.not_isNone, Bool.not_eq_true', ← Bool.not_eq_true]
      intro hnone
      have hrow := Table.first?_eq_none (Option.isNone_iff_eq_none.mp hnone) hother
      simp [hne, hemail, hclash] at hrow

theorem obeys_updateLogin (crypto : Crypto) (config : Config) (actor : Option Actor) (id : String)
    (body : UpdateUserRequest) (salt : String) :
    Obeys (loginProtocol State.users) (updateUser crypto config actor id body salt) := by
  refine .bind (.ofExcept _) fun _ => .bind (obeys_assertSuperadministrator _ _ _) fun _ =>
    .bind (.ensure _ _) fun _ => .bind (obeys_mustFindUser _) fun _ => ?_
  refine obeys_usernameChange_bind (fun data hdata => ?_) _
  refine obeys_nameChange_bind (fun data' hname => ?_) _
  refine obeys_passwordChange_bind (fun data'' hpassword => ?_) _
  refine .bind (.ensure _ _) fun _ => .bind (.attempt fun s hs user t h => ?_) fun _ => .done _
  refine loginStep_updateProfile (fun email hemail => ?_) hs h
  exact hdata email ((hname.symm.trans hpassword.symm).trans hemail)

theorem obeys_onAccounts {α : Type} {h : Handler α} (hh : Obeys (loginProtocol State.users) h) :
    Obeys (loginProtocol Registry.users) (onAccounts h) :=
  .zoom hh (fun _ hs => hs) fun _ _ _ hstep => hstep

theorem trim_requiredField {message text : String} {value : Option String}
    (h : requiredField message (value.map Text.trim) = .ok text) : Text.trim text = text := by
  cases value with
  | none => cases h
  | some value =>
      simp only [requiredField, Option.map_some] at h
      split at h
      · cases h
      · obtain rfl := Except.ok.inj h
        exact Text.trim_trim value

theorem loginStep_insertUser {id : String} {user : User} {accepted : Accepted} {s t : Registry}
    (htrim : Text.trim user.email = user.email) (h : insertUser id user s = .ok (accepted, t)) :
    LoginStep (logins s.users) (logins t.users) := by
  unfold insertUser at h
  split at h
  · cases h
  · rename_i hfree
    obtain ⟨-, rfl⟩ := Prod.mk.inj (Except.ok.inj h)
    show LoginStep (logins s.users) (logins (s.users.insert id user))
    rw [logins_insert]
    refine .write htrim fun k other hk _ hclash => hfree (.inr ?_)
    obtain ⟨row, hrow, rfl⟩ := exists_of_logins hk
    rw [← Option.not_isNone, Bool.not_eq_true', ← Bool.not_eq_true]
    intro hnone
    have hmiss := Table.first?_eq_none (Option.isNone_iff_eq_none.mp hnone) hrow
    have hemail : row.email = user.email := hclash
    simp [hemail] at hmiss

theorem obeys_createLogin (crypto : Crypto) (actor : Option Actor) (body : CreateUserRequest)
    (id salt : String) :
    Obeys (loginProtocol Registry.users) (createUser crypto actor body id salt) := by
  refine .bind (.ofExcept _) fun _ => .bind (.ensure _ _) fun _ => ?_
  refine .ofExcept_bind fun username husername => .bind (.ofExcept _) fun password => ?_
  refine .bind (.query _) fun _ => .bind (.ensure _ _) fun _ => ?_
  exact .attempt fun s _ accepted t h => loginStep_insertUser (trim_requiredField husername) h

theorem loginStep_deleteUserRow {id : String} {accepted : Accepted} {s t : Registry}
    (h : deleteUserRow id s = .ok (accepted, t)) : LoginStep (logins s.users) (logins t.users) := by
  unfold deleteUserRow at h
  split at h
  · cases h
  split at h
  · cases h
  obtain ⟨-, rfl⟩ := Prod.mk.inj (Except.ok.inj h)
  show LoginStep (logins s.users) (logins (s.users.erase id))
  rw [logins_erase]
  exact .remove

theorem obeys_removeLogin (config : Config) (actor : Option Actor) (id : String) :
    Obeys (loginProtocol Registry.users) (removeUser config actor id) := by
  refine .bind (.ofExcept _) fun _ => ?_
  refine .bind (obeys_onAccounts (obeys_assertSuperadministrator _ _ _)) fun _ => ?_
  refine .bind (obeys_onAccounts (obeys_mustFindUser _)) fun _ => ?_
  refine .bind (obeys_onAccounts (obeys_assertNotLastAdministrator _ _ _)) fun _ => ?_
  exact .attempt fun s _ accepted t h => loginStep_deleteUserRow h

/-! ## Every run -/

/-- The requests that write logins: accounts are created, edited, enabled, disabled and deleted. -/
inductive ServesAccount (context : RegistryContext) : RegistryHandler → Prop
  | create (actor : Option Actor) (body : CreateUserRequest) (id salt : String) :
      ServesAccount context (serveMutation context actor (.createUser body id salt))
  | update (actor : Option Actor) (id : String) (body : UpdateUserRequest) (salt : String) :
      ServesAccount context (serveMutation context actor (.updateUser id body salt))
  | setState (actor : Option Actor) (id : String) (isActive : Bool) :
      ServesAccount context (serveMutation context actor (.setState id isActive))
  | delete (actor : Option Actor) (id : String) :
      ServesAccount context (serveMutation context actor (.deleteUser id))

/-- The rest of the program may change anything but the logins. -/
def KeepsLogins (s t : Registry) : Prop := logins t.users = logins s.users

def SparesLogins (s t : Registry) : Prop := Spares (logins s.users) (logins t.users)

theorem ServesAccount.obeys {context : RegistryContext} {h : RegistryHandler}
    (hh : ServesAccount context h) : Obeys (loginProtocol Registry.users) h := by
  cases hh with
  | create actor body id salt => exact obeys_createLogin _ _ _ _ _
  | update actor id body salt =>
      exact .bind (obeys_onAccounts (obeys_updateLogin _ _ _ _ _ _)) fun _ => .done _
  | setState actor id isActive =>
      exact .bind (obeys_onAccounts (obeys_setLogin _ _ _ _)) fun _ => .done _
  | delete actor id => exact obeys_removeLogin _ _ _

theorem KeepsLogins.loginStep {s t : Registry} (h : KeepsLogins s t) :
    LoginStep (logins s.users) (logins t.users) := by
  rw [show logins t.users = logins s.users from h]
  exact .same

theorem NamesApart.spares {f g : Logins} (hg : NamesApart g) (h : LoginStep f g) : Spares f g := by
  intro id login hid hnew hactive k other hk hne hactive'
  have hk' : g k = some other := by
    cases h with
    | same => exact hk
    | @write written login' _ _ =>
        have hwritten : id = written := by
          by_contra hother
          rw [update_of_ne hother] at hid
          exact hnew hid
        rw [update_of_ne (hwritten ▸ hne)]
        exact hk
    | @remove removed =>
        have hgone : k ≠ removed := by
          rintro rfl
          rw [update_of_ne (Ne.symm hne)] at hid
          exact hnew hid
        rw [update_of_ne hgone]
        exact hk
  exact ⟨hg id login k other hid hk' hactive hactive' hne,
    hg k other id login hk' hid hactive' hactive (Ne.symm hne)⟩

theorem emailsUnique_empty : EmailsUnique (logins ∅) :=
  ⟨fun _ _ h => (nomatch h), fun _ _ _ _ h => (nomatch h)⟩

theorem namesApart_empty : NamesApart (logins ∅) := fun _ _ _ _ h => nomatch h

theorem safe_of_reach {context : RegistryContext} {init : Registry} (hinit : init.users = ∅)
    {c : Pool Exception Registry Accepted}
    (hc : Reach (ServesAccount context) KeepsLogins init c) :
    (loginProtocol Registry.users).Safe (fun _ _ => True) c := by
  have hempty : EmailsUnique (logins init.users) := by
    rw [hinit]
    exact emailsUnique_empty
  exact (Protocol.reachable (fun _ _ hh hs => hh.obeys.guards hs)
    (fun _ _ _ hkeeps => KeepsLogins.loginStep hkeeps) hempty hc).1

/-- From an empty table, logins stay unambiguous as long as every login written spares the others;
and the first step that does not makes one ambiguous. -/
theorem logins_unambiguous_iff (context : RegistryContext) {init : Registry}
    (hinit : init.users = ∅) :
    (∀ c, ReachVia (ServesAccount context) KeepsLogins SparesLogins init c →
      LoginsUnambiguous c.shared.users) ∧
    ∀ c c', Reach (ServesAccount context) KeepsLogins init c →
      Step (ServesAccount context) KeepsLogins c c' → LoginsUnambiguous c.shared.users →
        (LoginsUnambiguous c'.shared.users ↔ SparesLogins c.shared c'.shared) := by
  constructor
  · intro c hc
    have hsafe := safe_of_reach hinit (hc.lift id fun _ _ h => h.1)
    have hstart : NamesApart (logins init.users) := by
      rw [hinit]
      exact namesApart_empty
    have hempty : EmailsUnique (logins init.users) := by
      rw [hinit]
      exact emailsUnique_empty
    have hapart : NamesApart (logins c.shared.users) :=
      @Protocol.reachable_via _ _ _ (loginProtocol Registry.users) _ _ SparesLogins
        (fun s => NamesApart (logins s.users)) (fun _ hh => hh.obeys)
        (fun _ _ _ hkeeps => KeepsLogins.loginStep hkeeps)
        (fun _ _ _ hstep hspares hapart => hapart.step hstep hspares) _ hempty hstart _ hc
    exact (loginsUnambiguous_iff hsafe.inv).mpr hapart
  · intro c c' hc hmove hunambiguous
    have hsafe := safe_of_reach hinit hc
    have hapart := (loginsUnambiguous_iff hsafe.inv).mp hunambiguous
    obtain ⟨hsafe', hstep⟩ := Protocol.safe_step (fun _ _ hh hs => hh.obeys.guards hs)
      (fun _ _ _ hkeeps => KeepsLogins.loginStep hkeeps) hsafe hmove
    rw [loginsUnambiguous_iff hsafe'.inv]
    constructor
    · intro hapart'
      exact hapart'.spares hstep
    · intro hspares
      exact hapart.step hstep hspares

def accountContext : RegistryContext := ⟨.ofDigests [], plainConfig, fun _ => none, fun _ _ => none⟩

def noUsers : Registry where
  now := 5
  users := ∅
  userIds := []
  identities := ∅
  groups := ∅
  memberships := ∅
  grants := ∅
  clusters _ := none
  changes := []

def createLogin (username id : String) : RegistryHandler :=
  serveMutation accountContext annActs (.createUser ⟨some username, some "pw", none⟩ id "")

def renameLogin (id name : String) : RegistryHandler :=
  serveMutation accountContext annActs (.updateUser id ⟨none, some name, none, none⟩ "")

/-- The first account is created, and its address is a login of its own. -/
theorem logins_unambiguous_first : ∃ c : Pool Exception Registry Accepted,
    ReachVia (ServesAccount accountContext) KeepsLogins SparesLogins noUsers c ∧
      logins c.shared.users "1" = some ⟨"ann", some "ann", true⟩ ∧
      LoginsUnambiguous c.shared.users := by
  have hkept : ∀ s, SparesLogins s s := fun _ _ _ hid hnew => absurd hid hnew
  have harrived : ReachVia (ServesAccount accountContext) KeepsLogins SparesLogins noUsers
      ⟨noUsers, [createLogin "ann" "1"]⟩ :=
    ReachVia.arrive (c := ⟨noUsers, []⟩) .refl _ (.create _ _ _ _) (hkept _)
  have hread := harrived.advance 0 (hkept _)
  have hwrite := hread.advance 0 fun _ _ _ _ _ _ _ hother => nomatch hother
  exact ⟨_, hwrite, by decide +kernel, (logins_unambiguous_iff accountContext rfl).1 _ hwrite⟩

/-- Bob takes Ann's address as his display name, and may be let in where she asks to be. -/
theorem display_name_taken : ¬∀ (context : RegistryContext) (init : Registry)
    (c : Pool Exception Registry Accepted), init.users = ∅ →
      Reach (ServesAccount context) KeepsLogins init c → LoginsUnambiguous c.shared.users := by
  intro h
  have hann : Reach (ServesAccount accountContext) KeepsLogins noUsers ⟨noUsers, []⟩ := .refl
  obtain ⟨c₁, hc₁, hs₁⟩ := hann.serve (createLogin "ann" "1") (.create _ _ _ _)
  obtain ⟨c₂, hc₂, hs₂⟩ := hc₁.serve (createLogin "bob" "2") (.create _ _ _ _)
  obtain ⟨c₃, hc₃, hs₃⟩ := hc₂.serve (renameLogin "2" "ann") (.update _ _ _ _)
  have hapart := (loginsUnambiguous_iff (safe_of_reach rfl hc₃).inv).mp (h _ _ _ rfl hc₃)
  have hfirst : logins c₃.shared.users "1" = some ⟨"ann", some "ann", true⟩ := by
    rw [hs₃, hs₂, hs₁]
    decide +kernel
  have hsecond : logins c₃.shared.users "2" = some ⟨"bob", some "ann", true⟩ := by
    rw [hs₃, hs₂, hs₁]
    decide +kernel
  exact hapart "1" _ "2" _ hfirst hsecond rfl rfl (by decide) rfl

end KubeNova.Users
