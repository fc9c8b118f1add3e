import CoreVpn.Lib.SortedMap
import CoreVpn.Lib.Machine
import Mathlib.Data.String.Basic

/-!
# OAuth sessions and their state index

`AuthSessionManager` (`corevpn-auth/src/session.rs`) keeps the authentication
sessions by id and, beside them, an index from each session's OAuth `state` to its
id, through which the provider's callback finds its session. Both `HashMap`s are
sorted maps here. The clock and the random values a new session draws, its UUID and
its `AuthState`, are inputs.

The index is meant to hold exactly the pairs of a stored session's state and id
(`Consistent`). Creating a session with fresh values, every removal, and storing
back a session whose state is unchanged keep it so (`run_wellFormed`), and then a
lookup by state finds only a session with that state. `update_session` never
touches the index, though: storing back a session whose state `complete_auth`
cleared leaves the old state pointing at it, and removing the session later, which
reads the state from the stored session, leaves that entry behind.
-/

namespace CoreVpn.Auth

set_option autoImplicit false

/-- `AuthState` (`flow.rs`): its random `state` value. The nonce, PKCE verifier and
instants are read by nothing modelled here. -/
structure AuthState where
  state : String
  deriving DecidableEq

/-- `TokenSet` (`token.rs`), its expiry in seconds. -/
structure TokenSet where
  accessToken : String
  expiresAt : Nat
  deriving DecidableEq

/-- `UserInfo` (`token.rs`), the fields a session reads. -/
structure UserInfo where
  sub : String
  email : Option String
  name : Option String
  deriving DecidableEq

/-- The `AuthError` the manager returns. -/
inductive AuthError
  | sessionNotFound
  deriving DecidableEq

/-- `struct AuthSession`, its instants in seconds. -/
structure AuthSession where
  id : String
  authState : Option AuthState
  tokens : Option TokenSet
  userInfo : Option UserInfo
  provider : String
  createdAt : Nat
  expiresAt : Nat
  lastActivity : Nat
  vpnSessionId : Option String
  deriving DecidableEq

namespace AuthSession

/-- `AuthSession::new`, with the UUID and the `AuthState` it draws and the time. -/
def new (provider : String) (lifetime : Nat) (id : String) (authState : AuthState) (now : Nat) :
    AuthSession where
  id := id
  authState := some authState
  tokens := none
  userInfo := none
  provider := provider
  createdAt := now
  expiresAt := now + lifetime
  lastActivity := now
  vpnSessionId := none

def isExpired (session : AuthSession) (now : Nat) : Bool := decide (session.expiresAt < now)

def isAuthenticated (session : AuthSession) : Bool := session.tokens.isSome && session.userInfo.isSome

/-- `needs_token_refresh`: the tokens expire within five minutes. -/
def needsTokenRefresh (session : AuthSession) (now : Nat) : Bool :=
  match session.tokens with
  | some tokens => decide (tokens.expiresAt < now + 300)
  | none => false

def updateTokens (session : AuthSession) (tokens : TokenSet) (now : Nat) : AuthSession :=
  { session with tokens := some tokens, lastActivity := now }

def updateUserInfo (session : AuthSession) (userInfo : UserInfo) (now : Nat) : AuthSession :=
  { session with userInfo := some userInfo, lastActivity := now }

/-- `complete_auth`: the tokens and the user are stored and the OAuth state cleared. -/
def completeAuth (session : AuthSession) (tokens : TokenSet) (userInfo : UserInfo) (now : Nat) :
    AuthSession :=
  { session with
    tokens := some tokens, userInfo := some userInfo, authState := none, lastActivity := now }

def associateVpnSession (session : AuthSession) (vpnSessionId : String) (now : Nat) : AuthSession :=
  { session with vpnSessionId := some vpnSessionId, lastActivity := now }

def extend (session : AuthSession) (duration now : Nat) : AuthSession :=
  { session with expiresAt := now + duration }

def touch (session : AuthSession) (now : Nat) : AuthSession :=
  { session with lastActivity := now }

/-- `state()`: the OAuth state value, while the flow is pending. -/
def state (session : AuthSession) : Option String := session.authState.map (·.state)

@[simp] theorem id_new (provider : String) (lifetime : Nat) (id : String) (authState : AuthState)
    (now : Nat) : (new provider lifetime id authState now).id = id := rfl

@[simp] theorem state_new (provider : String) (lifetime : Nat) (id : String) (authState : AuthState)
    (now : Nat) : (new provider lifetime id authState now).state = some authState.state := rfl

def email (session : AuthSession) : Option String := session.userInfo.bind (·.email)

def displayName (session : AuthSession) : Option String := session.userInfo.bind (·.name)

end AuthSession

/-- A change a caller makes to a session it got from the manager. -/
inductive Change
  | updateTokens (tokens : TokenSet) (now : Nat)
  | updateUserInfo (userInfo : UserInfo) (now : Nat)
  | completeAuth (tokens : TokenSet) (userInfo : UserInfo) (now : Nat)
  | associateVpnSession (vpnSessionId : String) (now : Nat)
  | extend (duration now : Nat)
  | touch (now : Nat)

namespace Change

def apply : Change → AuthSession → AuthSession
  | .updateTokens tokens now, session => session.updateTokens tokens now
  | .updateUserInfo userInfo now, session => session.updateUserInfo userInfo now
  | .completeAuth tokens userInfo now, session => session.completeAuth tokens userInfo now
  | .associateVpnSession vpnSessionId now, session => session.associateVpnSession vpnSessionId now
  | .extend duration now, session => session.extend duration now
  | .touch now, session => session.touch now

def clearsState : Change → Bool
  | .completeAuth _ _ _ => true
  | _ => false

theorem apply_keeps (change : Change) (kept : change.clearsState = false) (session : AuthSession) :
    (change.apply session).id = session.id ∧ (change.apply session).state = session.state := by
  cases change with
  | completeAuth => cases kept
  | _ => exact ⟨rfl, rfl⟩

end Change

structure AuthSessionManager where
  sessions : SortedMap String AuthSession
  sessionsByState : SortedMap String String
  defaultLifetime : Nat
  maxSessionsPerUser : Nat

namespace AuthSessionManager

def new (defaultLifetime maxSessionsPerUser : Nat) : AuthSessionManager :=
  ⟨.empty, .empty, defaultLifetime, maxSessionsPerUser⟩

/-- `create_session`, with the UUID and the `AuthState` the new session draws. -/
def createSession (manager : AuthSessionManager) (provider id : String) (authState : AuthState)
    (now : Nat) : AuthSession × AuthSessionManager :=
  let session := AuthSession.new provider manager.defaultLifetime id authState now
  let byState :=
    match session.state with
    | some state => manager.sessionsByState.insert state session.id
    | none => manager.sessionsByState
  (session,
    { manager with sessions := manager.sessions.insert session.id session, sessionsByState := byState })

def getSession (manager : AuthSessionManager) (id : String) : Option AuthSession :=
  manager.sessions.find? id

def getSessionByState (manager : AuthSessionManager) (state : String) : Option AuthSession :=
  (manager.sessionsByState.find? state).bind manager.getSession

/-- `update_session`: a stored session is replaced; the state index is left as it is. -/
def updateSession (manager : AuthSessionManager) (session : AuthSession) :
    Except AuthError Unit × AuthSessionManager :=
  if (manager.sessions.find? session.id).isSome then
    (.ok (), { manager with sessions := manager.sessions.insert session.id session })
  else (.error .sessionNotFound, manager)

def dropEntry (sessions : SortedMap String AuthSession) (byState : SortedMap String String)
    (id : String) (state : Option String) : SortedMap String AuthSession × SortedMap String String :=
  (sessions.erase id,
    match state with
    | some state => byState.erase state
    | none => byState)

def removeSession (manager : AuthSessionManager) (id : String) :
    Option AuthSession × AuthSessionManager :=
  match manager.sessions.find? id with
  | some session =>
      let (sessions, byState) := dropEntry manager.sessions manager.sessionsByState id session.state
      (some session, { manager with sessions := sessions, sessionsByState := byState })
  | none => (none, manager)

def getUserSessions (manager : AuthSessionManager) (email : String) : List AuthSession :=
  (manager.sessions.entries.map (·.2)).filter fun session => session.email == some email

def selectSessions (manager : AuthSessionManager) (selected : AuthSession → Bool) :
    List (String × Option String) :=
  (manager.sessions.entries.filter fun entry => selected entry.2).map
    fun entry => (entry.1, entry.2.state)

def removeListed (sessions : SortedMap String AuthSession) (byState : SortedMap String String) :
    List (String × Option String) → SortedMap String AuthSession × SortedMap String String
  | [] => (sessions, byState)
  | (id, state) :: rest =>
      let (sessions, byState) := dropEntry sessions byState id state
      removeListed sessions byState rest

def removeUserSessions (manager : AuthSessionManager) (email : String) :
    Nat × AuthSessionManager :=
  let toRemove := manager.selectSessions fun session => session.email == some email
  let (sessions, byState) := removeListed manager.sessions manager.sessionsByState toRemove
  (toRemove.length, { manager with sessions := sessions, sessionsByState := byState })

def cleanupExpired (manager : AuthSessionManager) (now : Nat) : Nat × AuthSessionManager :=
  let before := manager.sessions.size
  let expired := manager.selectSessions fun session => session.isExpired now
  let (sessions, byState) := removeListed manager.sessions manager.sessionsByState expired
  (before - sessions.size, { manager with sessions := sessions, sessionsByState := byState })

def sessionCount (manager : AuthSessionManager) : Nat := manager.sessions.size

def activeSessions (manager : AuthSessionManager) (now : Nat) : List AuthSession :=
  (manager.sessions.entries.map (·.2)).filter fun session =>
    !session.isExpired now && session.isAuthenticated

/-! ## The state index -/

/-- The state index holds exactly the pairs of a stored session's current state and
its id. -/
def IndexConsistent (sessions : SortedMap String AuthSession) (byState : SortedMap String String) :
    Prop :=
  ∀ state id, byState.find? state = some id ↔
    ∃ session, sessions.find? id = some session ∧ session.state = some state

/-- The manager's index agrees with its session table. -/
def Consistent (manager : AuthSessionManager) : Prop :=
  IndexConsistent manager.sessions manager.sessionsByState

section Index

variable {sessions : SortedMap String AuthSession} {byState : SortedMap String String}

theorem IndexConsistent.unique (consistent : IndexConsistent sessions byState) {state : String}
    {first second : String} {firstSession secondSession : AuthSession}
    (firstFound : sessions.find? first = some firstSession) (firstState : firstSession.state = some state)
    (secondFound : sessions.find? second = some secondSession)
    (secondState : secondSession.state = some state) : first = second := by
  have toFirst := (consistent state first).mpr ⟨_, firstFound, firstState⟩
  have toSecond := (consistent state second).mpr ⟨_, secondFound, secondState⟩
  rw [toFirst] at toSecond
  exact Option.some.inj toSecond

theorem IndexConsistent.state_of_find? (consistent : IndexConsistent sessions byState)
    {state id : String} {session : AuthSession} (leads : byState.find? state = some id)
    (found : sessions.find? id = some session) : session.state = some state := by
  obtain ⟨stored, storedFound, owned⟩ := (consistent state id).mp leads
  rw [found] at storedFound
  rw [Option.some.inj storedFound]
  exact owned

theorem dropEntry_consistent (consistent : IndexConsistent sessions byState) {id : String}
    {session : AuthSession} (found : sessions.find? id = some session) :
    IndexConsistent (dropEntry sessions byState id session.state).1
      (dropEntry sessions byState id session.state).2 := by
  intro state other
  simp only [dropEntry]
  by_cases sameId : other = id
  · -- the removed session is gone, and no state of the index leads to it any more
    subst sameId
    simp only [SortedMap.find?_erase_self, reduceCtorEq, false_and, exists_false, iff_false]
    intro leads
    cases owned : session.state with
    | none =>
        simp only [owned] at leads
        have hasState := consistent.state_of_find? leads found
        rw [owned] at hasState
        cases hasState
    | some current =>
        simp only [owned] at leads
        by_cases sameState : state = current
        · subst sameState
          rw [SortedMap.find?_erase_self] at leads
          cases leads
        · rw [SortedMap.find?_erase_ne _ (Ne.symm sameState)] at leads
          have hasState := consistent.state_of_find? leads found
          rw [owned] at hasState
          exact sameState (Option.some.inj hasState).symm
  · rw [SortedMap.find?_erase_ne _ (Ne.symm sameId)]
    cases owned : session.state with
    | none => exact consistent state other
    | some current =>
        by_cases sameState : state = current
        · -- the state of the removed session leads nowhere, and no other session has it
          subst sameState
          simp only [SortedMap.find?_erase_self, reduceCtorEq, false_iff, not_exists, not_and]
          intro other' stored hasState
          exact sameId (consistent.unique stored hasState found owned)
        · rw [SortedMap.find?_erase_ne _ (Ne.symm sameState)]
          exact consistent state other

theorem removeListed_consistent (listed : List (String × Option String)) :
    ∀ {sessions : SortedMap String AuthSession} {byState : SortedMap String String},
      IndexConsistent sessions byState →
      (∀ entry ∈ listed, ∃ session, sessions.find? entry.1 = some session ∧
        session.state = entry.2) →
      (listed.map (·.1)).Nodup →
      IndexConsistent (removeListed sessions byState listed).1 (removeListed sessions byState listed).2 := by
  induction listed with
  | nil => exact fun consistent _ _ => consistent
  | cons entry rest ih =>
      intro sessions byState consistent stored distinct
      obtain ⟨id, state⟩ := entry
      obtain ⟨session, found, owned⟩ := stored (id, state) List.mem_cons_self
      simp only at owned
      subst owned
      rw [List.map_cons, List.nodup_cons] at distinct
      apply ih (dropEntry_consistent consistent found) _ distinct.2
      intro later member
      have differs : id ≠ later.1 := fun same => distinct.1 (List.mem_map.mpr ⟨later, member, same.symm⟩)
      simp only [dropEntry]
      rw [SortedMap.find?_erase_ne _ differs]
      exact stored later (List.mem_cons_of_mem _ member)

end Index

theorem selectSessions_stored (manager : AuthSessionManager) (selected : AuthSession → Bool) :
    (∀ entry ∈ manager.selectSessions selected, ∃ session,
      manager.sessions.find? entry.1 = some session ∧ session.state = entry.2) ∧
    ((manager.selectSessions selected).map (·.1)).Nodup := by
  constructor
  · intro entry member
    obtain ⟨stored, kept, rfl⟩ := List.mem_map.mp member
    exact ⟨stored.2, (SortedMap.find?_eq_some_iff _ _ _).mpr (List.mem_filter.mp kept).1, rfl⟩
  · rw [selectSessions, List.map_map]
    exact manager.sessions.nodupKeys.sublist List.filter_sublist

theorem consistent_new (defaultLifetime maxSessionsPerUser : Nat) :
    (new defaultLifetime maxSessionsPerUser).Consistent := by
  intro state id
  simp [new]

theorem createSession_consistent (manager : AuthSessionManager) (consistent : manager.Consistent)
    (provider id : String) (authState : AuthState) (now : Nat)
    (freshId : manager.sessions.find? id = none)
    (freshState : manager.sessionsByState.find? authState.state = none) :
    (manager.createSession provider id authState now).2.Consistent := by
  intro state other
  simp only [createSession, AuthSession.state_new, AuthSession.id_new]
  rw [SortedMap.find?_insert, SortedMap.find?_insert]
  by_cases sameState : authState.state = state
  · -- the new state leads to the new session, and to no stored one
    subst sameState
    rw [if_pos rfl, Option.some.injEq]
    constructor
    · rintro rfl
      exact ⟨_, if_pos rfl, AuthSession.state_new ..⟩
    · rintro ⟨session, stored, owned⟩
      by_contra different
      rw [if_neg different] at stored
      rw [(consistent _ other).mpr ⟨session, stored, owned⟩] at freshState
      cases freshState
  · rw [if_neg sameState]
    by_cases sameId : id = other
    · -- the new session has none of the old states, and none of them leads to its id
      subst sameId
      rw [if_pos rfl]
      constructor
      · intro leads
        obtain ⟨_, stored, _⟩ := (consistent state id).mp leads
        rw [freshId] at stored
        cases stored
      · rintro ⟨session, stored, owned⟩
        rw [← Option.some.inj stored, AuthSession.state_new] at owned
        exact absurd (Option.some.inj owned) sameState
    · rw [if_neg sameId]
      exact consistent state other

theorem updateSession_consistent (manager : AuthSessionManager) (consistent : manager.Consistent)
    (session : AuthSession)
    (keeps : ∀ stored, manager.sessions.find? session.id = some stored → stored.state = session.state) :
    (manager.updateSession session).2.Consistent := by
  unfold updateSession
  split
  · next present =>
      obtain ⟨stored, found⟩ := Option.isSome_iff_exists.mp present
      intro state other
      simp only
      rw [SortedMap.find?_insert]
      by_cases sameId : session.id = other
      · -- the replaced session answers for its state as the stored one did
        subst sameId
        rw [if_pos rfl, consistent state session.id]
        simp only [found, Option.some.injEq, exists_eq_left', keeps stored found]
      · rw [if_neg sameId]
        exact consistent state other
  · exact consistent

theorem removeSession_consistent (manager : AuthSessionManager) (consistent : manager.Consistent)
    (id : String) : (manager.removeSession id).2.Consistent := by
  unfold removeSession
  split
  · next session found => exact dropEntry_consistent consistent found
  · exact consistent

theorem removeUserSessions_consistent (manager : AuthSessionManager)
    (consistent : manager.Consistent) (email : String) :
    (manager.removeUserSessions email).2.Consistent :=
  removeListed_consistent _ consistent (selectSessions_stored manager _).1
    (selectSessions_stored manager _).2

theorem cleanupExpired_consistent (manager : AuthSessionManager) (consistent : manager.Consistent)
    (now : Nat) : (manager.cleanupExpired now).2.Consistent :=
  removeListed_consistent _ consistent (selectSessions_stored manager _).1
    (selectSessions_stored manager _).2

theorem getSessionByState_state (manager : AuthSessionManager) (consistent : manager.Consistent)
    {state : String} {session : AuthSession}
    (found : manager.getSessionByState state = some session) : session.state = some state := by
  obtain ⟨id, leads, stored⟩ := Option.bind_eq_some_iff.mp found
  exact consistent.state_of_find? leads stored

/-! ## Runs of calls -/

/-- Every stored session sits under its own id. -/
def Keyed (sessions : SortedMap String AuthSession) : Prop :=
  ∀ id session, sessions.find? id = some session → session.id = id

section Keys

variable {sessions : SortedMap String AuthSession}

theorem Keyed.erase (keyed : Keyed sessions) (key : String) : Keyed (sessions.erase key) := by
  intro id session found
  by_cases same : key = id
  · subst same
    rw [SortedMap.find?_erase_self] at found
    cases found
  · rw [SortedMap.find?_erase_ne _ same] at found
    exact keyed id session found

theorem Keyed.insert (keyed : Keyed sessions) (session : AuthSession) :
    Keyed (sessions.insert session.id session) := by
  intro id stored found
  rw [SortedMap.find?_insert] at found
  split at found
  · next same => rw [← Option.some.inj found, same]
  · exact keyed id stored found

theorem removeListed_keyed (byState : SortedMap String String) (listed : List (String × Option String))
    (keyed : Keyed sessions) : Keyed (removeListed sessions byState listed).1 := by
  induction listed generalizing sessions byState with
  | nil => exact keyed
  | cons entry rest ih => exact ih _ (keyed.erase entry.1)

end Keys

/-- What the manager keeps true between calls. -/
structure WellFormed (manager : AuthSessionManager) : Prop where
  keyed : Keyed manager.sessions
  consistent : manager.Consistent

theorem wellFormed_new (defaultLifetime maxSessionsPerUser : Nat) :
    (new defaultLifetime maxSessionsPerUser).WellFormed where
  keyed := fun _ _ found => nomatch found
  consistent := consistent_new defaultLifetime maxSessionsPerUser

/-- A call to the manager, with the UUID, the `AuthState` and the time it draws.
`update` is the pattern of the callback handler: get a stored session, change it,
store it back with `update_session`. -/
inductive Call
  | createSession (provider id : String) (authState : AuthState) (now : Nat)
  | update (id : String) (change : Change)
  | removeSession (id : String)
  | removeUserSessions (email : String)
  | cleanupExpired (now : Nat)

/-- What a call returns. -/
inductive Answer
  | session (session : AuthSession)
  | updated (result : Except AuthError Unit)
  | removed (session : Option AuthSession)
  | count (removed : Nat)

def call (manager : AuthSessionManager) : Call → Answer × AuthSessionManager
  | .createSession provider id authState now =>
      (.session (manager.createSession provider id authState now).1,
        (manager.createSession provider id authState now).2)
  | .update id change =>
      match manager.getSession id with
      | some session =>
          (.updated (manager.updateSession (change.apply session)).1,
            (manager.updateSession (change.apply session)).2)
      | none => (.updated (.error .sessionNotFound), manager)
  | .removeSession id => (.removed (manager.removeSession id).1, (manager.removeSession id).2)
  | .removeUserSessions email =>
      (.count (manager.removeUserSessions email).1, (manager.removeUserSessions email).2)
  | .cleanupExpired now => (.count (manager.cleanupExpired now).1, (manager.cleanupExpired now).2)

def Call.Admissible (manager : AuthSessionManager) : Call → Prop
  | .createSession _ id authState _ =>
      manager.sessions.find? id = none ∧ manager.sessionsByState.find? authState.state = none
  | .update _ change => change.clearsState = false
  | _ => True

theorem createSession_wellFormed (manager : AuthSessionManager) (wellFormed : manager.WellFormed)
    (provider id : String) (authState : AuthState) (now : Nat)
    (freshId : manager.sessions.find? id = none)
    (freshState : manager.sessionsByState.find? authState.state = none) :
    (manager.createSession provider id authState now).2.WellFormed where
  keyed := wellFormed.keyed.insert (AuthSession.new provider manager.defaultLifetime id authState now)
  consistent := createSession_consistent manager wellFormed.consistent provider id authState now
    freshId freshState

theorem update_wellFormed (manager : AuthSessionManager) (wellFormed : manager.WellFormed)
    {id : String} {session : AuthSession} (found : manager.getSession id = some session)
    (change : Change) (kept : change.clearsState = false) :
    (manager.updateSession (change.apply session)).2.WellFormed := by
  obtain ⟨sameId, sameState⟩ := change.apply_keeps kept session
  have stored : manager.sessions.find? (change.apply session).id = some session := by
    rw [sameId, wellFormed.keyed id session found]
    exact found
  constructor
  · unfold updateSession
    split
    · exact wellFormed.keyed.insert _
    · exact wellFormed.keyed
  · apply updateSession_consistent manager wellFormed.consistent
    intro other present
    rw [stored] at present
    rw [← Option.some.inj present, sameState]

theorem removeSession_wellFormed (manager : AuthSessionManager) (wellFormed : manager.WellFormed)
    (id : String) : (manager.removeSession id).2.WellFormed := by
  constructor
  · unfold removeSession
    split
    · exact wellFormed.keyed.erase id
    · exact wellFormed.keyed
  · exact removeSession_consistent manager wellFormed.consistent id

theorem call_wellFormed (manager : AuthSessionManager) (wellFormed : manager.WellFormed)
    (request : Call) (admissible : request.Admissible manager) : (manager.call request).2.WellFormed := by
  cases request with
  | createSession provider id authState now =>
      exact createSession_wellFormed manager wellFormed provider id authState now admissible.1
        admissible.2
  | update id change =>
      simp only [call]
      split
      · next session found => exact update_wellFormed manager wellFormed found change admissible
      · exact wellFormed
  | removeSession id => exact removeSession_wellFormed manager wellFormed id
  | removeUserSessions email =>
      exact ⟨removeListed_keyed _ _ wellFormed.keyed,
        removeUserSessions_consistent manager wellFormed.consistent email⟩
  | cleanupExpired now =>
      exact ⟨removeListed_keyed _ _ wellFormed.keyed,
        cleanupExpired_consistent manager wellFormed.consistent now⟩

theorem run_wellFormed {manager : AuthSessionManager} (wellFormed : manager.WellFormed)
    (requests : List Call)
    (admissible : ∀ k (inside : k < requests.length),
      requests[k].Admissible (Machine.run call manager (requests.take k)).2) :
    (Machine.run call manager requests).2.WellFormed :=
  Machine.run_invariant_guarded call WellFormed (fun manager request => request.Admissible manager)
    (fun manager request wellFormed admissible => call_wellFormed manager wellFormed request admissible)
    wellFormed requests admissible

theorem Consistent.getSession_isSome {manager : AuthSessionManager} (consistent : manager.Consistent)
    {state id : String} (leads : manager.sessionsByState.find? state = some id) :
    (manager.getSession id).isSome := by
  obtain ⟨session, stored, -⟩ := (consistent state id).mp leads
  rw [getSession, stored]
  rfl

theorem run_index_sound {manager : AuthSessionManager} (wellFormed : manager.WellFormed)
    (requests : List Call)
    (admissible : ∀ k (inside : k < requests.length),
      requests[k].Admissible (Machine.run call manager (requests.take k)).2)
    (state : String) :
    (∀ session, (Machine.run call manager requests).2.getSessionByState state = some session →
      session.state = some state) ∧
    ∀ id, (Machine.run call manager requests).2.sessionsByState.find? state = some id →
      ((Machine.run call manager requests).2.getSession id).isSome := by
  have reached := run_wellFormed wellFormed requests admissible
  exact ⟨fun _ found => getSessionByState_state _ reached.consistent found,
    fun _ leads => reached.consistent.getSession_isSome leads⟩

/-- The lifecycle of the callback: a session is created, `complete_auth` is applied to
it and it is stored back, and it is removed. After the update the old state still
finds the session, whose state is now cleared; after the removal the state's entry
is left behind, and the index is no longer consistent. -/
theorem complete_auth_leaves_stale_state_entry :
    let requests : List Call :=
      [.createSession "google" "session-1" ⟨"state-1"⟩ 0,
        .update "session-1"
          (.completeAuth ⟨"token", 3600⟩ ⟨"user123", some "user@example.com", some "Test User"⟩ 1),
        .removeSession "session-1"]
    ((Machine.run call (new 86400 5) (requests.take 2)).2.getSessionByState "state-1").map
        AuthSession.state = some none ∧
      (Machine.run call (new 86400 5) requests).2.getSession "session-1" = none ∧
      (Machine.run call (new 86400 5) requests).2.sessionsByState.find? "state-1" = some "session-1" ∧
      ¬ (Machine.run call (new 86400 5) requests).2.Consistent := by
  intro requests
  have stale : (Machine.run call (new 86400 5) requests).2.sessionsByState.find? "state-1" =
      some "session-1" := by decide
  have gone : (Machine.run call (new 86400 5) requests).2.getSession "session-1" = none := by decide
  refine ⟨by decide, gone, stale, fun consistent => ?_⟩
  have present := consistent.getSession_isSome stale
  rw [gone] at present
  cases present

end AuthSessionManager

end CoreVpn.Auth
