import CoreVpn.ConnectionLog.Events
import CoreVpn.Lib.SortedMap
import CoreVpn.Lib.Machine
import CoreVpn.Lib.RustStr

/-!
# VPN sessions and the session manager

`corevpn-core/src/session.rs`: a `Session` moves through the states of a connection, and
`SessionManager` keeps the sessions by id, at most `max_sessions` of them. The `HashMap` is
a sorted map here, so that its iteration order is the order of the ids. `Utc::now()` and
the random UUID of a new session are inputs; instants and `chrono` durations are whole
numbers of one unit; the `u64` counters wrap, as they do in a release build.

`transition` moves a session one state on along Connecting, Handshaking, Authenticating,
Active, Disconnecting, or to Terminated from any state, and Terminated is never left
(`validTransition_iff`). So over any sequence of requests, a session that is not
terminated has accepted exactly the states between the one it started in and the one it
is in (`accepted_run_chain`): none becomes Active without Handshaking and Authenticating.

Over every run of calls, the manager stores each session under its own id and never more
than `max_sessions` (`run_wellFormed`). `create_session` succeeds exactly when fewer than
`max_sessions` sessions are unexpired, whatever their state (`createSession_answer`).
`terminate_user_sessions` only marks sessions Terminated, so it frees no slot
(`terminate_frees_no_slot`); the sessions it marks stay inactive over any later run that
does not store a session back (`terminated_stay_inactive`). The web UI's "disconnect all"
removes the sessions that are active and keeps every other one
(`disconnectAllSessions_find?`).
-/

namespace CoreVpn.Core

open ConnectionLog (IpAddr)

set_option autoImplicit false

/-- `SessionId(Uuid)`, the UUID as its sixteen bytes. -/
structure SessionId where
  uuid : Vector UInt8 16

namespace SessionId

def code (id : SessionId) : List Nat := id.uuid.toList.map UInt8.toNat

theorem code_injective : Function.Injective code := by
  rintro ⟨a⟩ ⟨b⟩ same
  have bytes : Function.Injective UInt8.toNat := fun x y equal => UInt8.toNat_inj.mp equal
  exact congrArg SessionId.mk (Vector.toList_inj.mp (List.map_injective_iff.mpr bytes same))

instance : LinearOrder SessionId := LinearOrder.lift' code code_injective

/-- `Display` of the UUID: lower-case hexadecimal in groups of 8, 4, 4, 4 and 12 digits. -/
def toString (id : SessionId) : String :=
  "-".intercalate ([(0, 4), (4, 2), (6, 2), (8, 2), (10, 6)].map fun group =>
    String.join (((id.uuid.toList.drop group.1).take group.2).map RustStr.lowerHexByte))

end SessionId

inductive SessionState
  | connecting
  | handshaking
  | authenticating
  | active
  | disconnecting
  | terminated
  deriving DecidableEq

namespace SessionState

/-- `{:?}`: the variant's name. -/
def debug : SessionState → String
  | connecting => "Connecting"
  | handshaking => "Handshaking"
  | authenticating => "Authenticating"
  | active => "Active"
  | disconnecting => "Disconnecting"
  | terminated => "Terminated"

def rank : SessionState → Nat
  | connecting => 0
  | handshaking => 1
  | authenticating => 2
  | active => 3
  | disconnecting => 4
  | terminated => 5

end SessionState

structure UserId where
  id : String
  deriving DecidableEq

/-- The `CoreError` variants `session.rs` raises. -/
inductive SessionError
  | sessionNotFound (id : String)
  | internal (message : String)
  deriving DecidableEq

structure Session where
  id : SessionId
  userId : Option UserId
  state : SessionState
  vpnAddress : Option VpnAddress
  clientIp : IpAddr
  clientPort : UInt16
  createdAt : Int
  lastActivity : Int
  expiresAt : Int
  bytesRx : UInt64
  bytesTx : UInt64
  packetsRx : UInt64
  packetsTx : UInt64
  clientVersion : Option String
  oauthToken : Option String

namespace Session

/-- `Session::new`, with the id it draws and the clock. -/
def new (clientIp : IpAddr) (clientPort : UInt16) (lifetime : Int) (id : SessionId) (now : Int) : Session where
  id := id
  userId := none
  state := .connecting
  vpnAddress := none
  clientIp := clientIp
  clientPort := clientPort
  createdAt := now
  lastActivity := now
  expiresAt := now + lifetime
  bytesRx := 0
  bytesTx := 0
  packetsRx := 0
  packetsTx := 0
  clientVersion := none
  oauthToken := none

def isExpired (session : Session) (now : Int) : Bool := decide (session.expiresAt < now)

def isActive (session : Session) (now : Int) : Bool := session.state == .active && !session.isExpired now

def touch (session : Session) (now : Int) : Session := { session with lastActivity := now }

def recordRx (session : Session) (bytes : UInt64) (now : Int) : Session :=
  touch { session with bytesRx := session.bytesRx + bytes, packetsRx := session.packetsRx + 1 } now

def recordTx (session : Session) (bytes : UInt64) (now : Int) : Session :=
  touch { session with bytesTx := session.bytesTx + bytes, packetsTx := session.packetsTx + 1 } now

def validTransition : SessionState → SessionState → Bool
  | .connecting, .handshaking => true
  | .handshaking, .authenticating => true
  | .authenticating, .active => true
  | .active, .disconnecting => true
  | _, .terminated => true
  | _, _ => false

/-- `transition`: a refused request leaves the session as it was. -/
def transition (session : Session) (newState : SessionState) : Except SessionError Unit × Session :=
  if validTransition session.state newState then (.ok (), { session with state := newState })
  else
    (.error (.internal ("Invalid state transition: " ++ session.state.debug ++ " -> " ++ newState.debug)),
      session)

def duration (session : Session) (now : Int) : Int := now - session.createdAt

def idleTime (session : Session) (now : Int) : Int := now - session.lastActivity

def extend (session : Session) (duration now : Int) : Session := { session with expiresAt := now + duration }

end Session

/-! ## The life of a session -/

namespace SessionState

def lifecycle : List SessionState := [connecting, handshaking, authenticating, active, disconnecting, terminated]

def chain (old new : SessionState) : List SessionState := (lifecycle.drop (old.rank + 1)).take (new.rank - old.rank)

theorem rank_le_terminated (state : SessionState) : state.rank ≤ terminated.rank := by
  cases state <;> decide

theorem chain_self (state : SessionState) : chain state state = [] := by
  rw [chain, Nat.sub_self, List.take_zero]

theorem chain_of_next {old next new : SessionState} (step : next.rank = old.rank + 1) (reached : next.rank ≤ new.rank) :
    chain old new = next :: chain next new := by
  cases old <;> cases next <;> simp only [rank] at step <;> cases new <;> simp_all [rank, chain, lifecycle]

end SessionState

namespace Session

theorem validTransition_iff (old new : SessionState) :
    validTransition old new = true ↔ new = .terminated ∨ new.rank = old.rank + 1 := by
  cases old <;> cases new <;> decide

theorem transition_of_valid (session : Session) {newState : SessionState}
    (valid : validTransition session.state newState = true) :
    session.transition newState = (.ok (), { session with state := newState }) := by
  rw [transition, if_pos valid]

theorem transition_of_invalid (session : Session) {newState : SessionState}
    (invalid : validTransition session.state newState = false) :
    (session.transition newState).2 = session ∧ ∃ error, (session.transition newState).1 = .error error := by
  rw [transition, if_neg (by rw [invalid]; decide)]
  exact ⟨rfl, _, rfl⟩

theorem rank_le_transition (session : Session) (newState : SessionState) :
    session.state.rank ≤ (session.transition newState).2.state.rank := by
  cases valid : validTransition session.state newState
  · rw [(transition_of_invalid session valid).1]
  · rw [transition_of_valid session valid]
    show session.state.rank ≤ newState.rank
    rcases (validTransition_iff _ _).mp valid with rfl | next
    · exact SessionState.rank_le_terminated _
    · exact next ▸ Nat.le_succ _

theorem terminated_transition {session : Session} (terminated : session.state = .terminated)
    (newState : SessionState) : (session.transition newState).2.state = .terminated := by
  cases valid : validTransition session.state newState
  · rw [(transition_of_invalid session valid).1, terminated]
  · rw [transition_of_valid session valid]
    rw [terminated] at valid
    cases newState <;> first | rfl | cases valid

def accepted (requests : List SessionState) (answers : List (Except SessionError Unit)) : List SessionState :=
  (requests.zip answers).filterMap fun pair =>
    match pair.2 with
    | .ok () => some pair.1
    | .error _ => none

theorem rank_le_run (session : Session) (requests : List SessionState) :
    session.state.rank ≤ (Machine.run transition session requests).2.state.rank :=
  Machine.run_invariant transition (fun later => session.state.rank ≤ later.state.rank)
    (fun later request before => Nat.le_trans before (rank_le_transition later request)) (Nat.le_refl _) requests

theorem terminated_run {session : Session} (terminated : session.state = .terminated) (requests : List SessionState) :
    (Machine.run transition session requests).2.state = .terminated :=
  Machine.run_invariant transition (fun later => later.state = .terminated)
    (fun _ request stays => terminated_transition stays request) terminated requests

/-- Over any sequence of requests, a session that has not been terminated accepted, in
order, exactly the states of its life from the one after where it started to where it is. -/
theorem accepted_run_chain (session : Session) (requests : List SessionState)
    (alive : (Machine.run transition session requests).2.state ≠ .terminated) :
    accepted requests (Machine.run transition session requests).1 =
      SessionState.chain session.state (Machine.run transition session requests).2.state := by
  induction requests generalizing session with
  | nil => exact (SessionState.chain_self _).symm
  | cons request requests ih =>
      rw [Machine.run_cons] at alive ⊢
      have rest := ih (session.transition request).2 alive
      cases valid : validTransition session.state request
      · -- a refused request is not counted and leaves the session where it was
        obtain ⟨same, error, refused⟩ := transition_of_invalid session valid
        rw [same] at rest
        rw [accepted, List.zip_cons_cons, List.filterMap_cons, refused]
        rw [same]
        exact rest
      · -- an accepted request moved the session to its next state, not to Terminated
        have moved := transition_of_valid session valid
        rw [moved] at rest alive ⊢
        have notTerminated : request ≠ .terminated := fun terminated =>
          alive (terminated_run terminated requests)
        have next := ((validTransition_iff _ _).mp valid).resolve_left notTerminated
        have reached := rank_le_run { session with state := request } requests
        rw [accepted, List.zip_cons_cons, List.filterMap_cons]
        rw [SessionState.chain_of_next next reached]
        exact congrArg (request :: ·) rest

theorem accepted_run_chain_new :
    let session := Session.new (.v4 (ConnectionLog.ipv4 192 168 1 1)) 12345 86400 ⟨Vector.replicate 16 0⟩ 0
    let requests := [SessionState.handshaking, .active, .authenticating, .active]
    (Machine.run transition session requests).2.state ≠ .terminated ∧
      accepted requests (Machine.run transition session requests).1 =
        SessionState.chain session.state (Machine.run transition session requests).2.state := by
  intro session requests
  have alive : (Machine.run transition session requests).2.state ≠ .terminated := by decide
  exact ⟨alive, accepted_run_chain session requests alive⟩

end Session

/-! ## The session manager -/

/-- `struct SessionManager`; the table sits behind a lock in the source. -/
structure SessionManager where
  sessions : SortedMap SessionId Session
  maxSessions : Nat
  defaultLifetime : Int

namespace SessionManager

def new (maxSessions : Nat) (defaultLifetime : Int) : SessionManager := ⟨.empty, maxSessions, defaultLifetime⟩

def retainUnexpired (sessions : SortedMap SessionId Session) (now : Int) : SortedMap SessionId Session :=
  sessions.filter fun _ session => !session.isExpired now

def insertNew (manager : SessionManager) (clientIp : IpAddr) (clientPort : UInt16) (id : SessionId) (now : Int) :
    Except SessionError Session × SessionManager :=
  let session := Session.new clientIp clientPort manager.defaultLifetime id now
  (.ok session, { manager with sessions := manager.sessions.insert session.id session })

/-- `create_session`: at capacity the expired sessions go first, and they stay gone when
the creation then fails. -/
def createSession (manager : SessionManager) (clientIp : IpAddr) (clientPort : UInt16) (id : SessionId) (now : Int) :
    Except SessionError Session × SessionManager :=
  if manager.maxSessions ≤ manager.sessions.size then
    let purged := { manager with sessions := retainUnexpired manager.sessions now }
    if manager.maxSessions ≤ purged.sessions.size then (.error (.internal "Maximum sessions reached"), purged)
    else insertNew purged clientIp clientPort id now
  else insertNew manager clientIp clientPort id now

def getSession (manager : SessionManager) (id : SessionId) : Option Session := manager.sessions.find? id

/-- `update_session`: only a stored session is replaced. -/
def updateSession (manager : SessionManager) (session : Session) : Except SessionError Unit × SessionManager :=
  match manager.sessions.find? session.id with
  | some _ => (.ok (), { manager with sessions := manager.sessions.insert session.id session })
  | none => (.error (.sessionNotFound session.id.toString), manager)

def removeSession (manager : SessionManager) (id : SessionId) : Option Session × SessionManager :=
  (manager.sessions.find? id, { manager with sessions := manager.sessions.erase id })

def values (manager : SessionManager) : List Session := manager.sessions.entries.map (·.2)

def activeSessions (manager : SessionManager) (now : Int) : List Session := manager.values.filter (·.isActive now)

def sessionCount (manager : SessionManager) : Nat := manager.sessions.size

def cleanupExpired (manager : SessionManager) (now : Int) : Nat × SessionManager :=
  (manager.sessions.size - (retainUnexpired manager.sessions now).size,
    { manager with sessions := retainUnexpired manager.sessions now })

def belongsTo (userId : UserId) (session : Session) : Bool := session.userId == some userId

def getUserSessions (manager : SessionManager) (userId : UserId) : List Session :=
  manager.values.filter (belongsTo userId)

/-- `terminate_user_sessions`: each session of the user is marked Terminated in place,
without `transition`, and counted. -/
def terminateUserSessions (manager : SessionManager) (userId : UserId) : Nat × SessionManager :=
  (manager.values.countP (belongsTo userId),
    { manager with
      sessions := manager.sessions.mapValues fun _ session =>
        if belongsTo userId session then { session with state := .terminated } else session })

/-- A call to the manager. -/
inductive Call
  | createSession (clientIp : IpAddr) (clientPort : UInt16) (id : SessionId) (now : Int)
  | getSession (id : SessionId)
  | updateSession (session : Session)
  | removeSession (id : SessionId)
  | activeSessions (now : Int)
  | sessionCount
  | cleanupExpired (now : Int)
  | getUserSessions (userId : UserId)
  | terminateUserSessions (userId : UserId)

/-- What a call returns. -/
inductive Answer
  | created (result : Except SessionError Session)
  | updated (result : Except SessionError Unit)
  | found (session : Option Session)
  | listed (sessions : List Session)
  | counted (count : Nat)

def call (manager : SessionManager) : Call → Answer × SessionManager
  | .createSession clientIp clientPort sessionId now =>
      (manager.createSession clientIp clientPort sessionId now).map .created fun manager => manager
  | .getSession id => (.found (manager.getSession id), manager)
  | .updateSession session => (manager.updateSession session).map .updated fun manager => manager
  | .removeSession sessionId => (manager.removeSession sessionId).map .found fun manager => manager
  | .activeSessions now => (.listed (manager.activeSessions now), manager)
  | .sessionCount => (.counted manager.sessionCount, manager)
  | .cleanupExpired now => (manager.cleanupExpired now).map .counted fun manager => manager
  | .getUserSessions userId => (.listed (manager.getUserSessions userId), manager)
  | .terminateUserSessions userId => (manager.terminateUserSessions userId).map .counted fun manager => manager

def Call.storesSession : Call → Bool
  | .updateSession _ => true
  | _ => false

/-! ### What each call does to the table -/

section Table

variable (manager : SessionManager) (clientIp : IpAddr) (clientPort : UInt16) (id : SessionId) (now : Int)

theorem maxSessions_createSession : (manager.createSession clientIp clientPort id now).2.maxSessions = manager.maxSessions := by
  unfold createSession
  split
  · dsimp only
    split <;> rfl
  · rfl

theorem all_createSession {property : SessionId → Session → Prop} (all : manager.sessions.All property)
    (holds : property id (Session.new clientIp clientPort manager.defaultLifetime id now)) :
    (manager.createSession clientIp clientPort id now).2.sessions.All property := by
  unfold createSession insertNew
  split
  · dsimp only
    split
    · exact all.filter _
    · exact (all.filter _).insert holds
  · exact all.insert holds

theorem size_createSession_le (bounded : manager.sessions.size ≤ manager.maxSessions) :
    (manager.createSession clientIp clientPort id now).2.sessions.size ≤ manager.maxSessions := by
  unfold createSession insertNew
  split
  · rename_i full
    dsimp only
    split
    · exact (SortedMap.size_filter_le _ _).trans bounded
    · rename_i room
      exact (SortedMap.size_insert_le _ _ _).trans (Nat.succ_le_of_lt (Nat.lt_of_not_le room))
  · rename_i room
    exact (SortedMap.size_insert_le _ _ _).trans (Nat.succ_le_of_lt (Nat.lt_of_not_le room))

theorem createSession_answer :
    (manager.createSession clientIp clientPort id now).1 =
      if (retainUnexpired manager.sessions now).size < manager.maxSessions then
        .ok (Session.new clientIp clientPort manager.defaultLifetime id now)
      else .error (.internal "Maximum sessions reached") := by
  unfold createSession insertNew
  dsimp only
  by_cases full : manager.maxSessions ≤ manager.sessions.size
  · rw [if_pos full]
    by_cases stillFull : manager.maxSessions ≤ (retainUnexpired manager.sessions now).size
    · rw [if_pos stillFull, if_neg (Nat.not_lt.mpr stillFull)]
    · rw [if_neg stillFull, if_pos (Nat.lt_of_not_le stillFull)]
  · -- below capacity nothing is purged, and fewer sessions than that are unexpired
    have room : (retainUnexpired manager.sessions now).size < manager.maxSessions :=
      Nat.lt_of_le_of_lt (SortedMap.size_filter_le _ _) (Nat.lt_of_not_le full)
    rw [if_neg full, if_pos room]

theorem terminate_frees_no_slot (userId : UserId) :
    ((manager.terminateUserSessions userId).2.createSession clientIp clientPort id now).1 =
      (manager.createSession clientIp clientPort id now).1 := by
  rw [createSession_answer, createSession_answer]
  have unexpired : (retainUnexpired (manager.terminateUserSessions userId).2.sessions now).size =
      (retainUnexpired manager.sessions now).size := by
    unfold retainUnexpired terminateUserSessions
    dsimp only
    apply SortedMap.size_filter_mapValues
    intro _ session
    split <;> rfl
  rw [unexpired]
  rfl

end Table

/-! ### Over every run -/

/-- Every session is stored under its own id, and there are at most `max_sessions`. -/
structure WellFormed (manager : SessionManager) : Prop where
  keyed : manager.sessions.All fun id session => session.id = id
  bounded : manager.sessions.size ≤ manager.maxSessions

theorem wellFormed_new (maxSessions : Nat) (defaultLifetime : Int) : (new maxSessions defaultLifetime).WellFormed :=
  ⟨SortedMap.all_empty _, Nat.zero_le _⟩

theorem wellFormed_updateSession {manager : SessionManager} (wellFormed : manager.WellFormed) (session : Session) :
    (manager.updateSession session).2.WellFormed := by
  unfold updateSession
  split
  · rename_i stored found
    refine ⟨wellFormed.keyed.insert rfl, ?_⟩
    rw [SortedMap.size_insert_of_isSome _ _ (by rw [found]; rfl)]
    exact wellFormed.bounded
  · exact wellFormed

theorem wellFormed_terminateUserSessions {manager : SessionManager} (wellFormed : manager.WellFormed) (userId : UserId) :
    (manager.terminateUserSessions userId).2.WellFormed := by
  refine ⟨wellFormed.keyed.mapValues fun key session keyed => ?_, ?_⟩
  · split <;> exact keyed
  · rw [terminateUserSessions, SortedMap.size_mapValues]
    exact wellFormed.bounded

theorem wellFormed_call {manager : SessionManager} (wellFormed : manager.WellFormed) (request : Call) :
    (call manager request).2.WellFormed := by
  cases request with
  | createSession clientIp clientPort id now =>
      refine ⟨all_createSession manager clientIp clientPort id now wellFormed.keyed rfl, ?_⟩
      show _ ≤ (manager.createSession clientIp clientPort id now).2.maxSessions
      rw [maxSessions_createSession]
      exact size_createSession_le manager clientIp clientPort id now wellFormed.bounded
  | getSession => exact wellFormed
  | updateSession session => exact wellFormed_updateSession wellFormed session
  | removeSession id =>
      exact ⟨wellFormed.keyed.erase id, (SortedMap.size_erase_le _ _).trans wellFormed.bounded⟩
  | activeSessions => exact wellFormed
  | sessionCount => exact wellFormed
  | cleanupExpired now =>
      exact ⟨wellFormed.keyed.filter _, (SortedMap.size_filter_le _ _).trans wellFormed.bounded⟩
  | getUserSessions => exact wellFormed
  | terminateUserSessions userId => exact wellFormed_terminateUserSessions wellFormed userId

theorem run_wellFormed (maxSessions : Nat) (defaultLifetime : Int) (calls : List Call) :
    (Machine.run call (new maxSessions defaultLifetime) calls).2.WellFormed :=
  Machine.run_invariant call WellFormed (fun _ request wellFormed => wellFormed_call wellFormed request)
    (wellFormed_new maxSessions defaultLifetime) calls

/-! ### Terminated sessions stay inactive -/

/-- Every session of the user is Terminated. -/
def Retired (userId : UserId) (manager : SessionManager) : Prop :=
  manager.sessions.All fun _ session => belongsTo userId session = true → session.state = .terminated

theorem retired_terminateUserSessions (manager : SessionManager) (userId : UserId) :
    Retired userId (manager.terminateUserSessions userId).2 := by
  intro id session stored
  rw [terminateUserSessions, SortedMap.find?_mapValues, Option.map_eq_some_iff] at stored
  obtain ⟨old, _, rfl⟩ := stored
  by_cases mine : belongsTo userId old = true
  · intro _
    rw [if_pos mine]
  · rw [if_neg mine]
    exact fun belongs => absurd belongs mine

theorem retired_call (userId : UserId) {manager : SessionManager} (retired : Retired userId manager) (request : Call)
    (notStored : request.storesSession = false) : Retired userId (call manager request).2 := by
  cases request with
  | createSession clientIp clientPort id now =>
      refine all_createSession manager clientIp clientPort id now retired fun belongs => ?_
      simp [belongsTo, Session.new] at belongs
  | getSession => exact retired
  | updateSession => cases notStored
  | removeSession id => exact retired.erase id
  | activeSessions => exact retired
  | sessionCount => exact retired
  | cleanupExpired now => exact retired.filter _
  | getUserSessions => exact retired
  | terminateUserSessions other =>
      refine retired.mapValues fun key session keeps => ?_
      split
      · exact fun _ => rfl
      · exact keeps

/-- After `terminate_user_sessions`, no session of the user is active again over any run of
calls that stores no session back with `update_session`. -/
theorem terminated_stay_inactive (manager : SessionManager) (userId : UserId) (calls : List Call)
    (noUpdate : ∀ request ∈ calls, request.storesSession = false) (now : Int) :
    ∀ session ∈ (Machine.run call (manager.terminateUserSessions userId).2 calls).2.activeSessions now,
      session.userId ≠ some userId := by
  have retired := Machine.run_invariant_guarded call (Retired userId) (fun _ request => request.storesSession = false)
    (fun _ request retired allowed => retired_call userId retired request allowed)
    (retired_terminateUserSessions manager userId) calls fun k inside => noUpdate _ (List.getElem_mem inside)
  intro session listed mine
  obtain ⟨stored, active⟩ := List.mem_filter.mp listed
  obtain ⟨entry, member, rfl⟩ := List.mem_map.mp stored
  have terminated := retired.of_mem member (by simp [belongsTo, mine])
  simp [Session.isActive, terminated] at active

theorem terminated_stay_inactive_after_create :
    let manager := (new 10 86400).createSession (.v4 (ConnectionLog.ipv4 192 168 1 1)) 12345 ⟨Vector.replicate 16 0⟩ 0
    let calls := [Call.createSession (.v4 (ConnectionLog.ipv4 192 168 1 2)) 12346 ⟨Vector.replicate 16 1⟩ 5,
      .cleanupExpired 10, .terminateUserSessions ⟨"bob"⟩]
    (∀ request ∈ calls, request.storesSession = false) ∧
      ∀ session ∈ (Machine.run call (manager.2.terminateUserSessions ⟨"alice"⟩).2 calls).2.activeSessions 20,
        session.userId ≠ some ⟨"alice"⟩ := by
  intro manager calls
  have noUpdate : ∀ request ∈ calls, request.storesSession = false := by decide
  exact ⟨noUpdate, terminated_stay_inactive manager.2 ⟨"alice"⟩ calls noUpdate 20⟩

/-! ### The web UI's "disconnect all" -/

/-- `disconnect_all_sessions` (`corevpn-server/src/webui/routes.rs`): the ids of the active
sessions are read, then each one is removed. -/
def disconnectAllSessions (manager : SessionManager) (now : Int) : SessionManager :=
  ((manager.activeSessions now).map (·.id)).foldl (fun manager id => (manager.removeSession id).2) manager

theorem foldl_removeSession (manager : SessionManager) (ids : List SessionId) :
    ids.foldl (fun manager id => (manager.removeSession id).2) manager =
      { manager with sessions := ids.foldl (fun sessions id => sessions.erase id) manager.sessions } := by
  induction ids generalizing manager with
  | nil => rfl
  | cons id ids ih => rw [List.foldl_cons, ih, List.foldl_cons]; rfl

theorem mem_activeSessions_ids {manager : SessionManager} (keyed : manager.sessions.All fun id session => session.id = id)
    (now : Int) {id : SessionId} {session : Session} (found : manager.sessions.find? id = some session) :
    id ∈ (manager.activeSessions now).map (·.id) ↔ session.isActive now = true := by
  constructor
  · intro listed
    obtain ⟨other, member, same⟩ := List.mem_map.mp listed
    obtain ⟨stored, active⟩ := List.mem_filter.mp member
    obtain ⟨entry, entryMember, rfl⟩ := List.mem_map.mp stored
    have storedUnder : manager.sessions.find? entry.1 = some entry.2 :=
      (SortedMap.find?_eq_some_iff _ _ _).mpr entryMember
    rw [← keyed.of_mem entryMember, same, found] at storedUnder
    rw [Option.some.inj storedUnder]
    exact active
  · intro active
    have member := (SortedMap.find?_eq_some_iff _ _ _).mp found
    refine List.mem_map.mpr ⟨session, List.mem_filter.mpr ⟨List.mem_map.mpr ⟨_, member, rfl⟩, active⟩, ?_⟩
    exact keyed id session found

/-- "Disconnect all" removes the sessions that are active and keeps every other one:
those still connecting, handshaking, authenticating, disconnecting or terminated, and the
expired. -/
theorem disconnectAllSessions_find? (manager : SessionManager) (keyed : manager.sessions.All fun id session => session.id = id)
    (now : Int) (id : SessionId) :
    (manager.disconnectAllSessions now).sessions.find? id =
      (manager.sessions.find? id).filter fun session => !session.isActive now := by
  rw [disconnectAllSessions, foldl_removeSession]
  dsimp only
  rw [SortedMap.find?_foldl_erase]
  cases found : manager.sessions.find? id with
  | none => split <;> rfl
  | some session =>
      by_cases active : session.isActive now = true
      · rw [if_pos ((mem_activeSessions_ids keyed now found).mpr active), Option.filter_some]
        simp [active]
      · rw [if_neg (fun listed => active ((mem_activeSessions_ids keyed now found).mp listed)), Option.filter_some]
        simp [active]

theorem disconnectAllSessions_find?_after_create :
    let manager := ((new 10 86400).createSession (.v4 (ConnectionLog.ipv4 192 168 1 1)) 12345 ⟨Vector.replicate 16 0⟩ 0).2
    manager.sessions.All (fun id session => session.id = id) ∧
      (manager.disconnectAllSessions 5).sessions.find? ⟨Vector.replicate 16 0⟩ =
        (manager.sessions.find? ⟨Vector.replicate 16 0⟩).filter fun session => !session.isActive 5 := by
  intro manager
  have keyed : manager.sessions.All fun id session => session.id = id :=
    (wellFormed_call (wellFormed_new 10 86400)
      (.createSession (.v4 (ConnectionLog.ipv4 192 168 1 1)) 12345 ⟨Vector.replicate 16 0⟩ 0)).keyed
  exact ⟨keyed, disconnectAllSessions_find? manager keyed 5 _⟩

end SessionManager

end CoreVpn.Core
