import Mathlib.Logic.Function.Basic
import KubeNova.Foundation.Machine
import KubeNova.Foundation.Text

/-!
# The logs socket of the browser

`RuntimeLogsSocket` with the sockets it creates, the attempts to open one of some candidates
(`connectWsWithCandidates`) and its reconnect timers.  A step is a call, an event of a socket, a
timer that fires, or the continuation of an attempt whose candidate has been settled.
-/

namespace KubeNova.Runtime

open KubeNova.Foundation

/-! ## State -/

inductive ReadyState where
  | connecting
  | opened
  | closing
  | closed
  deriving Repr, DecidableEq

/-- What an event of a socket calls: the handler of a candidate of an attempt, or the one bound
when the attempt has succeeded. -/
inductive Handler where
  | attempt (attempt : Nat)
  | session
  deriving Repr, DecidableEq

structure WebSocket where
  readyState : ReadyState
  /-- Whether the close event has come. -/
  closeFired : Bool
  onopen : Option Handler
  onmessage : Option Handler
  onerror : Option Handler
  onclose : Option Handler
  deriving Repr, DecidableEq

/-- An attempt to connect: its candidate is open or has failed once it is settled, and the rest of
the attempt comes later. -/
inductive Attempt where
  | connecting (socket : Nat) (rest : List String)
  | opened (socket : Nat)
  | failed (rest : List String)
  | done
  deriving Repr, DecidableEq

inductive LogsConnectionStatus where
  | disconnected
  | connecting
  | reconnecting
  | connected
  | failed
  deriving Repr, DecidableEq

def LogsConnectionStatus.text : LogsConnectionStatus → String
  | disconnected => "未连接"
  | connecting => "连接中"
  | reconnecting => "重连中"
  | connected => "已连接"
  | failed => "连接异常"

inductive SocketEvent where
  /-- `connect` or `reconnectNow` is called. -/
  | connectCalled
  | disconnectCalled
  /-- `connectInternal` begins an attempt. -/
  | attempted
  /-- A socket is created. -/
  | created (socket : Nat)
  | timerArmed (timer : Nat)
  | status (status : LogsConnectionStatus)
  | opened
  | logs (socket : Nat) (items : List String)
  deriving Repr, DecidableEq

structure RuntimeLogsSocketOptions where
  url : String
  candidates : Option (List String)
  reconnectEnabled : Option Bool
  reconnectMaxAttempts : Option Nat
  deriving Repr, DecidableEq

namespace RuntimeLogsSocketOptions

variable (options : RuntimeLogsSocketOptions)

def wsCandidates : List String :=
  let normalized := ((options.candidates.getD []).map Text.trim).filter (· != "")
  if normalized.isEmpty then [Text.trim options.url].filter (· != "") else normalized

def enabled : Bool := options.reconnectEnabled.getD true

def maxAttempts : Nat := max 1 (options.reconnectMaxAttempts.getD 8)

end RuntimeLogsSocketOptions

/-- The object, what the browser has of it, and what has been seen of it, the latest first. -/
structure RuntimeLogsSocket where
  ws : Option Nat
  hasError : Bool
  manualClose : Bool
  reconnectTimer : Option Nat
  reconnectAttempt : Nat
  reconnecting : Bool
  sockets : Nat → WebSocket
  socketCount : Nat
  attempts : Nat → Attempt
  attemptCount : Nat
  timers : List Nat
  timerCount : Nat
  seen : List SocketEvent

def WebSocket.none : WebSocket := ⟨.closed, true, .none, .none, .none, .none⟩

namespace RuntimeLogsSocket

def initial : RuntimeLogsSocket :=
  ⟨none, false, false, none, 0, false, fun _ => .none, 0, fun _ => .done, 0, [], 0, []⟩

/-! ## Methods -/

section Methods

-- `isUrl` says which candidates the constructor of a socket takes.
variable (options : RuntimeLogsSocketOptions) (isUrl : String → Bool)

def note (event : SocketEvent) (s : RuntimeLogsSocket) : RuntimeLogsSocket :=
  { s with seen := event :: s.seen }

def setSocket (i : Nat) (socket : WebSocket) (s : RuntimeLogsSocket) : RuntimeLogsSocket :=
  { s with sockets := Function.update s.sockets i socket }

def setAttempt (a : Nat) (attempt : Attempt) (s : RuntimeLogsSocket) : RuntimeLogsSocket :=
  { s with attempts := Function.update s.attempts a attempt }

/-- `socket.close()` -/
def closed (socket : WebSocket) : WebSocket :=
  match socket.readyState with
  | .connecting => { socket with readyState := .closing }
  | .opened => { socket with readyState := .closing }
  | _ => socket

def clearReconnectTimer (s : RuntimeLogsSocket) : RuntimeLogsSocket :=
  match s.reconnectTimer with
  | some timer => { s with timers := s.timers.erase timer, reconnectTimer := none }
  | none => s

def teardownSocket (s : RuntimeLogsSocket) : RuntimeLogsSocket :=
  match s.ws with
  | none => s
  | some i =>
      { setSocket i (closed { s.sockets i with
          onopen := none, onmessage := none, onerror := none, onclose := none }) s with ws := none }

/-- `connectSingleWsCandidate`, up to its first event, and `onSocketReady`. -/
def connectSingle (a : Nat) (candidate : String) (rest : List String) (s : RuntimeLogsSocket) :
    RuntimeLogsSocket :=
  if isUrl candidate then
    let i := s.socketCount
    { note (.created i) (setAttempt a (.connecting i rest) (setSocket i
        ⟨.connecting, false, some (.attempt a), none, some (.attempt a), some (.attempt a)⟩ s)) with
      socketCount := i + 1
      ws := some i }
  else setAttempt a (.failed rest) s

def connectWithCandidates (a : Nat) (s : RuntimeLogsSocket) : List String → RuntimeLogsSocket
  | [] => setAttempt a (.failed []) s
  | candidate :: rest => connectSingle isUrl a candidate rest s

def connectInternal (resetReconnectAttempt : Bool) (s : RuntimeLogsSocket) : RuntimeLogsSocket :=
  let s := clearReconnectTimer (note .attempted s)
  let s := if resetReconnectAttempt then { s with reconnectAttempt := 0, reconnecting := false }
    else s
  let s := note (.status (if s.reconnecting then .reconnecting else .connecting)) s
  let s := teardownSocket { s with hasError := false, manualClose := false }
  connectWithCandidates isUrl s.attemptCount { s with attemptCount := s.attemptCount + 1 }
    options.wsCandidates

def handleUnexpectedClose (s : RuntimeLogsSocket) : RuntimeLogsSocket :=
  if !options.enabled then note (.status .failed) s
  else if options.maxAttempts ≤ s.reconnectAttempt then note (.status .failed) s
  else
    let timer := s.timerCount
    { note (.timerArmed timer) (note (.status .reconnecting) s) with
      reconnectAttempt := s.reconnectAttempt + 1
      reconnecting := true
      timers := timer :: s.timers
      reconnectTimer := some timer
      timerCount := timer + 1 }

def handleConnected (s : RuntimeLogsSocket) : RuntimeLogsSocket :=
  note .opened (note (.status .connected)
    { clearReconnectTimer s with reconnectAttempt := 0, reconnecting := false })

def bindSocketEvents (i : Nat) (s : RuntimeLogsSocket) : RuntimeLogsSocket :=
  setSocket i { s.sockets i with
    onmessage := some .session, onerror := some .session, onclose := some .session } s

def disconnect (s : RuntimeLogsSocket) : RuntimeLogsSocket :=
  let s := clearReconnectTimer (note .disconnectCalled { s with manualClose := true })
  let s := teardownSocket { s with reconnectAttempt := 0, reconnecting := false }
  note (.status .disconnected) { s with hasError := false }

inductive SocketAction where
  | connect
  | reconnectNow
  | disconnect
  | socketOpen (socket : Nat)
  | socketError (socket : Nat)
  | socketClose (socket : Nat)
  /-- A message, with the items it is parsed to. -/
  | socketMessage (socket : Nat) (items : List String)
  | candidateTimeout (attempt : Nat)
  | resume (attempt : Nat)
  | reconnectTimer (timer : Nat)
  deriving Repr, DecidableEq

def rejectCandidate (a i : Nat) (s : RuntimeLogsSocket) : RuntimeLogsSocket :=
  match s.attempts a with
  | .connecting j rest => if j = i then setAttempt a (.failed rest) s else s
  | _ => s

def resolveCandidate (a i : Nat) (s : RuntimeLogsSocket) : RuntimeLogsSocket :=
  match s.attempts a with
  | .connecting j _ => if j = i then setAttempt a (.opened i) s else s
  | _ => s

/-- `socket.onclose` of an attempt or of a session. -/
def socketClosed (i : Nat) (s : RuntimeLogsSocket) : RuntimeLogsSocket :=
  match (s.sockets i).onclose with
  | some (.attempt a) => rejectCandidate a i s
  | some .session =>
      if s.manualClose then note (.status .disconnected) s else handleUnexpectedClose options s
  | none => s

def resumed (a : Nat) (s : RuntimeLogsSocket) : Option RuntimeLogsSocket :=
  match s.attempts a with
  | .opened i =>
      some (handleConnected (bindSocketEvents i { setAttempt a .done s with ws := some i }))
  | .failed [] => some (handleUnexpectedClose options (setAttempt a .done s))
  | .failed (candidate :: rest) => some (connectSingle isUrl a candidate rest s)
  | _ => none

def step : SocketAction → RuntimeLogsSocket → Option RuntimeLogsSocket
  | .connect, s => some (connectInternal options isUrl true (note .connectCalled s))
  | .reconnectNow, s => some (connectInternal options isUrl true (note .connectCalled s))
  | .disconnect, s => some (disconnect s)
  | .socketOpen i, s =>
      if (s.sockets i).readyState = .connecting then
        let s := setSocket i { s.sockets i with readyState := .opened } s
        some (match (s.sockets i).onopen with
          | some (.attempt a) => resolveCandidate a i s
          | _ => s)
      else none
  | .socketError i, s =>
      if (s.sockets i).readyState ≠ .closed then
        let s := setSocket i { s.sockets i with readyState := .closed } s
        some (match (s.sockets i).onerror with
          | some (.attempt a) => rejectCandidate a i s
          | some .session => { s with hasError := true }
          | none => s)
      else none
  | .socketClose i, s =>
      if (s.sockets i).closeFired = false then
        some (socketClosed options i
          (setSocket i { s.sockets i with readyState := .closed, closeFired := true } s))
      else none
  | .socketMessage i items, s =>
      if (s.sockets i).readyState = .opened then
        some (if (s.sockets i).onmessage = some .session ∧ items ≠ [] then note (.logs i items) s
          else s)
      else none
  | .candidateTimeout a, s =>
      match s.attempts a with
      | .connecting i rest =>
          some (setAttempt a (.failed rest) (setSocket i (closed (s.sockets i)) s))
      | _ => none
  | .resume a, s => resumed options isUrl a s
  | .reconnectTimer timer, s =>
      if timer ∈ s.timers then
        some (connectInternal options isUrl false
          { s with timers := s.timers.erase timer, reconnectTimer := none })
      else none

def machine : Machine SocketAction RuntimeLogsSocket where
  step := step options isUrl

end Methods

end RuntimeLogsSocket

end KubeNova.Runtime
