import DroneEngage.Js.Text
import DroneEngage.Lts
import DroneEngage.S2sAuth
import DroneEngage.State

/-! The client of the storage server.

    One module holds the connection, its flags and timers, and the requests that wait for an answer.
    The handlers are the same functions for every WebSocket the client ever opened, and do not know
    which of them they are called for. A request is a promise; its `resolve` and `reject` are kept
    in `m_pendingRequests` under a fresh id that the answer carries.

    Clock readings, the jitter of the reconnect delay and log lines are left out. The two callbacks
    are set in the turn in which the client is started. -/

namespace DroneEngage
open Js

/-- A `WebSocket` object of the client. -/
abbrev WsId := ℕ
/-- What `setTimeout` or `setInterval` returns. -/
abbrev TimerId := ℕ
/-- A call of `fn_sendRequest`, with the promise it returns. -/
abbrev PromiseId := ℕ

/-! ### Objects -/

/-- `readyState` of a client socket. -/
inductive WsState where
  | connecting
  | isOpen
  | closing
  | closed
  deriving DecidableEq

/-- `CONST_CONNECTION_STATE` -/
inductive StorageState where
  | disconnected
  | connecting
  | connected
  | unhealthy
  | error
  deriving DecidableEq

/-- The codes of the connection states. -/
def StorageState.code : StorageState → String
  | .disconnected => "dc"
  | .connecting => "cg"
  | .connected => "cd"
  | .unhealthy => "uh"
  | .error => "er"

structure Endpoint where
  host : String
  port : String
  server_id : String
  deriving DecidableEq

/-- What an armed timer is going to run. -/
inductive Timeout where
  | reconnect
  | s2sAuth
  | heartbeat
  /-- the timeout of a request; its closure holds the id under which the request is stored -/
  | request (promise : PromiseId) (rid : String)
  deriving DecidableEq

/-- An entry of `m_pendingRequests`. -/
structure PendingRequest where
  promise : PromiseId
  timeout : TimerId

/-- How a request is settled. -/
inductive RequestOutcome where
  | resolved (msg : Json)
  | notConnected
  | sendFailed
  | timedOut
  | disconnected
  deriving DecidableEq

/-- The data of a `CONST_CS_CMD_STORAGE_STATUS` message, without its time. -/
structure StorageStatus where
  status : StorageState
  endpoint : Option Endpoint
  error : Option String
  deriving DecidableEq

/-- What the client does to the outside. -/
inductive DbEffect where
  /-- `m_ws.send(fn_buildResponse(nonce, server_id))` -/
  | response (ws : WsId) (message : Bytes)
  /-- `m_ws.send(JSON.stringify({ mt, ms, rid }))` -/
  | request (ws : WsId) (promise : PromiseId) (message : Json)
  /-- `resolve` or `reject` of a promise is called -/
  | settle (promise : PromiseId) (outcome : RequestOutcome)
  /-- `m_sendToAuthCallback(JSON.stringify(c_cmd))` -/
  | toAuth (status : StorageStatus)
  /-- `m_newsPushCallback(ms)` -/
  | newsPush (ms : Val)
  deriving DecidableEq

/-- The state of the module. -/
structure DbProxyClient where
  ws : Option WsId := none
  authenticated : Bool := false
  currentEndpoint : Option Endpoint := none
  reconnectTimer : Option TimerId := none
  heartbeatTimer : Option TimerId := none
  s2sAuthTimer : Option TimerId := none
  /-- `m_sendToAuthCallback` and `m_newsPushCallback` are set -/
  sendToAuthCallback : Bool := true
  newsPushCallback : Bool := true
  pendingRequests : Table PendingRequest := .empty
  reconnectAttempts : ℕ := 0
  connectionState : StorageState := .disconnected
  lastSentStorageStatus : Option StorageState := none
  sockets : WsId → WsState := fun _ => .closed
  nextSocket : WsId := 0
  /-- the armed timers -/
  timers : TimerId → Option Timeout := fun _ => none
  nextTimer : TimerId := 0
  /-- `c_rid` of a call of `fn_sendRequest`, once it is drawn -/
  rids : PromiseId → Option String := fun _ => none
  nextPromise : PromiseId := 0
  log : List DbEffect := []

/-- What the client is given. -/
structure StorageSettings (PrivateKey PublicKey : Type) where
  J : JsonCodec
  crypto : Crypto PrivateKey PublicKey
  config : S2sConfig PrivateKey PublicKey
  /-- can a `WebSocket` be constructed for the URL of the endpoint? -/
  validUrl : Endpoint → Bool

namespace DbProxyClient

/-! ### Sockets and timers -/

def emit (x : DbEffect) (s : DbProxyClient) : DbProxyClient := { s with log := s.log ++ [x] }

def setSocket (w : WsId) (x : WsState) (s : DbProxyClient) : DbProxyClient :=
  { s with sockets := Function.update s.sockets w x }

/-- `ws.close()` -/
def closeSocket (w : WsId) : Action DbProxyClient Unit :=
  Action.modify fun s => match s.sockets w with
    | .connecting | .isOpen => setSocket w .closing s
    | .closing | .closed => s

/-- `ws.send(..)`: it throws on a connecting socket, and drops the message on one that is closing or
    closed. -/
def send (w : WsId) (x : DbEffect) : Action DbProxyClient Unit := do
  let s ← Action.get
  match s.sockets w with
  | .connecting => Action.throw .foreign
  | .isOpen => Action.modify (emit x)
  | .closing | .closed => pure ()

/-- `setTimeout` and `setInterval` -/
def setTimer (x : Timeout) : Action DbProxyClient TimerId := do
  let s ← Action.get
  Action.modify fun s => { s with
    timers := Function.update s.timers s.nextTimer (some x)
    nextTimer := s.nextTimer + 1 }
  return s.nextTimer

/-- `clearTimeout` and `clearInterval` of a handle. -/
def disarm (t : TimerId) (s : DbProxyClient) : DbProxyClient :=
  { s with timers := Function.update s.timers t none }

/-- The same for a variable that may be `null`. -/
def disarm? (t : Option TimerId) (s : DbProxyClient) : DbProxyClient :=
  match t with
  | some t => disarm t s
  | none => s

/-! ### Status and heartbeat -/

/-- `fn_sendStorageStatus` -/
def sendStorageStatus (status : StorageState) (error : Option String) (force : Bool) :
    Action DbProxyClient Unit := do
  let s ← Action.get
  if s.sendToAuthCallback = true ∧ ¬ (force = false ∧ s.lastSentStorageStatus = some status) then
    Action.modify fun s => { s with lastSentStorageStatus := some status }
    Action.modify (emit (.toAuth { status, endpoint := s.currentEndpoint, error }))

/-- `fn_startHeartbeat` -/
def startHeartbeat : Action DbProxyClient Unit := do
  Action.modify fun s => disarm? s.heartbeatTimer s
  let t ← setTimer .heartbeat
  Action.modify fun s => { s with heartbeatTimer := some t }

/-- `fn_stopHeartbeat` -/
def stopHeartbeat : Action DbProxyClient Unit :=
  Action.modify fun s => { disarm? s.heartbeatTimer s with heartbeatTimer := none }

/-- The status that a heartbeat reports. -/
def currentStatus (s : DbProxyClient) : StorageState :=
  if s.authenticated then .connected else .disconnected

/-- The function handed to `setInterval` in `fn_startHeartbeat`. -/
def heartbeat : Action DbProxyClient Unit := do
  let s ← Action.get
  sendStorageStatus s.currentStatus none false

/-! ### The state of the connection -/

/-- `(m_ws != null) && (m_ws.readyState === WebSocket.OPEN)` -/
def socketOpen (s : DbProxyClient) : Bool :=
  match s.ws with
  | some w => s.sockets w = .isOpen
  | none => false

/-- `fn_isConnected` -/
def isConnected (s : DbProxyClient) : Bool := s.socketOpen && s.authenticated

/-- The connection is taken to be authenticated. -/
def setConnected : Action DbProxyClient Unit := do
  Action.modify fun s => { s with authenticated := true, connectionState := .connected }
  sendStorageStatus .connected none true
  startHeartbeat

/-- Clear `m_s2sAuthTimer` if it is set. -/
def clearS2sAuthTimer : Action DbProxyClient Unit :=
  Action.modify fun s => { disarm? s.s2sAuthTimer s with s2sAuthTimer := none }

/-! ### Opening -/

/-- `fn_connectInternal` -/
def connectInternal (validUrl : Endpoint → Bool) : Action DbProxyClient Unit := do
  let s ← Action.get
  match s.currentEndpoint with
  | none => return
  | some endpoint => do
    Action.modify fun s => { disarm? s.reconnectTimer s with
      reconnectTimer := none, connectionState := .connecting }
    if validUrl endpoint then
      Action.modify fun s => { setSocket s.nextSocket .connecting s with
        ws := some s.nextSocket, nextSocket := s.nextSocket + 1 }
    else Action.throw .foreign

/-- `fn_connect` -/
def connect (validUrl : Endpoint → Bool) (endpoint : Endpoint) : Action DbProxyClient Unit := do
  let s ← Action.get
  if s.currentEndpoint.any fun e => e.host = endpoint.host && e.port = endpoint.port then return
  match s.ws with
  | some w => do
    closeSocket w
    Action.modify fun s => { s with ws := none }
  | none => pure ()
  Action.modify fun s => { s with authenticated := false, currentEndpoint := some endpoint }
  connectInternal validUrl

/-- `fn_onOpen` -/
def onOpen : Action DbProxyClient Unit := do
  Action.modify fun s => { s with reconnectAttempts := 0, connectionState := .connecting }
  sendStorageStatus .connecting none true
  Action.modify fun s => disarm? s.s2sAuthTimer s
  let t ← setTimer .s2sAuth
  Action.modify fun s => { s with s2sAuthTimer := some t }

/-- The function handed to `setTimeout` in `fn_onOpen`. -/
def s2sAuthTimeout : Action DbProxyClient Unit := do
  let s ← Action.get
  if s.authenticated = false ∧ s.socketOpen = true then setConnected

/-! ### Messages -/

section

variable {PrivateKey PublicKey : Type} (E : StorageSettings PrivateKey PublicKey)

/-- The branch of `fn_onMessage` for an envelope of the handshake. -/
def onEnvelope (env : Json) : Action DbProxyClient Unit := do
  let s ← Action.get
  match s.ws with
  | none => pure ()
  | some w =>
    if env.field "s2s_auth" = some (.str S2sAuth.challenge) then
      clearS2sAuthTimer
      Action.attempt
        (do
          let response ← Action.ofExcept
            (S2sAuth.buildResponse E.J E.crypto E.config (env.field "nonce"))
          send w (.response w response))
        fun _ => closeSocket w

/-- The entry of `m_pendingRequests` an answer is for, with its key. -/
def pendingFor (s : DbProxyClient) (rid : Val) : Except JsError (Option (String × PendingRequest)) :=
  if isNullish rid then .ok none
  else do
    let own ← s.pendingRequests.hasOwnProperty objectPrototype rid
    let k ← propKey rid
    return if own then (s.pendingRequests.own? k).map fun req => (k, req) else none

/-- The branch of `fn_onMessage` for anything else. -/
def onStorageMessage (msg : Json) : Action DbProxyClient Unit := do
  let type ← Action.ofExcept (readProp "type" (some msg))
  if type = some (.str "auth_success") then
    clearS2sAuthTimer
    setConnected
  else if type = some (.str "error") then do
    -- the error is put into a log line, and may have no text
    let _ ← Action.ofExcept (propKey (msg.field "error"))
  else do
    let s ← Action.get
    match ← Action.ofExcept (s.pendingFor (msg.field "rid")) with
    | some (k, req) => do
      Action.modify (disarm req.timeout)
      Action.modify fun s => { s with pendingRequests := s.pendingRequests.delete k }
      Action.modify (emit (.settle req.promise (.resolved msg)))
    | none =>
      if msg.field "mt" = some (.num "9018") ∧ s.newsPushCallback = true then
        Action.modify (emit (.newsPush (msg.field "ms")))

/-- `fn_onMessage` -/
def onMessage (data : Bytes) (isText : Bool) : Action DbProxyClient Unit :=
  match S2sAuth.parseEnvelope E.J data isText with
  | some env => onEnvelope E env
  | none =>
    match E.J.parse data with
    | some msg => onStorageMessage msg
    | none => pure ()

end

/-! ### Closing -/

/-- `fn_clearPending`, whose one caller passes an error of its own. -/
def clearPending : Action DbProxyClient Unit := do
  Action.forEach (← Action.get).pendingRequests.values fun req => do
    Action.modify (disarm req.timeout)
    Action.modify (emit (.settle req.promise .disconnected))
  Action.modify fun s => { s with pendingRequests := .empty }

/-- `fn_onClose` -/
def onClose : Action DbProxyClient Unit := do
  Action.modify fun s => { s with
    authenticated := false, ws := none, connectionState := .disconnected }
  stopHeartbeat
  sendStorageStatus .disconnected (some "Connection closed") true
  clearPending
  clearS2sAuthTimer
  let s ← Action.get
  if s.currentEndpoint.isSome then
    Action.modify fun s => { s with reconnectAttempts := s.reconnectAttempts + 1 }
    let t ← setTimer .reconnect
    Action.modify fun s => { s with reconnectTimer := some t }

/-- `fn_onError` -/
def onError (message : String) : Action DbProxyClient Unit := do
  Action.modify fun s => { s with connectionState := .unhealthy }
  sendStorageStatus .error (some message) true
  let s ← Action.get
  match s.ws with
  | some w => closeSocket w
  | none => pure ()

/-! ### Requests -/

/-- The frame of a request. -/
def requestFrame (mt ms : Json) (rid : String) : Json :=
  .obj [("mt", mt), ("ms", ms), ("rid", .str rid)]

/-- `fn_sendRequest`; `rid` is what `uuidv4` yields, and `fails` tells whether the rest of the call
    of `send` throws. -/
def sendRequest (mt ms : Json) (rid : String) (fails : Bool) : Action DbProxyClient Unit := do
  let s ← Action.get
  let p := s.nextPromise
  Action.modify fun s => { s with nextPromise := p + 1 }
  match s.isConnected, s.ws with
  | true, some w => do
    Action.modify fun s => { s with rids := Function.update s.rids p (some rid) }
    let t ← setTimer (.request p rid)
    Action.modify fun s => { s with
      pendingRequests := s.pendingRequests.assign objectPrototype rid { promise := p, timeout := t } }
    Action.attempt
      (if fails then Action.throw .foreign else send w (.request w p (requestFrame mt ms rid)))
      fun _ => do
        Action.modify (disarm t)
        Action.modify fun s => { s with pendingRequests := s.pendingRequests.delete rid }
        Action.modify (emit (.settle p .sendFailed))
  | _, _ => Action.modify (emit (.settle p .notConnected))

/-- The function handed to `setTimeout` in `fn_sendRequest`. -/
def requestTimeout (p : PromiseId) (rid : String) : Action DbProxyClient Unit := do
  Action.modify fun s => { s with pendingRequests := s.pendingRequests.delete rid }
  Action.modify (emit (.settle p .timedOut))

/-! ### Runs -/

/-- An armed timer fires; an interval stays armed. -/
def fire (validUrl : Endpoint → Bool) (t : TimerId) : Action DbProxyClient Unit := do
  let s ← Action.get
  match s.timers t with
  | none => pure ()
  | some .heartbeat => heartbeat
  | some .reconnect => do
    Action.modify (disarm t)
    connectInternal validUrl
  | some .s2sAuth => do
    Action.modify (disarm t)
    s2sAuthTimeout
  | some (.request p rid) => do
    Action.modify (disarm t)
    requestTimeout p rid

/-- What can happen to the client. -/
inductive Op where
  | connect (endpoint : Endpoint)
  | sendRequest (mt ms : Json) (rid : String) (fails : Bool)
  | opened (w : WsId)
  | message (w : WsId) (data : Bytes) (isText : Bool)
  | errored (w : WsId) (message : String)
  /-- the peer or the network ends an open connection: its `close` event follows -/
  | closing (w : WsId)
  | closed (w : WsId)
  | timer (t : TimerId)

/-- Can it happen? A socket opens once, hands over messages until it is closed, and is closed once;
    what was asked to close does not open any more. -/
def Enabled (s : DbProxyClient) : Op → Prop
  | .connect _ | .sendRequest .. => True
  | .opened w => s.sockets w = .connecting
  | .message w .. => s.sockets w = .isOpen ∨ s.sockets w = .closing
  | .errored w _ | .closed w => s.sockets w ≠ .closed
  | .closing w => s.sockets w = .isOpen
  | .timer t => (s.timers t).isSome

section

variable {PrivateKey PublicKey : Type} (E : StorageSettings PrivateKey PublicKey)

/-- What it does. -/
def perform : Op → Action DbProxyClient Unit
  | .connect endpoint => connect E.validUrl endpoint
  | .sendRequest mt ms rid fails => sendRequest mt ms rid fails
  | .opened w => do
    Action.modify (setSocket w .isOpen)
    onOpen
  | .message _ data isText => onMessage E data isText
  | .errored _ message => onError message
  | .closing w => Action.modify (setSocket w .closing)
  | .closed w => do
    Action.modify (setSocket w .closed)
    onClose
  | .timer t => fire E.validUrl t

/-- One step of the client. -/
def Step (s : DbProxyClient) (o : Op) (s' : DbProxyClient) : Prop :=
  s.Enabled o ∧ s' = (perform E o).final s

instance (s : DbProxyClient) : ∀ o : Op, Decidable (s.Enabled o)
  | .connect _ | .sendRequest .. => inferInstanceAs (Decidable True)
  | .opened _ | .closing _ => inferInstanceAs (Decidable (_ = _))
  | .message .. => inferInstanceAs (Decidable (_ ∨ _))
  | .errored .. | .closed _ => inferInstanceAs (Decidable (_ ≠ _))
  | .timer _ => inferInstanceAs (Decidable (_ = true))

/-- A run of given operations that meet a condition. -/
def run (C : DbProxyClient → Op → Prop) [∀ s o, Decidable (C s o)] (s : DbProxyClient)
    (os : List Op) : Option DbProxyClient :=
  os.foldlM (fun s o => if s.Enabled o ∧ C s o then some ((perform E o).final s) else none) s

variable {E} in
theorem path_of_run {C : DbProxyClient → Op → Prop} [∀ s o, Decidable (C s o)]
    {s s' : DbProxyClient} {os : List Op} (h : run E C s os = some s') :
    Lts.Path (Step E) C s s' :=
  Lts.Path.of_guarded (fun hc => ⟨hc.2, hc.1, rfl⟩) h

end

/-! ### A client to try -/

/-- A client without a key, which can reach every endpoint. -/
def plainSettings : StorageSettings Char Char where
  J := Text.codec
  crypto := .sealing
  config := {}
  validUrl _ := true

def storageEndpoint : Endpoint := ⟨"storage", "9967", "configured-storage-server"⟩

end DbProxyClient

end DroneEngage
