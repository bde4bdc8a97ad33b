import DroneEngage.UdpProxy
import DroneEngage.Lts

/-! The UDP proxy module with its objects: sockets, proxies, table entries, and the reaper.

    A request is answered from a `dgram` event, by a callback that was handed to a proxy object some
    events before. Sockets, proxies and entries are therefore objects on heaps, and a callback is a
    record of what its closure holds. Callers of the module reach it between its own events only, as
    every callback is the last thing the code around it does.

    Clock readings are arguments. Creation times and log lines are left out. -/

namespace DroneEngage
open Js

/-- A `udp_socket` object. -/
abbrev UdpSocketId := ℕ
/-- A `udp_proxy` object. -/
abbrev ProxyId := ℕ
/-- An object of the table `m_activeUdpProxy`. -/
abbrev EntryId := ℕ
/-- A call of `getUDPSocket`, with the callback handed to it. -/
abbrev RequestId := ℕ

/-! ### Objects -/

/-- Where the `bind` of a `dgram` socket stands. -/
inductive Bind where
  | pending
  | listening
  | failed (code : String)
  | closed
  deriving DecidableEq

/-- The `remote` of a datagram. -/
structure Remote where
  address : String
  port : String
  deriving DecidableEq

/-- The two sockets of a proxy. -/
inductive Side where
  | one
  | two
  deriving DecidableEq

/-- `udp_socket` -/
structure UdpSocket where
  /-- `null` once its proxy is closed -/
  parent : Option ProxyId := none
  isReady : Bool := false
  /-- `_caller_ip` and `_caller_port` -/
  caller : Option Remote := none
  host : String := "0.0.0.0"
  port : Val := none
  /-- which of the two receive functions of its proxy `_onMessageReceived` is -/
  side : Side := .one
  lastAccessTime : ℕ := 0
  /-- the state of `_server` -/
  bind : Bind := .closed

/-- What a caller of `recreateProxy` does when the new proxy is ready or has failed. -/
inductive OnComplete where
  /-- `getUDPSocket` answers a request; its closure holds the same entry -/
  | refresh (request : RequestId)
  /-- the reaper notifies the unit of a failure -/
  | healthCheck (name : String)

/-- The callback of a proxy. -/
inductive Callback where
  /-- of a new entry in `getUDPSocket` -/
  | opened (entry : EntryId) (request : RequestId)
  /-- of `recreateProxy` -/
  | recreated (entry : EntryId) (onComplete : Option OnComplete)

/-- `udp_proxy` -/
structure UdpProxy where
  callback : Callback := .recreated 0 none
  readyCounter : ℕ := 0
  readyProxy : Bool := true
  blocked : Bool := false
  /-- the sockets are `null` once the proxy is closed -/
  socket1 : Option UdpSocketId := none
  socket2 : Option UdpSocketId := none
  /-- how often `close` was called; no code reads it -/
  closings : ℕ := 0

/-- An entry of the table. Nothing runs between its creation and that of its first proxy. -/
structure ProxyEntry where
  last_access : ℕ := 0
  socket1_port : Val := none
  socket2_port : Val := none
  /-- `blocked === true`: the property is missing at first -/
  blocked : Bool := false
  m_udpproxy : ProxyId := 0

/-- A socket as `getConfig` reports it. -/
structure SocketConfig where
  address : Val
  port : Val
  deriving DecidableEq

/-- A proxy as `getConfig` reports it. -/
structure ProxyConfig where
  socket1 : SocketConfig
  socket2 : SocketConfig
  deriving DecidableEq

/-- What the module does to the outside. -/
inductive UdpEffect where
  /-- the callback of a request runs, with a report and its `en` -/
  | reply (request : RequestId) (report : ProxyConfig) (en : Bool)
  /-- `notifyUnitProxyClosed` -/
  | notify (name : String)
  /-- `send` of a `dgram` socket -/
  | sent (socket : UdpSocketId) (message : Bytes) (caller : Remote)
  deriving DecidableEq

/-- The state of the module. -/
structure UdpProxies where
  /-- `m_configuration.public_host` -/
  public_host : Val
  sockets : UdpSocketId → UdpSocket := fun _ => {}
  nextSocket : UdpSocketId := 0
  proxies : ProxyId → UdpProxy := fun _ => {}
  nextProxy : ProxyId := 0
  entries : EntryId → ProxyEntry := fun _ => {}
  nextEntry : EntryId := 0
  nextRequest : RequestId := 0
  activeUdpProxy : Table EntryId := .empty
  /-- `m_reaperInterval` is set -/
  reaperInterval : Bool := false
  lastReaperTick : ℕ := 0
  log : List UdpEffect := []

namespace UdpProxies

/-- The module when the process starts. -/
def start (public_host : Val) : UdpProxies := { public_host }

/-! ### Writes -/

def emit (x : UdpEffect) (s : UdpProxies) : UdpProxies := { s with log := s.log ++ [x] }

def setSocket (k : UdpSocketId) (f : UdpSocket → UdpSocket) (s : UdpProxies) : UdpProxies :=
  { s with sockets := Function.update s.sockets k (f (s.sockets k)) }

def setProxy (p : ProxyId) (f : UdpProxy → UdpProxy) (s : UdpProxies) : UdpProxies :=
  { s with proxies := Function.update s.proxies p (f (s.proxies p)) }

def setEntry (e : EntryId) (f : ProxyEntry → ProxyEntry) (s : UdpProxies) : UdpProxies :=
  { s with entries := Function.update s.entries e (f (s.entries e)) }

/-- A property of a reference that may be `null`. -/
def deref {α : Type} (r : Option α) : Action UdpProxies α :=
  Action.ofExcept (match r with
    | some a => .ok a
    | none => .error .typeError)

/-! ### `udp_socket` -/

/-- The constructor, with the `bind` call. -/
def newSocket (port : Val) (side : Side) (parent : ProxyId) : Action UdpProxies UdpSocketId := do
  let s ← Action.get
  Action.modify fun s => { s with
    sockets := Function.update s.sockets s.nextSocket
      { parent := some parent, port, side, bind := .pending }
    nextSocket := s.nextSocket + 1 }
  return s.nextSocket

/-- `close` of a socket. -/
def closeSocket (k : UdpSocketId) : Action UdpProxies Unit :=
  Action.modify (setSocket k fun w => { w with isReady := false, bind := .closed })

/-- `sendMessage`. To a caller with port 0 the code throws and sends nothing, which is left out: results
    about what is sent are about runs in which nobody speaks from port 0. -/
def sendMessage (message : Bytes) (k : UdpSocketId) : Action UdpProxies Unit := do
  let s ← Action.get
  match (s.sockets k).caller with
  | none => return
  | some caller => Action.modify (emit (.sent k message caller))

/-- `getConfig` of a socket. -/
def socketConfig (s : UdpProxies) (k : UdpSocketId) : SocketConfig where
  address := if (s.sockets k).host = "0.0.0.0" then s.public_host else some (.str (s.sockets k).host)
  port := (s.sockets k).port

/-! ### `udp_proxy` -/

/-- The constructor. -/
def newProxy (port1 port2 : Val) (callback : Callback) : Action UdpProxies ProxyId := do
  let p := (← Action.get).nextProxy
  Action.modify fun s => { s with
    proxies := Function.update s.proxies p { callback }
    nextProxy := p + 1 }
  let k ← newSocket (Server.portOrZero port1) .one p
  Action.modify (setProxy p fun x => { x with socket1 := some k })
  let l ← newSocket (Server.portOrZero port2) .two p
  Action.modify (setProxy p fun x => { x with socket2 := some l })
  return p

/-- `close` of a proxy: the two `try` blocks also swallow a `null` socket, the writes of `parent`
    do not. -/
def closeProxy (p : ProxyId) : Action UdpProxies Unit := do
  Action.modify (setProxy p fun x => { x with closings := x.closings + 1 })
  let s ← Action.get
  Action.attempt (do closeSocket (← deref (s.proxies p).socket1)) fun _ => pure ()
  Action.attempt (do closeSocket (← deref (s.proxies p).socket2)) fun _ => pure ()
  let k ← deref (s.proxies p).socket1
  Action.modify (setSocket k fun w => { w with parent := none })
  let l ← deref (s.proxies p).socket2
  Action.modify (setSocket l fun w => { w with parent := none })
  Action.modify (setProxy p fun x => { x with socket1 := none, socket2 := none })

/-- `getConfig` of a proxy. -/
def getConfig (p : ProxyId) : Action UdpProxies ProxyConfig := do
  let s ← Action.get
  let k ← deref (s.proxies p).socket1
  let l ← deref (s.proxies p).socket2
  return ⟨s.socketConfig k, s.socketConfig l⟩

/-- `isReady` of a proxy. -/
def isReady (p : ProxyId) : Action UdpProxies Bool := do
  let s ← Action.get
  let k ← deref (s.proxies p).socket1
  if (s.sockets k).isReady then
    let l ← deref (s.proxies p).socket2
    return (s.sockets l).isReady
  else return false

/-- `setBlocked` -/
def setBlocked (blocked : Bool) (p : ProxyId) : Action UdpProxies Unit :=
  Action.modify (setProxy p fun x => { x with blocked })

/-- A receive function of a proxy: pass the message on to the socket `other` selects. -/
def onSocketReceive (other : UdpProxy → Option UdpSocketId) (message : Bytes)
    (me : Option ProxyId) : Action UdpProxies Unit := do
  let p ← deref me
  let s ← Action.get
  if (s.proxies p).blocked then return
  let k ← deref (other (s.proxies p))
  sendMessage message k

/-- `onSocket1Receive` -/
def onSocket1Receive : Bytes → Option ProxyId → Action UdpProxies Unit :=
  onSocketReceive UdpProxy.socket2

/-- `onSocket2Receive` -/
def onSocket2Receive : Bytes → Option ProxyId → Action UdpProxies Unit :=
  onSocketReceive UdpProxy.socket1

/-- `startReaper` -/
def startReaper (now : ℕ) (s : UdpProxies) : UdpProxies :=
  if s.reaperInterval then s else { s with reaperInterval := true, lastReaperTick := now }

/-- `stopReaper` -/
def stopReaper (s : UdpProxies) : UdpProxies :=
  { s with reaperInterval := false, lastReaperTick := 0 }

/-- Write the ports of the entry's proxy back to the entry. -/
def refreshPorts (e : EntryId) : Action UdpProxies ProxyConfig := do
  let s ← Action.get
  let ms ← getConfig (s.entries e).m_udpproxy
  Action.modify (setEntry e fun x =>
    { x with socket1_port := ms.socket1.port, socket2_port := ms.socket2.port })
  return ms

/-- `if (onComplete) onComplete(enabled)` in `recreateProxy`. -/
def runOnComplete (e : EntryId) (enabled : Bool) : Option OnComplete → Action UdpProxies Unit
  | none => pure ()
  | some (.refresh r) => do
    let s ← Action.get
    let refreshed ← getConfig (s.entries e).m_udpproxy
    Action.modify (emit (.reply r refreshed enabled))
  | some (.healthCheck name) => if enabled then pure () else Action.modify (emit (.notify name))

/-- The callback of a proxy runs. -/
def runCallback (enabled : Bool) (now : ℕ) : Callback → Action UdpProxies Unit
  | .opened e r => do
    let ms ← refreshPorts e
    Action.modify (startReaper now)
    Action.modify (emit (.reply r ms enabled))
  | .recreated e onComplete => do
    if enabled then
      let _ ← refreshPorts e
    runOnComplete e enabled onComplete

/-- `_onReady`, called on the parent of a socket. -/
def onReady (status : Bool) (now : ℕ) (me : Option ProxyId) : Action UdpProxies Unit := do
  let p ← deref me
  Action.modify (setProxy p fun x =>
    { x with readyProxy := x.readyProxy && status, readyCounter := x.readyCounter + 1 })
  let s ← Action.get
  if (s.proxies p).readyCounter = 2 then
    runCallback (s.proxies p).readyProxy now (s.proxies p).callback

/-! ### The listeners of a `dgram` socket -/

/-- The `listening` event; `address()` gives the host and the port. -/
def listeningEvent (k : UdpSocketId) (host port : String) (now : ℕ) : Action UdpProxies Unit := do
  Action.modify (setSocket k fun w =>
    { w with bind := .listening, port := some (.num port), host, isReady := true })
  let s ← Action.get
  onReady true now (s.sockets k).parent

/-- The `error` event that ends a bind. Only one error code counts. -/
def bindErrorEvent (k : UdpSocketId) (code : String) (now : ℕ) : Action UdpProxies Unit := do
  Action.modify (setSocket k fun w => { w with bind := .failed code })
  if code = "EADDRINUSE" then
    Action.modify (setSocket k fun w => { w with isReady := false })
    let s ← Action.get
    onReady false now (s.sockets k).parent

/-- The `message` event. -/
def messageEvent (k : UdpSocketId) (message : Bytes) (remote : Remote) (now : ℕ) :
    Action UdpProxies Unit := do
  Action.modify (setSocket k fun w => { w with lastAccessTime := now, caller := some remote })
  let s ← Action.get
  match (s.sockets k).side with
  | .one => onSocket1Receive message (s.sockets k).parent
  | .two => onSocket2Receive message (s.sockets k).parent

/-! ### Recreating a proxy -/

/-- `a || b || 0` for a port an entry remembers and the one its proxy reports. -/
def stickyPort (a b : Val) : Val := if isTruthy a then a else Server.portOrZero b

/-- `recreateProxy` of an entry. -/
def recreateProxy (e : EntryId) (onComplete : Option OnComplete) (now : ℕ) :
    Action UdpProxies Unit := do
  let entry := (← Action.get).entries e
  let config ← getConfig entry.m_udpproxy
  Action.attempt (closeProxy entry.m_udpproxy) fun _ => pure ()
  let p ← newProxy (stickyPort entry.socket1_port config.socket1.port)
    (stickyPort entry.socket2_port config.socket2.port) (.recreated e onComplete)
  Action.modify (setEntry e fun x => { x with m_udpproxy := p })
  -- an entry that is blocked passes that on to its new proxy
  setBlocked entry.blocked p
  Action.modify (setEntry e fun x => { x with last_access := now })

/-- `recoverAllProxiesAfterResume` -/
def recoverAllProxiesAfterResume (now : ℕ) : Action UdpProxies Unit := do
  Action.forEach (← Action.get).activeUdpProxy.keys fun name => do
    match (← Action.get).activeUdpProxy.own? name with
    | some e => recreateProxy e none now
    | none => pure ()

/-! ### The reaper -/

/-- `PROXY_IDLE_TIMEOUT_MS` -/
def proxyIdleTimeout : ℕ := 5 * 60 * 1000

/-- `REAPER_INTERVAL_MS` -/
def reaperInterval_ms : ℕ := 60 * 1000

/-- The latest access of an entry or of its proxy's sockets. -/
def lastAccess (s : UdpProxies) (e : EntryId) : ℕ :=
  let at? (k : Option UdpSocketId) : ℕ := (k.map fun k => (s.sockets k).lastAccessTime).getD 0
  max (s.entries e).last_access (max (at? (s.proxies (s.entries e).m_udpproxy).socket1)
    (at? (s.proxies (s.entries e).m_udpproxy).socket2))

/-- The reaper looks at one name. `online` tells whose active sender has an open connection. -/
def reap (now : ℕ) (online : String → Bool) (name : String) : Action UdpProxies Unit := do
  let s ← Action.get
  match s.activeUdpProxy.own? name with
  | none => pure ()
  | some e =>
    if !(← isReady (s.entries e).m_udpproxy) then
      recreateProxy e (some (.healthCheck name)) now
    else if proxyIdleTimeout < now - s.lastAccess e && !online name then
      closeProxy (s.entries e).m_udpproxy
      Action.modify fun s => { s with activeUdpProxy := s.activeUdpProxy.delete name }
      Action.modify (emit (.notify name))

/-- Has the timer been held up for so long that the system must have slept? -/
def resumed (s : UdpProxies) (now : ℕ) : Bool :=
  0 < s.lastReaperTick && reaperInterval_ms * 3 < now - s.lastReaperTick

/-- The function `startReaper` hands to `setInterval`. -/
def reaperTick (now : ℕ) (online : String → Bool) : Action UdpProxies Unit := do
  let s ← Action.get
  Action.when (s.resumed now) (recoverAllProxiesAfterResume now)
  Action.modify fun s => { s with lastReaperTick := now }
  Action.forEach (← Action.get).activeUdpProxy.keys (reap now online)
  let s ← Action.get
  if s.activeUdpProxy.keys = [] then Action.modify stopReaper

/-! ### The functions of the module -/

/-- `fn_setProxyBlocked`. On an inherited name the flag goes to a value nobody stored. For `__proto__`
    this is the prototype of all objects, which get a key `blocked`: that is left out, and results
    about what the flag does are about other names. -/
def setProxyBlocked (name : String) (blocked : Bool) : Action UdpProxies Bool := do
  let s ← Action.get
  match s.activeUdpProxy.get objectPrototype name with
  | .absent => return false
  | .inherited => return true
  | .own e => do
    Action.modify (setEntry e fun x => { x with blocked })
    setBlocked blocked (s.entries e).m_udpproxy
    return true

/-- A proxy as `fn_getActiveProxiesList` reports it, without its creation time. -/
structure ProxyReport where
  name : String
  config : ProxyConfig
  ready : Bool
  blocked : Bool
  last_access : ℕ

/-- The report about one name. -/
def proxyReport (name : String) : Action UdpProxies ProxyReport := do
  let s ← Action.get
  match s.activeUdpProxy.own? name with
  | none => Action.throw .typeError
  | some e => do
    let config ← getConfig (s.entries e).m_udpproxy
    let ready ← isReady (s.entries e).m_udpproxy
    return { name, config, ready, blocked := (s.entries e).blocked, last_access := s.lastAccess e }

/-- The reports about some names. -/
def proxyReports : List String → Action UdpProxies (List ProxyReport)
  | [] => pure []
  | name :: rest => do
    let report ← proxyReport name
    let reports ← proxyReports rest
    return report :: reports

/-- `fn_getActiveProxiesList` -/
def getActiveProxiesList : Action UdpProxies (List ProxyReport) := do
  proxyReports (← Action.get).activeUdpProxy.keys

/-- The report for a name that has no proxy. -/
def noProxy : ProxyConfig :=
  ⟨⟨some (.str "0.0.0.0"), some (.num "0")⟩, ⟨some (.str "0.0.0.0"), some (.num "0")⟩⟩

/-- `closeUDPSocket`: its callback receives the returned report, with `en` false. -/
def closeUDPSocket (name : Val) : Action UdpProxies ProxyConfig := do
  let s ← Action.get
  let own ← Action.ofExcept (s.activeUdpProxy.hasOwnProperty objectPrototype name)
  let k ← Action.ofExcept (propKey name)
  match own, s.activeUdpProxy.own? k with
  | true, some e => do
    let ms ← getConfig (s.entries e).m_udpproxy
    closeProxy (s.entries e).m_udpproxy
    Action.modify fun s => { s with activeUdpProxy := s.activeUdpProxy.delete k }
    return ms
  | _, _ => return noProxy

/-- The part of `getUDPSocket` for a name without an entry. -/
def openUDPSocket (k : String) (port1 port2 : Val) (callback : RequestId) (now : ℕ) :
    Action UdpProxies Unit := do
  let e := (← Action.get).nextEntry
  Action.modify fun s => { s with
    entries := Function.update s.entries e
      { last_access := now, socket1_port := Server.portOrZero port1,
        socket2_port := Server.portOrZero port2 }
    nextEntry := e + 1
    activeUdpProxy := s.activeUdpProxy.assign objectPrototype k e }
  let p ← newProxy port1 port2 (.opened e callback)
  Action.modify (setEntry e fun x => { x with m_udpproxy := p })

/-- What the first line of `getUDPSocket` reads: the entry of the name, its key and the ports. It
    throws when one of them has no text, or when an entry hides the method `hasOwnProperty`. -/
def lookupRequest (s : UdpProxies) (name socket1 socket2 : Val) :
    Except JsError (Option EntryId × String × Val × Val) := do
  let k ← propKey name
  let port1 ← readProp "port" socket1
  let _ ← propKey port1
  let port2 ← readProp "port" socket2
  let _ ← propKey port2
  let own ← s.activeUdpProxy.hasOwnProperty objectPrototype name
  return (if own then s.activeUdpProxy.own? k else none, k, port1, port2)

/-- `getUDPSocket`. The recursive call, after `closeUDPSocket`, finds no entry. -/
def getUDPSocket (name socket1 socket2 : Val) (callback : RequestId) (now : ℕ) :
    Action UdpProxies Unit := do
  let s ← Action.get
  let (entry, k, port1, port2) ← Action.ofExcept (s.lookupRequest name socket1 socket2)
  match entry with
  | none => openUDPSocket k port1 port2 callback now
  | some e => do
    let ms ← getConfig (s.entries e).m_udpproxy
    if Server.portFits port1 ms.socket1.port && Server.portFits port2 ms.socket2.port then
      if !(← isReady (s.entries e).m_udpproxy) then
        recreateProxy e (some (.refresh callback)) now
      else do
        Action.modify (setEntry e fun x => { x with last_access := now })
        Action.modify (emit (.reply callback ms true))
    else do
      let _ ← closeUDPSocket name
      openUDPSocket k port1 port2 callback now

/-! ### Runs -/

/-- What can happen to the module. -/
inductive Op where
  | getUDPSocket (name socket1 socket2 : Val) (now : ℕ)
  | closeUDPSocket (name : Val)
  | setProxyBlocked (name : String) (blocked : Bool)
  | reaperTick (now : ℕ) (online : String → Bool)
  | listening (k : UdpSocketId) (host port : String) (now : ℕ)
  | bindError (k : UdpSocketId) (code : String) (now : ℕ)
  | message (k : UdpSocketId) (message : Bytes) (remote : Remote) (now : ℕ)
  /-- an error of an open socket that is not the end of its bind, so not `EADDRINUSE`: it is only
      logged -/
  | error (k : UdpSocketId)

/-- Can it happen? The timer of the reaper has to be set, a `dgram` socket reports the end of a bind
    once, unless it was closed before, and receives when it is bound. -/
def Enabled (s : UdpProxies) : Op → Prop
  | .getUDPSocket .. | .closeUDPSocket _ | .setProxyBlocked .. => True
  | .reaperTick .. => s.reaperInterval = true
  | .listening k .. | .bindError k .. => (s.sockets k).bind = .pending
  | .message k .. => (s.sockets k).bind = .listening
  | .error k => (s.sockets k).bind ≠ .closed

/-- What it does. A call that throws ends in the `try` block of its caller. -/
def perform : Op → Action UdpProxies Unit
  | .getUDPSocket name socket1 socket2 now => do
    let r := (← Action.get).nextRequest
    Action.modify fun s => { s with nextRequest := r + 1 }
    getUDPSocket name socket1 socket2 r now
  | .closeUDPSocket name => do
    let _ ← closeUDPSocket name
  | .setProxyBlocked name blocked => do
    let _ ← setProxyBlocked name blocked
  | .reaperTick now online => reaperTick now online
  | .listening k host port now => listeningEvent k host port now
  | .bindError k code now => bindErrorEvent k code now
  | .message k message remote now => messageEvent k message remote now
  | .error _ => pure ()

/-- One step of the module. -/
def Step (s : UdpProxies) (o : Op) (s' : UdpProxies) : Prop :=
  s.Enabled o ∧ s' = (perform o).final s

instance (s : UdpProxies) : ∀ o : Op, Decidable (s.Enabled o)
  | .getUDPSocket .. | .closeUDPSocket _ | .setProxyBlocked .. => inferInstanceAs (Decidable True)
  | .reaperTick .. => inferInstanceAs (Decidable (_ = true))
  | .listening k .. | .bindError k .. => inferInstanceAs (Decidable ((s.sockets k).bind = .pending))
  | .message k .. => inferInstanceAs (Decidable ((s.sockets k).bind = .listening))
  | .error k => inferInstanceAs (Decidable ((s.sockets k).bind ≠ .closed))

/-- The body of a request for a port that the system chooses. -/
def anyPort : Val := some (.obj [("port", .num "0")])

/-- A vehicle asks again before the sockets of its proxy are bound. -/
def askTwice : List Op :=
  [.getUDPSocket (some (.str "drone")) anyPort anyPort 1000,
    .getUDPSocket (some (.str "drone")) anyPort anyPort 1001, .listening 2 "0.0.0.0" "5000" 1002,
    .listening 3 "0.0.0.0" "5001" 1003]

/-- A run of given operations that meet a condition. -/
def run (C : UdpProxies → Op → Prop) [∀ s o, Decidable (C s o)] (s : UdpProxies) (os : List Op) :
    Option UdpProxies :=
  os.foldlM (fun s o => if s.Enabled o ∧ C s o then some ((perform o).final s) else none) s

theorem path_of_run {C : UdpProxies → Op → Prop} [∀ s o, Decidable (C s o)] {s s' : UdpProxies}
    {os : List Op} (h : run C s os = some s') : Lts.Path Step C s s' :=
  Lts.Path.of_guarded (fun hc => ⟨hc.2, hc.1, rfl⟩) h

end UdpProxies

end DroneEngage
