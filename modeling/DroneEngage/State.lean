import DroneEngage.Js.Action
import DroneEngage.Js.Codec
import DroneEngage.Js.Table
import Mathlib.Logic.Function.Basic

/-! The state of one communication server: its configuration, the tables it keeps and the objects
    those tables point to.

    Sockets, accounts and groups are objects with an identity, and the code compares and shares
    them by it: a socket points to its group, the group to its account, the tables point back. They
    live in three heaps indexed by numbers; the tables of the source (`c_accounts`, `m_groups`,
    `m_units`, `m_activeSenderIDsList`, `m_waitingAccounts`, `m_activeUdpProxy`) hold such numbers.
    What a handler does to the outside world is appended to `log`. Statistics, creation dates and
    log lines are left out: nothing reads them. -/

namespace DroneEngage
open Js

/-- A WebSocket object. -/
abbrev SocketId := ℕ
/-- An `Account` object. -/
abbrev AccountId := ℕ
/-- A `Group` object. -/
abbrev GroupId := ℕ
/-- A connection to a child server, as the parent side of the relay sees it. -/
abbrev LinkId := ℕ

/-! ### Constants -/

namespace Const

def loginTempKey : String := "f"
def senderID : String := "s"
def accountID : String := "a"
def groupID : String := "b"
def requestID : String := "r"
def actorType : String := "at"
def permission2 : String := "prm"

def routing : String := "ty"
def messageID : String := "mt"
def targetID : String := "tg"
def wsSenderID : String := "sd"
def payload : String := "ms"

def routingGroup : String := "g"
def routingIndividual : String := "i"
def routingSystem : String := "s"

def actorGCS : String := "g"
def actorDrone : String := "d"

def senderCommServer : String := "_SYS_"
def senderAllGCS : String := "_GCS_"
def senderAll : String := "_GD_"
def senderAllAgents : String := "_AGN_"

/-- `0xffffffff`, the permission of a local login. -/
def fullPermission : Json := .num "4294967295"

end Const

/-! ### Configuration -/

/-- The settings of `m_serverconfig.m_configuration` that the modelled code reads. -/
structure Config where
  server_id : Option String := none
  public_host : Val := none
  /-- `process.env.de_comm_server_port || server_port` -/
  server_port : Val := none
  local_server_enabled : Bool := false
  local_server_account_id : Option String := none
  ws_auth_no_frame_old_compatibility : Bool := true
  allow_udpproxy_fixed_port : Bool := false
  ignore_auth_server : Bool := false
  enable_super_server : Bool := false
  enable_persistant_relay : Bool := false
  deriving DecidableEq, Repr

/-! ### Objects -/

/-- The login record `c_onb` of an accepted socket. -/
structure LoginRequest where
  senderID : Val
  accountID : Val
  groupID : Val
  requestID : Val
  actorType : Val
  prm : Val
  deriving DecidableEq

/-- The `ws` connection states the code looks at. -/
inductive ReadyState where
  | isOpen
  | closing
  | closed
  deriving DecidableEq, Repr

/-- A client socket with the properties the server hangs on it. -/
structure Socket where
  /-- `_socket.remoteAddress + ':' + _socket.remotePort` -/
  remote : String := ""
  readyState : ReadyState := .isOpen
  /-- `fn_onWsMessage` and `fn_onWsClose` are registered -/
  listening : Bool := false
  /-- `fn_authFrameHandler` is registered -/
  authFrameHandler : Bool := false
  /-- the 8 s timer of the auth frame is armed -/
  authTimer : Bool := false
  /-- `m_authPending` -/
  authPending : Bool := false
  /-- `m_loginRequest` -/
  loginRequest : Option LoginRequest := none
  /-- `m_status` is set -/
  hasStatus : Bool := false
  /-- `name`; `none` also when the property is missing -/
  name : Val := none
  /-- `m__group`; `none` when the property is missing -/
  group : Option GroupId := none
  /-- `m__terminated` -/
  terminated : Bool := false
  deriving Inhabited

/-- A `Group`: its id, its account and its members. -/
structure Group where
  ID : Val
  parentAccount : AccountId
  units : Table SocketId
  deriving Inhabited

/-- An `Account`: its id and its groups. -/
structure Account where
  accountID : Val
  groups : Table GroupId
  deriving Inhabited

/-- An entry of the UDP proxy table: the two ports its proxy listens on (as `getConfig` reports
    them) and whether both sockets are ready. -/
structure UdpEntry where
  port1 : Val
  port2 : Val
  ready : Bool
  deriving DecidableEq

/-! ### What a handler does to the outside -/

/-- The effects of a handler, in the order it performs them. -/
inductive Effect where
  /-- `ws.send` -/
  | send (ws : SocketId) (message : Bytes) (isBinary : Bool)
  /-- `ws.close` -/
  | close (ws : SocketId)
  /-- `ws.terminate` -/
  | terminate (ws : SocketId)
  /-- a message for AUTH -/
  | toAuth (message : Json)
  /-- the INFO card for AUTH -/
  | updateAuth
  /-- a UDP proxy query or block command of AUTH, handed to the proxy module -/
  | udpProxyCommand (message : Json)
  /-- entry of `deliverExternalBroadcast`: local delivery of a relayed broadcast -/
  | deliverBroadcast (message : Bytes)
  /-- `ParentCommServer.forwardMessage` -/
  | toChildren (message : Bytes) (isBinary : Bool) (source : Option LinkId)
  /-- `ChildCommServer.forwardMessage` -/
  | toParent (message : Bytes) (isBinary : Bool)
  /-- a task, mission or news command handed to its module -/
  | storageCommand (ws : SocketId) (message : Json)
  deriving DecidableEq

/-! ### The server -/

/-- The state of a communication server. -/
structure Server where
  config : Config
  /-- the names table lookups find on the prototype of an object literal -/
  proto : List String
  /-- `m_waitingAccounts`: temp login key to the login request of AUTH -/
  waitingAccounts : Table Json := .empty
  /-- `m_activeSenderIDsList` -/
  activeSenderIDsList : Table SocketId := .empty
  /-- `c_accounts` -/
  accounts : Table AccountId := .empty
  /-- `m_activeUdpProxy` -/
  activeUdpProxy : Table UdpEntry := .empty
  accountHeap : AccountId → Account := fun _ => default
  nextAccount : AccountId := 0
  groupHeap : GroupId → Group := fun _ => default
  nextGroup : GroupId := 0
  sockets : SocketId → Socket := fun _ => {}
  nextSocket : SocketId := 0
  /-- `fn_isConnected` and `fn_getConnectionState` of the storage client -/
  storageConnected : Bool := false
  storageState : String := "dc"
  /-- the sockets whose `send` throws at present -/
  sendFails : SocketId → Bool := fun _ => false
  log : List Effect := []

instance : Inhabited Server := ⟨{ config := {}, proto := objectPrototype }⟩

namespace Server

/-- A server that has just started. -/
def start (config : Config) : Server := { config, proto := objectPrototype }

end Server

/-! ### Prototypes -/

/-- No id of the login is `__proto__`: the socket, group or account that a table is given under this key
    becomes its prototype, and what a table inherits is that of an object literal here. -/
structure LoginRequest.PlainIds (login : LoginRequest) : Prop where
  sender : propKey login.senderID ≠ .ok "__proto__"
  account : propKey login.accountID ≠ .ok "__proto__"
  group : propKey login.groupID ≠ .ok "__proto__"

instance (login : LoginRequest) : Decidable login.PlainIds :=
  decidable_of_iff (propKey login.senderID ≠ .ok "__proto__" ∧
    propKey login.accountID ≠ .ok "__proto__" ∧ propKey login.groupID ≠ .ok "__proto__")
    ⟨fun h => ⟨h.1, h.2.1, h.2.2⟩, fun h => ⟨h.sender, h.account, h.group⟩⟩

namespace Server

/-- Nobody who has logged in so far has such an id. -/
def PlainLogins (s : Server) : Prop :=
  ∀ ws < s.nextSocket, ∀ login ∈ (s.sockets ws).loginRequest, login.PlainIds

instance (s : Server) : Decidable s.PlainLogins :=
  inferInstanceAs (Decidable (∀ ws < s.nextSocket, ∀ login ∈ (s.sockets ws).loginRequest,
    login.PlainIds))

end Server

/-- No command of AUTH for a proxy `__proto__`: the flag of this proxy is one of all objects. -/
def Effect.SparesPrototype : Effect → Prop
  | .udpProxyCommand cmd => ∀ d ∈ cmd.field "d", d.field "name" ≠ some (.str "__proto__")
  | _ => True

instance : ∀ e : Effect, Decidable e.SparesPrototype
  | .udpProxyCommand cmd => inferInstanceAs (Decidable (∀ d ∈ cmd.field "d", d.field "name" ≠ _))
  | .send .. | .close _ | .terminate _ | .toAuth _ | .updateAuth | .deliverBroadcast _
  | .toChildren .. | .toParent .. | .storageCommand .. => inferInstanceAs (Decidable True)

namespace Server

/-- No prototype has been written to: nobody has logged in with an id `__proto__`, and AUTH has set no
    flag of a proxy with this name. -/
structure SparesPrototypes (s : Server) : Prop where
  logins : s.PlainLogins
  commands : ∀ e ∈ s.log, e.SparesPrototype

instance (s : Server) : Decidable s.SparesPrototypes :=
  decidable_of_iff (s.PlainLogins ∧ ∀ e ∈ s.log, e.SparesPrototype)
    ⟨fun h => ⟨h.1, h.2⟩, fun h => ⟨h.logins, h.commands⟩⟩

/-! ### Writes -/

def emit (e : Effect) (s : Server) : Server := { s with log := s.log ++ [e] }

def setSocket (ws : SocketId) (f : Socket → Socket) (s : Server) : Server :=
  { s with sockets := Function.update s.sockets ws (f (s.sockets ws)) }

def setGroup (g : GroupId) (f : Group → Group) (s : Server) : Server :=
  { s with groupHeap := Function.update s.groupHeap g (f (s.groupHeap g)) }

def setAccount (a : AccountId) (f : Account → Account) (s : Server) : Server :=
  { s with accountHeap := Function.update s.accountHeap a (f (s.accountHeap a)) }

section simp

variable (e : Effect) (ws v : SocketId) (f : Socket → Socket) (g h : GroupId) (fg : Group → Group)
  (a b : AccountId) (fa : Account → Account) (s : Server)

@[simp] theorem emit_sockets : (s.emit e).sockets = s.sockets := rfl
@[simp] theorem emit_groupHeap : (s.emit e).groupHeap = s.groupHeap := rfl
@[simp] theorem emit_accountHeap : (s.emit e).accountHeap = s.accountHeap := rfl
@[simp] theorem emit_accounts : (s.emit e).accounts = s.accounts := rfl
@[simp] theorem emit_active :
    (s.emit e).activeSenderIDsList = s.activeSenderIDsList := rfl
@[simp] theorem emit_waiting : (s.emit e).waitingAccounts = s.waitingAccounts := rfl
@[simp] theorem emit_udp : (s.emit e).activeUdpProxy = s.activeUdpProxy := rfl
@[simp] theorem emit_log : (s.emit e).log = s.log ++ [e] := rfl
@[simp] theorem emit_config : (s.emit e).config = s.config := rfl
@[simp] theorem emit_proto : (s.emit e).proto = s.proto := rfl
@[simp] theorem emit_sendFails : (s.emit e).sendFails = s.sendFails := rfl

@[simp] theorem setSocket_self : (s.setSocket ws f).sockets ws = f (s.sockets ws) := by
  simp [setSocket]
theorem setSocket_ne (hv : v ≠ ws) : (s.setSocket ws f).sockets v = s.sockets v := by
  simp [setSocket, hv]
theorem setSocket_sockets : (s.setSocket ws f).sockets v =
    if v = ws then f (s.sockets ws) else s.sockets v := by
  simp [setSocket, Function.update_apply]
@[simp] theorem setSocket_groupHeap : (s.setSocket ws f).groupHeap = s.groupHeap := rfl
@[simp] theorem setSocket_accountHeap : (s.setSocket ws f).accountHeap = s.accountHeap := rfl
@[simp] theorem setSocket_accounts : (s.setSocket ws f).accounts = s.accounts := rfl
@[simp] theorem setSocket_active :
    (s.setSocket ws f).activeSenderIDsList = s.activeSenderIDsList := rfl
@[simp] theorem setSocket_waiting : (s.setSocket ws f).waitingAccounts = s.waitingAccounts := rfl
@[simp] theorem setSocket_udp : (s.setSocket ws f).activeUdpProxy = s.activeUdpProxy := rfl
@[simp] theorem setSocket_log : (s.setSocket ws f).log = s.log := rfl
@[simp] theorem setSocket_config : (s.setSocket ws f).config = s.config := rfl
@[simp] theorem setSocket_proto : (s.setSocket ws f).proto = s.proto := rfl
@[simp] theorem setSocket_sendFails : (s.setSocket ws f).sendFails = s.sendFails := rfl

theorem setGroup_groupHeap : (s.setGroup g fg).groupHeap h =
    if h = g then fg (s.groupHeap g) else s.groupHeap h := by
  simp [setGroup, Function.update_apply]
@[simp] theorem setGroup_sockets : (s.setGroup g fg).sockets = s.sockets := rfl
@[simp] theorem setGroup_accountHeap : (s.setGroup g fg).accountHeap = s.accountHeap := rfl
@[simp] theorem setGroup_accounts : (s.setGroup g fg).accounts = s.accounts := rfl
@[simp] theorem setGroup_active :
    (s.setGroup g fg).activeSenderIDsList = s.activeSenderIDsList := rfl
@[simp] theorem setGroup_waiting : (s.setGroup g fg).waitingAccounts = s.waitingAccounts := rfl
@[simp] theorem setGroup_udp : (s.setGroup g fg).activeUdpProxy = s.activeUdpProxy := rfl
@[simp] theorem setGroup_log : (s.setGroup g fg).log = s.log := rfl
@[simp] theorem setGroup_config : (s.setGroup g fg).config = s.config := rfl
@[simp] theorem setGroup_proto : (s.setGroup g fg).proto = s.proto := rfl
@[simp] theorem setGroup_sendFails : (s.setGroup g fg).sendFails = s.sendFails := rfl

theorem setAccount_accountHeap : (s.setAccount a fa).accountHeap b =
    if b = a then fa (s.accountHeap a) else s.accountHeap b := by
  simp [setAccount, Function.update_apply]
@[simp] theorem setAccount_sockets : (s.setAccount a fa).sockets = s.sockets := rfl
@[simp] theorem setAccount_groupHeap : (s.setAccount a fa).groupHeap = s.groupHeap := rfl
@[simp] theorem setAccount_accounts : (s.setAccount a fa).accounts = s.accounts := rfl
@[simp] theorem setAccount_active :
    (s.setAccount a fa).activeSenderIDsList = s.activeSenderIDsList := rfl
@[simp] theorem setAccount_waiting : (s.setAccount a fa).waitingAccounts = s.waitingAccounts := rfl
@[simp] theorem setAccount_udp : (s.setAccount a fa).activeUdpProxy = s.activeUdpProxy := rfl
@[simp] theorem setAccount_log : (s.setAccount a fa).log = s.log := rfl
@[simp] theorem setAccount_config : (s.setAccount a fa).config = s.config := rfl
@[simp] theorem setAccount_proto : (s.setAccount a fa).proto = s.proto := rfl
@[simp] theorem setAccount_sendFails : (s.setAccount a fa).sendFails = s.sendFails := rfl

theorem setSocket_setSocket (f₁ f₂ : Socket → Socket) :
    setSocket ws f₂ (setSocket ws f₁ s) = setSocket ws (fun w => f₂ (f₁ w)) s := by
  simp [setSocket]

end simp

/-! ### Calls on a socket -/

/-- `ws.send(message, { binary })`: the attempt is recorded before it can throw. -/
def send (ws : SocketId) (message : Bytes) (isBinary : Bool) : Action Server Unit := do
  Action.modify (emit (.send ws message isBinary))
  let s ← Action.get
  if s.sendFails ws then Action.throw .foreign

/-- `ws.close()` -/
def closeSocket (ws : SocketId) : Action Server Unit :=
  Action.modify fun s => emit (.close ws) (setSocket ws (fun w =>
    if w.readyState = .isOpen then { w with readyState := .closing } else w) s)

/-- `ws.terminate()` -/
def terminateSocket (ws : SocketId) : Action Server Unit :=
  Action.modify fun s => emit (.terminate ws) (setSocket ws (fun w =>
    if w.readyState = .isOpen then { w with readyState := .closing } else w) s)

/-- `getServerOriginID()` -/
def serverOriginID (s : Server) : String :=
  match s.config.server_id with
  | some id => if id = "" then "unknown" else id
  | none => "unknown"

end Server

end DroneEngage
