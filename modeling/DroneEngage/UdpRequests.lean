import DroneEngage.UdpProxies
import DroneEngage.ChatSystemCommands

/-! The UDP proxy command of the units, on top of the proxy module.

    The command hands the module a callback that runs at once or in a later event of the module. The
    callback answers the unit; when the proxy could not be opened it closes it first. The module
    itself notifies the active sender of a name. Effects of the module are served right after the
    operation that has them, since each is the last thing the code around it does or, as a
    notification, reads nothing that the rest of the operation writes.

    Of the rest of the server only the sockets and the active senders are kept, and may change at
    any time. -/

namespace DroneEngage
open Js

/-- A frame with the UDP proxy command. -/
structure ProxyCommand where
  jmsg : Json
  isCommand : jmsg.field Const.messageID = some (.num "9008")

/-- What the closure of a callback holds. -/
structure ProxyRequest where
  ws : SocketId
  command : ProxyCommand

/-- What passes between the server and a unit about its proxy. -/
inductive UnitEvent where
  /-- the unit asks for a proxy -/
  | asked (ws : SocketId)
  /-- a proxy message is sent to the unit -/
  | sent (ws : SocketId) (message : Json)

/-- The proxy module with the command. -/
structure UdpService where
  config : Config
  udp : UdpProxies
  sockets : SocketId → Socket := fun _ => {}
  /-- `m_activeSenderIDsList` -/
  activeSenderIDsList : Table SocketId := .empty
  /-- the callbacks handed to the module -/
  requests : RequestId → Option ProxyRequest := fun _ => none
  log : List UnitEvent := []

/-! ### Messages -/

namespace ProxyCommand

/-- `v_jmsg.ms = ms` -/
def setPayload (c : ProxyCommand) (ms : Json) : ProxyCommand where
  jmsg := c.jmsg.setField Const.payload (some ms)
  isCommand := by
    rw [Json.field_setField_ne _ _ (by decide)]
    exact c.isCommand

/-- The command as it is sent back to the unit. -/
def reply (c : ProxyCommand) (ms : Json) (name : Val) : Json :=
  c.jmsg.setField Const.payload (some ms)
    |>.setField Const.routing (some (.str Const.routingIndividual))
    |>.setField Const.targetID name
    |>.setField Const.wsSenderID (some (.str Const.senderCommServer))

end ProxyCommand

/-- A socket in a report. -/
def SocketConfig.toJson (c : SocketConfig) : Json :=
  ((Json.obj []).setField "address" c.address).setField "port" c.port

/-- `ms.en = en` on a report. -/
def ProxyConfig.toJson (report : ProxyConfig) (en : Bool) : Json :=
  .obj [("socket1", report.socket1.toJson), ("socket2", report.socket2.toJson), ("en", .bool en)]

/-- The message of `notifyUnitProxyClosed`. -/
def closedNotice (name : String) : Json :=
  .obj [(Const.messageID, .num "9008"), (Const.routing, .str Const.routingIndividual),
    (Const.targetID, .str name), (Const.wsSenderID, .str Const.senderCommServer),
    (Const.payload, .obj [("en", .bool false), ("socket1", UdpProxies.noProxy.socket1.toJson),
      ("socket2", UdpProxies.noProxy.socket2.toJson)])]

/-- `ms.en` of a proxy message. -/
def enabledIn (message : Json) : Val := (message.field Const.payload).bind (Json.field "en")

namespace UdpService

/-- The service when the process starts. -/
def start (config : Config) : UdpService := { config, udp := .start config.public_host }

def record (x : UnitEvent) (s : UdpService) : UdpService := { s with log := s.log ++ [x] }

/-- `send`: on a socket that is not open it does nothing. -/
def send (ws : SocketId) (message : Json) : Action UdpService Unit := do
  let s ← Action.get
  if (s.sockets ws).readyState = .isOpen then Action.modify (record (.sent ws message))

/-- A call of the module. -/
def call {α : Type} (m : Action UdpProxies α) : Action UdpService α := fun s =>
  ((m s.udp).1, { s with udp := (m s.udp).2 })

/-! ### The callbacks -/

/-- Close the proxy of a unit and tell it. -/
def closeAndReply (command : ProxyCommand) (ws : SocketId) : Action UdpService Unit := do
  let s ← Action.get
  let report ← call (UdpProxies.closeUDPSocket (s.sockets ws).name)
  send ws (command.reply (report.toJson false) (s.sockets ws).name)

/-- The callback of a request. -/
def onProxyReady (r : RequestId) (report : ProxyConfig) (en : Bool) : Action UdpService Unit := do
  let s ← Action.get
  match s.requests r with
  | none => pure ()
  | some request =>
    if en then
      send request.ws (request.command.reply (report.toJson true) (s.sockets request.ws).name)
    else do
      let ms ← Action.ofExcept (Server.resetPorts (request.command.jmsg.field Const.payload))
      closeAndReply (request.command.setPayload ms) request.ws

/-- `notifyUnitProxyClosed`; an inherited name leads to a value without a `readyState`. -/
def notifyUnitProxyClosed (name : String) : Action UdpService Unit := do
  let s ← Action.get
  match s.activeSenderIDsList.own? name with
  | some ws => send ws (closedNotice name)
  | none => pure ()

/-- What an effect of the module leads to. -/
def onEffect : UdpEffect → Action UdpService Unit
  | .reply r report en => onProxyReady r report en
  | .notify name => notifyUnitProxyClosed name
  | .sent .. => pure ()

/-- An operation of the module, with what its effects lead to. One that throws has had none. -/
def invoke (m : Action UdpProxies Unit) : Action UdpService Unit := do
  let before ← Action.get
  call m
  let after ← Action.get
  Action.forEach (after.udp.log.drop before.udp.log.length) onEffect

/-! ### The command -/

/-- The `CONST_TYPE_AndruavSystem_UdpProxy` command. -/
def udpProxyCommand (command : ProxyCommand) (ws : SocketId) (now : ℕ) :
    Action UdpService Unit := do
  let s ← Action.get
  match (s.sockets ws).loginRequest with
  | none => Action.throw .typeError
  | some login =>
    if login.actorType ≠ some (.str Const.actorDrone) then return
    let en ← Action.ofExcept (readProp "en" (command.jmsg.field Const.payload))
    if en = some (.bool true) then
      let ms ← Action.ofExcept
        (Server.requestedBody s.config (command.jmsg.field Const.payload))
      Action.modify fun s => { record (.asked ws) s with
        requests := Function.update s.requests s.udp.nextRequest
          (some ⟨ws, command.setPayload ms⟩) }
      invoke (UdpProxies.perform (.getUDPSocket (s.sockets ws).name (ms.field "socket1")
        (ms.field "socket2") now))
    else if en = some (.bool false) then closeAndReply command ws

/-- Who is connected, as the reaper sees it. -/
def online (s : UdpService) (name : String) : Bool :=
  match s.activeSenderIDsList.own? name with
  | some ws => (s.sockets ws).readyState = .isOpen
  | none => false

/-! ### Runs -/

/-- What can happen. -/
inductive Op where
  | udpProxy (ws : SocketId) (command : ProxyCommand) (now : ℕ)
  | reaperTick (now : ℕ)
  /-- any other operation of the module: the end of a connection closes the proxy of its name, an
      administrator blocks a proxy, a `dgram` socket reports something -/
  | module (o : UdpProxies.Op)
  /-- the rest of the server changes its sockets and active senders -/
  | server (sockets : SocketId → Socket) (activeSenderIDsList : Table SocketId)

/-- Requests come as commands, and the ticks of the reaper see who is connected. -/
def isOther : UdpProxies.Op → Bool
  | .getUDPSocket .. | .reaperTick .. => false
  | _ => true

/-- Can it happen? -/
def Enabled (s : UdpService) : Op → Prop
  | .udpProxy .. | .server .. => True
  | .reaperTick _ => s.udp.reaperInterval = true
  | .module o => isOther o = true ∧ s.udp.Enabled o

/-- What it does. -/
def perform (s : UdpService) : Op → Action UdpService Unit
  | .udpProxy ws command now => udpProxyCommand command ws now
  | .reaperTick now => invoke (UdpProxies.perform (.reaperTick now s.online))
  | .module o => invoke (UdpProxies.perform o)
  | .server sockets activeSenderIDsList =>
    Action.modify fun s => { s with sockets, activeSenderIDsList }

/-- One step of the service. -/
def Step (s : UdpService) (o : Op) (s' : UdpService) : Prop :=
  s.Enabled o ∧ s' = (s.perform o).final s

instance (s : UdpService) : ∀ o : Op, Decidable (s.Enabled o)
  | .udpProxy .. | .server .. => inferInstanceAs (Decidable True)
  | .reaperTick _ => inferInstanceAs (Decidable (_ = true))
  | .module _ => inferInstanceAs (Decidable (_ ∧ _))

/-- A run of given operations that meet a condition. -/
def run (C : UdpService → Op → Prop) [∀ s o, Decidable (C s o)] (s : UdpService) (os : List Op) :
    Option UdpService :=
  os.foldlM (fun s o => if s.Enabled o ∧ C s o then some ((s.perform o).final s) else none) s

theorem path_of_run {C : UdpService → Op → Prop} [∀ s o, Decidable (C s o)] {s s' : UdpService}
    {os : List Op} (h : run C s os = some s') : Lts.Path Step C s s' :=
  Lts.Path.of_guarded (fun hc => ⟨hc.2, hc.1, rfl⟩) h

/-- The socket of a vehicle. -/
def vehicle : Socket where
  name := some (.str "drone")
  loginRequest := some
    { senderID := some (.str "drone"), accountID := some (.str "acc"), groupID := some (.str "1"),
      requestID := none, actorType := some (.str Const.actorDrone), prm := none }

/-- It is connected. -/
def vehicleConnected : Op := .server (fun _ => vehicle) (Table.empty.insert "drone" 0)

/-- It asks for a proxy, or for its end. -/
def vehicleCommand (en : Bool) : Op :=
  .udpProxy 0 ⟨.obj [(Const.messageID, .num "9008"), (Const.payload, .obj [("en", .bool en),
    ("socket1", .obj [("port", .num "0")]), ("socket2", .obj [("port", .num "0")])])], rfl⟩ 1000

end UdpService

end DroneEngage
