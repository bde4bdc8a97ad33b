import DroneEngage.ChatAccountRooms
import DroneEngage.UdpProxy

/-! System commands of a client: UDP proxy, ping, version, logout and server queries. The task,
    mission and news commands are handed to their own modules.

    The whole dispatch runs inside one `try`, so a command with an ill-shaped body is dropped. -/

namespace DroneEngage
open Js

namespace Server

/-- The reply to a UDP proxy request: the request with the report as its body. -/
def replyUdpProxy (J : JsonCodec) (jmsg ms : Json) (ws : SocketId) : Action Server Unit := do
  let s ← Action.get
  let reply := jmsg.setField Const.payload (some ms)
    |>.setField Const.routing (some (.str Const.routingIndividual))
    |>.setField Const.targetID (s.sockets ws).name
    |>.setField Const.wsSenderID (some (.str Const.senderCommServer))
  send ws (J.stringify reply) false

/-- `v.port = 0`, for the two sockets of a UDP proxy request. -/
def resetPorts (ms : Val) : Except JsError Json := do
  let socket1 ← readProp "socket1" ms
  let socket1 ← writeProp "port" (some (.num "0")) socket1
  let ms ← writeProp "socket1" (some socket1) ms
  let socket2 := ms.field "socket2"
  let socket2 ← writeProp "port" (some (.num "0")) socket2
  writeProp "socket2" (some socket2) (some ms)

/-- The body of a request to open a proxy: its ports are reset unless a unit may choose them. -/
def requestedBody (config : Config) (ms : Val) : Except JsError Json :=
  if config.allow_udpproxy_fixed_port then .ok (ms.getD .null) else resetPorts ms

/-- The `CONST_TYPE_AndruavSystem_UdpProxy` command. -/
def udpProxyCommand (J : JsonCodec) (jmsg : Json) (ws : SocketId) : Action Server Unit := do
  let s ← Action.get
  match (s.sockets ws).loginRequest with
  | none => Action.throw .typeError
  | some login =>
    if login.actorType ≠ some (.str Const.actorDrone) then return
    let en ← Action.ofExcept (readProp "en" (jmsg.field Const.payload))
    if en = some (.bool true) then
      let ms ← Action.ofExcept (requestedBody s.config (jmsg.field Const.payload))
      match ← getUDPSocket (s.sockets ws).name (ms.field "socket1") (ms.field "socket2") with
      | some report => replyUdpProxy J (jmsg.setField Const.payload (some ms)) report ws
      | none => pure ()
    else if en = some (.bool false) then
      let report ← closeUDPSocket (s.sockets ws).name
      replyUdpProxy J jmsg report ws

/-- `fn_handleQueryServer` -/
def handleQueryServer (J : JsonCodec) (jmsg : Json) (ws : SocketId) : Action Server Unit := do
  let s ← Action.get
  let mms := match jmsg.field Const.payload with
    | some (.str text) => J.parse (utf8 text)
    | ms => ms
  if isNullish mms then return
  let subCmd ← Action.ofExcept (readProp "sc" mms)
  let answer := if subCmd = some (.num "1")
    then ((Json.obj []).setField "sc" subCmd
      |>.setField "v" (some (.bool s.storageConnected))
      |>.setField "st" (some (.str s.storageState)))
    else ((Json.obj []).setField "sc" subCmd
      |>.setField "v" (some (.bool false))
      |>.setField "st" (some (.str "unknown_subcommand")))
  let reply := jmsg.setField Const.routing (some (.str Const.routingSystem))
    |>.setField Const.targetID (s.sockets ws).name
    |>.setField Const.wsSenderID (some (.str Const.senderCommServer))
    |>.setField Const.messageID (some (.num "9014"))
    |>.setField Const.payload (some answer)
  send ws (J.stringify reply) false

/-- The `CONST_TYPE_AndruavSystem_LogoutCommServer` command. -/
def logoutCommServer (J : JsonCodec) (jmsg : Json) (ws : SocketId) : Action Server Unit := do
  delMemberFromGroup ws
  let reply := jmsg.setField Const.payload (some (.obj [("s", .str "OK:dell")]))
  send ws (J.stringify reply) false

/-- The commands that the task, mission and news modules handle. -/
def storageCommands : List String :=
  ["9001", "9002", "9003", "9004", "9010", "9011", "9012", "9015", "9016", "9017"]

/-- `onSystemMessage` -/
def onSystemMessage (J : JsonCodec) (jmsg : Json) (ws : SocketId) : Action Server Unit :=
  Action.attempt
    (match jmsg.field Const.messageID with
    | some (.num "9008") => udpProxyCommand J jmsg ws
    | some (.num "9005") => do
      let ms ← Action.ofExcept
        (writeProp "s" (some (.str "OK:pong")) (jmsg.field Const.payload))
      send ws (J.stringify (jmsg.setField Const.payload (some ms))) false
    -- `version` is not defined in the module
    | some (.str "ver") => Action.throw .referenceError
    | some (.num "9006") => logoutCommServer J jmsg ws
    | some (.num "9013") => handleQueryServer J jmsg ws
    | some (.num mt) =>
      if mt ∈ storageCommands then Action.modify (emit (.storageCommand ws jmsg)) else pure ()
    | _ => pure ())
    fun _ => pure ()

end Server

end DroneEngage
