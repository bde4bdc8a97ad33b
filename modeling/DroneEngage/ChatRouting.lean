import DroneEngage.ChatRelay
import DroneEngage.ChatSystemCommands

/-! Routing of messages: from a local client (`parseMessage`) and from another server
    (`parseExternalMessage`).

    Both read the routing type `ty` and, for an individual message, the target `tg`. The reading is
    a function of its own (`localRoute`, `externalRoute`), because it can throw on a target that is
    neither a string nor absent; what is done with the route follows it. -/

namespace DroneEngage
open Js

/-- Where a message goes. -/
inductive Route where
  /-- to the members of a room with an actor type, or to all of them -/
  | broadcast (actorType : Option String)
  /-- to the unit a target names -/
  | individual (target : Val)
  | system
  | nowhere
  deriving DecidableEq

/-- `v_jmsg.hasOwnProperty('tg') === true && v_jmsg['tg'].length > 0` -/
def hasTarget (jmsg : Json) : Except JsError Bool := do
  if ← jmsg.hasOwnProperty Const.targetID then lengthGtZero (jmsg.field Const.targetID)
  else pure false

/-- The route of an individual message with a target. -/
def targetRoute (target : Val) : Route :=
  if target = some (.str Const.senderAllGCS) then .broadcast (some Const.actorGCS)
  else if target = some (.str Const.senderAll) then .broadcast none
  else if target = some (.str Const.senderAllAgents) then .broadcast (some Const.actorDrone)
  else .individual target

/-- The route of a local client's message, from the actor type of its login. -/
def localRoute (actorType : Val) (jmsg : Json) : Except JsError Route :=
  if jmsg.field Const.routing = some (.str Const.routingGroup) then do
    if ← looseEqText actorType Const.actorGCS then pure (.broadcast none)
    else pure (.broadcast (some Const.actorGCS))
  else if jmsg.field Const.routing = some (.str Const.routingIndividual) then do
    if ← hasTarget jmsg then pure (targetRoute (jmsg.field Const.targetID))
    -- without a target: agents reach the GCS units, a GCS reaches everyone
    else if actorType = some (.str Const.actorDrone) then
      pure (.broadcast (some Const.actorGCS))
    else if actorType = some (.str Const.actorGCS) then pure (.broadcast none)
    else pure .nowhere
  else if jmsg.field Const.routing = some (.str Const.routingSystem) then pure .system
  else pure .nowhere

/-- The route of a relayed message. -/
def externalRoute (jmsg : Json) : Except JsError Route :=
  if jmsg.field Const.routing = some (.str Const.routingGroup) then pure (.broadcast none)
  else if jmsg.field Const.routing = some (.str Const.routingIndividual) then do
    if ← hasTarget jmsg then pure (targetRoute (jmsg.field Const.targetID))
    else pure (.broadcast none)
  else pure .nowhere

namespace Server

/-! ### Local delivery -/

/-- `send_message_toMyGroup`, `send_message_toMyGroup_GCS` and `send_message_toMyGroup_Agent`, by
    the actor type they ask for. -/
def sendMessageToMyGroup (actorType : Option String) (message : Bytes) (isBinary : Bool)
    (ws : SocketId) : Action Server Unit :=
  Action.attempt
    (do
      let s ← Action.get
      match (s.sockets ws).group, (s.sockets ws).loginRequest with
      | none, _ => pure ()
      | some _, none => Action.throw .typeError
      | some g, some login =>
        broadcast g message isBinary ⟨login.senderID, some ws⟩ actorType)
    fun _ => pure ()

/-- `send_message_toTarget` -/
def sendMessageToTarget (message : Bytes) (isBinary : Bool) (target : Val) (ws : SocketId)
    (onNotFound : Action Server Unit) : Action Server Unit :=
  Action.attempt
    (do
      let s ← Action.get
      match (s.sockets ws).group with
      | none => pure ()
      | some g => sendToIndividual g message isBinary target onNotFound)
    fun _ => pure ()

/-! ### Messages of local clients -/

/-- The first part of `fn_parseMessage`: the client's object with the permission of its login
    written over `p`, and the message made of it. `none` where the function returns early. -/
def injectPermission (J : JsonCodec) (s : Server) (ws : SocketId) (message : Bytes)
    (isBinary : Bool) : Option (LoginRequest × Json × Bytes) := do
  guard (s.sockets ws).hasStatus
  let v ← J.parse (if isBinary then header message else message)
  guard v.isObject
  let login ← (s.sockets ws).loginRequest
  let jmsg := v.setField "p" login.prm
  some (login, jmsg, J.stringify jmsg ++ if isBinary then payload message else [])

/-- What `fn_parseMessage` does with a route. -/
def dispatch (J : JsonCodec) (route : Route) (jmsg : Json) (message : Bytes) (isBinary : Bool)
    (ws : SocketId) : Action Server Unit :=
  match route with
  | .broadcast actorType => do
    sendMessageToMyGroup actorType message isBinary ws
    forwardMessage J message isBinary ws
  | .individual target =>
    sendMessageToTarget message isBinary target ws (forwardMessage J message isBinary ws)
  | .system => onSystemMessage J jmsg ws
  | .nowhere => pure ()

/-- `fn_parseMessage`, without plugins. -/
def parseMessage (J : JsonCodec) (ws : SocketId) (message : Bytes) (isBinary : Bool) :
    Action Server Unit := do
  let s ← Action.get
  match s.injectPermission J ws message isBinary with
  | none => pure ()
  | some (login, jmsg, message') =>
    Action.attempt
      (do
        let route ← Action.ofExcept (localRoute login.actorType jmsg)
        dispatch J route jmsg message' isBinary ws)
      fun _ => pure ()

/-! ### Relayed messages -/

/-- The legacy delivery to all accounts: `fn_sendToAll`, `fn_sendToAllGCS`, `fn_sendToAllAgent`. -/
def fallbackDelivery (actorType : Option String) (message : Bytes) (isBinary : Bool)
    (senderID : Val) : Action Server Unit :=
  if actorType = some Const.actorGCS then sendToAllGCS message isBinary ⟨senderID, none⟩
  else if actorType = some Const.actorDrone then sendToAllAgent message isBinary ⟨senderID, none⟩
  else sendToAll message isBinary ⟨senderID, none⟩

/-- `deliverExternalBroadcast` -/
def deliverExternalBroadcast (message : Bytes) (isBinary : Bool) (senderID : Val) (jmsg : Json)
    (actorType : Option String) : Action Server Unit := do
  Action.modify (emit (.deliverBroadcast message))
  if (jmsg.field "_aid").isSome ∧ (jmsg.field "_gid").isSome then
    if ← sendToAccountGroup message isBinary ⟨senderID, none⟩ (jmsg.field "_aid")
        (jmsg.field "_gid") actorType then return
  fallbackDelivery actorType message isBinary senderID

/-- Has this server relayed the message before? -/
def alreadyRelayed (originID : String) (jmsg : Json) : Bool :=
  (((jmsg.field "_path").bind Json.items?).getD []).contains (.str originID)

/-- What `fn_parseExternalMessage` does with a route. -/
def dispatchExternal (J : JsonCodec) (route : Route) (jmsg : Json) (message : Bytes)
    (isBinary : Bool) (source : Option LinkId) : Action Server Unit :=
  let senderID := jmsg.field Const.wsSenderID
  match route with
  | .broadcast actorType => do
    deliverExternalBroadcast message isBinary senderID jmsg actorType
    forwardExternalMessage J message isBinary source
  | .individual target =>
    sendTIndividualId message isBinary target senderID (jmsg.field "_gid")
  | .system => pure ()
  | .nowhere => pure ()

/-- `fn_parseExternalMessage`; an exception in the group branch leaves the function. -/
def parseExternalMessage (J : JsonCodec) (message : Bytes) (isBinary : Bool)
    (source : Option LinkId) : Action Server Unit := do
  let s ← Action.get
  match J.parse (if isBinary then header message else message) with
  | none => pure ()
  | some .null => pure ()
  | some jmsg =>
    if alreadyRelayed s.serverOriginID jmsg then pure ()
    else if jmsg.field Const.routing = some (.str Const.routingIndividual) then
      Action.attempt
        (do
          let route ← Action.ofExcept (externalRoute jmsg)
          dispatchExternal J route jmsg message isBinary source)
        fun _ => pure ()
    else do
      let route ← Action.ofExcept (externalRoute jmsg)
      dispatchExternal J route jmsg message isBinary source

end Server

end DroneEngage
