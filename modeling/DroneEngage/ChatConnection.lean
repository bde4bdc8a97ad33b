import DroneEngage.ChatAccountRooms
import DroneEngage.CommServer
import DroneEngage.UdpProxy
import DroneEngage.ChatRouting

/-! The life of a client connection: its URL, its credentials, its frames and its end.

    Credentials come in the query string, or in a `de_auth` frame that has to be the first message.
    Either way `completeConnection` checks them and hands the socket to `_acceptConnection`, the one
    place where a socket gets a login record. The handlers of the URL and of the close event run
    outside any `try`. -/

namespace DroneEngage
open Js

/-! ### The query string -/

/-- The successive matches of `/[?&]([^=#]+)=([^&#]*)/g`; the fuel is the length of the text. -/
def paramMatches : ℕ → List Char → List (String × String)
  | 0, _ => []
  | _ + 1, [] => []
  | n + 1, c :: rest =>
    let name := rest.takeWhile fun c => c ≠ '=' && c ≠ '#'
    match rest.dropWhile fun c => c ≠ '=' && c ≠ '#' with
    | '=' :: tail =>
      if (c = '?' ∨ c = '&') ∧ name ≠ [] then
        let value := tail.takeWhile fun c => c ≠ '&' && c ≠ '#'
        (String.ofList name, String.ofList value) ::
          paramMatches n (tail.dropWhile fun c => c ≠ '&' && c ≠ '#')
      else paramMatches n rest
    | _ => paramMatches n rest

/-- `getHeaderParams` -/
def getHeaderParams (proto : List String) (url : String) : Table Json :=
  (paramMatches url.toList.length url.toList).foldl
    (fun params p => params.assign proto p.1 (.str p.2)) .empty

/-- `s.length` counts UTF-16 code units. -/
def utf16Length (s : String) : ℕ :=
  (s.toList.map fun c => if 0x10000 ≤ c.toNat then 2 else 1).sum

namespace Server

/-! ### Acceptance -/

/-- `send_ok_message` -/
def sendOkMessage (J : JsonCodec) (ws : SocketId) : Action Server Unit := do
  let s ← Action.get
  let jmsg := Json.obj [("ty", .str "s"), ("mt", .num "9007"),
    ("ms", .obj [("s", .str ("OK:connected:tcp:" ++ (s.sockets ws).remote))])]
  send ws (J.stringify jmsg) false

/-- `_acceptConnection` -/
def _acceptConnection (J : JsonCodec) (login : LoginRequest) (ws : SocketId) :
    Action Server Unit := do
  Action.modify (setSocket ws fun w => { w with loginRequest := some login, hasStatus := true })
  addActiveSenderIDList login.senderID ws
  delMemberFromAccountByName (some login) true
  let _ ← addMemberToAccountGroup ws
  sendOkMessage J ws

/-- The login record `acceptLocalConnection` makes of the parameters. -/
def localLogin (config : Config) (params : Table Json) : LoginRequest where
  senderID := params.own? Const.senderID
  accountID := some (.str (config.local_server_account_id.getD "1"))
  groupID := some (.str "1")
  requestID := params.own? Const.senderID
  actorType := if isNullish (params.own? Const.actorType) then some (.str "a")
    else params.own? Const.actorType
  prm := some Const.fullPermission

/-- `acceptLocalConnection` -/
def acceptLocalConnection (J : JsonCodec) (params : Table Json) (ws : SocketId) :
    Action Server Unit := do
  let s ← Action.get
  _acceptConnection J (localLogin s.config params) ws

/-- The login record `acceptConnection` makes of what the key names; an inherited property carries
    none of the fields. -/
def announcedLogin (params : Table Json) (request : Slot Json) : LoginRequest where
  senderID := params.own? Const.senderID
  accountID := request.stored?.bind (Json.field Const.accountID)
  groupID := request.stored?.bind (Json.field Const.groupID)
  requestID := request.stored?.bind (Json.field Const.requestID)
  actorType := request.stored?.bind (Json.field Const.actorType)
  prm := request.stored?.bind (Json.field Const.permission2)

/-- `fn_updateAuthServer`, which nobody sets when the server runs without AUTH. -/
def updateAuthServer : Action Server Unit := do
  let s ← Action.get
  if s.config.ignore_auth_server then Action.throw .typeError
  else Action.modify (emit .updateAuth)

/-- `p_ws.m_loginRequest = null; p_ws.close();` -/
def rejectSocket (ws : SocketId) : Action Server Unit := do
  Action.modify (setSocket ws fun w => { w with loginRequest := none })
  closeSocket ws

/-- `acceptConnection` -/
def acceptConnection (J : JsonCodec) (key : String) (params : Table Json) (ws : SocketId) :
    Action Server Unit :=
  Action.attempt
    (do
      let s ← Action.get
      if (s.getLogin key).isNullish then rejectSocket ws
      else do
        deleteLogin key
        _acceptConnection J (announcedLogin params (s.getLogin key)) ws
        updateAuthServer)
    fun _ => pure ()

/-! ### Credentials -/

section

variable (J : JsonCodec) (isAlphanumeric : String → Bool)

/-- The second half of `fn_validateKey`: a key nobody waits for closes the socket. -/
def validateWaiting (key : Val) (ws : SocketId) : Action Server Unit := do
  let s ← Action.get
  if ← Action.ofExcept (s.isLoginExist key) then pure () else closeSocket ws

/-- What `fn_validateKey` tests of a key; the only effect is that the socket may be closed. -/
def checkKey (key : String) (ws : SocketId) : Action Server Unit :=
  if isAlphanumeric key = false ∨ 200 < utf16Length key then closeSocket ws
  else validateWaiting (some (.str key)) ws

/-- `fn_validateKey`; the result is `v_loginTempKey`, which is set whether or not the socket was
    closed on the way. -/
def validateKey (params : Table Json) (ws : SocketId) : Action Server (Option String) := do
  let s ← Action.get
  let hasKey ← Action.ofExcept
    (params.hasOwnProperty s.proto (some (.str Const.loginTempKey)))
  match hasKey, params.own? Const.loginTempKey with
  | true, some f => do
    let key ← Action.ofExcept (toText f)
    checkKey isAlphanumeric key ws
    return some key
  | _, _ => do
    validateWaiting none ws
    return none

/-- `fn_validateKeyLocal` -/
def validateKeyLocal (params : Table Json) : Action Server (Option String) :=
  match params.own? Const.loginTempKey with
  | none => Action.throw .typeError
  | some f => do
    let key ← Action.ofExcept (toText f)
    return some key

/-- `fn_completeConnection` -/
def completeConnection (params : Table Json) (ws : SocketId) : Action Server Unit := do
  let s ← Action.get
  if s.config.local_server_enabled then do
    match ← validateKeyLocal params with
    | some _ => acceptLocalConnection J params ws
    | none => rejectSocket ws
  else do
    match ← validateKey isAlphanumeric params ws with
    | some key => acceptConnection J key params ws
    | none => rejectSocket ws

/-! ### The auth frame -/

/-- `fn_sendAuthAck`; a success carries no reason. -/
def sendAuthAck (reason : Option String) (ws : SocketId) : Action Server Unit :=
  let jmsg := Json.obj [("ty", .str "s"), ("mt", .str "de_auth_ack"),
    ("r", .str (if reason.isNone then "ok" else "fail"))]
  Action.attempt (send ws (J.stringify (jmsg.setField "em" (reason.map Json.str))) false)
    fun _ => pure ()

/-- A frame that is not acceptable: negative ack, and the socket is closed. -/
def refuseAuthFrame (reason : String) (ws : SocketId) : Action Server Unit := do
  sendAuthAck J (some reason) ws
  Action.modify (setSocket ws fun w => { w with authPending := false })
  closeSocket ws

/-- The parameters a `de_auth` frame carries, under the names of the query string. -/
def frameParams (proto : List String) (parsed : Json) : Table Json :=
  [Const.loginTempKey, Const.senderID, Const.actorType].foldl
    (fun params k => match parsed.field k with
      | none | some .null => params
      | some v => params.assign proto k v) .empty

/-- The tail of `fn_authFrameHandler`, once the frame is known to be a `de_auth` frame. -/
def authenticateFrame (parsed : Json) (ws : SocketId) : Action Server Unit := do
  Action.modify (setSocket ws fun w => { w with authPending := false })
  let s ← Action.get
  let completed ← Action.attempt
    (do
      completeConnection J isAlphanumeric (frameParams s.proto parsed) ws
      return true)
    fun _ => do
      sendAuthAck J (some "validation error") ws
      closeSocket ws
      return false
  if completed then
    let s ← Action.get
    if (s.sockets ws).loginRequest.isSome then sendAuthAck J none ws
    else do
      sendAuthAck J (some "auth rejected") ws
      closeSocket ws

/-- A `de_auth` system frame. -/
def isAuthFrame (parsed : Json) : Bool :=
  parsed.field Const.routing = some (.str Const.routingSystem) &&
    parsed.field Const.messageID = some (.str "de_auth")

/-- `fn_authFrameHandler`: it listens once. -/
def authFrameHandler (ws : SocketId) (message : Bytes) : Action Server Unit := do
  Action.modify (setSocket ws fun w => { w with authFrameHandler := false, authTimer := false })
  let s ← Action.get
  if (s.sockets ws).authPending = false then return
  match J.parse message with
  | none => refuseAuthFrame J "bad auth frame format" ws
  | some parsed =>
    if isAuthFrame parsed then authenticateFrame J isAlphanumeric parsed ws
    else refuseAuthFrame J "expected de_auth frame" ws

/-- The callback of the auth timer. -/
def authTimeout (ws : SocketId) : Action Server Unit := do
  Action.modify (setSocket ws fun w => { w with authTimer := false })
  let s ← Action.get
  if (s.sockets ws).authPending then
    Action.modify (setSocket ws fun w =>
      { w with authPending := false, authFrameHandler := false })
    sendAuthAck J (some "auth frame timeout") ws
    closeSocket ws

/-! ### Events of a socket -/

/-- `c_params.hasOwnProperty('f')` for the parameters of a URL. -/
def hasQueryCreds (proto : List String) (url : String) : Except JsError Bool :=
  (getHeaderParams proto url).hasOwnProperty proto (some (.str Const.loginTempKey))

/-- `fn_onConnect_Handler` once it is known whether the URL holds credentials. -/
def serveSocket (hasQueryCreds : Bool) (params : Table Json) (ws : SocketId) :
    Action Server Unit := do
  let s ← Action.get
  if hasQueryCreds ∧ s.config.ws_auth_no_frame_old_compatibility = false then closeSocket ws
  else do
    Action.modify (setSocket ws fun w => { w with listening := true })
    if hasQueryCreds then completeConnection J isAlphanumeric params ws
    else Action.modify (setSocket ws fun w =>
      { w with authPending := true, authTimer := true, authFrameHandler := true })

/-- `fn_onConnect_Handler` -/
def onConnect (url : String) (ws : SocketId) : Action Server Unit := do
  let s ← Action.get
  let creds ← Action.ofExcept (hasQueryCreds s.proto url)
  serveSocket J isAlphanumeric creds (getHeaderParams s.proto url) ws

/-- `fn_onWsMessage` -/
def onWsMessage (ws : SocketId) (message : Bytes) (isBinary : Bool) : Action Server Unit :=
  parseMessage J ws message isBinary

/-- The message that tells AUTH about a logout. -/
def logoutMessage (senderID : Val) : Json :=
  .obj [("c", .str "c"), ("d", (Json.obj []).setField Const.senderID senderID)]

/-- The last part of `fn_onWsClose`: the sender is no longer active, and AUTH is told. -/
def forgetSender (login : Option LoginRequest) : Action Server Unit := do
  match login with
  | none => pure ()
  | some login => do
    deleteActiveSenderIDList login.senderID
    Action.modify (emit (.toAuth (logoutMessage login.senderID)))
    let s ← Action.get
    Action.when (!s.config.ignore_auth_server) (Action.modify (emit .updateAuth))

/-- `fn_onWsClose` -/
def onWsClose (ws : SocketId) : Action Server Unit := do
  let s ← Action.get
  if (s.sockets ws).terminated then return
  let unitName := (s.sockets ws).name
  delMemberFromAccountByName (s.sockets ws).loginRequest true
  Action.when (!isNullish unitName) do
    let _ ← closeUDPSocket unitName
  forgetSender (s.sockets ws).loginRequest

end

end Server

end DroneEngage
