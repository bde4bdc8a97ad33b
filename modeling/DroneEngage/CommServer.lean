import DroneEngage.State

/-! The side of the server that talks to AUTH: temp login keys.

    AUTH announces a login; the server answers with a fresh key, keeps the announcement under that
    key in `m_waitingAccounts` and deletes it after a time-out. The three functions that read the
    table index it directly, so a key that names an inherited property is found without having been
    issued. -/

namespace DroneEngage
open Js

namespace Server

/-- `isLoginExist` -/
def isLoginExist (s : Server) (key : Val) : Except JsError Bool := do
  let slot ← s.waitingAccounts.index s.proto key
  pure !slot.isNullish

/-- `getLogin`: the announcement under a key. -/
def getLogin (s : Server) (key : String) : Slot Json := s.waitingAccounts.get s.proto key

/-- `deleteLogin` -/
def deleteLogin (key : String) : Action Server Unit := do
  let s ← Action.get
  if (s.waitingAccounts.get s.proto key).isNullish then return
  Action.modify fun s => { s with waitingAccounts := s.waitingAccounts.delete key }

/-- `fn_addWaitingAccount`, without the timer it starts. -/
def addWaitingAccount (key : String) (request : Json) : Action Server Unit :=
  Action.modify fun s =>
    { s with waitingAccounts := s.waitingAccounts.assign s.proto key request }

/-- `fn_generateLoginRequestReply` -/
def generateLoginRequestReply (config : Config) (requestID : Val) (key : String) : Json :=
  let d := (Json.obj []).setField Const.requestID requestID
    |>.setField "e" (some (.num "0"))
    |>.setField "g" config.public_host
    |>.setField "h" config.server_port
    |>.setField Const.loginTempKey (some (.str key))
  .obj [("c", .str "b"), ("d", d)]

/-- `fn_handleLoginResponses`; `key` is the text `uuidv4` yields, without its dashes. -/
def handleLoginResponses (cmd : Json) (key : String) : Action Server Unit := do
  let d ← Action.ofExcept (writeProp Const.loginTempKey (some (.str key)) (cmd.field "d"))
  addWaitingAccount key d
  Action.modify fun s =>
    emit (.toAuth (generateLoginRequestReply s.config (d.field Const.requestID) key)) s

/-- The login request command: one whose data holds no `d` of its own is answered with a key. -/
def loginRequestCommand (cmd : Json) (key : String) : Action Server Unit := do
  if ← Action.ofExcept (cmd.hasOwnProperty "d") then do
    if ← Action.ofExcept (((cmd.field "d").getD .null).hasOwnProperty "d") then pure ()
    else handleLoginResponses cmd key

/-- The body of `fn_AuthServerMessagesHandler` for a command. -/
def authCommand (cmd : Json) (key : String) : Action Server Unit := do
  if ← Action.ofExcept (cmd.hasOwnProperty "c") then
    if cmd.field "c" = some (.str "b") then loginRequestCommand cmd key
    else if cmd.field "c" = some (.str "e") ∨ cmd.field "c" = some (.str "g") then
      Action.modify (emit (.udpProxyCommand cmd))
    else pure ()

/-- `fn_AuthServerMessagesHandler` -/
def authServerMessagesHandler (J : JsonCodec) (message : Bytes) (key : String) :
    Action Server Unit :=
  Action.attempt
    (match J.parse message with
    | none | some .null => pure ()
    | some cmd => authCommand cmd key)
    fun _ => pure ()

end Server

end DroneEngage
