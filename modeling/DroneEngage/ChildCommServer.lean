import DroneEngage.S2sAuth
import DroneEngage.State

/-! The child side of the relay: the server that connects to its parent.

    A message of the parent is an envelope of the handshake or traffic. Which of the two is decided
    by a field `s2s_auth` of the message alone, before and after the handshake; an envelope that is
    a challenge is answered with a signature of the nonce it holds. -/

namespace DroneEngage
open Js

/-- What the server does to its parent link, and what it hands to the chat server. -/
inductive ChildEffect where
  /-- `parentWs.send(fn_buildResponse(nonce, server_id))` -/
  | respond (nonce : Val) (message : Bytes)
  /-- `fn_parseExternalMessage(message, isBinary, parentWs)` -/
  | parseExternalMessage (message : Bytes) (isBinary : Bool)
  /-- `parentWs.send(message, { binary })` -/
  | send (message : Bytes) (isBinary : Bool)
  deriving DecidableEq

structure ChildCommServer where
  /-- `parentWs`: the connection to the parent, if there is one -/
  parentWs : Option ReadyState := none
  log : List ChildEffect := []

namespace ChildCommServer

variable {PrivateKey PublicKey : Type}

def emit (e : ChildEffect) (s : ChildCommServer) : ChildCommServer := { s with log := s.log ++ [e] }

/-- The branch of `onReceive` for an envelope of the handshake. -/
def answerEnvelope (J : JsonCodec) (crypto : Crypto PrivateKey PublicKey)
    (config : S2sConfig PrivateKey PublicKey) (env : Json) : Action ChildCommServer Unit := do
  let s ← Action.get
  if env.field "s2s_auth" = some (.str S2sAuth.challenge) ∧ s.parentWs.isSome then
    let response ← Action.ofExcept (S2sAuth.buildResponse J crypto config (env.field "nonce"))
    Action.modify (emit (.respond (env.field "nonce") response))

/-- `onReceive` -/
def onReceive (J : JsonCodec) (crypto : Crypto PrivateKey PublicKey)
    (config : S2sConfig PrivateKey PublicKey) (message : Bytes) (isText : Bool) :
    Action ChildCommServer Unit :=
  Action.attempt
    (match S2sAuth.parseEnvelope J message isText with
    | some env => answerEnvelope J crypto config env
    | none => Action.modify (emit (.parseExternalMessage message (!isText))))
    fun _ => pure ()

/-- `forwardMessage` -/
def forwardMessage (message : Bytes) (isBinary : Bool) : Action ChildCommServer Unit := do
  let s ← Action.get
  if s.parentWs = some .isOpen then Action.modify (emit (.send message isBinary))

end ChildCommServer

end DroneEngage
