import DroneEngage.State

/-! Relaying a message to the parent and the child servers.

    A message that leaves for another server carries a trail `_path` of the servers that relayed
    it. `forwardMessage` sends a local client's message out, stamped with the account and the group
    of the client's room; `forwardExternalMessage` passes a relayed message on. -/

namespace DroneEngage
open Js

/-- `if (!Array.isArray(v_jmsg._path)) v_jmsg._path = []; v_jmsg._path.push(v_originID);` -/
def appendPath (originID : String) (jmsg : Json) : Json :=
  let items := ((jmsg.field "_path").bind Json.items?).getD []
  jmsg.setField "_path" (some (.arr (items ++ [.str originID])))

namespace Server

/-- The stamps `_gid` and `_aid` of the group a socket is in; a socket without a group leaves the
    message as it is. -/
def stampGroup (s : Server) (group : Option GroupId) (jmsg : Json) : Json :=
  match group with
  | none => jmsg
  | some g => (jmsg.setField "_gid" (s.groupHeap g).ID).setField "_aid"
      (s.accountHeap (s.groupHeap g).parentAccount).accountID

end Server

/-- Rewrite the JSON part of a message: the header of a binary frame, the whole of a text. A value
    that is no JSON object or array has no properties to write, and the message stays as it is. -/
def rewriteMessage (J : JsonCodec) (f : Json → Json) (message : Bytes) (isBinary : Bool) : Bytes :=
  if isBinary then
    match J.parse (header message) with
    | some v => if v.isObject then J.stringify (f v) ++ payload message else message
    | none => message
  else
    match J.parse message with
    | some v => if v.isObject then J.stringify (f v) else message
    | none => message

/-! ### The JSON part of a rewritten message -/

section

variable {J : JsonCodec} {v : Json}

/-- What is read of a message made of a value and the payload of another frame. -/
theorem parse_frame (hv : v.Proper J.isNumber) (message : Bytes) (isBinary : Bool) :
    J.parse (if isBinary then header (J.stringify v ++ if isBinary then payload message else [])
      else J.stringify v ++ if isBinary then payload message else []) = some v := by
  cases isBinary with
  | true =>
    simp only [if_true]
    rw [header_of_zero_notMem (J.zero_notMem_stringify v), J.parse_stringify v hv]
  | false =>
    simp only [Bool.false_eq_true, if_false, List.append_nil]
    exact J.parse_stringify v hv

/-- Rewriting such a message rewrites the value and keeps the payload. -/
theorem rewriteMessage_frame (hv : v.Proper J.isNumber) (hobj : v.isObject = true) (f : Json → Json)
    (message : Bytes) (isBinary : Bool) :
    rewriteMessage J f (J.stringify v ++ if isBinary then payload message else []) isBinary =
      J.stringify (f v) ++ if isBinary then payload message else [] := by
  have hparse := parse_frame hv message isBinary
  cases isBinary with
  | true =>
    simp only [if_true] at hparse ⊢
    rw [rewriteMessage, if_pos rfl, hparse]
    simp only [hobj, if_true, payload_of_zero_notMem (J.zero_notMem_stringify v)]
  | false =>
    simp only [Bool.false_eq_true, if_false, List.append_nil] at hparse ⊢
    rw [rewriteMessage, if_neg Bool.false_ne_true, hparse]
    simp only [hobj, if_true]

theorem field_appendPath_ne (originID : String) (v : Json) {k : String} (hk : k ≠ "_path") :
    (appendPath originID v).field k = v.field k := by
  rw [appendPath]
  exact Json.field_setField_ne v _ hk

theorem proper_appendPath (originID : String) (hv : v.Proper J.isNumber) :
    (appendPath originID v).Proper J.isNumber := by
  rw [appendPath]
  refine hv.setField "_path" ?_
  rintro y ⟨⟩
  refine properItems_iff.mpr fun x hx => ?_
  rcases List.mem_append.mp hx with hx | hx
  · -- an item of the client's own array
    cases hp : v.field "_path" with
    | none => rw [hp] at hx; exact absurd hx (by simp)
    | some p =>
      rw [hp] at hx
      cases p with
      | arr items => exact properItems_iff.mp (hv.field hp) x hx
      | null | bool | num | str | obj => exact absurd hx (by simp [Json.items?])
  · rw [List.mem_singleton.mp hx]; trivial

end

namespace Server

/-- `forwardMessage` of the relay module. -/
def forwardMessage (J : JsonCodec) (message : Bytes) (isBinary : Bool) (ws : SocketId) :
    Action Server Unit := do
  let s ← Action.get
  if (s.sockets ws).loginRequest.isNone then return
  let forwardMsg := rewriteMessage J
    (fun v => s.stampGroup (s.sockets ws).group (appendPath s.serverOriginID v)) message isBinary
  Action.when s.config.enable_super_server <|
    Action.modify (emit (.toChildren forwardMsg isBinary none))
  Action.when s.config.enable_persistant_relay <|
    Action.modify (emit (.toParent forwardMsg isBinary))

/-- `forwardExternalMessage` of the relay module. -/
def forwardExternalMessage (J : JsonCodec) (message : Bytes) (isBinary : Bool)
    (source : Option LinkId) : Action Server Unit := do
  let s ← Action.get
  let forwardMsg := rewriteMessage J (appendPath s.serverOriginID) message isBinary
  Action.when s.config.enable_persistant_relay <|
    Action.modify (emit (.toParent forwardMsg isBinary))
  Action.when s.config.enable_super_server <|
    Action.modify (emit (.toChildren forwardMsg isBinary source))

end Server

end DroneEngage
