import DroneEngage.ChildCommServer
import DroneEngage.RelayedFrames

/-! What a child server takes a relayed frame for.

    The envelopes of the handshake and the traffic of the relay are told apart by the field
    `s2s_auth`, and the relay copies the fields of its clients. A client's frame is traffic for a
    child exactly when the client wrote no such field, or when the frame has a binary payload: then
    it is no JSON text as a whole. -/

namespace DroneEngage
open Js

section

variable {PrivateKey PublicKey : Type} {J : JsonCodec} {crypto : Crypto PrivateKey PublicKey}
  {config : S2sConfig PrivateKey PublicKey}

namespace S2sAuth

/-- A frame with a payload is no envelope. -/
theorem parseEnvelope_of_zero {m : Bytes} (h : 0 ∈ m) (isText : Bool) :
    parseEnvelope J m isText = none := by
  cases hp : J.parse m with
  | none => simp [parseEnvelope, hp]
  | some v => exact absurd h (J.zero_notMem_of_parse m v hp)

/-- A printed object is an envelope if it has the field of one. -/
theorem parseEnvelope_stringify {fs : List (String × Json)}
    (hv : (Json.obj fs).Proper J.isNumber) (isText : Bool) :
    parseEnvelope J (J.stringify (.obj fs)) isText =
      if isNullish ((Json.obj fs).field "s2s_auth") then none else some (.obj fs) := by
  rw [parseEnvelope, J.parse_stringify _ hv, J.head?_stringify_obj]
  cases hnull : isNullish ((Json.obj fs).field "s2s_auth") <;> simp [guard, failure, hnull]

end S2sAuth

namespace ChildCommServer

open Action

/-- A message that is no envelope is handed to the chat server. -/
theorem onReceive_traffic {m : Bytes} {isText : Bool} (h : S2sAuth.parseEnvelope J m isText = none)
    (c : ChildCommServer) : (onReceive J crypto config m isText).final c =
      c.emit (.parseExternalMessage m (!isText)) := by
  rw [onReceive, final_attempt_pure, h]
  rfl

/-- An envelope is answered or dropped. -/
theorem onReceive_envelope {m : Bytes} {isText : Bool} {env : Json}
    (h : S2sAuth.parseEnvelope J m isText = some env) (c : ChildCommServer) :
    (onReceive J crypto config m isText).final c = c ∨
      ∃ response, (onReceive J crypto config m isText).final c =
        c.emit (.respond (env.field "nonce") response) := by
  rw [onReceive, final_attempt_pure, h]
  simp only [answerEnvelope, final_get_bind]
  split
  · cases hr : S2sAuth.buildResponse J crypto config (env.field "nonce") with
    | error e => exact Or.inl rfl
    | ok response => exact Or.inr ⟨response, rfl⟩
  · exact Or.inl rfl

/-- A message is handed to the chat server exactly when it is no envelope. -/
theorem onReceive_traffic_iff (m : Bytes) (isText : Bool) (c : ChildCommServer) :
    (onReceive J crypto config m isText).final c = c.emit (.parseExternalMessage m (!isText)) ↔
      S2sAuth.parseEnvelope J m isText = none := by
  refine ⟨fun hfin => ?_, fun h => onReceive_traffic h c⟩
  cases henv : S2sAuth.parseEnvelope J m isText with
  | none => rfl
  | some env =>
    have hadd : ∀ e, (c.emit e).log = c.log ++ [e] := fun _ => rfl
    have hcases : (onReceive J crypto config m isText).final c = c ∨ ∃ response,
        (onReceive J crypto config m isText).final c = c.emit (.respond (env.field "nonce") response) :=
      onReceive_envelope henv c
    rcases hcases with h | ⟨response, h⟩
    · have hlog := congrArg ChildCommServer.log (h.symm.trans hfin)
      rw [hadd] at hlog
      exact absurd (List.append_cancel_left ((List.append_nil _).trans hlog)) (by simp)
    · have hlog := congrArg ChildCommServer.log (h.symm.trans hfin)
      rw [hadd, hadd] at hlog
      exact absurd (List.append_cancel_left hlog) (by simp)

end ChildCommServer

namespace Server

/-- A copy is no envelope exactly when the client has written no field `s2s_auth`, or the frame has a
    payload. -/
theorem CopyOf.parseEnvelope_iff {s : Server} {ws : SocketId} {login : LoginRequest}
    {fs : List (String × Json)} {trail : List String} {v' : Json}
    (hcopy : CopyOf s ws login (.obj fs) trail v') (hproper : v'.Proper J.isNumber)
    (message : Bytes) (isText : Bool) :
    S2sAuth.parseEnvelope J (J.stringify v' ++ payload message) isText = none ↔
      isNullish ((Json.obj fs).field "s2s_auth") = true ∨ 0 ∈ message := by
  by_cases hzero : 0 ∈ message
  · -- a payload
    have hpayload : 0 ∈ payload message := by
      by_contra hnot
      rw [← header_append_payload message] at hzero
      rcases List.mem_append.mp hzero with h0 | h0
      · exact absurd (List.all_eq_true.mp List.all_takeWhile _ h0) (by simp)
      · exact hnot h0
    exact iff_of_true (S2sAuth.parseEnvelope_of_zero (List.mem_append_right _ hpayload) isText)
      (Or.inr hzero)
  · -- an object and nothing else
    obtain ⟨gs, rfl⟩ := hcopy.isObj
    rw [payload_eq_nil hzero, List.append_nil, S2sAuth.parseEnvelope_stringify hproper,
      hcopy.others "s2s_auth" (by decide) (by decide) fun _ => ⟨by decide, by decide⟩]
    cases isNullish ((Json.obj fs).field "s2s_auth") with
    | true => exact iff_of_true (if_pos rfl) (Or.inl rfl)
    | false =>
      rw [if_neg Bool.false_ne_true]
      simp [hzero]

/-- A child server takes a copy of a client's frame for traffic exactly when the client has written
    no field `s2s_auth`, or the frame has a payload. -/
theorem copy_traffic_iff {isAlphanumeric : String → Bool} {settings : Config} {es : List Event}
    {s : Server} (hrun : run J isAlphanumeric (start settings) es = some s) {ws : SocketId}
    {message : Bytes} {isBinary : Bool} {fs : List (String × Json)}
    (hv : J.parse (if isBinary then header message else message) = some (.obj fs))
    {trail : List String} {m : Bytes} {b : Bool} (h : Copy J s ws message isBinary trail m b)
    (c : ChildCommServer) (isText : Bool) :
    (ChildCommServer.onReceive J crypto config m isText).final c =
        c.emit (.parseExternalMessage m (!isText)) ↔
      isNullish ((Json.obj fs).field "s2s_auth") = true ∨ 0 ∈ message := by
  obtain ⟨-, login, v', -, hcopy, hproper, rfl⟩ :=
    h.content (consistent_run J isAlphanumeric hrun) (properIds_run hrun) hv
  rw [ChildCommServer.onReceive_traffic_iff]
  exact hcopy.parseEnvelope_iff hproper message isText

/-- A broadcast frame in which a client has written these fields. -/
def broadcastFrame (fields : List (String × Json)) : Bytes :=
  Text.stringify (.obj (("ty", .str "g") :: fields))

/-- Its copy, by a server that is called `unknown`. -/
def broadcastCopy (fields : List (String × Json)) : Bytes :=
  Text.stringify (.obj (("ty", .str "g") :: fields ++
    [("_path", .arr [.str "unknown"]), ("_gid", .str "1"), ("_aid", .str "acc")]))

theorem copy_traffic_iff_plain : ∃ s : Server,
    run Text.codec isAsciiAlphanumeric (start { enable_super_server := true }) joinedRun = some s ∧
    ∀ c : ChildCommServer, (ChildCommServer.onReceive Text.codec Crypto.sealing {}
      (broadcastCopy []) false).final c =
        c.emit (.parseExternalMessage (broadcastCopy []) true) := by
  have h : (run Text.codec isAsciiAlphanumeric (start { enable_super_server := true }) joinedRun).map
      (fun s => s.relayedBy ((parseMessage Text.codec 0 (broadcastFrame []) false).final s)) =
      some [(broadcastCopy [], false)] := by decide +kernel
  obtain ⟨s, hs, hrel⟩ := Option.map_eq_some_iff.mp h
  have hcopy : (broadcastCopy [], false) ∈
      s.relayedBy ((parseMessage Text.codec 0 (broadcastFrame []) false).final s) := by
    rw [hrel]
    exact List.mem_singleton.mpr rfl
  have hv : Text.codec.parse (if false = true then header (broadcastFrame []) else broadcastFrame []) =
      some (.obj [("ty", .str "g")]) := by decide +kernel
  exact ⟨s, hs, fun c => (copy_traffic_iff hs hv (.first hcopy) c false).mpr (Or.inl rfl)⟩

/-- The fields of a challenge. -/
def challengeFields : List (String × Json) := [("s2s_auth", .str "challenge"), ("nonce", .str "n")]

/-- A nonce in a frame that a client broadcasts is signed by a child server, and the frame is not
    routed there. -/
theorem copy_signed : ∃ s : Server,
    run Text.codec isAsciiAlphanumeric (start { enable_super_server := true }) joinedRun = some s ∧
    ((parseMessage Text.codec 0 (broadcastFrame challengeFields) false).final s).log.drop s.log.length
      = [.toChildren (broadcastCopy challengeFields) false none] ∧
    ((ChildCommServer.onReceive Text.codec Crypto.sealing
      { server_id := some "C", s2s_my_private_key := some 'k' } (broadcastCopy challengeFields)
        false).final { parentWs := some .isOpen }).log =
      [.respond (some (.str "n")) (Text.stringify (.obj [("s2s_auth", .str "response"),
        ("sig", .str "kn"), ("id", .str "C")]))] := by
  have h : (run Text.codec isAsciiAlphanumeric (start { enable_super_server := true }) joinedRun).map
      (fun s => ((parseMessage Text.codec 0 (broadcastFrame challengeFields) false).final s).log.drop
        s.log.length) = some [.toChildren (broadcastCopy challengeFields) false none] := by
    decide +kernel
  obtain ⟨s, hs, hlog⟩ := Option.map_eq_some_iff.mp h
  exact ⟨s, hs, hlog, by decide +kernel⟩

end Server

end

end DroneEngage
