import DroneEngage.RelayAgreement
import DroneEngage.RelayNetwork

/-! What a server of the network makes of a message that arrives.

    A message that came over a link is a frame with the trail of the servers it has passed, or the
    answer to an envelope. The answer leads to nothing. A frame is delivered and passed on, with the
    server added to its trail, or it goes no further. -/

namespace DroneEngage
open Js

section

variable (J : JsonCodec)

/-- A frame whose trail ends with these servers. -/
def TrailedBy (trail : List String) (m : Bytes) : Prop :=
  ∃ fs xs, J.parse (header m) = some (.obj fs) ∧
    (Json.obj fs).field "_path" = some (.arr (xs ++ trail.map Json.str))

/-- A message that no route is read from. -/
def Unrouted (m : Bytes) : Prop :=
  ∃ fs, J.parse (header m) = some (.obj fs) ∧ (Json.obj fs).field Const.routing = none

variable {J} {trail : List String} {m : Bytes}

/-- What is read of a printed object and a payload. -/
theorem parse_printed {v : Json} (hv : v.Proper J.isNumber) (message : Bytes) :
    J.parse (header (J.stringify v ++ payload message)) = some v := by
  rw [header_of_zero_notMem (J.zero_notMem_stringify v), J.parse_stringify v hv]

theorem TrailedBy.passedOn (h : TrailedBy J trail m) (s : Server) :
    TrailedBy J (trail ++ [s.serverOriginID]) (s.passedOn J m true) := by
  obtain ⟨fs, xs, hparse, hpath⟩ := h
  obtain ⟨gs, hgs⟩ := Server.appendPath_obj s.serverOriginID fs
  have hproper : (appendPath s.serverOriginID (.obj fs)).Proper J.isNumber :=
    proper_appendPath _ (J.parse_proper _ _ hparse)
  have hframe : s.passedOn J m true =
      J.stringify (appendPath s.serverOriginID (.obj fs)) ++ payload m := by
    rw [Server.passedOn, rewriteMessage, if_pos rfl, hparse]
    rfl
  refine ⟨gs, xs, ?_, ?_⟩
  · rw [hframe, parse_printed hproper, hgs]
  · rw [← hgs, Server.field_appendPath_self, Server.trailOf, hpath, List.map_append,
      ← List.append_assoc]
    rfl

/-- A server that is in the trail has relayed the frame. -/
theorem TrailedBy.alreadyRelayed {s : String} (h : TrailedBy J trail m) (hs : s ∈ trail)
    {jmsg : Json} (hparse : J.parse (header m) = some jmsg) : Server.alreadyRelayed s jmsg = true := by
  obtain ⟨fs, xs, hfs, hpath⟩ := h
  obtain rfl := Option.some.inj (hfs.symm.trans hparse)
  rw [Server.alreadyRelayed, hpath]
  simp [Json.items?, hs]

/-- What a client's frame is forwarded as carries the server. -/
theorem Server.ForwardedAs.trailedBy {s : Server} (hp : s.ProperIds J) {ws : SocketId}
    {message frame : Bytes} {isBinary : Bool}
    (h : s.ForwardedAs J ws message isBinary frame) : TrailedBy J [s.serverOriginID] frame := by
  obtain ⟨login, fs, hl, hv, rfl⟩ := h
  have hproper : (s.stampGroup (s.sockets ws).group
      (appendPath s.serverOriginID ((Json.obj fs).setField "p" login.prm))).Proper J.isNumber :=
    proper_stampGroup hp _ (proper_appendPath s.serverOriginID
      ((J.parse_proper _ _ hv).setField "p" (hp.login ws login hl).prm))
  have hcopy := copyOf_first s ws login fs s.serverOriginID
  obtain ⟨gs, hgs⟩ := hcopy.isObj
  rw [hgs] at hproper hcopy
  have htext : (if isBinary then payload message else []) =
      payload (if isBinary then message else []) := by
    cases isBinary with
    | true => rfl
    | false => rfl
  refine ⟨gs, _, ?_, hcopy.trail⟩
  rw [Server.forwardedFrame, hgs, htext, parse_printed hproper]

/-- A message without a route does nothing. -/
theorem Unrouted.ignored (h : Unrouted J m) (source : Option LinkId) (s : Server) :
    (Server.parseExternalMessage J m true source).final s = s := by
  obtain ⟨fs, hparse, hrouting⟩ := h
  by_cases hseen : Server.alreadyRelayed s.serverOriginID (.obj fs) = true
  · exact Server.parseExternalMessage_dropped (by rw [if_pos rfl]; exact hparse) (Or.inl hseen)
  · have hroute : externalRoute (.obj fs) = .ok .nowhere := by
      rw [externalRoute, hrouting]
      rfl
    rw [Server.parseExternalMessage_final J (by rw [if_pos rfl]; exact hparse) (by simp)
      (Bool.eq_false_iff.mpr hseen) hroute]
    rfl

end

/-! ### Envelopes -/

section

variable {PrivateKey PublicKey : Type} {J : JsonCodec} {crypto : Crypto PrivateKey PublicKey}
  {config : S2sConfig PrivateKey PublicKey}

/-- The answer to a challenge has no route. -/
theorem S2sAuth.unrouted_buildResponse {nonce : Val} {response : Bytes}
    (h : S2sAuth.buildResponse J crypto config nonce = .ok response) : Unrouted J response := by
  rw [S2sAuth.buildResponse] at h
  cases hsig : S2sAuth.sign crypto config.s2s_my_private_key nonce with
  | error e => rw [hsig] at h; exact absurd h (by simp [bind, Except.bind])
  | ok signature =>
    rw [hsig] at h
    obtain ⟨fs, hfs⟩ := Json.setField_obj
      [("s2s_auth", .str S2sAuth.response), ("sig", .str signature)] "id"
      (config.server_id.map Json.str)
    have hproper : (Json.obj fs).Proper J.isNumber := by
      rw [← hfs]
      refine Json.Proper.setField "id" ?_ ?_
      · exact ⟨by simp, trivial, trivial, trivial⟩
      · intro y hy
        obtain ⟨id, -, rfl⟩ := Option.map_eq_some_iff.mp hy
        trivial
    obtain rfl : J.stringify (Json.obj fs) = response := by
      rw [← hfs]
      exact Except.ok.inj h
    refine ⟨fs, ?_, ?_⟩
    · rw [header_eq_self (J.zero_notMem_stringify _), J.parse_stringify _ hproper]
    · rw [← hfs, Json.field_setField_ne _ _ (by decide)]
      rfl

namespace ChildCommServer

open Action

/-- A message of the parent is traffic, or an envelope; an envelope is answered or dropped. -/
theorem onReceive_cases (J : JsonCodec) (crypto : Crypto PrivateKey PublicKey)
    (config : S2sConfig PrivateKey PublicKey) (m : Bytes) (isText : Bool) (c : ChildCommServer) :
    S2sAuth.parseEnvelope J m isText = none ∧
        (onReceive J crypto config m isText).final c = c.emit (.parseExternalMessage m (!isText)) ∨
      S2sAuth.parseEnvelope J m isText ≠ none ∧
        ((onReceive J crypto config m isText).final c = c ∨ ∃ nonce response,
          S2sAuth.buildResponse J crypto config nonce = .ok response ∧
          (onReceive J crypto config m isText).final c = c.emit (.respond nonce response)) := by
  cases henv : S2sAuth.parseEnvelope J m isText with
  | none => exact Or.inl ⟨rfl, onReceive_traffic henv c⟩
  | some env =>
    refine Or.inr ⟨by simp, ?_⟩
    rw [onReceive, final_attempt_pure, henv]
    simp only [answerEnvelope, final_get_bind]
    split
    · cases hr : S2sAuth.buildResponse J crypto config (env.field "nonce") with
      | error e => exact Or.inl rfl
      | ok response => exact Or.inr ⟨_, response, hr, rfl⟩
    · exact Or.inl rfl

end ChildCommServer

end

/-! ### An arrival -/

section

variable {ι PrivateKey PublicKey : Type} {T : Topology ι} {J : JsonCodec}
  {crypto : Crypto PrivateKey PublicKey} {i : ι} {p p' : RelayServer PrivateKey PublicKey} {m : Bytes}
  {source : Option LinkId}

/-- The server's links and settings are as before. -/
structure RelayServer.SameLinks (p p' : RelayServer PrivateKey PublicKey) : Prop where
  parentWs : p'.parent.parentWs = p.parent.parentWs
  clientData : p'.children.clientData = p.children.clientData
  children : p'.children.children = p.children.children
  s2s : p'.s2s = p.s2s

theorem RelayServer.SameLinks.linked (h : p.SameLinks p') (hconfig : p'.chat.config = p.chat.config)
    (hp : T.Linked i p) : T.Linked i p' :=
  Topology.linked_congr hp h.parentWs h.clientData h.children hconfig

/-- The answer to an envelope, on its way to the parent. -/
structure Topology.Answers (T : Topology ι) (J : JsonCodec) (i : ι) (w : Wire ι) : Prop where
  cause : w.cause = none
  up : w.up = true
  parent : T.parentOf i = some w.dst
  src : w.src = i
  unrouted : Unrouted J w.message

variable [DecidableEq ι]

/-- What a server makes of a message: nothing, or it delivers a broadcast that has not been there,
    and passes it on to its neighbours or, when the delivery throws, to none. -/
inductive Arrival (T : Topology ι) (J : JsonCodec) (i : ι) (p p' : RelayServer PrivateKey PublicKey)
    (m : Bytes) (source : Option LinkId) : Prop
  | ignored : p.chat.HomeOnly p'.chat →
    (∀ cause trail, ∀ w ∈ T.outgoing i cause trail p p', T.Answers J i w) → Arrival T J i p p' m source
  | taken {jmsg : Json} {actorType : Option String} : J.parse (header m) = some jmsg →
    Server.alreadyRelayed p.chat.serverOriginID jmsg = false →
    externalRoute jmsg = .ok (.broadcast actorType) →
    (p.chat.Puts 1 [] [] p'.chat ∧ (∀ cause trail, T.outgoing i cause trail p p' = []) ∨
      p.chat.Puts 1 (p.chat.downs (p.chat.passedOn J m true) true source)
          (p.chat.ups (p.chat.passedOn J m true) true) p'.chat ∧
        ∀ cause trail, T.outgoing i cause trail p p' = (T.targets i p source).map
          (T.wireTo i (p.chat.passedOn J m true) cause trail)) →
    Arrival T J i p p' m source

omit [DecidableEq ι] in
theorem RelayServer.SameLinks.handOver {q : RelayServer PrivateKey PublicKey} (h : p.SameLinks q) (s : Server)
    (down : List (Bytes × Bool × Option LinkId)) (up : List (Bytes × Bool)) :
    p.SameLinks ({ q with chat := s }.handOver down up) :=
  ⟨h.parentWs, h.clientData, h.children, h.s2s⟩

omit [DecidableEq ι] in
theorem RelayServer.onExternal_eq {b : Bool} {n : ℕ} {down : List (Bytes × Bool × Option LinkId)}
    {up : List (Bytes × Bool)}
    (h : p.chat.Puts n down up ((Server.parseExternalMessage J m b source).final p.chat)) :
    p.onExternal J m b source = { p with
      chat := (Server.parseExternalMessage J m b source).final p.chat }.handOver down up :=
  RelayServer.settle_eq h

/-- A call of `fn_parseExternalMessage`, by a module that has noted it. -/
theorem onExternal_arrival (hT : T.IsForest) (children : ParentCommServer PublicKey)
    (parent : ChildCommServer) (hlinks : p.SameLinks { p with children, parent })
    (hout : ∀ cause trail down up s, T.outgoing i cause trail p
        ({ p with children, parent, chat := s }.handOver down up) =
      T.outgoing i cause trail p ({ p with chat := s }.handOver down up)) :
    Arrival T J i p ({ p with children, parent }.onExternal J m true source) m source ∧
      p.SameLinks ({ p with children, parent }.onExternal J m true source) ∧
      ({ p with children, parent }.onExternal J m true source).chat =
        (Server.parseExternalMessage J m true source).final p.chat := by
  have hnothing : ∀ cause trail s, T.outgoing i cause trail p
      ({ p with children, parent, chat := s }.handOver [] []) = [] := by
    intro cause trail s
    rw [hout, RelayServer.handOver_nil]
    exact Topology.outgoing_nothing
  have hcases := Server.puts_parseExternalMessage (J := J) m true source p.chat
  dsimp only at hcases
  rcases hcases with h | ⟨jmsg, actorType, hparse, -, hnew, hroute, h | h⟩
  · rw [RelayServer.onExternal_eq (p := { p with children, parent }) h]
    refine ⟨.ignored h fun cause trail w hw => ?_, hlinks.handOver _ _ _, rfl⟩
    rw [hnothing] at hw
    exact absurd hw List.not_mem_nil
  · rw [RelayServer.onExternal_eq (p := { p with children, parent }) h]
    exact ⟨.taken hparse hnew hroute (Or.inl ⟨h, fun cause trail => hnothing cause trail _⟩),
      hlinks.handOver _ _ _, rfl⟩
  · rw [RelayServer.onExternal_eq (p := { p with children, parent }) h]
    refine ⟨.taken hparse hnew hroute (Or.inr ⟨h, fun cause trail => ?_⟩), hlinks.handOver _ _ _, rfl⟩
    rw [hout]
    exact Topology.outgoing_forward hT

/-- A message of a child that has answered its challenge is a frame. -/
theorem onChildMessage_arrival (crypto : Crypto PrivateKey PublicKey) (hT : T.IsForest)
    {c : LinkId}
    (hauthed : (p.children.children c).m_s2s_authed = true) :
    Arrival T J i p (p.onChildMessage J crypto c m) m (some c) ∧
      p.SameLinks (p.onChildMessage J crypto c m) ∧
      (p.onChildMessage J crypto c m).chat =
        (Server.parseExternalMessage J m true (some c)).final p.chat := by
  have hfold : p.onChildMessage J crypto c m =
      { p with children := p.children.emit (.parseExternalMessage c m true) }.onExternal J m true
        (some c) := by
    rw [RelayServer.onChildMessage, ParentCommServer.onMessage_authed hauthed]
    dsimp only [ParentCommServer.emit]
    rw [List.drop_left]
    rfl
  rw [hfold]
  refine onExternal_arrival hT (p.children.emit (.parseExternalMessage c m true)) p.parent
    ⟨rfl, rfl, rfl, rfl⟩
    fun cause trail down up s => ?_
  rw [Topology.outgoing, Topology.outgoing, RelayServer.handOver, RelayServer.handOver]
  dsimp only [ParentCommServer.emit]
  rw [List.append_assoc, List.drop_left, List.drop_left, List.drop_left]
  rfl

/-- A message of the parent that is no envelope is a frame. -/
theorem onParentMessage_arrival (crypto : Crypto PrivateKey PublicKey) (hT : T.IsForest)
    (htraffic : S2sAuth.parseEnvelope J m false = none) :
    Arrival T J i p (p.onParentMessage J crypto m) m none ∧
      p.SameLinks (p.onParentMessage J crypto m) ∧
      (p.onParentMessage J crypto m).chat =
        (Server.parseExternalMessage J m true none).final p.chat := by
  have hfold : p.onParentMessage J crypto m =
      { p with parent := p.parent.emit (.parseExternalMessage m true) }.onExternal J m true none := by
    rw [RelayServer.onParentMessage, ChildCommServer.onReceive_traffic htraffic]
    dsimp only [ChildCommServer.emit]
    rw [List.drop_left]
    rfl
  rw [hfold]
  refine onExternal_arrival hT p.children (p.parent.emit (.parseExternalMessage m true))
    ⟨rfl, rfl, rfl, rfl⟩
    fun cause trail down up s => ?_
  rw [Topology.outgoing, Topology.outgoing, RelayServer.handOver, RelayServer.handOver]
  dsimp only [ChildCommServer.emit]
  rw [List.append_assoc, List.drop_left, List.drop_left, List.drop_left]
  rfl

/-- An envelope of the parent is answered or dropped, and is nothing to the chat server. -/
theorem onParentMessage_envelope (crypto : Crypto PrivateKey PublicKey)
    (henv : S2sAuth.parseEnvelope J m false ≠ none) :
    Arrival T J i p (p.onParentMessage J crypto m) m none ∧
      p.SameLinks (p.onParentMessage J crypto m) ∧ (p.onParentMessage J crypto m).chat = p.chat := by
  rcases ChildCommServer.onReceive_cases J crypto p.s2s m false p.parent with
    ⟨h, -⟩ | ⟨-, hfin | ⟨nonce, response, hr, hfin⟩⟩
  · exact absurd h henv
  · have hfold : p.onParentMessage J crypto m = p := by
      rw [RelayServer.onParentMessage, hfin, List.drop_length]
      rfl
    rw [hfold]
    refine ⟨.ignored (Server.homeOnly_refl _) fun cause trail w hw => ?_, ⟨rfl, rfl, rfl, rfl⟩, rfl⟩
    have hnone : T.outgoing i cause trail p p = [] := Topology.outgoing_nothing (s := p.chat)
    rw [hnone] at hw
    exact absurd hw List.not_mem_nil
  · have hfold : p.onParentMessage J crypto m =
        { p with parent := p.parent.emit (.respond nonce response) } := by
      rw [RelayServer.onParentMessage, hfin]
      dsimp only [ChildCommServer.emit]
      rw [List.drop_left]
      rfl
    rw [hfold]
    refine ⟨.ignored (Server.homeOnly_refl _) fun cause trail w hw => ?_, ⟨rfl, rfl, rfl, rfl⟩, rfl⟩
    rw [Topology.outgoing] at hw
    dsimp only [ChildCommServer.emit] at hw
    rw [List.drop_left, List.drop_length, List.filterMap_nil, List.append_nil] at hw
    obtain ⟨e, he, hw⟩ := List.mem_filterMap.mp hw
    rw [List.mem_singleton.mp he, Topology.upward] at hw
    obtain ⟨parent, hparent, rfl⟩ := Option.map_eq_some_iff.mp hw
    exact ⟨rfl, rfl, hparent, rfl, S2sAuth.unrouted_buildResponse hr⟩

/-- An event of the server's own: a client's frame may be forwarded, and nothing else happens on the
    relay. -/
theorem onEvent_outcome (hT : T.IsForest) {isAlphanumeric : String → Bool} {e : Event}
    (hs : p.chat.Consistent) (hp : p.chat.ProperIds J) (he : e.isExternal = false)
    (h : p.onEvent J isAlphanumeric e = some p') :
    p.SameLinks p' ∧ Server.step J isAlphanumeric p.chat e = some p'.chat ∧
      (∃ down up, p.chat.Puts 0 down up p'.chat) ∧
      ((∀ cause trail, T.outgoing i cause trail p p' = []) ∨
        ∃ ws message isBinary frame, e = .message ws message isBinary ∧
          p.chat.ForwardedAs J ws message isBinary frame ∧
          ∀ cause trail, T.outgoing i cause trail p p' =
            (T.targets i p none).map (T.wireTo i frame cause trail)) := by
  obtain ⟨s, hstep, rfl⟩ := Option.map_eq_some_iff.mp h
  have hsame : p.SameLinks p := ⟨rfl, rfl, rfl, rfl⟩
  have hputs : p.chat.HomeOnly s ∨ ∃ ws message isBinary frame, e = .message ws message isBinary ∧
      p.chat.ForwardedAs J ws message isBinary frame ∧
      p.chat.Puts 0 (p.chat.downs frame isBinary none) (p.chat.ups frame isBinary) s := by
    rcases Server.step_eq_some hstep with ⟨-, rfl⟩ | ⟨-, rfl⟩
    · refine Server.puts_event hs hp ?_
      rintro m b source rfl
      exact absurd he (by simp [Event.isExternal])
    · exact Or.inl (Server.homeOnly_refl _)
  rcases hputs with hq | ⟨ws, message, isBinary, frame, rfl, hframe, hq⟩
  · rw [RelayServer.settle_eq hq]
    refine ⟨hsame.handOver _ _ _, hstep, ⟨_, _, hq⟩, Or.inl fun cause trail => ?_⟩
    rw [RelayServer.handOver_nil]
    exact Topology.outgoing_nothing
  · rw [RelayServer.settle_eq hq]
    exact ⟨hsame.handOver _ _ _, hstep, ⟨_, _, hq⟩, Or.inr ⟨ws, message, isBinary, frame, rfl, hframe,
      fun cause trail => Topology.outgoing_forward hT⟩⟩

end

end DroneEngage
