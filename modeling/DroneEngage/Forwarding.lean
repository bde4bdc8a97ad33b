import DroneEngage.Broadcasts
import DroneEngage.FrameKinds
import DroneEngage.Uncaught

/-! What an event asks of the relay modules.

    The chat server talks to the other servers in two places only: it forwards a frame of its own
    client, and it passes on a broadcast of another server. In both it asks the relay modules once,
    the one for the children and the one for the parent. Every relayed broadcast is delivered locally
    once, before it is passed on; that delivery can throw, on stamps that name inherited properties,
    and the broadcast then ends here. -/

namespace DroneEngage
open Js

namespace Effect

/-- What the module for the children is asked to send, and the connection it leaves out. -/
def toChildren? : Effect → Option (Bytes × Bool × Option LinkId)
  | .toChildren message isBinary source => some (message, isBinary, source)
  | _ => none

/-- What the module for the parent is asked to send. -/
def toParent? : Effect → Option (Bytes × Bool)
  | .toParent message isBinary => some (message, isBinary)
  | _ => none

/-- The local delivery of a relayed broadcast begins. -/
def isDelivery : Effect → Bool
  | .deliverBroadcast _ => true
  | _ => false

/-- The effect has nothing to do with the relay. -/
structure AtHome (e : Effect) : Prop where
  relayed : e.relayed? = none
  delivery : e.isDelivery = false

theorem toChildren?_of_unrelayed {e : Effect} (h : e.relayed? = none) : e.toChildren? = none := by
  cases e with
  | toChildren => exact absurd h (by simp [relayed?])
  | send | close | terminate | toAuth | updateAuth | udpProxyCommand | deliverBroadcast | toParent
  | storageCommand => rfl

theorem toParent?_of_unrelayed {e : Effect} (h : e.relayed? = none) : e.toParent? = none := by
  cases e with
  | toParent => exact absurd h (by simp [relayed?])
  | send | close | terminate | toAuth | updateAuth | udpProxyCommand | deliverBroadcast | toChildren
  | storageCommand => rfl

end Effect

namespace Server

open Action

/-! ### Deliveries and messages -/

/-- Between two states this many local deliveries of relayed broadcasts have begun, and the relay
    modules have been handed these messages. -/
def Puts (deliveries : ℕ) (down : List (Bytes × Bool × Option LinkId)) (up : List (Bytes × Bool))
    (s s' : Server) : Prop :=
  ∃ l, s'.log = s.log ++ l ∧ l.countP Effect.isDelivery = deliveries ∧
    l.filterMap Effect.toChildren? = down ∧ l.filterMap Effect.toParent? = up

/-- Nothing of the kind has happened. -/
abbrev HomeOnly (s s' : Server) : Prop := Puts 0 [] [] s s'

/-- What the module for the children is handed when a message is forwarded. -/
def downs (s : Server) (m : Bytes) (b : Bool) (source : Option LinkId) :
    List (Bytes × Bool × Option LinkId) :=
  if s.config.enable_super_server then [(m, b, source)] else []

/-- What the module for the parent is handed. -/
def ups (s : Server) (m : Bytes) (b : Bool) : List (Bytes × Bool) :=
  if s.config.enable_persistant_relay then [(m, b)] else []

section

variable {s s₁ s' : Server} {n n' : ℕ} {down down' : List (Bytes × Bool × Option LinkId)}
  {up up' : List (Bytes × Bool)}

theorem Puts.trans (h : Puts n down up s s₁) (h' : Puts n' down' up' s₁ s') :
    Puts (n + n') (down ++ down') (up ++ up') s s' := by
  obtain ⟨l, hl, rfl, rfl, rfl⟩ := h
  obtain ⟨l', hl', rfl, rfl, rfl⟩ := h'
  refine ⟨l ++ l', ?_, ?_, ?_, ?_⟩
  · rw [hl', hl, List.append_assoc]
  · rw [List.countP_append]
  · rw [List.filterMap_append]
  · rw [List.filterMap_append]

theorem HomeOnly.then (h : HomeOnly s s₁) (h' : Puts n down up s₁ s') : Puts n down up s s' := by
  have hboth := Puts.trans h h'
  rw [Nat.zero_add] at hboth
  exact hboth

theorem Puts.thenHome (h : Puts n down up s s₁) (h' : HomeOnly s₁ s') : Puts n down up s s' := by
  have hboth := h.trans h'
  rw [List.append_nil, List.append_nil] at hboth
  exact hboth

theorem Puts.unique (h : Puts n down up s s') (h' : Puts n' down' up' s s') :
    n = n' ∧ down = down' ∧ up = up' := by
  obtain ⟨l, hl, rfl, rfl, rfl⟩ := h
  obtain ⟨l', hl', rfl, rfl, rfl⟩ := h'
  obtain rfl := List.append_cancel_left (hl.symm.trans hl')
  exact ⟨rfl, rfl, rfl⟩

theorem homeOnly_of_logs (h : Logs Effect.AtHome s s') : HomeOnly s s' := by
  obtain ⟨l, hl, hQ⟩ := h
  refine ⟨l, hl, List.countP_eq_zero.mpr fun e he => ?_, ?_, ?_⟩
  · rw [(hQ e he).delivery]
    simp
  · exact List.filterMap_eq_nil_iff.mpr fun e he => Effect.toChildren?_of_unrelayed (hQ e he).relayed
  · exact List.filterMap_eq_nil_iff.mpr fun e he => Effect.toParent?_of_unrelayed (hQ e he).relayed

theorem homeOnly_refl (s : Server) : HomeOnly s s := homeOnly_of_logs (refl_of (Logs Effect.AtHome) s)

/-- The two calls that forward a message. -/
theorem puts_forward {l : List Effect} {m : Bytes} {b : Bool} (source : Option LinkId)
    (hlog : s'.log = s.log ++ l)
    (hl : l = (if s.config.enable_super_server then [.toChildren m b source] else []) ++
        (if s.config.enable_persistant_relay then [.toParent m b] else []) ∨
      l = (if s.config.enable_persistant_relay then [.toParent m b] else []) ++
        if s.config.enable_super_server then [.toChildren m b source] else []) :
    Puts 0 (s.downs m b source) (s.ups m b) s s' := by
  refine ⟨l, hlog, ?_⟩
  rw [downs, ups]
  cases hc : s.config.enable_super_server with
  | true => cases hp : s.config.enable_persistant_relay with
    | true => rw [hc, hp] at hl; rcases hl with rfl | rfl <;> exact ⟨rfl, rfl, rfl⟩
    | false => rw [hc, hp] at hl; rcases hl with rfl | rfl <;> exact ⟨rfl, rfl, rfl⟩
  | false => cases hp : s.config.enable_persistant_relay with
    | true => rw [hc, hp] at hl; rcases hl with rfl | rfl <;> exact ⟨rfl, rfl, rfl⟩
    | false => rw [hc, hp] at hl; rcases hl with rfl | rfl <;> exact ⟨rfl, rfl, rfl⟩

end

/-! ### Events without a frame -/

section

variable {Q : Effect → Prop} (hQ : ∀ e : Effect, e.AtHome → Q e)

include hQ

theorem logs_home {e : Effect} (he : e.AtHome) : Moves (Logs Q) (modify (emit e)) :=
  moves_modify (logs_emit (hQ e he))

theorem logs_sendHome (ws : SocketId) (message : Bytes) (isBinary : Bool) :
    Moves (Logs Q) (send ws message isBinary) :=
  moves_bind (logs_home hQ ⟨rfl, rfl⟩) fun _ => moves_bind moves_get fun _ =>
    moves_ite (fun _ => moves_throw _) fun _ => moves_pure ()

theorem logs_terminateHome (ws : SocketId) : Moves (Logs Q) (terminateSocket ws) :=
  logs_terminateSocket (fun _ => hQ _ ⟨rfl, rfl⟩) ws

theorem logs_closeHome (ws : SocketId) : Moves (Logs Q) (closeSocket ws) := by
  refine moves_modify fun s => ?_
  exact trans_of (Logs Q) (b := setSocket ws _ s) (logs_of_eq rfl)
    (logs_emit (hQ (.close ws) ⟨rfl, rfl⟩) _)

omit hQ in
theorem logs_silent {f : Server → Server} (h : ∀ s, (f s).log = s.log) :
    Moves (Logs Q) (modify f) := moves_modify fun s => logs_of_eq (h s)

section

variable (J : JsonCodec) (isAlphanumeric : String → Bool)

theorem logs_acceptHome (login : LoginRequest) (ws : SocketId) :
    Moves (Logs Q) (_acceptConnection J login ws) := by
  refine moves_bind (logs_silent fun _ => rfl) fun _ => moves_bind ?_ fun _ => moves_bind ?_ fun _ =>
    moves_bind ?_ fun _ => ?_
  · exact moves_bind (moves_ofExcept _) fun _ => logs_silent fun _ => rfl
  · exact moves_delMemberFromAccountByName logs_rooms (logs_terminateHome hQ) _ _
  · exact moves_addMemberToAccountGroup logs_rooms ws
  · exact moves_bind moves_get fun _ => logs_sendHome hQ _ _ _

theorem logs_rejectHome (ws : SocketId) : Moves (Logs Q) (rejectSocket ws) :=
  moves_bind (logs_silent fun _ => rfl) fun _ => logs_closeHome hQ ws

omit hQ in
theorem logs_deleteLogin (key : String) : Moves (Logs Q) (deleteLogin key) :=
  moves_bind moves_get fun _ => moves_ite (fun _ => moves_pure ()) fun _ =>
    logs_silent fun _ => rfl

theorem logs_completeHome (params : Table Json) (ws : SocketId) :
    Moves (Logs Q) (completeConnection J isAlphanumeric params ws) := by
  have hwaiting : ∀ key, Moves (Logs Q) (validateWaiting key ws) := fun _ =>
    moves_bind moves_get fun _ => moves_bind (moves_ofExcept _) fun _ =>
      moves_ite (fun _ => moves_pure ()) fun _ => logs_closeHome hQ ws
  have hcheck : ∀ key, Moves (Logs Q) (checkKey isAlphanumeric key ws) := fun _ =>
    moves_ite (fun _ => logs_closeHome hQ ws) fun _ => hwaiting _
  refine moves_bind moves_get fun s => moves_ite (fun _ => ?_) fun _ => ?_
  · refine moves_bind ?_ fun key => ?_
    · rw [validateKeyLocal]
      cases params.own? Const.loginTempKey with
      | none => exact moves_throw _
      | some f => exact moves_bind (moves_ofExcept _) fun _ => moves_pure _
    · cases key with
      | none => exact logs_rejectHome hQ ws
      | some _ => exact moves_bind moves_get fun _ => logs_acceptHome hQ J _ ws
  · refine moves_bind ?_ fun key => ?_
    · refine moves_bind moves_get fun _ => moves_bind (moves_ofExcept _) fun hasKey => ?_
      split
      · exact moves_bind (moves_ofExcept _) fun _ => moves_bind (hcheck _) fun _ => moves_pure _
      · exact moves_bind (hwaiting _) fun _ => moves_pure _
    · cases key with
      | none => exact logs_rejectHome hQ ws
      | some key =>
        refine moves_attempt (moves_bind moves_get fun _ => moves_ite (fun _ => logs_rejectHome hQ ws)
          fun _ => moves_bind (logs_deleteLogin key) fun _ => moves_bind (logs_acceptHome hQ J _ ws)
            fun _ => ?_) fun _ => moves_pure ()
        exact moves_bind moves_get fun _ => moves_ite (fun _ => moves_throw _) fun _ =>
          logs_home hQ ⟨rfl, rfl⟩

theorem logs_authAckHome (reason : Option String) (ws : SocketId) :
    Moves (Logs Q) (sendAuthAck J reason ws) :=
  moves_attempt (logs_sendHome hQ _ _ _) fun _ => moves_pure ()

theorem logs_authFrameHome (ws : SocketId) (message : Bytes) :
    Moves (Logs Q) (authFrameHandler J isAlphanumeric ws message) := by
  have hrefuse : ∀ reason, Moves (Logs Q) (refuseAuthFrame J reason ws) := fun _ =>
    moves_bind (logs_authAckHome hQ J _ ws) fun _ => moves_bind (logs_silent fun _ => rfl) fun _ =>
      logs_closeHome hQ ws
  refine moves_bind (logs_silent fun _ => rfl) fun _ => moves_bind moves_get fun _ =>
    moves_ite (fun _ => moves_pure ()) fun _ => ?_
  split
  · exact hrefuse _
  · refine moves_ite (fun _ => ?_) fun _ => hrefuse _
    refine moves_bind (logs_silent fun _ => rfl) fun _ => moves_bind moves_get fun _ =>
      moves_bind ?_ fun completed => moves_ite (fun _ => ?_) fun _ => moves_pure ()
    · exact moves_attempt (moves_bind (logs_completeHome hQ J isAlphanumeric _ ws) fun _ =>
        moves_pure true) fun _ => moves_bind (logs_authAckHome hQ J _ ws) fun _ =>
          moves_bind (logs_closeHome hQ ws) fun _ => moves_pure false
    · exact moves_bind moves_get fun _ => moves_ite (fun _ => logs_authAckHome hQ J _ ws) fun _ =>
        moves_bind (logs_authAckHome hQ J _ ws) fun _ => logs_closeHome hQ ws

theorem logs_connectHome (url remote : String) :
    Moves (Logs Q) (handle J isAlphanumeric (.connect url remote)) := by
  refine moves_bind (moves_bind moves_get fun _ => moves_bind (logs_silent fun _ => rfl) fun _ =>
    moves_pure _) fun ws => moves_bind moves_get fun _ => moves_bind (moves_ofExcept _) fun _ =>
      moves_bind moves_get fun _ => moves_ite (fun _ => logs_closeHome hQ ws) fun _ =>
        moves_bind (logs_silent fun _ => rfl) fun _ => moves_ite (fun _ => ?_) fun _ => ?_
  · exact logs_completeHome hQ J isAlphanumeric _ ws
  · exact logs_silent fun _ => rfl

theorem logs_closeEventHome (ws : SocketId) : Moves (Logs Q) (closeEvent ws) := by
  have hudp : ∀ name, Moves (Logs Q) (closeUDPSocket name) :=
    moves_closeUDPSocket fun _ => logs_silent fun _ => rfl
  refine moves_bind (logs_silent fun _ => rfl) fun _ => moves_bind moves_get fun _ =>
    moves_when fun _ => moves_bind moves_get fun s => moves_ite (fun _ => moves_pure ()) fun _ =>
      moves_bind (moves_delMemberFromAccountByName logs_rooms (logs_terminateHome hQ) _ _) fun _ =>
        moves_bind (moves_when fun _ => moves_bind (hudp _) fun _ => moves_pure ()) fun _ => ?_
  cases (s.sockets ws).loginRequest with
  | none => exact moves_pure ()
  | some login =>
    refine moves_bind ?_ fun _ => moves_bind (logs_home hQ ⟨rfl, rfl⟩) fun _ =>
      moves_bind moves_get fun _ => moves_when fun _ => logs_home hQ ⟨rfl, rfl⟩
    exact moves_ite (fun _ => moves_pure ()) fun _ => moves_bind (moves_ofExcept _) fun _ =>
      logs_silent fun _ => rfl

theorem logs_authTimeoutHome (ws : SocketId) : Moves (Logs Q) (authTimeout J ws) :=
  moves_bind (logs_silent fun _ => rfl) fun _ => moves_bind moves_get fun _ =>
    moves_ite (fun _ => moves_bind (logs_silent fun _ => rfl) fun _ =>
      moves_bind (logs_authAckHome hQ J _ ws) fun _ => logs_closeHome hQ ws) fun _ => moves_pure ()

theorem logs_authMessageHome (message : Bytes) (key : String) :
    Moves (Logs Q) (authServerMessagesHandler J message key) := by
  have hlogin : ∀ cmd, Moves (Logs Q) (handleLoginResponses cmd key) := fun cmd =>
    moves_bind (moves_ofExcept _) fun _ => moves_bind (logs_silent fun _ => rfl) fun _ =>
      moves_modify fun s => logs_emit (hQ _ ⟨rfl, rfl⟩) s
  refine moves_attempt ?_ fun _ => moves_pure ()
  split
  · exact moves_pure ()
  · exact moves_pure ()
  · refine moves_bind (moves_ofExcept _) fun _ => moves_ite (fun _ => ?_) fun _ => moves_pure ()
    refine moves_ite (fun _ => ?_) fun _ => moves_ite (fun _ => logs_home hQ ⟨rfl, rfl⟩) fun _ =>
      moves_pure ()
    exact moves_bind (moves_ofExcept _) fun _ => moves_ite (fun _ => moves_bind (moves_ofExcept _)
      fun _ => moves_ite (fun _ => moves_pure ()) fun _ => hlogin _) fun _ => moves_pure ()

end

end

/-! ### Frames -/

section

variable {J : JsonCodec} {s : Server} {ws : SocketId} {message : Bytes} {isBinary : Bool}

/-- What a client's frame is forwarded as. -/
def ForwardedAs (J : JsonCodec) (s : Server) (ws : SocketId) (message : Bytes) (isBinary : Bool)
    (frame : Bytes) : Prop :=
  ∃ login fs, (s.sockets ws).loginRequest = some login ∧
    J.parse (if isBinary then header message else message) = some (.obj fs) ∧
    frame = s.forwardedFrame J ws ((Json.obj fs).setField "p" login.prm) message isBinary

theorem not_delivery_of_unrelayed {s s' : Server} {l : List Effect} (hl : s'.log = s.log ++ l)
    (h : Logs (fun e => e.isDelivery = false) s s') : l.countP Effect.isDelivery = 0 := by
  obtain ⟨l', hl', hQ⟩ := h
  rw [hl] at hl'
  obtain rfl := List.append_cancel_left hl'
  exact List.countP_eq_zero.mpr fun e he => by rw [hQ e he]; simp

/-- No delivery begins with a client's frame. -/
theorem undelivered_parseMessage (ws : SocketId) (message : Bytes) (isBinary : Bool) :
    Moves (Logs fun e => e.isDelivery = false) (parseMessage J ws message isBinary) := by
  have hQ : ∀ e : Effect, e.AtHome → e.isDelivery = false := fun _ he => he.delivery
  refine moves_parseMessage J (logs_sendHome hQ) (fun _ => logs_home hQ ⟨rfl, rfl⟩)
    (moves_delMemberFromGroup logs_rooms (logs_terminateHome hQ) ws) (moves_udpProxyCommand
      (fun _ => logs_silent fun _ => rfl) J (logs_sendHome hQ))
    (moves_handleOrphanSocket logs_rooms (logs_terminateHome hQ)) (fun m b => ?_) _ _
  exact moves_bind moves_get fun _ => moves_ite (fun _ => moves_pure ()) fun _ =>
    moves_bind (moves_when fun _ => moves_modify (logs_emit rfl)) fun _ =>
      moves_when fun _ => moves_modify (logs_emit rfl)

/-- A client's frame stays here, or is forwarded once. -/
theorem puts_parseMessage (hs : s.Consistent) (hp : s.ProperIds J) (ws : SocketId)
    (message : Bytes) (isBinary : Bool) :
    HomeOnly s ((parseMessage J ws message isBinary).final s) ∨
    ∃ frame, s.ForwardedAs J ws message isBinary frame ∧
      Puts 0 (s.downs frame isBinary none) (s.ups frame isBinary) s
        ((parseMessage J ws message isBinary).final s) := by
  have hnone := undelivered_parseMessage (J := J) ws message isBinary s
  have hunrelayed : ∀ {l : List Effect}, (∀ e ∈ l, e.relayed? = none) →
      l.filterMap Effect.toChildren? = [] ∧ l.filterMap Effect.toParent? = [] := fun hl =>
    ⟨List.filterMap_eq_nil_iff.mpr fun e he => Effect.toChildren?_of_unrelayed (hl e he),
      List.filterMap_eq_nil_iff.mpr fun e he => Effect.toParent?_of_unrelayed (hl e he)⟩
  rcases parseMessage_relays hs hp ws message isBinary with
    ⟨l, hl, hQ⟩ | ⟨login, jmsg, message', s₁, hinj, ⟨gs, hobj⟩, hlocal, hshrinks, hkept, hfin⟩
  · obtain ⟨hc, hp'⟩ := hunrelayed hQ
    exact Or.inl ⟨l, hl, not_delivery_of_unrelayed hl hnone, hc, hp'⟩
  · obtain ⟨hl, hj, hisobj, rfl⟩ := injectPermission_eq hp hinj
    obtain ⟨-, -, v, hv, -, hset⟩ := injectPermission_some hinj
    have hfields : ∃ fs, v = .obj fs := by
      cases v with
      | obj fs => exact ⟨fs, rfl⟩
      | null | bool | num | str | arr =>
        rw [hset] at hobj
        exact absurd hobj (by simp [Json.setField])
    obtain ⟨fs, rfl⟩ := hfields
    refine Or.inr ⟨s.forwardedFrame J ws jmsg message isBinary, ⟨login, fs, hl, hv, by rw [hset]⟩, ?_⟩
    have heffects := forwardMessage_effects (((hshrinks.sockets ws).loginRequest).trans hl) hj hisobj
      message isBinary
    rw [hshrinks.forwardedFrame hkept] at heffects
    have hafter := puts_forward none heffects (Or.inl rfl)
    rw [downs, ups, hshrinks.config] at hafter
    obtain ⟨l₁, hl₁, hQ⟩ := hlocal
    obtain ⟨hc, hp'⟩ := hunrelayed hQ
    have hbefore : l₁.countP Effect.isDelivery = 0 := by
      obtain ⟨l₂, hl₂, -⟩ := hafter
      obtain ⟨l, hl, hQ'⟩ := hnone
      rw [hfin, hl₂, hl₁, List.append_assoc] at hl
      obtain rfl := List.append_cancel_left hl
      exact List.countP_eq_zero.mpr fun e he => by
        rw [hQ' e (List.mem_append_left _ he)]
        simp
    rw [hfin]
    exact HomeOnly.then ⟨l₁, hl₁, hbefore, hc, hp'⟩ hafter

section

variable {isAlphanumeric : String → Bool}

/-- The handler of the chat, then the handler of a client that has not logged in. -/
theorem messageEvent_parts : (handle J isAlphanumeric (.message ws message isBinary)).final s =
    (Action.when (s.sockets ws).authFrameHandler
      (authFrameHandler J isAlphanumeric ws message)).final
        ((Action.when (s.sockets ws).listening (parseMessage J ws message isBinary)).final s) := by
  change (messageEvent J isAlphanumeric ws message isBinary).final s = _
  rw [messageEvent, final_get_bind]
  refine final_bind_of_ok (run_of_not_escapes (not_escapes_when fun _ => ?_))
  exact not_escapes_parseMessage J ws message isBinary s

theorem homeOnly_authFrame (c : Bool) (s : Server) : HomeOnly s
    ((Action.when c (authFrameHandler J isAlphanumeric ws message)).final s) := by
  have hhome : Moves (Logs Effect.AtHome) (authFrameHandler J isAlphanumeric ws message) :=
    logs_authFrameHome (fun _ => id) J isAlphanumeric ws message
  exact homeOnly_of_logs (moves_when (fun _ => hhome) s)

/-- A frame of a client that the chat listens to. -/
theorem puts_messageEvent {n : ℕ} {down : List (Bytes × Bool × Option LinkId)}
    {up : List (Bytes × Bool)} (hlistening : (s.sockets ws).listening = true)
    (h : Puts n down up s ((parseMessage J ws message isBinary).final s)) :
    Puts n down up s ((handle J isAlphanumeric (.message ws message isBinary)).final s) := by
  rw [messageEvent_parts, hlistening]
  exact h.thenHome (homeOnly_authFrame _ _)

theorem puts_messageEvent_deaf (hlistening : (s.sockets ws).listening = false) :
    HomeOnly s ((handle J isAlphanumeric (.message ws message isBinary)).final s) := by
  rw [messageEvent_parts, hlistening]
  exact homeOnly_authFrame _ _

end

/-- Of the events of a server's own, only a client's frame is forwarded. -/
theorem puts_event {isAlphanumeric : String → Bool} (hs : s.Consistent) (hp : s.ProperIds J)
    {e : Event} (he : ∀ m b source, e ≠ .external m b source) :
    HomeOnly s ((handle J isAlphanumeric e).final s) ∨
    ∃ ws message isBinary frame, e = .message ws message isBinary ∧
      s.ForwardedAs J ws message isBinary frame ∧
      Puts 0 (s.downs frame isBinary none) (s.ups frame isBinary) s
        ((handle J isAlphanumeric e).final s) := by
  have hhome : ∀ {m : Action Server Unit}, Moves (Logs Effect.AtHome) m → HomeOnly s (m.final s) :=
    fun hm => homeOnly_of_logs (hm s)
  have hQ : ∀ e : Effect, e.AtHome → e.AtHome := fun _ => id
  cases e with
  | message ws message isBinary =>
    cases hlistening : (s.sockets ws).listening with
    | false => exact Or.inl (puts_messageEvent_deaf hlistening)
    | true =>
      rcases puts_parseMessage hs hp ws message isBinary with h | ⟨frame, hframe, h⟩
      · exact Or.inl (puts_messageEvent hlistening h)
      · exact Or.inr ⟨ws, message, isBinary, frame, rfl, hframe, puts_messageEvent hlistening h⟩
  | external m b source => exact absurd rfl (he m b source)
  | authMessage message key => exact Or.inl (hhome (logs_authMessageHome hQ J message key))
  | keyTimeout key => exact Or.inl (hhome (logs_deleteLogin key))
  | connect url remote => exact Or.inl (hhome (logs_connectHome hQ J isAlphanumeric url remote))
  | authTimeout ws => exact Or.inl (hhome (logs_authTimeoutHome hQ J ws))
  | close ws => exact Or.inl (hhome (logs_closeEventHome hQ ws))
  | faults f => exact Or.inl (hhome (logs_silent fun _ => rfl))
  | udpProgress name entry => exact Or.inl (hhome (logs_silent fun _ => rfl))
  | storage connected state => exact Or.inl (hhome (logs_silent fun _ => rfl))

/-! ### Broadcasts of another server -/

/-- The delivery of a relayed broadcast begins once, and stays here. -/
theorem puts_deliver (message : Bytes) (isBinary : Bool) (senderID : Val) (jmsg : Json)
    (actorType : Option String) (s : Server) :
    Puts 1 [] [] s
      ((deliverExternalBroadcast message isBinary senderID jmsg actorType).final s) := by
  have hQ : ∀ e : Effect, e.AtHome → e.AtHome := fun _ => id
  have hdead := moves_handleOrphanSocket logs_rooms (logs_terminateHome hQ)
  have hsend : ∀ v, Moves (Logs Effect.AtHome) (send v message isBinary) := fun v =>
    logs_sendHome hQ v _ _
  have hfallback : Moves (Logs Effect.AtHome)
      (fallbackDelivery actorType message isBinary senderID) :=
    moves_ite (fun _ => moves_broadcastEverywhere hsend hdead _ _) fun _ =>
      moves_ite (fun _ => moves_broadcastEverywhere hsend hdead _ _) fun _ =>
        moves_broadcastEverywhere hsend hdead _ _
  have hstart : Puts 1 [] [] s (s.emit (.deliverBroadcast message)) :=
    ⟨[.deliverBroadcast message], rfl, rfl, rfl, rfl⟩
  rw [deliverExternalBroadcast, final_modify_bind]
  refine hstart.thenHome (homeOnly_of_logs ?_)
  refine moves_ite (R := Logs Effect.AtHome) (fun _ => ?_) (fun _ => hfallback) _
  exact moves_bind (moves_sendToAccountGroup hsend hdead _ _ _ _) fun _ =>
    moves_ite (fun _ => moves_pure ()) fun _ => hfallback

theorem onlyShrinks_deliver (message : Bytes) (isBinary : Bool) (senderID : Val) (jmsg : Json)
    (actorType : Option String) :
    OnlyShrinks (deliverExternalBroadcast message isBinary senderID jmsg actorType) :=
  moves_deliverExternalBroadcast (fun v => onlyShrinks_send v _ _) onlyShrinks_handleOrphanSocket
    (onlyShrinks_emit _) _ _ _

/-- The copy that is passed on. -/
def passedOn (J : JsonCodec) (s : Server) (message : Bytes) (isBinary : Bool) : Bytes :=
  rewriteMessage J (appendPath s.serverOriginID) message isBinary

/-- A broadcast is delivered, and passed on unless the delivery throws. -/
theorem puts_broadcast (message : Bytes) (isBinary : Bool) (source : Option LinkId)
    (actorType : Option String) (jmsg : Json) (s : Server) :
    (let s' := (dispatchExternal J (.broadcast actorType) jmsg message isBinary source).final s
    (deliverExternalBroadcast message isBinary (jmsg.field Const.wsSenderID) jmsg
        actorType).Escapes s ∧ Puts 1 [] [] s s' ∨
      Puts 1 (s.downs (s.passedOn J message isBinary) isBinary source)
        (s.ups (s.passedOn J message isBinary) isBinary) s s') := by
  dsimp only [dispatchExternal]
  have hput := puts_deliver message isBinary
    (jmsg.field Const.wsSenderID) jmsg actorType s
  have hshrinks := onlyShrinks_deliver message isBinary
    (jmsg.field Const.wsSenderID) jmsg actorType s
  generalize hm : deliverExternalBroadcast message isBinary (jmsg.field Const.wsSenderID) jmsg
    actorType = m at hput hshrinks
  by_cases hesc : m.Escapes s
  · obtain ⟨e, he⟩ := hesc
    refine Or.inl ⟨⟨e, he⟩, ?_⟩
    have hrun : m s = (.error e, m.final s) := Prod.ext he rfl
    rw [final, run_bind_of_error hrun]
    exact hput
  · refine Or.inr ?_
    rw [final_bind_of_ok (run_of_not_escapes hesc), forwardExternalMessage, final_get_bind]
    have hafter := puts_forward (s := m.final s) (m := s.passedOn J message isBinary) source
      (forwardTwice_log (m.final s).config.enable_persistant_relay
        (m.final s).config.enable_super_server (.toParent (s.passedOn J message isBinary) isBinary)
        (.toChildren (s.passedOn J message isBinary) isBinary source) (m.final s)) (Or.inr rfl)
    rw [downs, ups, hshrinks.config] at hafter
    have hboth := hput.trans hafter
    rw [hshrinks.serverOriginID, hshrinks.config]
    exact hboth

/-- A frame that has been here, or whose route cannot be read, is dropped. -/
theorem parseExternalMessage_dropped {source : Option LinkId} {jmsg : Json}
    (hparse : J.parse (if isBinary then header message else message) = some jmsg)
    (h : alreadyRelayed s.serverOriginID jmsg = true ∨ ∃ e, externalRoute jmsg = .error e) :
    (parseExternalMessage J message isBinary source).final s = s := by
  rw [parseExternalMessage, final_get_bind, hparse]
  have hgo : (if alreadyRelayed s.serverOriginID jmsg = true then pure () else
      if jmsg.field Const.routing = some (.str Const.routingIndividual) then
        attempt (do
          let route ← Action.ofExcept (externalRoute jmsg)
          dispatchExternal J route jmsg message isBinary source) fun _ => pure ()
      else do
        let route ← Action.ofExcept (externalRoute jmsg)
        dispatchExternal J route jmsg message isBinary source : Action Server Unit).final s = s := by
    split
    · rfl
    · next hnew =>
      obtain ⟨e, he⟩ := h.resolve_left hnew
      rw [he]
      split
      · rfl
      · rfl
  cases jmsg with
  | null => rfl
  | bool | num | str | arr | obj => exact hgo

/-- A frame of another server does nothing on the relay, or it is a broadcast that has not been here:
    that is delivered, and passed on unless the delivery throws. -/
theorem puts_parseExternalMessage (message : Bytes) (isBinary : Bool) (source : Option LinkId)
    (s : Server) :
    (let s' := (parseExternalMessage J message isBinary source).final s
    HomeOnly s s' ∨ ∃ jmsg actorType,
      J.parse (if isBinary then header message else message) = some jmsg ∧ jmsg ≠ .null ∧
      alreadyRelayed s.serverOriginID jmsg = false ∧
      externalRoute jmsg = .ok (.broadcast actorType) ∧
      (Puts 1 [] [] s s' ∨ Puts 1 (s.downs (s.passedOn J message isBinary) isBinary source)
        (s.ups (s.passedOn J message isBinary) isBinary) s s')) := by
  dsimp only
  have hQ : ∀ e : Effect, e.AtHome → e.AtHome := fun _ => id
  cases hparse : J.parse (if isBinary then header message else message) with
  | none =>
    refine Or.inl ?_
    rw [parseExternalMessage, final_get_bind, hparse]
    exact homeOnly_refl s
  | some jmsg =>
    by_cases hnull : jmsg = .null
    · subst hnull
      refine Or.inl ?_
      rw [parseExternalMessage, final_get_bind, hparse]
      exact homeOnly_refl s
    by_cases hseen : alreadyRelayed s.serverOriginID jmsg = true
    · refine Or.inl ?_
      rw [parseExternalMessage_dropped hparse (Or.inl hseen)]
      exact homeOnly_refl s
    rw [Bool.not_eq_true] at hseen
    cases hroute : externalRoute jmsg with
    | error e =>
      refine Or.inl ?_
      rw [parseExternalMessage_dropped hparse (Or.inr ⟨e, hroute⟩)]
      exact homeOnly_refl s
    | ok route =>
      rw [parseExternalMessage_final J hparse hnull hseen hroute]
      cases route with
      | broadcast actorType =>
        refine Or.inr ⟨jmsg, actorType, rfl, hnull, hseen, hroute, ?_⟩
        rcases puts_broadcast message isBinary source actorType jmsg s with ⟨-, h⟩ | h
        · exact Or.inl h
        · exact Or.inr h
      | individual target =>
        exact Or.inl (homeOnly_of_logs (moves_sendTIndividualId
          (fun v => logs_sendHome hQ v _ _) _ _ _ s))
      | system => exact Or.inl (homeOnly_refl s)
      | nowhere => exact Or.inl (homeOnly_refl s)

end

end Server

end DroneEngage
