import DroneEngage.Runs

/-! What the handling of a message is made of.

    A frame of a client or of another server leads to sends, to the removal of sockets whose send
    threw, to relayed copies and to commands. Whatever preorder these move the state along, the whole
    handler does (`moves_parseMessage`, `moves_parseExternalMessage`). -/

namespace DroneEngage
open Js

namespace Server

open Action

variable {R : Server → Server → Prop} [IsPreorder Server R]

/-! ### Leaving and entering rooms -/

section

-- the rooms, their counters and the sockets' links to them are nothing to the preorder
variable (hrooms : ∀ s sockets accounts accountHeap groupHeap nextAccount nextGroup,
  R s { s with sockets, accounts, accountHeap, groupHeap, nextAccount, nextGroup })

include hrooms

theorem moves_addMember (g : GroupId) (unitname : Val) (ws : SocketId) :
    Moves R (addMember g unitname ws) :=
  moves_bind moves_get fun _ => moves_bind (moves_ofExcept _) fun _ =>
    moves_ite (fun _ => moves_pure _) fun _ => moves_bind (moves_ofExcept _) fun _ =>
      moves_bind (moves_modify fun s => hrooms s _ _ _ _ _ _) fun _ =>
        moves_bind (moves_modify fun s => hrooms s _ _ _ _ _ _) fun _ => moves_pure _

theorem moves_addMemberToGroup (a : AccountId) (unitname groupname : Val) (ws : SocketId) :
    Moves R (addMemberToGroup a unitname groupname ws) := by
  have hnew : Moves R (newGroup a groupname) := moves_bind moves_get fun _ =>
    moves_bind (moves_modify fun s => hrooms s _ _ _ _ _ _) fun _ => moves_pure _
  refine moves_bind moves_get fun s => moves_bind (moves_ofExcept _) fun own =>
    moves_bind (moves_ofExcept _) fun k => ?_
  split
  · exact moves_addMember hrooms _ _ ws
  · exact moves_bind hnew fun _ => moves_bind (moves_modify fun s => hrooms s _ _ _ _ _ _) fun _ =>
      moves_addMember hrooms _ _ ws

theorem moves_addMemberToAccountGroup (ws : SocketId) : Moves R (addMemberToAccountGroup ws) := by
  have hnew : ∀ id, Moves R (newAccount id) := fun _ => moves_bind moves_get fun _ =>
    moves_bind (moves_modify fun s => hrooms s _ _ _ _ _ _) fun _ => moves_pure _
  refine moves_bind moves_get fun s => ?_
  cases (s.sockets ws).loginRequest with
  | none => exact moves_throw _
  | some login =>
    refine moves_bind (moves_ofExcept _) fun own => moves_bind (moves_ofExcept _) fun k => ?_
    split
    · exact moves_addMemberToGroup hrooms _ _ _ ws
    · exact moves_bind (hnew _) fun _ => moves_bind
        (moves_modify fun s => hrooms s _ _ _ _ _ _) fun _ => moves_addMemberToGroup hrooms _ _ _ ws

variable (hterm : ∀ ws, Moves R (terminateSocket ws))

include hterm

theorem moves_deleteMemberByName (g : GroupId) (unitname : Val) (terminate : Bool) :
    Moves R (deleteMemberByName g unitname terminate) := by
  have hdrop : Moves R (dropIfEmpty g) := moves_bind moves_get fun _ =>
    moves_ite (fun _ => moves_bind (moves_ofExcept _) fun _ =>
      moves_modify fun s => hrooms s _ _ _ _ _ _) fun _ => moves_pure ()
  refine moves_attempt (moves_bind moves_get fun s => moves_bind (moves_ofExcept _) fun found => ?_)
    fun _ => moves_pure ()
  cases found with
  | none => exact moves_pure ()
  | some m =>
    exact moves_bind (moves_modify fun s => hrooms s _ _ _ _ _ _) fun _ =>
      moves_bind hdrop fun _ => moves_ite (fun _ => moves_bind
        (moves_modify fun s => hrooms s _ _ _ _ _ _) fun _ => hterm _) fun _ => moves_pure ()

theorem moves_handleOrphanSocket (ws : SocketId) : Moves R (handleOrphanSocket ws) := by
  refine moves_attempt (moves_bind moves_get fun s => ?_) fun _ => moves_pure ()
  cases (s.sockets ws).group with
  | none => exact moves_throw _
  | some g =>
    exact moves_bind (moves_deleteMemberByName hrooms hterm g _ false) fun _ =>
      moves_bind (moves_modify fun s => hrooms s _ _ _ _ _ _) fun _ => hterm ws

theorem moves_delMemberFromGroup (ws : SocketId) : Moves R (delMemberFromGroup ws) := by
  refine moves_bind moves_get fun s => ?_
  cases (s.sockets ws).group with
  | none => exact moves_pure ()
  | some g =>
    exact moves_ite (fun _ => moves_modify fun s => hrooms s _ _ _ _ _ _) fun _ =>
      moves_deleteMemberByName hrooms hterm g _ false

theorem moves_delMemberFromAccountByName (login : Option LoginRequest) (terminate : Bool) :
    Moves R (delMemberFromAccountByName login terminate) := by
  cases login with
  | none => exact moves_pure ()
  | some login =>
    refine moves_ite (fun _ => moves_pure ()) fun _ => moves_bind moves_get fun s =>
      moves_bind (moves_ofExcept _) fun slot => ?_
    cases slot with
    | absent => exact moves_pure ()
    | inherited => exact moves_throw _
    | own a =>
      exact moves_bind moves_get fun _ => moves_bind
        (moves_forEach _ fun g _ => moves_deleteMemberByName hrooms hterm g _ _) fun _ =>
          moves_bind moves_get fun _ => moves_ite (fun _ => moves_bind (moves_ofExcept _) fun _ =>
            moves_modify fun s => hrooms s _ _ _ _ _ _) fun _ => moves_pure ()

end

/-! ### Local delivery -/

section

variable {message : Bytes} {isBinary : Bool} (hsend : ∀ ws, Moves R (send ws message isBinary))
  (hdead : ∀ ws, Moves R (handleOrphanSocket ws))

include hsend

theorem moves_sendToIndividual (g : GroupId) (target : Val) {onNotFound : Action Server Unit}
    (h : Moves R onNotFound) : Moves R (sendToIndividual g message isBinary target onNotFound) := by
  refine moves_attempt (moves_bind moves_get fun s => moves_bind (moves_ofExcept _) fun slot => ?_)
    fun _ => moves_throw _
  cases slot with
  | own ws => exact hsend ws
  | inherited => exact moves_throw _
  | absent => exact h

theorem moves_sendMessageToTarget (target : Val) (ws : SocketId) {onNotFound : Action Server Unit}
    (h : Moves R onNotFound) :
    Moves R (sendMessageToTarget message isBinary target ws onNotFound) := by
  refine moves_attempt (moves_bind moves_get fun s => ?_) fun _ => moves_pure ()
  cases (s.sockets ws).group with
  | none => exact moves_pure ()
  | some g => exact moves_sendToIndividual hsend g target h

theorem moves_sendTIndividualId (targetId senderId groupID : Val) :
    Moves R (sendTIndividualId message isBinary targetId senderId groupID) := by
  refine moves_bind (moves_bind moves_get fun s => moves_ofExcept _) fun slot => ?_
  cases slot with
  | absent => exact moves_pure ()
  | inherited => exact moves_pure ()
  | own ws =>
    refine moves_bind moves_get fun s => moves_ite (fun _ => ?_) fun _ => moves_pure ()
    refine moves_bind (moves_bind moves_get fun s => moves_ofExcept _) fun sender =>
      moves_ite (fun _ => hsend ws) fun _ => moves_ite (fun _ => ?_) fun _ => moves_pure ()
    cases (s.sockets ws).group with
    | none => exact moves_pure ()
    | some g => exact moves_ite (fun _ => hsend ws) fun _ => moves_pure ()

include hdead

theorem moves_broadcastTo (senderID : SenderRef) (actorType : Option String) (ws : SocketId) :
    Moves R (broadcastTo message isBinary senderID actorType ws) := by
  refine moves_attempt (moves_bind moves_get fun s => ?_) fun _ => hdead ws
  cases (s.sockets ws).loginRequest with
  | none => exact moves_throw _
  | some login => exact moves_ite (fun _ => hsend ws) fun _ => moves_pure ()

theorem moves_broadcast (g : GroupId) (senderID : SenderRef) (actorType : Option String) :
    Moves R (broadcast g message isBinary senderID actorType) :=
  moves_bind moves_get fun s => moves_forEach _ fun k _ => moves_bind moves_get fun s' => by
    cases (s'.groupHeap g).units.own? k with
    | none => exact moves_pure ()
    | some ws => exact moves_broadcastTo hsend hdead senderID actorType ws

theorem moves_broadcastInAccount (a : AccountId) (senderID : SenderRef)
    (actorType : Option String) :
    Moves R (broadcastInAccount a message isBinary senderID actorType) :=
  moves_bind moves_get fun s => moves_forEach _ fun k _ => moves_bind moves_get fun s' => by
    cases (s'.accountHeap a).groups.own? k with
    | none => exact moves_pure ()
    | some g => exact moves_broadcast hsend hdead g senderID actorType

theorem moves_broadcastEverywhere (senderID : SenderRef) (actorType : Option String) :
    Moves R (broadcastEverywhere message isBinary senderID actorType) :=
  moves_bind moves_get fun s => moves_forEach _ fun k _ => moves_bind moves_get fun s' => by
    cases s'.accounts.own? k with
    | none => exact moves_pure ()
    | some a => exact moves_broadcastInAccount hsend hdead a senderID actorType

theorem moves_sendToAccountGroup (senderID : SenderRef) (accountId groupId : Val)
    (actorType : Option String) :
    Moves R (sendToAccountGroup message isBinary senderID accountId groupId actorType) := by
  refine moves_bind moves_get fun s => moves_bind (moves_ofExcept _) fun slot => ?_
  cases slot with
  | absent => exact moves_pure false
  | inherited => exact moves_throw _
  | own a =>
    refine moves_bind (moves_ofExcept _) fun slot => ?_
    cases slot with
    | absent => exact moves_pure false
    | inherited => exact moves_throw _
    | own g =>
      exact moves_bind (moves_broadcast hsend hdead g senderID actorType) fun _ => moves_pure true

theorem moves_sendMessageToMyGroup (actorType : Option String) (ws : SocketId) :
    Moves R (sendMessageToMyGroup actorType message isBinary ws) := by
  refine moves_attempt (moves_bind moves_get fun s => ?_) fun _ => moves_pure ()
  split
  · exact moves_pure ()
  · exact moves_throw _
  · exact moves_broadcast hsend hdead _ _ _

/-! ### Frames of another server -/

variable (hdeliver : Moves R (modify (emit (.deliverBroadcast message))))

include hdeliver

theorem moves_deliverExternalBroadcast (senderID : Val) (jmsg : Json) (actorType : Option String) :
    Moves R (deliverExternalBroadcast message isBinary senderID jmsg actorType) := by
  have hfallback : Moves R (fallbackDelivery actorType message isBinary senderID) :=
    moves_ite (fun _ => moves_broadcastEverywhere hsend hdead _ _) fun _ =>
      moves_ite (fun _ => moves_broadcastEverywhere hsend hdead _ _) fun _ =>
        moves_broadcastEverywhere hsend hdead _ _
  exact moves_bind hdeliver fun _ => moves_ite
    (fun _ => moves_bind (moves_sendToAccountGroup hsend hdead _ _ _ _) fun _ =>
      moves_ite (fun _ => moves_pure ()) fun _ => hfallback)
    fun _ => hfallback

variable (hparent : ∀ m, Moves R (modify (emit (.toParent m isBinary))))
  (hchildren : ∀ m source, Moves R (modify (emit (.toChildren m isBinary source))))

include hparent hchildren

theorem moves_dispatchExternal (J : JsonCodec) (route : Route) (jmsg : Json)
    (source : Option LinkId) :
    Moves R (dispatchExternal J route jmsg message isBinary source) := by
  cases route with
  | broadcast actorType =>
    exact moves_bind (moves_deliverExternalBroadcast hsend hdead hdeliver _ _ _) fun _ =>
      moves_bind moves_get fun _ => moves_bind (moves_when fun _ => hparent _) fun _ =>
        moves_when fun _ => hchildren _ source
  | individual target => exact moves_sendTIndividualId hsend _ _ _
  | system => exact moves_pure ()
  | nowhere => exact moves_pure ()

/-- The handling of a frame of another server. -/
theorem moves_parseExternalMessage (J : JsonCodec) (source : Option LinkId) :
    Moves R (parseExternalMessage J message isBinary source) := by
  refine moves_bind moves_get fun s => ?_
  split
  · exact moves_pure ()
  · exact moves_pure ()
  · refine moves_ite (fun _ => moves_pure ()) fun _ => moves_ite (fun _ => ?_) fun _ => ?_
    · exact moves_attempt (moves_bind (moves_ofExcept _) fun _ =>
        moves_dispatchExternal hsend hdead hdeliver hparent hchildren J _ _ _) fun _ => moves_pure ()
    · exact moves_bind (moves_ofExcept _) fun _ =>
        moves_dispatchExternal hsend hdead hdeliver hparent hchildren J _ _ _

end

/-! ### UDP proxy requests -/

section

variable (J : JsonCodec) {ws : SocketId}
  (hsend : ∀ v message isBinary, Moves R (send v message isBinary))

include hsend

theorem moves_udpProxyCommand_at {s : Server}
    (hopen : ∀ socket1 socket2, Moves R (getUDPSocket (s.sockets ws).name socket1 socket2))
    (hclose : Moves R (closeUDPSocket (s.sockets ws).name)) (jmsg : Json) :
    R s ((udpProxyCommand J jmsg ws).final s) := by
  have hreply : ∀ jmsg ms, Moves R (replyUdpProxy J jmsg ms ws) := fun _ _ =>
    moves_bind moves_get fun _ => hsend _ _ _
  rw [udpProxyCommand, final_get_bind]
  cases (s.sockets ws).loginRequest with
  | none => exact refl_of R s
  | some login =>
    refine moves_ite (R := R) (fun _ => moves_pure ()) (fun _ => moves_bind (moves_ofExcept _)
      fun en => moves_ite (fun _ => ?_) fun _ => moves_ite (fun _ => ?_) fun _ => moves_pure ()) s
    · -- open
      refine moves_bind (moves_ofExcept _) fun ms => moves_bind (hopen _ _) fun report => ?_
      cases report with
      | none => exact moves_pure ()
      | some report => exact hreply _ _
    · -- close
      exact moves_bind hclose fun _ => hreply _ _

end

section

variable (hudp : ∀ f : Server → Table UdpEntry,
  Moves R (modify fun s => { s with activeUdpProxy := f s }))

include hudp

theorem moves_closeUDPSocket (name : Val) : Moves R (closeUDPSocket name) := by
  refine moves_bind moves_get fun s => moves_bind (moves_ofExcept _) fun own =>
    moves_bind (moves_ofExcept _) fun k => ?_
  split
  · exact moves_bind (hudp _) fun _ => moves_pure _
  · exact moves_pure _

theorem moves_getUDPSocket (name socket1 socket2 : Val) :
    Moves R (getUDPSocket name socket1 socket2) := by
  have hopen : ∀ port1 port2, Moves R (openUDPSocket name port1 port2) := fun _ _ =>
    moves_bind (moves_ofExcept _) fun _ => hudp _
  refine moves_bind (moves_ofExcept _) fun port1 => moves_bind (moves_ofExcept _) fun port2 =>
    moves_bind (moves_ofExcept _) fun _ => moves_bind (moves_ofExcept _) fun _ =>
    moves_bind moves_get fun s => moves_bind (moves_ofExcept _) fun own =>
    moves_bind (moves_ofExcept _) fun k => ?_
  split
  · refine moves_ite (fun _ => moves_ite (fun _ => moves_pure _) fun _ => moves_pure _) fun _ => ?_
    exact moves_bind (moves_closeUDPSocket hudp _) fun _ =>
      moves_bind (hopen _ _) fun _ => moves_pure _
  · exact moves_bind (hopen _ _) fun _ => moves_pure _

theorem moves_udpProxyCommand (J : JsonCodec) {ws : SocketId}
    (hsend : ∀ v message isBinary, Moves R (send v message isBinary)) (jmsg : Json) :
    Moves R (udpProxyCommand J jmsg ws) := fun _ =>
  moves_udpProxyCommand_at J hsend (moves_getUDPSocket hudp _) (moves_closeUDPSocket hudp _) jmsg

end

/-! ### Frames of a client -/

section

variable (J : JsonCodec) {ws : SocketId}
  (hsend : ∀ v message isBinary, Moves R (send v message isBinary))
  (hstorage : ∀ jmsg, Moves R (modify (emit (.storageCommand ws jmsg))))
  (hlogout : Moves R (delMemberFromGroup ws))
  (hproxy : ∀ jmsg, Moves R (udpProxyCommand J jmsg ws))

include hsend hstorage hlogout hproxy

theorem moves_onSystemMessage (jmsg : Json) : Moves R (onSystemMessage J jmsg ws) := by
  refine moves_attempt ?_ fun _ => moves_pure ()
  split
  · exact hproxy jmsg
  · exact moves_bind (moves_ofExcept _) fun _ => hsend _ _ _
  · exact moves_throw _
  · exact moves_bind hlogout fun _ => hsend _ _ _
  · exact moves_bind moves_get fun _ => moves_ite (fun _ => moves_pure ()) fun _ =>
      moves_bind (moves_ofExcept _) fun _ => hsend _ _ _
  · exact moves_ite (fun _ => hstorage jmsg) fun _ => moves_pure ()
  · exact moves_pure ()

variable (hdead : ∀ v, Moves R (handleOrphanSocket v))
  (hrelay : ∀ message isBinary, Moves R (forwardMessage J message isBinary ws))

include hdead hrelay

theorem moves_dispatch (route : Route) (jmsg : Json) (message : Bytes) (isBinary : Bool) :
    Moves R (dispatch J route jmsg message isBinary ws) := by
  cases route with
  | broadcast actorType =>
    exact moves_bind (moves_sendMessageToMyGroup (fun v => hsend v _ _) hdead _ _) fun _ =>
      hrelay _ _
  | individual target =>
    exact moves_sendMessageToTarget (fun v => hsend v _ _) _ _ (hrelay _ _)
  | system => exact moves_onSystemMessage J hsend hstorage hlogout hproxy jmsg
  | nowhere => exact moves_pure ()

/-- The handling of a client's frame, whatever it holds. -/
theorem moves_parseMessage (message : Bytes) (isBinary : Bool) :
    Moves R (parseMessage J ws message isBinary) := by
  refine moves_bind moves_get fun s => ?_
  split
  · exact moves_pure ()
  · exact moves_attempt (moves_bind (moves_ofExcept _) fun _ =>
      moves_dispatch J hsend hstorage hlogout hproxy hdead hrelay _ _ _ _) fun _ => moves_pure ()

end

section

variable (J : JsonCodec) {ws : SocketId} (hemit : ∀ e, Moves R (modify (emit e)))

include hemit

theorem moves_send (v : SocketId) (message : Bytes) (isBinary : Bool) :
    Moves R (send v message isBinary) :=
  moves_bind (hemit _) fun _ => moves_bind moves_get fun _ =>
    moves_ite (fun _ => moves_throw _) fun _ => moves_pure ()

theorem moves_forwardMessage (message : Bytes) (isBinary : Bool) :
    Moves R (forwardMessage J message isBinary ws) :=
  moves_bind moves_get fun _ => moves_ite (fun _ => moves_pure ()) fun _ =>
    moves_bind (moves_when fun _ => hemit _) fun _ => moves_when fun _ => hemit _

end

end Server

end DroneEngage
