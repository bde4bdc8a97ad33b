import DroneEngage.Handlers
import DroneEngage.Lts

/-! The operations on the rooms that events are made of.

    An event may do many things to the outside, but to the rooms, the active senders and the UDP
    proxies it does only a few: a socket is accepted, logs out, is removed because its send threw, or
    closes; a unit asks for a proxy. Everything else is quiet. The system of these operations
    (`RoomStep`) is coarser than the events and finer than their handlers, and every event is a path
    in it (`step_operations`). -/

namespace DroneEngage
open Js

/-- The socket is to the rooms what it was. -/
structure Socket.SameMember (w w' : Socket) : Prop where
  loginRequest : w'.loginRequest = w.loginRequest
  name : w'.name = w.name
  group : w'.group = w.group
  terminated : w'.terminated = w.terminated
  closed : w'.readyState = .closed ↔ w.readyState = .closed
  listening : w.listening = true → w'.listening = true
  authFrameHandler : w'.authFrameHandler = true →
    w.authFrameHandler = true ∨ w.loginRequest = none
  heard : (w.authFrameHandler = true → w.listening = true) →
    w'.authFrameHandler = true → w'.listening = true

theorem Socket.SameMember.refl (w : Socket) : w.SameMember w :=
  ⟨rfl, rfl, rfl, rfl, Iff.rfl, id, Or.inl, id⟩

/-- A socket that is nobody yet. -/
structure Socket.Blank (w : Socket) : Prop where
  loginRequest : w.loginRequest = none
  name : w.name = none
  group : w.group = none
  terminated : w.terminated = false
  authFrameHandler : w.authFrameHandler = false

/-- An operation on the rooms. -/
inductive RoomOp where
  | quiet
  /-- `_acceptConnection` -/
  | accept (login : LoginRequest) (ws : SocketId)
  /-- `fn_del_member_fromGroup` -/
  | logout (ws : SocketId)
  /-- `fn_handleOrphanSocket` -/
  | removeDead (ws : SocketId)
  /-- a UDP proxy request of a client -/
  | proxy (ws : SocketId)
  /-- what the proxy module does to an entry by itself -/
  | progress (name : String)
  /-- the close event -/
  | close (ws : SocketId)

namespace Server

/-- Nothing happens to the rooms, the active senders and the proxies. -/
structure Quiet (s s' : Server) : Prop where
  config : s'.config = s.config
  proto : s'.proto = s.proto
  accounts : s'.accounts = s.accounts
  accountHeap : s'.accountHeap = s.accountHeap
  nextAccount : s'.nextAccount = s.nextAccount
  groupHeap : s'.groupHeap = s.groupHeap
  nextGroup : s'.nextGroup = s.nextGroup
  activeSenderIDsList : s'.activeSenderIDsList = s.activeSenderIDsList
  activeUdpProxy : s'.activeUdpProxy = s.activeUdpProxy
  nextSocket : s.nextSocket ≤ s'.nextSocket
  sockets : ∀ ws, (s.sockets ws).SameMember (s'.sockets ws) ∨
    s.nextSocket ≤ ws ∧ (s'.sockets ws).Blank

/-- A socket that may be accepted. -/
structure Ready (s : Server) (ws : SocketId) : Prop where
  loginRequest : (s.sockets ws).loginRequest = none
  authFrameHandler : (s.sockets ws).authFrameHandler = false
  known : ws < s.nextSocket
  listening : (s.sockets ws).listening = true
  alive : (s.sockets ws).readyState ≠ .closed

/-- The effect of an operation. -/
inductive RoomStep (J : JsonCodec) : Server → RoomOp → Server → Prop
  | quiet {s s' : Server} : s.Quiet s' → RoomStep J s .quiet s'
  | accept {s : Server} {ws : SocketId} (login : LoginRequest) : s.Ready ws →
    RoomStep J s (.accept login ws) ((_acceptConnection J login ws).final s)
  | logout (s : Server) (ws : SocketId) :
    RoomStep J s (.logout ws) ((delMemberFromGroup ws).final s)
  | removeDead (s : Server) (ws : SocketId) :
    RoomStep J s (.removeDead ws) ((handleOrphanSocket ws).final s)
  | proxy (s : Server) (ws : SocketId) (jmsg : Json) :
    RoomStep J s (.proxy ws) ((udpProxyCommand J jmsg ws).final s)
  | progress {s : Server} {name : String} (entry : Option UdpEntry) :
    (s.activeUdpProxy.own? name).isSome → RoomStep J s (.progress name) { s with
      activeUdpProxy := match entry with
        | some e => s.activeUdpProxy.insert name e
        | none => s.activeUdpProxy.delete name }
  | close {s s' : Server} {ws : SocketId} : closeEvent ws s = (.ok (), s') →
    RoomStep J s (.close ws) s'

/-- The operations an event can lead to. -/
def Allows (s : Server) : Event → RoomOp → Prop
  | _, .quiet => True
  | .message ws .., .accept _ v | .message ws .., .logout v | .message ws .., .proxy v => v = ws
  | .message .., .removeDead _ | .external .., .removeDead _ => True
  | .connect .., .accept _ v => v = s.nextSocket
  | .close ws, .close v => v = ws
  | .udpProgress name _, .progress n => n = name
  | _, _ => False

/-! ### Quiet steps -/

open Action

theorem quiet_of_sockets {s : Server} {sockets : SocketId → Socket}
    (h : ∀ ws, (s.sockets ws).SameMember (sockets ws)) : s.Quiet { s with sockets } :=
  ⟨rfl, rfl, rfl, rfl, rfl, rfl, rfl, rfl, rfl, Nat.le_refl _, fun ws => Or.inl (h ws)⟩

theorem Quiet.refl (s : Server) : s.Quiet s := quiet_of_sockets fun _ => .refl _

theorem quiet_emit (e : Effect) (s : Server) : s.Quiet (s.emit e) := { Quiet.refl s with }

theorem quiet_setSocket {s : Server} {ws : SocketId} {f : Socket → Socket}
    (h : (s.sockets ws).SameMember (f (s.sockets ws))) : s.Quiet (setSocket ws f s) := by
  refine quiet_of_sockets fun v => ?_
  by_cases hv : v = ws
  · subst hv; rw [Function.update_self]; exact h
  · rw [Function.update_of_ne hv]; exact .refl _

theorem sameMember_closing (w : Socket) :
    w.SameMember (if w.readyState = .isOpen then { w with readyState := .closing } else w) := by
  split
  · next h => exact ⟨rfl, rfl, rfl, rfl, by simp [h], id, Or.inl, id⟩
  · exact .refl w

/-- A quiet step keeps the tables in agreement. -/
theorem Consistent.quiet {s s' : Server} (hs : s.Consistent) (h : s.Quiet s') : s'.Consistent := by
  have hroom : ∀ g login, s.RoomOf g login → s'.RoomOf g login := fun g login hr =>
    hr.of_eq (Nat.le_of_eq h.nextGroup.symm) (by rw [h.groupHeap])
      (by rw [accountOf, accountOf, h.groupHeap, h.accountHeap])
  have hold : ∀ ws login, (s.sockets ws).loginRequest = some login →
      (s.sockets ws).SameMember (s'.sockets ws) := by
    intro ws login hl
    rcases h.sockets ws with hsame | ⟨hle, -⟩
    · exact hsame
    · rw [hs.fresh ws hle] at hl; exact absurd hl (by simp)
  refine
    { account_lt := ?_, account_key := ?_, group_lt := ?_, group_key := ?_, group_parent := ?_
      parent_lt := ?_, room := fun ws g hg => ?_, member := fun g k ws hu => ?_
      home := fun g k ws hu => ?_, named := fun g k ws login hu hl => ?_, active := fun k ws ha => ?_
      name := fun ws => ?_, waiting := fun ws hw => ?_, fresh := fun ws hw => ?_ }
  · rw [h.accounts, h.nextAccount]; exact hs.account_lt
  · rw [h.accounts, h.accountHeap]; exact hs.account_key
  · rw [h.accountHeap, h.nextGroup]; exact hs.group_lt
  · rw [h.accountHeap, h.groupHeap]; exact hs.group_key
  · rw [h.accountHeap, h.groupHeap]; exact hs.group_parent
  · rw [h.groupHeap, h.nextGroup, h.nextAccount]; exact hs.parent_lt
  · rcases h.sockets ws with hsame | ⟨-, hblank⟩
    · rw [hsame.group] at hg
      obtain ⟨login, hl, hr⟩ := hs.room ws g hg
      exact ⟨login, hsame.loginRequest.trans hl, hroom g login hr⟩
    · rw [hblank.group] at hg; exact absurd hg (by simp)
  · rw [h.groupHeap] at hu
    obtain ⟨login, hl, hk, hr⟩ := hs.member g k ws hu
    exact ⟨login, (hold ws login hl).loginRequest.trans hl, hk, hroom g login hr⟩
  · rw [h.groupHeap] at hu
    obtain ⟨login, hl, -⟩ := hs.member g k ws hu
    rw [(hold ws login hl).group]
    exact hs.home g k ws hu
  · rw [h.groupHeap] at hu
    obtain ⟨l, hl', -⟩ := hs.member g k ws hu
    have hsame := hold ws l hl'
    rw [hsame.loginRequest] at hl
    rw [hsame.name, Frozen, h.proto, h.groupHeap]
    exact hs.named g k ws login hu hl
  · rw [h.activeSenderIDsList] at ha
    obtain ⟨login, hl, hk⟩ := hs.active k ws ha
    exact ⟨login, (hold ws login hl).loginRequest.trans hl, hk⟩
  · rcases h.sockets ws with hsame | ⟨-, hblank⟩
    · rw [hsame.name, hsame.loginRequest]; exact hs.name ws
    · exact Or.inl hblank.name
  · rcases h.sockets ws with hsame | ⟨-, hblank⟩
    · rw [hsame.loginRequest]
      exact (hsame.authFrameHandler hw).elim (hs.waiting ws) id
    · exact hblank.loginRequest
  · rcases h.sockets ws with hsame | ⟨-, hblank⟩
    · rw [hsame.loginRequest]; exact hs.fresh ws (Nat.le_trans h.nextSocket hw)
    · exact hblank.loginRequest

/-- An operation is quiet, accepts a socket, or takes things away. -/
theorem RoomStep.kinds {J : JsonCodec} {s s' : Server} {o : RoomOp} (h : RoomStep J s o s') :
    o = .quiet ∧ s.Quiet s' ∨
    (∃ login ws, o = .accept login ws ∧ s.Ready ws ∧ s' = (_acceptConnection J login ws).final s) ∨
    s.Shrinks s' := by
  cases h with
  | quiet h => exact Or.inl ⟨rfl, h⟩
  | accept login h => exact Or.inr (Or.inl ⟨login, _, rfl, h, rfl⟩)
  | logout ws => exact Or.inr (Or.inr (onlyShrinks_delMemberFromGroup ws s))
  | removeDead ws => exact Or.inr (Or.inr (onlyShrinks_handleOrphanSocket ws s))
  | proxy ws jmsg =>
    exact Or.inr (Or.inr (moves_udpProxyCommand (fun _ => moves_modify fun s => shrinks_udp _ s) J
      onlyShrinks_send jmsg s))
  | progress entry h => exact Or.inr (Or.inr (shrinks_udp _ s))
  | @close _ ws hrun =>
    have hshrinks := onlyShrinks_closeEvent ws s
    rw [final, hrun] at hshrinks
    exact Or.inr (Or.inr hshrinks)

/-- Every operation does. -/
theorem Consistent.roomStep {J : JsonCodec} {s s' : Server} {o : RoomOp} (hs : s.Consistent)
    (h : RoomStep J s o s') : s'.Consistent := by
  rcases h.kinds with ⟨-, h⟩ | ⟨login, ws, -, hw, rfl⟩ | h
  · exact hs.quiet h
  · exact hs.admitWrites (admits_acceptConnection J hw.loginRequest hw.authFrameHandler hw.known hs)
  · exact hs.shrinks h

/-! ### Handlers as paths -/

section

variable {J : JsonCodec} {C : Server → RoomOp → Prop} (hquiet : ∀ s, C s .quiet)

/-- The action takes only operations that meet the condition. -/
abbrev Takes {α : Type} (J : JsonCodec) (C : Server → RoomOp → Prop) (m : Action Server α) : Prop :=
  Moves (Lts.Path (RoomStep J) C) m

include hquiet

theorem path_of_quiet {s s' : Server} (h : s.Quiet s') : Lts.Path (RoomStep J) C s s' :=
  .single (hquiet s) (.quiet h)

theorem takes_emit (e : Effect) : Takes J C (modify (emit e)) :=
  moves_modify fun s => path_of_quiet hquiet (quiet_emit e s)

theorem takes_setSocket {ws : SocketId} {f : Socket → Socket} (h : ∀ w : Socket, w.SameMember (f w)) :
    Takes J C (modify (setSocket ws f)) :=
  moves_modify fun _ => path_of_quiet hquiet (quiet_setSocket (h _))

theorem takes_send (ws : SocketId) (message : Bytes) (isBinary : Bool) :
    Takes J C (send ws message isBinary) := moves_send (takes_emit hquiet) ws message isBinary

theorem takes_closeSocket (ws : SocketId) : Takes J C (closeSocket ws) :=
  moves_modify fun _ => (path_of_quiet hquiet (quiet_setSocket (sameMember_closing _))).trans
    (path_of_quiet hquiet (quiet_emit _ _))

theorem takes_sendAuthAck (reason : Option String) (ws : SocketId) :
    Takes J C (sendAuthAck J reason ws) :=
  moves_attempt (takes_send hquiet _ _ _) fun _ => moves_pure ()

theorem takes_updateAuthServer : Takes J C updateAuthServer :=
  moves_bind moves_get fun _ => moves_ite (fun _ => moves_throw _) fun _ => takes_emit hquiet _

theorem takes_withWaiting (f : Server → Table Json) :
    Takes J C (modify fun s => { s with waitingAccounts := f s }) :=
  moves_modify fun s => path_of_quiet hquiet
    (show s.Quiet { s with waitingAccounts := f s } from { Quiet.refl s with })

theorem takes_authServerMessagesHandler (message : Bytes) (key : String) :
    Takes J C (authServerMessagesHandler J message key) := by
  refine moves_attempt ?_ fun _ => moves_pure ()
  split
  · exact moves_pure ()
  · exact moves_pure ()
  · refine moves_bind (moves_ofExcept _) fun _ => moves_ite (fun _ => ?_) fun _ => moves_pure ()
    refine moves_ite (fun _ => ?_) fun _ =>
      moves_ite (fun _ => takes_emit hquiet _) fun _ => moves_pure ()
    -- a login request
    refine moves_bind (moves_ofExcept _) fun _ => moves_ite (fun _ => ?_) fun _ => moves_pure ()
    refine moves_bind (moves_ofExcept _) fun _ => moves_ite (fun _ => moves_pure ()) fun _ => ?_
    exact moves_bind (moves_ofExcept _) fun _ => moves_bind (takes_withWaiting hquiet _) fun _ =>
      moves_modify fun _ => path_of_quiet hquiet (quiet_emit _ _)

theorem takes_authTimeout (ws : SocketId) : Takes J C (authTimeout J ws) := by
  refine moves_bind (takes_setSocket hquiet fun w => { Socket.SameMember.refl w with }) fun _ =>
    moves_bind moves_get fun _ => moves_ite (fun _ => ?_) fun _ => moves_pure ()
  refine moves_bind (takes_setSocket hquiet fun w => ?_) fun _ =>
    moves_bind (takes_sendAuthAck hquiet _ ws) fun _ => takes_closeSocket hquiet ws
  exact { Socket.SameMember.refl w with
    authFrameHandler := fun h => Bool.noConfusion h, heard := fun _ h => Bool.noConfusion h }

variable (hdead : ∀ s v, C s (.removeDead v))

include hdead

omit hquiet in
theorem takes_handleOrphanSocket (ws : SocketId) : Takes J C (handleOrphanSocket ws) :=
  fun s => .single (hdead s ws) (.removeDead s ws)

theorem takes_parseExternalMessage (message : Bytes) (isBinary : Bool) (source : Option LinkId) :
    Takes J C (parseExternalMessage J message isBinary source) :=
  moves_parseExternalMessage (fun ws => takes_send hquiet ws _ _)
    (takes_handleOrphanSocket hdead) (takes_emit hquiet _) (fun _ => takes_emit hquiet _)
    (fun _ _ => takes_emit hquiet _) J source

theorem takes_parseMessage {ws : SocketId} (hlogout : ∀ s, C s (.logout ws))
    (hproxy : ∀ s, C s (.proxy ws)) (message : Bytes) (isBinary : Bool) :
    Takes J C (parseMessage J ws message isBinary) :=
  moves_parseMessage J (takes_send hquiet) (fun _ => takes_emit hquiet _)
    (fun s => .single (hlogout s) (.logout s ws))
    (fun jmsg s => .single (hproxy s) (.proxy s ws jmsg)) (takes_handleOrphanSocket hdead)
    (fun _ _ => moves_forwardMessage J (takes_emit hquiet) _ _) message isBinary

end

/-! ### Connections -/

/-- The socket stays ready on the way. -/
def Calm (J : JsonCodec) (C : Server → RoomOp → Prop) (w : SocketId) (s s' : Server) : Prop :=
  Lts.Path (RoomStep J) C s s' ∧ (s.Ready w → s'.Ready w)

instance (J : JsonCodec) (C : Server → RoomOp → Prop) (w : SocketId) :
    IsPreorder Server (Calm J C w) where
  refl := fun _ => ⟨.refl, id⟩
  trans := fun _ _ _ h h' => ⟨h.1.trans h'.1, h'.2 ∘ h.2⟩

section

variable {J : JsonCodec} {C : Server → RoomOp → Prop} {w : SocketId} (hquiet : ∀ s, C s .quiet)

include hquiet

theorem calm_closeSocket : Moves (Calm J C w) (closeSocket w) := by
  refine fun s => ⟨takes_closeSocket hquiet w s, fun h => ?_⟩
  have hset : ((closeSocket w).final s).sockets w =
      if (s.sockets w).readyState = .isOpen then { s.sockets w with readyState := .closing }
      else s.sockets w := by
    rw [closeSocket, final_modify, emit_sockets, setSocket_self]
  refine ⟨?_, ?_, h.known, ?_, ?_⟩
  · rw [hset]; split <;> exact h.loginRequest
  · rw [hset]; split <;> exact h.authFrameHandler
  · rw [hset]; split <;> exact h.listening
  · rw [hset]; split
    · simp
    · exact h.alive

theorem calm_deleteLogin (key : String) : Moves (Calm J C w) (deleteLogin key) := by
  intro s
  obtain ⟨t, ht⟩ := deleteLogin_eq key s
  rw [ht]
  exact ⟨path_of_quiet hquiet { Quiet.refl s with }, fun h => { h with }⟩

/-- A socket that has not logged in is turned away quietly. -/
theorem path_rejectSocket {s : Server} (hw : s.Ready w) :
    Lts.Path (RoomStep J) C s ((rejectSocket w).final s) := by
  have hquiets : s.Quiet (setSocket w (fun v => { v with loginRequest := none }) s) :=
    quiet_setSocket ⟨hw.loginRequest.symm, rfl, rfl, rfl, Iff.rfl, id, Or.inl, id⟩
  rw [rejectSocket, final_modify_bind]
  exact (path_of_quiet hquiet hquiets).trans (takes_closeSocket hquiet w _)

variable (haccept : ∀ s login, C s (.accept login w))

include haccept

theorem path_acceptConnection (key : String) (params : Table Json) {s : Server} (hw : s.Ready w) :
    Lts.Path (RoomStep J) C s ((acceptConnection J key params w).final s) := by
  rw [acceptConnection, final_attempt_pure, final_get_bind]
  split
  · exact path_rejectSocket hquiet hw
  · have hcalm : Calm J C w s ((deleteLogin key).final s) := calm_deleteLogin hquiet key s
    exact moves_bind_at hcalm.1 fun _ _ => moves_bind_at
      (.single (haccept _ _) (.accept _ (hcalm.2 hw))) fun _ _ => takes_updateAuthServer hquiet _

theorem path_completeConnection (isAlphanumeric : String → Bool) (params : Table Json) {s : Server}
    (hw : s.Ready w) :
    Lts.Path (RoomStep J) C s ((completeConnection J isAlphanumeric params w).final s) := by
  rw [completeConnection, final_get_bind]
  split
  · -- without AUTH
    have hkey : (validateKeyLocal params).final s = s := by
      unfold validateKeyLocal
      split
      · rfl
      · exact moves_bind (R := fun s s' => s' = s) (moves_ofExcept _) (fun _ => moves_pure _) s
    refine moves_bind_at (R := Lts.Path (RoomStep J) C) (by rw [hkey]; exact .refl) fun key? _ => ?_
    rw [hkey]
    cases key? with
    | some key => exact .single (haccept _ _) (.accept _ hw)
    | none => exact path_rejectSocket hquiet hw
  · have hcalm : Calm J C w s ((validateKey isAlphanumeric params w).final s) :=
      moves_validateKey isAlphanumeric (calm_closeSocket hquiet) params s
    refine moves_bind_at hcalm.1 fun key? _ => ?_
    cases key? with
    | some key => exact path_acceptConnection hquiet haccept key params (hcalm.2 hw)
    | none => exact path_rejectSocket hquiet (hcalm.2 hw)

theorem path_authenticateFrame (isAlphanumeric : String → Bool) (parsed : Json) {s : Server}
    (hw : s.Ready w) :
    Lts.Path (RoomStep J) C s ((authenticateFrame J isAlphanumeric parsed w).final s) := by
  have hsettled : s.Quiet (setSocket w (fun v => { v with authPending := false }) s) :=
    quiet_setSocket { Socket.SameMember.refl _ with }
  have hready : (setSocket w (fun v => { v with authPending := false }) s).Ready w := by
    refine ⟨?_, ?_, hw.known, ?_, ?_⟩
    · rw [setSocket_self]; exact hw.loginRequest
    · rw [setSocket_self]; exact hw.authFrameHandler
    · rw [setSocket_self]; exact hw.listening
    · rw [setSocket_self]; exact hw.alive
  have hack : ∀ reason, Takes J C (do
      sendAuthAck J (some reason) w
      closeSocket w) := fun _ =>
    moves_bind (takes_sendAuthAck hquiet _ w) fun _ => takes_closeSocket hquiet w
  rw [authenticateFrame, final_modify_bind, final_get_bind]
  refine (path_of_quiet hquiet hsettled).trans (moves_bind_at (moves_attempt_at ?_ fun _ => ?_)
    fun _ _ => ?_)
  · exact moves_bind_at (path_completeConnection hquiet haccept isAlphanumeric _ hready) fun _ _ =>
      moves_pure true _
  · exact moves_bind (takes_sendAuthAck hquiet _ w) fun _ =>
      moves_bind (takes_closeSocket hquiet w) fun _ => moves_pure false
  · exact moves_ite (R := Lts.Path (RoomStep J) C) (fun _ => moves_bind moves_get fun _ =>
      moves_ite (fun _ => takes_sendAuthAck hquiet _ w) fun _ => hack _) (fun _ => moves_pure ()) _

theorem path_authFrameHandler (isAlphanumeric : String → Bool) (message : Bytes) {s : Server}
    (hlogin : (s.sockets w).loginRequest = none) (hknown : w < s.nextSocket)
    (hlistening : (s.sockets w).listening = true) (halive : (s.sockets w).readyState ≠ .closed) :
    Lts.Path (RoomStep J) C s ((authFrameHandler J isAlphanumeric w message).final s) := by
  have hheard : s.Quiet (setSocket w (fun v =>
      { v with authFrameHandler := false, authTimer := false }) s) :=
    quiet_setSocket { Socket.SameMember.refl _ with
      authFrameHandler := fun h => Bool.noConfusion h, heard := fun _ h => Bool.noConfusion h }
  have hready : (setSocket w (fun v =>
      { v with authFrameHandler := false, authTimer := false }) s).Ready w := by
    refine ⟨?_, ?_, hknown, ?_, ?_⟩
    · rw [setSocket_self]; exact hlogin
    · rw [setSocket_self]
    · rw [setSocket_self]; exact hlistening
    · rw [setSocket_self]; exact halive
  have hbad : ∀ reason, Takes J C (refuseAuthFrame J reason w) := fun _ =>
    moves_bind (takes_sendAuthAck hquiet _ w) fun _ => moves_bind
      (takes_setSocket hquiet fun v => { Socket.SameMember.refl v with }) fun _ =>
        takes_closeSocket hquiet w
  rw [authFrameHandler, final_modify_bind, final_get_bind]
  refine (path_of_quiet hquiet hheard).trans ?_
  generalize setSocket w (fun v => { v with authFrameHandler := false, authTimer := false }) s = t
    at hready ⊢
  split
  · exact .refl
  · split
    · exact hbad _ t
    · split
      · exact path_authenticateFrame hquiet haccept isAlphanumeric _ hready
      · exact hbad _ t

end

/-! ### Events as paths -/

section

variable (J : JsonCodec) (isAlphanumeric : String → Bool)

theorem quiet_openSocket (remote : String) (s : Server) : s.Quiet ((openSocket remote).final s) := by
  refine ⟨rfl, rfl, rfl, rfl, rfl, rfl, rfl, rfl, rfl, Nat.le_succ _, fun ws => ?_⟩
  rw [openSocket_sockets]
  split
  · next h => exact Or.inr ⟨Nat.le_of_eq h.symm, rfl, rfl, rfl, rfl, rfl⟩
  · exact Or.inl (.refl _)

theorem path_connect {C : Server → RoomOp → Prop} (hquiet : ∀ s, C s .quiet) {s : Server}
    (haccept : ∀ t login, C t (.accept login s.nextSocket)) (url remote : String) :
    Lts.Path (RoomStep J) C s ((handle J isAlphanumeric (.connect url remote)).final s) := by
  have hnew := openSocket_sockets remote s s.nextSocket
  rw [if_pos rfl] at hnew
  have hlt : s.nextSocket < ((openSocket remote).final s).nextSocket := Nat.lt_succ_self _
  have hopen : Lts.Path (RoomStep J) C s ((openSocket remote).final s) :=
    path_of_quiet hquiet (quiet_openSocket remote s)
  refine hopen.trans (t := (openSocket remote).final s) ?_
  change Lts.Path (RoomStep J) C _
    ((onConnect J isAlphanumeric url s.nextSocket).final ((openSocket remote).final s))
  generalize (openSocket remote).final s = t at hnew hlt ⊢
  rw [onConnect, final_get_bind]
  cases hasQueryCreds t.proto url with
  | error e => exact .refl
  | ok creds =>
    rw [final_ok_bind, serveSocket, final_get_bind]
    split
    · exact takes_closeSocket hquiet _ t
    · have hlisten : t.Quiet (setSocket s.nextSocket (fun v => { v with listening := true }) t) :=
        quiet_setSocket { Socket.SameMember.refl _ with listening := fun _ => rfl, heard := fun _ _ => rfl }
      rw [final_modify_bind]
      refine (path_of_quiet hquiet hlisten).trans ?_
      split
      · refine path_completeConnection hquiet haccept isAlphanumeric _ ⟨?_, ?_, hlt, ?_, ?_⟩
        all_goals simp [hnew]
      · rw [final_modify]
        refine path_of_quiet hquiet (quiet_setSocket
          ⟨rfl, rfl, rfl, rfl, Iff.rfl, id, fun _ => Or.inr ?_, fun _ _ => ?_⟩)
        · rw [setSocket_self, hnew]
        · rw [setSocket_self]

/-- A socket that waits for its auth frame has the other listeners too. -/
def Hearing (s : Server) : Prop :=
  ∀ ws, (s.sockets ws).authFrameHandler = true → (s.sockets ws).listening = true

theorem Shrinks.hearing {s s' : Server} (h : s.Shrinks s') (hs : s.Hearing) : s'.Hearing := by
  intro ws hw
  rw [(h.sockets ws).listening]
  exact hs ws ((h.sockets ws).authFrameHandler hw)

theorem AdmitWrite.hearing {w : SocketId} {login : LoginRequest} {s s' : Server}
    (h : AdmitWrite w login s s') (hs : s.Hearing) : s'.Hearing := by
  cases h with
  | shrinks h => exact h.hearing hs
  | active | account | group => exact hs
  | login =>
    intro ws hw
    rw [setSocket_sockets] at hw ⊢
    split at hw
    · next h => subst h; rw [if_pos rfl]; exact hs ws hw
    · next h => rw [if_neg h]; exact hs ws hw
  | member =>
    intro ws hw
    rw [join, setSocket_sockets] at hw ⊢
    split at hw
    · next h => subst h; rw [if_pos rfl]; exact hs ws hw
    · next h => rw [if_neg h]; exact hs ws hw

theorem admitWrites_hearing {w : SocketId} {login : LoginRequest} {s s' : Server}
    (h : Relation.ReflTransGen (AdmitWrite w login) s s') (hs : s.Hearing) : s'.Hearing := by
  induction h with
  | refl => exact hs
  | tail _ hw ih => exact hw.hearing ih

theorem Hearing.roomStep {J : JsonCodec} {s s' : Server} {o : RoomOp} (hc : s.Consistent)
    (hs : s.Hearing) (h : RoomStep J s o s') : s'.Hearing := by
  rcases h.kinds with ⟨-, h⟩ | ⟨login, ws, -, hw, rfl⟩ | h
  · intro ws hw
    rcases h.sockets ws with hsame | ⟨-, hblank⟩
    · exact hsame.heard (hs ws) hw
    · rw [hblank.authFrameHandler] at hw; exact absurd hw (by simp)
  · exact admitWrites_hearing
      (admits_acceptConnection J hw.loginRequest hw.authFrameHandler hw.known hc) hs
  · exact h.hearing hs

/-- An event that the process survives is a path of operations of its own. -/
theorem step_operations {s s' : Server} {e : Event} (hs : s.Consistent)
    (hhear : s.Hearing) (h : step J isAlphanumeric s e = some s') :
    Lts.Path (RoomStep J) (fun _ => s.Allows e) s s' := by
  rcases step_eq_some h with ⟨he, rfl⟩ | ⟨-, rfl⟩
  · have hquiet : ∀ t : Server, (fun _ => s.Allows e) t .quiet := fun _ => by cases e <;> trivial
    cases e with
    | authMessage message key => exact takes_authServerMessagesHandler hquiet message key s
    | keyTimeout key => exact (calm_deleteLogin (w := 0) hquiet key s).1
    | connect url remote =>
      exact path_connect J isAlphanumeric hquiet (fun _ _ => rfl) url remote
    | message ws message isBinary =>
      have hquiet' : ∀ t : Server, (fun _ => s.Allows (.message ws message isBinary)) t .quiet :=
        fun _ => trivial
      have henabled : ws < s.nextSocket ∧ (s.sockets ws).readyState ≠ .closed := by
        simpa [enabled] using he
      change Lts.Path (RoomStep J) _ s ((messageEvent J isAlphanumeric ws message isBinary).final s)
      rw [messageEvent, final_get_bind]
      cases hh : (s.sockets ws).authFrameHandler with
      | false =>
        exact moves_bind (moves_when fun _ => takes_parseMessage hquiet' (fun _ _ => trivial)
          (fun _ => rfl) (fun _ => rfl) message isBinary) (fun _ => moves_when fun h => absurd h (by simp)) s
      | true =>
        rw [final_bind_of_ok (onWsMessage_waiting J hs hh message isBinary)]
        exact path_authFrameHandler hquiet' (fun _ _ => rfl) isAlphanumeric message
          (hs.waiting ws hh) henabled.1 (hhear ws hh) henabled.2
    | authTimeout ws => exact takes_authTimeout hquiet ws s
    | close ws =>
      have hrun : closeEvent ws s = (.ok (), (closeEvent ws).final s) := by
        refine run_of_not_escapes fun hesc => ?_
        rw [step_eq_none_iff.mpr ⟨he, hesc⟩] at h
        exact absurd h (by simp)
      exact .single (o := .close ws) rfl (.close hrun)
    | external message isBinary source =>
      exact takes_parseExternalMessage hquiet (fun _ _ => trivial) message isBinary source s
    | faults sendFails => exact path_of_quiet hquiet { Quiet.refl s with }
    | udpProgress name entry => exact .single (o := .progress name) rfl (.progress entry he)
    | storage connected state => exact path_of_quiet hquiet { Quiet.refl s with }
  · exact .refl

/-- A server that has just started, whose tables inherit these names. -/
def startOver (proto : List String) (config : Config) : Server := { config, proto }

@[simp] theorem startOver_units (proto : List String) (config : Config) (g : GroupId) (k : String) :
    ((startOver proto config).groupHeap g).units.own? k = none := rfl

@[simp] theorem startOver_groups (proto : List String) (config : Config) (a : AccountId)
    (k : String) : ((startOver proto config).accountHeap a).groups.own? k = none := rfl

theorem consistent_startOver (proto : List String) (config : Config) :
    (startOver proto config).Consistent :=
  { consistent_start config with named := by simp [startOver, Table.empty, default] }

theorem hearing_startOver (proto : List String) (config : Config) :
    (startOver proto config).Hearing := fun _ h => absurd h (by simp [startOver])

/-- A run is a path of operations. -/
theorem run_operations : ∀ {es : List Event} {s s' : Server}, s.Consistent → s.Hearing →
    run J isAlphanumeric s es = some s' →
    Lts.Path (RoomStep J) (fun _ _ => True) s s' ∧ s'.Consistent ∧ s'.Hearing
  | [], s, s', hs, hh, h => by
    rw [run_nil] at h
    obtain rfl := Option.some.inj h
    exact ⟨.refl, hs, hh⟩
  | e :: es, s, s', hs, hh, h => by
    rw [run_cons] at h
    obtain ⟨t, ht, hrest⟩ := Option.bind_eq_some_iff.mp h
    have hpath := step_operations J isAlphanumeric hs hh ht
    have hboth : t.Consistent ∧ t.Hearing := hpath.invariant
      (P := fun s => s.Consistent ∧ s.Hearing)
      (fun hP _ hstep => ⟨hP.1.roomStep hstep, hP.2.roomStep hP.1 hstep⟩) ⟨hs, hh⟩
    obtain ⟨hpath', hs'⟩ := run_operations hboth.1 hboth.2 hrest
    exact ⟨(hpath.mono fun _ => trivial).trans hpath', hs'⟩

end

end Server

end DroneEngage
