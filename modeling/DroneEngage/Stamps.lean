import DroneEngage.Deliveries
import DroneEngage.StaleClose

/-! Whose stamps a forwarded message carries.

    `forwardMessage` writes the account and the group of the sender's room into the message, over
    whatever the client had put there. A client that is in no room has nothing to write over with,
    and its own fields go out. A broadcast that runs before the forwarding can remove members whose
    sockets fail; it never removes the sender, so the room that is stamped is the one the client was
    in when the frame came. -/

namespace DroneEngage
open Js

/-! ### Ids are values that can be printed -/

/-- The ids and the permission of a login are values the language can hold. -/
structure LoginRequest.ProperIds (J : JsonCodec) (login : LoginRequest) : Prop where
  accountID : J.Proper login.accountID
  groupID : J.Proper login.groupID
  prm : J.Proper login.prm

/-- The message an effect hands to the parent or to the child servers. -/
def Effect.relayed? : Effect → Option (Bytes × Bool)
  | .toChildren message isBinary _ => some (message, isBinary)
  | .toParent message isBinary => some (message, isBinary)
  | _ => none

namespace Server

/-- Every id in the tables is a value the language can hold. -/
structure ProperIds (J : JsonCodec) (s : Server) : Prop where
  waiting : ∀ k d, s.waitingAccounts.own? k = some d → d.Proper J.isNumber
  login : ∀ ws login, (s.sockets ws).loginRequest = some login → login.ProperIds J
  group : ∀ g, J.Proper (s.groupHeap g).ID
  account : ∀ a, J.Proper (s.accountHeap a).accountID

section

variable {J : JsonCodec}

theorem properIds_start (config : Config) : (start config).ProperIds J where
  waiting := fun _ d h => absurd h.symm (Option.some_ne_none d)
  login := fun _ login h => absurd h.symm (Option.some_ne_none login)
  group := fun _ x h => absurd h.symm (Option.some_ne_none x)
  account := fun _ x h => absurd h.symm (Option.some_ne_none x)

theorem ProperIds.shrinks {s s' : Server} (hp : s.ProperIds J) (h : s.Shrinks s') :
    s'.ProperIds J where
  waiting := fun k d hd => hp.waiting k d (h.waitingAccounts ▸ hd)
  login := fun ws login hl => hp.login ws login ((h.sockets ws).loginRequest ▸ hl)
  group := fun g => h.groupID g ▸ hp.group g
  account := fun a => h.accountID a ▸ hp.account a

theorem ProperIds.withWaiting {s : Server} (hp : s.ProperIds J) {t : Table Json}
    (ht : ∀ k d, t.own? k = some d → s.waitingAccounts.own? k = some d) :
    ProperIds J { s with waitingAccounts := t } :=
  { hp with waiting := fun k d hd => hp.waiting k d (ht k d hd) }

/-- The writes of an acceptance store the ids of the login. -/
theorem ProperIds.admitWrite {w : SocketId} {login : LoginRequest} {s s' : Server}
    (hp : s.ProperIds J) (hlogin : login.ProperIds J) (h : AdmitWrite w login s s') :
    s'.ProperIds J := by
  cases h with
  | shrinks h => exact hp.shrinks h
  | login =>
    refine { hp with login := fun ws l hl => ?_ }
    rw [setSocket_sockets] at hl
    split at hl
    · obtain rfl := Option.some.inj hl; exact hlogin
    · exact hp.login ws l hl
  | active => exact { hp with }
  | account =>
    refine { hp with account := fun a => ?_ }
    by_cases ha : a = s.nextAccount
    · subst ha; simpa [openAccount] using hlogin.accountID
    · simpa [openAccount, ha] using hp.account a
  | @group a k =>
    refine ⟨hp.waiting, hp.login, fun g => ?_, fun b => ?_⟩
    · by_cases hg : g = s.nextGroup
      · subst hg; simpa [openGroup] using hlogin.groupID
      · simpa [openGroup, hg] using hp.group g
    · rw [openGroup, setAccount_accountHeap]
      split
      · next hb => subst hb; exact hp.account b
      · exact hp.account b
  | @member g k =>
    refine ⟨hp.waiting, fun ws l hl => ?_, fun h => ?_, hp.account⟩
    · rw [join, setSocket_sockets] at hl
      split at hl
      · next hw => subst hw; exact hp.login ws l hl
      · exact hp.login ws l hl
    · rw [join, setSocket_groupHeap, setGroup_groupHeap]
      split
      · next hh => subst hh; exact hp.group h
      · exact hp.group h

theorem ProperIds.admitWrites {w : SocketId} {login : LoginRequest} {s s' : Server}
    (hp : s.ProperIds J) (hlogin : login.ProperIds J)
    (h : Relation.ReflTransGen (AdmitWrite w login) s s') : s'.ProperIds J := by
  induction h with
  | refl => exact hp
  | tail _ hw ih => exact ih.admitWrite hlogin hw

/-- Credentials are good for a login with proper ids only. -/
theorem ProperIds.loginFor {s : Server} {params : Table Json} {login : LoginRequest}
    (hp : s.ProperIds J) (h : s.loginFor params = some login) : login.ProperIds J := by
  have hstr : ∀ text : String, J.Proper (some (.str text)) := by
    rintro text x ⟨⟩
    trivial
  rw [Server.loginFor] at h
  split at h
  · -- a local login
    split at h
    · obtain ⟨key, -, rfl⟩ := Option.map_eq_some_iff.mp h
      refine ⟨hstr _, hstr _, ?_⟩
      rintro x ⟨⟩
      exact J.isNumber_mask
    · exact absurd h (by simp)
  · -- an announced one
    split at h
    · next key _ =>
      split at h
      · exact absurd h (by simp)
      · obtain rfl := Option.some.inj h
        have hfield : ∀ k, J.Proper ((s.getLogin key).stored?.bind (Json.field k)) := by
          intro k x hx
          obtain ⟨d, hd, hx⟩ := Option.bind_eq_some_iff.mp hx
          cases hg : s.getLogin key with
          | absent => rw [hg] at hd; exact absurd hd (by simp [Slot.stored?])
          | inherited => rw [hg] at hd; exact absurd hd (by simp [Slot.stored?])
          | own d' =>
            rw [hg] at hd
            obtain rfl := Option.some.inj hd
            exact (hp.waiting key d' (Table.get_eq_own_iff.mp hg)).field hx
        exact ⟨hfield _, hfield _, hfield _⟩
    · exact absurd h (by simp)

/-- An announcement that is stored was read from a message. -/
theorem proper_issuedLogin {message : Bytes} {key : String} {d : Json}
    (h : issuedLogin J message key = some d) : d.Proper J.isNumber := by
  rw [issuedLogin] at h
  split at h
  · exact absurd h (by simp)
  · exact absurd h (by simp)
  · next cmd _ hparse =>
    have hcmd := J.parse_proper message cmd hparse
    rw [announcement] at h
    split at h
    · split at h
      · split at h
        · cases hd : cmd.field "d" with
          | none => rw [hd] at h; exact absurd h (by simp [writeProp, Except.toOption])
          | some x =>
            rw [hd, writeProp] at h
            split at h
            · obtain rfl := Option.some.inj h
              exact (hcmd.field hd).setField _ (by rintro y ⟨⟩; trivial)
            · exact absurd h (by simp [Except.toOption])
        · exact absurd h (by simp)
      · exact absurd h (by simp)
    · exact absurd h (by simp)

theorem ProperIds.arrive {s : Server} (hp : s.ProperIds J) (e : Event) :
    (arrive J s e).ProperIds J := by
  cases e with
  | authMessage message key =>
    rw [arrive_authMessage]
    cases hd : issuedLogin J message key with
    | none => exact hp
    | some d =>
      refine { hp with waiting := fun k d' hd' => ?_ }
      rcases Table.own?_assign_imp hd' with ⟨-, rfl⟩ | hd'
      · exact proper_issuedLogin hd
      · exact hp.waiting k d' hd'
  | keyTimeout key =>
    rw [arrive_keyTimeout, deleteLogin, Action.final_get_bind]
    split
    · exact hp
    · exact hp.withWaiting fun _ _ => Table.own?_delete_imp
  | connect url remote =>
    have hopen : ((openSocket remote).final s).ProperIds J := by
      refine ⟨hp.waiting, fun ws login hl => ?_, hp.group, hp.account⟩
      rw [openSocket_sockets] at hl
      split at hl
      · exact absurd hl (by simp)
      · exact hp.login ws login hl
    have hset : ∀ (w : SocketId) (f : Socket → Socket), (∀ v, (f v).loginRequest = v.loginRequest) →
        (setSocket w f ((openSocket remote).final s)).ProperIds J := by
      intro w f hf
      refine { hopen with login := fun ws login hl => ?_ }
      rw [setSocket_sockets] at hl
      split at hl
      · next hw => subst hw; rw [hf] at hl; exact hopen.login ws login hl
      · exact hopen.login ws login hl
    rw [arrive_connect]
    rcases hasQueryCreds s.proto url with e | b
    · exact hopen
    · cases b with
      | false =>
        exact hset s.nextSocket (fun v => { v with
          listening := true, authPending := true, authTimer := true, authFrameHandler := true })
          fun _ => rfl
      | true =>
        rw [greet]
        split
        · exact hset _ _ fun _ => rfl
        · exact hopen
  | message | authTimeout | close | external | faults | udpProgress | storage => exact hp

theorem ProperIds.outcome {s s' : Server} {creds : Option (SocketId × Table Json)}
    (hp : s.ProperIds J) (h : Outcome J creds s s') : s'.ProperIds J := by
  cases creds with
  | none => exact hp.shrinks h
  | some c =>
    obtain ⟨w, params⟩ := c
    change Checked J w params s s' at h
    rw [Checked] at h
    cases hl : s.loginFor params with
    | none => rw [hl] at h; exact hp.shrinks h
    | some login =>
      rw [hl] at h
      refine ProperIds.admitWrites (hp.withWaiting ?_) (hp.loginFor hl) h.writes
      intro k d hd
      rw [keysAfter] at hd
      split at hd
      · exact hd
      · split at hd
        · exact Table.own?_delete_imp hd
        · exact hd

/-- In every state of every run the ids are values that can be printed. -/
theorem properIds_run {isAlphanumeric : String → Bool} {config : Config} {es : List Event}
    {s : Server} (h : run J isAlphanumeric (start config) es = some s) : s.ProperIds J := by
  have hboth : s.Consistent ∧ s.ProperIds J := by
    refine run_invariant (P := fun s => s.Consistent ∧ s.ProperIds J) ?_
      ⟨consistent_start config, properIds_start config⟩ h
    rintro s e ⟨hs, hp⟩ he
    exact ⟨hs.handle J isAlphanumeric he,
      (hp.arrive e).outcome (handle_final J isAlphanumeric hs he)⟩
  exact hboth.2

end

open Action

/-! ### The sender of a broadcast stays in its room -/

/-- The socket is in the same room afterwards. -/
def GroupKept (u : SocketId) (s s' : Server) : Prop := (s'.sockets u).group = (s.sockets u).group

instance (u : SocketId) : IsPreorder Server (GroupKept u) where
  refl := fun _ => rfl
  trans := fun _ _ _ h h' => Eq.trans h' h

theorem groupKept_setSocket {u ws : SocketId} {f : Socket → Socket}
    (hf : ∀ w : Socket, (f w).group = w.group) : Moves (GroupKept u) (modify (setSocket ws f)) := by
  intro s
  rw [GroupKept, final_modify, setSocket_sockets]
  split
  · next h => subst h; exact hf _
  · rfl

theorem closing_group (w : Socket) :
    (if w.readyState = .isOpen then { w with readyState := .closing } else w).group = w.group := by
  split <;> rfl

theorem groupKept_terminateSocket (u ws : SocketId) : Moves (GroupKept u) (terminateSocket ws) :=
  fun s => groupKept_setSocket closing_group s

theorem groupKept_dropIfEmpty (u : SocketId) (g : GroupId) : Moves (GroupKept u) (dropIfEmpty g) :=
  moves_bind moves_get fun _ => moves_ite
    (fun _ => moves_bind (moves_ofExcept _) fun _ => moves_modify fun _ => rfl)
    fun _ => moves_pure ()

/-- Only the socket that is listed under the name leaves. -/
theorem groupKept_deleteMemberByName {u : SocketId} {g : GroupId} {unitname : Val} {s : Server}
    (terminate : Bool)
    (h : ∀ k, propKey unitname = .ok k → ¬ s.Frozen g → (s.groupHeap g).units.own? k ≠ some u) :
    GroupKept u s ((deleteMemberByName g unitname terminate).final s) := by
  rcases deleteMemberByName_final g unitname terminate s with ⟨-, hfin⟩ | ⟨k, ws, hm, hfin⟩
  · rw [hfin]; exact refl_of (GroupKept u) s
  · obtain ⟨hk, hu, hg⟩ := memberNamed_found hm
    have hne : ws ≠ u := by
      rintro rfl
      exact h k hk hg hu
    have hunlink : GroupKept u s (unlink g k ws s) := by
      rw [GroupKept, unlink, setSocket_ne _ _ _ _ hne.symm]; rfl
    rw [hfin]
    refine trans_of (GroupKept u) hunlink ?_
    refine moves_bind_at (R := GroupKept u) (groupKept_dropIfEmpty u g _) fun _ _ => ?_
    have hmark : Moves (GroupKept u) (do
        modify (setSocket ws fun w => { w with terminated := true })
        terminateSocket ws) :=
      moves_bind (groupKept_setSocket fun _ => rfl) fun _ => groupKept_terminateSocket u ws
    split
    · exact hmark _
    · exact refl_of (GroupKept u) _

/-- A listed member whose socket fails takes nobody else out of a room. -/
theorem groupKept_handleOrphanSocket {u v : SocketId} {g : GroupId} {k : String} {s : Server}
    (hs : s.Consistent) (hv : (s.groupHeap g).units.own? k = some v) (hne : v ≠ u) :
    GroupKept u s ((handleOrphanSocket v).final s) := by
  rw [handleOrphanSocket, final_attempt_pure, final_get_bind]
  cases hg : (s.sockets v).group with
  | none => exact refl_of (GroupKept u) s
  | some g' =>
    obtain rfl : g' = g := by
      rcases hs.home g k v hv with h | h
      · rw [hg] at h; exact Option.some.inj h
      · rw [hg] at h; exact absurd h (by simp)
    refine moves_bind_at (R := GroupKept u) (groupKept_deleteMemberByName false ?_) fun _ _ => ?_
    · -- the name of the failing member is its own row
      intro l hl hf hu
      obtain ⟨login, hlogin, hk, -⟩ := hs.member g' k v hv
      rcases hs.named g' k v login hv hlogin with hname | hfrozen
      · rw [hname, hk] at hl
        obtain rfl := Except.ok.inj hl
        rw [hv] at hu
        exact hne (Option.some.inj hu)
      · exact hf hfrozen
    · have hforget : Moves (GroupKept u) (do
          modify (setSocket v fun w => { w with name := none })
          terminateSocket v) :=
        moves_bind (groupKept_setSocket fun _ => rfl) fun _ => groupKept_terminateSocket u v
      exact hforget _

theorem sameSender_self (login : LoginRequest) (u : SocketId) :
    sameSender login u ⟨login.senderID, some u⟩ = true := by
  rw [sameSender]
  split <;> simp

/-- One round of a broadcast: the member is passed over, is sent the message, or is removed because
    its socket fails. -/
theorem broadcastTo_final {ws : SocketId} {login : LoginRequest} {s : Server}
    (hl : (s.sockets ws).loginRequest = some login) (message : Bytes) (isBinary : Bool)
    (senderID : SenderRef) (actorType : Option String) :
    (broadcastTo message isBinary senderID actorType ws).final s =
      if wants login ws senderID actorType then
        if s.sendFails ws then (handleOrphanSocket ws).final (s.emit (.send ws message isBinary))
        else s.emit (.send ws message isBinary)
      else s := by
  rw [broadcastTo, final, run_attempt, run_bind_get]
  simp only [hl]
  by_cases hw : wants login ws senderID actorType
  · rw [if_pos hw, if_pos hw, send, run_bind_modify, run_bind_get, emit_sendFails]
    cases s.sendFails ws with
    | true => rfl
    | false => rfl
  · rw [if_neg hw, if_neg hw]; rfl

/-- Nothing is added, and the socket, logged in like this, is in the same room afterwards. -/
def Stays (u : SocketId) (login : LoginRequest) (s s' : Server) : Prop :=
  s.Shrinks s' ∧ (s.Consistent → (s.sockets u).loginRequest = some login → GroupKept u s s')

instance (u : SocketId) (login : LoginRequest) : IsPreorder Server (Stays u login) where
  refl := fun s => ⟨.refl s, fun _ _ => rfl⟩
  trans := fun _ _ _ h h' => ⟨h.1.trans h'.1, fun hs hl => trans_of (GroupKept u) (h.2 hs hl)
    (h'.2 (hs.shrinks h.1) (((h.1.sockets u).loginRequest).trans hl))⟩

/-- A broadcast leaves its sender in its room. -/
theorem stays_broadcast (u : SocketId) (login : LoginRequest) (g : GroupId) (message : Bytes)
    (isBinary : Bool) (actorType : Option String) : Moves (Stays u login)
      (broadcast g message isBinary ⟨login.senderID, some u⟩ actorType) := by
  refine moves_bind moves_get fun _ => moves_forEach _ fun k _ => moves_get_bind fun s => ?_
  cases hv : (s.groupHeap g).units.own? k with
  | none => exact refl_of (Stays u login) s
  | some v =>
    refine ⟨moves_broadcastTo (fun v => onlyShrinks_send v _ _)
      onlyShrinks_handleOrphanSocket _ _ v s, fun hs hl => ?_⟩
    obtain ⟨l, hlv, -⟩ := hs.member g k v hv
    rw [broadcastTo_final hlv]
    split
    · next hw =>
      split
      · refine groupKept_handleOrphanSocket (hs.shrinks (shrinks_emit _ s)) hv ?_
        rintro rfl
        rw [hl] at hlv
        obtain rfl := Option.some.inj hlv
        rw [wants, sameSender_self] at hw
        exact absurd hw (by simp)
      · rfl
    · rfl

/-! ### What stays on this server -/

/-- Nothing goes to another server. -/
abbrev Unrelayed (s s' : Server) : Prop := Logs (fun e => e.relayed? = none) s s'

theorem unrelayed_silent {f : Server → Server} (h : ∀ s, (f s).log = s.log) :
    Moves Unrelayed (modify f) := moves_modify fun s => logs_of_eq (h s)

theorem unrelayed_send (ws : SocketId) (message : Bytes) (isBinary : Bool) :
    Moves Unrelayed (send ws message isBinary) :=
  moves_bind (moves_modify (logs_emit rfl)) fun _ => moves_bind moves_get fun _ =>
    moves_ite (fun _ => moves_throw _) fun _ => moves_pure ()

theorem unrelayed_delMemberFromGroup (ws : SocketId) :
    Moves Unrelayed (delMemberFromGroup ws) :=
  moves_delMemberFromGroup logs_rooms (logs_terminateSocket fun _ => rfl) ws

section

variable (J : JsonCodec)

theorem unrelayed_onSystemMessage (jmsg : Json) (ws : SocketId) :
    Moves Unrelayed (onSystemMessage J jmsg ws) :=
  moves_onSystemMessage J unrelayed_send (fun _ => moves_modify (logs_emit rfl))
    (unrelayed_delMemberFromGroup ws)
    (moves_udpProxyCommand (fun _ => unrelayed_silent fun _ => rfl) J unrelayed_send) jmsg

end

/-- The local delivery of a broadcast stays here, and so does its sender in its room. -/
theorem sendMessageToMyGroup_stays {ws : SocketId} {login : LoginRequest} {s : Server}
    (hl : (s.sockets ws).loginRequest = some login) (actorType : Option String) (message : Bytes)
    (isBinary : Bool) :
    Stays ws login s ((sendMessageToMyGroup actorType message isBinary ws).final s) ∧
      Unrelayed s ((sendMessageToMyGroup actorType message isBinary ws).final s) := by
  rw [sendMessageToMyGroup, final_attempt_pure, final_get_bind, hl]
  cases (s.sockets ws).group with
  | none => exact ⟨refl_of (Stays ws login) s, refl_of Unrelayed s⟩
  | some g =>
    refine ⟨stays_broadcast ws login g message isBinary actorType s, ?_⟩
    have hemits : Moves (Emits s fun e => e.relayed? = none)
        (broadcast g message isBinary ⟨login.senderID, some ws⟩ actorType) :=
      emits_broadcast (fun _ => rfl) _ _ fun _ _ _ => rfl
    exact (hemits s (.refl s)).2

/-! ### What leaves it -/

/-- The stamps of a copy are those of the room its sender is in, which is the room of the sender's
    login; or there are none. -/
def GenuineStamps (s : Server) (ws : SocketId) (copy : Json) : Prop :=
  (∃ g login, (s.sockets ws).group = some g ∧ (s.sockets ws).loginRequest = some login ∧
    s.RoomOf g login ∧ copy.field "_aid" = (s.accountOf g).accountID ∧
    copy.field "_gid" = (s.groupHeap g).ID) ∨
  copy.field "_aid" = none ∧ copy.field "_gid" = none

/-- If the effect hands a message to another server, that message has genuine stamps. -/
def Genuine (J : JsonCodec) (s : Server) (ws : SocketId) (e : Effect) : Prop :=
  ∀ message isBinary, e.relayed? = some (message, isBinary) →
    ∃ copy, J.parse (if isBinary then header message else message) = some copy ∧
      s.GenuineStamps ws copy

/-- A frame whose own stamps are forwarded: its sender is in no room, the frame is routed as a
    broadcast, and there is another server to forward it to. -/
def Forgeable (J : JsonCodec) (s : Server) (ws : SocketId) (message : Bytes) (isBinary : Bool) :
    Prop :=
  (s.sockets ws).group = none ∧
  (s.config.enable_super_server = true ∨ s.config.enable_persistant_relay = true) ∧
  ∃ login jmsg message' actorType,
    s.injectPermission J ws message isBinary = some (login, jmsg, message') ∧
    localRoute login.actorType jmsg = .ok (.broadcast actorType) ∧
    ¬ (jmsg.field "_aid" = none ∧ jmsg.field "_gid" = none)

section

variable {J : JsonCodec}

/-- The client's object with the permission written into it, and the message made of it. -/
theorem injectPermission_some {s : Server} {ws : SocketId} {message : Bytes} {isBinary : Bool}
    {login : LoginRequest} {jmsg : Json} {message' : Bytes}
    (h : s.injectPermission J ws message isBinary = some (login, jmsg, message')) :
    (s.sockets ws).loginRequest = some login ∧
      message' = J.stringify jmsg ++ (if isBinary then payload message else []) ∧
      ∃ v, J.parse (if isBinary then header message else message) = some v ∧ v.isObject = true ∧
        jmsg = v.setField "p" login.prm := by
  rw [injectPermission] at h
  simp [Option.bind_eq_some_iff, guard, failure] at h
  obtain ⟨-, v, hv, hobj, hl, rfl, rfl⟩ := h
  exact ⟨hl, rfl, v, hv, hobj, rfl⟩

theorem injectPermission_eq {s : Server} (hp : s.ProperIds J) {ws : SocketId} {message : Bytes}
    {isBinary : Bool} {login : LoginRequest} {jmsg : Json} {message' : Bytes}
    (h : s.injectPermission J ws message isBinary = some (login, jmsg, message')) :
    (s.sockets ws).loginRequest = some login ∧ jmsg.Proper J.isNumber ∧ jmsg.isObject = true ∧
      message' = J.stringify jmsg ++ if isBinary then payload message else [] := by
  obtain ⟨hl, hm, v, hv, hobj, rfl⟩ := injectPermission_some h
  refine ⟨hl, ?_, by rw [Json.isObject_setField]; exact hobj, hm⟩
  exact (J.parse_proper _ v hv).setField "p" (hp.login ws login hl).prm

theorem proper_stampGroup {s : Server} (hp : s.ProperIds J) (group : Option GroupId) {v : Json}
    (hv : v.Proper J.isNumber) : (s.stampGroup group v).Proper J.isNumber := by
  cases group with
  | none => exact hv
  | some g => exact (hv.setField "_gid" (hp.group g)).setField "_aid" (hp.account _)

theorem forwardTwice_log (c₁ c₂ : Bool) (e₁ e₂ : Effect) (s : Server) :
    ((do
      Action.when c₁ (Action.modify (emit e₁))
      Action.when c₂ (Action.modify (emit e₂)) : Action Server Unit).final s).log =
      s.log ++ ((if c₁ then [e₁] else []) ++ if c₂ then [e₂] else []) := by
  cases c₁ with
  | true => cases c₂ with
    | true => exact List.append_assoc s.log [e₁] [e₂]
    | false => rfl
  | false => cases c₂ with
    | true => rfl
    | false => exact (List.append_nil s.log).symm

/-- The frame a client's object goes out in, stamped in the state it is forwarded in. -/
def forwardedFrame (J : JsonCodec) (s : Server) (ws : SocketId) (jmsg : Json) (message : Bytes)
    (isBinary : Bool) : Bytes :=
  J.stringify (s.stampGroup (s.sockets ws).group (appendPath s.serverOriginID jmsg)) ++
    if isBinary then payload message else []

/-- What forwarding puts out: that frame, for the children and for the parent. -/
theorem forwardMessage_effects {s : Server} {ws : SocketId} {login : LoginRequest}
    (hl : (s.sockets ws).loginRequest = some login) {jmsg : Json} (hj : jmsg.Proper J.isNumber)
    (hobj : jmsg.isObject = true) (message : Bytes) (isBinary : Bool) :
    ((forwardMessage J (J.stringify jmsg ++ if isBinary then payload message else []) isBinary
        ws).final s).log = s.log ++
      ((if s.config.enable_super_server then
          [.toChildren (s.forwardedFrame J ws jmsg message isBinary) isBinary none] else []) ++
        if s.config.enable_persistant_relay then
          [.toParent (s.forwardedFrame J ws jmsg message isBinary) isBinary] else []) := by
  rw [forwardMessage, final_get_bind, hl, if_neg (by simp), rewriteMessage_frame hj hobj]
  exact forwardTwice_log _ _ _ _ s

/-- They are copies of it. -/
theorem forwardMessage_log {s : Server} {ws : SocketId} {login : LoginRequest}
    (hl : (s.sockets ws).loginRequest = some login) {jmsg : Json} (hj : jmsg.Proper J.isNumber)
    (hobj : jmsg.isObject = true) (message : Bytes) (isBinary : Bool) :
    ∃ l, ((forwardMessage J (J.stringify jmsg ++ if isBinary then payload message else [])
        isBinary ws).final s).log = s.log ++ l ∧
      (∀ e ∈ l, e.relayed? = some (s.forwardedFrame J ws jmsg message isBinary, isBinary)) ∧
      (l ≠ [] ↔ s.config.enable_super_server = true ∨ s.config.enable_persistant_relay = true) := by
  refine ⟨_, forwardMessage_effects hl hj hobj message isBinary, ?_, ?_⟩
  · intro e he
    rcases List.mem_append.mp he with he | he
    · split at he
      · rw [List.mem_singleton.mp he]; rfl
      · exact absurd he (by simp)
    · split at he
      · rw [List.mem_singleton.mp he]; rfl
      · exact absurd he (by simp)
  · cases s.config.enable_super_server <;> cases s.config.enable_persistant_relay <;> simp

/-- Its header reads as the stamped object. -/
theorem parse_forwardedFrame {s : Server} (hp : s.ProperIds J) (ws : SocketId) {jmsg : Json}
    (hj : jmsg.Proper J.isNumber) (message : Bytes) (isBinary : Bool) :
    J.parse (if isBinary then header (s.forwardedFrame J ws jmsg message isBinary)
      else s.forwardedFrame J ws jmsg message isBinary) =
        some (s.stampGroup (s.sockets ws).group (appendPath s.serverOriginID jmsg)) :=
  parse_frame (proper_stampGroup hp _ (proper_appendPath s.serverOriginID hj)) message isBinary

/-- The stamps of a copy, seen from the state in which the frame came. -/
theorem genuineStamps_iff {s s₁ : Server} (hs : s.Consistent) (h : s.Shrinks s₁) (ws : SocketId)
    {jmsg : Json} {fs : List (String × Json)} (hobj : jmsg = .obj fs) (originID : String) :
    s.GenuineStamps ws (s₁.stampGroup (s.sockets ws).group (appendPath originID jmsg)) ↔
      ¬ ((s.sockets ws).group = none ∧ ¬ (jmsg.field "_aid" = none ∧ jmsg.field "_gid" = none)) := by
  cases hg : (s.sockets ws).group with
  | none =>
    have haid : (appendPath originID jmsg).field "_aid" = jmsg.field "_aid" :=
      field_appendPath_ne originID jmsg (by decide)
    have hgid : (appendPath originID jmsg).field "_gid" = jmsg.field "_gid" :=
      field_appendPath_ne originID jmsg (by decide)
    rw [stampGroup, GenuineStamps, hg, haid, hgid]
    simp
  | some g =>
    obtain ⟨login, hl, hroom⟩ := hs.room ws g hg
    obtain ⟨fs₁, h₁⟩ : ∃ fs₁, appendPath originID jmsg = .obj fs₁ := by
      rw [hobj, appendPath]; exact Json.setField_obj _ _ _
    obtain ⟨fs₂, h₂⟩ := Json.setField_obj fs₁ "_gid" (s₁.groupHeap g).ID
    refine iff_of_true (Or.inl ⟨g, login, hg, hl, hroom, ?_, ?_⟩) (by simp)
    · rw [stampGroup, h₁, h₂, Json.field_setField_self rfl, h.parentAccount, h.accountID, accountOf]
    · rw [stampGroup, h₁, Json.field_setField_ne _ _ (by decide), Json.field_setField_self rfl,
        h.groupID]

/-- A frame that is dropped or routed nowhere, and one that is handed to its route. -/
theorem parseMessage_final (s : Server) (ws : SocketId) (message : Bytes) (isBinary : Bool) :
    (parseMessage J ws message isBinary).final s = s ∧ ¬ s.Forgeable J ws message isBinary ∨
    ∃ login jmsg message' route,
      s.injectPermission J ws message isBinary = some (login, jmsg, message') ∧
      localRoute login.actorType jmsg = .ok route ∧
      (parseMessage J ws message isBinary).final s =
        (dispatch J route jmsg message' isBinary ws).final s := by
  rw [parseMessage, final_get_bind]
  cases hinj : s.injectPermission J ws message isBinary with
  | none =>
    refine Or.inl ⟨rfl, ?_⟩
    rintro ⟨-, -, login, jmsg, message', actorType, h, -⟩
    rw [hinj] at h
    exact absurd h (by simp)
  | some m =>
    obtain ⟨login, jmsg, message'⟩ := m
    simp only [final_attempt_pure]
    cases hr : localRoute login.actorType jmsg with
    | error e =>
      refine Or.inl ⟨rfl, ?_⟩
      rintro ⟨-, -, login', jmsg', message'', actorType, h, hroute, -⟩
      rw [hinj] at h
      obtain ⟨rfl, rfl, rfl⟩ := Option.some.inj h
      rw [hr] at hroute
      exact absurd hroute (by simp)
    | ok route => exact Or.inr ⟨login, jmsg, message', route, rfl, hr, rfl⟩

/-- A frame for one unit is forwarded only by a client in a room, and from the state it came in. -/
theorem sendMessageToTarget_final (s : Server) (message : Bytes) (isBinary : Bool) (target : Val)
    (ws : SocketId) :
    Unrelayed s ((sendMessageToTarget message isBinary target ws
      (forwardMessage J message isBinary ws)).final s) ∨
    (s.sockets ws).group ≠ none ∧ (sendMessageToTarget message isBinary target ws
      (forwardMessage J message isBinary ws)).final s =
        (forwardMessage J message isBinary ws).final s := by
  rw [sendMessageToTarget, final_attempt_pure, final_get_bind]
  cases hg : (s.sockets ws).group with
  | none => exact Or.inl (refl_of Unrelayed s)
  | some g =>
    have hcatch : ∀ m : Action Server Unit,
        (attempt m fun _ => Action.throw .referenceError).final s = m.final s := by
      intro m
      rw [final, run_attempt]
      rcases hm : m s with ⟨e | u, s'⟩
      · rw [final, hm]; rfl
      · rw [final, hm]
    simp only [sendToIndividual]
    rw [hcatch, final_get_bind]
    cases hi : (s.groupHeap g).units.index s.proto target with
    | error e => exact Or.inl (refl_of Unrelayed s)
    | ok slot =>
      cases slot with
      | own v => exact Or.inl (unrelayed_send v message isBinary s)
      | inherited => exact Or.inl (refl_of Unrelayed s)
      | absent => exact Or.inr ⟨by simp, rfl⟩

theorem localRoute_obj {actorType : Val} {jmsg : Json} {route : Route}
    (h : localRoute actorType jmsg = .ok route) : route = .nowhere ∨ ∃ fs, jmsg = .obj fs := by
  cases jmsg with
  | obj fs => exact Or.inr ⟨fs, rfl⟩
  | null | bool | num | str | arr => exact Or.inl (Except.ok.inj h).symm

theorem genuine_of_unrelayed {s s₀ s' : Server} {ws : SocketId} (h : Unrelayed s₀ s') :
    Logs (s.Genuine J ws) s₀ s' := by
  obtain ⟨l, hl, hQ⟩ := h
  refine ⟨l, hl, fun e he m b hm => ?_⟩
  rw [hQ e he] at hm
  exact absurd hm (by simp)

/-- Forwarding from a state in which the client is still in its room. -/
theorem genuine_forwardMessage {s s₁ : Server} (hs : s.Consistent) (hp : s.ProperIds J)
    (h : s.Shrinks s₁) {ws : SocketId} (hkept : GroupKept ws s s₁) {message : Bytes}
    {isBinary : Bool} {login : LoginRequest} {jmsg : Json} {message' : Bytes}
    (hinj : s.injectPermission J ws message isBinary = some (login, jmsg, message'))
    {fs : List (String × Json)} (hobj : jmsg = .obj fs) :
    Logs (s.Genuine J ws) s₁ ((forwardMessage J message' isBinary ws).final s₁) ↔
      ¬ ((s.config.enable_super_server = true ∨ s.config.enable_persistant_relay = true) ∧
        (s.sockets ws).group = none ∧ ¬ (jmsg.field "_aid" = none ∧ jmsg.field "_gid" = none)) := by
  obtain ⟨hl, hj, hisobj, rfl⟩ := injectPermission_eq hp hinj
  obtain ⟨l, hlog, hcopies, hsome⟩ := forwardMessage_log (((h.sockets ws).loginRequest).trans hl)
    hj hisobj message isBinary
  have hparse := parse_forwardedFrame (hp.shrinks h) ws hj message isBinary
  rw [hkept] at hparse
  rw [h.config] at hsome
  have hiff := genuineStamps_iff hs h ws hobj s₁.serverOriginID
  constructor
  · rintro ⟨l', hlog', hQ⟩ ⟨hlinks, hbad⟩
    rw [hlog] at hlog'
    obtain rfl := List.append_cancel_left hlog'
    obtain ⟨e, he⟩ := List.exists_mem_of_ne_nil l (hsome.mpr hlinks)
    obtain ⟨v, hv, hstamps⟩ := hQ e he _ isBinary (hcopies e he)
    rw [hparse] at hv
    obtain rfl := Option.some.inj hv
    exact hiff.mp hstamps hbad
  · intro hcond
    refine ⟨l, hlog, fun e he m b hm => ?_⟩
    rw [hcopies e he] at hm
    obtain ⟨rfl, rfl⟩ := Prod.mk.inj (Option.some.inj hm)
    exact ⟨_, hparse, hiff.mpr fun hbad => hcond ⟨hsome.mp (List.ne_nil_of_mem he), hbad⟩⟩

/-- What one frame forwards, in a state whose tables agree. -/
theorem genuine_parseMessage {s : Server} (hs : s.Consistent) (hp : s.ProperIds J) (ws : SocketId)
    (message : Bytes) (isBinary : Bool) :
    Logs (s.Genuine J ws) s ((parseMessage J ws message isBinary).final s) ↔
      ¬ s.Forgeable J ws message isBinary := by
  rcases parseMessage_final s ws message isBinary with
    ⟨hfin, hnot⟩ | ⟨login, jmsg, message', route, hinj, hroute, hfin⟩
  · rw [hfin]
    exact iff_of_true (refl_of (Logs _) s) hnot
  rw [hfin]
  -- only a broadcast can be forgeable
  have hother : (∀ actorType, route ≠ .broadcast actorType) → ¬ s.Forgeable J ws message isBinary := by
    rintro hne ⟨-, -, login', jmsg', message'', actorType, hinj', hroute', -⟩
    rw [hinj] at hinj'
    obtain ⟨rfl, rfl, rfl⟩ := Option.some.inj hinj'
    rw [hroute] at hroute'
    exact hne actorType (Except.ok.inj hroute')
  have hobj := localRoute_obj hroute
  cases route with
  | nowhere => exact iff_of_true (refl_of (Logs _) s) (hother fun _ => Route.noConfusion)
  | system =>
    exact iff_of_true (genuine_of_unrelayed (unrelayed_onSystemMessage J jmsg ws s))
      (hother fun _ => Route.noConfusion)
  | individual target =>
    obtain ⟨fs, hobj⟩ := hobj.resolve_left Route.noConfusion
    refine iff_of_true ?_ (hother fun _ => Route.noConfusion)
    rcases sendMessageToTarget_final (J := J) s message' isBinary target ws with h | ⟨hg, h⟩
    · exact genuine_of_unrelayed h
    · rw [dispatch, h]
      refine (genuine_forwardMessage hs hp (.refl s) rfl hinj hobj).mpr ?_
      rintro ⟨-, hnone, -⟩
      exact hg hnone
  | broadcast actorType =>
    obtain ⟨fs, hobj⟩ := hobj.resolve_left Route.noConfusion
    obtain ⟨hl, -⟩ := injectPermission_eq hp hinj
    have hstay := sendMessageToMyGroup_stays hl actorType message' isBinary
    have hrun : sendMessageToMyGroup actorType message' isBinary ws s =
        (.ok (), (sendMessageToMyGroup actorType message' isBinary ws).final s) :=
      run_of_not_escapes (not_escapes_attempt fun _ s' => not_escapes_pure () s')
    rw [dispatch, final_bind_of_ok hrun]
    generalize (sendMessageToMyGroup actorType message' isBinary ws).final s = s₁ at hstay ⊢
    obtain ⟨⟨hshrinks, hkept⟩, hlocal⟩ := hstay
    have hforward := genuine_forwardMessage hs hp hshrinks (hkept hs hl) hinj hobj
    have hgrow := (onlyShrinks_forwardMessage J message' isBinary ws s₁).log
    rw [logs_after (genuine_of_unrelayed hlocal) hgrow, hforward, not_iff_not]
    constructor
    · rintro ⟨hlinks, hg, hstamps⟩
      exact ⟨hg, hlinks, login, jmsg, message', actorType, hinj, hroute, hstamps⟩
    · rintro ⟨hg, hlinks, login', jmsg', message'', _, hinj', -, hstamps⟩
      rw [hinj] at hinj'
      obtain ⟨rfl, rfl, rfl⟩ := Option.some.inj hinj'
      exact ⟨hlinks, hg, hstamps⟩

/-- Of every frame, in every state a server can reach: the copies that leave carry the stamps of the
    sender's own room or none, exactly when the frame is not a stamped broadcast of a client that is
    in no room. -/
theorem forwarded_stamps {isAlphanumeric : String → Bool} {config : Config} {es : List Event}
    {s : Server} (h : run J isAlphanumeric (start config) es = some s) (ws : SocketId)
    (message : Bytes) (isBinary : Bool) :
    (∃ l, ((parseMessage J ws message isBinary).final s).log = s.log ++ l ∧
      ∀ e ∈ l, s.Genuine J ws e) ↔ ¬ s.Forgeable J ws message isBinary :=
  genuine_parseMessage (consistent_run J isAlphanumeric h) (properIds_run h) ws message isBinary

/-- A group frame in which a client has written the stamps of somebody else's room. -/
def forgedFrame : Json :=
  .obj [("ty", .str "g"), ("_aid", .str "other"), ("_gid", .str "7")]

/-- A unit is in its room on a server that accepts child servers. -/
def joinedRun : List Event := [announceUnit "k1", .connect "/?f=k1&s=drone" "peer"]

/-- It leaves the room and keeps its connection. -/
def leftRun : List Event :=
  joinedRun ++ [.message 0 (Text.stringify (.obj [("ty", .str "s"), ("mt", .num "9006")])) false]

theorem forwarded_stamps_joinedRun : ∃ s : Server,
    run Text.codec isAsciiAlphanumeric (start { enable_super_server := true }) joinedRun = some s ∧
    ∃ l, ((parseMessage Text.codec 0 (Text.stringify forgedFrame) false).final s).log = s.log ++ l ∧
      ∀ e ∈ l, s.Genuine Text.codec 0 e := by
  have h : (run Text.codec isAsciiAlphanumeric (start { enable_super_server := true }) joinedRun).map
      (fun s => (s.sockets 0).group) = some (some 0) := by decide +kernel
  obtain ⟨s, hs, hg⟩ := Option.map_eq_some_iff.mp h
  refine ⟨s, hs, (forwarded_stamps hs 0 (Text.stringify forgedFrame) false).mpr ?_⟩
  rintro ⟨hnone, -⟩
  rw [hg] at hnone
  exact absurd hnone (by simp)

/-- After a logout the same frame leaves the server with the stamps the client wrote. -/
theorem forwarded_stamps_leftRun : ∃ s : Server,
    run Text.codec isAsciiAlphanumeric (start { enable_super_server := true }) leftRun = some s ∧
    (s.sockets 0).loginRequest.map (fun l => l.accountID) = some (some (.str "acc")) ∧
    ∃ l message copy,
      ((parseMessage Text.codec 0 (Text.stringify forgedFrame) false).final s).log = s.log ++ l ∧
      .toChildren message false none ∈ l ∧ Text.codec.parse message = some copy ∧
      copy.field "_aid" = some (.str "other") ∧ copy.field "_gid" = some (.str "7") := by
  have h : (run Text.codec isAsciiAlphanumeric (start { enable_super_server := true }) leftRun).map
      (fun s => ((s.sockets 0).loginRequest.map fun l => l.accountID,
        ((parseMessage Text.codec 0 (Text.stringify forgedFrame) false).final s).log.drop
          s.log.length)) =
      some (some (some (.str "acc")), [.toChildren (Text.stringify (appendPath "unknown"
        (forgedFrame.setField "p" none))) false none]) := by decide +kernel
  have hparse : Text.codec.parse (Text.stringify (appendPath "unknown"
      (forgedFrame.setField "p" none))) =
        some (appendPath "unknown" (forgedFrame.setField "p" none)) := by decide +kernel
  obtain ⟨s, hs, hf⟩ := Option.map_eq_some_iff.mp h
  rw [Prod.mk.injEq] at hf
  obtain ⟨hlogin, hlog⟩ := hf
  obtain ⟨l, hl⟩ := (onlyShrinks_parseMessage Text.codec 0 (Text.stringify forgedFrame) false s).log
  rw [← hl, List.drop_left] at hlog
  exact ⟨s, hs, hlogin, l, _, _, hl.symm, by rw [hlog]; exact List.mem_singleton.mpr rfl, hparse,
    rfl, rfl⟩

end

end Server

end DroneEngage
