import DroneEngage.LiveAccounts

/-! The two tables that know units by name alone.

    Rooms belong to an account; the active senders and the UDP proxies are global, and a unit's rows
    there are the ones under its sender id. Which rows an operation can touch is said once
    (`keepsRows_roomStep`): an operation on behalf of a unit touches rows under the sender id of that
    unit only. Nothing compares accounts, so two units of different accounts that choose the same
    sender id share their rows. -/

namespace DroneEngage
open Js

namespace Server

open Action

/-! ### Operations that touch neither table -/

/-- The active senders and the proxies are what they were. -/
structure SameTables (s s' : Server) : Prop where
  active : s'.activeSenderIDsList = s.activeSenderIDsList
  proxies : s'.activeUdpProxy = s.activeUdpProxy

instance : IsPreorder Server SameTables where
  refl := fun _ => ⟨rfl, rfl⟩
  trans := fun _ _ _ h h' => ⟨h'.active.trans h.active, h'.proxies.trans h.proxies⟩

theorem sameTables_emit (e : Effect) : Moves SameTables (modify (emit e)) :=
  moves_modify fun _ => ⟨rfl, rfl⟩

theorem sameTables_rooms (s : Server) (sockets : SocketId → Socket) (accounts : Table AccountId)
    (accountHeap : AccountId → Account) (groupHeap : GroupId → Group) (nextAccount : AccountId)
    (nextGroup : GroupId) : s.SameTables
      { s with sockets, accounts, accountHeap, groupHeap, nextAccount, nextGroup } := ⟨rfl, rfl⟩

theorem sameTables_terminateSocket (ws : SocketId) : Moves SameTables (terminateSocket ws) :=
  moves_modify fun _ => ⟨rfl, rfl⟩

theorem sameTables_handleOrphanSocket (ws : SocketId) :
    Moves SameTables (handleOrphanSocket ws) :=
  moves_handleOrphanSocket sameTables_rooms sameTables_terminateSocket ws

theorem sameTables_delMemberFromGroup (ws : SocketId) :
    Moves SameTables (delMemberFromGroup ws) :=
  moves_delMemberFromGroup sameTables_rooms sameTables_terminateSocket ws

theorem sameTables_delMemberFromAccountByName (login : Option LoginRequest) (terminate : Bool) :
    Moves SameTables (delMemberFromAccountByName login terminate) :=
  moves_delMemberFromAccountByName sameTables_rooms sameTables_terminateSocket login terminate

theorem sameTables_addMemberToAccountGroup (ws : SocketId) :
    Moves SameTables (addMemberToAccountGroup ws) :=
  moves_addMemberToAccountGroup sameTables_rooms ws

/-! ### The rows under a name -/

/-- The rows under the name are what they were. -/
structure KeepsRows (k : String) (s s' : Server) : Prop where
  active : s'.activeSenderIDsList.own? k = s.activeSenderIDsList.own? k
  proxy : s'.activeUdpProxy.own? k = s.activeUdpProxy.own? k

instance (k : String) : IsPreorder Server (KeepsRows k) where
  refl := fun _ => ⟨rfl, rfl⟩
  trans := fun _ _ _ h h' => ⟨h'.active.trans h.active, h'.proxy.trans h.proxy⟩

section

variable {s s' : Server} {k : String} {ws : SocketId}

theorem SameTables.keepsRows (h : SameTables s s') (k : String) : KeepsRows k s s' :=
  ⟨by rw [h.active], by rw [h.proxies]⟩

theorem keepsRows_send (k : String) (v : SocketId) (message : Bytes) (isBinary : Bool) :
    Moves (KeepsRows k) (send v message isBinary) :=
  moves_send (fun _ => moves_modify fun _ => ⟨rfl, rfl⟩) v message isBinary

/-- A row written under another name. -/
theorem own?_assign_ne {α : Type} (proto : List String) (t : Table α) {k l : String} (h : l ≠ k)
    (a : α) : (t.assign proto k a).own? l = t.own? l := by
  rw [Table.assign]
  split
  · rfl
  · exact Table.own?_insert_ne t a h

theorem keepsRows_closeUDPSocket {name : Val} (hname : propKey name ≠ .ok k) :
    Moves (KeepsRows k) (closeUDPSocket name) := by
  refine moves_bind moves_get fun s => moves_bind (moves_ofExcept _) fun own => ?_
  cases hl : propKey name with
  | error e => exact moves_throw e
  | ok l =>
    have hne : k ≠ l := by rintro rfl; exact hname hl
    have hbind : ∀ f : String → Action Server Json, (ofExcept (.ok l) >>= f) = f l := fun _ => rfl
    rw [hbind]
    split
    · refine moves_bind (moves_modify fun s => ⟨rfl, ?_⟩) fun _ => moves_pure _
      change (s.activeUdpProxy.delete l).own? k = _
      rw [Table.own?_delete, if_neg hne]
    · exact moves_pure _

theorem keepsRows_openUDPSocket {name : Val} (hname : propKey name ≠ .ok k) (port1 port2 : Val) :
    Moves (KeepsRows k) (openUDPSocket name port1 port2) := by
  unfold openUDPSocket
  cases hl : propKey name with
  | error e => exact moves_throw e
  | ok l =>
    have hne : k ≠ l := by rintro rfl; exact hname hl
    exact moves_modify fun s => ⟨rfl, own?_assign_ne _ _ hne _⟩

theorem keepsRows_getUDPSocket {name : Val} (hname : propKey name ≠ .ok k) (socket1 socket2 : Val) :
    Moves (KeepsRows k) (getUDPSocket name socket1 socket2) := by
  refine moves_bind (moves_ofExcept _) fun port1 => moves_bind (moves_ofExcept _) fun port2 =>
    moves_bind (moves_ofExcept _) fun _ => moves_bind (moves_ofExcept _) fun _ =>
    moves_bind moves_get fun s => moves_bind (moves_ofExcept _) fun own =>
    moves_bind (moves_ofExcept _) fun l => ?_
  split
  · refine moves_ite (fun _ => moves_ite (fun _ => moves_pure _) fun _ => moves_pure _) fun _ => ?_
    exact moves_bind (keepsRows_closeUDPSocket hname) fun _ =>
      moves_bind (keepsRows_openUDPSocket hname _ _) fun _ => moves_pure _
  · exact moves_bind (keepsRows_openUDPSocket hname _ _) fun _ => moves_pure _

theorem keepsRows_acceptConnection (J : JsonCodec) {login : LoginRequest}
    (hname : propKey login.senderID ≠ .ok k) (ws : SocketId) :
    Moves (KeepsRows k) (_acceptConnection J login ws) := by
  have hactive : Moves (KeepsRows k) (addActiveSenderIDList login.senderID ws) := by
    unfold addActiveSenderIDList
    cases hl : propKey login.senderID with
    | error e => exact moves_throw e
    | ok l =>
      have hne : k ≠ l := by rintro rfl; exact hname hl
      exact moves_modify fun s => ⟨own?_assign_ne _ _ hne _, rfl⟩
  exact moves_bind (moves_modify fun _ => ⟨rfl, rfl⟩) fun _ => moves_bind hactive fun _ =>
    moves_bind (fun s => (sameTables_delMemberFromAccountByName _ _ s).keepsRows k) fun _ =>
      moves_bind (fun s => (sameTables_addMemberToAccountGroup ws s).keepsRows k) fun _ =>
        moves_bind moves_get fun _ => keepsRows_send k _ _ _

theorem keepsRows_forgetSender {login : LoginRequest}
    (hname : isNullish login.senderID = true ∨ propKey login.senderID ≠ .ok k) :
    Moves (KeepsRows k) (forgetSender (some login)) := by
  have hdelete : Moves (KeepsRows k) (deleteActiveSenderIDList login.senderID) := by
    unfold deleteActiveSenderIDList
    rcases hname with hnull | hname
    · rw [if_pos hnull]; exact moves_pure ()
    · refine moves_ite (fun _ => moves_pure ()) fun _ => ?_
      cases hl : propKey login.senderID with
      | error e => exact moves_throw e
      | ok l =>
        have hne : k ≠ l := by rintro rfl; exact hname hl
        refine moves_modify fun s => ⟨?_, rfl⟩
        change (s.activeSenderIDsList.delete l).own? k = _
        rw [Table.own?_delete, if_neg hne]
  have hemit : ∀ e, Moves (KeepsRows k) (modify (emit e)) := fun _ =>
    moves_modify fun _ => ⟨rfl, rfl⟩
  exact moves_bind hdelete fun _ => moves_bind (hemit _) fun _ => moves_bind moves_get fun _ =>
    moves_when fun _ => hemit _

/-- The handler of a close event touches rows under the sender id of the login. -/
theorem keepsRows_onWsClose (hs : s.Consistent) {login : LoginRequest}
    (hl : (s.sockets ws).loginRequest = some login)
    (hname : isNullish login.senderID = true ∨ propKey login.senderID ≠ .ok k) :
    KeepsRows k s ((onWsClose ws).final s) := by
  rw [onWsClose, final_get_bind]
  refine moves_ite (R := KeepsRows k) (fun _ => moves_pure ()) (fun _ => ?_) s
  refine moves_bind (fun s => (sameTables_delMemberFromAccountByName _ _ s).keepsRows k) fun _ =>
    moves_bind (moves_when fun hnull => ?_) fun _ => by rw [hl]; exact keepsRows_forgetSender hname
  refine moves_bind (keepsRows_closeUDPSocket ?_) fun _ => moves_pure ()
  rcases hs.name ws with hnone | ⟨login', hl', hsame⟩
  · rw [hnone] at hnull
    exact absurd hnull (by decide)
  · obtain rfl : login = login' := Option.some.inj (hl.symm.trans hl')
    rw [hsame] at hnull ⊢
    rw [Bool.not_eq_true'] at hnull
    exact hname.resolve_left (by rw [hnull]; simp)

theorem keepsRows_closeEvent (hs : s.Consistent) {login : LoginRequest}
    (hl : (s.sockets ws).loginRequest = some login)
    (hname : (s.sockets ws).terminated = true ∨ isNullish login.senderID = true ∨
      propKey login.senderID ≠ .ok k) : KeepsRows k s ((closeEvent ws).final s) := by
  have hclosed : (setSocket ws (fun w => { w with readyState := .closed }) s).Consistent :=
    hs.shrinks (shrinks_setSocket socketShrinks_closed (fun _ => rfl) s)
  have hself : (setSocket ws (fun w => { w with readyState := .closed }) s).sockets ws =
      { s.sockets ws with readyState := .closed } := setSocket_self ..
  have hrows : KeepsRows k s (setSocket ws (fun w => { w with readyState := .closed }) s) := ⟨rfl, rfl⟩
  rw [closeEvent, final_modify_bind, final_get_bind]
  refine trans_of (KeepsRows k) hrows ?_
  generalize setSocket ws (fun w => { w with readyState := .closed }) s = t at hclosed hself ⊢
  cases (t.sockets ws).listening with
  | false => exact refl_of (KeepsRows k) t
  | true =>
    change KeepsRows k t ((onWsClose ws).final t)
    rcases hname with hmark | hname
    · have hrun : onWsClose ws t = (.ok (), t) := onWsClose_terminated (by rw [hself]; exact hmark)
      rw [final, hrun]
      exact refl_of (KeepsRows k) t
    · exact keepsRows_onWsClose hclosed (by rw [hself]; exact hl) hname

/-- The operation is on behalf of this login. -/
def ActsFor (s : Server) (login : LoginRequest) : RoomOp → Prop
  | .accept l _ => l = login
  | .logout ws | .proxy ws | .close ws => (s.sockets ws).loginRequest = some login
  | .quiet | .removeDead _ => True
  | .progress _ => False

/-- The operation does not use the name: it accepts nobody under it, is no request of a vehicle for
    the proxy of that name, and no end of a connection under it. -/
def SparesName (k : String) (s : Server) : RoomOp → Prop
  | .accept login _ => propKey login.senderID ≠ .ok k
  | .proxy ws => propKey (s.sockets ws).name ≠ .ok k ∨
      ∀ login, (s.sockets ws).loginRequest = some login →
        login.actorType ≠ some (.str Const.actorDrone)
  | .close ws => (s.sockets ws).terminated = true ∨
      ∀ login, (s.sockets ws).loginRequest = some login →
        isNullish login.senderID = true ∨ propKey login.senderID ≠ .ok k
  | .quiet | .logout _ | .removeDead _ | .progress _ => True

/-- A unit that is no vehicle is refused. -/
theorem udpProxyCommand_refused (J : JsonCodec) (jmsg : Json) (h : ∀ login,
    (s.sockets ws).loginRequest = some login → login.actorType ≠ some (.str Const.actorDrone)) :
    (udpProxyCommand J jmsg ws).final s = s := by
  rw [udpProxyCommand, final_get_bind]
  cases hl : (s.sockets ws).loginRequest with
  | none => rfl
  | some login =>
    change (if login.actorType ≠ some (.str Const.actorDrone) then _ else _ : Action Server Unit).final s
      = s
    rw [if_pos (h login hl)]
    rfl

/-- An operation on behalf of a unit keeps the rows of the names it does not use. -/
theorem keepsRows_roomStep {J : JsonCodec} {o : RoomOp} {login : LoginRequest} (hs : s.Consistent)
    (ha : s.ActsFor login o) (hspares : s.SparesName k o) (h : RoomStep J s o s') :
    KeepsRows k s s' := by
  cases h with
  | quiet hq => exact ⟨by rw [hq.activeSenderIDsList], by rw [hq.activeUdpProxy]⟩
  | accept login hw => exact keepsRows_acceptConnection J hspares _ s
  | logout ws => exact (sameTables_delMemberFromGroup ws s).keepsRows k
  | removeDead ws => exact (sameTables_handleOrphanSocket ws s).keepsRows k
  | proxy ws jmsg =>
    rcases hspares with hname | hdrone
    · exact moves_udpProxyCommand_at J (keepsRows_send k) (keepsRows_getUDPSocket hname)
        (keepsRows_closeUDPSocket hname) jmsg
    · rw [udpProxyCommand_refused J jmsg hdrone]; exact refl_of (KeepsRows k) s
  | progress => exact ha.elim
  | @close _ ws hrun =>
    have hrows := keepsRows_closeEvent hs ha (hspares.imp_right fun h => h login ha)
    rw [final, hrun] at hrows
    exact hrows

/-! ### Whose ports a unit is told -/

/-- Two servers that differ in the proxies of other names only. -/
def SeesSame (k : String) (s t : Server) : Prop :=
  ∃ proxies, t = { s with activeUdpProxy := proxies } ∧
    proxies.own? k = s.activeUdpProxy.own? k ∧
    (proxies.own? "hasOwnProperty").isSome = (s.activeUdpProxy.own? "hasOwnProperty").isSome

theorem SeesSame.emit {t : Server} (h : SeesSame k s t) (e : Effect) :
    SeesSame k (s.emit e) (t.emit e) := by
  obtain ⟨proxies, rfl, hrow, hown⟩ := h
  exact ⟨proxies, rfl, hrow, hown⟩

theorem SeesSame.hasOwnProperty {name : Val} {proxies : Table UdpEntry}
    (hk : ∀ l, propKey name = .ok l → l = k) (hrow : proxies.own? k = s.activeUdpProxy.own? k)
    (hown : (proxies.own? "hasOwnProperty").isSome =
      (s.activeUdpProxy.own? "hasOwnProperty").isSome) :
    proxies.hasOwnProperty s.proto name = s.activeUdpProxy.hasOwnProperty s.proto name := by
  cases hl : propKey name with
  | error e => rw [Table.hasOwnProperty_of_error _ hl, Table.hasOwnProperty_of_error _ hl]
  | ok l =>
    obtain rfl := hk l hl
    rw [Table.hasOwnProperty_of_ok _ hl, Table.hasOwnProperty_of_ok _ hl, hrow, hown]

theorem twin_send {t : Server} (h : SeesSame k s t) (v : SocketId) (message : Bytes)
    (isBinary : Bool) : Twin (SeesSame k) (send v message isBinary) (send v message isBinary) s t := by
  refine twin_bind (twin_modify (h.emit _)) fun _ s' t' h' => twin_get_bind ?_
  obtain ⟨proxies, rfl, hrow, hown⟩ := h'
  exact twin_ite (fun _ => twin_throw _ ⟨proxies, rfl, hrow, hown⟩)
    fun _ => twin_pure _ ⟨proxies, rfl, hrow, hown⟩

theorem twin_closeUDPSocket {t : Server} {name : Val} (hk : ∀ l, propKey name = .ok l → l = k)
    (h : SeesSame k s t) :
    Twin (SeesSame k) (closeUDPSocket name) (closeUDPSocket name) s t := by
  obtain ⟨proxies, rfl, hrow, hown⟩ := h
  have hsame := SeesSame.hasOwnProperty hk hrow hown
  refine twin_get_bind ?_
  change Twin _ (ofExcept (s.activeUdpProxy.hasOwnProperty s.proto name) >>= _)
    (ofExcept (proxies.hasOwnProperty s.proto name) >>= _) _ _
  rw [hsame]
  refine twin_ofExcept_bind _ ⟨proxies, rfl, hrow, hown⟩ fun own _ =>
    twin_ofExcept_bind _ ⟨proxies, rfl, hrow, hown⟩ fun l hl => ?_
  obtain rfl := hk l hl
  dsimp only
  rw [hrow]
  split
  · refine twin_bind (twin_modify ⟨proxies.delete l, rfl, ?_, ?_⟩) fun _ s' t' h' =>
      twin_pure _ h'
    · change (proxies.delete l).own? l = (s.activeUdpProxy.delete l).own? l
      rw [Table.own?_delete_self, Table.own?_delete_self]
    · change _ = ((s.activeUdpProxy.delete l).own? "hasOwnProperty").isSome
      rw [Table.own?_delete, Table.own?_delete]
      split
      · rfl
      · exact hown
  · exact twin_pure _ ⟨proxies, rfl, hrow, hown⟩

theorem twin_openUDPSocket {t : Server} {name : Val} (hk : ∀ l, propKey name = .ok l → l = k)
    (h : SeesSame k s t) (port1 port2 : Val) :
    Twin (SeesSame k) (openUDPSocket name port1 port2) (openUDPSocket name port1 port2) s t := by
  obtain ⟨proxies, rfl, hrow, hown⟩ := h
  refine twin_ofExcept_bind _ ⟨proxies, rfl, hrow, hown⟩ fun l hl => ?_
  obtain rfl := hk l hl
  refine twin_modify ⟨proxies.assign s.proto l _, rfl, ?_, ?_⟩
  · rw [Table.assign, Table.assign]
    split
    · exact hrow
    · rw [Table.own?_insert_self, Table.own?_insert_self]
  · rw [Table.assign, Table.assign]
    split
    · exact hown
    · rw [Table.own?_insert, Table.own?_insert]
      split
      · rfl
      · exact hown

theorem twin_getUDPSocket {t : Server} {name : Val} (hk : ∀ l, propKey name = .ok l → l = k)
    (h : SeesSame k s t) (socket1 socket2 : Val) :
    Twin (SeesSame k) (getUDPSocket name socket1 socket2) (getUDPSocket name socket1 socket2)
      s t := by
  refine twin_ofExcept_bind _ h fun port1 _ => twin_ofExcept_bind _ h fun port2 _ =>
    twin_ofExcept_bind _ h fun _ _ => twin_ofExcept_bind _ h fun _ _ => twin_get_bind ?_
  obtain ⟨proxies, rfl, hrow, hown⟩ := h
  have hsame := SeesSame.hasOwnProperty hk hrow hown
  have hsee : SeesSame k s { s with activeUdpProxy := proxies } := ⟨proxies, rfl, hrow, hown⟩
  have hopen : ∀ {s' t' : Server}, SeesSame k s' t' → ∀ report : Option Json,
      Twin (SeesSame k) (do openUDPSocket name port1 port2; return report)
        (do openUDPSocket name port1 port2; return report) s' t' := fun h' report =>
    twin_bind (twin_openUDPSocket hk h' port1 port2) fun _ _ _ h'' => twin_pure _ h''
  change Twin _ (ofExcept (s.activeUdpProxy.hasOwnProperty s.proto name) >>= _)
    (ofExcept (proxies.hasOwnProperty s.proto name) >>= _) _ _
  rw [hsame]
  refine twin_ofExcept_bind _ hsee fun own _ => twin_ofExcept_bind _ hsee fun l hl => ?_
  obtain rfl := hk l hl
  dsimp only
  rw [hrow]
  split
  · refine twin_ite (fun _ => twin_ite (fun _ => twin_pure _ hsee) fun _ => twin_pure _ hsee)
      fun _ => ?_
    exact twin_bind (twin_closeUDPSocket hk hsee) fun _ _ _ h' => hopen h' none
  · exact hopen hsee none

/-- What a request for a proxy does depends on the proxy of the unit's own name only. -/
theorem twin_udpProxyCommand {t : Server} (J : JsonCodec) (jmsg : Json)
    (hk : ∀ l, propKey (s.sockets ws).name = .ok l → l = k) (h : SeesSame k s t) :
    Twin (SeesSame k) (udpProxyCommand J jmsg ws) (udpProxyCommand J jmsg ws) s t := by
  have hreply : ∀ jmsg ms {s' t' : Server}, SeesSame k s' t' →
      Twin (SeesSame k) (replyUdpProxy J jmsg ms ws) (replyUdpProxy J jmsg ms ws) s' t' := by
    intro jmsg ms s' t' h'
    refine twin_get_bind ?_
    have hname : (t'.sockets ws).name = (s'.sockets ws).name := by
      obtain ⟨proxies, rfl, -, -⟩ := h'; rfl
    rw [hname]
    exact twin_send h' _ _ _
  refine twin_get_bind ?_
  have hsocket : t.sockets ws = s.sockets ws := by obtain ⟨proxies, rfl, -, -⟩ := h; rfl
  have hconfig : t.config = s.config := by obtain ⟨proxies, rfl, -, -⟩ := h; rfl
  rw [hsocket, hconfig]
  cases (s.sockets ws).loginRequest with
  | none => exact twin_throw _ h
  | some login =>
    refine twin_ite (fun _ => twin_pure _ h) fun _ => twin_ofExcept_bind _ h fun en _ =>
      twin_ite (fun _ => ?_) fun _ => twin_ite (fun _ => ?_) fun _ => twin_pure _ h
    · -- open
      refine twin_ofExcept_bind _ h fun ms _ => twin_bind (twin_getUDPSocket hk h _ _)
        fun report s' t' h' => ?_
      cases report with
      | none => exact twin_pure _ h'
      | some report => exact hreply _ _ h'
    · -- close
      exact twin_bind (twin_closeUDPSocket hk h) fun _ _ _ h' => hreply _ _ h'

/-- A request for a proxy tells the unit nothing about the proxy of another name. -/
theorem udpProxyCommand_log (J : JsonCodec) (jmsg : Json) (hname : propKey (s.sockets ws).name ≠ .ok k)
    (hrow : (s.activeUdpProxy.own? k).isSome) (entry : UdpEntry) :
    ((udpProxyCommand J jmsg ws).final
        { s with activeUdpProxy := s.activeUdpProxy.insert k entry }).log =
      ((udpProxyCommand J jmsg ws).final s).log := by
  obtain ⟨l, hl, hne⟩ : ∃ l, (∀ m, propKey (s.sockets ws).name = .ok m → m = l) ∧ l ≠ k := by
    cases hkey : propKey (s.sockets ws).name with
    | ok m =>
      refine ⟨m, fun _ h => (Except.ok.inj h).symm, ?_⟩
      rintro rfl
      exact hname hkey
    | error e =>
      have hall : ∀ l m, (Except.error e : Except JsError String) = .ok m → m = l := fun l m h =>
        absurd h (by simp)
      by_cases hk : k = ""
      · exact ⟨"name", hall _, by rw [hk]; decide⟩
      · exact ⟨"", hall _, fun h => hk h.symm⟩
  have hsee : SeesSame l s { s with activeUdpProxy := s.activeUdpProxy.insert k entry } := by
    refine ⟨_, rfl, Table.own?_insert_ne _ _ hne, ?_⟩
    rw [Table.own?_insert]
    split
    · next h => rw [h, hrow]; rfl
    · rfl
  obtain ⟨-, proxies, hfin, -, -⟩ := twin_udpProxyCommand J jmsg hl hsee
  rw [hfin]

/-! ### Units of different accounts -/

/-- The operation leaves a unit of this name alone: its rows stay, and nobody is told the ports of
    its proxy. -/
structure LeavesUnit (J : JsonCodec) (k : String) (o : RoomOp) (s s' : Server) : Prop where
  rows : KeepsRows k s s'
  ports : ∀ ws, o = .proxy ws → (s.activeUdpProxy.own? k).isSome → ∀ jmsg entry,
    ((udpProxyCommand J jmsg ws).final
        { s with activeUdpProxy := s.activeUdpProxy.insert k entry }).log =
      ((udpProxyCommand J jmsg ws).final s).log

/-- What holds of the sender ids of all connected units that are in another account than the login. -/
def ForeignUnits (s : Server) (login : LoginRequest) (P : String → Prop) : Prop :=
  ∀ v l k, (s.sockets v).loginRequest = some l → (s.sockets v).readyState ≠ .closed →
    ¬ SameId login.accountID l.accountID → propKey l.senderID = .ok k → P k

end

/-- In every run, an operation on behalf of a unit that does not use the sender id of a connected
    unit of another account leaves all those units alone. A request of a client that is no vehicle,
    and the end of a connection that is marked, use no name. -/
theorem foreign_units_untouched (J : JsonCodec) (config : Config) {s s' : Server} {o : RoomOp}
    {login : LoginRequest} (h : Lts.Path (RoomStep J) (fun _ _ => True) (start config) s)
    (hstep : RoomStep J s o s') (ha : s.ActsFor login o)
    (hspares : s.ForeignUnits login fun k => s.SparesName k o) :
    s.ForeignUnits login fun k => LeavesUnit J k o s s' := by
  intro v l k hl hopen hdiff hk
  have hs : s.Consistent := h.invariant (fun hs _ hstep => hs.roomStep hstep) (consistent_start config)
  have hname := hspares v l k hl hopen hdiff hk
  refine ⟨keepsRows_roomStep hs ha hname hstep, fun ws ho hrow jmsg entry => ?_⟩
  subst ho
  rcases hname with hname | hdrone
  · exact udpProxyCommand_log J jmsg hname hrow entry
  · have hrefused := udpProxyCommand_refused
      (s := { s with activeUdpProxy := s.activeUdpProxy.insert k entry }) J jmsg hdrone
    rw [hrefused, udpProxyCommand_refused J jmsg hdrone]

/-- A ground station of another account, with another sender id than the vehicle, logs in. -/
theorem foreign_units_untouched_plainLogin : ∃ s s' : Server,
    Lts.Path (RoomStep Text.codec) (fun _ _ => True) (start {}) s ∧
    RoomStep Text.codec s (.accept { plainLogin "gcs" "g" with accountID := some (.str "other") } 1)
      s' ∧
    s.activeSenderIDsList.own? "drone" = some 0 ∧ (s.sockets 0).readyState = .isOpen ∧
    LeavesUnit Text.codec "drone"
      (.accept { plainLogin "gcs" "g" with accountID := some (.str "other") } 1) s s' := by
  have hopen : Lts.Path (RoomStep Text.codec) (fun _ _ => True) (start {}) twoSockets :=
    .single (o := .quiet) trivial (.quiet ⟨rfl, rfl, rfl, rfl, rfl, rfl, rfl, rfl, rfl,
      Nat.zero_le 2, fun ws => Or.inr ⟨Nat.zero_le ws, rfl, rfl, rfl, rfl, rfl⟩⟩)
  have hdrone := hopen.tail (o := RoomOp.accept (plainLogin "drone" "d") 0) trivial
    (.accept (plainLogin "drone" "d") ⟨rfl, rfl, by decide, rfl, by decide⟩)
  obtain ⟨t, ht⟩ : ∃ t, t = (_acceptConnection Text.codec (plainLogin "drone" "d") 0).final
    twoSockets := ⟨_, rfl⟩
  rw [← ht] at hdrone
  have hready : t.Ready 1 := by
    rw [ht]; exact ⟨by decide +kernel, by decide +kernel, by decide +kernel, by decide +kernel,
      by decide +kernel⟩
  have hfacts : t.activeSenderIDsList.own? "drone" = some 0 ∧
      (t.sockets 0).loginRequest = some (plainLogin "drone" "d") ∧
      (t.sockets 0).readyState = .isOpen ∧ t.nextSocket = 2 ∧
      (t.sockets 1).loginRequest = none := by
    rw [ht]; decide +kernel
  obtain ⟨hrow, hlogin, hstate, hnext, hnone⟩ := hfacts
  have hs : t.Consistent := hdrone.invariant (fun hs _ hstep => hs.roomStep hstep)
    (consistent_start {})
  refine ⟨t, _, hdrone, .accept _ hready, hrow, hstate,
    foreign_units_untouched Text.codec {} hdrone (.accept _ hready) rfl ?_ 0 _ "drone" hlogin
      (by rw [hstate]; decide) ?_ (propKey_str _)⟩
  · intro v l k hl _ _ hk
    -- the vehicle is the only unit
    have hv : v = 0 := by
      by_contra hne
      by_cases hone : v = 1
      · rw [hone, hnone] at hl; exact absurd hl (by simp)
      · rw [hs.fresh v (by rw [hnext]; grind)] at hl; exact absurd hl (by simp)
    rw [hv, hlogin] at hl
    rw [← Option.some.inj hl, plainLogin, propKey_str] at hk
    rw [← Except.ok.inj hk]
    change propKey (some (.str "gcs")) ≠ _
    rw [propKey_str]
    decide
  · rintro ⟨k, hother, hacc⟩
    have h : "other" = "acc" := (Except.ok.inj ((propKey_str _).symm.trans hother)).trans
      (Except.ok.inj ((propKey_str _).symm.trans hacc)).symm
    exact absurd h (by decide)

/-- AUTH announces a vehicle of this account. -/
def announceIn (aid key : String) : Event :=
  .authMessage (Text.stringify (.obj [("c", .str "b"),
    ("d", .obj [("a", .str aid), ("b", .str "1"), ("r", .str "q"), ("at", .str "d")])])) key

/-- A vehicle of account `other` logs in under the sender id of a connected vehicle of account `acc`,
    and takes its row of the active senders. -/
theorem foreign_units_sameSender : ∃ s s' : Server,
    run Text.codec isAsciiAlphanumeric (start {})
      [announceIn "acc" "k1", .connect "/?f=k1&s=drone" "peer", announceIn "other" "k2"] = some s ∧
    step Text.codec isAsciiAlphanumeric s (.connect "/?f=k2&s=drone" "peer") = some s' ∧
    (s.sockets 0).loginRequest.bind (·.accountID) = some (.str "acc") ∧
    (s.sockets 0).readyState = .isOpen ∧
    (s'.sockets 1).loginRequest.bind (·.accountID) = some (.str "other") ∧
    s.activeSenderIDsList.own? "drone" = some 0 ∧ s'.activeSenderIDsList.own? "drone" = some 1 := by
  have h : (run Text.codec isAsciiAlphanumeric (start {})
      [announceIn "acc" "k1", .connect "/?f=k1&s=drone" "peer", announceIn "other" "k2"]).bind
      (fun s => (step Text.codec isAsciiAlphanumeric s (.connect "/?f=k2&s=drone" "peer")).map
        fun s' => ((s.sockets 0).loginRequest.bind (·.accountID), (s.sockets 0).readyState,
          (s'.sockets 1).loginRequest.bind (·.accountID), s.activeSenderIDsList.own? "drone",
          s'.activeSenderIDsList.own? "drone")) =
      some (some (.str "acc"), .isOpen, some (.str "other"), some 0, some 1) := by decide +kernel
  obtain ⟨s, hs, h⟩ := Option.bind_eq_some_iff.mp h
  obtain ⟨s', hs', hf⟩ := Option.map_eq_some_iff.mp h
  simp only [Prod.mk.injEq] at hf
  obtain ⟨h₁, h₂, h₃, h₄, h₅⟩ := hf
  exact ⟨s, s', hs, hs', h₁, h₂, h₃, h₄, h₅⟩

end Server

end DroneEngage
