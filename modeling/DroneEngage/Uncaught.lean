import DroneEngage.StaleClose

/-! Exceptions that end the process.

    No handler of a client's frames or of the auth timer lets an exception out. The handlers of a new
    connection and of the close event run outside any `try`; each of them can be made to throw, by
    the URL or by what the tables hold when they run. `Safe` says for every event when it is not, in the
    states in which no prototype has been written to. -/

namespace DroneEngage
open Js

/-- An event of a client's connection. -/
def Event.isClient : Event → Bool
  | .connect .. | .message .. | .authTimeout _ | .close _ => true
  | _ => false

namespace Server

/-! ### What the handlers outside a `try` rely on -/

/-- The cleanup by name can read the account table: it is not consulted, or the account id has a
    text, and that is not the name of an inherited property without a row of its own. -/
def AccountReadable (s : Server) (login : LoginRequest) : Prop :=
  isNullish login.accountID = true ∨ isNullish login.senderID = true ∨
    ∃ slot, s.accounts.index s.proto login.accountID = .ok slot ∧ slot ≠ .inherited

/-- The table's `hasOwnProperty` is the inherited method. -/
def Unshadowed {α : Type} (t : Table α) : Prop := t.own? "hasOwnProperty" = none

/-- A login that `_acceptConnection` gets through, in the rooms as they are. -/
def LocalSafe (s : Server) (login : LoginRequest) : Prop :=
  s.AccountReadable login ∧ Unshadowed s.accounts ∧
  ∀ k a, propKey login.accountID = .ok k → s.accounts.own? k = some a →
    Unshadowed (s.accountHeap a).groups ∧ ∀ l g, propKey login.groupID = .ok l →
      (s.accountHeap a).groups.own? l = some g → Unshadowed (s.groupHeap g).units

/-- A URL that `fn_onConnect_Handler` gets through. -/
def ConnectSafe (s : Server) (url : String) : Prop :=
  Unshadowed (getHeaderParams s.proto url) ∧
  (s.config.local_server_enabled = true → s.config.ws_auth_no_frame_old_compatibility = true →
    ((getHeaderParams s.proto url).own? Const.loginTempKey).isSome →
    s.LocalSafe (localLogin s.config (getHeaderParams s.proto url)))

/-- A socket whose cleanup `fn_onWsClose` gets through. -/
structure CloseSafe (s : Server) (ws : SocketId) : Prop where
  account : ∀ login, (s.sockets ws).loginRequest = some login → s.AccountReadable login
  proxy : isNullish (s.sockets ws).name = true ∨
    ∃ b, s.activeUdpProxy.hasOwnProperty s.proto (s.sockets ws).name = .ok b
  sender : ∀ login, (s.sockets ws).loginRequest = some login →
    isNullish login.senderID = true ∨ ∃ k, propKey login.senderID = .ok k

/-- The event's handler lets no exception out, by what it is given and by the state it finds. -/
def Safe (s : Server) : Event → Prop
  | .connect url _ => s.ConnectSafe url
  | .close ws => (s.sockets ws).listening = true → (s.sockets ws).terminated = false →
      s.CloseSafe ws
  | _ => True

open Action

/-! ### Frames and timers -/

section

variable (J : JsonCodec) (isAlphanumeric : String → Bool)

theorem not_escapes_sendAuthAck (reason : Option String) (ws : SocketId) (s : Server) :
    ¬ (sendAuthAck J reason ws).Escapes s :=
  not_escapes_attempt fun _ s' => not_escapes_pure () s'

theorem not_escapes_closeSocket (ws : SocketId) (s : Server) : ¬ (closeSocket ws).Escapes s :=
  not_escapes_modify _ s

theorem not_escapes_parseMessage (ws : SocketId) (message : Bytes) (isBinary : Bool)
    (s : Server) : ¬ (parseMessage J ws message isBinary).Escapes s := by
  rw [parseMessage, escapes_get_bind]
  cases s.injectPermission J ws message isBinary with
  | none => exact not_escapes_pure () s
  | some p => exact not_escapes_attempt fun _ s' => not_escapes_pure () s'

theorem not_escapes_refuseAuthFrame (reason : String) (ws : SocketId) (s : Server) :
    ¬ (refuseAuthFrame J reason ws).Escapes s :=
  not_escapes_bind (not_escapes_sendAuthAck J _ ws s) fun _ _ =>
    not_escapes_bind (not_escapes_modify _ _) fun _ _ => not_escapes_closeSocket ws _

theorem not_escapes_authenticateFrame (parsed : Json) (ws : SocketId) (s : Server) :
    ¬ (authenticateFrame J isAlphanumeric parsed ws).Escapes s := by
  have hack : ∀ reason s', ¬ (do
      sendAuthAck J reason ws
      closeSocket ws : Action Server Unit).Escapes s' := fun reason s' =>
    not_escapes_bind (not_escapes_sendAuthAck J reason ws s') fun _ _ =>
      not_escapes_closeSocket ws _
  rw [authenticateFrame, escapes_modify_bind, escapes_get_bind]
  refine not_escapes_bind (not_escapes_attempt fun _ s' => ?_) fun completed _ => ?_
  · exact not_escapes_bind (not_escapes_sendAuthAck J _ ws s') fun _ _ =>
      not_escapes_bind (not_escapes_closeSocket ws _) fun _ _ => not_escapes_pure false _
  · cases completed with
    | false => exact not_escapes_pure () _
    | true =>
      rw [if_pos rfl, escapes_get_bind]
      split
      · exact not_escapes_sendAuthAck J none ws _
      · exact hack _ _

theorem not_escapes_authFrameHandler (ws : SocketId) (message : Bytes) (s : Server) :
    ¬ (authFrameHandler J isAlphanumeric ws message).Escapes s := by
  rw [authFrameHandler, escapes_modify_bind, escapes_get_bind]
  split
  · exact not_escapes_pure () _
  · cases J.parse message with
    | none => exact not_escapes_refuseAuthFrame J _ ws _
    | some parsed =>
      by_cases h : isAuthFrame parsed = true
      · simp only [if_pos h]; exact not_escapes_authenticateFrame J isAlphanumeric parsed ws _
      · simp only [if_neg h]; exact not_escapes_refuseAuthFrame J _ ws _

theorem not_escapes_messageEvent (ws : SocketId) (message : Bytes) (isBinary : Bool)
    (s : Server) : ¬ (messageEvent J isAlphanumeric ws message isBinary).Escapes s := by
  rw [messageEvent, escapes_get_bind]
  exact not_escapes_bind (not_escapes_when fun _ => not_escapes_parseMessage J ws message isBinary s)
    fun _ _ => not_escapes_when fun _ => not_escapes_authFrameHandler J isAlphanumeric ws message _

theorem not_escapes_authTimeout (ws : SocketId) (s : Server) : ¬ (authTimeout J ws).Escapes s := by
  rw [authTimeout, escapes_modify_bind, escapes_get_bind]
  split
  · exact not_escapes_bind (not_escapes_modify _ _) fun _ _ =>
      not_escapes_bind (not_escapes_sendAuthAck J _ ws _) fun _ _ => not_escapes_closeSocket ws _
  · exact not_escapes_pure () _

end

/-! ### The cleanup of an account -/

theorem not_escapes_deleteMember (g : GroupId) (unitname : Val) (terminate : Bool) (s : Server) :
    ¬ (deleteMemberByName g unitname terminate).Escapes s :=
  not_escapes_attempt fun _ s' => not_escapes_pure () s'

theorem not_escapes_delMemberFromAccount {s : Server} {a : AccountId} {k : String}
    (hk : propKey (s.accountHeap a).accountID = .ok k) (unitname : Val)
    (terminate : Bool) : ¬ (delMemberFromAccount a unitname terminate).Escapes s := by
  rw [delMemberFromAccount, escapes_get_bind]
  refine not_escapes_bind (not_escapes_forEach _ fun g s' =>
    not_escapes_deleteMember g unitname terminate s') fun _ _ => ?_
  rw [escapes_get_bind]
  split
  · rw [(moves_forEach (R := Shrinks) _ (fun g _ =>
      onlyShrinks_deleteMemberByName g unitname terminate) s).accountID a, hk, escapes_ok_bind]
    exact not_escapes_modify _ _
  · exact not_escapes_pure () _

theorem escapes_delMember_iff {s : Server} (hid : ∀ k a, s.accounts.own? k = some a →
      propKey (s.accountHeap a).accountID = .ok k) (login : LoginRequest) (terminate : Bool) : (delMemberFromAccountByName (some login) terminate).Escapes s ↔
      ¬ s.AccountReadable login := by
  simp only [delMemberFromAccountByName]
  by_cases hnull : (isNullish login.accountID || isNullish login.senderID) = true
  · rw [if_pos hnull]
    refine iff_of_false (not_escapes_pure () s) fun h => h ?_
    rcases Bool.or_eq_true_iff.mp hnull with h | h
    · exact Or.inl h
    · exact Or.inr (Or.inl h)
  · rw [if_neg hnull, escapes_get_bind]
    have hn : isNullish login.accountID ≠ true ∧ isNullish login.senderID ≠ true := by
      rw [Bool.or_eq_true_iff] at hnull
      exact not_or.mp hnull
    have hread : s.AccountReadable login ↔
        ∃ slot, s.accounts.index s.proto login.accountID = .ok slot ∧ slot ≠ .inherited :=
      ⟨fun h => (h.resolve_left hn.1).resolve_left hn.2, fun h => Or.inr (Or.inr h)⟩
    rw [hread]
    cases hi : s.accounts.index s.proto login.accountID with
    | error e => exact iff_of_true (escapes_error_bind e _ s) (by simp)
    | ok slot =>
      rw [escapes_ok_bind]
      cases slot with
      | absent => exact iff_of_false (not_escapes_pure () s) (by simp)
      | inherited => exact iff_of_true (escapes_throw _ s) (by simp)
      | own a =>
        have hown : ∃ k, s.accounts.own? k = some a := by
          rw [Table.index] at hi
          cases hk : propKey login.accountID with
          | error e => rw [hk] at hi; exact absurd hi (by simp [Except.map])
          | ok k =>
            rw [hk] at hi
            exact ⟨k, Table.get_eq_own_iff.mp (Except.ok.inj hi)⟩
        obtain ⟨k, hk⟩ := hown
        exact iff_of_false (not_escapes_delMemberFromAccount (hid k a hk) _ _)
          (by simp)

/-! ### The close event -/

/-- What is outside the rooms is not touched. -/
structure OutsideKept (s s' : Server) : Prop where
  proxies : s'.activeUdpProxy = s.activeUdpProxy
  proto : s'.proto = s.proto
  sendFails : s'.sendFails = s.sendFails

instance : IsPreorder Server OutsideKept where
  refl := fun _ => ⟨rfl, rfl, rfl⟩
  trans := fun _ _ _ h h' => ⟨h'.proxies.trans h.proxies, h'.proto.trans h.proto,
    h'.sendFails.trans h.sendFails⟩

theorem outsideKept_delMemberFromAccountByName (login : Option LoginRequest) (terminate : Bool) :
    Moves OutsideKept (delMemberFromAccountByName login terminate) :=
  moves_delMemberFromAccountByName (fun _ _ _ _ _ _ _ => ⟨rfl, rfl, rfl⟩)
    (fun _ => moves_modify fun _ => ⟨rfl, rfl, rfl⟩) login terminate

theorem escapes_closeUDPSocket_iff (name : Val) (s : Server) :
    (closeUDPSocket name).Escapes s ↔ ¬ ∃ b, s.activeUdpProxy.hasOwnProperty s.proto name = .ok b := by
  rw [closeUDPSocket, escapes_get_bind]
  rcases Table.hasOwnProperty_cases s.proto s.activeUdpProxy name with ⟨e, he⟩ | ⟨k, hk, hown⟩
  · rw [he]
    exact iff_of_true (escapes_error_bind e _ s) (by simp)
  · rw [hown, escapes_ok_bind, hk, escapes_ok_bind]
    refine iff_of_false ?_ (by simp)
    split
    · exact not_escapes_bind (not_escapes_modify _ s) fun _ _ => not_escapes_pure _ _
    · exact not_escapes_pure _ s

theorem escapes_deleteActive_iff (senderID : Val) (s : Server) :
    (deleteActiveSenderIDList senderID).Escapes s ↔
      ¬ (isNullish senderID = true ∨ ∃ k, propKey senderID = .ok k) := by
  rw [deleteActiveSenderIDList]
  split
  · next h => exact iff_of_false (not_escapes_pure () s) fun hn => hn (Or.inl h)
  · next h =>
    cases hk : propKey senderID with
    | error e => exact iff_of_true (escapes_error_bind e _ s) (by simp [h])
    | ok k => exact iff_of_false (not_escapes_modify _ s) (by simp)

theorem escapes_forgetSender_iff (login? : Option LoginRequest) (s : Server) :
    (forgetSender login?).Escapes s ↔ ¬ ∀ login, login? = some login →
      isNullish login.senderID = true ∨ ∃ k, propKey login.senderID = .ok k := by
  cases login? with
  | none => exact iff_of_false (not_escapes_pure () s) (by simp)
  | some login =>
    simp only [forgetSender, Option.some.injEq, forall_eq']
    rw [escapes_seq_iff, escapes_deleteActive_iff]
    refine or_iff_left fun h => ?_
    exact not_escapes_bind (not_escapes_modify _ _) (fun _ _ =>
      not_escapes_when fun _ => not_escapes_modify _ _) h.2

theorem escapes_onWsClose_iff {s : Server} (hs : s.Consistent) {ws : SocketId}
    (ht : (s.sockets ws).terminated = false) :
    (onWsClose ws).Escapes s ↔ ¬ s.CloseSafe ws := by
  have haccount : (delMemberFromAccountByName (s.sockets ws).loginRequest true).Escapes s ↔
      ¬ ∀ login, (s.sockets ws).loginRequest = some login → s.AccountReadable login := by
    cases hl : (s.sockets ws).loginRequest with
    | none => exact iff_of_false (not_escapes_pure () s) (by simp)
    | some login => rw [escapes_delMember_iff hs.account_key]; simp
  have hkept := outsideKept_delMemberFromAccountByName (s.sockets ws).loginRequest true s
  have hproxy : ∀ t : Server, s.OutsideKept t → ((Action.when (!isNullish (s.sockets ws).name) do
      let _ ← closeUDPSocket (s.sockets ws).name : Action Server Unit).Escapes t ↔
        ¬ (isNullish (s.sockets ws).name = true ∨
          ∃ b, s.activeUdpProxy.hasOwnProperty s.proto (s.sockets ws).name = .ok b)) := by
    intro t hst
    cases hn : isNullish (s.sockets ws).name with
    | true => exact iff_of_false (not_escapes_pure () t) (by simp)
    | false =>
      rw [← hst.proxies, ← hst.proto]
      simp only [Bool.not_false, Bool.false_eq_true, false_or]
      rw [← escapes_closeUDPSocket_iff]
      change (closeUDPSocket (s.sockets ws).name >>= fun _ => pure ()).Escapes t ↔ _
      rw [escapes_bind_iff]
      exact or_iff_left fun ⟨_, _, h⟩ => not_escapes_pure () _ h
  rw [onWsClose, escapes_get_bind, if_neg (by rw [ht]; exact Bool.false_ne_true), escapes_seq_iff,
    escapes_seq_iff, haccount, hproxy _ hkept, escapes_forgetSender_iff]
  constructor
  · rintro (h | ⟨-, h | ⟨-, h⟩⟩) hsafe
    · exact h hsafe.account
    · exact h hsafe.proxy
    · exact h hsafe.sender
  · intro h
    by_contra hno
    obtain ⟨ha, hno⟩ := not_or.mp hno
    obtain ⟨hp, hno⟩ := not_or.mp fun h' => hno ⟨ha, h'⟩
    exact h ⟨not_not.mp ha, not_not.mp hp, not_not.mp fun h' => hno ⟨hp, h'⟩⟩

/-- The close event ends the process exactly when the cleanup is not safe. -/
theorem escapes_closeEvent_iff {s : Server} (hs : s.Consistent) (ws : SocketId) :
    (closeEvent ws).Escapes s ↔ ¬ s.Safe (.close ws) := by
  have hclosed : (setSocket ws (fun w => { w with readyState := .closed }) s).Consistent :=
    hs.shrinks (shrinks_setSocket socketShrinks_closed (fun _ => rfl) s)
  have hsafe : (setSocket ws (fun w => { w with readyState := .closed }) s).CloseSafe ws ↔
      s.CloseSafe ws := by
    constructor
    · intro h
      have hself := setSocket_self ws (fun w => { w with readyState := .closed }) s
      exact ⟨fun l hl => h.account l (by rw [hself]; exact hl), by
        have := h.proxy; rw [hself] at this; exact this,
        fun l hl => h.sender l (by rw [hself]; exact hl)⟩
    · intro h
      have hself := setSocket_self ws (fun w => { w with readyState := .closed }) s
      exact ⟨fun l hl => h.account l (by rw [hself] at hl; exact hl), by
        rw [hself]; exact h.proxy, fun l hl => h.sender l (by rw [hself] at hl; exact hl)⟩
  rw [closeEvent, escapes_modify_bind, escapes_get_bind, setSocket_self]
  cases hl : (s.sockets ws).listening with
  | false =>
    refine iff_of_false (not_escapes_pure () _) fun h => h fun hl' => ?_
    rw [hl] at hl'; exact absurd hl' (by simp)
  | true =>
    change (onWsClose ws).Escapes _ ↔ _
    cases ht : (s.sockets ws).terminated with
    | true =>
      refine iff_of_false ?_ fun h => h fun _ ht' => ?_
      · rw [onWsClose, escapes_get_bind, if_pos (by rw [setSocket_self]; exact ht)]
        exact not_escapes_pure () _
      · rw [ht] at ht'; exact absurd ht' (by simp)
    | false =>
      rw [escapes_onWsClose_iff hclosed (by rw [setSocket_self]; exact ht), hsafe]
      exact not_congr ⟨fun h _ _ => h, fun h => h hl ht⟩

/-! ### A new connection -/

section

variable (J : JsonCodec) (isAlphanumeric : String → Bool)

theorem hasOwnProperty_ok_of_unshadowed {α : Type} {proto : List String} {t : Table α} {v : Val}
    {k : String} (ht : Unshadowed t) (hk : propKey v = .ok k) :
    t.hasOwnProperty proto v = .ok (t.own? k).isSome := by
  rw [Table.hasOwnProperty_of_ok t hk, ht]
  simp

/-- Deleting rows shadows nothing. -/
theorem Unshadowed.of_imp {α : Type} {t t' : Table α} (ht : Unshadowed t)
    (h : ∀ k a, t'.own? k = some a → t.own? k = some a) : Unshadowed t' := by
  unfold Unshadowed at ht ⊢
  cases h' : t'.own? "hasOwnProperty" with
  | none => rfl
  | some a => rw [h _ a h'] at ht; exact ht

theorem not_escapes_addMember {s : Server} {g : GroupId} {v : Val} {k : String}
    (ht : Unshadowed (s.groupHeap g).units) (hk : propKey v = .ok k) (ws : SocketId) :
    ¬ (addMember g v ws).Escapes s := by
  rw [addMember, escapes_get_bind, hasOwnProperty_ok_of_unshadowed ht hk, escapes_ok_bind]
  split
  · exact not_escapes_pure _ s
  · rw [hk, escapes_ok_bind]
    exact not_escapes_bind (not_escapes_modify _ _) fun _ _ =>
      not_escapes_bind (not_escapes_modify _ _) fun _ _ => not_escapes_pure _ _

theorem not_escapes_addMemberToGroup {s : Server} {a : AccountId} {v groupname : Val}
    {k l : String} (ht : Unshadowed (s.accountHeap a).groups)
    (hu : ∀ g, (s.accountHeap a).groups.own? l = some g → Unshadowed (s.groupHeap g).units)
    (hk : propKey v = .ok k) (hl : propKey groupname = .ok l) (ws : SocketId) :
    ¬ (addMemberToGroup a v groupname ws).Escapes s := by
  rw [addMemberToGroup, escapes_get_bind, hasOwnProperty_ok_of_unshadowed ht hl, escapes_ok_bind, hl,
    escapes_ok_bind]
  cases hg : (s.accountHeap a).groups.own? l with
  | some g => exact not_escapes_addMember (hu g hg) hk ws
  | none =>
    -- a new group has no members
    have hnew : Unshadowed ((openGroup a groupname l s).groupHeap s.nextGroup).units := by
      simp [openGroup, Unshadowed]
    exact not_escapes_addMember hnew hk ws

theorem not_escapes_addMemberToAccountGroup {s : Server} {login : LoginRequest} {ws : SocketId}
    {k l m : String} (hlog : (s.sockets ws).loginRequest = some login)
    (ht : Unshadowed s.accounts) (hm : propKey login.accountID = .ok m)
    (hu : ∀ a, s.accounts.own? m = some a → Unshadowed (s.accountHeap a).groups ∧
      ∀ g, (s.accountHeap a).groups.own? l = some g → Unshadowed (s.groupHeap g).units)
    (hk : propKey login.senderID = .ok k) (hl : propKey login.groupID = .ok l) :
    ¬ (addMemberToAccountGroup ws).Escapes s := by
  rw [addMemberToAccountGroup, escapes_get_bind, hlog]
  simp only
  rw [hasOwnProperty_ok_of_unshadowed ht hm, escapes_ok_bind, hm, escapes_ok_bind]
  cases ha : s.accounts.own? m with
  | some a => exact not_escapes_addMemberToGroup (hu a ha).1 (hu a ha).2 hk hl ws
  | none =>
    -- a new account has no groups
    have hnew : (openAccount login.accountID m s).accountHeap s.nextAccount =
        { accountID := login.accountID, groups := .empty } := by simp [openAccount]
    have hempty : Unshadowed ((openAccount login.accountID m s).accountHeap s.nextAccount).groups := by
      rw [hnew]; rfl
    refine not_escapes_addMemberToGroup (s := openAccount login.accountID m s) hempty ?_ hk hl ws
    intro g hg
    rw [hnew] at hg
    exact absurd hg (by simp)

theorem outsideKept_addMemberToAccountGroup (ws : SocketId) :
    Moves OutsideKept (addMemberToAccountGroup ws) :=
  moves_addMemberToAccountGroup (fun _ _ _ _ _ _ _ => ⟨rfl, rfl, rfl⟩) ws

theorem not_escapes_sendOkMessage {ws : SocketId} {s : Server} (hsend : s.sendFails ws = false) :
    ¬ (sendOkMessage J ws).Escapes s := by
  rw [sendOkMessage, escapes_get_bind, send, escapes_modify_bind, escapes_get_bind]
  rw [if_neg (by rw [emit_sendFails, hsend]; exact Bool.false_ne_true)]
  exact not_escapes_pure () _

/-- The rooms part of `_acceptConnection` gets through when no table it reads shadows
    `hasOwnProperty`, the account can be read, and the ids have texts. -/
theorem not_escapes_enterRoom {s : Server} {login : LoginRequest} {ws : SocketId} {k l m : String}
    (hid : ∀ k a, s.accounts.own? k = some a → propKey (s.accountHeap a).accountID = .ok k)
    (hsend : s.sendFails ws = false) (hlog : (s.sockets ws).loginRequest = some login)
    (hsafe : s.LocalSafe login) (hk : propKey login.senderID = .ok k)
    (hl : propKey login.groupID = .ok l) (hm : propKey login.accountID = .ok m) :
    ¬ (do
      delMemberFromAccountByName (some login) true
      let _ ← addMemberToAccountGroup ws
      sendOkMessage J ws : Action Server Unit).Escapes s := by
  obtain ⟨hread, haccounts, hrooms⟩ := hsafe
  refine not_escapes_bind (fun h => (escapes_delMember_iff hid login true).mp h hread) fun _ _ => ?_
  have hshr := onlyShrinks_delMemberFromAccountByName (some login) true s
  have hout := outsideKept_delMemberFromAccountByName (some login) true s
  refine not_escapes_bind ?_ fun _ _ => ?_
  · -- what the kick-out leaves of the rooms shadows nothing either
    refine not_escapes_addMemberToAccountGroup ((hshr.sockets ws).loginRequest.trans hlog)
      (haccounts.of_imp hshr.accounts) hm (fun a ha => ?_) hk hl
    obtain ⟨hgroups, hunits⟩ := hrooms m a hm (hshr.accounts m a ha)
    exact ⟨hgroups.of_imp (hshr.groups a), fun g hg =>
      (hunits l g hl (hshr.groups a l g hg)).of_imp (hshr.units g)⟩
  · refine not_escapes_sendOkMessage J ?_
    rw [(outsideKept_addMemberToAccountGroup ws _).sendFails, hout.sendFails]
    exact hsend

theorem not_escapes_acceptConnection {s : Server} {login : LoginRequest} {ws : SocketId}
    {k l m : String} (hid : ∀ k a, s.accounts.own? k = some a →
      propKey (s.accountHeap a).accountID = .ok k)
    (hsend : s.sendFails ws = false) (hsafe : s.LocalSafe login)
    (hk : propKey login.senderID = .ok k) (hl : propKey login.groupID = .ok l)
    (hm : propKey login.accountID = .ok m) : ¬ (_acceptConnection J login ws).Escapes s := by
  rw [_acceptConnection, escapes_modify_bind,
    escapes_bind_of_ok (addActiveSenderIDList_run hk ws _)]
  refine not_escapes_enterRoom J ?_ ?_ ?_ ?_ hk hl hm
  · exact hid
  · exact hsend
  · rw [setSocket_self]
  · exact hsafe

/-! ### The parameters of a URL are strings -/

theorem own?_getHeaderParams {proto : List String} {url k : String} {v : Json}
    (h : (getHeaderParams proto url).own? k = some v) : ∃ t, v = .str t := by
  have hfold : ∀ (ps : List (String × String)) (t : Table Json),
      (∀ k v, t.own? k = some v → ∃ x, v = .str x) → ∀ k v,
      (ps.foldl (fun params p => params.assign proto p.1 (.str p.2)) t).own? k = some v →
        ∃ x, v = .str x := by
    intro ps
    induction ps with
    | nil => intro t ht; exact ht
    | cons p rest ih =>
      intro t ht
      refine ih _ fun k v hv => ?_
      rcases Table.own?_assign_imp hv with ⟨-, rfl⟩ | hv
      · exact ⟨p.2, rfl⟩
      · exact ht k v hv
  exact hfold _ .empty (by simp) k v h

/-! ### Checking the credentials of a URL -/

theorem not_escapes_rejectSocket (ws : SocketId) (s : Server) : ¬ (rejectSocket ws).Escapes s :=
  not_escapes_bind (not_escapes_modify _ s) fun _ _ => not_escapes_closeSocket ws _

theorem not_escapes_validateKey {s : Server} {params : Table Json} (ht : Unshadowed params)
    (hstr : ∀ v, params.own? Const.loginTempKey = some v → ∃ t, v = .str t) (ws : SocketId) :
    ¬ (validateKey isAlphanumeric params ws).Escapes s := by
  rw [validateKey, escapes_get_bind,
    hasOwnProperty_ok_of_unshadowed ht (propKey_str Const.loginTempKey), escapes_ok_bind]
  cases hf : params.own? Const.loginTempKey with
  | none =>
    obtain ⟨s', hs'⟩ := validateWaiting_ok (w := ws) (s := s) propKey_none
    exact not_escapes_bind (by rw [Escapes, hs']; simp) fun _ _ => not_escapes_pure _ _
  | some v =>
    obtain ⟨t, rfl⟩ := hstr v hf
    obtain ⟨s', hs'⟩ := checkKey_ok (w := ws) (s := s) isAlphanumeric t
    have htext : toText (.str t) = .ok t := propKey_str t
    simp only [Option.isSome_some, htext]
    rw [escapes_ok_bind]
    exact not_escapes_bind (by rw [Escapes, hs']; simp) fun _ _ => not_escapes_pure _ _

theorem not_escapes_completeConnection {s : Server} {params : Table Json} {ws : SocketId}
    (hid : ∀ k a, s.accounts.own? k = some a → propKey (s.accountHeap a).accountID = .ok k)
    (hsend : s.sendFails ws = false) (ht : Unshadowed params)
    (hstr : ∀ k v, params.own? k = some v → ∃ t, v = .str t)
    (hkey : (params.own? Const.loginTempKey).isSome)
    (hlocal : s.config.local_server_enabled = true → s.LocalSafe (localLogin s.config params)) :
    ¬ (completeConnection J isAlphanumeric params ws).Escapes s := by
  rw [completeConnection, escapes_get_bind]
  by_cases hl : s.config.local_server_enabled = true
  · rw [if_pos hl]
    obtain ⟨v, hv⟩ := Option.isSome_iff_exists.mp hkey
    obtain ⟨t, rfl⟩ := hstr _ v hv
    have htext : toText (.str t) = .ok t := propKey_str t
    have hsender : ∃ k, propKey (localLogin s.config params).senderID = .ok k := by
      change ∃ k, propKey (params.own? Const.senderID) = .ok k
      cases hs : params.own? Const.senderID with
      | none => exact ⟨_, propKey_none⟩
      | some w => obtain ⟨x, rfl⟩ := hstr _ w hs; exact ⟨x, propKey_str x⟩
    obtain ⟨k, hk⟩ := hsender
    simp only [validateKeyLocal, hv, htext]
    exact not_escapes_acceptConnection J hid hsend (hlocal hl) hk (propKey_str _) (propKey_str _)
  · rw [if_neg hl]
    refine not_escapes_bind (not_escapes_validateKey isAlphanumeric ht (hstr _) ws)
      fun key? _ => ?_
    cases key? with
    | none => exact not_escapes_rejectSocket ws _
    | some key => exact not_escapes_attempt fun _ s' => not_escapes_pure () s'

theorem hasQueryCreds_of_unshadowed {proto : List String} {url : String}
    (h : Unshadowed (getHeaderParams proto url)) : hasQueryCreds proto url =
      .ok ((getHeaderParams proto url).own? Const.loginTempKey).isSome :=
  hasOwnProperty_ok_of_unshadowed h (propKey_str _)

theorem not_escapes_onConnect {s : Server} {url : String} {ws : SocketId}
    (hid : ∀ k a, s.accounts.own? k = some a → propKey (s.accountHeap a).accountID = .ok k)
    (hsend : s.sendFails ws = false) (hsafe : s.ConnectSafe url) :
    ¬ (onConnect J isAlphanumeric url ws).Escapes s := by
  obtain ⟨ht, hlocal⟩ := hsafe
  rw [onConnect, escapes_get_bind, hasQueryCreds_of_unshadowed ht, escapes_ok_bind, serveSocket,
    escapes_get_bind]
  split
  · exact not_escapes_closeSocket ws s
  · next hcompat =>
    rw [escapes_modify_bind]
    split
    · next hcreds =>
      have hc : s.config.ws_auth_no_frame_old_compatibility = true := by
        cases h : s.config.ws_auth_no_frame_old_compatibility with
        | true => rfl
        | false => exact absurd ⟨hcreds, h⟩ hcompat
      exact not_escapes_completeConnection J isAlphanumeric hid hsend ht
        (fun k v => own?_getHeaderParams) hcreds fun hl => hlocal hl hc hcreds
    · exact not_escapes_modify _ _

/-- A URL with a parameter named `hasOwnProperty` makes the look for credentials throw. -/
theorem escapes_onConnect {s : Server} {url : String} {ws : SocketId}
    (hproto : "hasOwnProperty" ∈ s.proto) (h : ¬ Unshadowed (getHeaderParams s.proto url)) :
    (onConnect J isAlphanumeric url ws).Escapes s := by
  have herr : hasQueryCreds s.proto url = .error .typeError := by
    have hsome : ((getHeaderParams s.proto url).own? "hasOwnProperty").isSome :=
      Option.isSome_iff_ne_none.mpr h
    rw [hasQueryCreds, Table.hasOwnProperty_of_ok _ (propKey_str _), if_pos ⟨hproto, hsome⟩]
  rw [onConnect, escapes_get_bind, herr]
  exact escapes_error_bind _ _ s

/-! ### Client events in reachable states -/

/-- In every reachable state in which no `send` fails and no prototype has been written to, an event of
    a client that meets `Safe` is handled and the run goes on. Where the server takes its logins from
    AUTH, and for every close event, `Safe` is also necessary. -/
theorem client_event {config : Config} {es : List Event} {s : Server} {e : Event}
    (h : run J isAlphanumeric (start config) es = some s) (_ : s.SparesPrototypes)
    (hsend : ∀ ws, s.sendFails ws = false) (hclient : e.isClient = true)
    (hen : s.enabled e = true) :
    (s.Safe e → ∃ s', step J isAlphanumeric s e = some s') ∧
    (config.local_server_enabled = false ∨ (∃ ws, e = .close ws) →
      (∃ s', step J isAlphanumeric s e = some s') → s.Safe e) := by
  have hs := consistent_run J isAlphanumeric h
  obtain ⟨hconfig, hproto⟩ := run_frame J isAlphanumeric h
  have hstep : (∃ s', step J isAlphanumeric s e = some s') ↔
      ¬ (handle J isAlphanumeric e).Escapes s := by
    rw [← Option.isSome_iff_exists, Option.isSome_iff_ne_none, ne_eq, step_eq_none_iff]
    simp [hen]
  rw [hstep]
  cases e with
  | connect url remote =>
    have hrun : openSocket remote s = (.ok s.nextSocket, (openSocket remote).final s) := rfl
    have hhandle : (handle J isAlphanumeric (.connect url remote)).Escapes s ↔
        (onConnect J isAlphanumeric url s.nextSocket).Escapes ((openSocket remote).final s) :=
      escapes_bind_of_ok hrun
    rw [hhandle]
    refine ⟨fun hsafe => ?_, ?_⟩
    · exact not_escapes_onConnect J isAlphanumeric hs.account_key (hsend _) hsafe
    · rintro (hauth | ⟨ws, hws⟩) hno
      · refine ⟨?_, fun hl => ?_⟩
        · by_contra hshadow
          refine hno (escapes_onConnect J isAlphanumeric ?_ hshadow)
          change "hasOwnProperty" ∈ s.proto
          rw [hproto]
          decide
        · rw [hconfig, hauth] at hl; exact absurd hl (by simp)
      · exact absurd hws (by simp)
  | message ws message isBinary =>
    exact ⟨fun _ => not_escapes_messageEvent J isAlphanumeric ws message isBinary s,
      fun _ _ => trivial⟩
  | authTimeout ws => exact ⟨fun _ => not_escapes_authTimeout J ws s, fun _ _ => trivial⟩
  | close ws =>
    have hclose := escapes_closeEvent_iff hs ws
    exact ⟨fun hsafe he => hclose.mp he hsafe, fun _ hno => not_not.mp fun hu => hno (hclose.mpr hu)⟩
  | authMessage | keyTimeout | external | faults | udpProgress | storage =>
    exact absurd hclient (by simp [Event.isClient])

theorem client_event_plainUrl :
    (start {}).Safe (.connect "/?f=k1&s=drone" "peer") ∧
    ∃ s', step Text.codec isAsciiAlphanumeric (start {}) (.connect "/?f=k1&s=drone" "peer") =
      some s' := by
  have h := @client_event Text.codec isAsciiAlphanumeric {} [] (start {})
    (.connect "/?f=k1&s=drone" "peer") (run_nil _) (by decide) (fun _ => rfl) rfl rfl
  have hsafe : (start {}).Safe (.connect "/?f=k1&s=drone" "peer") := by
    refine ⟨?_, fun hl => absurd hl (by simp [start])⟩
    have hown : (getHeaderParams objectPrototype "/?f=k1&s=drone").own? "hasOwnProperty" = none := by
      decide +kernel
    exact hown
  exact ⟨h.2 (Or.inl rfl) (h.1 hsafe), h.1 hsafe⟩

/-- A client whose auth frame gives an object without a primitive value as its sender id. -/
def textlessRun : List Event :=
  [announceUnit "k1", .connect "/" "peer",
    .message 0 (Text.stringify (.obj [("ty", .str "s"), ("mt", .str "de_auth"), ("f", .str "k1"),
      ("s", .obj [("toString", .num "1")])])) false, .close 0]

/-- Two ways a client ends the process: a URL parameter that shadows `hasOwnProperty`, and a sender
    id without a text, which the close event cannot use as a key. -/
theorem client_event_uncaught :
    run Text.codec isAsciiAlphanumeric (start {}) [.connect "/?hasOwnProperty=1" "peer"] = none ∧
    (∃ s, run Text.codec isAsciiAlphanumeric (start {}) (textlessRun.take 3) = some s) ∧
    run Text.codec isAsciiAlphanumeric (start {}) textlessRun = none := by
  have h₁ : (run Text.codec isAsciiAlphanumeric (start {})
      [.connect "/?hasOwnProperty=1" "peer"]).isNone = true := by decide +kernel
  have h₂ : (run Text.codec isAsciiAlphanumeric (start {}) (textlessRun.take 3)).isSome = true := by
    decide +kernel
  have h₃ : (run Text.codec isAsciiAlphanumeric (start {}) textlessRun).isNone = true := by
    decide +kernel
  exact ⟨Option.isNone_iff_eq_none.mp h₁, Option.isSome_iff_exists.mp h₂,
    Option.isNone_iff_eq_none.mp h₃⟩

end

end Server

end DroneEngage
