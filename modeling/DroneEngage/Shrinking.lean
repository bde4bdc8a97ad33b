import DroneEngage.Handling

/-! Handling a message only takes things away.

    Whatever a client or another server sends, and whenever a socket closes, the tables lose rows,
    sockets lose their group, their name or their connection, and nothing is added: no login record,
    no member, no group, no account. Only AUTH adds a waiting key, and only accepting a socket adds
    a member. `Shrinks` is that relation between two states; every function on the message and close
    paths moves the state along it. -/

namespace DroneEngage
open Js

/-- The part of a socket that message handling changes, and in which direction. -/
structure Socket.Shrinks (w w' : Socket) : Prop where
  remote : w'.remote = w.remote
  listening : w'.listening = w.listening
  loginRequest : w'.loginRequest = w.loginRequest
  hasStatus : w'.hasStatus = w.hasStatus
  isOpen : w'.readyState = .isOpen → w.readyState = .isOpen
  closed : w.readyState = .closed → w'.readyState = .closed
  authFrameHandler : w'.authFrameHandler = true → w.authFrameHandler = true
  authPending : w'.authPending = true → w.authPending = true
  name : w'.name = w.name ∨ w'.name = none
  group : w'.group = w.group ∨ w'.group = none
  terminated : w.terminated = true → w'.terminated = true

theorem Socket.Shrinks.refl (w : Socket) : w.Shrinks w :=
  ⟨rfl, rfl, rfl, rfl, id, id, id, id, Or.inl rfl, Or.inl rfl, id⟩

theorem Socket.Shrinks.trans {u v w : Socket} (h : u.Shrinks v) (h' : v.Shrinks w) :
    u.Shrinks w where
  remote := h'.remote.trans h.remote
  listening := h'.listening.trans h.listening
  loginRequest := h'.loginRequest.trans h.loginRequest
  hasStatus := h'.hasStatus.trans h.hasStatus
  isOpen := h.isOpen ∘ h'.isOpen
  closed := h'.closed ∘ h.closed
  authFrameHandler := h.authFrameHandler ∘ h'.authFrameHandler
  authPending := h.authPending ∘ h'.authPending
  name := h'.name.elim (fun e => e ▸ h.name) Or.inr
  group := h'.group.elim (fun e => e ▸ h.group) Or.inr
  terminated := h'.terminated ∘ h.terminated

theorem Socket.Shrinks.handler_off {w w' : Socket} (h : w.Shrinks w')
    (hw : w.authFrameHandler = false) : w'.authFrameHandler = false := by
  rw [← Bool.not_eq_true] at hw ⊢
  exact fun hw' => hw (h.authFrameHandler hw')

namespace Server

/-- The group has a member named `hasOwnProperty`: the test that looks a name up in it throws, and
    nobody is removed by name. -/
def Frozen (s : Server) (g : GroupId) : Prop :=
  "hasOwnProperty" ∈ s.proto ∧ ((s.groupHeap g).units.own? "hasOwnProperty").isSome

/-- Nobody is listed in the group under this name, unless the group is frozen. -/
def Struck (s : Server) (g : GroupId) (unitname : Val) : Prop :=
  ∀ k, propKey unitname = .ok k → (s.groupHeap g).units.own? k = none ∨ s.Frozen g

/-- `s'` has nothing that `s` did not have. A socket loses its name only when its group has struck
    that name off. -/
structure Shrinks (s s' : Server) : Prop where
  config : s'.config = s.config
  proto : s'.proto = s.proto
  waitingAccounts : s'.waitingAccounts = s.waitingAccounts
  nextSocket : s'.nextSocket = s.nextSocket
  nextGroup : s'.nextGroup = s.nextGroup
  nextAccount : s'.nextAccount = s.nextAccount
  sockets : ∀ ws, (s.sockets ws).Shrinks (s'.sockets ws)
  groupID : ∀ g, (s'.groupHeap g).ID = (s.groupHeap g).ID
  parentAccount : ∀ g, (s'.groupHeap g).parentAccount = (s.groupHeap g).parentAccount
  accountID : ∀ a, (s'.accountHeap a).accountID = (s.accountHeap a).accountID
  active : ∀ k ws, s'.activeSenderIDsList.own? k = some ws →
    s.activeSenderIDsList.own? k = some ws
  accounts : ∀ k a, s'.accounts.own? k = some a → s.accounts.own? k = some a
  groups : ∀ a k g, (s'.accountHeap a).groups.own? k = some g →
    (s.accountHeap a).groups.own? k = some g
  units : ∀ g k ws, (s'.groupHeap g).units.own? k = some ws →
    (s.groupHeap g).units.own? k = some ws
  frozen : ∀ g, s.Frozen g → s'.Frozen g
  renamed : ∀ ws, (s'.sockets ws).name = (s.sockets ws).name ∨
    ∃ g, (s.sockets ws).group = some g ∧ s'.Struck g (s.sockets ws).name
  log : s.log <+: s'.log

theorem Shrinks.refl (s : Server) : s.Shrinks s where
  config := rfl
  proto := rfl
  waitingAccounts := rfl
  nextSocket := rfl
  nextGroup := rfl
  nextAccount := rfl
  sockets := fun _ => .refl _
  groupID := fun _ => rfl
  parentAccount := fun _ => rfl
  accountID := fun _ => rfl
  active := fun _ _ => id
  accounts := fun _ _ => id
  groups := fun _ _ _ => id
  units := fun _ _ _ => id
  frozen := fun _ => id
  renamed := fun _ => Or.inl rfl
  log := List.prefix_rfl

theorem Shrinks.struck {s s' : Server} (h : s.Shrinks s') {g : GroupId} {unitname : Val}
    (hst : s.Struck g unitname) : s'.Struck g unitname := by
  intro k hk
  refine (hst k hk).imp (fun hnone => ?_) (h.frozen g)
  cases hu : (s'.groupHeap g).units.own? k with
  | none => rfl
  | some ws => rw [h.units g k ws hu] at hnone; exact absurd hnone (by simp)

theorem Shrinks.trans {s t u : Server} (h : s.Shrinks t) (h' : t.Shrinks u) : s.Shrinks u where
  config := h'.config.trans h.config
  proto := h'.proto.trans h.proto
  waitingAccounts := h'.waitingAccounts.trans h.waitingAccounts
  nextSocket := h'.nextSocket.trans h.nextSocket
  nextGroup := h'.nextGroup.trans h.nextGroup
  nextAccount := h'.nextAccount.trans h.nextAccount
  sockets := fun ws => (h.sockets ws).trans (h'.sockets ws)
  groupID := fun g => (h'.groupID g).trans (h.groupID g)
  parentAccount := fun g => (h'.parentAccount g).trans (h.parentAccount g)
  accountID := fun a => (h'.accountID a).trans (h.accountID a)
  active := fun k ws => h.active k ws ∘ h'.active k ws
  accounts := fun k a => h.accounts k a ∘ h'.accounts k a
  groups := fun a k g => h.groups a k g ∘ h'.groups a k g
  units := fun g k ws => h.units g k ws ∘ h'.units g k ws
  frozen := fun g => h'.frozen g ∘ h.frozen g
  renamed := fun ws => by
    rcases h.renamed ws with e | ⟨g, hg, hst⟩
    · rcases h'.renamed ws with e' | ⟨g, hg, hst⟩
      · exact Or.inl (e'.trans e)
      · refine Or.inr ⟨g, ?_, e ▸ hst⟩
        rcases (h.sockets ws).group with eg | eg
        · exact eg.symm.trans hg
        · rw [eg] at hg; exact absurd hg (by simp)
    · exact Or.inr ⟨g, hg, h'.struck hst⟩
  log := h.log.trans h'.log

instance : IsPreorder Server Shrinks where
  refl := .refl
  trans := fun _ _ _ => .trans

/-! ### Single writes -/

theorem shrinks_emit (e : Effect) (s : Server) : s.Shrinks (s.emit e) :=
  { Shrinks.refl s with log := List.prefix_append _ _ }

theorem shrinks_setSocket {ws : SocketId} {f : Socket → Socket} (hf : ∀ w : Socket, w.Shrinks (f w))
    (hname : ∀ w : Socket, (f w).name = w.name) (s : Server) : s.Shrinks (s.setSocket ws f) :=
  { Shrinks.refl s with
    sockets := fun v => by
      rw [setSocket_sockets]
      split
      · next h => subst h; exact hf _
      · exact .refl _
    renamed := fun v => by
      rw [setSocket_sockets]
      split
      · next h => subst h; exact Or.inl (hname _)
      · exact Or.inl rfl }

/-- A row can be deleted by name only in a group that is not frozen. -/
theorem shrinks_deleteUnit {g : GroupId} {s : Server} (hg : ¬ s.Frozen g) (k : String) :
    s.Shrinks (s.setGroup g fun G => { G with units := G.units.delete k }) :=
  { Shrinks.refl s with
    groupID := fun h => by rw [setGroup_groupHeap]; split <;> simp_all
    parentAccount := fun h => by rw [setGroup_groupHeap]; split <;> simp_all
    units := fun h l ws hl => by
      rw [setGroup_groupHeap] at hl
      split at hl
      · next heq => subst heq; exact Table.own?_delete_imp hl
      · exact hl
    frozen := fun h hh => by
      have hne : h ≠ g := by rintro rfl; exact hg hh
      rw [Frozen, setGroup_groupHeap, if_neg hne]
      exact hh
    renamed := fun _ => Or.inl rfl }

theorem shrinks_deleteGroup (a : AccountId) (k : String) (s : Server) :
    s.Shrinks (s.setAccount a fun A => { A with groups := A.groups.delete k }) :=
  { Shrinks.refl s with
    accountID := fun b => by rw [setAccount_accountHeap]; split <;> simp_all
    groups := fun b l g hl => by
      rw [setAccount_accountHeap] at hl
      split at hl
      · next heq => subst heq; exact Table.own?_delete_imp hl
      · exact hl }

theorem shrinks_deleteAccount (k : String) (s : Server) :
    s.Shrinks { s with accounts := s.accounts.delete k } :=
  { Shrinks.refl s with accounts := fun _ _ => Table.own?_delete_imp }

theorem shrinks_deleteActive (k : String) (s : Server) :
    s.Shrinks { s with activeSenderIDsList := s.activeSenderIDsList.delete k } :=
  { Shrinks.refl s with active := fun _ _ => Table.own?_delete_imp }

/-- A socket that leaves its group. -/
theorem socketShrinks_detach (w : Socket) : w.Shrinks { w with group := none } :=
  { Socket.Shrinks.refl w with group := Or.inr rfl }

theorem shrinks_unlink {g : GroupId} {s : Server} (hg : ¬ s.Frozen g) (k : String) (ws : SocketId) :
    s.Shrinks (unlink g k ws s) :=
  (shrinks_deleteUnit hg k).trans (shrinks_setSocket socketShrinks_detach (fun _ => rfl) _)

/-- A socket that is closed or terminated leaves the open state. -/
theorem socketShrinks_closing (w : Socket) :
    w.Shrinks (if w.readyState = .isOpen then { w with readyState := .closing } else w) := by
  split
  · next h =>
    exact { Socket.Shrinks.refl w with
      isOpen := fun h' => absurd h' (by simp)
      closed := fun h' => absurd (h ▸ h') (by simp) }
  · exact .refl w

theorem closing_name (w : Socket) :
    (if w.readyState = .isOpen then { w with readyState := .closing } else w).name = w.name := by
  split <;> rfl

/-! ### Functions -/

open Action

abbrev OnlyShrinks {α : Type} (m : Action Server α) : Prop := Moves Shrinks m

theorem onlyShrinks_emit (e : Effect) : OnlyShrinks (modify (emit e)) :=
  moves_modify (shrinks_emit e)

theorem onlyShrinks_setSocket {ws : SocketId} {f : Socket → Socket}
    (hf : ∀ w : Socket, w.Shrinks (f w)) (hname : ∀ w : Socket, (f w).name = w.name) :
    OnlyShrinks (modify (setSocket ws f)) :=
  moves_modify (shrinks_setSocket hf hname)

theorem onlyShrinks_send (ws : SocketId) (message : Bytes) (isBinary : Bool) :
    OnlyShrinks (send ws message isBinary) :=
  moves_bind (onlyShrinks_emit _) fun _ => moves_bind moves_get fun _ =>
    moves_ite (fun _ => moves_throw _) fun _ => moves_pure ()

theorem onlyShrinks_closeSocket (ws : SocketId) : OnlyShrinks (closeSocket ws) :=
  moves_modify fun s => (shrinks_setSocket socketShrinks_closing closing_name s).trans (shrinks_emit _ _)

theorem onlyShrinks_terminateSocket (ws : SocketId) : OnlyShrinks (terminateSocket ws) :=
  moves_modify fun s => (shrinks_setSocket socketShrinks_closing closing_name s).trans (shrinks_emit _ _)

theorem onlyShrinks_dropIfEmpty (g : GroupId) : OnlyShrinks (dropIfEmpty g) :=
  moves_bind moves_get fun _ => moves_ite
    (fun _ => moves_bind (moves_ofExcept _) fun _ => moves_modify (shrinks_deleteGroup _ _))
    fun _ => moves_pure ()

/-- In a group that is not frozen a name is found under its key. -/
theorem memberNamed_of_ok {g : GroupId} {unitname : Val} {k : String} {s : Server}
    (hg : ¬ s.Frozen g) (hk : propKey unitname = .ok k) : s.memberNamed g unitname =
      .ok (((s.groupHeap g).units.own? k).map fun ws => (k, ws)) := by
  have hown : (s.groupHeap g).units.hasOwnProperty s.proto unitname =
      .ok ((s.groupHeap g).units.own? k).isSome := by
    rw [Table.hasOwnProperty_of_ok _ hk]
    exact if_neg hg
  rw [memberNamed, hown, hk]
  cases hu : (s.groupHeap g).units.own? k with
  | none => rfl
  | some ws => exact congrArg (fun u => Except.ok (u.map fun v => (k, v))) hu

/-- In a frozen group nobody is found. -/
theorem memberNamed_of_frozen {g : GroupId} {s : Server} (hg : s.Frozen g) (unitname : Val) :
    ∃ e, s.memberNamed g unitname = .error e := by
  rw [memberNamed]
  cases hk : propKey unitname with
  | error e => exact ⟨e, by rw [Table.hasOwnProperty_of_error _ hk]; rfl⟩
  | ok k =>
    have hown : (s.groupHeap g).units.hasOwnProperty s.proto unitname = .error .typeError := by
      rw [Table.hasOwnProperty_of_ok _ hk]
      exact if_pos hg
    exact ⟨.typeError, by rw [hown]; rfl⟩

/-- A member that is found by its name is listed under the key of the name, in a group that is not
    frozen. -/
theorem memberNamed_found {g : GroupId} {unitname : Val} {k : String} {ws : SocketId} {s : Server}
    (h : s.memberNamed g unitname = .ok (some (k, ws))) :
    propKey unitname = .ok k ∧ (s.groupHeap g).units.own? k = some ws ∧ ¬ s.Frozen g := by
  have hg : ¬ s.Frozen g := by
    intro hg
    obtain ⟨e, he⟩ := memberNamed_of_frozen hg unitname
    rw [he] at h
    exact absurd h (by simp)
  cases hk : propKey unitname with
  | error e =>
    rw [memberNamed, Table.hasOwnProperty_of_error _ hk] at h
    contradiction
  | ok l =>
    rw [memberNamed_of_ok hg hk] at h
    obtain ⟨v, hv, hkv⟩ := Option.map_eq_some_iff.mp (Except.ok.inj h)
    obtain ⟨rfl, rfl⟩ := Prod.mk.inj hkv
    exact ⟨rfl, hv, hg⟩

/-- A name under which nobody is found is struck off. -/
theorem memberNamed_struck {g : GroupId} {unitname : Val} {s : Server}
    (h : ∀ m, s.memberNamed g unitname ≠ .ok (some m)) : s.Struck g unitname := by
  intro k hk
  by_cases hf : s.Frozen g
  · exact Or.inr hf
  · left
    cases hu : (s.groupHeap g).units.own? k with
    | none => rfl
    | some ws => exact absurd (by rw [memberNamed_of_ok hf hk, hu]; rfl) (h (k, ws))

/-- What `fn_deleteMemberByName` does: nothing, or the member leaves and the rest follows. -/
theorem deleteMemberByName_final (g : GroupId) (unitname : Val) (terminate : Bool) (s : Server) :
    ((∀ m, s.memberNamed g unitname ≠ .ok (some m)) ∧
      (deleteMemberByName g unitname terminate).final s = s) ∨
    ∃ k ws, s.memberNamed g unitname = .ok (some (k, ws)) ∧
      (deleteMemberByName g unitname terminate).final s = (do
        dropIfEmpty g
        if terminate then
          modify (setSocket ws fun w => { w with terminated := true })
          terminateSocket ws
        else pure () : Action Server Unit).final (unlink g k ws s) := by
  rw [deleteMemberByName, final_attempt_pure, final_get_bind]
  cases hm : s.memberNamed g unitname with
  | error e => exact Or.inl ⟨fun m => by simp, rfl⟩
  | ok found =>
    cases found with
    | none => exact Or.inl ⟨fun m => by simp, rfl⟩
    | some m =>
      obtain ⟨k, ws⟩ := m
      exact Or.inr ⟨k, ws, rfl, rfl⟩

/-- What follows the removal of a member. -/
theorem onlyShrinks_afterUnlink (g : GroupId) (terminate : Bool) (ws : SocketId) :
    OnlyShrinks (do
      dropIfEmpty g
      if terminate then
        modify (setSocket ws fun w => { w with terminated := true })
        terminateSocket ws
      else pure () : Action Server Unit) :=
  moves_bind (onlyShrinks_dropIfEmpty g) fun _ => moves_ite
    (fun _ => moves_bind (onlyShrinks_setSocket (fun w =>
      { Socket.Shrinks.refl w with terminated := fun _ => rfl }) fun _ => rfl) fun _ =>
        onlyShrinks_terminateSocket _)
    fun _ => moves_pure ()

theorem onlyShrinks_deleteMemberByName (g : GroupId) (unitname : Val) (terminate : Bool) :
    OnlyShrinks (deleteMemberByName g unitname terminate) := by
  intro s
  rcases deleteMemberByName_final g unitname terminate s with ⟨-, h⟩ | ⟨k, ws, hm, h⟩
  · rw [h]; exact .refl s
  · rw [h]
    exact (shrinks_unlink (memberNamed_found hm).2.2 k ws).trans (onlyShrinks_afterUnlink g _ ws _)

theorem not_escapes_deleteMemberByName (g : GroupId) (unitname : Val) (terminate : Bool)
    (s : Server) : ¬ (deleteMemberByName g unitname terminate).Escapes s :=
  not_escapes_attempt fun _ s' => not_escapes_pure () s'

/-- Afterwards the name is struck off. -/
theorem struck_deleteMemberByName (g : GroupId) (unitname : Val) (terminate : Bool) (s : Server) :
    ((deleteMemberByName g unitname terminate).final s).Struck g unitname := by
  rcases deleteMemberByName_final g unitname terminate s with ⟨hnone, h⟩ | ⟨k, ws, hm, h⟩
  · rw [h]; exact memberNamed_struck hnone
  · rw [h]
    refine (onlyShrinks_afterUnlink g _ ws _).struck fun l hl => Or.inl ?_
    rw [(memberNamed_found hm).1] at hl
    obtain rfl := Except.ok.inj hl
    rw [unlink, setSocket_groupHeap, setGroup_groupHeap, if_pos rfl, Table.own?_delete_self]

/-- A socket that loses its name after its group has struck it off. -/
theorem shrinks_rename {s s' : Server} {ws : SocketId} {g : GroupId} (h : s.Shrinks s')
    (hg : (s.sockets ws).group = some g) (hst : s'.Struck g (s.sockets ws).name) :
    s.Shrinks (setSocket ws (fun w => { w with name := none }) s') :=
  { h with
    sockets := fun v => by
      rw [setSocket_sockets]
      split
      · next hv =>
        subst hv
        exact (h.sockets v).trans { Socket.Shrinks.refl _ with name := Or.inr rfl }
      · exact h.sockets v
    renamed := fun v => by
      by_cases hv : v = ws
      · subst hv
        exact Or.inr ⟨g, hg, hst⟩
      · rw [setSocket_ne _ _ _ _ hv]
        exact h.renamed v }

theorem onlyShrinks_handleOrphanSocket (ws : SocketId) : OnlyShrinks (handleOrphanSocket ws) := by
  intro s
  rw [handleOrphanSocket, final_attempt_pure, final_get_bind]
  cases hg : (s.sockets ws).group with
  | none => exact .refl s
  | some g =>
    have hrun : deleteMemberByName g (s.sockets ws).name false s =
        (.ok (), (deleteMemberByName g (s.sockets ws).name false).final s) :=
      run_of_not_escapes (not_escapes_deleteMemberByName g _ false s)
    simp only [final_bind_of_ok hrun, final_modify_bind]
    exact (shrinks_rename (onlyShrinks_deleteMemberByName g _ false s) hg
      (struck_deleteMemberByName g _ false s)).trans (onlyShrinks_terminateSocket ws _)

theorem onlyShrinks_broadcast (g : GroupId) (message : Bytes) (isBinary : Bool)
    (senderID : SenderRef) (actorType : Option String) :
    OnlyShrinks (broadcast g message isBinary senderID actorType) :=
  moves_broadcast (fun ws => onlyShrinks_send ws _ _) onlyShrinks_handleOrphanSocket _ _ _

theorem onlyShrinks_delMemberFromAccount (a : AccountId) (unitname : Val) (terminate : Bool) :
    OnlyShrinks (delMemberFromAccount a unitname terminate) :=
  moves_bind moves_get fun _ =>
    moves_bind (moves_forEach _ fun g _ => onlyShrinks_deleteMemberByName g _ _) fun _ =>
      moves_bind moves_get fun _ => moves_ite
        (fun _ => moves_bind (moves_ofExcept _) fun _ => moves_modify (shrinks_deleteAccount _))
        fun _ => moves_pure ()

theorem onlyShrinks_delMemberFromGroup (ws : SocketId) : OnlyShrinks (delMemberFromGroup ws) := by
  refine moves_bind moves_get fun s => ?_
  cases (s.sockets ws).group with
  | none => exact moves_pure ()
  | some g =>
    exact moves_ite (fun _ => onlyShrinks_setSocket socketShrinks_detach fun _ => rfl)
      fun _ => onlyShrinks_deleteMemberByName _ _ _

/-- The account in which a login looks for its older sockets. -/
def FindsAccount (s : Server) (login : LoginRequest) (a : AccountId) : Prop :=
  isNullish login.accountID = false ∧ isNullish login.senderID = false ∧
    ∃ k, propKey login.accountID = .ok k ∧ s.accounts.own? k = some a

/-- An account without groups is taken out of `c_accounts`. -/
def retire (a : AccountId) (s : Server) : Server :=
  match propKey (s.accountHeap a).accountID with
  | .ok id =>
    if (s.accountHeap a).groups.keys = [] then { s with accounts := s.accounts.delete id } else s
  | .error _ => s

theorem retire_eq (a : AccountId) (s : Server) : ∃ accounts, retire a s = { s with accounts } := by
  rw [retire]
  cases propKey (s.accountHeap a).accountID with
  | error e => exact ⟨s.accounts, rfl⟩
  | ok id =>
    change ∃ accounts, (if (s.accountHeap a).groups.keys = [] then _ else s) = _
    split
    · exact ⟨_, rfl⟩
    · exact ⟨s.accounts, rfl⟩

theorem retire_groupHeap (a : AccountId) (s : Server) : (retire a s).groupHeap = s.groupHeap := by
  obtain ⟨accounts, h⟩ := retire_eq a s
  rw [h]

/-- The removal by account and name finds no account, or it goes through the groups of the one it
    finds. -/
theorem delMemberFromAccountByName_final (login : LoginRequest) (terminate : Bool) (s : Server) :
    ((∀ a, ¬ s.FindsAccount login a) ∧
      (delMemberFromAccountByName (some login) terminate).final s = s) ∨
    ∃ a, s.FindsAccount login a ∧ (delMemberFromAccountByName (some login) terminate).final s =
      retire a ((forEach (s.accountHeap a).groups.values fun g =>
        deleteMemberByName g login.senderID terminate).final s) := by
  simp only [delMemberFromAccountByName]
  by_cases hnull : (isNullish login.accountID || isNullish login.senderID) = true
  · rw [if_pos hnull]
    refine Or.inl ⟨?_, rfl⟩
    rintro a ⟨ha, hn, -⟩
    rw [ha, hn] at hnull
    exact absurd hnull (by decide)
  rw [if_neg hnull, final_get_bind]
  rw [Bool.not_eq_true, Bool.or_eq_false_iff] at hnull
  cases hk : propKey login.accountID with
  | error e =>
    have hindex : s.accounts.index s.proto login.accountID = .error e := by
      rw [Table.index, hk]; rfl
    rw [hindex]
    refine Or.inl ⟨?_, rfl⟩
    rintro a ⟨-, -, k, hk', -⟩
    rw [hk] at hk'
    exact absurd hk' (by simp)
  | ok k =>
    have hindex : s.accounts.index s.proto login.accountID = .ok (s.accounts.get s.proto k) := by
      rw [Table.index, hk]; rfl
    rw [hindex, final_ok_bind]
    cases ha : s.accounts.own? k with
    | none =>
      left
      refine ⟨?_, ?_⟩
      · rintro a ⟨-, -, l, hl, hrow⟩
        rw [← Except.ok.inj (hk.symm.trans hl), ha] at hrow
        exact absurd hrow (by simp)
      · cases hslot : s.accounts.get s.proto k with
        | absent => rfl
        | inherited => rfl
        | own a => rw [Table.get_eq_own_iff.mp hslot] at ha; exact absurd ha (by simp)
    | some a =>
      right
      have hrun := run_of_not_escapes (not_escapes_forEach (s := s)
        (f := fun g => deleteMemberByName g login.senderID terminate) (s.accountHeap a).groups.values
        fun g s' => not_escapes_deleteMemberByName g login.senderID terminate s')
      refine ⟨a, ⟨hnull.1, hnull.2, k, hk, ha⟩, ?_⟩
      rw [Table.get_eq_own_iff.mpr ha]
      change (delMemberFromAccount a login.senderID terminate).final s = _
      rw [delMemberFromAccount, final_get_bind, final_bind_of_ok hrun, final_get_bind]
      generalize (forEach (s.accountHeap a).groups.values fun g =>
        deleteMemberByName g login.senderID terminate).final s = t
      rw [retire]
      cases propKey (t.accountHeap a).accountID with
      | error e => split <;> rfl
      | ok id => split <;> rfl

theorem onlyShrinks_delMemberFromAccountByName (login : Option LoginRequest) (terminate : Bool) :
    OnlyShrinks (delMemberFromAccountByName login terminate) := by
  cases login with
  | none => exact moves_pure ()
  | some login =>
    refine moves_ite (fun _ => moves_pure ()) fun _ => moves_bind moves_get fun s =>
      moves_bind (moves_ofExcept _) fun slot => ?_
    cases slot with
    | absent => exact moves_pure ()
    | inherited => exact moves_throw _
    | own a => exact onlyShrinks_delMemberFromAccount a _ _

/-! ### Messages -/

theorem shrinks_udp (t : Table UdpEntry) (s : Server) :
    s.Shrinks { s with activeUdpProxy := t } := { Shrinks.refl s with }

theorem onlyShrinks_closeUDPSocket (name : Val) : OnlyShrinks (closeUDPSocket name) :=
  moves_closeUDPSocket (fun _ => moves_modify fun s => shrinks_udp _ s) name

section

variable (J : JsonCodec)

theorem onlyShrinks_forwardMessage (message : Bytes) (isBinary : Bool) (ws : SocketId) :
    OnlyShrinks (forwardMessage J message isBinary ws) :=
  moves_forwardMessage J onlyShrinks_emit message isBinary

/-- A client's frame, whatever it holds, only takes things away. -/
theorem onlyShrinks_parseMessage (ws : SocketId) (message : Bytes) (isBinary : Bool) :
    OnlyShrinks (parseMessage J ws message isBinary) :=
  moves_parseMessage J onlyShrinks_send (fun _ => onlyShrinks_emit _)
    (onlyShrinks_delMemberFromGroup ws)
    (moves_udpProxyCommand (fun _ => moves_modify fun s => shrinks_udp _ s) J onlyShrinks_send)
    onlyShrinks_handleOrphanSocket (fun _ _ => onlyShrinks_forwardMessage J _ _ ws) _ _

/-- So does a frame of another server. -/
theorem onlyShrinks_parseExternalMessage (message : Bytes) (isBinary : Bool)
    (source : Option LinkId) : OnlyShrinks (parseExternalMessage J message isBinary source) :=
  moves_parseExternalMessage (fun ws => onlyShrinks_send ws _ _) onlyShrinks_handleOrphanSocket
    (onlyShrinks_emit _) (fun _ => onlyShrinks_emit _) (fun _ _ => onlyShrinks_emit _) J source

/-! ### Timers, acks and the close event -/

theorem onlyShrinks_sendAuthAck (reason : Option String) (ws : SocketId) :
    OnlyShrinks (sendAuthAck J reason ws) :=
  moves_attempt (onlyShrinks_send _ _ _) fun _ => moves_pure ()

theorem onlyShrinks_refuseAuthFrame (reason : String) (ws : SocketId) :
    OnlyShrinks (refuseAuthFrame J reason ws) :=
  moves_bind (onlyShrinks_sendAuthAck J _ _) fun _ =>
    moves_bind (onlyShrinks_setSocket (fun w =>
      { Socket.Shrinks.refl w with authPending := fun h => absurd h (by simp) }) fun _ => rfl) fun _ =>
        onlyShrinks_closeSocket ws

theorem onlyShrinks_authTimeout (ws : SocketId) : OnlyShrinks (authTimeout J ws) := by
  refine moves_bind (onlyShrinks_setSocket (fun w => { Socket.Shrinks.refl w with })
      fun _ => rfl) fun _ =>
    moves_bind moves_get fun s => moves_ite (fun _ => ?_) fun _ => moves_pure ()
  exact moves_bind (onlyShrinks_setSocket (fun w =>
      { Socket.Shrinks.refl w with
        authPending := fun h => absurd h (by simp)
        authFrameHandler := fun h => absurd h (by simp) }) fun _ => rfl) fun _ =>
    moves_bind (onlyShrinks_sendAuthAck J _ _) fun _ => onlyShrinks_closeSocket ws

end

theorem onlyShrinks_updateAuthServer : OnlyShrinks updateAuthServer :=
  moves_bind moves_get fun _ => moves_ite (fun _ => moves_throw _) fun _ => onlyShrinks_emit _

theorem onlyShrinks_deleteActiveSenderIDList (senderID : Val) :
    OnlyShrinks (deleteActiveSenderIDList senderID) :=
  moves_ite (fun _ => moves_pure ()) fun _ => moves_bind (moves_ofExcept _) fun _ =>
    moves_modify (shrinks_deleteActive _)

theorem onlyShrinks_forgetSender (login : Option LoginRequest) :
    OnlyShrinks (forgetSender login) := by
  cases login with
  | none => exact moves_pure ()
  | some login =>
    exact moves_bind (onlyShrinks_deleteActiveSenderIDList _) fun _ =>
      moves_bind (onlyShrinks_emit _) fun _ => moves_bind moves_get fun _ =>
        moves_when fun _ => onlyShrinks_emit _

theorem onlyShrinks_onWsClose (ws : SocketId) : OnlyShrinks (onWsClose ws) :=
  moves_bind moves_get fun _ => moves_ite (fun _ => moves_pure ()) fun _ =>
    moves_bind (onlyShrinks_delMemberFromAccountByName _ _) fun _ => moves_bind
      (moves_when fun _ => moves_bind (onlyShrinks_closeUDPSocket _) fun _ => moves_pure ())
        fun _ => onlyShrinks_forgetSender _

/-- A socket whose close event has come. -/
theorem socketShrinks_closed (w : Socket) : w.Shrinks { w with readyState := .closed } :=
  { Socket.Shrinks.refl w with
    isOpen := fun h => absurd h (by simp)
    closed := fun _ => rfl }

theorem onlyShrinks_closeEvent (ws : SocketId) : OnlyShrinks (closeEvent ws) :=
  moves_bind (onlyShrinks_setSocket socketShrinks_closed fun _ => rfl) fun _ => moves_bind moves_get fun _ =>
    moves_when fun _ => onlyShrinks_onWsClose ws

end Server

end DroneEngage
