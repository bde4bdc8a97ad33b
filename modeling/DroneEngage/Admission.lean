import DroneEngage.Shrinking
import Mathlib.Logic.Relation

/-! What accepting a socket writes.

    `_acceptConnection` is the one function that adds to the rooms. Its writes are named here
    (`AdmitWrite`): the login record, the row in the table of active senders, a new account, a new
    group, a new member, and whatever the kick-out of an older namesake takes away. The consistency
    of the rooms (`Consistent`: rows sit under the keys of their ids, and a socket's room carries
    the ids of its login) is kept by every one of them, so it holds in every run. -/

namespace DroneEngage
open Js

/-- Two ids name the same row of a table. -/
def SameId (v w : Val) : Prop := ∃ k, propKey v = .ok k ∧ propKey w = .ok k

theorem SameId.symm {v w : Val} (h : SameId v w) : SameId w v :=
  h.elim fun k hk => ⟨k, hk.2, hk.1⟩

theorem SameId.trans {u v w : Val} (h : SameId u v) (h' : SameId v w) : SameId u w := by
  obtain ⟨k, hu, hv⟩ := h
  obtain ⟨l, hv', hw⟩ := h'
  rw [hv] at hv'
  exact ⟨k, hu, (Except.ok.inj hv') ▸ hw⟩

theorem SameId.key {v w : Val} {k : String} (h : SameId v w) (hk : propKey v = .ok k) :
    propKey w = .ok k := by
  obtain ⟨l, hv, hw⟩ := h
  rw [hk] at hv
  exact (Except.ok.inj hv) ▸ hw

namespace Server

/-! ### Consistent rooms -/

/-- The account a group belongs to. -/
def accountOf (s : Server) (g : GroupId) : Account := s.accountHeap (s.groupHeap g).parentAccount

/-- The room carries the ids of the login. -/
def RoomOf (s : Server) (g : GroupId) (login : LoginRequest) : Prop :=
  g < s.nextGroup ∧ SameId (s.groupHeap g).ID login.groupID ∧
    SameId (s.accountOf g).accountID login.accountID

/-- The tables agree with the objects they point to. -/
structure Consistent (s : Server) : Prop where
  account_lt : ∀ k a, s.accounts.own? k = some a → a < s.nextAccount
  account_key : ∀ k a, s.accounts.own? k = some a →
    propKey (s.accountHeap a).accountID = .ok k
  group_lt : ∀ a k g, (s.accountHeap a).groups.own? k = some g → g < s.nextGroup
  group_key : ∀ a k g, (s.accountHeap a).groups.own? k = some g →
    propKey (s.groupHeap g).ID = .ok k
  group_parent : ∀ a k g, (s.accountHeap a).groups.own? k = some g →
    (s.groupHeap g).parentAccount = a
  parent_lt : ∀ g, g < s.nextGroup → (s.groupHeap g).parentAccount < s.nextAccount
  /-- a socket in a room has logged in, to that room -/
  room : ∀ ws g, (s.sockets ws).group = some g →
    ∃ login, (s.sockets ws).loginRequest = some login ∧ s.RoomOf g login
  /-- a listed member has logged in under that name, to that room -/
  member : ∀ g k ws, (s.groupHeap g).units.own? k = some ws →
    ∃ login, (s.sockets ws).loginRequest = some login ∧ propKey login.senderID = .ok k ∧
      s.RoomOf g login
  /-- a listed member is in no other room -/
  home : ∀ g k ws, (s.groupHeap g).units.own? k = some ws →
    (s.sockets ws).group = some g ∨ (s.sockets ws).group = none
  /-- a listed member bears its name, unless its group is frozen -/
  named : ∀ g k ws login, (s.groupHeap g).units.own? k = some ws →
    (s.sockets ws).loginRequest = some login →
    (s.sockets ws).name = login.senderID ∨ s.Frozen g
  active : ∀ k ws, s.activeSenderIDsList.own? k = some ws →
    ∃ login, (s.sockets ws).loginRequest = some login ∧ propKey login.senderID = .ok k
  name : ∀ ws, (s.sockets ws).name = none ∨
    ∃ login, (s.sockets ws).loginRequest = some login ∧ (s.sockets ws).name = login.senderID
  /-- a socket waits for its auth frame only before it has logged in -/
  waiting : ∀ ws, (s.sockets ws).authFrameHandler = true → (s.sockets ws).loginRequest = none
  fresh : ∀ ws, s.nextSocket ≤ ws → (s.sockets ws).loginRequest = none

@[simp] theorem start_units (config : Config) (g : GroupId) (k : String) :
    ((start config).groupHeap g).units.own? k = none := rfl

@[simp] theorem start_groups (config : Config) (a : AccountId) (k : String) :
    ((start config).accountHeap a).groups.own? k = none := rfl

theorem consistent_start (config : Config) : (start config).Consistent where
  account_lt := by simp [start]
  account_key := by simp [start]
  group_lt := by simp
  group_key := by simp
  group_parent := by simp
  parent_lt := by simp [start]
  room := by simp [start]
  member := by simp
  home := by simp
  named := by simp
  active := by simp [start]
  name := by simp [start]
  waiting := by simp [start]
  fresh := by simp [start]

/-- A room keeps its ids as long as nobody touches the objects behind them. -/
theorem RoomOf.of_eq {s s' : Server} {g : GroupId} {login : LoginRequest} (h : s.RoomOf g login)
    (hlt : s.nextGroup ≤ s'.nextGroup) (hID : (s'.groupHeap g).ID = (s.groupHeap g).ID)
    (hacc : (s'.accountOf g).accountID = (s.accountOf g).accountID) : s'.RoomOf g login :=
  ⟨Nat.lt_of_lt_of_le h.1 hlt, hID ▸ h.2.1, hacc ▸ h.2.2⟩

theorem Shrinks.roomOf {s s' : Server} {g : GroupId} {login : LoginRequest} (h : s.Shrinks s')
    (hr : s.RoomOf g login) : s'.RoomOf g login :=
  hr.of_eq (Nat.le_of_eq h.nextGroup.symm) (h.groupID g) (by unfold accountOf; rw [h.parentAccount, h.accountID])

/-- What is consistent stays so when things are taken away. -/
theorem Consistent.shrinks {s s' : Server} (hs : s.Consistent) (h : s.Shrinks s') :
    s'.Consistent where
  account_lt := fun k a ha => h.nextAccount ▸ hs.account_lt k a (h.accounts k a ha)
  account_key := fun k a ha => h.accountID a ▸ hs.account_key k a (h.accounts k a ha)
  group_lt := fun a k g hg => h.nextGroup ▸ hs.group_lt a k g (h.groups a k g hg)
  group_key := fun a k g hg => h.groupID g ▸ hs.group_key a k g (h.groups a k g hg)
  group_parent := fun a k g hg => h.parentAccount g ▸ hs.group_parent a k g (h.groups a k g hg)
  parent_lt := fun g hg => by
    rw [h.parentAccount, h.nextAccount]; exact hs.parent_lt g (h.nextGroup ▸ hg)
  room := fun ws g hg => by
    have hg' : (s.sockets ws).group = some g := by
      rcases (h.sockets ws).group with e | e
      · rw [← e]; exact hg
      · rw [e] at hg; exact absurd hg (by simp)
    obtain ⟨login, hl, hr⟩ := hs.room ws g hg'
    exact ⟨login, (h.sockets ws).loginRequest ▸ hl, h.roomOf hr⟩
  member := fun g k ws hu => by
    obtain ⟨login, hl, hk, hr⟩ := hs.member g k ws (h.units g k ws hu)
    exact ⟨login, (h.sockets ws).loginRequest ▸ hl, hk, h.roomOf hr⟩
  home := fun g k ws hu => by
    rcases (h.sockets ws).group with e | e
    · rw [e]; exact hs.home g k ws (h.units g k ws hu)
    · exact Or.inr e
  named := fun g k ws login hu hl => by
    have hu₀ := h.units g k ws hu
    rw [(h.sockets ws).loginRequest] at hl
    rcases hs.named g k ws login hu₀ hl with hname | hf
    · rcases h.renamed ws with e | ⟨g', hg', hst⟩
      · exact Or.inl (e.trans hname)
      · -- the name has been struck off the only room of the socket
        obtain rfl : g' = g := by
          rcases hs.home g k ws hu₀ with hg | hg
          · rw [hg] at hg'; exact (Option.some.inj hg').symm
          · rw [hg] at hg'; exact absurd hg' (by simp)
        obtain ⟨login', hl', hk, -⟩ := hs.member g' k ws hu₀
        rw [hl] at hl'
        obtain rfl := Option.some.inj hl'
        rcases hst k (hname ▸ hk) with hnone | hf
        · rw [hu] at hnone; exact absurd hnone (by simp)
        · exact Or.inr hf
    · exact Or.inr (h.frozen g hf)
  active := fun k ws ha => by
    obtain ⟨login, hl, hk⟩ := hs.active k ws (h.active k ws ha)
    exact ⟨login, (h.sockets ws).loginRequest ▸ hl, hk⟩
  name := fun ws => by
    rw [(h.sockets ws).loginRequest]
    rcases (h.sockets ws).name with e | e
    · rw [e]; exact hs.name ws
    · exact Or.inl e
  waiting := fun ws hw =>
    (h.sockets ws).loginRequest ▸ hs.waiting ws ((h.sockets ws).authFrameHandler hw)
  fresh := fun ws hw => (h.sockets ws).loginRequest ▸ hs.fresh ws (h.nextSocket ▸ hw)

/-! ### The writes of an acceptance -/

/-- A new account under a key. -/
def openAccount (id : Val) (k : String) (s : Server) : Server :=
  { s with
    accountHeap := Function.update s.accountHeap s.nextAccount { accountID := id, groups := .empty }
    nextAccount := s.nextAccount + 1
    accounts := s.accounts.assign s.proto k s.nextAccount }

/-- A new group of an account under a key. -/
def openGroup (a : AccountId) (id : Val) (k : String) (s : Server) : Server :=
  setAccount a (fun A => { A with groups := A.groups.assign s.proto k s.nextGroup })
    { s with
      groupHeap := Function.update s.groupHeap s.nextGroup
        { ID := id, parentAccount := a, units := .empty }
      nextGroup := s.nextGroup + 1 }

/-- A new member of a group. -/
def join (g : GroupId) (unitname : Val) (k : String) (ws : SocketId) (s : Server) : Server :=
  setSocket ws (fun w => { w with name := unitname, group := some g })
    (setGroup g (fun G => { G with units := G.units.assign s.proto k ws }) s)

/-- The socket is in no table of members. -/
def Unlisted (s : Server) (ws : SocketId) : Prop := ∀ g k, (s.groupHeap g).units.own? k ≠ some ws

/-- One write of the acceptance of `w` under `login`. -/
inductive AdmitWrite (w : SocketId) (login : LoginRequest) (s : Server) : Server → Prop
  | shrinks {s' : Server} : s.Shrinks s' → AdmitWrite w login s s'
  | login : (s.sockets w).loginRequest = none → (s.sockets w).authFrameHandler = false →
      w < s.nextSocket → AdmitWrite w login s
        (setSocket w (fun v => { v with loginRequest := some login, hasStatus := true }) s)
  | active {k : String} : propKey login.senderID = .ok k →
      (s.sockets w).loginRequest = some login → AdmitWrite w login s
        { s with activeSenderIDsList := s.activeSenderIDsList.assign s.proto k w }
  | account {k : String} : propKey login.accountID = .ok k → s.accounts.own? k = none →
      AdmitWrite w login s (openAccount login.accountID k s)
  | group {a : AccountId} {k : String} : a < s.nextAccount →
      SameId (s.accountHeap a).accountID login.accountID → propKey login.groupID = .ok k →
      (s.accountHeap a).groups.own? k = none → AdmitWrite w login s (openGroup a login.groupID k s)
  | member {g : GroupId} {k : String} : s.RoomOf g login → propKey login.senderID = .ok k →
      (s.groupHeap g).units.own? k = none → (s.sockets w).loginRequest = some login →
      s.Unlisted w → AdmitWrite w login s (join g login.senderID k w s)

section

variable {w : SocketId} {login : LoginRequest} {s : Server}

theorem Unlisted.ne_of_listed {g : GroupId} {k : String} {ws : SocketId} (hw : s.Unlisted w)
    (hu : (s.groupHeap g).units.own? k = some ws) : ws ≠ w := by
  rintro rfl
  exact hw g k hu

theorem Shrinks.unlisted {s' : Server} (h : s.Shrinks s') (hw : s.Unlisted w) : s'.Unlisted w :=
  fun g k hu => hw g k (h.units g k w hu)

/-- A socket that has not logged in is no member. -/
theorem Consistent.unlisted (hs : s.Consistent) (hl : (s.sockets w).loginRequest = none) :
    s.Unlisted w := by
  intro g k hu
  obtain ⟨l, hl', -⟩ := hs.member g k w hu
  rw [hl] at hl'
  exact absurd hl' (by simp)

theorem Consistent.setLogin (hs : s.Consistent) (hl : (s.sockets w).loginRequest = none)
    (hf : (s.sockets w).authFrameHandler = false) (hw : w < s.nextSocket) :
    (setSocket w (fun v => { v with loginRequest := some login, hasStatus := true }) s).Consistent
    where
  account_lt := hs.account_lt
  account_key := hs.account_key
  group_lt := hs.group_lt
  group_key := hs.group_key
  group_parent := hs.group_parent
  parent_lt := hs.parent_lt
  room := fun ws g hg => by
    rw [setSocket_sockets] at hg ⊢
    split at hg
    · next h =>
      obtain ⟨l, hl', -⟩ := hs.room w g hg
      rw [hl] at hl'; exact absurd hl' (by simp)
    · next h => rw [if_neg h]; exact hs.room ws g hg
  member := fun g k ws hu => by
    obtain ⟨l, hl', hk, hr⟩ := hs.member g k ws hu
    have hne : ws ≠ w := by rintro rfl; rw [hl] at hl'; exact absurd hl' (by simp)
    exact ⟨l, by rw [setSocket_ne _ _ _ _ hne]; exact hl', hk, hr⟩
  home := fun g k ws hu => by
    rw [setSocket_ne _ _ _ _ ((hs.unlisted hl).ne_of_listed hu)]; exact hs.home g k ws hu
  named := fun g k ws l hu hl' => by
    rw [setSocket_ne _ _ _ _ ((hs.unlisted hl).ne_of_listed hu)] at hl' ⊢
    exact hs.named g k ws l hu hl'
  active := fun k ws ha => by
    obtain ⟨l, hl', hk⟩ := hs.active k ws ha
    have hne : ws ≠ w := by rintro rfl; rw [hl] at hl'; exact absurd hl' (by simp)
    exact ⟨l, by rw [setSocket_ne _ _ _ _ hne]; exact hl', hk⟩
  name := fun ws => by
    rw [setSocket_sockets]
    split
    · next h =>
      rcases hs.name w with hn | ⟨l, hl', -⟩
      · exact Or.inl hn
      · rw [hl] at hl'; exact absurd hl' (by simp)
    · exact hs.name ws
  waiting := fun ws hw' => by
    rw [setSocket_sockets] at hw' ⊢
    split at hw'
    · rw [hf] at hw'; exact absurd hw' (by simp)
    · next h => rw [if_neg h]; exact hs.waiting ws hw'
  fresh := fun ws hws => by
    have hne : ws ≠ w := by rintro rfl; exact absurd hw (Nat.not_lt.mpr hws)
    rw [setSocket_ne _ _ _ _ hne]; exact hs.fresh ws hws

theorem Consistent.activate {k : String} (hs : s.Consistent) (hk : propKey login.senderID = .ok k)
    (hl : (s.sockets w).loginRequest = some login) :
    Consistent { s with activeSenderIDsList := s.activeSenderIDsList.assign s.proto k w } :=
  { hs with
    active := fun l ws ha => by
      rcases Table.own?_assign_imp ha with ⟨rfl, rfl⟩ | ha
      · exact ⟨login, hl, hk⟩
      · exact hs.active l ws ha }

theorem Consistent.openAccount {id : Val} {k : String} (hs : s.Consistent)
    (hk : propKey id = .ok k) : (openAccount id k s).Consistent := by
  have hheap : ∀ a, a < s.nextAccount →
      (Server.openAccount id k s).accountHeap a = s.accountHeap a := fun a ha => by
    simp [Server.openAccount, Nat.ne_of_lt ha]
  have hgroups : ∀ a l g, ((Server.openAccount id k s).accountHeap a).groups.own? l = some g →
      (s.accountHeap a).groups.own? l = some g := fun a l g hg => by
    by_cases ha : a = s.nextAccount
    · subst ha; simp [Server.openAccount] at hg
    · simpa [Server.openAccount, ha] using hg
  have hroom : ∀ g l, s.RoomOf g l → (Server.openAccount id k s).RoomOf g l := fun g l hr =>
    hr.of_eq (Nat.le_refl _) rfl (by
      unfold accountOf; rw [← hheap _ (hs.parent_lt g hr.1)]; rfl)
  refine
    { account_lt := fun l a ha => ?_, account_key := fun l a ha => ?_
      group_lt := fun a l g hg => hs.group_lt a l g (hgroups a l g hg)
      group_key := fun a l g hg => hs.group_key a l g (hgroups a l g hg)
      group_parent := fun a l g hg => hs.group_parent a l g (hgroups a l g hg)
      parent_lt := fun g hg => Nat.lt_succ_of_lt (hs.parent_lt g hg)
      room := fun ws g hg => ?_, member := fun g l ws hu => ?_
      home := hs.home, named := hs.named
      active := hs.active, name := hs.name, waiting := hs.waiting, fresh := hs.fresh }
  · rcases Table.own?_assign_imp ha with ⟨-, rfl⟩ | ha
    · exact Nat.lt_succ_self _
    · exact Nat.lt_succ_of_lt (hs.account_lt l a ha)
  · rcases Table.own?_assign_imp ha with ⟨rfl, rfl⟩ | ha
    · simpa [Server.openAccount] using hk
    · rw [hheap a (hs.account_lt l a ha)]; exact hs.account_key l a ha
  · obtain ⟨l, hl, hr⟩ := hs.room ws g hg
    exact ⟨l, hl, hroom g l hr⟩
  · obtain ⟨l', hl, hk', hr⟩ := hs.member g l ws hu
    exact ⟨l', hl, hk', hroom g l' hr⟩

/-- A new group has no members, and the other groups keep theirs. -/
theorem openGroup_units {a : AccountId} {id : Val} {k l : String} {g : GroupId} {ws : SocketId}
    (hu : ((openGroup a id k s).groupHeap g).units.own? l = some ws) :
    (s.groupHeap g).units.own? l = some ws := by
  by_cases hg : g = s.nextGroup
  · subst hg
    simp [openGroup] at hu
  · simpa [openGroup, hg] using hu

/-- A member after a join is the new one or was there before. -/
theorem join_units {g h : GroupId} {unitname : Val} {k l : String} {ws : SocketId}
    (hu : ((join g unitname k w s).groupHeap h).units.own? l = some ws) :
    (l = k ∧ ws = w ∧ h = g) ∨ (s.groupHeap h).units.own? l = some ws := by
  rw [join, setSocket_groupHeap, setGroup_groupHeap] at hu
  split at hu
  · next hh =>
    subst hh
    exact (Table.own?_assign_imp hu).imp (fun e => ⟨e.1, e.2, rfl⟩) id
  · exact Or.inr hu

theorem Frozen.join {g h : GroupId} (hh : s.Frozen h) (unitname : Val) (k : String) :
    (join g unitname k w s).Frozen h := by
  refine ⟨hh.1, ?_⟩
  rw [Server.join, setSocket_groupHeap, setGroup_groupHeap]
  split
  · next e => subst e; exact Table.isSome_own?_assign k w hh.2
  · exact hh.2

theorem Consistent.openGroup {a : AccountId} {id : Val} {k : String} (hs : s.Consistent)
    (ha : a < s.nextAccount) (hk : propKey id = .ok k) : (openGroup a id k s).Consistent := by
  have hheap : ∀ g, g < s.nextGroup →
      (Server.openGroup a id k s).groupHeap g = s.groupHeap g := fun g hg => by
    simp [Server.openGroup, Nat.ne_of_lt hg]
  have hnew : (Server.openGroup a id k s).groupHeap s.nextGroup =
      { ID := id, parentAccount := a, units := .empty } := by simp [Server.openGroup]
  have hid : ∀ b, ((Server.openGroup a id k s).accountHeap b).accountID =
      (s.accountHeap b).accountID := fun b => by
    unfold Server.openGroup; rw [setAccount_accountHeap]; split <;> simp_all
  have hgroups : ∀ b l g, ((Server.openGroup a id k s).accountHeap b).groups.own? l = some g →
      (b = a ∧ l = k ∧ g = s.nextGroup) ∨ (s.accountHeap b).groups.own? l = some g := by
    intro b l g hg
    unfold Server.openGroup at hg
    rw [setAccount_accountHeap] at hg
    split at hg
    · next hb =>
      subst hb
      exact (Table.own?_assign_imp hg).imp (fun h => ⟨rfl, h⟩) fun h => h
    · exact Or.inr hg
  have hroom : ∀ g l, s.RoomOf g l → (Server.openGroup a id k s).RoomOf g l := fun g l hr =>
    hr.of_eq (Nat.le_succ _) (by rw [hheap g hr.1]) (by
      unfold accountOf; rw [hheap g hr.1, hid])
  refine
    { account_lt := hs.account_lt, account_key := fun l b hb => ?_
      group_lt := fun b l g hg => ?_, group_key := fun b l g hg => ?_
      group_parent := fun b l g hg => ?_, parent_lt := fun g hg => ?_
      room := fun ws g hg => ?_, member := fun g l ws hu => ?_
      home := fun g l ws hu => hs.home g l ws (openGroup_units hu)
      named := fun g l ws login hu hl => ?_
      active := hs.active, name := hs.name, waiting := hs.waiting, fresh := hs.fresh }
  · rw [hid]; exact hs.account_key l b hb
  · rcases hgroups b l g hg with ⟨-, -, rfl⟩ | hg
    · exact Nat.lt_succ_self _
    · exact Nat.lt_succ_of_lt (hs.group_lt b l g hg)
  · rcases hgroups b l g hg with ⟨-, rfl, rfl⟩ | hg
    · rw [hnew]; exact hk
    · rw [hheap g (hs.group_lt b l g hg)]; exact hs.group_key b l g hg
  · rcases hgroups b l g hg with ⟨rfl, -, rfl⟩ | hg
    · rw [hnew]
    · rw [hheap g (hs.group_lt b l g hg)]; exact hs.group_parent b l g hg
  · rcases Nat.lt_succ_iff_lt_or_eq.mp hg with hg | rfl
    · rw [hheap g hg]; exact hs.parent_lt g hg
    · rw [hnew]; exact ha
  · obtain ⟨l, hl, hr⟩ := hs.room ws g hg
    exact ⟨l, hl, hroom g l hr⟩
  · obtain ⟨l', hl, hk', hr⟩ := hs.member g l ws (openGroup_units hu)
    exact ⟨l', hl, hk', hroom g l' hr⟩
  · have hu' := openGroup_units hu
    obtain ⟨l', -, -, hr⟩ := hs.member g l ws hu'
    refine (hs.named g l ws login hu' hl).imp_right fun hf => ⟨hf.1, ?_⟩
    rw [hheap g hr.1]
    exact hf.2

theorem Consistent.join {g : GroupId} {k : String} (hs : s.Consistent) (hr : s.RoomOf g login)
    (hk : propKey login.senderID = .ok k) (hl : (s.sockets w).loginRequest = some login)
    (hw : s.Unlisted w) : (join g login.senderID k w s).Consistent := by
  have hlogin : ∀ ws, ((Server.join g login.senderID k w s).sockets ws).loginRequest =
      (s.sockets ws).loginRequest := fun ws => by
    unfold Server.join; rw [setSocket_sockets]; split <;> simp_all
  have hID : ∀ h, ((Server.join g login.senderID k w s).groupHeap h).ID = (s.groupHeap h).ID :=
    fun h => by unfold Server.join; rw [setSocket_groupHeap, setGroup_groupHeap]; split <;> simp_all
  have hparent : ∀ h, ((Server.join g login.senderID k w s).groupHeap h).parentAccount =
      (s.groupHeap h).parentAccount :=
    fun h => by unfold Server.join; rw [setSocket_groupHeap, setGroup_groupHeap]; split <;> simp_all
  have hroom : ∀ h l, s.RoomOf h l → (Server.join g login.senderID k w s).RoomOf h l :=
    fun h l hrl => hrl.of_eq (Nat.le_refl _) (hID h) (by unfold accountOf; rw [hparent]; rfl)
  refine
    { account_lt := hs.account_lt, account_key := hs.account_key, group_lt := hs.group_lt
      group_key := fun a l h hg => (hID h).symm ▸ hs.group_key a l h hg
      group_parent := fun a l h hg => (hparent h).symm ▸ hs.group_parent a l h hg
      parent_lt := fun h hh => (hparent h).symm ▸ hs.parent_lt h hh
      room := fun ws h hg => ?_, member := fun h l ws hu => ?_
      home := fun h l ws hu => ?_, named := fun h l ws login' hu hl' => ?_
      active := fun l ws ha => ?_, name := fun ws => ?_, waiting := fun ws hw => ?_
      fresh := fun ws hw => (hlogin ws).trans (hs.fresh ws hw) }
  · rw [hlogin]
    unfold Server.join at hg
    rw [setSocket_sockets] at hg
    split at hg
    · next hw => subst hw; cases hg; exact ⟨login, hl, hroom g login hr⟩
    · obtain ⟨l, hl', hr'⟩ := hs.room ws h hg; exact ⟨l, hl', hroom h l hr'⟩
  · rw [hlogin]
    rcases join_units hu with ⟨rfl, rfl, rfl⟩ | hu'
    · exact ⟨login, hl, hk, hroom h login hr⟩
    · obtain ⟨l', hl', hk', hr'⟩ := hs.member h l ws hu'; exact ⟨l', hl', hk', hroom h l' hr'⟩
  · rcases join_units hu with ⟨rfl, rfl, rfl⟩ | hu'
    · left; rw [Server.join, setSocket_self]
    · rw [Server.join, setSocket_ne _ _ _ _ (hw.ne_of_listed hu')]
      exact hs.home h l ws hu'
  · rw [hlogin] at hl'
    rcases join_units hu with ⟨rfl, rfl, rfl⟩ | hu'
    · rw [hl] at hl'
      obtain rfl := Option.some.inj hl'
      left; rw [Server.join, setSocket_self]
    · have hname : ((Server.join g login.senderID k w s).sockets ws).name = (s.sockets ws).name := by
        rw [Server.join, setSocket_ne _ _ _ _ (hw.ne_of_listed hu')]; rfl
      rw [hname]
      exact (hs.named h l ws login' hu' hl').imp_right fun hf => hf.join login.senderID k
  · obtain ⟨l', hl', hk'⟩ := hs.active l ws ha
    exact ⟨l', (hlogin ws).trans hl', hk'⟩
  · rw [hlogin]
    unfold Server.join
    rw [setSocket_sockets]
    split
    · next hw => subst hw; exact Or.inr ⟨login, hl, rfl⟩
    · exact hs.name ws
  · rw [hlogin]
    refine hs.waiting ws ?_
    unfold Server.join at hw
    rw [setSocket_sockets] at hw
    split at hw
    · next h => subst h; exact hw
    · exact hw

/-- Every write of an acceptance keeps the rooms consistent. -/
theorem Consistent.admitWrite {s' : Server} (hs : s.Consistent) (h : AdmitWrite w login s s') :
    s'.Consistent := by
  cases h with
  | shrinks h => exact hs.shrinks h
  | login hl hf hw => exact hs.setLogin hl hf hw
  | active hk hl => exact hs.activate hk hl
  | account hk _ => exact hs.openAccount hk
  | group ha _ hk _ => exact hs.openGroup ha hk
  | member hr hk _ hl hw => exact hs.join hr hk hl hw

end

/-! ### The functions of an acceptance -/

open Action

theorem addMember_final (g : GroupId) (unitname : Val) (ws : SocketId) (s : Server) :
    (addMember g unitname ws).final s = s ∨
      ∃ k, propKey unitname = .ok k ∧ (s.groupHeap g).units.own? k = none ∧
        (addMember g unitname ws).final s = join g unitname k ws s := by
  unfold addMember final
  rcases Table.hasOwnProperty_cases s.proto (s.groupHeap g).units unitname with
    ⟨e, he⟩ | ⟨k, hk, hown⟩
  · left; simp [he]
  · cases hu : (s.groupHeap g).units.own? k with
    | some v => left; simp [hown, hu]
    | none => right; exact ⟨k, hk, hu, by simp [hown, hu, hk, join]⟩

theorem addMemberToGroup_final (a : AccountId) (unitname groupname : Val) (ws : SocketId)
    (s : Server) : (addMemberToGroup a unitname groupname ws).final s = s ∨
      ∃ k, propKey groupname = .ok k ∧
        ((∃ g, (s.accountHeap a).groups.own? k = some g ∧
            (addMemberToGroup a unitname groupname ws).final s =
              (addMember g unitname ws).final s) ∨
          ((s.accountHeap a).groups.own? k = none ∧
            (addMemberToGroup a unitname groupname ws).final s =
              (addMember s.nextGroup unitname ws).final (openGroup a groupname k s))) := by
  unfold addMemberToGroup final
  rcases Table.hasOwnProperty_cases s.proto (s.accountHeap a).groups groupname with
    ⟨e, he⟩ | ⟨k, hk, hown⟩
  · left; simp [he]
  · right
    refine ⟨k, hk, ?_⟩
    cases hg : (s.accountHeap a).groups.own? k with
    | some g => left; exact ⟨g, rfl, by simp [hown, hk, hg]⟩
    | none => right; exact ⟨rfl, by simp [hown, hk, hg, newGroup]; rfl⟩

theorem addMemberToAccountGroup_final (ws : SocketId) (s : Server) :
    (addMemberToAccountGroup ws).final s = s ∨
      ∃ login k, (s.sockets ws).loginRequest = some login ∧ propKey login.accountID = .ok k ∧
        ((∃ a, s.accounts.own? k = some a ∧ (addMemberToAccountGroup ws).final s =
            (addMemberToGroup a login.senderID login.groupID ws).final s) ∨
          (s.accounts.own? k = none ∧ (addMemberToAccountGroup ws).final s =
            (addMemberToGroup s.nextAccount login.senderID login.groupID ws).final
              (openAccount login.accountID k s))) := by
  unfold addMemberToAccountGroup final
  cases hl : (s.sockets ws).loginRequest with
  | none => left; simp [hl]
  | some login =>
    rcases Table.hasOwnProperty_cases s.proto s.accounts login.accountID with
      ⟨e, he⟩ | ⟨k, hk, hown⟩
    · left; simp [hl, he]
    · right
      refine ⟨login, k, rfl, hk, ?_⟩
      cases ha : s.accounts.own? k with
      | some a => left; exact ⟨a, rfl, by simp [hl, hown, hk, ha]⟩
      | none => right; exact ⟨rfl, by simp [hl, hown, hk, ha, newAccount]; rfl⟩

/-- From consistent rooms, the action performs only writes of the acceptance of `w`. -/
def Admits (w : SocketId) (login : LoginRequest) (s s' : Server) : Prop :=
  s.Consistent → Relation.ReflTransGen (AdmitWrite w login) s s'

section

variable {w : SocketId} {login : LoginRequest}

theorem Consistent.admitWrites {s s' : Server} (hs : s.Consistent)
    (h : Relation.ReflTransGen (AdmitWrite w login) s s') : s'.Consistent := by
  induction h with
  | refl => exact hs
  | tail _ hw ih => exact ih.admitWrite hw

instance : IsPreorder Server (Admits w login) where
  refl := fun _ _ => .refl
  trans := fun _ _ _ h h' hs => (h hs).trans (h' (hs.admitWrites (h hs)))

theorem Shrinks.admits {s s' : Server} (h : s.Shrinks s') : Admits w login s s' :=
  fun _ => .single (.shrinks h)

theorem OnlyShrinks.admits {α : Type} {m : Action Server α} (h : OnlyShrinks m) :
    Moves (Admits w login) m := fun s => (h s).admits

theorem admits_addMember {s : Server} {g : GroupId} (hr : s.RoomOf g login)
    (hl : (s.sockets w).loginRequest = some login) (hw : s.Unlisted w) :
    Admits w login s ((addMember g login.senderID w).final s) := by
  intro _
  rcases addMember_final g login.senderID w s with h | ⟨k, hk, hu, h⟩
  · rw [h]
  · rw [h]; exact .single (.member hr hk hu hl hw)

theorem admits_addMemberToGroup {s : Server} {a : AccountId} (ha : a < s.nextAccount)
    (hid : SameId (s.accountHeap a).accountID login.accountID)
    (hl : (s.sockets w).loginRequest = some login) (hw : s.Unlisted w) :
    Admits w login s ((addMemberToGroup a login.senderID login.groupID w).final s) := by
  intro hs
  rcases addMemberToGroup_final a login.senderID login.groupID w s with
    h | ⟨k, hk, ⟨g, hg, h⟩ | ⟨hg, h⟩⟩
  · rw [h]
  · -- the group exists
    rw [h]
    refine admits_addMember ⟨hs.group_lt a k g hg, ⟨k, hs.group_key a k g hg, hk⟩, ?_⟩ hl hw hs
    unfold accountOf; rw [hs.group_parent a k g hg]; exact hid
  · -- a new group
    have hwrite : AdmitWrite w login s (openGroup a login.groupID k s) := .group ha hid hk hg
    have hroom : (openGroup a login.groupID k s).RoomOf s.nextGroup login := by
      refine ⟨Nat.lt_succ_self _, ⟨k, ?_, hk⟩, ?_⟩
      · simpa [openGroup] using hk
      · unfold accountOf openGroup
        rw [setAccount_accountHeap]
        simpa using hid
    rw [h]
    exact .head hwrite (admits_addMember hroom hl (fun h l hu => hw h l (openGroup_units hu))
      (hs.admitWrite hwrite))

theorem admits_addMemberToAccountGroup {s : Server}
    (hl : (s.sockets w).loginRequest = some login) (hw : s.Unlisted w) :
    Admits w login s ((addMemberToAccountGroup w).final s) := by
  intro hs
  rcases addMemberToAccountGroup_final w s with h | ⟨l, k, hl', hk, hcases⟩
  · rw [h]
  · rw [hl] at hl'
    obtain rfl := Option.some.inj hl'
    rcases hcases with ⟨a, ha, h⟩ | ⟨ha, h⟩
    · rw [h]
      exact admits_addMemberToGroup (hs.account_lt k a ha) ⟨k, hs.account_key k a ha, hk⟩ hl hw
        hs
    · have hwrite : AdmitWrite w login s (openAccount login.accountID k s) := .account hk ha
      rw [h]
      refine .head hwrite (admits_addMemberToGroup (Nat.lt_succ_self _) ⟨k, ?_, hk⟩ hl hw
        (hs.admitWrite hwrite))
      simpa [openAccount] using hk

theorem addActiveSenderIDList_run {senderID : Val} {k : String} (hk : propKey senderID = .ok k)
    (ws : SocketId) (s : Server) : addActiveSenderIDList senderID ws s =
      (.ok (), { s with activeSenderIDsList := s.activeSenderIDsList.assign s.proto k ws }) := by
  rw [addActiveSenderIDList, hk]; rfl

theorem addActiveSenderIDList_final (senderID : Val) (ws : SocketId) (s : Server) :
    (addActiveSenderIDList senderID ws).final s = s ∨
      ∃ k, propKey senderID = .ok k ∧ (addActiveSenderIDList senderID ws).final s =
        { s with activeSenderIDsList := s.activeSenderIDsList.assign s.proto k ws } := by
  cases hk : propKey senderID with
  | error e => left; rw [addActiveSenderIDList, hk]; rfl
  | ok k => right; exact ⟨k, rfl, by rw [final, addActiveSenderIDList_run hk]⟩

theorem onlyShrinks_sendOkMessage (J : JsonCodec) (ws : SocketId) :
    OnlyShrinks (sendOkMessage J ws) := moves_bind moves_get fun _ => onlyShrinks_send _ _ _

/-- What `_acceptConnection` writes once the login record is there. -/
theorem admits_afterLogin (J : JsonCodec) {s : Server} (hs : s.Consistent)
    (hl : (s.sockets w).loginRequest = none) (hf : (s.sockets w).authFrameHandler = false)
    (hw : w < s.nextSocket) : Relation.ReflTransGen (AdmitWrite w login)
      (setSocket w (fun v => { v with loginRequest := some login, hasStatus := true }) s)
      ((_acceptConnection J login w).final s) := by
  refine moves_bind_at (R := Admits w login) ?_ (fun _ _ => moves_bind_at ?_ fun _ _ =>
    moves_bind_at ?_ fun _ _ => ?_) (hs.admitWrite (.login hl hf hw))
  · -- the row of active senders
    intro _
    rcases addActiveSenderIDList_final login.senderID w _ with h | ⟨k, hk, h⟩
    · rw [h]
    · rw [h]; exact .single (.active hk (by simp))
  · exact (onlyShrinks_delMemberFromAccountByName _ _ _).admits
  · -- the room; the kick-out left the login record alone
    have hkick := onlyShrinks_delMemberFromAccountByName (some login) true
      ((addActiveSenderIDList login.senderID w).final (setSocket w
        (fun v => { v with loginRequest := some login, hasStatus := true }) s))
    have hw' := hs.unlisted hl
    refine admits_addMemberToAccountGroup ?_ (hkick.unlisted ?_)
    · rw [(hkick.sockets w).loginRequest]
      rcases addActiveSenderIDList_final login.senderID w (setSocket w
        (fun v => { v with loginRequest := some login, hasStatus := true }) s) with h | ⟨k, hk, h⟩
      · rw [h]; simp
      · rw [h]; simp
    · rcases addActiveSenderIDList_final login.senderID w (setSocket w
        (fun v => { v with loginRequest := some login, hasStatus := true }) s) with h | ⟨k, hk, h⟩
      · rw [h]; exact hw'
      · rw [h]; exact hw'
  · exact (onlyShrinks_sendOkMessage J w _).admits

/-- The whole of `_acceptConnection`, for a socket that has not logged in. -/
theorem admits_acceptConnection (J : JsonCodec) {s : Server}
    (hl : (s.sockets w).loginRequest = none) (hf : (s.sockets w).authFrameHandler = false)
    (hw : w < s.nextSocket) : Admits w login s ((_acceptConnection J login w).final s) :=
  fun hs => .head (.login hl hf hw) (admits_afterLogin J hs hl hf hw)

end

end Server

end DroneEngage
