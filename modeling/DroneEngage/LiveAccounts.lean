import DroneEngage.Membership

/-! The accounts that AUTH is told of.

    The INFO card lists the keys of `c_accounts`. An account without members is taken out of that
    table when a unit is removed by account and name, at the end of its connection or because it is
    back; a logout and the removal of a dead socket take the unit out of its group only. So the card
    lists live accounts for as long as those two leave another unit of the account behind. -/

namespace DroneEngage
open Js

namespace Server

open Action

/-- Some room of the account with this id has a member. -/
def Live (s : Server) (id : String) : Prop :=
  ∃ g k ws, (s.groupHeap g).units.own? k = some ws ∧ propKey (s.accountOf g).accountID = .ok id

/-- If the socket is in a room under its name, another member of its account is listed. -/
def LeavesOthers (s : Server) (ws : SocketId) : Prop :=
  ∀ g k v, (s.sockets ws).group = some g →
    s.memberNamed g (s.sockets ws).name = .ok (some (k, v)) →
    ∃ h m u, (s.groupHeap h).units.own? m = some u ∧
      (s.groupHeap h).parentAccount = (s.groupHeap g).parentAccount ∧ ¬ (h = g ∧ m = k)

/-- No id of the login is `__proto__`, and its group id has a text, or the account of the login has a
    member that the kick-out of an older namesake leaves there. -/
structure Admissible (s : Server) (login : LoginRequest) : Prop where
  account : ∀ k, propKey login.accountID = .ok k → Table.Assignable s.proto k
  group : ∀ k, propKey login.groupID = .ok k → Table.Assignable s.proto k
  sender : ∀ k, propKey login.senderID = .ok k → Table.Assignable s.proto k
  groupText : ∀ e, propKey login.groupID = .error e → ∃ g k ws,
    (s.groupHeap g).units.own? k = some ws ∧
    SameId (s.accountOf g).accountID login.accountID ∧
    (isNullish login.accountID = true ∨ isNullish login.senderID = true ∨
      propKey login.senderID ≠ .ok k)

/-- The operations after which every advertised account is live. -/
def KeepsAccountsLive (s : Server) : RoomOp → Prop
  | .accept login _ => s.Admissible login
  | .logout ws => isNullish (s.sockets ws).name = true ∨ s.LeavesOthers ws
  | .removeDead ws => s.LeavesOthers ws
  | .quiet | .proxy _ | .progress _ | .close _ => True

/-- The accounts in `c_accounts` have groups, and those have members. -/
structure Populated (s : Server) : Prop where
  consistent : s.Consistent
  rooted : s.Rooted none
  peopled : ∀ {id a}, s.accounts.own? id = some a → ∃ l g, (s.accountHeap a).groups.own? l = some g

section

variable {s s' : Server} {g : GroupId} {k : String} {ws : SocketId}

theorem populated_startOver (proto : List String) (config : Config) :
    (startOver proto config).Populated :=
  ⟨consistent_startOver proto config, rooted_startOver proto config,
    fun h => absurd h (by simp [startOver])⟩

/-- In a populated server the advertised accounts are the live ones. -/
theorem Populated.mem_getUnitKeys (h : s.Populated) (id : String) :
    id ∈ s.getUnitKeys ↔ s.Live id := by
  rw [getUnitKeys, Table.mem_keys_iff]
  constructor
  · rintro ⟨a, ha⟩
    obtain ⟨l, g, hg⟩ := h.peopled ha
    obtain ⟨k, ws, hu⟩ := (h.rooted.inhabited hg).resolve_left (by simp)
    refine ⟨g, k, ws, hu, ?_⟩
    rw [accountOf, h.consistent.group_parent a l g hg]
    exact h.consistent.account_key id a ha
  · rintro ⟨g, k, ws, hu, hid⟩
    obtain ⟨l, hl, hrow⟩ := h.rooted.advertised hu
    obtain rfl : id = l := Except.ok.inj (hid.symm.trans hl)
    exact ⟨_, hrow⟩

theorem Populated.of_tables (h : s.Populated) (hs' : s'.Consistent)
    (hgroups : s'.groupHeap = s.groupHeap) (hheap : s'.accountHeap = s.accountHeap)
    (haccounts : s'.accounts = s.accounts) : s'.Populated := by
  refine ⟨hs', h.rooted.of_tables hgroups hheap haccounts, fun ha => ?_⟩
  rw [haccounts] at ha
  rw [hheap]
  exact h.peopled ha

theorem Populated.quiet (h : s.Populated) (hq : s.Quiet s') : s'.Populated :=
  h.of_tables (h.consistent.quiet hq) hq.groupHeap hq.accountHeap hq.accounts

theorem Populated.sameRooms (h : s.Populated) (hsame : SameRooms s s') (hs' : s'.Consistent) :
    s'.Populated := h.of_tables hs' hsame.groupHeap hsame.accountHeap hsame.accounts

/-- What happens to a socket alone does not matter to the accounts. -/
theorem Populated.setSocket (h : s.Populated) {f : Socket → Socket}
    (hs' : (setSocket ws f s).Consistent) : (setSocket ws f s).Populated :=
  h.of_tables hs' rfl rfl rfl

/-! ### Leaving -/

/-- A removal leaves the groups of other accounts alone. -/
theorem Removes.keeps_groups (hs : s.Consistent) (hr : Removes g k ws s s') {a : AccountId}
    (ha : a ≠ (s.groupHeap g).parentAccount) {l : String} {h : GroupId}
    (hg : (s.accountHeap a).groups.own? l = some h) : (s'.accountHeap a).groups.own? l = some h := by
  refine (hr.groups a l h).mpr ⟨hg, ?_⟩
  rintro rfl
  exact absurd (hs.group_parent a l h hg).symm ha

theorem Populated.removes (h : s.Populated) (hr : Removes g k ws s s')
    (hrest : ∃ h m u, (s.groupHeap h).units.own? m = some u ∧
      (s.groupHeap h).parentAccount = (s.groupHeap g).parentAccount ∧ ¬ (h = g ∧ m = k)) :
    s'.Populated := by
  refine ⟨h.consistent.shrinks hr.shrinks, h.rooted.removes hr, fun {id a} ha => ?_⟩
  rw [hr.accounts] at ha
  by_cases hp : a = (s.groupHeap g).parentAccount
  · obtain ⟨h', m, u, hu, hparent, hne⟩ := hrest
    obtain ⟨l, -, hrow⟩ := h.rooted.enrolled hu
    refine ⟨l, h', (hr.groups a l h').mpr ⟨?_, ?_⟩⟩
    · rw [hp, ← hparent]; exact hrow
    · rintro rfl
      exact ⟨m, u, by rw [hr.units, if_neg hne]; exact hu⟩
  · obtain ⟨l, h', hg⟩ := h.peopled ha
    exact ⟨l, h', hr.keeps_groups h.consistent hp hg⟩

/-- The socket leaves its group by its name. -/
theorem Populated.leave (h : s.Populated) (hrest : s.LeavesOthers ws)
    (hg : (s.sockets ws).group = some g) :
    ((deleteMemberByName g (s.sockets ws).name false).final s).Populated := by
  rcases h.rooted.deleteMember h.consistent g (s.sockets ws).name false with
    ⟨-, hfin⟩ | ⟨k, v, hfound, hrem⟩
  · rw [hfin]; exact h
  · exact h.removes hrem (hrest g k v hg hfound)

theorem Populated.logout (h : s.Populated)
    (hc : isNullish (s.sockets ws).name = true ∨ s.LeavesOthers ws) :
    ((delMemberFromGroup ws).final s).Populated := by
  have hs' := h.consistent.shrinks (onlyShrinks_delMemberFromGroup ws s)
  cases hg : (s.sockets ws).group with
  | none =>
    have hfin : (delMemberFromGroup ws).final s = s := by rw [delMemberFromGroup_final, hg]
    rw [hfin]; exact h
  | some g =>
    by_cases hname : isNullish (s.sockets ws).name = true
    · have hfin : (delMemberFromGroup ws).final s =
          Server.setSocket ws (fun w => { w with group := none }) s := by
        rw [delMemberFromGroup_final, hg]; exact if_pos hname
      rw [hfin] at hs' ⊢
      exact h.setSocket hs'
    · have hfin : (delMemberFromGroup ws).final s =
          (deleteMemberByName g (s.sockets ws).name false).final s := by
        rw [delMemberFromGroup_final, hg]; exact if_neg hname
      rw [hfin]
      exact h.leave (hc.resolve_left hname) hg

theorem Populated.removeDead (h : s.Populated) (hrest : s.LeavesOthers ws) :
    ((handleOrphanSocket ws).final s).Populated := by
  have hs' := h.consistent.shrinks (onlyShrinks_handleOrphanSocket ws s)
  rcases handleOrphanSocket_final ws s with ⟨-, hfin⟩ | ⟨g, hg, hfin⟩
  · rw [hfin]; exact h
  · have hleft := h.leave hrest hg
    rw [hfin] at hs' ⊢
    generalize (deleteMemberByName g (s.sockets ws).name false).final s = t at hleft hs' ⊢
    have hq := quiet_terminateSocket ws (Server.setSocket ws (fun w => { w with name := none }) t)
    exact hleft.of_tables hs' hq.groupHeap hq.accountHeap hq.accounts

/-- Along a removal by account and name, other accounts keep their groups and other names their
    places. -/
theorem removesNamed_keeps {a : AccountId} {v : Val}
    (hr : Relation.ReflTransGen (RemovesNamed a v) s s') (hs : s.Consistent) (hroot : s.Rooted none) :
    s'.Consistent ∧ s'.Rooted none ∧
    (∀ {b l h}, b ≠ a → (s.accountHeap b).groups.own? l = some h →
      (s'.accountHeap b).groups.own? l = some h) ∧
    ∀ {h m u}, propKey v ≠ .ok m → (s.groupHeap h).units.own? m = some u →
      (s'.groupHeap h).units.own? m = some u := by
  induction hr with
  | refl => exact ⟨hs, hroot, fun _ => id, fun _ => id⟩
  | tail _ hstep ih =>
    obtain ⟨hs, hroot, hgroups, hunits⟩ := ih
    obtain ⟨g, k, ws, hp, hk, hrem⟩ := hstep
    refine ⟨hs.shrinks hrem.shrinks, hroot.removes hrem, fun hb hg => ?_, fun {h m u} hm hu => ?_⟩
    · exact hrem.keeps_groups hs (hp ▸ hb) (hgroups hb hg)
    · rw [hrem.units, if_neg]
      · exact hunits hm hu
      · rintro ⟨-, rfl⟩
        exact hm hk

/-- A removal by account and name takes an account that it has emptied out of `c_accounts`. -/
theorem Populated.delMember (h : s.Populated) (login : LoginRequest) (terminate : Bool) :
    ((delMemberFromAccountByName (some login) terminate).final s).Populated := by
  have hs' := h.consistent.shrinks (onlyShrinks_delMemberFromAccountByName (some login) terminate s)
  rcases delMemberFromAccountByName_cases h.consistent h.rooted login terminate with
    ⟨hfin, -⟩ | ⟨k, a, s₁, -, ha, hrem, -, hfin⟩
  · rw [hfin]; exact h
  · obtain ⟨hs₁, hroot, hgroups, -⟩ := removesNamed_keeps hrem h.consistent h.rooted
    have haccounts := (shrinks_of_removesNamed hrem).2
    have hothers : ∀ {id b}, b ≠ a → s.accounts.own? id = some b →
        ∃ l g, (s₁.accountHeap b).groups.own? l = some g := by
      intro id b hb hid
      obtain ⟨l, g, hg⟩ := h.peopled hid
      exact ⟨l, g, hgroups hb hg⟩
    rw [hfin] at hs' ⊢
    split at hs'
    · next hempty =>
      rw [if_pos hempty]
      refine ⟨hs', hroot.deleteAccount (haccounts ▸ ha) hempty, fun {id b} hid => ?_⟩
      change (s₁.accounts.delete k).own? id = some b at hid
      rw [Table.own?_delete] at hid
      split at hid
      · exact absurd hid (by simp)
      · next hne =>
        rw [haccounts] at hid
        refine hothers ?_ hid
        -- an account is registered under its own id
        rintro rfl
        exact hne (Except.ok.inj ((h.consistent.account_key id b hid).symm.trans
          (h.consistent.account_key k b ha)))
    · next hne =>
      rw [if_neg hne]
      refine ⟨hs₁, hroot, fun {id b} hid => ?_⟩
      rw [haccounts] at hid
      by_cases hb : b = a
      · subst hb
        by_contra hnone
        refine hne (Table.keys_eq_nil_iff.mpr fun l => ?_)
        cases hg : (s₁.accountHeap b).groups.own? l with
        | none => rfl
        | some g => exact absurd ⟨l, g, hg⟩ hnone
      · exact hothers hb hid

/-- It leaves other names their places, and all when the login has no account or sender id. -/
theorem Populated.delMember_keeps (h : s.Populated) {login : LoginRequest} (terminate : Bool)
    (hu : (s.groupHeap g).units.own? k = some ws) (hkept : isNullish login.accountID = true ∨
      isNullish login.senderID = true ∨ propKey login.senderID ≠ .ok k) :
    ((((delMemberFromAccountByName (some login) terminate).final s).groupHeap g).units.own? k
      = some ws) := by
  have hnone : (isNullish login.accountID || isNullish login.senderID) = true →
      (delMemberFromAccountByName (some login) terminate).final s = s := fun hnull => by
    simp only [delMemberFromAccountByName, if_pos hnull]
    rfl
  rcases hkept with ha | hn | hk
  · rw [hnone (by rw [ha]; rfl)]; exact hu
  · rw [hnone (by rw [hn, Bool.or_true])]; exact hu
  · rcases delMemberFromAccountByName_cases h.consistent h.rooted login terminate with
      ⟨hfin, -⟩ | ⟨l, a, s₁, -, -, hrem, -, hfin⟩
    · rw [hfin]; exact hu
    · obtain ⟨-, -, -, hunits⟩ := removesNamed_keeps hrem h.consistent h.rooted
      rw [hfin]
      split
      · exact hunits hk hu
      · exact hunits hk hu

/-- A login that is admissible is so after the kick-out of its older namesake. -/
theorem Populated.admissible_delMember (h : s.Populated) {login : LoginRequest} (terminate : Bool)
    (hadm : s.Admissible login) :
    ((delMemberFromAccountByName (some login) terminate).final s).Admissible login := by
  have hshrinks := onlyShrinks_delMemberFromAccountByName (some login) terminate s
  refine ⟨?_, ?_, ?_, fun e he => ?_⟩
  · rw [hshrinks.proto]; exact hadm.account
  · rw [hshrinks.proto]; exact hadm.group
  · rw [hshrinks.proto]; exact hadm.sender
  · obtain ⟨g, k, ws, hu, hsame, hkept⟩ := hadm.groupText e he
    refine ⟨g, k, ws, h.delMember_keeps terminate hu hkept, ?_, hkept⟩
    rw [accountOf, hshrinks.parentAccount, hshrinks.accountID]
    exact hsame

theorem Populated.close (h : s.Populated) (ws : SocketId) : ((closeEvent ws).final s).Populated := by
  have hclosed : (Server.setSocket ws (fun w => { w with readyState := .closed }) s).Populated :=
    h.setSocket (h.consistent.shrinks (shrinks_setSocket socketShrinks_closed (fun _ => rfl) s))
  have hshrinks := onlyShrinks_onWsClose ws
    (Server.setSocket ws (fun w => { w with readyState := .closed }) s)
  rw [closeEvent, final_modify_bind, final_get_bind]
  generalize Server.setSocket ws (fun w => { w with readyState := .closed }) s = t at hclosed hshrinks ⊢
  cases hlisten : (t.sockets ws).listening with
  | false => exact hclosed
  | true =>
    change Populated ((onWsClose ws).final t)
    rcases onWsClose_final ws t with ⟨-, hfin⟩ | ⟨-, hsame⟩
    · rw [hfin]; exact hclosed
    · have hs' := hclosed.consistent.shrinks hshrinks
      cases hl : (t.sockets ws).loginRequest with
      | none => rw [hl] at hsame; exact hclosed.sameRooms hsame hs'
      | some login => rw [hl] at hsame; exact (hclosed.delMember login true).sameRooms hsame hs'

/-! ### Entering -/

/-- The socket joins a room that is there for it. -/
theorem Populated.join (h : s.Populated) {login : LoginRequest} {t : Server}
    (hl : (s.sockets ws).loginRequest = some login) (hout : s.Unlisted ws)
    (hk : propKey login.senderID = .ok k) (hassign : Table.Assignable s.proto k)
    (hopen : Opened login g s t) (hu : (s.groupHeap g).units.own? k = none) :
    (join g login.senderID k ws t).Populated := by
  have hlt : (t.sockets ws).loginRequest = some login := by rw [hopen.sockets]; exact hl
  have hassign' : Table.Assignable t.proto k := by rw [hopen.proto]; exact hassign
  refine ⟨hopen.consistent.join hopen.room hk hlt (hopen.unlisted hout),
    hopen.rooted_join hu hassign' _ ws, fun {id a} ha => ?_⟩
  · rcases hopen.accounts ha with ha | rfl
    · obtain ⟨l, h', hg⟩ := h.peopled ha
      exact ⟨l, h', hopen.groups hg⟩
    · obtain ⟨l, -, hrow⟩ := hopen.enrolled
      exact ⟨l, g, hrow⟩

theorem Populated.addMember (h : s.Populated) {login : LoginRequest}
    (hl : (s.sockets ws).loginRequest = some login) (hout : s.Unlisted ws)
    (hk : propKey login.senderID = .ok k) (hadm : s.Admissible login) :
    ((addMemberToAccountGroup ws).final s).Populated := by
  cases hka : propKey login.accountID with
  | error e =>
    rcases addMemberToAccountGroup_final ws s with hfin | ⟨login', l, hl', hka', -⟩
    · rw [hfin]; exact h
    · rw [← Option.some.inj (hl.symm.trans hl'), hka] at hka'; exact absurd hka' (by simp)
  | ok ka =>
    cases hkg : propKey login.groupID with
    | error e =>
      -- the account is there, so no new one is left without a group
      obtain ⟨g, m, v, hu, hsame, -⟩ := hadm.groupText e hkg
      obtain ⟨l, hl', hrow⟩ := h.rooted.advertised hu
      obtain rfl : ka = l := Except.ok.inj (hka.symm.trans (hsame.key hl'))
      rcases addMemberToAccountGroup_final ws s with hfin | ⟨login', l, hlog, hkey, hcases⟩
      · rw [hfin]; exact h
      · obtain rfl : login = login' := Option.some.inj (hl.symm.trans hlog)
        obtain rfl : ka = l := Except.ok.inj (hka.symm.trans hkey)
        rcases hcases with ⟨a, -, hfin⟩ | ⟨hnone, -⟩
        · rw [hfin]
          rcases addMemberToGroup_final a login.senderID login.groupID ws s with hfin | ⟨l, hl, -⟩
          · rw [hfin]; exact h
          · rw [hkg] at hl; exact absurd hl (by simp)
        · rw [hnone] at hrow; exact absurd hrow (by simp)
    | ok kg =>
      rcases addMemberToAccountGroup_joins h.consistent h.rooted hl hka hkg hk (hadm.account ka hka)
        (hadm.group kg hkg) with hfin | ⟨g, t, hopen, hu, hfin⟩
      · rw [hfin]; exact h
      · rw [hfin]
        exact h.join hl hout hk (hadm.sender k hk) hopen hu

theorem Populated.accept (h : s.Populated) (J : JsonCodec) {login : LoginRequest} (hw : s.Ready ws)
    (hadm : s.Admissible login) : ((_acceptConnection J login ws).final s).Populated := by
  have hout := h.consistent.unlisted hw.loginRequest
  have h₁ : (Server.setSocket ws (fun v => { v with loginRequest := some login, hasStatus := true })
      s).Populated :=
    h.setSocket (h.consistent.setLogin hw.loginRequest hw.authFrameHandler hw.known)
  have hself : ((Server.setSocket ws (fun v =>
      { v with loginRequest := some login, hasStatus := true }) s).sockets ws).loginRequest =
        some login := by rw [setSocket_self]
  have hout₁ : (Server.setSocket ws (fun v => { v with loginRequest := some login, hasStatus := true })
      s).Unlisted ws := hout
  have hadm₁ : (Server.setSocket ws (fun v => { v with loginRequest := some login, hasStatus := true })
      s).Admissible login := ⟨hadm.account, hadm.group, hadm.sender, hadm.groupText⟩
  generalize ht : Server.setSocket ws (fun v =>
    { v with loginRequest := some login, hasStatus := true }) s = t at h₁ hself hout₁ hadm₁
  refine accept_keeps J ht h₁ (fun k u hk hu => ?_) fun hq h => h.quiet hq
  have h₂ : Populated { t with activeSenderIDsList := t.activeSenderIDsList.assign t.proto k ws } :=
    h₁.of_tables (h₁.consistent.activate hk hself) rfl rfl rfl
  have hadm₂ : Admissible { t with
      activeSenderIDsList := t.activeSenderIDsList.assign t.proto k ws } login :=
    ⟨hadm₁.account, hadm₁.group, hadm₁.sender, hadm₁.groupText⟩
  -- the kick-out
  have h₃ := h₂.delMember login true
  have hadm₃ := h₂.admissible_delMember true hadm₂
  have hshrinks := onlyShrinks_delMemberFromAccountByName (some login) true
    { t with activeSenderIDsList := t.activeSenderIDsList.assign t.proto k ws }
  rw [hu] at h₃ hadm₃ hshrinks
  have hl₃ := ((hshrinks.sockets ws).loginRequest).trans hself
  exact ⟨h₃, h₃.addMember hl₃ (hshrinks.unlisted hout₁) hk hadm₃⟩

/-! ### Runs -/

theorem Populated.roomStep {J : JsonCodec} {o : RoomOp} (h : s.Populated)
    (hc : s.KeepsAccountsLive o) (hstep : RoomStep J s o s') : s'.Populated := by
  have hs' := h.consistent.roomStep hstep
  cases hstep with
  | quiet hq => exact h.quiet hq
  | accept login hw => exact h.accept J hw hc
  | logout ws => exact h.logout hc
  | removeDead ws => exact h.removeDead hc
  | proxy ws jmsg => exact h.sameRooms (sameRooms_udpProxyCommand J jmsg ws s) hs'
  | progress entry hn => exact h.sameRooms ⟨rfl, rfl, rfl, rfl, rfl⟩ hs'
  | @close _ ws hrun =>
    have hclose := h.close ws
    rw [final, hrun] at hclose
    exact hclose

end

/-- When every logout and every removal of a dead socket leaves another member of the account behind,
    and every accepted login can be given a room, the accounts on the INFO card are the accounts with
    members. -/
theorem advertised_accounts (J : JsonCodec) (config : Config) (s : Server)
    (h : Lts.Path (RoomStep J) KeepsAccountsLive (start config) s) (id : String) :
    id ∈ s.getUnitKeys ↔ s.Live id :=
  (h.invariant (fun hs hc hstep => hs.roomStep hc hstep)
    (populated_startOver objectPrototype config)).mem_getUnitKeys id

/-- A login to group 1 of account `acc`. -/
def plainLogin (sender actorType : String) : LoginRequest where
  senderID := some (.str sender)
  accountID := some (.str "acc")
  groupID := some (.str "1")
  requestID := none
  actorType := some (.str actorType)
  prm := none

theorem admissible_plainLogin (s : Server) {sender : String} (actorType : String)
    (hsender : sender ≠ "__proto__") : s.Admissible (plainLogin sender actorType) := by
  have hplain : ∀ {id k : String}, id ≠ "__proto__" → propKey (some (.str id)) = .ok k →
      Table.Assignable s.proto k := by
    intro id k hid hk
    obtain rfl : id = k := Except.ok.inj ((propKey_str id).symm.trans hk)
    exact fun h => hid h.1
  refine ⟨fun k => hplain (by decide), fun k => hplain (by decide), fun k => hplain hsender,
    fun e he => ?_⟩
  rw [plainLogin, propKey_str] at he
  exact absurd he (by simp)

/-- Two sockets are open, and nobody has logged in. -/
def twoSockets : Server :=
  { start {} with nextSocket := 2, sockets := fun _ => { listening := true } }

/-- A vehicle and a ground station of one account log in, and the station logs out. -/
theorem advertised_accounts_plainLogin : ∃ s : Server,
    Lts.Path (RoomStep Text.codec) KeepsAccountsLive (start {}) s ∧ (s.sockets 1).group = none ∧
      (s.sockets 1).loginRequest.isSome ∧ "acc" ∈ s.getUnitKeys ∧ s.Live "acc" := by
  have hopen : Lts.Path (RoomStep Text.codec) KeepsAccountsLive (start {}) twoSockets :=
    .single (o := .quiet) trivial (.quiet ⟨rfl, rfl, rfl, rfl, rfl, rfl, rfl, rfl, rfl, Nat.zero_le 2,
      fun ws => Or.inr ⟨Nat.zero_le ws, rfl, rfl, rfl, rfl, rfl⟩⟩)
  have hready₀ : twoSockets.Ready 0 := ⟨rfl, rfl, by decide, rfl, by decide⟩
  have hdrone := hopen.tail (o := RoomOp.accept (plainLogin "drone" "d") 0)
    (admissible_plainLogin _ "d" (by decide : "drone" ≠ "__proto__")) (.accept (plainLogin "drone" "d") hready₀)
  obtain ⟨t, ht⟩ : ∃ t, t = (_acceptConnection Text.codec (plainLogin "drone" "d") 0).final twoSockets :=
    ⟨_, rfl⟩
  have hready₁ : t.Ready 1 := by
    rw [ht]; exact ⟨by decide +kernel, by decide +kernel, by decide +kernel, by decide +kernel,
      by decide +kernel⟩
  rw [← ht] at hdrone
  have hgcs := hdrone.tail (o := RoomOp.accept (plainLogin "gcs" "g") 1)
    (admissible_plainLogin _ "g" (by decide : "gcs" ≠ "__proto__")) (.accept (plainLogin "gcs" "g") hready₁)
  obtain ⟨u, hu⟩ : ∃ u, u = (_acceptConnection Text.codec (plainLogin "gcs" "g") 1).final t := ⟨_, rfl⟩
  rw [← hu] at hgcs
  have hfacts : (u.sockets 1).group = some 0 ∧ (u.sockets 1).name = some (.str "gcs") ∧
      (u.groupHeap 0).units.own? "drone" = some 0 := by
    rw [hu, ht]; decide +kernel
  obtain ⟨hgroup, hname, hdroneListed⟩ := hfacts
  have hrest : u.LeavesOthers 1 := by
    intro g k v hg hfound
    obtain rfl : 0 = g := Option.some.inj (hgroup.symm.trans hg)
    have hk := (memberNamed_found hfound).1
    rw [hname, propKey_str] at hk
    refine ⟨0, "drone", 0, hdroneListed, rfl, fun h => ?_⟩
    rw [← Except.ok.inj hk] at h
    exact absurd h.2 (by decide)
  have hlogout := hgcs.tail (o := RoomOp.logout 1) (Or.inr hrest) (.logout u 1)
  have hafter : (((delMemberFromGroup 1).final u).sockets 1).group = none ∧
      (((delMemberFromGroup 1).final u).sockets 1).loginRequest.isSome ∧
      "acc" ∈ ((delMemberFromGroup 1).final u).getUnitKeys := by
    rw [hu, ht]; decide +kernel
  obtain ⟨hgone, hlogin, hkeys⟩ := hafter
  exact ⟨_, hlogout, hgone, hlogin, hkeys,
    (advertised_accounts Text.codec {} _ hlogout "acc").mp hkeys⟩

/-- The only unit of an account logs out, and the account is advertised without it. -/
theorem advertised_accounts_lastLogout : ∃ s : Server,
    run Text.codec isAsciiAlphanumeric (start {}) (logoutRun.take 3) = some s ∧
    Lts.Path (RoomStep Text.codec) (fun _ _ => True) (start {}) s ∧
    "acc" ∈ s.getUnitKeys ∧ ¬ s.Live "acc" := by
  have h : (run Text.codec isAsciiAlphanumeric (start {}) (logoutRun.take 3)).map (fun s =>
      (s.getUnitKeys, s.nextGroup, (s.groupHeap 0).units.keys)) = some (["acc"], 1, []) := by
    decide +kernel
  obtain ⟨s, hs, hf⟩ := Option.map_eq_some_iff.mp h
  simp only [Prod.mk.injEq] at hf
  obtain ⟨hkeys, hnext, hunits⟩ := hf
  obtain ⟨hpath, hcons, -⟩ := run_operations Text.codec isAsciiAlphanumeric (consistent_start {})
    (hearing_startOver objectPrototype {}) hs
  refine ⟨s, hs, hpath, by rw [hkeys]; exact List.mem_singleton_self _, ?_⟩
  rintro ⟨g, k, ws, hu, -⟩
  obtain ⟨_, -, -, hroom⟩ := hcons.member g k ws hu
  have hlt : g < 1 := hnext ▸ hroom.1
  obtain rfl : g = 0 := Nat.lt_one_iff.mp hlt
  rw [Table.keys_eq_nil_iff.mp hunits k] at hu
  exact absurd hu (by simp)

end Server

end DroneEngage
