import DroneEngage.Uncaught
import DroneEngage.UnitTables

/-! When an acceptance lets a socket in.

    `_acceptConnection` sets the login record first. The row of active senders, the kick-out of an
    older namesake and the new member come after it; each of them can throw or be refused, and
    nobody looks. `Enterable` says of the tables as they are when the socket comes that all of them
    succeed, and `acceptConnection_enters` that the socket then is where its login says. -/

namespace DroneEngage
open Js

/-- An acceptance under the login looks for older sockets of the unit. -/
def LoginRequest.Replaces (login : LoginRequest) : Prop :=
  isNullish login.accountID = false ∧ isNullish login.senderID = false

namespace Server

/-! ### Being in -/

/-- The room of the login's account and group. -/
def roomFor (s : Server) (login : LoginRequest) : Option GroupId := do
  let m ← (propKey login.accountID).toOption
  let a ← s.accounts.own? m
  let l ← (propKey login.groupID).toOption
  (s.accountHeap a).groups.own? l

/-- The socket is in the room of its account and group, and the active sender of its id. -/
def isEntered (s : Server) (ws : SocketId) : Bool :=
  match (s.sockets ws).loginRequest with
  | none => false
  | some login =>
    match s.roomFor login, propKey login.senderID with
    | some g, .ok k => (s.groupHeap g).units.own? k = some ws && (s.sockets ws).group = some g
        && s.activeSenderIDsList.own? k = some ws
    | _, _ => false

/-- The group has no other member than the unit, whose older socket will be kicked out. -/
def Vacates (s : Server) (login : LoginRequest) (g : GroupId) : Prop :=
  login.Replaces ∧ ¬ s.Frozen g ∧
    ∃ k, propKey login.senderID = .ok k ∧ (s.groupHeap g).units.keys = [k]

/-- The ids of the login have texts other than `__proto__`, no table on the way to its room has an
    entry named `hasOwnProperty` that stays there, and the room has no member of the unit's name
    that stays there. -/
structure Enterable (s : Server) (login : LoginRequest) : Prop where
  sender : ∃ k, propKey login.senderID = .ok k ∧ Table.Assignable s.proto k
  account : ∃ m, propKey login.accountID = .ok m ∧ Table.Assignable s.proto m
  group : ∃ l, propKey login.groupID = .ok l ∧ Table.Assignable s.proto l
  readable : s.AccountReadable login
  accounts : ∀ a, s.accounts.own? "hasOwnProperty" = some a →
    login.Replaces ∧ propKey login.accountID = .ok "hasOwnProperty" ∧
      ∀ l g, (s.accountHeap a).groups.own? l = some g → s.Vacates login g
  groups : ∀ m a g, propKey login.accountID = .ok m → s.accounts.own? m = some a →
    (s.accountHeap a).groups.own? "hasOwnProperty" = some g → s.Vacates login g
  units : ∀ g, s.roomFor login = some g → s.Vacates login g ∨
    Unshadowed (s.groupHeap g).units ∧ (login.Replaces ∨
      ∀ k, propKey login.senderID = .ok k → (s.groupHeap g).units.own? k = none)

section

variable {s : Server} {login : LoginRequest} {w : SocketId} {k l m : String}

theorem roomFor_of_keys (hm : propKey login.accountID = .ok m)
    (hl : propKey login.groupID = .ok l) :
    s.roomFor login = (s.accounts.own? m).bind fun a => (s.accountHeap a).groups.own? l := by
  simp [roomFor, hm, hl, Except.toOption]

open Action

/-! ### The kick-out -/

/-- The loop over the groups of an account takes a group out of it that only listed the unit. -/
theorem vacated_forEach {v : Val} {a : AccountId} {g : GroupId} (hk : propKey v = .ok k) :
    ∀ (gs : List GroupId) {s : Server}, s.Consistent → g ∈ gs → ¬ s.Frozen g →
      (s.groupHeap g).units.keys = [k] → (((forEach gs fun h =>
        deleteMemberByName h v true).final s).accountHeap a).groups.own? l ≠ some g := by
  intro gs
  induction gs with
  | nil => intro s _ hg; exact absurd hg (by simp)
  | cons h rest ih =>
    intro s hs hg hthawed hkeys
    have hrest : OnlyShrinks (forEach rest fun h => deleteMemberByName h v true) :=
      moves_forEach rest fun h _ => onlyShrinks_deleteMemberByName h v true
    have hshrinks := onlyShrinks_deleteMemberByName h v true s
    rw [final, run_forEach_cons, run_bind_of_ok
      (run_of_not_escapes (not_escapes_deleteMemberByName h v true s))]
    by_cases hh : g = h
    · -- the group has its turn: its row goes with its only member
      subst hh
      intro hrow
      have hrow₁ := (hrest _).groups a l g hrow
      have hrow₀ := hshrinks.groups a l g hrow₁
      obtain ⟨ws, hu⟩ := Table.mem_keys_iff.mp (hkeys ▸ List.mem_singleton.mpr rfl)
      have hfound : s.memberNamed g v = .ok (some (k, ws)) := by
        rw [memberNamed_of_ok hthawed hk, hu]; rfl
      have hrem := deleteMemberByName_removes hs.groupsKeyed
        ⟨l, hs.group_key a l g hrow₀, (hs.group_parent a l g hrow₀).symm ▸ hrow₀⟩ hfound true
      obtain ⟨n, u, hn⟩ := ((hrem.groups a l g).mp hrow₁).2 rfl
      rw [hrem.units] at hn
      split at hn
      · exact absurd hn (by simp)
      · next hne =>
        have hmem : n ∈ (s.groupHeap g).units.keys := Table.mem_keys_iff.mpr ⟨u, hn⟩
        rw [hkeys, List.mem_singleton] at hmem
        exact hne ⟨rfl, hmem⟩
    · have hsame := deleteMemberByName_groupHeap hh v true s
      have hthawed' : ¬ ((deleteMemberByName h v true).final s).Frozen g := by
        rintro ⟨hproto, hown⟩
        rw [hsame] at hown
        exact hthawed ⟨hshrinks.proto ▸ hproto, hown⟩
      exact ih (hs.shrinks hshrinks) ((List.mem_cons.mp hg).resolve_left hh) hthawed'
        (by rw [hsame]; exact hkeys)

/-- A kick-out that finds an account goes through its groups, and retires it if none is left. -/
theorem delMember_found {a : AccountId} (hr : login.Replaces) (hm : propKey login.accountID = .ok m)
    (ha : s.accounts.own? m = some a) : (delMemberFromAccountByName (some login) true).final s =
      retire a ((forEach (s.accountHeap a).groups.values fun g =>
        deleteMemberByName g login.senderID true).final s) := by
  rcases delMemberFromAccountByName_final login true s with
    ⟨hnone, -⟩ | ⟨b, ⟨-, -, m', hm', hb⟩, hfin⟩
  · exact absurd ⟨hr.1, hr.2, m, hm, ha⟩ (hnone a)
  · obtain rfl : m = m' := Except.ok.inj (hm.symm.trans hm')
    obtain rfl : a = b := Option.some.inj (ha.symm.trans hb)
    exact hfin

/-- A group that the kick-out vacates is in no account any more. -/
theorem vacated_delMember {a : AccountId} {g : GroupId} (hs : s.Consistent)
    (hm : propKey login.accountID = .ok m) (ha : s.accounts.own? m = some a)
    (hg : (s.accountHeap a).groups.own? l = some g) (hv : s.Vacates login g) (n : String) :
    (((delMemberFromAccountByName (some login) true).final s).accountHeap a).groups.own? n
      ≠ some g := by
  obtain ⟨hr, hthawed, k, hk, hkeys⟩ := hv
  obtain ⟨accounts, hretire⟩ := retire_eq a ((forEach (s.accountHeap a).groups.values fun g =>
    deleteMemberByName g login.senderID true).final s)
  rw [delMember_found hr hm ha, hretire]
  exact vacated_forEach hk _ hs (Table.mem_values_iff.mpr ⟨l, hg⟩) hthawed hkeys

/-- An account whose groups are all vacated is not in `c_accounts` any more. -/
theorem retired_delMember {a : AccountId} (hs : s.Consistent) (hr : login.Replaces)
    (hm : propKey login.accountID = .ok m) (ha : s.accounts.own? m = some a)
    (hv : ∀ l g, (s.accountHeap a).groups.own? l = some g → s.Vacates login g) :
    ((delMemberFromAccountByName (some login) true).final s).accounts.own? m = none := by
  have hshrinks : s.Shrinks ((forEach (s.accountHeap a).groups.values fun g =>
      deleteMemberByName g login.senderID true).final s) :=
    moves_forEach _ (fun g _ => onlyShrinks_deleteMemberByName g _ _) s
  rw [delMember_found hr hm ha, retire, hshrinks.accountID, hs.account_key m a ha]
  dsimp only
  rw [if_pos, Table.own?_delete_self]
  refine Table.keys_eq_nil_iff.mpr fun n => Option.eq_none_iff_forall_ne_some.mpr fun g hg => ?_
  have hg₀ := hshrinks.groups a n g hg
  obtain ⟨-, hthawed, k, hk, hkeys⟩ := hv n g hg₀
  exact vacated_forEach hk _ hs (Table.mem_values_iff.mpr ⟨n, hg₀⟩) hthawed hkeys hg

/-- A group of the account that does not list `hasOwnProperty` lists the unit no longer. -/
theorem struck_delMember {a : AccountId} {g : GroupId} (hr : login.Replaces)
    (hk : propKey login.senderID = .ok k) (hm : propKey login.accountID = .ok m)
    (ha : s.accounts.own? m = some a) (hg : (s.accountHeap a).groups.own? l = some g)
    (hunits : Unshadowed (s.groupHeap g).units) :
    (((delMemberFromAccountByName (some login) true).final s).groupHeap g).units.own? k = none := by
  have hstruck := struck_forEach login.senderID true (s.accountHeap a).groups.values s
    (Table.mem_values_iff.mpr ⟨l, hg⟩)
  have hshrinks : s.Shrinks ((forEach (s.accountHeap a).groups.values fun g =>
      deleteMemberByName g login.senderID true).final s) :=
    moves_forEach _ (fun g _ => onlyShrinks_deleteMemberByName g _ _) s
  rw [delMember_found hr hm ha, retire_groupHeap]
  refine (hstruck k hk).resolve_right fun hfrozen => ?_
  have hnone := hunits.of_imp (hshrinks.units g)
  rw [Unshadowed] at hnone
  rw [Frozen, hnone] at hfrozen
  exact absurd hfrozen.2 (by simp)

/-- What the kick-out leaves of the tables lets the unit in. -/
theorem Enterable.afterKickOut (h : s.Enterable login) (hs : s.Consistent)
    (hk : propKey login.senderID = .ok k) (hm : propKey login.accountID = .ok m)
    (hl : propKey login.groupID = .ok l) {u : Server}
    (hu : u = (delMemberFromAccountByName (some login) true).final s) :
    Unshadowed u.accounts ∧ ∀ a, u.accounts.own? m = some a →
      Unshadowed (u.accountHeap a).groups ∧ ∀ g, (u.accountHeap a).groups.own? l = some g →
        Unshadowed (u.groupHeap g).units ∧ (u.groupHeap g).units.own? k = none := by
  have hshrinks := onlyShrinks_delMemberFromAccountByName (some login) true s
  rw [← hu] at hshrinks
  refine ⟨?_, fun a ha => ⟨?_, fun g hg => ?_⟩⟩
  · -- an account named `hasOwnProperty` is the unit's own, and loses its last group
    rw [Unshadowed, Option.eq_none_iff_forall_ne_some]
    intro a ha
    have ha₀ := hshrinks.accounts _ a ha
    obtain ⟨hr, hm', hvacates⟩ := h.accounts a ha₀
    rw [hu, retired_delMember hs hr hm' ha₀ hvacates] at ha
    exact absurd ha (by simp)
  · rw [Unshadowed, Option.eq_none_iff_forall_ne_some]
    intro g hg
    have ha₀ := hshrinks.accounts m a ha
    have hg₀ := hshrinks.groups a _ g hg
    rw [hu] at hg
    exact vacated_delMember hs hm ha₀ hg₀ (h.groups m a g hm ha₀ hg₀) _ hg
  · have ha₀ := hshrinks.accounts m a ha
    have hg₀ := hshrinks.groups a l g hg
    have hroom : s.roomFor login = some g := by
      rw [roomFor_of_keys hm hl, ha₀]; exact hg₀
    rcases h.units g hroom with hv | ⟨hunits, hfree⟩
    · rw [hu] at hg
      exact absurd hg (vacated_delMember hs hm ha₀ hg₀ hv l)
    · refine ⟨hunits.of_imp (hshrinks.units g), ?_⟩
      rcases hfree with hr | hfree
      · rw [hu]
        exact struck_delMember hr hk hm ha₀ hg₀ hunits
      · exact Option.eq_none_iff_forall_ne_some.mpr fun v hv =>
          absurd (hshrinks.units g k v hv) (by rw [hfree k hk]; simp)

/-! ### The new member -/

theorem addMemberToGroup_unshadowed {a : AccountId} {v groupname : Val}
    (ht : Unshadowed (s.accountHeap a).groups) (hl : propKey groupname = .ok l) :
    (addMemberToGroup a v groupname w).final s = match (s.accountHeap a).groups.own? l with
      | some g => (addMember g v w).final s
      | none => (addMember s.nextGroup v w).final (openGroup a groupname l s) := by
  rw [addMemberToGroup, final_get_bind, hasOwnProperty_ok_of_unshadowed ht hl, final_ok_bind, hl,
    final_ok_bind]
  cases (s.accountHeap a).groups.own? l with
  | none => rfl
  | some g => rfl

theorem addMemberToAccountGroup_unshadowed (hlog : (s.sockets w).loginRequest = some login)
    (ht : Unshadowed s.accounts) (hm : propKey login.accountID = .ok m) :
    (addMemberToAccountGroup w).final s = match s.accounts.own? m with
      | some a => (addMemberToGroup a login.senderID login.groupID w).final s
      | none => (addMemberToGroup s.nextAccount login.senderID login.groupID w).final
          (openAccount login.accountID m s) := by
  rw [addMemberToAccountGroup, final_get_bind, hlog]
  dsimp only
  rw [hasOwnProperty_ok_of_unshadowed ht hm, final_ok_bind, hm, final_ok_bind]
  cases s.accounts.own? m with
  | none => rfl
  | some a => rfl

theorem addMember_unshadowed {g : GroupId} (hk : propKey login.senderID = .ok k)
    (hunits : Unshadowed (s.groupHeap g).units) (hfree : (s.groupHeap g).units.own? k = none) :
    (addMember g login.senderID w).final s = join g login.senderID k w s := by
  refine addMember_join hk hfree fun hfrozen => ?_
  rw [Unshadowed] at hunits
  rw [Frozen, hunits] at hfrozen
  exact absurd hfrozen.2 (by simp)

/-- Tables without shadows and a free name: the socket joins its room, which is opened for it where
    it is missing. -/
theorem addMemberToAccountGroup_enters (hlog : (s.sockets w).loginRequest = some login)
    (hk : propKey login.senderID = .ok k) (hm : propKey login.accountID = .ok m)
    (hl : propKey login.groupID = .ok l) (hassignm : Table.Assignable s.proto m)
    (hassignl : Table.Assignable s.proto l) (haccounts : Unshadowed s.accounts)
    (hrooms : ∀ a, s.accounts.own? m = some a →
      Unshadowed (s.accountHeap a).groups ∧ ∀ g, (s.accountHeap a).groups.own? l = some g →
        Unshadowed (s.groupHeap g).units ∧ (s.groupHeap g).units.own? k = none) :
    ∃ g t, (addMemberToAccountGroup w).final s = join g login.senderID k w t ∧
      t.roomFor login = some g ∧ t.proto = s.proto ∧ t.sockets = s.sockets ∧
      t.activeSenderIDsList = s.activeSenderIDsList := by
  -- a group that has just been opened has no members
  have hnew : ∀ (t : Server) (a : AccountId), (addMember t.nextGroup login.senderID w).final
      (openGroup a login.groupID l t) =
        join t.nextGroup login.senderID k w (openGroup a login.groupID l t) := fun t a => by
    have hunits : ((openGroup a login.groupID l t).groupHeap t.nextGroup).units = .empty := by
      rw [openGroup_groupHeap, if_pos rfl]
    exact addMember_unshadowed hk (by rw [hunits]; rfl) (by rw [hunits]; rfl)
  have hrow : ∀ (t : Server) (a : AccountId), t.proto = s.proto →
      ((openGroup a login.groupID l t).accountHeap a).groups.own? l = some t.nextGroup :=
    fun t a ht => by
      rw [openGroup, setAccount_accountHeap, if_pos rfl]
      change ((t.accountHeap a).groups.assign t.proto l t.nextGroup).own? l = _
      rw [ht, Table.assign_of_assignable hassignl, Table.own?_insert_self]
  rw [addMemberToAccountGroup_unshadowed hlog haccounts hm]
  cases ha : s.accounts.own? m with
  | none =>
    dsimp only
    have hempty :
        ((openAccount login.accountID m s).accountHeap s.nextAccount).groups = .empty := by
      rw [openAccount_accountHeap, if_pos rfl]
    rw [addMemberToGroup_unshadowed (by rw [hempty]; rfl) hl, hempty]
    refine ⟨_, _, hnew _ _, ?_, rfl, rfl, rfl⟩
    rw [roomFor_of_keys hm hl]
    change ((s.accounts.assign s.proto m s.nextAccount).own? m).bind _ = _
    rw [Table.assign_of_assignable hassignm, Table.own?_insert_self]
    exact hrow _ _ rfl
  | some a =>
    obtain ⟨hgroups, hunits⟩ := hrooms a ha
    dsimp only
    rw [addMemberToGroup_unshadowed hgroups hl]
    cases hg : (s.accountHeap a).groups.own? l with
    | none =>
      refine ⟨_, _, hnew s a, ?_, rfl, rfl, rfl⟩
      rw [roomFor_of_keys hm hl]
      change (s.accounts.own? m).bind _ = _
      rw [ha]
      exact hrow s a rfl
    | some g =>
      refine ⟨g, s, addMember_unshadowed hk (hunits g hg).1 (hunits g hg).2, ?_, rfl, rfl, rfl⟩
      rw [roomFor_of_keys hm hl, ha]
      exact hg

/-! ### The acceptance -/

/-- After the kick-out the socket joins its room; nothing throws. -/
theorem enterRoom_enters (J : JsonCodec) (hs : s.Consistent) (h : s.Enterable login)
    (hlog : (s.sockets w).loginRequest = some login) (hk : propKey login.senderID = .ok k)
    (hactive : s.activeSenderIDsList.own? k = some w) :
    ∃ t : Server, (do
        delMemberFromAccountByName (some login) true
        let _ ← addMemberToAccountGroup w
        sendOkMessage J w : Action Server Unit) s = sendOkMessage J w t ∧
      t.isEntered w = true ∧ t.sendFails = s.sendFails := by
  obtain ⟨m, hm, hassignm⟩ := h.account
  obtain ⟨l, hl, hassignl⟩ := h.group
  obtain ⟨k', hk', hassignk⟩ := h.sender
  obtain rfl : k = k' := Except.ok.inj (hk.symm.trans hk')
  have hkick := run_of_not_escapes (mt (escapes_delMember_iff hs.account_key login true).mp
    (not_not.mpr h.readable))
  have hshrinks := onlyShrinks_delMemberFromAccountByName (some login) true s
  have hsame := (sameTables_delMemberFromAccountByName (some login) true s).active
  have hkept := (outsideKept_delMemberFromAccountByName (some login) true s).sendFails
  obtain ⟨haccounts, hrooms⟩ := h.afterKickOut hs hk hm hl rfl
  rw [run_bind_of_ok hkick]
  generalize (delMemberFromAccountByName (some login) true).final s = u at *
  have hlogu : (u.sockets w).loginRequest = some login :=
    (hshrinks.sockets w).loginRequest.trans hlog
  have hthrows : ¬ (addMemberToAccountGroup w).Escapes u :=
    not_escapes_addMemberToAccountGroup hlogu haccounts hm
      (fun a ha => ⟨(hrooms a ha).1, fun g hg => ((hrooms a ha).2 g hg).1⟩) hk hl
  have hkept' := (outsideKept_addMemberToAccountGroup w u).sendFails
  rw [← hshrinks.proto] at hassignm hassignl hassignk
  obtain ⟨g, t, hfin, hroom, hproto, hsockets, htactive⟩ :=
    addMemberToAccountGroup_enters hlogu hk hm hl hassignm hassignl haccounts hrooms
  rcases hr : addMemberToAccountGroup w u with ⟨e | b, u'⟩
  · exact absurd ⟨e, by rw [hr]⟩ hthrows
  · rw [final, hr] at hfin hkept'
    refine ⟨u', run_bind_of_ok hr, ?_, hkept'.trans hkept⟩
    obtain rfl : u' = join g login.senderID k w t := hfin
    have hunits : ((join g login.senderID k w t).groupHeap g).units.own? k = some w :=
      join_units_self (hproto.symm ▸ hassignk)
    have hself : (join g login.senderID k w t).sockets w =
        { t.sockets w with name := login.senderID, group := some g } := join_sockets_self _
    have hroom' : (join g login.senderID k w t).roomFor login = some g := hroom
    have hrow : (join g login.senderID k w t).activeSenderIDsList.own? k = some w := by
      change t.activeSenderIDsList.own? k = some w
      rw [htactive, hsame, hactive]
    rw [isEntered, hself, hsockets, hlogu]
    simp only [hroom', hk, hunits, hrow, decide_true, Bool.and_self]

/-- The acceptance gets as far as the welcome message, and by then the socket is in. -/
theorem acceptConnection_enters (J : JsonCodec) (hs : s.Consistent)
    (hnone : (s.sockets w).loginRequest = none) (hf : (s.sockets w).authFrameHandler = false)
    (hw : w < s.nextSocket) (h : s.Enterable login) :
    ∃ t : Server, _acceptConnection J login w s = sendOkMessage J w t ∧ t.isEntered w = true ∧
      t.sendFails = s.sendFails := by
  obtain ⟨k, hk, hassignk⟩ := h.sender
  have hs₁ : (setSocket w (fun v => { v with loginRequest := some login, hasStatus := true })
      s).Consistent := hs.admitWrite (.login hnone hf hw)
  have hlog₁ : ((setSocket w (fun v => { v with loginRequest := some login, hasStatus := true })
      s).sockets w).loginRequest = some login := by rw [setSocket_self]
  rw [_acceptConnection, run_bind_modify, run_bind_of_ok (addActiveSenderIDList_run hk w _)]
  refine enterRoom_enters J (hs₁.activate hk hlog₁) ?_ hlog₁ hk ?_
  · -- the tables of the rooms are still what they were
    exact ⟨h.sender, h.account, h.group, h.readable, h.accounts, h.groups, h.units⟩
  · change (s.activeSenderIDsList.assign s.proto k w).own? k = some w
    rw [Table.assign_of_assignable hassignk, Table.own?_insert_self]

end

end Server

end DroneEngage
