import DroneEngage.UnitTables

/-! The end of a connection.

    The close event cleans up three tables by what the socket still carries: it leaves its room by
    its login record, the active senders by its sender id, and its proxy by its name. A login without
    a sender id is skipped by the first two, a socket without a name by the third. When a socket is
    marked, somebody has taken it out of its room before. What the event leaves behind is said
    exactly (`close_cleans_up`). -/

namespace DroneEngage
open Js

namespace Server

open Action

/-- No row of the active senders holds the socket. -/
def Inactive (s : Server) (ws : SocketId) : Prop := ∀ k, s.activeSenderIDsList.own? k ≠ some ws

/-- No proxy is kept under the sender id of the login. -/
def NoProxy (s : Server) (login : LoginRequest) : Prop :=
  ∀ k, propKey login.senderID = .ok k → s.activeUdpProxy.own? k = none

/-- Nothing of the connection is left. -/
structure CleanedUp (s : Server) (ws : SocketId) (login : LoginRequest) : Prop where
  unlisted : s.Unlisted ws
  inactive : s.Inactive ws
  noProxy : s.NoProxy login

/-- What lets the close event of an unmarked socket clean up everything: the socket is in no room, or
    in one that its login leads to; it has a sender id, or no row; it has its name, or there is no
    proxy. A marked socket, one that another socket of its name took out of its room, has only a proxy to
    lose, and keeps it. -/
def CloseCleansUp (s : Server) (ws : SocketId) (login : LoginRequest) : Prop :=
  if (s.sockets ws).terminated then s.NoProxy login
  else (s.Unlisted ws ∨ s.Listed login ws) ∧ (isNullish login.senderID = false ∨ s.Inactive ws) ∧
    (isNullish (s.sockets ws).name = false ∨ s.NoProxy login)

/-! ### Who is taken out of a room -/

/-- The groups in which a login can find its older sockets. -/
def LeadsTo (s : Server) (login : LoginRequest) (g : GroupId) : Prop :=
  ∃ a l, s.FindsAccount login a ∧ (s.accountHeap a).groups.own? l = some g ∧ ¬ s.Frozen g

section

variable {s s' : Server} {ws : SocketId} {login : LoginRequest}

theorem forEach_deleteMember_units (unitname : Val) (terminate : Bool) (h : GroupId) (m : String) :
    ∀ (gs : List GroupId) (s : Server),
      (((forEach gs fun g => deleteMemberByName g unitname terminate).final s).groupHeap h).units.own? m
          = (s.groupHeap h).units.own? m ∨
        h ∈ gs ∧ ¬ s.Frozen h ∧ propKey unitname = .ok m := by
  intro gs
  induction gs with
  | nil => intro s; exact Or.inl rfl
  | cons g rest ih =>
    intro s
    have hrun := run_of_not_escapes (not_escapes_deleteMemberByName g unitname terminate s)
    rw [final, run_forEach_cons, run_bind_of_ok hrun]
    rcases ih ((deleteMemberByName g unitname terminate).final s) with hrest | ⟨hmem, hthawed, hm⟩
    · rcases deleteMemberByName_units g unitname terminate s h m with hfirst | ⟨rfl, hthawed, hm⟩
      · exact Or.inl (hrest.trans hfirst)
      · exact Or.inr ⟨List.mem_cons_self, hthawed, hm⟩
    · exact Or.inr ⟨List.mem_cons_of_mem g hmem,
        fun hf => hthawed ((onlyShrinks_deleteMemberByName g unitname terminate s).frozen h hf), hm⟩

/-- A login takes its name out of the groups it leads to, and nothing else. -/
theorem delMember_units (login : LoginRequest) (terminate : Bool) (s : Server) (h : GroupId)
    (m : String) :
    (((delMemberFromAccountByName (some login) terminate).final s).groupHeap h).units.own? m =
        (s.groupHeap h).units.own? m ∨
      s.LeadsTo login h ∧ propKey login.senderID = .ok m := by
  rcases delMemberFromAccountByName_final login terminate s with ⟨-, hfin⟩ | ⟨a, ha, hfin⟩
  · rw [hfin]; exact Or.inl rfl
  · rw [hfin, retire_groupHeap]
    refine (forEach_deleteMember_units login.senderID terminate h m _ s).imp id ?_
    rintro ⟨hmem, hthawed, hm⟩
    obtain ⟨l, hl⟩ := Table.mem_values_iff.mp hmem
    exact ⟨⟨a, l, ha, hl, hthawed⟩, hm⟩

/-- In the groups a login leads to its name is free afterwards. -/
theorem delMember_struck {h : GroupId} {m : String} (hr : s.LeadsTo login h)
    (hm : propKey login.senderID = .ok m) (terminate : Bool) :
    (((delMemberFromAccountByName (some login) terminate).final s).groupHeap h).units.own? m
      = none := by
  obtain ⟨a, l, ⟨hna, hns, k, hk, hrow⟩, hl, hthawed⟩ := hr
  rcases delMemberFromAccountByName_final login terminate s with
    ⟨hnone, -⟩ | ⟨b, ⟨-, -, k', hk', hrow'⟩, hfin⟩
  · exact absurd ⟨hna, hns, k, hk, hrow⟩ (hnone a)
  · obtain rfl : k = k' := Except.ok.inj (hk.symm.trans hk')
    obtain rfl : a = b := Option.some.inj (hrow.symm.trans hrow')
    have hstruck := struck_forEach login.senderID terminate _ s (Table.mem_values_iff.mpr ⟨l, hl⟩)
      m hm
    have hshrinks : s.Shrinks ((forEach (s.accountHeap a).groups.values fun g =>
        deleteMemberByName g login.senderID terminate).final s) :=
      moves_forEach _ (fun g _ => onlyShrinks_deleteMemberByName g _ _) s
    rw [hfin, retire_groupHeap]
    refine hstruck.resolve_right fun hf => hthawed ⟨?_, ?_⟩
    · rw [← hshrinks.proto]; exact hf.1
    · obtain ⟨v, hv⟩ := Option.isSome_iff_exists.mp hf.2
      exact Option.isSome_iff_exists.mpr ⟨v, hshrinks.units h _ v hv⟩

end

/-! ### Who is marked -/

/-- Sockets are taken away from, and a socket that gets a mark was listed under the name and is not
    any more. -/
def Marks (terminate : Bool) (unitname : Val) (s s' : Server) : Prop :=
  s.Shrinks s' ∧ ∀ v, (s'.sockets v).terminated = true → (s.sockets v).terminated = true ∨
    terminate = true ∧ ∃ g k, propKey unitname = .ok k ∧
      (s.groupHeap g).units.own? k = some v ∧ (s'.groupHeap g).units.own? k = none

instance (terminate : Bool) (unitname : Val) : IsPreorder Server (Marks terminate unitname) where
  refl := fun s => ⟨.refl s, fun _ => Or.inl⟩
  trans := fun s t u h h' => by
    refine ⟨h.1.trans h'.1, fun v hv => ?_⟩
    rcases h'.2 v hv with ht | ⟨hterm, g, k, hk, hu, hnone⟩
    · refine (h.2 v ht).imp id ?_
      rintro ⟨hterm, g, k, hk, hu, hnone⟩
      refine ⟨hterm, g, k, hk, hu, ?_⟩
      cases hw : (u.groupHeap g).units.own? k with
      | none => rfl
      | some w => rw [h'.1.units g k w hw] at hnone; exact absurd hnone (by simp)
    · exact Or.inr ⟨hterm, g, k, hk, h.1.units g k v hu, hnone⟩

section

variable {terminate : Bool} {unitname : Val}

theorem terminated_terminateSocket (ws v : SocketId) (s : Server) :
    (((terminateSocket ws).final s).sockets v).terminated = (s.sockets v).terminated := by
  rw [terminateSocket, final_modify, emit_sockets, setSocket_sockets]
  split
  · next hv => subst hv; split <;> rfl
  · rfl

theorem marks_deleteMemberByName (g : GroupId) :
    Moves (Marks terminate unitname) (deleteMemberByName g unitname terminate) := by
  intro s
  refine ⟨onlyShrinks_deleteMemberByName g unitname terminate s, fun v hv => ?_⟩
  rcases deleteMemberByName_final g unitname terminate s with ⟨-, hfin⟩ | ⟨k, ws, hfound, hfin⟩
  · rw [hfin] at hv; exact Or.inl hv
  · obtain ⟨hk, hu, -⟩ := memberNamed_found hfound
    have hunlink : ((unlink g k ws s).sockets v).terminated = (s.sockets v).terminated := by
      rw [unlink, setSocket_sockets]
      split
      · next h => subst h; rfl
      · rfl
    have hgone : (((deleteMemberByName g unitname terminate).final s).groupHeap g).units.own? k
        = none := by
      rw [hfin, afterUnlink_groupHeap, unlink, setSocket_groupHeap, setGroup_groupHeap, if_pos rfl,
        Table.own?_delete_self]
    have hdrop := dropIfEmpty_sockets g (unlink g k ws s)
    rw [hfin] at hv
    rcases hr : dropIfEmpty g (unlink g k ws s) with ⟨e | u, t⟩
    · rw [final, run_bind_of_error hr] at hv
      rw [final, hr] at hdrop
      left
      rw [← hunlink, ← hdrop]
      exact hv
    · rw [final_bind_of_ok hr] at hv
      rw [final, hr] at hdrop
      cases terminate with
      | false =>
        left
        rw [← hunlink, ← hdrop]
        exact hv
      | true =>
        by_cases hvw : v = ws
        · subst hvw
          exact Or.inr ⟨rfl, g, k, hk, hu, hgone⟩
        · left
          rw [if_pos rfl, final_modify_bind, terminated_terminateSocket, setSocket_ne _ _ _ _ hvw,
            hdrop, hunlink] at hv
          exact hv

theorem marks_delMember (login : LoginRequest) :
    Moves (Marks terminate login.senderID) (delMemberFromAccountByName (some login) terminate) := by
  intro s
  rcases delMemberFromAccountByName_final login terminate s with ⟨-, hfin⟩ | ⟨a, -, hfin⟩
  · rw [hfin]; exact refl_of (Marks terminate login.senderID) s
  · have hloop : Marks terminate login.senderID s ((forEach (s.accountHeap a).groups.values fun g =>
        deleteMemberByName g login.senderID terminate).final s) :=
      moves_forEach _ (fun g _ => marks_deleteMemberByName g) s
    obtain ⟨accounts, hretire⟩ := retire_eq a ((forEach (s.accountHeap a).groups.values fun g =>
      deleteMemberByName g login.senderID terminate).final s)
    have hall := onlyShrinks_delMemberFromAccountByName (some login) terminate s
    rw [hfin, hretire] at hall ⊢
    exact ⟨hall, hloop.2⟩

/-- A logout marks nobody. -/
theorem terminated_delMemberFromGroup (ws : SocketId) (s : Server) (v : SocketId)
    (hv : (((delMemberFromGroup ws).final s).sockets v).terminated = true) :
    (s.sockets v).terminated = true := by
  rw [delMemberFromGroup_final] at hv
  cases hg : (s.sockets ws).group with
  | none => rw [hg] at hv; exact hv
  | some g =>
    rw [hg] at hv
    simp only at hv
    split at hv
    · rw [setSocket_sockets] at hv
      split at hv
      · next h => subst h; exact hv
      · exact hv
    · exact ((marks_deleteMemberByName g s).2 v hv).resolve_right fun h => Bool.noConfusion h.1

/-- Neither does the removal of a dead socket. -/
theorem terminated_handleOrphanSocket (ws : SocketId) (s : Server) (v : SocketId)
    (hv : (((handleOrphanSocket ws).final s).sockets v).terminated = true) :
    (s.sockets v).terminated = true := by
  rcases handleOrphanSocket_final ws s with ⟨-, hfin⟩ | ⟨g, -, hfin⟩
  · rw [hfin] at hv; exact hv
  · have hmarks : Marks false (s.sockets ws).name s _ := marks_deleteMemberByName g s
    have hleft := hmarks.2 v
    rw [hfin, terminated_terminateSocket, setSocket_sockets] at hv
    refine (hleft ?_).resolve_right fun h => Bool.noConfusion h.1
    split at hv
    · next h => subst h; exact hv
    · exact hv

end

/-! ### What the close event does -/

theorem closeUDPSocket_ok {name : Val} {report : Json} {s s' : Server}
    (h : closeUDPSocket name s = (.ok report, s')) : SameRooms s s' ∧
      s'.activeSenderIDsList = s.activeSenderIDsList ∧
      ∃ k, propKey name = .ok k ∧ s'.activeUdpProxy.own? k = none := by
  have hrooms : SameRooms s s' := by
    have hmoves := moves_closeUDPSocket (R := SameRooms)
      (fun _ => moves_modify fun _ => ⟨rfl, rfl, rfl, rfl, rfl⟩) name s
    rw [final, h] at hmoves
    exact hmoves
  rw [closeUDPSocket, run_bind_get] at h
  obtain ⟨own, hown, h⟩ := run_ofExcept_bind_eq_ok.mp h
  obtain ⟨k, hk, h⟩ := run_ofExcept_bind_eq_ok.mp h
  have hsome : own = (s.activeUdpProxy.own? k).isSome := by
    rcases Table.hasOwnProperty_cases s.proto s.activeUdpProxy name with ⟨e, he⟩ | ⟨l, hl, hval⟩
    · rw [he] at hown; exact absurd hown (by simp)
    · obtain rfl : k = l := Except.ok.inj (hk.symm.trans hl)
      exact Except.ok.inj (hown.symm.trans hval)
  cases hrow : s.activeUdpProxy.own? k with
  | none =>
    rw [hrow] at hsome h
    subst hsome
    obtain ⟨-, rfl⟩ := Prod.mk.inj h
    exact ⟨hrooms, rfl, k, hk, hrow⟩
  | some entry =>
    rw [hrow] at hsome h
    subst hsome
    obtain ⟨-, rfl⟩ := Prod.mk.inj h
    exact ⟨hrooms, rfl, k, hk, Table.own?_delete_self _ _⟩

theorem forgetSender_ok {login : LoginRequest} {s s' : Server}
    (h : forgetSender (some login) s = (.ok (), s')) : SameRooms s s' ∧
      s'.activeUdpProxy = s.activeUdpProxy ∧
      ((isNullish login.senderID = true ∧ s'.activeSenderIDsList = s.activeSenderIDsList) ∨
        isNullish login.senderID = false ∧ ∃ k, propKey login.senderID = .ok k ∧
          s'.activeSenderIDsList = s.activeSenderIDsList.delete k) := by
  have hrooms := sameRooms_forgetSender (some login) s
  rw [final, h] at hrooms
  rw [forgetSender] at h
  obtain ⟨u, t, hdel, h⟩ := run_bind_eq_ok.mp h
  have htail : s'.activeSenderIDsList = t.activeSenderIDsList ∧
      s'.activeUdpProxy = t.activeUdpProxy := by
    have hemit : ∀ e, Moves SameTables (modify (emit e)) := sameTables_emit
    have hmoves : SameTables t ((do
        modify (emit (.toAuth (logoutMessage login.senderID)))
        let s ← Action.get
        Action.when (!s.config.ignore_auth_server) (modify (emit .updateAuth)) :
          Action Server Unit).final t) :=
      moves_bind (hemit _) (fun _ => moves_bind moves_get fun _ => moves_when fun _ => hemit _) t
    rw [final, h] at hmoves
    exact ⟨hmoves.active, hmoves.proxies⟩
  rw [htail.1, htail.2]
  refine ⟨hrooms, ?_⟩
  by_cases hnull : isNullish login.senderID = true
  · rw [deleteActiveSenderIDList, if_pos hnull] at hdel
    obtain ⟨-, rfl⟩ := Prod.mk.inj hdel
    exact ⟨rfl, Or.inl ⟨hnull, rfl⟩⟩
  · rw [deleteActiveSenderIDList, if_neg hnull] at hdel
    obtain ⟨k, hk, hdel⟩ := run_ofExcept_bind_eq_ok.mp hdel
    obtain ⟨-, rfl⟩ := Prod.mk.inj hdel
    exact ⟨rfl, Or.inr ⟨by simpa using hnull, k, hk, rfl⟩⟩

/-- The cleanup of an unmarked socket with this login, when nothing throws on the way. -/
structure Cleans (ws : SocketId) (login : LoginRequest) (s s' : Server) : Prop where
  rooms : SameRooms ((delMemberFromAccountByName (some login) true).final s) s'
  active : (isNullish login.senderID = true ∧ s'.activeSenderIDsList = s.activeSenderIDsList) ∨
    isNullish login.senderID = false ∧ ∃ k, propKey login.senderID = .ok k ∧
      s'.activeSenderIDsList = s.activeSenderIDsList.delete k
  proxies : (isNullish (s.sockets ws).name = true ∧ s'.activeUdpProxy = s.activeUdpProxy) ∨
    isNullish (s.sockets ws).name = false ∧ ∃ k, propKey (s.sockets ws).name = .ok k ∧
      s'.activeUdpProxy.own? k = none

theorem onWsClose_cleans {ws : SocketId} {login : LoginRequest} {s s' : Server}
    (hl : (s.sockets ws).loginRequest = some login) (ht : (s.sockets ws).terminated = false)
    (h : onWsClose ws s = (.ok (), s')) : Cleans ws login s s' := by
  rw [onWsClose, run_bind_get, if_neg (by rw [ht]; exact Bool.false_ne_true), hl] at h
  obtain ⟨u, s₁, hdel, h⟩ := run_bind_eq_ok.mp h
  obtain ⟨u', s₂, hclose, hforget⟩ := run_bind_eq_ok.mp h
  obtain ⟨hrooms, hproxies, hactive⟩ := forgetSender_ok hforget
  have htables := sameTables_delMemberFromAccountByName (some login) true s
  have hfin : (delMemberFromAccountByName (some login) true).final s = s₁ := by rw [final, hdel]
  rw [hfin] at htables
  have hmid : SameRooms s₁ s₂ ∧ s₂.activeSenderIDsList = s₁.activeSenderIDsList ∧
      ((isNullish (s.sockets ws).name = true ∧ s₂.activeUdpProxy = s₁.activeUdpProxy) ∨
        isNullish (s.sockets ws).name = false ∧ ∃ k, propKey (s.sockets ws).name = .ok k ∧
          s₂.activeUdpProxy.own? k = none) := by
    cases hname : isNullish (s.sockets ws).name with
    | true =>
      rw [hname] at hclose
      obtain ⟨-, rfl⟩ := Prod.mk.inj hclose
      exact ⟨refl_of SameRooms s₁, rfl, Or.inl ⟨rfl, rfl⟩⟩
    | false =>
      rw [hname] at hclose
      obtain ⟨report, s₃, hreport, hrest⟩ := run_bind_eq_ok.mp hclose
      obtain ⟨-, rfl⟩ := Prod.mk.inj hrest
      obtain ⟨h₁, h₂, h₃⟩ := closeUDPSocket_ok hreport
      exact ⟨h₁, h₂, Or.inr ⟨rfl, h₃⟩⟩
  obtain ⟨hsame, hact, hudp⟩ := hmid
  refine ⟨?_, ?_, ?_⟩
  · rw [hfin]; exact trans_of SameRooms hsame hrooms
  · rw [hact, htables.active] at hactive; exact hactive
  · rw [hproxies, ← htables.proxies]; exact hudp

/-! ### Marked sockets -/

/-- A socket is listed once at most, and a marked one nowhere. -/
structure Swept (s : Server) : Prop where
  consistent : s.Consistent
  proto : s.proto = objectPrototype
  once : ∀ {g h k m ws}, (s.groupHeap g).units.own? k = some ws →
    (s.groupHeap h).units.own? m = some ws → g = h
  marked : ∀ {ws}, (s.sockets ws).terminated = true →
    s.Unlisted ws ∧ s.Inactive ws ∧ (s.sockets ws).loginRequest ≠ none
  listening : ∀ {ws}, (s.sockets ws).loginRequest ≠ none → (s.sockets ws).listening = true
  rows : ∀ {k}, ¬ Table.Assignable s.proto k → s.activeSenderIDsList.own? k = none

section

variable {s s' : Server} {ws : SocketId} {login : LoginRequest}

theorem swept_start (config : Config) : (start config).Swept :=
  ⟨consistent_start config, rfl, fun h => absurd h (by simp), fun h => absurd h (by simp [start]),
    fun h => absurd rfl h, fun _ => rfl⟩

theorem Shrinks.inactive (h : s.Shrinks s') (hs : s.Inactive ws) : s'.Inactive ws :=
  fun k hk => hs k (h.active k ws hk)

/-- Taking things away keeps it, when the sockets that get a mark are gone from both tables. -/
theorem Swept.shrinks (h : s.Swept) (hshrinks : s.Shrinks s')
    (hmarks : ∀ v, (s'.sockets v).terminated = true → (s.sockets v).terminated = true ∨
      s'.Unlisted v ∧ s'.Inactive v ∧ (s.sockets v).loginRequest ≠ none) : s'.Swept := by
  refine ⟨h.consistent.shrinks hshrinks, hshrinks.proto.trans h.proto,
    fun {g g' k m v} hu hv => h.once (hshrinks.units g k v hu) (hshrinks.units g' m v hv),
    fun {v} hv => ?_, fun {v} hv => ?_, fun {k} hk => ?_⟩
  · rw [(hshrinks.sockets v).loginRequest]
    rcases hmarks v hv with ht | hgone
    · obtain ⟨hout, hoff, hlogin⟩ := h.marked ht
      exact ⟨hshrinks.unlisted hout, hshrinks.inactive hoff, hlogin⟩
    · exact hgone
  · rw [(hshrinks.sockets v).loginRequest] at hv
    rw [(hshrinks.sockets v).listening]
    exact h.listening hv
  · rw [hshrinks.proto] at hk
    cases hrow : s'.activeSenderIDsList.own? k with
    | none => rfl
    | some v =>
      have hnone := h.rows hk
      rw [hshrinks.active k v hrow] at hnone
      exact absurd hnone (by simp)

theorem Swept.quiet (h : s.Swept) (hq : s.Quiet s') : s'.Swept := by
  refine ⟨h.consistent.quiet hq, hq.proto.trans h.proto, fun hu hv => ?_, fun {v} hv => ?_,
    fun {v} hv => ?_, fun hk => ?_⟩
  · rw [hq.groupHeap] at hu hv; exact h.once hu hv
  · rcases hq.sockets v with hsame | ⟨-, hblank⟩
    · rw [hsame.terminated] at hv
      obtain ⟨hout, hoff, hlogin⟩ := h.marked hv
      refine ⟨fun g k hu => hout g k ?_, fun k hk => hoff k ?_, ?_⟩
      · rw [← hq.groupHeap]; exact hu
      · rw [← hq.activeSenderIDsList]; exact hk
      · rw [hsame.loginRequest]; exact hlogin
    · rw [hblank.terminated] at hv; exact absurd hv (by simp)
  · rcases hq.sockets v with hsame | ⟨-, hblank⟩
    · rw [hsame.loginRequest] at hv; exact hsame.listening (h.listening hv)
    · exact absurd hblank.loginRequest hv
  · rw [hq.proto] at hk; rw [hq.activeSenderIDsList]; exact h.rows hk

/-- A member that leaves its group is listed nowhere afterwards. -/
theorem Swept.unlisted_of_gone (h : s.Swept) (hshrinks : s.Shrinks s') {g : GroupId} {k : String}
    (hu : (s.groupHeap g).units.own? k = some ws)
    (hgone : (s'.groupHeap g).units.own? k = none) : s'.Unlisted ws := by
  intro g' m hu'
  have hu₀ := hshrinks.units g' m ws hu'
  obtain rfl := h.once hu hu₀
  obtain ⟨l, hl, hk, -⟩ := h.consistent.member g k ws hu
  obtain ⟨l', hl', hm, -⟩ := h.consistent.member g m ws hu₀
  obtain rfl : l = l' := Option.some.inj (hl.symm.trans hl')
  obtain rfl : k = m := Except.ok.inj (hk.symm.trans hm)
  rw [hgone] at hu'
  exact absurd hu' (by simp)

/-- The row of a listed socket is under the name it is listed under. -/
theorem Swept.row_of_listed (h : s.Swept) {g : GroupId} {k m : String}
    (hu : (s.groupHeap g).units.own? k = some ws) (hrow : s.activeSenderIDsList.own? m = some ws) :
    m = k := by
  obtain ⟨l, hl, hk, -⟩ := h.consistent.member g k ws hu
  obtain ⟨l', hl', hm⟩ := h.consistent.active m ws hrow
  obtain rfl : l = l' := Option.some.inj (hl.symm.trans hl')
  exact Except.ok.inj (hm.symm.trans hk)

/-- A removal by account and name, after which nobody has the row of that name. -/
theorem Swept.marks (h : s.Swept) (hm : Marks true login.senderID s s')
    (hrow : ∀ k v, propKey login.senderID = .ok k → s'.activeSenderIDsList.own? k = some v →
      s.Unlisted v) : s'.Swept := by
  refine h.shrinks hm.1 fun v hv => (hm.2 v hv).imp id ?_
  rintro ⟨-, g, k, hk, hu, hgone⟩
  refine ⟨h.unlisted_of_gone hm.1 hu hgone, fun m hmrow => ?_, ?_⟩
  · obtain rfl := h.row_of_listed hu (hm.1.active m v hmrow)
    exact hrow m v hk hmrow g m hu
  · obtain ⟨l, hl, -⟩ := h.consistent.member g k v hu
    rw [hl]; simp

/-- The listed sockets of one write of an acceptance. -/
theorem AdmitWrite.gone {w : SocketId} (h : AdmitWrite w login s s') (hne : ws ≠ w) :
    (s.Unlisted ws → s'.Unlisted ws) ∧ (s.Inactive ws → s'.Inactive ws) := by
  cases h with
  | shrinks h => exact ⟨h.unlisted, h.inactive⟩
  | login | account => exact ⟨fun h => h, fun h => h⟩
  | active =>
    refine ⟨fun h => h, fun h k hk => ?_⟩
    rcases Table.own?_assign_imp hk with ⟨-, rfl⟩ | hk
    · exact hne rfl
    · exact h k hk
  | group => exact ⟨fun h g k hu => h g k (openGroup_units hu), fun h => h⟩
  | member =>
    refine ⟨fun h g k hu => ?_, fun h => h⟩
    rcases join_units hu with ⟨-, rfl, -⟩ | hu
    · exact hne rfl
    · exact h g k hu

theorem admitWrites_gone {w : SocketId} (h : Relation.ReflTransGen (AdmitWrite w login) s s')
    (hne : ws ≠ w) : (s.Unlisted ws → s'.Unlisted ws) ∧ (s.Inactive ws → s'.Inactive ws) := by
  induction h with
  | refl => exact ⟨id, id⟩
  | tail _ hwrite ih => exact ⟨(hwrite.gone hne).1 ∘ ih.1, (hwrite.gone hne).2 ∘ ih.2⟩

/-! ### Marked sockets in runs -/

theorem Swept.setSocket (h : s.Swept) {f : Socket → Socket} (hs' : (setSocket ws f s).Consistent)
    (hmark : (f (s.sockets ws)).terminated = true →
      (s.sockets ws).terminated = true ∧ (f (s.sockets ws)).loginRequest ≠ none)
    (hlisten : (f (s.sockets ws)).loginRequest ≠ none → (f (s.sockets ws)).listening = true) :
    (setSocket ws f s).Swept := by
  refine ⟨hs', h.proto, fun hu hv => h.once hu hv, fun {v} hv => ?_, fun {v} hv => ?_,
    fun hk => h.rows hk⟩
  · rw [setSocket_sockets] at hv ⊢
    split at hv
    · next hvw =>
      subst hvw
      obtain ⟨ht, hlogin⟩ := hmark hv
      obtain ⟨hout, hoff, -⟩ := h.marked ht
      rw [if_pos rfl]
      exact ⟨hout, hoff, hlogin⟩
    · next hvw => rw [if_neg hvw]; exact h.marked hv
  · rw [setSocket_sockets] at hv ⊢
    split at hv
    · next hvw => rw [if_pos hvw]; exact hlisten hv
    · next hvw => rw [if_neg hvw]; exact h.listening hv

theorem Swept.activate (h : s.Swept) {k : String} (hk : propKey login.senderID = .ok k)
    (hl : (s.sockets ws).loginRequest = some login) (ht : (s.sockets ws).terminated = false) :
    Swept { s with activeSenderIDsList := s.activeSenderIDsList.assign s.proto k ws } := by
  refine ⟨h.consistent.activate hk hl, h.proto, fun hu hv => h.once hu hv, fun {v} hv => ?_,
    fun hv => h.listening hv, fun {l} hl => ?_⟩
  · obtain ⟨hout, hoff, hlogin⟩ := h.marked hv
    refine ⟨hout, fun m hm => ?_, hlogin⟩
    rcases Table.own?_assign_imp hm with ⟨-, rfl⟩ | hm
    · change (s.sockets v).terminated = true at hv
      rw [ht] at hv; exact absurd hv (by simp)
    · exact hoff m hm
  · cases hrow : (s.activeSenderIDsList.assign s.proto k ws).own? l with
    | none => rfl
    | some v =>
      rcases Table.own?_assign_imp hrow with ⟨rfl, -⟩ | hrow'
      · rw [Table.assign, if_pos (not_not.mp hl)] at hrow
        rw [h.rows hl] at hrow
        exact absurd hrow (by simp)
      · rw [h.rows hl] at hrow'; exact absurd hrow' (by simp)

theorem Swept.openAccount (h : s.Swept) {id : Val} {k : String} (hk : propKey id = .ok k) :
    (openAccount id k s).Swept :=
  ⟨h.consistent.openAccount hk, h.proto, h.once, h.marked, h.listening, h.rows⟩

theorem Swept.openGroup (h : s.Swept) {a : AccountId} {id : Val} {k : String}
    (ha : a < s.nextAccount) (hk : propKey id = .ok k) : (openGroup a id k s).Swept := by
  refine ⟨h.consistent.openGroup ha hk, h.proto, fun hu hv =>
    h.once (openGroup_units hu) (openGroup_units hv), fun hv => ?_, h.listening, h.rows⟩
  obtain ⟨hout, hoff, hlogin⟩ := h.marked hv
  exact ⟨fun g m hu => hout g m (openGroup_units hu), hoff, hlogin⟩

theorem Swept.join (h : s.Swept) {g : GroupId} {k : String} (hr : s.RoomOf g login)
    (hk : propKey login.senderID = .ok k) (hl : (s.sockets ws).loginRequest = some login)
    (hout : s.Unlisted ws) (ht : (s.sockets ws).terminated = false) :
    (join g login.senderID k ws s).Swept := by
  have hjoined : ∀ v, ((Server.join g login.senderID k ws s).sockets v).terminated =
        (s.sockets v).terminated ∧
      ((Server.join g login.senderID k ws s).sockets v).loginRequest = (s.sockets v).loginRequest ∧
      ((Server.join g login.senderID k ws s).sockets v).listening = (s.sockets v).listening := by
    intro v
    rw [Server.join, setSocket_sockets]
    split
    · next hv => subst hv; exact ⟨rfl, rfl, rfl⟩
    · exact ⟨rfl, rfl, rfl⟩
  refine ⟨h.consistent.join hr hk hl hout, h.proto, fun hu hv => ?_, fun {v} hv => ?_,
    fun {v} hv => ?_, h.rows⟩
  · rcases join_units hu with ⟨-, rfl, rfl⟩ | hu₀
    · rcases join_units hv with ⟨-, -, rfl⟩ | hv₀
      · rfl
      · exact absurd hv₀ (hout _ _)
    · rcases join_units hv with ⟨-, rfl, -⟩ | hv₀
      · exact absurd hu₀ (hout _ _)
      · exact h.once hu₀ hv₀
  · rw [(hjoined v).1] at hv
    rw [(hjoined v).2.1]
    obtain ⟨hgone, hoff, hlogin⟩ := h.marked hv
    refine ⟨fun g' m hu => ?_, hoff, hlogin⟩
    rcases join_units hu with ⟨-, rfl, -⟩ | hu
    · rw [ht] at hv; exact absurd hv (by simp)
    · exact hgone g' m hu
  · rw [(hjoined v).2.1] at hv
    rw [(hjoined v).2.2]
    exact h.listening hv

theorem Swept.addMember (h : s.Swept) {g : GroupId} (hr : s.RoomOf g login)
    (hl : (s.sockets ws).loginRequest = some login) (hout : s.Unlisted ws)
    (ht : (s.sockets ws).terminated = false) : ((addMember g login.senderID ws).final s).Swept := by
  rcases addMember_final g login.senderID ws s with hfin | ⟨k, hk, -, hfin⟩
  · rw [hfin]; exact h
  · rw [hfin]; exact h.join hr hk hl hout ht

theorem Swept.addMemberToGroup (h : s.Swept) {a : AccountId} (ha : a < s.nextAccount)
    (hid : SameId (s.accountHeap a).accountID login.accountID)
    (hl : (s.sockets ws).loginRequest = some login) (hout : s.Unlisted ws)
    (ht : (s.sockets ws).terminated = false) :
    ((addMemberToGroup a login.senderID login.groupID ws).final s).Swept := by
  rcases addMemberToGroup_final a login.senderID login.groupID ws s with
    hfin | ⟨k, hk, ⟨g, hg, hfin⟩ | ⟨-, hfin⟩⟩
  · rw [hfin]; exact h
  · have hs := h.consistent
    rw [hfin]
    refine h.addMember ⟨hs.group_lt a k g hg, ⟨k, hs.group_key a k g hg, hk⟩, ?_⟩ hl hout ht
    rw [accountOf, hs.group_parent a k g hg]
    exact hid
  · rw [hfin]
    refine (h.openGroup ha hk).addMember ⟨Nat.lt_succ_self _, ⟨k, ?_, hk⟩, ?_⟩ hl
      (fun g m hu => hout g m (openGroup_units hu)) ht
    · rw [openGroup_groupHeap, if_pos rfl]; exact hk
    · rw [accountOf, openGroup_groupHeap, if_pos rfl, Server.openGroup, setAccount_accountHeap,
        if_pos rfl]
      exact hid

theorem Swept.addMemberToAccountGroup (h : s.Swept)
    (hl : (s.sockets ws).loginRequest = some login) (hout : s.Unlisted ws)
    (ht : (s.sockets ws).terminated = false) : ((addMemberToAccountGroup ws).final s).Swept := by
  rcases addMemberToAccountGroup_final ws s with hfin | ⟨l, k, hl', hk, hcases⟩
  · rw [hfin]; exact h
  · obtain rfl : login = l := Option.some.inj (hl.symm.trans hl')
    rcases hcases with ⟨a, ha, hfin⟩ | ⟨-, hfin⟩
    · rw [hfin]
      exact h.addMemberToGroup (h.consistent.account_lt k a ha)
        ⟨k, h.consistent.account_key k a ha, hk⟩ hl hout ht
    · rw [hfin]
      refine (h.openAccount hk).addMemberToGroup (Nat.lt_succ_self _) ⟨k, ?_, hk⟩ hl hout ht
      rw [openAccount_accountHeap, if_pos rfl]
      exact hk

theorem Swept.accept (h : s.Swept) (J : JsonCodec) (hw : s.Ready ws) :
    ((_acceptConnection J login ws).final s).Swept := by
  have hout := h.consistent.unlisted hw.loginRequest
  have ht : (s.sockets ws).terminated = false := by
    cases ht : (s.sockets ws).terminated with
    | false => rfl
    | true => exact absurd hw.loginRequest (h.marked ht).2.2
  have h₁ : (Server.setSocket ws (fun v => { v with loginRequest := some login, hasStatus := true })
      s).Swept :=
    h.setSocket (h.consistent.setLogin hw.loginRequest hw.authFrameHandler hw.known)
      (fun hmark => by rw [ht] at hmark; exact absurd hmark (by simp)) fun _ => hw.listening
  have hself : (Server.setSocket ws (fun v =>
      { v with loginRequest := some login, hasStatus := true }) s).sockets ws =
      { s.sockets ws with loginRequest := some login, hasStatus := true } := setSocket_self ..
  have hout₁ : (Server.setSocket ws (fun v => { v with loginRequest := some login, hasStatus := true })
      s).Unlisted ws := hout
  generalize heq : Server.setSocket ws (fun v =>
    { v with loginRequest := some login, hasStatus := true }) s = t at h₁ hself hout₁
  refine accept_keeps J heq h₁ (fun k u hk hu => ?_) fun hq h => h.quiet hq
  have h₂ : Swept { t with activeSenderIDsList := t.activeSenderIDsList.assign t.proto k ws } :=
    h₁.activate hk (by rw [hself]) (by rw [hself]; exact ht)
  -- the kick-out; the row of the name is that of the new socket by now
  have hm : Marks true login.senderID _ _ := marks_delMember login
    { t with activeSenderIDsList := t.activeSenderIDsList.assign t.proto k ws }
  have h₃ := h₂.marks hm fun l v hl hrow => by
    obtain rfl : k = l := Except.ok.inj (hk.symm.trans hl)
    have hrow₂ := hm.1.active k v hrow
    change (t.activeSenderIDsList.assign t.proto k ws).own? k = some v at hrow₂
    by_cases hassign : Table.Assignable t.proto k
    · rw [Table.assign_of_assignable hassign, Table.own?_insert_self] at hrow₂
      exact Option.some.inj hrow₂ ▸ hout₁
    · rw [Table.assign, if_pos (not_not.mp hassign), h₁.rows hassign] at hrow₂
      exact absurd hrow₂ (by simp)
  rw [hu] at h₃ hm
  have hl₃ := (hm.1.sockets ws).loginRequest
  change _ = (t.sockets ws).loginRequest at hl₃
  rw [hself] at hl₃
  have hmark : (u.sockets ws).terminated = false := by
    cases hmark : (u.sockets ws).terminated with
    | false => rfl
    | true =>
      rcases hm.2 ws hmark with hold | ⟨-, g, m, -, hin, -⟩
      · change (t.sockets ws).terminated = true at hold
        rw [hself, ht] at hold
        exact absurd hold (by simp)
      · exact absurd hin (hout₁ g m)
  exact ⟨h₃, h₃.addMemberToAccountGroup hl₃ (hm.1.unlisted hout₁) hmark⟩

/-- The cleanup leaves no row of the sockets it marks. -/
theorem Swept.cleans (h : s.Swept) (hshrinks : s.Shrinks s') (hc : Cleans ws login s s') :
    s'.Swept := by
  have hm : Marks true login.senderID s _ := marks_delMember login s
  refine h.shrinks hshrinks fun v hv => ?_
  rw [hc.rooms.sockets] at hv
  refine (hm.2 v hv).imp id ?_
  rintro ⟨-, g, k, hk, hu, hgone⟩
  refine ⟨h.unlisted_of_gone hshrinks hu (by rw [hc.rooms.groupHeap]; exact hgone), fun m hrow => ?_, ?_⟩
  · obtain rfl := h.row_of_listed hu (hshrinks.active m v hrow)
    rcases hc.active with ⟨hnull, -⟩ | ⟨-, l, hl, hact⟩
    · -- without a sender id nobody is removed
      rcases delMemberFromAccountByName_final login true s with ⟨-, hfin⟩ | ⟨a, ⟨-, hn, -⟩, -⟩
      · rw [hfin, hu] at hgone; exact absurd hgone (by simp)
      · rw [hnull] at hn; exact absurd hn (by simp)
    · obtain rfl : m = l := Except.ok.inj (hk.symm.trans hl)
      rw [hact, Table.own?_delete_self] at hrow
      exact absurd hrow (by simp)
  · obtain ⟨l, hl, -⟩ := h.consistent.member g k v hu
    rw [hl]; simp

theorem Swept.closed (h : s.Swept) (ws : SocketId) :
    (Server.setSocket ws (fun w => { w with readyState := .closed }) s).Swept :=
  h.setSocket (h.consistent.shrinks (shrinks_setSocket socketShrinks_closed (fun _ => rfl) s))
    (fun ht => ⟨ht, (h.marked ht).2.2⟩) fun hl => h.listening hl

theorem Swept.close (h : s.Swept) (hrun : closeEvent ws s = (.ok (), s')) : s'.Swept := by
  have hclosed := h.closed ws
  rw [closeEvent, run_bind_modify, run_bind_get] at hrun
  generalize Server.setSocket ws (fun w => { w with readyState := .closed }) s = t at hclosed hrun
  cases hlisten : (t.sockets ws).listening with
  | false =>
    rw [hlisten] at hrun
    obtain ⟨-, rfl⟩ := Prod.mk.inj hrun
    exact hclosed
  | true =>
    rw [hlisten, run_when_true] at hrun
    have hshrinks := onlyShrinks_onWsClose ws t
    have hsame := onWsClose_final ws t
    rw [final, hrun] at hshrinks hsame
    rcases hsame with ⟨-, hfin⟩ | ⟨ht, hsame⟩
    · obtain rfl : t = s' := hfin.symm
      exact hclosed
    · cases hl : (t.sockets ws).loginRequest with
      | none =>
        rw [hl] at hsame
        refine hclosed.shrinks hshrinks fun v hv => Or.inl ?_
        rw [hsame.sockets] at hv
        exact hv
      | some login => exact hclosed.cleans hshrinks (onWsClose_cleans hl ht hrun)

theorem Swept.roomStep {J : JsonCodec} {o : RoomOp} (h : s.Swept) (hstep : RoomStep J s o s') :
    s'.Swept := by
  cases hstep with
  | quiet hq => exact h.quiet hq
  | accept login hw => exact h.accept J hw
  | logout ws =>
    exact h.shrinks (onlyShrinks_delMemberFromGroup ws s) fun v hv =>
      Or.inl (terminated_delMemberFromGroup ws s v hv)
  | removeDead ws =>
    exact h.shrinks (onlyShrinks_handleOrphanSocket ws s) fun v hv =>
      Or.inl (terminated_handleOrphanSocket ws s v hv)
  | proxy ws jmsg =>
    have hsame := sameRooms_udpProxyCommand J jmsg ws s
    refine h.shrinks (moves_udpProxyCommand (fun _ => moves_modify fun s => shrinks_udp _ s) J
      onlyShrinks_send jmsg s) fun v hv => Or.inl ?_
    rw [hsame.sockets] at hv
    exact hv
  | progress entry hn => exact h.shrinks (shrinks_udp _ s) fun v hv => Or.inl hv
  | @close _ ws hrun => exact h.close hrun

/-! ### The end of a connection in runs -/

/-- The room of an unmarked socket is left exactly when the login leads to it. -/
theorem Cleans.unlisted_iff (h : s.Swept) (hshrinks : s.Shrinks s') (hc : Cleans ws login s s') :
    s'.Unlisted ws ↔ s.Unlisted ws ∨ s.Listed login ws := by
  constructor
  · intro hout
    by_contra hnot
    rw [not_or, Unlisted] at hnot
    obtain ⟨hin, hnot⟩ := hnot
    simp only [not_forall, not_not] at hin
    obtain ⟨g, k, hu⟩ := hin
    rcases delMember_units login true s g k with hsame | ⟨⟨a, l, ⟨hna, hns, ka, hka, hrow⟩, hg, hthawed⟩, hk⟩
    · refine hout g k ?_
      rw [hc.rooms.groupHeap, hsame]
      exact hu
    · refine hnot ⟨hna, hns, ka, a, l, g, k, hka, hrow, hg, hk, hu, ?_⟩
      cases hown : (s.groupHeap g).units.own? "hasOwnProperty" with
      | none => rfl
      | some v => exact absurd ⟨by rw [h.proto]; decide, by rw [hown]; rfl⟩ hthawed
  · rintro (hout | ⟨hna, hns, ka, a, l, g, k, hka, hrow, hg, hk, hu, hown⟩)
    · exact hshrinks.unlisted hout
    · have hthawed : ¬ s.Frozen g := by
        rintro ⟨-, hf⟩
        rw [hown] at hf
        exact absurd hf (by simp)
      refine h.unlisted_of_gone hshrinks hu ?_
      rw [hc.rooms.groupHeap]
      exact delMember_struck ⟨a, l, ⟨hna, hns, ka, hka, hrow⟩, hg, hthawed⟩ hk true

theorem Cleans.inactive_iff (hs : s.Consistent) (hl : (s.sockets ws).loginRequest = some login)
    (hshrinks : s.Shrinks s') (hc : Cleans ws login s s') :
    s'.Inactive ws ↔ isNullish login.senderID = false ∨ s.Inactive ws := by
  rcases hc.active with ⟨hnull, hact⟩ | ⟨hnull, k, hk, hact⟩
  · rw [hnull, Inactive, hact]
    simp [Inactive]
  · refine ⟨fun _ => Or.inl hnull, fun _ m hm => ?_⟩
    obtain ⟨l, hl', hkey⟩ := hs.active m ws (hshrinks.active m ws hm)
    obtain rfl : login = l := Option.some.inj (hl.symm.trans hl')
    obtain rfl : k = m := Except.ok.inj (hk.symm.trans hkey)
    rw [hact, Table.own?_delete_self] at hm
    exact absurd hm (by simp)

theorem Cleans.noProxy_iff (hs : s.Consistent) (hl : (s.sockets ws).loginRequest = some login)
    (hc : Cleans ws login s s') :
    s'.NoProxy login ↔ isNullish (s.sockets ws).name = false ∨ s.NoProxy login := by
  rcases hc.proxies with ⟨hnull, hudp⟩ | ⟨hnull, k, hk, hgone⟩
  · rw [hnull, NoProxy, hudp]
    simp [NoProxy]
  · refine ⟨fun _ => Or.inl hnull, fun _ m hm => ?_⟩
    -- the name is the sender id
    rcases hs.name ws with hnone | ⟨l, hl', hname⟩
    · rw [hnone] at hnull; exact absurd hnull (by decide)
    · obtain rfl : login = l := Option.some.inj (hl.symm.trans hl')
      rw [hname] at hk
      obtain rfl : k = m := Except.ok.inj (hk.symm.trans hm)
      exact hgone

/-- What the close event of a socket that has logged in leaves behind. -/
theorem Swept.close_iff (h : s.Swept) (hl : (s.sockets ws).loginRequest = some login)
    (hrun : closeEvent ws s = (.ok (), s')) : s'.CleanedUp ws login ↔ s.CloseCleansUp ws login := by
  have hclosed := h.closed ws
  have hself : (Server.setSocket ws (fun w => { w with readyState := .closed }) s).sockets ws =
      { s.sockets ws with readyState := .closed } := setSocket_self ..
  have hlisten : ((Server.setSocket ws (fun w => { w with readyState := .closed })
      s).sockets ws).listening = true := by
    rw [hself]; exact h.listening (by rw [hl]; simp)
  have hwas : (Server.setSocket ws (fun w => { w with readyState := .closed }) s).CloseCleansUp ws
      login ↔ s.CloseCleansUp ws login := by
    rw [CloseCleansUp, hself]
    exact Iff.rfl
  rw [closeEvent, run_bind_modify, run_bind_get, hlisten, run_when_true] at hrun
  rw [← hwas]
  have hl' : ((Server.setSocket ws (fun w => { w with readyState := .closed })
      s).sockets ws).loginRequest = some login := by rw [hself]; exact hl
  generalize Server.setSocket ws (fun w => { w with readyState := .closed }) s = t
    at hclosed hrun hl' ⊢
  cases ht : (t.sockets ws).terminated with
  | true =>
    rw [onWsClose_terminated ht] at hrun
    obtain ⟨-, rfl⟩ := Prod.mk.inj hrun
    rw [CloseCleansUp, if_pos ht]
    obtain ⟨hout, hoff, -⟩ := hclosed.marked ht
    exact ⟨fun h => h.noProxy, fun h => ⟨hout, hoff, h⟩⟩
  | false =>
    have hshrinks := onlyShrinks_onWsClose ws t
    rw [final, hrun] at hshrinks
    have hc := onWsClose_cleans hl' ht hrun
    rw [CloseCleansUp, if_neg (by rw [ht]; exact Bool.false_ne_true),
      ← hc.unlisted_iff hclosed hshrinks, ← hc.inactive_iff hclosed.consistent hl' hshrinks,
      ← hc.noProxy_iff hclosed.consistent hl']
    exact ⟨fun h => ⟨h.unlisted, h.inactive, h.noProxy⟩, fun h => ⟨h.1, h.2.1, h.2.2⟩⟩

/-- A socket that has logged in comes back to no room and to no row. -/
theorem RoomStep.gone {J : JsonCodec} {o : RoomOp} (hs : s.Consistent)
    (hl : (s.sockets ws).loginRequest = some login) (h : RoomStep J s o s') :
    (s.Unlisted ws → s'.Unlisted ws) ∧ (s.Inactive ws → s'.Inactive ws) := by
  rcases h.kinds with ⟨-, hq⟩ | ⟨l, w, -, hw, rfl⟩ | hshrinks
  · rw [Unlisted, Unlisted, Inactive, Inactive, hq.groupHeap, hq.activeSenderIDsList]
    exact ⟨id, id⟩
  · have hne : ws ≠ w := by
      rintro rfl
      rw [hw.loginRequest] at hl
      exact absurd hl (by simp)
    exact admitWrites_gone
      (admits_acceptConnection J hw.loginRequest hw.authFrameHandler hw.known hs) hne
  · exact ⟨hshrinks.unlisted, hshrinks.inactive⟩

end

section

variable {J : JsonCodec} {isAlphanumeric : String → Bool} {config : Config} {es : List Event}
  {s s' : Server} {ws : SocketId} {login : LoginRequest}

/-- In every run in which no prototype has been written to, the close event of a socket that has logged
    in leaves nothing of it behind exactly when it meets the condition, and it comes back to no room and
    to no row of the active senders. -/
theorem close_cleans_up (h : run J isAlphanumeric (start config) es = some s) (_ : s.SparesPrototypes)
    (hl : (s.sockets ws).loginRequest = some login) (hopen : (s.sockets ws).readyState ≠ .closed)
    (hstep : step J isAlphanumeric s (.close ws) = some s') :
    (s'.CleanedUp ws login ↔ s.CloseCleansUp ws login) ∧
    ∀ fs t, run J isAlphanumeric s' fs = some t →
      (s'.Unlisted ws → t.Unlisted ws) ∧ (s'.Inactive ws → t.Inactive ws) := by
  obtain ⟨hpath, hs, hhear⟩ := run_operations J isAlphanumeric (consistent_start config)
    (hearing_startOver objectPrototype config) h
  have hswept : s.Swept := hpath.invariant (fun h _ hstep => h.roomStep hstep) (swept_start config)
  have hknown : ws < s.nextSocket := by
    by_contra hlt
    rw [hs.fresh ws (Nat.not_lt.mp hlt)] at hl
    exact absurd hl (by simp)
  have henabled : s.enabled (.close ws) = true := by
    simp [enabled, hknown, hopen]
  have hrun : closeEvent ws s = (.ok (), s') := by
    have hhandle : handle J isAlphanumeric (.close ws) = closeEvent ws := rfl
    rw [step, if_pos henabled, hhandle] at hstep
    rcases hr : closeEvent ws s with ⟨e | u, t⟩
    · rw [hr] at hstep; exact absurd hstep (by simp)
    · rw [hr] at hstep; rw [Option.some.inj hstep]
  refine ⟨hswept.close_iff hl hrun, fun fs t ht => ?_⟩
  have hs' := hs.roomStep (J := J) (.close hrun)
  have hl' := ((RoomStep.close (J := J) hrun).lasts hs ws login hl).1
  have hhear' := hhear.roomStep (J := J) hs (.close hrun)
  obtain ⟨hpath', -, -⟩ := run_operations J isAlphanumeric hs' hhear' ht
  have hkeeps := hpath'.invariant (P := fun t => t.Consistent ∧
    (t.sockets ws).loginRequest = some login ∧
    (s'.Unlisted ws → t.Unlisted ws) ∧ (s'.Inactive ws → t.Inactive ws))
    (fun {t _ u} hP _ hstep => ⟨hP.1.roomStep hstep, (hstep.lasts hP.1 ws login hP.2.1).1,
      (hstep.gone hP.1 hP.2.1).1 ∘ hP.2.2.1, (hstep.gone hP.1 hP.2.1).2 ∘ hP.2.2.2⟩)
    ⟨hs', hl', id, id⟩
  exact hkeeps.2.2

end

/-- A vehicle connects, and its connection ends. -/
theorem close_cleans_up_vehicle : ∃ s s' login,
    run Text.codec isAsciiAlphanumeric (start {})
      [announceUnit "k1", .connect "/?f=k1&s=drone" "peer"] = some s ∧
    (s.sockets 0).loginRequest = some login ∧ ¬ s.Unlisted 0 ∧ ¬ s.Inactive 0 ∧
    step Text.codec isAsciiAlphanumeric s (.close 0) = some s' ∧ s'.CleanedUp 0 login := by
  have h : (run Text.codec isAsciiAlphanumeric (start {})
      [announceUnit "k1", .connect "/?f=k1&s=drone" "peer"]).map (fun s =>
        ((s.sockets 0).loginRequest.map LoginRequest.accountID,
          (s.sockets 0).loginRequest.map LoginRequest.senderID, (s.sockets 0).readyState)) =
      some (some (some (.str "acc")), some (some (.str "drone")), .isOpen) := by decide +kernel
  have hmarks : (run Text.codec isAsciiAlphanumeric (start {})
      [announceUnit "k1", .connect "/?f=k1&s=drone" "peer"]).map (fun s =>
        ((s.sockets 0).terminated, (s.sockets 0).name, s.activeSenderIDsList.own? "drone",
          decide s.SparesPrototypes)) =
      some (false, some (.str "drone"), some 0, true) := by decide +kernel
  have hrows : (run Text.codec isAsciiAlphanumeric (start {})
      [announceUnit "k1", .connect "/?f=k1&s=drone" "peer"]).map (fun s =>
        (s.accounts.own? "acc", (s.accountHeap 0).groups.own? "1",
          (s.groupHeap 0).units.own? "drone", (s.groupHeap 0).units.own? "hasOwnProperty",
          (step Text.codec isAsciiAlphanumeric s (.close 0)).isSome)) =
      some (some 0, some 0, some 0, none, true) := by decide +kernel
  obtain ⟨s, hs, hf⟩ := Option.map_eq_some_iff.mp h
  rw [hs, Option.map_some, Option.some.injEq] at hmarks hrows
  simp only [Prod.mk.injEq] at hf hmarks hrows
  obtain ⟨hacc', hsid, hstate⟩ := hf
  obtain ⟨hmark, hname, hrow, hplain⟩ := hmarks
  obtain ⟨hacc, hgroup, hunit, hown, hclose⟩ := hrows
  obtain ⟨login, hl, hid⟩ := Option.map_eq_some_iff.mp hacc'
  rw [hl, Option.map_some, Option.some.injEq] at hsid
  obtain ⟨s', hs'⟩ := Option.isSome_iff_exists.mp hclose
  refine ⟨s, s', login, hs, hl, fun hout => hout 0 "drone" hunit, fun hoff => hoff "drone" hrow,
    hs', (close_cleans_up hs (of_decide_eq_true hplain) hl (by rw [hstate]; decide) hs').1.mpr ?_⟩
  rw [CloseCleansUp, if_neg (by rw [hmark]; exact Bool.false_ne_true), hname, hsid]
  refine ⟨Or.inr ⟨by rw [hid]; rfl, by rw [hsid]; rfl, "acc", 0, "1", 0, "drone", ?_, hacc,
    hgroup, ?_, hunit, hown⟩, Or.inl rfl, Or.inl rfl⟩
  · rw [hid]; exact propKey_str _
  · rw [hsid]; exact propKey_str _

/-- A unit connects without a sender id. Its close event leaves it in its room and in the active
    senders, under the text of `undefined`. -/
theorem close_leaves_senderless : ∃ s s' login,
    run Text.codec isAsciiAlphanumeric (start {}) [announceUnit "k1", .connect "/?f=k1" "peer"]
      = some s ∧ s.nextSocket = 1 ∧ (s.sockets 0).loginRequest = some login ∧
    (s.sockets 0).readyState = .isOpen ∧
    step Text.codec isAsciiAlphanumeric s (.close 0) = some s' ∧ ¬ s'.CleanedUp 0 login ∧
    (s'.groupHeap 0).units.own? "undefined" = some 0 ∧
    s'.activeSenderIDsList.own? "undefined" = some 0 := by
  have h : (run Text.codec isAsciiAlphanumeric (start {})
      [announceUnit "k1", .connect "/?f=k1" "peer"]).bind (fun s =>
        (step Text.codec isAsciiAlphanumeric s (.close 0)).map fun s' =>
          (s.nextSocket, (s.sockets 0).loginRequest.isSome, (s.sockets 0).readyState,
            (s'.groupHeap 0).units.own? "undefined", s'.activeSenderIDsList.own? "undefined")) =
      some (1, true, .isOpen, some 0, some 0) := by decide +kernel
  obtain ⟨s, hs, h⟩ := Option.bind_eq_some_iff.mp h
  obtain ⟨s', hs', hf⟩ := Option.map_eq_some_iff.mp h
  simp only [Prod.mk.injEq] at hf
  obtain ⟨hnext, hlogin, hstate, hunit, hrow⟩ := hf
  obtain ⟨login, hl⟩ := Option.isSome_iff_exists.mp hlogin
  exact ⟨s, s', login, hs, hnext, hl, hstate, hs', fun h => h.unlisted 0 _ hunit, hunit, hrow⟩

end Server

end DroneEngage
