import DroneEngage.RoomOperations

/-! The rooms as a whole: accounts, groups and members point to each other as they should.

    A member leaves by its name, and a group that loses its last member is taken out of its account
    by the same call; an account that has no groups left is taken out of `c_accounts` by only one of
    the callers. What such a removal does is said once (`Removes`), and the invariants follow from
    it. -/

namespace DroneEngage
open Js

namespace Server

open Action

/-! ### Where a group is registered -/

/-- The group is in its account under its id. -/
def Enrolled (s : Server) (g : GroupId) : Prop :=
  ∃ l, propKey (s.groupHeap g).ID = .ok l ∧
    (s.accountHeap (s.groupHeap g).parentAccount).groups.own? l = some g

/-- The account of the group is in `c_accounts` under its id. -/
def Advertised (s : Server) (g : GroupId) : Prop :=
  ∃ l, propKey (s.accountOf g).accountID = .ok l ∧
    s.accounts.own? l = some (s.groupHeap g).parentAccount

/-! ### A member leaves -/

/-- The member `ws` that the group lists under `k` is taken out of it, and the group out of its
    account if it was the last one. -/
structure Removes (g : GroupId) (k : String) (ws : SocketId) (s s' : Server) : Prop where
  shrinks : s.Shrinks s'
  was : (s.groupHeap g).units.own? k = some ws
  units : ∀ h l, (s'.groupHeap h).units.own? l =
    if h = g ∧ l = k then none else (s.groupHeap h).units.own? l
  accounts : s'.accounts = s.accounts
  activeSenderIDsList : s'.activeSenderIDsList = s.activeSenderIDsList
  activeUdpProxy : s'.activeUdpProxy = s.activeUdpProxy
  /-- the row of a group goes exactly when the group is `g` and has no members left -/
  groups : ∀ a l h, (s'.accountHeap a).groups.own? l = some h ↔
    (s.accountHeap a).groups.own? l = some h ∧
      (h = g → ∃ m v, (s'.groupHeap g).units.own? m = some v)
  others : ∀ v, v ≠ ws → s'.sockets v = s.sockets v
  group : (s'.sockets ws).group = none
  name : (s'.sockets ws).name = (s.sockets ws).name
  closed : (s'.sockets ws).readyState = .closed ↔ (s.sockets ws).readyState = .closed

/-- `dropIfEmpty` deletes the row of a group without members. -/
theorem dropIfEmpty_run {s : Server} {g : GroupId} {l : String}
    (hl : propKey (s.groupHeap g).ID = .ok l) : dropIfEmpty g s = (.ok (),
      if (s.groupHeap g).units.keys = [] then
        setAccount (s.groupHeap g).parentAccount (fun A => { A with groups := A.groups.delete l }) s
      else s) := by
  rw [dropIfEmpty, run_bind_get]
  by_cases he : (s.groupHeap g).units.keys = []
  · rw [if_pos he, if_pos he, hl]; rfl
  · rw [if_neg he, if_neg he]; rfl

/-- The socket that has left is marked and terminated, if that was asked for. -/
def afterLeaving (terminate : Bool) (ws : SocketId) (s : Server) : Server :=
  if terminate then
    (terminateSocket ws).final (setSocket ws (fun w => { w with terminated := true }) s)
  else s

/-- What `fn_deleteMemberByName` does for a group that is in its account. -/
theorem deleteMemberByName_enrolled {s : Server} {g : GroupId} (hg : s.Enrolled g) {unitname : Val}
    {k : String} {ws : SocketId} (hfound : s.memberNamed g unitname = .ok (some (k, ws)))
    (terminate : Bool) : ∃ l, propKey (s.groupHeap g).ID = .ok l ∧
    (deleteMemberByName g unitname terminate).final s = afterLeaving terminate ws
      (if ((unlink g k ws s).groupHeap g).units.keys = [] then
        setAccount (s.groupHeap g).parentAccount (fun A => { A with groups := A.groups.delete l })
          (unlink g k ws s)
      else unlink g k ws s) := by
  obtain ⟨l, hl, -⟩ := hg
  have hsame : (unlink g k ws s).groupHeap g =
      { s.groupHeap g with units := (s.groupHeap g).units.delete k } := by
    rw [unlink, setSocket_groupHeap, setGroup_groupHeap, if_pos rfl]
  have hrun := dropIfEmpty_run (s := unlink g k ws s) (g := g) (l := l) (by rw [hsame]; exact hl)
  refine ⟨l, hl, ?_⟩
  rw [deleteMemberByName, final_attempt_pure, final_get_bind, hfound, final_ok_bind,
    final_modify_bind, final_bind_of_ok hrun, hsame]
  cases terminate with
  | true => rfl
  | false => rfl

theorem afterLeaving_sockets (terminate : Bool) (ws : SocketId) (s : Server) :
    (∀ v, v ≠ ws → (afterLeaving terminate ws s).sockets v = s.sockets v) ∧
    ((afterLeaving terminate ws s).sockets ws).group = (s.sockets ws).group ∧
    ((afterLeaving terminate ws s).sockets ws).name = (s.sockets ws).name ∧
    (((afterLeaving terminate ws s).sockets ws).readyState = .closed ↔
      (s.sockets ws).readyState = .closed) := by
  cases terminate with
  | false => exact ⟨fun _ _ => rfl, rfl, rfl, Iff.rfl⟩
  | true =>
    have hsets : (afterLeaving true ws s).sockets = Function.update (Function.update s.sockets ws
        { s.sockets ws with terminated := true }) ws
        (if (s.sockets ws).readyState = .isOpen
          then { s.sockets ws with terminated := true, readyState := .closing }
          else { s.sockets ws with terminated := true }) := by
      simp [afterLeaving, terminateSocket, setSocket, emit]
    rw [hsets]
    refine ⟨fun v hv => by rw [Function.update_of_ne hv, Function.update_of_ne hv], ?_, ?_, ?_⟩
    all_goals rw [Function.update_self]; split
    all_goals simp [*]

theorem afterLeaving_tables (terminate : Bool) (ws : SocketId) (s : Server) :
    (afterLeaving terminate ws s).groupHeap = s.groupHeap ∧
    (afterLeaving terminate ws s).accountHeap = s.accountHeap ∧
    (afterLeaving terminate ws s).accounts = s.accounts ∧
    (afterLeaving terminate ws s).activeSenderIDsList = s.activeSenderIDsList ∧
    (afterLeaving terminate ws s).activeUdpProxy = s.activeUdpProxy := by
  cases terminate <;> exact ⟨rfl, rfl, rfl, rfl, rfl⟩

/-- A group stands in the table of its account, under its id. -/
structure GroupsKeyed (s : Server) : Prop where
  key : ∀ {a l g}, (s.accountHeap a).groups.own? l = some g → propKey (s.groupHeap g).ID = .ok l
  parent : ∀ {a l g}, (s.accountHeap a).groups.own? l = some g →
    (s.groupHeap g).parentAccount = a

theorem Consistent.groupsKeyed {s : Server} (hs : s.Consistent) : s.GroupsKeyed :=
  ⟨fun h => hs.group_key _ _ _ h, fun h => hs.group_parent _ _ _ h⟩

/-- A member that is found by its name is removed. -/
theorem deleteMemberByName_removes {s : Server} (hs : s.GroupsKeyed) {g : GroupId}
    (hg : s.Enrolled g) {unitname : Val} {k : String} {ws : SocketId}
    (hfound : s.memberNamed g unitname = .ok (some (k, ws))) (terminate : Bool) :
    Removes g k ws s ((deleteMemberByName g unitname terminate).final s) := by
  have hshrinks := onlyShrinks_deleteMemberByName g unitname terminate s
  have hwas := (memberNamed_found hfound).2.1
  obtain ⟨l, hl, hrow⟩ := hg
  obtain ⟨l', hl', hfinal⟩ := deleteMemberByName_enrolled ⟨l, hl, hrow⟩ hfound terminate
  obtain rfl : l = l' := Except.ok.inj (hl.symm.trans hl')
  have hunits : ∀ h m, ((unlink g k ws s).groupHeap h).units.own? m =
      if h = g ∧ m = k then none else (s.groupHeap h).units.own? m := by
    intro h m
    rw [unlink, setSocket_groupHeap, setGroup_groupHeap]
    by_cases hh : h = g
    · subst hh
      rw [if_pos rfl, Table.own?_delete]
      by_cases hm : m = k
      · rw [if_pos hm, if_pos ⟨rfl, hm⟩]
      · rw [if_neg hm, if_neg fun h => hm h.2]
    · rw [if_neg hh, if_neg fun h => hh h.1]
  -- the state between the removal and the mark
  obtain ⟨t, ht, htsock, htheap, htacc, htact, htudp, htgroups⟩ : ∃ t : Server,
      (deleteMemberByName g unitname terminate).final s = afterLeaving terminate ws t ∧
      t.sockets = (unlink g k ws s).sockets ∧ t.groupHeap = (unlink g k ws s).groupHeap ∧
      t.accounts = s.accounts ∧ t.activeSenderIDsList = s.activeSenderIDsList ∧
      t.activeUdpProxy = s.activeUdpProxy ∧ ∀ a m h, (t.accountHeap a).groups.own? m = some h ↔
        (s.accountHeap a).groups.own? m = some h ∧ (h = g → ∃ m v,
          ((unlink g k ws s).groupHeap g).units.own? m = some v) := by
    by_cases he : ((unlink g k ws s).groupHeap g).units.keys = []
    · rw [if_pos he] at hfinal
      refine ⟨_, hfinal, rfl, rfl, rfl, rfl, rfl, fun a m h => ?_⟩
      have hempty := Table.keys_eq_nil_iff.mp he
      rw [setAccount_accountHeap]
      constructor
      · intro hm
        split at hm
        · next ha =>
          rw [Table.own?_delete] at hm
          split at hm
          · exact absurd hm (by simp)
          · next hne =>
            refine ⟨ha ▸ hm, ?_⟩
            rintro rfl
            exact absurd (Except.ok.inj ((hs.key hm).symm.trans hl)) hne
        · next ha =>
          refine ⟨hm, ?_⟩
          rintro rfl
          exact absurd (hs.parent hm).symm ha
      · rintro ⟨hm, hmember⟩
        have hne : h ≠ g := by
          intro hh
          obtain ⟨m', v, hv⟩ := hmember hh
          rw [hempty m'] at hv
          exact absurd hv (by simp)
        split
        · next ha =>
          rw [Table.own?_delete, if_neg]
          · exact ha ▸ hm
          · rintro rfl
            exact hne (Option.some.inj ((ha ▸ hm).symm.trans hrow))
        · exact hm
    · rw [if_neg he] at hfinal
      refine ⟨_, hfinal, rfl, rfl, rfl, rfl, rfl, fun a m h => ⟨fun hm => ⟨hm, fun _ => ?_⟩, And.left⟩⟩
      by_contra hnone
      refine he (Table.keys_eq_nil_iff.mpr fun m => ?_)
      cases hv : ((unlink g k ws s).groupHeap g).units.own? m with
      | none => rfl
      | some v => exact absurd ⟨m, v, hv⟩ hnone
  obtain ⟨hgh, hah, hacc, hact, hudp⟩ := afterLeaving_tables terminate ws t
  obtain ⟨hothers, hgroup, hname, hclosed⟩ := afterLeaving_sockets terminate ws t
  rw [ht] at hshrinks ⊢
  rw [htsock] at hothers hgroup hname hclosed
  refine ⟨hshrinks, hwas, fun h m => ?_, hacc.trans htacc, hact.trans htact, hudp.trans htudp,
    fun a m h => ?_, fun v hv => ?_, ?_, ?_, ?_⟩
  · rw [hgh, htheap]; exact hunits h m
  · rw [hah, hgh, htheap]; exact htgroups a m h
  · rw [hothers v hv, unlink, setSocket_ne _ _ _ _ hv]; rfl
  · rw [hgroup, unlink, setSocket_self]
  · rw [hname, unlink, setSocket_self]; rfl
  · rw [hclosed, unlink, setSocket_self]; rfl

/-! ### The tree of accounts, groups and members -/

/-- A group with members is in its account, and that in `c_accounts`; a group in an account has
    members, but for a `fresh` one. -/
structure Rooted (fresh : Option GroupId) (s : Server) : Prop where
  enrolled : ∀ {g k ws}, (s.groupHeap g).units.own? k = some ws → s.Enrolled g
  advertised : ∀ {g k ws}, (s.groupHeap g).units.own? k = some ws → s.Advertised g
  inhabited : ∀ {a l g}, (s.accountHeap a).groups.own? l = some g →
    fresh = some g ∨ ∃ k ws, (s.groupHeap g).units.own? k = some ws

section

variable {fresh : Option GroupId} {s s' : Server} {g : GroupId} {k : String} {ws : SocketId}

theorem rooted_startOver (proto : List String) (config : Config) :
    (startOver proto config).Rooted none :=
  ⟨fun h => absurd h (by simp), fun h => absurd h (by simp), fun h => absurd h (by simp)⟩

/-- The tree is in three tables. -/
theorem Rooted.of_tables (h : s.Rooted fresh) (hgroups : s'.groupHeap = s.groupHeap)
    (hheap : s'.accountHeap = s.accountHeap) (haccounts : s'.accounts = s.accounts) :
    s'.Rooted fresh := by
  refine ⟨fun hu => ?_, fun hu => ?_, fun hg => ?_⟩
  · rw [hgroups] at hu
    rw [Enrolled, hgroups, hheap]
    exact h.enrolled hu
  · rw [hgroups] at hu
    rw [Advertised, accountOf, hgroups, hheap, haccounts]
    exact h.advertised hu
  · rw [hheap] at hg
    rw [hgroups]
    exact h.inhabited hg

theorem Rooted.removes (h : s.Rooted fresh) (hr : Removes g k ws s s') : s'.Rooted fresh := by
  have hwas : ∀ {h m v}, (s'.groupHeap h).units.own? m = some v →
      (s.groupHeap h).units.own? m = some v := fun hu => hr.shrinks.units _ _ _ hu
  refine ⟨fun {h' m v} hu => ?_, fun {h' m v} hu => ?_, fun {a l h'} hg => ?_⟩
  · obtain ⟨l, hl, hrow⟩ := h.enrolled (hwas hu)
    refine ⟨l, by rw [hr.shrinks.groupID]; exact hl, ?_⟩
    rw [hr.shrinks.parentAccount]
    refine (hr.groups _ l h').mpr ⟨hrow, ?_⟩
    rintro rfl
    exact ⟨m, v, hu⟩
  · obtain ⟨l, hl, hrow⟩ := h.advertised (hwas hu)
    refine ⟨l, ?_, ?_⟩
    · rw [accountOf, hr.shrinks.parentAccount, hr.shrinks.accountID]; exact hl
    · rw [hr.shrinks.parentAccount, hr.accounts]; exact hrow
  · obtain ⟨hrow, hmember⟩ := (hr.groups a l h').mp hg
    by_cases hh : h' = g
    · subst hh
      exact Or.inr (hmember rfl)
    · refine (h.inhabited hrow).imp_right fun hm => ?_
      obtain ⟨m, v, hu⟩ := hm
      exact ⟨m, v, by rw [hr.units, if_neg fun e => hh e.1]; exact hu⟩

/-- What `fn_deleteMemberByName` does to rooted groups. -/
theorem Rooted.deleteMember (h : s.Rooted fresh) (hs : s.Consistent) (g : GroupId) (unitname : Val)
    (terminate : Bool) :
    ((∀ m, s.memberNamed g unitname ≠ .ok (some m)) ∧
      (deleteMemberByName g unitname terminate).final s = s) ∨
    ∃ k ws, s.memberNamed g unitname = .ok (some (k, ws)) ∧
      Removes g k ws s ((deleteMemberByName g unitname terminate).final s) := by
  rcases deleteMemberByName_final g unitname terminate s with hnone | ⟨k, ws, hfound, -⟩
  · exact Or.inl hnone
  · exact Or.inr ⟨k, ws, hfound, deleteMemberByName_removes hs.groupsKeyed
      (h.enrolled (memberNamed_found hfound).2.1) hfound terminate⟩

/-- An account without groups is taken out of `c_accounts`. -/
theorem Rooted.deleteAccount (h : s.Rooted fresh) {a : AccountId} {id : String}
    (hid : s.accounts.own? id = some a) (hempty : (s.accountHeap a).groups.keys = []) :
    Rooted fresh { s with accounts := s.accounts.delete id } := by
  refine ⟨fun hu => h.enrolled hu, fun {g' m v} hu => ?_, fun hg => h.inhabited hg⟩
  obtain ⟨l, hl, hrow⟩ := h.advertised hu
  refine ⟨l, hl, ?_⟩
  change (s.accounts.delete id).own? l = _
  rw [Table.own?_delete, if_neg]
  · exact hrow
  · rintro rfl
    obtain ⟨l', -, hgroup⟩ := h.enrolled hu
    obtain rfl : a = (s.groupHeap g').parentAccount := Option.some.inj (hid.symm.trans hrow)
    rw [Table.keys_eq_nil_iff.mp hempty l'] at hgroup
    exact absurd hgroup (by simp)

/-- A row under a key that was free leaves the other rows alone. -/
theorem own?_assign_free {α : Type} {proto : List String} {t : Table α} {k l : String} {b : α}
    (hk : t.own? k = none) (hl : t.own? l = some b) (a : α) :
    (t.assign proto k a).own? l = some b := by
  have hne : l ≠ k := by
    rintro rfl
    rw [hk] at hl
    exact absurd hl (by simp)
  rw [Table.assign]
  split
  · exact hl
  · rw [Table.own?_insert_ne t a hne]; exact hl

theorem openAccount_accountHeap (id : Val) (k : String) (s : Server) (a : AccountId) :
    (openAccount id k s).accountHeap a =
      if a = s.nextAccount then { accountID := id, groups := .empty } else s.accountHeap a :=
  Function.update_apply ..

theorem openGroup_groupHeap (a : AccountId) (id : Val) (k : String) (s : Server) (g : GroupId) :
    (openGroup a id k s).groupHeap g =
      if g = s.nextGroup then { ID := id, parentAccount := a, units := .empty } else s.groupHeap g :=
  Function.update_apply ..

theorem Rooted.openAccount (h : s.Rooted none) (hs : s.Consistent) {id : Val} {k : String}
    (hk : s.accounts.own? k = none) : (openAccount id k s).Rooted none := by
  have hold : ∀ {a}, a < s.nextAccount →
      (Server.openAccount id k s).accountHeap a = s.accountHeap a := fun ha => by
    rw [openAccount_accountHeap, if_neg (Nat.ne_of_lt ha)]
  have hparent : ∀ {g k ws}, (s.groupHeap g).units.own? k = some ws →
      (s.groupHeap g).parentAccount < s.nextAccount := fun hu => by
    obtain ⟨_, -, -, hr⟩ := hs.member _ _ _ hu
    exact hs.parent_lt _ hr.1
  refine ⟨fun {g' m v} hu => ?_, fun {g' m v} hu => ?_, fun {a l g'} hg => ?_⟩
  · obtain ⟨l, hl, hrow⟩ := h.enrolled hu
    refine ⟨l, hl, ?_⟩
    change ((Server.openAccount id k s).accountHeap (s.groupHeap g').parentAccount).groups.own? l = _
    rw [hold (hparent hu)]
    exact hrow
  · obtain ⟨l, hl, hrow⟩ := h.advertised hu
    refine ⟨l, ?_, own?_assign_free hk hrow _⟩
    change propKey ((Server.openAccount id k s).accountHeap
      (s.groupHeap g').parentAccount).accountID = _
    rw [hold (hparent hu)]
    exact hl
  · by_cases ha : a = s.nextAccount
    · subst ha
      rw [openAccount_accountHeap, if_pos rfl] at hg
      exact absurd hg (by simp)
    · rw [openAccount_accountHeap, if_neg ha] at hg
      exact h.inhabited hg

theorem Rooted.openGroup (h : s.Rooted none) (hs : s.Consistent) {a : AccountId} {id : Val}
    {k : String} (hk : (s.accountHeap a).groups.own? k = none) :
    (openGroup a id k s).Rooted (some s.nextGroup) := by
  have hid : ∀ b, ((Server.openGroup a id k s).accountHeap b).accountID =
      (s.accountHeap b).accountID := fun b => by
    rw [Server.openGroup, setAccount_accountHeap]; split <;> simp_all
  have hold : ∀ {g'}, g' < s.nextGroup →
      (Server.openGroup a id k s).groupHeap g' = s.groupHeap g' := fun hg => by
    rw [openGroup_groupHeap, if_neg (Nat.ne_of_lt hg)]
  have hlisted : ∀ {g' m v}, (s.groupHeap g').units.own? m = some v → g' < s.nextGroup := fun hu => by
    obtain ⟨_, -, -, hr⟩ := hs.member _ _ _ hu
    exact hr.1
  refine ⟨fun {g' m v} hu => ?_, fun {g' m v} hu => ?_, fun {b l g'} hg => ?_⟩
  · have hu' := openGroup_units hu
    obtain ⟨l, hl, hrow⟩ := h.enrolled hu'
    refine ⟨l, by rw [hold (hlisted hu')]; exact hl, ?_⟩
    rw [hold (hlisted hu'), Server.openGroup, setAccount_accountHeap]
    split
    · next hb => exact own?_assign_free hk (hb ▸ hrow) _
    · exact hrow
  · have hu' := openGroup_units hu
    obtain ⟨l, hl, hrow⟩ := h.advertised hu'
    refine ⟨l, ?_, ?_⟩
    · rw [accountOf, hold (hlisted hu'), hid]; exact hl
    · rw [hold (hlisted hu')]; exact hrow
  · have hrow : (b = a ∧ g' = s.nextGroup) ∨ (s.accountHeap b).groups.own? l = some g' := by
      rw [Server.openGroup, setAccount_accountHeap] at hg
      split at hg
      · next hb => exact (Table.own?_assign_imp hg).imp (fun e => ⟨hb, e.2⟩) fun e => hb ▸ e
      · exact Or.inr hg
    rcases hrow with ⟨-, rfl⟩ | hrow
    · exact Or.inl rfl
    · refine (h.inhabited hrow).elim (fun e => absurd e (by simp)) fun hm => Or.inr ?_
      rw [hold (hs.group_lt b l g' hrow)]
      exact hm

theorem join_units_self {unitname : Val} (hk : Table.Assignable s.proto k) :
    ((join g unitname k ws s).groupHeap g).units.own? k = some ws := by
  rw [Server.join, setSocket_groupHeap, setGroup_groupHeap, if_pos rfl]
  change ((s.groupHeap g).units.assign s.proto k ws).own? k = some ws
  rw [Table.assign_of_assignable hk, Table.own?_insert_self]

theorem join_units_keep {unitname : Val} {h : GroupId} {m : String} {v : SocketId}
    (hk : (s.groupHeap g).units.own? k = none) (hu : (s.groupHeap h).units.own? m = some v) :
    ((join g unitname k ws s).groupHeap h).units.own? m = some v := by
  rw [Server.join, setSocket_groupHeap, setGroup_groupHeap]
  split
  · next hh => subst hh; exact own?_assign_free hk hu ws
  · exact hu

theorem join_sockets_self (unitname : Val) : (join g unitname k ws s).sockets ws =
    { s.sockets ws with name := unitname, group := some g } := by
  rw [Server.join, setSocket_self]; rfl

theorem join_sockets_ne {v : SocketId} (hv : v ≠ ws) (unitname : Val) :
    (join g unitname k ws s).sockets v = s.sockets v := by
  rw [Server.join, setSocket_ne _ _ _ _ hv]; rfl

theorem join_ID (unitname : Val) (h : GroupId) :
    ((join g unitname k ws s).groupHeap h).ID = (s.groupHeap h).ID := by
  rw [Server.join, setSocket_groupHeap, setGroup_groupHeap]; split <;> simp_all

theorem join_parentAccount (unitname : Val) (h : GroupId) :
    ((join g unitname k ws s).groupHeap h).parentAccount = (s.groupHeap h).parentAccount := by
  rw [Server.join, setSocket_groupHeap, setGroup_groupHeap]; split <;> simp_all

theorem Rooted.join (h : s.Rooted fresh) (hfresh : fresh = none ∨ fresh = some g) {unitname : Val}
    (hg : s.Enrolled g) (ha : s.Advertised g) (hk : (s.groupHeap g).units.own? k = none)
    (hkey : Table.Assignable s.proto k) : (join g unitname k ws s).Rooted none := by
  refine ⟨fun {g' m v} hu => ?_, fun {g' m v} hu => ?_, fun {a l g'} hrow => ?_⟩
  · have he : s.Enrolled g' := by
      rcases join_units hu with ⟨-, -, rfl⟩ | hu'
      · exact hg
      · exact h.enrolled hu'
    rw [Enrolled, join_ID, join_parentAccount]
    exact he
  · have he : s.Advertised g' := by
      rcases join_units hu with ⟨-, -, rfl⟩ | hu'
      · exact ha
      · exact h.advertised hu'
    rw [Advertised, accountOf, join_parentAccount]
    exact he
  · right
    rcases h.inhabited hrow with hf | ⟨m, v, hu⟩
    · obtain rfl : g = g' := by
        rcases hfresh with rfl | rfl
        · exact absurd hf (by simp)
        · exact Option.some.inj hf
      exact ⟨k, ws, join_units_self hkey⟩
    · exact ⟨m, v, join_units_keep hk hu⟩

end

/-! ### The ways to leave -/

/-- A member of the account with this name leaves. -/
def RemovesNamed (a : AccountId) (unitname : Val) (s s' : Server) : Prop :=
  ∃ g k ws, (s.groupHeap g).parentAccount = a ∧ propKey unitname = .ok k ∧ Removes g k ws s s'

section

variable {s : Server}

/-- `fn_handleOrphanSocket` removes the socket by its name, and then takes the name away. -/
theorem handleOrphanSocket_final (ws : SocketId) (s : Server) :
    (s.sockets ws).group = none ∧ (handleOrphanSocket ws).final s = s ∨
    ∃ g, (s.sockets ws).group = some g ∧ (handleOrphanSocket ws).final s =
      (terminateSocket ws).final (setSocket ws (fun w => { w with name := none })
        ((deleteMemberByName g (s.sockets ws).name false).final s)) := by
  rw [handleOrphanSocket, final_attempt_pure, final_get_bind]
  cases hg : (s.sockets ws).group with
  | none => exact Or.inl ⟨rfl, rfl⟩
  | some g =>
    have hrun : deleteMemberByName g (s.sockets ws).name false s =
        (.ok (), (deleteMemberByName g (s.sockets ws).name false).final s) :=
      run_of_not_escapes (not_escapes_deleteMemberByName g _ false s)
    exact Or.inr ⟨g, rfl, by simp only [final_bind_of_ok hrun]; rfl⟩

theorem delMemberFromGroup_final (ws : SocketId) (s : Server) :
    (delMemberFromGroup ws).final s = match (s.sockets ws).group with
      | none => s
      | some g => if isNullish (s.sockets ws).name then setSocket ws (fun w => { w with group := none }) s
        else (deleteMemberByName g (s.sockets ws).name false).final s := by
  rw [delMemberFromGroup, final_get_bind]
  cases (s.sockets ws).group with
  | none => rfl
  | some g =>
    simp only
    split <;> rfl

theorem removals_forEach {a : AccountId} (unitname : Val) (terminate : Bool) (hs : s.Consistent)
    (hr : s.Rooted none) (gs : List GroupId) (ha : ∀ g ∈ gs, (s.groupHeap g).parentAccount = a) :
    Relation.ReflTransGen (RemovesNamed a unitname) s
      ((forEach gs fun g => deleteMemberByName g unitname terminate).final s) := by
  induction gs generalizing s with
  | nil => exact .refl
  | cons g rest ih =>
    have hrun := run_of_not_escapes (not_escapes_deleteMemberByName g unitname terminate s)
    have hrest : ∀ h ∈ rest, (s.groupHeap h).parentAccount = a := fun h hh =>
      ha h (List.mem_cons_of_mem g hh)
    rw [final, run_forEach_cons, run_bind_of_ok hrun]
    rcases hr.deleteMember hs g unitname terminate with ⟨-, hfin⟩ | ⟨k, ws, hfound, hrem⟩
    · rw [hfin]; exact ih hs hr hrest
    · refine .head ⟨g, k, ws, ha g List.mem_cons_self, (memberNamed_found hfound).1, hrem⟩
        (ih (hs.shrinks hrem.shrinks) (hr.removes hrem) fun h hh => ?_)
      rw [hrem.shrinks.parentAccount]
      exact hrest h hh

/-- The loop over the groups of an account strikes the name off all of them. -/
theorem struck_forEach (unitname : Val) (terminate : Bool) {g : GroupId} :
    ∀ (gs : List GroupId) (s : Server), g ∈ gs →
      ((forEach gs fun g => deleteMemberByName g unitname terminate).final s).Struck g unitname := by
  intro gs
  induction gs with
  | nil => intro s hg; exact absurd hg (by simp)
  | cons h rest ih =>
    intro s hg
    have hrun := run_of_not_escapes (not_escapes_deleteMemberByName h unitname terminate s)
    rw [final, run_forEach_cons, run_bind_of_ok hrun]
    rcases List.mem_cons.mp hg with rfl | hg
    · have hrest : OnlyShrinks (forEach rest fun h => deleteMemberByName h unitname terminate) :=
        moves_forEach rest fun h _ => onlyShrinks_deleteMemberByName h unitname terminate
      exact (hrest _).struck (struck_deleteMemberByName g unitname terminate s)
    · exact ih _ hg

/-- The removal by account and name finds no account, or it strikes the name off all groups of the
    account and takes an account without groups out of `c_accounts`. -/
theorem delMemberFromAccountByName_cases (hs : s.Consistent) (hr : s.Rooted none)
    (login : LoginRequest) (terminate : Bool) :
    (delMemberFromAccountByName (some login) terminate).final s = s ∧
      (isNullish login.accountID = true ∨ isNullish login.senderID = true ∨
        ∀ k, propKey login.accountID = .ok k → s.accounts.own? k = none) ∨
    ∃ k a s₁, propKey login.accountID = .ok k ∧ s.accounts.own? k = some a ∧
      Relation.ReflTransGen (RemovesNamed a login.senderID) s s₁ ∧
      (∀ l g, (s.accountHeap a).groups.own? l = some g → s₁.Struck g login.senderID) ∧
      (delMemberFromAccountByName (some login) terminate).final s =
        if (s₁.accountHeap a).groups.keys = [] then { s₁ with accounts := s₁.accounts.delete k }
        else s₁ := by
  rcases delMemberFromAccountByName_final login terminate s with
    ⟨hnone, hfin⟩ | ⟨a, ⟨-, -, k, hk, ha⟩, hfin⟩
  · refine Or.inl ⟨hfin, ?_⟩
    by_contra hfound
    simp only [not_or, Bool.not_eq_true, not_forall] at hfound
    obtain ⟨hacc, hsender, k, hk, hrow⟩ := hfound
    obtain ⟨a, ha⟩ := Option.ne_none_iff_exists'.mp hrow
    exact hnone a ⟨hacc, hsender, k, hk, ha⟩
  · have hremovals := removals_forEach (a := a) login.senderID terminate hs hr
      (s.accountHeap a).groups.values fun g hg => by
        obtain ⟨l, hl⟩ := Table.mem_values_iff.mp hg
        exact hs.group_parent a l g hl
    have hshrinks : s.Shrinks ((forEach (s.accountHeap a).groups.values fun g =>
        deleteMemberByName g login.senderID terminate).final s) :=
      moves_forEach _ (fun g _ => onlyShrinks_deleteMemberByName g _ _) s
    refine Or.inr ⟨k, a, _, hk, ha, hremovals, fun l g hg => struck_forEach login.senderID terminate
      _ s (Table.mem_values_iff.mpr ⟨l, hg⟩), ?_⟩
    have hid := hs.account_key k a ha
    rw [← hshrinks.accountID a] at hid
    rw [hfin, retire, hid]

end

/-! ### The way in -/

/-- `t` is `s` with the room `g` of the login opened where it was missing. -/
structure Opened (login : LoginRequest) (g : GroupId) (s t : Server) : Prop where
  consistent : t.Consistent
  rooted : t.Rooted none ∨ t.Rooted (some g)
  proto : t.proto = s.proto
  sockets : t.sockets = s.sockets
  units : ∀ h k, (t.groupHeap h).units.own? k = (s.groupHeap h).units.own? k
  parents : ∀ {h k v}, (s.groupHeap h).units.own? k = some v →
    (t.groupHeap h).parentAccount = (s.groupHeap h).parentAccount
  /-- an account that is new is the one of the room -/
  accounts : ∀ {l a}, t.accounts.own? l = some a →
    s.accounts.own? l = some a ∨ a = (t.groupHeap g).parentAccount
  groups : ∀ {a l h}, (s.accountHeap a).groups.own? l = some h →
    (t.accountHeap a).groups.own? l = some h
  room : t.RoomOf g login
  enrolled : t.Enrolled g
  advertised : t.Advertised g

section

variable {login : LoginRequest} {s t : Server} {w : SocketId}

theorem Opened.unlisted {g : GroupId} (h : Opened login g s t) (hout : s.Unlisted w) :
    t.Unlisted w := fun g' m hu => hout g' m ((h.units g' m).symm.trans hu)

/-- The first member, or one more. -/
theorem Opened.rooted_join {g : GroupId} {k : String} (h : Opened login g s t)
    (hu : (s.groupHeap g).units.own? k = none) (hk : Table.Assignable t.proto k) (unitname : Val)
    (w : SocketId) : (join g unitname k w t).Rooted none := by
  have hut : (t.groupHeap g).units.own? k = none := (h.units g k).trans hu
  rcases h.rooted with hr | hr
  · exact hr.join (Or.inl rfl) h.enrolled h.advertised hut hk
  · exact hr.join (Or.inr rfl) h.enrolled h.advertised hut hk

theorem addMember_join {g : GroupId} {unitname : Val} {k : String} (hk : propKey unitname = .ok k)
    (hu : (s.groupHeap g).units.own? k = none) (hg : ¬ s.Frozen g) :
    (addMember g unitname w).final s = join g unitname k w s := by
  have hown : (s.groupHeap g).units.hasOwnProperty s.proto unitname = .ok false := by
    rw [Table.hasOwnProperty_of_ok _ hk, hu]
    exact if_neg hg
  rw [addMember, final_get_bind, hown, final_ok_bind, if_neg Bool.false_ne_true, hk]
  rfl

theorem addMemberToGroup_new {a : AccountId} {unitname groupname : Val} {l : String}
    (hl : propKey groupname = .ok l) (hgroups : (s.accountHeap a).groups = .empty) :
    (addMemberToGroup a unitname groupname w).final s =
      (addMember s.nextGroup unitname w).final (openGroup a groupname l s) := by
  have hown : (s.accountHeap a).groups.hasOwnProperty s.proto groupname = .ok false := by
    rw [Table.hasOwnProperty_of_ok _ hl, hgroups]
    exact if_neg fun h => absurd h.2 (by simp)
  rw [addMemberToGroup, final_get_bind, hown, final_ok_bind, hl, final_ok_bind, hgroups]
  rfl

theorem Opened.refl (hs : s.Consistent) (hr : s.Rooted none) {g : GroupId} (hroom : s.RoomOf g login)
    (he : s.Enrolled g) (ha : s.Advertised g) : Opened login g s s :=
  ⟨hs, Or.inl hr, rfl, rfl, fun _ _ => rfl, fun _ => rfl, Or.inl, id, hroom, he, ha⟩

/-- A new group in an account that is in `c_accounts`. -/
theorem opened_openGroup (hs : s.Consistent) (hr : s.Rooted none) {a : AccountId} {ka kg : String}
    (ha : s.accounts.own? ka = some a) (hka : propKey login.accountID = .ok ka)
    (hkg : propKey login.groupID = .ok kg) (hassign : Table.Assignable s.proto kg)
    (hg : (s.accountHeap a).groups.own? kg = none) :
    Opened login s.nextGroup s (openGroup a login.groupID kg s) := by
  have hlt := hs.account_lt ka a ha
  have hnew : (openGroup a login.groupID kg s).groupHeap s.nextGroup =
      { ID := login.groupID, parentAccount := a, units := .empty } := by
    rw [openGroup_groupHeap, if_pos rfl]
  have hold : ∀ h, h < s.nextGroup →
      (openGroup a login.groupID kg s).groupHeap h = s.groupHeap h := fun h hh => by
    rw [openGroup_groupHeap, if_neg (Nat.ne_of_lt hh)]
  have hid : ∀ b, ((openGroup a login.groupID kg s).accountHeap b).accountID =
      (s.accountHeap b).accountID := fun b => by
    rw [openGroup, setAccount_accountHeap]; split <;> simp_all
  have hlisted : ∀ {h k v}, (s.groupHeap h).units.own? k = some v → h < s.nextGroup := fun hu => by
    obtain ⟨_, -, -, hroom⟩ := hs.member _ _ _ hu
    exact hroom.1
  refine ⟨hs.openGroup hlt hkg, Or.inr (hr.openGroup hs hg), rfl, rfl, fun h k => ?_, fun hu => ?_,
    Or.inl, fun {b l h} hrow => ?_, ⟨Nat.lt_succ_self _, ?_, ?_⟩, ⟨kg, ?_, ?_⟩, ka, ?_, ?_⟩
  · by_cases hh : h = s.nextGroup
    · subst hh
      rw [hnew]
      cases hu : (s.groupHeap s.nextGroup).units.own? k with
      | none => rfl
      | some v => exact absurd (hlisted hu) (Nat.lt_irrefl _)
    · rw [openGroup_groupHeap, if_neg hh]
  · rw [hold _ (hlisted hu)]
  · rw [openGroup, setAccount_accountHeap]
    split
    · next hb => exact own?_assign_free hg (hb ▸ hrow) _
    · exact hrow
  · rw [hnew]; exact ⟨kg, hkg, hkg⟩
  · rw [accountOf, hnew, hid]; exact ⟨ka, hs.account_key ka a ha, hka⟩
  · rw [hnew]; exact hkg
  · rw [hnew, openGroup, setAccount_accountHeap, if_pos rfl]
    change ((s.accountHeap a).groups.assign s.proto kg s.nextGroup).own? kg = _
    rw [Table.assign_of_assignable hassign, Table.own?_insert_self]
  · rw [accountOf, hnew, hid]; exact hs.account_key ka a ha
  · rw [hnew]; exact ha

/-- A new account with its first group. -/
theorem opened_openAccount (hs : s.Consistent) (hr : s.Rooted none) {ka kg : String}
    (ha : s.accounts.own? ka = none) (hka : propKey login.accountID = .ok ka)
    (hkg : propKey login.groupID = .ok kg) (hassigna : Table.Assignable s.proto ka)
    (hassign : Table.Assignable s.proto kg) :
    Opened login s.nextGroup s (openGroup s.nextAccount login.groupID kg
      (openAccount login.accountID ka s)) := by
  have hrow : (openAccount login.accountID ka s).accounts.own? ka = some s.nextAccount := by
    change (s.accounts.assign s.proto ka s.nextAccount).own? ka = _
    rw [Table.assign_of_assignable hassigna, Table.own?_insert_self]
  have hempty : ((openAccount login.accountID ka s).accountHeap s.nextAccount).groups.own? kg
      = none := by
    rw [openAccount_accountHeap, if_pos rfl]; rfl
  have h : Opened login _ _ _ :=
    opened_openGroup (hs.openAccount hka) (hr.openAccount hs ha) hrow hka hkg hassign hempty
  refine ⟨h.consistent, h.rooted, h.proto, h.sockets, h.units, fun hu => h.parents hu,
    fun {l a} hl => ?_, fun {a l g} hg => h.groups ?_, h.room, h.enrolled, h.advertised⟩
  · rcases h.accounts hl with hl | hl
    · refine (Table.own?_assign_imp hl).symm.imp id fun e => ?_
      rw [e.2, openGroup_groupHeap, if_pos]
      rfl
    · exact Or.inr hl
  · rw [openAccount_accountHeap, if_neg]
    · exact hg
    · rintro rfl
      have hlt := hs.parent_lt g (hs.group_lt _ l g hg)
      rw [hs.group_parent _ l g hg] at hlt
      exact Nat.lt_irrefl _ hlt

/-- A socket whose login has assignable ids is left outside, or it joins its room, which has been
    opened for it where it was missing. -/
theorem addMemberToAccountGroup_joins (hs : s.Consistent) (hr : s.Rooted none)
    (hl : (s.sockets w).loginRequest = some login) {ka kg kn : String}
    (hka : propKey login.accountID = .ok ka) (hkg : propKey login.groupID = .ok kg)
    (hkn : propKey login.senderID = .ok kn) (hassigna : Table.Assignable s.proto ka)
    (hassigng : Table.Assignable s.proto kg) : (addMemberToAccountGroup w).final s = s ∨
    ∃ g t, Opened login g s t ∧ (s.groupHeap g).units.own? kn = none ∧
      (addMemberToAccountGroup w).final s = join g login.senderID kn w t := by
  -- a group that has just been opened lets the socket in
  have hjoin : ∀ {g t}, Opened login g s t → (t.groupHeap g).units = .empty →
      (addMember g login.senderID w).final t = join g login.senderID kn w t := by
    intro g t h hempty
    refine addMember_join hkn (by rw [hempty]; rfl) fun hf => ?_
    have hsome := hf.2
    rw [hempty] at hsome
    exact absurd hsome (by simp)
  have hfree : ∀ {t g}, Opened login g s t → (t.groupHeap g).units.own? kn = none →
      (s.groupHeap g).units.own? kn = none := fun h hu => (h.units _ kn).symm.trans hu
  rcases addMemberToAccountGroup_final w s with h | ⟨login', k, hl', hk, hcases⟩
  · exact Or.inl h
  obtain rfl : login = login' := Option.some.inj (hl.symm.trans hl')
  obtain rfl : ka = k := Except.ok.inj (hka.symm.trans hk)
  rcases hcases with ⟨a, ha, h⟩ | ⟨ha, h⟩
  · rw [h]
    rcases addMemberToGroup_final a login.senderID login.groupID w s with
      h | ⟨l, hl, ⟨g, hg, h⟩ | ⟨hg, h⟩⟩
    · exact Or.inl h
    · -- the room is there
      rw [h]
      rcases addMember_final g login.senderID w s with h | ⟨k, hk, hu, h⟩
      · exact Or.inl h
      · obtain rfl : kn = k := Except.ok.inj (hkn.symm.trans hk)
        have hparent := hs.group_parent a l g hg
        refine Or.inr ⟨g, s, .refl hs hr ⟨hs.group_lt a l g hg, ⟨l, hs.group_key a l g hg, hl⟩, ?_⟩
          ⟨l, hs.group_key a l g hg, by rw [hparent]; exact hg⟩ ?_, hu, h⟩
        · rw [accountOf, hparent]; exact ⟨ka, hs.account_key ka a ha, hka⟩
        · exact ⟨ka, by rw [accountOf, hparent]; exact hs.account_key ka a ha, by rw [hparent]; exact ha⟩
    · obtain rfl : kg = l := Except.ok.inj (hkg.symm.trans hl)
      have hopen : Opened login _ _ _ := opened_openGroup hs hr ha hka hkg hassigng hg
      have hempty : ((openGroup a login.groupID kg s).groupHeap s.nextGroup).units = .empty := by
        rw [openGroup_groupHeap, if_pos rfl]
      rw [h]
      exact Or.inr ⟨_, _, hopen, hfree hopen (by rw [hempty]; rfl), hjoin hopen hempty⟩
  · -- a new account
    have hopen : Opened login _ _ _ := opened_openAccount hs hr ha hka hkg hassigna hassigng
    have hempty : ((openGroup s.nextAccount login.groupID kg
        (openAccount login.accountID ka s)).groupHeap s.nextGroup).units = .empty := by
      rw [openGroup_groupHeap]
      exact congrArg Group.units (if_pos rfl)
    rw [h, addMemberToGroup_new hkg (by rw [openAccount_accountHeap, if_pos rfl])]
    exact Or.inr ⟨_, _, hopen, hfree hopen (by rw [hempty]; rfl), hjoin hopen hempty⟩

end

end Server

end DroneEngage
