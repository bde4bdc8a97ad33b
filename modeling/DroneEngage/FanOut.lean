import DroneEngage.Broadcasts
import DroneEngage.Membership
import Mathlib.Data.Set.Disjoint

/-! Fan-out with dead sockets.

    Every fan-out is a loop of broadcasts, and a broadcast is a loop of sends. A send that throws
    removes the member it was for while both loops are under way, and with the last member its group.
    The loops look their next row up in the tables as they are then, so what has to be shown is that a
    removal takes out no row but its own: then a loop visits what it would have visited anyway, each
    unit once (`Reached`). A group with a member named `hasOwnProperty` removes nobody. -/

namespace DroneEngage
open Js

namespace Server

open Action

/-! ### Rooms that are kept well -/

/-- The rooms and their sockets say the same, and `c_accounts` lists an account under its id. -/
structure WellKept (s : Server) : Prop extends RoomsInvariant s where
  keyed : ∀ {k a}, s.accounts.own? k = some a → propKey (s.accountHeap a).accountID = .ok k

section

variable {s s' : Server} {g h : GroupId} {k l : String} {v w : SocketId}

theorem RoomsInvariant.groupsKeyed (hs : s.RoomsInvariant) : s.GroupsKeyed :=
  ⟨fun hg => (hs.inhabited hg).2.1, fun hg => (hs.inhabited hg).2.2⟩

/-- A socket is listed once. -/
theorem RoomsInvariant.row_eq (hs : s.RoomsInvariant)
    (hu : (s.groupHeap g).units.own? k = some v) (hv : (s.groupHeap h).units.own? l = some v) :
    g = h ∧ k = l := by
  obtain ⟨hk, hg, -⟩ := hs.entry hu
  obtain ⟨hl, hh, -⟩ := hs.entry hv
  exact ⟨Option.some.inj (hg.symm.trans hh), Except.ok.inj (hk.symm.trans hl)⟩

/-- The member `v` that `g` lists under `k` is taken out, and its connection is terminated. -/
structure Drops (g : GroupId) (k : String) (v : SocketId) (s s' : Server) : Prop where
  shrinks : s.Shrinks s'
  units : ∀ h l, (s'.groupHeap h).units.own? l =
    if h = g ∧ l = k then none else (s.groupHeap h).units.own? l
  accounts : s'.accounts = s.accounts
  groups : ∀ a l h, (s'.accountHeap a).groups.own? l = some h ↔
    (s.accountHeap a).groups.own? l = some h ∧
      (h = g → ∃ m w, (s'.groupHeap g).units.own? m = some w)
  others : ∀ w, w ≠ v → s'.sockets w = s.sockets w
  group : (s'.sockets v).group = none
  log : s'.log = s.log ++ [.terminate v]
  sendFails : s'.sendFails = s.sendFails

/-- A dead socket leaves the rooms, unless its group is frozen. -/
theorem handleOrphanSocket_drops (hs : s.RoomsInvariant)
    (hu : (s.groupHeap g).units.own? k = some v) (hg : ¬ s.Frozen g) :
    Drops g k v s ((handleOrphanSocket v).final s) := by
  obtain ⟨hname, hgroup, -⟩ := hs.entry hu
  have hfound : s.memberNamed g (s.sockets v).name = .ok (some (k, v)) := by
    rw [memberNamed_of_ok hg hname, hu]
    rfl
  have henrolled := (hs.registered hu).1
  have hrem := deleteMemberByName_removes hs.groupsKeyed henrolled hfound false
  have hshrinks := onlyShrinks_handleOrphanSocket v s
  have hsame : ((deleteMemberByName g (s.sockets v).name false).final s).log = s.log ∧
      ((deleteMemberByName g (s.sockets v).name false).final s).sendFails = s.sendFails := by
    obtain ⟨l, -, hfin⟩ := deleteMemberByName_enrolled henrolled hfound false
    rw [hfin, afterLeaving, if_neg Bool.false_ne_true]
    split
    · exact ⟨rfl, rfl⟩
    · exact ⟨rfl, rfl⟩
  rcases handleOrphanSocket_final v s with ⟨hnone, -⟩ | ⟨h, hgroup', hfin⟩
  · rw [hgroup] at hnone
    exact absurd hnone (by simp)
  · obtain rfl : g = h := Option.some.inj (hgroup.symm.trans hgroup')
    rw [hfin] at hshrinks ⊢
    generalize (deleteMemberByName g (s.sockets v).name false).final s = t at hrem hsame hshrinks ⊢
    refine ⟨hshrinks, hrem.units, hrem.accounts, hrem.groups, fun w hw => ?_, ?_, ?_, hsame.2⟩
    · rw [terminateSocket, final_modify, emit_sockets, setSocket_ne _ _ _ _ hw,
        setSocket_ne _ _ _ _ hw]
      exact hrem.others w hw
    · rw [terminateSocket, final_modify, emit_sockets, setSocket_self, setSocket_self]
      split
      · exact hrem.group
      · exact hrem.group
    · rw [terminateSocket, final_modify, emit_log, setSocket_log, setSocket_log, hsame.1]

theorem Drops.frozen (hd : Drops g k v s s') (hh : ¬ s.Frozen h) : ¬ s'.Frozen h := by
  rintro ⟨hproto, hrow⟩
  rw [hd.shrinks.proto] at hproto
  obtain ⟨w, hw⟩ := Option.isSome_iff_exists.mp hrow
  exact hh ⟨hproto, Option.isSome_iff_exists.mpr ⟨w, hd.shrinks.units _ _ _ hw⟩⟩

/-- The rows that are left are those of other sockets. -/
theorem Drops.units_iff (hd : Drops g k v s s') (hs : s.RoomsInvariant)
    (hu : (s.groupHeap g).units.own? k = some v) :
    (s'.groupHeap h).units.own? l = some w ↔ (s.groupHeap h).units.own? l = some w ∧ w ≠ v := by
  rw [hd.units]
  constructor
  · intro hw
    split at hw
    · exact absurd hw (by simp)
    · next hne =>
      refine ⟨hw, ?_⟩
      rintro rfl
      obtain ⟨rfl, rfl⟩ := hs.row_eq hu hw
      exact hne ⟨rfl, rfl⟩
  · rintro ⟨hw, hne⟩
    rw [if_neg]
    · exact hw
    · rintro ⟨rfl, rfl⟩
      exact hne (Option.some.inj (hw.symm.trans hu))

theorem RoomsInvariant.drops (hs : s.RoomsInvariant) (hd : Drops g k v s s')
    (hu : (s.groupHeap g).units.own? k = some v) : s'.RoomsInvariant := by
  have hwas : ∀ {h l w}, (s'.groupHeap h).units.own? l = some w →
      (s.groupHeap h).units.own? l = some w ∧ s'.sockets w = s.sockets w := by
    intro h l w hw
    obtain ⟨hw₀, hne⟩ := (hd.units_iff hs hu).mp hw
    exact ⟨hw₀, hd.others w hne⟩
  have haccount : ∀ h, (s'.accountOf h).accountID = (s.accountOf h).accountID := by
    intro h
    rw [accountOf, accountOf, hd.shrinks.parentAccount, hd.shrinks.accountID]
  refine ⟨fun hw => ?_, fun {w h} hg => ?_, fun hw hw' hsame => ?_, fun {a l h} hg => ?_,
    fun {h l w} hw => ⟨?_, ?_⟩, fun hw => ?_⟩
  · rw [(hwas hw).2]
    obtain ⟨hname, hg, login, hl, hk, hroom⟩ := hs.entry (hwas hw).1
    exact ⟨hname, hg, login, hl, hk, hd.shrinks.roomOf hroom⟩
  · have hne : w ≠ v := by
      rintro rfl
      rw [hd.group] at hg
      exact absurd hg (by simp)
    rw [hd.others w hne] at hg ⊢
    obtain ⟨l, hl, hw⟩ := hs.listed hg
    exact ⟨l, hl, (hd.units_iff hs hu).mpr ⟨hw, hne⟩⟩
  · rw [haccount, haccount] at hsame
    exact hs.once (hwas hw).1 (hwas hw').1 hsame
  · obtain ⟨hg₀, hmember⟩ := (hd.groups a l h).mp hg
    obtain ⟨⟨m, w, hw⟩, hid, hparent⟩ := hs.inhabited hg₀
    refine ⟨?_, by rw [hd.shrinks.groupID]; exact hid, by rw [hd.shrinks.parentAccount]; exact hparent⟩
    by_cases hh : h = g
    · subst hh
      exact hmember rfl
    · exact ⟨m, w, by rw [hd.units, if_neg fun e => hh e.1]; exact hw⟩
  · obtain ⟨m, hm, hrow⟩ := (hs.registered (hwas hw).1).1
    refine ⟨m, by rw [hd.shrinks.groupID]; exact hm, ?_⟩
    rw [hd.shrinks.parentAccount, hd.groups]
    refine ⟨hrow, ?_⟩
    rintro rfl
    exact ⟨l, w, hw⟩
  · obtain ⟨m, hm, hrow⟩ := (hs.registered (hwas hw).1).2
    exact ⟨m, by rw [haccount]; exact hm, by rw [hd.shrinks.parentAccount, hd.accounts]; exact hrow⟩
  · rw [(hwas hw).2]
    exact hs.alive (hwas hw).1

theorem WellKept.drops (hs : s.WellKept) (hd : Drops g k v s s')
    (hu : (s.groupHeap g).units.own? k = some v) : s'.WellKept := by
  refine ⟨hs.toRoomsInvariant.drops hd hu, fun {l a} ha => ?_⟩
  rw [hd.accounts] at ha
  rw [hd.shrinks.accountID]
  exact hs.keyed ha

theorem RoomsInvariant.emit (hs : s.RoomsInvariant) (e : Effect) : (s.emit e).RoomsInvariant :=
  ⟨hs.entry, hs.listed, hs.once, hs.inhabited, hs.registered, hs.alive⟩

theorem WellKept.emit (hs : s.WellKept) (e : Effect) : (s.emit e).WellKept :=
  ⟨hs.toRoomsInvariant.emit e, hs.keyed⟩

end

/-! ### Sends to a set of units -/

/-- The effects of a send to a socket: the attempt, and the end of a connection that has failed. -/
def attemptOn (s : Server) (message : Bytes) (isBinary : Bool) (v : SocketId) : List Effect :=
  .send v message isBinary :: if s.sendFails v then [.terminate v] else []

/-- The units `T` are sent a message, once each, and those whose socket fails are out afterwards. -/
structure Reached (message : Bytes) (isBinary : Bool) (T : Set SocketId) (s s' : Server) : Prop where
  shrinks : s.Shrinks s'
  accounts : s'.accounts = s.accounts
  sendFails : s'.sendFails = s.sendFails
  attempts : ∃ vs : List SocketId, vs.Nodup ∧ (∀ v, v ∈ vs ↔ v ∈ T) ∧
    s'.log = s.log ++ vs.flatMap (s.attemptOn message isBinary)
  units : ∀ g k v, (s'.groupHeap g).units.own? k = some v ↔
    (s.groupHeap g).units.own? k = some v ∧ ¬ (v ∈ T ∧ s.sendFails v = true)
  kept : s'.WellKept

section

variable {message : Bytes} {isBinary : Bool} {S T : Set SocketId} {s t u : Server} {g : GroupId}
  {k : String} {v : SocketId}

theorem Reached.none (hs : s.WellKept) : Reached message isBinary ∅ s s := by
  refine ⟨.refl s, rfl, rfl, ⟨[], List.nodup_nil, fun v => ?_, ?_⟩, fun g k v => ?_, hs⟩
  · simp
  · rw [List.flatMap_nil, List.append_nil]
  · simp

theorem attemptOn_congr (h : t.sendFails = s.sendFails) :
    t.attemptOn message isBinary = s.attemptOn message isBinary := by
  funext v
  rw [attemptOn, attemptOn, h]

/-- One round of sends after another, of other units. -/
theorem Reached.trans (h : Reached message isBinary S s t) (h' : Reached message isBinary T t u)
    (hdisj : Disjoint S T) : Reached message isBinary (S ∪ T) s u := by
  refine ⟨h.shrinks.trans h'.shrinks, h'.accounts.trans h.accounts, h'.sendFails.trans h.sendFails,
    ?_, fun g k v => ?_, h'.kept⟩
  · obtain ⟨vs, hnodup, hmem, hlog⟩ := h.attempts
    obtain ⟨ws, hnodup', hmem', hlog'⟩ := h'.attempts
    refine ⟨vs ++ ws, ?_, fun v => ?_, ?_⟩
    · refine List.nodup_append.mpr ⟨hnodup, hnodup', ?_⟩
      rintro v hv w hw rfl
      exact Set.disjoint_left.mp hdisj ((hmem v).mp hv) ((hmem' v).mp hw)
    · rw [List.mem_append, hmem, hmem']
      rfl
    · rw [hlog', hlog, attemptOn_congr h.sendFails, List.flatMap_append, List.append_assoc]
  · rw [h'.units, h.units, h.sendFails, Set.mem_union, and_assoc, or_and_right, not_or]

/-- A unit that has not had its turn is where it was. -/
theorem Reached.waits (h : Reached message isBinary S s t) (hu : (s.groupHeap g).units.own? k = some v)
    (hv : v ∉ S) : (t.groupHeap g).units.own? k = some v :=
  (h.units g k v).mpr ⟨hu, fun hdead => hv hdead.1⟩

theorem Shrinks.thawed (h : s.Shrinks t) (hg : ¬ s.Frozen g) : ¬ t.Frozen g := by
  rintro ⟨hproto, hrow⟩
  rw [h.proto] at hproto
  obtain ⟨w, hw⟩ := Option.isSome_iff_exists.mp hrow
  exact hg ⟨hproto, Option.isSome_iff_exists.mpr ⟨w, h.units _ _ _ hw⟩⟩

/-- A loop over keys that each stand for some units. -/
theorem Reached.forEach {f : String → Action Server Unit} {T : String → Set SocketId}
    (hgoes : ∀ n t, ¬ (f n).Escapes t) :
    ∀ {names : List String} {S : Set SocketId} {t : Server}, Reached message isBinary S s t →
      names.Nodup → (∀ n ∈ names, ∀ S t, Reached message isBinary S s t → Disjoint S (T n) →
        Reached message isBinary (T n) t ((f n).final t)) →
      (∀ n ∈ names, Disjoint S (T n)) →
      (∀ n ∈ names, ∀ m ∈ names, n ≠ m → Disjoint (T n) (T m)) →
      Reached message isBinary (S ∪ {v | ∃ n ∈ names, v ∈ T n}) s
        ((Action.forEach names f).final t) := by
  intro names
  induction names with
  | nil =>
    intro S t ht hnodup hround hS hT
    have hnone : S ∪ {v | ∃ n ∈ ([] : List String), v ∈ T n} = S := by simp
    rw [hnone]
    exact ht
  | cons n rest ih =>
    intro S t ht hnodup hround hS hT
    obtain ⟨hfresh, hrest⟩ := List.nodup_cons.mp hnodup
    have hfirst := hround n List.mem_cons_self S t ht (hS n List.mem_cons_self)
    have hboth := ht.trans hfirst (hS n List.mem_cons_self)
    have hlater : ∀ m ∈ rest, Disjoint (S ∪ T n) (T m) := by
      intro m hm
      have hne : n ≠ m := by
        rintro rfl
        exact hfresh hm
      exact Set.disjoint_union_left.mpr ⟨hS m (List.mem_cons_of_mem _ hm),
        hT n List.mem_cons_self m (List.mem_cons_of_mem _ hm) hne⟩
    have hall := ih hboth hrest (fun m hm => hround m (List.mem_cons_of_mem _ hm)) hlater
      fun m hm m' hm' hne => hT m (List.mem_cons_of_mem _ hm) m' (List.mem_cons_of_mem _ hm') hne
    have hsplit : S ∪ {v | ∃ m ∈ n :: rest, v ∈ T m} = S ∪ T n ∪ {v | ∃ m ∈ rest, v ∈ T m} := by
      ext v
      simp [or_assoc]
    rw [final_forEach_cons hgoes, hsplit]
    exact hall

/-- A loop over the rows of a table, each of which stands for units of its own. -/
theorem WellKept.forEach_rows {α : Type} {tbl : Table α} {f : String → Action Server Unit}
    (hs : s.WellKept) (P : α → Set SocketId) (hgoes : ∀ n t, ¬ (f n).Escapes t)
    (hround : ∀ {n x S t}, tbl.own? n = some x → Reached message isBinary S s t →
      Disjoint S (P x) → Reached message isBinary (P x) t ((f n).final t))
    (hapart : ∀ {n m x y v}, tbl.own? n = some x → tbl.own? m = some y → v ∈ P x → v ∈ P y →
      n = m) :
    Reached message isBinary {v | ∃ n x, tbl.own? n = some x ∧ v ∈ P x} s
      ((Action.forEach tbl.keys f).final s) := by
  have hrow : ∀ {n x}, tbl.own? n = some x → {v | ∃ y, tbl.own? n = some y ∧ v ∈ P y} = P x := by
    intro n x hx
    ext v
    constructor
    · rintro ⟨y, hy, hv⟩
      obtain rfl : y = x := Option.some.inj (hy.symm.trans hx)
      exact hv
    · exact fun hv => ⟨x, hx, hv⟩
  have hunion : ∅ ∪ {v | ∃ n ∈ tbl.keys, v ∈ {v | ∃ x, tbl.own? n = some x ∧ v ∈ P x}} =
      {v | ∃ n x, tbl.own? n = some x ∧ v ∈ P x} := by
    ext v
    rw [Set.empty_union]
    constructor
    · rintro ⟨n, -, x, hx, hv⟩
      exact ⟨n, x, hx, hv⟩
    · rintro ⟨n, x, hx, hv⟩
      exact ⟨n, Table.mem_keys_iff.mpr ⟨x, hx⟩, x, hx, hv⟩
  rw [← hunion]
  refine Reached.forEach hgoes (.none hs) tbl.nodup (fun n hn S t ht hdisj => ?_)
    (fun n _ => Set.empty_disjoint _) fun n _ m _ hne => ?_
  · obtain ⟨x, hx⟩ := Table.mem_keys_iff.mp hn
    rw [hrow hx] at hdisj ⊢
    exact hround hx ht hdisj
  · refine Set.disjoint_left.mpr ?_
    rintro v ⟨x, hx, hv⟩ ⟨y, hy, hv'⟩
    exact hne (hapart hx hy hv hv')

end

/-! ### The three loops -/

/-- The loop of a broadcast sends to the socket. -/
def Wanted (s : Server) (senderID : SenderRef) (actorType : Option String) (v : SocketId) : Prop :=
  ∃ login, (s.sockets v).loginRequest = some login ∧ wants login v senderID actorType = true

section

variable {message : Bytes} {isBinary : Bool} {senderID : SenderRef} {actorType : Option String}
  {S : Set SocketId} {s t : Server} {g : GroupId} {a : AccountId} {k : String} {v : SocketId}

theorem Shrinks.wanted_iff (h : s.Shrinks t) :
    t.Wanted senderID actorType v ↔ s.Wanted senderID actorType v := by
  rw [Wanted, Wanted, (h.sockets v).loginRequest]

/-- The members of a group that the loop sends to. -/
def wantedIn (s : Server) (senderID : SenderRef) (actorType : Option String) (g : GroupId) :
    Set SocketId :=
  {v | (∃ k, (s.groupHeap g).units.own? k = some v) ∧ s.Wanted senderID actorType v}

/-- The dead units among these can be removed. -/
def Removable (s : Server) (T : Set SocketId) : Prop :=
  ∀ g k v, (s.groupHeap g).units.own? k = some v → v ∈ T → s.sendFails v = true → ¬ s.Frozen g

theorem Reached.removable {T T' : Set SocketId} (h : Reached message isBinary S s t)
    (hT : s.Removable T') (hsub : T ⊆ T') : t.Removable T := by
  intro g k v hu hv hfails
  rw [h.sendFails] at hfails
  exact h.shrinks.thawed (hT g k v (h.shrinks.units g k v hu) (hsub hv) hfails)

/-- The turn of a member. -/
theorem WellKept.visit (hs : s.WellKept) (hu : (s.groupHeap g).units.own? k = some v)
    (hok : s.Removable {w | w = v ∧ s.Wanted senderID actorType w}) :
    Reached message isBinary {w | w = v ∧ s.Wanted senderID actorType w} s
      ((broadcastTo message isBinary senderID actorType v).final s) := by
  obtain ⟨-, -, login, hl, -⟩ := hs.entry hu
  rw [broadcastTo_final hl]
  have hwanted : s.Wanted senderID actorType v ↔ wants login v senderID actorType = true := by
    refine ⟨fun ⟨login', hl', hw⟩ => ?_, fun hw => ⟨login, hl, hw⟩⟩
    obtain rfl : login = login' := Option.some.inj (hl.symm.trans hl')
    exact hw
  by_cases hw : wants login v senderID actorType = true
  · have hset : {w | w = v ∧ s.Wanted senderID actorType w} = {v} := by
      ext w
      constructor
      · exact fun h => h.1
      · rintro rfl
        exact ⟨rfl, hwanted.mpr hw⟩
    rw [if_pos hw]
    rw [hset] at hok ⊢
    have hsent := shrinks_emit (.send v message isBinary) s
    by_cases hfails : s.sendFails v = true
    · -- the member is dead
      have hthawed : ¬ (s.emit (.send v message isBinary)).Frozen g := hok g k v hu rfl hfails
      have hd := handleOrphanSocket_drops (hs.emit (.send v message isBinary)).toRoomsInvariant hu
        hthawed
      rw [if_pos hfails]
      refine ⟨hsent.trans hd.shrinks, hd.accounts, hd.sendFails,
        ⟨[v], List.nodup_singleton v, fun w => List.mem_singleton, ?_⟩, fun h l w => ?_,
        (hs.emit _).drops hd hu⟩
      · rw [hd.log, emit_log, List.flatMap_singleton, attemptOn, if_pos hfails, List.append_assoc]
        rfl
      · rw [hd.units_iff (hs.emit _).toRoomsInvariant hu]
        refine and_congr_right fun _ => not_congr ⟨fun h => ?_, fun h => h.1⟩
        subst h
        exact ⟨rfl, hfails⟩
    · rw [if_neg hfails]
      refine ⟨hsent, rfl, rfl, ⟨[v], List.nodup_singleton v, fun w => List.mem_singleton, ?_⟩,
        fun h l w => ?_, hs.emit _⟩
      · rw [emit_log, List.flatMap_singleton, attemptOn, if_neg hfails]
      · refine (and_iff_left ?_).symm
        rintro ⟨rfl, hdead⟩
        exact hfails hdead
  · have hset : {w | w = v ∧ s.Wanted senderID actorType w} = ∅ := by
      refine Set.eq_empty_of_forall_notMem ?_
      rintro w ⟨rfl, hw'⟩
      exact hw (hwanted.mp hw')
    rw [if_neg hw, hset]
    exact .none hs

/-- A broadcast reaches the members it wants. -/
theorem WellKept.broadcast (hs : s.WellKept) (hok : s.Removable (s.wantedIn senderID actorType g)) :
    Reached message isBinary (s.wantedIn senderID actorType g) s
      ((broadcast g message isBinary senderID actorType).final s) := by
  have hset : s.wantedIn senderID actorType g = {w | ∃ n v, (s.groupHeap g).units.own? n = some v ∧
      w ∈ {w | w = v ∧ s.Wanted senderID actorType w}} := by
    ext w
    constructor
    · rintro ⟨⟨n, hu⟩, hw⟩
      exact ⟨n, w, hu, rfl, hw⟩
    · rintro ⟨n, v, hu, rfl, hw⟩
      exact ⟨⟨n, hu⟩, hw⟩
  rw [hset] at hok ⊢
  refine hs.forEach_rows (f := broadcastRound g message isBinary senderID actorType)
    (fun v => {w | w = v ∧ s.Wanted senderID actorType w})
    (round_goes g message isBinary senderID actorType) (fun {n v S t} hu ht hdisj => ?_) ?_
  · rw [broadcastRound, final_get_bind]
    cases hv : (t.groupHeap g).units.own? n with
    | none =>
      have hnone : {w | w = v ∧ s.Wanted senderID actorType w} = ∅ := by
        refine Set.eq_empty_of_forall_notMem ?_
        rintro w ⟨rfl, hw⟩
        rw [ht.waits hu (Set.disjoint_right.mp hdisj ⟨rfl, hw⟩)] at hv
        exact absurd hv (by simp)
      rw [hnone]
      exact .none ht.kept
    | some v' =>
      obtain rfl : v' = v := Option.some.inj ((ht.shrinks.units g n v' hv).symm.trans hu)
      have hsame : {w | w = v' ∧ s.Wanted senderID actorType w} =
          {w | w = v' ∧ t.Wanted senderID actorType w} := by
        ext w
        rw [Set.mem_ofPred_eq, Set.mem_ofPred_eq, ht.shrinks.wanted_iff]
      rw [hsame]
      refine ht.kept.visit hv (ht.removable hok ?_)
      rw [← hsame]
      exact fun w hw => ⟨n, v', hu, hw⟩
  · rintro n m v v' w hu hu' ⟨rfl, -⟩ ⟨rfl, -⟩
    exact (hs.row_eq hu hu').2

/-- The units in the groups of an account that the loop sends to. -/
def wantedUnder (s : Server) (senderID : SenderRef) (actorType : Option String) (a : AccountId) :
    Set SocketId :=
  {v | ∃ l g, (s.accountHeap a).groups.own? l = some g ∧ v ∈ s.wantedIn senderID actorType g}

/-- All units that the loop sends to. -/
def wantedAnywhere (s : Server) (senderID : SenderRef) (actorType : Option String) : Set SocketId :=
  {v | ∃ g, v ∈ s.wantedIn senderID actorType g}

/-- The members of a group that waits for its turn are those it had. -/
theorem Reached.wantedIn_eq (h : Reached message isBinary S s t)
    (hdisj : Disjoint S (s.wantedIn senderID actorType g)) :
    t.wantedIn senderID actorType g = s.wantedIn senderID actorType g := by
  ext v
  constructor
  · rintro ⟨⟨k, hu⟩, hw⟩
    exact ⟨⟨k, h.shrinks.units g k v hu⟩, h.shrinks.wanted_iff.mp hw⟩
  · rintro ⟨⟨k, hu⟩, hw⟩
    exact ⟨⟨k, h.waits hu (Set.disjoint_right.mp hdisj ⟨⟨k, hu⟩, hw⟩)⟩,
      h.shrinks.wanted_iff.mpr hw⟩

/-- So a group with members that wait is still in its account. -/
theorem Reached.group_waits {l : String} (h : Reached message isBinary S s t) (hs : s.WellKept)
    (hg : (s.accountHeap a).groups.own? l = some g) (hu : (t.groupHeap g).units.own? k = some v) :
    (t.accountHeap a).groups.own? l = some g := by
  obtain ⟨l', hl', hrow⟩ := (h.kept.registered hu).1
  obtain ⟨-, hl, hparent⟩ := hs.inhabited hg
  rw [h.shrinks.groupID, hl] at hl'
  rw [h.shrinks.parentAccount, hparent] at hrow
  obtain rfl := Except.ok.inj hl'
  exact hrow

theorem Reached.wantedUnder_eq (h : Reached message isBinary S s t) (hs : s.WellKept)
    (hdisj : Disjoint S (s.wantedUnder senderID actorType a)) :
    t.wantedUnder senderID actorType a = s.wantedUnder senderID actorType a := by
  ext v
  constructor
  · rintro ⟨l, g, hg, ⟨k, hu⟩, hw⟩
    exact ⟨l, g, h.shrinks.groups a l g hg, ⟨k, h.shrinks.units g k v hu⟩,
      h.shrinks.wanted_iff.mp hw⟩
  · rintro ⟨l, g, hg, ⟨k, hu⟩, hw⟩
    have hu' := h.waits hu (Set.disjoint_right.mp hdisj ⟨l, g, hg, ⟨k, hu⟩, hw⟩)
    exact ⟨l, g, h.group_waits hs hg hu', ⟨k, hu'⟩, h.shrinks.wanted_iff.mpr hw⟩

/-- A broadcast in an account reaches the units of its groups. -/
theorem WellKept.broadcastInAccount (hs : s.WellKept)
    (hok : s.Removable (s.wantedUnder senderID actorType a)) :
    Reached message isBinary (s.wantedUnder senderID actorType a) s
      ((broadcastInAccount a message isBinary senderID actorType).final s) := by
  refine hs.forEach_rows (f := accountRound a message isBinary senderID actorType)
    (s.wantedIn senderID actorType) (accountRound_goes a message isBinary senderID actorType)
    (fun {l g S t} hg ht hdisj => ?_) ?_
  · rw [accountRound, final_get_bind]
    cases hrow : (t.accountHeap a).groups.own? l with
    | none =>
      have hnone : s.wantedIn senderID actorType g = ∅ := by
        refine Set.eq_empty_of_forall_notMem fun v hv => ?_
        obtain ⟨⟨k, hu⟩, -⟩ := id hv
        rw [ht.group_waits hs hg (ht.waits hu (Set.disjoint_right.mp hdisj hv))] at hrow
        exact absurd hrow (by simp)
      rw [hnone]
      exact .none ht.kept
    | some g' =>
      obtain rfl : g' = g := Option.some.inj ((ht.shrinks.groups a l g' hrow).symm.trans hg)
      rw [← ht.wantedIn_eq hdisj]
      refine ht.kept.broadcast (ht.removable hok ?_)
      rw [ht.wantedIn_eq hdisj]
      exact fun v hv => ⟨l, g', hg, hv⟩
  · rintro l m g h v hg hh ⟨⟨k, hu⟩, -⟩ ⟨⟨k', hu'⟩, -⟩
    obtain ⟨rfl, -⟩ := hs.row_eq hu hu'
    obtain ⟨-, hl, -⟩ := hs.inhabited hg
    obtain ⟨-, hm, -⟩ := hs.inhabited hh
    exact Except.ok.inj (hl.symm.trans hm)

/-- A unit is in one account only. -/
theorem WellKept.account_eq {b : AccountId} {l m n o : String} {h : GroupId} {w : SocketId}
    (hs : s.WellKept) (ha : s.accounts.own? n = some a) (hb : s.accounts.own? o = some b)
    (hg : (s.accountHeap a).groups.own? l = some g) (hh : (s.accountHeap b).groups.own? m = some h)
    (hu : (s.groupHeap g).units.own? k = some w) {k' : String}
    (hu' : (s.groupHeap h).units.own? k' = some w) : n = o := by
  obtain ⟨rfl, -⟩ := hs.row_eq hu hu'
  obtain ⟨-, -, hparent⟩ := hs.inhabited hg
  obtain ⟨-, -, hparent'⟩ := hs.inhabited hh
  obtain rfl : a = b := hparent.symm.trans hparent'
  exact Except.ok.inj ((hs.keyed ha).symm.trans (hs.keyed hb))

/-- A broadcast over all rooms reaches the units of all groups. -/
theorem WellKept.broadcastEverywhere (hs : s.WellKept)
    (hok : s.Removable (s.wantedAnywhere senderID actorType)) :
    Reached message isBinary (s.wantedAnywhere senderID actorType) s
      ((broadcastEverywhere message isBinary senderID actorType).final s) := by
  have hset : s.wantedAnywhere senderID actorType =
      {v | ∃ n a, s.accounts.own? n = some a ∧ v ∈ s.wantedUnder senderID actorType a} := by
    ext v
    constructor
    · rintro ⟨g, ⟨k, hu⟩, hw⟩
      obtain ⟨⟨l, -, hg⟩, n, -, ha⟩ := hs.registered hu
      exact ⟨n, _, ha, l, g, hg, ⟨k, hu⟩, hw⟩
    · rintro ⟨n, a, -, l, g, -, hv⟩
      exact ⟨g, hv⟩
  rw [hset] at hok ⊢
  refine hs.forEach_rows (f := everyRound message isBinary senderID actorType)
    (s.wantedUnder senderID actorType) (everyRound_goes message isBinary senderID actorType)
    (fun {n a S t} ha ht hdisj => ?_) ?_
  · rw [everyRound, final_get_bind, ht.accounts, ha]
    rw [← ht.wantedUnder_eq hs hdisj]
    refine ht.kept.broadcastInAccount (ht.removable hok ?_)
    rw [ht.wantedUnder_eq hs hdisj]
    exact fun v hv => ⟨n, a, ha, hv⟩
  · rintro n o a b v ha hb ⟨l, g, hg, ⟨k, hu⟩, -⟩ ⟨m, h, hh, ⟨k', hu'⟩, -⟩
    exact hs.account_eq ha hb hg hh hu hu'

end

/-! ### Frozen groups -/

/-- No group loses a member while it is frozen. -/
def KeepsFrozen (s s' : Server) : Prop :=
  ∀ g, s.Frozen g → s'.Frozen g ∧
    ∀ k v, (s.groupHeap g).units.own? k = some v → (s'.groupHeap g).units.own? k = some v

instance : IsPreorder Server KeepsFrozen where
  refl := fun _ _ h => ⟨h, fun _ _ => id⟩
  trans := fun _ _ _ h h' g hg => ⟨(h' g (h g hg).1).1, fun k v hu =>
    (h' g (h g hg).1).2 k v ((h g hg).2 k v hu)⟩

section

variable {message : Bytes} {isBinary : Bool}

theorem keepsFrozen_send (ws : SocketId) : Moves KeepsFrozen (send ws message isBinary) :=
  moves_send (fun _ => moves_modify fun _ _ hg => ⟨hg, fun _ _ => id⟩) ws message isBinary

theorem keepsFrozen_handleOrphanSocket (ws : SocketId) :
    Moves KeepsFrozen (handleOrphanSocket ws) := by
  intro s g hg
  refine ⟨(onlyShrinks_handleOrphanSocket ws s).frozen g hg, fun k v hu => ?_⟩
  rcases handleOrphanSocket_final ws s with ⟨-, hfin⟩ | ⟨h, -, hfin⟩
  · rw [hfin]
    exact hu
  · rw [hfin]
    change (((deleteMemberByName h (s.sockets ws).name false).final s).groupHeap g).units.own? k = _
    rcases deleteMemberByName_units h (s.sockets ws).name false s g k with heq | ⟨rfl, hthawed, -⟩
    · rw [heq]
      exact hu
    · exact absurd hg hthawed

end

/-! ### The fan-out operations -/

/-- The fan-out operations, with whom they are for. -/
inductive FanOut where
  /-- `Group.fn_broadcast` -/
  | group (g : GroupId) (actorType : Option String)
  /-- `fn_sendToAll` -/
  | all
  /-- `fn_sendToAllGCS` -/
  | allGCS
  /-- `fn_sendToAllAgent` -/
  | allAgent
  /-- `fn_sendToAllGCSInAccount` -/
  | allGCSInAccount (accountId : Val)
  /-- `fn_sendToAccountGroup` -/
  | accountGroup (accountId groupId actorType : Val)

namespace FanOut

/-- The actor filter; `fn_sendToAccountGroup` knows the two actor types and takes all else for none. -/
def audience : FanOut → Option String
  | group _ actorType => actorType
  | all => none
  | allGCS | allGCSInAccount _ => some Const.actorGCS
  | allAgent => some Const.actorDrone
  | accountGroup _ _ actorType =>
    if actorType = some (.str Const.actorGCS) then some Const.actorGCS
    else if actorType = some (.str Const.actorDrone) then some Const.actorDrone
    else none

/-- The call. -/
def call (message : Bytes) (isBinary : Bool) (senderID : SenderRef) (op : FanOut) :
    Action Server Unit :=
  match op with
  | group g actorType => broadcast g message isBinary senderID actorType
  | all => sendToAll message isBinary senderID
  | allGCS => sendToAllGCS message isBinary senderID
  | allAgent => sendToAllAgent message isBinary senderID
  | allGCSInAccount accountId => do
    let _ ← sendToAllGCSInAccount message isBinary senderID accountId
  | accountGroup accountId groupId _ => do
    let _ ← sendToAccountGroup message isBinary senderID accountId groupId op.audience

/-- The groups the operation is for. -/
def InScope (s : Server) : FanOut → GroupId → Prop
  | group g _, h => h = g
  | all, _ | allGCS, _ | allAgent, _ => True
  | allGCSInAccount accountId, h => ∃ n, propKey accountId = .ok n ∧
    s.accounts.own? n = some (s.groupHeap h).parentAccount
  | accountGroup accountId groupId _, h => ∃ n l, propKey accountId = .ok n ∧
    propKey groupId = .ok l ∧ s.Hosts n l (s.groupHeap h).parentAccount h

/-- The units in scope that match the filter and are not excluded. -/
def targets (s : Server) (senderID : SenderRef) (op : FanOut) : Set SocketId :=
  {v | ∃ g, op.InScope s g ∧ v ∈ s.wantedIn senderID op.audience g}

/-- The ids can be looked up, and do not find an inherited name where a room is expected. -/
def Resolves (s : Server) : FanOut → Prop
  | group _ _ | all | allGCS | allAgent => True
  | allGCSInAccount accountId => ∃ n, propKey accountId = .ok n
  | accountGroup accountId groupId _ => s.NoRoom accountId groupId ∨
    ∃ a g, s.accounts.index s.proto accountId = .ok (.own a) ∧
      (s.accountHeap a).groups.index s.proto groupId = .ok (.own g)

end FanOut

/-- The units `T` are sent the message once each, and no others; those among them whose socket fails
    are terminated and out of the rooms; all others are members as before, and the rooms in order. -/
structure FansOut (message : Bytes) (isBinary : Bool) (T : Set SocketId) (s s' : Server) : Prop where
  attempts : ∃ vs : List SocketId, vs.Nodup ∧ (∀ v, v ∈ vs ↔ v ∈ T) ∧
    s'.log = s.log ++ vs.flatMap (s.attemptOn message isBinary)
  members : ∀ g k v, (s'.groupHeap g).units.own? k = some v ↔
    (s.groupHeap g).units.own? k = some v ∧ ¬ (v ∈ T ∧ s.sendFails v = true)
  invariant : s'.RoomsInvariant

section

variable {message : Bytes} {isBinary : Bool} {senderID : SenderRef} {T : Set SocketId}
  {s s' : Server} {op : FanOut}

theorem Reached.fansOut (h : Reached message isBinary T s s') : FansOut message isBinary T s s' :=
  ⟨h.attempts, h.units, h.kept.toRoomsInvariant⟩

variable (message isBinary senderID)

/-- What `fn_sendToAllGCSInAccount` does, by what it finds. -/
theorem sendToAllGCSInAccount_run (accountId : Val) (s : Server) :
    sendToAllGCSInAccount message isBinary senderID accountId s =
      match s.accounts.index s.proto accountId with
      | .error e => (.error e, s)
      | .ok .absent => (.ok false, s)
      | .ok .inherited => (.ok true, s)
      | .ok (.own a) =>
        (.ok true, (broadcastInAccount a message isBinary senderID (some Const.actorGCS)).final s) := by
  rw [sendToAllGCSInAccount, run_bind_get]
  cases s.accounts.index s.proto accountId with
  | error e => rfl
  | ok slot =>
    rw [run_bind_ok]
    cases slot with
    | absent => rfl
    | inherited => rfl
    | own a =>
      exact run_bind_of_ok (run_of_not_escapes (not_escapes_forEach _
        (accountRound_goes a message isBinary senderID (some Const.actorGCS))))

/-- What sends and removals of dead members keep, every fan-out keeps. -/
theorem FanOut.moves_call {R : Server → Server → Prop} [IsPreorder Server R]
    (hsend : ∀ v, Moves R (send v message isBinary)) (hdead : ∀ v, Moves R (handleOrphanSocket v))
    (op : FanOut) : Moves R (op.call message isBinary senderID) := by
  cases op with
  | group g c => exact moves_broadcast hsend hdead g _ _
  | all => exact moves_broadcastEverywhere hsend hdead _ _
  | allGCS => exact moves_broadcastEverywhere hsend hdead _ _
  | allAgent => exact moves_broadcastEverywhere hsend hdead _ _
  | allGCSInAccount accountId =>
    refine moves_bind (moves_bind moves_get fun s => moves_bind (moves_ofExcept _) fun slot => ?_)
      fun _ => moves_pure ()
    cases slot with
    | absent => exact moves_pure _
    | inherited => exact moves_pure _
    | own a =>
      exact moves_bind (moves_broadcastInAccount hsend hdead a _ _) fun _ => moves_pure _
  | accountGroup accountId groupId c =>
    exact moves_bind (moves_sendToAccountGroup hsend hdead _ _ _ _) fun _ => moves_pure ()

theorem FanOut.keepsFrozen (op : FanOut) : Moves KeepsFrozen (op.call message isBinary senderID) :=
  op.moves_call message isBinary senderID keepsFrozen_send keepsFrozen_handleOrphanSocket

variable {message isBinary senderID}

/-! ### Whom an operation is for -/

theorem FanOut.targets_everywhere (h : ∀ g, op.InScope s g) :
    op.targets s senderID = s.wantedAnywhere senderID op.audience := by
  ext v
  constructor
  · rintro ⟨g, -, hv⟩
    exact ⟨g, hv⟩
  · rintro ⟨g, hv⟩
    exact ⟨g, h g, hv⟩

theorem FanOut.targets_nowhere (h : ∀ g, ¬ op.InScope s g) : op.targets s senderID = ∅ := by
  refine Set.eq_empty_of_forall_notMem ?_
  rintro v ⟨g, hg, -⟩
  exact h g hg

/-- One group is in scope. -/
theorem FanOut.targets_group {g : GroupId} (hg : op.InScope s g)
    (honly : ∀ h, op.InScope s h → h = g) :
    op.targets s senderID = s.wantedIn senderID op.audience g := by
  ext v
  constructor
  · rintro ⟨h, hh, hv⟩
    rw [← honly h hh]
    exact hv
  · intro hv
    exact ⟨g, hg, hv⟩

/-- The groups of an account are in scope. -/
theorem WellKept.targets_account {a : AccountId} {accountId : Val} {n : String} (hs : s.WellKept)
    (hn : propKey accountId = .ok n) (ha : s.accounts.own? n = some a) :
    (FanOut.allGCSInAccount accountId).targets s senderID =
      s.wantedUnder senderID (some Const.actorGCS) a := by
  ext v
  constructor
  · rintro ⟨g, ⟨m, hm, hrow⟩, hv⟩
    obtain rfl := Except.ok.inj (hn.symm.trans hm)
    obtain ⟨k, hu⟩ := hv.1
    obtain ⟨l, -, hg⟩ := (hs.registered hu).1
    obtain rfl := Option.some.inj (ha.symm.trans hrow)
    exact ⟨l, g, hg, hv⟩
  · rintro ⟨l, g, hg, hv⟩
    refine ⟨g, ⟨n, hn, ?_⟩, hv⟩
    rw [(hs.inhabited hg).2.2]
    exact ha

theorem FanOut.targets_noAccount {accountId : Val} {n : String} (hn : propKey accountId = .ok n)
    (hnone : s.accounts.own? n = none) :
    (FanOut.allGCSInAccount accountId).targets s senderID = ∅ := by
  refine targets_nowhere ?_
  rintro g ⟨m, hm, ha⟩
  obtain rfl := Except.ok.inj (hn.symm.trans hm)
  rw [hnone] at ha
  exact absurd ha (by simp)

theorem FanOut.targets_noRoom {accountId groupId c : Val} (h : s.NoRoom accountId groupId) :
    (FanOut.accountGroup accountId groupId c).targets s senderID = ∅ := by
  refine targets_nowhere ?_
  rintro g ⟨n, l, hn, hl, hrows⟩
  rcases h with habs | ⟨a, ha, habs⟩
  · rw [index_of_own hn hrows.account] at habs
    exact absurd habs (by simp)
  · rw [index_of_own hn hrows.account] at ha
    obtain rfl := Slot.own.inj (Except.ok.inj ha)
    rw [index_of_own hl hrows.group] at habs
    exact absurd habs (by simp)

/-- The group that the two ids name is in scope. -/
theorem WellKept.targets_room {a : AccountId} {g : GroupId} {accountId groupId c : Val} {n l : String}
    (hs : s.WellKept) (hn : propKey accountId = .ok n) (ha : s.accounts.own? n = some a)
    (hl : propKey groupId = .ok l) (hg : (s.accountHeap a).groups.own? l = some g) :
    (FanOut.accountGroup accountId groupId c).targets s senderID =
      s.wantedIn senderID (FanOut.accountGroup accountId groupId c).audience g := by
  refine FanOut.targets_group ⟨n, l, hn, hl, ?_⟩ ?_
  · rw [(hs.inhabited hg).2.2]
    exact ⟨ha, hg⟩
  · rintro h ⟨m, o, hm, ho, hrows⟩
    obtain rfl := Except.ok.inj (hn.symm.trans hm)
    obtain rfl := Except.ok.inj (hl.symm.trans ho)
    have hparent := Option.some.inj (ha.symm.trans hrows.account)
    have hrow := hrows.group
    rw [← hparent, hg] at hrow
    exact (Option.some.inj hrow).symm

/-! ### Every operation -/

theorem sendToAccountGroup_noRoom {accountId groupId : Val} (c : Option String)
    (h : s.NoRoom accountId groupId) :
    sendToAccountGroup message isBinary senderID accountId groupId c s = (.ok false, s) := by
  rw [sendToAccountGroup, run_bind_get]
  rcases h with habs | ⟨a, ha, habs⟩
  · rw [habs]
    rfl
  · rw [ha, run_bind_ok]
    simp only [habs]
    rfl

theorem WellKept.sendEverywhere (op : FanOut) (hs : s.WellKept) (hscope : ∀ g, op.InScope s g)
    (hok : s.Removable (op.targets s senderID)) : ∃ s',
      Server.broadcastEverywhere message isBinary senderID op.audience s = (.ok (), s') ∧
      Reached message isBinary (op.targets s senderID) s s' := by
  rw [FanOut.targets_everywhere hscope] at hok ⊢
  exact ⟨_, run_of_not_escapes (not_escapes_forEach _
    (everyRound_goes message isBinary senderID op.audience)), hs.broadcastEverywhere hok⟩

theorem WellKept.sendInAccount (hs : s.WellKept) {accountId : Val} {n : String}
    (hn : propKey accountId = .ok n)
    (hok : s.Removable ((FanOut.allGCSInAccount accountId).targets s senderID)) : ∃ s',
      (FanOut.allGCSInAccount accountId).call message isBinary senderID s = (.ok (), s') ∧
      Reached message isBinary ((FanOut.allGCSInAccount accountId).targets s senderID) s s' := by
  have hindex : s.accounts.index s.proto accountId = .ok (s.accounts.get s.proto n) := by
    rw [Table.index, hn]
    rfl
  have hrun := sendToAllGCSInAccount_run message isBinary senderID accountId s
  rw [hindex] at hrun
  cases hslot : s.accounts.get s.proto n with
  | absent =>
    rw [hslot] at hrun
    rw [FanOut.targets_noAccount hn (Table.get_eq_absent_iff.mp hslot).1]
    exact ⟨s, by rw [FanOut.call, run_bind_of_ok hrun]; rfl, .none hs⟩
  | inherited =>
    rw [hslot] at hrun
    rw [FanOut.targets_noAccount hn (Table.get_eq_inherited_iff.mp hslot).1]
    exact ⟨s, by rw [FanOut.call, run_bind_of_ok hrun]; rfl, .none hs⟩
  | own a =>
    rw [hslot] at hrun
    rw [hs.targets_account hn (Table.get_eq_own_iff.mp hslot)] at hok ⊢
    exact ⟨_, by rw [FanOut.call, run_bind_of_ok hrun]; rfl, hs.broadcastInAccount hok⟩

/-- Where its ids resolve, the operation reaches its targets. -/
theorem WellKept.fanOut (hs : s.WellKept) (hids : op.Resolves s)
    (hok : s.Removable (op.targets s senderID)) : ∃ s',
      op.call message isBinary senderID s = (.ok (), s') ∧
      Reached message isBinary (op.targets s senderID) s s' := by
  cases op with
  | group g c =>
    have hset : (FanOut.group g c).targets s senderID = s.wantedIn senderID c g :=
      FanOut.targets_group rfl fun h hh => hh
    rw [hset] at hok ⊢
    exact ⟨_, run_of_not_escapes (not_escapes_forEach _ (round_goes g message isBinary senderID c)),
      hs.broadcast hok⟩
  | all => exact hs.sendEverywhere .all (fun _ => trivial) hok
  | allGCS => exact hs.sendEverywhere .allGCS (fun _ => trivial) hok
  | allAgent => exact hs.sendEverywhere .allAgent (fun _ => trivial) hok
  | allGCSInAccount accountId =>
    obtain ⟨n, hn⟩ := hids
    exact hs.sendInAccount hn hok
  | accountGroup accountId groupId c =>
    rcases hids with hnone | ⟨a, g, ha, hg⟩
    · rw [FanOut.targets_noRoom hnone]
      refine ⟨s, ?_, .none hs⟩
      rw [FanOut.call, run_bind_of_ok (sendToAccountGroup_noRoom _ hnone)]
      rfl
    · obtain ⟨n, hn, ha'⟩ := index_own ha
      obtain ⟨l, hl, hg'⟩ := index_own hg
      rw [hs.targets_room hn ha' hl hg'] at hok ⊢
      refine ⟨_, ?_, hs.broadcast hok⟩
      rw [FanOut.call, run_bind_of_ok (Hosts.sendToAccountGroup ⟨ha', hg'⟩ hn hl)]
      rfl

/-- An operation that returns has found its ids. -/
theorem FanOut.resolves (hrun : op.call message isBinary senderID s = (.ok (), s')) :
    op.Resolves s := by
  cases op with
  | group | all | allGCS | allAgent => trivial
  | allGCSInAccount accountId =>
    obtain ⟨r, t, hr, -⟩ := run_bind_eq_ok.mp hrun
    rw [sendToAllGCSInAccount_run, Table.index] at hr
    cases hn : propKey accountId with
    | ok n => exact ⟨n, hn⟩
    | error e =>
      rw [hn] at hr
      exact absurd hr (by simp [Except.map])
  | accountGroup accountId groupId c =>
    obtain ⟨r, t, hr, -⟩ := run_bind_eq_ok.mp hrun
    rcases sendToAccountGroup_cases message isBinary senderID accountId groupId
      (FanOut.accountGroup accountId groupId c).audience s with
      ⟨e, herr⟩ | ⟨hnone, -⟩ | ⟨a, g, ha, hg, -⟩
    · rw [herr] at hr
      exact absurd hr (by simp)
    · exact Or.inl hnone
    · exact Or.inr ⟨a, g, ha, hg⟩

/-- A dead unit in a frozen group stays. -/
theorem not_fansOut_of_frozen {g : GroupId} {k : String} {v : SocketId}
    (hrun : op.call message isBinary senderID s = (.ok (), s'))
    (hu : (s.groupHeap g).units.own? k = some v) (hv : v ∈ T) (hfails : s.sendFails v = true)
    (hfrozen : s.Frozen g) : ¬ FansOut message isBinary T s s' := by
  intro hfans
  have hkeeps := op.keepsFrozen message isBinary senderID s g hfrozen
  rw [final, hrun] at hkeeps
  exact ((hfans.members g k v).mp (hkeeps.2 k v hu)).2 ⟨hv, hfails⟩

/-- A fan-out is exact when its ids resolve and no dead target is in a frozen group, and then only. -/
theorem fan_out_exact_iff (hs : s.WellKept) (op : FanOut) (senderID : SenderRef) (message : Bytes)
    (isBinary : Bool) :
    (∃ s', op.call message isBinary senderID s = (.ok (), s') ∧
      FansOut message isBinary (op.targets s senderID) s s') ↔
    op.Resolves s ∧ s.Removable (op.targets s senderID) := by
  constructor
  · rintro ⟨s', hrun, hfans⟩
    exact ⟨FanOut.resolves hrun, fun g k v hu hv hfails hfrozen =>
      not_fansOut_of_frozen hrun hu hv hfails hfrozen hfans⟩
  · rintro ⟨hids, hok⟩
    obtain ⟨s', hrun, hreached⟩ := hs.fanOut hids hok
    exact ⟨s', hrun, hreached.fansOut⟩

end

/-! ### Two units, one of them dead -/

/-- It is the tables that are well kept, not the prototype of their objects or the connections. -/
theorem WellKept.of_tables {s : Server} (hs : s.WellKept) (proto : List String)
    (sendFails : SocketId → Bool) : WellKept { s with proto, sendFails } :=
  ⟨⟨hs.entry, hs.listed, hs.once, hs.inhabited, hs.registered, hs.alive⟩, hs.keyed⟩

theorem InOrder.wellKept {s : Server} (h : s.InOrder none none) : s.WellKept :=
  ⟨h.roomsInvariant, fun ha => h.consistent.account_key _ _ ha⟩

/-- A drone is in its room, and a unit of this name joins it. -/
def joinedBy (name : String) : List Event :=
  joinedRun ++ [announceUnit "k2", .connect ("/?f=k2&s=" ++ name) "peer"]

/-- The room of a drone and a unit of this name. -/
structure Pair (name : String) (s : Server) : Prop where
  run : run Text.codec isAsciiAlphanumeric (startOver [] {}) (joinedBy name) = some s
  drone : (s.groupHeap 0).units.own? "drone" = some 0
  unit : (s.groupHeap 0).units.own? name = some 1
  ids : ∀ ws login, (s.sockets ws).loginRequest = some login → CarriesIds login
  wellKept : s.WellKept

/-- Of two sockets, both have logged in with their ids. -/
theorem carriesIds_of_two {s : Server} (hs : s.Consistent) (hnext : s.nextSocket = 2)
    (hids : [0, 1].map (fun ws => (s.sockets ws).loginRequest.map fun l =>
      (isNullish l.accountID, isNullish l.senderID)) = [some (false, false), some (false, false)])
    (ws : SocketId) (login : LoginRequest) (hl : (s.sockets ws).loginRequest = some login) :
    CarriesIds login := by
  simp only [List.map_cons, List.map_nil, List.cons.injEq, and_true] at hids
  obtain ⟨h₀, h₁⟩ := hids
  have hcase : ws = 0 ∨ ws = 1 := by
    by_contra hne
    rw [hs.fresh ws (by rw [hnext]; grind)] at hl
    exact absurd hl (by simp)
  rcases hcase with rfl | rfl
  · rw [hl] at h₀
    exact Prod.mk.inj (Option.some.inj h₀)
  · rw [hl] at h₁
    exact Prod.mk.inj (Option.some.inj h₁)

theorem pair_of_facts (name : String) (h : (Server.run Text.codec isAsciiAlphanumeric
    (startOver [] {}) (joinedBy name)).map (fun s => (s.nextSocket,
      ["drone", name].map (s.groupHeap 0).units.own?,
      [0, 1].map fun ws => (s.sockets ws).loginRequest.map fun l =>
        (isNullish l.accountID, isNullish l.senderID))) =
      some (2, [some 0, some 1], [some (false, false), some (false, false)])) :
    ∃ s, Pair name s := by
  obtain ⟨s, hs, hf⟩ := Option.map_eq_some_iff.mp h
  rw [Prod.mk.injEq, Prod.mk.injEq] at hf
  obtain ⟨hnext, hrows, hlogins⟩ := hf
  simp only [List.map_cons, List.map_nil, List.cons.injEq] at hrows
  obtain ⟨hdrone, hunit, -⟩ := hrows
  obtain ⟨-, hcons, -⟩ := run_operations Text.codec isAsciiAlphanumeric
    (consistent_startOver [] {}) (hearing_startOver [] {}) hs
  have hids := carriesIds_of_two hcons hnext hlogins
  exact ⟨s, hs, hdrone, hunit, hids, (inOrder_run hs hids).wellKept⟩

/-- The drone is a target of a fan-out to all. -/
theorem Pair.drone_target {name : String} {s : Server} (h : Pair name s) :
    0 ∈ FanOut.all.targets s ⟨none, none⟩ := by
  obtain ⟨-, -, login, hl, hk, -⟩ := h.wellKept.entry h.drone
  have hsender : login.senderID ≠ none := by
    intro hnone
    have hnull := (h.ids 0 login hl).2
    rw [hnone] at hnull
    exact absurd hnull (by decide)
  have hother : sameSender login 0 ⟨none, none⟩ = false := by
    rw [sameSender]
    split
    · rfl
    · rfl
    · exact decide_eq_false hsender
  exact ⟨0, trivial, ⟨"drone", h.drone⟩, login, hl, by rw [wants, hother]; rfl⟩

/-- Only the drone's connection is dead. -/
def droneDead (s : Server) : Server := { s with sendFails := fun ws => decide (ws = 0) }

/-- The same, where the tables are object literals. -/
def droneDeadLiteral (s : Server) : Server := { droneDead s with proto := objectPrototype }

/-- The drone is removed, and the other unit gets the message. -/
theorem fan_out_exact_iff_pair : ∃ s, Pair "other" s ∧
    ((∃ s', FanOut.all.call [1] false ⟨none, none⟩ (droneDead s) = (.ok (), s') ∧
      FansOut [1] false (FanOut.all.targets (droneDead s) ⟨none, none⟩) (droneDead s) s') ↔
    FanOut.all.Resolves (droneDead s) ∧
      (droneDead s).Removable (FanOut.all.targets (droneDead s) ⟨none, none⟩)) := by
  obtain ⟨s, hs⟩ := pair_of_facts "other" (by decide +kernel)
  exact ⟨s, hs, fan_out_exact_iff (hs.wellKept.of_tables s.proto _) .all ⟨none, none⟩ [1] false⟩

/-- A unit named `hasOwnProperty` keeps the dead drone in their room; and the scoped fan-out throws at
    an account id that names an inherited property. -/
theorem fan_out_inexact :
    (∃ s, Pair "hasOwnProperty" s ∧ (droneDeadLiteral s).WellKept ∧
      ¬ ∃ s', FanOut.all.call [1] false ⟨none, none⟩ (droneDeadLiteral s) = (.ok (), s') ∧
        FansOut [1] false (FanOut.all.targets (droneDeadLiteral s) ⟨none, none⟩)
          (droneDeadLiteral s) s') ∧
    (start {}).WellKept ∧
      (FanOut.accountGroup (some (.str "constructor")) none none).call [1] false ⟨none, none⟩
        (start {}) = (.error .typeError, start {}) := by
  refine ⟨?_, (inOrder_startOver {}).wellKept.of_tables objectPrototype _, rfl⟩
  obtain ⟨s, hs⟩ := pair_of_facts "hasOwnProperty" (by decide +kernel)
  refine ⟨s, hs, hs.wellKept.of_tables objectPrototype _, ?_⟩
  rintro ⟨s', hrun, hfans⟩
  have hfrozen : (droneDeadLiteral s).Frozen 0 := by
    refine ⟨show "hasOwnProperty" ∈ objectPrototype by decide, ?_⟩
    change ((s.groupHeap 0).units.own? "hasOwnProperty").isSome = true
    rw [hs.unit]
    rfl
  exact not_fansOut_of_frozen hrun hs.drone hs.drone_target rfl hfrozen hfans

end Server

end DroneEngage
