import DroneEngage.Rooms
import DroneEngage.StaleClose

/-! Who is listed where.

    Sockets point to their group and groups list their sockets by name; a socket leaves by name. When
    every login carries an account and a sender id, and the tables are read as maps, the two agree in
    every run, a unit is in one room of its account only, and nobody is listed whose connection is
    over. -/

namespace DroneEngage
open Js

namespace Server

open Action

/-! ### Members and their sockets -/

/-- Listed members and the properties of their sockets agree, but for the connection of `gone`, which
    is just being closed. -/
structure Tidy (gone : Option SocketId) (s : Server) : Prop where
  back : ∀ {g k ws}, (s.groupHeap g).units.own? k = some ws → (s.sockets ws).group = some g
  listed : ∀ {ws g}, (s.sockets ws).group = some g →
    ∃ k, propKey (s.sockets ws).name = .ok k ∧ (s.groupHeap g).units.own? k = some ws
  once : ∀ {g h k ws v}, (s.groupHeap g).units.own? k = some ws →
    (s.groupHeap h).units.own? k = some v →
    (s.groupHeap g).parentAccount = (s.groupHeap h).parentAccount → g = h
  ids : ∀ {g k ws login}, (s.groupHeap g).units.own? k = some ws →
    (s.sockets ws).loginRequest = some login →
    isNullish login.accountID = false ∧ isNullish login.senderID = false
  alive : ∀ {g k ws}, (s.groupHeap g).units.own? k = some ws → gone ≠ some ws →
    (s.sockets ws).readyState ≠ .closed
  unmarked : ∀ {g k ws}, (s.groupHeap g).units.own? k = some ws →
    (s.sockets ws).terminated = false ∧ (s.sockets ws).listening = true
  marked : ∀ {ws}, (s.sockets ws).terminated = true → (s.sockets ws).loginRequest ≠ none

/-- The rooms are in order; `fresh` is a group that waits for its first member. -/
structure InOrder (fresh : Option GroupId) (gone : Option SocketId) (s : Server) : Prop where
  maps : s.proto = []
  consistent : s.Consistent
  rooted : s.Rooted fresh
  tidy : s.Tidy gone

section

variable {gone : Option SocketId} {s s' : Server} {g : GroupId} {k : String} {ws : SocketId}

theorem not_frozen_of_maps (h : s.proto = []) (g : GroupId) : ¬ s.Frozen g := by
  rintro ⟨hmem, -⟩
  rw [h] at hmem
  exact absurd hmem (by simp)

theorem assignable_of_maps (h : s.proto = []) (k : String) : Table.Assignable s.proto k := by
  rintro ⟨-, hmem⟩
  rw [h] at hmem
  exact absurd hmem (by simp)

theorem inOrder_startOver (config : Config) : (startOver [] config).InOrder none none := by
  refine ⟨rfl, consistent_startOver [] config, rooted_startOver [] config, ?_⟩
  refine ⟨fun h => absurd h (by simp), fun h => absurd h (by simp [startOver]),
    fun h => absurd h (by simp), fun h => absurd h (by simp), fun h => absurd h (by simp),
    fun h => absurd h (by simp), fun h => absurd h (by simp [startOver])⟩

/-- A listed socket bears the name it is listed under. -/
theorem InOrder.named {fresh : Option GroupId} (h : s.InOrder fresh gone)
    (hu : (s.groupHeap g).units.own? k = some ws) : propKey (s.sockets ws).name = .ok k := by
  obtain ⟨login, hl, hk, -⟩ := h.consistent.member g k ws hu
  rcases h.consistent.named g k ws login hu hl with hname | hf
  · rw [hname]; exact hk
  · exact absurd hf (not_frozen_of_maps h.maps g)

theorem Tidy.quiet (h : s.Tidy gone) (hs : s.Consistent) (hq : s.Quiet s') : s'.Tidy gone := by
  have hold : ∀ {g k ws}, (s.groupHeap g).units.own? k = some ws →
      (s.sockets ws).SameMember (s'.sockets ws) := by
    intro g k ws hu
    rcases hq.sockets ws with hsame | ⟨hle, -⟩
    · exact hsame
    · obtain ⟨login, hl, -⟩ := hs.member g k ws hu
      rw [hs.fresh ws hle] at hl
      exact absurd hl (by simp)
  refine ⟨fun hu => ?_, fun {ws g} hg => ?_, fun hu hv => ?_, fun hu hl => ?_, fun hu hne => ?_,
    fun hu => ?_, fun {ws} ht => ?_⟩
  · rw [hq.groupHeap] at hu
    rw [(hold hu).group]; exact h.back hu
  · rcases hq.sockets ws with hsame | ⟨-, hblank⟩
    · rw [hsame.group] at hg
      rw [hsame.name, hq.groupHeap]; exact h.listed hg
    · rw [hblank.group] at hg; exact absurd hg (by simp)
  · rw [hq.groupHeap] at hu hv ⊢
    exact h.once hu hv
  · rw [hq.groupHeap] at hu
    rw [(hold hu).loginRequest] at hl
    exact h.ids hu hl
  · rw [hq.groupHeap] at hu
    exact fun hc => h.alive hu hne ((hold hu).closed.mp hc)
  · rw [hq.groupHeap] at hu
    exact ⟨(hold hu).terminated.trans (h.unmarked hu).1, (hold hu).listening (h.unmarked hu).2⟩
  · rcases hq.sockets ws with hsame | ⟨-, hblank⟩
    · rw [hsame.terminated] at ht
      rw [hsame.loginRequest]; exact h.marked ht
    · rw [hblank.terminated] at ht; exact absurd ht (by simp)

theorem InOrder.quiet {fresh : Option GroupId} (h : s.InOrder fresh gone) (hq : s.Quiet s') :
    s'.InOrder fresh gone :=
  ⟨hq.proto.trans h.maps, h.consistent.quiet hq,
    h.rooted.of_tables hq.groupHeap hq.accountHeap hq.accounts, h.tidy.quiet h.consistent hq⟩

/-- A member that leaves is listed nowhere afterwards. -/
theorem Tidy.unlisted_of_removes (h : s.Tidy gone) (hs : s.Consistent) (hr : Removes g k ws s s') :
    s'.Unlisted ws := by
  intro h' m hu
  have hu₀ := hr.shrinks.units h' m ws hu
  obtain rfl : g = h' := Option.some.inj ((h.back hr.was).symm.trans (h.back hu₀))
  obtain ⟨login, hl, hk, -⟩ := hs.member g k ws hr.was
  obtain ⟨login', hl', hm, -⟩ := hs.member g m ws hu₀
  obtain rfl : login = login' := Option.some.inj (hl.symm.trans hl')
  obtain rfl : k = m := Except.ok.inj (hk.symm.trans hm)
  rw [hr.units, if_pos ⟨rfl, rfl⟩] at hu
  exact absurd hu (by simp)

theorem Tidy.removes (h : s.Tidy gone) (hs : s.Consistent) (hr : Removes g k ws s s') :
    s'.Tidy gone := by
  have hout := h.unlisted_of_removes hs hr
  have hwas : ∀ {h' m v}, (s'.groupHeap h').units.own? m = some v →
      (s.groupHeap h').units.own? m = some v ∧ s'.sockets v = s.sockets v := by
    intro h' m v hu
    refine ⟨hr.shrinks.units _ _ _ hu, hr.others v ?_⟩
    rintro rfl
    exact hout h' m hu
  refine ⟨fun hu => ?_, fun {v h'} hg => ?_, fun hu hv hp => ?_, fun hu hl => ?_, fun hu hne => ?_,
    fun hu => ?_, fun {v} ht => ?_⟩
  · rw [(hwas hu).2]; exact h.back (hwas hu).1
  · have hne : v ≠ ws := by
      rintro rfl
      rw [hr.group] at hg
      exact absurd hg (by simp)
    rw [hr.others v hne] at hg ⊢
    obtain ⟨m, hm, hu⟩ := h.listed hg
    refine ⟨m, hm, ?_⟩
    rw [hr.units, if_neg]
    · exact hu
    · rintro ⟨rfl, rfl⟩
      exact hne (Option.some.inj (hu.symm.trans hr.was))
  · rw [hr.shrinks.parentAccount, hr.shrinks.parentAccount] at hp
    exact h.once (hwas hu).1 (hwas hv).1 hp
  · rw [(hwas hu).2] at hl; exact h.ids (hwas hu).1 hl
  · rw [(hwas hu).2]; exact h.alive (hwas hu).1 hne
  · rw [(hwas hu).2]; exact h.unmarked (hwas hu).1
  · by_cases hv : v = ws
    · subst hv
      obtain ⟨login, hl, -⟩ := hs.member g k v hr.was
      rw [(hr.shrinks.sockets v).loginRequest, hl]
      simp
    · rw [hr.others v hv] at ht ⊢
      exact h.marked ht

theorem InOrder.removes {fresh : Option GroupId} (h : s.InOrder fresh gone)
    (hr : Removes g k ws s s') : s'.InOrder fresh gone :=
  ⟨hr.shrinks.proto.trans h.maps, h.consistent.shrinks hr.shrinks, h.rooted.removes hr,
    h.tidy.removes h.consistent hr⟩

/-- What happens to a socket in no room does not matter to the rooms. -/
theorem Tidy.setSocket {f : Socket → Socket} (h : s.Tidy gone) (hout : s.Unlisted ws)
    (hgroup : (f (s.sockets ws)).group = none)
    (hmark : (f (s.sockets ws)).terminated = true → (f (s.sockets ws)).loginRequest ≠ none) :
    Tidy gone (setSocket ws f s) := by
  have hold : ∀ {g k v}, (s.groupHeap g).units.own? k = some v →
      (Server.setSocket ws f s).sockets v = s.sockets v := fun hu =>
    setSocket_ne _ _ _ _ (hout.ne_of_listed hu)
  refine ⟨fun hu => ?_, fun {v g} hg => ?_, fun hu hv => h.once hu hv, fun hu hl => ?_,
    fun hu hne => ?_, fun hu => ?_, fun {v} ht => ?_⟩
  · rw [hold hu]; exact h.back hu
  · rw [setSocket_sockets] at hg ⊢
    split at hg
    · rw [hgroup] at hg; exact absurd hg (by simp)
    · next hv => rw [if_neg hv]; exact h.listed hg
  · rw [hold hu] at hl; exact h.ids hu hl
  · rw [hold hu]; exact h.alive hu hne
  · rw [hold hu]; exact h.unmarked hu
  · rw [setSocket_sockets] at ht ⊢
    split at ht
    · next hv => rw [if_pos hv]; exact hmark ht
    · next hv => rw [if_neg hv]; exact h.marked ht

/-! ### The ways to leave -/

theorem quiet_terminateSocket (ws : SocketId) (s : Server) :
    s.Quiet ((terminateSocket ws).final s) :=
  { quiet_setSocket (sameMember_closing (s.sockets ws)) with }

theorem quiet_send (ws : SocketId) (message : Bytes) (isBinary : Bool) (s : Server) :
    s.Quiet ((send ws message isBinary).final s) := by
  rw [send, final_modify_bind, final_get_bind]
  split <;> exact quiet_emit _ s

/-- A socket with a room is found there by its name. -/
theorem InOrder.found {fresh : Option GroupId} (h : s.InOrder fresh gone)
    (hg : (s.sockets ws).group = some g) : ∃ k,
    s.memberNamed g (s.sockets ws).name = .ok (some (k, ws)) ∧
      (s.groupHeap g).units.own? k = some ws := by
  obtain ⟨k, hk, hu⟩ := h.tidy.listed hg
  exact ⟨k, by rw [memberNamed_of_ok (not_frozen_of_maps h.maps g) hk, hu]; rfl, hu⟩

theorem InOrder.removeDead (h : s.InOrder none gone) (ws : SocketId) :
    ((handleOrphanSocket ws).final s).InOrder none gone := by
  rcases handleOrphanSocket_final ws s with ⟨-, hfin⟩ | ⟨g, hg, hfin⟩
  · rw [hfin]; exact h
  · obtain ⟨k, hfound, hu⟩ := h.found hg
    have hrem := deleteMemberByName_removes h.consistent.groupsKeyed (h.rooted.enrolled hu) hfound
      false
    have hshrinks := shrinks_rename (onlyShrinks_deleteMemberByName g (s.sockets ws).name false s) hg
      (struck_deleteMemberByName g (s.sockets ws).name false s)
    rw [hfin]
    generalize (deleteMemberByName g (s.sockets ws).name false).final s = t at hrem hshrinks ⊢
    have hrenamed : InOrder none gone (setSocket ws (fun w => { w with name := none }) t) :=
      ⟨hshrinks.proto.trans h.maps, h.consistent.shrinks hshrinks,
        (h.rooted.removes hrem).of_tables rfl rfl rfl, (h.tidy.removes h.consistent hrem).setSocket
          (h.tidy.unlisted_of_removes h.consistent hrem) hrem.group fun ht =>
            (h.tidy.removes h.consistent hrem).marked ht⟩
    exact hrenamed.quiet (quiet_terminateSocket ws _)

theorem InOrder.logout (h : s.InOrder none gone) (ws : SocketId) :
    ((delMemberFromGroup ws).final s).InOrder none gone := by
  rw [delMemberFromGroup_final]
  cases hg : (s.sockets ws).group with
  | none => exact h
  | some g =>
    obtain ⟨k, hfound, hu⟩ := h.found hg
    obtain ⟨login, hl, -, -⟩ := h.consistent.member g k ws hu
    have hname : (s.sockets ws).name = login.senderID :=
      (h.consistent.named g k ws login hu hl).resolve_right (not_frozen_of_maps h.maps g)
    have hnull : isNullish (s.sockets ws).name = false := by rw [hname]; exact (h.tidy.ids hu hl).2
    rw [hnull]
    exact h.removes
      (deleteMemberByName_removes h.consistent.groupsKeyed (h.rooted.enrolled hu) hfound false)

theorem InOrder.removesNamed {a : AccountId} {v : Val} (h : s.InOrder none gone)
    (hr : Relation.ReflTransGen (RemovesNamed a v) s s') : s'.InOrder none gone := by
  induction hr with
  | refl => exact h
  | tail _ hstep ih =>
    obtain ⟨g, k, ws, -, -, hrem⟩ := hstep
    exact ih.removes hrem

theorem shrinks_of_removesNamed {a : AccountId} {v : Val}
    (hr : Relation.ReflTransGen (RemovesNamed a v) s s') :
    s.Shrinks s' ∧ s'.accounts = s.accounts := by
  induction hr with
  | refl => exact ⟨.refl s, rfl⟩
  | tail _ hstep ih =>
    obtain ⟨g, k, ws, -, -, hrem⟩ := hstep
    exact ⟨ih.1.trans hrem.shrinks, hrem.accounts.trans ih.2⟩

/-- After a removal by account and name, no room of the account lists the name. -/
theorem InOrder.delMember (h : s.InOrder none gone) (login : LoginRequest) (terminate : Bool) :
    ((delMemberFromAccountByName (some login) terminate).final s).InOrder none gone ∧
    (isNullish login.accountID = false → isNullish login.senderID = false → ∀ g k,
      propKey login.senderID = .ok k → SameId (s.accountOf g).accountID login.accountID →
      (((delMemberFromAccountByName (some login) terminate).final s).groupHeap g).units.own? k
        = none) := by
  rcases delMemberFromAccountByName_cases h.consistent h.rooted login terminate with
    ⟨hfin, hwhy⟩ | ⟨ka, a, s₁, hka, ha, hrem, hstruck, hfin⟩
  · rw [hfin]
    refine ⟨h, fun ha hn g k hk hsame => ?_⟩
    cases hu : (s.groupHeap g).units.own? k with
    | none => rfl
    | some v =>
      obtain ⟨l, hl, hrow⟩ := h.rooted.advertised hu
      rcases hwhy with hwhy | hwhy | hwhy
      · rw [ha] at hwhy; exact absurd hwhy (by simp)
      · rw [hn] at hwhy; exact absurd hwhy (by simp)
      · rw [hwhy l (hsame.key hl)] at hrow; exact absurd hrow (by simp)
  · obtain ⟨hshrinks, haccounts⟩ := shrinks_of_removesNamed hrem
    have h₁ := h.removesNamed hrem
    have hout : ∀ g k, propKey login.senderID = .ok k →
        SameId (s.accountOf g).accountID login.accountID → (s₁.groupHeap g).units.own? k = none := by
      intro g k hk hsame
      cases hu : (s₁.groupHeap g).units.own? k with
      | none => rfl
      | some v =>
        have hu₀ := hshrinks.units g k v hu
        obtain ⟨l, hl, hrow⟩ := h.rooted.advertised hu₀
        obtain ⟨m, -, hgroup⟩ := h.rooted.enrolled hu₀
        obtain rfl : ka = l := Except.ok.inj (hka.symm.trans (hsame.key hl))
        obtain rfl : a = (s.groupHeap g).parentAccount := Option.some.inj (ha.symm.trans hrow)
        rcases hstruck m g hgroup k hk with hnone | hf
        · rw [hu] at hnone; exact absurd hnone (by simp)
        · exact absurd hf (not_frozen_of_maps h₁.maps g)
    rw [hfin]
    split
    · next hempty =>
      refine ⟨⟨h₁.maps, ?_, h₁.rooted.deleteAccount (haccounts ▸ ha) hempty, ?_⟩,
        fun _ _ g k hk hsame => hout g k hk hsame⟩
      · exact h₁.consistent.shrinks (shrinks_deleteAccount ka s₁)
      · exact ⟨h₁.tidy.back, h₁.tidy.listed, h₁.tidy.once, h₁.tidy.ids, h₁.tidy.alive,
          h₁.tidy.unmarked, h₁.tidy.marked⟩
    · exact ⟨h₁, fun _ _ g k hk hsame => hout g k hk hsame⟩

/-- The removal touches only sockets that were listed. -/
theorem InOrder.delMember_sockets (h : s.InOrder none gone) (login : LoginRequest) (terminate : Bool)
    (hout : s.Unlisted ws) :
    ((delMemberFromAccountByName (some login) terminate).final s).sockets ws = s.sockets ws := by
  rcases delMemberFromAccountByName_cases h.consistent h.rooted login terminate with
    ⟨hfin, -⟩ | ⟨ka, a, s₁, -, -, hrem, -, hfin⟩
  · rw [hfin]
  · have hsame : s₁.sockets ws = s.sockets ws ∧ s₁.Unlisted ws := by
      clear hfin
      induction hrem with
      | refl => exact ⟨rfl, hout⟩
      | tail _ hstep ih =>
        obtain ⟨g, k, v, -, -, hrem⟩ := hstep
        have hne : ws ≠ v := by
          rintro rfl
          exact ih.2 g k hrem.was
        exact ⟨(hrem.others ws hne).trans ih.1, hrem.shrinks.unlisted ih.2⟩
    rw [hfin]
    split
    · exact hsame.1
    · exact hsame.1

/-! ### The way in -/

section

variable {login : LoginRequest} {w : SocketId} {t : Server}

/-- Who is listed afterwards. -/
theorem Opened.joined (hopen : Opened login g s t) (hout : s.Unlisted w) {h : GroupId} {m : String}
    {v : SocketId}
    (hv : ((join g login.senderID k w t).groupHeap h).units.own? m = some v) :
    (m = k ∧ v = w ∧ h = g) ∨ v ≠ w ∧ (s.groupHeap h).units.own? m = some v := by
  refine (join_units hv).imp id fun hv => ?_
  have hold := (hopen.units h m).symm.trans hv
  refine ⟨?_, hold⟩
  rintro rfl
  exact hout h m hold

/-- A name that is free in every room of the id is free in the whole account. -/
theorem Opened.free (hopen : Opened login g s t) (hs : s.Consistent)
    (hfree : ∀ h, SameId (s.accountOf h).accountID login.accountID →
      (s.groupHeap h).units.own? k = none)
    {h : GroupId} (hp : (t.groupHeap h).parentAccount = (t.groupHeap g).parentAccount)
    (v : SocketId) : (s.groupHeap h).units.own? k ≠ some v := by
  intro hv
  obtain ⟨login', hl', -, hroom⟩ := hopen.consistent.member h k v ((hopen.units h k).trans hv)
  have hsame : SameId (t.accountOf h).accountID login.accountID := by
    rw [accountOf, hp]; exact hopen.room.2.2
  obtain ⟨l', hl'', -, hroom'⟩ := hs.member h k v hv
  rw [hopen.sockets] at hl'
  obtain rfl : login' = l' := Option.some.inj (hl'.symm.trans hl'')
  have hnone := hfree h (hroom'.2.2.trans (hroom.2.2.symm.trans hsame))
  rw [hv] at hnone
  exact absurd hnone (by simp)

theorem Tidy.join (h : s.Tidy none) (hs : s.Consistent)
    (hl : (s.sockets w).loginRequest = some login) (hout : s.Unlisted w)
    (hids : isNullish login.accountID = false ∧ isNullish login.senderID = false)
    (halive : (s.sockets w).readyState ≠ .closed) (hlisten : (s.sockets w).listening = true)
    (hmark : (s.sockets w).terminated = false) (hk : propKey login.senderID = .ok k)
    (hfree : ∀ g, SameId (s.accountOf g).accountID login.accountID →
      (s.groupHeap g).units.own? k = none)
    (hopen : Opened login g s t) (hassign : Table.Assignable t.proto k)
    (hu : (s.groupHeap g).units.own? k = none) : (join g login.senderID k w t).Tidy none := by
  have hself : (Server.join g login.senderID k w t).sockets w =
      { s.sockets w with name := login.senderID, group := some g } := by
    rw [join_sockets_self, hopen.sockets]
  have hothers : ∀ v, v ≠ w → (Server.join g login.senderID k w t).sockets v = s.sockets v := by
    intro v hv
    rw [join_sockets_ne hv, hopen.sockets]
  have hut : (t.groupHeap g).units.own? k = none := (hopen.units g k).trans hu
  refine ⟨fun {g' m v} hv => ?_, fun {v g'} hg => ?_, fun {g' h' m v v'} hv hv' hp => ?_,
    fun {g' m v login'} hv hl' => ?_, fun {g' m v} hv _ => ?_, fun {g' m v} hv => ?_,
    fun {v} ht => ?_⟩
  · rcases hopen.joined hout hv with ⟨-, rfl, rfl⟩ | ⟨hne, hv⟩
    · rw [hself]
    · rw [hothers v hne]; exact h.back hv
  · by_cases hv : v = w
    · subst hv
      rw [hself] at hg ⊢
      obtain rfl := Option.some.inj hg
      exact ⟨k, hk, join_units_self hassign⟩
    · rw [hothers v hv] at hg ⊢
      obtain ⟨m, hm, hu'⟩ := h.listed hg
      exact ⟨m, hm, join_units_keep hut ((hopen.units g' m).trans hu')⟩
  · rw [join_parentAccount, join_parentAccount] at hp
    rcases hopen.joined hout hv with ⟨rfl, rfl, rfl⟩ | ⟨-, hold⟩
    · rcases hopen.joined hout hv' with ⟨-, -, rfl⟩ | ⟨-, hv'⟩
      · rfl
      · exact absurd hv' (hopen.free hs hfree hp.symm v')
    · rcases hopen.joined hout hv' with ⟨rfl, rfl, rfl⟩ | ⟨-, hold'⟩
      · exact absurd hold (hopen.free hs hfree hp v)
      · rw [hopen.parents hold, hopen.parents hold'] at hp
        exact h.once hold hold' hp
  · rcases hopen.joined hout hv with ⟨-, rfl, -⟩ | ⟨hne, hv⟩
    · rw [hself] at hl'
      obtain rfl : login = login' := Option.some.inj (hl.symm.trans hl')
      exact hids
    · rw [hothers v hne] at hl'
      exact h.ids hv hl'
  · rcases hopen.joined hout hv with ⟨-, rfl, -⟩ | ⟨hne, hv⟩
    · rw [hself]; exact halive
    · rw [hothers v hne]; exact h.alive hv (by simp)
  · rcases hopen.joined hout hv with ⟨-, rfl, -⟩ | ⟨hne, hv⟩
    · rw [hself]; exact ⟨hmark, hlisten⟩
    · rw [hothers v hne]; exact h.unmarked hv
  · by_cases hv : v = w
    · subst hv
      rw [hself, hl]; simp
    · rw [hothers v hv] at ht ⊢
      exact h.marked ht

/-- The socket joins a room in which, and in whose account, nobody has its name. -/
theorem InOrder.join (h : s.InOrder none none)
    (hl : (s.sockets w).loginRequest = some login) (hout : s.Unlisted w)
    (hids : isNullish login.accountID = false ∧ isNullish login.senderID = false)
    (halive : (s.sockets w).readyState ≠ .closed) (hlisten : (s.sockets w).listening = true)
    (hmark : (s.sockets w).terminated = false) (hk : propKey login.senderID = .ok k)
    (hfree : ∀ g, SameId (s.accountOf g).accountID login.accountID →
      (s.groupHeap g).units.own? k = none)
    (hopen : Opened login g s t) (hu : (s.groupHeap g).units.own? k = none) :
    (join g login.senderID k w t).InOrder none none := by
  have hmaps : t.proto = [] := hopen.proto.trans h.maps
  have hassign := assignable_of_maps hmaps k
  have hlt : (t.sockets w).loginRequest = some login := by rw [hopen.sockets]; exact hl
  exact ⟨hmaps, hopen.consistent.join hopen.room hk hlt (hopen.unlisted hout),
    hopen.rooted_join hu hassign _ w,
    h.tidy.join h.consistent hl hout hids halive hlisten hmark hk hfree hopen hassign hu⟩

end

theorem InOrder.openAccount (h : s.InOrder none gone) {id : Val} (hk : propKey id = .ok k)
    (ha : s.accounts.own? k = none) : (openAccount id k s).InOrder none gone :=
  ⟨h.maps, h.consistent.openAccount hk, h.rooted.openAccount h.consistent ha, h.tidy.back,
    h.tidy.listed, h.tidy.once, h.tidy.ids, h.tidy.alive, h.tidy.unmarked, h.tidy.marked⟩

theorem InOrder.addMember (h : s.InOrder none none) {login : LoginRequest} {w : SocketId}
    (hl : (s.sockets w).loginRequest = some login) (hout : s.Unlisted w)
    (hids : isNullish login.accountID = false ∧ isNullish login.senderID = false)
    (halive : (s.sockets w).readyState ≠ .closed) (hlisten : (s.sockets w).listening = true)
    (hmark : (s.sockets w).terminated = false) (hk : propKey login.senderID = .ok k)
    (hfree : ∀ g, SameId (s.accountOf g).accountID login.accountID →
      (s.groupHeap g).units.own? k = none) :
    ((addMemberToAccountGroup w).final s).InOrder none none := by
  cases hka : propKey login.accountID with
  | error e =>
    rcases addMemberToAccountGroup_final w s with hfin | ⟨login', l, hl', hka', -⟩
    · rw [hfin]; exact h
    · rw [← Option.some.inj (hl.symm.trans hl'), hka] at hka'; exact absurd hka' (by simp)
  | ok ka =>
    cases hkg : propKey login.groupID with
    | error e =>
      -- a new account may be left without a group
      have hstays : ∀ a t, (addMemberToGroup a login.senderID login.groupID w).final t = t := by
        intro a t
        rcases addMemberToGroup_final a login.senderID login.groupID w t with hfin | ⟨l, hl, -⟩
        · exact hfin
        · rw [hkg] at hl; exact absurd hl (by simp)
      rcases addMemberToAccountGroup_final w s with hfin | ⟨login', l, hl', hl'', hcases⟩
      · rw [hfin]; exact h
      · obtain rfl : login = login' := Option.some.inj (hl.symm.trans hl')
        rcases hcases with ⟨a, -, hfin⟩ | ⟨ha, hfin⟩
        · rw [hfin, hstays]; exact h
        · rw [hfin, hstays]; exact h.openAccount hl'' ha
    | ok kg =>
      rcases addMemberToAccountGroup_joins h.consistent h.rooted hl hka hkg hk
        (assignable_of_maps h.maps ka) (assignable_of_maps h.maps kg) with
        hfin | ⟨g, t, hopen, hu, hfin⟩
      · rw [hfin]; exact h
      · rw [hfin]
        exact h.join hl hout hids halive hlisten hmark hk hfree hopen hu

/-- What holds with the login record, after the kick-out and in the room holds in the end. -/
theorem accept_keeps {P : Server → Prop} (J : JsonCodec) {login : LoginRequest} {w : SocketId}
    (ht : setSocket w (fun v => { v with loginRequest := some login, hasStatus := true }) s = t)
    (h : P t)
    (hroom : ∀ k u, propKey login.senderID = .ok k →
      (delMemberFromAccountByName (some login) true).final
        { t with activeSenderIDsList := t.activeSenderIDsList.assign t.proto k w } = u →
      P u ∧ P ((addMemberToAccountGroup w).final u))
    (hquiet : ∀ {u u' : Server}, u.Quiet u' → P u → P u') :
    P ((_acceptConnection J login w).final s) := by
  rw [_acceptConnection, final_modify_bind, ht]
  cases hk : propKey login.senderID with
  | error e =>
    have hrun : addActiveSenderIDList login.senderID w t = (.error e, t) := by
      rw [addActiveSenderIDList, hk]; rfl
    rw [final, run_bind_of_error hrun]
    exact h
  | ok k =>
    rw [final_bind_of_ok (addActiveSenderIDList_run hk w t)]
    have hsteps := hroom k _ hk rfl
    refine final_bind_leads (P := fun u => P u ∧ P ((addMemberToAccountGroup w).final u)) hsteps
      (fun _ hu => hu.1) fun _ u hu => ?_
    exact final_bind_keeps hu.2 fun _ u' hu' => hquiet (quiet_send w _ _ u') hu'

/-- An acceptance of a login that carries its ids. -/
theorem InOrder.accept (h : s.InOrder none none) (J : JsonCodec) {login : LoginRequest}
    {w : SocketId} (hw : s.Ready w)
    (hids : isNullish login.accountID = false ∧ isNullish login.senderID = false) :
    ((_acceptConnection J login w).final s).InOrder none none := by
  have hout := h.consistent.unlisted hw.loginRequest
  have hmark : (s.sockets w).terminated = false := by
    cases ht : (s.sockets w).terminated with
    | false => rfl
    | true => exact absurd hw.loginRequest (h.tidy.marked ht)
  have hgroup : (s.sockets w).group = none := by
    cases hg : (s.sockets w).group with
    | none => rfl
    | some g =>
      obtain ⟨l, hl, -⟩ := h.consistent.room w g hg
      rw [hw.loginRequest] at hl
      exact absurd hl (by simp)
  -- the login record
  have h₁ : (setSocket w (fun v => { v with loginRequest := some login, hasStatus := true })
      s).InOrder none none :=
    ⟨h.maps, h.consistent.setLogin hw.loginRequest hw.authFrameHandler hw.known,
      h.rooted.of_tables rfl rfl rfl, h.tidy.setSocket hout hgroup fun _ => by simp⟩
  have hself : (setSocket w (fun v => { v with loginRequest := some login, hasStatus := true })
      s).sockets w = { s.sockets w with loginRequest := some login, hasStatus := true } :=
    setSocket_self ..
  have hout₁ : (setSocket w (fun v => { v with loginRequest := some login, hasStatus := true })
      s).Unlisted w := hout
  generalize ht : setSocket w (fun v => { v with loginRequest := some login, hasStatus := true }) s =
    t at h₁ hself hout₁
  refine accept_keeps J ht h₁ (fun k u hk hu => ?_) fun hq h => h.quiet hq
  have h₂ : InOrder none none
      { t with activeSenderIDsList := t.activeSenderIDsList.assign t.proto k w } :=
    ⟨h₁.maps, h₁.consistent.activate hk (by rw [hself]), h₁.rooted.of_tables rfl rfl rfl,
      h₁.tidy.back, h₁.tidy.listed, h₁.tidy.once, h₁.tidy.ids, h₁.tidy.alive, h₁.tidy.unmarked,
      h₁.tidy.marked⟩
  -- the kick-out
  obtain ⟨h₃, hfree⟩ := h₂.delMember login true
  have hsame := h₂.delMember_sockets login true hout₁
  have hshrinks := onlyShrinks_delMemberFromAccountByName (some login) true
    { t with activeSenderIDsList := t.activeSenderIDsList.assign t.proto k w }
  rw [hu] at h₃ hfree hsame hshrinks
  have hid : ∀ g, (u.accountOf g).accountID = (t.accountOf g).accountID := fun g => by
    rw [accountOf, hshrinks.parentAccount, hshrinks.accountID]; rfl
  change _ = t.sockets w at hsame
  rw [hself] at hsame
  exact ⟨h₃, h₃.addMember (by rw [hsame] : (u.sockets w).loginRequest = some login)
    (hshrinks.unlisted hout₁) hids (by rw [hsame]; exact hw.alive)
    (by rw [hsame]; exact hw.listening) (by rw [hsame]; exact hmark) hk
    fun g hg => hfree hids.1 hids.2 g k hk (hid g ▸ hg)⟩

/-! ### The close event -/

/-- The rooms and the sockets are what they were. -/
structure SameRooms (s s' : Server) : Prop where
  proto : s'.proto = s.proto
  accounts : s'.accounts = s.accounts
  accountHeap : s'.accountHeap = s.accountHeap
  groupHeap : s'.groupHeap = s.groupHeap
  sockets : s'.sockets = s.sockets

instance : IsPreorder Server SameRooms where
  refl := fun _ => ⟨rfl, rfl, rfl, rfl, rfl⟩
  trans := fun _ _ _ h h' => ⟨h'.proto.trans h.proto, h'.accounts.trans h.accounts,
    h'.accountHeap.trans h.accountHeap, h'.groupHeap.trans h.groupHeap,
    h'.sockets.trans h.sockets⟩

theorem sameRooms_emit (e : Effect) : Moves SameRooms (modify (emit e)) :=
  moves_modify fun _ => ⟨rfl, rfl, rfl, rfl, rfl⟩

theorem sameRooms_forgetSender (login : Option LoginRequest) :
    Moves SameRooms (forgetSender login) := by
  cases login with
  | none => exact moves_pure ()
  | some login =>
    refine moves_bind (moves_ite (fun _ => moves_pure ()) fun _ => moves_bind (moves_ofExcept _)
      fun _ => moves_modify fun _ => ⟨rfl, rfl, rfl, rfl, rfl⟩) fun _ => ?_
    exact moves_bind (sameRooms_emit _) fun _ => moves_bind moves_get fun _ =>
      moves_when fun _ => sameRooms_emit _

theorem sameRooms_udpProxyCommand (J : JsonCodec) (jmsg : Json) (ws : SocketId) :
    Moves SameRooms (udpProxyCommand J jmsg ws) :=
  moves_udpProxyCommand (fun _ => moves_modify fun _ => ⟨rfl, rfl, rfl, rfl, rfl⟩) J
    (moves_send sameRooms_emit) jmsg

/-- The handler of a close event does nothing for a marked socket; otherwise the unit is removed from
    its account, and what follows leaves the rooms alone. -/
theorem onWsClose_final (ws : SocketId) (s : Server) :
    (s.sockets ws).terminated = true ∧ (onWsClose ws).final s = s ∨
    (s.sockets ws).terminated = false ∧
      SameRooms ((delMemberFromAccountByName (s.sockets ws).loginRequest true).final s)
        ((onWsClose ws).final s) := by
  rw [onWsClose, final_get_bind]
  cases ht : (s.sockets ws).terminated with
  | true => exact Or.inl ⟨rfl, rfl⟩
  | false =>
    right
    refine ⟨rfl, ?_⟩
    rw [if_neg Bool.false_ne_true]
    rcases hrun : delMemberFromAccountByName (s.sockets ws).loginRequest true s with ⟨e | u, s₁⟩
    · rw [final, final, run_bind_of_error hrun, hrun]
      exact refl_of SameRooms s₁
    · rw [final, hrun, final_bind_of_ok hrun]
      exact moves_bind (moves_when fun _ => moves_bind (moves_closeUDPSocket
        (fun _ => moves_modify fun _ => ⟨rfl, rfl, rfl, rfl, rfl⟩) _) fun _ => moves_pure ())
        (fun _ => sameRooms_forgetSender _) s₁

theorem InOrder.sameRooms (h : s.InOrder none gone) (hsame : SameRooms s s')
    (hs' : s'.Consistent) : s'.InOrder none gone := by
  refine ⟨hsame.proto.trans h.maps, hs',
    h.rooted.of_tables hsame.groupHeap hsame.accountHeap hsame.accounts, ?_⟩
  obtain ⟨h₁, h₂, h₃, h₄, h₅, h₆, h₇⟩ := h.tidy
  rw [← hsame.groupHeap] at h₁ h₂ h₃ h₄ h₅ h₆
  rw [← hsame.sockets] at h₁ h₂ h₄ h₅ h₆ h₇
  exact ⟨h₁, h₂, h₃, h₄, h₅, h₆, h₇⟩

/-- The connection of a socket that is listed nowhere may be over. -/
theorem InOrder.gone_unlisted (h : s.InOrder none (some ws)) (hout : s.Unlisted ws) :
    s.InOrder none none := by
  obtain ⟨h₁, h₂, h₃, h₄, h₅, h₆, h₇⟩ := h.tidy
  refine ⟨h.maps, h.consistent, h.rooted, h₁, h₂, h₃, h₄, fun hu _ => h₅ hu ?_, h₆, h₇⟩
  rintro ⟨⟩
  exact hout _ _ hu

theorem InOrder.closed (h : s.InOrder none none) (ws : SocketId) :
    (setSocket ws (fun w => { w with readyState := .closed }) s).InOrder none (some ws) := by
  have hsets : ∀ v, v ≠ ws →
      (setSocket ws (fun w => { w with readyState := .closed }) s).sockets v = s.sockets v :=
    fun v hv => setSocket_ne _ _ _ _ hv
  have hself : (setSocket ws (fun w => { w with readyState := .closed }) s).sockets ws =
      { s.sockets ws with readyState := .closed } := setSocket_self ..
  refine ⟨h.maps, h.consistent.shrinks (shrinks_setSocket socketShrinks_closed (fun _ => rfl) s),
    h.rooted.of_tables rfl rfl rfl, fun {g k v} hu => ?_, fun {v g} hg => ?_,
    fun hu hv => h.tidy.once hu hv, fun {g k v login} hu hl => ?_, fun {g k v} hu hne => ?_,
    fun {g k v} hu => ?_, fun {v} ht => ?_⟩
  · have hback := h.tidy.back hu
    by_cases hv : v = ws
    · subst hv; rw [hself]; exact hback
    · rw [hsets v hv]; exact hback
  · by_cases hv : v = ws
    · subst hv; rw [hself] at hg ⊢; exact h.tidy.listed hg
    · rw [hsets v hv] at hg ⊢; exact h.tidy.listed hg
  · by_cases hv : v = ws
    · subst hv; rw [hself] at hl; exact h.tidy.ids hu hl
    · rw [hsets v hv] at hl; exact h.tidy.ids hu hl
  · have hv : v ≠ ws := by rintro rfl; exact hne rfl
    rw [hsets v hv]; exact h.tidy.alive hu (by simp)
  · by_cases hv : v = ws
    · subst hv; rw [hself]; exact h.tidy.unmarked hu
    · rw [hsets v hv]; exact h.tidy.unmarked hu
  · by_cases hv : v = ws
    · subst hv; rw [hself] at ht ⊢; exact h.tidy.marked ht
    · rw [hsets v hv] at ht ⊢; exact h.tidy.marked ht

/-- The close event takes the socket out of its room. -/
theorem InOrder.close (h : s.InOrder none none) (ws : SocketId) :
    ((closeEvent ws).final s).InOrder none none := by
  have hshrinks := onlyShrinks_onWsClose ws (setSocket ws (fun w => { w with readyState := .closed }) s)
  have h₀ := h.closed ws
  rw [closeEvent, final_modify_bind, final_get_bind]
  generalize setSocket ws (fun w => { w with readyState := .closed }) s = t at h₀ hshrinks ⊢
  cases hlisten : (t.sockets ws).listening with
  | false =>
    refine h₀.gone_unlisted fun g k hu => ?_
    have := (h₀.tidy.unmarked hu).2
    rw [hlisten] at this
    exact absurd this (by simp)
  | true =>
    change InOrder none none ((onWsClose ws).final t)
    rcases onWsClose_final ws t with ⟨ht, hfin⟩ | ⟨-, hsame⟩
    · -- a marked socket is in no room
      rw [hfin]
      refine h₀.gone_unlisted fun g k hu => ?_
      have := (h₀.tidy.unmarked hu).1
      rw [ht] at this
      exact absurd this (by simp)
    · cases hl : (t.sockets ws).loginRequest with
      | none =>
        rw [hl] at hsame
        refine (h₀.sameRooms hsame (h₀.consistent.shrinks hshrinks)).gone_unlisted ?_
        exact hshrinks.unlisted (h₀.consistent.unlisted hl)
      | some login =>
        rw [hl] at hsame
        obtain ⟨h₁, hfree⟩ := h₀.delMember login true
        refine (h₁.sameRooms hsame (h₀.consistent.shrinks hshrinks)).gone_unlisted fun g k hu => ?_
        have hu₀ := hshrinks.units g k ws hu
        obtain ⟨login', hl', hk, hroom⟩ := h₀.consistent.member g k ws hu₀
        obtain rfl : login = login' := Option.some.inj (hl.symm.trans hl')
        obtain ⟨ha, hn⟩ := h₀.tidy.ids hu₀ hl
        rw [hsame.groupHeap, hfree ha hn g k hk hroom.2.2] at hu
        exact absurd hu (by simp)

end

/-! ### Runs -/

/-- A login that carries an account and a sender id. -/
def CarriesIds (login : LoginRequest) : Prop :=
  isNullish login.accountID = false ∧ isNullish login.senderID = false

/-- Acceptances are of logins that carry their ids. -/
def Identified : RoomOp → Prop
  | .accept login _ => CarriesIds login
  | _ => True

/-- Every operation keeps the rooms in order. -/
theorem InOrder.roomStep {J : JsonCodec} {s s' : Server} {o : RoomOp} (h : s.InOrder none none)
    (hc : Identified o) (hstep : RoomStep J s o s') : s'.InOrder none none := by
  have hs' := h.consistent.roomStep hstep
  cases hstep with
  | quiet hq => exact h.quiet hq
  | accept login hw => exact h.accept J hw hc
  | logout ws => exact h.logout ws
  | removeDead ws => exact h.removeDead ws
  | proxy ws jmsg => exact h.sameRooms (sameRooms_udpProxyCommand J jmsg ws s) hs'
  | progress entry hn => exact h.sameRooms ⟨rfl, rfl, rfl, rfl, rfl⟩ hs'
  | @close _ ws hrun =>
    have hclose := h.close ws
    rw [final, hrun] at hclose
    exact hclose

/-- A login record stays for good. -/
theorem RoomStep.lasts {J : JsonCodec} {s s' : Server} {o : RoomOp} (hs : s.Consistent)
    (h : RoomStep J s o s') (ws : SocketId) : Lasts ws s s' := by
  rcases h.kinds with ⟨-, h⟩ | ⟨login, w, -, hw, rfl⟩ | h
  · intro login hl
    rcases h.sockets ws with hsame | ⟨hle, -⟩
    · refine ⟨hsame.loginRequest.trans hl, ?_⟩
      rw [Settled, Settled, hsame.terminated, hsame.closed]
      exact id
    · rw [hs.fresh ws hle] at hl
      exact absurd hl (by simp)
  · exact admitWrites_lasts
      (admits_acceptConnection J hw.loginRequest hw.authFrameHandler hw.known hs) ws
  · exact h.lasts ws

/-- An acceptance leaves its login record. -/
theorem acceptConnection_loginRequest (J : JsonCodec) {s : Server} {w : SocketId}
    (login : LoginRequest) (hs : s.Consistent) (hw : s.Ready w) :
    (((_acceptConnection J login w).final s).sockets w).loginRequest = some login :=
  (admitWrites_lasts (admits_afterLogin J hs hw.loginRequest hw.authFrameHandler hw.known) w login
    (by rw [setSocket_self])).1

/-- When all logins carry their ids in the end, all acceptances were of such logins. -/
theorem path_identified {J : JsonCodec} {s s' : Server} (hs : s.Consistent)
    (h : Lts.Path (RoomStep J) (fun _ _ => True) s s')
    (hids : ∀ ws login, (s'.sockets ws).loginRequest = some login → CarriesIds login) :
    Lts.Path (RoomStep J) (fun _ o => Identified o) s s' := by
  refine ((h.within (fun hs _ hstep => hs.roomStep hstep) hs).of_last (P := fun s => ∀ ws login,
    (s.sockets ws).loginRequest = some login → CarriesIds login) ?_ hids).1
  intro t o t' ht hstep hids
  have hearlier : ∀ ws login, (t.sockets ws).loginRequest = some login → CarriesIds login :=
    fun ws login hl => hids ws login (hstep.lasts ht.2 ws login hl).1
  refine ⟨hearlier, ?_⟩
  cases hstep with
  | accept login hw => exact hids _ login (acceptConnection_loginRequest J login ht.2 hw)
  | quiet | logout | removeDead | proxy | progress | close => trivial

/-- The rooms and their sockets say the same. -/
structure RoomsInvariant (s : Server) : Prop where
  /-- what a group lists is in that group, under that name, by its login -/
  entry : ∀ {g k ws}, (s.groupHeap g).units.own? k = some ws →
    propKey (s.sockets ws).name = .ok k ∧ (s.sockets ws).group = some g ∧
    ∃ login, (s.sockets ws).loginRequest = some login ∧ propKey login.senderID = .ok k ∧
      s.RoomOf g login
  /-- what says it is in a group is listed there -/
  listed : ∀ {ws g}, (s.sockets ws).group = some g →
    ∃ k, propKey (s.sockets ws).name = .ok k ∧ (s.groupHeap g).units.own? k = some ws
  /-- a name occurs in one group of an account only -/
  once : ∀ {g h k ws v}, (s.groupHeap g).units.own? k = some ws →
    (s.groupHeap h).units.own? k = some v →
    SameId (s.accountOf g).accountID (s.accountOf h).accountID → g = h
  /-- no group of an account is empty, and it is there under its id -/
  inhabited : ∀ {a l g}, (s.accountHeap a).groups.own? l = some g →
    (∃ k ws, (s.groupHeap g).units.own? k = some ws) ∧ propKey (s.groupHeap g).ID = .ok l ∧
      (s.groupHeap g).parentAccount = a
  /-- a group with members is in its account, and that in `c_accounts` -/
  registered : ∀ {g k ws}, (s.groupHeap g).units.own? k = some ws → s.Enrolled g ∧ s.Advertised g
  /-- no listed socket has had its close event -/
  alive : ∀ {g k ws}, (s.groupHeap g).units.own? k = some ws →
    (s.sockets ws).readyState ≠ .closed

theorem InOrder.roomsInvariant {s : Server} (h : s.InOrder none none) : s.RoomsInvariant := by
  refine ⟨fun {g k ws} hu => ⟨h.named hu, h.tidy.back hu, h.consistent.member g k ws hu⟩,
    fun hg => h.tidy.listed hg, fun {g g' k ws v} hu hv hsame => h.tidy.once hu hv ?_,
    fun {a l g} hg => ⟨?_, h.consistent.group_key a l g hg, h.consistent.group_parent a l g hg⟩,
    fun hu => ⟨h.rooted.enrolled hu, h.rooted.advertised hu⟩, fun hu => h.tidy.alive hu (by simp)⟩
  · -- both groups are in the account that `c_accounts` has under the id
    obtain ⟨l, hl, hrow⟩ := h.rooted.advertised hu
    obtain ⟨l', hl', hrow'⟩ := h.rooted.advertised hv
    obtain rfl : l = l' := Except.ok.inj ((hsame.key hl).symm.trans hl')
    exact Option.some.inj (hrow.symm.trans hrow')
  · exact (h.rooted.inhabited hg).resolve_left (by simp)

theorem inOrder_path {J : JsonCodec} {config : Config} {s : Server}
    (h : Lts.Path (RoomStep J) (fun _ _ => True) (startOver [] config) s)
    (hids : ∀ ws login, (s.sockets ws).loginRequest = some login → CarriesIds login) :
    s.InOrder none none := by
  have hidentified := path_identified (consistent_startOver [] config) h hids
  exact hidentified.invariant (fun hs hc hstep => hs.roomStep hc hstep) (inOrder_startOver config)

theorem inOrder_run {J : JsonCodec} {isAlphanumeric : String → Bool} {config : Config}
    {es : List Event} {s : Server} (h : run J isAlphanumeric (startOver [] config) es = some s)
    (hids : ∀ ws login, (s.sockets ws).loginRequest = some login → CarriesIds login) :
    s.InOrder none none :=
  inOrder_path (run_operations J isAlphanumeric (consistent_startOver [] config)
    (hearing_startOver [] config) h).1 hids

/-- In every state of every run whose logins all carry an account and a sender id, the rooms and the
    sockets agree. A login record is never taken away, so the records of the last state are all that
    were accepted. -/
theorem rooms_invariant (J : JsonCodec) (isAlphanumeric : String → Bool) (config : Config)
    (es : List Event) (s : Server) (h : run J isAlphanumeric (startOver [] config) es = some s)
    (hids : ∀ ws login, (s.sockets ws).loginRequest = some login → CarriesIds login) :
    s.RoomsInvariant :=
  (inOrder_run h hids).roomsInvariant

/-- A unit that has replaced its own first socket is the one that is listed. -/
theorem rooms_invariant_reconnectRun : ∃ s : Server,
    run Text.codec isAsciiAlphanumeric (startOver [] {}) reconnectRun = some s ∧
    (s.groupHeap 1).units.own? "drone" = some 1 ∧ s.RoomsInvariant := by
  have h : (run Text.codec isAsciiAlphanumeric (startOver [] {}) reconnectRun).map (fun s =>
      (s.nextSocket, (s.groupHeap 1).units.own? "drone",
        [0, 1].map fun ws => (s.sockets ws).loginRequest.map fun l =>
          (isNullish l.accountID, isNullish l.senderID))) =
      some (2, some 1, [some (false, false), some (false, false)]) := by decide +kernel
  obtain ⟨s, hs, hf⟩ := Option.map_eq_some_iff.mp h
  simp only [Prod.mk.injEq, List.map_cons, List.map_nil, List.cons.injEq] at hf
  obtain ⟨hnext, hunit, h₀, h₁, -⟩ := hf
  refine ⟨s, hs, hunit, rooms_invariant Text.codec isAsciiAlphanumeric {} reconnectRun s hs ?_⟩
  intro ws login hl
  obtain ⟨-, hcons, -⟩ := run_operations Text.codec isAsciiAlphanumeric (consistent_startOver [] {})
    (hearing_startOver [] {}) hs
  have hcase : ws = 0 ∨ ws = 1 := by
    by_contra hne
    rw [hcons.fresh ws (by rw [hnext]; grind)] at hl
    exact absurd hl (by simp)
  rcases hcase with rfl | rfl
  · rw [hl] at h₀
    exact Prod.mk.inj (Option.some.inj h₀)
  · rw [hl] at h₁
    exact Prod.mk.inj (Option.some.inj h₁)

end Server

end DroneEngage
