import DroneEngage.KeyLedger

/-! The close event of a socket whose unit has connected again.

    Cleaning up after a socket goes by account and sender id, so the close event of an old socket
    would take the new one of the same unit away. What prevents it is the mark `m__terminated`: the
    acceptance of the new socket looks the old one up in the rooms of the account and marks it, and
    a marked socket's close event does nothing. An old socket that is no longer listed there when the
    new one is accepted is not marked. -/

namespace DroneEngage
open Js

/-- Two logins of one unit: the same account and the same sender id, as the tables see them. -/
def LoginRequest.SameUnit (l l' : LoginRequest) : Prop :=
  SameId l.accountID l'.accountID ∧ SameId l.senderID l'.senderID

namespace Server

/-- The close event of a socket with this login has nothing to clean up: the socket is marked, or
    the event is over, or the login names no sender. -/
def Settled (s : Server) (ws : SocketId) (login : LoginRequest) : Prop :=
  (s.sockets ws).terminated = true ∨ (s.sockets ws).readyState = .closed ∨
    isNullish login.senderID = true

/-- An acceptance under this login finds the socket: the account is there, one of its groups lists
    the socket under the sender id, and that group's `hasOwnProperty` is the inherited one. -/
def Listed (s : Server) (login : LoginRequest) (ws : SocketId) : Prop :=
  isNullish login.accountID = false ∧ isNullish login.senderID = false ∧
  ∃ ka a kg g k, propKey login.accountID = .ok ka ∧ s.accounts.own? ka = some a ∧
    (s.accountHeap a).groups.own? kg = some g ∧ propKey login.senderID = .ok k ∧
    (s.groupHeap g).units.own? k = some ws ∧ (s.groupHeap g).units.own? "hasOwnProperty" = none

/-! ### The kick-out marks whom it finds -/

open Action

theorem deleteMemberByName_terminated {s : Server} {g : GroupId} {v : Val} {k id : String}
    {ws : SocketId} (hk : propKey v = .ok k) (hu : (s.groupHeap g).units.own? k = some ws)
    (hown : (s.groupHeap g).units.own? "hasOwnProperty" = none)
    (hid : propKey (s.groupHeap g).ID = .ok id) :
    (((deleteMemberByName g v true).final s).sockets ws).terminated = true := by
  have hthawed : ¬ s.Frozen g := by
    rintro ⟨-, h⟩
    rw [hown] at h
    exact absurd h (by simp)
  have hfound : s.memberNamed g v = .ok (some (k, ws)) := by
    rw [memberNamed_of_ok hthawed hk, hu]; rfl
  have hdrop : ∃ t, dropIfEmpty g (unlink g k ws s) = (.ok (), t) := by
    have hid' : propKey ((unlink g k ws s).groupHeap g).ID = .ok id := by
      rw [(shrinks_unlink hthawed k ws).groupID]; exact hid
    by_cases he : ((unlink g k ws s).groupHeap g).units.keys = []
    · exact ⟨_, by simp only [dropIfEmpty, run_bind_get, if_pos he, hid']; rfl⟩
    · exact ⟨_, by simp only [dropIfEmpty, run_bind_get, if_neg he]; rfl⟩
  obtain ⟨t, ht⟩ := hdrop
  rw [deleteMemberByName, final_attempt_pure, final_get_bind, hfound, final_ok_bind,
    final_modify_bind, final_bind_of_ok ht, if_pos rfl, final_modify_bind]
  refine ((onlyShrinks_terminateSocket ws _).sockets ws).terminated ?_
  rw [setSocket_self]

theorem dropIfEmpty_groupHeap (g : GroupId) (s : Server) :
    ((dropIfEmpty g).final s).groupHeap = s.groupHeap := by
  by_cases he : (s.groupHeap g).units.keys = []
  · rw [dropIfEmpty, final_get_bind, if_pos he]
    cases propKey (s.groupHeap g).ID with
    | error e => rfl
    | ok id => rfl
  · rw [dropIfEmpty, final_get_bind, if_neg he]; rfl

theorem dropIfEmpty_sockets (g : GroupId) (s : Server) :
    ((dropIfEmpty g).final s).sockets = s.sockets := by
  by_cases he : (s.groupHeap g).units.keys = []
  · rw [dropIfEmpty, final_get_bind, if_pos he]
    cases propKey (s.groupHeap g).ID with
    | error e => rfl
    | ok id => rfl
  · rw [dropIfEmpty, final_get_bind, if_neg he]; rfl

/-- What follows the removal of a member leaves the members alone. -/
theorem afterUnlink_groupHeap (g : GroupId) (terminate : Bool) (ws : SocketId) (s : Server) :
    ((do
      dropIfEmpty g
      if terminate then
        modify (setSocket ws fun w => { w with terminated := true })
        terminateSocket ws
      else pure () : Action Server Unit).final s).groupHeap = s.groupHeap := by
  have hdrop := dropIfEmpty_groupHeap g s
  rcases hr : dropIfEmpty g s with ⟨e | u, t⟩
  · rw [final, hr] at hdrop
    rw [final, run_bind_of_error hr]
    exact hdrop
  · rw [final, hr] at hdrop
    rw [final_bind_of_ok hr]
    cases terminate with
    | false => exact hdrop
    | true => exact hdrop

/-- A group only loses its own member. -/
theorem deleteMemberByName_groupHeap {g h : GroupId} (hne : h ≠ g) (v : Val) (terminate : Bool)
    (s : Server) :
    ((deleteMemberByName g v terminate).final s).groupHeap h = s.groupHeap h := by
  rcases deleteMemberByName_final g v terminate s with ⟨-, hfin⟩ | ⟨k, ws, -, hfin⟩
  · rw [hfin]
  · rw [hfin, afterUnlink_groupHeap, unlink, setSocket_groupHeap, setGroup_groupHeap, if_neg hne]

/-- Only the named member of the group goes, and only if the group is not frozen. -/
theorem deleteMemberByName_units (g : GroupId) (unitname : Val) (terminate : Bool) (s : Server)
    (h : GroupId) (m : String) :
    (((deleteMemberByName g unitname terminate).final s).groupHeap h).units.own? m =
        (s.groupHeap h).units.own? m ∨
      h = g ∧ ¬ s.Frozen g ∧ propKey unitname = .ok m := by
  by_cases hh : h = g
  · subst hh
    rcases deleteMemberByName_final h unitname terminate s with ⟨-, hfin⟩ | ⟨k, ws, hfound, hfin⟩
    · rw [hfin]; exact Or.inl rfl
    · obtain ⟨hk, -, hthawed⟩ := memberNamed_found hfound
      rw [hfin, afterUnlink_groupHeap, unlink, setSocket_groupHeap, setGroup_groupHeap, if_pos rfl,
        Table.own?_delete]
      by_cases hm : m = k
      · exact Or.inr ⟨rfl, hthawed, hm ▸ hk⟩
      · rw [if_neg hm]; exact Or.inl rfl
  · rw [deleteMemberByName_groupHeap hh]; exact Or.inl rfl

/-- The loop over the groups of an account marks the member that one of them lists. -/
theorem forEach_deleteMember_terminated {v : Val} {k id : String} {g : GroupId} {ws : SocketId}
    (hk : propKey v = .ok k) : ∀ (gs : List GroupId) (s : Server), g ∈ gs →
      (s.groupHeap g).units.own? k = some ws →
      (s.groupHeap g).units.own? "hasOwnProperty" = none →
      propKey (s.groupHeap g).ID = .ok id →
      (((forEach gs fun h => deleteMemberByName h v true).final s).sockets ws).terminated = true := by
  intro gs
  induction gs with
  | nil => intro s hg; exact absurd hg (by simp)
  | cons h rest ih =>
    intro s hg hu hown hid
    rw [final, run_forEach_cons, run_bind_of_ok
      (run_of_not_escapes (not_escapes_deleteMemberByName h v true s))]
    by_cases hh : g = h
    · -- this group: the mark is set now, and stays
      subst hh
      have hrest : OnlyShrinks (forEach rest fun h => deleteMemberByName h v true) :=
        moves_forEach rest fun h _ => onlyShrinks_deleteMemberByName h v true
      exact ((hrest _).sockets ws).terminated (deleteMemberByName_terminated hk hu hown hid)
    · have hmem : g ∈ rest := (List.mem_cons.mp hg).resolve_left hh
      have hsame := deleteMemberByName_groupHeap hh v true s
      exact ih _ hmem (hsame ▸ hu) (hsame ▸ hown) (hsame ▸ hid)

theorem delMember_terminated {s : Server} {login : LoginRequest} {ws : SocketId}
    (hid : ∀ a k g, (s.accountHeap a).groups.own? k = some g → propKey (s.groupHeap g).ID = .ok k)
    (h : s.Listed login ws) :
    (((delMemberFromAccountByName (some login) true).final s).sockets ws).terminated = true := by
  obtain ⟨ha, hn, ka, a, kg, g, k, hka, hacc, hg, hk, hu, hown⟩ := h
  have hmark := forEach_deleteMember_terminated hk (s.accountHeap a).groups.values s
    (Table.mem_values_iff.mpr ⟨kg, hg⟩) hu hown (hid a kg g hg)
  rcases delMemberFromAccountByName_final login true s with
    ⟨hnone, -⟩ | ⟨b, ⟨-, -, l, hl, hb⟩, hfin⟩
  · exact absurd ⟨ha, hn, ka, hka, hacc⟩ (hnone a)
  · obtain rfl : ka = l := Except.ok.inj (hka.symm.trans hl)
    obtain rfl : a = b := Option.some.inj (hacc.symm.trans hb)
    obtain ⟨accounts, hretire⟩ := retire_eq a ((forEach (s.accountHeap a).groups.values fun g =>
      deleteMemberByName g login.senderID true).final s)
    rw [hfin, hretire]
    exact hmark

theorem addMember_terminated (g : GroupId) (v : Val) (w ws : SocketId) (s : Server) :
    (((addMember g v w).final s).sockets ws).terminated = (s.sockets ws).terminated := by
  rcases addMember_final g v w s with h | ⟨k, -, -, h⟩
  · rw [h]
  · rw [h, join, setSocket_sockets]
    split
    · next hw => subst hw; rfl
    · rfl

theorem addMemberToGroup_terminated (a : AccountId) (v v' : Val) (w ws : SocketId) (s : Server) :
    (((addMemberToGroup a v v' w).final s).sockets ws).terminated = (s.sockets ws).terminated := by
  rcases addMemberToGroup_final a v v' w s with h | ⟨k, -, ⟨g, -, h⟩ | ⟨-, h⟩⟩
  · rw [h]
  · rw [h]; exact addMember_terminated g v w ws s
  · rw [h, addMember_terminated]; rfl

theorem addMemberToAccountGroup_terminated (w ws : SocketId) (s : Server) :
    (((addMemberToAccountGroup w).final s).sockets ws).terminated = (s.sockets ws).terminated := by
  rcases addMemberToAccountGroup_final w s with h | ⟨login, k, -, -, ⟨a, -, h⟩ | ⟨-, h⟩⟩
  · rw [h]
  · rw [h]; exact addMemberToGroup_terminated a _ _ w ws s
  · rw [h, addMemberToGroup_terminated]; rfl

/-- An acceptance marks the socket it finds. -/
theorem acceptConnection_terminated (J : JsonCodec) {s : Server} {login : LoginRequest}
    {w ws : SocketId}
    (hid : ∀ a k g, (s.accountHeap a).groups.own? k = some g → propKey (s.groupHeap g).ID = .ok k)
    (h : s.Listed login ws) :
    (((_acceptConnection J login w).final s).sockets ws).terminated = true := by
  have hkey : ∃ k, propKey login.senderID = .ok k := by
    obtain ⟨-, -, -, -, -, -, k, -, -, -, hk, -⟩ := h
    exact ⟨k, hk⟩
  obtain ⟨k, hk⟩ := hkey
  rw [_acceptConnection, final_modify_bind]
  rw [final_bind_of_ok (addActiveSenderIDList_run hk w _)]
  refine final_bind_keeps (P := fun t : Server => (t.sockets ws).terminated = true)
    (delMember_terminated hid h) fun _ s₁ h₁ => ?_
  refine final_bind_keeps (P := fun t : Server => (t.sockets ws).terminated = true) ?_
    fun _ s₂ h₂ => ?_
  · rw [addMemberToAccountGroup_terminated]; exact h₁
  · exact ((onlyShrinks_sendOkMessage J w s₂).sockets ws).terminated h₂

/-! ### Being settled lasts -/

/-- A login record stays, and with it the mark and the end of the connection. -/
def Lasts (ws : SocketId) (s s' : Server) : Prop :=
  ∀ login, (s.sockets ws).loginRequest = some login →
    (s'.sockets ws).loginRequest = some login ∧ (s.Settled ws login → s'.Settled ws login)

instance (ws : SocketId) : IsPreorder Server (Lasts ws) where
  refl := fun _ _ h => ⟨h, id⟩
  trans := fun _ _ _ h h' login hl => by
    obtain ⟨hl₁, hs₁⟩ := h login hl
    obtain ⟨hl₂, hs₂⟩ := h' login hl₁
    exact ⟨hl₂, hs₂ ∘ hs₁⟩

theorem Shrinks.lasts {s s' : Server} (h : s.Shrinks s') (ws : SocketId) : Lasts ws s s' := by
  intro login hl
  refine ⟨(h.sockets ws).loginRequest.trans hl, ?_⟩
  rintro (ht | hc | hn)
  · exact Or.inl ((h.sockets ws).terminated ht)
  · exact Or.inr (Or.inl ((h.sockets ws).closed hc))
  · exact Or.inr (Or.inr hn)

/-- Sockets that keep their login, their mark and their connection. -/
theorem lasts_of_eq {s s' : Server} {ws : SocketId} (h : ∀ login,
    (s.sockets ws).loginRequest = some login →
      (s'.sockets ws).loginRequest = some login ∧
      (s'.sockets ws).terminated = (s.sockets ws).terminated ∧
      (s'.sockets ws).readyState = (s.sockets ws).readyState) : Lasts ws s s' := by
  intro login hl
  obtain ⟨h₁, h₂, h₃⟩ := h login hl
  exact ⟨h₁, by rw [Settled, Settled, h₂, h₃]; exact id⟩

theorem AdmitWrite.lasts {w : SocketId} {login : LoginRequest} {s s' : Server}
    (h : AdmitWrite w login s s') (ws : SocketId) : Lasts ws s s' := by
  cases h with
  | shrinks h => exact h.lasts ws
  | login hl =>
    refine lasts_of_eq fun l h => ?_
    have hne : ws ≠ w := by rintro rfl; rw [hl] at h; exact absurd h (by simp)
    rw [setSocket_ne _ _ _ _ hne]
    exact ⟨h, rfl, rfl⟩
  | active | account | group => exact lasts_of_eq fun l h => ⟨h, rfl, rfl⟩
  | member =>
    refine lasts_of_eq fun l h => ?_
    rw [join, setSocket_sockets]
    split
    · next hw => subst hw; exact ⟨h, rfl, rfl⟩
    · exact ⟨h, rfl, rfl⟩

theorem admitWrites_lasts {w : SocketId} {login : LoginRequest} {s s' : Server}
    (h : Relation.ReflTransGen (AdmitWrite w login) s s') (ws : SocketId) : Lasts ws s s' := by
  induction h with
  | refl => exact refl_of (Lasts ws) s
  | tail _ hw ih => exact trans_of (Lasts ws) ih (hw.lasts ws)

section

variable (J : JsonCodec) (isAlphanumeric : String → Bool)

theorem greet_lasts (creds : Except JsError Bool) (v ws : SocketId) (s : Server) :
    Lasts ws s (greet creds v s) := by
  have hset : ∀ f : Socket → Socket, (∀ u, (f u).loginRequest = u.loginRequest ∧
      (f u).terminated = u.terminated ∧ (f u).readyState = u.readyState) →
      Lasts ws s (setSocket v f s) := by
    intro f hf
    refine lasts_of_eq fun l h => ?_
    rw [setSocket_sockets]
    split
    · next hw => subst hw; exact ⟨(hf _).1.trans h, (hf _).2⟩
    · exact ⟨h, rfl, rfl⟩
  unfold greet
  split
  · exact refl_of (Lasts ws) s
  · split
    · exact hset _ fun _ => ⟨rfl, rfl, rfl⟩
    · exact refl_of (Lasts ws) s
  · exact hset _ fun _ => ⟨rfl, rfl, rfl⟩

theorem arrive_lasts {s : Server} (hs : s.Consistent) (e : Event) (ws : SocketId) :
    Lasts ws s (arrive J s e) := by
  cases e with
  | authMessage message key =>
    obtain ⟨t, ht⟩ := issue_eq key (issuedLogin J message key) s
    rw [arrive_authMessage, ht]; exact lasts_of_eq fun l h => ⟨h, rfl, rfl⟩
  | keyTimeout key =>
    obtain ⟨t, ht⟩ := deleteLogin_eq key s
    rw [arrive_keyTimeout, ht]; exact lasts_of_eq fun l h => ⟨h, rfl, rfl⟩
  | connect url remote =>
    refine trans_of (Lasts ws) (lasts_of_eq fun l h => ?_) (greet_lasts _ _ ws _)
    have hne : ws ≠ s.nextSocket := by
      rintro rfl
      rw [hs.fresh _ (Nat.le_refl _)] at h
      exact absurd h (by simp)
    rw [openSocket_sockets, if_neg hne]
    exact ⟨h, rfl, rfl⟩
  | message | authTimeout | close | external | faults | udpProgress | storage =>
    exact refl_of (Lasts ws) s

theorem outcome_lasts {s s' : Server} {creds : Option (SocketId × Table Json)}
    (h : Outcome J creds s s') (ws : SocketId) : Lasts ws s s' := by
  unfold Outcome Checked at h
  split at h
  · exact h.lasts ws
  · split at h
    · exact h.lasts ws
    · exact admitWrites_lasts h.writes ws

theorem handle_lasts {s : Server} {e : Event} (hs : s.Consistent) (he : s.enabled e = true)
    (ws : SocketId) : Lasts ws s ((handle J isAlphanumeric e).final s) :=
  trans_of (Lasts ws) (arrive_lasts J hs e ws)
    (outcome_lasts J (handle_final J isAlphanumeric hs he) ws)

/-- Whoever has logged in is still on record later. -/
theorem PlainLogins.of_lasts {s s' : Server} (hs' : s'.Consistent) (h : ∀ ws, Lasts ws s s')
    (hplain : s'.PlainLogins) : s.PlainLogins := by
  intro ws _ login hl
  have hl' := (h ws login hl).1
  have hlt : ws < s'.nextSocket := by
    by_contra hle
    rw [hs'.fresh ws (Nat.not_lt.mp hle)] at hl'
    exact absurd hl' (by simp)
  exact hplain ws hlt login hl'

/-! ### What has happened -/

/-- Nothing that has happened is forgotten. -/
def Recalls (s s' : Server) : Prop := s.log <+: s'.log

instance : IsPreorder Server Recalls where
  refl := fun _ => List.prefix_rfl
  trans := fun _ _ _ h h' => List.IsPrefix.trans h h'

theorem AdmitWrite.log {w : SocketId} {login : LoginRequest} {s s' : Server}
    (h : AdmitWrite w login s s') : Recalls s s' := by
  cases h with
  | shrinks h => exact h.log
  | login | active | account | group | member => exact List.prefix_rfl

theorem admitWrites_log {w : SocketId} {login : LoginRequest} {s s' : Server}
    (h : Relation.ReflTransGen (AdmitWrite w login) s s') : Recalls s s' := by
  induction h with
  | refl => exact refl_of Recalls s
  | tail _ hw ih => exact trans_of Recalls ih hw.log

theorem arrive_log (e : Event) (s : Server) : (arrive J s e).log = s.log := by
  cases e with
  | authMessage message key =>
    obtain ⟨t, ht⟩ := issue_eq key (issuedLogin J message key) s
    rw [arrive_authMessage, ht]
  | keyTimeout key =>
    obtain ⟨t, ht⟩ := deleteLogin_eq key s
    rw [arrive_keyTimeout, ht]
  | connect url remote =>
    rw [arrive_connect]
    unfold greet
    split
    · rfl
    · split
      · rfl
      · rfl
    · rfl
  | message | authTimeout | close | external | faults | udpProgress | storage => rfl

theorem outcome_log {s s' : Server} {creds : Option (SocketId × Table Json)}
    (h : Outcome J creds s s') : Recalls s s' := by
  unfold Outcome Checked at h
  split at h
  · exact h.log
  · split at h
    · exact h.log
    · have hwrites := admitWrites_log h.writes
      exact hwrites

theorem handle_log {s : Server} {e : Event} (hs : s.Consistent) (he : s.enabled e = true) :
    Recalls s ((handle J isAlphanumeric e).final s) := by
  have houtcome := outcome_log J (handle_final J isAlphanumeric hs he)
  rw [Recalls, arrive_log] at houtcome
  exact houtcome

theorem SparesPrototypes.of_lasts {s s' : Server} (hs' : s'.Consistent) (h : ∀ ws, Lasts ws s s')
    (hlog : Recalls s s') (hspares : s'.SparesPrototypes) : s.SparesPrototypes :=
  ⟨hspares.logins.of_lasts hs' h, fun e he => hspares.commands e (hlog.subset he)⟩

/-! ### Accepting a unit again -/

theorem AdmitWrite.loginRequest {w : SocketId} {login : LoginRequest} {s s' : Server}
    (h : AdmitWrite w login s s') : (s'.sockets w).loginRequest = (s.sockets w).loginRequest ∨
      (s'.sockets w).loginRequest = some login := by
  cases h with
  | shrinks h => exact Or.inl (h.sockets w).loginRequest
  | login => right; rw [setSocket_self]
  | active | account | group => exact Or.inl rfl
  | member => left; rw [join, setSocket_self]; rfl

theorem admitWrites_loginRequest {w : SocketId} {login : LoginRequest} {s s' : Server}
    (h : Relation.ReflTransGen (AdmitWrite w login) s s') :
    (s'.sockets w).loginRequest = (s.sockets w).loginRequest ∨
      (s'.sockets w).loginRequest = some login := by
  induction h with
  | refl => exact Or.inl rfl
  | tail _ hw ih =>
    rcases hw.loginRequest with h | h
    · rw [h]; exact ih
    · exact Or.inr h

/-- The rooms are only touched after the credentials have been looked at. -/
theorem arrive_rooms (e : Event) (s : Server) : (arrive J s e).accounts = s.accounts ∧
    (arrive J s e).accountHeap = s.accountHeap ∧ (arrive J s e).groupHeap = s.groupHeap := by
  cases e with
  | authMessage message key =>
    obtain ⟨t, ht⟩ := issue_eq key (issuedLogin J message key) s
    rw [arrive_authMessage, ht]; exact ⟨rfl, rfl, rfl⟩
  | keyTimeout key =>
    obtain ⟨t, ht⟩ := deleteLogin_eq key s
    rw [arrive_keyTimeout, ht]; exact ⟨rfl, rfl, rfl⟩
  | connect url remote =>
    rw [arrive_connect]
    unfold greet
    split
    · exact ⟨rfl, rfl, rfl⟩
    · split <;> exact ⟨rfl, rfl, rfl⟩
    · exact ⟨rfl, rfl, rfl⟩
  | message | authTimeout | close | external | faults | udpProgress | storage =>
    exact ⟨rfl, rfl, rfl⟩

theorem arrive_loginFor {e : Event} {s : Server} {c : SocketId × Table Json}
    (h : credentials J s e = some c) (params : Table Json) :
    (arrive J s e).loginFor params = s.loginFor params := by
  obtain ⟨h₁, h₂⟩ := arrive_frame J e s
  have h₃ := arrive_waiting_of_credentials J h
  unfold loginFor getLogin
  rw [h₁, h₂, h₃]

/-- When the event is about to accept a client, every older socket of the unit is settled, or still
    listed as a member where the acceptance looks for it. -/
def OlderListed (J : JsonCodec) (s : Server) (e : Event) : Prop :=
  ∀ w params login, credentials J s e = some (w, params) → s.loginFor params = some login →
    ∀ ws old, (s.sockets ws).loginRequest = some old → old.SameUnit login →
      s.Settled ws old ∨ s.Listed login ws

/-- Accepting a unit again settles its older sockets. -/
theorem handle_settles {s : Server} {e : Event} (hs : s.Consistent) (he : s.enabled e = true)
    (hold : s.OlderListed J e) {B : SocketId} {new : LoginRequest}
    (hB : (s.sockets B).loginRequest = none)
    (hB' : (((handle J isAlphanumeric e).final s).sockets B).loginRequest = some new)
    {A : SocketId} {old : LoginRequest} (hA : (s.sockets A).loginRequest = some old)
    (hsame : old.SameUnit new) : ((handle J isAlphanumeric e).final s).Settled A old := by
  have henter : Enters B s ((handle J isAlphanumeric e).final s) :=
    Or.inl ⟨new, hB', by rw [hB]; simp⟩
  obtain ⟨params, login, hcreds, hlogin⟩ := entry J isAlphanumeric hs he henter
  have hout := handle_final J isAlphanumeric hs he
  have hlasts := (handle_lasts J isAlphanumeric hs he A old hA).2
  generalize (handle J isAlphanumeric e).final s = s' at *
  rw [hcreds] at hout
  unfold Outcome Checked at hout
  simp only [hlogin] at hout
  have hnew : login = new := by
    rcases admitWrites_loginRequest hout.writes with h | h
    · have hnone : ((arrive J s e).sockets B).loginRequest = none := by
        cases hl : ((arrive J s e).sockets B).loginRequest with
        | none => rfl
        | some l =>
          have := (arrive_noEntry J e B s).login l hl
          rw [hB] at this
          exact absurd this (by simp)
      rw [hB'] at h
      exact absurd (h.trans hnone) (by simp)
    · rw [hB'] at h
      exact (Option.some.inj h).symm
  subst hnew
  rw [arrive_loginFor J hcreds] at hlogin
  rcases hold B params login hcreds hlogin A old hA hsame with hset | hlisted
  · exact hlasts hset
  · -- the acceptance finds the older socket
    left
    obtain ⟨s₀, hkept, hacc⟩ := hout.accepts
    obtain ⟨h₁, h₂, h₃⟩ := arrive_rooms J e s
    have haccounts : s₀.accounts = s.accounts := hkept.accounts.trans h₁
    have hheap : s₀.accountHeap = s.accountHeap := hkept.accountHeap.trans h₂
    have hgroups : s₀.groupHeap = s.groupHeap := hkept.groupHeap.trans h₃
    have hlisted₀ : s₀.Listed login A := by
      unfold Listed
      rw [haccounts, hheap, hgroups]
      exact hlisted
    refine (hacc.sockets A).terminated (acceptConnection_terminated J ?_ hlisted₀)
    rw [hheap, hgroups]
    exact hs.group_key

/-! ### The close event -/

/-- No socket is closed or terminated by these effects. -/
def KeepsConnections (l : List Effect) : Prop :=
  ∀ e ∈ l, ∀ ws, e ≠ Effect.terminate ws ∧ e ≠ Effect.close ws

theorem onWsClose_terminated {s : Server} {ws : SocketId} (h : (s.sockets ws).terminated = true) :
    onWsClose ws s = (.ok (), s) := by
  unfold onWsClose
  rw [run_bind_get, if_pos h]
  rfl

theorem onWsClose_nullish {s : Server} {ws : SocketId} {login : LoginRequest}
    (ht : (s.sockets ws).terminated = false) (hl : (s.sockets ws).loginRequest = some login)
    (hn : isNullish login.senderID = true) (hname : isNullish (s.sockets ws).name = true) :
    ∃ l, KeepsConnections l ∧ onWsClose ws s = (.ok (), { s with log := s.log ++ l }) := by
  have hdel : delMemberFromAccountByName (some login) true s = (.ok (), s) := by
    simp only [delMemberFromAccountByName]
    rw [hn, Bool.or_true, if_pos rfl]
    rfl
  have hactive : ∀ t, deleteActiveSenderIDList login.senderID t = (.ok (), t) := by
    intro t
    unfold deleteActiveSenderIDList
    rw [if_pos hn]
    rfl
  refine ⟨.toAuth (logoutMessage login.senderID) ::
    if s.config.ignore_auth_server then [] else [.updateAuth], ?_, ?_⟩
  · intro e he v
    rcases List.mem_cons.mp he with rfl | he
    · simp
    · split at he
      · exact absurd he (by simp)
      · rw [List.mem_singleton.mp he]; simp
  · unfold onWsClose
    rw [run_bind_get, if_neg (by rw [ht]; exact Bool.false_ne_true), hl, run_bind_of_ok hdel, hname,
      Bool.not_true]
    cases hi : s.config.ignore_auth_server with
    | true => simp [forgetSender, run_bind, hactive, hi, emit]
    | false => simp [forgetSender, run_bind, hactive, hi, emit]

/-- The close event of a settled socket changes nothing but the socket's own state, and only reports
    to AUTH. -/
theorem close_settled {s : Server} {ws : SocketId} {login : LoginRequest} (hs : s.Consistent)
    (hl : (s.sockets ws).loginRequest = some login) (h : s.Settled ws login) :
    ∃ s' f l, KeepsConnections l ∧ step J isAlphanumeric s (.close ws) = some s' ∧
      s' = { setSocket ws f s with log := s.log ++ l } := by
  by_cases he : s.enabled (.close ws) = true
  · have hopen : (s.sockets ws).readyState ≠ .closed := by
      unfold enabled at he
      rw [Bool.and_eq_true] at he
      simpa using he.2
    have hrun : ∃ l, KeepsConnections l ∧ closeEvent ws s = (.ok (),
        { setSocket ws (fun w => { w with readyState := .closed }) s with log := s.log ++ l }) := by
      unfold closeEvent
      rw [run_bind_modify, run_bind_get, setSocket_self]
      cases (s.sockets ws).listening with
      | false => exact ⟨[], by simp [KeepsConnections], by rw [List.append_nil]; rfl⟩
      | true =>
        rw [run_when_true]
        by_cases ht : (s.sockets ws).terminated = true
        · refine ⟨[], by simp [KeepsConnections], ?_⟩
          rw [onWsClose_terminated (by rw [setSocket_self]; exact ht), List.append_nil]
          rfl
        · have hn : isNullish login.senderID = true := by
            rcases h with h | h | h
            · exact absurd h ht
            · exact absurd h hopen
            · exact h
          refine onWsClose_nullish (by simpa using ht) (by rw [setSocket_self]; exact hl) hn ?_
          rw [setSocket_self]
          rcases hs.name ws with hname | ⟨l, hl', hname⟩
          · rw [hname]; rfl
          · rw [hl] at hl'
            obtain rfl := Option.some.inj hl'
            rw [hname]; exact hn
    obtain ⟨l, hkeeps, hr⟩ := hrun
    refine ⟨_, fun w => { w with readyState := .closed }, l, hkeeps, ?_, rfl⟩
    have hhandle : handle J isAlphanumeric (.close ws) = closeEvent ws := rfl
    rw [step, if_pos he, hhandle, hr]
  · refine ⟨s, id, [], by simp [KeepsConnections], by rw [step, if_neg he], ?_⟩
    simp [setSocket]

end

/-! ### Runs -/

section

variable {J : JsonCodec} {isAlphanumeric : String → Bool} {config : Config} {es : List Event}

/-- At the position the socket is accepted under the login. -/
def AcceptedAt (J : JsonCodec) (isAlphanumeric : String → Bool) (config : Config)
    (es : List Event) (i : ℕ) (ws : SocketId) (login : LoginRequest) : Prop :=
  ∃ s s', StateAt J isAlphanumeric config es i s ∧ StateAt J isAlphanumeric config es (i + 1) s' ∧
    (s.sockets ws).loginRequest = none ∧ (s'.sockets ws).loginRequest = some login

/-- What every handler keeps is kept from one position to any later one. -/
theorem stateAt_kept (R : Server → Server → Prop) [IsPreorder Server R]
    (hhandle : ∀ {s : Server} {e : Event}, s.Consistent → s.enabled e = true →
      R s ((handle J isAlphanumeric e).final s)) {i j : ℕ} {s s' : Server} (hij : i ≤ j)
    (hs : StateAt J isAlphanumeric config es i s) (hs' : StateAt J isAlphanumeric config es j s') :
    R s s' := by
  induction hij generalizing s' with
  | refl => rw [stateAt_unique hs hs']; exact refl_of R s'
  | step hij ih =>
    obtain ⟨t, ht, rfl | ⟨e, -, hen, rfl⟩⟩ := stateAt_pred hs'
    · exact ih ht
    · exact trans_of R (ih ht) (hhandle (consistent_run J isAlphanumeric ht) hen)

theorem stateAt_lasts {i j : ℕ} {s s' : Server} (hij : i ≤ j)
    (hs : StateAt J isAlphanumeric config es i s) (hs' : StateAt J isAlphanumeric config es j s')
    (ws : SocketId) : Lasts ws s s' :=
  stateAt_kept (Lasts ws) (fun hc hen => handle_lasts J isAlphanumeric hc hen ws) hij hs hs'

/-- When no prototype has been written to, none had been in any state before. -/
theorem SparesPrototypes.earlier {i j : ℕ} {s s' : Server} (hij : i ≤ j)
    (hs : StateAt J isAlphanumeric config es i s) (hs' : StateAt J isAlphanumeric config es j s')
    (hspares : s'.SparesPrototypes) : s.SparesPrototypes :=
  hspares.of_lasts (consistent_run J isAlphanumeric hs') (stateAt_lasts hij hs hs')
    (stateAt_kept Recalls (handle_log J isAlphanumeric) hij hs hs')

/-- In a run in which, whenever a client is accepted, the older sockets of its unit are still listed
    or have nothing to clean up, the close event of a socket leaves a later socket of its unit
    alone: its membership, its row of the active senders, its connection and the proxy of the unit
    are what they were. -/
theorem stale_close
    (hlisted : ∀ j s e, StateAt J isAlphanumeric config es j s → es[j]? = some e →
      s.enabled e = true → s.OlderListed J e)
    {i j n : ℕ} {A B : SocketId} {old new : LoginRequest} {s : Server} (hij : i < j) (hjn : j < n)
    (hA : AcceptedAt J isAlphanumeric config es i A old)
    (hB : AcceptedAt J isAlphanumeric config es j B new) (hsame : old.SameUnit new)
    (hs : StateAt J isAlphanumeric config es n s) :
    ∃ s', step J isAlphanumeric s (.close A) = some s' ∧ s'.sockets B = s.sockets B ∧
      s'.groupHeap = s.groupHeap ∧ s'.accounts = s.accounts ∧ s'.accountHeap = s.accountHeap ∧
      s'.activeSenderIDsList = s.activeSenderIDsList ∧ s'.activeUdpProxy = s.activeUdpProxy ∧
      ∃ l, s'.log = s.log ++ l ∧ KeepsConnections l := by
  obtain ⟨-, s₁, -, hs₁, -, hold⟩ := hA
  obtain ⟨t, t', ht, ht', hnone, hnew⟩ := hB
  have hcons := consistent_run J isAlphanumeric ht
  have holdt := (stateAt_lasts hij hs₁ ht A old hold).1
  have hAB : B ≠ A := by rintro rfl; rw [hnone] at holdt; exact absurd holdt (by simp)
  have hsettled : t'.Settled A old := by
    obtain ⟨u, hu, rfl | ⟨e, he, hen, rfl⟩⟩ := stateAt_pred ht'
    · rw [stateAt_unique hu ht, hnone] at hnew
      exact absurd hnew (by simp)
    · obtain rfl := stateAt_unique hu ht
      exact handle_settles J isAlphanumeric hcons hen (hlisted j u e hu he hen) hnone hnew holdt
        hsame
  have hold' := (stateAt_lasts (Nat.le_succ_of_le hij) hs₁ ht' A old hold).1
  obtain ⟨holds, hsets⟩ := stateAt_lasts hjn ht' hs A old hold'
  obtain ⟨s', f, l, hkeeps, hstep, rfl⟩ := close_settled J isAlphanumeric
    (consistent_run J isAlphanumeric hs) holds (hsets hsettled)
  exact ⟨_, hstep, setSocket_ne _ _ _ _ hAB, rfl, rfl, rfl, rfl, rfl, l, rfl, hkeeps⟩

/-- AUTH announces a vehicle of an account. -/
def announceUnit (key : String) : Event :=
  .authMessage (Text.stringify (.obj [("c", .str "b"),
    ("d", .obj [("a", .str "acc"), ("b", .str "1"), ("r", .str "q"), ("at", .str "d")])])) key

/-- A unit connects, and connects again while its first socket is still open. -/
def reconnectRun : List Event :=
  [announceUnit "k1", .connect "/?f=k1&s=drone" "peer", announceUnit "k2",
    .connect "/?f=k2&s=drone" "peer", .close 0]

theorem reconnectRun_connect {J : JsonCodec} {s : Server} {j : ℕ} {e : Event}
    {c : SocketId × Table Json} (he : reconnectRun[j]? = some e) (h : credentials J s e = some c) :
    (j = 1 ∧ e = .connect "/?f=k1&s=drone" "peer") ∨
      (j = 3 ∧ e = .connect "/?f=k2&s=drone" "peer") := by
  have hauth : ∀ key, credentials J s (announceUnit key) = none := fun _ => rfl
  match j, he with
  | 0, he | 2, he =>
    rw [← Option.some.inj he, hauth] at h
    exact absurd h (by simp)
  | 1, he => cases he; exact Or.inl ⟨rfl, rfl⟩
  | 3, he => cases he; exact Or.inr ⟨rfl, rfl⟩
  | 4, he => cases he; exact absurd h (by rw [credentials_close]; simp)
  | j + 5, he => exact absurd he (by simp [reconnectRun])

theorem stale_close_reconnectRun : ∃ old new s,
    AcceptedAt Text.codec isAsciiAlphanumeric {} reconnectRun 1 0 old ∧
    AcceptedAt Text.codec isAsciiAlphanumeric {} reconnectRun 3 1 new ∧ old.SameUnit new ∧
    StateAt Text.codec isAsciiAlphanumeric {} reconnectRun 4 s ∧
    ∃ s', step Text.codec isAsciiAlphanumeric s (.close 0) = some s' ∧
      s'.sockets 1 = s.sockets 1 ∧ s'.groupHeap = s.groupHeap ∧ s'.accounts = s.accounts ∧
      s'.accountHeap = s.accountHeap ∧ s'.activeSenderIDsList = s.activeSenderIDsList ∧
      s'.activeUdpProxy = s.activeUdpProxy ∧ ∃ l, s'.log = s.log ++ l ∧ KeepsConnections l := by
  have h₁ : (run Text.codec isAsciiAlphanumeric (start {}) (reconnectRun.take 1)).map
      (fun s => (s.nextSocket, (s.sockets 0).loginRequest)) = some (0, none) := by
    decide +kernel
  have h₂ : (run Text.codec isAsciiAlphanumeric (start {}) (reconnectRun.take 2)).map
      (fun s => (s.sockets 0).loginRequest.map fun l => (l.accountID, l.senderID)) =
        some (some (some (.str "acc"), some (.str "drone"))) := by decide +kernel
  have h₃ : (run Text.codec isAsciiAlphanumeric (start {}) (reconnectRun.take 3)).map
      (fun s => (s.nextSocket, (s.sockets 1).loginRequest,
        (s.loginFor (getHeaderParams s.proto "/?f=k2&s=drone")).map
          fun l => (l.accountID, l.senderID))) =
        some (1, none, some (some (.str "acc"), some (.str "drone"))) := by decide +kernel
  have h₃' : (run Text.codec isAsciiAlphanumeric (start {}) (reconnectRun.take 3)).map
      (fun s => (s.accounts.own? "acc", (s.accountHeap 0).groups.own? "1",
        (s.groupHeap 0).units.own? "drone", (s.groupHeap 0).units.own? "hasOwnProperty")) =
        some (some 0, some 0, some 0, none) := by decide +kernel
  have h₄ : (run Text.codec isAsciiAlphanumeric (start {}) (reconnectRun.take 4)).map
      (fun s => (s.sockets 1).loginRequest.map fun l => (l.accountID, l.senderID)) =
        some (some (some (.str "acc"), some (.str "drone"))) := by decide +kernel
  obtain ⟨s₁, hs₁, hf₁⟩ := Option.map_eq_some_iff.mp h₁
  obtain ⟨s₂, hs₂, hf₂⟩ := Option.map_eq_some_iff.mp h₂
  obtain ⟨s₃, hs₃, hf₃⟩ := Option.map_eq_some_iff.mp h₃
  obtain ⟨s₄, hs₄, hf₄⟩ := Option.map_eq_some_iff.mp h₄
  rw [hs₃, Option.map_some, Option.some.injEq] at h₃'
  simp only [Prod.mk.injEq] at hf₁ hf₃ h₃'
  obtain ⟨hnext₁, hnone₁⟩ := hf₁
  obtain ⟨old, hold, hold'⟩ := Option.map_eq_some_iff.mp hf₂
  obtain ⟨hnext₃, hnone₃, hlogin₃⟩ := hf₃
  obtain ⟨hacc, hgroup, hunit, hown⟩ := h₃'
  obtain ⟨new, hnew, hnew'⟩ := Option.map_eq_some_iff.mp hf₄
  have hsame : old.SameUnit new := by
    rw [Prod.mk.injEq] at hold' hnew'
    rw [LoginRequest.SameUnit, hold'.1, hold'.2, hnew'.1, hnew'.2]
    exact ⟨⟨"acc", propKey_str _, propKey_str _⟩, "drone", propKey_str _, propKey_str _⟩
  refine ⟨old, new, s₄, ⟨s₁, s₂, hs₁, hs₂, hnone₁, hold⟩, ⟨s₃, s₄, hs₃, hs₄, hnone₃, hnew⟩, hsame,
    hs₄, stale_close (fun j s e hs he _ => ?_) (by decide : 1 < 3) (by decide : 3 < 4)
      ⟨s₁, s₂, hs₁, hs₂, hnone₁, hold⟩ ⟨s₃, s₄, hs₃, hs₄, hnone₃, hnew⟩ hsame hs₄⟩
  intro w params login hcreds hlogin ws l hws _
  have hcons := consistent_run Text.codec isAsciiAlphanumeric hs
  rcases reconnectRun_connect he hcreds with ⟨rfl, rfl⟩ | ⟨rfl, rfl⟩
  · -- nobody is connected yet
    obtain rfl := stateAt_unique hs hs₁
    have hle : s.nextSocket ≤ ws := by rw [hnext₁]; exact Nat.zero_le ws
    rw [hcons.fresh ws hle] at hws
    exact absurd hws (by simp)
  · obtain rfl := stateAt_unique hs hs₃
    have hws0 : ws = 0 := by
      by_contra hne
      have hle : s.nextSocket ≤ ws := by rw [hnext₃]; exact Nat.one_le_iff_ne_zero.mpr hne
      rw [hcons.fresh ws hle] at hws
      exact absurd hws (by simp)
    have hparams : params = getHeaderParams s.proto "/?f=k2&s=drone" := by
      rw [credentials_connect] at hcreds
      split at hcreds
      · split at hcreds
        · exact (congrArg Prod.snd (Option.some.inj hcreds)).symm
        · exact absurd hcreds (by simp)
      · exact absurd hcreds (by simp)
    rw [hparams] at hlogin
    rw [hlogin, Option.map_some, Option.some.injEq, Prod.mk.injEq] at hlogin₃
    subst hws0
    refine Or.inr ⟨by rw [hlogin₃.1]; rfl, by rw [hlogin₃.2]; rfl, "acc", 0, "1", 0, "drone", ?_,
      hacc, hgroup, ?_, hunit, hown⟩
    · rw [hlogin₃.1]; exact propKey_str _
    · rw [hlogin₃.2]; exact propKey_str _

/-- The same, but the first socket logs out before the unit connects again. -/
def logoutRun : List Event :=
  [announceUnit "k1", .connect "/?f=k1&s=drone" "peer",
    .message 0 (Text.stringify (.obj [("ty", .str "s"), ("mt", .num "9006")])) false,
    announceUnit "k2", .connect "/?f=k2&s=drone" "peer", .close 0]

/-- The close event of the first socket then takes the second one out of its room and out of the
    active senders, and terminates it. -/
theorem stale_close_logoutRun : ∃ old new s s',
    AcceptedAt Text.codec isAsciiAlphanumeric {} logoutRun 1 0 old ∧
    AcceptedAt Text.codec isAsciiAlphanumeric {} logoutRun 4 1 new ∧ old.SameUnit new ∧
    StateAt Text.codec isAsciiAlphanumeric {} logoutRun 5 s ∧
    step Text.codec isAsciiAlphanumeric s (.close 0) = some s' ∧
    (s.sockets 1).group.isSome ∧ (s'.sockets 1).group = none ∧
    s.activeSenderIDsList.own? "drone" = some 1 ∧ s'.activeSenderIDsList.own? "drone" = none ∧
    .terminate 1 ∉ s.log ∧ .terminate 1 ∈ s'.log := by
  have h₁ : (run Text.codec isAsciiAlphanumeric (start {}) (logoutRun.take 1)).map
      (fun s => (s.sockets 0).loginRequest) = some none := by decide +kernel
  have h₂ : (run Text.codec isAsciiAlphanumeric (start {}) (logoutRun.take 2)).map
      (fun s => (s.sockets 0).loginRequest.map fun l => (l.accountID, l.senderID)) =
        some (some (some (.str "acc"), some (.str "drone"))) := by decide +kernel
  have h₄ : (run Text.codec isAsciiAlphanumeric (start {}) (logoutRun.take 4)).map
      (fun s => (s.sockets 1).loginRequest) = some none := by decide +kernel
  have h₅ : (run Text.codec isAsciiAlphanumeric (start {}) (logoutRun.take 5)).map
      (fun s => ((s.sockets 1).loginRequest.map fun l => (l.accountID, l.senderID),
        (s.sockets 1).group.isSome, s.activeSenderIDsList.own? "drone",
        decide (.terminate 1 ∉ s.log))) =
        some (some (some (.str "acc"), some (.str "drone")), true, some 1, true) := by
    decide +kernel
  have h₆ : ((run Text.codec isAsciiAlphanumeric (start {}) (logoutRun.take 5)).bind
      fun s => step Text.codec isAsciiAlphanumeric s (.close 0)).map (fun s =>
        ((s.sockets 1).group, s.activeSenderIDsList.own? "drone", decide (.terminate 1 ∈ s.log))) =
        some (none, none, true) := by decide +kernel
  obtain ⟨s₁, hs₁, hf₁⟩ := Option.map_eq_some_iff.mp h₁
  obtain ⟨s₂, hs₂, hf₂⟩ := Option.map_eq_some_iff.mp h₂
  obtain ⟨s₄, hs₄, hf₄⟩ := Option.map_eq_some_iff.mp h₄
  obtain ⟨s₅, hs₅, hf₅⟩ := Option.map_eq_some_iff.mp h₅
  rw [hs₅, Option.bind_some] at h₆
  obtain ⟨s₆, hs₆, hf₆⟩ := Option.map_eq_some_iff.mp h₆
  simp only [Prod.mk.injEq, decide_eq_true_eq] at hf₅ hf₆
  obtain ⟨old, hold, hold'⟩ := Option.map_eq_some_iff.mp hf₂
  obtain ⟨hf₅, hroom, hactive, hlog⟩ := hf₅
  obtain ⟨new, hnew, hnew'⟩ := Option.map_eq_some_iff.mp hf₅
  rw [Prod.mk.injEq] at hold' hnew'
  refine ⟨old, new, s₅, s₆, ⟨s₁, s₂, hs₁, hs₂, hf₁, hold⟩, ⟨s₄, s₅, hs₄, hs₅, hf₄, hnew⟩, ?_, hs₅,
    hs₆, hroom, hf₆.1, hactive, hf₆.2.1, hlog, hf₆.2.2⟩
  rw [LoginRequest.SameUnit, hold'.1, hold'.2, hnew'.1, hnew'.2]
  exact ⟨⟨"acc", propKey_str _, propKey_str _⟩, "drone", propKey_str _, propKey_str _⟩

end

end Server

end DroneEngage
