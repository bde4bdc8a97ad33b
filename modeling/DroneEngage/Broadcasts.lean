import DroneEngage.Isolation
import DroneEngage.Rooms
import DroneEngage.Stamps

/-! Who a broadcast reaches.

    The loop of a broadcast goes on when a member's socket fails: that member is removed, and with
    it perhaps its group, while the loop is under way. A member whose turn comes later is still
    there, because a failing socket takes out its own row and no other. So a listed unit is sent a
    broadcast exactly when the loop wants it, in a room and, by the legacy path, over all rooms. -/

namespace DroneEngage
open Js

namespace Server

open Action

/-- The socket is sent something. -/
def Receives (w : SocketId) (s s' : Server) : Prop :=
  ∃ m b, .send w m b ∈ s'.log.drop s.log.length

/-- The effect sends nothing to the socket. -/
def Misses (w : SocketId) (e : Effect) : Prop := ∀ m b, e ≠ .send w m b

section

variable {w : SocketId} {s s₁ s' : Server}

theorem not_receives_iff (hgrow : s.log <+: s'.log) :
    ¬ Receives w s s' ↔ Logs (Misses w) s s' := by
  obtain ⟨l, hl⟩ := hgrow
  have hdrop : s'.log.drop s.log.length = l := by rw [← hl, List.drop_left]
  constructor
  · intro h
    refine ⟨l, hl.symm, ?_⟩
    rintro e he m b rfl
    exact h ⟨m, b, by rw [hdrop]; exact he⟩
  · rintro ⟨l', hl', hQ⟩ ⟨m, b, hmem⟩
    rw [hl', List.drop_left] at hmem
    exact hQ _ hmem m b rfl

/-- What is received first is received. -/
theorem Receives.grow (h : Receives w s s₁) (hgrow : s₁.log <+: s'.log) : Receives w s s' := by
  obtain ⟨m, b, hmem⟩ := h
  obtain ⟨l, hl⟩ := hgrow
  refine ⟨m, b, ?_⟩
  rw [← hl]
  rw [List.drop_append]
  exact List.mem_append_left _ hmem

/-- What is received later is received. -/
theorem Receives.after (h : Receives w s₁ s') (hgrow : s.log <+: s₁.log) : Receives w s s' := by
  obtain ⟨m, b, hmem⟩ := h
  obtain ⟨l, hl⟩ := hgrow
  refine ⟨m, b, ?_⟩
  rw [← hl, List.length_append, ← List.drop_drop] at hmem
  exact List.mem_of_mem_drop hmem

/-- What misses the socket changes nothing about what it receives. -/
theorem receives_after_iff (h : Logs (Misses w) s s₁) (hgrow : s₁.log <+: s'.log) :
    Receives w s s' ↔ Receives w s₁ s' := by
  obtain ⟨l, hl, -⟩ := id h
  have hgrow₀ : s.log <+: s₁.log := ⟨l, hl.symm⟩
  rw [← not_iff_not, not_receives_iff (hgrow₀.trans hgrow), not_receives_iff hgrow]
  exact logs_after h hgrow

end

/-! ### Loops -/

section

variable {α : Type} {w : SocketId} {f : α → Action Server Unit} {P : Server → Prop}
  (hgoes : ∀ y s, ¬ (f y).Escapes s) (hgrow : ∀ y s, s.log <+: ((f y).final s).log)

include hgoes

theorem final_forEach_cons (y : α) (ys : List α) (s : Server) :
    (forEach (y :: ys) f).final s = (forEach ys f).final ((f y).final s) :=
  final_bind_of_ok (run_of_not_escapes (hgoes y s))

include hgrow

theorem grows_forEach (ys : List α) : ∀ s : Server, s.log <+: ((forEach ys f).final s).log := by
  induction ys with
  | nil => exact fun s => List.prefix_rfl
  | cons y ys ih =>
    intro s
    rw [final_forEach_cons hgoes]
    exact (hgrow y s).trans (ih _)

variable (hstays : ∀ y s, P s → Receives w s ((f y).final s) ∨ P ((f y).final s))

include hstays

/-- A loop leaves a unit in place that no round serves or moves. -/
theorem forEach_stays (ys : List α) :
    ∀ s, P s → Receives w s ((forEach ys f).final s) ∨ P ((forEach ys f).final s) := by
  induction ys with
  | nil => exact fun s hs => Or.inr hs
  | cons y ys ih =>
    intro s hs
    rw [final_forEach_cons hgoes]
    rcases hstays y s hs with h | h
    · exact Or.inl (h.grow (grows_forEach hgoes hgrow ys _))
    · exact (ih _ h).imp_left fun h => h.after (hgrow y s)

/-- A loop gets to a unit that stays in place until its turn comes. -/
theorem forEach_receives {x : α} (hturn : ∀ s, P s → Receives w s ((f x).final s)) (ys : List α) :
    ∀ s, x ∈ ys → P s → Receives w s ((forEach ys f).final s) := by
  induction ys with
  | nil => exact fun s hx => absurd hx (by simp)
  | cons y ys ih =>
    intro s hx hs
    rw [final_forEach_cons hgoes]
    have hrest := grows_forEach hgoes hgrow ys ((f y).final s)
    rcases hstays y s hs with h | h
    · exact h.grow hrest
    · rcases List.mem_cons.mp hx with rfl | hx'
      · exact (hturn s hs).grow hrest
      · exact (ih _ hx' h).after (hgrow y s)

end

/-! ### The rounds of the three loops -/

section

variable (g : GroupId) (a : AccountId) (message : Bytes) (isBinary : Bool) (senderID : SenderRef)
  (actorType : Option String)

/-- A round of the loop over the members of a group. -/
def broadcastRound (unitName : String) : Action Server Unit := do
  let s ← get
  match (s.groupHeap g).units.own? unitName with
  | none => pure ()
  | some ws => broadcastTo message isBinary senderID actorType ws

/-- A round of the loop over the groups of an account. -/
def accountRound (groupId : String) : Action Server Unit := do
  let s ← get
  match (s.accountHeap a).groups.own? groupId with
  | none => pure ()
  | some g => broadcast g message isBinary senderID actorType

/-- A round of the loop over the accounts. -/
def everyRound (accountId : String) : Action Server Unit := do
  let s ← get
  match s.accounts.own? accountId with
  | none => pure ()
  | some a => broadcastInAccount a message isBinary senderID actorType

theorem not_escapes_broadcastTo (v : SocketId) (s : Server) :
    ¬ (broadcastTo message isBinary senderID actorType v).Escapes s :=
  not_escapes_attempt fun _ _ => not_escapes_attempt fun _ s' => not_escapes_pure () s'

theorem round_goes (n : String) (s : Server) :
    ¬ (broadcastRound g message isBinary senderID actorType n).Escapes s := by
  rw [broadcastRound, escapes_get_bind]
  cases (s.groupHeap g).units.own? n with
  | none => exact not_escapes_pure () s
  | some v => exact not_escapes_broadcastTo message isBinary senderID actorType v s

theorem accountRound_goes (n : String) (s : Server) :
    ¬ (accountRound a message isBinary senderID actorType n).Escapes s := by
  rw [accountRound, escapes_get_bind]
  cases (s.accountHeap a).groups.own? n with
  | none => exact not_escapes_pure () s
  | some g => exact not_escapes_forEach _ (round_goes g message isBinary senderID actorType)

theorem everyRound_goes (n : String) (s : Server) :
    ¬ (everyRound message isBinary senderID actorType n).Escapes s := by
  rw [everyRound, escapes_get_bind]
  cases s.accounts.own? n with
  | none => exact not_escapes_pure () s
  | some a => exact not_escapes_forEach _ (accountRound_goes a message isBinary senderID actorType)

theorem round_grows (n : String) (s : Server) :
    s.log <+: ((broadcastRound g message isBinary senderID actorType n).final s).log := by
  rw [broadcastRound, final_get_bind]
  cases (s.groupHeap g).units.own? n with
  | none => exact List.prefix_rfl
  | some v =>
    exact (moves_broadcastTo (fun v => onlyShrinks_send v _ _) onlyShrinks_handleOrphanSocket
      senderID actorType v s).log

theorem accountRound_grows (n : String) (s : Server) :
    s.log <+: ((accountRound a message isBinary senderID actorType n).final s).log := by
  rw [accountRound, final_get_bind]
  cases (s.accountHeap a).groups.own? n with
  | none => exact List.prefix_rfl
  | some g =>
    exact (moves_broadcast (fun v => onlyShrinks_send v _ _) onlyShrinks_handleOrphanSocket g
      senderID actorType s).log

theorem everyRound_grows (n : String) (s : Server) :
    s.log <+: ((everyRound message isBinary senderID actorType n).final s).log := by
  rw [everyRound, final_get_bind]
  cases s.accounts.own? n with
  | none => exact List.prefix_rfl
  | some a =>
    exact (moves_broadcastInAccount (fun v => onlyShrinks_send v _ _) onlyShrinks_handleOrphanSocket
      a senderID actorType s).log

end

/-! ### A unit that is not wanted -/

/-- Nothing is added, and nothing is sent to the socket, logged in like this. -/
def Passes (w : SocketId) (login : LoginRequest) (s s' : Server) : Prop :=
  s.Shrinks s' ∧ (s.Consistent → (s.sockets w).loginRequest = some login → Logs (Misses w) s s')

instance (w : SocketId) (login : LoginRequest) : IsPreorder Server (Passes w login) where
  refl := fun s => ⟨.refl s, fun _ _ => refl_of (Logs (Misses w)) s⟩
  trans := fun _ _ _ h h' => ⟨h.1.trans h'.1, fun hs hl => trans_of (Logs (Misses w)) (h.2 hs hl)
    (h'.2 (hs.shrinks h.1) (((h.1.sockets w).loginRequest).trans hl))⟩

section

variable {w : SocketId} {login : LoginRequest} {senderID : SenderRef} {actorType : Option String}
  {message : Bytes} {isBinary : Bool}

theorem misses_terminate (v : SocketId) : Misses w (.terminate v) := by
  rintro m b ⟨⟩

theorem misses_send {v : SocketId} (hne : v ≠ w) (m : Bytes) (b : Bool) :
    Misses w (.send v m b) := by
  rintro m' b' ⟨⟩
  exact hne rfl

variable (hw : wants login w senderID actorType = false)

include hw

theorem passes_broadcast (g : GroupId) :
    Moves (Passes w login) (broadcast g message isBinary senderID actorType) := by
  refine moves_bind moves_get fun _ => moves_forEach _ fun k _ => moves_get_bind fun s => ?_
  cases hv : (s.groupHeap g).units.own? k with
  | none => exact refl_of (Passes w login) s
  | some v =>
    refine ⟨moves_broadcastTo (fun v => onlyShrinks_send v _ _)
      onlyShrinks_handleOrphanSocket _ _ v s, fun hs hl => ?_⟩
    obtain ⟨l, hlv, -⟩ := hs.member g k v hv
    rw [broadcastTo_final hlv]
    by_cases hvw : v = w
    · subst hvw
      obtain rfl : login = l := Option.some.inj (hl.symm.trans hlv)
      rw [hw, if_neg Bool.false_ne_true]
      exact refl_of (Logs (Misses v)) s
    · have hsent : Logs (Misses w) s (s.emit (.send v message isBinary)) :=
        logs_emit (misses_send hvw _ _) s
      split
      · split
        · exact trans_of (Logs (Misses w)) hsent
            (logs_handleOrphanSocket misses_terminate v _)
        · exact hsent
      · exact refl_of (Logs (Misses w)) s

theorem passes_broadcastInAccount (a : AccountId) :
    Moves (Passes w login) (broadcastInAccount a message isBinary senderID actorType) := by
  refine moves_bind moves_get fun _ => moves_forEach _ fun l _ => moves_bind moves_get fun s => ?_
  cases (s.accountHeap a).groups.own? l with
  | none => exact moves_pure ()
  | some g => exact passes_broadcast hw g

theorem passes_broadcastEverywhere :
    Moves (Passes w login) (broadcastEverywhere message isBinary senderID actorType) := by
  refine moves_bind moves_get fun _ => moves_forEach _ fun k _ => moves_bind moves_get fun s => ?_
  cases s.accounts.own? k with
  | none => exact moves_pure ()
  | some a => exact passes_broadcastInAccount hw a

end

/-! ### A unit that is wanted -/

section

variable {s : Server} {g g' : GroupId} {k l : String} {v w : SocketId}

theorem Consistent.home_eq (hs : s.Consistent) (hv : (s.groupHeap g').units.own? l = some v)
    (hg : (s.sockets v).group = some g) : g = g' := by
  rcases hs.home g' l v hv with hh | hh
  · exact Option.some.inj (hg.symm.trans hh)
  · rw [hg] at hh; exact absurd hh (by simp)

/-- A failing socket takes out no row but its own. -/
theorem handleOrphanSocket_units (hs : s.Consistent)
    (hv : (s.groupHeap g').units.own? l = some v) (hu : (s.groupHeap g).units.own? k = some w)
    (hne : v ≠ w) : (((handleOrphanSocket v).final s).groupHeap g).units.own? k = some w := by
  rcases handleOrphanSocket_final v s with ⟨-, hfin⟩ | ⟨h, hgroup, hfin⟩
  · rw [hfin]; exact hu
  · obtain rfl := hs.home_eq hv hgroup
    rw [hfin]
    change (((deleteMemberByName h (s.sockets v).name false).final s).groupHeap g).units.own? k = _
    rcases deleteMemberByName_units h (s.sockets v).name false s g k with heq | ⟨rfl, hf, hk⟩
    · rw [heq]; exact hu
    · -- the name of the failing member is its own row
      obtain ⟨login, hl, hkey, -⟩ := hs.member g l v hv
      rw [(hs.named g l v login hv hl).resolve_right hf, hkey] at hk
      obtain rfl := Except.ok.inj hk
      exact absurd (Option.some.inj (hv.symm.trans hu)) hne

theorem dropIfEmpty_groups (h : GroupId) (s : Server) (a : AccountId) (m : String) :
    (((dropIfEmpty h).final s).accountHeap a).groups.own? m = (s.accountHeap a).groups.own? m ∨
      a = (s.groupHeap h).parentAccount ∧ propKey (s.groupHeap h).ID = .ok m ∧
        (s.groupHeap h).units.keys = [] := by
  by_cases he : (s.groupHeap h).units.keys = []
  · rw [dropIfEmpty, final_get_bind, if_pos he]
    cases hid : propKey (s.groupHeap h).ID with
    | error e => exact Or.inl rfl
    | ok id =>
      rw [final_ok_bind, final_modify, setAccount_accountHeap]
      split
      · next ha =>
        by_cases hm : m = id
        · exact Or.inr ⟨ha, by rw [hm], he⟩
        · left
          change ((s.accountHeap _).groups.delete id).own? m = _
          rw [Table.own?_delete, if_neg hm, ha]
      · exact Or.inl rfl
  · rw [dropIfEmpty, final_get_bind, if_neg he]; exact Or.inl rfl

theorem deleteMemberByName_groups (h : GroupId) (unitname : Val) (s : Server) (a : AccountId)
    (m : String) :
    (((deleteMemberByName h unitname false).final s).accountHeap a).groups.own? m =
        (s.accountHeap a).groups.own? m ∨
      a = (s.groupHeap h).parentAccount ∧ propKey (s.groupHeap h).ID = .ok m ∧
        (((deleteMemberByName h unitname false).final s).groupHeap h).units.keys = [] := by
  rcases deleteMemberByName_final h unitname false s with ⟨-, hfin⟩ | ⟨k, ws, -, hfin⟩
  · rw [hfin]; exact Or.inl rfl
  · have hdrop : (deleteMemberByName h unitname false).final s =
        (dropIfEmpty h).final (unlink h k ws s) := hfin.trans (final_bind_pure _ () _)
    have hsame : (unlink h k ws s).groupHeap h =
        { s.groupHeap h with units := (s.groupHeap h).units.delete k } := by
      rw [unlink, setSocket_groupHeap, setGroup_groupHeap, if_pos rfl]
    rw [hdrop, dropIfEmpty_groupHeap]
    refine (dropIfEmpty_groups h (unlink h k ws s) a m).imp id ?_
    rintro ⟨ha, hid, he⟩
    rw [hsame] at ha hid
    exact ⟨ha, hid, he⟩

/-- A failing socket of another room, or of a room that keeps a member, takes out no row of a
    group. -/
theorem handleOrphanSocket_groups (hs : s.Consistent) {a : AccountId} {m : String}
    (hv : (s.groupHeap g').units.own? l = some v)
    (hkeep : a = (s.groupHeap g').parentAccount → propKey (s.groupHeap g').ID = .ok m →
      ∃ k w, w ≠ v ∧ (s.groupHeap g').units.own? k = some w) :
    (((handleOrphanSocket v).final s).accountHeap a).groups.own? m =
      (s.accountHeap a).groups.own? m := by
  rcases handleOrphanSocket_final v s with ⟨-, hfin⟩ | ⟨h, hgroup, hfin⟩
  · rw [hfin]
  · obtain rfl := hs.home_eq hv hgroup
    have hrows := deleteMemberByName_groups h (s.sockets v).name s a m
    rcases hrows with heq | ⟨ha, hid, he⟩
    · rw [hfin]; exact heq
    · exfalso
      obtain ⟨k, w, hne, hu⟩ := hkeep ha hid
      have hleft := handleOrphanSocket_units hs hv hu hne.symm
      rw [hfin] at hleft
      change (((deleteMemberByName h (s.sockets v).name false).final s).groupHeap h).units.own? k
        = _ at hleft
      rw [Table.keys_eq_nil_iff] at he
      rw [he] at hleft
      exact absurd hleft (by simp)

theorem dropIfEmpty_accounts (g : GroupId) (s : Server) :
    ((dropIfEmpty g).final s).accounts = s.accounts := by
  by_cases he : (s.groupHeap g).units.keys = []
  · rw [dropIfEmpty, final_get_bind, if_pos he]
    cases propKey (s.groupHeap g).ID with
    | error e => rfl
    | ok id => rfl
  · rw [dropIfEmpty, final_get_bind, if_neg he]; rfl

theorem handleOrphanSocket_accounts (v : SocketId) (s : Server) :
    ((handleOrphanSocket v).final s).accounts = s.accounts := by
  rcases handleOrphanSocket_final v s with ⟨-, hfin⟩ | ⟨g, -, hfin⟩
  · rw [hfin]
  · rw [hfin]
    change ((deleteMemberByName g (s.sockets v).name false).final s).accounts = _
    rcases deleteMemberByName_final g (s.sockets v).name false s with ⟨-, h⟩ | ⟨k, ws, -, h⟩
    · rw [h]
    · exact ((congrArg accounts (h.trans (final_bind_pure _ () _))).trans
        (dropIfEmpty_accounts g (unlink g k ws s)))

/-- The unit is listed in the group, logged in like this. -/
structure Stands (s : Server) (g : GroupId) (k : String) (w : SocketId) (login : LoginRequest) :
    Prop where
  consistent : s.Consistent
  unit : (s.groupHeap g).units.own? k = some w
  loginRequest : (s.sockets w).loginRequest = some login

/-- The tables lead to the group of the unit. -/
structure Hosts (s : Server) (ka kg : String) (a : AccountId) (g : GroupId) : Prop where
  account : s.accounts.own? ka = some a
  group : (s.accountHeap a).groups.own? kg = some g

variable {login : LoginRequest} {senderID : SenderRef} {actorType : Option String}
  {message : Bytes} {isBinary : Bool}

theorem Stands.emit (h : s.Stands g k w login) (e : Effect) : (s.emit e).Stands g k w login :=
  ⟨h.consistent.shrinks (shrinks_emit e s), h.unit, h.loginRequest⟩

theorem Stands.removeDead (h : s.Stands g k w login) (hv : (s.groupHeap g').units.own? l = some v)
    (hne : v ≠ w) : ((handleOrphanSocket v).final s).Stands g k w login := by
  have hshrinks := onlyShrinks_handleOrphanSocket v s
  exact ⟨h.consistent.shrinks hshrinks, handleOrphanSocket_units h.consistent hv h.unit hne,
    ((hshrinks.sockets w).loginRequest).trans h.loginRequest⟩

/-- The turn of a unit that is wanted. -/
theorem Stands.served (h : s.Stands g k w login) (hw : wants login w senderID actorType = true) :
    Receives w s ((broadcastTo message isBinary senderID actorType w).final s) := by
  have hsent : Receives w s (s.emit (.send w message isBinary)) :=
    ⟨message, isBinary, by rw [emit_log, List.drop_left]; exact List.mem_singleton.mpr rfl⟩
  rw [broadcastTo_final h.loginRequest, if_pos hw]
  split
  · exact hsent.grow (onlyShrinks_handleOrphanSocket w _).log
  · exact hsent

/-- The turn of a member: it is the unit's own, the state only gains an effect, or the member is
    removed. -/
theorem Stands.turn (h : s.Stands g k w login) (hw : wants login w senderID actorType = true)
    (hv : (s.groupHeap g').units.own? l = some v) {P : Server → Prop} (hs : P s)
    (hemit : P (s.emit (.send v message isBinary)))
    (hdead : v ≠ w → P ((handleOrphanSocket v).final (s.emit (.send v message isBinary)))) :
    Receives w s ((broadcastTo message isBinary senderID actorType v).final s) ∨
      P ((broadcastTo message isBinary senderID actorType v).final s) := by
  by_cases hvw : v = w
  · subst hvw
    exact Or.inl (h.served hw)
  · right
    obtain ⟨lv, hlv, -⟩ := h.consistent.member g' l v hv
    rw [broadcastTo_final hlv]
    split
    · split
      · exact hdead hvw
      · exact hemit
    · exact hs

/-- A broadcast in its group reaches a unit that is wanted. -/
theorem Stands.broadcast (h : s.Stands g k w login) (hw : wants login w senderID actorType = true) :
    Receives w s ((broadcast g message isBinary senderID actorType).final s) := by
  refine forEach_receives (P := fun t => t.Stands g k w login)
    (round_goes g message isBinary senderID actorType)
    (round_grows g message isBinary senderID actorType) (fun n t ht => ?_) (fun t ht => ?_) _ s
    (Table.mem_keys_iff.mpr ⟨w, h.unit⟩) h
  · rw [broadcastRound, final_get_bind]
    cases hv : (t.groupHeap g).units.own? n with
    | none => exact Or.inr ht
    | some v =>
      exact ht.turn (P := fun t => t.Stands g k w login) hw hv ht (ht.emit _)
        fun hne => (ht.emit _).removeDead hv hne
  · rw [broadcastRound, final_get_bind, ht.unit]
    exact ht.served hw

/-! ### A broadcast over all rooms -/

/-- A unit in a room that the tables lead to. -/
abbrev Placed (s : Server) (ka kg k : String) (a : AccountId) (g : GroupId) (w : SocketId)
    (login : LoginRequest) : Prop := s.Stands g k w login ∧ s.Hosts ka kg a g

variable {ka kg : String} {a b : AccountId}

/-- The group has another row than the one under `kg` in the account. -/
def Apart (s : Server) (a : AccountId) (kg : String) (g : GroupId) : Prop :=
  a = (s.groupHeap g).parentAccount → propKey (s.groupHeap g).ID ≠ .ok kg

theorem Shrinks.apart {s' : Server} (h : s.Shrinks s') (hapart : s.Apart a kg g) :
    s'.Apart a kg g := by
  intro ha
  rw [h.groupID]
  exact hapart (ha.trans (h.parentAccount g))

theorem Placed.emit (h : s.Placed ka kg k a g w login) (e : Effect) :
    (s.emit e).Placed ka kg k a g w login := ⟨h.1.emit e, h.2.account, h.2.group⟩

theorem Placed.removeDead (h : s.Placed ka kg k a g w login) (hapart : s.Apart a kg g')
    (hv : (s.groupHeap g').units.own? l = some v) (hne : v ≠ w) :
    ((handleOrphanSocket v).final s).Placed ka kg k a g w login := by
  have hrow := handleOrphanSocket_groups (a := a) (m := kg) h.1.consistent hv
    fun ha hid => absurd hid (hapart ha)
  refine ⟨h.1.removeDead hv hne, ?_, ?_⟩
  · rw [handleOrphanSocket_accounts]; exact h.2.account
  · rw [hrow]; exact h.2.group

/-- A broadcast in another group reaches a unit that is wanted, or leaves it where it is. -/
theorem Placed.broadcastOther (h : s.Placed ka kg k a g w login)
    (hw : wants login w senderID actorType = true) (hapart : s.Apart a kg g') :
    Receives w s ((broadcast g' message isBinary senderID actorType).final s) ∨
      ((broadcast g' message isBinary senderID actorType).final s).Placed ka kg k a g w login := by
  have hloop := forEach_stays (P := fun t => t.Placed ka kg k a g w login ∧ t.Apart a kg g')
    (round_goes g' message isBinary senderID actorType)
    (round_grows g' message isBinary senderID actorType) (w := w) (fun n t ht => ?_)
    (s.groupHeap g').units.keys s ⟨h, hapart⟩
  · exact hloop.imp_right fun h => h.1
  · rw [broadcastRound, final_get_bind]
    cases hv : (t.groupHeap g').units.own? n with
    | none => exact Or.inr ht
    | some v =>
      have hsent := (shrinks_emit (.send v message isBinary) t).apart ht.2
      exact ht.1.1.turn (P := fun t => t.Placed ka kg k a g w login ∧ t.Apart a kg g') hw hv ht
        ⟨ht.1.emit _, hsent⟩ fun hvw => ⟨(ht.1.emit _).removeDead hsent hv hvw,
          (onlyShrinks_handleOrphanSocket v _).apart hsent⟩

/-- A broadcast in some account: it gets to the unit in its turn, and not past it. -/
theorem Placed.broadcastInAccount (h : s.Placed ka kg k a g w login)
    (hw : wants login w senderID actorType = true) (b : AccountId) :
    (Receives w s ((broadcastInAccount b message isBinary senderID actorType).final s) ∨
      ((broadcastInAccount b message isBinary senderID actorType).final s).Placed ka kg k a g w
        login) ∧
    (b = a → Receives w s ((broadcastInAccount b message isBinary senderID actorType).final s)) := by
  have hstays : ∀ m t, t.Placed ka kg k a g w login →
      Receives w t ((accountRound b message isBinary senderID actorType m).final t) ∨
      ((accountRound b message isBinary senderID actorType m).final t).Placed ka kg k a g w
        login := by
    intro m t ht
    rw [accountRound, final_get_bind]
    cases hg : (t.accountHeap b).groups.own? m with
    | none => exact Or.inr ht
    | some g' =>
      by_cases hgg : g' = g
      · subst hgg
        exact Or.inl (ht.1.broadcast hw)
      · refine ht.broadcastOther hw fun ha hid => hgg ?_
        have hs := ht.1.consistent
        rw [hs.group_parent b m g' hg] at ha
        rw [hs.group_key b m g' hg] at hid
        obtain rfl := Except.ok.inj hid
        rw [← ha, ht.2.group] at hg
        exact (Option.some.inj hg).symm
  refine ⟨forEach_stays (accountRound_goes b message isBinary senderID actorType)
    (accountRound_grows b message isBinary senderID actorType) hstays _ s h, ?_⟩
  rintro rfl
  refine forEach_receives (accountRound_goes b message isBinary senderID actorType)
    (accountRound_grows b message isBinary senderID actorType) hstays (fun t ht => ?_) _ s
    (Table.mem_keys_iff.mpr ⟨g, h.2.group⟩) h
  rw [accountRound, final_get_bind, ht.2.group]
  exact ht.1.broadcast hw

/-- A broadcast over all rooms reaches a unit that is wanted. -/
theorem Placed.broadcastEverywhere (h : s.Placed ka kg k a g w login)
    (hw : wants login w senderID actorType = true) :
    Receives w s ((broadcastEverywhere message isBinary senderID actorType).final s) := by
  refine forEach_receives (P := fun t => t.Placed ka kg k a g w login)
    (everyRound_goes message isBinary senderID actorType)
    (everyRound_grows message isBinary senderID actorType) (fun m t ht => ?_) (fun t ht => ?_) _ s
    (Table.mem_keys_iff.mpr ⟨a, h.2.account⟩) h
  · rw [everyRound, final_get_bind]
    cases t.accounts.own? m with
    | none => exact Or.inr ht
    | some b => exact (ht.broadcastInAccount hw b).1
  · rw [everyRound, final_get_bind, ht.2.account]
    exact (ht.broadcastInAccount hw a).2 rfl

/-! ### Exactly the units that are wanted -/

/-- A listed unit is sent a broadcast in its group exactly when it is wanted. -/
theorem Stands.broadcast_iff (h : s.Stands g k w login) :
    Receives w s ((Server.broadcast g message isBinary senderID actorType).final s) ↔
      wants login w senderID actorType = true := by
  cases hw : wants login w senderID actorType with
  | true => exact iff_of_true (h.broadcast hw) rfl
  | false =>
    have hpass : Passes w login s ((Server.broadcast g message isBinary senderID actorType).final s) :=
      passes_broadcast hw g s
    exact iff_of_false ((not_receives_iff hpass.1.log).mpr (hpass.2 h.consistent h.loginRequest))
      (by simp)

/-- So it is with a broadcast over all rooms. -/
theorem Placed.broadcastEverywhere_iff (h : s.Placed ka kg k a g w login) :
    Receives w s ((Server.broadcastEverywhere message isBinary senderID actorType).final s) ↔
      wants login w senderID actorType = true := by
  cases hw : wants login w senderID actorType with
  | true => exact iff_of_true (h.broadcastEverywhere hw) rfl
  | false =>
    have hpass : Passes w login s
        ((Server.broadcastEverywhere message isBinary senderID actorType).final s) :=
      passes_broadcastEverywhere hw s
    exact iff_of_false
      ((not_receives_iff hpass.1.log).mpr (hpass.2 h.1.consistent h.1.loginRequest)) (by simp)

/-- What misses the unit afterwards changes nothing about what it has received. -/
theorem receives_then_iff {s₁ s' : Server} (hgrow : s.log <+: s₁.log)
    (h : Logs (Misses w) s₁ s') : Receives w s s' ↔ Receives w s s₁ := by
  obtain ⟨l, hl, hQ⟩ := h
  refine ⟨fun hr => ?_, fun hr => hr.grow ⟨l, hl.symm⟩⟩
  by_contra hnot
  have hboth := trans_of (Logs (Misses w)) ((not_receives_iff hgrow).mp hnot) ⟨l, hl, hQ⟩
  exact (not_receives_iff (hgrow.trans ⟨l, hl.symm⟩)).mpr hboth hr

/-- The actor types a route can ask for. -/
def IsAudience (actorType : Option String) : Prop :=
  actorType = none ∨ actorType = some Const.actorGCS ∨ actorType = some Const.actorDrone

theorem fallbackDelivery_eq (ha : IsAudience actorType) (v : Val) :
    fallbackDelivery actorType message isBinary v =
      Server.broadcastEverywhere message isBinary ⟨v, none⟩ actorType := by
  rcases ha with rfl | rfl | rfl
  · rfl
  · rfl
  · rfl

theorem index_of_own {β : Type} {proto : List String} {t : Table β} {v : Val} {x : β} {m : String}
    (hm : propKey v = .ok m) (hx : t.own? m = some x) : t.index proto v = .ok (.own x) := by
  rw [Table.index, hm]
  exact congrArg Except.ok (Table.get_eq_own_iff.mpr hx)

/-- The scoped delivery finds the room. -/
theorem Hosts.sendToAccountGroup (h : s.Hosts ka kg a g) {aid gid : Val}
    (haid : propKey aid = .ok ka) (hgid : propKey gid = .ok kg) :
    sendToAccountGroup message isBinary senderID aid gid actorType s =
      (.ok true, (Server.broadcast g message isBinary senderID actorType).final s) := by
  have hgoes : ¬ (Server.broadcast g message isBinary senderID actorType).Escapes s :=
    not_escapes_forEach _ (round_goes g message isBinary senderID actorType)
  rw [Server.sendToAccountGroup, run_bind_get, index_of_own haid h.account, run_bind_ok]
  simp only [index_of_own hgid h.group, run_bind_ok]
  rw [run_bind_of_ok (run_of_not_escapes hgoes)]
  rfl

/-- The delivery of a relayed broadcast, in the room of its stamps or by the legacy path. -/
theorem Placed.deliver_iff (h : s.Placed ka kg k a g w login) (ha : IsAudience actorType)
    {jmsg : Json} (haid : propKey (jmsg.field "_aid") = .ok ka)
    (hgid : propKey (jmsg.field "_gid") = .ok kg) (v : Val) :
    Receives w s ((deliverExternalBroadcast message isBinary v jmsg actorType).final s) ↔
      wants login w ⟨v, none⟩ actorType = true := by
  have hstart : Logs (Misses w) s (s.emit (.deliverBroadcast message)) :=
    logs_emit (by rintro m b ⟨⟩) s
  have hplaced := h.emit (.deliverBroadcast message)
  have hshrinks : ∀ c, OnlyShrinks
      (Server.broadcastEverywhere message isBinary ⟨v, none⟩ c) := fun c =>
    moves_broadcastEverywhere (fun v => onlyShrinks_send v _ _) onlyShrinks_handleOrphanSocket _ c
  rw [deliverExternalBroadcast, final_modify_bind]
  by_cases hstamped : (jmsg.field "_aid").isSome ∧ (jmsg.field "_gid").isSome
  · rw [if_pos hstamped, final_bind_of_ok (hplaced.2.sendToAccountGroup haid hgid), if_pos rfl,
      final_pure, receives_after_iff hstart (onlyShrinks_broadcast _ _ _ _ _ _).log]
    exact hplaced.1.broadcast_iff
  · rw [if_neg hstamped, fallbackDelivery_eq ha, receives_after_iff hstart (hshrinks _ _).log]
    exact hplaced.broadcastEverywhere_iff

end

end Server

end DroneEngage
