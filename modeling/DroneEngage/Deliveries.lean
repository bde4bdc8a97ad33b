import DroneEngage.Shrinking

/-! What a handler puts out.

    Every write to a socket, to AUTH or to another server is an effect at the end of the log. `Emits`
    says that a piece of code adds only effects of a kind. The kind may depend on who is listed where
    in a state `s₀` before: since handling a message only takes things away, whoever is found later
    was listed there. -/

namespace DroneEngage
open Js

namespace Server

/-- Only effects of the kind `Q` are added to the log. -/
def Logs (Q : Effect → Prop) (s s' : Server) : Prop := ∃ l, s'.log = s.log ++ l ∧ ∀ e ∈ l, Q e

instance (Q : Effect → Prop) : IsPreorder Server (Logs Q) where
  refl := fun s => ⟨[], by rw [List.append_nil], by simp⟩
  trans := fun s t u h h' => by
    obtain ⟨l, hl, hQ⟩ := h
    obtain ⟨l', hl', hQ'⟩ := h'
    refine ⟨l ++ l', by rw [hl', hl, List.append_assoc], fun e he => ?_⟩
    rcases List.mem_append.mp he with he | he
    · exact hQ e he
    · exact hQ' e he

theorem logs_of_eq {Q : Effect → Prop} {s s' : Server} (h : s'.log = s.log) : Logs Q s s' :=
  ⟨[], by rw [h, List.append_nil], by simp⟩

/-- The rooms are not in the log. -/
theorem logs_rooms {Q : Effect → Prop} (s : Server) (sockets : SocketId → Socket)
    (accounts : Table AccountId) (accountHeap : AccountId → Account) (groupHeap : GroupId → Group)
    (nextAccount : AccountId) (nextGroup : GroupId) : Logs Q s
      { s with sockets, accounts, accountHeap, groupHeap, nextAccount, nextGroup } :=
  logs_of_eq rfl

theorem logs_emit {Q : Effect → Prop} {e : Effect} (he : Q e) (s : Server) :
    Logs Q s (s.emit e) := by
  refine ⟨[e], rfl, fun e' he' => ?_⟩
  rw [List.mem_singleton.mp he']
  exact he

/-- What is added after a first part is judged on its own. -/
theorem logs_after {Q : Effect → Prop} {s s₁ s₂ : Server} (h : Logs Q s s₁)
    (hgrow : s₁.log <+: s₂.log) : Logs Q s s₂ ↔ Logs Q s₁ s₂ := by
  refine ⟨?_, fun h' => trans_of (Logs Q) h h'⟩
  rintro ⟨l, hl, hQ⟩
  obtain ⟨l₁, hl₁, -⟩ := h
  obtain ⟨l₂, hl₂⟩ := hgrow
  refine ⟨l₂, hl₂.symm, fun e he => hQ e ?_⟩
  rw [← hl₂, hl₁, List.append_assoc] at hl
  rw [← List.append_cancel_left hl]
  exact List.mem_append_right l₁ he

/-- From what is left of `s₀`, only effects of the kind `Q` are added to the log. -/
def Emits (s₀ : Server) (Q : Effect → Prop) (s s' : Server) : Prop :=
  s₀.Shrinks s → s₀.Shrinks s' ∧ Logs Q s s'

instance (s₀ : Server) (Q : Effect → Prop) : IsPreorder Server (Emits s₀ Q) where
  refl := fun s hs => ⟨hs, refl_of (Logs Q) s⟩
  trans := fun s t u h h' hs => by
    obtain ⟨ht, hl⟩ := h hs
    obtain ⟨hu, hl'⟩ := h' ht
    exact ⟨hu, trans_of (Logs Q) hl hl'⟩

open Action

section

variable {s₀ : Server} {Q : Effect → Prop}

theorem emits_of_logs {α : Type} {m : Action Server α} (hm : OnlyShrinks m)
    (hlog : Moves (Logs Q) m) : Moves (Emits s₀ Q) m := fun s hs => ⟨hs.trans (hm s), hlog s⟩

theorem emits_emit {e : Effect} (he : Q e) : Moves (Emits s₀ Q) (modify (emit e)) :=
  emits_of_logs (onlyShrinks_emit e) (moves_modify (logs_emit he))

theorem emits_send {ws : SocketId} {message : Bytes} {isBinary : Bool}
    (h : Q (.send ws message isBinary)) : Moves (Emits s₀ Q) (send ws message isBinary) :=
  moves_bind (emits_emit h) fun _ => moves_bind moves_get fun _ =>
    moves_ite (fun _ => moves_throw _) fun _ => moves_pure ()

end

/-! ### Broadcasts -/

section

variable {s₀ : Server} {Q : Effect → Prop} (hterm : ∀ ws, Q (.terminate ws))

include hterm

theorem logs_terminateSocket (ws : SocketId) : Moves (Logs Q) (terminateSocket ws) :=
  moves_modify fun s => logs_emit (hterm ws) (setSocket ws _ s)

theorem logs_handleOrphanSocket (ws : SocketId) : Moves (Logs Q) (handleOrphanSocket ws) :=
  moves_handleOrphanSocket logs_rooms (logs_terminateSocket hterm) ws

variable {message : Bytes} {isBinary : Bool}

theorem emits_broadcastTo (senderID : SenderRef) (actorType : Option String) {ws : SocketId}
    (h : Q (.send ws message isBinary)) :
    Moves (Emits s₀ Q) (broadcastTo message isBinary senderID actorType ws) := by
  refine moves_attempt (moves_bind moves_get fun s => ?_) fun _ =>
    emits_of_logs (onlyShrinks_handleOrphanSocket ws) (logs_handleOrphanSocket hterm ws)
  cases (s.sockets ws).loginRequest with
  | none => exact moves_throw _
  | some login => exact moves_ite (fun _ => emits_send h) fun _ => moves_pure ()

/-- A broadcast in a group is sent to the members the group had. -/
theorem emits_broadcast {g : GroupId} (senderID : SenderRef) (actorType : Option String)
    (h : ∀ k ws, (s₀.groupHeap g).units.own? k = some ws → Q (.send ws message isBinary)) :
    Moves (Emits s₀ Q) (broadcast g message isBinary senderID actorType) := by
  refine moves_bind moves_get fun s => moves_forEach _ fun k _ => moves_get_bind fun t ht => ?_
  cases hu : (t.groupHeap g).units.own? k with
  | none => exact refl_of (Emits s₀ Q) t ht
  | some ws => exact emits_broadcastTo hterm senderID actorType (h k ws (ht.units g k ws hu)) t ht

theorem emits_broadcastInAccount {a : AccountId} (senderID : SenderRef) (actorType : Option String)
    (h : ∀ l g, (s₀.accountHeap a).groups.own? l = some g →
      ∀ k ws, (s₀.groupHeap g).units.own? k = some ws → Q (.send ws message isBinary)) :
    Moves (Emits s₀ Q) (broadcastInAccount a message isBinary senderID actorType) := by
  refine moves_bind moves_get fun s => moves_forEach _ fun l _ => moves_get_bind fun t ht => ?_
  cases hg : (t.accountHeap a).groups.own? l with
  | none => exact refl_of (Emits s₀ Q) t ht
  | some g =>
    exact emits_broadcast hterm senderID actorType (h l g (ht.groups a l g hg)) t ht

/-- A broadcast to all accounts is sent to members of their groups. -/
theorem emits_broadcastEverywhere (senderID : SenderRef) (actorType : Option String)
    (h : ∀ g k ws, (s₀.groupHeap g).units.own? k = some ws → Q (.send ws message isBinary)) :
    Moves (Emits s₀ Q) (broadcastEverywhere message isBinary senderID actorType) := by
  refine moves_bind moves_get fun s => moves_forEach _ fun k _ => moves_get_bind fun t ht => ?_
  cases t.accounts.own? k with
  | none => exact refl_of (Emits s₀ Q) t ht
  | some a => exact emits_broadcastInAccount hterm senderID actorType (fun _ g _ => h g) t ht

end

end Server

end DroneEngage
