import DroneEngage.Lts
import Mathlib.Data.List.Basic
import Mathlib.Logic.Function.Basic

/-! Tunnels.

    A tunnel has two ends, and whoever spoke last at an end is its peer. What is heard at one end is
    carried to the peer at the other one; it is lost while there is none or while the tunnel is
    blocked. A tunnel that was built anew has no peers. Tunnels go by names, and may be opened, rebuilt
    and closed at any time. -/

namespace Tunnels

variable {ι μ α : Type}

inductive End where
  | near
  | far
  deriving DecidableEq

def End.other : End → End
  | .near => .far
  | .far => .near

/-- A tunnel. `α` are the addresses of peers. -/
structure Tunnel (α : Type) where
  peer : End → Option α := fun _ => none
  blocked : Bool := false

/-- What comes in or goes out at an end. `ι` are the names, `μ` the messages. -/
structure Passage (ι μ α : Type) where
  name : ι
  side : End
  message : μ
  peer : α
  deriving DecidableEq

namespace Tunnel

def hear (x : End) (a : α) (t : Tunnel α) : Tunnel α :=
  { t with peer := Function.update t.peer x (some a) }

def renew (t : Tunnel α) : Tunnel α := { blocked := t.blocked }

/-- What is carried when this is heard. -/
def carry (t : Tunnel α) (d : Passage ι μ α) : List (Passage ι μ α) :=
  if t.blocked then []
  else (t.peer d.side.other).toList.map fun a => ⟨d.name, d.side.other, d.message, a⟩

end Tunnel

/-- What happens to tunnels. -/
inductive Label (ι μ α : Type) where
  | hear (d : Passage ι μ α)
  | block (i : ι) (blocked : Bool)
  | request (i : ι)
  | close (i : ι)
  | tend
  | idle
  deriving DecidableEq

inductive Entry (ι μ α : Type) where
  | did (l : Label ι μ α)
  | carried (d : Passage ι μ α)
  deriving DecidableEq

structure State (ι μ α : Type) where
  tunnels : ι → Option (Tunnel α) := fun _ => none
  journal : List (Entry ι μ α) := []

section

variable [DecidableEq ι]

/-- One step: a request may open or rebuild a tunnel or leave it as it is, and tunnels that are tended
    may be rebuilt or closed. -/
inductive Step : State ι μ α → Label ι μ α → State ι μ α → Prop
  | hear {T : State ι μ α} {t : Tunnel α} (d : Passage ι μ α) : T.tunnels d.name = some t →
    Step T (.hear d) ⟨Function.update T.tunnels d.name (some (t.hear d.side d.peer)),
      T.journal ++ .did (.hear d) :: (t.carry d).map .carried⟩
  | block (T : State ι μ α) (i : ι) (blocked : Bool) : Step T (.block i blocked)
    ⟨Function.update T.tunnels i ((T.tunnels i).map fun t => { t with blocked }),
      T.journal ++ [.did (.block i blocked)]⟩
  | request {T : State ι μ α} (i : ι) {new : Option (Tunnel α)} :
    new = T.tunnels i ∨ new = (T.tunnels i).map Tunnel.renew ∨ new = some {} →
    Step T (.request i) ⟨Function.update T.tunnels i new, T.journal ++ [.did (.request i)]⟩
  | close {T : State ι μ α} (i : ι) {new : Option (Tunnel α)} : new = T.tunnels i ∨ new = none →
    Step T (.close i) ⟨Function.update T.tunnels i new, T.journal ++ [.did (.close i)]⟩
  | tend {T : State ι μ α} (tunnels : ι → Option (Tunnel α)) : (∀ i, tunnels i = T.tunnels i ∨
      tunnels i = (T.tunnels i).map Tunnel.renew ∨ tunnels i = none) →
    Step T .tend ⟨tunnels, T.journal ++ [.did .tend]⟩
  | idle (T : State ι μ α) : Step T .idle ⟨T.tunnels, T.journal ++ [.did .idle]⟩

/-- What was heard at an end. -/
def heardAt (i : ι) (x : End) : Entry ι μ α → Option α
  | .did (.hear d) => if d.name = i ∧ d.side = x then some d.peer else none
  | _ => none

/-- Who spoke last at an end. -/
def lastHeard (i : ι) (x : End) (J : List (Entry ι μ α)) : Option α :=
  (J.filterMap (heardAt i x)).getLast?

/-- Whatever is carried has just been heard at the other end of the same tunnel, and goes to who spoke
    last at this end. -/
def Faithful (J : List (Entry ι μ α)) : Prop :=
  ∀ A d B, J = A ++ .carried d :: B →
    (∃ a, A.getLast? = some (.did (.hear ⟨d.name, d.side.other, d.message, a⟩))) ∧
      lastHeard d.name d.side A = some d.peer

/-- Every peer spoke last at its end. -/
def Remembers (T : State ι μ α) : Prop :=
  ∀ i t x a, T.tunnels i = some t → t.peer x = some a → lastHeard i x T.journal = some a

variable {T T' : State ι μ α} {J : List (Entry ι μ α)} {i : ι} {x : End}

@[simp] theorem lastHeard_append_of_none {K : List (Entry ι μ α)}
    (hK : ∀ e ∈ K, heardAt i x e = none) : lastHeard i x (J ++ K) = lastHeard i x J := by
  rw [lastHeard, List.filterMap_append, List.filterMap_eq_nil_iff.mpr hK, List.append_nil, lastHeard]

theorem lastHeard_hear (d : Passage ι μ α) :
    lastHeard i x (J ++ [.did (.hear d)]) =
      if d.name = i ∧ d.side = x then some d.peer else lastHeard i x J := by
  have hone : [Entry.did (.hear d)].filterMap (heardAt i x) =
      if d.name = i ∧ d.side = x then [d.peer] else [] := by
    rw [List.filterMap_cons, List.filterMap_nil, heardAt]
    split <;> simp_all
  rw [lastHeard, List.filterMap_append, hone]
  split
  · rw [List.getLast?_concat]
  · rw [List.append_nil, lastHeard]

/-- Where an entry stands in a journal that has got one more. -/
theorem split_concat {β : Type} {J A B : List β} {c e : β} (h : J ++ [e] = A ++ c :: B) :
    (A = J ∧ c = e) ∨ ∃ C, J = A ++ c :: C := by
  rcases List.eq_nil_or_concat B with rfl | ⟨C, b, rfl⟩
  · obtain ⟨hJ, he⟩ := List.append_inj' h rfl
    exact Or.inl ⟨hJ.symm, (List.cons.inj he).1.symm⟩
  · rw [List.concat_eq_append, ← List.cons_append, ← List.append_assoc] at h
    exact Or.inr ⟨C, (List.append_inj' h rfl).1⟩

/-- A journal to which a step adds what it did stays faithful. -/
theorem Faithful.did (h : Faithful J) (l : Label ι μ α) : Faithful (J ++ [.did l]) := by
  intro A d B hJ
  rcases split_concat hJ with ⟨-, hl⟩ | ⟨C, hC⟩
  · exact absurd hl (by simp)
  · exact h A d C hC

theorem Faithful.carried (h : Faithful J) {d : Passage ι μ α} {a : α}
    (hheard : J.getLast? = some (.did (.hear ⟨d.name, d.side.other, d.message, a⟩)))
    (hpeer : lastHeard d.name d.side J = some d.peer) : Faithful (J ++ [.carried d]) := by
  intro A d' B hJ
  rcases split_concat hJ with ⟨rfl, hd⟩ | ⟨C, hC⟩
  · obtain rfl := Entry.carried.inj hd
    exact ⟨⟨a, hheard⟩, hpeer⟩
  · exact h A d' C hC

theorem End.other_other (x : End) : x.other.other = x := by
  cases x with
  | near => rfl
  | far => rfl

theorem End.other_ne (x : End) : x ≠ x.other := by
  cases x with
  | near => exact fun h => End.noConfusion h
  | far => exact fun h => End.noConfusion h

/-- What is heard is carried on faithfully. -/
theorem Faithful.hear (h : Faithful T.journal) (hr : Remembers T) {t : Tunnel α}
    (d : Passage ι μ α) (ht : T.tunnels d.name = some t) :
    Faithful (T.journal ++ .did (.hear d) :: (t.carry d).map .carried) := by
  have hheard := h.did (.hear d)
  rw [List.append_cons]
  rw [Tunnel.carry]
  split
  · rw [List.map_nil, List.append_nil]
    exact hheard
  · cases hpeer : t.peer d.side.other with
    | none =>
      rw [Option.toList_none, List.map_nil, List.map_nil, List.append_nil]
      exact hheard
    | some a =>
      refine hheard.carried (a := d.peer) ?_ ?_
      · rw [List.getLast?_concat, End.other_other]
      · rw [lastHeard_hear, if_neg fun hd => d.side.other_ne hd.2]
        exact hr d.name t d.side.other a ht hpeer

/-- Whoever is remembered after a step that hears nothing was remembered before. -/
theorem Remembers.of_imp (h : Remembers T) {l : Label ι μ α} {tunnels : ι → Option (Tunnel α)}
    (hl : ∀ d, l ≠ .hear d)
    (htunnels : ∀ i t' x a, tunnels i = some t' → t'.peer x = some a →
      ∃ t, T.tunnels i = some t ∧ t.peer x = some a) :
    Remembers ⟨tunnels, T.journal ++ [.did l]⟩ := by
  intro i t' x a ht' ha
  obtain ⟨t, ht, hta⟩ := htunnels i t' x a ht' ha
  rw [lastHeard_append_of_none fun e he => ?_]
  · exact h i t x a ht hta
  · rw [List.mem_singleton.mp he]
    cases l with
    | hear d => exact absurd rfl (hl d)
    | block | request | close | tend | idle => rfl

/-- A tunnel that was left, rebuilt or closed remembers nobody new. -/
theorem peer_of_renewed {old new : Option (Tunnel α)} {t' : Tunnel α} {x : End} {a : α}
    (h : new = old ∨ new = old.map Tunnel.renew ∨ new = some {} ∨ new = none) (ht' : new = some t')
    (ha : t'.peer x = some a) : ∃ t, old = some t ∧ t.peer x = some a := by
  rcases h with rfl | rfl | rfl | rfl
  · exact ⟨t', ht', ha⟩
  · obtain ⟨t, -, rfl⟩ := Option.map_eq_some_iff.mp ht'
    exact absurd ha (by simp [Tunnel.renew])
  · obtain rfl := Option.some.inj ht'
    exact absurd ha (by simp)
  · exact absurd ht' (by simp)

/-- What every run keeps. -/
structure Kept (T : State ι μ α) : Prop where
  faithful : Faithful T.journal
  remembers : Remembers T

theorem Kept.step (h : Kept T) {l : Label ι μ α} (hstep : Step T l T') : Kept T' := by
  cases hstep with
  | @hear t d ht =>
    refine ⟨h.faithful.hear h.remembers d ht, fun i t' x a ht' ha => ?_⟩
    have hcarried : ∀ e ∈ (t.carry d).map Entry.carried, heardAt i x e = none := by
      intro e he
      obtain ⟨c, -, rfl⟩ := List.mem_map.mp he
      rfl
    change Function.update T.tunnels d.name (some (t.hear d.side d.peer)) i = some t' at ht'
    rw [List.append_cons, lastHeard_append_of_none hcarried, lastHeard_hear]
    rw [Function.update_apply] at ht'
    split at ht'
    · next hi =>
      subst hi
      obtain rfl := Option.some.inj ht'
      simp only [Tunnel.hear, Function.update_apply] at ha
      split at ha
      · next hx => rw [if_pos ⟨rfl, hx.symm⟩, ha]
      · next hx =>
        rw [if_neg fun hd => hx hd.2.symm]
        exact h.remembers d.name t x a ht ha
    · next hi =>
      rw [if_neg fun hd => hi hd.1.symm]
      exact h.remembers i t' x a ht' ha
  | block j blocked =>
    refine ⟨h.faithful.did _, h.remembers.of_imp (by simp) fun i t' x a ht' ha => ?_⟩
    rw [Function.update_apply] at ht'
    split at ht'
    · next hi =>
      subst hi
      obtain ⟨t, ht, rfl⟩ := Option.map_eq_some_iff.mp ht'
      exact ⟨t, ht, ha⟩
    · exact ⟨t', ht', ha⟩
  | @request j new hnew =>
    refine ⟨h.faithful.did _, h.remembers.of_imp (by simp) fun i t' x a ht' ha => ?_⟩
    rw [Function.update_apply] at ht'
    split at ht'
    · next hi =>
      subst hi
      exact peer_of_renewed (by tauto) ht' ha
    · exact ⟨t', ht', ha⟩
  | @close j new hnew =>
    refine ⟨h.faithful.did _, h.remembers.of_imp (by simp) fun i t' x a ht' ha => ?_⟩
    rw [Function.update_apply] at ht'
    split at ht'
    · next hi =>
      subst hi
      exact peer_of_renewed (by tauto) ht' ha
    · exact ⟨t', ht', ha⟩
  | tend tunnels htunnels =>
    refine ⟨h.faithful.did _, h.remembers.of_imp (by simp) fun i t' x a ht' ha => ?_⟩
    exact peer_of_renewed (by have := htunnels i; tauto) ht' ha
  | idle => exact ⟨h.faithful.did _, h.remembers.of_imp (by simp) fun i t' x a ht' ha => ⟨t', ht', ha⟩⟩

/-- Every run is faithful. -/
theorem faithful_of_path {C : State ι μ α → Label ι μ α → Prop} (h : Lts.Path Step C {} T) :
    Faithful T.journal :=
  (h.invariant (P := Kept) (fun hk _ hstep => hk.step hstep)
    ⟨fun A d B hJ => absurd hJ (by simp), fun _ _ _ _ ht => absurd ht (by simp)⟩).faithful

end

end Tunnels
