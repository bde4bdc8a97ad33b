import DroneEngage.UdpWiring

/-! What the operations of the proxy module tell the outside, and what they do to the rows of the
    table and to the interval of the reaper meanwhile.

    A unit is notified in two places: when its row has just been taken away, and when a proxy that
    the reaper re-created could not be opened. Only the first is honest. -/

namespace DroneEngage
open Js

namespace UdpProxies

open Action

variable {s s' : UdpProxies} {p : ProxyId} {k : UdpSocketId} {e : EntryId} {name : String}

/-- Rows, log and interval are the same. -/
structure Still (s s' : UdpProxies) : Prop where
  activeUdpProxy : s'.activeUdpProxy = s.activeUdpProxy
  reaperInterval : s'.reaperInterval = s.reaperInterval
  log : s'.log = s.log

/-- Nobody was notified, and the interval is the same. -/
structure Silent (s s' : UdpProxies) : Prop where
  reaperInterval : s'.reaperInterval = s.reaperInterval
  log : ∃ new, s'.log = s.log ++ new ∧ ∀ name, .notify name ∉ new

/-- The name got no row, and has none if its unit was notified. -/
structure Honest (name : String) (s s' : UdpProxies) : Prop where
  row : s.activeUdpProxy.own? name = none → s'.activeUdpProxy.own? name = none
  log : ∃ new, s'.log = s.log ++ new ∧
    (.notify name ∈ new → s'.activeUdpProxy.own? name = none)

/-- Every name is treated honestly, and the interval is the same. -/
structure Tidy (s s' : UdpProxies) : Prop where
  reaperInterval : s'.reaperInterval = s.reaperInterval
  honest : ∀ name, Honest name s s'

instance : IsPreorder UdpProxies Still where
  refl := fun _ => ⟨rfl, rfl, rfl⟩
  trans := fun _ _ _ h h' => ⟨h'.activeUdpProxy.trans h.activeUdpProxy,
    h'.reaperInterval.trans h.reaperInterval, h'.log.trans h.log⟩

instance : IsPreorder UdpProxies Silent where
  refl := fun _ => ⟨rfl, [], by simp, by simp⟩
  trans := fun s t u h h' => by
    obtain ⟨new, hnew, hnone⟩ := h.log
    obtain ⟨new', hnew', hnone'⟩ := h'.log
    refine ⟨h'.reaperInterval.trans h.reaperInterval, new ++ new', ?_, fun name hmem => ?_⟩
    · rw [hnew', hnew, List.append_assoc]
    · rcases List.mem_append.mp hmem with hmem | hmem
      · exact hnone name hmem
      · exact hnone' name hmem

instance : IsPreorder UdpProxies (Honest name) where
  refl := fun _ => ⟨id, [], by simp, by simp⟩
  trans := fun s t u h h' => by
    obtain ⟨new, hnew, hgone⟩ := h.log
    obtain ⟨new', hnew', hgone'⟩ := h'.log
    refine ⟨fun hs => h'.row (h.row hs), new ++ new', ?_, fun hmem => ?_⟩
    · rw [hnew', hnew, List.append_assoc]
    · rcases List.mem_append.mp hmem with hmem | hmem
      · exact h'.row (hgone hmem)
      · exact hgone' hmem

instance : IsPreorder UdpProxies Tidy where
  refl := fun s => ⟨rfl, fun name => refl_of (Honest name) s⟩
  trans := fun _ _ _ h h' => ⟨h'.reaperInterval.trans h.reaperInterval,
    fun name => trans_of (Honest name) (h.honest name) (h'.honest name)⟩

theorem Still.silent (h : Still s s') : Silent s s' :=
  ⟨h.reaperInterval, [], by rw [h.log, List.append_nil], by simp⟩

theorem Still.honest (h : Still s s') : Honest name s s' :=
  ⟨fun hs => by rw [h.activeUdpProxy, hs], [], by rw [h.log, List.append_nil], by simp⟩

theorem Still.tidy (h : Still s s') : Tidy s s' := ⟨h.reaperInterval, fun _ => h.honest⟩

theorem Silent.honest (h : Silent s s')
    (hrow : s.activeUdpProxy.own? name = none → s'.activeUdpProxy.own? name = none) :
    Honest name s s' := by
  obtain ⟨new, hnew, hnone⟩ := h.log
  exact ⟨hrow, new, hnew, fun hmem => absurd hmem (hnone name)⟩

theorem silent_emit {x : UdpEffect} (hx : ∀ name, x ≠ .notify name) (s : UdpProxies) :
    Silent s (s.emit x) :=
  ⟨rfl, [x], rfl, fun name hmem => hx name (List.mem_singleton.mp hmem).symm⟩

theorem honest_emit {x : UdpEffect} (hx : x ≠ .notify name) (s : UdpProxies) :
    Honest name s (s.emit x) :=
  ⟨id, [x], rfl, fun hmem => absurd (List.mem_singleton.mp hmem).symm hx⟩

theorem tidy_emit {x : UdpEffect} (hx : ∀ name, x ≠ .notify name) (s : UdpProxies) :
    Tidy s (s.emit x) := ⟨rfl, fun name => honest_emit (hx name) s⟩

theorem honest_delete (key : String) (s : UdpProxies) :
    Honest name s { s with activeUdpProxy := s.activeUdpProxy.delete key } := by
  refine ⟨fun hs => ?_, [], by simp, by simp⟩
  rw [Table.own?_delete, hs, ite_self]

/-! ### The work on objects -/

theorem still_getConfig (p : ProxyId) : Moves Still (getConfig p) :=
  moves_bind moves_get fun _ => moves_bind (moves_ofExcept _) fun _ =>
    moves_bind (moves_ofExcept _) fun _ => moves_pure _

theorem still_isReady (p : ProxyId) : Moves Still (isReady p) :=
  moves_bind moves_get fun _ => moves_bind (moves_ofExcept _) fun _ => moves_ite
    (fun _ => moves_bind (moves_ofExcept _) fun _ => moves_pure _) fun _ => moves_pure _

theorem still_closeProxy (p : ProxyId) : Moves Still (closeProxy p) := by
  have hclose : ∀ r : Option UdpSocketId, Moves Still
      (attempt (deref r >>= closeSocket) fun _ => pure ()) := fun _ =>
    moves_attempt (moves_bind (moves_ofExcept _) fun _ => moves_modify fun _ => ⟨rfl, rfl, rfl⟩)
      fun _ => moves_pure ()
  refine moves_bind (moves_modify fun _ => ⟨rfl, rfl, rfl⟩) fun _ => moves_bind moves_get fun _ =>
    moves_bind (hclose _) fun _ => moves_bind (hclose _) fun _ => ?_
  refine moves_bind (moves_ofExcept _) fun _ =>
    moves_bind (moves_modify fun _ => ⟨rfl, rfl, rfl⟩) fun _ => ?_
  exact moves_bind (moves_ofExcept _) fun _ =>
    moves_bind (moves_modify fun _ => ⟨rfl, rfl, rfl⟩) fun _ =>
      moves_modify fun _ => ⟨rfl, rfl, rfl⟩

theorem still_newProxy (port1 port2 : Val) (callback : Callback) :
    Moves Still (newProxy port1 port2 callback) := by
  intro s
  rw [Action.final, run_newProxy]
  exact ⟨rfl, rfl, rfl⟩

theorem still_recreateProxy (e : EntryId) (onComplete : Option OnComplete) (now : ℕ) :
    Moves Still (recreateProxy e onComplete now) := by
  refine moves_bind moves_get fun _ => moves_bind (still_getConfig _) fun _ =>
    moves_bind (moves_attempt (still_closeProxy _) fun _ => moves_pure ()) fun _ => ?_
  exact moves_bind (still_newProxy _ _ _) fun _ =>
    moves_bind (moves_modify fun _ => ⟨rfl, rfl, rfl⟩) fun _ =>
      moves_bind (moves_modify fun _ => ⟨rfl, rfl, rfl⟩) fun _ =>
        moves_modify fun _ => ⟨rfl, rfl, rfl⟩

theorem still_refreshPorts (e : EntryId) : Moves Still (refreshPorts e) :=
  moves_bind moves_get fun _ => moves_bind (still_getConfig _) fun _ =>
    moves_bind (moves_modify fun _ => ⟨rfl, rfl, rfl⟩) fun _ => moves_pure _

theorem still_setProxyBlocked (name : String) (blocked : Bool) :
    Moves Still (setProxyBlocked name blocked) := by
  refine moves_bind moves_get fun s => ?_
  cases s.activeUdpProxy.get objectPrototype name with
  | absent => exact moves_pure _
  | inherited => exact moves_pure _
  | own e =>
    exact moves_bind (moves_modify fun _ => ⟨rfl, rfl, rfl⟩) fun _ =>
      moves_bind (moves_modify fun _ => ⟨rfl, rfl, rfl⟩) fun _ => moves_pure _

/-! ### Requests -/

theorem silent_openUDPSocket (name : String) (port1 port2 : Val) (r : RequestId) (now : ℕ) :
    Moves Silent (openUDPSocket name port1 port2 r now) := by
  intro s
  rw [Action.final, run_openUDPSocket]
  exact ⟨rfl, [], by simp [install, newEntry], by simp⟩

theorem silent_closeUDPSocket (name : Val) : Moves Silent (closeUDPSocket name) := by
  refine moves_bind moves_get fun s => moves_bind (moves_ofExcept _) fun own =>
    moves_bind (moves_ofExcept _) fun k => ?_
  split
  · exact moves_bind ((still_getConfig _).mono Still.silent) fun _ =>
      moves_bind ((still_closeProxy _).mono Still.silent) fun _ =>
        moves_bind (moves_modify fun _ => ⟨rfl, [], by simp, by simp⟩) fun _ => moves_pure _
  · exact moves_pure _

theorem silent_getUDPSocket (name socket1 socket2 : Val) (r : RequestId) (now : ℕ) :
    Moves Silent (getUDPSocket name socket1 socket2 r now) := by
  refine moves_bind moves_get fun s => moves_bind (moves_ofExcept _) ?_
  rintro ⟨entry, k, port1, port2⟩
  cases entry with
  | none => exact silent_openUDPSocket k port1 port2 r now
  | some e =>
    refine moves_bind ((still_getConfig _).mono Still.silent) fun ms =>
      moves_ite (fun _ => ?_) fun _ => ?_
    · refine moves_bind ((still_isReady _).mono Still.silent) fun _ => moves_ite
        (fun _ => (still_recreateProxy _ _ _).mono Still.silent) fun _ => ?_
      exact moves_bind (moves_modify fun _ => Still.silent ⟨rfl, rfl, rfl⟩) fun _ =>
        moves_modify fun s => silent_emit (by simp) s
    · exact moves_bind (silent_closeUDPSocket _) fun _ => silent_openUDPSocket _ _ _ _ _

theorem honest_openUDPSocket {key : String} (hkey : key ≠ name) (port1 port2 : Val)
    (r : RequestId) (now : ℕ) : Moves (Honest name) (openUDPSocket key port1 port2 r now) := by
  intro s
  refine (silent_openUDPSocket key port1 port2 r now s).honest fun hs => ?_
  rw [Action.final, run_openUDPSocket]
  refine Option.eq_none_iff_forall_ne_some.mpr fun e he => ?_
  rcases Table.own?_assign_imp he with ⟨hname, -⟩ | hold
  · exact hkey hname.symm
  · rw [hs] at hold
    exact absurd hold (by simp)

theorem honest_closeUDPSocket (key : Val) : Moves (Honest name) (closeUDPSocket key) := by
  refine moves_bind moves_get fun s => moves_bind (moves_ofExcept _) fun own =>
    moves_bind (moves_ofExcept _) fun k => ?_
  split
  · exact moves_bind ((still_getConfig _).mono Still.honest) fun _ =>
      moves_bind ((still_closeProxy _).mono Still.honest) fun _ =>
        moves_bind (moves_modify fun s => honest_delete k s) fun _ => moves_pure _
  · exact moves_pure _

/-- A request opens a proxy under its own name only. -/
theorem honest_getUDPSocket {key : Val} (hkey : propKey key ≠ .ok name) (socket1 socket2 : Val)
    (r : RequestId) (now : ℕ) : Moves (Honest name) (getUDPSocket key socket1 socket2 r now) := by
  refine moves_get_bind fun s => moves_bind_at (refl_of _ s) ?_
  rintro ⟨entry, k, port1, port2⟩ hlook
  have hk : k ≠ name := by
    rintro rfl
    exact hkey (lookupRequest_eq_ok hlook).2.1
  cases entry with
  | none => exact honest_openUDPSocket hk port1 port2 r now _
  | some e =>
    refine moves_bind (R := Honest name) ((still_getConfig _).mono Still.honest) (fun ms =>
      moves_ite (fun _ => ?_) fun _ => ?_) _
    · refine moves_bind ((still_isReady _).mono Still.honest) fun _ => moves_ite
        (fun _ => (still_recreateProxy _ _ _).mono Still.honest) fun _ => ?_
      exact moves_bind (moves_modify fun _ => Still.honest ⟨rfl, rfl, rfl⟩) fun _ =>
        moves_modify fun s => honest_emit (by simp) s
    · exact moves_bind (honest_closeUDPSocket _) fun _ => honest_openUDPSocket hk _ _ _ _

/-! ### Datagrams -/

theorem tidy_messageEvent (k : UdpSocketId) (message : Bytes) (remote : Remote) (now : ℕ) :
    Moves Tidy (messageEvent k message remote now) :=
  moves_messageEvent k (fun _ => Still.tidy ⟨rfl, rfl, rfl⟩) fun _ _ s => tidy_emit (by simp) s

/-! ### The reaper -/

/-- Who is notified of an idle proxy has just lost it. -/
theorem tidy_reap (now : ℕ) (online : String → Bool) (name : String) :
    Moves Tidy (reap now online name) := by
  refine moves_bind moves_get fun s => ?_
  cases s.activeUdpProxy.own? name with
  | none => exact moves_pure _
  | some e =>
    refine moves_bind ((still_isReady _).mono Still.tidy) fun _ => moves_ite
      (fun _ => (still_recreateProxy _ _ _).mono Still.tidy) fun _ =>
        moves_ite (fun _ => ?_) fun _ => moves_pure _
    refine moves_bind ((still_closeProxy _).mono Still.tidy) fun _ => ?_
    intro t
    rw [final_modify_bind, final_modify]
    refine ⟨rfl, fun other => ⟨(honest_delete name t).row, [.notify name], rfl, fun hmem => ?_⟩⟩
    obtain rfl : other = name := by simpa using hmem
    exact Table.own?_delete_self _ _

theorem tidy_recoverAll (now : ℕ) : Moves Tidy (recoverAllProxiesAfterResume now) := by
  refine moves_bind moves_get fun _ => moves_forEach _ fun name _ => moves_bind moves_get fun s => ?_
  cases s.activeUdpProxy.own? name with
  | none => exact moves_pure _
  | some e => exact (still_recreateProxy _ _ _).mono Still.tidy

theorem honest_reaperTick (now : ℕ) (online : String → Bool) :
    Moves (Honest name) (reaperTick now online) := by
  have htidy : ∀ {m : Action UdpProxies Unit}, Moves Tidy m → Moves (Honest name) m :=
    fun hm => hm.mono fun h => h.honest name
  refine moves_bind moves_get fun s => moves_bind
    (htidy (moves_when fun _ => tidy_recoverAll now)) fun _ => ?_
  refine moves_bind (moves_modify fun _ => Still.honest ⟨rfl, rfl, rfl⟩) fun _ =>
    moves_bind moves_get fun t => moves_bind
      (htidy (moves_forEach _ fun name _ => tidy_reap now online name)) fun _ => ?_
  refine moves_bind moves_get fun u => moves_ite (fun _ => ?_) fun _ => moves_pure _
  exact moves_modify fun s => ⟨id, [], by simp [stopReaper], by simp⟩

end UdpProxies

end DroneEngage
