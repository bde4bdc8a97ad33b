import DroneEngage.UdpEffects
import DroneEngage.UdpRequests

/-! What a unit was told about the end of its proxy.

    A unit learns that its proxy is closed from the answer to its own command, from the callback of a
    request whose proxy could not be opened, and from the reaper. Where the reaper gives up a
    re-created proxy it only says so: the row stays, and a later tick opens the proxy again. -/

namespace DroneEngage
open Js

namespace UdpProxies

open Action

variable {s s' : UdpProxies} {k : UdpSocketId} {name : String}

/-- The second bind of a proxy ends, which the reaper re-created for the name, and one of the two
    has failed. -/
def FailsSecond (s : UdpProxies) (name : String) (k : UdpSocketId) (status : Bool) : Prop :=
  ∃ p e, (s.sockets k).parent = some p ∧ (s.proxies p).readyCounter = 1 ∧
    (s.proxies p).callback = .recreated e (some (.healthCheck name)) ∧
    ((s.proxies p).readyProxy && status) = false

/-- The operation ends the health check of the name with a proxy that could not be opened. -/
def FailsRecreate (s : UdpProxies) (name : String) : Op → Prop
  | .listening k .. => s.FailsSecond name k true
  | .bindError k code _ => code = "EADDRINUSE" ∧ s.FailsSecond name k false
  | _ => False

theorem honest_runCallback {enabled : Bool} {c : Callback} (now : ℕ)
    (hc : ∀ e, c = .recreated e (some (.healthCheck name)) → enabled = true) :
    Moves (Honest name) (runCallback enabled now c) := by
  have hrefresh : ∀ e, Moves (Honest name) (refreshPorts e) := fun e =>
    (still_refreshPorts e).mono Still.honest
  cases c with
  | opened e r =>
    refine moves_bind (hrefresh e) fun ms => moves_bind (moves_modify fun s => ?_) fun _ =>
      moves_modify fun s => honest_emit (by simp) s
    rw [startReaper]
    split
    · exact refl_of _ s
    · exact ⟨id, [], by simp, by simp⟩
  | recreated e onComplete =>
    have hcomplete : Moves (Honest name) (runOnComplete e enabled onComplete) := by
      rcases onComplete with _ | r | other
      · exact moves_pure ()
      · exact moves_bind moves_get fun _ => moves_bind ((still_getConfig _).mono Still.honest)
          fun _ => moves_modify fun s => honest_emit (by simp) s
      · refine moves_ite (fun _ => moves_pure ()) fun hfailed => moves_modify fun s => ?_
        refine honest_emit (fun heq => ?_) s
        obtain rfl := UdpEffect.notify.inj heq
        exact hfailed (hc e rfl)
    cases enabled with
    | false => exact hcomplete
    | true => exact moves_bind (hrefresh e) fun _ => hcomplete

/-- `_onReady` notifies only when a health check has failed. -/
theorem honest_onReady {status : Bool} {parent : Option ProxyId} (now : ℕ)
    (hok : ¬ ∃ p e, parent = some p ∧ (s.proxies p).readyCounter = 1 ∧
      (s.proxies p).callback = .recreated e (some (.healthCheck name)) ∧
      ((s.proxies p).readyProxy && status) = false) :
    Honest name s ((onReady status now parent).final s) := by
  cases parent with
  | none => exact refl_of _ s
  | some p =>
    rw [onReady, deref_some, final_ok_bind, final_modify_bind, final_get_bind]
    have hcount : Honest name s (s.setProxy p fun x => { x with
        readyProxy := x.readyProxy && status, readyCounter := x.readyCounter + 1 }) :=
      Still.honest ⟨rfl, rfl, rfl⟩
    refine trans_of (Honest name) hcount ?_
    split
    · next hdue =>
      refine honest_runCallback now (fun e hc => ?_) _
      simp only [setProxy, Function.update_self] at hdue hc ⊢
      by_contra hfailed
      exact hok ⟨p, e, rfl, by omega, hc, by simpa using hfailed⟩
    · exact refl_of _ _

/-- Every operation but a request and a failed health check is honest about the name. -/
theorem honest_perform {o : Op} (ho : UdpService.isOther o = true) (hok : ¬ s.FailsRecreate name o) :
    Honest name s ((perform o).final s) := by
  have hset : ∀ (k : UdpSocketId) (f : UdpSocket → UdpSocket) (t : UdpProxies),
      Honest name t (t.setSocket k f) := fun _ _ _ => Still.honest ⟨rfl, rfl, rfl⟩
  cases o with
  | getUDPSocket => exact absurd ho (by simp [UdpService.isOther])
  | reaperTick => exact absurd ho (by simp [UdpService.isOther])
  | closeUDPSocket key => exact moves_bind (honest_closeUDPSocket key) (fun _ => moves_pure ()) s
  | setProxyBlocked other blocked =>
    exact moves_bind (R := Honest name) ((still_setProxyBlocked other blocked).mono Still.honest)
      (fun _ => moves_pure ()) s
  | listening k host port now =>
    rw [perform, listeningEvent, final_modify_bind, final_get_bind]
    refine trans_of (Honest name) (hset k _ s) (honest_onReady now fun hfails => hok ?_)
    simpa [FailsRecreate, FailsSecond, setSocket] using hfails
  | bindError k code now =>
    rw [perform, bindErrorEvent, final_modify_bind]
    refine trans_of (Honest name) (hset k (fun w => { w with bind := .failed code }) s) ?_
    split
    · next hcode =>
      rw [final_modify_bind, final_get_bind]
      refine trans_of (Honest name) (hset k _ _) (honest_onReady now fun hfails => hok ?_)
      simpa [FailsRecreate, FailsSecond, setSocket, hcode] using hfails
    · exact refl_of _ _
  | message k message remote now => exact (tidy_messageEvent k message remote now s).honest name
  | error k => exact refl_of _ s

end UdpProxies

/-! ### What a unit was told -/

/-- Is it about this unit? -/
def UnitEvent.concerns (ws : SocketId) : UnitEvent → Bool
  | .asked other => other = ws
  | .sent other _ => other = ws

/-- What it tells the unit about its proxy. -/
def UnitEvent.en : UnitEvent → Val
  | .asked _ => none
  | .sent _ message => enabledIn message

/-- The socket belongs to the unit of this name and to no other. -/
structure KnownAs (key : String) (ws : SocketId) (sockets : SocketId → Socket)
    (activeSenderIDsList : Table SocketId) : Prop where
  name : propKey (sockets ws).name = .ok key
  sole : ∀ other, activeSenderIDsList.own? other = some ws → other = key

theorem ProxyCommand.enabledIn_reply (c : ProxyCommand) (report : ProxyConfig) (en : Bool)
    (name : Val) : enabledIn (c.reply (report.toJson en) name) = some (.bool en) := by
  obtain ⟨fs, hfs⟩ : ∃ fs, c.jmsg = .obj fs := by
    have hcommand := c.isCommand
    cases hjmsg : c.jmsg with
    | obj fs => exact ⟨fs, rfl⟩
    | null | bool | num | str | arr =>
      rw [hjmsg] at hcommand
      exact absurd hcommand (by simp [Json.field])
  rw [enabledIn, reply, Json.field_setField_ne _ _ (by decide),
    Json.field_setField_ne _ _ (by decide), Json.field_setField_ne _ _ (by decide),
    Json.field_setField_self hfs]
  rfl

namespace UdpService

open Action

variable {s s' : UdpService} {ws : SocketId} {key : String}

/-- The last that passed between the server and the unit. -/
def lastWord (s : UdpService) (ws : SocketId) : Option UnitEvent :=
  (s.log.filter (UnitEvent.concerns ws)).getLast?

/-- The last proxy message to the unit said that its proxy is closed, and it has not asked since. -/
def ToldClosed (s : UdpService) (ws : SocketId) : Prop :=
  (s.lastWord ws).bind UnitEvent.en = some (.bool false)

/-- The table has no row for the name. -/
def NoRow (s : UdpService) (key : String) : Prop := s.udp.activeUdpProxy.own? key = none

/-- The socket belongs to the unit of this name. -/
def Known (s : UdpService) (key : String) (ws : SocketId) : Prop :=
  KnownAs key ws s.sockets s.activeSenderIDsList

/-- What the unit was told last is true. -/
def Truthful (s : UdpService) (key : String) (ws : SocketId) : Prop := s.ToldClosed ws → s.NoRow key

/-- A part of a step tells the unit nothing untrue and opens no proxy for it. -/
structure Kept (key : String) (ws : SocketId) (s s' : UdpService) : Prop where
  known : s'.Known key ws
  row : s.NoRow key → s'.NoRow key
  truthful : s.Truthful key ws → s'.Truthful key ws

/-- A known unit is told nothing untrue. -/
def Keeps (key : String) (ws : SocketId) (s s' : UdpService) : Prop :=
  s.Known key ws → Kept key ws s s'

instance : IsPreorder UdpService (Keeps key ws) where
  refl := fun _ hknown => ⟨hknown, id, id⟩
  trans := fun _ _ _ h h' hknown =>
    have hkept := h hknown
    have hkept' := h' hkept.known
    ⟨hkept'.known, fun hs => hkept'.row (hkept.row hs),
      fun hs => hkept'.truthful (hkept.truthful hs)⟩

theorem lastWord_record (x : UnitEvent) (s : UdpService) :
    (record x s).lastWord ws = if x.concerns ws then some x else s.lastWord ws := by
  rw [lastWord, record, List.filter_append, lastWord]
  split
  · next hx => simp [hx]
  · next hx => simp [hx]

/-- A message to another unit, one that reports an open proxy, or a true one. -/
theorem keeps_send {other : SocketId} {message : Json}
    (htrue : s.Known key ws → other = ws → enabledIn message = some (.bool false) → s.NoRow key) :
    Keeps key ws s ((send other message).final s) := by
  rw [send, final_get_bind]
  split
  · intro hknown
    refine ⟨hknown, id, fun ht htold => ?_⟩
    change ((record (.sent other message) s).lastWord ws).bind UnitEvent.en = _ at htold
    rw [lastWord_record] at htold
    split at htold
    · next hother => exact htrue hknown (of_decide_eq_true hother) htold
    · exact ht htold
  · exact refl_of (Keeps key ws) s

/-- After `closeUDPSocket` has called back the name has no row. -/
theorem closeUDPSocket_row {name : Val} {report : ProxyConfig} {t t' : UdpProxies}
    (h : UdpProxies.closeUDPSocket name t = (.ok report, t')) (hk : propKey name = .ok key) :
    t'.activeUdpProxy.own? key = none := by
  rcases t.activeUdpProxy.hasOwnProperty_cases objectPrototype name with ⟨x, hx⟩ | ⟨k, hk', hown⟩
  · rw [UdpProxies.closeUDPSocket, run_bind_get, hx] at h
    exact absurd h (by simp)
  · obtain rfl : k = key := Except.ok.inj (hk'.symm.trans hk)
    rw [UdpProxies.closeUDPSocket, run_bind_get, hown, run_bind_ok, hk', run_bind_ok] at h
    cases hrow : t.activeUdpProxy.own? k with
    | none =>
      rw [hrow] at h
      obtain ⟨-, rfl⟩ := Prod.mk.inj h
      exact hrow
    | some e =>
      rw [hrow] at h
      change (UdpProxies.getConfig _ >>= _) t = _ at h
      obtain ⟨ms, u, -, h⟩ := run_bind_eq_ok.mp h
      obtain ⟨_, v, -, h⟩ := run_bind_eq_ok.mp h
      obtain ⟨-, rfl⟩ := Prod.mk.inj h
      exact Table.own?_delete_self _ _

theorem keeps_closeAndReply (command : ProxyCommand) (other : SocketId) :
    Keeps key ws s ((closeAndReply command other).final s) := by
  rw [closeAndReply, final_get_bind]
  have hhonest : Moves (UdpProxies.Honest key) (UdpProxies.closeUDPSocket (s.sockets other).name) :=
    UdpProxies.honest_closeUDPSocket _
  have hrow := (hhonest s.udp).row
  have hcall : Keeps key ws s ((call (UdpProxies.closeUDPSocket (s.sockets other).name)).final s) :=
    fun hknown => ⟨hknown, hrow, fun ht htold => hrow (ht htold)⟩
  refine moves_bind_at hcall fun report hok => keeps_send ?_
  rintro hknown rfl -
  exact closeUDPSocket_row (Prod.ext hok rfl) hknown.name

/-- The callback of a request closes the proxy before it says so. -/
theorem keeps_onProxyReady (r : RequestId) (report : ProxyConfig) (en : Bool) :
    Keeps key ws s ((onProxyReady r report en).final s) := by
  rw [onProxyReady, final_get_bind]
  cases s.requests r with
  | none => exact refl_of (Keeps key ws) s
  | some request =>
    cases en with
    | true =>
      refine keeps_send fun _ _ hen => ?_
      rw [ProxyCommand.enabledIn_reply] at hen
      exact absurd hen (by simp)
    | false =>
      refine moves_bind (R := Keeps key ws) (moves_ofExcept _) (fun ms => ?_) s
      exact fun t => keeps_closeAndReply _ _

theorem keeps_onEffect {x : UdpEffect} (hx : x = .notify key → s.NoRow key) :
    Keeps key ws s ((onEffect x).final s) := by
  cases x with
  | reply r report en => exact keeps_onProxyReady r report en
  | notify name =>
    rw [onEffect, notifyUnitProxyClosed, final_get_bind]
    cases hactive : s.activeSenderIDsList.own? name with
    | none => exact refl_of (Keeps key ws) s
    | some other =>
      refine keeps_send fun hknown hother _ => ?_
      subst hother
      obtain rfl := hknown.sole name hactive
      exact hx rfl
  | sent k message caller => exact refl_of (Keeps key ws) s

/-- Serving effects one after the other: a row that is gone stays away. -/
theorem keeps_effects : ∀ (xs : List UdpEffect) {s : UdpService},
    (.notify key ∈ xs → s.NoRow key) →
      Keeps key ws s ((Action.forEach xs onEffect).final s)
  | [], s, _ => refl_of (Keeps key ws) s
  | x :: rest, s, h => by
    have hone : Keeps key ws s ((onEffect x).final s) := keeps_onEffect fun hx => h (by simp [hx])
    refine fun hknown => moves_bind_at (R := Keeps key ws) hone (fun _ _ => ?_) hknown
    exact keeps_effects rest fun hmem => (hone hknown).row (h (List.mem_cons_of_mem _ hmem))

/-- An operation of the module, if it is honest about the name or nothing holds the unit to what it
    was told. -/
theorem truthful_invoke {m : Action UdpProxies Unit} (hknown : s.Known key ws)
    (hlog : ∃ new, (m.final s.udp).log = s.udp.log ++ new ∧
      (.notify key ∈ new → (m.final s.udp).activeUdpProxy.own? key = none))
    (hrow : s.ToldClosed ws → (m.final s.udp).activeUdpProxy.own? key = none) :
    ((invoke m).final s).Known key ws ∧ ((invoke m).final s).Truthful key ws := by
  obtain ⟨new, hnew, hgone⟩ := hlog
  rw [invoke, final_get_bind]
  have hcall : (call m).final s = { s with udp := m.final s.udp } := rfl
  refine final_bind_leads (P := fun t => t = { s with udp := m.final s.udp })
    (Q := fun t => t.Known key ws ∧ t.Truthful key ws) hcall ?_ ?_
  · rintro _ rfl
    exact ⟨hknown, hrow⟩
  · rintro _ _ rfl
    rw [final_get_bind, hnew, List.drop_left]
    have hkeeps : Keeps key ws { s with udp := m.final s.udp }
        ((Action.forEach new onEffect).final { s with udp := m.final s.udp }) :=
      keeps_effects new hgone
    have hkept := hkeeps hknown
    exact ⟨hkept.known, hkept.truthful hrow⟩

/-! ### Runs -/

/-- The unit stays connected; no other unit asks for a proxy under its name after it was told that
    its proxy is closed; and no health check of its proxy fails. -/
def Spares (key : String) (ws : SocketId) (s : UdpService) : Op → Prop
  | .udpProxy other .. => other ≠ ws → s.ToldClosed ws → propKey (s.sockets other).name ≠ .ok key
  | .reaperTick _ => True
  | .module o => ¬ s.udp.FailsRecreate key o
  | .server sockets activeSenderIDsList => KnownAs key ws sockets activeSenderIDsList

/-- A request for a proxy notifies nobody, and only its own name can get a row. -/
theorem perform_getUDPSocket_rows (key : String) (name socket1 socket2 : Val) (now : ℕ)
    (t : UdpProxies) :
    (∃ new, ((UdpProxies.perform (.getUDPSocket name socket1 socket2 now)).final t).log =
      t.log ++ new ∧ .notify key ∉ new) ∧
    (propKey name ≠ .ok key → t.activeUdpProxy.own? key = none →
      ((UdpProxies.perform (.getUDPSocket name socket1 socket2 now)).final
        t).activeUdpProxy.own? key = none) := by
  rw [UdpProxies.perform, final_get_bind, final_modify_bind]
  obtain ⟨new, hnew, hnone⟩ := (UdpProxies.silent_getUDPSocket name socket1 socket2 t.nextRequest
    now { t with nextRequest := t.nextRequest + 1 }).log
  exact ⟨⟨new, hnew, hnone key⟩, fun hname =>
    (UdpProxies.honest_getUDPSocket hname socket1 socket2 t.nextRequest now
      { t with nextRequest := t.nextRequest + 1 }).row⟩

theorem truthful_udpProxyCommand {command : ProxyCommand} {other : SocketId} (now : ℕ)
    (hknown : s.Known key ws) (ht : s.Truthful key ws)
    (hspares : other ≠ ws → s.ToldClosed ws → propKey (s.sockets other).name ≠ .ok key) :
    ((udpProxyCommand command other now).final s).Known key ws ∧
      ((udpProxyCommand command other now).final s).Truthful key ws := by
  rw [udpProxyCommand, final_get_bind]
  cases (s.sockets other).loginRequest with
  | none => exact ⟨hknown, ht⟩
  | some login =>
    dsimp only
    split
    · exact ⟨hknown, ht⟩
    · cases readProp "en" (command.jmsg.field Const.payload) with
      | error x => exact ⟨hknown, ht⟩
      | ok en =>
        rw [final_ok_bind]
        split
        · cases Server.requestedBody s.config (command.jmsg.field Const.payload) with
          | error x => exact ⟨hknown, ht⟩
          | ok ms =>
            rw [final_ok_bind, final_modify_bind]
            obtain ⟨⟨new, hnew, hnone⟩, hrow⟩ := perform_getUDPSocket_rows key
              (s.sockets other).name (ms.field "socket1") (ms.field "socket2") now s.udp
            refine truthful_invoke hknown ⟨new, hnew, fun hmem => absurd hmem hnone⟩ ?_
            intro htold
            change ((record (.asked other) s).lastWord ws).bind UnitEvent.en = _ at htold
            rw [lastWord_record] at htold
            split at htold
            · exact absurd htold (by simp [UnitEvent.en])
            · next hother =>
              refine hrow (hspares (fun heq => hother ?_) htold) (ht htold)
              exact decide_eq_true heq
        · split
          · have hkept := keeps_closeAndReply command other (s := s) hknown
            exact ⟨hkept.known, hkept.truthful ht⟩
          · exact ⟨hknown, ht⟩

/-- A step that spares the unit tells it nothing untrue, and opens no proxy for it unasked. -/
theorem truthful_step {o : Op} (hknown : s.Known key ws) (ht : s.Truthful key ws)
    (ho : s.Spares key ws o) (hstep : Step s o s') : s'.Known key ws ∧ s'.Truthful key ws := by
  obtain ⟨hen, rfl⟩ := hstep
  have hinvoke : ∀ {m : Action UdpProxies Unit}, UdpProxies.Honest key s.udp (m.final s.udp) →
      ((invoke m).final s).Known key ws ∧ ((invoke m).final s).Truthful key ws :=
    fun h => truthful_invoke hknown h.log fun htold => h.row (ht htold)
  cases o with
  | udpProxy other command now => exact truthful_udpProxyCommand now hknown ht ho
  | reaperTick now => exact hinvoke (UdpProxies.honest_reaperTick now s.online s.udp)
  | module o => exact hinvoke (UdpProxies.honest_perform hen.1 ho)
  | server sockets activeSenderIDsList => exact ⟨ho, ht⟩

/-- From the moment a unit is connected, and in every run that spares it: when the last proxy message
    to the unit says that its proxy is closed, and it has not asked for one since, the table has no
    row under its name. -/
theorem told_closed_no_row {s₀ : UdpService} (hknown : s₀.Known key ws)
    (hnew : s₀.lastWord ws = none) (h : Lts.Path Step (Spares key ws) s₀ s) :
    s.ToldClosed ws → s.NoRow key := by
  have hinv := h.invariant (P := fun t : UdpService => t.Known key ws ∧ t.Truthful key ws)
    (fun hP ho hstep => truthful_step hP.1 hP.2 ho hstep)
    ⟨hknown, fun htold => absurd htold (by simp [ToldClosed, hnew])⟩
  exact hinv.2

/-- A vehicle is connected to a fresh server. -/
def connected : UdpService :=
  { start {} with sockets := fun _ => vehicle, activeSenderIDsList := Table.empty.insert "drone" 0 }

theorem known_connected : connected.Known "drone" 0 where
  name := rfl
  sole := fun other h => by
    rw [connected, Table.own?_insert] at h
    split at h
    · next hother => exact hother
    · exact absurd h (by simp)

/-- Only the vehicle asks, and only proxies of new entries report. -/
def opensOnly (s : UdpService) : Op → Bool
  | .udpProxy other .. => other = 0
  | .module (.listening k ..) | .module (.bindError k ..) =>
    match (s.udp.sockets k).parent.map fun p => (s.udp.proxies p).callback with
    | some (.opened ..) => true
    | _ => false
  | _ => false

theorem spares_of_opensOnly {o : Op} (h : s.opensOnly o = true) : s.Spares "drone" 0 o := by
  have hopened : ∀ {k : UdpSocketId} {status : Bool},
      (match (s.udp.sockets k).parent.map fun p => (s.udp.proxies p).callback with
        | some (.opened ..) => true
        | _ => false) = true → ¬ s.udp.FailsSecond "drone" k status := by
    rintro k status hmatch ⟨p, e, hp, -, hc, -⟩
    rw [hp, Option.map_some, hc] at hmatch
    exact absurd hmatch (by simp)
  cases o with
  | udpProxy other command now => exact fun hother => absurd (of_decide_eq_true h) hother
  | reaperTick => trivial
  | server => exact absurd h (by simp [opensOnly])
  | module o =>
    cases o with
    | listening k host port now => exact hopened h
    | bindError k code now => exact fun hfails => hopened h hfails.2
    | getUDPSocket | closeUDPSocket | setProxyBlocked | reaperTick | message | error => exact id

/-- The vehicle asks for a proxy that cannot be opened, and is told so. -/
theorem told_closed_no_row_opensInVain : ∃ s, Lts.Path Step (Spares "drone" 0) connected s ∧
    s.ToldClosed 0 ∧ s.NoRow "drone" := by
  have h : (run (fun s o => s.opensOnly o = true) connected
      [vehicleCommand true, .module (.bindError 0 "EADDRINUSE" 1001),
        .module (.bindError 1 "EADDRINUSE" 1002)]).map (fun s =>
          (s.lastWord 0).bind UnitEvent.en) = some (some (.bool false)) := by
    decide +kernel
  obtain ⟨s, hs, htold⟩ := Option.map_eq_some_iff.mp h
  have hpath := (path_of_run hs).mono spares_of_opensOnly
  exact ⟨s, hpath, htold, told_closed_no_row known_connected rfl hpath htold⟩

/-- A vehicle opens its proxy; the server sleeps, finds the ports taken on waking, and gets them back
    later. -/
def losesPorts : List Op :=
  [vehicleCommand true, .module (.listening 0 "0.0.0.0" "5000" 1001),
    .module (.listening 1 "0.0.0.0" "5001" 1002), .reaperTick 1000000,
    .module (.bindError 4 "EADDRINUSE" 1000001), .module (.bindError 5 "EADDRINUSE" 1000002),
    .reaperTick 1060000, .module (.listening 6 "0.0.0.0" "5000" 1060001),
    .module (.listening 7 "0.0.0.0" "5001" 1060002)]

/-- The last the vehicle hears is that its proxy is closed, and it has not asked again; the table
    still has its row, with a proxy that is ready. -/
theorem told_closed_row_losesPorts : ∃ s, run (fun _ _ => True) connected losesPorts = some s ∧
    s.ToldClosed 0 ∧ s.udp.activeUdpProxy.own? "drone" = some 0 ∧
    (UdpProxies.isReady (s.udp.entries 0).m_udpproxy s.udp).1 = .ok true := by
  have h : (run (fun _ _ => True) connected losesPorts).map (fun s =>
      ((s.lastWord 0).bind UnitEvent.en, s.udp.activeUdpProxy.own? "drone",
        (UdpProxies.isReady (s.udp.entries 0).m_udpproxy s.udp).1)) =
      some (some (.bool false), some 0, .ok true) := by
    decide +kernel
  obtain ⟨s, hs, hf⟩ := Option.map_eq_some_iff.mp h
  simp only [Prod.mk.injEq] at hf
  exact ⟨s, hs, hf⟩

end UdpService

end DroneEngage
