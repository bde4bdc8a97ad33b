import DroneEngage.UdpBlocks
import DroneEngage.UdpRequests
import DroneEngage.UdpTunnels

/-! AUTH looks at the UDP proxies and blocks them.

    Two commands of AUTH reach the proxy module: one asks for a report on all proxies, the other
    blocks the proxy under a name or lets it go on, and is answered with such a report too. Beside the
    module a run keeps what was set last for each name since a request made its entry; AUTH is told
    exactly that, and datagrams are dropped accordingly.

    A setting for `__proto__` would be written to the prototype of all objects, the entries included, and
    a peer that speaks from port 0 cannot be answered; runs have neither. -/

namespace DroneEngage
open Js

/-- A proxy in a report to AUTH, without its creation time. -/
def UdpProxies.ProxyReport.toJson (report : UdpProxies.ProxyReport) : Json :=
  .obj [("name", .str report.name), ("socket1", report.config.socket1.toJson),
    ("socket2", report.config.socket2.toJson), ("ready", .bool report.ready),
    ("blocked", .bool report.blocked), ("last_access", .num (toString report.last_access))]

/-- The proxy module, and what AUTH is told about it. -/
structure UdpAdmin where
  udp : UdpProxies
  /-- the messages handed to `fn_sendMessage` -/
  toAuth : List Json := []

namespace UdpAdmin

/-! ### The commands -/

/-- A call of the module. -/
def call {α : Type} : Action UdpProxies α → Action UdpAdmin α :=
  Action.zoom UdpAdmin.udp fun udp s => { s with udp }

/-- `p_cmd.d`, unless it is falsy. -/
def dataOf (cmd : Json) : Option Json := (cmd.field "d").filter fun d => isTruthy (some d)

/-- The request id of the command is sent back. -/
def echoRequestID (cmd d : Json) : Except JsError Json :=
  match dataOf cmd with
  | none => .ok d
  | some data => do
    if ← data.hasOwnProperty Const.requestID then
      return d.setField Const.requestID (data.field Const.requestID)
    else return d

/-- The end of both commands: the reply goes to AUTH. -/
def sendReport (cmd d : Json) : Action UdpAdmin Unit := do
  let d ← Action.ofExcept (echoRequestID cmd d)
  Action.modify fun s => { s with toAuth := s.toAuth ++ [.obj [("c", .str "f"), ("d", d)]] }

/-- `fn_handleQueryUdpProxies` -/
def handleQueryUdpProxies (cmd : Json) : Action UdpAdmin Unit := do
  let proxies ← call UdpProxies.getActiveProxiesList
  sendReport cmd (.obj [("proxies", .arr (proxies.map UdpProxies.ProxyReport.toJson))])

/-- `c_name` in `fn_handleSetUdpProxyState`. -/
def nameIn (cmd : Json) : Val :=
  match dataOf cmd with
  | some d => d.field "name"
  | none => some .null

/-- `c_blocked` in `fn_handleSetUdpProxyState`: of data that are falsy, the data. -/
def blockedIn (cmd : Json) : Val :=
  match dataOf cmd with
  | some d => some (.bool (decide (d.field "blocked" = some (.bool true))))
  | none => cmd.field "d"

/-- `c_applied` in `fn_handleSetUdpProxyState`. -/
def apply (name blocked : Val) : Action UdpAdmin Bool :=
  match name with
  | some (.str n) => call (UdpProxies.setProxyBlocked n (decide (blocked = some (.bool true))))
  | _ => pure false

/-- `fn_handleSetUdpProxyState` -/
def handleSetUdpProxyState (cmd : Json) : Action UdpAdmin Unit := do
  let applied ← apply (nameIn cmd) (blockedIn cmd)
  let proxies ← call UdpProxies.getActiveProxiesList
  sendReport cmd
    ((((Json.obj [("proxies", .arr (proxies.map UdpProxies.ProxyReport.toJson))]).setField
      "name" (nameIn cmd)).setField "blocked" (blockedIn cmd)).setField
      "applied" (some (.bool applied)))

/-- The branches of `fn_AuthServerMessagesHandler` for the two commands, in its `try` block. -/
def udpProxyCommand (cmd : Json) : Action UdpAdmin Unit :=
  Action.attempt
    (do
      if ← Action.ofExcept (cmd.hasOwnProperty "c") then
        if cmd.field "c" = some (.str "e") then handleQueryUdpProxies cmd
        else if cmd.field "c" = some (.str "g") then handleSetUdpProxyState cmd
        else pure ())
    fun _ => pure ()

end UdpAdmin

/-! ### Runs -/

/-- The name of the entry that an operation makes. -/
def UdpProxies.made (s : UdpProxies) : UdpProxies.Op → Option String
  | .getUDPSocket key socket1 socket2 _ =>
    match s.lookupRequest key socket1 socket2 with
    | .ok (some e, name, port1, port2) => if s.servesPorts e port1 port2 then none else some name
    | .ok (none, name, _) => some name
    | .error _ => none
  | _ => none

/-- What the setting of each name is, after an entry was made under one. -/
def UdpProxies.resetting (setting : String → Bool) : Option String → String → Bool
  | some name => Function.update setting name false
  | none => setting

/-- The commands and the module, with what was set last for each name. -/
structure Watched where
  admin : UdpAdmin
  /-- the last setting of a name since a request made its entry; no code reads it -/
  setting : String → Bool := fun _ => false

namespace Watched

open UdpAdmin

/-- What happens to the module, or a command of AUTH. -/
inductive Op where
  | module (o : UdpProxies.Op)
  | auth (cmd : Json)

/-- The module before any request. -/
def start (public_host : Val) : Watched := { admin := { udp := .start public_host } }

/-- The setting a command asks for. One that hides the method the server calls on it is not looked at. -/
def settingIn (cmd : Json) : Option (String × Bool) :=
  if cmd.field "c" = some (.str "g") ∧ cmd.owns "hasOwnProperty" = false then
    match nameIn cmd with
    | some (.str name) => some (name, decide (blockedIn cmd = some (.bool true)))
    | _ => none
  else none

/-- What an operation does. -/
def after (w : Watched) : Op → Watched
  | .module o =>
    { admin := { w.admin with udp := (UdpProxies.perform o).final w.admin.udp }
      setting := UdpProxies.resetting w.setting (w.admin.udp.made o) }
  | .auth cmd =>
    { admin := (udpProxyCommand cmd).final w.admin
      setting := match settingIn cmd with
        | some (name, blocked) => Function.update w.setting name blocked
        | none => w.setting }

/-- Only a command of AUTH blocks proxies. -/
def isSetting : UdpProxies.Op → Bool
  | .setProxyBlocked .. => true
  | _ => false

/-- Can it happen? -/
def Enabled (w : Watched) : Op → Prop
  | .module o => isSetting o = false ∧ w.admin.udp.Enabled o
  | .auth cmd => cmd.field "c" = some (.str "e") ∨ cmd.field "c" = some (.str "g")

def Step (w : Watched) (o : Op) (w' : Watched) : Prop := w.Enabled o ∧ w' = w.after o

/-- The table of proxies is used as a map over its own keys, and peers speak from ports that can be
    answered. -/
def OwnKeys (w : Watched) : Op → Prop
  | .module o => w.admin.udp.OwnKeys o ∧ o.Ordinary
  | .auth cmd => nameIn cmd ≠ some (.str "__proto__")

/-! ### What is listed -/

end Watched

namespace UdpProxies

open Action

variable {s s' : UdpProxies} {name : String} {e : EntryId} {k l : UdpSocketId}

/-- A report says how things stand under its name. -/
def Reported (s : UdpProxies) (report : ProxyReport) : Prop :=
  ∃ e k l, s.activeUdpProxy.own? report.name = some e ∧ s.Live (s.entries e).m_udpproxy k l ∧
    report.config = ⟨s.socketConfig k, s.socketConfig l⟩ ∧
    report.ready = decide ((s.sockets k).bind = .listening ∧ (s.sockets l).bind = .listening) ∧
    report.blocked = (s.entries e).blocked

theorem Sound.run_proxyReport (h : s.Sound) (hrow : s.activeUdpProxy.own? name = some e) :
    ∃ report, proxyReport name s = (.ok report, s) ∧ report.name = name ∧ s.Reported report := by
  obtain ⟨k, l, hlive, -⟩ := h.rows name e hrow
  have hready : ((s.sockets k).isReady && (s.sockets l).isReady) =
      decide ((s.sockets k).bind = .listening ∧ (s.sockets l).bind = .listening) := by
    rw [h.ready, h.ready, Bool.decide_and]
  refine ⟨⟨name, ⟨s.socketConfig k, s.socketConfig l⟩, (s.sockets k).isReady && (s.sockets l).isReady,
    (s.entries e).blocked, s.lastAccess e⟩, ?_, rfl, e, k, l, hrow, hlive, rfl, hready, rfl⟩
  rw [proxyReport, run_bind_get, hrow]
  change (getConfig _ >>= _) s = _
  rw [run_bind_of_ok (run_getConfig hlive), run_bind_of_ok (run_isReady hlive)]
  rfl

theorem Sound.run_proxyReports (h : s.Sound) {names : List String}
    (hnames : ∀ name ∈ names, ∃ e, s.activeUdpProxy.own? name = some e) :
    ∃ reports, proxyReports names s = (.ok reports, s) ∧ reports.map ProxyReport.name = names ∧
      ∀ report ∈ reports, s.Reported report := by
  induction names with
  | nil => exact ⟨[], rfl, rfl, by simp⟩
  | cons name rest ih =>
    obtain ⟨e, hrow⟩ := hnames name (by simp)
    obtain ⟨report, hone, hname, hreported⟩ := h.run_proxyReport hrow
    obtain ⟨reports, hrest, hmap, hall⟩ := ih fun n hn => hnames n (List.mem_cons_of_mem _ hn)
    refine ⟨report :: reports, ?_, by rw [List.map_cons, hname, hmap], ?_⟩
    · rw [proxyReports, run_bind_of_ok hone, run_bind_of_ok hrest]
      rfl
    · intro x hx
      rcases List.mem_cons.mp hx with rfl | hx
      · exact hreported
      · exact hall x hx

/-! ### What was set -/

/-- The entries are blocked as the setting has it. -/
def Obeys (s : UdpProxies) (setting : String → Bool) : Prop :=
  ∀ name x, s.sides name = some x → x.entryBlocked = setting name

/-- What a move does to a setting. -/
def Move.setting (old : String → Bool) : Move → String → Bool
  | .block name blocked => Function.update old name blocked
  | .create name _ => Function.update old name false
  | .quiet | .ask | .reply _ | .ends .. | .drop _ | .recreate .. => old

theorem Obeys.moved {setting : String → Bool} {m : Move} (h : s.Obeys setting) (hs : s.Sound)
    (hm : Moved s m s') (hassign : ∀ name r, m = .create name r → name ≠ "__proto__") :
    s'.Obeys (m.setting setting) := by
  have hsides := hs.sides_moved hm hassign
  intro name x hx
  rw [hsides] at hx
  cases m with
  | quiet | ask | reply | ends => exact h name x hx
  | block name' blocked =>
    rw [Move.sides, Function.update_apply] at hx
    rw [Move.setting, Function.update_apply]
    split at hx
    · next heq =>
      obtain ⟨y, -, rfl⟩ := Option.map_eq_some_iff.mp hx
      rw [if_pos heq]
    · next hne =>
      rw [if_neg hne]
      exact h name x hx
  | drop name' =>
    rw [Move.sides, Function.update_apply] at hx
    split at hx
    · exact absurd hx (by simp)
    · exact h name x hx
  | recreate name' r =>
    rw [Move.sides, Function.update_apply] at hx
    split at hx
    · next heq =>
      obtain ⟨y, hy, rfl⟩ := Option.map_eq_some_iff.mp hx
      rw [heq]
      exact h name' y hy
    · exact h name x hx
  | create name' r =>
    rw [Move.sides, Function.update_apply] at hx
    rw [Move.setting, Function.update_apply]
    split at hx
    · next heq =>
      obtain rfl := Option.some.inj hx
      rw [if_pos heq]
    · next hne =>
      rw [if_neg hne]
      exact h name x hx

theorem servesPorts_of_live (hlive : s.Live (s.entries e).m_udpproxy k l) (port1 port2 : Val) :
    s.servesPorts e port1 port2 = s.fits port1 port2 k l := by
  rw [servesPorts, hlive.1, hlive.2]

theorem Obeys.opened {setting : String → Bool} {r : RequestId} {key socket1 socket2 : Val}
    (h : s.Obeys setting) (hs : s.Sound) (hkey : propKey key ≠ .ok "__proto__") (now : ℕ)
    (ho : Opened s r key socket1 socket2 s') :
    s'.Obeys (resetting setting (s.made (.getUDPSocket key socket1 socket2 now))) := by
  have hassign : ∀ {k r'}, (∃ found, s.lookupRequest key socket1 socket2 = .ok found ∧
      found.2.1 = k) → ∀ name r, Move.create k r' = .create name r → name ≠ "__proto__" := by
    rintro k r' ⟨⟨_, k', _⟩, hlook, rfl⟩ name r ⟨⟩ rfl
    exact hkey (lookupRequest_eq_ok hlook).2.1
  rw [made]
  cases ho with
  | thrown hlook => rw [hlook]; exact h
  | fresh hlook hm =>
    rw [hlook]
    exact h.moved hs hm (hassign ⟨_, hlook, rfl⟩)
  | same hlook hlive hfits hready hm hm' =>
    rw [hlook]
    dsimp only
    rw [servesPorts_of_live hlive, hfits, if_pos rfl]
    exact (h.moved hs hm (by simp)).moved (hs.moved hm) hm' (by simp)
  | refreshed hlook hlive hfits hready hm hm' =>
    rw [hlook]
    dsimp only
    rw [servesPorts_of_live hlive, hfits, if_pos rfl]
    exact (h.moved hs hm (by simp)).moved (hs.moved hm) hm' (by simp)
  | reopened hlook hlive hfits hm hm' =>
    rw [hlook]
    dsimp only
    rw [servesPorts_of_live hlive, hfits, if_neg Bool.false_ne_true]
    exact (h.moved hs hm (by simp)).moved (hs.moved hm) hm' (hassign ⟨_, hlook, rfl⟩)

/-- Operations other than settings keep the entries as they were set. -/
theorem Obeys.step {setting : String → Bool} {o : Op} (h : s.Obeys setting) (hs : s.Sound)
    (ho : s.OwnKeys o) (hblock : ∀ name blocked, o ≠ .setProxyBlocked name blocked)
    (hstep : Step s o s') : s'.Obeys (resetting setting (s.made o)) := by
  obtain ⟨hen, rfl⟩ := hstep
  cases o with
  | getUDPSocket key socket1 socket2 now =>
    have hask : ({ s with nextRequest := s.nextRequest + 1 } : UdpProxies).Obeys setting := h
    exact hask.opened (hs.moved .ask) ho now
      (getUDPSocket_opened (hs.moved .ask) s.nextRequest key socket1 socket2 now)
  | closeUDPSocket key =>
    rw [final_closeUDPSocket]
    rcases closeUDPSocket_cases hs key with ⟨-, hsame⟩ | ⟨k, e, -, -, hm⟩
    · rw [hsame]; exact h
    · exact h.moved hs hm (by simp)
  | setProxyBlocked name blocked => exact absurd rfl (hblock name blocked)
  | reaperTick now online =>
    have hpath := (tended_reaperTick now online s hs).1
    refine (hpath.invariant (P := fun t : UdpProxies => t.Sound ∧ t.Obeys setting)
      (fun {t m u} hP (ht : m.Tends) (hm : Moved t m u) => ⟨hP.1.moved hm, ?_⟩) ⟨hs, h⟩).2
    have hmoved := hP.2.moved hP.1 hm (by rintro name r rfl; exact ht.elim)
    cases m <;> first
      | exact hmoved
      | exact ht.elim
  | listening k host port now =>
    exact h.moved hs (listeningEvent_moved hs hen host port now) (by simp)
  | bindError k code now => exact h.moved hs (bindErrorEvent_moved hs hen code now) (by simp)
  | message k message remote now =>
    exact h.moved hs (.quiet (messageEvent_alike k message remote now s)) (by simp)
  | error k => exact h

theorem Obeys.set {setting : String → Bool} (h : s.Obeys setting) (hs : s.Sound) (name : String)
    (blocked : Bool) : ((setProxyBlocked name blocked).final s).Obeys
      (Function.update setting name blocked) := by
  rcases setProxyBlocked_cases name blocked s with ⟨hnone, hsame⟩ | hm
  · rw [hsame]
    intro name' x hx
    rw [Function.update_apply]
    split
    · next heq =>
      rw [heq, sides, hnone] at hx
      exact absurd hx (by simp)
    · exact h name' x hx
  · exact h.moved hs hm (by simp)

theorem Sound.run_reports (h : s.Sound) : ∃ reports, getActiveProxiesList s = (.ok reports, s) ∧
    reports.map ProxyReport.name = s.activeUdpProxy.keys ∧ ∀ report ∈ reports, s.Reported report :=
  h.run_proxyReports fun _ hname => Table.mem_keys_iff.mp hname

/-- What comes in at socket `k` goes to the peer of socket `l`, who can be sent to, or nowhere. -/
def PassesOn (s : UdpProxies) (blocked : Bool) (k l : UdpSocketId) : Prop :=
  (∀ peer, (s.sockets l).caller = some peer → peer.port ≠ "0") ∧
  ∀ message remote now, (s.sockets k).bind = .listening →
    ((perform (.message k message remote now)).final s).log =
      s.log ++ if blocked then [] else (s.sockets l).caller.toList.map (UdpEffect.sent l message)

theorem Lined.passesOn (h : s.Lined) (ha : s.Answerable) {setting : String → Bool}
    (hset : s.Obeys setting)
    (hrow : s.activeUdpProxy.own? name = some e) {x : Tunnels.End}
    (hk : (s.sidesOf e).socket x = some k)
    (hl : (s.sidesOf e).socket x.other = some l) : s.PassesOn (setting name) k l := by
  refine ⟨ha.caller l, fun message remote now hbind => ?_⟩
  obtain ⟨name', e', y, l', hrow', hk', hl', hfinal⟩ := h.final_message hbind message remote now
  have hplace := (h.toSound.place_socket hrow hk).symm.trans (h.toSound.place_socket hrow' hk')
  obtain ⟨rfl, rfl⟩ := Prod.mk.inj (Option.some.inj hplace)
  obtain rfl := Option.some.inj (hrow.symm.trans hrow')
  obtain rfl := Option.some.inj (hl.symm.trans hl')
  have hblocked : (s.proxies (s.entries e).m_udpproxy).blocked = setting name :=
    (h.flagged name _ (sides_of_row hrow)).symm.trans (hset name _ (sides_of_row hrow))
  have hne : l ≠ k := by
    rintro rfl
    have hboth := (h.toSound.place_socket hrow hk).symm.trans (h.toSound.place_socket hrow hl)
    cases x <;> simp [Tunnels.End.other] at hboth
  change ((messageEvent k message remote now).final s).log = _
  rw [hfinal, log_passedOn]
  simp [noted, setSocket, hne, hblocked]

end UdpProxies

/-! ### What is sent -/

namespace UdpAdmin

open Action

variable {s : UdpAdmin} {cmd d : Json}

/-- The data of a command hide the method the server calls on them. -/
def DataHide (cmd : Json) : Prop := ∃ data, dataOf cmd = some data ∧ data.owns "hasOwnProperty" = true

/-- A command hides the method, or its data do. -/
def Hides (cmd : Json) : Prop := cmd.owns "hasOwnProperty" = true ∨ DataHide cmd

/-- The call of the method throws when it is hidden. -/
theorem hasOwnProperty_eq {v : Json} (h : v ≠ .null) (k : String) : v.hasOwnProperty k =
    if v.owns "hasOwnProperty" then .error .typeError else .ok (v.owns k) := by
  cases v with
  | null => exact absurd rfl h
  | bool | num | str | arr | obj => rfl

/-- The first thing the server asks a command. -/
theorem hasOwnProperty_command {text : String} (hc : cmd.field "c" = some (.str text)) :
    cmd.hasOwnProperty "c" =
      if cmd.owns "hasOwnProperty" then .error .typeError else .ok true := by
  have howns : cmd.owns "c" = true := by rw [Json.owns, hc]; rfl
  rw [hasOwnProperty_eq (by rintro rfl; exact absurd hc (by simp [Json.field])), howns]

/-- Data that are looked at are not `null`. -/
theorem dataOf_ne_null {data : Json} (h : dataOf cmd = some data) : data ≠ .null := by
  rintro rfl
  exact absurd (Option.filter_eq_some_iff.mp h).2 (by decide)

theorem echoRequestID_hides (h : DataHide cmd) (d : Json) : echoRequestID cmd d = .error .typeError := by
  obtain ⟨data, hdata, howns⟩ := h
  rw [echoRequestID, hdata]
  dsimp only
  rw [hasOwnProperty_eq (dataOf_ne_null hdata), if_pos howns]
  rfl

/-- The reply keeps its fields, and gets the request id of the command. -/
theorem echoRequestID_ok (h : ¬ DataHide cmd) {fs : List (String × Json)} (hd : d = .obj fs)
    (hnone : d.field Const.requestID = none) : ∃ d', echoRequestID cmd d = .ok d' ∧
      d'.field Const.requestID = (dataOf cmd).bind (Json.field Const.requestID) ∧
      ∀ k ≠ Const.requestID, d'.field k = d.field k := by
  cases hdata : dataOf cmd with
  | none => exact ⟨d, by rw [echoRequestID, hdata], hnone, fun _ _ => rfl⟩
  | some data =>
    have hplain : data.owns "hasOwnProperty" ≠ true := fun howns => h ⟨data, hdata, howns⟩
    rw [echoRequestID, hdata]
    dsimp only
    rw [hasOwnProperty_eq (dataOf_ne_null hdata), if_neg hplain]
    cases howns : data.owns Const.requestID with
    | true => exact ⟨_, rfl, Json.field_setField_self hd _ _, fun k hk => Json.field_setField_ne _ _ hk⟩
    | false =>
      refine ⟨d, rfl, ?_, fun _ _ => rfl⟩
      rw [hnone]
      exact (Option.not_isSome_iff_eq_none.mp (by simpa [Json.owns] using howns)).symm

theorem run_call {α : Type} {m : Action UdpProxies α} {a : α} {t : UdpProxies}
    (h : m s.udp = (.ok a, t)) : call m s = (.ok a, { s with udp := t }) := by
  rw [call, zoom, h]

/-- The end of both commands: the module is looked at, and one message is sent unless the data of
    the command hide a method. -/
theorem final_reply (hs : s.udp.Sound) {f : List UdpProxies.ProxyReport → Json}
    (hobj : ∀ reports, ∃ fs, f reports = .obj fs)
    (hnone : ∀ reports, (f reports).field Const.requestID = none) {t : UdpAdmin}
    (ht : t = (call UdpProxies.getActiveProxiesList >>= fun proxies =>
      sendReport cmd (f proxies)).final s) :
    ∃ reports, reports.map UdpProxies.ProxyReport.name = s.udp.activeUdpProxy.keys ∧
      (∀ report ∈ reports, s.udp.Reported report) ∧ t.udp = s.udp ∧
      (DataHide cmd → t.toAuth = s.toAuth) ∧
      (¬ DataHide cmd → ∃ d, t.toAuth = s.toAuth ++ [.obj [("c", .str "f"), ("d", d)]] ∧
        d.field Const.requestID = (dataOf cmd).bind (Json.field Const.requestID) ∧
        ∀ k ≠ Const.requestID, d.field k = (f reports).field k) := by
  obtain ⟨reports, hrun, hnames, hall⟩ := hs.run_reports
  rw [final_bind_of_ok (run_call hrun), sendReport] at ht
  refine ⟨reports, hnames, hall, ?_⟩
  by_cases hhides : DataHide cmd
  · rw [echoRequestID_hides hhides, final_error_bind] at ht
    subst ht
    exact ⟨rfl, fun _ => rfl, fun hno => absurd hhides hno⟩
  · obtain ⟨fs, hfs⟩ := hobj reports
    obtain ⟨d, hd, hid, hfields⟩ := echoRequestID_ok hhides hfs (hnone reports)
    rw [hd, final_ok_bind, final_modify] at ht
    subst ht
    exact ⟨rfl, fun hh => absurd hh hhides, fun _ => ⟨d, rfl, hid, hfields⟩⟩

/-- The module after a command. -/
def udpAfter (cmd : Json) (s : UdpProxies) : UdpProxies :=
  match Watched.settingIn cmd with
  | some (name, blocked) => (UdpProxies.setProxyBlocked name blocked).final s
  | none => s

/-- The name is found, as an entry or as something every object inherits. -/
def Found (cmd : Json) (s : UdpProxies) : Prop :=
  ∃ name blocked, Watched.settingIn cmd = some (name, blocked) ∧
    s.activeUdpProxy.get objectPrototype name ≠ .absent

theorem run_setProxyBlocked (name : String) (blocked : Bool) (s : UdpProxies) :
    ∃ b, UdpProxies.setProxyBlocked name blocked s =
        (.ok b, (UdpProxies.setProxyBlocked name blocked).final s) ∧
      (b = true ↔ s.activeUdpProxy.get objectPrototype name ≠ .absent) := by
  rw [final, UdpProxies.setProxyBlocked, run_bind_get]
  cases s.activeUdpProxy.get objectPrototype name with
  | absent => exact ⟨false, rfl, by simp⟩
  | inherited => exact ⟨true, rfl, by simp⟩
  | own e => exact ⟨true, rfl, by simp⟩

theorem run_apply (hc : cmd.field "c" = some (.str "g"))
    (hplain : cmd.owns "hasOwnProperty" = false) : ∃ b,
    apply (nameIn cmd) (blockedIn cmd) s = (.ok b, { s with udp := udpAfter cmd s.udp }) ∧
      (b = true ↔ Found cmd s.udp) := by
  by_cases hname : ∃ name, nameIn cmd = some (.str name)
  · obtain ⟨name, hname⟩ := hname
    have hset : Watched.settingIn cmd = some (name, decide (blockedIn cmd = some (.bool true))) := by
      rw [Watched.settingIn, if_pos ⟨hc, hplain⟩, hname]
    obtain ⟨b, hrun, hb⟩ := run_setProxyBlocked name (decide (blockedIn cmd = some (.bool true))) s.udp
    refine ⟨b, ?_, hb.trans ⟨fun h => ⟨name, _, hset, h⟩, ?_⟩⟩
    · rw [hname, apply, run_call hrun, udpAfter, hset]
    · rintro ⟨name', blocked', hset', hfound⟩
      rw [hset] at hset'
      obtain ⟨rfl, -⟩ := Prod.mk.inj (Option.some.inj hset')
      exact hfound
  · have hnone : Watched.settingIn cmd = none ∧ apply (nameIn cmd) (blockedIn cmd) = pure false := by
      rw [Watched.settingIn, if_pos ⟨hc, hplain⟩]
      rcases h : nameIn cmd with _ | _ | _ | _ | name | _ | _
      case some.str => exact absurd ⟨name, h⟩ hname
      all_goals exact ⟨rfl, rfl⟩
    refine ⟨false, by rw [hnone.2, udpAfter, hnone.1, run_pure], ?_⟩
    rw [Found, hnone.1]
    simp

/-- A command that hides no method the server calls on it gets to its branch. -/
theorem udpProxyCommand_plain {text : String} (hc : cmd.field "c" = some (.str text))
    (hplain : cmd.owns "hasOwnProperty" = false) : (udpProxyCommand cmd).final s =
      (if text = "e" then handleQueryUdpProxies cmd
        else if text = "g" then handleSetUdpProxyState cmd else pure ()).final s := by
  rw [udpProxyCommand, final_attempt_pure, hasOwnProperty_command hc, hplain,
    if_neg Bool.false_ne_true, final_ok_bind, if_pos rfl, hc]
  simp only [Option.some.injEq, Json.str.injEq]

/-- What a command does. -/
theorem final_udpProxyCommand (hs : (udpAfter cmd s.udp).Sound)
    (hc : cmd.field "c" = some (.str "e") ∨ cmd.field "c" = some (.str "g")) {t : UdpAdmin}
    (ht : t = (udpProxyCommand cmd).final s) :
    ∃ reports : List UdpProxies.ProxyReport, reports.map UdpProxies.ProxyReport.name = t.udp.activeUdpProxy.keys ∧
      (∀ report ∈ reports, t.udp.Reported report) ∧ t.udp = udpAfter cmd s.udp ∧
      (Hides cmd → t.toAuth = s.toAuth) ∧
      (¬ Hides cmd → ∃ d, t.toAuth = s.toAuth ++ [.obj [("c", .str "f"), ("d", d)]] ∧
        d.field "proxies" = some (.arr (reports.map UdpProxies.ProxyReport.toJson)) ∧
        d.field Const.requestID = (dataOf cmd).bind (Json.field Const.requestID) ∧
        (cmd.field "c" = some (.str "g") →
          ∃ b, d.field "applied" = some (.bool b) ∧ (b = true ↔ Found cmd s.udp))) := by
  cases hplain : cmd.owns "hasOwnProperty" with
  | true =>
    -- the guard of the handler throws
    have hsame : udpAfter cmd s.udp = s.udp := by
      rw [udpAfter, Watched.settingIn, if_neg (by rw [hplain]; simp)]
    have hfinal : t = s := by
      obtain ⟨text, htext⟩ : ∃ text, cmd.field "c" = some (.str text) :=
        hc.elim (fun h => ⟨_, h⟩) fun h => ⟨_, h⟩
      rw [ht, udpProxyCommand, final_attempt_pure, hasOwnProperty_command htext, if_pos hplain,
        final_error_bind]
    rw [hsame] at hs
    obtain ⟨reports, -, hnames, hall⟩ := hs.run_reports
    subst hfinal
    exact ⟨reports, hnames, hall, hsame.symm, fun _ => rfl, fun hno => absurd (Or.inl hplain) hno⟩
  | false =>
  have hdata : Hides cmd ↔ DataHide cmd :=
    or_iff_right (by rw [hplain]; exact Bool.false_ne_true)
  rw [hdata]
  rcases hc with hc | hc
  · have hsame : udpAfter cmd s.udp = s.udp := by
      rw [udpAfter, Watched.settingIn, if_neg (by rw [hc]; simp)]
    rw [udpProxyCommand_plain hc hplain, if_pos rfl, handleQueryUdpProxies] at ht
    rw [hsame] at hs
    obtain ⟨reports, hnames, hall, hudp, hhides, hsent⟩ := final_reply
      (f := fun reports => .obj [("proxies", .arr (reports.map UdpProxies.ProxyReport.toJson))])
      hs (fun _ => ⟨_, rfl⟩) (fun _ => rfl) ht
    rw [hsame, hudp]
    refine ⟨reports, hnames, hall, rfl, hhides, fun hno => ?_⟩
    obtain ⟨d, hd, hid, hfields⟩ := hsent hno
    refine ⟨d, hd, hfields _ (by decide), hid, fun hg => ?_⟩
    rw [hc] at hg
    exact absurd hg (by decide)
  · obtain ⟨b, happly, hb⟩ := run_apply (s := s) hc hplain
    rw [udpProxyCommand_plain hc hplain, if_neg (by decide), if_pos rfl, handleSetUdpProxyState,
      final_bind_of_ok happly] at ht
    have hinner : ∀ proxies : List Json, ∃ fs, ((Json.obj [("proxies", .arr proxies)]).setField
        "name" (nameIn cmd)).setField "blocked" (blockedIn cmd) = .obj fs := by
      intro proxies
      obtain ⟨fs, hfs⟩ := Json.setField_obj [("proxies", .arr proxies)] "name" (nameIn cmd)
      rw [hfs]
      exact Json.setField_obj fs _ _
    have hfield : ∀ (proxies : List Json) (applied : Val) {k : String}, k ≠ "name" → k ≠ "blocked" →
        k ≠ "applied" → ((((Json.obj [("proxies", .arr proxies)]).setField "name" (nameIn cmd)).setField
          "blocked" (blockedIn cmd)).setField "applied" applied).field k =
            (Json.obj [("proxies", .arr proxies)]).field k := by
      intro proxies applied k hn hb ha
      rw [Json.field_setField_ne _ _ ha, Json.field_setField_ne _ _ hb, Json.field_setField_ne _ _ hn]
    have hobj : ∀ reports : List UdpProxies.ProxyReport, ∃ fs, ((((Json.obj [("proxies", .arr
        (reports.map UdpProxies.ProxyReport.toJson))]).setField "name" (nameIn cmd)).setField
        "blocked" (blockedIn cmd)).setField "applied" (some (.bool b))) = .obj fs := by
      intro reports
      obtain ⟨fs, hfs⟩ := hinner (reports.map UdpProxies.ProxyReport.toJson)
      rw [hfs]
      exact Json.setField_obj fs _ _
    obtain ⟨reports, hnames, hall, hudp, hhides, hsent⟩ := final_reply
      (s := { s with udp := udpAfter cmd s.udp }) hs hobj
      (fun _ => hfield _ _ (by decide) (by decide) (by decide)) ht
    rw [hudp]
    refine ⟨reports, hnames, hall, rfl, hhides, fun hno => ?_⟩
    obtain ⟨d, hd, hid, hfields⟩ := hsent hno
    refine ⟨d, hd, ?_, hid, fun _ => ⟨b, ?_, hb⟩⟩
    · rw [hfields _ (by decide), hfield _ _ (by decide) (by decide) (by decide)]
      rfl
    · obtain ⟨fs, hfs⟩ := hinner (reports.map UdpProxies.ProxyReport.toJson)
      rw [hfields _ (by decide)]
      exact Json.field_setField_self hfs _ _

end UdpAdmin

namespace Watched

open UdpAdmin

variable {w w' : Watched} {cmd : Json}

/-- What the reports rest on. -/
structure Inv (w : Watched) : Prop where
  lined : w.admin.udp.Lined
  answerable : w.admin.udp.Answerable
  obeys : w.admin.udp.Obeys w.setting

theorem Inv.command (h : w.Inv) (cmd : Json) : (udpAfter cmd w.admin.udp).Lined ∧
    (udpAfter cmd w.admin.udp).Answerable ∧
    (udpAfter cmd w.admin.udp).Obeys (w.after (.auth cmd)).setting := by
  rw [udpAfter, after]
  dsimp only
  cases settingIn cmd with
  | none => exact ⟨h.lined, h.answerable, h.obeys⟩
  | some found =>
    obtain ⟨name, blocked⟩ := found
    have hstep : UdpProxies.Step w.admin.udp (.setProxyBlocked name blocked)
        ((UdpProxies.setProxyBlocked name blocked).final w.admin.udp) :=
      ⟨True.intro, (UdpProxies.final_setProxyBlocked name blocked _).symm⟩
    exact ⟨h.lined.step (o := .setProxyBlocked name blocked) True.intro (h.lined.faced_step hstep) hstep,
      (UdpProxies.hushed_step (by simp) hstep).answerable h.lined.faced h.answerable,
      h.obeys.set h.lined.toSound name blocked⟩

theorem Inv.step {o : Op} (h : w.Inv) (ho : w.OwnKeys o) (hstep : Step w o w') : w'.Inv := by
  obtain ⟨hen, rfl⟩ := hstep
  cases o with
  | module o =>
    have hblock : ∀ name blocked, o ≠ .setProxyBlocked name blocked := by
      rintro name blocked rfl
      exact absurd hen.1 (by simp [isSetting])
    have hstep : UdpProxies.Step w.admin.udp o ((UdpProxies.perform o).final w.admin.udp) :=
      ⟨hen.2, rfl⟩
    exact ⟨h.lined.step ho.1 (h.lined.faced_step hstep) hstep,
      h.lined.answerable_step h.answerable ho.2 hstep,
      h.obeys.step h.lined.toSound ho.1 hblock hstep⟩
  | auth cmd =>
    obtain ⟨hlined, hanswerable, hobeys⟩ := h.command cmd
    obtain ⟨-, -, -, hudp, -⟩ := final_udpProxyCommand hlined.toSound hen rfl
    have hsame : (w.after (.auth cmd)).admin.udp = udpAfter cmd w.admin.udp := hudp
    exact ⟨hsame ▸ hlined, hsame ▸ hanswerable, hsame ▸ hobeys⟩

theorem Inv.start (public_host : Val) : (start public_host).Inv where
  lined := UdpProxies.Lined.start public_host
  answerable := UdpProxies.Answerable.start public_host
  obeys := by
    intro name x hx
    exact absurd hx (by simp [Watched.start, UdpProxies.start, UdpProxies.sides, Table.own?_empty])

/-- What a report says about a name is so. -/
def Told (w : Watched) (name : String) (card : Json) : Prop :=
  ∃ e k l, w.admin.udp.activeUdpProxy.own? name = some e ∧
    w.admin.udp.Live (w.admin.udp.entries e).m_udpproxy k l ∧
    (card.field "socket1").bind (Json.field "port") = (w.admin.udp.sockets k).port ∧
    (card.field "socket2").bind (Json.field "port") = (w.admin.udp.sockets l).port ∧
    card.field "ready" = some (.bool (decide ((w.admin.udp.sockets k).bind = .listening ∧
      (w.admin.udp.sockets l).bind = .listening))) ∧
    card.field "blocked" = some (.bool (w.setting name)) ∧
    w.admin.udp.PassesOn (w.setting name) k l ∧ w.admin.udp.PassesOn (w.setting name) l k

/-- Every open name is listed once, and what is said about it is so. -/
structure Truthful (w : Watched) (proxies : List Json) : Prop where
  listed : ∃ names : List String, names.Nodup ∧
    (∀ name, name ∈ names ↔ ∃ e, w.admin.udp.activeUdpProxy.own? name = some e) ∧
    proxies.map (Json.field "name") = names.map fun name => some (.str name)
  told : ∀ card ∈ proxies, ∀ name, card.field "name" = some (.str name) → w.Told name card

theorem field_port (c : SocketConfig) : c.toJson.field "port" = c.port := by
  obtain ⟨fs, hfs⟩ := Json.setField_obj [] "address" c.address
  exact Json.field_setField_self hfs _ _

theorem Inv.told (h : w.Inv) {report : UdpProxies.ProxyReport} (hr : w.admin.udp.Reported report) :
    w.Told report.name report.toJson := by
  obtain ⟨e, k, l, hrow, hlive, hconfig, hready, hblocked⟩ := hr
  have hset : (w.admin.udp.entries e).blocked = w.setting report.name :=
    h.obeys _ _ (UdpProxies.sides_of_row hrow)
  refine ⟨e, k, l, hrow, hlive, ?_, ?_, ?_, ?_,
    h.lined.passesOn h.answerable h.obeys hrow (x := .near) hlive.1 hlive.2,
    h.lined.passesOn h.answerable h.obeys hrow (x := .far) hlive.2 hlive.1⟩
  · change report.config.socket1.toJson.field "port" = _
    rw [field_port, hconfig]
    rfl
  · change report.config.socket2.toJson.field "port" = _
    rw [field_port, hconfig]
    rfl
  · rw [← hready]
    rfl
  · rw [← hset, ← hblocked]
    rfl

/-- In every run a command of AUTH is answered with one report, unless it or its data hide a method: the
    report lists each open name once, with its ports, whether both sockets listen, and as blocked if that was
    set last since its entry was made; and as it says, datagrams are dropped or passed on. A setting
    counts as applied if the name is found. -/
theorem auth_told {public_host : Val} (hrun : Lts.Path Step OwnKeys (start public_host) w)
    (hown : w.OwnKeys (.auth cmd)) (hstep : Step w (.auth cmd) w') :
    (Hides cmd → w'.admin.toAuth = w.admin.toAuth) ∧
    (¬ Hides cmd → ∃ d proxies, w'.admin.toAuth = w.admin.toAuth ++ [.obj [("c", .str "f"), ("d", d)]] ∧
      d.field "proxies" = some (.arr proxies) ∧ w'.Truthful proxies ∧
      d.field Const.requestID = (dataOf cmd).bind (Json.field Const.requestID) ∧
      (cmd.field "c" = some (.str "g") →
        ∃ b, d.field "applied" = some (.bool b) ∧ (b = true ↔ Found cmd w.admin.udp))) := by
  have hinv : w.Inv := hrun.invariant (fun hP ho hstep => hP.step ho hstep) (Inv.start public_host)
  have hinv' : w'.Inv := hinv.step hown hstep
  obtain ⟨hen, rfl⟩ := hstep
  obtain ⟨reports, hnames, hall, -, hhides, hsent⟩ :=
    final_udpProxyCommand (hinv.command cmd).1.toSound hen rfl
  refine ⟨hhides, fun hno => ?_⟩
  obtain ⟨d, hd, hproxies, hid, happlied⟩ := hsent hno
  refine ⟨d, _, hd, hproxies, ⟨⟨_, (w.after (.auth cmd)).admin.udp.activeUdpProxy.nodup,
    fun name => Table.mem_keys_iff, ?_⟩, ?_⟩, hid, happlied⟩
  · have hnames' : (w.after (.auth cmd)).admin.udp.activeUdpProxy.rows.map Prod.fst =
        reports.map UdpProxies.ProxyReport.name := hnames.symm
    rw [hnames', List.map_map, List.map_map]
    rfl
  · intro card hcard name hname
    obtain ⟨report, hreport, rfl⟩ := List.mem_map.mp hcard
    have heq : report.name = name := by
      have hfield : some (Json.str report.name) = some (Json.str name) := hname
      simpa using hfield
    exact heq ▸ hinv'.told (hall report hreport)

instance (w : Watched) : ∀ o : Op, Decidable (w.Enabled o)
  | .module _ => inferInstanceAs (Decidable (_ ∧ _))
  | .auth _ => inferInstanceAs (Decidable (_ ∨ _))

instance (w : Watched) : ∀ o : Op, Decidable (w.OwnKeys o)
  | .module o => inferInstanceAs (Decidable (w.admin.udp.OwnKeys o ∧ o.Ordinary))
  | .auth _ => inferInstanceAs (Decidable (_ ≠ _))

def run (w : Watched) (os : List Op) : Option Watched :=
  os.foldlM (fun w o => if w.Enabled o ∧ w.OwnKeys o then some (w.after o) else none) w

theorem path_of_run {os : List Op} (h : w.run os = some w') : Lts.Path Step OwnKeys w w' :=
  Lts.Path.of_guarded (fun hc => ⟨hc.2, hc.1, rfl⟩) h

/-- AUTH blocks the proxy of a vehicle. -/
def settingCommand : Json :=
  .obj [("c", .str "g"), ("d", .obj [("name", .str "drone"), ("blocked", .bool true),
    (Const.requestID, .str "q1")])]

/-- The proxy of a vehicle is blocked, and re-created by the reaper. -/
def blockedAndRecreated : List Op :=
  UdpProxies.opened.map .module ++ [.auth settingCommand,
    .module (.reaperTick 900000 fun _ => true), .module (.listening 4 "0.0.0.0" "5000" 900001)]

/-- A query. -/
def queryCommand : Json := .obj [("c", .str "e"), ("d", .obj [(Const.requestID, .str "q2")])]

/-- AUTH is told that the new proxy is blocked, and not ready while its second socket is not bound. -/
theorem auth_told_recreated : ∃ w w', Lts.Path Step OwnKeys (start none) w ∧
    Step w (.auth queryCommand) w' ∧ w.admin.toAuth.length = 1 ∧ ∃ d proxies,
      w'.admin.toAuth = w.admin.toAuth ++ [.obj [("c", .str "f"), ("d", d)]] ∧
      d.field "proxies" = some (.arr proxies) ∧ d.field Const.requestID = some (.str "q2") ∧
      proxies.map (fun card => (card.field "ready", card.field "blocked")) =
        [(some (.bool false), some (.bool true))] ∧ w'.Truthful proxies := by
  have hplain : ¬ Hides queryCommand := by
    rintro (howns | ⟨data, hdata, howns⟩)
    · exact absurd howns (by decide)
    obtain rfl : .obj [(Const.requestID, .str "q2")] = data := Option.some.inj hdata
    exact absurd howns (by decide)
  have hlast : ((start none).run blockedAndRecreated).bind (fun w =>
      (w.after (.auth queryCommand)).admin.toAuth.getLast?.bind fun message =>
        (((message.field "d").bind (Json.field "proxies")).bind Json.items?).map
          (List.map fun card => (card.field "ready", card.field "blocked"))) =
      some [(some (.bool false), some (.bool true))] := by decide +kernel
  have hlength : ((start none).run blockedAndRecreated).map (fun w => w.admin.toAuth.length) =
      some 1 := by decide +kernel
  obtain ⟨w, hw, hcards⟩ := Option.bind_eq_some_iff.mp hlast
  rw [hw] at hlength
  replace hlength := Option.some.inj hlength
  have hrun := path_of_run hw
  have hstep : Step w (.auth queryCommand) (w.after (.auth queryCommand)) := ⟨Or.inl rfl, rfl⟩
  have hown : w.OwnKeys (.auth queryCommand) := by
    change nameIn queryCommand ≠ some (.str "__proto__")
    decide
  obtain ⟨d, proxies, hsent, hproxies, htruthful, hid, -⟩ := (auth_told hrun hown hstep).2 hplain
  refine ⟨w, _, hrun, hstep, hlength, d, proxies, hsent, hproxies, hid, ?_, htruthful⟩
  rw [hsent, List.getLast?_concat] at hcards
  have hd : (Json.obj [("c", .str "f"), ("d", d)]).field "d" = some d := rfl
  simpa only [hd, Option.bind_some, hproxies, Json.items?, Option.map_some, Option.some.injEq]
    using hcards

end Watched

end DroneEngage
