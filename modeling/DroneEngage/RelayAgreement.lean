import DroneEngage.Broadcasts
import DroneEngage.FrameKinds

/-! Local and relayed delivery.

    A broadcast is delivered twice over: by the server of its sender, which knows the sender's actor
    type, and by every relay server, which does not. The two agree where the frame itself says whom
    it is for, and where the sender is a ground station. A drone's frame to its group reaches the
    ground stations on its own server and every unit on a relay server, which leaves it to them to
    filter. -/

namespace DroneEngage
open Js

/-! ### Whom a frame is for -/

/-- How a frame addresses the units of a room. -/
inductive Addressing where
  /-- routed `g` -/
  | group
  /-- routed `i`, without a target or with an empty one -/
  | untargeted
  /-- routed `i`, to `_GCS_`, `_AGN_` or `_GD_` -/
  | reserved (actorType : Option String)

/-- The frame is addressed like this. -/
inductive AddressedTo (jmsg : Json) : Addressing → Prop
  | group : jmsg.field Const.routing = some (.str Const.routingGroup) → AddressedTo jmsg .group
  | untargeted : jmsg.field Const.routing = some (.str Const.routingIndividual) →
    (jmsg.field Const.targetID = none ∨ lengthGtZero (jmsg.field Const.targetID) = .ok false) →
    AddressedTo jmsg .untargeted
  | gcs : jmsg.field Const.routing = some (.str Const.routingIndividual) →
    jmsg.field Const.targetID = some (.str Const.senderAllGCS) →
    AddressedTo jmsg (.reserved (some Const.actorGCS))
  | agents : jmsg.field Const.routing = some (.str Const.routingIndividual) →
    jmsg.field Const.targetID = some (.str Const.senderAllAgents) →
    AddressedTo jmsg (.reserved (some Const.actorDrone))
  | all : jmsg.field Const.routing = some (.str Const.routingIndividual) →
    jmsg.field Const.targetID = some (.str Const.senderAll) → AddressedTo jmsg (.reserved none)

namespace Addressing

/-- The actor type that the server of a sender in this role asks for. -/
def audience (role : String) : Addressing → Option String
  | .group | .untargeted => if role = Const.actorGCS then none else some Const.actorGCS
  | .reserved actorType => actorType

/-- The actor type that a relay server asks for. -/
def relayedAudience : Addressing → Option String
  | .group | .untargeted => none
  | .reserved actorType => actorType

/-- A relay server delivers to units that the server of the sender does not deliver to. -/
def Widens (role : String) : Addressing → Prop
  | .group | .untargeted => role = Const.actorDrone
  | .reserved _ => False

end Addressing

/-- A unit in the audience. -/
def LoginRequest.Hears (login : LoginRequest) (actorType : Option String) : Prop :=
  actorType = none ∨ login.actorType = actorType.map Json.str

/-- The route of the frame can be read: its `hasOwnProperty` is called only when it is routed `i`. -/
def Readable (jmsg : Json) (a : Addressing) : Prop :=
  a = .group ∨ jmsg.owns "hasOwnProperty" = false

section

variable {jmsg : Json} {a : Addressing} {role : String}

theorem AddressedTo.congr {v : Json} (h : AddressedTo jmsg a)
    (hrouting : v.field Const.routing = jmsg.field Const.routing)
    (htarget : v.field Const.targetID = jmsg.field Const.targetID) : AddressedTo v a := by
  cases h with
  | group hr => exact .group (hrouting.trans hr)
  | untargeted hr ht => exact .untargeted (hrouting.trans hr) (by rw [htarget]; exact ht)
  | gcs hr ht => exact .gcs (hrouting.trans hr) (htarget.trans ht)
  | agents hr ht => exact .agents (hrouting.trans hr) (htarget.trans ht)
  | all hr ht => exact .all (hrouting.trans hr) (htarget.trans ht)

theorem hasTarget_shadowed {fs : List (String × Json)}
    (h : (Json.obj fs).owns "hasOwnProperty" = true) : hasTarget (.obj fs) = .error .typeError := by
  simp only [hasTarget, Json.hasOwnProperty, h, if_true]
  rfl

theorem hasTarget_plain {fs : List (String × Json)}
    (h : (Json.obj fs).owns "hasOwnProperty" = false) :
    hasTarget (.obj fs) = if (Json.obj fs).owns Const.targetID then
      lengthGtZero ((Json.obj fs).field Const.targetID) else .ok false := by
  simp only [hasTarget, Json.hasOwnProperty, h, Bool.false_eq_true, if_false]
  rfl

/-- What the target of such a frame leads to. -/
theorem AddressedTo.target {fs : List (String × Json)} (h : AddressedTo (.obj fs) a)
    (hr : a = .group ∨ (Json.obj fs).owns "hasOwnProperty" = false) :
    a = .group ∧ (Json.obj fs).field Const.routing = some (.str Const.routingGroup) ∨
    (Json.obj fs).field Const.routing = some (.str Const.routingIndividual) ∧
      (a = .untargeted ∧ hasTarget (.obj fs) = .ok false ∨
      ∃ actorType, a = .reserved actorType ∧ hasTarget (.obj fs) = .ok true ∧
        targetRoute ((Json.obj fs).field Const.targetID) = .broadcast actorType) := by
  have hfull : ∀ {target : String}, (Json.obj fs).field Const.targetID = some (.str target) →
      target ≠ "" → (Json.obj fs).owns "hasOwnProperty" = false → hasTarget (.obj fs) = .ok true := by
    intro target ht hne hown
    rw [hasTarget_plain hown, Json.owns, ht]
    exact congrArg Except.ok (decide_eq_true hne)
  cases h with
  | group hg => exact Or.inl ⟨rfl, hg⟩
  | untargeted hi ht =>
    have hown := hr.resolve_left (by simp)
    refine Or.inr ⟨hi, Or.inl ⟨rfl, ?_⟩⟩
    rw [hasTarget_plain hown, Json.owns]
    rcases ht with ht | ht
    · rw [ht]; rfl
    · rw [ht, ite_self]
  | gcs hi ht =>
    have hown := hr.resolve_left (by simp)
    exact Or.inr ⟨hi, Or.inr ⟨_, rfl, hfull ht (by decide) hown, by rw [ht]; rfl⟩⟩
  | agents hi ht =>
    have hown := hr.resolve_left (by simp)
    exact Or.inr ⟨hi, Or.inr ⟨_, rfl, hfull ht (by decide) hown, by rw [ht]; rfl⟩⟩
  | all hi ht =>
    have hown := hr.resolve_left (by simp)
    exact Or.inr ⟨hi, Or.inr ⟨_, rfl, hfull ht (by decide) hown, by rw [ht]; rfl⟩⟩

theorem routing_ne {fs : List (String × Json)}
    (h : (Json.obj fs).field Const.routing = some (.str Const.routingIndividual)) :
    (Json.obj fs).field Const.routing ≠ some (.str Const.routingGroup) := by
  rw [h]
  decide

/-- The route on the sender's own server. -/
theorem AddressedTo.localRoute_eq {fs : List (String × Json)} (h : AddressedTo (.obj fs) a)
    (hrole : role = Const.actorGCS ∨ role = Const.actorDrone) (hr : Readable (.obj fs) a) :
    localRoute (some (.str role)) (.obj fs) = .ok (.broadcast (a.audience role)) := by
  rcases h.target hr with ⟨rfl, hg⟩ | ⟨hi, ⟨rfl, ht⟩ | ⟨actorType, rfl, ht, hroute⟩⟩
  · rw [localRoute, if_pos hg]
    rcases hrole with rfl | rfl
    · rfl
    · rfl
  · rw [localRoute, if_neg (routing_ne hi), if_pos hi, ht]
    rcases hrole with rfl | rfl
    · rfl
    · rfl
  · rw [localRoute, if_neg (routing_ne hi), if_pos hi, ht, hroute]
    rfl

/-- The route on a relay server. -/
theorem AddressedTo.externalRoute_eq {fs : List (String × Json)} (h : AddressedTo (.obj fs) a)
    (hr : Readable (.obj fs) a) :
    externalRoute (.obj fs) = .ok (.broadcast a.relayedAudience) := by
  rcases h.target hr with ⟨rfl, hg⟩ | ⟨hi, ⟨rfl, ht⟩ | ⟨actorType, rfl, ht, hroute⟩⟩
  · rw [externalRoute, if_pos hg]; rfl
  · rw [externalRoute, if_neg (routing_ne hi), if_pos hi, ht]; rfl
  · rw [externalRoute, if_neg (routing_ne hi), if_pos hi, ht, hroute]; rfl

/-- A route that cannot be read leads nowhere. -/
theorem AddressedTo.unreadable {fs : List (String × Json)} (h : AddressedTo (.obj fs) a)
    (hr : ¬ Readable (.obj fs) a) (actorType : Val) :
    ∃ e, localRoute actorType (.obj fs) = .error e := by
  have hown : (Json.obj fs).owns "hasOwnProperty" = true := by
    rw [← Bool.not_eq_false]
    exact fun hf => hr (Or.inr hf)
  have hi : (Json.obj fs).field Const.routing = some (.str Const.routingIndividual) := by
    cases h with
    | group => exact absurd (Or.inl rfl) hr
    | untargeted hi | gcs hi | agents hi | all hi => exact hi
  refine ⟨.typeError, ?_⟩
  rw [localRoute, if_neg (routing_ne hi), if_pos hi, hasTarget_shadowed hown]
  rfl

/-- The route is read from three fields. -/
theorem localRoute_congr {fs gs : List (String × Json)} (actorType : Val)
    (hrouting : (Json.obj gs).field Const.routing = (Json.obj fs).field Const.routing)
    (htarget : (Json.obj gs).field Const.targetID = (Json.obj fs).field Const.targetID)
    (hown : (Json.obj gs).owns "hasOwnProperty" = (Json.obj fs).owns "hasOwnProperty") :
    localRoute actorType (.obj gs) = localRoute actorType (.obj fs) := by
  have hsame : hasTarget (.obj gs) = hasTarget (.obj fs) := by
    cases hshadow : (Json.obj fs).owns "hasOwnProperty" with
    | true => rw [hasTarget_shadowed hshadow, hasTarget_shadowed (hown.trans hshadow)]
    | false =>
      rw [hasTarget_plain hshadow, hasTarget_plain (hown.trans hshadow), Json.owns, Json.owns, htarget]
  rw [localRoute, localRoute, hrouting, htarget, hsame]

/-- A frame that is routed as a broadcast names its audience. -/
theorem exists_addressedTo {fs : List (String × Json)} {actorType : Val} {b : Option String}
    (h : localRoute actorType (.obj fs) = .ok (.broadcast b)) :
    ∃ a, AddressedTo (.obj fs) a ∧ Readable (.obj fs) a := by
  by_cases hg : (Json.obj fs).field Const.routing = some (.str Const.routingGroup)
  · exact ⟨.group, .group hg, Or.inl rfl⟩
  rw [localRoute, if_neg hg] at h
  by_cases hi : (Json.obj fs).field Const.routing = some (.str Const.routingIndividual)
  · rw [if_pos hi] at h
    have hown : (Json.obj fs).owns "hasOwnProperty" = false := by
      rw [← Bool.not_eq_true]
      intro hshadow
      rw [hasTarget_shadowed hshadow] at h
      exact absurd h (by simp [bind, Except.bind])
    cases ht : hasTarget (.obj fs) with
    | error e =>
      rw [ht] at h
      exact absurd h (by simp [bind, Except.bind])
    | ok full =>
      rw [ht] at h
      cases full with
      | false =>
        refine ⟨.untargeted, .untargeted hi ?_, Or.inr hown⟩
        rw [hasTarget_plain hown] at ht
        split at ht
        · exact Or.inr ht
        · next hnone => exact Or.inl (by simpa [Json.owns] using hnone)
      | true =>
        have hroute : targetRoute ((Json.obj fs).field Const.targetID) = .broadcast b :=
          Except.ok.inj h
        rw [targetRoute] at hroute
        split at hroute
        · next hgcs => exact ⟨_, .gcs hi hgcs, Or.inr hown⟩
        split at hroute
        · next hall => exact ⟨_, .all hi hall, Or.inr hown⟩
        split at hroute
        · next hagents => exact ⟨_, .agents hi hagents, Or.inr hown⟩
        · exact absurd hroute (by simp)
  · rw [if_neg hi] at h
    split at h
    · exact absurd (Except.ok.inj h) (by simp)
    · exact absurd (Except.ok.inj h) (by simp)

/-- The two audiences differ in the drone's frames that name none. -/
theorem Addressing.hears_audience_iff (hrole : role = Const.actorGCS ∨ role = Const.actorDrone)
    (login : LoginRequest) : login.Hears (a.audience role) ↔
      login.Hears a.relayedAudience ∧
        (a.Widens role → login.actorType = some (.str Const.actorGCS)) := by
  have hdefault : login.Hears (if role = Const.actorGCS then none else some Const.actorGCS) ↔
      (role = Const.actorDrone → login.actorType = some (.str Const.actorGCS)) := by
    rcases hrole with rfl | rfl
    · rw [if_pos rfl]
      exact iff_of_true (Or.inl rfl) fun h => absurd h (by decide)
    · rw [if_neg (by decide), LoginRequest.Hears]
      simp
  cases a with
  | group => exact hdefault.trans (and_iff_right (Or.inl rfl)).symm
  | untargeted => exact hdefault.trans (and_iff_right (Or.inl rfl)).symm
  | reserved actorType => exact (and_iff_left fun h => absurd h id).symm

theorem Addressing.isAudience (h : AddressedTo jmsg a) : Server.IsAudience a.relayedAudience := by
  cases h with
  | group | untargeted | all => exact Or.inl rfl
  | gcs => exact Or.inr (Or.inl rfl)
  | agents => exact Or.inr (Or.inr rfl)

end

/-- Two login records of one unit. -/
structure LoginRequest.Agrees (login login' : LoginRequest) : Prop where
  senderID : login'.senderID = login.senderID
  accountID : login'.accountID = login.accountID
  groupID : login'.groupID = login.groupID
  actorType : login'.actorType = login.actorType

namespace ParentCommServer

open Action

variable {PrivateKey PublicKey : Type} {J : JsonCodec} {crypto : Crypto PrivateKey PublicKey}
  {config : S2sConfig PrivateKey PublicKey} {c : LinkId}

/-- A message of an authenticated child is handed to the chat server. -/
theorem onMessage_authed {p : ParentCommServer PublicKey}
    (hauthed : (p.children c).m_s2s_authed = true) (m : Bytes) (isText : Bool) :
    (onMessage J crypto config c m isText).final p = p.emit (.parseExternalMessage c m (!isText)) := by
  rw [onMessage, final_attempt_pure, final_get_bind, if_neg (by rw [hauthed]; simp)]
  rfl

end ParentCommServer

namespace Server

open Action

theorem wants_iff {login : LoginRequest} {ws : SocketId} {v : Val} {holder : Option SocketId}
    (hne : login.senderID ≠ v) (hholder : holder ≠ some ws) (actorType : Option String) :
    wants login ws ⟨v, holder⟩ actorType = true ↔ login.Hears actorType := by
  have hother : sameSender login ws ⟨v, holder⟩ = false := by
    rw [sameSender]
    split
    · exact decide_eq_false hholder
    · exact decide_eq_false hholder
    · exact decide_eq_false hne
  rw [wants, hother, LoginRequest.Hears]
  cases actorType with
  | none => simp
  | some c => simp

/-! ### On the sender's own server -/

/-- A unit that is logged in and in a room. -/
structure Speaks (s : Server) (ws : SocketId) (sender : LoginRequest) (g : GroupId) : Prop where
  loginRequest : (s.sockets ws).loginRequest = some sender
  hasStatus : (s.sockets ws).hasStatus = true
  group : (s.sockets ws).group = some g

section

variable {J : JsonCodec} {s : Server} {ws u : SocketId} {sender unit : LoginRequest} {g : GroupId}
  {k role : String} {a : Addressing} {message : Bytes} {isBinary : Bool}
  {fs : List (String × Json)}

theorem Speaks.injectPermission (h : s.Speaks ws sender g)
    (hv : J.parse (if isBinary then header message else message) = some (.obj fs)) :
    s.injectPermission J ws message isBinary = some (sender, (Json.obj fs).setField "p" sender.prm,
      J.stringify ((Json.obj fs).setField "p" sender.prm) ++
        if isBinary then payload message else []) := by
  rw [Server.injectPermission, hv, h.loginRequest, h.hasStatus]
  rfl

theorem misses_forwardMessage (m : Bytes) (b : Bool) :
    Moves (Logs (Misses u)) (forwardMessage J m b ws) :=
  moves_bind moves_get fun _ => moves_ite (fun _ => moves_pure ()) fun _ =>
    moves_bind (moves_when fun _ => moves_modify (logs_emit (by rintro _ _ ⟨⟩))) fun _ =>
      moves_when fun _ => moves_modify (logs_emit (by rintro _ _ ⟨⟩))

theorem misses_forwardExternalMessage (m : Bytes) (b : Bool) (source : Option LinkId) :
    Moves (Logs (Misses u)) (forwardExternalMessage J m b source) :=
  moves_bind moves_get fun _ =>
    moves_bind (moves_when fun _ => moves_modify (logs_emit (by rintro _ _ ⟨⟩))) fun _ =>
      moves_when fun _ => moves_modify (logs_emit (by rintro _ _ ⟨⟩))

/-- The client's object with its permission is addressed as the client wrote it. -/
theorem AddressedTo.withPermission (h : AddressedTo (.obj fs) a) (prm : Val) :
    ∃ gs, (Json.obj fs).setField "p" prm = .obj gs ∧ AddressedTo (.obj gs) a ∧
      (Readable (.obj gs) a ↔ Readable (.obj fs) a) := by
  obtain ⟨gs, hgs⟩ := Json.setField_obj fs "p" prm
  have hsame : ∀ k, k ≠ "p" → (Json.obj gs).field k = (Json.obj fs).field k := by
    intro k hk
    rw [← hgs, Json.field_setField_ne _ _ hk]
  refine ⟨gs, hgs, h.congr (hsame _ (by decide)) (hsame _ (by decide)), ?_⟩
  rw [Readable, Readable, Json.owns, Json.owns, hsame _ (by decide)]

/-- A frame that is routed as a broadcast is delivered in the room and forwarded. -/
theorem Speaks.parseMessage_broadcast (h : s.Speaks ws sender g)
    (hv : J.parse (if isBinary then header message else message) = some (.obj fs))
    {actorType : Option String}
    (hroute : localRoute sender.actorType (.obj fs) = .ok (.broadcast actorType)) :
    ∃ m s₁, m = J.stringify ((Json.obj fs).setField "p" sender.prm) ++
        (if isBinary then payload message else []) ∧
      s₁ = (broadcast g m isBinary ⟨sender.senderID, some ws⟩ actorType).final s ∧
      (parseMessage J ws message isBinary).final s = (forwardMessage J m isBinary ws).final s₁ := by
  obtain ⟨gs, hgs⟩ := Json.setField_obj fs "p" sender.prm
  have hsame : ∀ k, k ≠ "p" → (Json.obj gs).field k = (Json.obj fs).field k := by
    intro k hk
    rw [← hgs, Json.field_setField_ne _ _ hk]
  have hroute' : localRoute sender.actorType (.obj gs) = .ok (.broadcast actorType) := by
    rw [localRoute_congr _ (hsame _ (by decide)) (hsame _ (by decide))
      (by rw [Json.owns, Json.owns, hsame _ (by decide)])]
    exact hroute
  refine ⟨_, _, rfl, rfl, ?_⟩
  rw [parseMessage, final_get_bind, h.injectPermission hv]
  simp only [final_attempt_pure, hgs]
  rw [hroute', final_ok_bind]
  generalize J.stringify (.obj gs) ++ (if isBinary then payload message else []) = m
  have hrun : sendMessageToMyGroup actorType m isBinary ws s = (.ok (),
      (broadcast g m isBinary ⟨sender.senderID, some ws⟩ actorType).final s) := by
    have hgoes := run_of_not_escapes (m := sendMessageToMyGroup actorType m isBinary ws)
      (s := s) (not_escapes_attempt fun _ s' => not_escapes_pure () s')
    rw [hgoes, sendMessageToMyGroup, final_attempt_pure, final_get_bind, h.group, h.loginRequest]
  exact final_bind_of_ok hrun

/-- A frame that can be read is delivered in the room and forwarded, and no other. -/
theorem Speaks.parseMessage_final (h : s.Speaks ws sender g)
    (hv : J.parse (if isBinary then header message else message) = some (.obj fs))
    (hactor : sender.actorType = some (.str role))
    (hrole : role = Const.actorGCS ∨ role = Const.actorDrone) (hto : AddressedTo (.obj fs) a) :
    ¬ Readable (.obj fs) a ∧ (parseMessage J ws message isBinary).final s = s ∨
    Readable (.obj fs) a ∧ ∃ m s₁, m = J.stringify ((Json.obj fs).setField "p" sender.prm) ++
        (if isBinary then payload message else []) ∧
      s₁ = (broadcast g m isBinary ⟨sender.senderID, some ws⟩ (a.audience role)).final s ∧
      (parseMessage J ws message isBinary).final s = (forwardMessage J m isBinary ws).final s₁ := by
  by_cases hr : Readable (.obj fs) a
  · exact Or.inr ⟨hr, h.parseMessage_broadcast hv (by rw [hactor]; exact hto.localRoute_eq hrole hr)⟩
  · left
    obtain ⟨gs, hgs, hto', hread⟩ := AddressedTo.withPermission hto sender.prm
    rw [parseMessage, final_get_bind, h.injectPermission hv]
    simp only [final_attempt_pure, hactor, hgs]
    obtain ⟨e, he⟩ := hto'.unreadable (fun hf => hr (hread.mp hf)) (some (.str role))
    rw [he]
    exact ⟨hr, rfl⟩

/-- Who receives a frame of a unit in the same room of the same server. -/
theorem Speaks.local_iff (h : s.Speaks ws sender g) (hu : s.Stands g k u unit)
    (hother : unit.senderID ≠ sender.senderID)
    (hv : J.parse (if isBinary then header message else message) = some (.obj fs))
    (hactor : sender.actorType = some (.str role))
    (hrole : role = Const.actorGCS ∨ role = Const.actorDrone) (hto : AddressedTo (.obj fs) a) :
    Receives u s ((parseMessage J ws message isBinary).final s) ↔
      Readable (.obj fs) a ∧ unit.Hears (a.audience role) := by
  rcases h.parseMessage_final hv hactor hrole hto with ⟨hr, hfin⟩ | ⟨hr, m, s₁, -, hs₁, hfin⟩
  · rw [hfin]
    refine iff_of_false ?_ fun hboth => hr hboth.1
    rw [not_receives_iff List.prefix_rfl]
    exact refl_of (Logs (Misses u)) s
  · have hne : some ws ≠ some u := by
      rintro ⟨⟩
      have hsame := h.loginRequest.symm.trans hu.loginRequest
      rw [Option.some.inj hsame] at hother
      exact hother rfl
    have hgrow : s.log <+: s₁.log := by rw [hs₁]; exact (onlyShrinks_broadcast _ _ _ _ _ s).log
    rw [hfin, receives_then_iff hgrow (misses_forwardMessage m isBinary s₁), hs₁, hu.broadcast_iff,
      wants_iff hother hne]
    exact (and_iff_right hr).symm

end

/-! ### Over a link -/

/-- A link from a server to a child or to its parent, as its two ends hold it. -/
inductive Link (PrivateKey PublicKey : Type) where
  | down (parent : ParentCommServer PublicKey) (c : LinkId) (child : ChildCommServer)
      (config : S2sConfig PrivateKey PublicKey)
  | up (child : ChildCommServer) (parent : ParentCommServer PublicKey) (c : LinkId)
      (config : S2sConfig PrivateKey PublicKey)

section

variable {PrivateKey PublicKey : Type}

/-- The server relays over the link, and the link is open and authenticated. -/
def Link.Ready (s : Server) : Link PrivateKey PublicKey → Prop
  | .down parent c _ _ => s.config.enable_super_server = true ∧
      (∃ key, parent.clientData.own? key = some c) ∧ (parent.children c).readyState = .isOpen ∧
      (parent.children c).m_s2s_authed = true
  | .up child parent c _ => s.config.enable_persistant_relay = true ∧
      child.parentWs = some .isOpen ∧ (parent.children c).m_s2s_authed = true

variable (J : JsonCodec) (crypto : Crypto PrivateKey PublicKey)

/-- What the server does (`e`) hands a message to the chat server at the other end of the link. -/
inductive Link.Carries (e : Effect) :
    Link PrivateKey PublicKey → Bytes → Bool → Option LinkId → Prop
  | down {parent : ParentCommServer PublicKey} {c : LinkId} {child : ChildCommServer}
    {config : S2sConfig PrivateKey PublicKey} {m : Bytes} {b kind : Bool} {exclude : Option LinkId} :
    e = .toChildren m b exclude →
    .send c m b ∈ ((ParentCommServer.forwardMessage m b exclude).final parent).log.drop
      parent.log.length →
    .parseExternalMessage m kind ∈
      ((ChildCommServer.onReceive J crypto config m false).final child).log.drop child.log.length →
    Carries e (.down parent c child config) m kind none
  | up {child : ChildCommServer} {parent : ParentCommServer PublicKey} {c : LinkId}
    {config : S2sConfig PrivateKey PublicKey} {m : Bytes} {b kind : Bool} :
    e = .toParent m b →
    .send m b ∈ ((ChildCommServer.forwardMessage m b).final child).log.drop child.log.length →
    .parseExternalMessage c m kind ∈ ((ParentCommServer.onMessage J crypto config c m false).final
      parent).log.drop parent.log.length →
    Carries e (.up child parent c config) m kind (some c)

/-- A unit of another server receives what this server's step relays over the link. -/
def ReceivesOver (l : Link PrivateKey PublicKey) (s s' t : Server) (u : SocketId) : Prop :=
  ∃ e ∈ s'.log.drop s.log.length, ∃ m kind source, l.Carries J crypto e m kind source ∧
    Receives u t ((parseExternalMessage J m kind source).final t)

variable {J crypto} {s t : Server} {l : Link PrivateKey PublicKey}

/-- What comes over a link was relayed, and comes as a binary frame. -/
theorem Link.Carries.relayed {e : Effect} {m : Bytes} {kind : Bool} {source : Option LinkId}
    (h : l.Carries J crypto e m kind source) : (∃ b, e.relayed? = some (m, b)) ∧ kind = true := by
  cases h with
  | down he _ hhanded =>
    rw [he]
    exact ⟨⟨_, rfl⟩, Handed.kind (.child _ _ hhanded)⟩
  | up he _ hhanded =>
    rw [he]
    exact ⟨⟨_, rfl⟩, Handed.kind (.parent _ _ _ hhanded)⟩

/-- A ready link carries what is relayed over it, unless the child takes it for an envelope. -/
theorem Link.Ready.carries (h : l.Ready s) (m : Bytes) (b : Bool)
    (htraffic : S2sAuth.parseEnvelope J m false = none) : ∃ e source,
    (s.config.enable_super_server = true ∧ e = .toChildren m b none ∨
      s.config.enable_persistant_relay = true ∧ e = .toParent m b) ∧
    l.Carries J crypto e m true source := by
  cases l with
  | down parent c child config =>
    obtain ⟨hsuper, ⟨key, hkey⟩, hopen, hauthed⟩ := h
    refine ⟨_, none, Or.inl ⟨hsuper, rfl⟩, .down rfl ?_ ?_⟩
    · rw [ParentCommServer.forwardMessage_final, List.drop_left]
      refine List.mem_map.mpr ⟨c, List.mem_filter.mpr ⟨Table.mem_values_iff.mpr ⟨key, hkey⟩, ?_⟩, rfl⟩
      exact decide_eq_true ⟨hopen, hauthed, by simp⟩
    · rw [ChildCommServer.onReceive_traffic htraffic, ChildCommServer.emit, List.drop_left]
      exact List.mem_singleton.mpr rfl
  | up child parent c config =>
    obtain ⟨hrelay, hopen, hauthed⟩ := h
    refine ⟨_, some c, Or.inr ⟨hrelay, rfl⟩, .up rfl (b := b) ?_ ?_⟩
    · rw [ChildCommServer.forwardMessage, final_get_bind, if_pos hopen]
      simp [ChildCommServer.emit]
    · rw [ParentCommServer.onMessage_authed hauthed]
      simp [ParentCommServer.emit]

end

section

variable {PrivateKey PublicKey : Type} {J : JsonCodec} {crypto : Crypto PrivateKey PublicKey}
  {s t : Server} {l : Link PrivateKey PublicKey} {ws u : SocketId} {sender unit : LoginRequest}
  {b g : GroupId} {c : AccountId} {k ka kg role : String} {a : Addressing} {message : Bytes}
  {isBinary : Bool} {fs : List (String × Json)}

/-- The copy that a ready link carries. -/
theorem Speaks.relays (h : s.Speaks ws sender g) (hp : s.ProperIds J)
    (hv : J.parse (if isBinary then header message else message) = some (.obj fs))
    {actorType : Option String}
    (hroute : localRoute sender.actorType (.obj fs) = .ok (.broadcast actorType)) : ∃ frame, ∀ e,
      (s.config.enable_super_server = true ∧ e = .toChildren frame isBinary none ∨
        s.config.enable_persistant_relay = true ∧ e = .toParent frame isBinary) →
      e ∈ ((parseMessage J ws message isBinary).final s).log.drop s.log.length := by
  obtain ⟨m, s₁, rfl, hs₁, hfin⟩ := h.parseMessage_broadcast hv hroute
  have hshrinks : s.Shrinks s₁ := by rw [hs₁]; exact onlyShrinks_broadcast _ _ _ _ _ s
  obtain ⟨gs, hgs⟩ := Json.setField_obj fs "p" sender.prm
  have hproper : ((Json.obj fs).setField "p" sender.prm).Proper J.isNumber :=
    (J.parse_proper _ _ hv).setField "p" (hp.login ws sender h.loginRequest).prm
  refine ⟨s₁.forwardedFrame J ws ((Json.obj fs).setField "p" sender.prm) message isBinary,
    fun e he => ?_⟩
  have hlog := forwardMessage_effects (((hshrinks.sockets ws).loginRequest).trans h.loginRequest)
    hproper (by rw [hgs]; rfl) message isBinary
  obtain ⟨l, hl⟩ := hshrinks.log
  rw [hfin, hlog, ← hl, List.append_assoc, List.drop_left, hshrinks.config]
  refine List.mem_append_right l (List.mem_append.mpr ?_)
  rcases he with ⟨hon, rfl⟩ | ⟨hon, rfl⟩
  · exact Or.inl (by rw [if_pos hon]; exact List.mem_singleton.mpr rfl)
  · exact Or.inr (by rw [if_pos hon]; exact List.mem_singleton.mpr rfl)

/-- What a relay server that hosts the room makes of a copy. -/
theorem Placed.external_iff (ht : t.Placed ka kg k c b u unit)
    (hg : (s.sockets ws).group = some g) (haid : propKey (s.accountOf g).accountID = .ok ka)
    (hgid : propKey (s.groupHeap g).ID = .ok kg) {v' : Json}
    (hcopy : CopyOf s ws sender (.obj fs) [s.serverOriginID] v') (hproper : v'.Proper J.isNumber)
    (hto : AddressedTo (.obj fs) a) (hr : Readable (.obj fs) a)
    (hnew : alreadyRelayed t.serverOriginID (.obj fs) = false)
    (hids : s.serverOriginID ≠ t.serverOriginID)
    (hsd : (Json.obj fs).field Const.wsSenderID ≠ unit.senderID) (source : Option LinkId) :
    Receives u t ((parseExternalMessage J (J.stringify v' ++ payload message) true source).final t) ↔
      unit.Hears a.relayedAudience := by
  have hstamps := hcopy.stamps g hg
  have hsame : ∀ k, k ≠ "p" → k ≠ "_path" → k ≠ "_aid" → k ≠ "_gid" →
      v'.field k = (Json.obj fs).field k := fun k hp hpath ha hgid =>
    hcopy.others k hp hpath fun _ => ⟨ha, hgid⟩
  obtain ⟨gs, rfl⟩ := hcopy.isObj
  have hto' : AddressedTo (.obj gs) a := hto.congr
    (hsame _ (by decide) (by decide) (by decide) (by decide))
    (hsame _ (by decide) (by decide) (by decide) (by decide))
  have hr' : Readable (.obj gs) a := by
    refine hr.imp id fun hown => ?_
    rw [Json.owns, hsame _ (by decide) (by decide) (by decide) (by decide)]
    exact hown
  have hparse : J.parse (if true then header (J.stringify (.obj gs) ++ payload message)
      else J.stringify (.obj gs) ++ payload message) = some (.obj gs) := by
    rw [if_pos rfl, header_of_zero_notMem (J.zero_notMem_stringify _), J.parse_stringify _ hproper]
  have hseen : alreadyRelayed t.serverOriginID (.obj gs) = false := by
    rw [alreadyRelayed] at hnew ⊢
    rw [hcopy.trail]
    change (trailOf (.obj fs) ++ [Json.str s.serverOriginID]).contains _ = false
    change (trailOf (.obj fs)).contains _ = false at hnew
    rw [List.contains_append, hnew]
    simpa using fun h => hids h.symm
  rw [parseExternalMessage_final J hparse (by simp) hseen (hto'.externalRoute_eq hr')]
  have hsender : (Json.obj gs).field Const.wsSenderID = (Json.obj fs).field Const.wsSenderID :=
    hsame _ (by decide) (by decide) (by decide) (by decide)
  rw [dispatchExternal]
  generalize J.stringify (.obj gs) ++ payload message = m
  have hdeliver : Receives u t ((deliverExternalBroadcast m true
      ((Json.obj gs).field Const.wsSenderID) (.obj gs) a.relayedAudience).final t) ↔
      wants unit u ⟨(Json.obj gs).field Const.wsSenderID, none⟩ a.relayedAudience = true :=
    ht.deliver_iff (Addressing.isAudience hto) (by rw [hstamps.1]; exact haid)
      (by rw [hstamps.2]; exact hgid) _
  have hgrow : OnlyShrinks (deliverExternalBroadcast m true ((Json.obj gs).field Const.wsSenderID)
      (.obj gs) a.relayedAudience) :=
    moves_deliverExternalBroadcast (fun v => onlyShrinks_send v _ _) onlyShrinks_handleOrphanSocket
      (onlyShrinks_emit _) _ _ _
  rw [receives_then_iff (hgrow t).log (final_bind_keeps
    (P := fun t' => Logs (Misses u) _ t') (refl_of (Logs (Misses u)) _)
    fun _ t' h => trans_of (Logs (Misses u)) h (misses_forwardExternalMessage m true source t')),
    hdeliver]
  exact wants_iff (by rw [hsender]; exact hsd.symm) (by simp) _

/-- A frame that says nothing to the relay: its own trail does not name the server, it is no envelope
    of the handshake, and it does not name the unit as its sender. -/
structure PlainFor (t : Server) (unit : LoginRequest) (message : Bytes)
    (fs : List (String × Json)) : Prop where
  trail : alreadyRelayed t.serverOriginID (.obj fs) = false
  traffic : isNullish ((Json.obj fs).field "s2s_auth") = true ∨ 0 ∈ message
  sender : (Json.obj fs).field Const.wsSenderID ≠ unit.senderID

theorem Link.Ready.enabled (h : l.Ready s) : s.config.enable_super_server = true ∨
    s.config.enable_persistant_relay = true := by
  cases l with
  | down => exact Or.inl h.1
  | up => exact Or.inr h.1

/-- Who receives a frame of a unit in the same room of a relay server. -/
theorem Speaks.over_iff (h : s.Speaks ws sender g) (hs : s.Consistent) (hp : s.ProperIds J)
    (ht : t.Placed ka kg k c b u unit) (haid : propKey (s.accountOf g).accountID = .ok ka)
    (hgid : propKey (s.groupHeap g).ID = .ok kg) (hready : l.Ready s)
    (hids : s.serverOriginID ≠ t.serverOriginID) (hplain : PlainFor t unit message fs)
    (hv : J.parse (if isBinary then header message else message) = some (.obj fs))
    (hactor : sender.actorType = some (.str role))
    (hrole : role = Const.actorGCS ∨ role = Const.actorDrone) (hto : AddressedTo (.obj fs) a) :
    ReceivesOver J crypto l s ((parseMessage J ws message isBinary).final s) t u ↔
      Readable (.obj fs) a ∧ unit.Hears a.relayedAudience := by
  -- what leaves the server is a copy of the frame
  have hcopy : ∀ {e m b'}, e ∈ ((parseMessage J ws message isBinary).final s).log.drop s.log.length →
      e.relayed? = some (m, b') → ∃ v', CopyOf s ws sender (.obj fs) [s.serverOriginID] v' ∧
        v'.Proper J.isNumber ∧ m = J.stringify v' ++ payload message := by
    intro e m b' he hrel
    obtain ⟨-, login, v', hl, hcopy, hproper, hm⟩ := Copy.content hs hp hv
      (.first (List.mem_filterMap.mpr ⟨e, he, hrel⟩))
    obtain rfl : sender = login := Option.some.inj (h.loginRequest.symm.trans hl)
    exact ⟨v', hcopy, hproper, hm⟩
  constructor
  · rintro ⟨e, he, m, kind, source, hcarries, hreceives⟩
    obtain ⟨⟨b', hrel⟩, rfl⟩ := hcarries.relayed
    obtain ⟨v', hv', hproper, rfl⟩ := hcopy he hrel
    have hr : Readable (.obj fs) a := by
      rcases h.parseMessage_final hv hactor hrole hto with ⟨-, hfin⟩ | ⟨hr, -⟩
      · rw [hfin, List.drop_length] at he
        exact absurd he (by simp)
      · exact hr
    exact ⟨hr, (ht.external_iff h.group haid hgid hv' hproper hto hr hplain.trail hids hplain.sender
      source).mp hreceives⟩
  · rintro ⟨hr, hhears⟩
    obtain ⟨frame, hframe⟩ := h.relays hp hv (by rw [hactor]; exact hto.localRoute_eq hrole hr)
    have hfirst : ∃ v', CopyOf s ws sender (.obj fs) [s.serverOriginID] v' ∧
        v'.Proper J.isNumber ∧ frame = J.stringify v' ++ payload message := by
      rcases hready.enabled with hon | hon
      · exact hcopy (hframe _ (Or.inl ⟨hon, rfl⟩)) rfl
      · exact hcopy (hframe _ (Or.inr ⟨hon, rfl⟩)) rfl
    obtain ⟨v', hv', hproper, rfl⟩ := hfirst
    obtain ⟨e, source, he, hcarries⟩ := hready.carries _ isBinary
      ((hv'.parseEnvelope_iff hproper message false).mpr hplain.traffic)
    exact ⟨e, hframe e he, _, true, source, hcarries, (ht.external_iff h.group haid hgid hv' hproper
      hto hr hplain.trail hids hplain.sender source).mpr hhears⟩

end

/-! ### Agreement -/

/-- The unit is a member of the group, logged in like this. -/
structure Lists (s : Server) (g : GroupId) (u : SocketId) (unit : LoginRequest) : Prop where
  listed : ∃ k, (s.groupHeap g).units.own? k = some u
  loginRequest : (s.sockets u).loginRequest = some unit

/-- The server hosts the account and the group of the login. -/
def HostsRoomOf (s : Server) (login : LoginRequest) (g : GroupId) : Prop :=
  ∃ ka kg a, propKey login.accountID = .ok ka ∧ propKey login.groupID = .ok kg ∧ s.Hosts ka kg a g

section

variable {PrivateKey PublicKey : Type} {J : JsonCodec} {crypto : Crypto PrivateKey PublicKey}
  {isAlphanumeric : String → Bool} {config₁ config₂ config₃ : Config} {es₁ es₂ es₃ : List Event}
  {s₁ s₂ t : Server} {l : Link PrivateKey PublicKey} {ws₁ ws₂ u₁ u₂ : SocketId}
  {sender₁ sender₂ unit₁ unit₂ : LoginRequest} {g₁ g₂ g₃ : GroupId} {role : String}
  {a : Addressing} {message : Bytes} {isBinary : Bool} {fs : List (String × Json)}

/-- A frame to its room reaches a unit on the sender's own server (`s₁`) exactly when it reaches the
    unit on a relay server (`t`, linked to `s₂`) that hosts the room; but where the frame of a drone
    names no audience, only the ground stations among those units. -/
theorem local_relayed_agree (h₁ : run J isAlphanumeric (start config₁) es₁ = some s₁)
    (h₂ : run J isAlphanumeric (start config₂) es₂ = some s₂)
    (h₃ : run J isAlphanumeric (start config₃) es₃ = some t)
    (hws₁ : s₁.Speaks ws₁ sender₁ g₁) (hws₂ : s₂.Speaks ws₂ sender₂ g₂)
    (hsender : sender₁.Agrees sender₂)
    (hu₁ : s₁.Lists g₁ u₁ unit₁) (hu₂ : t.Lists g₃ u₂ unit₂) (hunit : unit₁.Agrees unit₂)
    (hother : unit₁.senderID ≠ sender₁.senderID) (hhosts : t.HostsRoomOf sender₁ g₃)
    (hready : l.Ready s₂) (hids : s₂.serverOriginID ≠ t.serverOriginID)
    (hactor : sender₁.actorType = some (.str role))
    (hrole : role = Const.actorGCS ∨ role = Const.actorDrone)
    (hv : J.parse (if isBinary then header message else message) = some (.obj fs))
    (hto : AddressedTo (.obj fs) a) (hplain : PlainFor t unit₁ message fs) :
    Receives u₁ s₁ ((parseMessage J ws₁ message isBinary).final s₁) ↔
      ReceivesOver J crypto l s₂ ((parseMessage J ws₂ message isBinary).final s₂) t u₂ ∧
        (a.Widens role → unit₁.actorType = some (.str Const.actorGCS)) := by
  have hc₁ := consistent_run J isAlphanumeric h₁
  have hc₂ := consistent_run J isAlphanumeric h₂
  have hc₃ := consistent_run J isAlphanumeric h₃
  obtain ⟨k₁, hk₁⟩ := hu₁.listed
  obtain ⟨k₂, hk₂⟩ := hu₂.listed
  obtain ⟨ka, kg, c, hka, hkg, hrows⟩ := hhosts
  -- the room of the sender on the linked server carries the same ids
  obtain ⟨login, hl, -, hgroup, haccount⟩ := hc₂.room ws₂ g₂ hws₂.group
  obtain rfl : sender₂ = login := Option.some.inj (hws₂.loginRequest.symm.trans hl)
  have haid : propKey (s₂.accountOf g₂).accountID = .ok ka :=
    haccount.symm.key (by rw [hsender.accountID]; exact hka)
  have hgid : propKey (s₂.groupHeap g₂).ID = .ok kg :=
    hgroup.symm.key (by rw [hsender.groupID]; exact hkg)
  have hplain₂ : PlainFor t unit₂ message fs :=
    ⟨hplain.trail, hplain.traffic, by rw [hunit.senderID]; exact hplain.sender⟩
  have hhears : unit₂.Hears a.relayedAudience ↔ unit₁.Hears a.relayedAudience := by
    rw [LoginRequest.Hears, LoginRequest.Hears, hunit.actorType]
  rw [hws₁.local_iff ⟨hc₁, hk₁, hu₁.loginRequest⟩ hother hv hactor hrole hto,
    hws₂.over_iff hc₂ (properIds_run h₂) ⟨⟨hc₃, hk₂, hu₂.loginRequest⟩, hrows⟩ haid hgid hready hids
      hplain₂ hv (by rw [hsender.actorType]; exact hactor) hrole hto, hhears,
    Addressing.hears_audience_iff hrole, and_assoc]

end

/-- A drone of group 1 of account `acc`, as AUTH announces it. -/
def announcedDrone (name : String) : LoginRequest where
  senderID := some (.str name)
  accountID := some (.str "acc")
  groupID := some (.str "1")
  requestID := some (.str "q")
  actorType := some (.str "d")
  prm := none

/-- The drone `other` logs in. -/
def otherRun : List Event := [announceUnit "k2", .connect "/?f=k2&s=other" "peer"]

/-- A link to a child that has answered its challenge. -/
def childLink : Link Char Char :=
  .down { clientData := Table.empty.insert "child" 0, children := fun _ => { m_s2s_authed := true } } 0
    {} {}

/-- A drone and another one, in one room of one server, and on two linked servers. -/
structure TwoDrones (s₁ s₂ t : Server) : Prop where
  run₁ : run Text.codec isAsciiAlphanumeric (start { enable_super_server := true })
    (joinedRun ++ otherRun) = some s₁
  run₂ : run Text.codec isAsciiAlphanumeric (start { enable_super_server := true }) joinedRun = some s₂
  run₃ : run Text.codec isAsciiAlphanumeric (start { server_id := some "S1" }) otherRun = some t
  speaks₁ : s₁.Speaks 0 (announcedDrone "drone") 0
  speaks₂ : s₂.Speaks 0 (announcedDrone "drone") 0
  lists₁ : s₁.Lists 0 1 (announcedDrone "other")
  lists₂ : t.Lists 0 0 (announcedDrone "other")
  hosts : t.HostsRoomOf (announcedDrone "drone") 0
  ready : childLink.Ready s₂
  ids : s₂.serverOriginID ≠ t.serverOriginID

theorem twoDrones : ∃ s₁ s₂ t, TwoDrones s₁ s₂ t := by
  have h₁ : (run Text.codec isAsciiAlphanumeric (start { enable_super_server := true })
      (joinedRun ++ otherRun)).map (fun s => ((s.sockets 0).loginRequest, (s.sockets 0).hasStatus,
        (s.sockets 0).group, (s.groupHeap 0).units.own? "other", (s.sockets 1).loginRequest)) =
      some (some (announcedDrone "drone"), true, some 0, some 1, some (announcedDrone "other")) := by
    decide +kernel
  have h₂ : (run Text.codec isAsciiAlphanumeric (start { enable_super_server := true })
      joinedRun).map (fun s => ((s.sockets 0).loginRequest, (s.sockets 0).hasStatus,
        (s.sockets 0).group, s.config.enable_super_server, s.serverOriginID)) =
      some (some (announcedDrone "drone"), true, some 0, true, "unknown") := by
    decide +kernel
  have h₃ : (run Text.codec isAsciiAlphanumeric (start { server_id := some "S1" }) otherRun).map
      (fun s => ((s.sockets 0).loginRequest, (s.groupHeap 0).units.own? "other",
        s.accounts.own? "acc", (s.accountHeap 0).groups.own? "1", s.serverOriginID)) =
      some (some (announcedDrone "other"), some 0, some 0, some 0, "S1") := by
    decide +kernel
  obtain ⟨s₁, hs₁, hf₁⟩ := Option.map_eq_some_iff.mp h₁
  obtain ⟨s₂, hs₂, hf₂⟩ := Option.map_eq_some_iff.mp h₂
  obtain ⟨t, hs₃, hf₃⟩ := Option.map_eq_some_iff.mp h₃
  simp only [Prod.mk.injEq] at hf₁ hf₂ hf₃
  obtain ⟨hl₁, hst₁, hg₁, hu₁, hlu₁⟩ := hf₁
  obtain ⟨hl₂, hst₂, hg₂, hsuper, hid₂⟩ := hf₂
  obtain ⟨hlu₃, hu₃, ha₃, hgroup₃, hid₃⟩ := hf₃
  refine ⟨s₁, s₂, t, hs₁, hs₂, hs₃, ⟨hl₁, hst₁, hg₁⟩, ⟨hl₂, hst₂, hg₂⟩, ⟨⟨_, hu₁⟩, hlu₁⟩,
    ⟨⟨_, hu₃⟩, hlu₃⟩, ⟨"acc", "1", 0, rfl, rfl, ha₃, hgroup₃⟩,
    ⟨hsuper, ⟨"child", Table.own?_insert_self ..⟩, rfl, rfl⟩, ?_⟩
  rw [hid₂, hid₃]
  decide

/-- A group frame without further fields. -/
theorem parse_broadcastFrame : Text.codec.parse (if false then header (broadcastFrame [])
    else broadcastFrame []) = some (.obj [("ty", .str "g")]) := by
  decide +kernel

theorem plainFor_broadcastFrame {t : Server} : PlainFor t (announcedDrone "other")
    (broadcastFrame []) [("ty", .str "g")] :=
  ⟨rfl, Or.inl rfl, by decide⟩

/-- A drone's frame to its group, and another drone. -/
theorem local_relayed_agree_groupFrame : ∃ s₁ s₂ t, TwoDrones s₁ s₂ t ∧
    (Receives 1 s₁ ((parseMessage Text.codec 0 (broadcastFrame []) false).final s₁) ↔
      ReceivesOver Text.codec Crypto.sealing childLink s₂
          ((parseMessage Text.codec 0 (broadcastFrame []) false).final s₂) t 0 ∧
        (Addressing.group.Widens "d" →
          (announcedDrone "other").actorType = some (.str Const.actorGCS))) := by
  obtain ⟨s₁, s₂, t, h⟩ := twoDrones
  exact ⟨s₁, s₂, t, h, local_relayed_agree h.run₁ h.run₂ h.run₃ h.speaks₁ h.speaks₂
    ⟨rfl, rfl, rfl, rfl⟩ h.lists₁ h.lists₂ ⟨rfl, rfl, rfl, rfl⟩ (by decide) h.hosts h.ready h.ids rfl
    (Or.inr rfl) parse_broadcastFrame (.group rfl) plainFor_broadcastFrame⟩

/-- The other drone does not get it on the same server, and gets it on the linked one. -/
theorem group_frame_widens : ∃ s₁ s₂ t, TwoDrones s₁ s₂ t ∧
    AddressedTo (.obj [("ty", .str "g")]) .group ∧
    ¬ Receives 1 s₁ ((parseMessage Text.codec 0 (broadcastFrame []) false).final s₁) ∧
    ReceivesOver Text.codec Crypto.sealing childLink s₂
      ((parseMessage Text.codec 0 (broadcastFrame []) false).final s₂) t 0 := by
  obtain ⟨s₁, s₂, t, h⟩ := twoDrones
  have hto : AddressedTo (.obj [("ty", .str "g")]) .group := .group rfl
  obtain ⟨k, hk⟩ := h.lists₁.listed
  obtain ⟨k', hk'⟩ := h.lists₂.listed
  obtain ⟨ka, kg, a, hka, hkg, hrows⟩ := h.hosts
  have hc₂ := consistent_run Text.codec isAsciiAlphanumeric h.run₂
  obtain ⟨login, hl, -, hgroup, haccount⟩ := hc₂.room 0 0 h.speaks₂.group
  obtain rfl : announcedDrone "drone" = login :=
    Option.some.inj (h.speaks₂.loginRequest.symm.trans hl)
  refine ⟨s₁, s₂, t, h, hto, ?_, ?_⟩
  · rw [h.speaks₁.local_iff ⟨consistent_run Text.codec isAsciiAlphanumeric h.run₁, hk,
      h.lists₁.loginRequest⟩ (by decide) parse_broadcastFrame rfl (Or.inr rfl) hto]
    rintro ⟨-, hhears⟩
    rcases hhears with hnone | hgcs
    · exact absurd hnone (by decide)
    · exact absurd hgcs (by decide)
  · exact (h.speaks₂.over_iff hc₂ (properIds_run h.run₂)
      ⟨⟨consistent_run Text.codec isAsciiAlphanumeric h.run₃, hk', h.lists₂.loginRequest⟩, hrows⟩
      (haccount.symm.key hka) (hgroup.symm.key hkg) h.ready h.ids plainFor_broadcastFrame
      parse_broadcastFrame rfl (Or.inr rfl) hto).mpr ⟨Or.inl rfl, Or.inl rfl⟩

end Server

end DroneEngage
