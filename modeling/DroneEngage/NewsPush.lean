import DroneEngage.FanOut
import DroneEngage.PeerFrames

/-! News that the storage server pushes, from its frame to the ground stations.

    A frame carries news if it is no envelope of the handshake, neither ends the handshake nor reports
    an error, and answers no request. Its payload is sent to the ground stations of one account, or to
    all of them. Any other frame leaves the rooms alone: an answer settles a promise, and what is said
    to the unit that asked is said by the code that waits for it. -/

namespace DroneEngage
open Js

namespace Server

/-- `c_news` in `fn_onNewsPush`, unless it is nullish. -/
def newsIn (payload : Val) : Option Json :=
  (if isTruthy payload then payload.bind (Json.field "news") else payload).filter
    fun news => !isNullish (some news)

/-- The message `fn_onNewsPush` sends. -/
def newsMessage (J : JsonCodec) (news : Json) : Bytes :=
  J.stringify (.obj [(Const.routing, .str Const.routingSystem),
    (Const.wsSenderID, .str Const.senderCommServer), (Const.messageID, .num "9018"),
    (Const.payload, news)])

/-- The sender of news. -/
def newsSender : SenderRef := ⟨some (.str Const.senderCommServer), none⟩

/-- News for all accounts. -/
abbrev IsGlobal (news : Json) : Prop :=
  news.field "scope" = some (.str "global") ∨ isNullish (news.field "account_id") = true

/-- The ground stations that news are for: those listed in a room, of the account that the news name
    unless they are for all. One that is named like the server itself is left out. -/
def newsTargets (s : Server) (news : Json) : Set SocketId :=
  {v | ∃ g k, (s.groupHeap g).units.own? k = some v ∧
    s.Wanted newsSender (some Const.actorGCS) v ∧
    (¬ IsGlobal news → ∃ n, propKey (news.field "account_id") = .ok n ∧
      s.accounts.own? n = some (s.groupHeap g).parentAccount)}

/-- The fan-out that `fn_onNewsPush` calls. -/
def newsAudience (news : Json) : FanOut :=
  if IsGlobal news then .allGCS else .allGCSInAccount (news.field "account_id")

open Action

variable {J : JsonCodec} {s : Server} {payload : Val}

theorem targets_newsAudience (news : Json) :
    (newsAudience news).targets s newsSender = s.newsTargets news := by
  ext v
  by_cases hglobal : IsGlobal news
  · rw [newsAudience, if_pos hglobal]
    constructor
    · rintro ⟨g, -, ⟨k, hk⟩, hwanted⟩
      exact ⟨g, k, hk, hwanted, absurd hglobal⟩
    · rintro ⟨g, k, hk, hwanted, -⟩
      exact ⟨g, True.intro, ⟨k, hk⟩, hwanted⟩
  · rw [newsAudience, if_neg hglobal]
    constructor
    · rintro ⟨g, haccount, ⟨k, hk⟩, hwanted⟩
      exact ⟨g, k, hk, hwanted, fun _ => haccount⟩
    · rintro ⟨g, k, hk, hwanted, haccount⟩
      exact ⟨g, haccount hglobal, ⟨k, hk⟩, hwanted⟩

/-- What the handler reads. -/
theorem readNews (payload : Val) :
    (if isTruthy payload then readProp "news" payload else .ok payload) = Except.ok
      (if isTruthy payload then payload.bind (Json.field "news") else payload) := by
  cases htruthy : isTruthy payload with
  | false => rfl
  | true =>
    rcases payload with _ | _ | _ | _ | _ | _ | _
    case none => exact absurd htruthy (by decide)
    case some.null => exact absurd htruthy (by decide)
    all_goals rfl

/-- A payload without news is dropped. -/
theorem final_onNewsPush_none (h : newsIn payload = none) : (onNewsPush J payload).final s = s := by
  rw [onNewsPush, final_attempt_pure, readNews, final_ok_bind]
  rw [newsIn] at h
  generalize (if isTruthy payload then payload.bind (Json.field "news") else payload) = news at h ⊢
  rcases news with _ | _ | _ | _ | _ | _ | _
  case none => rfl
  case some.null => rfl
  all_goals exact absurd h (by simp [isNullish])

/-- News go out as a fan-out. -/
theorem final_onNewsPush {news : Json} (h : newsIn payload = some news) :
    (onNewsPush J payload).final s =
      ((newsAudience news).call (newsMessage J news) false newsSender).final s := by
  rw [onNewsPush, final_attempt_pure, readNews, final_ok_bind]
  obtain ⟨hread, hnews⟩ := Option.filter_eq_some_iff.mp h
  rw [hread]
  by_cases hglobal : IsGlobal news
  · rw [newsAudience, if_pos hglobal]
    cases news with
    | null => exact absurd hnews (by decide)
    | bool | num | str | arr | obj =>
      dsimp only
      rw [if_pos hglobal]
      rfl
  · rw [newsAudience, if_neg hglobal]
    cases news with
    | null => exact absurd hnews (by decide)
    | bool | num | str | arr | obj =>
      dsimp only
      rw [if_neg hglobal]
      rfl

/-- News for an account whose id has no text go nowhere. -/
theorem newsTargets_of_error {news : Json} {e : JsError} (hglobal : ¬ IsGlobal news)
    (he : propKey (news.field "account_id") = .error e) : s.newsTargets news = ∅ := by
  rw [Set.eq_empty_iff_forall_notMem]
  rintro v ⟨g, k, -, -, haccount⟩
  obtain ⟨n, hn, -⟩ := haccount hglobal
  exact absurd (he.symm.trans hn) (by simp)

/-- News reach the ground stations they are for, each once, and nobody else. -/
theorem WellKept.onNewsPush (hs : s.WellKept) {news : Json} (h : newsIn payload = some news)
    (hok : s.Removable (s.newsTargets news)) : Reached (newsMessage J news) false
      (s.newsTargets news) s ((Server.onNewsPush J payload).final s) := by
  rw [final_onNewsPush h]
  by_cases hids : (newsAudience news).Resolves s
  · rw [← targets_newsAudience] at hok ⊢
    obtain ⟨s', hrun, hreached⟩ := hs.fanOut hids hok
    rw [final, hrun]
    exact hreached
  · -- the account is looked up, and its id has no text
    have hglobal : ¬ IsGlobal news := by
      intro hglobal
      rw [newsAudience, if_pos hglobal] at hids
      exact hids True.intro
    rw [newsAudience, if_neg hglobal] at hids ⊢
    cases hkey : propKey (news.field "account_id") with
    | ok n => exact absurd ⟨n, hkey⟩ hids
    | error e =>
      have hindex : s.accounts.index s.proto (news.field "account_id") = .error e := by
        rw [Table.index, hkey]
        rfl
      have hrun := sendToAllGCSInAccount_run (newsMessage J news) false newsSender
        (news.field "account_id") s
      rw [hindex] at hrun
      rw [newsTargets_of_error hglobal hkey, FanOut.call, final, run_bind_of_error hrun]
      exact .none hs

end Server

/-! ### Which frames carry news -/

namespace DbProxyClient

open Action

variable {s s' : DbProxyClient}

/-- A message of the storage server answers a request that is pending. -/
def answers (s : DbProxyClient) (msg : Json) : Bool :=
  match propKey (msg.field "rid") with
  | .ok rid => !isNullish (msg.field "rid") && (s.pendingRequests.own? rid).isSome
  | .error _ => false

/-- The payload that a message of the storage server pushes. -/
def pushedBy (s : DbProxyClient) (msg : Json) : Option Val :=
  if msg.field "type" = some (.str "auth_success") ∨ msg.field "type" = some (.str "error") then none
  else if s.answers msg then none
  else if msg.field "mt" = some (.num "9018") ∧ s.newsPushCallback = true then some (msg.field "ms")
  else none

/-- Nothing is pushed. -/
abbrev PushesNone : DbProxyClient → DbProxyClient → Prop := Adds fun x => ∀ ms, x ≠ .newsPush ms

theorem PushesNone.newsPushes (h : PushesNone s s') :
    ∃ new, s'.log = s.log ++ new ∧ Process.newsPushes new = [] := by
  obtain ⟨new, hlog, hnone⟩ := h
  refine ⟨new, hlog, List.filterMap_eq_nil_iff.mpr fun x hmem => ?_⟩
  cases x with
  | newsPush ms => exact absurd rfl (hnone _ hmem ms)
  | response | request | settle | toAuth => rfl

theorem pushesNone_closeSocket (w : WsId) : Moves PushesNone (closeSocket w) := by
  refine moves_modify fun s => ?_
  cases s.sockets w with
  | connecting | isOpen | closing | closed => exact adds_write rfl

theorem pushesNone_onEnvelope {PrivateKey PublicKey : Type} (E : StorageSettings PrivateKey PublicKey)
    (env : Json) : Moves PushesNone (onEnvelope E env) := by
  refine moves_bind moves_get fun s => ?_
  cases s.ws with
  | none => exact moves_pure ()
  | some w =>
    refine moves_ite (fun _ => moves_bind adds_clearS2sAuthTimer fun _ => moves_attempt
      (moves_bind (moves_ofExcept _) fun response => moves_bind moves_get fun s => ?_)
      fun _ => pushesNone_closeSocket w) fun _ => moves_pure ()
    cases s.sockets w with
    | connecting => exact moves_throw _
    | isOpen => exact moves_modify fun s => adds_emit (by simp) s
    | closing | closed => exact moves_pure ()

theorem answers_of_pendingFor {msg : Json} {found : Option (String × PendingRequest)}
    (hs : Server.Unshadowed s.pendingRequests) (hfound : s.pendingFor (msg.field "rid") = .ok found) :
    s.answers msg = found.isSome := by
  rw [pendingFor] at hfound
  rw [answers]
  cases hnull : isNullish (msg.field "rid") with
  | true =>
    rw [if_pos hnull] at hfound
    obtain rfl := Except.ok.inj hfound
    cases propKey (msg.field "rid") with
    | ok rid => rfl
    | error e => rfl
  | false =>
    rw [if_neg (by rw [hnull]; simp)] at hfound
    cases hkey : propKey (msg.field "rid") with
    | error e =>
      rw [Table.hasOwnProperty_of_error _ hkey] at hfound
      exact absurd hfound (by simp [bind, Except.bind])
    | ok rid =>
      rw [Server.hasOwnProperty_ok_of_unshadowed hs hkey, hkey] at hfound
      obtain rfl := Except.ok.inj hfound
      cases hrow : s.pendingRequests.own? rid with
      | none => simp [hrow]
      | some req => simp [hrow]

/-- What a message that the client survives pushes. -/
theorem pushed_onStorageMessage {msg : Json} (hs : Server.Unshadowed s.pendingRequests)
    (hok : onStorageMessage msg s = (.ok (), s')) : ∃ new, s'.log = s.log ++ new ∧
      Process.newsPushes new = (s.pushedBy msg).toList := by
  have hfinal : (onStorageMessage msg).final s = s' := congrArg Prod.snd hok
  by_cases hsuccess : msg.field "type" = some (.str "auth_success")
  · rw [pushedBy, if_pos (Or.inl hsuccess), ← hfinal, onStorageMessage_success hsuccess]
    exact PushesNone.newsPushes
      (moves_bind adds_clearS2sAuthTimer (fun _ => adds_setConnected (by simp)) s)
  have hfree : ¬ (onStorageMessage msg).Escapes s := by
    rintro ⟨e, he⟩
    rw [hok] at he
    exact absurd he (by simp)
  have htype : readProp "type" (some msg) = .ok (msg.field "type") := by
    cases msg with
    | null => exact absurd ⟨_, rfl⟩ hfree
    | bool | num | str | arr | obj => rfl
  by_cases herror : msg.field "type" = some (.str "error")
  · rw [pushedBy, if_pos (Or.inr herror)]
    refine ⟨[], ?_, rfl⟩
    rw [onStorageMessage, htype, final_ok_bind, if_neg hsuccess, if_pos herror] at hfinal
    rw [← hfinal, List.append_nil]
    cases propKey (msg.field "error") with
    | error e => rfl
    | ok text => rfl
  rw [onStorageMessage, htype, final_ok_bind, if_neg hsuccess, if_neg herror, final_get_bind] at hfinal
  rw [onStorageMessage, htype, escapes_ok_bind, if_neg hsuccess, if_neg herror, escapes_get_bind]
    at hfree
  rw [pushedBy, if_neg (not_or.mpr ⟨hsuccess, herror⟩)]
  cases hfound : s.pendingFor (msg.field "rid") with
  | error e =>
    rw [hfound] at hfree
    exact absurd (escapes_error_bind ..) hfree
  | ok found =>
    rw [answers_of_pendingFor hs hfound]
    rw [hfound, final_ok_bind] at hfinal
    cases found with
    | some row =>
      rw [← hfinal]
      exact ⟨[.settle row.2.promise (.resolved msg)], rfl, rfl⟩
    | none =>
      dsimp only at hfinal
      rw [Option.isSome_none, if_neg Bool.false_ne_true]
      split
      · next hnews =>
        rw [if_pos hnews] at hfinal
        rw [← hfinal]
        exact ⟨[.newsPush (msg.field "ms")], rfl, rfl⟩
      · next hnews =>
        rw [if_neg hnews] at hfinal
        rw [← hfinal]
        exact ⟨[], (List.append_nil _).symm, rfl⟩

end DbProxyClient

namespace Process

open Action

variable {PrivateKey PublicKey α : Type} {E : StorageSettings PrivateKey PublicKey}
  {isAlphanumeric : String → Bool} {p p' : Process PublicKey} {data : Bytes} {isText : Bool}
  {key : String}

/-- The payload that a frame of the storage server pushes. -/
def pushed (E : StorageSettings PrivateKey PublicKey) (p : Process PublicKey) (data : Bytes)
    (isText : Bool) : Option Val :=
  if (S2sAuth.parseEnvelope E.J data isText).isSome then none
  else (E.J.parse data).bind p.storage.pushedBy

/-- The handler of the storage client, when it returns. -/
theorem pushed_onMessage (hs : Server.Unshadowed p.storage.pendingRequests) {s' : DbProxyClient}
    (hok : DbProxyClient.onMessage E data isText p.storage = (.ok (), s')) :
    ∃ new, s'.log = p.storage.log ++ new ∧ newsPushes new = (p.pushed E data isText).toList := by
  rw [DbProxyClient.onMessage] at hok
  rw [pushed]
  cases henv : S2sAuth.parseEnvelope E.J data isText with
  | some env =>
    rw [henv] at hok
    have hfinal : (DbProxyClient.onEnvelope E env).final p.storage = s' := congrArg Prod.snd hok
    rw [← hfinal]
    exact DbProxyClient.PushesNone.newsPushes (DbProxyClient.pushesNone_onEnvelope E env p.storage)
  | none =>
    rw [henv] at hok
    cases hparse : E.J.parse data with
    | none =>
      rw [hparse] at hok
      obtain rfl : p.storage = s' := congrArg Prod.snd hok
      exact ⟨[], (List.append_nil _).symm, rfl⟩
    | some msg =>
      rw [hparse] at hok
      exact DbProxyClient.pushed_onStorageMessage hs hok

/-- What a frame of the storage server does to the chat server. -/
theorem server_onStorageFrame (hs : Server.Unshadowed p.storage.pendingRequests)
    (hok : onStorageFrame E data isText p = (.ok (), p')) :
    p'.server = (p.pushed E data isText).elim p.server fun ms =>
      (Server.onNewsPush E.J ms).final p.server := by
  rw [onStorageFrame, run_bind_get] at hok
  obtain ⟨u, q, hq, hrest⟩ := run_bind_eq_ok.mp hok
  have hmessage : DbProxyClient.onMessage E data isText p.storage = (.ok (), q.storage) ∧
      q.server = p.server := by
    rw [onStorage, zoom] at hq
    obtain ⟨hfst, rfl⟩ := Prod.mk.inj hq
    exact ⟨Prod.ext hfst rfl, rfl⟩
  obtain ⟨new, hlog, hnews⟩ := pushed_onMessage hs hmessage.1
  rw [run_bind_get, hlog, List.drop_left, hnews] at hrest
  cases hms : p.pushed E data isText with
  | none =>
    rw [hms] at hrest
    obtain rfl : q = p' := congrArg Prod.snd hrest
    exact hmessage.2
  | some ms =>
    rw [hms] at hrest
    have hround : attempt (onServer (Server.onNewsPush E.J ms)) (fun _ => pure ()) q =
        (.ok (), { q with server := (Server.onNewsPush E.J ms).final q.server }) := by
      rw [run_of_not_escapes (not_escapes_attempt fun _ s => not_escapes_pure () s),
        final_attempt_pure, onServer, final_zoom]
    rw [Option.toList_some, run_forEach_cons, run_bind_of_ok hround, run_forEach_nil] at hrest
    obtain rfl := congrArg Prod.snd hrest
    rw [Option.elim_some, ← hmessage.2]

/-! ### The rooms in a run -/

/-- What is done to the chat server is a path of operations on its rooms. -/
def Operates (J : JsonCodec) (p p' : Process PublicKey) : Prop :=
  Lts.Path (Server.RoomStep J) (fun _ _ => True) p.server p'.server

instance (J : JsonCodec) : IsPreorder (Process PublicKey) (Operates J) where
  refl := fun _ => .refl
  trans := fun _ _ _ h h' => h.trans h'

/-- What leaves the chat server alone. -/
theorem operates_of_eq {J : JsonCodec} (h : p'.server = p.server) : Operates J p p' := by
  rw [Operates, h]
  exact .refl

theorem operates_onAuth (J : JsonCodec) (m : Action AuthLink α) :
    Moves (Operates J) (onAuth m : Action (Process PublicKey) α) := fun _ => operates_of_eq rfl

theorem operates_onStorage (J : JsonCodec) (m : Action DbProxyClient α) :
    Moves (Operates J) (onStorage m : Action (Process PublicKey) α) := fun _ => operates_of_eq rfl

theorem operates_onChildren (J : JsonCodec) (m : Action (ParentCommServer PublicKey) α) :
    Moves (Operates J) (onChildren m) := fun _ => operates_of_eq rfl

theorem operates_onParent (J : JsonCodec) (m : Action ChildCommServer α) :
    Moves (Operates J) (onParent m : Action (Process PublicKey) α) := fun _ => operates_of_eq rfl

theorem operates_onServer {J : JsonCodec} {m : Action Server α}
    (h : Server.Takes J (fun _ _ => True) m) :
    Moves (Operates J) (onServer m : Action (Process PublicKey) α) := fun p => h p.server

theorem takes_onNewsPush (J : JsonCodec) (payload : Val) :
    Server.Takes J (fun _ _ => True) (Server.onNewsPush J payload) := by
  intro s
  cases hnews : Server.newsIn payload with
  | none =>
    rw [Server.final_onNewsPush_none hnews]
    exact .refl
  | some news =>
    rw [Server.final_onNewsPush hnews]
    exact Server.FanOut.moves_call _ _ _ (fun v => Server.takes_send (fun _ => True.intro) v _ _)
      (Server.takes_handleOrphanSocket fun _ _ => True.intro) _ s

theorem operates_onFrame (peer : Peer) :
    Moves (Operates E.J) (onFrame E data isText key peer) := by
  have hexternal : ∀ isBinary source, Moves (Operates E.J)
      (onServer (Server.parseExternalMessage E.J data isBinary source) :
        Action (Process PublicKey) Unit) := fun _ _ =>
    operates_onServer (Server.takes_parseExternalMessage (fun _ => True.intro)
      (fun _ _ => True.intro) _ _ _)
  cases peer with
  | auth =>
    rw [onFrame, onAuthFrame]
    cases S2sAuth.parseEnvelope E.J data isText with
    | some env => exact moves_when fun _ => operates_onAuth _ _
    | none =>
      exact operates_onServer (Server.takes_authServerMessagesHandler (fun _ => True.intro) data key)
  | storage w =>
    exact moves_bind moves_get fun _ => moves_bind (operates_onStorage _ _) fun _ =>
      moves_bind moves_get fun _ => moves_forEach _ fun _ _ =>
        moves_attempt (operates_onServer (takes_onNewsPush _ _)) fun _ => moves_pure ()
  | parent =>
    refine moves_attempt ?_ fun _ => moves_pure ()
    cases S2sAuth.parseEnvelope E.J data isText with
    | some env => exact operates_onParent _ _
    | none => exact moves_bind (operates_onParent _ _) fun _ => hexternal _ _
  | child c =>
    refine moves_attempt (moves_bind moves_get fun p => moves_ite (fun _ => ?_) fun _ => ?_)
      fun _ => moves_pure ()
    · exact operates_onChildren _ _
    · exact moves_bind (operates_onChildren _ _) fun _ => hexternal _ _

/-- Every step is a path of operations on the rooms. -/
theorem operates_of_step {o : Op} (hs : p.server.Consistent) (hhear : p.server.Hearing)
    (h : Step E isAlphanumeric p o p') : Operates E.J p p' := by
  obtain ⟨henabled, hrun⟩ := h
  obtain rfl : (perform E isAlphanumeric o).final p = p' := congrArg Prod.snd hrun
  cases o with
  | chat e =>
    have hfst : (Server.handle E.J isAlphanumeric e p.server).1 = .ok () := congrArg Prod.fst hrun
    have hhandled : Server.handle E.J isAlphanumeric e p.server =
        (.ok (), (Server.handle E.J isAlphanumeric e).final p.server) := Prod.ext hfst rfl
    have hstep : Server.step E.J isAlphanumeric p.server e =
        some ((Server.handle E.J isAlphanumeric e).final p.server) := by
      rw [Server.step, if_pos henabled.1, hhandled]
    exact (Server.step_operations E.J isAlphanumeric hs hhear hstep).mono fun _ => True.intro
  | auth o => exact operates_onAuth _ _ p
  | storage o => exact operates_onStorage _ _ p
  | children e => exact operates_onChildren _ _ p
  | parentLink ws => exact operates_onParent _ _ p
  | frame peer data isText key => exact operates_onFrame peer p

/-- The process when it starts, where the tables of the rooms inherit no names: no id that is used is
    the name of an inherited property, and neither is a name that AUTH blocks. -/
def startOver (config : Config) : Process PublicKey :=
  { start config with server := .startOver [] config }

/-- What holds in every run. -/
theorem kept_of_path {config : Config}
    (h : Lts.Path (Step E isAlphanumeric) DrawsFresh (startOver config) p) :
    Server.Unshadowed p.storage.pendingRequests ∧
      Lts.Path (Server.RoomStep E.J) (fun _ _ => True) (.startOver [] config) p.server ∧
      p.server.Consistent ∧ p.server.Hearing := by
  refine h.invariant (P := fun p => Server.Unshadowed p.storage.pendingRequests ∧
    Lts.Path (Server.RoomStep E.J) (fun _ _ => True) (.startOver [] config) p.server ∧
    p.server.Consistent ∧ p.server.Hearing) ?_ ?_
  · intro p o p' ⟨hs, hpath, hcons, hhear⟩ hfresh hstep
    have hops : Operates E.J p p' := operates_of_step hcons hhear hstep
    refine ⟨unshadowed_step hs hfresh hstep, hpath.trans hops, ?_⟩
    exact hops.invariant (P := fun s => s.Consistent ∧ s.Hearing)
      (fun hP _ hroom => ⟨hP.1.roomStep hroom, hP.2.roomStep hP.1 hroom⟩) ⟨hcons, hhear⟩
  · exact ⟨Table.own?_empty _, .refl, Server.consistent_startOver [] config,
      Server.hearing_startOver [] config⟩

/-- The news in a frame of the storage server. -/
def news (E : StorageSettings PrivateKey PublicKey) (p : Process PublicKey) (data : Bytes)
    (isText : Bool) : Option Json :=
  (p.pushed E data isText).bind Server.newsIn

/-- In every run whose logins all carry an account and a sender id, the news in a frame of the storage
    server reach the ground stations they are for, each once, and nobody else; those of them whose
    connection is dead leave the rooms. The handler of a frame without news does nothing to the chat
    server. No id, and no name that AUTH blocks, is the name of an inherited property. -/
theorem news_reach {config : Config} {w : WsId}
    (hrun : Lts.Path (Step E isAlphanumeric) DrawsFresh (startOver config) p)
    (hids : ∀ ws login, (p.server.sockets ws).loginRequest = some login → Server.CarriesIds login)
    (h : Step E isAlphanumeric p (.frame (.storage w) data isText key) p') :
    (p.news E data isText = none → p'.server = p.server) ∧
      ∀ news, p.news E data isText = some news →
        Server.FansOut (Server.newsMessage E.J news) false (p.server.newsTargets news)
          p.server p'.server := by
  obtain ⟨hshadow, hpath, -, -⟩ := kept_of_path hrun
  have horder : p.server.InOrder none none := Server.inOrder_path hpath hids
  have hserver := server_onStorageFrame hshadow h.2
  rw [hserver, Process.news]
  cases p.pushed E data isText with
  | none => exact ⟨fun _ => rfl, fun _ hnone => absurd hnone (by simp)⟩
  | some ms =>
    rw [Option.bind_some, Option.elim_some]
    refine ⟨Server.final_onNewsPush_none, fun news hnews => ?_⟩
    refine (horder.wellKept.onNewsPush hnews fun g k v _ _ _ hfrozen => ?_).fansOut
    -- the tables inherit no names, so nothing hides `hasOwnProperty`
    rw [Server.Frozen, horder.maps] at hfrozen
    exact absurd hfrozen.1 List.not_mem_nil

/-- A step that can happen and that returns. -/
theorem step_of_returns {o : Op} (henabled : p.Enabled o)
    (h : (perform E isAlphanumeric o p).1.toBool = true) :
    Step E isAlphanumeric p o ((perform E isAlphanumeric o).final p) := by
  refine ⟨henabled, run_of_not_escapes ?_⟩
  rintro ⟨e, he⟩
  rw [he] at h
  exact absurd h (by simp [Except.toBool])

/-! ### News for a station -/

open DbProxyClient (plainSettings storageEndpoint)

/-- A ground station and a drone log in. -/
def unitsIn : Process Char :=
  (perform plainSettings (fun _ => true) (.chat (.connect "/?f=k2&s=drone&at=d" "peer"))).final
    ((perform plainSettings (fun _ => true) (.chat (.connect "/?f=k1&s=station&at=g" "peer"))).final
      (startOver { local_server_enabled := true }))

/-- Then the connection to the storage server opens. -/
def newsReady : Process Char :=
  (perform plainSettings (fun _ => true) (.storage (.opened 0))).final
    ((perform plainSettings (fun _ => true) (.storage (.connect storageEndpoint))).final unitsIn)

theorem path_newsReady : Lts.Path (Step plainSettings fun _ => true) DrawsFresh
    (startOver { local_server_enabled := true }) newsReady := by
  have hunits : Lts.Path (Step plainSettings fun _ => true) DrawsFresh
      (startOver { local_server_enabled := true }) unitsIn :=
    .tail (.single (o := .chat (.connect "/?f=k1&s=station&at=g" "peer")) True.intro
      (step_of_returns ⟨rfl, rfl⟩ (by decide +kernel)))
      (o := .chat (.connect "/?f=k2&s=drone&at=d" "peer")) True.intro
      (step_of_returns ⟨rfl, rfl⟩ (by decide +kernel))
  exact .tail (.tail hunits (o := .storage (.connect storageEndpoint)) True.intro
    (step_of_returns ⟨True.intro, by simp⟩ (by decide +kernel)))
    (o := .storage (.opened 0)) True.intro
    (step_of_returns ⟨by decide +kernel, by simp⟩ (by decide +kernel))

/-- News for all accounts. -/
def stormNews : Json := .obj [("scope", .str "global"), ("title", .str "storm")]

/-- The frame of the storage server with the news. -/
def stormFrame : Bytes :=
  Text.stringify (.obj [("mt", .num "9018"), ("ms", .obj [("news", stormNews)])])

theorem newsReady_units : newsReady.server.nextSocket = 2 ∧
    (newsReady.server.groupHeap 0).units.own? "station" = some 0 ∧
    [0, 1].map (fun ws => (newsReady.server.sockets ws).loginRequest.map fun login =>
      (isNullish login.accountID, isNullish login.senderID)) =
      [some (false, false), some (false, false)] ∧
    [0, 1].map (fun ws => (newsReady.server.sockets ws).loginRequest.map fun login =>
      Server.wants login ws Server.newsSender (some Const.actorGCS)) = [some true, some false] := by
  decide +kernel

/-- The station gets the news, the drone does not. -/
theorem news_reach_storm : ∃ p' : Process Char,
    newsReady.news plainSettings stormFrame false = some stormNews ∧
      0 ∈ newsReady.server.newsTargets stormNews ∧ 1 ∉ newsReady.server.newsTargets stormNews ∧
      Server.FansOut (Server.newsMessage Text.codec stormNews) false
        (newsReady.server.newsTargets stormNews) newsReady.server p'.server := by
  have hstep : Step plainSettings (fun _ => true) newsReady (.frame (.storage 0) stormFrame false "")
      ((perform plainSettings (fun _ => true) (.frame (.storage 0) stormFrame false "")).final
        newsReady) := step_of_returns (Or.inl (by decide +kernel)) (by decide +kernel)
  have hnews : newsReady.news plainSettings stormFrame false = some stormNews := by decide +kernel
  have hpath := path_newsReady
  obtain ⟨hnext, hrow, hlogins, hwants⟩ := newsReady_units
  generalize newsReady = p at hstep hnews hpath hnext hrow hlogins hwants ⊢
  simp only [List.map_cons, List.map_nil, List.cons.injEq, and_true] at hwants
  obtain ⟨station, hstation, hs⟩ := Option.map_eq_some_iff.mp hwants.1
  obtain ⟨drone, hdrone, hd⟩ := Option.map_eq_some_iff.mp hwants.2
  have hids := Server.carriesIds_of_two (kept_of_path hpath).2.2.1 hnext hlogins
  refine ⟨_, hnews, ?_, ?_, (news_reach hpath hids hstep).2 stormNews hnews⟩
  · exact ⟨0, "station", hrow, ⟨station, hstation, hs⟩, fun hlocal => absurd (Or.inl rfl) hlocal⟩
  · rintro ⟨g, k, -, ⟨login, hl, hwanted⟩, -⟩
    obtain rfl := Option.some.inj (hdrone.symm.trans hl)
    exact absurd (hd.symm.trans hwanted) (by simp)

end Process

end DroneEngage
