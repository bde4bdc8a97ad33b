import DroneEngage.AuthFrames
import DroneEngage.Membership
import DroneEngage.Js.Uri

/-! Logging in by a query string and by a frame.

    A client puts its credentials in the query string of its URL, each through `encodeURIComponent`, or
    sends them in a `de_auth` frame. Both ways end in `completeConnection`, with the socket in one and
    the same state; what they hand over differs, since `getHeaderParams` does not decode. -/

namespace DroneEngage
open Js

/-! ### The parameters of a query -/

theorem paramMatches_nil (n : ℕ) : paramMatches n [] = [] := by
  cases n with
  | zero => rfl
  | succ n => rfl

/-- No parameter begins at another character than `?` and `&`. -/
theorem paramMatches_skip {c : Char} (h : ¬ (c = '?' ∨ c = '&')) (n : ℕ) (rest : List Char) :
    paramMatches (n + 1) (c :: rest) = paramMatches n rest := by
  rw [paramMatches]
  dsimp only
  split
  · rw [if_neg fun hc => h hc.1]
  · rfl

theorem paramMatches_path (n : ℕ) (rest : List Char) : ∀ {path : List Char},
    (∀ c ∈ path, ¬ (c = '?' ∨ c = '&')) →
      paramMatches (path.length + n) (path ++ rest) = paramMatches n rest
  | [], _ => by rw [List.length_nil, Nat.zero_add, List.nil_append]
  | c :: path, h => by
    rw [List.length_cons, Nat.add_right_comm, List.cons_append,
      paramMatches_skip (h c List.mem_cons_self)]
    exact paramMatches_path n rest fun d hd => h d (List.mem_cons_of_mem c hd)

/-- A name and a value that end where the expression ends them. -/
structure Clean (p : String × String) : Prop where
  name : p.1.toList ≠ [] ∧ ∀ c ∈ p.1.toList, c ≠ '=' ∧ c ≠ '#'
  value : ∀ c ∈ p.2.toList, c ≠ '&' ∧ c ≠ '#'

theorem takeWhile_stop {P : Char → Bool} {cs rest : List Char} (h : ∀ c ∈ cs, P c = true)
    (hstop : ∀ c ∈ rest.head?, P c = false) :
    (cs ++ rest).takeWhile P = cs ∧ (cs ++ rest).dropWhile P = rest := by
  induction cs with
  | nil =>
    cases rest with
    | nil => exact ⟨rfl, rfl⟩
    | cons c rest =>
      have hc := hstop c rfl
      exact ⟨List.takeWhile_cons_of_neg (by simp [hc]), List.dropWhile_cons_of_neg (by simp [hc])⟩
  | cons c cs ih =>
    obtain ⟨htake, hdrop⟩ := ih fun d hd => h d (List.mem_cons_of_mem c hd)
    have hc := h c List.mem_cons_self
    rw [List.cons_append, List.takeWhile_cons_of_pos hc, List.dropWhile_cons_of_pos hc, htake]
    exact ⟨rfl, hdrop⟩

theorem paramMatches_query : ∀ {params : List (String × String)} {mark : Char} {n : ℕ},
    mark = '?' ∨ mark = '&' → (∀ p ∈ params, Clean p) → (queryChars mark params).length ≤ n →
      paramMatches n (queryChars mark params) = params
  | [], mark, n, _, _, _ => paramMatches_nil n
  | (k, v) :: rest, mark, n, hmark, h, hn => by
    have hclean := h (k, v) List.mem_cons_self
    cases n with
    | zero => exact absurd hn (by simp [queryChars])
    | succ n =>
      have hname := takeWhile_stop (P := fun c => c ≠ '=' && c ≠ '#')
        (fun c (hc : c ∈ k.toList) => by simpa using hclean.name.2 c hc)
        (show ∀ c ∈ ('=' :: (v.toList ++ queryChars '&' rest)).head?, _ by simp)
      have hvalue := takeWhile_stop (P := fun c => c ≠ '&' && c ≠ '#')
        (fun c (hc : c ∈ v.toList) => by simpa using hclean.value c hc)
        (show ∀ c ∈ (queryChars '&' rest).head?, _ by cases rest <;> simp [queryChars])
      have hrest : (queryChars '&' rest).length ≤ n := by
        simp only [queryChars, List.length_cons, List.length_append] at hn
        omega
      rw [queryChars, paramMatches, hname.1, hname.2]
      split
      · next tail heq =>
        obtain rfl := (List.cons.inj heq).2
        dsimp only
        rw [if_pos ⟨hmark, hclean.name.1⟩, hvalue.1, hvalue.2, String.ofList_toList,
          String.ofList_toList, paramMatches_query (Or.inr rfl)
            (fun p hp => h p (List.mem_cons_of_mem _ hp)) hrest]
      · next hne => exact absurd rfl (hne _)

/-- A URL without `?` and `&` in its path gives the parameters of its query, as they stand there. -/
theorem getHeaderParams_query (proto : List String) {path : String}
    {params : List (String × String)} (hpath : ∀ c ∈ path.toList, ¬ (c = '?' ∨ c = '&'))
    (hparams : ∀ p ∈ params, Clean p) :
    getHeaderParams proto (withQuery path params) =
      params.foldl (fun t p => t.assign proto p.1 (.str p.2)) .empty := by
  have hchars : (withQuery path params).toList = path.toList ++ queryChars '?' params := by
    rw [withQuery, String.toList_append, String.toList_ofList]
  rw [getHeaderParams, hchars, List.length_append, paramMatches_path _ _ hpath,
    paramMatches_query (Or.inl rfl) hparams (Nat.le_refl _)]

theorem getHeaderParams_path (proto : List String) {path : String}
    (hpath : ∀ c ∈ path.toList, ¬ (c = '?' ∨ c = '&')) : getHeaderParams proto path = .empty := by
  have h : getHeaderParams proto (withQuery path []) = .empty :=
    getHeaderParams_query proto hpath fun p hp => absurd hp List.not_mem_nil
  rwa [withQuery, queryChars, String.ofList_nil, String.append_empty] at h

/-! ### The two messages of a client -/

/-- The credentials, under the names of the query string. -/
def credentialPairs (f sid actor : String) : List (String × String) :=
  [(Const.loginTempKey, f), (Const.senderID, sid), (Const.actorType, actor)]

/-- The URL of a client that logs in by its query. -/
def loginURL (path f sid actor : String) : String :=
  withQuery path (credentialPairs (encodeURIComponent f) (encodeURIComponent sid)
    (encodeURIComponent actor))

/-- A `de_auth` frame with the credentials. -/
structure LoginFrame (parsed : Json) (f sid actor : String) : Prop where
  isAuthFrame : Server.isAuthFrame parsed = true
  key : parsed.field Const.loginTempKey = some (.str f)
  sender : parsed.field Const.senderID = some (.str sid)
  actorType : parsed.field Const.actorType = some (.str actor)

/-- The plain frame of a client. -/
def loginFrame (f sid actor : String) : Json :=
  .obj [("ty", .str "s"), ("mt", .str "de_auth"), (Const.loginTempKey, .str f),
    (Const.senderID, .str sid), (Const.actorType, .str actor)]

theorem loginFrame_carries (f sid actor : String) : LoginFrame (loginFrame f sid actor) f sid actor :=
  ⟨by rfl, rfl, rfl, rfl⟩

/-- The parameters that hold the credentials. -/
def loginParams (f sid actor : String) : Table Json :=
  (credentialPairs f sid actor).foldl (fun t p => t.insert p.1 (.str p.2)) .empty

/-- An encoding ends where the expression ends a value. -/
theorem clean_encode {k : String} (hne : k.toList ≠ [])
    (hk : k.toList.all (fun c => c ≠ '=' && c ≠ '#') = true) (v : String) :
    Clean (k, encodeURIComponent v) := by
  refine ⟨⟨hne, fun c hc => by simpa using List.all_eq_true.mp hk c hc⟩, fun c hc => ?_⟩
  rcases mem_encodeURIComponent hc with rfl | h
  · decide
  · exact ⟨fun he => absurd (he ▸ h) (by decide), fun he => absurd (he ▸ h) (by decide)⟩

theorem getHeaderParams_loginURL {path : String}
    (hpath : ∀ c ∈ path.toList, ¬ (c = '?' ∨ c = '&')) (f sid actor : String) :
    getHeaderParams objectPrototype (loginURL path f sid actor) =
      loginParams (encodeURIComponent f) (encodeURIComponent sid) (encodeURIComponent actor) := by
  rw [loginURL, getHeaderParams_query _ hpath fun p hp => ?_]
  · rfl
  · simp only [credentialPairs, List.mem_cons, List.not_mem_nil, or_false] at hp
    rcases hp with rfl | rfl | rfl
    · exact clean_encode (by decide) (by decide) f
    · exact clean_encode (by decide) (by decide) sid
    · exact clean_encode (by decide) (by decide) actor

theorem LoginFrame.frameParams {parsed : Json} {f sid actor : String}
    (h : LoginFrame parsed f sid actor) :
    Server.frameParams objectPrototype parsed = loginParams f sid actor := by
  simp only [Server.frameParams, List.foldl_cons, List.foldl_nil, h.key, h.sender, h.actorType]
  rfl

section

variable (f sid actor : String)

theorem loginParams_key : (loginParams f sid actor).own? Const.loginTempKey = some (.str f) := rfl

theorem loginParams_hasKey : (loginParams f sid actor).hasOwnProperty objectPrototype
    (some (.str Const.loginTempKey)) = .ok true := rfl

end

namespace Server

open Action

variable (J : JsonCodec) (isAlphanumeric : String → Bool)

/-! ### What a login leaves -/

/-- The fields of a login record that say who a unit is, where it belongs and what it may do. -/
structure LoginFields where
  m_senderID : Val
  m_accountID : Val
  m_groupID : Val
  m_actorType : Val
  m_prm : Val

/-- What a login gives a socket, and the rooms it leaves. -/
structure Standing where
  record : Option LoginFields
  accounts : Table AccountId
  accountHeap : AccountId → Account
  groupHeap : GroupId → Group
  groups : SocketId → Option GroupId

def loginFields (login : LoginRequest) : LoginFields :=
  ⟨login.senderID, login.accountID, login.groupID, login.actorType, login.prm⟩

def standing (w : SocketId) (s : Server) : Standing where
  record := (s.sockets w).loginRequest.map loginFields
  accounts := s.accounts
  accountHeap := s.accountHeap
  groupHeap := s.groupHeap
  groups v := (s.sockets v).group

/-- The client connects with its credentials in the query. -/
def loginByQuery (path f sid actor remote : String) (s : Server) : Server :=
  (handle J isAlphanumeric (.connect (loginURL path f sid actor) remote)).final s

/-- The client connects without a query and sends a frame. -/
def loginByFrame (path remote : String) (message : Bytes) (isBinary : Bool) (s : Server) : Server :=
  (handle J isAlphanumeric (.message s.nextSocket message isBinary)).final
    ((handle J isAlphanumeric (.connect path remote)).final s)

/-- A new connection whose credentials are about to be checked. -/
def arrived (remote : String) (s : Server) : Server :=
  setSocket s.nextSocket (fun v => { v with listening := true }) ((openSocket remote).final s)

/-- Nothing of what a login leaves has changed. -/
def KeepsStanding (w : SocketId) (s s' : Server) : Prop := s'.standing w = s.standing w

instance (w : SocketId) : IsPreorder Server (KeepsStanding w) where
  refl := fun _ => rfl
  trans := fun _ _ _ h h' => h'.trans h

section

variable {J} {isAlphanumeric} {w : SocketId} {s : Server}

/-! ### Acks and closes -/

theorem standing_setSocket {f : Socket → Socket} (v : SocketId)
    (hlogin : (f (s.sockets v)).loginRequest = (s.sockets v).loginRequest)
    (hgroup : (f (s.sockets v)).group = (s.sockets v).group) :
    (setSocket v f s).standing w = s.standing w := by
  have hrecord : ((setSocket v f s).sockets w).loginRequest = (s.sockets w).loginRequest := by
    rw [setSocket_sockets]
    split
    · next h => rw [h, hlogin]
    · rfl
  have hgroups : (fun u => ((setSocket v f s).sockets u).group) = fun u => (s.sockets u).group := by
    funext u
    rw [setSocket_sockets]
    split
    · next h => rw [h, hgroup]
    · rfl
  rw [standing, hrecord, hgroups]
  rfl

theorem standing_closeSocket (v : SocketId) :
    ((closeSocket v).final s).standing w = s.standing w := by
  change (setSocket v _ s).standing w = s.standing w
  refine standing_setSocket v ?_ ?_
  · split <;> rfl
  · split <;> rfl

theorem keepsStanding_closeSocket (v : SocketId) : Moves (KeepsStanding w) (closeSocket v) :=
  fun _ => standing_closeSocket v

/-- Rejecting a socket that had not logged in. -/
theorem standing_rejectSocket (hl : (s.sockets w).loginRequest = none) :
    ((rejectSocket w).final s).standing w = s.standing w := by
  rw [rejectSocket, final_modify_bind, standing_closeSocket]
  exact standing_setSocket w hl.symm rfl

/-! ### The socket before the check -/

theorem arrived_socket (remote : String) : (s.arrived remote).sockets s.nextSocket =
    { remote := remote, listening := true } := by
  rw [arrived, setSocket_self, openSocket_sockets, if_pos rfl]

theorem Consistent.arrived (hs : s.Consistent) (remote : String) : (s.arrived remote).Consistent :=
  (hs.openSocket remote).setListeners rfl rfl rfl
    (by rw [openSocket_sockets, if_pos rfl])

/-- A query with credentials is checked on the new connection. -/
theorem loginByQuery_eq (hproto : s.proto = objectPrototype)
    (hcompat : s.config.ws_auth_no_frame_old_compatibility = true) {path : String}
    (hpath : ∀ c ∈ path.toList, ¬ (c = '?' ∨ c = '&')) (f sid actor remote : String) :
    s.loginByQuery J isAlphanumeric path f sid actor remote =
      (completeConnection J isAlphanumeric (loginParams (encodeURIComponent f)
        (encodeURIComponent sid) (encodeURIComponent actor)) s.nextSocket).final
          (s.arrived remote) := by
  have hparams := getHeaderParams_loginURL hpath f sid actor
  have hcreds : hasQueryCreds s.proto (loginURL path f sid actor) = .ok true := by
    rw [hasQueryCreds, hproto, hparams, loginParams_hasKey]
  change (onConnect J isAlphanumeric (loginURL path f sid actor) s.nextSocket).final
    ((openSocket remote).final s) = _
  have hproto' : ((openSocket remote).final s).proto = s.proto := rfl
  have hconfig : ((openSocket remote).final s).config = s.config := rfl
  rw [onConnect, final_get_bind, hproto', hcreds, final_ok_bind, serveSocket_final, if_pos rfl,
    hconfig, if_pos hcompat, greet, hconfig, if_pos hcompat, hproto, hparams]
  rfl

/-- A connection without a query waits for its frame. -/
theorem connect_path (hproto : s.proto = objectPrototype) {path : String}
    (hpath : ∀ c ∈ path.toList, ¬ (c = '?' ∨ c = '&')) (remote : String) :
    (handle J isAlphanumeric (.connect path remote)).final s =
      setSocket s.nextSocket (fun v => { v with
        listening := true, authPending := true, authTimer := true, authFrameHandler := true })
          ((openSocket remote).final s) := by
  have hcreds : hasQueryCreds s.proto path = .ok false := by
    rw [hasQueryCreds, hproto, getHeaderParams_path _ hpath]
    rfl
  change (onConnect J isAlphanumeric path s.nextSocket).final ((openSocket remote).final s) = _
  have hproto' : ((openSocket remote).final s).proto = s.proto := rfl
  rw [onConnect, final_get_bind, hproto', hcreds, final_ok_bind, serveSocket_final,
    if_neg Bool.false_ne_true]
  rfl

/-- What follows the check of a frame leaves its result alone. -/
theorem authenticateFrame_standing (parsed : Json) (v : SocketId) :
    ((authenticateFrame J isAlphanumeric parsed v).final s).standing w =
      ((completeConnection J isAlphanumeric (frameParams s.proto parsed) v).final
        (setSocket v (fun u => { u with authPending := false }) s)).standing w := by
  rw [authenticateFrame_final]
  rcases hc : completeConnection J isAlphanumeric (frameParams s.proto parsed) v
    (setSocket v (fun u => { u with authPending := false }) s) with ⟨e | x, u⟩
  · rw [final, hc]
    exact standing_closeSocket v
  · rw [final, hc]
    dsimp only
    split
    · rfl
    · exact standing_closeSocket v

/-- The first message of a socket that waits for it, when it is a `de_auth` frame. -/
theorem messageEvent_standing (hs : s.Consistent) {v : SocketId} {parsed : Json}
    (hwaits : (s.sockets v).authFrameHandler = true) (hpending : (s.sockets v).authPending = true)
    (hauth : isAuthFrame parsed = true) {message : Bytes} (hmessage : J.parse message = some parsed)
    (isBinary : Bool) :
    ((messageEvent J isAlphanumeric v message isBinary).final s).standing w =
      ((completeConnection J isAlphanumeric (frameParams s.proto parsed) v).final
        (setSocket v (fun u => { u with
          authFrameHandler := false, authTimer := false, authPending := false }) s)).standing w := by
  rw [messageEvent, final_get_bind,
    final_bind_of_ok (onWsMessage_waiting J hs hwaits message isBinary), hwaits]
  change ((authFrameHandler J isAlphanumeric v message).final s).standing w = _
  rw [authFrameHandler, final_modify_bind, final_get_bind, setSocket_self,
    if_neg (by simp [hpending]), hmessage]
  dsimp only
  rw [if_pos hauth, authenticateFrame_standing, setSocket_setSocket, setSocket_proto]

/-- A frame is checked on the same connection as a query. -/
theorem loginByFrame_standing (hs : s.Consistent) (hproto : s.proto = objectPrototype)
    {path : String} (hpath : ∀ c ∈ path.toList, ¬ (c = '?' ∨ c = '&')) {parsed : Json}
    {f sid actor : String} (hframe : LoginFrame parsed f sid actor) {message : Bytes}
    (hmessage : J.parse message = some parsed) (remote : String) (isBinary : Bool) :
    (s.loginByFrame J isAlphanumeric path remote message isBinary).standing s.nextSocket =
      ((completeConnection J isAlphanumeric (loginParams f sid actor) s.nextSocket).final
        (s.arrived remote)).standing s.nextSocket := by
  rw [loginByFrame, connect_path hproto hpath]
  have hopen : ((openSocket remote).final s).sockets s.nextSocket = { remote := remote } := by
    rw [openSocket_sockets, if_pos rfl]
  have hs' := (hs.openSocket remote).setListeners (w := s.nextSocket) (f := fun v => { v with
    listening := true, authPending := true, authTimer := true, authFrameHandler := true })
    rfl rfl rfl (congrArg Socket.loginRequest hopen)
  refine (messageEvent_standing hs' (by rw [setSocket_self]) (by rw [setSocket_self])
    hframe.isAuthFrame hmessage isBinary).trans ?_
  have hproto' : ((openSocket remote).final s).proto = objectPrototype := hproto
  rw [setSocket_proto, hproto', hframe.frameParams, setSocket_setSocket, arrived, setSocket,
    setSocket, hopen]

/-! ### What the parameters decide -/

/-- On a local server the key is not looked at. -/
theorem completeConnection_local (hlocal : s.config.local_server_enabled = true)
    (f sid actor : String) : completeConnection J isAlphanumeric (loginParams f sid actor) w s =
      _acceptConnection J (localLogin s.config (loginParams f sid actor)) w s := by
  have htext : toText (.str f) = .ok f := propKey_str f
  rw [completeConnection, run_bind_get, if_pos hlocal, validateKeyLocal, loginParams_key]
  dsimp only
  rw [htext]
  rfl

/-- With AUTH, of the parameters only the key and the sender id are used. -/
theorem completeConnection_congr (hauth : s.config.local_server_enabled = false)
    (f sid actor actor' : String) :
    completeConnection J isAlphanumeric (loginParams f sid actor) w s =
      completeConnection J isAlphanumeric (loginParams f sid actor') w s := by
  have hkey : validateKey isAlphanumeric (loginParams f sid actor) w =
      validateKey isAlphanumeric (loginParams f sid actor') w := rfl
  rw [completeConnection, completeConnection, run_bind_get, run_bind_get, hauth]
  simp only [Bool.false_eq_true, if_false]
  rw [hkey]
  rfl

theorem loginFor_local (hlocal : s.config.local_server_enabled = true) (f sid actor : String) :
    s.loginFor (loginParams f sid actor) =
      some (localLogin s.config (loginParams f sid actor)) := by
  have htext : toText (.str f) = .ok f := propKey_str f
  rw [loginFor, if_pos hlocal, loginParams_key]
  dsimp only
  rw [htext]
  rfl

theorem presentedKey_loginParams (f sid actor : String) :
    presentedKey objectPrototype (loginParams f sid actor) = some f := by
  have htext : toText (.str f) = .ok f := propKey_str f
  rw [presentedKey, loginParams_hasKey, loginParams_key]
  dsimp only
  rw [htext]
  rfl

theorem loginFor_auth (hauth : s.config.local_server_enabled = false)
    (hproto : s.proto = objectPrototype) (f sid actor : String) :
    s.loginFor (loginParams f sid actor) = if (s.getLogin f).isNullish then none
      else some (announcedLogin (loginParams f sid actor) (s.getLogin f)) := by
  rw [loginFor, hauth, if_neg Bool.false_ne_true, hproto, presentedKey_loginParams]

/-- An accepted socket has the login record of its parameters. -/
theorem completeConnection_loginRequest {params : Table Json} {login : LoginRequest}
    (hs : s.Consistent) (hl : (s.sockets w).loginRequest = none)
    (hf : (s.sockets w).authFrameHandler = false) (hw : w < s.nextSocket)
    (hlogin : s.loginFor params = some login) :
    (((completeConnection J isAlphanumeric params w).final s).sockets w).loginRequest =
      some login := by
  have h := completeConnection_final J isAlphanumeric params hs hl hf hw
  rw [hlogin] at h
  obtain ⟨s₀, hkept, hafter⟩ := h.accepts
  have hshrinks := hkept.shrinks
  have hwrites : Relation.ReflTransGen (AdmitWrite w login) _ _ :=
    admits_afterLogin J (Consistent.shrinks (hs.withWaiting _) hshrinks)
      ((hshrinks.sockets w).loginRequest.trans hl) ((hshrinks.sockets w).handler_off hf)
      (hshrinks.nextSocket ▸ hw)
  rw [(hafter.sockets w).loginRequest]
  exact (admitWrites_lasts hwrites w login (by rw [setSocket_self])).1

/-- With AUTH, a key that nobody waits for changes nothing. -/
theorem completeConnection_refused (hauth : s.config.local_server_enabled = false)
    (hproto : s.proto = objectPrototype) (hl : (s.sockets w).loginRequest = none) {f : String}
    (hkey : (s.getLogin f).isNullish = true) (sid actor : String) :
    ((completeConnection J isAlphanumeric (loginParams f sid actor) w).final s).standing w =
      s.standing w := by
  have hkept := moves_validateKey isAlphanumeric (R := KeepsStanding w) (keepsStanding_closeSocket w)
    (loginParams f sid actor) s
  have hshrinks := (moves_validateKey isAlphanumeric (roomsKept_closeSocket w)
    (loginParams f sid actor) s).shrinks
  rw [completeConnection, final_get_bind, hauth, if_neg Bool.false_ne_true]
  rcases hr : validateKey isAlphanumeric (loginParams f sid actor) w s with ⟨e | key?, s₁⟩
  · rw [final, run_bind_of_error hr]
    rw [final, hr] at hkept
    exact hkept
  · have hresult := validateKey_result isAlphanumeric (congrArg Prod.fst hr)
    rw [hproto, presentedKey_loginParams] at hresult
    obtain rfl : key? = some f := hresult.symm
    rw [final, hr] at hkept hshrinks
    have hget : s₁.getLogin f = s.getLogin f := by
      rw [getLogin, getLogin, hshrinks.proto, hshrinks.waitingAccounts]
    rw [final_bind_of_ok hr]
    dsimp only
    rw [acceptConnection, final_attempt_pure, final_get_bind, hget, if_pos hkey,
      standing_rejectSocket ((hshrinks.sockets w).loginRequest.trans hl)]
    exact hkept

/-! ### When both ways lead to the same -/

/-- Both ways give a socket the same standing. -/
def LoginsAgree (J : JsonCodec) (isAlphanumeric : String → Bool) (w : SocketId) (s : Server)
    (f sid actor : String) : Prop :=
  ((completeConnection J isAlphanumeric (loginParams (encodeURIComponent f) (encodeURIComponent sid)
      (encodeURIComponent actor)) w).final s).standing w =
    ((completeConnection J isAlphanumeric (loginParams f sid actor) w).final s).standing w

theorem loginFields_of_agree (hs : s.Consistent) (hl : (s.sockets w).loginRequest = none)
    (hf : (s.sockets w).authFrameHandler = false) (hw : w < s.nextSocket) {f sid actor : String}
    (h : s.LoginsAgree J isAlphanumeric w f sid actor) {login login' : LoginRequest}
    (hlogin : s.loginFor (loginParams (encodeURIComponent f) (encodeURIComponent sid)
      (encodeURIComponent actor)) = some login)
    (hlogin' : s.loginFor (loginParams f sid actor) = some login') :
    loginFields login = loginFields login' := by
  have hrecord := congrArg Standing.record h
  rw [standing, standing, completeConnection_loginRequest hs hl hf hw hlogin,
    completeConnection_loginRequest hs hl hf hw hlogin'] at hrecord
  exact Option.some.inj hrecord

theorem loginsAgree_local (hs : s.Consistent) (hl : (s.sockets w).loginRequest = none)
    (hf : (s.sockets w).authFrameHandler = false) (hw : w < s.nextSocket)
    (hlocal : s.config.local_server_enabled = true) (f sid actor : String) :
    s.LoginsAgree J isAlphanumeric w f sid actor ↔ Unreserved sid ∧ Unreserved actor := by
  constructor
  · intro h
    have hfields := loginFields_of_agree hs hl hf hw h (loginFor_local hlocal ..)
      (loginFor_local hlocal ..)
    have hsender : some (Json.str (encodeURIComponent sid)) = some (Json.str sid) :=
      congrArg LoginFields.m_senderID hfields
    have hactor : some (Json.str (encodeURIComponent actor)) = some (Json.str actor) :=
      congrArg LoginFields.m_actorType hfields
    exact ⟨encodeURIComponent_eq_self_iff.mp (Json.str.inj (Option.some.inj hsender)),
      encodeURIComponent_eq_self_iff.mp (Json.str.inj (Option.some.inj hactor))⟩
  · rintro ⟨hsid, hactor⟩
    have hlogin : localLogin s.config (loginParams (encodeURIComponent f) sid actor) =
        localLogin s.config (loginParams f sid actor) := rfl
    rw [LoginsAgree, encodeURIComponent_eq_self_iff.mpr hsid,
      encodeURIComponent_eq_self_iff.mpr hactor, final, final, completeConnection_local hlocal,
      completeConnection_local hlocal, hlogin]

/-- With AUTH: no key that waits holds a character that is encoded. -/
theorem loginsAgree_auth (hs : s.Consistent) (hl : (s.sockets w).loginRequest = none)
    (hf : (s.sockets w).authFrameHandler = false) (hw : w < s.nextSocket)
    (hauth : s.config.local_server_enabled = false) (hproto : s.proto = objectPrototype)
    (hkeys : ∀ key, (s.getLogin key).isNullish = false → Unreserved key) (f sid actor : String) :
    s.LoginsAgree J isAlphanumeric w f sid actor ↔
      (s.getLogin f).isNullish = true ∨ Unreserved sid := by
  cases hkey : (s.getLogin f).isNullish with
  | true =>
    -- the encoding of the key is not waited for either
    have hencoded : (s.getLogin (encodeURIComponent f)).isNullish = true := by
      by_cases hf' : Unreserved f
      · rw [encodeURIComponent_eq_self_iff.mpr hf', hkey]
      · by_contra hne
        exact not_unreserved_encode hf' (hkeys _ (Bool.eq_false_iff.mpr hne))
    rw [LoginsAgree, completeConnection_refused hauth hproto hl hencoded,
      completeConnection_refused hauth hproto hl hkey]
    simp
  | false =>
    have hencode := encodeURIComponent_eq_self_iff.mpr (hkeys f hkey)
    constructor
    · intro h
      refine Or.inr (encodeURIComponent_eq_self_iff.mp ?_)
      have hfields := loginFields_of_agree hs hl hf hw h
        (by rw [loginFor_auth hauth hproto, hencode, hkey, if_neg Bool.false_ne_true])
        (by rw [loginFor_auth hauth hproto, hkey, if_neg Bool.false_ne_true])
      have hsender : some (Json.str (encodeURIComponent sid)) = some (Json.str sid) :=
        congrArg LoginFields.m_senderID hfields
      exact Json.str.inj (Option.some.inj hsender)
    · intro h
      have hsid := encodeURIComponent_eq_self_iff.mpr
        (h.resolve_left fun hfalse => Bool.noConfusion hfalse)
      rw [LoginsAgree, hencode, hsid, final, final, completeConnection_congr hauth]

/-- A key that names something is one AUTH has issued, or a name that every object inherits. -/
theorem unreserved_of_getLogin {config : Config} {es : List Event}
    (hauth : config.local_server_enabled = false)
    (hrun : run J isAlphanumeric (start config) es = some s)
    (hkeys : ∀ message key, .authMessage message key ∈ es → Unreserved key) {key : String}
    (h : (s.getLogin key).isNullish = false) : Unreserved key := by
  rw [getLogin, (run_frame J isAlphanumeric hrun).2, Table.get] at h
  cases hown : s.waitingAccounts.own? key with
  | some d =>
    have hstate : StateAt J isAlphanumeric config es es.length s := by
      rw [StateAt, List.take_length]
      exact hrun
    obtain ⟨j, -, ⟨t, message, d, -, he, -⟩, -⟩ := waiting_live hauth hstate key (by rw [hown]; rfl)
    exact hkeys message key (List.mem_of_getElem? he)
  | none =>
    rw [hown] at h
    have hmem : key ∈ objectPrototype := by
      by_contra hne
      rw [if_neg hne] at h
      exact absurd h (by simp [Slot.isNullish])
    have hall : objectPrototype.all (fun name => name.toList.all isUnreserved) = true := by decide
    exact List.all_eq_true.mp (List.all_eq_true.mp hall key hmem)

end

/-- In every state of a run whose keys are made of characters that stay as they are, logging in by
    a query and by a frame come to the same exactly when the encoding changes nothing that is used:
    the sender id and the actor type on a local server; with AUTH the sender id, if the key is good
    for a login at all. -/
theorem logins_agree_iff {J : JsonCodec} {isAlphanumeric : String → Bool} {config : Config}
    {es : List Event} {s : Server} {path f sid actor : String} {parsed : Json} {message : Bytes}
    (hrun : run J isAlphanumeric (start config) es = some s)
    (hkeys : ∀ message key, .authMessage message key ∈ es → Unreserved key)
    (hcompat : config.ws_auth_no_frame_old_compatibility = true)
    (hpath : ∀ c ∈ path.toList, ¬ (c = '?' ∨ c = '&')) (hframe : LoginFrame parsed f sid actor)
    (hmessage : J.parse message = some parsed) (remote : String) (isBinary : Bool) :
    (s.loginByQuery J isAlphanumeric path f sid actor remote).standing s.nextSocket =
        (s.loginByFrame J isAlphanumeric path remote message isBinary).standing s.nextSocket ↔
      if config.local_server_enabled then Unreserved sid ∧ Unreserved actor
      else (s.getLogin f).isNullish = true ∨ Unreserved sid := by
  obtain ⟨hconfig, hproto⟩ := run_frame J isAlphanumeric hrun
  have hs := consistent_run J isAlphanumeric hrun
  have harrived := hs.arrived remote
  have hsocket := arrived_socket (s := s) remote
  have hlogin := congrArg Socket.loginRequest hsocket
  have hhandler := congrArg Socket.authFrameHandler hsocket
  have hknown : s.nextSocket < (s.arrived remote).nextSocket := Nat.lt_succ_self _
  have hconfig' : (s.arrived remote).config = config := hconfig
  rw [loginByQuery_eq hproto (by rw [hconfig]; exact hcompat) hpath,
    loginByFrame_standing hs hproto hpath hframe hmessage]
  cases hlocal : config.local_server_enabled with
  | true =>
    rw [if_pos rfl]
    exact loginsAgree_local harrived hlogin hhandler hknown (by rw [hconfig', hlocal]) f sid actor
  | false =>
    rw [if_neg Bool.false_ne_true]
    exact loginsAgree_auth harrived hlogin hhandler hknown (by rw [hconfig', hlocal]) hproto
      (fun key h => unreserved_of_getLogin hlocal hrun hkeys h) f sid actor

/-- AUTH announces a vehicle, which logs in with a sender id that is its own encoding. -/
theorem logins_agree_announced : ∃ s : Server,
    run Text.codec isAsciiAlphanumeric (start {}) [announceUnit "k1"] = some s ∧
    (s.loginByQuery Text.codec isAsciiAlphanumeric "/" "k1" "drone" "d" "peer").standing
        s.nextSocket =
      (s.loginByFrame Text.codec isAsciiAlphanumeric "/" "peer"
        (Text.stringify (loginFrame "k1" "drone" "d")) false).standing
          s.nextSocket := by
  have hrun : (run Text.codec isAsciiAlphanumeric (start {}) [announceUnit "k1"]).isSome = true := by
    decide +kernel
  obtain ⟨s, hs⟩ := Option.isSome_iff_exists.mp hrun
  have hparse : Text.codec.parse (Text.stringify (loginFrame "k1" "drone" "d")) =
      some (loginFrame "k1" "drone" "d") := by
    decide +kernel
  have hdrone : encodeURIComponent "drone" = "drone" := by decide +kernel
  have hkey : "k1".toList.all isUnreserved = true := by decide
  have hpath : ("/".toList.all fun c => !(c == '?' || c == '&')) = true := by decide
  refine ⟨s, hs, (logins_agree_iff hs (fun message key hmem => ?_) rfl (fun c hc => ?_)
    (loginFrame_carries "k1" "drone" "d") hparse "peer" false).mpr ?_⟩
  · cases hmem with
    | head => exact List.all_eq_true.mp hkey
    | tail _ hmem => exact absurd hmem List.not_mem_nil
  · simpa using List.all_eq_true.mp hpath c hc
  · exact Or.inr (encodeURIComponent_eq_self_iff.mp hdrone)

/-- AUTH announces a vehicle whose sender id holds a blank. -/
theorem logins_disagree : ∃ s : Server,
    run Text.codec isAsciiAlphanumeric (start {}) [announceUnit "k1"] = some s ∧
    (s.loginByQuery Text.codec isAsciiAlphanumeric "/" "k1" "drone 1" "d" "peer").standing
        s.nextSocket ≠
      (s.loginByFrame Text.codec isAsciiAlphanumeric "/" "peer"
        (Text.stringify (loginFrame "k1" "drone 1" "d")) false).standing
          s.nextSocket := by
  have hsenders : (run Text.codec isAsciiAlphanumeric (start {}) [announceUnit "k1"]).map (fun s =>
      ((s.loginByQuery Text.codec isAsciiAlphanumeric "/" "k1" "drone 1" "d" "peer").standing
          s.nextSocket |>.record.map (·.m_senderID),
        (s.loginByFrame Text.codec isAsciiAlphanumeric "/" "peer"
          (Text.stringify (loginFrame "k1" "drone 1" "d")) false).standing
            s.nextSocket |>.record.map (·.m_senderID))) =
      some (some (some (.str "drone%201")), some (some (.str "drone 1"))) := by
    decide +kernel
  obtain ⟨s, hs, hfields⟩ := Option.map_eq_some_iff.mp hsenders
  rw [Prod.mk.injEq] at hfields
  refine ⟨s, hs, fun h => ?_⟩
  rw [h, hfields.2] at hfields
  exact absurd hfields.1 (by decide)

end Server

end DroneEngage
