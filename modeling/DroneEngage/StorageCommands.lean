import DroneEngage.DbProxyClient

/-! The task, mission and news commands of a client.

    Each handler checks the body it is sent and turns it into a request to the storage server, or tells
    the client that the storage server is away. What it does with the answer is left out. Missions and
    news that are loaded or saved carry the account of the caller's login; tasks carry the unit that
    the body names, and a deleted news item only its own id. -/

namespace DroneEngage
open Js

/-- What a handler does before it waits for an answer. -/
inductive StorageCall where
  | ignore
  /-- `fn_sendRequest` is called -/
  | request (mt : String) (ms : Json)
  /-- a frame is sent to the client -/
  | reply (message : Json)

namespace StorageCall

/-! ### Requests -/

/-- An object literal; a field that is `undefined` does not get into its text. -/
def literal (fields : List (String × Val)) : Json :=
  .obj (fields.filterMap fun f => f.2.map fun v => (f.1, v))

/-- `fn_loadMission` -/
def loadMission (unitId accountId missionId : Val) : StorageCall :=
  .request "9010" (literal ([("unitId", unitId), ("accountId", accountId)] ++
    if isTruthy missionId then [("missionId", missionId)] else []))

/-- `fn_saveMission` -/
def saveMission (unitId accountId missionId name data : Val) : StorageCall :=
  .request "9011" (literal [("unitId", unitId), ("accountId", accountId), ("missionId", missionId),
    ("name", name), ("data", data)])

/-- `fn_deleteMission` -/
def deleteMission (missionId accountId : Val) : StorageCall :=
  .request "9012" (literal [("missionId", missionId), ("accountId", accountId)])

/-- `fn_loadNews` -/
def loadNews (accountId : Val) : StorageCall :=
  .request "9015" (literal [("accountId", accountId)])

/-- `fn_saveNews` -/
def saveNews (scope accountId title body priority authorId expiresAt newsId : Val) : StorageCall :=
  .request "9016" (literal ([("scope", scope), ("accountId", accountId), ("title", title),
    ("body", body), ("priority", priority), ("authorId", authorId),
    ("expiresAt", some (expiresAt.getD .null))] ++
    if isTruthy newsId then [("newsId", newsId)] else []))

/-- `fn_deleteNews` -/
def deleteNews (newsId : Val) : StorageCall :=
  .request "9017" (literal [("newsId", newsId)])

/-! ### Handlers -/

/-- The client of the storage server, as a handler sees it, and what `uuidv4` yields. -/
structure Storage where
  client : DbProxyClient
  uuid : String

/-- The frame for a client when the storage server is away. -/
def away (S : Storage) (routing mt : String) (jmsg : Json) (ws : Socket) : StorageCall :=
  .reply (jmsg.setField Const.routing (some (.str routing))
    |>.setField Const.targetID ws.name
    |>.setField Const.wsSenderID (some (.str Const.senderCommServer))
    |>.setField Const.messageID (some (.num mt))
    |>.setField Const.payload (some (.str
      ("Error: Storage server not connected (state: " ++ S.client.connectionState.code ++ ")"))))

/-- `p_ws.m_loginRequest ? p_ws.m_loginRequest.m_accountID : null` -/
def accountOf (ws : Socket) : Val := ws.loginRequest.bind LoginRequest.accountID

section

variable (J : JsonCodec) (S : Storage) (jmsg : Json) (ws : Socket)

/-- `fn_parseMessageBody` -/
def parseMessageBody : Except JsError Val :=
  match jmsg.field Const.payload with
  | some (.str text) => match J.parse (utf8 text) with
    | some v => .ok (some v)
    | none => .error .foreign
  | ms => .ok ms

/-- The check that the body names a unit: the body and the unit. -/
def namedUnit (k : String) : Except JsError (Option (Json × Val)) := do
  let mms ← parseMessageBody J jmsg
  let unit ← readProp k mms
  if isNullish unit then return none
  else do
    if ← lengthIsZero unit then return none
    else return mms.map fun mms => (mms, unit)

/-- `fn_handleLoadTasks` -/
def handleLoadTasks : Except JsError StorageCall := do
  match ← namedUnit J jmsg "ai" with
  | none => return .ignore
  | some (_, ai) =>
    if S.client.isConnected then return .request "9001" (literal [("unitId", ai)])
    else return away S Const.routingIndividual "9001" jmsg ws

/-- The task to save, with its id: one without an id is given one. -/
def identified (t : Val) : Except JsError (Val × Val) :=
  if isNullish t then .ok (some (.str S.uuid), t)
  else do
    let id ← readProp "id" t
    if isNullish id then do
      let t ← writeProp "id" (some (.str S.uuid)) t
      return (some (.str S.uuid), some t)
    else return (id, t)

/-- `fn_handleSaveTasks` -/
def handleSaveTasks : Except JsError StorageCall := do
  match ← namedUnit J jmsg "ai" with
  | none => return .ignore
  | some (mms, ai) =>
    if S.client.isConnected then do
      let (taskId, task) ← identified S (mms.field "t")
      return .request "9002" (literal [("unitId", ai), ("tasks", some (.arr
        [literal [("taskId", taskId), ("name", mms.field "messageType"), ("data", task)]]))])
    else return away S Const.routingIndividual "9002" jmsg ws

/-- `(mms.t != null) ? mms.t.id : null` -/
def taskId (mms : Json) : Except JsError Val :=
  if isNullish (mms.field "t") then .ok (some .null) else readProp "id" (mms.field "t")

/-- `fn_handleDeleteTasks` and `fn_handleDisableTasks`, which differ in the type of the request. -/
def handleTaskIds (mt : String) : Except JsError StorageCall := do
  match ← namedUnit J jmsg "ai" with
  | none => return .ignore
  | some (mms, ai) =>
    if S.client.isConnected then do
      match ← taskId mms with
      | none | some .null => return .ignore
      | some id => return .request mt (literal [("unitId", ai), ("taskIds", some (.arr [id]))])
    else return away S Const.routingIndividual mt jmsg ws

/-- `fn_handleDeleteTasks` -/
def handleDeleteTasks : Except JsError StorageCall := handleTaskIds J S jmsg ws "9003"

/-- `fn_handleDisableTasks` -/
def handleDisableTasks : Except JsError StorageCall := handleTaskIds J S jmsg ws "9004"

/-- What the mission and news handlers have in common: without an account nothing happens. -/
def withAccount (mt : String) (call : StorageCall) : Except JsError StorageCall :=
  if isNullish (accountOf ws) then .ok .ignore
  else if S.client.isConnected then .ok call
  else .ok (away S Const.routingSystem mt jmsg ws)

/-- `fn_handleLoadMission` -/
def handleLoadMission : Except JsError StorageCall := do
  match ← namedUnit J jmsg "unitId" with
  | none => return .ignore
  | some (mms, unitId) =>
    withAccount S jmsg ws "9010" (loadMission unitId (accountOf ws) (mms.field "missionId"))

/-- `fn_handleSaveMission` -/
def handleSaveMission : Except JsError StorageCall := do
  match ← namedUnit J jmsg "unitId" with
  | none => return .ignore
  | some (mms, unitId) =>
    withAccount S jmsg ws "9011" (saveMission unitId (accountOf ws) (mms.field "missionId")
      (mms.field "name") (mms.field "data"))

/-- `fn_handleDeleteMission` -/
def handleDeleteMission : Except JsError StorageCall := do
  let missionId ← readProp "missionId" (← parseMessageBody J jmsg)
  if isNullish missionId then return .ignore
  else withAccount S jmsg ws "9012" (deleteMission missionId (accountOf ws))

/-- `fn_handleLoadNews` -/
def handleLoadNews : Except JsError StorageCall :=
  withAccount S jmsg ws "9015" (loadNews (accountOf ws))

/-- `p_ws.m_loginRequest.m_senderID || null` -/
def authorOf : Val :=
  let senderID := ws.loginRequest.bind LoginRequest.senderID
  if isTruthy senderID then senderID else some .null

/-- `fn_handleSaveNews` -/
def handleSaveNews : Except JsError StorageCall := do
  let mms ← parseMessageBody J jmsg
  let body ← readProp "body" mms
  if isNullish body then return .ignore
  else do
    if ← lengthIsStrictlyZero body then return .ignore
    else
      let field (k : String) : Val := mms.bind (Json.field k)
      withAccount S jmsg ws "9016" (saveNews (some (.str "account")) (accountOf ws) (field "title")
        body (field "priority") (authorOf ws) (field "expiresAt") (field "newsId"))

/-- `fn_handleDeleteNews` -/
def handleDeleteNews : Except JsError StorageCall := do
  let newsId ← readProp "newsId" (← parseMessageBody J jmsg)
  if isNullish newsId then return .ignore
  else withAccount S jmsg ws "9017" (deleteNews newsId)

end

/-- The commands that are handed to the two modules. -/
inductive Command where
  | loadTasks
  | saveTasks
  | deleteTasks
  | disableTasks
  | loadMission
  | saveMission
  | deleteMission
  | loadNews
  | saveNews
  | deleteNews
  deriving DecidableEq

/-- The handler of a command. -/
def handle (J : JsonCodec) (S : Storage) : Command → Json → Socket → Except JsError StorageCall
  | .loadTasks => handleLoadTasks J S
  | .saveTasks => handleSaveTasks J S
  | .deleteTasks => handleDeleteTasks J S
  | .disableTasks => handleDisableTasks J S
  | .loadMission => handleLoadMission J S
  | .saveMission => handleSaveMission J S
  | .deleteMission => handleDeleteMission J S
  | .loadNews => handleLoadNews S
  | .saveNews => handleSaveNews J S
  | .deleteNews => handleDeleteNews J S

/-! ### Whose account a request names -/

section

variable {J : JsonCodec} {S : Storage} {jmsg : Json} {ws : Socket} {mt : String} {ms : Json}

theorem field_literal_cons (k l : String) (v : Val) (rest : List (String × Val)) :
    (literal ((k, v) :: rest)).field l = if l = k ∧ v.isSome = true then v
      else (literal rest).field l := by
  cases v with
  | none => simp [literal]
  | some v =>
    by_cases hk : l = k
    · subst hk
      simp [literal, Json.field]
    · have hne : (l == k) = false := by simpa using hk
      simp [literal, Json.field, List.lookup_cons, hne, hk]

@[simp] theorem field_literal_nil (l : String) : (literal []).field l = none := rfl

theorem withAccount_request {mt' : String} {call : StorageCall}
    (h : withAccount S jmsg ws mt' call = .ok (.request mt ms)) :
    isNullish (accountOf ws) = false ∧ call = .request mt ms := by
  rw [withAccount] at h
  split at h
  · cases h
  · next hnull =>
    refine ⟨Bool.eq_false_iff.mpr hnull, ?_⟩
    split at h
    · exact Except.ok.inj h
    · cases h

/-- Can the task be given an id? -/
def Identifiable (t : Val) : Prop :=
  isNullish t = true ∨ t.any Json.isObject = true ∨ isNullish (t.bind (Json.field "id")) = false

/-- The body passes the checks of a command whose request names no account. -/
def Unscoped (J : JsonCodec) (jmsg : Json) : Command → Prop
  | .loadTasks => ∃ row, namedUnit J jmsg "ai" = .ok (some row)
  | .saveTasks => ∃ row, namedUnit J jmsg "ai" = .ok (some row) ∧ Identifiable (row.1.field "t")
  | .deleteTasks | .disableTasks => ∃ row, namedUnit J jmsg "ai" = .ok (some row) ∧
    isNullish ((row.1.field "t").bind (Json.field "id")) = false
  | .deleteNews => ∃ mms, parseMessageBody J jmsg = .ok (some mms) ∧
    isNullish (mms.field "newsId") = false
  | .loadMission | .saveMission | .deleteMission | .loadNews | .saveNews => False

/-- The account is in the request. -/
def Names (ws : Socket) (ms : Json) : Prop :=
  isNullish (accountOf ws) = false ∧ ms.field "accountId" = accountOf ws

theorem accountOf_some (h : isNullish (accountOf ws) = false) : ∃ a, accountOf ws = some a := by
  cases ha : accountOf ws with
  | none =>
    rw [ha] at h
    exact absurd h (by simp [isNullish])
  | some a => exact ⟨a, rfl⟩

theorem names_of_call {mt' : String} {fields : List (String × Val)} {call : StorageCall}
    (h : withAccount S jmsg ws mt' call = .ok (.request mt ms)) {mt'' : String}
    (hcall : call = .request mt'' (literal fields))
    (hfield : ∀ a, accountOf ws = some a → (literal fields).field "accountId" = some a) :
    Names ws ms := by
  obtain ⟨hnull, hrequest⟩ := withAccount_request h
  obtain ⟨a, ha⟩ := accountOf_some hnull
  rw [hcall, StorageCall.request.injEq] at hrequest
  rw [Names, ← hrequest.2, hfield a ha, ha]
  exact ⟨ha ▸ hnull, rfl⟩

/-- A property read that yields something is a read of a value that is there. -/
theorem readProp_eq_ok {k : String} {v r : Val} (h : readProp k v = .ok r) :
    isNullish v = false ∧ v.bind (Json.field k) = r := by
  match v, h with
  | some (.bool b), h | some (.num n), h | some (.str s), h | some (.arr l), h | some (.obj l), h =>
    exact ⟨rfl, Except.ok.inj h⟩

theorem readProp_of_some {k : String} {v : Val} (h : isNullish v = false) :
    readProp k v = .ok (v.bind (Json.field k)) := by
  match v, h with
  | some (.bool b), _ | some (.num n), _ | some (.str s), _ | some (.arr l), _
  | some (.obj l), _ => rfl

theorem identifiable_iff {t : Val} : Identifiable t ↔ ∃ r, identified S t = .ok r := by
  rw [Identifiable, identified]
  by_cases hnull : isNullish t = true
  · simp [hnull]
  · rw [if_neg hnull, readProp_of_some (Bool.eq_false_iff.mpr hnull)]
    cases t with
    | none => exact absurd rfl hnull
    | some t =>
      have hread : (some t).bind (Json.field "id") = t.field "id" := rfl
      rw [hread]
      by_cases hid : isNullish (t.field "id") = true
      · by_cases hobject : t.isObject = true
        · simp [writeProp, hobject, bind, Except.bind, pure, Except.pure, hid]
        · simp [writeProp, hobject, bind, Except.bind, hid, hnull]
      · simp [bind, Except.bind, hid, pure, Except.pure]

theorem taskId_eq_ok {mms : Json} {id : Val} (h : taskId mms = .ok id)
    (hid : isNullish id = false) : (mms.field "t").bind (Json.field "id") = id := by
  rw [taskId] at h
  split at h
  · rw [← Except.ok.inj h] at hid
    exact absurd hid (by simp [isNullish])
  · exact (readProp_eq_ok h).2

theorem handleTaskIds_request {mt' : String}
    (h : handleTaskIds J S jmsg ws mt' = .ok (.request mt ms)) :
    ∃ row, namedUnit J jmsg "ai" = .ok (some row) ∧
      isNullish ((row.1.field "t").bind (Json.field "id")) = false := by
  obtain ⟨row, hrow, h⟩ := bind_eq_ok.mp h
  cases row with
  | none => cases h
  | some row =>
    refine ⟨row, hrow, ?_⟩
    dsimp only at h
    split at h
    · obtain ⟨id, hid, h⟩ := bind_eq_ok.mp h
      split at h
      · cases h
      · cases h
      · next id hnull =>
        have hsome : isNullish (some id) = false := by
          cases id with
          | null => exact absurd rfl hnull
          | _ => rfl
        rw [taskId_eq_ok hid hsome]
        exact hsome
    · cases h

/-- A request names the account of the caller, or its command does not look at it. -/
theorem request_cases {k : Command} (h : handle J S k jmsg ws = .ok (.request mt ms)) :
    Names ws ms ∨ Unscoped J jmsg k := by
  cases k with
  | loadTasks =>
    obtain ⟨row, hrow, h⟩ := bind_eq_ok.mp h
    cases row with
    | none => cases h
    | some row => exact Or.inr ⟨row, hrow⟩
  | saveTasks =>
    obtain ⟨row, hrow, h⟩ := bind_eq_ok.mp h
    cases row with
    | none => cases h
    | some row =>
      refine Or.inr ⟨row, hrow, ?_⟩
      dsimp only at h
      split at h
      · obtain ⟨r, hr, -⟩ := bind_eq_ok.mp h
        exact identifiable_iff.mpr ⟨r, hr⟩
      · cases h
  | deleteTasks => exact Or.inr (handleTaskIds_request h)
  | disableTasks => exact Or.inr (handleTaskIds_request h)
  | loadMission =>
    obtain ⟨row, -, h⟩ := bind_eq_ok.mp h
    cases row with
    | none => cases h
    | some row =>
      refine Or.inl (names_of_call h rfl fun a ha => ?_)
      simp [field_literal_cons, ha]
  | saveMission =>
    obtain ⟨row, -, h⟩ := bind_eq_ok.mp h
    cases row with
    | none => cases h
    | some row =>
      refine Or.inl (names_of_call h rfl fun a ha => ?_)
      simp [field_literal_cons, ha]
  | deleteMission =>
    obtain ⟨mms, -, h⟩ := bind_eq_ok.mp h
    obtain ⟨missionId, -, h⟩ := bind_eq_ok.mp h
    split at h
    · cases h
    · refine Or.inl (names_of_call h rfl fun a ha => ?_)
      simp [field_literal_cons, ha]
  | loadNews =>
    refine Or.inl (names_of_call h rfl fun a ha => ?_)
    simp [field_literal_cons, ha]
  | saveNews =>
    obtain ⟨mms, -, h⟩ := bind_eq_ok.mp h
    obtain ⟨body, -, h⟩ := bind_eq_ok.mp h
    split at h
    · cases h
    · obtain ⟨empty, -, h⟩ := bind_eq_ok.mp h
      split at h
      · cases h
      · refine Or.inl (names_of_call h rfl fun a ha => ?_)
        simp [field_literal_cons, ha]
  | deleteNews =>
    obtain ⟨mms, hmms, h⟩ := bind_eq_ok.mp h
    obtain ⟨newsId, hid, h⟩ := bind_eq_ok.mp h
    obtain ⟨hsome, hid⟩ := readProp_eq_ok hid
    split at h
    · cases h
    · next hnull =>
      cases mms with
      | none => exact absurd hsome (by simp [isNullish])
      | some mms =>
        refine Or.inr ⟨mms, hmms, ?_⟩
        rw [show mms.field "newsId" = newsId from hid]
        exact Bool.eq_false_iff.mpr hnull

/-- A login of the account and nothing else. -/
def ofAccount (account : String) : Socket :=
  { loginRequest := some
      { senderID := none, accountID := some (.str account), groupID := none, requestID := none
        actorType := none, prm := none } }

/-- A client whose connection to the storage server is up. -/
def connected (uuid : String) : Storage :=
  { client := { ws := some 0, authenticated := true, sockets := fun _ => .isOpen }, uuid }

theorem handleTaskIds_of_unscoped {mt : String} {row : Json × Val}
    (hconnected : S.client.isConnected = true) (hrow : namedUnit J jmsg "ai" = .ok (some row))
    (hid : isNullish ((row.1.field "t").bind (Json.field "id")) = false) :
    handleTaskIds J S jmsg ws mt = .ok (.request mt (literal [("unitId", row.2),
      ("taskIds", some (.arr [((row.1.field "t").bind (Json.field "id")).getD .null]))])) := by
  have htask : isNullish (row.1.field "t") = false := by
    cases ht : row.1.field "t" with
    | none =>
      rw [ht] at hid
      exact absurd hid (by simp [isNullish])
    | some t =>
      cases t with
      | null =>
        rw [ht] at hid
        exact absurd hid (by simp [isNullish, Json.field])
      | _ => rfl
  rw [handleTaskIds, hrow]
  simp only [bind, Except.bind, hconnected, if_true, taskId, htask, Bool.false_eq_true, if_false,
    readProp_of_some htask]
  split
  · next hnone =>
    rw [hnone] at hid
    exact absurd hid (by simp [isNullish])
  · next hnull =>
    rw [hnull] at hid
    exact absurd hid (by simp [isNullish])
  · next id _ hsome =>
    rw [hsome]
    rfl

/-- The request of such a command is the same for every account. -/
theorem request_of_unscoped {k : Command} (h : Unscoped J jmsg k)
    (hconnected : S.client.isConnected = true) :
    ∃ mt ms, ms.field "accountId" = none ∧
      ∀ ws, isNullish (accountOf ws) = false → handle J S k jmsg ws = .ok (.request mt ms) := by
  cases k with
  | loadTasks =>
    obtain ⟨row, hrow⟩ := h
    refine ⟨"9001", literal [("unitId", row.2)], by simp [field_literal_cons], fun ws _ => ?_⟩
    rw [handle, handleLoadTasks, hrow]
    simp [bind, Except.bind, hconnected, pure, Except.pure]
  | saveTasks =>
    obtain ⟨row, hrow, ht⟩ := h
    obtain ⟨r, hr⟩ := identifiable_iff (S := S) |>.mp ht
    refine ⟨"9002", literal [("unitId", row.2), ("tasks", some (.arr [literal [("taskId", r.1),
      ("name", row.1.field "messageType"), ("data", r.2)]]))], by simp [field_literal_cons],
      fun ws _ => ?_⟩
    rw [handle, handleSaveTasks, hrow]
    simp [bind, Except.bind, hconnected, pure, Except.pure, hr]
  | deleteTasks =>
    obtain ⟨row, hrow, hid⟩ := h
    exact ⟨_, _, by simp [field_literal_cons],
      fun ws _ => handleTaskIds_of_unscoped hconnected hrow hid⟩
  | disableTasks =>
    obtain ⟨row, hrow, hid⟩ := h
    exact ⟨_, _, by simp [field_literal_cons],
      fun ws _ => handleTaskIds_of_unscoped hconnected hrow hid⟩
  | deleteNews =>
    obtain ⟨mms, hmms, hid⟩ := h
    refine ⟨"9017", literal [("newsId", mms.field "newsId")], by simp [field_literal_cons],
      fun ws hws => ?_⟩
    have hread : readProp "newsId" (some mms) = .ok (mms.field "newsId") := by
      refine readProp_of_some ?_
      cases mms with
      | null => exact absurd hid (by simp [isNullish, Json.field])
      | _ => rfl
    rw [handle, handleDeleteNews, hmms]
    simp [bind, Except.bind, hread, hid, withAccount, hws, hconnected, deleteNews]
  | _ => exact h.elim

/-- Every request of the command for the body names the account of the caller's login. -/
def NamesAccount (J : JsonCodec) (k : Command) (jmsg : Json) : Prop :=
  ∀ (S : Storage) (ws : Socket) (mt : String) (ms : Json),
    handle J S k jmsg ws = .ok (.request mt ms) → Names ws ms

/-- Callers of different accounts that send the body never cause one request. -/
def Separates (J : JsonCodec) (k : Command) (jmsg : Json) : Prop :=
  ∀ (S S' : Storage) (ws ws' : Socket), accountOf ws ≠ accountOf ws' →
    ∀ (mt : String) (ms : Json), handle J S k jmsg ws = .ok (.request mt ms) →
      handle J S' k jmsg ws' ≠ .ok (.request mt ms)

/-- The requests for a body are scoped to the caller's account exactly when the body does not pass
    the checks of a task command or of `DeleteNews`. -/
theorem scoped_iff (J : JsonCodec) (k : Command) (jmsg : Json) :
    (NamesAccount J k jmsg ↔ ¬ Unscoped J jmsg k) ∧ (Separates J k jmsg ↔ ¬ Unscoped J jmsg k) := by
  have hnames (hk : ¬ Unscoped J jmsg k) : NamesAccount J k jmsg := fun S ws mt ms h =>
    (request_cases h).resolve_right hk
  refine ⟨⟨fun h hk => ?_, hnames⟩, ⟨fun h hk => ?_, fun hk => ?_⟩⟩
  · obtain ⟨mt, ms, hms, hrequest⟩ := request_of_unscoped (S := connected "") hk rfl
    obtain ⟨hnull, hfield⟩ := h _ (ofAccount "a") mt ms (hrequest _ rfl)
    rw [hms] at hfield
    exact absurd hfield (by simp [accountOf, ofAccount])
  · obtain ⟨mt, ms, -, hrequest⟩ := request_of_unscoped (S := connected "") hk rfl
    exact h _ _ (ofAccount "a") (ofAccount "b") (by simp [accountOf, ofAccount]) mt ms
      (hrequest _ rfl) (hrequest _ rfl)
  · intro S S' ws ws' haccount mt ms h h'
    have hws := (hnames hk S ws mt ms h).2
    have hws' := (hnames hk S' ws' mt ms h').2
    exact haccount (hws.symm.trans hws')

/-- A request for the tasks of one unit. -/
def loadUnit (unit : String) : Json := .obj [("ms", .obj [("ai", .str unit)])]

/-- Two accounts load the tasks of a unit with one and the same request. -/
theorem loadTasks_crosses_accounts : accountOf (ofAccount "a") ≠ accountOf (ofAccount "b") ∧
    (∀ account, handle Text.codec (connected "") .loadTasks (loadUnit "u") (ofAccount account) =
      .ok (.request "9001" (.obj [("unitId", .str "u")]))) ∧
    ¬ NamesAccount Text.codec .loadTasks (loadUnit "u") ∧
    ¬ Separates Text.codec .loadTasks (loadUnit "u") := by
  have haccount : accountOf (ofAccount "a") ≠ accountOf (ofAccount "b") := by
    simp [accountOf, ofAccount]
  have hrequest (account : String) :
      handle Text.codec (connected "") .loadTasks (loadUnit "u") (ofAccount account) =
        .ok (.request "9001" (.obj [("unitId", .str "u")])) := rfl
  refine ⟨haccount, hrequest, fun h => ?_, fun h => ?_⟩
  · have hfield := (h _ _ _ _ (hrequest "a")).2
    exact absurd hfield (by decide)
  · exact h _ _ _ _ haccount _ _ (hrequest "a") (hrequest "b")

end

end StorageCall

end DroneEngage
