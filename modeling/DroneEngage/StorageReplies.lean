import DroneEngage.StorageCommands
import DroneEngage.Js.Action
import Mathlib.Data.List.Perm.Subperm

/-! What the client is told when the storage server has answered a task, mission or news command.

    The promise of a request resolves with the envelope of the answer, an object, or is rejected. The
    `then` callback of a handler sends the success replies, its `catch` callback the error reply; the
    second also runs when the first one throws. Both write their reply into the frame of the command.
    `send` does not throw on a socket that has been open. -/

namespace DroneEngage
open Js

namespace StorageCall

/-- How the promise of a request is settled. -/
inductive Settlement where
  | resolved (envelope : List (String × Json))
  | rejected

/-- Which callback sends a reply. -/
inductive ReplyKind where
  | success
  | error
  deriving DecidableEq

/-- The frame of the command, and the replies that were sent. -/
structure Replying where
  jmsg : Json
  sent : List (ReplyKind × Json) := []

/-! ### Writing a reply -/

def write (k : String) (x : Val) : Action Replying Unit :=
  Action.modify fun s => { s with jmsg := s.jmsg.setField k x }

/-- `p_ws.send(JSON.stringify(v_jmsg))` -/
def say (kind : ReplyKind) : Action Replying Unit :=
  Action.modify fun s => { s with sent := s.sent ++ [(kind, s.jmsg)] }

/-- The fields that lead a frame back to the client. -/
def address (routing : String) (ws : Socket) : Action Replying Unit := do
  write Const.routing (some (.str routing))
  write Const.targetID ws.name
  write Const.wsSenderID (some (.str Const.senderCommServer))

/-- `fn_sendReply`, and the same assignments in the task and mission handlers. -/
def sendReply (kind : ReplyKind) (routing mt : String) (ms : Val) (ws : Socket) :
    Action Replying Unit := do
  address routing ws
  write Const.messageID (some (.num mt))
  write Const.payload ms
  say kind

/-! ### Array-likes -/

/-- `i < tasks.length` -/
def belowLength (i : ℕ) : Json → Except JsError Bool
  | .str s => .ok (decide (i < (s.toList.flatMap Text.units).length))
  | .arr items => .ok (decide (i < items.length))
  | tasks => natLt i (tasks.field "length")

/-- `tasks[i].k`. A code unit of a text has none of the fields that are read. -/
def taskField (k : String) (i : ℕ) : Json → Except JsError Val
  | .str _ => .ok none
  | .arr items => readProp k items[i]?
  | tasks => readProp k (tasks.field i.repr)

/-- The index at which a loop over the value ends at the latest. -/
def loopEnd : Json → ℕ
  | .str s => (s.toList.flatMap Text.units).length
  | .arr items => items.length
  | .obj fields => fields.length
  | _ => 0

/-! ### The `then` callbacks -/

/-- `if (p_response.success !== true) return;` -/
def whenSucceeded (envelope : List (String × Json)) (m : Action Replying Unit) :
    Action Replying Unit :=
  if envelope.lookup "success" = some (.bool true) then m else pure ()

/-- The reply for one loaded task. -/
def sendTask (mms : Val) (ws : Socket) (tasks : Json) (i : ℕ) : Action Replying Unit := do
  address Const.routingIndividual ws
  write "sid" (← Action.ofExcept (taskField "taskId" i tasks))
  write Const.payload (← Action.ofExcept (taskField "data" i tasks))
  let messageType ← Action.ofExcept (taskField "messageType" i tasks)
  write Const.messageID (← Action.ofExcept (if isNullish messageType
    then readProp "messageType" mms else .ok messageType))
  say .success

/-- The loop of `fn_handleLoadTasks`, for a number of rounds. -/
def sendTasks (mms : Val) (ws : Socket) (tasks : Json) : ℕ → ℕ → Action Replying Unit
  | 0, _ => pure ()
  | n + 1, i => do
    if ← Action.ofExcept (belowLength i tasks) then do
      sendTask mms ws tasks i
      sendTasks mms ws tasks n (i + 1)

/-- of `fn_handleLoadTasks` -/
def loadTasksDone (mms : Val) (ws : Socket) (envelope : List (String × Json)) :
    Action Replying Unit :=
  whenSucceeded envelope do
    if isNullish (envelope.lookup "ms") then return
    match ← Action.ofExcept (readProp "tasks" (envelope.lookup "ms")) with
    | none | some .null => return
    | some tasks => sendTasks mms ws tasks (loopEnd tasks + 1) 0

/-- A handler that answers `Done`. -/
def confirm (routing mt : String) (ws : Socket) (envelope : List (String × Json)) :
    Action Replying Unit :=
  whenSucceeded envelope (sendReply .success routing mt (some (.str "Done")) ws)

/-- of `fn_handleSaveTasks` -/
def saveTasksDone : Socket → List (String × Json) → Action Replying Unit :=
  confirm Const.routingIndividual "9002"

/-- of `fn_handleDeleteTasks` -/
def deleteTasksDone : Socket → List (String × Json) → Action Replying Unit :=
  confirm Const.routingIndividual "9003"

/-- of `fn_handleDisableTasks` -/
def disableTasksDone : Socket → List (String × Json) → Action Replying Unit :=
  confirm Const.routingIndividual "9004"

/-- of `fn_handleSaveMission` -/
def saveMissionDone : Socket → List (String × Json) → Action Replying Unit :=
  confirm Const.routingSystem "9011"

/-- A handler that passes the body of the answer on. -/
def passOn (mt : String) (ws : Socket) (envelope : List (String × Json)) : Action Replying Unit :=
  whenSucceeded envelope do
    if isNullish (envelope.lookup "ms") then return
    sendReply .success Const.routingSystem mt (envelope.lookup "ms") ws

/-- of `fn_handleLoadMission` -/
def loadMissionDone : Socket → List (String × Json) → Action Replying Unit := passOn "9010"

/-- of `fn_handleLoadNews` -/
def loadNewsDone : Socket → List (String × Json) → Action Replying Unit := passOn "9015"

/-- of `fn_handleDeleteMission`, which does not look at the answer -/
def deleteMissionDone (ws : Socket) : Action Replying Unit :=
  sendReply .success Const.routingSystem "9012" (some (.str "Done")) ws

/-- of `fn_handleSaveNews` -/
def saveNewsDone (ws : Socket) (envelope : List (String × Json)) : Action Replying Unit :=
  whenSucceeded envelope do
    let newsId ← Action.ofExcept (readProp "newsId" (envelope.lookup "ms"))
    sendReply .success Const.routingSystem "9016"
      (some (literal [("s", some (.str "OK:save")), ("newsId", newsId)])) ws

/-- of `fn_handleDeleteNews`, which does not look at the answer -/
def deleteNewsDone (mms : Val) (ws : Socket) : Action Replying Unit := do
  let newsId ← Action.ofExcept (readProp "newsId" mms)
  sendReply .success Const.routingSystem "9017"
    (some (literal [("s", some (.str "OK:delete")), ("newsId", newsId)])) ws

/-- The `then` callback of a command; `mms` is the body of its frame. -/
def done (mms : Val) (ws : Socket) (envelope : List (String × Json)) :
    Command → Action Replying Unit
  | .loadTasks => loadTasksDone mms ws envelope
  | .saveTasks => saveTasksDone ws envelope
  | .deleteTasks => deleteTasksDone ws envelope
  | .disableTasks => disableTasksDone ws envelope
  | .loadMission => loadMissionDone ws envelope
  | .saveMission => saveMissionDone ws envelope
  | .deleteMission => deleteMissionDone ws
  | .loadNews => loadNewsDone ws envelope
  | .saveNews => saveNewsDone ws envelope
  | .deleteNews => deleteNewsDone mms ws

/-! ### The `catch` callbacks -/

/-- The routing, the type and the text of the error reply of a command. -/
def errorReply : Command → String × String × String
  | .loadTasks =>
    (Const.routingIndividual, "9001", "Error: Failed to load tasks from storage server")
  | .saveTasks => (Const.routingIndividual, "9002", "Error: Failed to save tasks to storage server")
  | .deleteTasks =>
    (Const.routingIndividual, "9003", "Error: Failed to delete tasks from storage server")
  | .disableTasks =>
    (Const.routingIndividual, "9004", "Error: Failed to disable tasks in storage server")
  | .loadMission => (Const.routingSystem, "9010", "Error: Failed to load mission from storage server")
  | .saveMission => (Const.routingSystem, "9011", "Error: Failed to save mission to storage server")
  | .deleteMission =>
    (Const.routingSystem, "9012", "Error: Failed to delete mission from storage server")
  | .loadNews => (Const.routingSystem, "9015", "Error: Failed to load news from storage server")
  | .saveNews => (Const.routingSystem, "9016", "Error: Failed to save news to storage server")
  | .deleteNews => (Const.routingSystem, "9017", "Error: Failed to delete news from storage server")

/-- The `catch` callback of a command. -/
def failed (k : Command) (ws : Socket) : Action Replying Unit :=
  sendReply .error (errorReply k).1 (errorReply k).2.1 (some (.str (errorReply k).2.2)) ws

/-- The two callbacks, when the promise is settled. -/
def settle (k : Command) (mms : Val) (ws : Socket) : Settlement → Action Replying Unit
  | .resolved envelope => Action.attempt (done mms ws envelope k) fun _ => failed k ws
  | .rejected => failed k ws

/-- The replies to a command. -/
def replies (J : JsonCodec) (k : Command) (jmsg : Json) (ws : Socket) (o : Settlement) :
    List (ReplyKind × Json) :=
  ((settle k ((parseMessageBody J jmsg).toOption.getD none) ws o).final { jmsg }).sent

/-! ### What was sent -/

/-- Did the request resolve with `success === true`? -/
def Settlement.succeeded : Settlement → Bool
  | .resolved envelope => envelope.lookup "success" = some (.bool true)
  | .rejected => false

/-- A success reply was sent exactly when the request succeeded, and otherwise one error reply, which
    names the type of the command. -/
def Truthful (mt : String) (o : Settlement) (sent : List (ReplyKind × Json)) : Prop :=
  ((∃ m, (.success, m) ∈ sent) ↔ o.succeeded = true) ∧
    (o.succeeded = false → ∃ m, sent.filter (fun x => x.1 = .error) = [(.error, m)] ∧
      m.field Const.messageID = some (.num mt))

/-- The envelope has what a reply of the command is made of; loaded tasks have a first one. -/
def Carries (envelope : List (String × Json)) : Command → Prop
  | .loadTasks => ∃ tasks, readProp "tasks" (envelope.lookup "ms") = .ok (some tasks) ∧
    belowLength 0 tasks = .ok true ∧ ∃ taskId, taskField "taskId" 0 tasks = .ok taskId
  | .loadMission | .loadNews | .saveNews => isNullish (envelope.lookup "ms") = false
  | _ => True

/-- The settlements after which the client is told the truth. -/
def Conveys (k : Command) : Settlement → Prop
  | .resolved envelope => envelope.lookup "success" = some (.bool true) ∧ Carries envelope k
  | .rejected => True

/-! ### One reply -/

section

variable {J : JsonCodec} {S : Storage} {k : Command} {jmsg : Json} {mms : Val} {ws : Socket}
  {tasks : Json} {s : Replying} {envelope : List (String × Json)} {routing mt : String} {ms : Val}
  {ms' : Json}

/-- The frame of a command on its way back. -/
def addressed (routing : String) (ws : Socket) (jmsg : Json) : Json :=
  jmsg.setField Const.routing (some (.str routing))
    |>.setField Const.targetID ws.name
    |>.setField Const.wsSenderID (some (.str Const.senderCommServer))

/-- The frame of a command as a reply. -/
def replyFrame (routing mt : String) (ms : Val) (ws : Socket) (jmsg : Json) : Json :=
  ((addressed routing ws jmsg).setField Const.messageID (some (.num mt))).setField Const.payload ms

/-- The frame of a command as the reply for one task. -/
def taskFrame (taskId data mt : Val) (ws : Socket) (jmsg : Json) : Json :=
  (((addressed Const.routingIndividual ws jmsg).setField "sid" taskId).setField Const.payload
    data).setField Const.messageID mt

theorem run_sendReply (kind : ReplyKind) : sendReply kind routing mt ms ws s =
    (.ok (), ⟨replyFrame routing mt ms ws s.jmsg,
      s.sent ++ [(kind, replyFrame routing mt ms ws s.jmsg)]⟩) := rfl

/-- A write to an object leaves an object. -/
theorem setField_obj (x : Val) (l : String) : ∀ {v : Json}, (∃ fields, v = .obj fields) →
    ∃ fields, v.setField l x = .obj fields := by
  rintro v ⟨fields, rfl⟩
  cases x with
  | none => exact ⟨_, rfl⟩
  | some x =>
    rw [Json.setField]
    split
    · exact ⟨_, rfl⟩
    · exact ⟨_, rfl⟩

theorem messageID_replyFrame (h : ∃ fields, jmsg = .obj fields) :
    (replyFrame routing mt ms ws jmsg).field Const.messageID = some (.num mt) := by
  obtain ⟨fields, hfields⟩ := setField_obj (some (.str Const.senderCommServer)) Const.wsSenderID
    (setField_obj ws.name Const.targetID (setField_obj (some (.str routing)) Const.routing h))
  change addressed routing ws jmsg = .obj fields at hfields
  rw [replyFrame, Json.field_setField_ne _ _ (by decide), Json.field_setField_self hfields]

theorem whenSucceeded_of_eq {m : Action Replying Unit}
    (h : envelope.lookup "success" = some (.bool true)) : whenSucceeded envelope m = m := if_pos h

theorem whenSucceeded_of_ne {m : Action Replying Unit}
    (h : envelope.lookup "success" ≠ some (.bool true)) : whenSucceeded envelope m = pure () :=
  if_neg h

/-- The `catch` callback does not run when the other one ends well. -/
theorem settle_of_ok {s' : Replying} (h : done mms ws envelope k s = (.ok (), s')) :
    (settle k mms ws (.resolved envelope)).final s = s' := by
  rw [settle, Action.final, Action.run_attempt, h]

theorem settle_of_error {x : JsError} {s' : Replying}
    (h : done mms ws envelope k s = (.error x, s')) :
    (settle k mms ws (.resolved envelope)).final s = (failed k ws).final s' := by
  rw [settle, Action.final, Action.run_attempt, h]
  rfl

theorem sent_failed : ∃ m, ((failed k ws).final s).sent = s.sent ++ [(.error, m)] :=
  ⟨_, congrArg (fun r => r.2.sent) (run_sendReply .error)⟩

/-! ### The tasks that are loaded -/

/-- Nothing that was sent is taken back. -/
def Grows (s s' : Replying) : Prop := s.sent <+: s'.sent

instance : IsPreorder Replying Grows where
  refl := fun _ => List.prefix_refl _
  trans := fun _ _ _ => List.IsPrefix.trans

theorem moves_write (l : String) (x : Val) : Action.Moves Grows (write l x) := fun s =>
  List.prefix_refl s.sent

theorem moves_say (kind : ReplyKind) : Action.Moves Grows (say kind) := fun s =>
  List.prefix_append s.sent _

theorem moves_address (routing : String) (ws : Socket) :
    Action.Moves Grows (address routing ws) :=
  Action.moves_bind (moves_write _ _) fun _ => Action.moves_bind (moves_write _ _) fun _ =>
    moves_write _ _

theorem moves_sendTask (i : ℕ) : Action.Moves Grows (sendTask mms ws tasks i) := by
  refine Action.moves_bind (moves_address _ _) fun _ => ?_
  refine Action.moves_bind (Action.moves_ofExcept _) fun _ =>
    Action.moves_bind (moves_write _ _) fun _ => ?_
  refine Action.moves_bind (Action.moves_ofExcept _) fun _ =>
    Action.moves_bind (moves_write _ _) fun _ => ?_
  refine Action.moves_bind (Action.moves_ofExcept _) fun _ =>
    Action.moves_bind (Action.moves_ofExcept _) fun _ => ?_
  exact Action.moves_bind (moves_write _ _) fun _ => moves_say _

theorem moves_sendTasks (n i : ℕ) : Action.Moves Grows (sendTasks mms ws tasks n i) := by
  induction n generalizing i with
  | zero => exact Action.moves_pure ()
  | succ n ih =>
    refine Action.moves_bind (Action.moves_ofExcept _) fun below => ?_
    cases below with
    | false => exact Action.moves_pure ()
    | true => exact Action.moves_bind (moves_sendTask i) fun _ => ih (i + 1)

/-- Whether a task can be read does not depend on the field. -/
theorem taskField_ok {l : String} {i : ℕ} {v : Val} (l' : String)
    (h : taskField l i tasks = .ok v) :
    ∃ v', taskField l' i tasks = .ok v' := by
  have hread : ∀ {x : Val}, readProp l x = .ok v → ∃ v', readProp l' x = .ok v' := fun hx =>
    ⟨_, readProp_of_some (readProp_eq_ok hx).1⟩
  cases tasks with
  | str text => exact ⟨none, rfl⟩
  | arr items => exact hread h
  | obj fields => exact hread h
  | null | bool | num => exact absurd h (by simp [taskField, readProp, Json.field])

theorem run_write_bind (l : String) (x : Val) (f : Unit → Action Replying Unit) :
    (write l x >>= f) s = f () ⟨s.jmsg.setField l x, s.sent⟩ := rfl

theorem run_address : address routing ws s = (.ok (), ⟨addressed routing ws s.jmsg, s.sent⟩) := rfl

theorem run_sendTask (hmms : isNullish mms = false) {i : ℕ} {taskId : Val}
    (h : taskField "taskId" i tasks = .ok taskId) : ∃ m, sendTask mms ws tasks i s =
      (.ok (), ⟨m, s.sent ++ [(.success, m)]⟩) := by
  obtain ⟨data, hdata⟩ := taskField_ok "data" h
  obtain ⟨messageType, htype⟩ := taskField_ok "messageType" h
  have hmt : ∃ mt, (if isNullish messageType then readProp "messageType" mms else .ok messageType) =
      .ok mt := by
    split
    · exact ⟨_, readProp_of_some hmms⟩
    · exact ⟨messageType, rfl⟩
  obtain ⟨mt, hmt⟩ := hmt
  refine ⟨taskFrame taskId data mt ws s.jmsg, ?_⟩
  rw [sendTask, Action.run_bind_of_ok run_address, h, Action.run_bind_ok, run_write_bind, hdata,
    Action.run_bind_ok, run_write_bind, htype, Action.run_bind_ok, hmt, Action.run_bind_ok,
    run_write_bind]
  rfl

theorem run_sendTask_of_error {i : ℕ} {x : JsError} (h : taskField "taskId" i tasks = .error x) :
    sendTask mms ws tasks i s =
      (.error x, ⟨addressed Const.routingIndividual ws s.jmsg, s.sent⟩) := by
  rw [sendTask, Action.run_bind_of_ok run_address, h, Action.run_bind_error]

/-! ### The loop ends -/

/-- The loop does not go on after the round of an index: it is not below the length, or its task
    cannot be read. -/
def Stops (tasks : Json) (i : ℕ) : Prop :=
  belowLength i tasks ≠ .ok true ∨ ∃ x, taskField "taskId" i tasks = .error x

theorem repr_injective : Function.Injective Nat.repr := by
  intro i j h
  have hdigits : Nat.toDigits 10 i = Nat.toDigits 10 j := by
    rw [← Nat.toList_repr, ← Nat.toList_repr, h]
  calc i = Nat.ofDigitChars 10 (Nat.toDigits 10 i) 0 := Nat.ofDigitChars_ten_toDigits.symm
    _ = j := by rw [hdigits, Nat.ofDigitChars_ten_toDigits]

/-- An object with `n` fields lacks one of the indices `0..n`. -/
theorem exists_lookup_repr (fields : List (String × Json)) :
    ∃ i ≤ fields.length, fields.lookup i.repr = none := by
  by_contra hall
  have hkeys : (List.range (fields.length + 1)).map Nat.repr ⊆ fields.map Prod.fst := by
    intro key hkey
    obtain ⟨i, hi, rfl⟩ := List.mem_map.mp hkey
    have hle : i ≤ fields.length := Nat.lt_succ_iff.mp (List.mem_range.mp hi)
    by_contra hmem
    refine hall ⟨i, hle, List.lookup_eq_none_iff.mpr fun field hfield => ?_⟩
    rw [bne_iff_ne]
    exact fun heq => hmem (List.mem_map.mpr ⟨field, hfield, heq.symm⟩)
  have hnodup : ((List.range (fields.length + 1)).map Nat.repr).Nodup :=
    List.nodup_range.map repr_injective
  have hlength := (hnodup.subperm hkeys).length_le
  rw [List.length_map, List.length_map, List.length_range] at hlength
  omega

theorem exists_stops (tasks : Json) : ∃ i ≤ loopEnd tasks, Stops tasks i := by
  cases tasks with
  | null => exact ⟨0, Nat.le_refl 0, .inl (by decide)⟩
  | bool b => exact ⟨0, Nat.le_refl 0, .inl (by cases b <;> decide)⟩
  | num text => exact ⟨0, Nat.le_refl 0, .inl fun h => absurd (Except.ok.inj h) (by decide)⟩
  | str text => exact ⟨_, Nat.le_refl _, .inl fun h =>
      absurd (of_decide_eq_true (Except.ok.inj h)) (Nat.lt_irrefl _)⟩
  | arr items => exact ⟨_, Nat.le_refl _, .inl fun h =>
      absurd (of_decide_eq_true (Except.ok.inj h)) (Nat.lt_irrefl _)⟩
  | obj fields =>
    obtain ⟨i, hle, hnone⟩ := exists_lookup_repr fields
    refine ⟨i, hle, .inr ⟨.typeError, ?_⟩⟩
    exact congrArg (readProp "taskId") hnone

/-- A round after which the loop does not go on does not depend on the rounds that are left. -/
theorem sendTasks_of_stops {i : ℕ} (h : Stops tasks i) (n n' : ℕ) :
    sendTasks mms ws tasks (n + 1) i = sendTasks mms ws tasks (n' + 1) i := by
  funext s
  rw [sendTasks, sendTasks]
  cases hbelow : belowLength i tasks with
  | error x => rfl
  | ok below =>
    rw [Action.run_bind_ok, Action.run_bind_ok]
    cases below with
    | false => rfl
    | true =>
      obtain ⟨x, hx⟩ := h.resolve_left fun hne => hne hbelow
      rw [if_pos rfl, if_pos rfl, Action.run_bind_of_error (run_sendTask_of_error hx),
        Action.run_bind_of_error (run_sendTask_of_error hx)]

/-- From the round of an index on, the rounds up to the last one are all there are. -/
theorem sendTasks_more (d m : ℕ) : ∀ {i : ℕ}, Stops tasks (i + d) →
    sendTasks mms ws tasks (d + 1 + m) i = sendTasks mms ws tasks (d + 1) i := by
  induction d with
  | zero =>
    intro i h
    rw [Nat.add_right_comm]
    exact sendTasks_of_stops h (0 + m) 0
  | succ d ih =>
    intro i h
    have hrest : sendTasks mms ws tasks (d + 1 + m) (i + 1) =
        sendTasks mms ws tasks (d + 1) (i + 1) := ih (by rwa [Nat.add_assoc, Nat.add_comm 1 d])
    rw [Nat.add_right_comm, sendTasks, sendTasks, hrest]

/-- The loop has as many rounds as it needs. -/
theorem sendTasks_enough (m : ℕ) :
    sendTasks mms ws tasks (loopEnd tasks + 1 + m) 0 =
      sendTasks mms ws tasks (loopEnd tasks + 1) 0 := by
  obtain ⟨i, hle, hstops⟩ := exists_stops tasks
  have hrounds (l : ℕ) : sendTasks mms ws tasks (i + 1 + l) 0 = sendTasks mms ws tasks (i + 1) 0 :=
    sendTasks_more i l (by rwa [Nat.zero_add])
  calc sendTasks mms ws tasks (loopEnd tasks + 1 + m) 0
      = sendTasks mms ws tasks (i + 1 + (loopEnd tasks - i + m)) 0 := by congr 1; omega
    _ = sendTasks mms ws tasks (i + 1 + (loopEnd tasks - i)) 0 := by rw [hrounds, hrounds]
    _ = sendTasks mms ws tasks (loopEnd tasks + 1) 0 := by congr 1; omega

/-! ### The first task -/

/-- A success reply is sent exactly when there is a first task that can be read. -/
theorem sendTasks_first (hmms : isNullish mms = false) (n : ℕ) :
    (∃ m, (ReplyKind.success, m) ∈ ((sendTasks mms ws tasks (n + 1) 0).final ⟨jmsg, []⟩).sent) ↔
      belowLength 0 tasks = .ok true ∧ ∃ taskId, taskField "taskId" 0 tasks = .ok taskId := by
  have hnothing : ∀ {s : Replying}, s.sent = [] → ¬ ∃ m, (ReplyKind.success, m) ∈ s.sent := by
    rintro s hs ⟨m, hm⟩
    rw [hs] at hm
    exact absurd hm (by simp)
  rw [sendTasks]
  cases hbelow : belowLength 0 tasks with
  | error x => exact ⟨fun h => absurd h (hnothing rfl), fun h => absurd h.1 (by simp)⟩
  | ok below =>
    rw [Action.final_ok_bind]
    cases below with
    | false => exact ⟨fun h => absurd h (hnothing rfl), fun h => absurd h.1 (by simp)⟩
    | true =>
      rw [if_pos rfl]
      cases htask : taskField "taskId" 0 tasks with
      | error x =>
        rw [Action.final, Action.run_bind_of_error (run_sendTask_of_error htask)]
        refine ⟨fun h => absurd h (hnothing rfl), ?_⟩
        rintro ⟨-, taskId, h⟩
        exact absurd h (by simp)
      | ok taskId =>
        obtain ⟨m, hrun⟩ : ∃ m, sendTask mms ws tasks 0 ⟨jmsg, []⟩ =
            (.ok (), ⟨m, [(.success, m)]⟩) := run_sendTask hmms htask
        rw [Action.final_bind_of_ok hrun]
        have hgrows : Grows ⟨m, [(.success, m)]⟩
            ((sendTasks mms ws tasks n (0 + 1)).final ⟨m, [(.success, m)]⟩) :=
          moves_sendTasks n (0 + 1) _
        exact ⟨fun _ => ⟨rfl, taskId, rfl⟩, fun _ => ⟨m, hgrows.subset (by simp)⟩⟩

/-! ### Every command -/

theorem namedUnit_body {l : String} {row : Json × Val} (h : namedUnit J jmsg l = .ok (some row)) :
    ∃ mms, parseMessageBody J jmsg = .ok mms ∧ isNullish mms = false := by
  obtain ⟨mms, hmms, hrow⟩ := bind_eq_ok.mp h
  obtain ⟨unit, hunit, -⟩ := bind_eq_ok.mp hrow
  exact ⟨mms, hmms, (readProp_eq_ok hunit).1⟩

theorem withAccount_type {mt' mt'' : String} {ms'' : Json} {call : StorageCall}
    (h : withAccount S jmsg ws mt' call = .ok (.request mt ms')) (hcall : call = .request mt'' ms'') :
    mt = mt'' := by
  obtain ⟨-, hrequest⟩ := withAccount_request h
  rw [hcall, StorageCall.request.injEq] at hrequest
  exact hrequest.1.symm

theorem handleTaskIds_type {mt' : String}
    (h : handleTaskIds J S jmsg ws mt' = .ok (.request mt ms')) : mt = mt' := by
  obtain ⟨row, -, h⟩ := bind_eq_ok.mp h
  cases row with
  | none => cases h
  | some row =>
    dsimp only at h
    split at h
    · obtain ⟨id, -, h⟩ := bind_eq_ok.mp h
      split at h
      · cases h
      · cases h
      · cases h; rfl
    · cases h

/-- A command whose request is sent has a body that can be read, if its handler reads it, and the
    request has the type its error reply names. -/
theorem request_body (h : handle J S k jmsg ws = .ok (.request mt ms')) :
    mt = (errorReply k).2.1 ∧ (k ≠ .loadNews →
      ∃ mms, parseMessageBody J jmsg = .ok mms ∧ isNullish mms = false) := by
  cases k with
  | loadTasks =>
    obtain ⟨row, hrow, h⟩ := bind_eq_ok.mp h
    cases row with
    | none => cases h
    | some row =>
      refine ⟨?_, fun _ => namedUnit_body hrow⟩
      dsimp only at h
      split at h
      · cases h; rfl
      · cases h
  | saveTasks =>
    obtain ⟨row, hrow, h⟩ := bind_eq_ok.mp h
    cases row with
    | none => cases h
    | some row =>
      refine ⟨?_, fun _ => namedUnit_body hrow⟩
      dsimp only at h
      split at h
      · obtain ⟨task, -, h⟩ := bind_eq_ok.mp h
        cases h; rfl
      · cases h
  | deleteTasks =>
    obtain ⟨row, hrow, -⟩ := handleTaskIds_request h
    exact ⟨handleTaskIds_type h, fun _ => namedUnit_body hrow⟩
  | disableTasks =>
    obtain ⟨row, hrow, -⟩ := handleTaskIds_request h
    exact ⟨handleTaskIds_type h, fun _ => namedUnit_body hrow⟩
  | loadMission =>
    obtain ⟨row, hrow, h⟩ := bind_eq_ok.mp h
    cases row with
    | none => cases h
    | some row => exact ⟨withAccount_type h rfl, fun _ => namedUnit_body hrow⟩
  | saveMission =>
    obtain ⟨row, hrow, h⟩ := bind_eq_ok.mp h
    cases row with
    | none => cases h
    | some row => exact ⟨withAccount_type h rfl, fun _ => namedUnit_body hrow⟩
  | deleteMission =>
    obtain ⟨mms, hmms, h⟩ := bind_eq_ok.mp h
    obtain ⟨missionId, hid, h⟩ := bind_eq_ok.mp h
    split at h
    · cases h
    · exact ⟨withAccount_type h rfl, fun _ => ⟨mms, hmms, (readProp_eq_ok hid).1⟩⟩
  | loadNews => exact ⟨withAccount_type h rfl, fun hk => absurd rfl hk⟩
  | saveNews =>
    obtain ⟨mms, hmms, h⟩ := bind_eq_ok.mp h
    obtain ⟨body, hbody, h⟩ := bind_eq_ok.mp h
    split at h
    · cases h
    · obtain ⟨empty, -, h⟩ := bind_eq_ok.mp h
      split at h
      · cases h
      · exact ⟨withAccount_type h rfl, fun _ => ⟨mms, hmms, (readProp_eq_ok hbody).1⟩⟩
  | deleteNews =>
    obtain ⟨mms, hmms, h⟩ := bind_eq_ok.mp h
    obtain ⟨newsId, hid, h⟩ := bind_eq_ok.mp h
    split at h
    · cases h
    · exact ⟨withAccount_type h rfl, fun _ => ⟨mms, hmms, (readProp_eq_ok hid).1⟩⟩

/-- The `catch` callback adds no success reply. -/
theorem success_settle :
    (∃ m, (ReplyKind.success, m) ∈ ((settle k mms ws (.resolved envelope)).final s).sent) ↔
      ∃ m, (ReplyKind.success, m) ∈ ((done mms ws envelope k).final s).sent := by
  rcases hrun : done mms ws envelope k s with ⟨x | u, s'⟩
  · obtain ⟨m', hsent⟩ : ∃ m, ((failed k ws).final s').sent = s'.sent ++ [(.error, m)] :=
      sent_failed
    rw [settle_of_error hrun, hsent, Action.final, hrun]
    simp
  · rw [settle_of_ok hrun, Action.final, hrun]

/-- The success replies of a request for tasks that succeeded. -/
theorem loadTasks_succeeds (hmms : isNullish mms = false)
    (hsuccess : envelope.lookup "success" = some (.bool true)) :
    (∃ m, (ReplyKind.success, m) ∈ ((loadTasksDone mms ws envelope).final ⟨jmsg, []⟩).sent) ↔
      Carries envelope .loadTasks := by
  have hnothing : ¬ ∃ m, (ReplyKind.success, m) ∈ ([] : List (ReplyKind × Json)) := by simp
  rw [loadTasksDone, whenSucceeded_of_eq hsuccess, Carries]
  cases hread : readProp "tasks" (envelope.lookup "ms") with
  | error x =>
    refine iff_of_false ?_ fun ⟨tasks, htasks, _⟩ => absurd htasks (by simp)
    split
    · exact hnothing
    · exact hnothing
  | ok tasks =>
    rw [(readProp_eq_ok hread).1, if_neg Bool.false_ne_true, Action.final_ok_bind]
    have hof : ∀ t, (∃ tasks', (.ok (some t) : Except JsError Val) = .ok (some tasks') ∧
        belowLength 0 tasks' = .ok true ∧ ∃ taskId, taskField "taskId" 0 tasks' = .ok taskId) ↔
        belowLength 0 t = .ok true ∧ ∃ taskId, taskField "taskId" 0 t = .ok taskId := by
      intro t
      constructor
      · rintro ⟨tasks', heq, hfirst⟩
        obtain rfl := Option.some.inj (Except.ok.inj heq)
        exact hfirst
      · exact fun hfirst => ⟨t, rfl, hfirst⟩
    match tasks with
    | none => exact iff_of_false hnothing fun ⟨tasks', h, _⟩ => absurd h (by simp)
    | some .null =>
      refine iff_of_false hnothing fun ⟨tasks', h, hbelow, _⟩ => ?_
      obtain rfl := Option.some.inj (Except.ok.inj h)
      exact absurd hbelow (by decide)
    | some (.bool _) | some (.num _) | some (.str _) | some (.arr _) | some (.obj _) =>
      exact (sendTasks_first hmms _).trans (hof _).symm

/-- The success replies of a request that succeeded. -/
theorem succeeds_iff (hmms : k ≠ .loadNews → isNullish mms = false)
    (hsuccess : envelope.lookup "success" = some (.bool true)) :
    (∃ m, (ReplyKind.success, m) ∈ ((done mms ws envelope k).final ⟨jmsg, []⟩).sent) ↔
      Carries envelope k := by
  have hnothing : ¬ ∃ m, (ReplyKind.success, m) ∈ ([] : List (ReplyKind × Json)) := by simp
  have hsent : ∀ {routing mt : String} {ms : Val}, ∃ m, (ReplyKind.success, m) ∈
      ((sendReply .success routing mt ms ws).final ⟨jmsg, []⟩).sent := fun {_ _ _} =>
    ⟨_, List.mem_singleton.mpr rfl⟩
  have hconfirm : ∀ {routing mt : String}, ∃ m, (ReplyKind.success, m) ∈
      ((confirm routing mt ws envelope).final ⟨jmsg, []⟩).sent := by
    intro routing mt
    rw [confirm, whenSucceeded_of_eq hsuccess]
    exact hsent
  have hpass : ∀ {mt : String}, (∃ m, (ReplyKind.success, m) ∈
      ((passOn mt ws envelope).final ⟨jmsg, []⟩).sent) ↔
        isNullish (envelope.lookup "ms") = false := by
    intro mt
    rw [passOn, whenSucceeded_of_eq hsuccess]
    cases hnull : isNullish (envelope.lookup "ms") with
    | true => exact iff_of_false hnothing (by simp)
    | false => exact iff_of_true hsent rfl
  cases k with
  | loadTasks => exact loadTasks_succeeds (hmms (by decide)) hsuccess
  | saveTasks => exact iff_of_true hconfirm trivial
  | deleteTasks => exact iff_of_true hconfirm trivial
  | disableTasks => exact iff_of_true hconfirm trivial
  | saveMission => exact iff_of_true hconfirm trivial
  | loadMission => exact hpass
  | loadNews => exact hpass
  | deleteMission => exact iff_of_true hsent trivial
  | deleteNews =>
    rw [done, deleteNewsDone, readProp_of_some (hmms (by decide)), Action.final_ok_bind]
    exact iff_of_true hsent trivial
  | saveNews =>
    rw [done, saveNewsDone, whenSucceeded_of_eq hsuccess, Carries]
    cases hread : readProp "newsId" (envelope.lookup "ms") with
    | error x =>
      refine iff_of_false hnothing fun hnull => ?_
      rw [readProp_of_some hnull] at hread
      exact absurd hread (by simp)
    | ok newsId =>
      rw [Action.final_ok_bind]
      exact iff_of_true hsent (readProp_eq_ok hread).1

/-- The answer of a request that did not succeed is passed over in silence, or taken for a success. -/
theorem unsuccessful_untruthful (hmms : k ≠ .loadNews → isNullish mms = false)
    (hsuccess : envelope.lookup "success" ≠ some (.bool true)) :
    ¬ Truthful mt (.resolved envelope)
      ((settle k mms ws (.resolved envelope)).final ⟨jmsg, []⟩).sent := by
  have hno : (Settlement.resolved envelope).succeeded = false := by
    simp [Settlement.succeeded, hsuccess]
  have hquiet : done mms ws envelope k = pure () → ¬ Truthful mt (.resolved envelope)
      ((settle k mms ws (.resolved envelope)).final ⟨jmsg, []⟩).sent := by
    intro hdone htruth
    have hrun : done mms ws envelope k ⟨jmsg, []⟩ = (.ok (), ⟨jmsg, []⟩) := by rw [hdone]; rfl
    rw [settle_of_ok hrun] at htruth
    obtain ⟨m, hm, -⟩ := htruth.2 hno
    exact absurd hm (by simp)
  have hlie : (∃ m, (ReplyKind.success, m) ∈ ((done mms ws envelope k).final ⟨jmsg, []⟩).sent) →
      ¬ Truthful mt (.resolved envelope)
        ((settle k mms ws (.resolved envelope)).final ⟨jmsg, []⟩).sent := by
    intro hsent htruth
    rw [htruth.1.mp (success_settle.mpr hsent)] at hno
    exact absurd hno (by simp)
  cases k with
  | loadTasks => exact hquiet (whenSucceeded_of_ne hsuccess)
  | saveTasks => exact hquiet (whenSucceeded_of_ne hsuccess)
  | deleteTasks => exact hquiet (whenSucceeded_of_ne hsuccess)
  | disableTasks => exact hquiet (whenSucceeded_of_ne hsuccess)
  | loadMission => exact hquiet (whenSucceeded_of_ne hsuccess)
  | saveMission => exact hquiet (whenSucceeded_of_ne hsuccess)
  | loadNews => exact hquiet (whenSucceeded_of_ne hsuccess)
  | saveNews => exact hquiet (whenSucceeded_of_ne hsuccess)
  | deleteMission => exact hlie ⟨_, List.mem_singleton.mpr rfl⟩
  | deleteNews =>
    refine hlie ?_
    rw [done, deleteNewsDone, readProp_of_some (hmms (by decide)), Action.final_ok_bind]
    exact ⟨_, List.mem_singleton.mpr rfl⟩

/-- The client is told the truth about a forwarded command exactly when the request is rejected, or
    succeeds with what the reply is made of. -/
theorem replies_truthful_iff (J : JsonCodec) (S : Storage) (k : Command)
    (fields : List (String × Json)) (ws ws' : Socket) {mt : String} {ms : Json}
    (hrequest : handle J S k (.obj fields) ws = .ok (.request mt ms)) (o : Settlement) :
    Truthful mt o (replies J k (.obj fields) ws' o) ↔ Conveys k o := by
  obtain ⟨rfl, hbody⟩ := request_body hrequest
  have hmms : k ≠ .loadNews →
      isNullish ((parseMessageBody J (.obj fields)).toOption.getD none) = false := by
    intro hk
    obtain ⟨mms, hmms, hnull⟩ := hbody hk
    rw [hmms]
    exact hnull
  rw [replies]
  generalize (parseMessageBody J (.obj fields)).toOption.getD none = mms at hmms
  cases o with
  | rejected =>
    have hsent : ((settle k mms ws' .rejected).final ⟨.obj fields, []⟩).sent = [(.error, replyFrame
        (errorReply k).1 (errorReply k).2.1 (some (.str (errorReply k).2.2)) ws' (.obj fields))] := rfl
    rw [hsent]
    refine iff_of_true ⟨iff_of_false ?_ (by simp [Settlement.succeeded]), fun _ => ⟨_, rfl, ?_⟩⟩ trivial
    · rintro ⟨m, hm⟩
      exact absurd (List.mem_singleton.mp hm) (by simp)
    · exact messageID_replyFrame ⟨fields, rfl⟩
  | resolved envelope =>
    by_cases hsuccess : envelope.lookup "success" = some (.bool true)
    · have hyes : (Settlement.resolved envelope).succeeded = true := by
        simp [Settlement.succeeded, hsuccess]
      rw [Truthful, hyes, success_settle, succeeds_iff hmms hsuccess, Conveys]
      simp [hsuccess]
    · exact iff_of_false (unsuccessful_untruthful hmms hsuccess) fun h => hsuccess h.1

end

/-! ### A mission -/

/-- The fields of a command that names a mission. -/
def nameMission (missionId : String) : List (String × Json) :=
  [("ms", .obj [("missionId", .str missionId)])]

theorem handle_nameMission (missionId account : String) :
    handle Text.codec (connected "") .deleteMission (.obj (nameMission missionId))
        (ofAccount account) =
      .ok (deleteMission (some (.str missionId)) (some (.str account))) := rfl

/-- A request to delete a mission that is rejected, and one that succeeds. -/
theorem replies_truthful_deleteMission :
    Truthful "9012" .rejected (replies Text.codec .deleteMission (.obj (nameMission "m"))
        (ofAccount "a") .rejected) ∧
      Truthful "9012" (.resolved [("success", .bool true)])
        (replies Text.codec .deleteMission (.obj (nameMission "m")) (ofAccount "a")
          (.resolved [("success", .bool true)])) :=
  ⟨(replies_truthful_iff Text.codec (connected "") .deleteMission (nameMission "m") (ofAccount "a")
      (ofAccount "a") (handle_nameMission "m" "a") .rejected).mpr trivial,
    (replies_truthful_iff Text.codec (connected "") .deleteMission (nameMission "m") (ofAccount "a")
      (ofAccount "a") (handle_nameMission "m" "a") _).mpr ⟨rfl, trivial⟩⟩

/-- The storage server did not delete the mission, and the client is told `Done`; it did not save a
    task, and the client is told nothing. -/
theorem refusal_passes_for_done :
    handle Text.codec (connected "") .deleteMission (.obj (nameMission "m")) (ofAccount "a") =
        .ok (deleteMission (some (.str "m")) (some (.str "a"))) ∧
      (∃ m, replies Text.codec .deleteMission (.obj (nameMission "m")) (ofAccount "a")
        (.resolved [("success", .bool false)]) = [(.success, m)] ∧
        m.field Const.payload = some (.str "Done")) ∧
      ¬ Truthful "9012" (.resolved [("success", .bool false)])
        (replies Text.codec .deleteMission (.obj (nameMission "m")) (ofAccount "a")
          (.resolved [("success", .bool false)])) ∧
      (∃ ms, handle Text.codec (connected "") .saveTasks (loadUnit "u") (ofAccount "a") =
        .ok (.request "9002" ms)) ∧
      replies Text.codec .saveTasks (loadUnit "u") (ofAccount "a")
        (.resolved [("success", .bool false)]) = [] ∧
      ¬ Truthful "9002" (.resolved [("success", .bool false)])
        (replies Text.codec .saveTasks (loadUnit "u") (ofAccount "a")
          (.resolved [("success", .bool false)])) := by
  have hdone : ∃ m, replies Text.codec .deleteMission (.obj (nameMission "m")) (ofAccount "a")
      (.resolved [("success", .bool false)]) = [(.success, m)] ∧
        m.field Const.payload = some (.str "Done") := ⟨_, rfl, rfl⟩
  have hsilent : replies Text.codec .saveTasks (loadUnit "u") (ofAccount "a")
      (.resolved [("success", .bool false)]) = [] := rfl
  refine ⟨rfl, hdone, fun h => ?_, ⟨_, rfl⟩, hsilent, fun h => ?_⟩
  · obtain ⟨m, hsent, -⟩ := hdone
    rw [hsent] at h
    exact absurd (h.1.mp ⟨m, List.mem_singleton.mpr rfl⟩) (by decide)
  · rw [hsilent] at h
    obtain ⟨m, hm, -⟩ := h.2 rfl
    exact absurd hm (by simp)

end StorageCall

end DroneEngage
