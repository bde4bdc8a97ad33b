import DroneEngage.State

/-! Chat rooms: accounts, their groups and the member sockets of a group, and the table of active
    senders.

    Every function is the source's function on the server state. A table read by a plain index
    (`c_accounts[id]`) can find an inherited name where a read guarded by `hasOwnProperty` cannot;
    the difference is kept. Members are removed by name, and a group or account that loses its last
    member is removed by the code that notices it. -/

namespace DroneEngage
open Js

namespace Server

/-! ### Active senders -/

/-- `m_activeSenderIDsList[senderID] = ws` -/
def addActiveSenderIDList (senderID : Val) (ws : SocketId) : Action Server Unit := do
  let k ← Action.ofExcept (propKey senderID)
  Action.modify fun s =>
    { s with activeSenderIDsList := s.activeSenderIDsList.assign s.proto k ws }

def deleteActiveSenderIDList (senderID : Val) : Action Server Unit := do
  if isNullish senderID then return
  let k ← Action.ofExcept (propKey senderID)
  Action.modify fun s => { s with activeSenderIDsList := s.activeSenderIDsList.delete k }

/-- What `m_activeSenderIDsList[senderID]` finds. -/
def getActiveSender (senderID : Val) : Action Server (Slot SocketId) := do
  let s ← Action.get
  Action.ofExcept (s.activeSenderIDsList.index s.proto senderID)

/-! ### Group -/

/-- The `senderID` argument of a broadcast, and the socket whose login record it was read from:
    an id that is an object equals only itself. -/
structure SenderRef where
  value : Val
  holder : Option SocketId

/-- `socket.m_loginRequest.m_senderID === senderID` -/
def sameSender (login : LoginRequest) (ws : SocketId) (senderID : SenderRef) : Bool :=
  match login.senderID with
  | some (.arr _) => senderID.holder = some ws
  | some (.obj _) => senderID.holder = some ws
  | v => v = senderID.value

/-- `Group.prototype.fn_addMember` -/
def addMember (g : GroupId) (unitname : Val) (ws : SocketId) : Action Server Bool := do
  let s ← Action.get
  if ← Action.ofExcept ((s.groupHeap g).units.hasOwnProperty s.proto unitname) then
    return false
  let k ← Action.ofExcept (propKey unitname)
  Action.modify (setGroup g fun G => { G with units := G.units.assign s.proto k ws })
  Action.modify (setSocket ws fun w => { w with name := unitname, group := some g })
  return true

/-- The member `fn_deleteMemberByName` finds under a name, with its key. -/
def memberNamed (s : Server) (g : GroupId) (unitname : Val) :
    Except JsError (Option (String × SocketId)) := do
  if ← (s.groupHeap g).units.hasOwnProperty s.proto unitname then
    let k ← propKey unitname
    pure (((s.groupHeap g).units.own? k).map fun ws => (k, ws))
  else pure none

/-- A member leaves its group: the entry and the back pointer go. -/
def unlink (g : GroupId) (k : String) (ws : SocketId) (s : Server) : Server :=
  setSocket ws (fun w => { w with group := none })
    (setGroup g (fun G => { G with units := G.units.delete k }) s)

/-- `if (Object.keys(this.m_units).length === 0) delete this.m_parentAccount.m_groups[this.m_ID]` -/
def dropIfEmpty (g : GroupId) : Action Server Unit := do
  let s ← Action.get
  if (s.groupHeap g).units.keys = [] then
    let id ← Action.ofExcept (propKey (s.groupHeap g).ID)
    Action.modify (setAccount (s.groupHeap g).parentAccount fun A =>
      { A with groups := A.groups.delete id })

/-- `Group.prototype.fn_deleteMemberByName` -/
def deleteMemberByName (g : GroupId) (unitname : Val) (terminate : Bool) : Action Server Unit :=
  Action.attempt
    (do
      let s ← Action.get
      match ← Action.ofExcept (s.memberNamed g unitname) with
      | none => pure ()
      | some (k, oldSocket) => do
        Action.modify (unlink g k oldSocket)
        dropIfEmpty g
        if terminate then
          Action.modify (setSocket oldSocket fun w => { w with terminated := true })
          terminateSocket oldSocket)
    fun _ => pure ()

/-- `Group.prototype.fn_handleOrphanSocket` -/
def handleOrphanSocket (ws : SocketId) : Action Server Unit :=
  Action.attempt
    (do
      let s ← Action.get
      match (s.sockets ws).group with
      | none => Action.throw .typeError
      | some g => do
        deleteMemberByName g (s.sockets ws).name false
        Action.modify (setSocket ws fun w => { w with name := none })
        terminateSocket ws)
    fun _ => pure ()

/-- The test of `Group.prototype.fn_broadcast` that decides whether a member is sent the message. -/
def wants (login : LoginRequest) (ws : SocketId) (senderID : SenderRef)
    (actorType : Option String) : Bool :=
  !sameSender login ws senderID &&
    (actorType.isNone || login.actorType = actorType.map Json.str)

/-- One round of the loop of `Group.prototype.fn_broadcast`. -/
def broadcastTo (message : Bytes) (isBinary : Bool) (senderID : SenderRef)
    (actorType : Option String) (ws : SocketId) : Action Server Unit :=
  Action.attempt
    (do
      let s ← Action.get
      match (s.sockets ws).loginRequest with
      | none => Action.throw .typeError
      | some login =>
        if wants login ws senderID actorType then send ws message isBinary else pure ())
    fun _ => handleOrphanSocket ws

/-- `Group.prototype.fn_broadcast`; a member removed before its turn is not visited. -/
def broadcast (g : GroupId) (message : Bytes) (isBinary : Bool) (senderID : SenderRef)
    (actorType : Option String) : Action Server Unit := do
  let s ← Action.get
  Action.forEach (s.groupHeap g).units.keys fun unitName => do
    let s ← Action.get
    match (s.groupHeap g).units.own? unitName with
    | none => pure ()
    | some ws => broadcastTo message isBinary senderID actorType ws

/-- `Group.prototype.fn_broadcastToGCS` -/
def broadcastToGCS (g : GroupId) (message : Bytes) (isBinary : Bool) (senderID : SenderRef) :
    Action Server Unit := broadcast g message isBinary senderID (some Const.actorGCS)

/-- `Group.prototype.fn_broadcastToDrone` -/
def broadcastToDrone (g : GroupId) (message : Bytes) (isBinary : Bool) (senderID : SenderRef) :
    Action Server Unit := broadcast g message isBinary senderID (some Const.actorDrone)

/-- `Group.prototype.fn_sendToIndividual`. In its `catch` block the name `socket` is out of scope,
    so whatever was thrown, a `ReferenceError` leaves the function. -/
def sendToIndividual (g : GroupId) (message : Bytes) (isBinary : Bool) (target : Val)
    (onNotFound : Action Server Unit) : Action Server Unit :=
  Action.attempt
    (do
      let s ← Action.get
      match ← Action.ofExcept ((s.groupHeap g).units.index s.proto target) with
      | .own ws => send ws message isBinary
      | .inherited => Action.throw .typeError
      | .absent => onNotFound)
    fun _ => Action.throw .referenceError

/-! ### Account -/

/-- `new Group(account, id)` -/
def newGroup (a : AccountId) (id : Val) : Action Server GroupId := do
  let s ← Action.get
  Action.modify fun s => { s with
    groupHeap := Function.update s.groupHeap s.nextGroup
      { ID := id, parentAccount := a, units := .empty }
    nextGroup := s.nextGroup + 1 }
  return s.nextGroup

/-- `Account.prototype.fn_add_member_to_AccountGroup` -/
def addMemberToGroup (a : AccountId) (unitname groupname : Val) (ws : SocketId) :
    Action Server Bool := do
  let s ← Action.get
  let exists' ← Action.ofExcept ((s.accountHeap a).groups.hasOwnProperty s.proto groupname)
  let k ← Action.ofExcept (propKey groupname)
  match exists', (s.accountHeap a).groups.own? k with
  | true, some g => addMember g unitname ws
  | _, _ => do
    let g ← newGroup a groupname
    Action.modify (setAccount a fun A => { A with groups := A.groups.assign s.proto k g })
    addMember g unitname ws

/-- `Account.prototype.fn_del_member_fromAccountByName` -/
def delMemberFromAccount (a : AccountId) (unitname : Val) (terminate : Bool) :
    Action Server Unit := do
  let s ← Action.get
  Action.forEach (s.accountHeap a).groups.values fun g => deleteMemberByName g unitname terminate
  let s ← Action.get
  if (s.accountHeap a).groups.keys = [] then
    let id ← Action.ofExcept (propKey (s.accountHeap a).accountID)
    Action.modify fun s => { s with accounts := s.accounts.delete id }

/-! ### The module's own functions -/

/-- `fn_getUnitKeys`, up to the order of integer keys: the `accounts` of the INFO card for AUTH. -/
def getUnitKeys (s : Server) : List String := s.accounts.keys

/-- `new Account(id)` -/
def newAccount (id : Val) : Action Server AccountId := do
  let s ← Action.get
  Action.modify fun s => { s with
    accountHeap := Function.update s.accountHeap s.nextAccount
      { accountID := id, groups := .empty }
    nextAccount := s.nextAccount + 1 }
  return s.nextAccount

/-- `fn_add_member_to_AccountGroup` -/
def addMemberToAccountGroup (ws : SocketId) : Action Server Bool := do
  let s ← Action.get
  match (s.sockets ws).loginRequest with
  | none => Action.throw .typeError
  | some login => do
    let exists' ← Action.ofExcept (s.accounts.hasOwnProperty s.proto login.accountID)
    let k ← Action.ofExcept (propKey login.accountID)
    match exists', s.accounts.own? k with
    | true, some a => addMemberToGroup a login.senderID login.groupID ws
    | _, _ => do
      let a ← newAccount login.accountID
      Action.modify fun s => { s with accounts := s.accounts.assign s.proto k a }
      addMemberToGroup a login.senderID login.groupID ws

/-- `fn_del_member_fromGroup` -/
def delMemberFromGroup (ws : SocketId) : Action Server Unit := do
  let s ← Action.get
  match (s.sockets ws).group with
  | none => pure ()
  | some g =>
    if isNullish (s.sockets ws).name then
      Action.modify (setSocket ws fun w => { w with group := none })
    else deleteMemberByName g (s.sockets ws).name false

/-- `fn_del_member_fromAccountByName` -/
def delMemberFromAccountByName (login : Option LoginRequest) (terminate : Bool) :
    Action Server Unit := do
  match login with
  | none => pure ()
  | some login =>
    if isNullish login.accountID || isNullish login.senderID then return
    let s ← Action.get
    match ← Action.ofExcept (s.accounts.index s.proto login.accountID) with
    | .absent => pure ()
    | .inherited => Action.throw .typeError
    | .own a => delMemberFromAccount a login.senderID terminate

/-- The loop over the groups of one account that the fan-out functions share. -/
def broadcastInAccount (a : AccountId) (message : Bytes) (isBinary : Bool) (senderID : SenderRef)
    (actorType : Option String) : Action Server Unit := do
  let s ← Action.get
  Action.forEach (s.accountHeap a).groups.keys fun groupId => do
    let s ← Action.get
    match (s.accountHeap a).groups.own? groupId with
    | none => pure ()
    | some g => broadcast g message isBinary senderID actorType

/-- The loop over all accounts that `fn_sendToAll`, `fn_sendToAllGCS` and `fn_sendToAllAgent`
    share. -/
def broadcastEverywhere (message : Bytes) (isBinary : Bool) (senderID : SenderRef)
    (actorType : Option String) : Action Server Unit := do
  let s ← Action.get
  Action.forEach s.accounts.keys fun accountId => do
    let s ← Action.get
    match s.accounts.own? accountId with
    | none => pure ()
    | some a => broadcastInAccount a message isBinary senderID actorType

/-- `fn_sendToAll` -/
def sendToAll (message : Bytes) (isBinary : Bool) (senderID : SenderRef) : Action Server Unit :=
  broadcastEverywhere message isBinary senderID none

/-- `fn_sendToAllGCS` -/
def sendToAllGCS (message : Bytes) (isBinary : Bool) (senderID : SenderRef) :
    Action Server Unit := broadcastEverywhere message isBinary senderID (some Const.actorGCS)

/-- `fn_sendToAllAgent` -/
def sendToAllAgent (message : Bytes) (isBinary : Bool) (senderID : SenderRef) :
    Action Server Unit := broadcastEverywhere message isBinary senderID (some Const.actorDrone)

/-- `fn_sendToAllGCSInAccount`; an inherited name in place of an account has no `m_groups`, and the
    loop over them does nothing. -/
def sendToAllGCSInAccount (message : Bytes) (isBinary : Bool) (senderID : SenderRef)
    (accountId : Val) : Action Server Bool := do
  let s ← Action.get
  match ← Action.ofExcept (s.accounts.index s.proto accountId) with
  | .absent => return false
  | .inherited => return true
  | .own a => do
    broadcastInAccount a message isBinary senderID (some Const.actorGCS)
    return true

/-- `fn_sendToAccountGroup`; an inherited name in place of an account or a group has neither
    `m_groups` nor `fn_broadcast`, and the call throws. -/
def sendToAccountGroup (message : Bytes) (isBinary : Bool) (senderID : SenderRef)
    (accountId groupId : Val) (actorType : Option String) : Action Server Bool := do
  let s ← Action.get
  match ← Action.ofExcept (s.accounts.index s.proto accountId) with
  | .absent => return false
  | .inherited => Action.throw .typeError
  | .own a =>
    match ← Action.ofExcept ((s.accountHeap a).groups.index s.proto groupId) with
    | .absent => return false
    | .inherited => Action.throw .typeError
    | .own g => do
      broadcast g message isBinary senderID actorType
      return true

/-- `fn_sendTIndividualId`; its callback does nothing in the only call. -/
def sendTIndividualId (message : Bytes) (isBinary : Bool) (targetId senderId groupID : Val) :
    Action Server Unit := do
  match ← getActiveSender targetId with
  | .own ws => do
    let s ← Action.get
    if (s.sockets ws).readyState = .isOpen then
      let sender ← getActiveSender senderId
      let senderGroup := sender.stored?.bind fun w => (s.sockets w).group
      if senderGroup = (s.sockets ws).group then send ws message isBinary
      else if sender = .absent ∧ groupID.isSome then
        match (s.sockets ws).group with
        | some g =>
          if strictEq (s.groupHeap g).ID groupID then send ws message isBinary else pure ()
        | none => pure ()
      else pure ()
    else pure ()
  | _ => pure ()

end Server

end DroneEngage
