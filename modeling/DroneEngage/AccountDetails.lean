import DroneEngage.FanOut

/-! The units that AUTH is told of.

    The INFO card also lists the units of each account, with the role and the request id of their
    logins. It is put together by walking through the groups of the account and the units of each
    group, so what it shows of a unit depends on where the unit is listed. -/

namespace DroneEngage
open Js

namespace Server

/-- A unit in the list of its account. -/
structure UnitDetail where
  unitName : String
  actorType : Val
  requestId : Val
  deriving DecidableEq

/-- What is shown of the socket that a group lists under a name. -/
def unitDetail (s : Server) (row : String × SocketId) : UnitDetail :=
  match (s.sockets row.2).loginRequest with
  | some login => ⟨row.1, login.actorType, login.requestID⟩
  | none => ⟨row.1, some (.str "a"), some .null⟩

/-- The rows of all groups of an account. -/
def listedIn (s : Server) (a : AccountId) : List (String × SocketId) :=
  (s.accountHeap a).groups.rows.flatMap fun row => (s.groupHeap row.2).units.rows

/-- `fn_getAccountDetails` -/
def getAccountDetails (s : Server) : Table (List UnitDetail) where
  rows := s.accounts.rows.map fun row => (row.1, (s.listedIn row.2).map s.unitDetail)
  nodup := by
    rw [List.map_map]
    exact s.accounts.nodup

/-- The socket is in a room of the account. -/
def InAccount (s : Server) (id : String) (v : SocketId) : Prop :=
  ∃ g, (s.sockets v).group = some g ∧ propKey (s.accountOf g).accountID = .ok id

/-- The detail shows the login of the socket. -/
def Shows (s : Server) (v : SocketId) (d : UnitDetail) : Prop :=
  ∃ login, (s.sockets v).loginRequest = some login ∧ propKey login.senderID = .ok d.unitName ∧
    d.actorType = login.actorType ∧ d.requestId = login.requestID

section

variable {s : Server} {a : AccountId} {id : String} {v : SocketId}

theorem mem_listedIn {row : String × SocketId} : row ∈ s.listedIn a ↔
    ∃ l g, (s.accountHeap a).groups.own? l = some g ∧
      (s.groupHeap g).units.own? row.1 = some row.2 := by
  rw [listedIn, List.mem_flatMap]
  constructor
  · rintro ⟨⟨l, g⟩, hg, hrow⟩
    exact ⟨l, g, Table.own?_of_mem_rows hg, Table.own?_of_mem_rows hrow⟩
  · rintro ⟨l, g, hg, hrow⟩
    exact ⟨(l, g), Table.mem_rows_of_own? hg, Table.mem_rows_of_own? hrow⟩

/-- No socket has two rows. -/
theorem RoomsInvariant.nodup_listedIn (hs : s.RoomsInvariant) (a : AccountId) :
    ((s.listedIn a).map Prod.snd).Nodup := by
  rw [listedIn, List.map_flatMap, List.nodup_flatMap]
  constructor
  · -- within a group
    rintro ⟨l, g⟩ -
    refine (s.groupHeap g).units.nodup.of_map.map_on ?_
    rintro ⟨k, v⟩ hv ⟨m, w⟩ hw rfl
    rw [(hs.row_eq (Table.own?_of_mem_rows hv) (Table.own?_of_mem_rows hw)).2]
  · -- in two groups
    refine (s.accountHeap a).groups.nodup.of_map.pairwise_of_forall_ne ?_
    rintro ⟨l, g⟩ hg ⟨m, h⟩ hh hne u hu hu'
    obtain ⟨⟨k, v⟩, hv, rfl⟩ := List.mem_map.mp hu
    obtain ⟨⟨k', w⟩, hw, hvw⟩ := List.mem_map.mp hu'
    obtain rfl : w = v := hvw
    obtain rfl : g = h := (hs.row_eq (Table.own?_of_mem_rows hv) (Table.own?_of_mem_rows hw)).1
    have hl := (hs.inhabited (Table.own?_of_mem_rows hg)).2.1
    have hm := (hs.inhabited (Table.own?_of_mem_rows hh)).2.1
    exact hne (by rw [Except.ok.inj (hl.symm.trans hm)])

/-- The rows of an account are those of the sockets in its rooms. -/
theorem WellKept.mem_listedIn (hs : s.WellKept) (ha : s.accounts.own? id = some a) :
    v ∈ (s.listedIn a).map Prod.snd ↔ s.InAccount id v := by
  constructor
  · intro hv
    obtain ⟨⟨k, v⟩, hrow, rfl⟩ := List.mem_map.mp hv
    obtain ⟨l, g, hg, hk⟩ := Server.mem_listedIn.mp hrow
    obtain rfl := (hs.inhabited hg).2.2
    exact ⟨g, (hs.entry hk).2.1, hs.keyed ha⟩
  · rintro ⟨g, hg, hid⟩
    obtain ⟨k, -, hk⟩ := hs.listed hg
    obtain ⟨⟨l, -, hl⟩, id', hid', ha'⟩ := hs.registered hk
    obtain rfl : id = id' := Except.ok.inj (hid.symm.trans hid')
    obtain rfl : a = (s.groupHeap g).parentAccount := Option.some.inj (ha.symm.trans ha')
    exact List.mem_map.mpr ⟨(k, v), Server.mem_listedIn.mpr ⟨l, g, hl, hk⟩, rfl⟩

/-- What is shown of a row is its socket's own login. -/
theorem RoomsInvariant.shows (hs : s.RoomsInvariant) {row : String × SocketId}
    (hrow : row ∈ s.listedIn a) : s.Shows row.2 (s.unitDetail row) := by
  obtain ⟨l, g, -, hk⟩ := mem_listedIn.mp hrow
  obtain ⟨-, -, login, hlogin, hname, -⟩ := hs.entry hk
  have hdetail : s.unitDetail row = ⟨row.1, login.actorType, login.requestID⟩ := by
    rw [unitDetail, hlogin]
  rw [hdetail]
  exact ⟨login, hlogin, hname, rfl, rfl⟩

theorem own?_getAccountDetails : s.getAccountDetails.own? id =
    (s.accounts.own? id).map fun a => (s.listedIn a).map s.unitDetail := by
  change (s.accounts.rows.map fun row => (row.1, (s.listedIn row.2).map s.unitDetail)).lookup id =
    (s.accounts.rows.lookup id).map fun a => (s.listedIn a).map s.unitDetail
  generalize s.accounts.rows = rows
  induction rows with
  | nil => rfl
  | cons row rows ih =>
    obtain ⟨k, a⟩ := row
    rw [List.map_cons, List.lookup_cons, List.lookup_cons, ih]
    cases id == k with
    | true => rfl
    | false => rfl

/-- In every run whose logins all carry an account and a sender id, AUTH is told of the accounts that
    the server knows, and for each of them of the sockets in its rooms, each once, with the name, the
    role and the request id of its own login; every socket that is in a room is among them. No id, and
    no name that AUTH blocks, is the name of an inherited property. -/
theorem account_details_exact {J : JsonCodec} {isAlphanumeric : String → Bool} {config : Config}
    {es : List Event} (h : run J isAlphanumeric (startOver [] config) es = some s)
    (hids : ∀ ws login, (s.sockets ws).loginRequest = some login → CarriesIds login) :
    s.getAccountDetails.keys = s.getUnitKeys ∧
      (∀ v g, (s.sockets v).group = some g → ∃ id ∈ s.getUnitKeys, s.InAccount id v) ∧
      ∀ id ds, s.getAccountDetails.own? id = some ds →
        ∃ vs : List SocketId, vs.Nodup ∧ (∀ v, v ∈ vs ↔ s.InAccount id v) ∧
          List.Forall₂ s.Shows vs ds := by
  have hs : s.WellKept := (inOrder_run h hids).wellKept
  refine ⟨?_, fun v g hg => ?_, fun id ds hds => ?_⟩
  · rw [Table.keys, getAccountDetails, List.map_map]
    rfl
  · obtain ⟨k, -, hk⟩ := hs.listed hg
    obtain ⟨-, id, hid, ha⟩ := hs.registered hk
    exact ⟨id, Table.mem_keys_iff.mpr ⟨_, ha⟩, g, hg, hid⟩
  · rw [own?_getAccountDetails] at hds
    obtain ⟨a, ha, rfl⟩ := Option.map_eq_some_iff.mp hds
    refine ⟨(s.listedIn a).map Prod.snd, hs.nodup_listedIn a, fun v => hs.mem_listedIn ha, ?_⟩
    rw [List.forall₂_map_left_iff, List.forall₂_map_right_iff, List.forall₂_same]
    exact fun row hrow => hs.shows hrow

end

/-- A drone and a station of account `acc` log in. -/
def stationJoins : List Event :=
  joinedRun ++ [.authMessage (Text.stringify (.obj [("c", .str "b"),
    ("d", .obj [("a", .str "acc"), ("b", .str "2"), ("r", .str "r2"), ("at", .str "g")])])) "k2",
    .connect "/?f=k2&s=station" "peer"]

/-- The drone in group 1 and the station in group 2 are listed under their account. -/
theorem account_details_exact_station : ∃ s,
    run Text.codec isAsciiAlphanumeric (startOver [] {}) stationJoins = some s ∧
      s.getAccountDetails.own? "acc" = some [⟨"drone", some (.str "d"), some (.str "q")⟩,
        ⟨"station", some (.str "g"), some (.str "r2")⟩] ∧
      ∃ vs : List SocketId, vs.Nodup ∧ (∀ v, v ∈ vs ↔ s.InAccount "acc" v) ∧
        List.Forall₂ s.Shows vs [⟨"drone", some (.str "d"), some (.str "q")⟩,
          ⟨"station", some (.str "g"), some (.str "r2")⟩] := by
  have h : (run Text.codec isAsciiAlphanumeric (startOver [] {}) stationJoins).map (fun s =>
      (s.nextSocket, s.getAccountDetails.own? "acc",
        [0, 1].map fun ws => (s.sockets ws).loginRequest.map fun l =>
          (isNullish l.accountID, isNullish l.senderID))) =
      some (2, some [⟨"drone", some (.str "d"), some (.str "q")⟩,
        ⟨"station", some (.str "g"), some (.str "r2")⟩],
        [some (false, false), some (false, false)]) := by decide +kernel
  obtain ⟨s, hs, hf⟩ := Option.map_eq_some_iff.mp h
  rw [Prod.mk.injEq, Prod.mk.injEq] at hf
  obtain ⟨hnext, hdetails, hlogins⟩ := hf
  obtain ⟨-, hcons, -⟩ := run_operations Text.codec isAsciiAlphanumeric
    (consistent_startOver [] {}) (hearing_startOver [] {}) hs
  have hexact := account_details_exact hs (carriesIds_of_two hcons hnext hlogins)
  exact ⟨s, hs, hdetails, hexact.2.2 "acc" _ hdetails⟩

end Server

end DroneEngage
