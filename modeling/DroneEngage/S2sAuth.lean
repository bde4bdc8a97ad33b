import DroneEngage.Js.Action
import DroneEngage.Js.Codec
import DroneEngage.Js.Table

/-! Authentication between servers: challenges, signed responses and trusted keys.

    The accepting side sends a nonce, the connecting side signs it, and the accepting side verifies
    the signature with the key it keeps for the id the response names. Keys are read from files on
    first use and kept in `m_publicKeys`, a plain object: an id can name an inherited property of it.
    `Buffer.from` and the two calls of Node's `crypto` are a parameter `Crypto`. -/

namespace DroneEngage
open Js

/-- What `crypto.verify` is given as its key. -/
inductive KeyArgument (PublicKey : Type) where
  /-- a key that was read from its file -/
  | publicKey (key : PublicKey)
  /-- a value that every object inherits under this name -/
  | inherited (name : String)

/-- The calls of the runtime on bytes, keys and signatures. -/
structure Crypto (PrivateKey PublicKey : Type) where
  /-- `Buffer.from(v)` -/
  bufferFrom : Val → Except JsError Bytes
  /-- `crypto.sign(null, data, key).toString('base64')` -/
  sign : PrivateKey → Bytes → String
  /-- `crypto.verify(null, data, key, Buffer.from(signature, 'base64'))` -/
  verify : KeyArgument PublicKey → Bytes → Json → Except JsError Bool
  bufferFrom_text : ∀ text, bufferFrom (some (.str text)) = .ok (utf8 text)
  /-- what is not a key verifies nothing: the call throws -/
  verify_inherited : ∀ name data signature, verify (.inherited name) data signature ≠ .ok true

/-- The settings of `m_serverconfig.m_configuration` for authentication between servers. -/
structure S2sConfig (PrivateKey PublicKey : Type) where
  server_id : Option String := none
  /-- the key in the file `s2s_my_private_key`, if it can be read -/
  s2s_my_private_key : Option PrivateKey := none
  /-- the ids of `s2s_trusted_server_keys`, each with the key in its file if that can be read -/
  s2s_trusted_server_keys : Option (Table (Option PublicKey)) := none

/-- The text of a key and of the bytes it signs. -/
def sealText (key : Char) (data : Bytes) : String :=
  String.ofList (key :: data.map fun b => Char.ofNat b.toNat)

/-- Signatures that list what they sign. -/
def Crypto.sealing : Crypto Char Char where
  bufferFrom v := match v with
    | some (.str text) => .ok (utf8 text)
    | _ => .error .foreign
  sign := sealText
  verify key data signature := match key with
    | .publicKey key => .ok (decide (signature = .str (sealText key data)))
    | .inherited _ => .error .foreign
  bufferFrom_text _ := rfl
  verify_inherited _ _ _ h := absurd h (by simp)

namespace S2sAuth

def challenge : String := "challenge"
def response : String := "response"

/-- `m_publicKeys` -/
abbrev KeyCache (PublicKey : Type) := Option (Table PublicKey)

variable {PrivateKey PublicKey : Type}

/-- The loop of `fn_getPublicKeys`; a file that cannot be read throws, and the keys read before it
    stay. -/
def readPublicKeys (files : Table (Option PublicKey)) : Action (KeyCache PublicKey) Unit := do
  Action.modify fun _ => some .empty
  Action.forEach files.rows fun (serverId, file) =>
    match file with
    | none => Action.throw .foreign
    | some key => Action.modify (Option.map fun keys => keys.assign objectPrototype serverId key)

/-- `fn_getPublicKeys` -/
def getPublicKeys (trusted : Option (Table (Option PublicKey))) :
    Action (KeyCache PublicKey) (Table PublicKey) := do
  match ← Action.get, trusted with
  | some keys, _ => return keys
  | none, none => Action.throw .foreign
  | none, some files => do
    readPublicKeys files
    return (← Action.get).getD .empty

/-- `fn_verify` -/
def verify (crypto : Crypto PrivateKey PublicKey) (trusted : Option (Table (Option PublicKey)))
    (nonce : String) (signature serverId : Val) : Action (KeyCache PublicKey) Bool :=
  Action.attempt
    (do
      match signature with
      | none | some .null => return false
      | some signature => do
        if isNullish serverId then return false
        let keys ← getPublicKeys trusted
        let name ← Action.ofExcept (propKey serverId)
        match keys.get objectPrototype name with
        | .absent => return false
        | .own key =>
          Action.ofExcept (crypto.verify (.publicKey key) (utf8 nonce) signature)
        | .inherited =>
          Action.ofExcept (crypto.verify (.inherited name) (utf8 nonce) signature))
    fun _ => pure false

/-- `fn_buildChallenge` -/
def buildChallenge (J : JsonCodec) (nonce : String) : Bytes :=
  J.stringify (.obj [("s2s_auth", .str challenge), ("nonce", .str nonce)])

/-- `fn_sign` -/
def sign (crypto : Crypto PrivateKey PublicKey) (privateKey : Option PrivateKey) (nonce : Val) :
    Except JsError String := do
  let data ← crypto.bufferFrom nonce
  match privateKey with
  | none => .error .foreign
  | some key => pure (crypto.sign key data)

/-- `fn_buildResponse` -/
def buildResponse (J : JsonCodec) (crypto : Crypto PrivateKey PublicKey)
    (config : S2sConfig PrivateKey PublicKey) (nonce : Val) : Except JsError Bytes := do
  let signature ← sign crypto config.s2s_my_private_key nonce
  let envelope := Json.obj [("s2s_auth", .str response), ("sig", .str signature)]
  pure (J.stringify (envelope.setField "id" (config.server_id.map Json.str)))

/-- `fn_parseEnvelope`; a message is a text or, as the `ws` package hands it over, a buffer. -/
def parseEnvelope (J : JsonCodec) (message : Bytes) (isText : Bool) : Option Json := do
  guard (isText ∨ message.head? = some 0x7b)
  let v ← J.parse message
  guard (isNullish (v.field "s2s_auth") = false)
  pure v

/-! ### What is verified -/

/-- The key of a configured server id. -/
def Trusted (trusted : Option (Table (Option PublicKey))) (serverId : String) (key : PublicKey) :
    Prop := ∃ files, trusted = some files ∧ files.own? serverId = some (some key)

/-- Every key that was read belongs to a configured id. -/
def Loaded (trusted : Option (Table (Option PublicKey))) (cache : KeyCache PublicKey) : Prop :=
  ∀ keys, cache = some keys → ∀ id key, keys.own? id = some key → Trusted trusted id key

/-- Reading keys keeps what was read true. -/
def KeepsLoaded (trusted : Option (Table (Option PublicKey))) (c c' : KeyCache PublicKey) : Prop :=
  Loaded trusted c → Loaded trusted c'

instance (trusted : Option (Table (Option PublicKey))) :
    IsPreorder (KeyCache PublicKey) (KeepsLoaded trusted) where
  refl := fun _ h => h
  trans := fun _ _ _ h h' hc => h' (h hc)

open Action

theorem loaded_readKey {files : Table (Option PublicKey)} {id : String} {key : PublicKey}
    (h : (id, some key) ∈ files.rows) : Moves (KeepsLoaded (some files))
      (modify (Option.map fun keys : Table PublicKey => keys.assign objectPrototype id key)) := by
  intro cache hc keys hkeys id' key' hown
  obtain ⟨keys₀, rfl, rfl⟩ := Option.map_eq_some_iff.mp hkeys
  rcases Table.own?_assign_imp hown with ⟨rfl, rfl⟩ | hown
  · exact ⟨files, rfl, Table.own?_of_mem_rows h⟩
  · exact hc keys₀ rfl id' key' hown

theorem loaded_readPublicKeys (files : Table (Option PublicKey)) :
    Moves (KeepsLoaded (some files)) (readPublicKeys files) := by
  refine moves_bind (moves_modify ?_) fun _ => moves_forEach _ ?_
  · intro _ _ keys hkeys id key hown
    obtain rfl := Option.some.inj hkeys
    rw [Table.own?_empty] at hown
    exact absurd hown (by simp)
  · rintro ⟨id, file⟩ hmem
    cases file with
    | none => exact moves_throw _
    | some key => exact loaded_readKey hmem

theorem loaded_getPublicKeys (trusted : Option (Table (Option PublicKey))) :
    Moves (KeepsLoaded trusted) (getPublicKeys trusted) := by
  refine moves_bind moves_get fun cache => ?_
  cases cache with
  | some keys => exact moves_pure keys
  | none =>
    cases trusted with
    | none => exact moves_throw _
    | some files =>
      exact moves_bind (loaded_readPublicKeys files) fun _ => moves_bind moves_get fun _ =>
        moves_pure _

theorem loaded_verify (crypto : Crypto PrivateKey PublicKey)
    (trusted : Option (Table (Option PublicKey))) (nonce : String) (signature serverId : Val) :
    Moves (KeepsLoaded trusted) (verify crypto trusted nonce signature serverId) := by
  refine moves_attempt ?_ fun _ => moves_pure _
  split
  · exact moves_pure _
  · exact moves_pure _
  · refine moves_ite (fun _ => moves_pure _) fun _ => moves_bind (loaded_getPublicKeys trusted)
      fun keys => moves_bind (moves_ofExcept _) fun name => ?_
    cases keys.get objectPrototype name with
    | absent => exact moves_pure _
    | own key => exact moves_ofExcept _
    | inherited => exact moves_ofExcept _

/-- What `fn_getPublicKeys` returns was read for configured ids. -/
theorem getPublicKeys_trusted {trusted : Option (Table (Option PublicKey))}
    {cache : KeyCache PublicKey} (hc : Loaded trusted cache) {keys : Table PublicKey}
    (h : (getPublicKeys trusted cache).1 = .ok keys) {id : String} {key : PublicKey}
    (hown : keys.own? id = some key) : Trusted trusted id key := by
  rw [getPublicKeys, run_bind_get] at h
  cases cache with
  | some keys₀ =>
    obtain rfl := Except.ok.inj h
    exact hc keys₀ rfl id key hown
  | none =>
    cases trusted with
    | none => exact absurd h (by simp)
    | some files =>
      have hread := loaded_readPublicKeys files none hc
      rcases hr : readPublicKeys files none with ⟨e | u, cache'⟩
      · simp only [run_bind_of_error hr] at h
        exact absurd h (by simp)
      · simp only [run_bind_of_ok hr, run_bind_get] at h
        obtain rfl := Except.ok.inj h
        rw [final, hr] at hread
        cases cache' with
        | none => exact absurd hown (by rw [Option.getD_none, Table.own?_empty]; simp)
        | some keys' => exact hread keys' rfl id key hown

/-- A signature is accepted only under the key of a configured id. -/
theorem verify_true {crypto : Crypto PrivateKey PublicKey}
    {trusted : Option (Table (Option PublicKey))} {cache : KeyCache PublicKey}
    (hc : Loaded trusted cache) {nonce : String} {signature serverId : Val}
    (h : (verify crypto trusted nonce signature serverId cache).1 = .ok true) :
    ∃ sig name key, signature = some sig ∧ propKey serverId = .ok name ∧
      Trusted trusted name key ∧ crypto.verify (.publicKey key) (utf8 nonce) sig = .ok true := by
  have hcatch : ∀ m : Action (KeyCache PublicKey) Bool,
      (attempt m (fun _ => pure false) cache).1 = .ok true → (m cache).1 = .ok true := by
    intro m hm
    rw [run_attempt] at hm
    rcases hr : m cache with ⟨e | b, c'⟩
    · rw [hr] at hm; exact absurd hm (by simp)
    · rw [hr] at hm; exact hm
  replace h := hcatch _ h
  split at h
  · exact absurd h (by simp)
  · exact absurd h (by simp)
  · next sig _ =>
    split at h
    · exact absurd h (by simp)
    rcases hk : getPublicKeys trusted cache with ⟨e | keys, c'⟩
    · rw [run_bind_of_error hk] at h
      exact absurd h (by simp)
    rw [run_bind_of_ok hk] at h
    cases hname : propKey serverId with
    | error e => rw [hname] at h; exact absurd h (by simp)
    | ok name =>
      rw [hname, run_bind_ok] at h
      cases hslot : keys.get objectPrototype name with
      | absent => rw [hslot] at h; exact absurd h (by simp)
      | inherited =>
        rw [hslot] at h
        exact absurd h (crypto.verify_inherited name (utf8 nonce) sig)
      | own key =>
        rw [hslot] at h
        exact ⟨sig, name, key, rfl, rfl, getPublicKeys_trusted hc (by rw [hk])
          (Table.get_eq_own_iff.mp hslot), h⟩

end S2sAuth

end DroneEngage
