import DroneEngage.Js.Value

/-! `JSON.parse` and `JSON.stringify` on bytes, and frames made of a JSON header and a payload.

    The two functions are a parameter `JsonCodec` with the facts of the language that a program
    relies on when it rewrites a message: text that was printed is read back as the same value, what
    is read is a proper value, and neither printed text nor text that can be read holds a zero byte
    (control characters are escaped). Left out are the numbers that are read as infinite, such as
    `1e400`: they are printed as `null`. A binary frame is a JSON header, optionally followed by a zero
    byte and a payload of any bytes; `header` and `payload` cut it at the first zero byte. -/

namespace Js

/-- The bytes of a message; a text is its UTF-8 encoding. -/
abbrev Bytes := List UInt8

/-- The bytes of a text. -/
def utf8 (text : String) : Bytes := text.toUTF8.data.toList

/-! ### Proper values -/

mutual
/-- A value that can exist in the language: an object owns each key once, and a number is the
    text `isNumber` accepts. -/
def Json.Proper (isNumber : String → Bool) : Json → Prop
  | .null => True
  | .bool _ => True
  | .num text => isNumber text = true
  | .str _ => True
  | .arr items => properItems isNumber items
  | .obj fields => (fields.map Prod.fst).Nodup ∧ properFields isNumber fields

/-- The items of a proper array. -/
def properItems (isNumber : String → Bool) : List Json → Prop
  | [] => True
  | v :: rest => v.Proper isNumber ∧ properItems isNumber rest

/-- The fields of a proper object. -/
def properFields (isNumber : String → Bool) : List (String × Json) → Prop
  | [] => True
  | (_, v) :: rest => v.Proper isNumber ∧ properFields isNumber rest
end

section Proper

variable {isNumber : String → Bool}

theorem properItems_iff : ∀ {items : List Json},
    properItems isNumber items ↔ ∀ v ∈ items, v.Proper isNumber
  | [] => by simp [properItems]
  | v :: rest => by simp [properItems, @properItems_iff rest]

theorem properFields_iff : ∀ {fields : List (String × Json)},
    properFields isNumber fields ↔ ∀ f ∈ fields, f.2.Proper isNumber
  | [] => by simp [properFields]
  | (k, v) :: rest => by simp [properFields, @properFields_iff rest]

/-- A field of a proper value is proper. -/
theorem Json.Proper.field {v x : Json} {k : String} (hv : v.Proper isNumber)
    (hx : v.field k = some x) : x.Proper isNumber := by
  cases v with
  | obj fields =>
    obtain ⟨l₁, l₂, hl, -⟩ := List.lookup_eq_some_iff.mp hx
    exact properFields_iff.mp hv.2 (k, x) (by rw [hl]; simp)
  | null | bool | num | str | arr => simp [Json.field] at hx

/-- Writing a proper value into a field keeps a value proper. -/
theorem Json.Proper.setField {v : Json} (k : String) {x : Val} (hv : v.Proper isNumber)
    (hx : ∀ y, x = some y → y.Proper isNumber) : (v.setField k x).Proper isNumber := by
  cases v with
  | null | bool | num | str | arr => exact hv
  | obj fields =>
    obtain ⟨hnd, hfs⟩ := hv
    rw [properFields_iff] at hfs
    cases x with
    | none =>
      refine ⟨(List.Sublist.map Prod.fst List.filter_sublist).nodup hnd, ?_⟩
      rw [properFields_iff]
      exact fun f hf => hfs f (List.mem_filter.mp hf).1
    | some y =>
      have hy := hx y rfl
      simp only [Json.setField]
      split
      · refine ⟨?_, ?_⟩
        · have hkeys : (fields.map fun f => if f.1 = k then (k, y) else f).map Prod.fst
              = fields.map Prod.fst := by
            rw [List.map_map]
            refine List.map_congr_left fun f _ => ?_
            simp only [Function.comp_apply]
            split
            · next h => exact h.symm
            · rfl
          rw [hkeys]; exact hnd
        · rw [properFields_iff]
          intro f hf
          obtain ⟨g, hg, rfl⟩ := List.mem_map.mp hf
          split
          · exact hy
          · exact hfs g hg
      · next hnone =>
        refine ⟨?_, ?_⟩
        · have hk : k ∉ fields.map Prod.fst := by
            intro hmem
            obtain ⟨⟨l, b⟩, hlb, rfl⟩ := List.mem_map.mp hmem
            rw [Option.not_isSome_iff_eq_none, List.lookup_eq_none_iff] at hnone
            have := hnone (l, b) hlb
            simp at this
          rw [List.map_append]
          refine List.nodup_append.mpr ⟨hnd, by simp, ?_⟩
          rintro a ha b hb rfl
          simp only [List.map_cons, List.map_nil, List.mem_singleton] at hb
          exact hk (hb ▸ ha)
        · rw [properFields_iff]
          intro f hf
          rcases List.mem_append.mp hf with h | h
          · exact hfs f h
          · rw [List.mem_singleton.mp h]; exact hy

end Proper

/-! ### Reading back a field that was written -/

namespace Json

theorem field_setField_self {v : Json} {fs : List (String × Json)} (hv : v = .obj fs)
    (k : String) (x : Val) : (v.setField k x).field k = x := by
  subst hv
  cases x with
  | none =>
    simp only [setField, field]
    rw [List.lookup_eq_none_iff]
    intro f hf
    have := (List.mem_filter.mp hf).2
    simp only [ne_eq, decide_not, Bool.not_eq_true', decide_eq_false_iff_not] at this
    simpa using fun h : k = f.1 => this h.symm
  | some y =>
    simp only [setField]
    split
    · next h =>
      simp only [field]
      induction fs with
      | nil => simp at h
      | cons f rest ih =>
        obtain ⟨l, b⟩ := f
        by_cases hl : l = k
        · subst hl; simp
        · have hne : (k == l) = false := by simpa using fun h : k = l => hl h.symm
          rw [List.lookup_cons, hne] at h
          rw [List.map_cons, if_neg hl, List.lookup_cons, hne]
          exact ih h
    · next h =>
      rw [Option.not_isSome_iff_eq_none] at h
      simp only [field]
      rw [List.lookup_append, h]
      simp

theorem field_setField_ne (v : Json) {k l : String} (x : Val) (h : l ≠ k) :
    (v.setField k x).field l = v.field l := by
  have hne : (l == k) = false := by simpa using h
  cases v with
  | null | bool | num | str | arr => rfl
  | obj fs =>
    cases x with
    | none =>
      simp only [setField, field]
      induction fs with
      | nil => rfl
      | cons f rest ih =>
        obtain ⟨m, b⟩ := f
        by_cases hm : m = k
        · subst hm; simpa [List.lookup_cons, hne] using ih
        · by_cases hlm : l = m
          · subst hlm; simp [hm]
          · have : (l == m) = false := by simpa using hlm
            simpa [List.lookup_cons, hm, this] using ih
    | some y =>
      simp only [setField]
      split
      · simp only [field]
        clear * - hne
        induction fs with
        | nil => rfl
        | cons f rest ih =>
          obtain ⟨m, b⟩ := f
          by_cases hm : m = k
          · subst hm; simp [List.lookup_cons, hne, ih]
          · simp [List.lookup_cons, hm, ih]
      · simp only [field]
        rw [List.lookup_append]
        simp [List.lookup_cons, hne]

/-- A property write leaves an object an object. -/
theorem setField_obj (fs : List (String × Json)) (k : String) (x : Val) :
    ∃ fs', (Json.obj fs).setField k x = .obj fs' := by
  cases x with
  | none => exact ⟨_, rfl⟩
  | some y =>
    rw [setField]
    split
    · exact ⟨_, rfl⟩
    · exact ⟨_, rfl⟩

@[simp] theorem isObject_setField (v : Json) (k : String) (x : Val) :
    (v.setField k x).isObject = v.isObject := by
  cases v with
  | null | bool | num | str | arr => rfl
  | obj fs =>
    cases x with
    | none => rfl
    | some y => simp only [setField]; split <;> rfl

end Json

/-! ### The codec -/

/-- `JSON.parse` and `JSON.stringify`. -/
structure JsonCodec where
  /-- the texts the language prints for its numbers -/
  isNumber : String → Bool
  parse : Bytes → Option Json
  stringify : Json → Bytes
  /-- `0xffffffff` is a number and prints as this text -/
  isNumber_mask : isNumber "4294967295" = true
  parse_stringify : ∀ v : Json, v.Proper isNumber → parse (stringify v) = some v
  parse_proper : ∀ b v, parse b = some v → v.Proper isNumber
  zero_notMem_stringify : ∀ v, 0 ∉ stringify v
  zero_notMem_of_parse : ∀ b v, parse b = some v → 0 ∉ b
  /-- an object is printed with an opening brace first -/
  head?_stringify_obj : ∀ fields, (stringify (.obj fields)).head? = some 0x7b

/-- A value the language can hold. -/
def JsonCodec.Proper (J : JsonCodec) (v : Val) : Prop := ∀ x, v = some x → x.Proper J.isNumber

/-! ### Frames -/

/-- The bytes before the first zero byte. -/
def header (frame : Bytes) : Bytes := frame.takeWhile (· ≠ 0)

/-- The first zero byte and everything after it. -/
def payload (frame : Bytes) : Bytes := frame.dropWhile (· ≠ 0)

theorem header_append_payload (frame : Bytes) : header frame ++ payload frame = frame :=
  List.takeWhile_append_dropWhile

theorem header_of_zero_notMem {h : Bytes} (h0 : 0 ∉ h) (frame : Bytes) :
    header (h ++ payload frame) = h := by
  induction h with
  | nil =>
    unfold header payload
    rw [List.nil_append]
    cases hd : frame.dropWhile (· ≠ 0) with
    | nil => rfl
    | cons b rest =>
      have := List.head?_dropWhile_not (p := (· ≠ 0)) (l := frame)
      rw [hd] at this
      simp only [List.head?_cons] at this
      simp_all
  | cons b rest ih =>
    rw [List.mem_cons, not_or] at h0
    have hb : b ≠ 0 := fun hb => h0.1 hb.symm
    have := ih h0.2
    unfold header at this ⊢
    rw [List.cons_append, List.takeWhile_cons_of_pos (by simpa using hb), this]

theorem payload_of_zero_notMem {h : Bytes} (h0 : 0 ∉ h) (frame : Bytes) :
    payload (h ++ payload frame) = payload frame := by
  have h1 := header_of_zero_notMem h0 frame
  have h2 := header_append_payload (h ++ payload frame)
  rw [h1] at h2
  exact List.append_cancel_left h2

theorem header_eq_self {b : Bytes} (h0 : 0 ∉ b) : header b = b := by
  have := header_of_zero_notMem h0 []
  simpa [payload] using this

end Js
