import DroneEngage.Js.Value
import Mathlib.Data.List.Nodup

/-! A plain JavaScript object used as a lookup table.

    The table owns the rows that were assigned to it, in insertion order. A read that finds no row
    goes on to the prototype, so a key such as `constructor` yields a value nobody stored: that is
    the third outcome `inherited` of `get`. Which names the prototype answers is the argument
    `proto`: `objectPrototype` for an object literal, `[]` for a map without a prototype.
    A method call `t.hasOwnProperty(k)` finds a row stored under the method's own name first, and
    throws.

    An assignment to `__proto__` adds no row. A text that is assigned there is lost, and so the model
    has it. An object would become the prototype of the table, and later reads would find its
    properties: that is left out, and results about tables that hold objects are about states in
    which none was assigned to this key. -/

namespace Js

/-- The names an object literal inherits from `Object.prototype`. -/
def objectPrototype : List String :=
  ["constructor", "__defineGetter__", "__defineSetter__", "hasOwnProperty", "__lookupGetter__",
    "__lookupSetter__", "isPrototypeOf", "propertyIsEnumerable", "toString", "valueOf",
    "__proto__", "toLocaleString"]

/-- The rows a table owns, one for each key, in insertion order. -/
structure Table (α : Type) where
  rows : List (String × α)
  nodup : (rows.map Prod.fst).Nodup

/-- What a property read finds. -/
inductive Slot (α : Type) where
  | absent
  | own (value : α)
  | inherited
  deriving DecidableEq, Repr

namespace Slot

/-- The stored value, if the read found one. -/
def stored? {α : Type} : Slot α → Option α
  | own a => some a
  | _ => none

/-- `slot == null`. -/
def isNullish {α : Type} : Slot α → Bool
  | absent => true
  | _ => false

end Slot

namespace Table

variable {α : Type}

/-- The row of a key. -/
def own? (t : Table α) (k : String) : Option α := t.rows.lookup k

/-- `{}` -/
def empty : Table α := ⟨[], by simp⟩

instance : Inhabited (Table α) := ⟨empty⟩

/-- `Object.keys(t)` -/
def keys (t : Table α) : List String := t.rows.map Prod.fst

/-- `Object.values(t)` -/
def values (t : Table α) : List α := t.rows.map Prod.snd

/-- `t[k]` -/
def get (proto : List String) (t : Table α) (k : String) : Slot α :=
  match t.own? k with
  | some a => .own a
  | none => if k ∈ proto then .inherited else .absent

/-- `t[v]` for a value `v` that is converted to a property key. -/
def index (proto : List String) (t : Table α) (v : Val) : Except JsError (Slot α) :=
  (propKey v).map (get proto t)

/-- The call `t.hasOwnProperty(v)`. -/
def hasOwnProperty (proto : List String) (t : Table α) (v : Val) : Except JsError Bool := do
  let k ← propKey v
  if "hasOwnProperty" ∈ proto ∧ (t.own? "hasOwnProperty").isSome then .error .typeError
  else pure (t.own? k).isSome

/-- The rows after storing a value: an existing key keeps its place. -/
def put (rows : List (String × α)) (k : String) (a : α) : List (String × α) :=
  if k ∈ rows.map Prod.fst then rows.map fun r => if r.1 = k then (k, a) else r
  else rows ++ [(k, a)]

theorem put_keys (rows : List (String × α)) (k : String) (a : α) :
    (put rows k a).map Prod.fst =
      if k ∈ rows.map Prod.fst then rows.map Prod.fst else rows.map Prod.fst ++ [k] := by
  unfold put
  split
  · rw [List.map_map]
    refine List.map_congr_left fun r _ => ?_
    simp only [Function.comp_apply]
    split
    · next h => exact h.symm
    · rfl
  · simp

/-- Store a value under a key. -/
def insert (t : Table α) (k : String) (a : α) : Table α where
  rows := put t.rows k a
  nodup := by
    rw [put_keys]
    split
    · exact t.nodup
    · next h => rw [← List.concat_eq_append, List.nodup_concat]; exact ⟨h, t.nodup⟩

/-- `t[k] = a`. Under `__proto__` this is what happens for a text; an object is not to be stored
    there. -/
def assign (proto : List String) (t : Table α) (k : String) (a : α) : Table α :=
  if k = "__proto__" ∧ k ∈ proto then t else t.insert k a

/-- `delete t[k]` -/
def delete (t : Table α) (k : String) : Table α where
  rows := t.rows.filter (·.1 ≠ k)
  nodup := (List.Sublist.map Prod.fst List.filter_sublist).nodup t.nodup

/-! ### Reading what was written -/

@[simp] theorem own?_empty (k : String) : (empty : Table α).own? k = none := rfl

theorem lookup_put_self (a : α) (k : String) :
    ∀ rows : List (String × α), (put rows k a).lookup k = some a
  | [] => by simp [put]
  | (l, b) :: rest => by
    have ih := lookup_put_self a k rest
    by_cases hlk : l = k
    · subst hlk; simp [put]
    · have hne : (k == l) = false := by simpa using fun h : k = l => hlk h.symm
      unfold put at ih ⊢
      by_cases hin : k ∈ rest.map Prod.fst
      · rw [if_pos hin] at ih
        rw [if_pos (by simpa using Or.inr (by simpa using hin)), List.map_cons, if_neg hlk,
          List.lookup_cons, hne]
        exact ih
      · rw [if_neg hin] at ih
        rw [if_neg (by simpa [Ne.symm hlk] using hin), List.cons_append, List.lookup_cons, hne]
        exact ih

theorem lookup_put_ne (a : α) {k l : String} (h : l ≠ k) :
    ∀ rows : List (String × α), (put rows k a).lookup l = rows.lookup l := by
  intro rows
  have hne : (l == k) = false := by simpa using h
  unfold put
  split
  · clear * - h hne
    induction rows with
    | nil => rfl
    | cons r rest ih =>
      obtain ⟨m, b⟩ := r
      by_cases hm : m = k
      · subst hm; simp [List.lookup_cons, hne, ih]
      · simp [List.lookup_cons, hm, ih]
  · rw [List.lookup_append]
    simp [List.lookup_cons, hne]

@[simp] theorem own?_insert_self (t : Table α) (k : String) (a : α) :
    (t.insert k a).own? k = some a := lookup_put_self a k t.rows

theorem own?_insert_ne (t : Table α) {k l : String} (a : α) (h : l ≠ k) :
    (t.insert k a).own? l = t.own? l := lookup_put_ne a h t.rows

theorem own?_insert (t : Table α) (k l : String) (a : α) :
    (t.insert k a).own? l = if l = k then some a else t.own? l := by
  split
  · next h => rw [h, own?_insert_self]
  · next h => exact own?_insert_ne t a h

theorem own?_delete (t : Table α) (k l : String) :
    (t.delete k).own? l = if l = k then none else t.own? l := by
  change (t.rows.filter (·.1 ≠ k)).lookup l = if l = k then none else t.rows.lookup l
  generalize t.rows = rows
  induction rows with
  | nil => simp
  | cons r rest ih =>
    obtain ⟨m, b⟩ := r
    by_cases hm : m = k
    · subst hm
      by_cases hl : l = m
      · subst hl; simpa using ih
      · have : (l == m) = false := by simpa using hl
        simpa [List.lookup_cons, this, hl] using ih
    · by_cases hl : l = m
      · subst hl; simp [hm]
      · have : (l == m) = false := by simpa using hl
        simpa [List.lookup_cons, this, hm] using ih

@[simp] theorem own?_delete_self (t : Table α) (k : String) : (t.delete k).own? k = none := by
  simp [own?_delete]

/-- A row of the table after a write is the row written or was there before. -/
theorem own?_assign_imp {proto : List String} {t : Table α} {k l : String} {a b : α}
    (h : (t.assign proto k a).own? l = some b) : (l = k ∧ b = a) ∨ t.own? l = some b := by
  unfold assign at h
  split at h
  · exact Or.inr h
  · rw [own?_insert] at h
    split at h
    · next hl => exact Or.inl ⟨hl, by simpa using h.symm⟩
    · exact Or.inr h

/-- A write leaves every key that had a row with a row. -/
theorem isSome_own?_assign {proto : List String} {t : Table α} {l : String} (k : String) (a : α)
    (h : (t.own? l).isSome) : ((t.assign proto k a).own? l).isSome := by
  rw [assign]
  split
  · exact h
  · rw [own?_insert]
    split
    · rfl
    · exact h

/-- A row of the table after a deletion was there before. -/
theorem own?_delete_imp {t : Table α} {k l : String} {b : α}
    (h : (t.delete k).own? l = some b) : t.own? l = some b := by
  rw [own?_delete] at h
  split at h
  · exact absurd h (by simp)
  · exact h

theorem mem_rows_of_own? {t : Table α} {k : String} {a : α} (h : t.own? k = some a) :
    (k, a) ∈ t.rows := by
  unfold own? at h
  obtain ⟨l₁, l₂, hl, -⟩ := List.lookup_eq_some_iff.mp h
  rw [hl]; simp

theorem own?_of_mem_rows {t : Table α} {k : String} {a : α} (h : (k, a) ∈ t.rows) :
    t.own? k = some a := by
  obtain ⟨rows, nodup⟩ := t
  unfold own?
  simp only at h ⊢
  induction rows with
  | nil => simp at h
  | cons r rest ih =>
    obtain ⟨m, b⟩ := r
    rw [List.map_cons, List.nodup_cons] at nodup
    rcases List.mem_cons.mp h with heq | hrest
    · obtain ⟨rfl, rfl⟩ := Prod.mk.inj heq; simp
    · have hmk : (k == m) = false := by
        simp only [beq_eq_false_iff_ne]
        rintro rfl
        exact nodup.1 (List.mem_map.mpr ⟨(k, a), hrest, rfl⟩)
      rw [List.lookup_cons, hmk]
      exact ih nodup.2 hrest

theorem eq_empty {t : Table α} (h : t.rows = []) : t = .empty := by
  obtain ⟨rows, nodup⟩ := t
  subst h
  rfl

/-- Deleting the oldest key leaves the rows after it. -/
theorem delete_oldest {t : Table α} {k : String} {a : α} {rest : List (String × α)}
    (h : t.rows = (k, a) :: rest) : (t.delete k).rows = rest := by
  have hnodup := t.nodup
  rw [h, List.map_cons, List.nodup_cons] at hnodup
  have hkeep : ∀ r ∈ rest, r.1 ≠ k := by
    rintro r hr rfl
    exact hnodup.1 (List.mem_map.mpr ⟨r, hr, rfl⟩)
  change t.rows.filter (·.1 ≠ k) = rest
  rw [h, List.filter_cons_of_neg (by simp)]
  exact List.filter_eq_self.mpr fun r hr => by simpa using hkeep r hr

theorem mem_values_iff {t : Table α} {a : α} : a ∈ t.values ↔ ∃ k, t.own? k = some a := by
  constructor
  · intro h
    obtain ⟨⟨k, b⟩, hmem, rfl⟩ := List.mem_map.mp h
    exact ⟨k, own?_of_mem_rows hmem⟩
  · rintro ⟨k, h⟩
    exact List.mem_map.mpr ⟨(k, a), mem_rows_of_own? h, rfl⟩

theorem mem_keys_iff {t : Table α} {k : String} : k ∈ t.keys ↔ ∃ a, t.own? k = some a := by
  constructor
  · intro h
    obtain ⟨⟨l, b⟩, hmem, rfl⟩ := List.mem_map.mp h
    exact ⟨b, own?_of_mem_rows hmem⟩
  · rintro ⟨a, h⟩
    exact List.mem_map.mpr ⟨(k, a), mem_rows_of_own? h, rfl⟩

/-- A value stored under one key only occurs once. -/
theorem count_values [DecidableEq α] {t : Table α} {k : String} {a : α} (h : t.own? k = some a)
    (hkey : ∀ l, t.own? l = some a → l = k) : t.values.count a = 1 := by
  have hrow : ∀ r ∈ t.rows, r.2 = a ↔ r.1 = k := by
    rintro ⟨l, b⟩ hmem
    have hl := own?_of_mem_rows hmem
    constructor
    · rintro rfl; exact hkey l hl
    · rintro rfl; exact Option.some.inj (hl.symm.trans h)
  have hkeys : t.values.count a = t.keys.count k := by
    rw [values, keys, List.count_eq_countP, List.count_eq_countP, List.countP_map, List.countP_map]
    refine List.countP_congr fun r hr => ?_
    simpa using hrow r hr
  rw [hkeys]
  exact List.count_eq_one_of_mem t.nodup (mem_keys_iff.mpr ⟨a, h⟩)

theorem keys_eq_nil_iff {t : Table α} : t.keys = [] ↔ ∀ k, t.own? k = none := by
  rw [List.eq_nil_iff_forall_not_mem]
  refine forall_congr' fun k => ?_
  rw [mem_keys_iff, Option.eq_none_iff_forall_ne_some, not_exists]

/-- Does an assignment to the key add a row? -/
def Assignable (proto : List String) (k : String) : Prop := ¬ (k = "__proto__" ∧ k ∈ proto)

theorem assign_of_assignable {proto : List String} {k : String} (h : Assignable proto k)
    (t : Table α) (a : α) : t.assign proto k a = t.insert k a := if_neg h

/-! ### The three outcomes of a read -/

theorem get_eq_own_iff {proto : List String} {t : Table α} {k : String} {a : α} :
    t.get proto k = .own a ↔ t.own? k = some a := by
  unfold get
  cases t.own? k with
  | some b => simp
  | none => simp only [reduceCtorEq, iff_false]; split <;> simp

theorem get_eq_absent_iff {proto : List String} {t : Table α} {k : String} :
    t.get proto k = .absent ↔ t.own? k = none ∧ k ∉ proto := by
  unfold get
  cases t.own? k with
  | some b => simp
  | none => by_cases h : k ∈ proto <;> simp [h]

theorem get_eq_inherited_iff {proto : List String} {t : Table α} {k : String} :
    t.get proto k = .inherited ↔ t.own? k = none ∧ k ∈ proto := by
  unfold get
  cases t.own? k with
  | some b => simp
  | none => by_cases h : k ∈ proto <;> simp [h]

/-! ### The method call -/

theorem hasOwnProperty_of_error {proto : List String} (t : Table α) {v : Val} {e : JsError}
    (hk : propKey v = .error e) : t.hasOwnProperty proto v = .error e := by
  unfold hasOwnProperty; rw [hk]; rfl

theorem hasOwnProperty_of_ok {proto : List String} (t : Table α) {v : Val} {k : String}
    (hk : propKey v = .ok k) : t.hasOwnProperty proto v =
      if "hasOwnProperty" ∈ proto ∧ (t.own? "hasOwnProperty").isSome then .error .typeError
      else .ok (t.own? k).isSome := by
  unfold hasOwnProperty; rw [hk]; rfl

/-- The call throws, or it says whether the table owns the key. -/
theorem hasOwnProperty_cases (proto : List String) (t : Table α) (v : Val) :
    (∃ e, t.hasOwnProperty proto v = .error e) ∨
      ∃ k, propKey v = .ok k ∧ t.hasOwnProperty proto v = .ok (t.own? k).isSome := by
  cases hk : propKey v with
  | error e => exact Or.inl ⟨e, hasOwnProperty_of_error t hk⟩
  | ok k =>
    rw [hasOwnProperty_of_ok t hk]
    split
    · exact Or.inl ⟨_, rfl⟩
    · exact Or.inr ⟨k, rfl, rfl⟩

end Table

end Js
