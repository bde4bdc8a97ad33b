import Mathlib.Data.List.Basic
import Mathlib.Tactic.Common

/-! `encodeURIComponent`, and the query strings made of it.

    A character that is not left as it is becomes at least three characters, the first of them `%`:
    a text is its own encoding exactly when all its characters are left as they are. -/

namespace Js

/-- The characters that are left as they are. -/
def isUnreserved (c : Char) : Bool := c.isAlphanum || "-_.!~*'()".toList.contains c

def Unreserved (s : String) : Prop := ∀ c ∈ s.toList, isUnreserved c = true

def hexDigits : List Char := "0123456789ABCDEF".toList

def hexDigit (n : ℕ) : Char := hexDigits.getD n '0'

/-- A byte as `%XX`. -/
def percentByte (b : UInt8) : List Char :=
  ['%', hexDigit (b.toNat / 16), hexDigit (b.toNat % 16)]

def encodeChar (c : Char) : List Char :=
  if isUnreserved c then [c] else (String.utf8EncodeChar c).flatMap percentByte

def encodeURIComponent (s : String) : String := String.ofList (s.toList.flatMap encodeChar)

/-- The characters of a query: the first parameter after `?`, the others after `&`. -/
def queryChars (mark : Char) : List (String × String) → List Char
  | [] => []
  | (k, v) :: rest => mark :: (k.toList ++ '=' :: (v.toList ++ queryChars '&' rest))

/-- A URL with a query. -/
def withQuery (path : String) (params : List (String × String)) : String :=
  path ++ String.ofList (queryChars '?' params)

/-! ### What is left as it is -/

theorem encodeChar_of_unreserved {c : Char} (h : isUnreserved c = true) : encodeChar c = [c] :=
  if_pos h

theorem hexDigit_unreserved (n : ℕ) : isUnreserved (hexDigit n) = true := by
  have hmem : hexDigit n ∈ '0' :: hexDigits := by
    rw [hexDigit, List.getD_eq_getElem?_getD]
    cases h : hexDigits[n]? with
    | none => exact List.mem_cons_self
    | some c => exact List.mem_cons_of_mem _ (List.mem_of_getElem? h)
  have hall : ('0' :: hexDigits).all isUnreserved = true := by decide
  exact List.all_eq_true.mp hall _ hmem

/-- A character of an encoding is `%` or left as it is. -/
theorem mem_encodeChar {c d : Char} (h : d ∈ encodeChar c) : d = '%' ∨ isUnreserved d = true := by
  rw [encodeChar] at h
  split at h
  · next hc => exact Or.inr (List.mem_singleton.mp h ▸ hc)
  · obtain ⟨b, -, hd⟩ := List.mem_flatMap.mp h
    simp only [percentByte, List.mem_cons, List.not_mem_nil, or_false] at hd
    rcases hd with rfl | rfl | rfl
    · exact Or.inl rfl
    · exact Or.inr (hexDigit_unreserved _)
    · exact Or.inr (hexDigit_unreserved _)

theorem mem_encodeURIComponent {s : String} {d : Char} (h : d ∈ (encodeURIComponent s).toList) :
    d = '%' ∨ isUnreserved d = true := by
  rw [encodeURIComponent, String.toList_ofList] at h
  obtain ⟨c, -, hd⟩ := List.mem_flatMap.mp h
  exact mem_encodeChar hd

/-- A character that is not left as it is becomes a `%` and at least two more characters. -/
theorem encodeChar_of_reserved {c : Char} (h : isUnreserved c = false) :
    ∃ d d' rest, encodeChar c = '%' :: d :: d' :: rest := by
  rw [encodeChar, h, if_neg Bool.false_ne_true]
  cases hbytes : String.utf8EncodeChar c with
  | nil =>
    have hlength := String.length_utf8EncodeChar c
    have hpos := c.utf8Size_pos
    rw [hbytes, List.length_nil] at hlength
    omega
  | cons b bytes => exact ⟨_, _, _, rfl⟩

theorem length_encodeChar (c : Char) : 1 ≤ (encodeChar c).length := by
  cases h : isUnreserved c with
  | true => rw [encodeChar_of_unreserved h]; exact Nat.le_refl 1
  | false =>
    obtain ⟨d, d', rest, hc⟩ := encodeChar_of_reserved h
    rw [hc, List.length_cons]
    omega

theorem length_le_encode : ∀ cs : List Char, cs.length ≤ (cs.flatMap encodeChar).length
  | [] => Nat.le_refl 0
  | c :: cs => by
    have hc := length_encodeChar c
    have hcs := length_le_encode cs
    rw [List.flatMap_cons, List.length_append, List.length_cons]
    omega

theorem encode_eq_self : ∀ {cs : List Char}, cs.flatMap encodeChar = cs →
    ∀ c ∈ cs, isUnreserved c = true
  | [], _, c, hc => absurd hc List.not_mem_nil
  | c :: cs, h, d, hd => by
    rw [List.flatMap_cons] at h
    cases hc : isUnreserved c with
    | true =>
      rw [encodeChar_of_unreserved hc, List.singleton_append] at h
      rcases List.mem_cons.mp hd with rfl | hd
      · exact hc
      · exact encode_eq_self (List.cons.inj h).2 d hd
    | false =>
      obtain ⟨x, y, rest, hchar⟩ := encodeChar_of_reserved hc
      have hlength := congrArg List.length h
      have hle := length_le_encode cs
      rw [hchar, List.length_append] at hlength
      simp only [List.length_cons] at hlength
      omega

/-- A text is its own encoding exactly when its characters are left as they are. -/
theorem encodeURIComponent_eq_self_iff {s : String} : encodeURIComponent s = s ↔ Unreserved s := by
  constructor
  · intro h
    have hchars := congrArg String.toList h
    rw [encodeURIComponent, String.toList_ofList] at hchars
    exact encode_eq_self hchars
  · intro h
    have hchars : s.toList.flatMap encodeChar = s.toList.flatMap fun c => [c] :=
      List.flatMap_congr fun c hc => encodeChar_of_unreserved (h c hc)
    rw [encodeURIComponent, hchars, List.flatMap_singleton', String.ofList_toList]

/-- The encoding of another text holds a `%`. -/
theorem not_unreserved_encode {s : String} (h : ¬ Unreserved s) :
    ¬ Unreserved (encodeURIComponent s) := by
  rw [Unreserved] at h
  push Not at h
  obtain ⟨c, hc, hreserved⟩ := h
  obtain ⟨x, y, rest, hchar⟩ := encodeChar_of_reserved (Bool.eq_false_iff.mpr hreserved)
  intro hall
  have hmem : '%' ∈ (encodeURIComponent s).toList := by
    rw [encodeURIComponent, String.toList_ofList]
    exact List.mem_flatMap.mpr ⟨c, hc, by rw [hchar]; exact List.mem_cons_self⟩
  exact absurd (hall '%' hmem) (by decide)

end Js
