import Mathlib

/-! JavaScript values as a server sees them: what `JSON.parse` can produce, or `undefined`.

    A number is carried as the decimal text JavaScript prints for it: the programs modelled here
    compare numbers, use them as property keys and print them, and two numbers agree on all three
    exactly when that text agrees. A string is a sequence of Unicode scalar values.

    The module fixes the four conversions a program meets when it uses such a value carelessly:
    as a property key (`propKey`), in a strict comparison (`strictEq`), in a test against `null`
    (`isNullish`) and in a test `> 0` (`gtZero`). The first and the last can throw. -/

namespace Js

/-- What a failing operation throws. -/
inductive JsError where
  | typeError
  | referenceError
  /-- the exception of a call into foreign code, such as `send` on a dead socket -/
  | foreign
  deriving DecidableEq, Repr

/-- A value `JSON.parse` can produce; an object lists its own keys once each. -/
inductive Json where
  | null
  | bool (b : Bool)
  | num (text : String)
  | str (s : String)
  | arr (items : List Json)
  | obj (fields : List (String × Json))
  deriving Repr, Inhabited

/-- A JavaScript value: `none` is `undefined`. -/
abbrev Val := Option Json

namespace Json

/-! ### Equality -/

mutual
/-- Structural equality of two values. -/
def decEq : (a b : Json) → Decidable (a = b)
  | .null, .null => isTrue rfl
  | .bool a, .bool b => if h : a = b then isTrue (by rw [h]) else isFalse (by simp [h])
  | .num a, .num b => if h : a = b then isTrue (by rw [h]) else isFalse (by simp [h])
  | .str a, .str b => if h : a = b then isTrue (by rw [h]) else isFalse (by simp [h])
  | .arr a, .arr b => match decEqItems a b with
    | isTrue h => isTrue (by rw [h])
    | isFalse h => isFalse (by simp [h])
  | .obj a, .obj b => match decEqFields a b with
    | isTrue h => isTrue (by rw [h])
    | isFalse h => isFalse (by simp [h])
  | .null, .bool _ | .null, .num _ | .null, .str _ | .null, .arr _ | .null, .obj _
  | .bool _, .null | .bool _, .num _ | .bool _, .str _ | .bool _, .arr _ | .bool _, .obj _
  | .num _, .null | .num _, .bool _ | .num _, .str _ | .num _, .arr _ | .num _, .obj _
  | .str _, .null | .str _, .bool _ | .str _, .num _ | .str _, .arr _ | .str _, .obj _
  | .arr _, .null | .arr _, .bool _ | .arr _, .num _ | .arr _, .str _ | .arr _, .obj _
  | .obj _, .null | .obj _, .bool _ | .obj _, .num _ | .obj _, .str _ | .obj _, .arr _ =>
    isFalse (by simp)

/-- Structural equality of two arrays' items. -/
def decEqItems : (a b : List Json) → Decidable (a = b)
  | [], [] => isTrue rfl
  | [], _ :: _ => isFalse (by simp)
  | _ :: _, [] => isFalse (by simp)
  | a :: as, b :: bs => match decEq a b, decEqItems as bs with
    | isTrue h, isTrue hs => isTrue (by rw [h, hs])
    | isFalse h, _ => isFalse (by simp [h])
    | _, isFalse hs => isFalse (by simp [hs])

/-- Structural equality of two objects' fields. -/
def decEqFields : (a b : List (String × Json)) → Decidable (a = b)
  | [], [] => isTrue rfl
  | [], _ :: _ => isFalse (by simp)
  | _ :: _, [] => isFalse (by simp)
  | (k, a) :: as, (l, b) :: bs =>
    if hk : k = l then
      match decEq a b, decEqFields as bs with
      | isTrue h, isTrue hs => isTrue (by rw [hk, h, hs])
      | isFalse h, _ => isFalse (by simp [h])
      | _, isFalse hs => isFalse (by simp [hs])
    else isFalse (by simp [hk])
end

instance : DecidableEq Json := decEq

/-! ### Own properties of a parsed value -/

/-- Property read `v[k]` for a name that no built-in prototype defines; the caller deals with the
    `null` case, which throws. -/
def field (k : String) : Json → Val
  | .obj fields => fields.lookup k
  | _ => none

/-- Does an object own the key? -/
def owns (k : String) (v : Json) : Bool := (v.field k).isSome

/-- Property write `v[k] = x` on an object; a key set to `undefined` disappears from its text. -/
def setField (k : String) (x : Val) : Json → Json
  | .obj fields =>
    match x with
    | none => .obj (fields.filter (·.1 ≠ k))
    | some x =>
      if (fields.lookup k).isSome then .obj (fields.map fun f => if f.1 = k then (k, x) else f)
      else .obj (fields ++ [(k, x)])
  | v => v

/-- A value that can carry properties of its own: strict-mode writes to the others throw. -/
def isObject : Json → Bool
  | .arr _ => true
  | .obj _ => true
  | _ => false

/-- `Array.isArray`, with the items. -/
def items? : Json → Option (List Json)
  | .arr items => some items
  | _ => none

/-- The call `v.hasOwnProperty(k)`: an own key of that name shadows the inherited method. -/
def hasOwnProperty (k : String) : Json → Except JsError Bool
  | .null => .error .typeError
  | v => if v.owns "hasOwnProperty" then .error .typeError else .ok (v.owns k)

end Json

/-- Property read `v.k`. -/
def readProp (k : String) : Val → Except JsError Val
  | none => .error .typeError
  | some .null => .error .typeError
  | some v => .ok (v.field k)

/-- Property write `v.k = x`, in strict mode; the changed value is returned. -/
def writeProp (k : String) (x : Val) : Val → Except JsError Json
  | none => .error .typeError
  | some v => if v.isObject then .ok (v.setField k x) else .error .typeError

/-! ### Conversions -/

mutual
/-- `String(v)` of a parsed value: an object whose own `toString` shadows the inherited method
    has no primitive value. -/
def toText : Json → Except JsError String
  | .null => .ok "null"
  | .bool b => .ok (if b then "true" else "false")
  | .num text => .ok text
  | .str s => .ok s
  | .arr items => (itemTexts items).map fun ts => String.intercalate "," ts
  | .obj fields => if (fields.lookup "toString").isSome then .error .typeError
      else .ok "[object Object]"

/-- The texts `Array.prototype.join` puts together: `null` contributes nothing. -/
def itemTexts : List Json → Except JsError (List String)
  | [] => .ok []
  | .null :: rest => (itemTexts rest).map ("" :: ·)
  | v :: rest => do
    let t ← toText v
    let ts ← itemTexts rest
    pure (t :: ts)
end

/-- The property key a value is converted to by `table[v]`. -/
def propKey : Val → Except JsError String
  | none => .ok "undefined"
  | some v => toText v

/-- `v == null`. -/
def isNullish : Val → Bool
  | none => true
  | some .null => true
  | some _ => false

/-- `a === b` for two values that come from different parses: objects and arrays are compared by
    identity, so two of them never agree. -/
def strictEq : Val → Val → Bool
  | some (.arr _), _ => false
  | some (.obj _), _ => false
  | a, b => a = b

/-- `v == text` for a text that is no numeral: objects and arrays are converted to text first. -/
def looseEqText (v : Val) (text : String) : Except JsError Bool :=
  match v with
  | some (.str s) => .ok (s = text)
  | some (.arr items) => (toText (.arr items)).map fun t => decide (t = text)
  | some (.obj fields) => (toText (.obj fields)).map fun t => decide (t = text)
  | _ => .ok false

/-- Truthiness, as `||` and `if` read it. -/
def isTruthy : Val → Bool
  | none => false
  | some .null => false
  | some (.bool b) => b
  | some (.num text) => text ≠ "0"
  | some (.str s) => s ≠ ""
  | some _ => true

/-- The digits of a decimal mantissa: at most one point, and at least one digit. -/
def isMantissa (cs : List Char) : Bool :=
  cs.all (fun c => c.isDigit || c = '.') && (cs.filter (· = '.')).length ≤ 1 && cs.any Char.isDigit

/-- White space and line terminators, as JavaScript has them. -/
def isWhiteSpace (c : Char) : Bool :=
  ('\t' ≤ c && c ≤ '\r') || c = ' ' || c = '\u00A0' || c = '\u1680' ||
    ('\u2000' ≤ c && c ≤ '\u200A') || c = '\u2028' || c = '\u2029' || c = '\u202F' ||
    c = '\u205F' || c = '\u3000' || c = '\uFEFF'

/-- The characters of a text without the white space around them. -/
def trimmed (s : String) : List Char :=
  ((s.toList.dropWhile isWhiteSpace).reverse.dropWhile isWhiteSpace).reverse

/-- The value of an unsigned decimal numeral, as a fraction. -/
def decimalValue (cs : List Char) : Option (ℕ × ℕ) :=
  let mantissa := cs.takeWhile fun c => c ≠ 'e' && c ≠ 'E'
  let exponent := (cs.dropWhile fun c => c ≠ 'e' && c ≠ 'E').tail
  let digits := if exponent.head? = some '+' || exponent.head? = some '-' then exponent.tail
    else exponent
  let wellFormed := isMantissa mantissa && digits.all Char.isDigit
    && (mantissa.length = cs.length || digits ≠ [])
  let value (ds : List Char) : ℕ := ds.foldl (fun n d => 10 * n + (d.toNat - '0'.toNat)) 0
  let places := (mantissa.dropWhile (· ≠ '.')).tail.length
  let whole := value (mantissa.filter (· ≠ '.'))
  if !wellFormed then none
  else if exponent.head? = some '-' then some (whole, 10 ^ (places + value digits))
  else some (whole * 10 ^ value digits, 10 ^ places)

/-- The value of a hexadecimal, octal or binary literal. -/
def radixValue : List Char → Option ℕ
  | '0' :: r :: digits =>
    let base := if "xX".toList.contains r then 16 else if "oO".toList.contains r then 8
      else if "bB".toList.contains r then 2 else 0
    let digit (c : Char) : ℕ := if c.isDigit then c.toNat - '0'.toNat
      else if 'a' ≤ c.toLower && c.toLower ≤ 'f' then 10 + (c.toLower.toNat - 'a'.toNat) else 16
    if digits ≠ [] ∧ ∀ c ∈ digits, digit c < base
    then some (digits.foldl (fun n c => base * n + digit c) 0) else none
  | _ => none

/-- `i < x` for the number a fraction is rounded to. Half way to the next number it is rounded to
    `i`. -/
def roundsAbove (i : ℕ) (x : ℕ × ℕ) : Bool :=
  if i = 0 then x.2 < x.1 * 2 ^ 1075
  else (i * 2 ^ (53 - i.log2) + 1) * x.2 < x.1 * 2 ^ (53 - i.log2)

/-- `i < Number(s)` for a string. -/
def textAbove (i : ℕ) (s : String) : Bool :=
  let cs := trimmed s
  let unsigned := if cs.head? = some '+' then cs.tail else cs
  unsigned = "Infinity".toList || (decimalValue unsigned).any (roundsAbove i) ||
    (radixValue cs).any fun n => roundsAbove i (n, 1)

/-- `Number(s) > 0` for a string. -/
def textGtZero (s : String) : Bool := textAbove 0 s

/-- `v > 0`. -/
def gtZero : Val → Except JsError Bool
  | none => .ok false
  | some .null => .ok false
  | some (.bool b) => .ok b
  | some (.num text) => .ok (text ≠ "0" && text.toList.head? ≠ some '-')
  | some (.str s) => .ok (textGtZero s)
  | some v => (toText v).map textGtZero

/-- `v.length > 0` for a property read of `length`. -/
def lengthGtZero : Val → Except JsError Bool
  | none => .error .typeError
  | some .null => .error .typeError
  | some (.str s) => .ok (s ≠ "")
  | some (.arr items) => .ok (items ≠ [])
  | some v => gtZero (v.field "length")

/-- Is a decimal numeral read as zero? A value of at most `2 ^ -1075` is rounded to it. -/
def decimalIsZero (cs : List Char) : Bool :=
  let cs := if cs.head? = some '+' || cs.head? = some '-' then cs.tail else cs
  let mantissa := cs.takeWhile fun c => c ≠ 'e' && c ≠ 'E'
  let exponent := (cs.dropWhile fun c => c ≠ 'e' && c ≠ 'E').tail
  let digits := if exponent.head? = some '+' || exponent.head? = some '-' then exponent.tail
    else exponent
  let wellFormed := isMantissa mantissa && digits.all Char.isDigit
    && (mantissa.length = cs.length || digits ≠ [])
  let value (ds : List Char) : ℕ := ds.foldl (fun n d => 10 * n + (d.toNat - '0'.toNat)) 0
  let places := (mantissa.dropWhile (· ≠ '.')).tail.length
  let whole := value (mantissa.filter (· ≠ '.'))
  let (up, down) := if exponent.head? = some '-' then (0, value digits) else (value digits, 0)
  wellFormed && (whole = 0 || whole * 2 ^ 1075 * 10 ^ up ≤ 10 ^ (places + down))

/-- Is the text of a hexadecimal, octal or binary literal read as zero? -/
def radixIsZero : List Char → Bool
  | '0' :: r :: digits => "xXoObB".toList.contains r && digits ≠ [] && digits.all (· = '0')
  | _ => false

/-- `Number(s) == 0` for a string; a blank one is read as zero. -/
def textIsZero (s : String) : Bool :=
  let cs := trimmed s
  cs.isEmpty || decimalIsZero cs || radixIsZero cs

example : textGtZero "\x0b1" = true ∧ textGtZero "1e-400" = false ∧ textIsZero "\ufeff0" = true := by
  decide +kernel

/-- `v == 0` -/
def looseEqZero : Val → Except JsError Bool
  | none => .ok false
  | some .null => .ok false
  | some (.bool b) => .ok (!b)
  | some (.num text) => .ok (text = "0")
  | some (.str s) => .ok (textIsZero s)
  | some v => (toText v).map textIsZero

/-- `v.length == 0` for a property read of `length`. -/
def lengthIsZero : Val → Except JsError Bool
  | none => .error .typeError
  | some .null => .error .typeError
  | some (.str s) => .ok (s = "")
  | some (.arr items) => .ok (items = [])
  | some v => looseEqZero (v.field "length")

/-- `v.length === 0` for a property read of `length`. -/
def lengthIsStrictlyZero : Val → Except JsError Bool
  | none => .error .typeError
  | some .null => .error .typeError
  | some (.str s) => .ok (s = "")
  | some (.arr items) => .ok (items = [])
  | some v => .ok (v.field "length" = some (.num "0"))

/-- `i < v` for a natural number. -/
def natLt (i : ℕ) : Val → Except JsError Bool
  | none => .ok false
  | some .null => .ok false
  | some (.bool b) => .ok (decide (i < b.toNat))
  | some (.num text) => .ok (textAbove i text)
  | some (.str s) => .ok (textAbove i s)
  | some v => (toText v).map (textAbove i)

/-! ### Lemmas -/

/-- A sequence of computations that can throw ends well when both do. -/
theorem bind_eq_ok {α β : Type} {x : Except JsError α} {f : α → Except JsError β} {b : β} :
    (x >>= f) = .ok b ↔ ∃ a, x = .ok a ∧ f a = .ok b := by
  cases x with
  | error e => simp [bind, Except.bind]
  | ok a => simp [bind, Except.bind]

@[simp] theorem propKey_none : propKey none = .ok "undefined" := rfl

@[simp] theorem propKey_str (s : String) : propKey (some (.str s)) = .ok s := by
  simp [propKey, toText]

end Js
