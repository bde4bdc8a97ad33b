import DroneEngage.Js.Codec
import DroneEngage.Js.Table

/-! A concrete `JSON.stringify` and `JSON.parse`: the laws of `JsonCodec` can be had.

    Values are printed without white space, and every character that is not printable ASCII as a
    `\u` escape of its UTF-16 code units. Numbers are the integers of at most fifteen digits. What
    is read back is this compact form, with the short escapes of the standard; other texts are
    refused. -/

namespace Js
namespace Text

/-! ### Code units -/

/-- The UTF-16 code units of a character. -/
def units (c : Char) : List ℕ :=
  if c.toNat < 0x10000 then [c.toNat]
  else [0xD800 + (c.toNat - 0x10000) / 0x400, 0xDC00 + (c.toNat - 0x10000) % 0x400]

/-- The characters of a sequence of code units; a lone surrogate is refused. -/
def chars : List ℕ → Option (List Char)
  | [] => some []
  | u :: rest =>
    if u < 0xD800 ∨ 0xDFFF < u then (chars rest).map (Char.ofNat u :: ·)
    else match rest with
      | v :: rest' =>
        if u < 0xDC00 ∧ 0xDC00 ≤ v ∧ v < 0xE000 then
          (chars rest').map (Char.ofNat (0x10000 + (u - 0xD800) * 0x400 + (v - 0xDC00)) :: ·)
        else none
      | [] => none

theorem chars_append_units (c : Char) (us : List ℕ) :
    chars (units c ++ us) = (chars us).map (c :: ·) := by
  have hlow : c.toNat < 0xD800 ∨ (0xDFFF < c.toNat ∧ c.toNat < 0x110000) := c.valid
  unfold units
  split
  · next h =>
    rw [List.singleton_append, chars.eq_def]
    simp only
    rw [if_pos (by omega), Char.ofNat_toNat]
  · next h =>
    rw [List.cons_append, List.cons_append, List.nil_append, chars.eq_def]
    simp only
    rw [if_neg (by omega), if_pos (by omega)]
    have hback : 0x10000 + (0xD800 + (c.toNat - 0x10000) / 0x400 - 0xD800) * 0x400 +
        (0xDC00 + (c.toNat - 0x10000) % 0x400 - 0xDC00) = c.toNat := by omega
    rw [hback, Char.ofNat_toNat]

theorem chars_units : ∀ cs : List Char, chars (cs.flatMap units) = some cs
  | [] => rfl
  | c :: cs => by rw [List.flatMap_cons, chars_append_units, chars_units cs]; rfl

theorem units_lt (c : Char) : ∀ u ∈ units c, u < 65536 := by
  have hlow : c.toNat < 0xD800 ∨ (0xDFFF < c.toNat ∧ c.toNat < 0x110000) := c.valid
  unfold units
  intro u hu
  split at hu
  · rw [List.mem_singleton] at hu; omega
  · simp only [List.mem_cons, List.not_mem_nil, or_false] at hu
    rcases hu with hu | hu <;> omega

/-! ### Strings -/

def hexDigit (d : ℕ) : Char := Char.ofNat (if d < 10 then 48 + d else 87 + d)

def hexVal (c : Char) : Option ℕ :=
  if '0' ≤ c ∧ c ≤ '9' then some (c.toNat - 48)
  else if 'a' ≤ c ∧ c ≤ 'f' then some (c.toNat - 87)
  else if 'A' ≤ c ∧ c ≤ 'F' then some (c.toNat - 55)
  else none

theorem hexVal_hexDigit : ∀ d < 16, hexVal (hexDigit d) = some d := by decide

/-- A code unit that stands for itself: printable ASCII without the quote and the backslash. -/
def plain (u : ℕ) : Bool := 32 ≤ u && u < 127 && u ≠ 34 && u ≠ 92

def printUnit (u : ℕ) : List Char :=
  if plain u then [Char.ofNat u]
  else ['\\', 'u', hexDigit (u / 4096 % 16), hexDigit (u / 256 % 16), hexDigit (u / 16 % 16),
    hexDigit (u % 16)]

/-- The code unit of a short escape. -/
def shortEscape (c : Char) : Option ℕ :=
  [('"', 34), ('\\', 92), ('/', 47), ('b', 8), ('f', 12), ('n', 10), ('r', 13), ('t', 9)].lookup c

/-- The rest of a string after its opening quote. -/
def parseUnits : List Char → Option (List ℕ × List Char)
  | '"' :: rest => some ([], rest)
  | '\\' :: 'u' :: a :: b :: c :: d :: rest => do
    let u := (← hexVal a) * 4096 + (← hexVal b) * 256 + (← hexVal c) * 16 + (← hexVal d)
    let p ← parseUnits rest
    pure (u :: p.1, p.2)
  | '\\' :: e :: rest => do
    let u ← shortEscape e
    let p ← parseUnits rest
    pure (u :: p.1, p.2)
  | c :: rest =>
    if plain c.toNat then (parseUnits rest).map fun p => (c.toNat :: p.1, p.2) else none
  | [] => none

theorem toNat_ofNat_ascii : ∀ u < 127, (Char.ofNat u).toNat = u := by decide

theorem parseUnits_plain {c : Char} (hp : plain c.toNat = true) (rest : List Char) :
    parseUnits (c :: rest) = (parseUnits rest).map fun p => (c.toNat :: p.1, p.2) := by
  rw [parseUnits.eq_def]
  split
  · next h => obtain ⟨rfl, -⟩ := List.cons.inj h; exact absurd hp (by decide)
  · next h => obtain ⟨rfl, -⟩ := List.cons.inj h; exact absurd hp (by decide)
  · next h => obtain ⟨rfl, -⟩ := List.cons.inj h; exact absurd hp (by decide)
  · next h => obtain ⟨rfl, rfl⟩ := List.cons.inj h; rw [if_pos hp]
  · next h => exact absurd h (by simp)

theorem parseUnits_printUnit {u : ℕ} (hu : u < 65536) (rest : List Char) :
    parseUnits (printUnit u ++ rest) = (parseUnits rest).map fun p => (u :: p.1, p.2) := by
  unfold printUnit
  split
  · next hp =>
    have hlt : u < 127 := by
      simp only [plain, Bool.and_eq_true, decide_eq_true_eq] at hp; omega
    have hnat : (Char.ofNat u).toNat = u := toNat_ofNat_ascii u hlt
    rw [List.singleton_append, parseUnits_plain (by rw [hnat]; exact hp), hnat]
  · simp only [List.cons_append, List.nil_append, parseUnits]
    rw [hexVal_hexDigit _ (by omega), hexVal_hexDigit _ (by omega), hexVal_hexDigit _ (by omega),
      hexVal_hexDigit _ (by omega)]
    have hback : u / 4096 % 16 * 4096 + u / 256 % 16 * 256 + u / 16 % 16 * 16 + u % 16 = u := by
      omega
    cases parseUnits rest with
    | none => rfl
    | some p => simp [hback]

theorem parseUnits_print : ∀ (us : List ℕ) (rest : List Char), (∀ u ∈ us, u < 65536) →
    parseUnits (us.flatMap printUnit ++ '"' :: rest) = some (us, rest)
  | [], rest, _ => by simp [parseUnits]
  | u :: us, rest, h => by
    rw [List.flatMap_cons, List.append_assoc, parseUnits_printUnit (h u (by simp)),
      parseUnits_print us rest fun v hv => h v (by simp [hv])]
    rfl

/-- A string with its quotes. -/
def printString (s : String) : List Char :=
  '"' :: ((s.toList.flatMap units).flatMap printUnit ++ ['"'])

/-- The rest of a string after its opening quote, as a string. -/
def parseString (cs : List Char) : Option (String × List Char) := do
  let p ← parseUnits cs
  let s ← chars p.1
  pure (String.ofList s, p.2)

theorem parseString_print (s : String) (rest : List Char) :
    parseString ((s.toList.flatMap units).flatMap printUnit ++ '"' :: rest) = some (s, rest) := by
  unfold parseString
  rw [parseUnits_print _ _ fun u hu => ?_]
  · simp [chars_units]
  · obtain ⟨c, -, hc⟩ := List.mem_flatMap.mp hu
    exact units_lt c u hc

/-! ### Numbers -/

/-- A decimal integer without leading zeros, short enough to be exact. -/
def isNatural (cs : List Char) : Bool :=
  cs.all Char.isDigit && cs ≠ [] && (cs.head? ≠ some '0' || cs = ['0']) && cs.length ≤ 15

/-- The texts of the integers of at most fifteen digits. -/
def isNumber (text : String) : Bool :=
  match text.toList with
  | '-' :: cs => isNatural cs && cs ≠ ['0']
  | cs => isNatural cs

/-- A character of a number. -/
def isNumeral (c : Char) : Bool :=
  c.isDigit || c = '-' || c = '+' || c = '.' || c = 'e' || c = 'E'

def parseNumber (cs : List Char) : Option (Json × List Char) :=
  let text := String.ofList (cs.takeWhile isNumeral)
  if isNumber text then some (.num text, cs.dropWhile isNumeral) else none

theorem isNumeral_of_isNumber {text : String} (h : isNumber text = true) :
    ∀ c ∈ text.toList, isNumeral c = true := by
  have hdigit : ∀ cs, isNatural cs = true → ∀ c ∈ cs, isNumeral c = true := fun cs hcs c hc => by
    simp only [isNatural, Bool.and_eq_true, List.all_eq_true] at hcs
    simp [isNumeral, hcs.1.1.1 c hc]
  unfold isNumber at h
  split at h
  · next cs hcs =>
    rw [Bool.and_eq_true] at h
    rw [hcs]
    intro c hc
    rcases List.mem_cons.mp hc with rfl | hc
    · decide
    · exact hdigit cs h.1 c hc
  · exact hdigit _ h

/-- What follows a value does not go on with a number. -/
def Ends (rest : List Char) : Prop := ∀ c, rest.head? = some c → isNumeral c = false

theorem parseNumber_print {text : String} (h : isNumber text = true) {rest : List Char}
    (hr : Ends rest) : parseNumber (text.toList ++ rest) = some (.num text, rest) := by
  have hall := isNumeral_of_isNumber h
  have htake : (text.toList ++ rest).takeWhile isNumeral = text.toList := by
    rw [List.takeWhile_append_of_pos hall]
    cases rest with
    | nil => simp
    | cons c rest => rw [List.takeWhile_cons_of_neg (by simp [hr c rfl])]; simp
  have hdrop : (text.toList ++ rest).dropWhile isNumeral = rest := by
    rw [List.dropWhile_append_of_pos hall]
    cases rest with
    | nil => simp
    | cons c rest => rw [List.dropWhile_cons_of_neg (by simp [hr c rfl])]
  unfold parseNumber
  rw [htake, hdrop]
  simp [h]

/-! ### Values -/

mutual
/-- A value without white space. -/
def print : Json → List Char
  | .null => ['n', 'u', 'l', 'l']
  | .bool true => ['t', 'r', 'u', 'e']
  | .bool false => ['f', 'a', 'l', 's', 'e']
  | .num text => text.toList
  | .str s => printString s
  | .arr [] => ['[', ']']
  | .arr (v :: rest) => '[' :: (print v ++ printItems rest)
  | .obj [] => ['{', '}']
  | .obj ((k, v) :: rest) => '{' :: (printString k ++ ':' :: (print v ++ printFields rest))

/-- The items after the first, and the closing bracket. -/
def printItems : List Json → List Char
  | [] => [']']
  | v :: rest => ',' :: (print v ++ printItems rest)

/-- The fields after the first, and the closing brace. -/
def printFields : List (String × Json) → List Char
  | [] => ['}']
  | (k, v) :: rest => ',' :: (printString k ++ ':' :: (print v ++ printFields rest))
end

mutual
/-- A value and what follows it; the fuel bounds the number of steps. -/
def parseValue : ℕ → List Char → Option (Json × List Char)
  | 0, _ => none
  | n + 1, cs =>
    match cs with
    | 'n' :: 'u' :: 'l' :: 'l' :: rest => some (.null, rest)
    | 't' :: 'r' :: 'u' :: 'e' :: rest => some (.bool true, rest)
    | 'f' :: 'a' :: 'l' :: 's' :: 'e' :: rest => some (.bool false, rest)
    | '"' :: rest => (parseString rest).map fun p => (.str p.1, p.2)
    | '[' :: ']' :: rest => some (.arr [], rest)
    | '[' :: rest => do
      let v ← parseValue n rest
      let vs ← parseItems n v.2
      pure (.arr (v.1 :: vs.1), vs.2)
    | '{' :: '}' :: rest => some (.obj [], rest)
    | '{' :: rest => do
      let f ← parseField n rest
      let fs ← parseFields n f.2
      pure (.obj ((f.1 :: fs.1).foldl (fun rows r => Table.put rows r.1 r.2) []), fs.2)
    | cs => parseNumber cs

def parseItems : ℕ → List Char → Option (List Json × List Char)
  | 0, _ => none
  | n + 1, cs =>
    match cs with
    | ']' :: rest => some ([], rest)
    | ',' :: rest => do
      let v ← parseValue n rest
      let vs ← parseItems n v.2
      pure (v.1 :: vs.1, vs.2)
    | _ => none

/-- A key and its value. -/
def parseField : ℕ → List Char → Option ((String × Json) × List Char)
  | 0, _ => none
  | n + 1, cs =>
    match cs with
    | '"' :: rest => do
      let k ← parseString rest
      match k.2 with
      | ':' :: rest => do
        let v ← parseValue n rest
        pure ((k.1, v.1), v.2)
      | _ => none
    | _ => none

def parseFields : ℕ → List Char → Option (List (String × Json) × List Char)
  | 0, _ => none
  | n + 1, cs =>
    match cs with
    | '}' :: rest => some ([], rest)
    | ',' :: rest => do
      let f ← parseField n rest
      let fs ← parseFields n f.2
      pure (f.1 :: fs.1, fs.2)
    | _ => none
end

/-! ### Reading a printed value -/

theorem parseValue_numeral (n : ℕ) {c : Char} (hc : isNumeral c = true) (cs : List Char) :
    parseValue (n + 1) (c :: cs) = parseNumber (c :: cs) := by
  rw [parseValue]
  all_goals
    rintro _ h
    obtain ⟨rfl, -⟩ := List.cons.inj h
    exact absurd hc (by decide)

theorem parseValue_array (n : ℕ) {c : Char} (hc : c ≠ ']') (cs : List Char) :
    parseValue (n + 1) ('[' :: c :: cs) = (parseValue n (c :: cs)).bind fun v =>
      (parseItems n v.2).bind fun vs => some (.arr (v.1 :: vs.1), vs.2) := by
  rw [parseValue]
  · rfl
  · rintro _ h
    exact hc (List.cons.inj h).1

theorem parseValue_object (n : ℕ) {c : Char} (hc : c ≠ '}') (cs : List Char) :
    parseValue (n + 1) ('{' :: c :: cs) = (parseField n (c :: cs)).bind fun f =>
      (parseFields n f.2).bind fun fs => some
        (.obj ((f.1 :: fs.1).foldl (fun rows r => Table.put rows r.1 r.2) []), fs.2) := by
  rw [parseValue]
  · rfl
  · rintro _ h
    exact hc (List.cons.inj h).1

theorem print_head {v : Json} (hv : v.Proper isNumber) :
    ∃ c cs, print v = c :: cs ∧ c ≠ ']' := by
  cases v with
  | null => exact ⟨_, _, rfl, by decide⟩
  | bool b => cases b <;> exact ⟨_, _, rfl, by decide⟩
  | num text =>
    have hall := isNumeral_of_isNumber hv
    cases hcs : text.toList with
    | nil =>
      have : isNumber text = false := by unfold isNumber; rw [hcs]; rfl
      rw [Json.Proper, this] at hv; exact absurd hv (by simp)
    | cons c cs =>
      refine ⟨c, cs, by rw [print, hcs], ?_⟩
      rintro rfl
      exact absurd (hall ']' (by rw [hcs]; simp)) (by decide)
  | str s => exact ⟨_, _, rfl, by decide⟩
  | arr items => cases items <;> exact ⟨_, _, rfl, by decide⟩
  | obj fields => cases fields <;> exact ⟨_, _, rfl, by decide⟩

theorem ends_cons {c : Char} (hc : isNumeral c = false) (rest : List Char) : Ends (c :: rest) := by
  intro d hd; cases hd; exact hc

theorem ends_printItems (vs : List Json) (rest : List Char) : Ends (printItems vs ++ rest) := by
  cases vs <;> exact ends_cons (by decide) _

theorem ends_printFields (fs : List (String × Json)) (rest : List Char) :
    Ends (printFields fs ++ rest) := by
  cases fs <;> exact ends_cons (by decide) _

/-- Inserting fields with distinct keys one after the other appends them. -/
theorem foldl_put (rows : List (String × Json)) : ∀ acc : List (String × Json),
    ((acc ++ rows).map Prod.fst).Nodup →
      rows.foldl (fun rows r => Table.put rows r.1 r.2) acc = acc ++ rows := by
  induction rows with
  | nil => simp
  | cons r rows ih =>
    intro acc h
    have hr : r.1 ∉ acc.map Prod.fst := by
      rw [List.map_append, List.map_cons, List.nodup_append] at h
      exact fun hmem => h.2.2 _ hmem _ List.mem_cons_self rfl
    rw [List.foldl_cons, Table.put, if_neg hr]
    have := ih (acc ++ [(r.1, r.2)]) (by simpa using h)
    simpa using this

/-- A printed field is read back, if its value is. -/
theorem parseField_print {k : String} {v : Json} {n : ℕ} {rest : List Char}
    (h : parseValue n (print v ++ rest) = some (v, rest)) :
    parseField (n + 1) (printString k ++ ':' :: (print v ++ rest)) = some ((k, v), rest) := by
  unfold printString
  rw [List.cons_append, List.append_assoc, List.singleton_append, parseField]
  simp only [parseString_print, Option.bind_eq_bind, Option.bind_some, h, Option.pure_def]

mutual
theorem parseValue_print : ∀ (v : Json) (n : ℕ) (rest : List Char), v.Proper isNumber →
    (print v).length < n → Ends rest → parseValue n (print v ++ rest) = some (v, rest)
  | _, 0, _, _, hn, _ => absurd hn (by simp)
  | .null, n + 1, rest, _, _, _ => by simp [print, parseValue]
  | .bool true, n + 1, rest, _, _, _ => by simp [print, parseValue]
  | .bool false, n + 1, rest, _, _, _ => by simp [print, parseValue]
  | .num text, n + 1, rest, hv, _, hr => by
    obtain ⟨c, cs, hcs, -⟩ := print_head hv
    have hc : isNumeral c = true :=
      isNumeral_of_isNumber hv c (by rw [print] at hcs; rw [hcs]; simp)
    rw [hcs, List.cons_append, parseValue_numeral n hc, ← List.cons_append, ← hcs, print]
    exact parseNumber_print hv hr
  | .str s, n + 1, rest, _, _, _ => by
    rw [print, printString, List.cons_append, List.append_assoc, List.singleton_append,
      parseValue]
    simp only [parseString_print, Option.map_some]
  | .arr [], n + 1, rest, _, _, _ => by simp [print, parseValue]
  | .arr (v :: vs), n + 1, rest, hv, hn, _ => by
    have hv' : v.Proper isNumber ∧ properItems isNumber vs := hv
    rw [print, List.length_cons, List.length_append] at hn
    have h := parseValue_print v n (printItems vs ++ rest) hv'.1 (by omega)
      (ends_printItems vs rest)
    have hs := parseItems_print vs n rest hv'.2 (by omega)
    obtain ⟨c, cs, hcs, hne⟩ := print_head hv'.1
    rw [print, List.cons_append, List.append_assoc]
    rw [hcs, List.cons_append] at h ⊢
    rw [parseValue_array n hne, h]
    simp [hs]
  | .obj [], n + 1, rest, _, _, _ => by simp [print, parseValue]
  | .obj ((k, v) :: fs), n + 1, rest, hv, hn, _ => by
    have hv' : (((k, v) :: fs).map Prod.fst).Nodup ∧
        v.Proper isNumber ∧ properFields isNumber fs := hv
    simp only [print, List.length_cons, List.length_append] at hn
    have hq : 2 ≤ (printString k).length := by simp [printString]
    obtain ⟨m, rfl⟩ : ∃ m, n = m + 1 := ⟨n - 1, by omega⟩
    have h := parseField_print (k := k) (parseValue_print v m (printFields fs ++ rest) hv'.2.1
      (by omega) (ends_printFields fs rest))
    have hs := parseFields_print fs (m + 1) rest hv'.2.2 (by omega)
    rw [print, List.cons_append, List.append_assoc, List.cons_append, List.append_assoc]
    have hhead : printString k = '"' :: (printString k).tail := rfl
    rw [hhead, List.cons_append] at h ⊢
    rw [parseValue_object (m + 1) (by decide), h]
    simp only [Option.bind_some, hs]
    rw [foldl_put _ [] (by simpa using hv'.1)]
    simp

theorem parseItems_print : ∀ (vs : List Json) (n : ℕ) (rest : List Char),
    properItems isNumber vs → (printItems vs).length < n →
      parseItems n (printItems vs ++ rest) = some (vs, rest)
  | _, 0, _, _, hn => absurd hn (by simp)
  | [], n + 1, rest, _, _ => by simp [printItems, parseItems]
  | v :: vs, n + 1, rest, hv, hn => by
    have hv' : v.Proper isNumber ∧ properItems isNumber vs := hv
    simp only [printItems, List.length_cons, List.length_append] at hn
    have h := parseValue_print v n (printItems vs ++ rest) hv'.1 (by omega)
      (ends_printItems vs rest)
    have hs := parseItems_print vs n rest hv'.2 (by omega)
    rw [printItems, List.cons_append, List.append_assoc, parseItems]
    simp [h, hs]

theorem parseFields_print : ∀ (fs : List (String × Json)) (n : ℕ) (rest : List Char),
    properFields isNumber fs → (printFields fs).length < n →
      parseFields n (printFields fs ++ rest) = some (fs, rest)
  | _, 0, _, _, hn => absurd hn (by simp)
  | [], n + 1, rest, _, _ => by simp [printFields, parseFields]
  | (k, v) :: fs, n + 1, rest, hv, hn => by
    have hv' : v.Proper isNumber ∧ properFields isNumber fs := hv
    simp only [printFields, List.length_cons, List.length_append] at hn
    have hq : 2 ≤ (printString k).length := by simp [printString]
    obtain ⟨m, rfl⟩ : ∃ m, n = m + 1 := ⟨n - 1, by omega⟩
    have h := parseField_print (k := k) (parseValue_print v m (printFields fs ++ rest) hv'.1
      (by omega) (ends_printFields fs rest))
    have hs := parseFields_print fs (m + 1) rest hv'.2 (by omega)
    rw [printFields, List.cons_append, List.append_assoc, List.cons_append, List.append_assoc,
      parseFields]
    simp [h, hs]
end

/-! ### What is read is proper -/

theorem put_nodup {rows : List (String × Json)} (h : (rows.map Prod.fst).Nodup) (k : String)
    (v : Json) : ((Table.put rows k v).map Prod.fst).Nodup := (Table.insert ⟨rows, h⟩ k v).nodup

theorem mem_put {rows : List (String × Json)} {k : String} {v : Json} {f : String × Json}
    (hf : f ∈ Table.put rows k v) : f ∈ rows ∨ f = (k, v) := by
  unfold Table.put at hf
  split at hf
  · obtain ⟨r, hr, rfl⟩ := List.mem_map.mp hf
    split
    · exact Or.inr rfl
    · exact Or.inl hr
  · rcases List.mem_append.mp hf with h | h
    · exact Or.inl h
    · exact Or.inr (List.mem_singleton.mp h)

/-- The object made of parsed fields is proper. -/
theorem proper_foldl_put {fs : List (String × Json)} (hfs : properFields isNumber fs) :
    ∀ acc : List (String × Json), (acc.map Prod.fst).Nodup → properFields isNumber acc →
      (Json.obj (fs.foldl (fun rows r => Table.put rows r.1 r.2) acc)).Proper isNumber := by
  rw [properFields_iff] at hfs
  induction fs with
  | nil => exact fun acc h hacc => ⟨h, hacc⟩
  | cons f fs ih =>
    intro acc h hacc
    refine ih (fun g hg => hfs g (List.mem_cons_of_mem _ hg)) _ (put_nodup h _ _) ?_
    rw [properFields_iff] at hacc ⊢
    intro g hg
    rcases mem_put hg with hg | rfl
    · exact hacc g hg
    · exact hfs f List.mem_cons_self

theorem parseNumber_proper {cs rest : List Char} {v : Json}
    (h : parseNumber cs = some (v, rest)) : v.Proper isNumber := by
  unfold parseNumber at h
  simp only at h
  split at h
  · next hn => cases h; exact hn
  · exact absurd h (by simp)

theorem parse_proper : ∀ n : ℕ,
    (∀ cs v rest, parseValue n cs = some (v, rest) → v.Proper isNumber) ∧
    (∀ cs vs rest, parseItems n cs = some (vs, rest) → properItems isNumber vs) ∧
    (∀ cs f rest, parseField n cs = some (f, rest) → f.2.Proper isNumber) ∧
    (∀ cs fs rest, parseFields n cs = some (fs, rest) → properFields isNumber fs)
  | 0 => by
    refine ⟨?_, ?_, ?_, ?_⟩
    · intro cs v rest h; simp [parseValue] at h
    · intro cs v rest h; simp [parseItems] at h
    · intro cs v rest h; simp [parseField] at h
    · intro cs v rest h; simp [parseFields] at h
  | n + 1 => by
    obtain ⟨ihv, ihi, ihf, ihs⟩ := parse_proper n
    refine ⟨?_, ?_, ?_, ?_⟩
    · -- values
      intro cs v rest h
      unfold parseValue at h
      split at h
      · cases h; trivial
      · cases h; trivial
      · cases h; trivial
      · obtain ⟨p, -, hp⟩ := Option.map_eq_some_iff.mp h; cases hp; trivial
      · cases h; trivial
      · simp only [Option.bind_eq_bind, Option.bind_eq_some_iff, Option.pure_def] at h
        obtain ⟨⟨w, r⟩, hw, ⟨ws, r'⟩, hws, h⟩ := h
        cases h
        exact ⟨ihv _ _ _ hw, ihi _ _ _ hws⟩
      · cases h; exact ⟨by simp, trivial⟩
      · simp only [Option.bind_eq_bind, Option.bind_eq_some_iff, Option.pure_def] at h
        obtain ⟨⟨f, r⟩, hf, ⟨fs, r'⟩, hfs, h⟩ := h
        cases h
        have hproper : properFields isNumber (f :: fs) := ⟨ihf _ _ _ hf, ihs _ _ _ hfs⟩
        exact proper_foldl_put hproper [] (by simp) trivial
      · exact parseNumber_proper h
    · -- items
      intro cs vs rest h
      unfold parseItems at h
      split at h
      · cases h; trivial
      · simp only [Option.bind_eq_bind, Option.bind_eq_some_iff, Option.pure_def] at h
        obtain ⟨⟨w, r⟩, hw, ⟨ws, r'⟩, hws, h⟩ := h
        cases h
        exact ⟨ihv _ _ _ hw, ihi _ _ _ hws⟩
      · exact absurd h (by simp)
    · -- a field
      intro cs f rest h
      unfold parseField at h
      split at h
      · simp only [Option.bind_eq_bind, Option.bind_eq_some_iff] at h
        obtain ⟨⟨k, r⟩, -, h⟩ := h
        split at h
        · simp only [Option.bind_eq_some_iff, Option.pure_def] at h
          obtain ⟨⟨w, r'⟩, hw, h⟩ := h
          cases h
          exact ihv _ _ _ hw
        · exact absurd h (by simp)
      · exact absurd h (by simp)
    · -- fields
      intro cs fs rest h
      unfold parseFields at h
      split at h
      · cases h; trivial
      · simp only [Option.bind_eq_bind, Option.bind_eq_some_iff, Option.pure_def] at h
        obtain ⟨⟨f, r⟩, hf, ⟨gs, r'⟩, hgs, h⟩ := h
        cases h
        exact ⟨ihf _ _ _ hf, ihs _ _ _ hgs⟩
      · exact absurd h (by simp)

/-! ### What is read holds no zero character -/

/-- A reader took characters off the front, none of them the zero character. -/
def Reads (cs rest : List Char) : Prop := ∃ pre, cs = pre ++ rest ∧ '\x00' ∉ pre

theorem Reads.refl (cs : List Char) : Reads cs cs := ⟨[], rfl, by simp⟩

theorem Reads.trans {cs ds rest : List Char} (h : Reads cs ds) (h' : Reads ds rest) :
    Reads cs rest := by
  obtain ⟨pre, rfl, hp⟩ := h
  obtain ⟨pre', rfl, hp'⟩ := h'
  refine ⟨pre ++ pre', by rw [List.append_assoc], fun h => ?_⟩
  exact (List.mem_append.mp h).elim hp hp'

theorem Reads.cons {c : Char} {cs rest : List Char} (hc : c ≠ '\x00') (h : Reads cs rest) :
    Reads (c :: cs) rest := by
  obtain ⟨pre, rfl, hp⟩ := h
  refine ⟨c :: pre, rfl, fun h => ?_⟩
  rcases List.mem_cons.mp h with h | h
  · exact hc h.symm
  · exact hp h

theorem hexVal_ne_zero {c : Char} {d : ℕ} (h : hexVal c = some d) : c ≠ '\x00' := by
  rintro rfl
  exact absurd h.symm (Option.some_ne_none d)

theorem shortEscape_ne_zero {c : Char} {u : ℕ} (h : shortEscape c = some u) : c ≠ '\x00' := by
  rintro rfl
  exact absurd h.symm (Option.some_ne_none u)

theorem reads_parseUnits (cs : List Char) : ∀ {us : List ℕ} {rest : List Char},
    parseUnits cs = some (us, rest) → Reads cs rest := by
  induction cs using parseUnits.induct with
  | case1 rest =>
    intro us rest' h
    simp only [parseUnits, Option.some.injEq, Prod.mk.injEq] at h
    obtain ⟨-, rfl⟩ := h
    exact .cons (by decide) (.refl rest)
  | case2 a b c d rest ih =>
    -- a `\u` escape
    intro us rest' h
    simp only [parseUnits, Option.bind_eq_bind, Option.bind_eq_some_iff, Option.pure_def] at h
    obtain ⟨w, hw, x, hx, y, hy, z, hz, ⟨vs, r⟩, hp, h⟩ := h
    obtain ⟨-, rfl⟩ := Prod.mk.inj (Option.some.inj h)
    exact .cons (by decide) (.cons (by decide) (.cons (hexVal_ne_zero hw) (.cons (hexVal_ne_zero hx)
      (.cons (hexVal_ne_zero hy) (.cons (hexVal_ne_zero hz) (ih hp))))))
  | case3 e rest hne ih =>
    -- a short escape
    intro us rest' h
    rw [parseUnits] at h
    · simp only [Option.bind_eq_bind, Option.bind_eq_some_iff, Option.pure_def] at h
      obtain ⟨u, hu, ⟨vs, r⟩, hp, h⟩ := h
      obtain ⟨-, rfl⟩ := Prod.mk.inj (Option.some.inj h)
      exact .cons (by decide) (.cons (shortEscape_ne_zero hu) (ih hp))
    · exact hne
  | case4 c rest h1 h2 h3 hp ih =>
    intro us rest' h
    rw [parseUnits_plain hp] at h
    obtain ⟨⟨vs, r⟩, hr, h⟩ := Option.map_eq_some_iff.mp h
    obtain ⟨-, rfl⟩ := Prod.mk.inj h
    refine .cons ?_ (ih hr)
    rintro rfl
    exact absurd hp (by decide)
  | case5 c rest h1 h2 h3 hp =>
    intro us rest' h
    rw [parseUnits, if_neg hp] at h
    · exact absurd h (by simp)
    all_goals assumption
  | case6 =>
    intro us rest h
    rw [parseUnits] at h
    exact absurd h (by simp)

theorem reads_parseString {cs rest : List Char} {s : String}
    (h : parseString cs = some (s, rest)) : Reads cs rest := by
  simp only [parseString, Option.bind_eq_bind, Option.bind_eq_some_iff, Option.pure_def] at h
  obtain ⟨⟨us, r⟩, hp, t, -, h⟩ := h
  obtain ⟨-, rfl⟩ := Prod.mk.inj (Option.some.inj h)
  exact reads_parseUnits cs hp

theorem reads_parseNumber {cs rest : List Char} {v : Json}
    (h : parseNumber cs = some (v, rest)) : Reads cs rest := by
  rw [parseNumber] at h
  split at h
  · obtain ⟨-, rfl⟩ := Prod.mk.inj (Option.some.inj h)
    refine ⟨cs.takeWhile isNumeral, List.takeWhile_append_dropWhile.symm, fun h0 => ?_⟩
    exact absurd (List.all_eq_true.mp List.all_takeWhile _ h0) (by decide)
  · exact absurd h (by simp)

theorem reads_parse : ∀ n : ℕ,
    (∀ cs v rest, parseValue n cs = some (v, rest) → Reads cs rest) ∧
    (∀ cs vs rest, parseItems n cs = some (vs, rest) → Reads cs rest) ∧
    (∀ cs f rest, parseField n cs = some (f, rest) → Reads cs rest) ∧
    (∀ cs fs rest, parseFields n cs = some (fs, rest) → Reads cs rest)
  | 0 => by
    refine ⟨?_, ?_, ?_, ?_⟩
    · intro cs v rest h; simp [parseValue] at h
    · intro cs v rest h; simp [parseItems] at h
    · intro cs v rest h; simp [parseField] at h
    · intro cs v rest h; simp [parseFields] at h
  | n + 1 => by
    obtain ⟨ihv, ihi, ihf, ihs⟩ := reads_parse n
    refine ⟨?_, ?_, ?_, ?_⟩
    · -- values
      intro cs v rest h
      unfold parseValue at h
      split at h
      · obtain ⟨-, rfl⟩ := Prod.mk.inj (Option.some.inj h)
        exact ⟨['n', 'u', 'l', 'l'], rfl, by decide⟩
      · obtain ⟨-, rfl⟩ := Prod.mk.inj (Option.some.inj h)
        exact ⟨['t', 'r', 'u', 'e'], rfl, by decide⟩
      · obtain ⟨-, rfl⟩ := Prod.mk.inj (Option.some.inj h)
        exact ⟨['f', 'a', 'l', 's', 'e'], rfl, by decide⟩
      · obtain ⟨⟨s, r⟩, hs, h⟩ := Option.map_eq_some_iff.mp h
        obtain ⟨-, rfl⟩ := Prod.mk.inj h
        exact .cons (by decide) (reads_parseString hs)
      · obtain ⟨-, rfl⟩ := Prod.mk.inj (Option.some.inj h)
        exact ⟨['[', ']'], rfl, by decide⟩
      · simp only [Option.bind_eq_bind, Option.bind_eq_some_iff, Option.pure_def] at h
        obtain ⟨⟨w, r⟩, hw, ⟨ws, r'⟩, hws, h⟩ := h
        obtain ⟨-, rfl⟩ := Prod.mk.inj (Option.some.inj h)
        exact .cons (by decide) ((ihv _ _ _ hw).trans (ihi _ _ _ hws))
      · obtain ⟨-, rfl⟩ := Prod.mk.inj (Option.some.inj h)
        exact ⟨['{', '}'], rfl, by decide⟩
      · simp only [Option.bind_eq_bind, Option.bind_eq_some_iff, Option.pure_def] at h
        obtain ⟨⟨f, r⟩, hf, ⟨fs, r'⟩, hfs, h⟩ := h
        obtain ⟨-, rfl⟩ := Prod.mk.inj (Option.some.inj h)
        exact .cons (by decide) ((ihf _ _ _ hf).trans (ihs _ _ _ hfs))
      · exact reads_parseNumber h
    · -- items
      intro cs vs rest h
      rw [parseItems.eq_def] at h
      simp only at h
      split at h
      · obtain ⟨-, rfl⟩ := Prod.mk.inj (Option.some.inj h)
        exact ⟨[']'], rfl, by decide⟩
      · simp only [Option.bind_eq_bind, Option.bind_eq_some_iff, Option.pure_def] at h
        obtain ⟨⟨w, r⟩, hw, ⟨ws, r'⟩, hws, h⟩ := h
        obtain ⟨-, rfl⟩ := Prod.mk.inj (Option.some.inj h)
        exact .cons (by decide) ((ihv _ _ _ hw).trans (ihi _ _ _ hws))
      · exact absurd h (by simp)
    · -- a field
      intro cs f rest h
      rw [parseField.eq_def] at h
      simp only at h
      split at h
      · simp only [Option.bind_eq_bind, Option.bind_eq_some_iff] at h
        obtain ⟨⟨k, r⟩, hk, h⟩ := h
        split at h
        · next r' hr =>
          simp only at hr
          subst hr
          simp only [Option.bind_eq_some_iff, Option.pure_def] at h
          obtain ⟨⟨w, r''⟩, hw, h⟩ := h
          obtain ⟨-, rfl⟩ := Prod.mk.inj (Option.some.inj h)
          exact .cons (by decide) ((reads_parseString hk).trans
            (.cons (by decide) (ihv _ _ _ hw)))
        · exact absurd h (by simp)
      · exact absurd h (by simp)
    · -- fields
      intro cs fs rest h
      rw [parseFields.eq_def] at h
      simp only at h
      split at h
      · obtain ⟨-, rfl⟩ := Prod.mk.inj (Option.some.inj h)
        exact ⟨['}'], rfl, by decide⟩
      · simp only [Option.bind_eq_bind, Option.bind_eq_some_iff, Option.pure_def] at h
        obtain ⟨⟨f, r⟩, hf, ⟨gs, r'⟩, hgs, h⟩ := h
        obtain ⟨-, rfl⟩ := Prod.mk.inj (Option.some.inj h)
        exact .cons (by decide) ((ihf _ _ _ hf).trans (ihs _ _ _ hgs))
      · exact absurd h (by simp)

/-! ### Bytes -/

/-- The byte of an ASCII character; others do not occur in what is printed. -/
def byte (c : Char) : UInt8 := if 0 < c.toNat ∧ c.toNat < 128 then UInt8.ofNat c.toNat else 63

def stringify (v : Json) : Bytes := (print v).map byte

def parse (b : Bytes) : Option Json :=
  let cs := b.map fun x => Char.ofNat x.toNat
  match parseValue (cs.length + 1) cs with
  | some (v, []) => some v
  | _ => none

/-- The characters that are printed. -/
def IsAscii (cs : List Char) : Prop := ∀ c ∈ cs, 0 < c.toNat ∧ c.toNat < 128

instance (cs : List Char) : Decidable (IsAscii cs) := List.decidableBAll _ cs

theorem ofNat_byte {c : Char} (hc : 0 < c.toNat ∧ c.toNat < 128) :
    Char.ofNat (byte c).toNat = c := by
  unfold byte
  rw [if_pos hc, UInt8.toNat_ofNat']
  rw [Nat.mod_eq_of_lt (by omega), Char.ofNat_toNat]

theorem map_byte {cs : List Char} (h : IsAscii cs) :
    (cs.map byte).map (fun x => Char.ofNat x.toNat) = cs := by
  rw [List.map_map]
  conv_rhs => rw [← List.map_id cs]
  exact List.map_congr_left fun c hc => ofNat_byte (h c hc)

theorem isAscii_append {cs ds : List Char} (h : IsAscii cs) (h' : IsAscii ds) :
    IsAscii (cs ++ ds) := fun c hc => (List.mem_append.mp hc).elim (h c) (h' c)

theorem isAscii_cons {c : Char} {cs : List Char} (hc : 0 < c.toNat ∧ c.toNat < 128)
    (h : IsAscii cs) : IsAscii (c :: cs) := by
  intro d hd
  rcases List.mem_cons.mp hd with rfl | hd
  · exact hc
  · exact h d hd

theorem hexDigit_ascii : ∀ d < 16, 0 < (hexDigit d).toNat ∧ (hexDigit d).toNat < 128 := by decide

theorem plain_ascii : ∀ u < 127, plain u = true →
    0 < (Char.ofNat u).toNat ∧ (Char.ofNat u).toNat < 128 := by decide

theorem isAscii_printString (s : String) : IsAscii (printString s) := by
  refine isAscii_cons (by decide) (isAscii_append ?_ (isAscii_cons (by decide) (by simp [IsAscii])))
  intro c hc
  obtain ⟨u, -, hu⟩ := List.mem_flatMap.mp hc
  unfold printUnit at hu
  split at hu
  · next hp =>
    rw [List.mem_singleton] at hu
    have hlt : u < 127 := by simp only [plain, Bool.and_eq_true, decide_eq_true_eq] at hp; omega
    exact hu ▸ plain_ascii u hlt hp
  · simp only [List.mem_cons, List.not_mem_nil, or_false] at hu
    rcases hu with rfl | rfl | rfl | rfl | rfl | rfl
    · decide
    · decide
    all_goals exact hexDigit_ascii _ (by omega)

theorem isAscii_number {text : String} (h : isNumber text = true) : IsAscii text.toList := by
  intro c hc
  have := isNumeral_of_isNumber h c hc
  simp only [isNumeral, Char.isDigit, Bool.or_eq_true, Bool.and_eq_true, decide_eq_true_eq] at this
  rcases this with ((((⟨h₁, h₂⟩ | rfl) | rfl) | rfl) | rfl) | rfl
  · have h₁' : 48 ≤ c.toNat := h₁
    have h₂' : c.toNat ≤ 57 := h₂
    omega
  all_goals decide

mutual
theorem isAscii_print : ∀ v : Json, v.Proper isNumber → IsAscii (print v)
  | .null, _ => by rw [print]; decide
  | .bool true, _ => by rw [print]; decide
  | .bool false, _ => by rw [print]; decide
  | .num text, hv => isAscii_number hv
  | .str s, _ => isAscii_printString s
  | .arr [], _ => by rw [print]; decide
  | .arr (v :: vs), hv => by
    have hv' : v.Proper isNumber ∧ properItems isNumber vs := hv
    exact isAscii_cons (by decide)
      (isAscii_append (isAscii_print v hv'.1) (isAscii_printItems vs hv'.2))
  | .obj [], _ => by rw [print]; decide
  | .obj ((k, v) :: fs), hv => by
    have hv' : (((k, v) :: fs).map Prod.fst).Nodup ∧
        v.Proper isNumber ∧ properFields isNumber fs := hv
    exact isAscii_cons (by decide) (isAscii_append (isAscii_printString k)
      (isAscii_cons (by decide)
        (isAscii_append (isAscii_print v hv'.2.1) (isAscii_printFields fs hv'.2.2))))

theorem isAscii_printItems : ∀ vs : List Json, properItems isNumber vs →
    IsAscii (printItems vs)
  | [], _ => by rw [printItems]; decide
  | v :: vs, hv => by
    have hv' : v.Proper isNumber ∧ properItems isNumber vs := hv
    exact isAscii_cons (by decide)
      (isAscii_append (isAscii_print v hv'.1) (isAscii_printItems vs hv'.2))

theorem isAscii_printFields : ∀ fs : List (String × Json), properFields isNumber fs →
    IsAscii (printFields fs)
  | [], _ => by rw [printFields]; decide
  | (k, v) :: fs, hv => by
    have hv' : v.Proper isNumber ∧ properFields isNumber fs := hv
    exact isAscii_cons (by decide) (isAscii_append (isAscii_printString k)
      (isAscii_cons (by decide)
        (isAscii_append (isAscii_print v hv'.1) (isAscii_printFields fs hv'.2))))
end

theorem parse_stringify {v : Json} (hv : v.Proper isNumber) : parse (stringify v) = some v := by
  unfold parse stringify
  simp only
  rw [map_byte (isAscii_print v hv)]
  have h := parseValue_print v ((print v).length + 1) [] hv (Nat.lt_succ_self _)
    (by intro c hc; simp at hc)
  rw [List.append_nil] at h
  rw [h]

theorem proper_of_parse {b : Bytes} {v : Json} (h : parse b = some v) : v.Proper isNumber := by
  unfold parse at h
  simp only at h
  split at h
  · next hv => cases h; exact (parse_proper _).1 _ _ _ hv
  · exact absurd h (by simp)

theorem zero_notMem_stringify (v : Json) : 0 ∉ stringify v := by
  intro h
  obtain ⟨c, -, hc⟩ := List.mem_map.mp h
  unfold byte at hc
  split at hc
  · next hlt =>
    have := congrArg UInt8.toNat hc
    rw [UInt8.toNat_ofNat', Nat.mod_eq_of_lt (by omega)] at this
    exact absurd this (by simpa using Nat.ne_of_gt hlt.1)
  · exact absurd hc (by decide)

theorem zero_notMem_of_parse {b : Bytes} {v : Json} (h : parse b = some v) : 0 ∉ b := by
  rw [parse] at h
  split at h
  · next hv =>
    obtain ⟨pre, hpre, hz⟩ := (reads_parse _).1 _ _ _ hv
    intro h0
    rw [List.append_nil] at hpre
    refine hz ?_
    rw [← hpre]
    exact List.mem_map.mpr ⟨0, h0, rfl⟩
  · exact absurd h (by simp)

theorem head?_stringify_obj (fields : List (String × Json)) :
    (stringify (.obj fields)).head? = some 0x7b := by
  cases fields with
  | nil => rfl
  | cons f fs => rfl

/-- The laws of the codec hold of the texts of this module. -/
def codec : JsonCodec where
  isNumber := isNumber
  parse := parse
  stringify := stringify
  isNumber_mask := by decide
  parse_stringify := fun _ => parse_stringify
  parse_proper := fun _ _ => proper_of_parse
  zero_notMem_stringify := zero_notMem_stringify
  zero_notMem_of_parse := fun _ _ => zero_notMem_of_parse
  head?_stringify_obj := head?_stringify_obj

end Text
end Js
