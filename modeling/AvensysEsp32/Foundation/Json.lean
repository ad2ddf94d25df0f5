import Mathlib.Data.List.TakeWhile
import AvensysEsp32.Foundation.Decimal

/-!
# JSON

A parser for JSON texts of ASCII characters, and what it makes of texts that
programs print.  A string is decoded to its code units; a number is kept as it is
written.

A program that prints an object from a pattern puts its values between fixed
keys.  `parseJson_objectText` says that such a text is the object meant, if every
value is printed as one; `plain_of_scanString` says that a text that is put between
quotes as it is must not contain a quote or a backslash to be read back.
-/

namespace AvensysEsp32
namespace Foundation

inductive Json
  | null
  | bool (b : Bool)
  | number (text : List UInt8)
  | string (units : List Nat)
  | array (elements : List Json)
  | object (members : List (List Nat × Json))

/-! ## White space -/

def isWs (c : UInt8) : Bool :=
  c = 32 || c = 9 || c = 10 || c = 13

def skipWs (text : List UInt8) : List UInt8 :=
  text.dropWhile isWs

/-- The character, after white space, and what follows it. -/
def expect (c : UInt8) (text : List UInt8) : Option (List UInt8) :=
  match skipWs text with
  | d :: rest => if d = c then some rest else none
  | [] => none

/-- The rest of a keyword, and what follows it. -/
def expectText (word text : List UInt8) : Option (List UInt8) :=
  if word.isPrefixOf text then some (text.drop word.length) else none

/-! ## Strings -/

/-- Where a string is read: between its characters, behind a backslash, or before
the last `more + 1` digits of `\u`. -/
inductive StringState
  | plain
  | escaped
  | unit (more value : Nat)

/-- The value of a hexadecimal digit. -/
def hexValue (c : UInt8) : Option Nat :=
  if 48 ≤ c ∧ c ≤ 57 then some (c.toNat - 48)
  else if 65 ≤ c ∧ c ≤ 70 then some (c.toNat - 55)
  else if 97 ≤ c ∧ c ≤ 102 then some (c.toNat - 87)
  else none

/-- The code unit of a character behind a backslash, other than `u`. -/
def escapedUnit (c : UInt8) : Option Nat :=
  if c = 34 ∨ c = 92 ∨ c = 47 then some c.toNat
  else if c = 98 then some 8
  else if c = 102 then some 12
  else if c = 110 then some 10
  else if c = 114 then some 13
  else if c = 116 then some 9
  else none

/-- The rest of a string up to its closing quote, decoded, and what follows. -/
def scanString : StringState → List UInt8 → Option (List Nat × List UInt8)
  | _, [] => none
  | .plain, c :: rest =>
      if c = 34 then some ([], rest)
      else if c = 92 then scanString .escaped rest
      else if 32 ≤ c ∧ c < 128 then
        (scanString .plain rest).map fun r => (c.toNat :: r.1, r.2)
      else none
  | .escaped, c :: rest =>
      if c = 117 then scanString (.unit 3 0) rest
      else
        match escapedUnit c with
        | some code => (scanString .plain rest).map fun r => (code :: r.1, r.2)
        | none => none
  | .unit more value, c :: rest =>
      match hexValue c, more with
      | some digit, 0 =>
          (scanString .plain rest).map fun r => ((16 * value + digit) :: r.1, r.2)
      | some digit, more + 1 => scanString (.unit more (16 * value + digit)) rest
      | none, _ => none

/-! ## Numbers -/

/-- The minus of a number, if there is one, and what follows. -/
def scanMinus : List UInt8 → List UInt8 × List UInt8
  | 45 :: text => ([45], text)
  | text => ([], text)

/-- The fraction of a number, if there is one, and what follows. -/
def scanFraction : List UInt8 → Option (List UInt8 × List UInt8)
  | 46 :: text =>
      if text.takeWhile isdigit = [] then none
      else some (46 :: text.takeWhile isdigit, text.dropWhile isdigit)
  | text => some ([], text)

/-- The sign of an exponent, if there is one, and what follows. -/
def scanExponentSign : List UInt8 → List UInt8 × List UInt8
  | 43 :: text => ([43], text)
  | 45 :: text => ([45], text)
  | text => ([], text)

/-- The exponent of a number, if there is one, and what follows. -/
def scanExponent : List UInt8 → Option (List UInt8 × List UInt8)
  | [] => some ([], [])
  | c :: text =>
      if c = 101 ∨ c = 69 then
        let signed := scanExponentSign text
        if signed.2.takeWhile isdigit = [] then none
        else
          some (c :: signed.1 ++ signed.2.takeWhile isdigit, signed.2.dropWhile isdigit)
      else some ([], c :: text)

/-- A number as it is written, and what follows. -/
def parseNumber (text : List UInt8) : Option (List UInt8 × List UInt8) :=
  let signed := scanMinus text
  let digits := signed.2.takeWhile isdigit
  if digits = [] ∨ (digits.head? = some 48 ∧ digits ≠ [48]) then none
  else
    match scanFraction (signed.2.dropWhile isdigit) with
    | none => none
    | some (fraction, rest) =>
        (scanExponent rest).map fun r => (signed.1 ++ digits ++ fraction ++ r.1, r.2)

/-! ## Values -/

mutual

/-- A value, and what follows.  Every step into a value spends fuel. -/
def parseValue : Nat → List UInt8 → Option (Json × List UInt8)
  | 0, _ => none
  | fuel + 1, text =>
      match skipWs text with
      | [] => none
      | c :: rest =>
          if c = 34 then (scanString .plain rest).map fun r => (.string r.1, r.2)
          else if c = 123 then
            match expect 125 rest with
            | some rest => some (.object [], rest)
            | none => (parseMembers fuel rest).map fun r => (.object r.1, r.2)
          else if c = 91 then
            match expect 93 rest with
            | some rest => some (.array [], rest)
            | none => (parseElements fuel rest).map fun r => (.array r.1, r.2)
          else if c = 116 then (expectText [114, 117, 101] rest).map fun r => (.bool true, r)
          else if c = 102 then (expectText [97, 108, 115, 101] rest).map fun r => (.bool false, r)
          else if c = 110 then (expectText [117, 108, 108] rest).map fun r => (.null, r)
          else (parseNumber (c :: rest)).map fun r => (.number r.1, r.2)

/-- The members of an object up to its closing brace, and what follows. -/
def parseMembers : Nat → List UInt8 → Option (List (List Nat × Json) × List UInt8)
  | 0, _ => none
  | fuel + 1, text => do
      let text ← expect 34 text
      let key ← scanString .plain text
      let text ← expect 58 key.2
      let value ← parseValue fuel text
      match expect 44 value.2 with
      | some rest =>
          (parseMembers fuel rest).map fun r => ((key.1, value.1) :: r.1, r.2)
      | none => (expect 125 value.2).map fun rest => ([(key.1, value.1)], rest)

/-- The elements of an array up to its closing bracket, and what follows. -/
def parseElements : Nat → List UInt8 → Option (List Json × List UInt8)
  | 0, _ => none
  | fuel + 1, text => do
      let value ← parseValue fuel text
      match expect 44 value.2 with
      | some rest => (parseElements fuel rest).map fun r => (value.1 :: r.1, r.2)
      | none => (expect 93 value.2).map fun rest => ([value.1], rest)

end

/-- The value of a JSON text. -/
def parseJson (text : List UInt8) : Option Json :=
  match parseValue (text.length + 1) text with
  | some (value, rest) => if skipWs rest = [] then some value else none
  | none => none

/-- The values of the members of that name. -/
def Json.values (key : List Nat) : Json → List Json
  | .object members => (members.filter fun m => m.1 = key).map Prod.snd
  | _ => []

/-! ## Printed strings -/

/-- The code units of a text of ASCII characters. -/
def units (text : List UInt8) : List Nat :=
  text.map UInt8.toNat

/-- The text can stand between quotes as it is. -/
def Plain (text : List UInt8) : Prop :=
  ∀ c ∈ text, 32 ≤ c ∧ c < 128 ∧ c ≠ 34 ∧ c ≠ 92

instance (text : List UInt8) : Decidable (Plain text) :=
  List.decidableBAll (fun c => 32 ≤ c ∧ c < 128 ∧ c ≠ 34 ∧ c ≠ 92) text

/-- The text ends with a backslash, and what is read between its quotes with a
comma: the closing quote was taken for a character, and what follows it too. -/
def RunsOver (text : List UInt8) (decoded : List Nat) : Prop :=
  text.getLast? = some 92 ∧ decoded.getLast? = some 44

/-- What can be read of a text up to a quote that a comma and a quote follow. -/
def Reading : StringState → List UInt8 → List Nat → Prop
  | .plain, text, decoded =>
      (Plain text ∧ decoded = units text) ∨ decoded.length < text.length ∨ RunsOver text decoded
  | .escaped, text, decoded =>
      decoded.length ≤ text.length ∨ RunsOver (92 :: text) decoded
  | .unit _ _, text, decoded =>
      decoded.length ≤ text.length ∨ RunsOver text decoded

section Strings

variable {text rest : List UInt8} {decoded : List Nat}

theorem units_injective :
    Function.Injective units :=
  List.map_injective_iff.mpr fun _ _ => UInt8.toNat_inj.mp

/-- A plain text between quotes is read as it is. -/
theorem scanString_of_plain
    (h : Plain text) :
    scanString .plain (text ++ 34 :: rest) = some (units text, rest) := by
  induction text with
  | nil =>
      simp [scanString, units]
  | cons c text ih =>
      obtain ⟨⟨hlow, hhigh, hquote, hslash⟩, htext⟩ := List.forall_mem_cons.mp h
      rw [List.cons_append, scanString, if_neg hquote, if_neg hslash, if_pos ⟨hlow, hhigh⟩,
        ih htext]
      rfl

theorem RunsOver.skip
    (h : RunsOver text decoded) (c : UInt8) :
    RunsOver (c :: text) decoded := by
  refine ⟨?_, h.2⟩
  rw [List.getLast?_cons, h.1]
  rfl

theorem RunsOver.read
    (h : RunsOver text decoded) (c : UInt8) (code : Nat) :
    RunsOver (c :: text) (code :: decoded) := by
  refine ⟨(h.skip c).1, ?_⟩
  rw [List.getLast?_cons, h.2]
  rfl

/-- A character for which one unit was read. -/
theorem Reading.read
    (h : Reading .plain text decoded) (c : UInt8) (code : Nat) :
    (code :: decoded).length ≤ (c :: text).length ∨ RunsOver (c :: text) (code :: decoded) := by
  rcases h with ⟨_, rfl⟩ | hshort | hover
  · left
    simp [units]
  · left
    simpa using hshort.le
  · right
    exact hover.read c code

/-- What is read between quotes is what stands there only if that is plain. -/
theorem Reading.plain
    (h : Reading .plain text (units text)) :
    Plain text := by
  rcases h with ⟨hplain, _⟩ | hshort | ⟨hslash, hcomma⟩
  · exact hplain
  · exact absurd hshort (by simp [units])
  · rw [units, List.getLast?_map, hslash] at hcomma
    exact absurd hcomma (by decide)

theorem read_of_map
    {scanned : Option (List Nat × List UInt8)} {code : Nat} {after : List UInt8}
    (h : scanned.map (fun r => (code :: r.1, r.2)) = some (decoded, after)) :
    ∃ decoded', scanned = some (decoded', after) ∧ decoded = code :: decoded' := by
  obtain ⟨⟨decoded', after'⟩, hscanned, heq⟩ := Option.map_eq_some_iff.mp h
  obtain ⟨rfl, rfl⟩ := Prod.mk.inj heq
  exact ⟨decoded', hscanned, rfl⟩

/-- The scanner reads at most one unit for each character, and fewer if it meets
an escape or stops early, unless it runs over the closing quote. -/
theorem reading_of_scanString
    {state : StringState} {after : List UInt8}
    (h : scanString state (text ++ 34 :: 44 :: 34 :: rest) = some (decoded, after)) :
    Reading state text decoded := by
  induction text generalizing state decoded after with
  | nil =>
      cases state with
      | plain =>
          simp only [List.nil_append, scanString, if_true, Option.some.injEq, Prod.mk.injEq] at h
          exact Or.inl ⟨by simp [Plain], h.1.symm⟩
      | escaped =>
          simp [scanString, escapedUnit] at h
          rw [← h.1]
          exact Or.inr ⟨rfl, rfl⟩
      | unit more value =>
          simp [scanString, hexValue] at h
  | cons c text ih =>
      cases state with
      | plain =>
          rw [List.cons_append, scanString] at h
          split at h
          · obtain ⟨rfl, -⟩ := Prod.mk.inj (Option.some.inj h)
            exact Or.inr (Or.inl (by simp))
          · split at h
            · rename_i hslash
              subst hslash
              rcases ih h with hle | hover
              · exact Or.inr (Or.inl (by simpa using Nat.lt_succ_of_le hle))
              · exact Or.inr (Or.inr hover)
            · split at h
              · rename_i hquote hslash hrange
                obtain ⟨decoded, hr, rfl⟩ := read_of_map h
                rcases ih hr with ⟨hplain, hunits⟩ | hshort | hover
                · refine Or.inl ⟨?_, by rw [hunits]; rfl⟩
                  exact List.forall_mem_cons.mpr
                    ⟨⟨hrange.1, hrange.2, hquote, hslash⟩, hplain⟩
                · exact Or.inr (Or.inl (by simpa using hshort))
                · exact Or.inr (Or.inr (hover.read c _))
              · cases h
      | escaped =>
          rw [List.cons_append, scanString] at h
          split at h
          · rcases ih h with hle | hover
            · exact Or.inl (hle.trans (by simp))
            · exact Or.inr ((hover.skip c).skip 92)
          · split at h
            · obtain ⟨decoded, hr, rfl⟩ := read_of_map h
              exact ((ih hr).read c _).imp id fun hover => hover.skip 92
            · cases h
      | unit more value =>
          cases hdigit : hexValue c with
          | none =>
              simp [scanString, hdigit] at h
          | some digit =>
              cases more with
              | zero =>
                  simp only [List.cons_append, scanString, hdigit] at h
                  obtain ⟨decoded, hr, rfl⟩ := read_of_map h
                  exact (ih hr).read c _
              | succ more =>
                  simp only [List.cons_append, scanString, hdigit] at h
                  rcases ih h with hle | hover
                  · exact Or.inl (hle.trans (by simp))
                  · exact Or.inr (hover.skip c)

/-- A text that is read back from between its quotes is plain. -/
theorem plain_of_scanString
    {after : List UInt8}
    (h : scanString .plain (text ++ 34 :: 44 :: 34 :: rest) = some (units text, after)) :
    Plain text :=
  (reading_of_scanString h).plain

end Strings

/-! ## Printed values -/

/-- The text between quotes. -/
def quoted (text : List UInt8) : List UInt8 :=
  34 :: (text ++ [34])

/-- The text is read as the value wherever a comma or a closing brace follows. -/
def ShowsValue (text : List UInt8) (value : Json) : Prop :=
  ∀ (fuel : Nat) (c : UInt8) (rest : List UInt8), c = 44 ∨ c = 125 →
    parseValue (fuel + 1) (text ++ c :: rest) = some (value, c :: rest)

section White

variable {c d : UInt8} (rest : List UInt8)

theorem skipWs_of_head
    (hc : isWs c = false) :
    skipWs (c :: rest) = c :: rest := by
  simp [skipWs, hc]

theorem expect_self
    (hc : isWs c = false) :
    expect c (c :: rest) = some rest := by
  simp [expect, skipWs_of_head rest hc]

theorem expect_other
    (hd : isWs d = false) (hne : d ≠ c) :
    expect c (d :: rest) = none := by
  simp [expect, skipWs_of_head rest hd, hne]

end White

theorem showsValue_quoted
    {text : List UInt8} (h : Plain text) :
    ShowsValue (quoted text) (.string (units text)) := by
  intro fuel c rest _
  have hshape : quoted text ++ c :: rest = 34 :: (text ++ 34 :: c :: rest) := by
    simp [quoted]
  rw [hshape, parseValue, skipWs_of_head _ (by decide)]
  simp [scanString_of_plain h]

theorem showsValue_true :
    ShowsValue [116, 114, 117, 101] (.bool true) := by
  intro fuel c rest _
  simp [parseValue, skipWs, isWs, expectText]

section Numbers

/-- A digit begins nothing but a number. -/
theorem other_of_isdigit
    {d : UInt8} (hd : isdigit d = true) :
    isWs d = false ∧ d ≠ 34 ∧ d ≠ 123 ∧ d ≠ 91 ∧ d ≠ 116 ∧ d ≠ 102 ∧ d ≠ 110 := by
  unfold isdigit at hd
  unfold isWs
  simp only [Bool.and_eq_true, decide_eq_true_eq] at hd
  grind

variable (n : Nat)

/-- What follows the digits of a number that ends there. -/
theorem parseNumber_decimal
    {c : UInt8} (hc : c = 44 ∨ c = 125) (rest : List UInt8) :
    parseNumber (decimal n ++ c :: rest) = some (decimal n, c :: rest) := by
  have hdigits : ∀ d ∈ decimal n, isdigit d = true := fun d hd => isdigit_of_mem_decimal n hd
  have hstop : isdigit c = false := by
    rcases hc with rfl | rfl <;> decide
  have htake : (decimal n ++ c :: rest).takeWhile isdigit = decimal n := by
    rw [List.takeWhile_append_of_pos hdigits, List.takeWhile_cons_of_neg (by simp [hstop]),
      List.append_nil]
  have hdrop : (decimal n ++ c :: rest).dropWhile isdigit = c :: rest := by
    rw [List.dropWhile_append_of_pos hdigits, List.dropWhile_cons_of_neg (by simp [hstop])]
  have hunsigned : scanMinus (decimal n ++ c :: rest) = ([], decimal n ++ c :: rest) := by
    obtain ⟨d, digits, hd⟩ := List.exists_cons_of_ne_nil (decimal_ne_nil n)
    have hdigit : isdigit d = true := hdigits d (by simp [hd])
    have hne : d ≠ 45 := by
      rintro rfl
      exact absurd hdigit (by decide)
    rw [hd, List.cons_append]
    simp [scanMinus, hne]
  have hcanonical : ¬ (decimal n = [] ∨ ((decimal n).head? = some 48 ∧ decimal n ≠ [48])) := by
    rintro (hnil | ⟨hhead, hone⟩)
    · exact decimal_ne_nil n hnil
    · exact (decimal_canonical n).elim (fun h => h hhead) hone
  have hfraction : scanFraction (c :: rest) = some ([], c :: rest) := by
    rcases hc with rfl | rfl <;> rfl
  have hexponent : scanExponent (c :: rest) = some ([], c :: rest) := by
    rcases hc with rfl | rfl <;> rfl
  unfold parseNumber
  simp only [hunsigned, htake, hdrop, if_neg hcanonical, hfraction, hexponent]
  simp

theorem showsValue_decimal :
    ShowsValue (decimal n) (.number (decimal n)) := by
  intro fuel c rest hc
  obtain ⟨d, digits, hd⟩ := List.exists_cons_of_ne_nil (decimal_ne_nil n)
  have hdigit : isdigit d = true := isdigit_of_mem_decimal n (by simp [hd])
  have hnumber := parseNumber_decimal n hc rest
  have hother : isWs d = false ∧ d ≠ 34 ∧ d ≠ 123 ∧ d ≠ 91 ∧ d ≠ 116 ∧ d ≠ 102 ∧ d ≠ 110 :=
    other_of_isdigit hdigit
  obtain ⟨hws, hquote, hbrace, hbracket, ht, hf, hn⟩ := hother
  rw [hd, List.cons_append] at hnumber ⊢
  rw [parseValue, skipWs_of_head _ hws]
  simp [hquote, hbrace, hbracket, ht, hf, hn, hnumber]

end Numbers

/-! ## Printed objects -/

/-- A member as a program prints it, which is read as it is meant. -/
structure JsonField where
  key : List UInt8
  text : List UInt8
  value : Json
  plain : Plain key
  shows : ShowsValue text value

/-- The member as it is read. -/
def JsonField.member (field : JsonField) : List Nat × Json :=
  (units field.key, field.value)

/-- A member whose value is `true`. -/
def JsonField.ofTrue (key : List UInt8) (hkey : Plain key) : JsonField where
  key := key
  text := [116, 114, 117, 101]
  value := .bool true
  plain := hkey
  shows := showsValue_true

/-- A member whose value is a string. -/
def JsonField.ofString (key text : List UInt8) (hkey : Plain key) (htext : Plain text) :
    JsonField where
  key := key
  text := quoted text
  value := .string (units text)
  plain := hkey
  shows := showsValue_quoted htext

/-- A member whose value is a number. -/
def JsonField.ofNat (key : List UInt8) (n : Nat) (hkey : Plain key) : JsonField where
  key := key
  text := decimal n
  value := .number (decimal n)
  plain := hkey
  shows := showsValue_decimal n

/-- The fields, each with a comma behind it, and what follows. -/
def fieldsText (fields : List JsonField) (rest : List UInt8) : List UInt8 :=
  fields.foldr (fun field text => quoted field.key ++ 58 :: (field.text ++ 44 :: text)) rest

section Objects

variable (fields : List JsonField) (field : JsonField) (fuel : Nat) (rest : List UInt8)

/-- A key and its colon. -/
theorem parseMembers_key
    {key : List UInt8} (hkey : Plain key) :
    parseMembers (fuel + 1) (quoted key ++ 58 :: rest) =
      match parseValue fuel rest with
      | none => none
      | some value =>
          match expect 44 value.2 with
          | some more =>
              (parseMembers fuel more).map fun r => ((units key, value.1) :: r.1, r.2)
          | none => (expect 125 value.2).map fun more => ([(units key, value.1)], more) := by
  have hshape : quoted key ++ 58 :: rest = 34 :: (key ++ 34 :: 58 :: rest) := by
    simp [quoted]
  rw [hshape, parseMembers, expect_self _ (by decide)]
  simp only [Option.bind_eq_bind, Option.bind_some, scanString_of_plain hkey,
    expect_self rest (show isWs 58 = false by decide)]
  cases parseValue fuel rest with
  | none => rfl
  | some value => rfl

theorem parseMembers_leading :
    parseMembers (fields.length + fuel + 1) (fieldsText fields rest) =
      (parseMembers (fuel + 1) rest).map fun r => (fields.map JsonField.member ++ r.1, r.2) := by
  induction fields with
  | nil =>
      simp [fieldsText]
  | cons field fields ih =>
      have hfuel : (field :: fields).length + fuel + 1 = (fields.length + fuel + 1) + 1 := by
        simp only [List.length_cons]
        omega
      rw [hfuel, fieldsText, List.foldr_cons, parseMembers_key _ _ field.plain,
        field.shows _ 44 _ (Or.inl rfl)]
      simp only [expect_self _ (show isWs 44 = false by decide)]
      rw [← fieldsText, ih, Option.map_map]
      rfl

theorem parseMembers_last :
    parseMembers (fuel + 2) (quoted field.key ++ 58 :: (field.text ++ 125 :: rest)) =
      some ([field.member], rest) := by
  rw [parseMembers_key _ _ field.plain, field.shows _ 125 _ (Or.inr rfl)]
  have hend : isWs 125 = false := by decide
  simp only [expect_other rest hend (show (125 : UInt8) ≠ 44 by decide), expect_self rest hend]
  rfl

theorem length_le_fieldsText :
    fields.length + rest.length ≤ (fieldsText fields rest).length := by
  induction fields with
  | nil =>
      simp [fieldsText]
  | cons field fields ih =>
      rw [fieldsText, List.foldr_cons, ← fieldsText]
      simp only [List.length_append, List.length_cons]
      omega

/-- What begins with a key still does with fields before it. -/
theorem fieldsText_begins :
    ∃ more, fieldsText fields (34 :: rest) = 34 :: more := by
  cases fields with
  | nil => exact ⟨rest, rfl⟩
  | cons field fields => exact ⟨_, rfl⟩

theorem parseValue_object :
    parseValue (fuel + 1) (123 :: 34 :: rest) =
      (parseMembers fuel (34 :: rest)).map fun r => (.object r.1, r.2) := by
  rw [parseValue, skipWs_of_head _ (by decide)]
  simp [expect_other rest (show isWs 34 = false by decide) (show (34 : UInt8) ≠ 125 by decide)]

/-- The members of an object that is not empty. -/
theorem parseJson_object
    {v : Json} :
    parseJson (123 :: 34 :: rest) = some v ↔
      ∃ members after, parseMembers (rest.length + 2) (34 :: rest) = some (members, after) ∧
        skipWs after = [] ∧ v = .object members := by
  unfold parseJson
  rw [List.length_cons, List.length_cons, parseValue_object]
  cases hmembers : parseMembers (rest.length + 2) (34 :: rest) with
  | none => simp
  | some r =>
      obtain ⟨members, after⟩ := r
      constructor
      · intro h
        simp only [Option.map_some] at h
        split at h
        · rename_i hafter
          exact ⟨members, after, rfl, hafter, (Option.some.inj h).symm⟩
        · cases h
      · rintro ⟨members', after', hsame, hafter, rfl⟩
        obtain ⟨rfl, rfl⟩ := Prod.mk.inj (Option.some.inj hsame)
        simp [hafter]

end Objects

section Whole

variable (fields : List JsonField)

/-- An object is read field by field, with fuel enough for two more members. -/
theorem parseJson_leading
    (key tail : List UInt8) :
    ∃ fuel, ∀ v, parseJson (123 :: fieldsText fields (quoted key ++ 58 :: tail)) = some v ↔
      ∃ members after, parseMembers (fuel + 2) (quoted key ++ 58 :: tail) = some (members, after) ∧
        skipWs after = [] ∧ v = .object (fields.map JsonField.member ++ members) := by
  have hquoted : quoted key ++ 58 :: tail = 34 :: (key ++ 34 :: 58 :: tail) := by
    simp [quoted]
  obtain ⟨more, hmore⟩ := fieldsText_begins fields (key ++ 34 :: 58 :: tail)
  have hlength := length_le_fieldsText fields (34 :: (key ++ 34 :: 58 :: tail))
  rw [hmore] at hlength
  obtain ⟨fuel, hfuel⟩ : ∃ fuel, more.length + 2 = fields.length + (fuel + 1) + 1 := by
    refine ⟨more.length - fields.length, ?_⟩
    simp only [List.length_cons, List.length_append] at hlength
    omega
  refine ⟨fuel, fun v => ?_⟩
  rw [hquoted, hmore, parseJson_object, hfuel, ← hmore, ← hquoted, parseMembers_leading]
  constructor
  · rintro ⟨members, after, hmembers, hafter, rfl⟩
    obtain ⟨⟨members', after'⟩, hrest, heq⟩ := Option.map_eq_some_iff.mp hmembers
    obtain ⟨rfl, rfl⟩ := Prod.mk.inj heq
    exact ⟨members', after', hrest, hafter, rfl⟩
  · rintro ⟨members, after, hmembers, hafter, rfl⟩
    exact ⟨_, after, by rw [hmembers]; rfl, hafter, rfl⟩

/-- An object printed field by field is the object that is meant. -/
theorem parseJson_fields
    (last : JsonField) :
    parseJson (123 :: fieldsText fields (quoted last.key ++ 58 :: (last.text ++ [125]))) =
      some (.object (fields.map JsonField.member ++ [last.member])) := by
  obtain ⟨fuel, hread⟩ := parseJson_leading fields last.key (last.text ++ [125])
  exact (hread _).mpr ⟨_, [], parseMembers_last last fuel [], rfl, rfl⟩

/-- Of an object whose first fields are printed as they are meant and whose next
is some text between quotes, that field is what the scanner makes of the text. -/
theorem string_of_parseJson
    {key : List UInt8} (hkey : Plain key) {text : List UInt8} {v : Json}
    (h : parseJson (123 :: fieldsText fields (quoted key ++ 58 :: 34 :: text)) = some v) :
    ∃ decoded after members, scanString .plain text = some (decoded, after) ∧
      v = .object (fields.map JsonField.member ++ (units key, .string decoded) :: members) := by
  obtain ⟨fuel, hread⟩ := parseJson_leading fields key (34 :: text)
  obtain ⟨members, after, hmembers, -, rfl⟩ := (hread v).mp h
  have hvalue : parseValue (fuel + 1) (34 :: text) =
      (scanString .plain text).map fun r => (.string r.1, r.2) := by
    rw [parseValue, skipWs_of_head _ (by decide)]
    simp
  rw [parseMembers_key _ _ hkey, hvalue] at hmembers
  cases hscan : scanString .plain text with
  | none =>
      rw [hscan] at hmembers
      cases hmembers
  | some r =>
      obtain ⟨decoded, behind⟩ := r
      rw [hscan] at hmembers
      simp only [Option.map_some] at hmembers
      split at hmembers
      · obtain ⟨more, -, heq⟩ := Option.map_eq_some_iff.mp hmembers
        exact ⟨decoded, behind, more.1, rfl, by rw [← (Prod.mk.inj heq).1]⟩
      · obtain ⟨more, -, heq⟩ := Option.map_eq_some_iff.mp hmembers
        exact ⟨decoded, behind, [], rfl, by rw [← (Prod.mk.inj heq).1]⟩

theorem values_append
    (key : List Nat) (members members' : List (List Nat × Json)) :
    (Json.object (members ++ members')).values key =
      (Json.object members).values key ++ (Json.object members').values key := by
  simp [Json.values]

/-- The fields have no member of that name. -/
def Unnamed (key : List UInt8) (fields : List JsonField) : Prop :=
  ∀ field ∈ fields, field.key ≠ key

theorem values_of_unnamed
    {key : List UInt8} {fields : List JsonField} (h : Unnamed key fields) :
    (Json.object (fields.map JsonField.member)).values (units key) = [] := by
  unfold Json.values
  rw [List.map_eq_nil_iff, List.filter_eq_nil_iff]
  intro member hmember
  obtain ⟨field, hfield, rfl⟩ := List.mem_map.mp hmember
  rw [decide_eq_true_eq]
  exact fun heq => h field hfield (units_injective heq)

/-- An object with a text put between quotes as it is, between fields of other
names, has the text for the value of that name exactly if the text is plain. -/
theorem string_between_fields_iff
    {key : List UInt8} (hkey : Plain key) (text : List UInt8)
    {leading following : List JsonField} {last : JsonField}
    (hleading : Unnamed key leading) (hfollowing : Unnamed key (following ++ [last])) :
    (∃ v, parseJson (123 :: fieldsText leading (quoted key ++ 58 :: (quoted text ++ 44 ::
        fieldsText following (quoted last.key ++ 58 :: (last.text ++ [125]))))) = some v ∧
      v.values (units key) = [.string (units text)]) ↔ Plain text := by
  constructor
  · rintro ⟨v, hv, hvalue⟩
    have hquoted : quoted last.key ++ 58 :: (last.text ++ [125]) =
        34 :: (last.key ++ 34 :: 58 :: (last.text ++ [125])) := by
      simp [quoted]
    obtain ⟨more, hmore⟩ := fieldsText_begins following
      (last.key ++ 34 :: 58 :: (last.text ++ [125]))
    have hshape : quoted text ++ 44 :: 34 :: more = 34 :: (text ++ 34 :: 44 :: 34 :: more) := by
      simp [quoted]
    rw [hquoted, hmore, hshape] at hv
    obtain ⟨decoded, after, members, hscan, rfl⟩ := string_of_parseJson leading hkey hv
    rw [values_append, values_of_unnamed hleading, List.nil_append] at hvalue
    have hdecoded : decoded = units text := by
      simp only [Json.values, List.filter_cons_of_pos, decide_true, List.map_cons] at hvalue
      exact Json.string.inj (List.cons.inj hvalue).1
    rw [hdecoded] at hscan
    exact plain_of_scanString hscan
  · intro htext
    have hfields : fieldsText leading (quoted key ++ 58 :: (quoted text ++ 44 ::
        fieldsText following (quoted last.key ++ 58 :: (last.text ++ [125])))) =
        fieldsText (leading ++ .ofString key text hkey htext :: following)
          (quoted last.key ++ 58 :: (last.text ++ [125])) := by
      simp [fieldsText, JsonField.ofString]
    refine ⟨_, by rw [hfields]; exact parseJson_fields _ last, ?_⟩
    have hmembers : (leading ++ .ofString key text hkey htext :: following).map JsonField.member ++
        [last.member] = leading.map JsonField.member ++
          ((units key, .string (units text)) :: (following ++ [last]).map JsonField.member) := by
      simp [JsonField.ofString, JsonField.member]
    have hrest := values_of_unnamed hfollowing
    unfold Json.values at hrest
    rw [hmembers, values_append, values_of_unnamed hleading, List.nil_append]
    simp only [Json.values, List.filter_cons_of_pos, decide_true, List.map_cons, hrest]

end Whole

end Foundation
end AvensysEsp32
