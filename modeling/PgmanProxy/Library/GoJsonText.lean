import PgmanProxy.Library.GoBytes
import PgmanProxy.Library.GoJson

/-!
# Writing JSON

`json.Marshal` of a value: no blank between the tokens, control characters and the
runes that matter to HTML escaped. The text has no control character, so it stays
on one line, and the text of an object begins and ends in a brace.
-/

namespace PgmanProxy.Library.GoJsonText

open PgmanProxy.Library.GoBytes PgmanProxy.Library.GoJson

set_option autoImplicit false

def unicodeEscape (rune : Char) : List Char :=
  let code := rune.toNat
  ['\\', 'u', Nat.digitChar (code / 4096 % 16), Nat.digitChar (code / 256 % 16),
    Nat.digitChar (code / 16 % 16), Nat.digitChar (code % 16)]

def escapeRune (rune : Char) : List Char :=
  if rune = '"' || rune = '\\' then ['\\', rune]
  else if rune.toNat = 8 then ['\\', 'b']
  else if rune.toNat = 12 then ['\\', 'f']
  else if rune = '\n' then ['\\', 'n']
  else if rune = '\r' then ['\\', 'r']
  else if rune = '\t' then ['\\', 't']
  else if rune.toNat < 0x20 || rune = '<' || rune = '>' || rune = '&' ||
      rune.toNat = 0x2028 || rune.toNat = 0x2029 then unicodeEscape rune
  else [rune]

def encodeString (text : String) : List Char :=
  '"' :: text.toList.flatMap escapeRune ++ ['"']

mutual

def encode : Json → List Char
  | .null => "null".toList
  | .bool value => if value then "true".toList else "false".toList
  | .num literal => literal.toList
  | .str text => encodeString text
  | .arr items => '[' :: encodeItems items ++ [']']
  | .obj members => '\x7b' :: encodeMembers members ++ ['\x7d']

def encodeItems : List Json → List Char
  | [] => []
  | item :: items => encode item ++ (if items.isEmpty then [] else ',' :: encodeItems items)

def encodeMembers : List (String × Json) → List Char
  | [] => []
  | (key, value) :: members =>
      encodeString key ++ ':' :: encode value ++
        (if members.isEmpty then [] else ',' :: encodeMembers members)

end

/-- `json.Marshal` -/
def marshal (value : Json) : List UInt8 := (encode value).flatMap String.utf8EncodeChar

example : marshal (.obj [("a", .str "x<\n"), ("b", .arr [.num "1", .null])]) =
    utf8 "\x7b\"a\":\"x\\u003c\\n\",\"b\":[1,null]\x7d" := by decide

/-! ## One line -/

def isNumeral (rune : Char) : Bool :=
  rune.isDigit || rune = '-' || rune = '+' || rune = '.' || rune = 'e' || rune = 'E'

mutual

/-- Every number is written with the runes a number has. -/
def numerals : Json → Bool
  | .num literal => literal.toList.all isNumeral
  | .arr items => itemNumerals items
  | .obj members => memberNumerals members
  | _ => true

def itemNumerals : List Json → Bool
  | [] => true
  | item :: items => numerals item && itemNumerals items

def memberNumerals : List (String × Json) → Bool
  | [] => true
  | (_, value) :: members => numerals value && memberNumerals members

end

theorem member_numerals_append (left right : List (String × Json)) :
    memberNumerals (left ++ right) = (memberNumerals left && memberNumerals right) := by
  induction left with
  | nil => rfl
  | cons member left ih =>
      obtain ⟨name, value⟩ := member
      rw [List.cons_append, memberNumerals, memberNumerals, ih, Bool.and_assoc]

/-- No control character. -/
def Printable (runes : List Char) : Prop := ∀ rune ∈ runes, 0x20 ≤ rune.toNat

theorem printable_append (left right : List Char) :
    Printable (left ++ right) ↔ Printable left ∧ Printable right := by
  simp only [Printable, List.mem_append, or_imp, forall_and]

theorem printable_cons (rune : Char) (runes : List Char) :
    Printable (rune :: runes) ↔ 0x20 ≤ rune.toNat ∧ Printable runes := by
  simp only [Printable, List.mem_cons, forall_eq_or_imp]

theorem printable_digit (digit : Nat) (small : digit < 16) :
    0x20 ≤ (Nat.digitChar digit).toNat := by
  have all : ∀ value : Fin 16, 0x20 ≤ (Nat.digitChar value.val).toNat := by decide
  exact all ⟨digit, small⟩

theorem printable_unicode_escape (rune : Char) : Printable (unicodeEscape rune) := by
  have digit : ∀ value, 0x20 ≤ (Nat.digitChar (value % 16)).toNat := by
    intro value
    exact printable_digit _ (Nat.mod_lt _ (by decide))
  simp only [unicodeEscape, printable_cons]
  exact ⟨by decide, by decide, digit _, digit _, digit _, digit _, by simp [Printable]⟩

theorem printable_escape (rune : Char) : Printable (escapeRune rune) := by
  unfold escapeRune
  split_ifs with quoted _ _ _ _ _ special
  · rw [Bool.or_eq_true, decide_eq_true_eq, decide_eq_true_eq] at quoted
    rcases quoted with rfl | rfl <;> simp [Printable]
  · simp [Printable]
  · simp [Printable]
  · simp [Printable]
  · simp [Printable]
  · simp [Printable]
  · exact printable_unicode_escape rune
  · simp only [Bool.or_eq_true, decide_eq_true_eq, not_or, not_lt] at special
    simp only [Printable, List.mem_singleton, forall_eq]
    omega

theorem printable_string (text : String) : Printable (encodeString text) := by
  rw [encodeString, List.cons_append, printable_cons, printable_append]
  refine ⟨by decide, ?_, by simp [Printable]⟩
  intro rune member
  obtain ⟨source, _, inside⟩ := List.mem_flatMap.1 member
  exact printable_escape source rune inside

theorem printable_numeral (rune : Char) (numeral : isNumeral rune = true) :
    0x20 ≤ rune.toNat := by
  unfold isNumeral at numeral
  simp only [Bool.or_eq_true, decide_eq_true_eq] at numeral
  rcases numeral with ((((digit | rfl) | rfl) | rfl) | rfl) | rfl
  · simp only [Char.isDigit, Bool.and_eq_true, decide_eq_true_eq] at digit
    have low : (48 : UInt32).toNat ≤ rune.val.toNat := UInt32.le_iff_toNat_le.1 digit.1
    have code : rune.val.toNat = rune.toNat := rfl
    have base : (48 : UInt32).toNat = 48 := rfl
    omega
  all_goals decide

mutual

theorem printable_encode : ∀ value : Json, numerals value = true → Printable (encode value)
  | .null, _ => by rw [encode]; simp [Printable]
  | .bool true, _ => by rw [encode]; simp [Printable]
  | .bool false, _ => by rw [encode]; simp [Printable]
  | .num literal, clean => by
      rw [numerals, List.all_eq_true] at clean
      rw [encode]
      intro rune member
      exact printable_numeral rune (clean rune member)
  | .str text, _ => by
      rw [encode]
      exact printable_string text
  | .arr items, clean => by
      rw [numerals] at clean
      rw [encode, List.cons_append, printable_cons, printable_append]
      exact ⟨by decide, printable_items items clean, by simp [Printable]⟩
  | .obj members, clean => by
      rw [numerals] at clean
      rw [encode, List.cons_append, printable_cons, printable_append]
      exact ⟨by decide, printable_members members clean, by simp [Printable]⟩

theorem printable_items : ∀ items : List Json, itemNumerals items = true →
    Printable (encodeItems items)
  | [], _ => by rw [encodeItems]; simp [Printable]
  | item :: items, clean => by
      rw [itemNumerals, Bool.and_eq_true] at clean
      rw [encodeItems, printable_append]
      refine ⟨printable_encode item clean.1, ?_⟩
      split
      · simp [Printable]
      · rw [printable_cons]
        exact ⟨by decide, printable_items items clean.2⟩

theorem printable_members : ∀ members : List (String × Json), memberNumerals members = true →
    Printable (encodeMembers members)
  | [], _ => by rw [encodeMembers]; simp [Printable]
  | (key, value) :: members, clean => by
      rw [memberNumerals, Bool.and_eq_true] at clean
      rw [encodeMembers, printable_append, printable_append, printable_cons]
      refine ⟨⟨printable_string key, by decide, printable_encode value clean.1⟩, ?_⟩
      split
      · simp [Printable]
      · rw [printable_cons]
        exact ⟨by decide, printable_members members clean.2⟩

end

/-- A value is written on one line. -/
theorem marshal_one_line (value : Json) (clean : numerals value = true) :
    newline ∉ marshal value := by
  apply utf8_lacks newline _ (by decide)
  intro rune member same
  have printable := printable_encode value clean rune member
  have code : newline.toNat = 10 := rfl
  omega

/-- An object is written between braces. -/
theorem marshal_object (members : List (String × Json)) :
    ∃ middle, marshal (.obj members) = 0x7B :: middle ++ [0x7D] := by
  refine ⟨(encodeMembers members).flatMap String.utf8EncodeChar, ?_⟩
  rw [marshal, encode, List.flatMap_append, List.flatMap_cons]
  rfl

theorem marshal_object_trimmed (members : List (String × Json)) :
    trimSpace (marshal (.obj members)) = marshal (.obj members) := by
  obtain ⟨middle, braces⟩ := marshal_object members
  rw [braces]
  exact trim_space_solid 0x7B 0x7D middle (by decide) (by decide)

end PgmanProxy.Library.GoJsonText
