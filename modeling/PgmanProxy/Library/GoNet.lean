import Mathlib.Data.List.DropRight
import PgmanProxy.Library.GoJson
import PgmanProxy.Library.GoStrings

/-!
# Hosts of URLs

What `URL.Hostname` makes of the host of a parsed URL, and the dotted-decimal form of an
IPv4 address as `net.ParseIP` reads it: four numbers up to 255 without leading zeros.
-/

namespace PgmanProxy.Library.GoNet

open PgmanProxy.Library.GoJson PgmanProxy.Library.GoStrings

set_option autoImplicit false

/-- What stands behind the last colon. -/
def colonTail (runes : List Char) : List Char :=
  (runes.reverse.takeWhile (fun rune => rune != ':')).reverse

def beforeColon (runes : List Char) : List Char :=
  runes.take (runes.length - (colonTail runes).length - 1)

/-- The host without a colon and the digits behind it. -/
def portless (runes : List Char) : List Char :=
  if ':' ∈ runes ∧ (colonTail runes).all Char.isDigit = true then beforeColon runes else runes

/-- One pair of brackets around the text is taken off. -/
def unbracket (runes : List Char) : List Char :=
  if runes.head? = some '[' ∧ runes.getLast? = some ']' then runes.tail.dropLast else runes

/-- `URL.Hostname` -/
def hostname (host : String) : String := String.ofList (unbracket (portless host.toList))

def octet (text : String) : Option Nat :=
  match digitsValue text.toList with
  | none => none
  | some value =>
      if 255 < value ∨ (text.toList.head? = some '0' ∧ text ≠ "0") then none else some value

def parseIPv4 (text : String) : Option (Nat × Nat × Nat × Nat) :=
  match split '.' text with
  | [first, second, third, fourth] =>
      match octet first, octet second, octet third, octet fourth with
      | some first, some second, some third, some fourth => some (first, second, third, fourth)
      | _, _, _, _ => none
  | _ => none

example : hostname "[::1]:8443" = "::1" ∧ hostname "db:x" = "db:x" := by decide

example : parseIPv4 "127.0.0.1" = some (127, 0, 0, 1) ∧ parseIPv4 "127.00.0.1" = none ∧
    parseIPv4 "127.1" = none := by decide

/-! ## Runes -/

theorem digits_step_none (digits : List Char) : digits.foldl digitsStep none = none := by
  induction digits with
  | nil => rfl
  | cons digit digits ih => exact ih

theorem digits_value_runes (digits : List Char) (value total : Nat)
    (read : digits.foldl digitsStep (some total) = some value) :
    ∀ digit ∈ digits, digit.isDigit = true := by
  induction digits generalizing total with
  | nil => simp
  | cons digit digits ih =>
      rw [List.foldl_cons, digitsStep] at read
      split at read
      · rename_i plain
        exact List.forall_mem_cons.2 ⟨plain, ih _ read⟩
      · rw [digits_step_none] at read
        cases read

theorem octet_runes (text : String) (value : Nat) (read : octet text = some value) :
    ∀ rune ∈ text.toList, rune.isDigit = true := by
  unfold octet at read
  cases digits : digitsValue text.toList with
  | none =>
      rw [digits] at read
      cases read
  | some number =>
      rw [digits_value_fold] at digits
      split at digits
      · cases digits
      · exact digits_value_runes _ _ _ digits

theorem split_runes (separator : Char) (text : String) :
    [separator].intercalate ((split separator text).map String.toList) = text.toList := by
  have back : (split separator text).map String.toList = text.toList.splitOn separator := by
    rw [split, List.map_map]
    have same : String.toList ∘ String.ofList = id := by
      funext runes
      exact String.toList_ofList
    rw [same, List.map_id]
  rw [back]
  exact List.intercalate_splitOn separator

theorem ipv4_runes (text : String) (octets : Nat × Nat × Nat × Nat)
    (read : parseIPv4 text = some octets) :
    ∀ rune ∈ text.toList, rune.isDigit = true ∨ rune = '.' := by
  unfold parseIPv4 at read
  split at read
  · rename_i first second third fourth parts
    have whole := split_runes '.' text
    rw [parts] at whole
    split at read
    · rename_i one two three four readFirst readSecond readThird readFourth
      intro rune present
      rw [← whole] at present
      simp only [List.map_cons, List.map_nil, List.intercalate_cons_cons,
        List.intercalate_singleton, List.mem_append, List.mem_singleton] at present
      rcases present with (inFirst | dot) | (inSecond | dot) | (inThird | dot) | inFourth
      · exact Or.inl (octet_runes first one readFirst rune inFirst)
      · exact Or.inr dot
      · exact Or.inl (octet_runes second two readSecond rune inSecond)
      · exact Or.inr dot
      · exact Or.inl (octet_runes third three readThird rune inThird)
      · exact Or.inr dot
      · exact Or.inl (octet_runes fourth four readFourth rune inFourth)
    · cases read
  · cases read

/-! ## Brackets -/

def isBracket (rune : Char) : Bool := rune = '[' || rune = ']'

theorem trim_plain (text : List Char) (clean : ∀ rune ∈ text, isBracket rune = false) :
    text.dropWhile isBracket = text ∧ text.rdropWhile isBracket = text := by
  constructor
  · cases text with
    | nil => rfl
    | cons rune rest => rw [List.dropWhile_cons_of_neg (by simp [clean])]
  · rw [List.rdropWhile_eq_self_iff]
    intro filled
    simp [clean _ (List.getLast_mem filled)]

theorem trim_closed (text : List Char) (clean : ∀ rune ∈ text, isBracket rune = false) :
    ((text ++ [']']).dropWhile isBracket).rdropWhile isBracket = text := by
  cases text with
  | nil => rfl
  | cons rune rest =>
      have first : ¬ isBracket rune = true := by simp [clean]
      rw [List.cons_append, List.dropWhile_cons_of_neg first, ← List.cons_append,
        List.rdropWhile_concat_pos _ _ _ (by decide)]
      exact (trim_plain (rune :: rest) clean).2

/-- A text without brackets comes out of its pair however many brackets are trimmed. -/
theorem trim_unbracket (runes : List Char)
    (clean : ∀ rune ∈ unbracket runes, isBracket rune = false) :
    (runes.dropWhile isBracket).rdropWhile isBracket = unbracket runes := by
  by_cases pair : runes.head? = some '[' ∧ runes.getLast? = some ']'
  · rw [unbracket, if_pos pair] at clean ⊢
    obtain ⟨opened, closed⟩ := pair
    cases runes with
    | nil => cases opened
    | cons rune rest =>
        cases opened
        rw [List.tail_cons] at clean ⊢
        have filled : rest ≠ [] := by
          rintro rfl
          cases closed
        rw [List.getLast?_cons_of_ne_nil filled] at closed
        have split : rest.dropLast ++ [']'] = rest := List.dropLast_append_getLast? _ closed
        have trimmed := trim_closed rest.dropLast clean
        rw [split] at trimmed
        rw [List.dropWhile_cons_of_pos (by decide)]
        exact trimmed
  · rw [unbracket, if_neg pair] at clean ⊢
    obtain ⟨front, back⟩ := trim_plain runes clean
    rw [front, back]

/-! ## Ports -/

/-- A text that ends with a bracket keeps it behind its last colon. -/
theorem last_in_tail (runes : List Char) (last : Char) (ends : runes.getLast? = some last)
    (other : last ≠ ':') : last ∈ colonTail runes := by
  obtain ⟨front, rfl⟩ := List.getLast?_eq_some_iff.1 ends
  rw [colonTail, List.mem_reverse, List.reverse_append, List.reverse_singleton,
    List.singleton_append, List.takeWhile_cons_of_pos (by simpa using other)]
  exact List.mem_cons_self

theorem bracket_not_digit (runes : List Char) (digits : runes.all Char.isDigit = true) :
    ']' ∉ runes := by
  intro present
  have digit := List.all_eq_true.1 digits ']' present
  cases digit

end PgmanProxy.Library.GoNet
