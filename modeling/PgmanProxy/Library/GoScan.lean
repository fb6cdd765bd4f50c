import Mathlib.Data.List.TakeWhile
import PgmanProxy.Library.GoJson
import PgmanProxy.Library.GoStrings

/-!
# Reading a decimal number with `fmt.Sscanf`

The verb `%d` into an `int64`: blanks are skipped, though not a line feed, then comes at
most one sign and then the longest run of digits. Whatever follows the digits is left
unread, which is no error.
-/

namespace PgmanProxy.Library.GoScan

open PgmanProxy.Library.GoStrings (isSpace)
open PgmanProxy.Library.GoJson (int64Bound)

set_option autoImplicit false

inductive ScanError where
  | endOfInput
  | newline
  | expectedInteger
  | outOfRange
deriving DecidableEq, Repr

/-- `SkipSpace`, with a line feed not taken for a blank -/
def skipSpace : List Char → Except ScanError (List Char)
  | [] => .ok []
  | rune :: rest =>
      if rune = '\n' then .error .newline
      else if isSpace rune then skipSpace rest
      else .ok (rune :: rest)

/-- Whether there is a minus sign, and what follows the sign. -/
def acceptSign : List Char → Bool × List Char
  | '+' :: rest => (false, rest)
  | '-' :: rest => (true, rest)
  | runes => (false, runes)

def signedValue (negative : Bool) (digits : List Char) : Int :=
  if negative then -(Nat.ofDigitChars 10 digits 0 : Int) else Nat.ofDigitChars 10 digits 0

def FitsInt64 (value : Int) : Prop := -(int64Bound : Int) ≤ value ∧ value < int64Bound

instance (value : Int) : Decidable (FitsInt64 value) :=
  inferInstanceAs (Decidable (_ ∧ _))

def scanNumber (negative : Bool) (runes : List Char) : Except ScanError Int :=
  let digits := runes.takeWhile Char.isDigit
  if runes.isEmpty then .error .endOfInput
  else if digits.isEmpty then .error .expectedInteger
  else if FitsInt64 (signedValue negative digits) then .ok (signedValue negative digits)
  else .error .outOfRange

def scanInt (runes : List Char) : Except ScanError Int :=
  match skipSpace runes with
  | .error failure => .error failure
  | .ok [] => .error .endOfInput
  | .ok token => scanNumber (acceptSign token).1 (acceptSign token).2

/-! ## What is read -/

inductive Sign where
  | none
  | plus
  | minus
deriving DecidableEq, Repr

def Sign.runes : Sign → List Char
  | .none => []
  | .plus => ['+']
  | .minus => ['-']

def Sign.negative : Sign → Bool
  | .none => false
  | .plus => false
  | .minus => true

/-- A number at the front of some runes. -/
structure Reading (runes : List Char) where
  blanks : List Char
  sign : Sign
  digits : List Char
  rest : List Char
  parts : runes = blanks ++ (sign.runes ++ (digits ++ rest))
  blank : ∀ rune ∈ blanks, isSpace rune = true ∧ rune ≠ '\n'
  nonempty : digits ≠ []
  decimal : ∀ rune ∈ digits, rune.isDigit = true
  longest : ∀ rune ∈ rest.head?, rune.isDigit = false

def Reading.value {runes : List Char} (reading : Reading runes) : Int :=
  signedValue reading.sign.negative reading.digits

theorem digit_not_space (rune : Char) (digit : rune.isDigit = true) : isSpace rune = false := by
  have bounds : 48 ≤ rune.toNat ∧ rune.toNat ≤ 57 := by
    simp only [Char.isDigit, ge_iff_le, Bool.and_eq_true, decide_eq_true_eq] at digit
    exact ⟨UInt32.le_iff_toNat_le.1 digit.1, UInt32.le_iff_toNat_le.1 digit.2⟩
  simp [isSpace]
  omega

theorem skip_space_parts (runes token : List Char) (skipped : skipSpace runes = .ok token) :
    ∃ blanks, runes = blanks ++ token ∧ ∀ rune ∈ blanks, isSpace rune = true ∧ rune ≠ '\n' := by
  induction runes with
  | nil =>
      cases skipped
      exact ⟨[], rfl, by simp⟩
  | cons rune rest ih =>
      unfold skipSpace at skipped
      split at skipped
      · cases skipped
      · rename_i noNewline
        split at skipped
        · rename_i space
          obtain ⟨blanks, parts, blank⟩ := ih skipped
          refine ⟨rune :: blanks, by rw [parts, List.cons_append], ?_⟩
          rw [List.forall_mem_cons]
          exact ⟨⟨space, noNewline⟩, blank⟩
        · cases skipped
          exact ⟨[], rfl, by simp⟩

theorem skip_space_blanks (blanks token : List Char)
    (blank : ∀ rune ∈ blanks, isSpace rune = true ∧ rune ≠ '\n')
    (stops : ∀ rune ∈ token.head?, isSpace rune = false) :
    skipSpace (blanks ++ token) = .ok token := by
  induction blanks with
  | nil =>
      cases token with
      | nil => rfl
      | cons rune rest =>
          have here : isSpace rune = false := stops rune rfl
          have noNewline : rune ≠ '\n' := by
            intro newline
            rw [newline] at here
            cases here
          rw [List.nil_append, skipSpace, if_neg noNewline, here]
          rfl
  | cons rune blanks ih =>
      rw [List.forall_mem_cons] at blank
      rw [List.cons_append, skipSpace, if_neg blank.1.2, if_pos blank.1.1]
      exact ih blank.2

theorem accept_sign_parts (token : List Char) :
    ∃ sign : Sign, token = sign.runes ++ (acceptSign token).2 ∧
      (acceptSign token).1 = sign.negative := by
  unfold acceptSign
  split
  · exact ⟨.plus, rfl, rfl⟩
  · exact ⟨.minus, rfl, rfl⟩
  · exact ⟨.none, rfl, rfl⟩

theorem accept_sign_runes (sign : Sign) (rune : Char) (rest : List Char)
    (digit : rune.isDigit = true) :
    acceptSign (sign.runes ++ rune :: rest) = (sign.negative, rune :: rest) := by
  cases sign with
  | none =>
      change acceptSign (rune :: rest) = (false, rune :: rest)
      unfold acceptSign
      split
      · rename_i same
        cases same
        cases digit
      · rename_i same
        cases same
        cases digit
      · rfl
  | plus => rfl
  | minus => rfl

theorem scan_number_digits (negative : Bool) (digits rest : List Char) (nonempty : digits ≠ [])
    (decimal : ∀ rune ∈ digits, rune.isDigit = true)
    (longest : ∀ rune ∈ rest.head?, rune.isDigit = false) :
    scanNumber negative (digits ++ rest) =
      if FitsInt64 (signedValue negative digits) then .ok (signedValue negative digits)
      else .error .outOfRange := by
  have stopped : rest.takeWhile Char.isDigit = [] := by
    cases rest with
    | nil => rfl
    | cons rune rest => rw [List.takeWhile_cons, longest rune rfl]; rfl
  have taken : (digits ++ rest).takeWhile Char.isDigit = digits := by
    rw [List.takeWhile_append_of_pos decimal, stopped, List.append_nil]
  unfold scanNumber
  simp [taken, nonempty]

theorem scan_number_ok (negative : Bool) (runes : List Char) (number : Int)
    (scanned : scanNumber negative runes = .ok number) :
    ∃ digits rest, runes = digits ++ rest ∧ digits ≠ [] ∧
      (∀ rune ∈ digits, rune.isDigit = true) ∧ (∀ rune ∈ rest.head?, rune.isDigit = false) ∧
      signedValue negative digits = number ∧ FitsInt64 number := by
  unfold scanNumber at scanned
  dsimp only at scanned
  split at scanned
  · cases scanned
  split at scanned
  · cases scanned
  rename_i some
  split at scanned
  · rename_i fits
    cases scanned
    refine ⟨runes.takeWhile Char.isDigit, runes.dropWhile Char.isDigit, ?_, ?_, ?_, ?_, rfl, fits⟩
    · exact List.takeWhile_append_dropWhile.symm
    · simpa using some
    · intro rune member
      exact List.mem_takeWhile_imp member
    · intro rune head
      have stopped := List.head?_dropWhile_not Char.isDigit runes
      rw [head] at stopped
      simpa using stopped
  · cases scanned

/-- `%d` succeeds exactly on the texts that start with a number in range. -/
theorem scan_int_ok_iff (runes : List Char) (number : Int) :
    scanInt runes = .ok number ↔
      ∃ reading : Reading runes, reading.value = number ∧ FitsInt64 number := by
  constructor
  · intro scanned
    unfold scanInt at scanned
    split at scanned
    · cases scanned
    · cases scanned
    · rename_i token _ skipped
      obtain ⟨blanks, parts, blank⟩ := skip_space_parts runes token skipped
      obtain ⟨sign, signed, negative⟩ := accept_sign_parts token
      obtain ⟨digits, rest, unsigned, nonempty, decimal, longest, value, fits⟩ :=
        scan_number_ok _ _ _ scanned
      rw [unsigned] at signed
      rw [negative] at value
      exact ⟨⟨blanks, sign, digits, rest, by rw [parts, signed], blank, nonempty, decimal,
        longest⟩, value, fits⟩
  · rintro ⟨reading, rfl, fits⟩
    obtain ⟨blanks, sign, digits, rest, rfl, blank, nonempty, decimal, longest⟩ := reading
    obtain ⟨first, later, rfl⟩ := List.exists_cons_of_ne_nil nonempty
    have digit : first.isDigit = true := decimal first List.mem_cons_self
    have starts : ∀ rune ∈ (sign.runes ++ (first :: later ++ rest)).head?,
        isSpace rune = false := by
      intro rune head
      cases sign with
      | none =>
          cases head
          exact digit_not_space first digit
      | plus =>
          cases head
          rfl
      | minus =>
          cases head
          rfl
    have skipped := skip_space_blanks blanks _ blank starts
    have accepted := accept_sign_runes sign first (later ++ rest) digit
    unfold scanInt
    rw [skipped]
    split
    · rename_i failed
      cases failed
    · rename_i empty
      simp at empty
    · rename_i token _ same
      cases same
      have number :=
        scan_number_digits sign.negative (first :: later) rest nonempty decimal longest
      change scanNumber (acceptSign (sign.runes ++ first :: (later ++ rest))).1
        (acceptSign (sign.runes ++ first :: (later ++ rest))).2 = _
      rw [accepted]
      exact number.trans (if_pos fits)

/-- A text of digits only has no other reading than its digits. -/
theorem reading_of_digits (runes : List Char) (clean : ∀ rune ∈ runes, rune.isDigit = true)
    (reading : Reading runes) :
    reading.sign = .none ∧ reading.digits = runes := by
  obtain ⟨blanks, sign, digits, rest, parts, blank, nonempty, decimal, longest⟩ := reading
  have noBlanks : blanks = [] := by
    apply List.eq_nil_iff_forall_not_mem.2
    intro rune member
    have digit := clean rune (by rw [parts]; exact List.mem_append_left _ member)
    have space := (blank rune member).1
    rw [digit_not_space rune digit] at space
    cases space
  have unsigned : sign = .none := by
    cases sign with
    | none => rfl
    | plus => exact absurd (clean '+' (by rw [parts]; simp [Sign.runes])) (by decide)
    | minus => exact absurd (clean '-' (by rw [parts]; simp [Sign.runes])) (by decide)
  have noRest : rest = [] := by
    cases rest with
    | nil => rfl
    | cons rune rest =>
        have digit := clean rune (by rw [parts]; simp)
        rw [longest rune rfl] at digit
        cases digit
  refine ⟨unsigned, ?_⟩
  change digits = runes
  rw [parts, noBlanks, unsigned, noRest]
  simp [Sign.runes]

end PgmanProxy.Library.GoScan
