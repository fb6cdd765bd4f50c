import Mathlib.Data.List.DropRight
import Mathlib.Data.List.Infix

/-!
# Go strings as the bytes they are

A Go string is any sequence of bytes. What is read off a connection may end in
the middle of a rune, so the functions of the `strings` package that such text
meets are given on bytes: a white-space rune is the byte sequence that encodes it.
-/

namespace PgmanProxy.Library.GoBytes

set_option autoImplicit false

def newline : UInt8 := 10

def utf8 (text : String) : List UInt8 := text.toList.flatMap String.utf8EncodeChar

/-- Every line with its end. -/
def joinLines (lines : List (List UInt8)) : List UInt8 :=
  lines.flatMap (fun line => line ++ [newline])

/-- The encodings of the runes `unicode.IsSpace` accepts. -/
def spaceCodes : List (List UInt8) :=
  [[0x20], [0x09], [0x0A], [0x0B], [0x0C], [0x0D], [0xC2, 0x85], [0xC2, 0xA0],
    [0xE1, 0x9A, 0x80], [0xE2, 0x80, 0x80], [0xE2, 0x80, 0x81], [0xE2, 0x80, 0x82],
    [0xE2, 0x80, 0x83], [0xE2, 0x80, 0x84], [0xE2, 0x80, 0x85], [0xE2, 0x80, 0x86],
    [0xE2, 0x80, 0x87], [0xE2, 0x80, 0x88], [0xE2, 0x80, 0x89], [0xE2, 0x80, 0x8A],
    [0xE2, 0x80, 0xA8], [0xE2, 0x80, 0xA9], [0xE2, 0x80, 0xAF], [0xE2, 0x81, 0x9F],
    [0xE3, 0x80, 0x80]]

/-- Takes codes off the front for as long as there is one, at most `fuel` of them. -/
def strip (codes : List (List UInt8)) : Nat → List UInt8 → List UInt8
  | 0, bytes => bytes
  | fuel + 1, bytes =>
      match codes.find? (fun code => code.isPrefixOf bytes) with
      | none => bytes
      | some code => strip codes fuel (bytes.drop code.length)

def trimLeft (bytes : List UInt8) : List UInt8 := strip spaceCodes bytes.length bytes

def trimRight (bytes : List UInt8) : List UInt8 :=
  (strip (spaceCodes.map List.reverse) bytes.length bytes.reverse).reverse

/-- `strings.TrimSpace` -/
def trimSpace (bytes : List UInt8) : List UInt8 := trimRight (trimLeft bytes)

/-- `strings.TrimRight` with the cut set `"\r\n"` -/
def trimLineEnd (bytes : List UInt8) : List UInt8 :=
  bytes.rdropWhile (fun byte => byte = 0x0D || byte = newline)

example : trimSpace (utf8 " a b　\r\n") = utf8 "a b" := by decide

/-! ## Trimming -/

theorem strip_suffix (codes : List (List UInt8)) (fuel : Nat) (bytes : List UInt8) :
    strip codes fuel bytes <:+ bytes := by
  induction fuel generalizing bytes with
  | zero => exact List.suffix_rfl
  | succ fuel ih =>
      rw [strip]
      split
      · exact List.suffix_rfl
      · exact (ih _).trans (List.drop_suffix _ _)

theorem strip_code (codes : List (List UInt8)) (fuel : Nat) (bytes code : List UInt8)
    (found : codes.find? (fun code => code.isPrefixOf bytes) = some code) :
    strip codes (fuel + 1) bytes = strip codes fuel (bytes.drop code.length) := by
  rw [strip, found]

theorem strip_none (codes : List (List UInt8)) (fuel : Nat) (bytes : List UInt8)
    (absent : ∀ code ∈ codes, code.isPrefixOf bytes = false) : strip codes fuel bytes = bytes := by
  cases fuel with
  | zero => rfl
  | succ fuel =>
      have nothing : codes.find? (fun code => code.isPrefixOf bytes) = none := by
        rw [List.find?_eq_none]
        intro code member
        rw [absent code member]
        exact Bool.false_ne_true
      rw [strip, nothing]

theorem trim_right_initial (bytes : List UInt8) : trimRight bytes <+: bytes := by
  rw [← List.reverse_suffix, trimRight, List.reverse_reverse]
  exact strip_suffix _ _ _

theorem trim_space_length (bytes : List UInt8) : (trimSpace bytes).length ≤ bytes.length :=
  (trim_right_initial _).length_le.trans (strip_suffix _ _ _).length_le

/-- A blank in front goes first. -/
theorem trim_space_blank (bytes : List UInt8) : trimSpace (0x20 :: bytes) = trimSpace bytes := by
  have found : spaceCodes.find? (fun code => code.isPrefixOf (0x20 :: bytes)) = some [0x20] := by
    simp [spaceCodes]
  have step : trimLeft (0x20 :: bytes) = trimLeft bytes := by
    unfold trimLeft
    rw [List.length_cons, strip_code _ _ _ _ found]
    rfl
  rw [trimSpace, trimSpace, step]

theorem not_initial (code bytes : List UInt8) (first : UInt8) (filled : code ≠ [])
    (other : code.head? ≠ some first) : code.isPrefixOf (first :: bytes) = false := by
  cases code with
  | nil => exact absurd rfl filled
  | cons byte code =>
      have different : byte ≠ first := by
        intro same
        exact other (by rw [same]; rfl)
      rw [List.isPrefixOf_cons_cons, beq_eq_false_iff_ne.2 different, Bool.false_and]

/-- Text that begins and ends in a byte no code has there stays as it is. -/
theorem trim_space_solid (first last : UInt8) (middle : List UInt8)
    (front : ∀ code ∈ spaceCodes, code.head? ≠ some first)
    (back : ∀ code ∈ spaceCodes, code.reverse.head? ≠ some last) :
    trimSpace (first :: middle ++ [last]) = first :: middle ++ [last] := by
  have filled : ∀ code ∈ spaceCodes, code ≠ [] := by decide
  have left : trimLeft (first :: middle ++ [last]) = first :: middle ++ [last] := by
    apply strip_none
    intro code member
    exact not_initial code _ first (filled code member) (front code member)
  have right : trimRight (first :: middle ++ [last]) = first :: middle ++ [last] := by
    have kept : strip (spaceCodes.map List.reverse) (first :: middle ++ [last]).length
        (last :: (first :: middle).reverse) = last :: (first :: middle).reverse := by
      apply strip_none
      intro reversed member
      obtain ⟨code, present, rfl⟩ := List.mem_map.1 member
      apply not_initial _ _ last _ (back code present)
      simpa using filled code present
    rw [trimRight, List.reverse_append, List.reverse_singleton, List.singleton_append, kept,
      List.reverse_cons, List.reverse_reverse]
  rw [trimSpace, left, right]

/-- Trimmed text does not end in a code of one byte. -/
theorem trimmed_last (front : List UInt8) (last : UInt8) (space : [last] ∈ spaceCodes)
    (trimmed : trimSpace (front ++ [last]) = front ++ [last]) : False := by
  have whole : trimLeft (front ++ [last]) = front ++ [last] := by
    apply (strip_suffix _ _ _).eq_of_length_le
    have shorter := (trim_right_initial (trimLeft (front ++ [last]))).length_le
    have same : (trimRight (trimLeft (front ++ [last]))).length = (front ++ [last]).length :=
      congrArg List.length trimmed
    rw [same] at shorter
    exact shorter
  have kept : trimRight (front ++ [last]) = front ++ [last] := by
    rw [trimSpace, whole] at trimmed
    exact trimmed
  have reversed : (front ++ [last]).reverse = last :: front.reverse := by simp
  have present : [last] ∈ spaceCodes.map List.reverse :=
    List.mem_map.2 ⟨[last], space, rfl⟩
  have found : ∃ code, (spaceCodes.map List.reverse).find?
      (fun code => code.isPrefixOf (last :: front.reverse)) = some code := by
    rw [← Option.isSome_iff_exists, List.find?_isSome]
    exact ⟨[last], present, by simp⟩
  obtain ⟨code, first⟩ := found
  have filled : 0 < code.length := by
    have member := List.mem_of_find?_eq_some first
    have solid : ∀ code ∈ spaceCodes.map List.reverse, 0 < code.length := by decide
    exact solid code member
  have cut : (trimRight (front ++ [last])).length ≤ front.length := by
    rw [trimRight, List.length_append, List.length_singleton, reversed,
      strip_code _ _ _ _ first, List.length_reverse]
    have remainder := (strip_suffix (spaceCodes.map List.reverse) front.length
      ((last :: front.reverse).drop code.length)).length_le
    rw [List.length_drop, List.length_cons, List.length_reverse] at remainder
    omega
  rw [kept, List.length_append, List.length_singleton] at cut
  omega

/-- Trimmed text has no line end to lose. -/
theorem trim_line_end_trimmed (lead text : List UInt8) (filled : text ≠ [])
    (trimmed : trimSpace text = text) : trimLineEnd (lead ++ text) = lead ++ text := by
  rcases List.eq_nil_or_concat' text with rfl | ⟨front, last, rfl⟩
  · exact absurd rfl filled
  · rw [trimLineEnd, ← List.append_assoc]
    apply List.rdropWhile_concat_neg
    intro ends
    rw [Bool.or_eq_true, decide_eq_true_eq, decide_eq_true_eq] at ends
    rcases ends with rfl | rfl
    · exact trimmed_last front 0x0D (by decide) trimmed
    · exact trimmed_last front newline (by decide) trimmed

/-! ## Encoded text -/

/-- A byte of ASCII occurs in an encoding only as the rune it is. -/
theorem ascii_in_rune (byte : UInt8) (rune : Char) (small : byte.toNat < 128)
    (present : byte ∈ String.utf8EncodeChar rune) : rune.toNat = byte.toNat := by
  have bytes : ∀ value, value < 256 → byte = UInt8.ofNat value → byte.toNat = value := by
    intro value fits same
    rw [same, UInt8.toNat_ofNat']
    exact Nat.mod_eq_of_lt fits
  have code : rune.val.toNat = rune.toNat := rfl
  unfold String.utf8EncodeChar at present
  simp only at present
  split at present
  · have value := bytes _ (by omega) (List.mem_singleton.1 present)
    omega
  · -- every byte of a longer encoding is at least 128
    split at present
    · simp only [List.mem_cons, List.not_mem_nil, or_false] at present
      rcases present with same | same <;> have value := bytes _ (by omega) same <;> omega
    · split at present
      · simp only [List.mem_cons, List.not_mem_nil, or_false] at present
        rcases present with same | same | same <;> have value := bytes _ (by omega) same <;> omega
      · simp only [List.mem_cons, List.not_mem_nil, or_false] at present
        rcases present with same | same | same | same <;>
          have value := bytes _ (by omega) same <;> omega

theorem utf8_lacks (byte : UInt8) (runes : List Char) (small : byte.toNat < 128)
    (absent : ∀ rune ∈ runes, rune.toNat ≠ byte.toNat) :
    byte ∉ runes.flatMap String.utf8EncodeChar := by
  intro present
  obtain ⟨rune, member, inside⟩ := List.mem_flatMap.1 present
  exact absent rune member (ascii_in_rune byte rune small inside)

theorem utf8_injective (left right : String) (same : utf8 left = utf8 right) : left = right := by
  have bytes : ∀ text : String, text.toByteArray = (utf8 text).toByteArray := by
    intro text
    have encoded := String.toByteArray_ofList (l := text.toList)
    rw [String.ofList_toList] at encoded
    exact encoded
  apply String.toByteArray_inj.1
  rw [bytes left, bytes right, same]

theorem utf8_nil_iff (text : String) : utf8 text = [] ↔ text = "" :=
  ⟨fun empty => utf8_injective text "" empty, fun empty => by rw [empty]; rfl⟩

/-! ## Hexadecimal text -/

/-- `hex.EncodeToString`, as runes -/
def hexRunes (bytes : List UInt8) : List Char :=
  bytes.flatMap (fun byte => [Nat.digitChar (byte.toNat / 16), Nat.digitChar (byte.toNat % 16)])

theorem hex_runes_cons (byte : UInt8) (bytes : List UInt8) :
    hexRunes (byte :: bytes) =
      Nat.digitChar (byte.toNat / 16) :: Nat.digitChar (byte.toNat % 16) :: hexRunes bytes :=
  rfl

theorem hex_runes_length (bytes : List UInt8) : (hexRunes bytes).length = 2 * bytes.length := by
  induction bytes with
  | nil => rfl
  | cons byte bytes ih =>
      rw [hex_runes_cons]
      simp only [List.length_cons]
      omega

theorem hex_digit_injective : ∀ left < 16, ∀ right < 16,
    Nat.digitChar left = Nat.digitChar right → left = right := by
  decide

theorem hex_runes_injective (left right : List UInt8) (same : hexRunes left = hexRunes right) :
    left = right := by
  induction left generalizing right with
  | nil =>
      cases right with
      | nil => rfl
      | cons byte bytes => cases same
  | cons byte bytes ih =>
      cases right with
      | nil => cases same
      | cons other others =>
          rw [hex_runes_cons, hex_runes_cons, List.cons.injEq, List.cons.injEq] at same
          obtain ⟨high, low, rest⟩ := same
          have small := byte.toNat_lt
          have bound := other.toNat_lt
          have upper := hex_digit_injective _ (by omega) _ (by omega) high
          have lower := hex_digit_injective _ (by omega) _ (by omega) low
          have equal : byte = other := by
            apply UInt8.toNat_inj.1
            omega
          rw [equal, ih others rest]

end PgmanProxy.Library.GoBytes
