import Mathlib.Data.List.DropRight
import Mathlib.Data.String.Basic

/-!
# The parts of Go's `strings` and `net` packages that decide behaviour

Strings are handled through their runes. `trimSpace` follows `unicode.IsSpace`.
`Stdlib` holds the pure standard-library functions that are only ever called,
never looked into.
-/

namespace PgmanProxy.Library.GoStrings

set_option autoImplicit false

def isSpace (rune : Char) : Bool :=
  let code := rune.toNat
  (9 ≤ code && code ≤ 13) || code = 0x20 || code = 0x85 || code = 0xA0 || code = 0x1680 ||
    (0x2000 ≤ code && code ≤ 0x200A) || code = 0x2028 || code = 0x2029 || code = 0x202F ||
    code = 0x205F || code = 0x3000

def trimSpace (text : String) : String :=
  String.ofList ((text.toList.dropWhile isSpace).rdropWhile isSpace)

/-- `unicode.ToLower`, for the letters that have an ASCII lower case: next to the capitals
these are the dotted capital I and the Kelvin sign. -/
def lowerRune (rune : Char) : Char :=
  if rune = Char.ofNat 0x130 then 'i'
  else if rune = Char.ofNat 0x212A then 'k'
  else rune.toLower

/-- `strings.ToLower` -/
def toLower (text : String) : String := String.ofList (text.toList.map lowerRune)

/-- `strings.TrimRight` with the cut set given by a predicate. -/
def trimRight (cut : Char → Bool) (text : String) : String :=
  String.ofList (text.toList.rdropWhile cut)

/-- The text after `lead`, when `text` starts with it. -/
def cutLead (lead text : String) : Option String :=
  if lead.toList.isPrefixOf text.toList then
    some (String.ofList (text.toList.drop lead.toList.length))
  else none

/-- `%q` on printable text. -/
def quote (text : String) : String :=
  let escaped := text.toList.flatMap (fun rune =>
    if rune = '"' || rune = '\\' then ['\\', rune] else [rune])
  "\"" ++ String.ofList escaped ++ "\""

def split (separator : Char) (text : String) : List String :=
  (text.toList.splitOn separator).map String.ofList

/-- The pieces of a text, joined again, are the text. -/
theorem split_join (separator : Char) (text : String) :
    [separator].intercalate ((split separator text).map String.toList) = text.toList := by
  have runes : (split separator text).map String.toList = text.toList.splitOn separator := by
    simp [split, Function.comp_def]
  rw [runes]
  exact List.intercalate_splitOn separator

/-- Pieces without the separator are found again. -/
theorem split_joined (separator : Char) (text : String) (pieces : List String)
    (filled : pieces ≠ []) (clean : ∀ piece ∈ pieces, separator ∉ piece.toList)
    (joined : text.toList = [separator].intercalate (pieces.map String.toList)) :
    split separator text = pieces := by
  have apart : ∀ runes ∈ pieces.map String.toList, separator ∉ runes := by
    intro runes member
    obtain ⟨piece, present, rfl⟩ := List.mem_map.1 member
    exact clean piece present
  have whole : pieces.map String.toList ≠ [] := by simpa using filled
  rw [split, joined, List.splitOn_intercalate separator apart whole]
  simp [Function.comp_def]

theorem infix_intercalate (separator : List Char) (pieces : List (List Char))
    (piece : List Char) (member : piece ∈ pieces) :
    piece <:+: separator.intercalate pieces := by
  induction pieces with
  | nil => cases member
  | cons first pieces ih =>
      cases pieces with
      | nil =>
          rw [List.mem_singleton] at member
          simp only [member, List.intercalate_singleton, List.infix_rfl]
      | cons second rest =>
          rw [List.intercalate_cons_cons]
          rcases List.mem_cons.1 member with here | later
          · rw [here, List.append_assoc]
            exact (List.prefix_append first _).isInfix
          · exact (ih later).trans (List.suffix_append _ _).isInfix

/-- Every rune of the text takes one byte. -/
theorem byte_size_narrow (text : String) (narrow : ∀ rune ∈ text.toList, rune.utf8Size = 1) :
    text.utf8ByteSize = text.toList.length := by
  rw [← String.utf8Len_toList]
  generalize text.toList = runes at narrow ⊢
  induction runes with
  | nil => rfl
  | cons rune runes ih =>
      rw [List.forall_mem_cons] at narrow
      rw [String.utf8Len_cons, ih narrow.2, narrow.1, List.length_cons]

/-- `strings.Contains` on runes -/
def containsRunes (part : List Char) : List Char → Bool
  | [] => part.isEmpty
  | rune :: runes => part.isPrefixOf (rune :: runes) || containsRunes part runes

def contains (part text : String) : Bool := containsRunes part.toList text.toList

theorem contains_runes_iff (part runes : List Char) :
    containsRunes part runes = true ↔ part <:+: runes := by
  induction runes with
  | nil => simp [containsRunes]
  | cons rune runes ih =>
      rw [containsRunes, Bool.or_eq_true, List.isPrefixOf_iff_prefix, ih, List.infix_cons_iff]

theorem contains_between (front part back : String) :
    contains part (front ++ part ++ back) = true := by
  rw [contains, contains_runes_iff, String.toList_append, String.toList_append]
  exact List.infix_append _ _ _

/-- `strings.SplitAfter` on runes: every piece but the last ends in the separator. -/
def splitAfter (separator : Char) : List Char → List (List Char)
  | [] => [[]]
  | rune :: runes =>
      if rune = separator then [rune] :: splitAfter separator runes
      else
        match splitAfter separator runes with
        | [] => [[rune]]
        | piece :: pieces => (rune :: piece) :: pieces

/-- `strings.SplitN` on runes with a positive count: the last piece keeps the rest. -/
def splitN (separator : Char) : Nat → List Char → List (List Char)
  | 0, _ => []
  | 1, runes => [runes]
  | count + 2, runes =>
      if separator ∈ runes then
        let field := runes.takeWhile (fun rune => rune != separator)
        field :: splitN separator (count + 1) (runes.drop (field.length + 1))
      else [runes]

/-- ASCII letters and digits, the underscore and the dash. -/
def isNameRune (rune : Char) : Bool :=
  ('a' ≤ rune && rune ≤ 'z') || ('A' ≤ rune && rune ≤ 'Z') || ('0' ≤ rune && rune ≤ '9') ||
    rune = '_' || rune = '-'

/-- Byte by byte, what is not kept becomes underscores. -/
def replaceBytes (keep : Char → Bool) (runes : List Char) : List Char :=
  runes.flatMap (fun rune => if keep rune then [rune] else List.replicate rune.utf8Size '_')

theorem kept_or_underscore (keep : Char → Bool) (runes : List Char) (rune : Char)
    (present : rune ∈ replaceBytes keep runes) : keep rune = true ∨ rune = '_' := by
  obtain ⟨source, _, kept⟩ := List.mem_flatMap.1 present
  split at kept
  · rename_i allowed
    rw [List.mem_singleton] at kept
    rw [kept]
    exact Or.inl allowed
  · exact Or.inr (List.eq_of_mem_replicate kept)

/-- So a rune that no name has is gone. -/
theorem replaced_lacks (runes : List Char) (rune : Char) (other : isNameRune rune = false)
    (mark : rune ≠ '_') : rune ∉ replaceBytes isNameRune runes := by
  intro present
  rcases kept_or_underscore isNameRune runes rune present with kept | underscore
  · rw [other] at kept
    cases kept
  · exact mark underscore

theorem other_runes (separator : Char) (runes : List Char) (clean : separator ∉ runes) :
    ∀ rune ∈ runes, (rune != separator) = true := by
  intro rune present
  simp only [bne_iff_ne, ne_eq]
  intro same
  rw [same] at present
  exact clean present

theorem split_n_field (separator : Char) (count : Nat) (field rest : List Char)
    (clean : separator ∉ field) :
    splitN separator (count + 2) (field ++ separator :: rest) =
      field :: splitN separator (count + 1) rest := by
  have first : (field ++ separator :: rest).takeWhile (fun rune => rune != separator) = field := by
    rw [List.takeWhile_append_of_pos (other_runes separator field clean)]
    simp
  have present : separator ∈ field ++ separator :: rest := by simp
  simp only [splitN, if_pos present, first]
  congr 2
  simp

/-- What follows the last `separator`; empty when there is none or it ends the text. -/
def afterLast (separator : Char) (text : String) : String :=
  if separator ∈ text.toList then
    String.ofList (text.toList.reverse.takeWhile (fun rune => rune != separator)).reverse
  else ""

theorem last_field_of_append (separator : Char) (left right : List Char)
    (clean : separator ∉ right) :
    ((left ++ separator :: right).reverse.takeWhile (fun rune => rune != separator)).reverse =
      right := by
  have reversed : separator ∉ right.reverse := by
    rw [List.mem_reverse]
    exact clean
  simp only [List.reverse_append, List.reverse_cons, List.append_assoc]
  rw [List.takeWhile_append_of_pos (other_runes separator right.reverse reversed)]
  simp

theorem after_last_append (left right : String) (separator : Char)
    (clean : separator ∉ right.toList) :
    afterLast separator (left ++ String.singleton separator ++ right) = right := by
  have runes : (left ++ String.singleton separator ++ right).toList =
      left.toList ++ separator :: right.toList := by simp
  unfold afterLast
  rw [runes, if_pos (by simp), last_field_of_append separator _ _ clean, String.ofList_toList]

/-- `net/url.URL` as far as it is read or set. -/
structure URL where
  scheme : String
  user : Option (String × String)
  host : String
deriving DecidableEq, Repr

structure Stdlib where
  /-- `net.ParseIP`, with `IP.IsLoopback` of the address it finds. -/
  parseIP : String → Option Bool
  /-- `Duration.String` -/
  durationString : Int → String
  /-- `url.Parse` -/
  parseURL : String → Except String URL
  /-- `tls.X509KeyPair` on a certificate's and a key's text -/
  x509KeyPair : String → String → Except String String
  /-- `CertPool.AppendCertsFromPEM` on an empty pool -/
  certsFromPEM : String → Option String

/-- `net.SplitHostPort` -/
def splitHostPort (address : String) : Except String (String × String) :=
  let runes := address.toList
  let addrErr (why : String) : Except String (String × String) :=
    .error ("address " ++ address ++ ": " ++ why)
  let missingPort := "missing port in address"
  let tooManyColons := "too many colons in address"
  let port := (runes.reverse.takeWhile (fun rune => rune != ':')).reverse
  if ':' ∉ runes then addrErr missingPort
  else
    match runes with
    | '[' :: rest =>
        if ']' ∉ rest then addrErr "missing ']' in address"
        else
          let host := rest.takeWhile (fun rune => rune != ']')
          let tail := rest.drop (host.length + 1)
          if tail = [] then addrErr missingPort
          else if tail ≠ ':' :: port then
            addrErr (if tail.head? = some ':' then tooManyColons else missingPort)
          else if '[' ∈ rest then addrErr "unexpected '[' in address"
          else if ']' ∈ tail then addrErr "unexpected ']' in address"
          else .ok (String.ofList host, String.ofList port)
    | _ =>
        let host := runes.take (runes.length - port.length - 1)
        if ':' ∈ host then addrErr tooManyColons
        else if '[' ∈ runes then addrErr "unexpected '[' in address"
        else if ']' ∈ runes then addrErr "unexpected ']' in address"
        else .ok (String.ofList host, String.ofList port)

example : splitHostPort "[::1]:6222" = .ok ("::1", "6222") ∧
    splitHostPort "::1:6222" = .error "address ::1:6222: too many colons in address" := by
  decide

/-- A number prints as digits with at most a sign. -/
theorem int_text_runes (number : Int) (rune : Char) (present : rune ∈ (toString number).toList) :
    rune = '-' ∨ rune.isDigit = true := by
  rw [Int.toString_eq_repr, Int.repr_eq_if] at present
  split at present
  · rw [Nat.toList_repr] at present
    exact .inr (Nat.isDigit_of_mem_toDigits (by decide) (by decide) present)
  · rw [String.toList_append, Nat.toList_repr, List.mem_append] at present
    rcases present with sign | digit
    · exact .inl (by simpa using sign)
    · exact .inr (Nat.isDigit_of_mem_toDigits (by decide) (by decide) digit)

theorem colon_not_mem_int_text (number : Int) : ':' ∉ (toString number).toList := by
  intro present
  rcases int_text_runes number ':' present with sign | digit
  · exact absurd sign (by decide)
  · exact absurd digit (by decide)

/-- A list cut at the first `mark`: the part before it, the mark, the part after it. -/
theorem take_mark_drop (mark : Char) (runes : List Char) (present : mark ∈ runes) :
    runes = runes.takeWhile (fun rune => rune != mark) ++
      mark :: runes.drop ((runes.takeWhile (fun rune => rune != mark)).length + 1) := by
  induction runes with
  | nil => cases present
  | cons rune runes ih =>
      by_cases same : rune = mark
      · simp [same]
      · have later : mark ∈ runes := by
          rcases List.mem_cons.mp present with first | later
          · exact absurd first.symm same
          · exact later
        simpa [List.takeWhile_cons, same] using ih later

/-- What `SplitHostPort` finds in a joined address is the host that went in, or the host
without its brackets. -/
theorem split_host_port_join (host port found rest : String) (clean : ':' ∉ port.toList)
    (parsed : splitHostPort (host ++ ":" ++ port) = .ok (found, rest)) :
    host = found ∨ host = "[" ++ found ++ "]" := by
  have runes : (host ++ ":" ++ port).toList = host.toList ++ ':' :: port.toList := by simp
  have last := last_field_of_append ':' host.toList port.toList clean
  simp only [splitHostPort, runes, last] at parsed
  rw [if_neg (by simp)] at parsed
  split at parsed
  · rename_i inner bracketed
    right
    split at parsed
    · cases parsed
    rename_i closed
    split at parsed
    · cases parsed
    split at parsed
    · cases parsed
    rename_i tail
    split at parsed
    · cases parsed
    split at parsed
    · cases parsed
    cases parsed
    rw [not_not] at closed tail
    have cut := take_mark_drop ']' inner closed
    rw [tail] at cut
    have joined : host.toList ++ ':' :: port.toList =
        ('[' :: inner.takeWhile (fun rune => rune != ']') ++ [']']) ++ ':' :: port.toList := by
      rw [bracketed]
      conv_lhs => rw [cut]
      simp
    have whole := List.append_cancel_right joined
    apply String.toList_injective
    simp [whole]
  · left
    have size : (host.toList ++ ':' :: port.toList).length - port.toList.length - 1 =
        host.toList.length := by
      rw [List.length_append, List.length_cons]
      omega
    rw [size, List.take_left] at parsed
    split at parsed
    · cases parsed
    split at parsed
    · cases parsed
    split at parsed
    · cases parsed
    cases parsed
    simp

/-! ## Addresses with a host and a port -/

/-- No rune that `SplitHostPort` gives a meaning. -/
def Plain (text : String) : Prop :=
  ':' ∉ text.toList ∧ '[' ∉ text.toList ∧ ']' ∉ text.toList

theorem split_host_port_plain (host port : String) (plainHost : Plain host)
    (plainPort : Plain port) : splitHostPort (host ++ ":" ++ port) = .ok (host, port) := by
  have runes : (host ++ ":" ++ port).toList = host.toList ++ ':' :: port.toList := by simp
  have last := last_field_of_append ':' host.toList port.toList plainPort.1
  have size : (host.toList ++ ':' :: port.toList).length - port.toList.length - 1 =
      host.toList.length := by
    rw [List.length_append, List.length_cons]
    omega
  simp only [splitHostPort, runes, last, size, List.take_left]
  rw [if_neg (by simp)]
  split
  · rename_i rest bracketed
    exfalso
    have first : '[' ∈ host.toList ++ ':' :: port.toList := by
      rw [bracketed]
      exact List.mem_cons_self
    simp [plainHost.2.1, plainPort.2.1] at first
  · rw [if_neg plainHost.1, if_neg (by simp [plainHost.2.1, plainPort.2.1]),
      if_neg (by simp [plainHost.2.2, plainPort.2.2]), String.ofList_toList, String.ofList_toList]

end PgmanProxy.Library.GoStrings
