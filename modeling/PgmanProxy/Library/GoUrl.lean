import Mathlib.Data.List.AList
import Mathlib.Data.List.Sort
import PgmanProxy.Library.GoBytes

/-!
# Query strings

A query string carries texts under keys, each escaped byte by byte so that the marks of the
string itself stay free. Reading a query string keeps the pairs it can read and drops the
others. Text that is not UTF-8 has no place among Lean's strings and counts as unreadable.
-/

namespace PgmanProxy.Library.GoUrl

open PgmanProxy.Library.GoBytes

set_option autoImplicit false

/-! ## Escaping -/

/-- The bytes that `url.QueryEscape` leaves as they are. -/
def unreserved (byte : UInt8) : Bool :=
  (0x61 ≤ byte && byte ≤ 0x7a) || (0x41 ≤ byte && byte ≤ 0x5a) || (0x30 ≤ byte && byte ≤ 0x39) ||
    byte = 0x2d || byte = 0x5f || byte = 0x2e || byte = 0x7e

def upperHex (digit : Nat) : Char := "0123456789ABCDEF".toList.getD digit '0'

def escapeByte (byte : UInt8) : List Char :=
  if byte = 0x20 then ['+']
  else if unreserved byte then [Char.ofNat byte.toNat]
  else ['%', upperHex (byte.toNat / 16), upperHex (byte.toNat % 16)]

/-- `url.QueryEscape` -/
def queryEscape (text : String) : List Char := (utf8 text).flatMap escapeByte

def hexValue (rune : Char) : Option Nat :=
  if '0' ≤ rune ∧ rune ≤ '9' then some (rune.toNat - '0'.toNat)
  else if 'a' ≤ rune ∧ rune ≤ 'f' then some (rune.toNat - 'a'.toNat + 10)
  else if 'A' ≤ rune ∧ rune ≤ 'F' then some (rune.toNat - 'A'.toNat + 10)
  else none

def unescapeBytes : List Char → Option (List UInt8)
  | [] => some []
  | '%' :: high :: low :: rest => do
      let high ← hexValue high
      let low ← hexValue low
      let bytes ← unescapeBytes rest
      return UInt8.ofNat (16 * high + low) :: bytes
  | '%' :: _ => none
  | '+' :: rest => do
      let bytes ← unescapeBytes rest
      return 0x20 :: bytes
  | rune :: rest => do
      let bytes ← unescapeBytes rest
      return String.utf8EncodeChar rune ++ bytes

def textOf (bytes : List UInt8) : Option String := String.fromUTF8? bytes.toByteArray

/-- `url.QueryUnescape` -/
def queryUnescape (runes : List Char) : Option String := do
  let bytes ← unescapeBytes runes
  textOf bytes

theorem upper_hex_value : ∀ digit < 16, hexValue (upperHex digit) = some digit := by decide

/-- An unreserved byte is one of ASCII, and none of the marks. -/
theorem unreserved_value (byte : UInt8) (free : unreserved byte = true) :
    byte.toNat < 128 ∧ byte.toNat ≠ '%'.toNat ∧ byte.toNat ≠ '+'.toNat ∧
      byte.toNat ≠ '&'.toNat ∧ byte.toNat ≠ ';'.toNat ∧ byte.toNat ≠ '='.toNat ∧
      byte.toNat ≠ '#'.toNat := by
  simp only [unreserved, Bool.or_eq_true, Bool.and_eq_true, decide_eq_true_eq,
    UInt8.le_iff_toNat_le, ← UInt8.toNat_inj, UInt8.reduceToNat] at free
  simp only [Char.reduceToNat]
  omega

theorem ascii_rune (value : Nat) (small : value < 128) :
    (Char.ofNat value).toNat = value ∧
      String.utf8EncodeChar (Char.ofNat value) = [UInt8.ofNat value] := by
  have valid : value.isValidChar := .inl (by omega)
  have same : (Char.ofNat value).toNat = value := by
    rw [Char.ofNat, dif_pos valid]
    rfl
  refine ⟨same, ?_⟩
  have code : (Char.ofNat value).val.toNat = value := same
  simp only [String.utf8EncodeChar, code]
  rw [if_pos (by omega)]

theorem unescape_plain (rune : Char) (rest : List Char) (percent : rune ≠ '%') (plus : rune ≠ '+') :
    unescapeBytes (rune :: rest) =
      (unescapeBytes rest).map (fun bytes => String.utf8EncodeChar rune ++ bytes) := by
  rw [unescapeBytes.eq_def]
  split
  · contradiction
  · rename_i head
    cases head
    exact absurd rfl percent
  · rename_i head
    cases head
    exact absurd rfl percent
  · rename_i head
    cases head
    exact absurd rfl plus
  · rename_i head
    cases head
    cases unescapeBytes rest <;> rfl

theorem unescape_byte (byte : UInt8) (rest : List Char) (bytes : List UInt8)
    (later : unescapeBytes rest = some bytes) :
    unescapeBytes (escapeByte byte ++ rest) = some (byte :: bytes) := by
  unfold escapeByte
  split
  · rename_i space
    rw [space, List.singleton_append, unescapeBytes, later]
    rfl
  · split
    · rename_i free
      rcases unreserved_value byte free with ⟨small, percent, plus, -⟩
      rcases ascii_rune byte.toNat small with ⟨value, encoded⟩
      rw [List.singleton_append, unescape_plain, later, encoded, UInt8.ofNat_toNat]
      · rfl
      · intro same
        rw [same] at value
        exact percent value.symm
      · intro same
        rw [same] at value
        exact plus value.symm
    · have fits := byte.toNat_lt
      rw [List.cons_append, List.cons_append, List.cons_append, List.nil_append, unescapeBytes,
        upper_hex_value _ (by omega), upper_hex_value _ (by omega), later]
      simp only [Option.bind_eq_bind, Option.bind_some, Option.pure_def]
      rw [Nat.div_add_mod, UInt8.ofNat_toNat]

theorem unescape_escaped (bytes : List UInt8) :
    unescapeBytes (bytes.flatMap escapeByte) = some bytes := by
  induction bytes with
  | nil => rfl
  | cons byte bytes ih => exact unescape_byte byte _ bytes ih

theorem text_of_utf8 (text : String) : textOf (utf8 text) = some text := by
  have bytes : (utf8 text).toByteArray = text.toByteArray := by
    have encoded := String.toByteArray_ofList (l := text.toList)
    rw [String.ofList_toList] at encoded
    exact encoded.symm
  rw [textOf, bytes, String.fromUTF8?, dif_pos text.isValidUTF8]
  rfl

theorem query_unescape_escape (text : String) : queryUnescape (queryEscape text) = some text := by
  rw [queryUnescape, queryEscape, unescape_escaped]
  exact text_of_utf8 text

/-- Escaped text is free of the marks of a query string. -/
theorem query_escape_clean (text : String) (rune : Char) (present : rune ∈ queryEscape text) :
    rune ≠ '&' ∧ rune ≠ ';' ∧ rune ≠ '=' ∧ rune ≠ '#' := by
  rcases List.mem_flatMap.1 present with ⟨byte, -, member⟩
  unfold escapeByte at member
  split at member
  · rw [List.mem_singleton.1 member]
    decide
  · split at member
    · rename_i free
      rcases unreserved_value byte free with ⟨small, -, -, ampersand, semicolon, equals, hash⟩
      have value := (ascii_rune byte.toNat small).1
      rw [← List.mem_singleton.1 member] at value
      refine ⟨?_, ?_, ?_, ?_⟩ <;>
        · intro same
          rw [same] at value
          omega
    · have digits : ∀ digit < 16, upperHex digit ≠ '&' ∧ upperHex digit ≠ ';' ∧
          upperHex digit ≠ '=' ∧ upperHex digit ≠ '#' := by decide
      have fits := byte.toNat_lt
      simp only [List.mem_cons, List.not_mem_nil, or_false] at member
      rcases member with same | same | same
      · rw [same]
        decide
      · rw [same]
        exact digits _ (by omega)
      · rw [same]
        exact digits _ (by omega)

/-! ## Values -/

/-- `url.Values` -/
abbrev Values := AList (fun _ : String => List String)

def Values.texts (values : Values) (key : String) : List String := (values.lookup key).getD []

/-- `Values.Set` -/
def Values.set (values : Values) (key text : String) : Values := values.insert key [text]

/-- `Values.Add` -/
def Values.add (values : Values) (key text : String) : Values :=
  values.insert key (values.texts key ++ [text])

/-- The pairs of a key and a text, in the order of the keys. -/
def Values.pairs (values : Values) : List (String × String) :=
  (values.keys.insertionSort (· ≤ ·)).flatMap (fun key => (values.texts key).map (Prod.mk key))

def encodePair (pair : String × String) : List Char :=
  queryEscape pair.1 ++ '=' :: queryEscape pair.2

/-- `Values.Encode` -/
def Values.encode (values : Values) : List Char :=
  ['&'].intercalate (values.pairs.map encodePair)

/-- `strings.Cut` at one rune -/
def cut (mark : Char) (runes : List Char) : List Char × List Char :=
  (runes.takeWhile (· ≠ mark), (runes.dropWhile (· ≠ mark)).drop 1)

def parsePair (piece : List Char) : Option (String × String) :=
  if ';' ∈ piece then none
  else if piece = [] then none
  else do
    let key ← queryUnescape (cut '=' piece).1
    let value ← queryUnescape (cut '=' piece).2
    return (key, value)

/-- `URL.Query`, which ignores what it cannot read -/
def parseQuery (query : List Char) : List (String × String) :=
  (query.splitOn '&').filterMap parsePair

/-- `url.Parse`, which takes the fragment off first, and then `URL.Query` -/
def addressQuery (address : List Char) : List (String × String) :=
  parseQuery (cut '?' (cut '#' address).1).2

theorem cut_absent (mark : Char) (runes : List Char) (clean : mark ∉ runes) :
    cut mark runes = (runes, []) := by
  have other : ∀ rune ∈ runes, decide (rune ≠ mark) = true := by
    intro rune member
    rw [decide_eq_true_iff]
    intro same
    rw [same] at member
    exact clean member
  rw [cut, List.takeWhile_eq_self_iff.2 other, List.dropWhile_eq_nil_iff.2 other]
  rfl

theorem cut_first (mark : Char) (left right : List Char) (clean : mark ∉ left) :
    cut mark (left ++ mark :: right) = (left, right) := by
  have other : ∀ rune ∈ left, decide (rune ≠ mark) = true := by
    intro rune member
    rw [decide_eq_true_iff]
    intro same
    rw [same] at member
    exact clean member
  rw [cut, List.takeWhile_append_of_pos other, List.dropWhile_append_of_pos other]
  simp

theorem parse_pair_encode (pair : String × String) : parsePair (encodePair pair) = some pair := by
  have key := fun rune => query_escape_clean pair.1 rune
  have value := fun rune => query_escape_clean pair.2 rune
  have clean : ';' ∉ encodePair pair := by
    intro present
    rcases List.mem_append.1 present with early | late
    · exact (key ';' early).2.1 rfl
    · rcases List.mem_cons.1 late with mark | late
      · cases mark
      · exact (value ';' late).2.1 rfl
  have solid : encodePair pair ≠ [] := by simp [encodePair]
  rw [parsePair, if_neg clean, if_neg solid, encodePair, cut_first]
  · simp [query_unescape_escape]
  · intro present
    exact (key '=' present).2.2.1 rfl

theorem parse_query_encode (values : Values) : parseQuery values.encode = values.pairs := by
  rw [parseQuery, Values.encode]
  by_cases empty : values.pairs = []
  · rw [empty]
    decide
  · rw [List.splitOn_intercalate]
    · rw [List.filterMap_map]
      exact (List.filterMap_congr (fun pair _ => parse_pair_encode pair)).trans
        List.filterMap_some
    · intro piece member present
      rcases List.mem_map.1 member with ⟨pair, -, same⟩
      rw [← same] at present
      rcases List.mem_append.1 present with early | late
      · exact (query_escape_clean pair.1 '&' early).1 rfl
      · rcases List.mem_cons.1 late with mark | late
        · cases mark
        · exact (query_escape_clean pair.2 '&' late).1 rfl
    · simpa using empty

theorem encode_no_fragment (values : Values) : '#' ∉ values.encode := by
  rw [Values.encode]
  induction values.pairs with
  | nil => exact List.not_mem_nil
  | cons pair pairs ih =>
      have clean : '#' ∉ encodePair pair := by
        intro present
        rcases List.mem_append.1 present with early | late
        · exact (query_escape_clean pair.1 '#' early).2.2.2 rfl
        · rcases List.mem_cons.1 late with mark | late
          · cases mark
          · exact (query_escape_clean pair.2 '#' late).2.2.2 rfl
      cases pairs with
      | nil =>
          rw [List.map_singleton, List.intercalate_singleton]
          exact clean
      | cons next pairs =>
          rw [List.map_cons, List.map_cons, List.intercalate_cons_cons]
          intro present
          rcases List.mem_append.1 present with early | late
          · rcases List.mem_append.1 early with early | mark
            · exact clean early
            · cases List.mem_singleton.1 mark
          · exact ih late

/-- The query of an address reaches the server as it was encoded. -/
theorem address_query_encode (path : List Char) (values : Values) (mark : '?' ∉ path)
    (fragment : '#' ∉ path) :
    addressQuery (path ++ if values.encode = [] then [] else '?' :: values.encode) =
      parseQuery values.encode := by
  have whole : '#' ∉ path ++ if values.encode = [] then [] else '?' :: values.encode := by
    intro present
    rcases List.mem_append.1 present with early | late
    · exact fragment early
    · split at late
      · cases late
      · rcases List.mem_cons.1 late with mark | late
        · cases mark
        · exact encode_no_fragment values late
  rw [addressQuery, cut_absent '#' _ whole]
  by_cases empty : values.encode = []
  · rw [if_pos empty, List.append_nil, cut_absent '?' path mark, empty]
  · rw [if_neg empty, cut_first '?' path _ mark]

theorem texts_empty (key : String) : (∅ : Values).texts key = [] := rfl

theorem texts_set (values : Values) (key name text : String) :
    (values.set key text).texts name = if name = key then [text] else values.texts name := by
  by_cases same : name = key
  · rw [if_pos same, same, Values.texts, Values.set, AList.lookup_insert]
    rfl
  · rw [if_neg same, Values.texts, Values.set, AList.lookup_insert_ne same]
    rfl

theorem texts_set_if (values : Values) (key name text : String) (given : Prop)
    [Decidable given] :
    (if given then values.set key text else values).texts name =
      if name = key ∧ given then [text] else values.texts name := by
  by_cases present : given
  · simp only [present, if_true, and_true, texts_set]
  · simp only [present, if_false, and_false]

theorem texts_add (values : Values) (key name text : String) :
    (values.add key text).texts name =
      if name = key then values.texts key ++ [text] else values.texts name := by
  by_cases same : name = key
  · rw [if_pos same, same, Values.texts, Values.add, AList.lookup_insert]
    rfl
  · rw [if_neg same, Values.texts, Values.add, AList.lookup_insert_ne same]
    rfl

theorem texts_add_all (key name : String) (added : List String) (values : Values) :
    (added.foldl (fun values text => values.add key text) values).texts name =
      if name = key then values.texts key ++ added else values.texts name := by
  induction added generalizing values with
  | nil =>
      by_cases same : name = key
      · simp [same]
      · simp [same]
  | cons text added ih =>
      rw [List.foldl_cons, ih, texts_add, texts_add]
      by_cases same : name = key
      · simp [same]
      · simp [same]

/-- Only the entry of a key has pairs with it. -/
theorem pairs_of_key (texts : String → List String) (key : String) (keys : List String)
    (distinct : keys.Nodup) :
    (keys.flatMap (fun name => (texts name).map (Prod.mk name))).filter
        (fun pair => pair.1 = key) =
      if key ∈ keys then (texts key).map (Prod.mk key) else [] := by
  induction keys with
  | nil => rfl
  | cons name keys ih =>
      rcases List.nodup_cons.1 distinct with ⟨fresh, distinct⟩
      rw [List.flatMap_cons, List.filter_append, ih distinct, List.filter_map]
      by_cases same : name = key
      · subst same
        have all : (texts name).filter ((fun pair => decide (pair.1 = name)) ∘ Prod.mk name) =
            texts name := by
          simp [Function.comp_def]
        rw [all, if_neg fresh, if_pos List.mem_cons_self, List.append_nil]
      · have none : (texts name).filter ((fun pair => decide (pair.1 = key)) ∘ Prod.mk name) =
            [] := by
          simp [Function.comp_def, same]
        rw [none, List.map_nil, List.nil_append]
        simp only [List.mem_cons, Ne.symm same, false_or]

/-- A key's texts are read back from the encoded values, in their order. -/
theorem parse_query_texts (values : Values) (key : String) :
    ((parseQuery values.encode).filter (fun pair => pair.1 = key)).map Prod.snd =
      values.texts key := by
  have distinct : (values.keys.insertionSort (· ≤ ·)).Nodup :=
    (List.perm_insertionSort _ _).nodup_iff.2 values.keys_nodup
  rw [parse_query_encode, Values.pairs, pairs_of_key _ key _ distinct]
  by_cases present : key ∈ values
  · have listed : key ∈ values.keys.insertionSort (· ≤ ·) :=
      (List.mem_insertionSort _).2 (AList.mem_keys.1 present)
    rw [if_pos listed, List.map_map]
    exact List.map_id _
  · have unlisted : key ∉ values.keys.insertionSort (· ≤ ·) := by
      intro listed
      exact present (AList.mem_keys.2 ((List.mem_insertionSort _).1 listed))
    rw [if_neg unlisted, Values.texts, AList.lookup_eq_none.2 present]
    rfl

end PgmanProxy.Library.GoUrl
