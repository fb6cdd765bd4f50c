import Mathlib.Data.List.Basic

/-!
# Decoding JSON documents into Go structs

The part of Go's `encoding/json` that decides whether a document is accepted
and what each field then holds. The scanner's verdict on the bytes is an input
(`Scan`); from there on the rules are the library's: member names match fields
exactly or up to case folding, `null` leaves a field alone, the first error is
kept while decoding goes on, and unknown members are errors only in strict mode.
-/

namespace PgmanProxy.Library.GoJson

set_option autoImplicit false

inductive Json where
  | null
  | bool (value : Bool)
  | num (literal : String)
  | str (value : String)
  | arr (items : List Json)
  | obj (members : List (String × Json))
deriving Repr, Inhabited

/-- The word `UnmarshalTypeError` uses for the offending value. -/
def Json.kind : Json → String
  | .null => "null"
  | .bool _ => "bool"
  | .num _ => "number"
  | .str _ => "string"
  | .arr _ => "array"
  | .obj _ => "object"

/-- What the scanner makes of a byte string. `length` is the offset at which the
first value ends and `trailing` the syntax error of whatever follows it. -/
inductive Scan where
  | empty
  | truncated
  | malformed (text : String) (offset : Nat)
  | document (value : Json) (length : Nat) (trailing : Option String)
deriving Repr, Inhabited

/-- A body on the wire: how many bytes it has and how they scan. -/
structure Input where
  size : Nat
  scan : Scan
deriving Repr, Inhabited

/-- How many bytes a stream decoder reads before it has an answer. -/
def Input.needed (input : Input) : Nat :=
  match input.scan with
  | .empty => input.size
  | .truncated => input.size
  | .malformed _ offset => offset
  | .document _ length _ => length

/-- A value that does not fit the Go type of its field; inside a nested struct, with that
struct's name and the path to the field. -/
structure Mismatch where
  value : String
  goType : String
  inner : Option (String × String)
deriving Repr, DecidableEq

/-- The two runes outside ASCII that fold onto ASCII letters are the long `s`
and the Kelvin sign. -/
def foldRune (rune : Char) : Char :=
  if rune = Char.ofNat 0x17F then 's'
  else if rune = Char.ofNat 0x212A then 'k'
  else rune.toLower

def foldName (name : String) : List Char :=
  name.toList.map foldRune

variable {Target : Type}

/-- One exported struct field: its JSON name and how a value is stored in it. -/
structure Field (Target : Type) where
  name : String
  store : Json → Target → Except Mismatch Target

def findField (fields : List (Field Target)) (key : String) : Option (Field Target) :=
  match fields.find? (fun field => field.name = key) with
  | some field => some field
  | none => fields.find? (fun field => foldName field.name = foldName key)

def stringField (name goType : String) (set : String → Target → Target) : Field Target where
  name := name
  store := fun value target =>
    match value with
    | .str text => .ok (set text target)
    | .null => .ok target
    | other => .error ⟨other.kind, goType, none⟩

def boolField (name : String) (set : Bool → Target → Target) : Field Target where
  name := name
  store := fun value target =>
    match value with
    | .bool flag => .ok (set flag target)
    | .null => .ok target
    | other => .error ⟨other.kind, "bool", none⟩

def digitsValue (digits : List Char) : Option Nat :=
  if digits.isEmpty then none
  else digits.foldl (fun total digit =>
    match total with
    | some value => if digit.isDigit then some (value * 10 + (digit.toNat - 48)) else none
    | none => none) (some 0)

/-- `2 ^ 63`, one above the largest `int64`. -/
def int64Bound : Nat := 9223372036854775808

/-- `strconv.ParseInt` on a JSON number literal, base 10 and 64 bits. -/
def parseInt64 (literal : String) : Option Int :=
  match literal.toList with
  | '-' :: digits =>
      match digitsValue digits with
      | some value => if value ≤ int64Bound then some (-(value : Int)) else none
      | none => none
  | digits =>
      match digitsValue digits with
      | some value => if value < int64Bound then some (value : Int) else none
      | none => none

def intField (name : String) (set : Int → Target → Target) : Field Target where
  name := name
  store := fun value target =>
    match value with
    | .num literal =>
        match parseInt64 literal with
        | some number => .ok (set number target)
        | none => .error ⟨"number " ++ literal, "int", none⟩
    | .null => .ok target
    | other => .error ⟨other.kind, "int", none⟩

/-- `strconv.ParseUint` on a JSON number literal, base 10 and 64 bits. -/
def parseUint64 (literal : String) : Option Nat :=
  match digitsValue literal.toList with
  | some value => if value < 2 * int64Bound then some value else none
  | none => none

/-- A field of a sized number type, read by `parse`. -/
def numberField {Number : Type} (name goType : String) (parse : String → Option Number)
    (set : Number → Target → Target) : Field Target where
  name := name
  store := fun value target =>
    match value with
    | .num literal =>
        match parse literal with
        | some number => .ok (set number target)
        | none => .error ⟨"number " ++ literal, goType, none⟩
    | .null => .ok target
    | other => .error ⟨other.kind, goType, none⟩

/-- A field whose type reads the value itself, `null` included. -/
def customField {Read : Type} (name : String) (read : Json → Except Mismatch Read)
    (set : Read → Target → Target) : Field Target where
  name := name
  store := fun value target => (read value).map (fun decoded => set decoded target)

/-- A field whose Go type is a map with arbitrary values. -/
def mapField (name : String) (set : List (String × Json) → Target → Target) : Field Target where
  name := name
  store := fun value target =>
    match value with
    | .obj members => .ok (set members target)
    | .null => .ok target
    | other => .error ⟨other.kind, "map[string]interface \x7b\x7d", none⟩

/-- The struct a document is decoded into. -/
structure Shape (Target : Type) where
  name : String
  goType : String
  fields : List (Field Target)
  zero : Target

inductive DecodeError where
  | invalidSyntax (text : String)
  | unknownField (key : String)
  | wrongValue (value goType : String)
  | wrongField (value structName field goType : String)
deriving Repr, DecidableEq

def DecodeError.text : DecodeError → String
  | .invalidSyntax text => text
  | .unknownField key => "json: unknown field \"" ++ key ++ "\""
  | .wrongValue value goType =>
      "json: cannot unmarshal " ++ value ++ " into Go value of type " ++ goType
  | .wrongField value structName field goType =>
      "json: cannot unmarshal " ++ value ++ " into Go struct field " ++ structName ++ "." ++
        field ++ " of type " ++ goType

/-- The error names the innermost struct and the whole path. -/
def Mismatch.under (mismatch : Mismatch) (structName field : String) : DecodeError :=
  match mismatch.inner with
  | none => .wrongField mismatch.value structName field mismatch.goType
  | some (nested, path) =>
      .wrongField mismatch.value nested (field ++ "." ++ path) mismatch.goType

def decodeMembers (strict : Bool) (shape : Shape Target) :
    List (String × Json) → Target → Option DecodeError → Target × Option DecodeError
  | [], target, saved => (target, saved)
  | (key, value) :: members, target, saved =>
      match findField shape.fields key with
      | none =>
          let failure := if strict then some (DecodeError.unknownField key) else none
          decodeMembers strict shape members target (saved.or failure)
      | some field =>
          match field.store value target with
          | .ok stored => decodeMembers strict shape members stored saved
          | .error mismatch =>
              decodeMembers strict shape members target
                (saved.or (some (mismatch.under shape.name field.name)))

def decodeValue (strict : Bool) (shape : Shape Target) (value : Json) :
    Except DecodeError Target :=
  match value with
  | .null => .ok shape.zero
  | .obj members =>
      match decodeMembers strict shape members shape.zero none with
      | (target, none) => .ok target
      | (_, some failure) => .error failure
  | other => .error (.wrongValue other.kind shape.goType)

/-! ## Nested values -/

/-- What an error inside a nested struct is about. -/
def DecodeError.mismatch : DecodeError → Mismatch
  | .invalidSyntax text => ⟨text, "", none⟩
  | .unknownField key => ⟨key, "", none⟩
  | .wrongValue value goType => ⟨value, goType, none⟩
  | .wrongField value structName field goType => ⟨value, goType, some (structName, field)⟩

/-- A nested struct, unknown members allowed. -/
def decodeNested (shape : Shape Target) (value : Json) : Except Mismatch Target :=
  match decodeValue false shape value with
  | .ok decoded => .ok decoded
  | .error failure => .error failure.mismatch

/-- The items of a slice of structs; all are decoded, and the first error is kept. -/
def decodeItems (shape : Shape Target) (items : List Json) : Except Mismatch (List Target) :=
  items.mapM (decodeNested shape)

section Nested

variable {Outer : Type}

/-- A slice of structs; `null` empties it. -/
def sliceField (name goType : String) (shape : Shape Target)
    (set : List Target → Outer → Outer) : Field Outer where
  name := name
  store := fun value target =>
    match value with
    | .arr items => (decodeItems shape items).map (fun decoded => set decoded target)
    | .null => .ok (set [] target)
    | other => .error ⟨other.kind, goType, none⟩

/-- A pointer to a struct; `null` clears it. -/
def pointerField (name : String) (shape : Shape Target)
    (set : Option Target → Outer → Outer) : Field Outer where
  name := name
  store := fun value target =>
    match value with
    | .null => .ok (set none target)
    | other => (decodeNested shape other).map (fun decoded => set (some decoded) target)

/-- A struct by value: it is decoded into as it stands, and `null` leaves it alone. -/
def structField (name : String) (shape : Shape Target) (get : Outer → Target)
    (set : Target → Outer → Outer) : Field Outer where
  name := name
  store := fun value target =>
    match value with
    | .null => .ok target
    | .obj members =>
        match decodeMembers false shape members (get target) none with
        | (decoded, none) => .ok (set decoded target)
        | (_, some failure) => .error failure.mismatch
    | other => .error ⟨other.kind, shape.goType, none⟩

end Nested

/-- An item of a slice of strings; `null` is the empty one. -/
def stringItem : Json → Except Mismatch String
  | .str text => .ok text
  | .null => .ok ""
  | other => .error ⟨other.kind, "string", none⟩

/-- A slice of strings; `null` empties it. -/
def stringsField (name : String) (set : List String → Target → Target) : Field Target where
  name := name
  store := fun value target =>
    match value with
    | .arr items => (items.mapM stringItem).map (fun decoded => set decoded target)
    | .null => .ok (set [] target)
    | other => .error ⟨other.kind, "[]string", none⟩

/-- `Decoder.Decode`: the first value of the stream, whatever follows it. -/
def decodeStream (strict : Bool) (shape : Shape Target) (scan : Scan) :
    Except DecodeError Target :=
  match scan with
  | .empty => .error (.invalidSyntax "EOF")
  | .truncated => .error (.invalidSyntax "unexpected EOF")
  | .malformed text _ => .error (.invalidSyntax text)
  | .document value _ _ => decodeValue strict shape value

/-- `json.Unmarshal`: the bytes must be one value and nothing else. -/
def unmarshal (shape : Shape Target) (scan : Scan) : Except DecodeError Target :=
  match scan with
  | .empty => .error (.invalidSyntax "unexpected end of JSON input")
  | .truncated => .error (.invalidSyntax "unexpected end of JSON input")
  | .malformed text _ => .error (.invalidSyntax text)
  | .document value _ trailing =>
      match trailing with
      | some text => .error (.invalidSyntax text)
      | none => decodeValue false shape value

/-- `Decoder.Decode` behind `http.MaxBytesReader`. -/
def decodeLimited (limit : Nat) (strict : Bool) (shape : Shape Target) (input : Input) :
    Except DecodeError Target :=
  if input.needed > limit then .error (.invalidSyntax "http: request body too large")
  else decodeStream strict shape input.scan

/-! ## Decimal literals -/

/-- One more digit of `digitsValue`. -/
def digitsStep (total : Option Nat) (digit : Char) : Option Nat :=
  match total with
  | some value => if digit.isDigit then some (value * 10 + (digit.toNat - 48)) else none
  | none => none

theorem digits_value_fold (digits : List Char) :
    digitsValue digits = if digits.isEmpty then none else digits.foldl digitsStep (some 0) :=
  rfl

theorem digits_fold (digits : List Char) (clean : ∀ digit ∈ digits, digit.isDigit = true)
    (value : Nat) :
    digits.foldl digitsStep (some value) = some (Nat.ofDigitChars 10 digits value) := by
  induction digits generalizing value with
  | nil => rfl
  | cons digit digits ih =>
      have here : digit.isDigit = true := clean digit List.mem_cons_self
      rw [List.foldl_cons, Nat.ofDigitChars_cons, digitsStep, if_pos here,
        ih (fun other member => clean other (List.mem_cons_of_mem digit member)),
        Nat.mul_comm value 10]
      rfl

theorem digits_clean (number : Nat) :
    ∀ digit ∈ Nat.toDigits 10 number, digit.isDigit = true := by
  intro digit member
  exact Nat.isDigit_of_mem_toDigits (by decide) (by decide) member

theorem digits_value_nat (number : Nat) : digitsValue (Nat.toDigits 10 number) = some number := by
  rw [digits_value_fold, if_neg (by simp), digits_fold _ (digits_clean number),
    Nat.ofDigitChars_toDigits (by decide) (by decide)]

/-- The decimal text of a number below `2 ^ 63` is read back as that number. -/
theorem parse_int64_nat (number : Nat) (small : number < int64Bound) :
    parseInt64 (toString (number : Int)) = some (number : Int) := by
  have runes : (toString (number : Int)).toList = Nat.toDigits 10 number := Nat.toList_repr
  unfold parseInt64
  rw [runes]
  split
  · rename_i digits signed
    have sign := digits_clean number '-' (by rw [signed]; exact List.mem_cons_self)
    cases sign
  · rw [digits_value_nat]
    dsimp only
    rw [if_pos small]

/-- So is the text of every number an `int64` can hold. -/
theorem parse_int64_int (value : Int) (low : -(int64Bound : Int) ≤ value)
    (high : value < int64Bound) : parseInt64 (toString value) = some value := by
  cases value with
  | ofNat number => exact parse_int64_nat number (Int.ofNat_lt.1 high)
  | negSucc number =>
      have runes : (toString (Int.negSucc number)).toList =
          '-' :: Nat.toDigits 10 (number + 1) := by
        change ("-" ++ Nat.repr (number + 1)).toList = _
        rw [String.toList_append, Nat.toList_repr]
        rfl
      have small : number + 1 ≤ int64Bound := by
        rw [Int.negSucc_eq] at low
        omega
      simp only [parseInt64, runes, digits_value_nat]
      rw [if_pos small]
      rfl

theorem parse_uint64_nat (number : Nat) (small : number < 2 * int64Bound) :
    parseUint64 (toString (number : Int)) = some number := by
  have runes : (toString (number : Int)).toList = Nat.toDigits 10 number := Nat.toList_repr
  unfold parseUint64
  rw [runes, digits_value_nat]
  dsimp only
  rw [if_pos small]

/-! ## Members one after the other -/

theorem decode_members_append (strict : Bool) (shape : Shape Target)
    (left right : List (String × Json)) (target : Target) (saved : Option DecodeError) :
    decodeMembers strict shape (left ++ right) target saved =
      decodeMembers strict shape right (decodeMembers strict shape left target saved).1
        (decodeMembers strict shape left target saved).2 := by
  induction left generalizing target saved with
  | nil => rfl
  | cons member left ih =>
      obtain ⟨key, value⟩ := member
      rw [List.cons_append, decodeMembers, decodeMembers]
      split
      · exact ih _ _
      · split <;> exact ih _ _

/-- Members without a field are passed over. -/
theorem decode_members_unknown (shape : Shape Target) (members : List (String × Json))
    (target : Target) (saved : Option DecodeError)
    (unknown : ∀ member ∈ members, findField shape.fields member.1 = none) :
    decodeMembers false shape members target saved = (target, saved) := by
  induction members with
  | nil => rfl
  | cons member members ih =>
      obtain ⟨key, value⟩ := member
      rw [List.forall_mem_cons] at unknown
      rw [decodeMembers, unknown.1]
      simpa using ih unknown.2

/-- An error that was met stays. -/
theorem decode_members_saved (strict : Bool) (shape : Shape Target)
    (members : List (String × Json)) (target : Target) (failure : DecodeError) :
    (decodeMembers strict shape members target (some failure)).2 = some failure := by
  induction members generalizing target with
  | nil => rfl
  | cons member members ih =>
      obtain ⟨key, value⟩ := member
      rw [decodeMembers]
      split
      · exact ih _
      · split <;> exact ih _

/-- A member that its field refuses fails the whole object. -/
theorem decode_members_refused (strict : Bool) (shape : Shape Target) (key : String) (value : Json)
    (members : List (String × Json)) (target : Target) (field : Field Target)
    (mismatch : Mismatch) (found : findField shape.fields key = some field)
    (refused : field.store value target = .error mismatch) :
    (decodeMembers strict shape ((key, value) :: members) target none).2 =
      some (mismatch.under shape.name field.name) := by
  rw [decodeMembers, found]
  simp only [refused, Option.none_or]
  exact decode_members_saved strict shape members target _

/-- The members of an object turn one target into another, each taken by its field or unknown. -/
inductive Decodes (shape : Shape Target) : List (String × Json) → Target → Target → Prop
  | nil (target : Target) : Decodes shape [] target target
  | stored {key : String} {value : Json} {members : List (String × Json)}
      {target next last : Target} {field : Field Target}
      (found : findField shape.fields key = some field)
      (taken : field.store value target = .ok next) (rest : Decodes shape members next last) :
      Decodes shape ((key, value) :: members) target last
  | unknown {key : String} {value : Json} {members : List (String × Json)} {target last : Target}
      (missing : findField shape.fields key = none) (rest : Decodes shape members target last) :
      Decodes shape ((key, value) :: members) target last

theorem decodes_append (shape : Shape Target) (left right : List (String × Json))
    (target next last : Target) (first : Decodes shape left target next)
    (rest : Decodes shape right next last) : Decodes shape (left ++ right) target last := by
  induction first with
  | nil target => exact rest
  | stored found taken _ ih => exact .stored found taken (ih rest)
  | unknown missing _ ih => exact .unknown missing (ih rest)

/-- A string member with `omitempty`. -/
def omitEmpty (key text : String) : List (String × Json) :=
  if text = "" then [] else [(key, .str text)]

/-- The field of an omitted member keeps its zero value. -/
theorem omitted_decodes (shape : Shape Target) (key text goType : String)
    (set : String → Target → Target) (target : Target)
    (found : findField shape.fields key = some (stringField key goType set))
    (zero : set "" target = target) :
    Decodes shape (omitEmpty key text) target (set text target) := by
  unfold omitEmpty
  split
  · rename_i empty
    rw [empty, zero]
    exact .nil target
  · exact .stored found rfl (.nil _)

theorem decodes_members (shape : Shape Target) (members : List (String × Json))
    (target last : Target) (decodes : Decodes shape members target last) :
    decodeMembers false shape members target none = (last, none) := by
  induction decodes with
  | nil target => rfl
  | stored found taken rest ih =>
      rw [decodeMembers, found]
      simp only [taken]
      exact ih
  | unknown missing rest ih =>
      rw [decodeMembers, missing]
      exact ih

theorem decodes_value (shape : Shape Target) (members : List (String × Json)) (last : Target)
    (decodes : Decodes shape members shape.zero last) :
    decodeValue false shape (.obj members) = .ok last := by
  simp only [decodeValue, decodes_members shape members shape.zero last decodes]

theorem struct_stored {Outer : Type} (name : String) (shape : Shape Target) (get : Outer → Target)
    (set : Target → Outer → Outer) (members : List (String × Json)) (target : Outer) (last : Target)
    (decodes : Decodes shape members (get target) last) :
    (structField name shape get set).store (.obj members) target = .ok (set last target) := by
  simp only [structField, decodes_members shape members (get target) last decodes]

/-- A slice of values each of which decodes to its image. -/
theorem decode_items_map {Value : Type} (shape : Shape Target) (encode : Value → Json)
    (image : Value → Target) (values : List Value)
    (each : ∀ value ∈ values, decodeNested shape (encode value) = .ok (image value)) :
    decodeItems shape (values.map encode) = .ok (values.map image) := by
  induction values with
  | nil => rfl
  | cons value values ih =>
      rw [List.forall_mem_cons] at each
      have rest := ih each.2
      unfold decodeItems at rest ⊢
      rw [List.map_cons, List.mapM_cons, each.1, rest]
      rfl

/-- An object with an error is an error. -/
theorem decode_value_failed (strict : Bool) (shape : Shape Target)
    (members : List (String × Json)) (failure : DecodeError)
    (failed : (decodeMembers strict shape members shape.zero none).2 = some failure) :
    decodeValue strict shape (.obj members) = .error failure := by
  cases decoded : decodeMembers strict shape members shape.zero none with
  | mk target saved =>
      rw [decoded] at failed
      simp only at failed
      simp only [decodeValue, decoded, failed]

/-! ## Documents decoded into a map -/

/-- `json.Unmarshal` into a nil map with arbitrary values, its error dropped. Bytes that
are no object leave the map nil. -/
def unmarshalMap (scan : Scan) : List (String × Json) :=
  match scan with
  | .document (.obj members) _ none => members
  | _ => []

/-- A map holds the last of several values for one key. -/
def getMember (key : String) (members : List (String × Json)) : Option Json :=
  members.reverse.lookup key

def setMember (key : String) (value : Json) (members : List (String × Json)) :
    List (String × Json) :=
  members ++ [(key, value)]

/-- A type assertion to string with its second result dropped. -/
def stringMember (key : String) (members : List (String × Json)) : String :=
  match getMember key members with
  | some (.str text) => text
  | _ => ""

theorem get_member_set_other (key other : String) (value : Json)
    (members : List (String × Json)) (different : key ≠ other) :
    getMember key (setMember other value members) = getMember key members := by
  have unequal : (key == other) = false := by simpa using different
  unfold getMember setMember
  rw [List.reverse_append, List.reverse_singleton, List.singleton_append, List.lookup_cons, unequal]

end PgmanProxy.Library.GoJson
