import PgmanProxy.Library.GoJson

/-!
# Strict and lenient decoding of one struct

A strict decoder refuses unknown members, in the struct itself and in the values
of its fields. `Refines` relates its shape to the lenient one, field by field.
What a strict decoder accepts is then what the lenient one accepts and what has
only known members, and both store the same.
-/

namespace PgmanProxy.Library.GoJsonStrict

open PgmanProxy.Library.GoJson

set_option autoImplicit false

variable {Target : Type}

/-- The field takes the value, whatever the struct already holds. -/
def Takes (field : GoJson.Field Target) (value : Json) : Prop :=
  ∀ target, ∃ stored, field.store value target = .ok stored

/-- Two readings of one field; what the strict one takes is stored alike by both. -/
structure FieldRefines (strict lenient : GoJson.Field Target) : Prop where
  name : strict.name = lenient.name
  stored : ∀ value target result,
    strict.store value target = .ok result → lenient.store value target = .ok result
  uniform : ∀ value target result, strict.store value target = .ok result → Takes strict value

structure Refines (strict lenient : Shape Target) : Prop where
  zero : strict.zero = lenient.zero
  fields : List.Forall₂ FieldRefines strict.fields lenient.fields

/-- A member that has a field which takes its value. -/
def KnownMember (shape : Shape Target) (member : String × Json) : Prop :=
  ∃ field, findField shape.fields member.1 = some field ∧ Takes field member.2

/-- No member of the value is unknown. -/
def Known (shape : Shape Target) : Json → Prop
  | .obj members => ∀ member ∈ members, KnownMember shape member
  | _ => True

/-! ## Fields -/

theorem string_field_refines (name goType : String) (set : String → Target → Target) :
    FieldRefines (stringField name goType set) (stringField name goType set) where
  name := rfl
  stored := fun _ _ _ same => same
  uniform := by
    intro value target result accepted other
    cases value with
    | str text => exact ⟨set text other, rfl⟩
    | null => exact ⟨other, rfl⟩
    | bool _ => cases accepted
    | num _ => cases accepted
    | arr _ => cases accepted
    | obj _ => cases accepted

/-- A field whose value has a decoder of its own. -/
theorem decoded_field_refines {Inner : Type} (name : String)
    (strict lenient : Json → Except Mismatch Inner) (set : Inner → Target → Target)
    (inner : ∀ value decoded, strict value = .ok decoded → lenient value = .ok decoded) :
    FieldRefines
      ⟨name, fun value target => (strict value).map (fun decoded => set decoded target)⟩
      ⟨name, fun value target => (lenient value).map (fun decoded => set decoded target)⟩ where
  name := rfl
  stored := by
    intro value target result accepted
    cases read : strict value with
    | error mismatch =>
        simp only [read] at accepted
        cases accepted
    | ok decoded =>
        simp only [read] at accepted
        simp only [inner value decoded read]
        exact accepted
  uniform := by
    intro value target result accepted other
    cases read : strict value with
    | error mismatch =>
        simp only [read] at accepted
        cases accepted
    | ok decoded => exact ⟨set decoded other, by simp only [read]; rfl⟩

theorem find_refines (matching : String → Bool) (strict lenient : List (GoJson.Field Target))
    (refines : List.Forall₂ FieldRefines strict lenient) :
    Option.Rel FieldRefines (strict.find? (fun field => matching field.name))
      (lenient.find? (fun field => matching field.name)) := by
  induction refines with
  | nil => exact .none
  | cons head _ ih =>
      rw [List.find?_cons, List.find?_cons, head.name]
      split
      · exact .some head
      · exact ih

/-- The two decoders find the same field for a member, or neither finds one. -/
theorem find_field_refines (key : String) (strict lenient : List (GoJson.Field Target))
    (refines : List.Forall₂ FieldRefines strict lenient) :
    Option.Rel FieldRefines (findField strict key) (findField lenient key) := by
  have exact_match := find_refines (fun name => name = key) strict lenient refines
  have folded := find_refines (fun name => foldName name = foldName key) strict lenient refines
  unfold findField
  generalize strict.find? (fun field => field.name = key) = left at exact_match ⊢
  generalize lenient.find? (fun field => field.name = key) = right at exact_match ⊢
  cases exact_match with
  | some related => exact .some related
  | none => exact folded

/-! ## Objects and values -/

theorem not_none_of_saved (strict : Bool) (shape : Shape Target) (members : List (String × Json))
    (target result : Target) (failure : DecodeError) :
    decodeMembers strict shape members target (some failure) ≠ (result, none) := by
  intro finished
  have saved := decode_members_saved strict shape members target failure
  rw [finished] at saved
  cases saved

/-- Member by member: the strict decoder goes through exactly when the lenient one does
and every member is known. -/
theorem strict_members_iff (strict lenient : Shape Target) (refines : Refines strict lenient)
    (members : List (String × Json)) (target result : Target) :
    decodeMembers true strict members target none = (result, none) ↔
      decodeMembers false lenient members target none = (result, none) ∧
        ∀ member ∈ members, KnownMember strict member := by
  induction members generalizing target with
  | nil => simp [decodeMembers]
  | cons member members ih =>
      obtain ⟨key, value⟩ := member
      rw [List.forall_mem_cons, decodeMembers, decodeMembers]
      have found := find_field_refines key strict.fields lenient.fields refines.fields
      have known : KnownMember strict (key, value) ↔
          ∃ field, findField strict.fields key = some field ∧ Takes field value := Iff.rfl
      rw [known]
      generalize findField strict.fields key = left at found ⊢
      generalize findField lenient.fields key = right at found ⊢
      cases found with
      | none =>
          refine iff_of_false ?_ ?_
          · simpa using not_none_of_saved true strict members target result _
          · simp
      | some related =>
          rename_i strictField lenientField
          dsimp only
          cases stored : strictField.store value target with
          | ok next =>
              simp only [related.stored value target next stored, ih next]
              have taken := related.uniform value target next stored
              simp [taken]
          | error mismatch =>
              refine iff_of_false ?_ ?_
              · simpa using not_none_of_saved true strict members target result _
              · rintro ⟨-, ⟨field, same, takes⟩, -⟩
                cases same
                obtain ⟨next, accepted⟩ := takes target
                cases accepted.symm.trans stored

theorem object_ok_iff (strict : Bool) (shape : Shape Target) (members : List (String × Json))
    (result : Target) :
    decodeValue strict shape (.obj members) = .ok result ↔
      decodeMembers strict shape members shape.zero none = (result, none) := by
  rw [decodeValue]
  cases decodeMembers strict shape members shape.zero none with
  | mk target saved => cases saved <;> simp

/-- What the strict decoder accepts: what the lenient one accepts, with known members only. -/
theorem strict_decode_iff (strict lenient : Shape Target) (refines : Refines strict lenient)
    (value : Json) (result : Target) :
    decodeValue true strict value = .ok result ↔
      decodeValue false lenient value = .ok result ∧ Known strict value := by
  cases value with
  | obj members =>
      rw [object_ok_iff, object_ok_iff, refines.zero,
        strict_members_iff strict lenient refines]
      exact Iff.rfl
  | null => simp [decodeValue, refines.zero, Known]
  | bool _ => simp [decodeValue]
  | num _ => simp [decodeValue]
  | str _ => simp [decodeValue]
  | arr _ => simp [decodeValue]

end PgmanProxy.Library.GoJsonStrict
