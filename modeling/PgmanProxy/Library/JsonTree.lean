import Mathlib.Data.List.Basic
import Mathlib.Data.List.Perm.Basic
import PgmanProxy.Library.GoJson

/-!
# The strings of a JSON value

A value read as a tree whose leaves are its strings. Each string has a position, the
path that leads to it, and a governing key, the last object key on that path. A pass
over the strings meets them in an order that the arrays fix and the objects do not:
`Reorders` relates a value to itself with the members of its objects in another
order. `firsts` lists the strings that some such order lets a pass meet first among
those it is interested in.
-/

namespace PgmanProxy.Library.JsonTree

open PgmanProxy.Library.GoJson

set_option autoImplicit false

/-! ## Positions -/

inductive Step where
  | key (name : String)
  | index (place : Nat)
deriving DecidableEq, Repr

def valueAt : List Step → Json → Option Json
  | [], value => some value
  | .key name :: path, .obj members => (members.lookup name).bind (valueAt path)
  | .index place :: path, .arr items => items[place]?.bind (valueAt path)
  | _ :: _, _ => none

theorem value_at_key (name : String) (path : List Step) (value found : Json)
    (there : valueAt (.key name :: path) value = some found) :
    ∃ members inner, value = .obj members ∧ members.lookup name = some inner ∧
      valueAt path inner = some found := by
  cases value with
  | obj members =>
      obtain ⟨inner, member, rest⟩ := Option.bind_eq_some_iff.1 there
      exact ⟨members, inner, rfl, member, rest⟩
  | null => cases there
  | bool flag => cases there
  | num literal => cases there
  | str text => cases there
  | arr items => cases there

theorem value_at_index (place : Nat) (path : List Step) (value found : Json)
    (there : valueAt (.index place :: path) value = some found) :
    ∃ items inner, value = .arr items ∧ items[place]? = some inner ∧
      valueAt path inner = some found := by
  cases value with
  | arr items =>
      obtain ⟨inner, item, rest⟩ := Option.bind_eq_some_iff.1 there
      exact ⟨items, inner, rfl, item, rest⟩
  | null => cases there
  | bool flag => cases there
  | num literal => cases there
  | str text => cases there
  | obj members => cases there

/-- The last key on the path, `key` when there is none. -/
def nearest (key : String) : List Step → String
  | [] => key
  | .key name :: path => nearest name path
  | .index _ :: path => nearest key path

/-! ## Strings -/

mutual

/-- The strings with their governing keys, in order. -/
def strings (key : String) : Json → List (String × String)
  | .str text => [(key, text)]
  | .arr items => itemStrings key items
  | .obj members => memberStrings members
  | _ => []

def itemStrings (key : String) : List Json → List (String × String)
  | [] => []
  | item :: items => strings key item ++ itemStrings key items

def memberStrings : List (String × Json) → List (String × String)
  | [] => []
  | (name, value) :: members => strings name value ++ memberStrings members

end

section Mapping

variable (change : String → String → String)

mutual

/-- The value with every string changed according to its governing key. -/
def mapStrings (key : String) : Json → Json
  | .str text => .str (change key text)
  | .arr items => .arr (mapItems key items)
  | .obj members => .obj (mapMembers members)
  | other => other

def mapItems (key : String) : List Json → List Json
  | [] => []
  | item :: items => mapStrings key item :: mapItems key items

def mapMembers : List (String × Json) → List (String × Json)
  | [] => []
  | (name, value) :: members => (name, mapStrings name value) :: mapMembers members

end

theorem map_items_get (key : String) (items : List Json) (place : Nat) :
    (mapItems change key items)[place]? = items[place]?.map (mapStrings change key) := by
  induction items generalizing place with
  | nil => rfl
  | cons item items ih =>
      cases place with
      | zero => rfl
      | succ place =>
          rw [mapItems, List.getElem?_cons_succ, List.getElem?_cons_succ]
          exact ih place

theorem map_members_eq (members : List (String × Json)) :
    mapMembers change members =
      members.map (fun member => (member.1, mapStrings change member.1 member.2)) := by
  induction members with
  | nil => rfl
  | cons member members ih =>
      obtain ⟨name, value⟩ := member
      rw [mapMembers, ih, List.map_cons]

theorem map_members_perm {members moved : List (String × Json)} (perm : members.Perm moved) :
    (mapMembers change members).Perm (mapMembers change moved) := by
  rw [map_members_eq, map_members_eq]
  exact perm.map _

theorem map_members_lookup (members : List (String × Json)) (name : String) :
    (mapMembers change members).lookup name =
      (members.lookup name).map (mapStrings change name) := by
  induction members with
  | nil => rfl
  | cons member members ih =>
      obtain ⟨other, value⟩ := member
      rw [mapMembers, List.lookup_cons, List.lookup_cons]
      by_cases same : name = other
      · subst same
        simp
      · simp only [beq_eq_false_iff_ne.2 same]
        exact ih

/-- The string at a position is changed according to the nearest key. -/
theorem map_strings_at (path : List Step) (key : String) (value : Json) (text : String)
    (found : valueAt path value = some (.str text)) :
    valueAt path (mapStrings change key value) =
      some (.str (change (nearest key path) text)) := by
  induction path generalizing key value with
  | nil =>
      cases found
      rfl
  | cons step path ih =>
      cases step with
      | key name =>
          obtain ⟨members, inner, rfl, member, rest⟩ := value_at_key name path value _ found
          rw [mapStrings, valueAt, map_members_lookup, member]
          exact ih name inner rest
      | index place =>
          obtain ⟨items, inner, rfl, item, rest⟩ := value_at_index place path value _ found
          rw [mapStrings, valueAt, map_items_get, item]
          exact ih key inner rest

end Mapping

/-! ## The same value with its members in another order -/

mutual

/-- No object has a key twice. -/
def distinctKeys : Json → Bool
  | .arr items => itemKeys items
  | .obj members => decide (members.map Prod.fst).Nodup && memberKeys members
  | _ => true

def itemKeys : List Json → Bool
  | [] => true
  | item :: items => distinctKeys item && itemKeys items

def memberKeys : List (String × Json) → Bool
  | [] => true
  | (_, value) :: members => distinctKeys value && memberKeys members

end

mutual

theorem map_strings_keys (change : String → String → String) (key : String) : ∀ value : Json,
    distinctKeys (mapStrings change key value) = distinctKeys value
  | .null => rfl
  | .bool _ => rfl
  | .num _ => rfl
  | .str _ => rfl
  | .arr items => by
      rw [mapStrings, distinctKeys, distinctKeys, map_items_keys change key items]
  | .obj members => by
      have names : (mapMembers change members).map Prod.fst = members.map Prod.fst := by
        rw [map_members_eq, List.map_map]
        rfl
      rw [mapStrings, distinctKeys, distinctKeys, names, map_members_keys change members]

theorem map_items_keys (change : String → String → String) (key : String) : ∀ items : List Json,
    itemKeys (mapItems change key items) = itemKeys items
  | [] => rfl
  | item :: items => by
      rw [mapItems, itemKeys, itemKeys, map_strings_keys change key item,
        map_items_keys change key items]

theorem map_members_keys (change : String → String → String) :
    ∀ members : List (String × Json), memberKeys (mapMembers change members) = memberKeys members
  | [] => rfl
  | (name, value) :: members => by
      rw [mapMembers, memberKeys, memberKeys, map_strings_keys change name value,
        map_members_keys change members]

end

mutual

inductive Reorders : Json → Json → Prop
  | null : Reorders .null .null
  | bool (flag : Bool) : Reorders (.bool flag) (.bool flag)
  | num (literal : String) : Reorders (.num literal) (.num literal)
  | str (text : String) : Reorders (.str text) (.str text)
  | arr {items others : List Json} (each : ItemsReorder items others) :
      Reorders (.arr items) (.arr others)
  | obj {members between others : List (String × Json)} (each : MembersReorder members between)
      (moved : between.Perm others) : Reorders (.obj members) (.obj others)

inductive ItemsReorder : List Json → List Json → Prop
  | nil : ItemsReorder [] []
  | cons {item other : Json} {items others : List Json} (first : Reorders item other)
      (rest : ItemsReorder items others) : ItemsReorder (item :: items) (other :: others)

inductive MembersReorder : List (String × Json) → List (String × Json) → Prop
  | nil : MembersReorder [] []
  | cons (name : String) {value other : Json} {members others : List (String × Json)}
      (first : Reorders value other) (rest : MembersReorder members others) :
      MembersReorder ((name, value) :: members) ((name, other) :: others)

end

mutual

theorem reorders_refl : ∀ value : Json, Reorders value value
  | .null => .null
  | .bool flag => .bool flag
  | .num literal => .num literal
  | .str text => .str text
  | .arr items => .arr (items_reorder_refl items)
  | .obj members => .obj (members_reorder_refl members) (List.Perm.refl _)

theorem items_reorder_refl : ∀ items : List Json, ItemsReorder items items
  | [] => .nil
  | item :: items => .cons (reorders_refl item) (items_reorder_refl items)

theorem members_reorder_refl : ∀ members : List (String × Json), MembersReorder members members
  | [] => .nil
  | (name, value) :: members => .cons name (reorders_refl value) (members_reorder_refl members)

end

theorem member_strings_eq (members : List (String × Json)) :
    memberStrings members = members.flatMap (fun member => strings member.1 member.2) := by
  induction members with
  | nil => rfl
  | cons member members ih =>
      obtain ⟨name, value⟩ := member
      rw [memberStrings, ih, List.flatMap_cons]

mutual

theorem strings_perm (key : String) : ∀ {value other : Json}, Reorders value other →
    (strings key value).Perm (strings key other)
  | _, _, .null => .refl _
  | _, _, .bool _ => .refl _
  | _, _, .num _ => .refl _
  | _, _, .str _ => .refl _
  | _, _, .arr each => by
      rw [strings, strings]
      exact item_strings_perm key each
  | _, _, .obj each moved => by
      rw [strings, strings]
      apply (member_strings_perm each).trans
      rw [member_strings_eq, member_strings_eq]
      exact moved.flatMap_right _

theorem item_strings_perm (key : String) : ∀ {items others : List Json},
    ItemsReorder items others → (itemStrings key items).Perm (itemStrings key others)
  | _, _, .nil => .refl _
  | _, _, .cons first rest => by
      rw [itemStrings, itemStrings]
      exact (strings_perm key first).append (item_strings_perm key rest)

theorem member_strings_perm : ∀ {members others : List (String × Json)},
    MembersReorder members others → (memberStrings members).Perm (memberStrings others)
  | _, _, .nil => .refl _
  | _, _, .cons name first rest => by
      rw [memberStrings, memberStrings]
      exact (strings_perm name first).append (member_strings_perm rest)

end

/-! ## Positions do not depend on the order -/

theorem lookup_iff_mem {Value : Type*} (members : List (String × Value)) (name : String)
    (value : Value) (distinct : (members.map Prod.fst).Nodup) :
    members.lookup name = some value ↔ (name, value) ∈ members := by
  induction members with
  | nil => simp
  | cons member members ih =>
      obtain ⟨other, first⟩ := member
      rw [List.map_cons, List.nodup_cons] at distinct
      obtain ⟨fresh, later⟩ := distinct
      rw [List.lookup_cons, List.mem_cons]
      by_cases same : name = other
      · subst same
        have absent : (name, value) ∉ members := by
          intro member
          exact fresh (List.mem_map.2 ⟨(name, value), member, rfl⟩)
        simp [absent, eq_comm]
      · simp only [beq_eq_false_iff_ne.2 same, ih later, Prod.mk.injEq, same, false_and, false_or]

theorem members_reorder_keys : ∀ {members others : List (String × Json)},
    MembersReorder members others → others.map Prod.fst = members.map Prod.fst
  | _, _, .nil => rfl
  | _, _, .cons name _ rest => by
      rw [List.map_cons, List.map_cons, members_reorder_keys rest]

theorem members_reorder_lookup : ∀ {members others : List (String × Json)} {name : String}
    {value : Json}, MembersReorder members others → members.lookup name = some value →
    ∃ other, others.lookup name = some other ∧ Reorders value other
  | _, _, wanted, value, @MembersReorder.cons name first second _ _ same rest, found => by
      rw [List.lookup_cons] at found ⊢
      by_cases here : wanted = name
      · subst here
        simp only [BEq.rfl, Option.some.injEq] at found ⊢
        subst found
        exact ⟨second, rfl, same⟩
      · simp only [beq_eq_false_iff_ne.2 here] at found ⊢
        exact members_reorder_lookup rest found

theorem items_reorder_get : ∀ {items others : List Json} {place : Nat} {value : Json},
    ItemsReorder items others → items[place]? = some value →
    ∃ other, others[place]? = some other ∧ Reorders value other
  | _, _, 0, _, .cons first _, found => by
      cases found
      exact ⟨_, rfl, first⟩
  | _, _, place + 1, _, .cons _ rest, found => by
      rw [List.getElem?_cons_succ] at found ⊢
      exact items_reorder_get rest found

theorem item_keys_get (items : List Json) (place : Nat) (value : Json)
    (distinct : itemKeys items = true) (found : items[place]? = some value) :
    distinctKeys value = true := by
  induction items generalizing place with
  | nil => cases found
  | cons item items ih =>
      rw [itemKeys, Bool.and_eq_true] at distinct
      cases place with
      | zero =>
          cases found
          exact distinct.1
      | succ place =>
          rw [List.getElem?_cons_succ] at found
          exact ih place distinct.2 found

theorem member_keys_lookup (members : List (String × Json)) (name : String) (value : Json)
    (distinct : memberKeys members = true) (found : members.lookup name = some value) :
    distinctKeys value = true := by
  induction members with
  | nil => cases found
  | cons member members ih =>
      obtain ⟨other, first⟩ := member
      rw [memberKeys, Bool.and_eq_true] at distinct
      rw [List.lookup_cons] at found
      split at found
      · cases found
        exact distinct.1
      · exact ih distinct.2 found

/-- Reordered values hold the same string at every position. -/
theorem reorders_at (path : List Step) (value other : Json) (text : String)
    (same : Reorders value other) (distinct : distinctKeys value = true)
    (found : valueAt path value = some (.str text)) :
    valueAt path other = some (.str text) := by
  induction path generalizing value other with
  | nil =>
      cases found
      cases same
      rfl
  | cons step path ih =>
      cases step with
      | key name =>
          obtain ⟨members, inner, rfl, member, rest⟩ := value_at_key name path value _ found
          cases same with
          | obj each moved =>
              rw [distinctKeys, Bool.and_eq_true, decide_eq_true_eq] at distinct
              obtain ⟨second, there, related⟩ := members_reorder_lookup each member
              have keys := members_reorder_keys each
              have fresh : (List.map Prod.fst _).Nodup := keys ▸ distinct.1
              have kept := (lookup_iff_mem _ name second fresh).1 there
              have moved_keys := (moved.map Prod.fst).nodup_iff.1 fresh
              rw [valueAt, (lookup_iff_mem _ name second moved_keys).2 (moved.mem_iff.1 kept)]
              exact ih inner second related (member_keys_lookup _ _ _ distinct.2 member) rest
      | index place =>
          obtain ⟨items, inner, rfl, item, rest⟩ := value_at_index place path value _ found
          cases same with
          | arr each =>
              rw [distinctKeys] at distinct
              obtain ⟨second, there, related⟩ := items_reorder_get each item
              rw [valueAt, there]
              exact ih inner second related (item_keys_get _ _ _ distinct item) rest

mutual

/-- Every string that a pass meets has a position. -/
theorem strings_at (key : String) (entry : String × String) : ∀ value : Json,
    distinctKeys value = true → entry ∈ strings key value →
    ∃ path, valueAt path value = some (.str entry.2) ∧ nearest key path = entry.1
  | .null, _, member => by cases member
  | .bool _, _, member => by cases member
  | .num _, _, member => by cases member
  | .str text, _, member => by
      rw [strings, List.mem_singleton] at member
      subst member
      exact ⟨[], rfl, rfl⟩
  | .arr items, distinct, member => by
      rw [strings] at member
      rw [distinctKeys] at distinct
      obtain ⟨place, inner, item, path, found, governed⟩ :=
        item_strings_at key entry items distinct member
      refine ⟨.index place :: path, ?_, governed⟩
      rw [valueAt, item]
      exact found
  | .obj members, distinct, member => by
      rw [strings] at member
      rw [distinctKeys, Bool.and_eq_true, decide_eq_true_eq] at distinct
      obtain ⟨name, inner, there, path, found, governed⟩ :=
        member_strings_at entry members distinct.2 member
      refine ⟨.key name :: path, ?_, governed⟩
      rw [valueAt, (lookup_iff_mem members name inner distinct.1).2 there]
      exact found

theorem item_strings_at (key : String) (entry : String × String) : ∀ items : List Json,
    itemKeys items = true → entry ∈ itemStrings key items →
    ∃ (place : Nat) (inner : Json), items[place]? = some inner ∧
      ∃ path, valueAt path inner = some (.str entry.2) ∧ nearest key path = entry.1
  | [], _, member => by cases member
  | item :: items, distinct, member => by
      rw [itemStrings, List.mem_append] at member
      rw [itemKeys, Bool.and_eq_true] at distinct
      rcases member with here | later
      · exact ⟨0, item, rfl, strings_at key entry item distinct.1 here⟩
      · obtain ⟨place, inner, there, rest⟩ := item_strings_at key entry items distinct.2 later
        exact ⟨place + 1, inner, there, rest⟩

theorem member_strings_at (entry : String × String) : ∀ members : List (String × Json),
    memberKeys members = true → entry ∈ memberStrings members →
    ∃ (name : String) (inner : Json), (name, inner) ∈ members ∧
      ∃ path, valueAt path inner = some (.str entry.2) ∧ nearest name path = entry.1
  | [], _, member => by cases member
  | (name, value) :: members, distinct, member => by
      rw [memberStrings, List.mem_append] at member
      rw [memberKeys, Bool.and_eq_true] at distinct
      rcases member with here | later
      · exact ⟨name, value, List.mem_cons_self, strings_at name entry value distinct.1 here⟩
      · obtain ⟨other, inner, there, rest⟩ := member_strings_at entry members distinct.2 later
        exact ⟨other, inner, List.mem_cons_of_mem _ there, rest⟩

end

theorem item_strings_mem (key : String) (items : List Json) (place : Nat) (inner : Json)
    (entry : String × String) (item : items[place]? = some inner)
    (member : entry ∈ strings key inner) : entry ∈ itemStrings key items := by
  induction items generalizing place with
  | nil => cases item
  | cons first items ih =>
      rw [itemStrings, List.mem_append]
      cases place with
      | zero =>
          cases item
          exact Or.inl member
      | succ place =>
          rw [List.getElem?_cons_succ] at item
          exact Or.inr (ih place item)

theorem member_strings_mem (members : List (String × Json)) (name : String) (inner : Json)
    (entry : String × String) (found : members.lookup name = some inner)
    (member : entry ∈ strings name inner) : entry ∈ memberStrings members := by
  induction members with
  | nil => cases found
  | cons first members ih =>
      obtain ⟨other, value⟩ := first
      rw [memberStrings, List.mem_append]
      rw [List.lookup_cons] at found
      split at found
      · rename_i same
        cases found
        rw [← eq_of_beq same]
        exact Or.inl member
      · exact Or.inr (ih found)

/-- The string at a position is met with its governing key. -/
theorem mem_strings_at (path : List Step) (key : String) (value : Json) (text : String)
    (found : valueAt path value = some (.str text)) :
    (nearest key path, text) ∈ strings key value := by
  induction path generalizing key value with
  | nil =>
      cases found
      exact List.mem_singleton.2 rfl
  | cons step path ih =>
      cases step with
      | key name =>
          obtain ⟨members, inner, rfl, member, rest⟩ := value_at_key name path value _ found
          exact member_strings_mem members name inner _ member (ih name inner rest)
      | index place =>
          obtain ⟨items, inner, rfl, item, rest⟩ := value_at_index place path value _ found
          exact item_strings_mem key items place inner _ item (ih key inner rest)

/-! ## Changing the strings of reordered values -/

section Changing

variable (change : String → String → String)

mutual

theorem map_strings_reorders (key : String) : ∀ {value moved : Json}, Reorders value moved →
    Reorders (mapStrings change key value) (mapStrings change key moved)
  | _, _, .null => .null
  | _, _, .bool flag => .bool flag
  | _, _, .num literal => .num literal
  | _, _, .str _ => .str _
  | _, _, .arr each => .arr (map_items_reorder key each)
  | _, _, .obj each perm => .obj (map_members_reorder each) (map_members_perm change perm)

theorem map_items_reorder (key : String) : ∀ {items moved : List Json}, ItemsReorder items moved →
    ItemsReorder (mapItems change key items) (mapItems change key moved)
  | _, _, .nil => .nil
  | _, _, .cons first rest =>
      .cons (map_strings_reorders key first) (map_items_reorder key rest)

theorem map_members_reorder : ∀ {members moved : List (String × Json)},
    MembersReorder members moved →
    MembersReorder (mapMembers change members) (mapMembers change moved)
  | _, _, .nil => .nil
  | _, _, .cons name first rest =>
      .cons name (map_strings_reorders name first) (map_members_reorder rest)

end

end Changing

/-! ## Which string may come first -/

section Firsts

variable (wanted : String × String → Bool)

mutual

/-- The wanted strings that come first in some order of the members. -/
def firsts (key : String) : Json → List (String × String)
  | .str text => if wanted (key, text) then [(key, text)] else []
  | .arr items => itemFirsts key items
  | .obj members => memberFirsts members
  | _ => []

/-- The order of the items is fixed: the first item with a wanted string decides. -/
def itemFirsts (key : String) : List Json → List (String × String)
  | [] => []
  | item :: items => if firsts key item = [] then itemFirsts key items else firsts key item

def memberFirsts : List (String × Json) → List (String × String)
  | [] => []
  | (name, value) :: members => firsts name value ++ memberFirsts members

end

mutual

theorem firsts_nil_iff (key : String) : ∀ value : Json,
    firsts wanted key value = [] ↔ (strings key value).find? wanted = none
  | .null => by simp [firsts, strings]
  | .bool _ => by simp [firsts, strings]
  | .num _ => by simp [firsts, strings]
  | .str text => by
      by_cases hit : wanted (key, text) = true <;> simp [firsts, strings, hit]
  | .arr items => by
      rw [firsts, strings]
      exact item_firsts_nil_iff key items
  | .obj members => by
      rw [firsts, strings]
      exact member_firsts_nil_iff members

theorem item_firsts_nil_iff (key : String) : ∀ items : List Json,
    itemFirsts wanted key items = [] ↔ (itemStrings key items).find? wanted = none
  | [] => by simp [itemFirsts, itemStrings]
  | item :: items => by
      have here := firsts_nil_iff key item
      have later := item_firsts_nil_iff key items
      rw [itemFirsts, itemStrings, List.find?_append, Option.or_eq_none_iff, ← here, ← later]
      split
      · rename_i empty
        simp [empty]
      · rename_i filled
        simp [filled]

theorem member_firsts_nil_iff : ∀ members : List (String × Json),
    memberFirsts wanted members = [] ↔ (memberStrings members).find? wanted = none
  | [] => by simp [memberFirsts, memberStrings]
  | (name, value) :: members => by
      rw [memberFirsts, memberStrings, List.find?_append, Option.or_eq_none_iff,
        List.append_eq_nil_iff, firsts_nil_iff name value, member_firsts_nil_iff members]

end

theorem find_none_perm {left right : List (String × String)} (perm : left.Perm right) :
    left.find? wanted = none ↔ right.find? wanted = none := by
  rw [List.find?_eq_none, List.find?_eq_none]
  exact ⟨fun none entry member => none entry (perm.mem_iff.2 member),
    fun none entry member => none entry (perm.mem_iff.1 member)⟩

theorem find_flat_map {Item : Type*} (items : List Item) (pieces : Item → List (String × String))
    (entry : String × String) (found : (items.flatMap pieces).find? wanted = some entry) :
    ∃ item ∈ items, (pieces item).find? wanted = some entry := by
  induction items with
  | nil => cases found
  | cons item items ih =>
      rw [List.flatMap_cons, List.find?_append, Option.or_eq_some_iff] at found
      rcases found with here | ⟨_, later⟩
      · exact ⟨item, List.mem_cons_self, here⟩
      · obtain ⟨other, member, there⟩ := ih later
        exact ⟨other, List.mem_cons_of_mem item member, there⟩

mutual

/-- Whatever the order of the members, the first wanted string is one of `firsts`. -/
theorem first_of_reorder (key : String) (entry : String × String) :
    ∀ {value moved : Json}, Reorders value moved →
    (strings key moved).find? wanted = some entry → entry ∈ firsts wanted key value
  | _, _, .null, found => by cases found
  | _, _, .bool _, found => by cases found
  | _, _, .num _, found => by cases found
  | _, _, .str text, found => by
      have hit := List.find?_some found
      have same := List.mem_singleton.1 (List.mem_of_find?_eq_some found)
      subst same
      rw [firsts, if_pos hit]
      exact List.mem_singleton.2 rfl
  | _, _, .arr each, found => by
      rw [firsts]
      exact item_first_of_reorder key entry each found
  | _, _, .obj each moved, found => by
      rw [strings, member_strings_eq] at found
      obtain ⟨member, there, first⟩ := find_flat_map wanted _ _ entry found
      rw [firsts]
      exact member_first_of_reorder entry each member (moved.mem_iff.2 there) first

theorem item_first_of_reorder (key : String) (entry : String × String) :
    ∀ {items moved : List Json}, ItemsReorder items moved →
    (itemStrings key moved).find? wanted = some entry → entry ∈ itemFirsts wanted key items
  | _, _, .nil, found => by cases found
  | _, _, .cons first rest, found => by
      rw [itemStrings, List.find?_append, Option.or_eq_some_iff] at found
      rw [itemFirsts]
      rcases found with here | ⟨none_here, later⟩
      · have member := first_of_reorder key entry first here
        rw [if_neg (List.ne_nil_of_mem member)]
        exact member
      · rw [← find_none_perm wanted (strings_perm key first), ← firsts_nil_iff] at none_here
        rw [if_pos none_here]
        exact item_first_of_reorder key entry rest later

theorem member_first_of_reorder (entry : String × String) :
    ∀ {members moved : List (String × Json)}, MembersReorder members moved →
    ∀ member ∈ moved, (strings member.1 member.2).find? wanted = some entry →
      entry ∈ memberFirsts wanted members
  | _, _, .nil, member, there, _ => by cases there
  | _, _, .cons name first rest, member, there, found => by
      rw [memberFirsts, List.mem_append]
      rcases List.mem_cons.1 there with rfl | later
      · exact Or.inl (first_of_reorder name entry first found)
      · exact Or.inr (member_first_of_reorder entry rest member later found)

end

mutual

/-- Each of `firsts` is the first wanted string in some order of the members. -/
theorem reorder_of_first (key : String) (entry : String × String) : ∀ value : Json,
    entry ∈ firsts wanted key value →
    ∃ moved, Reorders value moved ∧ (strings key moved).find? wanted = some entry
  | .null, member => by cases member
  | .bool _, member => by cases member
  | .num _, member => by cases member
  | .str text, member => by
      rw [firsts] at member
      split at member
      · rename_i hit
        refine ⟨.str text, .str text, ?_⟩
        rw [List.mem_singleton.1 member, strings, List.find?_singleton, if_pos hit]
      · cases member
  | .arr items, member => by
      rw [firsts] at member
      obtain ⟨moved, each, found⟩ := item_reorder_of_first key entry items member
      exact ⟨.arr moved, .arr each, found⟩
  | .obj members, member => by
      rw [firsts] at member
      obtain ⟨between, first, rest, each, perm, found⟩ :=
        member_reorder_of_first entry members member
      refine ⟨.obj (first :: rest), .obj each perm, ?_⟩
      obtain ⟨name, value⟩ := first
      rw [strings, memberStrings, List.find?_append, found, Option.some_or]

theorem item_reorder_of_first (key : String) (entry : String × String) : ∀ items : List Json,
    entry ∈ itemFirsts wanted key items →
    ∃ moved, ItemsReorder items moved ∧ (itemStrings key moved).find? wanted = some entry
  | [], member => by cases member
  | item :: items, member => by
      rw [itemFirsts] at member
      split at member
      · rename_i empty
        rw [firsts_nil_iff] at empty
        obtain ⟨moved, each, found⟩ := item_reorder_of_first key entry items member
        refine ⟨item :: moved, .cons (reorders_refl item) each, ?_⟩
        rw [itemStrings, List.find?_append, empty, Option.none_or, found]
      · obtain ⟨moved, first, found⟩ := reorder_of_first key entry item member
        refine ⟨moved :: items, .cons first (items_reorder_refl items), ?_⟩
        rw [itemStrings, List.find?_append, found, Option.some_or]

/-- The member that holds the entry is moved to the front. -/
theorem member_reorder_of_first (entry : String × String) : ∀ members : List (String × Json),
    entry ∈ memberFirsts wanted members →
    ∃ between first rest, MembersReorder members between ∧ between.Perm (first :: rest) ∧
      (strings first.1 first.2).find? wanted = some entry
  | [], member => by cases member
  | (name, value) :: members, member => by
      rw [memberFirsts, List.mem_append] at member
      rcases member with here | later
      · obtain ⟨moved, first, found⟩ := reorder_of_first name entry value here
        exact ⟨(name, moved) :: members, (name, moved), members,
          .cons name first (members_reorder_refl members), .refl _, found⟩
      · obtain ⟨between, first, rest, each, perm, found⟩ :=
          member_reorder_of_first entry members later
        exact ⟨(name, value) :: between, first, (name, value) :: rest,
          .cons name (reorders_refl value) each, (perm.cons _).trans (.swap _ _ _), found⟩

end

end Firsts

end PgmanProxy.Library.JsonTree
