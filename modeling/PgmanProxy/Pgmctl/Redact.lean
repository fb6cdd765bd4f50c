import Mathlib.Data.List.Dedup
import Mathlib.Data.List.Sort
import Mathlib.Data.String.Basic
import PgmanProxy.Library.GoStrings
import PgmanProxy.Library.JsonTree

/-!
# Redaction of a dump

`Redactor.walk` passes over a decoded JSON value and scrubs its strings. What happens
to a string is decided by the key nearest to it: a secret key blanks it, an identity
key replaces it by a placeholder at the strict level, and any other key leaves it as
it is but for bearer literals. The placeholders are kept in a cache that one dump
shares among its slices.
-/

namespace PgmanProxy.Pgmctl.Redact

open PgmanProxy.Library.GoJson PgmanProxy.Library.GoStrings PgmanProxy.Library.JsonTree

set_option autoImplicit false

inductive RedactLevel where
  | normal
  | strict
deriving DecidableEq, Repr

/-! ## The patterns -/

/-- The words of `secretKeyRE`, with its optional separators written out. -/
def secretWords : List String :=
  ["password", "secret", "token", "bearer", "apikey", "api_key", "api-key", "credential",
    "privatekey", "private_key", "private-key"]

/-- `secretKeyRE`: a word anywhere in the key, up to case. -/
def isSecretKey (key : String) : Bool :=
  secretWords.any (fun word => containsRunes word.toList (foldName key))

def identityNames : List String :=
  ["cluster_id", "node_id", "peer_node_id", "local_node_id", "leader_node_id", "primary_node_id",
    "server_name", "host", "addr", "address", "listen_addr", "client_listen_addr",
    "routes_listen_addr", "peer_route_url", "replication_slot", "sync_standby", "sync_standbys"]

/-- `identityKeyRE`: the whole key, up to case. -/
def isIdentityKey (key : String) : Bool :=
  identityNames.any (fun name => decide (name.toList = foldName key))

/-- `\w` -/
def isWordRune (rune : Char) : Bool := rune.isAlphanum || rune = '_'

/-- `\s` -/
def isBlank (rune : Char) : Bool :=
  rune ∈ ['\t', '\n', Char.ofNat 0x0C, '\r', ' ']

def isTokenRune (rune : Char) : Bool :=
  (foldRune rune).isAlphanum || rune ∈ ['_', '-', '.', '=', ':']

def bearerWord : List Char := ['b', 'e', 'a', 'r', 'e', 'r']

/-- The length of the match of `bearerLiteralRE` that starts here; `boundary` says that no
word rune stands in front. -/
def bearerLength (boundary : Bool) (runes : List Char) : Option Nat :=
  let blanks := (runes.drop 6).takeWhile isBlank
  let token := ((runes.drop 6).dropWhile isBlank).takeWhile isTokenRune
  if boundary = true ∧ (runes.take 6).map foldRune = bearerWord ∧ blanks ≠ [] ∧
      8 ≤ token.length then
    some (6 + blanks.length + token.length)
  else none

def bearerReplacement : List Char := "Bearer [REDACTED]".toList

/-- `ReplaceAllString`; `skip` counts what is left of the match under way. -/
def replaceBearer : Nat → Bool → List Char → List Char
  | _, _, [] => []
  | skip + 1, _, rune :: runes => replaceBearer skip (!isWordRune rune) runes
  | 0, boundary, rune :: runes =>
      match bearerLength boundary (rune :: runes) with
      | some length => bearerReplacement ++ replaceBearer (length - 1) (!isWordRune rune) runes
      | none => rune :: replaceBearer 0 (!isWordRune rune) runes

def scrubBearer (value : String) : String := String.ofList (replaceBearer 0 true value.toList)

example : scrubBearer "auth: BEARER  abc.def=12, x" = "auth: Bearer [REDACTED], x" := by
  decide

example : scrubBearer "forbearer abcdefgh, bearer short" = "forbearer abcdefgh, bearer short" := by
  decide

/-! ## The redactor -/

/-- Entries of the two maps, the latest first. -/
structure Redactor where
  level : RedactLevel
  strictMap : List (String × String)
  reverseMap : List (String × String)
deriving DecidableEq, Repr

def newRedactor (level : RedactLevel) : Redactor := ⟨level, [], []⟩

def bucketForKey (key : String) : String :=
  let lower := key.toList.map lowerRune
  let has := fun (part : String) => containsRunes part.toList lower
  if has "cluster_id" then "cluster"
  else if has "node" || has "primary" || has "leader" || has "standby" then "node"
  else if has "host" || has "addr" || has "url" then "host"
  else if has "slot" then "slot"
  else "id"

section Walk

-- the first four bytes of the SHA-256 digest, in hex
variable (digest : String → String)

def placeholderFor (redactor : Redactor) (key original : String) : String × Redactor :=
  match redactor.reverseMap.lookup original with
  | some existing => (existing, redactor)
  | none =>
      let placeholder := bucketForKey key ++ "-" ++ digest original
      (placeholder, { redactor with
        reverseMap := (original, placeholder) :: redactor.reverseMap
        strictMap := (placeholder, original) :: redactor.strictMap })

def scrubString (redactor : Redactor) (key value : String) : String × Redactor :=
  if value = "" then (value, redactor)
  else if isSecretKey key then ("[REDACTED]", redactor)
  else if redactor.level = .strict ∧ isIdentityKey key = true then
    placeholderFor digest redactor key value
  else (scrubBearer value, redactor)

mutual

/-- An object's members are visited in the order of the list. -/
def walk (redactor : Redactor) (key : String) : Json → Json × Redactor
  | .obj members =>
      let (out, after) := walkMembers redactor members
      (.obj out, after)
  | .arr items =>
      let (out, after) := walkItems redactor key items
      (.arr out, after)
  | .str value =>
      let (out, after) := scrubString digest redactor key value
      (.str out, after)
  | other => (other, redactor)

def walkItems (redactor : Redactor) (key : String) : List Json → List Json × Redactor
  | [] => ([], redactor)
  | item :: items =>
      let (first, between) := walk redactor key item
      let (rest, after) := walkItems between key items
      (first :: rest, after)

def walkMembers (redactor : Redactor) : List (String × Json) → List (String × Json) × Redactor
  | [] => ([], redactor)
  | (name, value) :: members =>
      let (first, between) := walk redactor name value
      let (rest, after) := walkMembers between members
      ((name, first) :: rest, after)

end

/-- A nil redactor changes nothing. -/
def apply (redactor : Option Redactor) (value : Json) : Json × Option Redactor :=
  match redactor with
  | none => (value, none)
  | some redactor =>
      let (out, after) := walk digest redactor "" value
      (out, some after)

end Walk

def sortedCorrelation (redactor : Redactor) : List (String × String) :=
  ((redactor.strictMap.map Prod.fst).dedup.insertionSort (· ≤ ·)).map
    (fun placeholder => (placeholder, (redactor.strictMap.lookup placeholder).getD ""))

/-! ## Bearer literals -/

def hasBearer : Bool → List Char → Bool
  | _, [] => false
  | boundary, rune :: runes =>
      (bearerLength boundary (rune :: runes)).isSome || hasBearer (!isWordRune rune) runes

/-- The replacement has a bracket where a match has a blank or its token. -/
theorem bearer_length_replaced (boundary : Bool) (rest : List Char) :
    bearerLength boundary (bearerReplacement ++ rest) = none := by
  have token : (((bearerReplacement ++ rest).drop 6).dropWhile isBlank).takeWhile isTokenRune =
      [] := rfl
  simp [bearerLength, token]

theorem replace_bearer_iff (boundary : Bool) (runes : List Char) :
    replaceBearer 0 boundary runes = runes ↔ hasBearer boundary runes = false := by
  induction runes generalizing boundary with
  | nil => simp [replaceBearer, hasBearer]
  | cons rune runes ih =>
      rw [replaceBearer, hasBearer]
      cases found : bearerLength boundary (rune :: runes) with
      | none => simp [ih]
      | some length =>
          simp only [Option.isSome_some, Bool.true_or, Bool.true_eq_false, iff_false]
          intro same
          rw [← same, bearer_length_replaced] at found
          cases found

theorem scrub_bearer_iff (value : String) :
    scrubBearer value = value ↔ hasBearer true value.toList = false := by
  rw [← replace_bearer_iff, scrubBearer, ← String.toList_inj, String.toList_ofList]

/-! ## A pass as one substitution -/

/-- The strings that get a placeholder. -/
def named (level : RedactLevel) (entry : String × String) : Bool :=
  level = .strict && entry.2 ≠ "" && !isSecretKey entry.1 && isIdentityKey entry.1

/-- What becomes of the others. -/
def plainly (key text : String) : String :=
  if text = "" then text else if isSecretKey key then "[REDACTED]" else scrubBearer text

/-- The later redactor has the same level and every placeholder of the earlier one. -/
structure Extends (earlier later : Redactor) : Prop where
  level : later.level = earlier.level
  kept : ∀ text placeholder, earlier.reverseMap.lookup text = some placeholder →
    later.reverseMap.lookup text = some placeholder

theorem extends_refl (redactor : Redactor) : Extends redactor redactor :=
  ⟨rfl, fun _ _ => id⟩

theorem extends_trans {first second third : Redactor} (left : Extends first second)
    (right : Extends second third) : Extends first third :=
  ⟨right.level.trans left.level,
    fun text placeholder found => right.kept text placeholder (left.kept text placeholder found)⟩

section Settled

variable (digest : String → String)

def scrubbed (redactor : Redactor) (key text : String) : String :=
  (scrubString digest redactor key text).1

def visit (redactor : Redactor) (entry : String × String) : Redactor :=
  (scrubString digest redactor entry.1 entry.2).2

theorem scrub_string_eq (redactor : Redactor) (key text : String) :
    scrubString digest redactor key text =
      if named redactor.level (key, text) then placeholderFor digest redactor key text
      else (plainly key text, redactor) := by
  unfold scrubString named plainly
  by_cases empty : text = ""
  · simp [empty]
  · by_cases secret : isSecretKey key = true
    · simp [empty, secret]
    · simp [empty, secret]

theorem placeholder_known (redactor : Redactor) (key original placeholder : String)
    (known : redactor.reverseMap.lookup original = some placeholder) :
    placeholderFor digest redactor key original = (placeholder, redactor) := by
  rw [placeholderFor, known]

theorem placeholder_extends (redactor : Redactor) (key original : String) :
    Extends redactor (placeholderFor digest redactor key original).2 ∧
      (placeholderFor digest redactor key original).2.reverseMap.lookup original =
        some (placeholderFor digest redactor key original).1 := by
  unfold placeholderFor
  cases found : redactor.reverseMap.lookup original with
  | some existing => exact ⟨extends_refl redactor, found⟩
  | none =>
      refine ⟨⟨rfl, ?_⟩, by simp⟩
      intro text placeholder earlier
      have other : text ≠ original := by
        rintro rfl
        rw [found] at earlier
        cases earlier
      simp only [List.lookup_cons, beq_eq_false_iff_ne.2 other]
      exact earlier

theorem visit_extends (redactor : Redactor) (entry : String × String) :
    Extends redactor (visit digest redactor entry) := by
  rw [visit, scrub_string_eq]
  split
  · exact (placeholder_extends digest redactor entry.1 entry.2).1
  · exact extends_refl redactor

/-- Once a string was visited, every later redactor gives the same for it. -/
theorem scrubbed_settled (redactor later : Redactor) (key text : String)
    (extends_visit : Extends (visit digest redactor (key, text)) later) :
    (scrubString digest redactor key text).1 = scrubbed digest later key text := by
  have level := extends_visit.level.trans (visit_extends digest redactor (key, text)).level
  rw [visit, scrub_string_eq] at extends_visit
  rw [scrubbed, scrub_string_eq, scrub_string_eq, level]
  split
  · rename_i own
    rw [if_pos own] at extends_visit
    have known := extends_visit.kept _ _ (placeholder_extends digest redactor key text).2
    rw [placeholder_known digest later key text _ known]
  · rfl

mutual

theorem walk_state (redactor : Redactor) (key : String) : ∀ value : Json,
    (walk digest redactor key value).2 = (strings key value).foldl (visit digest) redactor
  | .null => rfl
  | .bool _ => rfl
  | .num _ => rfl
  | .str _ => rfl
  | .arr items => by
      rw [walk, strings]
      exact walk_items_state redactor key items
  | .obj members => by
      rw [walk, strings]
      exact walk_members_state redactor members

theorem walk_items_state (redactor : Redactor) (key : String) : ∀ items : List Json,
    (walkItems digest redactor key items).2 = (itemStrings key items).foldl (visit digest) redactor
  | [] => rfl
  | item :: items => by
      rw [walkItems, itemStrings, List.foldl_append, ← walk_state redactor key item]
      exact walk_items_state _ key items

theorem walk_members_state (redactor : Redactor) : ∀ members : List (String × Json),
    (walkMembers digest redactor members).2 = (memberStrings members).foldl (visit digest) redactor
  | [] => rfl
  | (name, value) :: members => by
      rw [walkMembers, memberStrings, List.foldl_append, ← walk_state redactor name value]
      exact walk_members_state _ members

end

theorem visits_extend (redactor : Redactor) (entries : List (String × String)) :
    Extends redactor (entries.foldl (visit digest) redactor) := by
  induction entries generalizing redactor with
  | nil => exact extends_refl redactor
  | cons entry entries ih =>
      exact extends_trans (visit_extends digest redactor entry) (ih (visit digest redactor entry))

mutual

/-- A pass substitutes every string as a redactor at the end of it would. -/
theorem walk_settled (redactor later : Redactor) (key : String) : ∀ value : Json,
    Extends (walk digest redactor key value).2 later →
    (walk digest redactor key value).1 = mapStrings (scrubbed digest later) key value
  | .null, _ => rfl
  | .bool _, _ => rfl
  | .num _, _ => rfl
  | .str text, after => by
      rw [walk, mapStrings]
      exact congrArg Json.str (scrubbed_settled digest redactor later key text after)
  | .arr items, after => by
      rw [walk, mapStrings]
      exact congrArg Json.arr (walk_items_settled redactor later key items after)
  | .obj members, after => by
      rw [walk, mapStrings]
      exact congrArg Json.obj (walk_members_settled redactor later members after)

theorem walk_items_settled (redactor later : Redactor) (key : String) : ∀ items : List Json,
    Extends (walkItems digest redactor key items).2 later →
    (walkItems digest redactor key items).1 = mapItems (scrubbed digest later) key items
  | [], _ => rfl
  | item :: items, after => by
      have rest : Extends (walk digest redactor key item).2
          (walkItems digest (walk digest redactor key item).2 key items).2 := by
        rw [walk_items_state]
        exact visits_extend digest _ _
      rw [walkItems, mapItems,
        ← walk_settled redactor later key item (extends_trans rest after),
        ← walk_items_settled _ later key items after]

theorem walk_members_settled (redactor later : Redactor) : ∀ members : List (String × Json),
    Extends (walkMembers digest redactor members).2 later →
    (walkMembers digest redactor members).1 = mapMembers (scrubbed digest later) members
  | [], _ => rfl
  | (name, value) :: members, after => by
      have rest : Extends (walk digest redactor name value).2
          (walkMembers digest (walk digest redactor name value).2 members).2 := by
        rw [walk_members_state]
        exact visits_extend digest _ _
      rw [walkMembers, mapMembers,
        ← walk_settled redactor later name value (extends_trans rest after),
        ← walk_members_settled _ later members after]

end

/-- What becomes of a string depends on the cache alone. -/
theorem scrubbed_congr (left right : Redactor) (key text : String)
    (level : left.level = right.level)
    (same : left.reverseMap.lookup text = right.reverseMap.lookup text) :
    scrubbed digest left key text = scrubbed digest right key text := by
  rw [scrubbed, scrubbed, scrub_string_eq, scrub_string_eq, level]
  split
  · unfold placeholderFor
    rw [same]
    cases right.reverseMap.lookup text <;> rfl
  · rfl

/-! ## The cache -/

/-- The visit of a string adds a placeholder for it when there is none. -/
theorem visit_lookup (redactor : Redactor) (entry : String × String) (text : String) :
    (visit digest redactor entry).reverseMap.lookup text =
      (redactor.reverseMap.lookup text).or
        (if named redactor.level entry && entry.2 = text then
          some (bucketForKey entry.1 ++ "-" ++ digest text) else none) := by
  rw [visit, scrub_string_eq]
  by_cases own : named redactor.level entry = true
  · have pair : named redactor.level (entry.1, entry.2) = true := own
    rw [if_pos pair, own, Bool.true_and]
    unfold placeholderFor
    by_cases same : entry.2 = text
    · subst same
      cases found : redactor.reverseMap.lookup entry.2 <;> simp [found]
    · cases found : redactor.reverseMap.lookup entry.2 with
      | some existing => simp [same]
      | none => simp [same, List.lookup_cons, beq_eq_false_iff_ne.2 (Ne.symm same)]
  · have pair : ¬ named redactor.level (entry.1, entry.2) = true := own
    rw [if_neg pair]
    simp [own]

/-- The cache after some visits: what it had, or the name given at the first visit. -/
theorem visits_lookup (redactor : Redactor) (entries : List (String × String)) (text : String) :
    (entries.foldl (visit digest) redactor).reverseMap.lookup text =
      (redactor.reverseMap.lookup text).or
        ((entries.find? (fun entry => named redactor.level entry && entry.2 = text)).map
          (fun entry => bucketForKey entry.1 ++ "-" ++ digest text)) := by
  induction entries generalizing redactor with
  | nil => simp
  | cons entry entries ih =>
      rw [List.foldl_cons, ih, visit_lookup, (visit_extends digest redactor entry).level,
        List.find?_cons]
      by_cases hit : (named redactor.level entry && decide (entry.2 = text)) = true <;> simp [hit]

end Settled

/-! ## Strings below a secret key -/

def BelowSecret (path : List Step) : Prop := ∃ name, Step.key name ∈ path ∧ isSecretKey name = true

/-- The placeholder of a text: the one in the cache, or a new one after the first identity key
that the text stands under. -/
def placeholderOf (digest : String → String) (redactor : Redactor) (value : Json)
    (text : String) : Option String :=
  (redactor.reverseMap.lookup text).or
    (((strings "" value).find? (fun entry => named redactor.level entry && entry.2 = text)).map
      (fun entry => bucketForKey entry.1 ++ "-" ++ digest text))

/-- The key nearest to the text is a secret key, or the text is hidden for another reason. -/
def Hidden (digest : String → String) (redactor : Redactor) (value : Json) (key text : String) :
    Prop :=
  if isSecretKey key then text ≠ "[REDACTED]"
  else if redactor.level = .strict ∧ isIdentityKey key = true then
    placeholderOf digest redactor value text ≠ some text
  else hasBearer true text.toList = true

theorem apply_at (digest : String → String) (redactor : Redactor) (value : Json)
    (path : List Step) (text : String) (found : valueAt path value = some (.str text)) :
    valueAt path (apply digest (some redactor) value).1 =
      some (.str (scrubbed digest ((strings "" value).foldl (visit digest) redactor)
        (nearest "" path) text)) := by
  have out : (apply digest (some redactor) value).1 = mapStrings
      (scrubbed digest ((strings "" value).foldl (visit digest) redactor)) "" value := by
    rw [← walk_state]
    exact walk_settled digest redactor _ "" value (extends_refl _)
  rw [out]
  exact map_strings_at _ path "" value text found

theorem placeholder_of_member (digest : String → String) (redactor : Redactor) (value : Json)
    (key text : String) (member : (key, text) ∈ strings "" value)
    (own : named redactor.level (key, text) = true) :
    (placeholderOf digest redactor value text).isSome = true := by
  have first : ((strings "" value).find?
      (fun entry => named redactor.level entry && entry.2 = text)).isSome = true := by
    rw [List.find?_isSome]
    exact ⟨(key, text), member, by simp [own]⟩
  simp [placeholderOf, first]

theorem scrubbed_ne_iff (digest : String → String) (redactor : Redactor) (value : Json)
    (key text : String) (member : (key, text) ∈ strings "" value) (filled : text ≠ "") :
    scrubbed digest ((strings "" value).foldl (visit digest) redactor) key text ≠ text ↔
      Hidden digest redactor value key text := by
  have level := (visits_extend digest redactor (strings "" value)).level
  have known := visits_lookup digest redactor (strings "" value) text
  rw [scrubbed, scrub_string_eq, level, Hidden]
  by_cases secret : isSecretKey key = true
  · have other : named redactor.level (key, text) = false := by simp [named, secret]
    rw [if_pos secret, if_neg (by simp [other]), plainly, if_neg filled, if_pos secret]
    exact ne_comm
  · rw [if_neg secret]
    by_cases identity : redactor.level = .strict ∧ isIdentityKey key = true
    · have own : named redactor.level (key, text) = true := by
        simp [named, identity, filled, secret]
      obtain ⟨placeholder, given⟩ :=
        Option.isSome_iff_exists.1 (placeholder_of_member digest redactor value key text member own)
      rw [if_pos own, if_pos identity, given,
        placeholder_known digest _ key text placeholder (known.trans given)]
      simp
    · have other : named redactor.level (key, text) = false := by
        rw [Bool.eq_false_iff]
        intro own
        apply identity
        simp only [named, Bool.and_eq_true, decide_eq_true_eq] at own
        exact ⟨own.1.1.1, own.2⟩
      rw [if_neg (by simp [other]), if_neg identity, plainly, if_neg filled, if_neg secret]
      rw [Ne, scrub_bearer_iff, Bool.not_eq_false]

/-- No string below a secret key is left at its place exactly when the key nearest to it is a
secret one, or one of the other rules happens to hide it. -/
theorem secret_strings_hidden_iff (digest : String → String) (redactor : Redactor)
    (value : Json) :
    (∀ path text, valueAt path value = some (.str text) → text ≠ "" → BelowSecret path →
        valueAt path (apply digest (some redactor) value).1 ≠ some (.str text)) ↔
      ∀ path text, valueAt path value = some (.str text) → text ≠ "" → BelowSecret path →
        Hidden digest redactor value (nearest "" path) text := by
  apply forall_congr'
  intro path
  apply forall_congr'
  intro text
  apply forall_congr'
  intro found
  apply forall_congr'
  intro filled
  apply imp_congr_right
  intro _
  have member := mem_strings_at path "" value text found
  rw [apply_at digest redactor value path text found,
    ← scrubbed_ne_iff digest redactor value _ text member filled]
  simp

/-- An object below the secret key puts another key nearest to the string. -/
theorem nested_secret_survives :
    BelowSecret [.key "password", .key "value"] ∧
      valueAt [.key "password", .key "value"]
        (.obj [("password", .obj [("value", .str "hunter2")])]) = some (.str "hunter2") ∧
      valueAt [.key "password", .key "value"]
        (apply (fun _ => "f52fbd32") (some (newRedactor .normal))
          (.obj [("password", .obj [("value", .str "hunter2")])])).1 = some (.str "hunter2") ∧
      valueAt [.key "password", .key "value"]
        (apply (fun _ => "f52fbd32") (some (newRedactor .strict))
          (.obj [("password", .obj [("value", .str "hunter2")])])).1 = some (.str "hunter2") := by
  refine ⟨⟨"password", List.mem_cons_self, by decide⟩, rfl, ?_, ?_⟩
  · rfl
  · rfl

end PgmanProxy.Pgmctl.Redact
