import PgmanProxy.Pgmctl.Redact

/-!
# Redaction and the order of object keys

Go visits the keys of an object in no fixed order, and a text gets its placeholder at
the first visit: the bucket is that of the key it is met under. Two texts whose
placeholders collide share one row of the correlation table, which the later one
keeps. So a dump depends on the order exactly when a text can be met first under keys
of different buckets, or when none of several colliding texts is sure to come last.
-/

namespace PgmanProxy.Pgmctl.RedactOrder

open PgmanProxy.Library.GoJson PgmanProxy.Library.JsonTree PgmanProxy.Pgmctl.Redact

set_option autoImplicit false

/-- The values of one dump, as `json.Unmarshal` makes them. -/
structure Capture where
  values : List Json
  distinct : itemKeys values = true

section Runs

variable (digest : String → String)

/-- One redactor applied to one value after the other. -/
def applyAll (redactor : Redactor) : List Json → List Json × Redactor
  | [] => ([], redactor)
  | value :: values =>
      let (out, between) := walk digest redactor "" value
      let (outs, after) := applyAll between values
      (out :: outs, after)

theorem apply_all_eq (redactor : Redactor) (values : List Json) :
    applyAll digest redactor values = walkItems digest redactor "" values := by
  induction values generalizing redactor with
  | nil => rfl
  | cons value values ih =>
      rw [applyAll, walkItems]
      simp only [ih]

/-- Whatever order the keys come in, the outputs are the same values and the correlation
table has the same rows. -/
def OrderFree (capture : Capture) : Prop :=
  ∀ moved, ItemsReorder capture.values moved →
    ItemsReorder (applyAll digest (newRedactor .strict) capture.values).1
        (applyAll digest (newRedactor .strict) moved).1 ∧
      sortedCorrelation (applyAll digest (newRedactor .strict) capture.values).2 =
        sortedCorrelation (applyAll digest (newRedactor .strict) moved).2

/-! ## The redactor after a run -/

/-- The redactor after a run that met these strings. -/
def after (entries : List (String × String)) : Redactor :=
  entries.foldl (visit digest) (newRedactor .strict)

theorem apply_all_after (values : List Json) :
    (applyAll digest (newRedactor .strict) values).2 = after digest (itemStrings "" values) := by
  rw [apply_all_eq, walk_items_state]
  rfl

theorem apply_all_out (values : List Json) :
    (applyAll digest (newRedactor .strict) values).1 =
      mapItems (scrubbed digest (after digest (itemStrings "" values))) "" values := by
  rw [apply_all_eq]
  apply walk_items_settled
  rw [walk_items_state]
  exact extends_refl _

def meets (text : String) (entry : String × String) : Bool :=
  named .strict entry && entry.2 = text

def meetsEither (one other : String) (entry : String × String) : Bool :=
  named .strict entry && (entry.2 = one || entry.2 = other)

def placeholder (key text : String) : String := bucketForKey key ++ "-" ++ digest text

theorem after_lookup (entries : List (String × String)) (text : String) :
    (after digest entries).reverseMap.lookup text =
      (entries.find? (meets text)).map (fun entry => placeholder digest entry.1 text) := by
  rw [after, visits_lookup]
  rfl

/-! ## Which text keeps a row -/

/-- `first` is met, and `second` is not met before it. -/
def Ahead (entries : List (String × String)) (first second : String) : Prop :=
  ∃ entry, entries.find? (meetsEither first second) = some entry ∧ entry.2 = first

def Known (entries : List (String × String)) (text : String) : Prop :=
  ∃ entry ∈ entries, meets text entry = true

theorem known_iff (entries : List (String × String)) (text : String) :
    Known entries text ↔ ((after digest entries).reverseMap.lookup text).isSome = true := by
  rw [after_lookup, Option.isSome_map, List.find?_isSome]
  rfl

theorem known_of_lookup (entries : List (String × String)) (text row : String)
    (found : (after digest entries).reverseMap.lookup text = some row) : Known entries text := by
  rw [known_iff digest, found]
  rfl

theorem meets_either_iff (one other : String) (entry : String × String) :
    meetsEither one other entry = true ↔ meets one entry = true ∨ meets other entry = true := by
  simp only [meetsEither, meets, Bool.and_eq_true, Bool.or_eq_true, decide_eq_true_eq]
  exact and_or_left

theorem meets_text (text : String) (entry : String × String) (hit : meets text entry = true) :
    entry.2 = text := by
  simp only [meets, Bool.and_eq_true, decide_eq_true_eq] at hit
  exact hit.2

/-- What comes behind a known text does not change who is ahead of it. -/
theorem ahead_append (entries more : List (String × String)) (first second : String)
    (known : Known entries second) :
    Ahead (entries ++ more) first second ↔ Ahead entries first second := by
  have found : (entries.find? (meetsEither first second)).isSome = true := by
    obtain ⟨entry, member, hit⟩ := known
    rw [List.find?_isSome]
    exact ⟨entry, member, (meets_either_iff first second entry).2 (Or.inr hit)⟩
  obtain ⟨entry, here⟩ := Option.isSome_iff_exists.1 found
  rw [Ahead, Ahead, List.find?_append, here, Option.some_or]

theorem ahead_extend (entries more : List (String × String)) (first second : String)
    (ahead : Ahead entries first second) : Ahead (entries ++ more) first second := by
  obtain ⟨entry, found, text⟩ := ahead
  exact ⟨entry, by rw [List.find?_append, found, Option.some_or], text⟩

theorem known_found (entries : List (String × String)) (first second : String)
    (known : Known entries first) :
    ∃ entry, entries.find? (meetsEither first second) = some entry := by
  obtain ⟨entry, member, hit⟩ := known
  rw [← Option.isSome_iff_exists, List.find?_isSome]
  exact ⟨entry, member, (meets_either_iff first second entry).2 (Or.inl hit)⟩

theorem ahead_of_unknown (entries : List (String × String)) (first second : String)
    (known : Known entries first) (unknown : ¬ Known entries second) :
    Ahead entries first second := by
  obtain ⟨entry, here⟩ := known_found entries first second known
  refine ⟨entry, here, ?_⟩
  rcases (meets_either_iff first second entry).1 (List.find?_some here) with hit | hit
  · exact meets_text first entry hit
  · exact absurd ⟨entry, List.mem_of_find?_eq_some here, hit⟩ unknown

theorem known_of_ahead (entries : List (String × String)) (first second : String)
    (different : first ≠ second) (ahead : Ahead entries first second) : Known entries first := by
  obtain ⟨entry, found, text⟩ := ahead
  refine ⟨entry, List.mem_of_find?_eq_some found, ?_⟩
  rcases (meets_either_iff first second entry).1 (List.find?_some found) with hit | hit
  · exact hit
  · exact absurd (text.symm.trans (meets_text second entry hit)) different

theorem after_level (entries : List (String × String)) : (after digest entries).level = .strict :=
  (visits_extend digest (newRedactor .strict) entries).level

theorem after_append (entries : List (String × String)) (entry : String × String) :
    after digest (entries ++ [entry]) = visit digest (after digest entries) entry := by
  rw [after, List.foldl_append]
  rfl

/-- A visit changes nothing, or adds a row for a text that was not known. -/
theorem visit_cases (redactor : Redactor) (entry : String × String) :
    visit digest redactor entry = redactor ∨
      (redactor.reverseMap.lookup entry.2 = none ∧
        visit digest redactor entry = { redactor with
          reverseMap := (entry.2, placeholder digest entry.1 entry.2) :: redactor.reverseMap
          strictMap := (placeholder digest entry.1 entry.2, entry.2) :: redactor.strictMap }) := by
  rw [visit, scrub_string_eq]
  split
  · unfold placeholderFor
    cases found : redactor.reverseMap.lookup entry.2 with
    | some existing => exact Or.inl rfl
    | none => exact Or.inr ⟨rfl, rfl⟩
  · exact Or.inl rfl

/-- A new text leaves the texts with another placeholder as they are. -/
theorem other_row_kept (redactor : Redactor) (key text row : String)
    (fresh : redactor.reverseMap.lookup text = none) (apart : row ≠ placeholder digest key text)
    (other : String) :
    List.lookup other ((text, placeholder digest key text) :: redactor.reverseMap) = some row ↔
      redactor.reverseMap.lookup other = some row := by
  rw [List.lookup_cons]
  by_cases new : other = text
  · subst new
    simp only [BEq.rfl, Option.some.injEq, Ne.symm apart, fresh, reduceCtorEq]
  · simp only [beq_eq_false_iff_ne.2 new]

/-- A row belongs to the text with that placeholder which all the others are ahead of. -/
theorem after_owner (entries : List (String × String)) (row text : String) :
    (after digest entries).strictMap.lookup row = some text ↔
      (after digest entries).reverseMap.lookup text = some row ∧
        ∀ other, other ≠ text → (after digest entries).reverseMap.lookup other = some row →
          Ahead entries other text := by
  -- The induction is on the order of the visits: the last one decides a row it writes.
  induction entries using List.reverseRecOn generalizing text with
  | nil => simp [after, newRedactor]
  | append_singleton entries entry ih =>
      rw [after_append]
      rcases visit_cases digest (after digest entries) entry with same | ⟨fresh, grown⟩
      · rw [same, ih text]
        apply and_congr_right
        intro found
        have known := known_of_lookup digest entries text row found
        simp only [ahead_append entries [entry] _ text known]
      · have unknown : ¬ Known entries entry.2 := by
          rw [known_iff digest, fresh]
          simp
        rw [grown]
        dsimp only
        by_cases here : row = placeholder digest entry.1 entry.2
        · subst here
          simp only [List.lookup_cons, BEq.rfl, Option.some.injEq]
          constructor
          · rintro rfl
            simp only [BEq.rfl, true_and]
            intro other different found
            rw [beq_eq_false_iff_ne.2 different] at found
            have known := known_of_lookup digest entries other _ found
            exact ahead_extend entries [entry] _ _
              (ahead_of_unknown entries other entry.2 known unknown)
          · rintro ⟨found, ahead⟩
            by_contra different
            have apart : (text == entry.2) = false := beq_eq_false_iff_ne.2 (Ne.symm different)
            simp only [apart] at found
            have known := known_of_lookup digest entries text _ found
            have first := ahead entry.2 different (by simp)
            rw [ahead_append entries [entry] _ text known] at first
            exact unknown (known_of_ahead entries _ _ different first)
        · -- Another row: the new text is not in its class.
          have kept := other_row_kept digest (after digest entries) entry.1 entry.2 row fresh here
          rw [List.lookup_cons]
          simp only [beq_eq_false_iff_ne.2 here, kept, ih text]
          apply and_congr_right
          intro found
          have known := known_of_lookup digest entries text row found
          simp only [ahead_append entries [entry] _ text known]

/-- The two maps hold the same pairs. -/
theorem after_swapped (entries : List (String × String)) :
    (after digest entries).strictMap = (after digest entries).reverseMap.map Prod.swap := by
  induction entries using List.reverseRecOn with
  | nil => rfl
  | append_singleton entries entry ih =>
      rw [after_append]
      rcases visit_cases digest (after digest entries) entry with same | ⟨_, grown⟩
      · rw [same]
        exact ih
      · rw [grown]
        exact congrArg (List.cons _) ih

theorem row_exists (entries : List (String × String)) (row text : String)
    (found : (after digest entries).reverseMap.lookup text = some row) :
    ∃ owner, (after digest entries).strictMap.lookup row = some owner := by
  obtain ⟨front, back, split, _⟩ := List.lookup_eq_some_iff.1 found
  have member : (row, text) ∈ (after digest entries).strictMap := by
    rw [after_swapped, split]
    simp
  rw [← Option.isSome_iff_exists, Option.isSome_iff_ne_none]
  intro none
  have absent := List.lookup_eq_none_iff.1 none (row, text) member
  simp at absent

end Runs

/-! ## The correlation table -/

theorem mem_keys_iff (pairs : List (String × String)) (row : String) :
    row ∈ pairs.map Prod.fst ↔ (pairs.lookup row).isSome = true := by
  rw [Option.isSome_iff_ne_none, Ne, List.lookup_eq_none_iff]
  simp

theorem mem_correlation_iff (redactor : Redactor) (row text : String) :
    (row, text) ∈ sortedCorrelation redactor ↔ redactor.strictMap.lookup row = some text := by
  have keys := mem_keys_iff redactor.strictMap row
  rw [sortedCorrelation, List.mem_map]
  simp only [List.mem_insertionSort, List.mem_dedup, Prod.mk.injEq]
  constructor
  · rintro ⟨other, member, rfl, value⟩
    obtain ⟨owner, found⟩ := Option.isSome_iff_exists.1 (keys.1 member)
    rw [found] at value ⊢
    rw [← value]
    rfl
  · intro found
    exact ⟨row, keys.2 (by simp [found]), rfl, by simp [found]⟩

theorem correlation_eq_iff (left right : Redactor) :
    sortedCorrelation left = sortedCorrelation right ↔
      ∀ row, left.strictMap.lookup row = right.strictMap.lookup row := by
  constructor
  · intro same row
    apply Option.ext
    intro text
    rw [← mem_correlation_iff, ← mem_correlation_iff, same]
  · intro same
    have perm : ((left.strictMap.map Prod.fst).dedup).Perm
        ((right.strictMap.map Prod.fst).dedup) := by
      rw [List.perm_ext_iff_of_nodup (List.nodup_dedup _) (List.nodup_dedup _)]
      intro row
      rw [List.mem_dedup, List.mem_dedup, mem_keys_iff, mem_keys_iff, same]
    have sorted : (left.strictMap.map Prod.fst).dedup.insertionSort (· ≤ ·) =
        (right.strictMap.map Prod.fst).dedup.insertionSort (· ≤ ·) := by
      have spread := (List.perm_insertionSort (· ≤ ·) _).trans
        (perm.trans (List.perm_insertionSort (· ≤ ·) _).symm)
      exact spread.eq_of_pairwise' (List.pairwise_insertionSort _ _)
        (List.pairwise_insertionSort _ _)
    rw [sortedCorrelation, sortedCorrelation, sorted]
    simp only [same]

/-! ## What an order can change -/

/-- The meetings with a text that some order of the keys makes the first one. -/
def firstMeetings (values : List Json) (text : String) : List (String × String) :=
  itemFirsts (meets text) "" values

section Orders

variable (digest : String → String) (values : List Json)

/-- Some order gives both texts the same placeholder. -/
def SharesRow (one other : String) : Prop :=
  ∃ first ∈ firstMeetings values one, ∃ second ∈ firstMeetings values other,
    placeholder digest first.1 one = placeholder digest second.1 other

/-- Every text has one bucket that it can be met first in, and among the texts with one
placeholder there is one that comes last in every order. -/
structure Unambiguous : Prop where
  bucket : ∀ text, ∀ one ∈ firstMeetings values text, ∀ other ∈ firstMeetings values text,
    bucketForKey one.1 = bucketForKey other.1
  last : ∀ text, firstMeetings values text ≠ [] → ∃ owner, SharesRow digest values text owner ∧
    ∀ other, SharesRow digest values text other → other ≠ owner →
      ∀ entry ∈ itemFirsts (meetsEither other owner) "" values, entry.2 ≠ owner

variable (moved : List Json) (order : ItemsReorder values moved)

include order

theorem first_met (text row : String)
    (found : (after digest (itemStrings "" moved)).reverseMap.lookup text = some row) :
    ∃ first ∈ firstMeetings values text, row = placeholder digest first.1 text := by
  rw [after_lookup, Option.map_eq_some_iff] at found
  obtain ⟨entry, first, named_row⟩ := found
  exact ⟨entry, item_first_of_reorder (meets text) "" entry order first, named_row.symm⟩

/-- With one bucket for the text, every order gives it the same placeholder. -/
theorem placeholder_fixed (text : String) (first : String × String)
    (member : first ∈ firstMeetings values text)
    (single : ∀ other ∈ firstMeetings values text, bucketForKey other.1 = bucketForKey first.1) :
    (after digest (itemStrings "" moved)).reverseMap.lookup text =
      some (placeholder digest first.1 text) := by
  have met : (itemStrings "" moved).find? (meets text) ≠ none := by
    rw [Ne, ← find_none_perm (meets text) (item_strings_perm "" order), ← item_firsts_nil_iff]
    exact List.ne_nil_of_mem member
  obtain ⟨entry, found⟩ := Option.ne_none_iff_exists'.1 met
  have possible := item_first_of_reorder (meets text) "" entry order found
  rw [after_lookup, found, Option.map_some, placeholder, placeholder, single entry possible]

section Fixed

variable (single : ∀ text, ∀ one ∈ firstMeetings values text,
  ∀ other ∈ firstMeetings values text, bucketForKey one.1 = bucketForKey other.1)

include single

theorem lookup_fixed (text : String) :
    (after digest (itemStrings "" moved)).reverseMap.lookup text =
      (after digest (itemStrings "" values)).reverseMap.lookup text := by
  have here := items_reorder_refl values
  cases met : firstMeetings values text with
  | nil =>
      have unmet := (item_firsts_nil_iff (meets text) "" values).1 met
      have unmoved := (find_none_perm (meets text) (item_strings_perm "" order)).1 unmet
      rw [after_lookup, after_lookup, unmet, unmoved]
  | cons first rest =>
      have member : first ∈ firstMeetings values text := by
        rw [met]
        exact List.mem_cons_self
      have bucket : ∀ other ∈ firstMeetings values text,
          bucketForKey other.1 = bucketForKey first.1 := by
        intro other possible
        exact single text other possible first member
      rw [placeholder_fixed digest values moved order text first member bucket,
        placeholder_fixed digest values values here text first member bucket]

theorem shares_row_iff (one other : String) :
    SharesRow digest values one other ↔
      ∃ row, (after digest (itemStrings "" moved)).reverseMap.lookup one = some row ∧
        (after digest (itemStrings "" moved)).reverseMap.lookup other = some row := by
  constructor
  · rintro ⟨first, member, second, possible, same⟩
    refine ⟨placeholder digest first.1 one, ?_, ?_⟩
    · exact placeholder_fixed digest values moved order one first member
        (fun entry there => single one entry there first member)
    · rw [same]
      exact placeholder_fixed digest values moved order other second possible
        (fun entry there => single other entry there second possible)
  · rintro ⟨row, left, right⟩
    obtain ⟨first, member, rfl⟩ := first_met digest values moved order one row left
    obtain ⟨second, possible, same⟩ := first_met digest values moved order other _ right
    exact ⟨first, member, second, possible, same⟩

end Fixed

/-- A text that comes last in every order owns the row. -/
theorem owner_fixed (unambiguous : Unambiguous digest values) (row text owner : String)
    (given : (after digest (itemStrings "" moved)).reverseMap.lookup text = some row)
    (shares : SharesRow digest values text owner)
    (last : ∀ other, SharesRow digest values text other → other ≠ owner →
      ∀ entry ∈ itemFirsts (meetsEither other owner) "" values, entry.2 ≠ owner) :
    (after digest (itemStrings "" moved)).strictMap.lookup row = some owner := by
  have sharing := fun other =>
    shares_row_iff digest values moved order unambiguous.bucket text other
  rw [after_owner]
  constructor
  · obtain ⟨same, left, right⟩ := (sharing owner).1 shares
    rw [given] at left
    cases left
    exact right
  · intro other different found
    have known := known_of_lookup digest _ other row found
    obtain ⟨entry, first⟩ := known_found (itemStrings "" moved) other owner known
    have possible := item_first_of_reorder (meetsEither other owner) "" entry order first
    have apart := last other ((sharing other).2 ⟨row, given, found⟩) different entry possible
    refine ⟨entry, first, ?_⟩
    rcases (meets_either_iff other owner entry).1 (List.find?_some first) with hit | hit
    · exact meets_text other entry hit
    · exact absurd (meets_text owner entry hit) apart

theorem table_fixed (unambiguous : Unambiguous digest values) (row text : String)
    (given : (after digest (itemStrings "" values)).reverseMap.lookup text = some row) :
    (after digest (itemStrings "" values)).strictMap.lookup row =
      (after digest (itemStrings "" moved)).strictMap.lookup row := by
  have here := items_reorder_refl values
  obtain ⟨first, member, _⟩ := first_met digest values values here text row given
  obtain ⟨owner, shares, last⟩ := unambiguous.last text (List.ne_nil_of_mem member)
  have there := given
  rw [← lookup_fixed digest values moved order unambiguous.bucket text] at there
  rw [owner_fixed digest values values here unambiguous row text owner given shares last,
    owner_fixed digest values moved order unambiguous row text owner there shares last]

end Orders

theorem order_free_of_unambiguous (digest : String → String) (capture : Capture)
    (unambiguous : Unambiguous digest capture.values) : OrderFree digest capture := by
  intro moved order
  have fixed := lookup_fixed digest capture.values moved order unambiguous.bucket
  constructor
  · have change : scrubbed digest (after digest (itemStrings "" moved)) =
        scrubbed digest (after digest (itemStrings "" capture.values)) := by
      funext key text
      apply scrubbed_congr digest _ _ key text _ (fixed text)
      rw [after_level, after_level]
    rw [apply_all_out, apply_all_out, change]
    exact map_items_reorder _ "" order
  · rw [apply_all_after, apply_all_after, correlation_eq_iff]
    intro row
    by_cases known : ∃ text,
        (after digest (itemStrings "" capture.values)).reverseMap.lookup text = some row
    · obtain ⟨text, given⟩ := known
      exact table_fixed digest capture.values moved order unambiguous row text given
    · -- Nobody has this placeholder, in either order.
      have here : (after digest (itemStrings "" capture.values)).strictMap.lookup row = none := by
        rw [Option.eq_none_iff_forall_ne_some]
        intro text found
        exact known ⟨text, ((after_owner digest _ row text).1 found).1⟩
      have there : (after digest (itemStrings "" moved)).strictMap.lookup row = none := by
        rw [Option.eq_none_iff_forall_ne_some]
        intro text found
        have given := ((after_owner digest _ row text).1 found).1
        rw [fixed] at given
        exact known ⟨text, given⟩
      rw [here, there]

theorem scrubbed_known (digest : String → String) (entries : List (String × String))
    (key text row : String) (own : named .strict (key, text) = true)
    (given : (after digest entries).reverseMap.lookup text = some row) :
    scrubbed digest (after digest entries) key text = row := by
  rw [scrubbed, scrub_string_eq, after_level, if_pos own,
    placeholder_known digest _ key text row given]

/-- Equal outputs show equal placeholders. -/
theorem outputs_lookup (digest : String → String) (capture : Capture) (moved : List Json)
    (order : ItemsReorder capture.values moved)
    (outputs : ItemsReorder (applyAll digest (newRedactor .strict) capture.values).1
      (applyAll digest (newRedactor .strict) moved).1)
    (text : String) (known : Known (itemStrings "" capture.values) text) :
    (after digest (itemStrings "" capture.values)).reverseMap.lookup text =
      (after digest (itemStrings "" moved)).reverseMap.lookup text := by
  obtain ⟨⟨key, other⟩, member, hit⟩ := known
  have same := meets_text text _ hit
  simp only at same
  subst same
  have own : named .strict (key, other) = true := by
    rw [meets, Bool.and_eq_true] at hit
    exact hit.1
  -- the position of this occurrence, in both orders and both outputs
  have keys : distinctKeys (.arr capture.values) = true := by
    rw [distinctKeys]
    exact capture.distinct
  obtain ⟨path, found, governed⟩ := strings_at "" (key, other) (.arr capture.values) keys
    (by rw [strings]; exact member)
  simp only at found governed
  have foundMoved := reorders_at path _ _ other (.arr order) keys found
  rw [apply_all_out, apply_all_out] at outputs
  have here := map_strings_at (scrubbed digest (after digest (itemStrings "" capture.values)))
    path "" _ other found
  have there := map_strings_at (scrubbed digest (after digest (itemStrings "" moved)))
    path "" _ other foundMoved
  rw [mapStrings, governed] at here there
  have outKeys : distinctKeys (.arr (mapItems
      (scrubbed digest (after digest (itemStrings "" capture.values))) "" capture.values)) =
        true := by
    rw [distinctKeys, map_items_keys]
    exact capture.distinct
  have crossed := reorders_at path _ _ _ (.arr outputs) outKeys here
  rw [there] at crossed
  have hereKnown : Known (itemStrings "" capture.values) other := ⟨(key, other), member, hit⟩
  have thereKnown : Known (itemStrings "" moved) other :=
    ⟨(key, other), (item_strings_perm "" order).mem_iff.1 member, hit⟩
  obtain ⟨row, given⟩ := Option.isSome_iff_exists.1 ((known_iff digest _ other).1 hereKnown)
  obtain ⟨second, taken⟩ := Option.isSome_iff_exists.1 ((known_iff digest _ other).1 thereKnown)
  rw [scrubbed_known digest _ key other row own given,
    scrubbed_known digest _ key other second own taken] at crossed
  cases crossed
  rw [given, taken]

theorem placeholder_bucket (digest : String → String) (one other text : String)
    (same : placeholder digest one text = placeholder digest other text) :
    bucketForKey one = bucketForKey other := by
  rw [placeholder, placeholder, ← String.toList_inj] at same
  simp only [String.toList_append] at same
  rw [← String.toList_inj]
  exact List.append_cancel_right (List.append_cancel_right same)

theorem known_of_first (values : List Json) (text : String) (first : String × String)
    (member : first ∈ firstMeetings values text) : Known (itemStrings "" values) text := by
  have met : (itemStrings "" values).find? (meets text) ≠ none := by
    rw [Ne, ← item_firsts_nil_iff]
    exact List.ne_nil_of_mem member
  obtain ⟨entry, found⟩ := Option.ne_none_iff_exists'.1 met
  exact ⟨entry, List.mem_of_find?_eq_some found, List.find?_some found⟩

/-- Where the order does not matter, the placeholder in the given order is the one of every
possible first meeting. -/
theorem first_placeholder (digest : String → String) (capture : Capture)
    (free : OrderFree digest capture) (text : String) (first : String × String)
    (member : first ∈ firstMeetings capture.values text) :
    (after digest (itemStrings "" capture.values)).reverseMap.lookup text =
      some (placeholder digest first.1 text) := by
  obtain ⟨moved, order, found⟩ := item_reorder_of_first (meets text) "" first _ member
  rw [outputs_lookup digest capture moved order (free moved order).1 text
    (known_of_first capture.values text first member), after_lookup, found, Option.map_some]

theorem unambiguous_of_order_free (digest : String → String) (capture : Capture)
    (free : OrderFree digest capture) : Unambiguous digest capture.values := by
  have given := first_placeholder digest capture free
  have bucket : ∀ text, ∀ one ∈ firstMeetings capture.values text,
      ∀ other ∈ firstMeetings capture.values text, bucketForKey one.1 = bucketForKey other.1 := by
    intro text one possible other alternative
    have left := given text one possible
    rw [given text other alternative] at left
    exact placeholder_bucket digest one.1 other.1 text (Option.some.inj left).symm
  refine ⟨bucket, ?_⟩
  intro text met
  obtain ⟨first, member⟩ := List.exists_mem_of_ne_nil _ met
  have row := given text first member
  obtain ⟨owner, owns⟩ := row_exists digest _ _ text row
  have here := items_reorder_refl capture.values
  have sharing := fun other =>
    shares_row_iff digest capture.values capture.values here bucket text other
  refine ⟨owner, (sharing owner).2 ⟨_, row, ((after_owner digest _ _ owner).1 owns).1⟩, ?_⟩
  intro other shares different entry possible same
  -- An order in which the owner comes before the other text would give the row away.
  obtain ⟨moved, order, found⟩ :=
    item_reorder_of_first (meetsEither other owner) "" entry _ possible
  have table := (free moved order).2
  rw [apply_all_after, apply_all_after, correlation_eq_iff] at table
  rw [table] at owns
  obtain ⟨shared, left, right⟩ := (sharing other).1 shares
  rw [row] at left
  cases left
  rw [← lookup_fixed digest capture.values moved order bucket other] at right
  obtain ⟨ahead, met_first, its_text⟩ :=
    ((after_owner digest _ _ owner).1 owns).2 other different right
  rw [found] at met_first
  cases met_first
  exact different (its_text.symm.trans same)

/-- The dump does not depend on the order of the keys exactly when no text can be met first
under keys of different buckets and every row of the table has a sure owner. -/
theorem redaction_order_free_iff (digest : String → String) (capture : Capture) :
    OrderFree digest capture ↔ Unambiguous digest capture.values :=
  ⟨unambiguous_of_order_free digest capture, order_free_of_unambiguous digest capture⟩

/-- The digest of `pg-1`. -/
def sampleDigest : String → String := fun _ => "885d3f5f"

def twoKeys : Capture where
  values := [.obj [("host", .str "pg-1"), ("node_id", .str "pg-1")]]
  distinct := by decide

/-- The text is both a host and a node id, and the key that is visited first names it. -/
theorem first_key_names_placeholder :
    sortedCorrelation (applyAll sampleDigest (newRedactor .strict) twoKeys.values).2 =
        [("host-885d3f5f", "pg-1")] ∧
      sortedCorrelation (applyAll sampleDigest (newRedactor .strict)
        [.obj [("node_id", .str "pg-1"), ("host", .str "pg-1")]]).2 =
        [("node-885d3f5f", "pg-1")] ∧
      ¬ OrderFree sampleDigest twoKeys := by
  have left : sortedCorrelation (applyAll sampleDigest (newRedactor .strict) twoKeys.values).2 =
      [("host-885d3f5f", "pg-1")] := by decide
  have right : sortedCorrelation (applyAll sampleDigest (newRedactor .strict)
      [.obj [("node_id", .str "pg-1"), ("host", .str "pg-1")]]).2 =
      [("node-885d3f5f", "pg-1")] := by decide
  refine ⟨left, right, ?_⟩
  intro free
  have table := (free _ (.cons (.obj (members_reorder_refl _) (.swap _ _ [])) .nil)).2
  rw [left, right] at table
  revert table
  decide

end PgmanProxy.Pgmctl.RedactOrder
