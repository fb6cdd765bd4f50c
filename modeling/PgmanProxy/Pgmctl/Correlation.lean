import PgmanProxy.Library.GoBytes
import PgmanProxy.Pgmctl.RedactOrder

/-!
# The correlation table of a strict dump

A placeholder is made of the bucket of the key its original is first met under and of
the first four bytes of the original's digest. Nothing is done when two originals come
to the same placeholder: both are replaced by it, and the table gives back the one that
was met last.
-/

namespace PgmanProxy.Pgmctl.Correlation

open PgmanProxy.Library.GoBytes PgmanProxy.Library.GoJson PgmanProxy.Library.JsonTree
open PgmanProxy.Pgmctl.Redact PgmanProxy.Pgmctl.RedactOrder

set_option autoImplicit false

/-! ## Placeholders from digests -/

-- `sha256.Sum256`: some function to 32 bytes
variable (hash : String → Vector UInt8 32)

/-- The bytes `h[:4]` of a digest. -/
def lead (text : String) : List UInt8 := (hash text).toList.take 4

/-- `hex.EncodeToString(h[:4])` -/
def short (text : String) : String := String.ofList (hexRunes (lead hash text))

theorem short_length (text : String) : (short hash text).toList.length = 8 := by
  rw [short, String.toList_ofList, hex_runes_length, lead]
  simp

/-- A placeholder shows its bucket and the four bytes, and nothing else. -/
theorem placeholder_eq_iff (one other key second : String) :
    placeholder (short hash) key one = placeholder (short hash) second other ↔
      bucketForKey key = bucketForKey second ∧ lead hash one = lead hash other := by
  constructor
  · intro same
    rw [placeholder, placeholder, ← String.toList_inj] at same
    simp only [String.toList_append] at same
    have long : (short hash one).toList.length = (short hash other).toList.length := by
      rw [short_length, short_length]
    obtain ⟨front, back⟩ := List.append_inj' same long
    have bucket := List.append_cancel_right front
    rw [String.toList_inj] at bucket back
    rw [short, short, ← String.toList_inj, String.toList_ofList, String.toList_ofList] at back
    exact ⟨bucket, hex_runes_injective _ _ back⟩
  · rintro ⟨bucket, bytes⟩
    rw [placeholder, placeholder, bucket, short, short, bytes]

/-! ## What a dump replaced -/

variable (capture : Capture)

/-- The redacted values and the redactor after them. -/
def dumped : List Json × Redactor :=
  applyAll (short hash) (newRedactor .strict) capture.values

/-- `CorrelationTable` -/
def correlationTable (redactor : Redactor) (row : String) : Option String :=
  redactor.strictMap.lookup row

/-- Somewhere in the dump `original` was an identity value, and `emitted` stands there now. -/
def Replaced (original emitted : String) : Prop :=
  ∃ path, valueAt path (.arr capture.values) = some (.str original) ∧
    named .strict (nearest "" path, original) = true ∧
    valueAt path (.arr (dumped hash capture).1) = some (.str emitted)

theorem replaced_iff (original emitted : String) :
    Replaced hash capture original emitted ↔
      (after (short hash) (itemStrings "" capture.values)).reverseMap.lookup original =
        some emitted := by
  have out : Json.arr (dumped hash capture).1 =
      mapStrings (scrubbed (short hash) (after (short hash) (itemStrings "" capture.values))) ""
        (.arr capture.values) := by
    rw [dumped, apply_all_out, mapStrings]
  constructor
  · rintro ⟨path, there, own, shown⟩
    have member := mem_strings_at path "" (.arr capture.values) original there
    have known : Known (itemStrings "" capture.values) original :=
      ⟨_, member, by simp [meets, own]⟩
    rw [known_iff (short hash), Option.isSome_iff_exists] at known
    obtain ⟨row, given⟩ := known
    rw [out, map_strings_at _ path "" _ original there,
      scrubbed_known (short hash) _ _ original row own given] at shown
    cases shown
    exact given
  · intro given
    obtain ⟨entry, member, met⟩ := known_of_lookup (short hash) _ original emitted given
    have text := meets_text original entry met
    simp only [meets, Bool.and_eq_true] at met
    obtain ⟨path, there, key⟩ :=
      strings_at "" entry (.arr capture.values) capture.distinct member
    rw [text] at there
    have own : named .strict (nearest "" path, original) = true := by
      rw [key, ← text]
      exact met.1
    refine ⟨path, there, own, ?_⟩
    rw [out, map_strings_at _ path "" _ original there,
      scrubbed_known (short hash) _ _ original emitted own given]

/-- Different originals have different placeholders, and the table leads from each
placeholder in the dump back to the original that stood there. -/
structure Invertible : Prop where
  distinct : ∀ one other row second, Replaced hash capture one row →
    Replaced hash capture other second → one ≠ other → row ≠ second
  restores : ∀ original row, Replaced hash capture original row →
    correlationTable (dumped hash capture).2 row = some original

/-- The identity key that a text is first met under. -/
def firstKey (text : String) : Option String :=
  ((itemStrings "" capture.values).find? (meets text)).map Prod.fst

/-- No two identity values with the same bucket have digests that begin with the same
four bytes. -/
def LeadsApart : Prop :=
  ∀ one other key second, one ≠ other → firstKey capture one = some key →
    firstKey capture other = some second → bucketForKey key = bucketForKey second →
    lead hash one ≠ lead hash other

theorem replaced_first (original row : String) :
    Replaced hash capture original row ↔
      ∃ key, firstKey capture original = some key ∧
        row = placeholder (short hash) key original := by
  rw [replaced_iff, after_lookup, firstKey]
  cases (itemStrings "" capture.values).find? (meets original) with
  | none => simp
  | some entry => simp [eq_comm]

/-- One placeholder for one original is enough: the table then has no row to lose. -/
theorem restores_of_distinct
    (distinct : ∀ one other row second, Replaced hash capture one row →
      Replaced hash capture other second → one ≠ other → row ≠ second)
    (original row : String) (replaced : Replaced hash capture original row) :
    correlationTable (dumped hash capture).2 row = some original := by
  rw [correlationTable, dumped, apply_all_after, after_owner]
  refine ⟨(replaced_iff hash capture original row).1 replaced, ?_⟩
  intro other different shared
  have there := (replaced_iff hash capture other row).2 shared
  exact absurd rfl (distinct original other row row replaced there (Ne.symm different))

/-- The table of a strict dump is invertible exactly when the first four bytes of the digests
tell the identity values of each bucket apart. -/
theorem correlation_invertible_iff :
    Invertible hash capture ↔ LeadsApart hash capture := by
  constructor
  · intro invertible one other key second different first met bucket same
    have left := (replaced_first hash capture one _).2 ⟨key, first, rfl⟩
    have right := (replaced_first hash capture other _).2 ⟨second, met, rfl⟩
    apply invertible.distinct one other _ _ left right different
    exact (placeholder_eq_iff hash one other key second).2 ⟨bucket, same⟩
  · intro apart
    have distinct : ∀ one other row second, Replaced hash capture one row →
        Replaced hash capture other second → one ≠ other → row ≠ second := by
      intro one other row second left right different same
      obtain ⟨key, first, rfl⟩ := (replaced_first hash capture one row).1 left
      obtain ⟨third, met, rfl⟩ := (replaced_first hash capture other second).1 right
      obtain ⟨bucket, bytes⟩ := (placeholder_eq_iff hash one other key third).1 same
      exact apart one other key third different first met bucket bytes
    exact ⟨distinct, restores_of_distinct hash capture distinct⟩

/-- Two nodes of one status slice. -/
def twoNodes : Capture where
  values := [.obj [("node_id", .str "node-31705"), ("leader_node_id", .str "node-40730")]]
  distinct := by decide

/-- The SHA-256 digests of the two node names: they differ from the fifth byte on. -/
def nodeDigests (text : String) : Vector UInt8 32 :=
  if text = "node-31705" then
    #v[0x99, 0xBF, 0xCF, 0xCB, 0x4B, 0x73, 0xCB, 0x72, 0x63, 0x3F, 0x50,
      0x46, 0xB4, 0x55, 0xB7, 0x7B, 0x68, 0xDB, 0xCA, 0xE9, 0x1B, 0xD7,
      0x65, 0xA9, 0x29, 0x24, 0x97, 0x85, 0xCA, 0xD1, 0x64, 0xB4]
  else
    #v[0x99, 0xBF, 0xCF, 0xCB, 0x42, 0x62, 0xD8, 0xFF, 0x2E, 0x38, 0x53,
      0xEA, 0xBE, 0x33, 0x3C, 0x3B, 0x32, 0x4E, 0x50, 0x9B, 0x5A, 0x9B,
      0x8C, 0x29, 0x40, 0xE9, 0x04, 0xD1, 0xFB, 0xD3, 0x22, 0xDB]

/-- Both nodes appear as `node-99bfcfcb`, and the table knows one of them. -/
theorem first_node_not_restored :
    nodeDigests "node-31705" ≠ nodeDigests "node-40730" ∧
      Replaced nodeDigests twoNodes "node-31705" "node-99bfcfcb" ∧
      Replaced nodeDigests twoNodes "node-40730" "node-99bfcfcb" ∧
      correlationTable (dumped nodeDigests twoNodes).2 "node-99bfcfcb" = some "node-40730" ∧
      ¬ Invertible nodeDigests twoNodes := by
  have first : Replaced nodeDigests twoNodes "node-31705" "node-99bfcfcb" :=
    ⟨[.index 0, .key "node_id"], rfl, by decide, rfl⟩
  have second : Replaced nodeDigests twoNodes "node-40730" "node-99bfcfcb" :=
    ⟨[.index 0, .key "leader_node_id"], rfl, by decide, rfl⟩
  refine ⟨by decide, first, second, rfl, ?_⟩
  intro invertible
  exact invertible.distinct _ _ _ _ first second (by decide) rfl

end PgmanProxy.Pgmctl.Correlation
