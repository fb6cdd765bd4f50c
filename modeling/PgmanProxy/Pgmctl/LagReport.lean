import PgmanProxy.Control.Handlers
import PgmanProxy.Library.GoScan
import PgmanProxy.Pgmctl.StatusVerdict

/-!
# `pgmctl lag`

The thresholds of the report are byte sizes, read by `parseBytes`: a unit is cut off
the end of the text and `fmt.Sscanf` reads the number in front of it, so that blanks, a
sign and anything after the digits go unnoticed, and the product is taken in `int64`.
The rows are the standbys with their severities.
-/

namespace PgmanProxy.Pgmctl.LagReport

open PgmanProxy.Control.Handlers (wrapInt64 wrap_int64_eq_iff)
open PgmanProxy.Library.GoJson (int64Bound)
open PgmanProxy.Library.GoScan
open PgmanProxy.Library.GoStrings (quote)
open PgmanProxy.Library.RankedFold
open PgmanProxy.Pgmctl.Commands (Failure exitUnhealthy exitUsage)
open PgmanProxy.Pgmctl.ReadCommands
open PgmanProxy.Pgmctl.StatusVerdict (isStandby tolerated Graded graded_worst)

set_option autoImplicit false

/-! ## Byte sizes -/

/-- The cases of the switch, in its order. -/
def suffixes : List (String × Int) :=
  [("KiB", 1024), ("MiB", 1024 * 1024), ("GiB", 1024 * 1024 * 1024),
   ("TiB", 1024 * 1024 * 1024 * 1024), ("KB", 1000), ("MB", 1000 * 1000),
   ("GB", 1000 * 1000 * 1000), ("TB", 1000 * 1000 * 1000 * 1000), ("B", 1)]

def hasSuffix (runes : List Char) (suffix : String) : Bool := suffix.toList.isSuffixOf runes

/-- `strings.TrimSuffix`, where the suffix is there -/
def trimSuffix (runes : List Char) (suffix : String) : List Char :=
  runes.take (runes.length - suffix.toList.length)

/-- The text in front of the unit, and what the unit multiplies by. -/
def splitUnit (text : String) : List Char × Int :=
  match suffixes.find? (fun entry => hasSuffix text.toList entry.1) with
  | some (suffix, factor) => (trimSuffix text.toList suffix, factor)
  | none => (text.toList, 1)

structure SizeError where
  text : String
  cause : ScanError
deriving DecidableEq, Repr

def SizeError.message (words : ScanError → String) (failure : SizeError) : String :=
  "invalid byte size " ++ quote failure.text ++ ": " ++ words failure.cause

def warnDefault : Int := 64 * 1024 * 1024
def failDefault : Int := 1024 * 1024 * 1024

def parseBytes (text : String) (default : Int) : Except SizeError Int :=
  if text = "" then .ok default
  else
    match scanInt (splitUnit text).1 with
    | .error cause => .error ⟨text, cause⟩
    | .ok number => .ok (wrapInt64 (number * (splitUnit text).2))

/-! ## What a byte size means -/

/-- Plain digits are bytes. -/
def documentedUnits : List (String × Int) :=
  [("", 1), ("B", 1), ("KB", 1000), ("MB", 1000000), ("GB", 1000000000), ("TB", 1000000000000),
   ("KiB", 1024), ("MiB", 1048576), ("GiB", 1073741824), ("TiB", 1099511627776)]

def Decimal (runes : List Char) : Prop := runes ≠ [] ∧ ∀ rune ∈ runes, rune.isDigit = true

/-- `text` consists of the digits and of a unit with that factor. -/
structure Written (text : String) (digits : List Char) (factor : Int) : Prop where
  decimal : Decimal digits
  unit : ∃ unit, (unit, factor) ∈ documentedUnits ∧ text.toList = digits ++ unit.toList

/-- The product of the number and its unit, which fits into an `int64`. -/
def Denotes (text : String) (value : Int) : Prop :=
  ∃ digits factor, Written text digits factor ∧
    value = Nat.ofDigitChars 10 digits 0 * factor ∧ value < int64Bound

def ParsedExactly (text : String) : Prop :=
  text ≠ "" → ∀ default value, parseBytes text default = .ok value ↔ Denotes text value

/-- What `%d` finds in front of the unit is nothing but digits, and the product fits. -/
def Plain (text : String) : Prop :=
  ∀ reading : Reading (splitUnit text).1, FitsInt64 reading.value →
    reading.digits = (splitUnit text).1 ∧ reading.value * (splitUnit text).2 < int64Bound

section Units

variable {text : String} {digits : List Char} {factor : Int}

theorem trim_suffix_append (runes : List Char) (suffix : String) :
    trimSuffix (runes ++ suffix.toList) suffix = runes := by
  unfold trimSuffix
  rw [List.length_append, Nat.add_sub_cancel, List.take_left]

theorem suffixes_documented (suffix : String) (member : (suffix, factor) ∈ suffixes) :
    (suffix, factor) ∈ documentedUnits := by
  simp only [suffixes, List.mem_cons, Prod.mk.injEq, List.not_mem_nil, or_false] at member
  simp only [documentedUnits, List.mem_cons, Prod.mk.injEq, List.not_mem_nil, or_false]
  rcases member with ⟨rfl, rfl⟩ | ⟨rfl, rfl⟩ | ⟨rfl, rfl⟩ | ⟨rfl, rfl⟩ | ⟨rfl, rfl⟩ |
    ⟨rfl, rfl⟩ | ⟨rfl, rfl⟩ | ⟨rfl, rfl⟩ | ⟨rfl, rfl⟩ <;> simp

/-- Cutting the unit off only ever takes a documented unit away. -/
theorem split_unit_parts (text : String) :
    ∃ unit, (unit, (splitUnit text).2) ∈ documentedUnits ∧
      text.toList = (splitUnit text).1 ++ unit.toList := by
  unfold splitUnit
  split
  · rename_i suffix factor found
    have member := List.mem_of_find?_eq_some found
    have ends := List.find?_some found
    obtain ⟨runes, parts⟩ := List.isSuffixOf_iff_suffix.1 ends
    refine ⟨suffix, suffixes_documented suffix member, ?_⟩
    dsimp only
    rw [← parts, trim_suffix_append]
  · exact ⟨"", by simp [documentedUnits], by simp⟩

theorem factor_positive (unit : String) (member : (unit, factor) ∈ documentedUnits) :
    1 ≤ factor := by
  simp only [documentedUnits, List.mem_cons, Prod.mk.injEq, List.not_mem_nil, or_false] at member
  omega

/-- No digit is one of the letters a unit has in front of its last one. -/
theorem digit_not_letter (rune : Char) (digit : rune.isDigit = true) :
    rune ≠ 'B' ∧ rune ≠ 'i' ∧ rune ≠ 'K' ∧ rune ≠ 'M' ∧ rune ≠ 'G' ∧ rune ≠ 'T' := by
  refine ⟨?_, ?_, ?_, ?_, ?_, ?_⟩ <;>
    · intro same
      rw [same] at digit
      cases digit

/-- Behind a digit the switch finds exactly the unit that is there. -/
theorem find_suffix (front : List Char) (last : Char) (digit : last.isDigit = true)
    (unit : String) (member : (unit, factor) ∈ documentedUnits) :
    suffixes.find? (fun entry => hasSuffix (front ++ [last] ++ unit.toList) entry.1) =
      if unit = "" then none else some (unit, factor) := by
  have letters := digit_not_letter last digit
  simp only [documentedUnits, List.mem_cons, Prod.mk.injEq, List.not_mem_nil, or_false] at member
  rcases member with ⟨rfl, rfl⟩ | ⟨rfl, rfl⟩ | ⟨rfl, rfl⟩ | ⟨rfl, rfl⟩ | ⟨rfl, rfl⟩ |
    ⟨rfl, rfl⟩ | ⟨rfl, rfl⟩ | ⟨rfl, rfl⟩ | ⟨rfl, rfl⟩ | ⟨rfl, rfl⟩ <;>
    simp [suffixes, hasSuffix, List.isSuffixOf, letters.1.symm, letters.2.1.symm,
      letters.2.2.1.symm, letters.2.2.2.1.symm, letters.2.2.2.2.1.symm, letters.2.2.2.2.2.symm]

/-- A size as documented is split where its digits end. -/
theorem split_unit_written (written : Written text digits factor) :
    splitUnit text = (digits, factor) := by
  obtain ⟨⟨nonempty, clean⟩, unit, member, parts⟩ := written
  -- only the last digit could be taken for a letter of a longer unit
  obtain ⟨front, last, rfl⟩ := (List.eq_nil_or_concat digits).resolve_left nonempty
  rw [List.concat_eq_append] at clean parts ⊢
  have found := find_suffix front last (clean last (by simp)) unit member
  unfold splitUnit
  rw [parts, found]
  by_cases bare : unit = ""
  · have one : factor = 1 := by
      rw [bare] at member
      simpa [documentedUnits] using member
    rw [if_pos bare, bare, one]
    simp
  · rw [if_neg bare]
    dsimp only
    rw [trim_suffix_append]

end Units

section Exactness

variable (text : String)

/-- The digits of a documented size, read as `%d` reads them. -/
def Written.reading {text : String} {digits : List Char} {factor : Int}
    (written : Written text digits factor) : Reading digits where
  blanks := []
  sign := .none
  digits := digits
  rest := []
  parts := (List.append_nil digits).symm
  blank := by simp
  nonempty := written.decimal.1
  decimal := written.decimal.2
  longest := by simp

theorem parse_bytes_ok_iff (nonempty : text ≠ "") (default value : Int) :
    parseBytes text default = .ok value ↔
      ∃ reading : Reading (splitUnit text).1, FitsInt64 reading.value ∧
        wrapInt64 (reading.value * (splitUnit text).2) = value := by
  unfold parseBytes
  rw [if_neg nonempty]
  constructor
  · intro parsed
    split at parsed
    · cases parsed
    · rename_i number scanned
      cases parsed
      obtain ⟨reading, same, fits⟩ := (scan_int_ok_iff _ _).1 scanned
      rw [← same] at fits ⊢
      exact ⟨reading, fits, rfl⟩
  · rintro ⟨reading, fits, wrapped⟩
    rw [(scan_int_ok_iff _ _).2 ⟨reading, rfl, fits⟩]
    dsimp only
    rw [wrapped]

theorem wrap_product (number factor : Int) (natural : 0 ≤ number) (positive : 1 ≤ factor)
    (fits : number * factor < int64Bound) : wrapInt64 (number * factor) = number * factor := by
  have product : 0 ≤ number * factor := Int.mul_nonneg natural (by omega)
  apply (wrap_int64_eq_iff _).2
  exact ⟨by unfold int64Bound; omega, fits⟩

/-- A documented size is always read, and as its product. -/
theorem denoted_parsed (nonempty : text ≠ "") (default value : Int)
    (denoted : Denotes text value) : parseBytes text default = .ok value := by
  obtain ⟨digits, factor, written, rfl, fits⟩ := denoted
  have same := split_unit_written written
  have positive : 1 ≤ factor := by
    obtain ⟨unit, member, -⟩ := written.unit
    exact factor_positive unit member
  have natural : (0 : Int) ≤ Nat.ofDigitChars 10 digits 0 := Int.natCast_nonneg _
  have number : (Nat.ofDigitChars 10 digits 0 : Int) ≤ Nat.ofDigitChars 10 digits 0 * factor := by
    have scaled := Int.mul_le_mul_of_nonneg_left positive natural
    rwa [Int.mul_one] at scaled
  rw [parse_bytes_ok_iff text nonempty, same]
  refine ⟨written.reading, ⟨?_, ?_⟩, wrap_product _ factor natural positive fits⟩
  · exact le_trans (by unfold int64Bound; omega) natural
  · exact lt_of_le_of_lt number fits

/-- Only digits in front of the unit are read as what they say. -/
theorem plain_denotes (plain : Plain text) (reading : Reading (splitUnit text).1)
    (fits : FitsInt64 reading.value) :
    Denotes text (wrapInt64 (reading.value * (splitUnit text).2)) := by
  obtain ⟨whole, product⟩ := plain reading fits
  obtain ⟨unit, member, parts⟩ := split_unit_parts text
  have decimal : Decimal (splitUnit text).1 := by
    rw [← whole]
    exact ⟨reading.nonempty, reading.decimal⟩
  have unsigned := (reading_of_digits _ decimal.2 reading).1
  have value : reading.value = Nat.ofDigitChars 10 (splitUnit text).1 0 := by
    rw [Reading.value, unsigned, whole]
    rfl
  rw [value] at product ⊢
  rw [wrap_product _ _ (Int.natCast_nonneg _) (factor_positive unit member) product]
  exact ⟨_, _, ⟨decimal, unit, member, parts⟩, rfl, product⟩

/-- A text is parsed as documented exactly when `%d` cannot find a number in front of its
unit except one that is all there is and whose product fits. -/
theorem parsed_exactly_iff : ParsedExactly text ↔ (text ≠ "" → Plain text) := by
  constructor
  · intro exactly nonempty reading fits
    have parsed := (parse_bytes_ok_iff text nonempty 0 _).2 ⟨reading, fits, rfl⟩
    obtain ⟨digits, factor, written, value, bound⟩ := (exactly nonempty 0 _).1 parsed
    have same := split_unit_written written
    have clean : ∀ rune ∈ (splitUnit text).1, rune.isDigit = true := by
      rw [same]
      exact written.decimal.2
    obtain ⟨unsigned, whole⟩ := reading_of_digits _ clean reading
    refine ⟨whole, ?_⟩
    have number : reading.value = Nat.ofDigitChars 10 digits 0 := by
      rw [Reading.value, unsigned, whole, same]
      rfl
    rw [number, same]
    rw [value] at bound
    exact bound
  · intro plain nonempty default value
    constructor
    · intro parsed
      obtain ⟨reading, fits, wrapped⟩ := (parse_bytes_ok_iff text nonempty default value).1 parsed
      rw [← wrapped]
      exact plain_denotes text (plain nonempty) reading fits
    · exact denoted_parsed text nonempty default value

/-- The digits after the point are dropped together with it. -/
theorem fraction_parsed_as_whole :
    parseBytes "1.5GB" failDefault = .ok 1000000000 ∧ ¬ ParsedExactly "1.5GB" := by
  have parsed : parseBytes "1.5GB" failDefault = .ok 1000000000 := by decide
  refine ⟨parsed, ?_⟩
  intro exactly
  obtain ⟨digits, factor, written, -⟩ := (exactly (by decide) failDefault 1000000000).1 parsed
  have same := split_unit_written written
  have number : digits = "1.5".toList := (congrArg Prod.fst same).symm
  have digit := written.decimal.2 '.' (by rw [number]; decide)
  cases digit

end Exactness

/-! ## The report -/

def lagSeverity (lag warn fail : Int) : Severity :=
  if lag ≥ fail then .fail
  else if lag ≥ warn then .warn
  else .pass

structure LagRow where
  nodeID : String
  role : String
  lagBytes : Int
  replayLSN : Nat
  writeLSN : Nat
  status : Severity
deriving DecidableEq, Repr

structure LagPayload where
  primaryLSN : Nat
  rows : List LagRow
deriving DecidableEq, Repr

def lagRow (warn fail : Int) (inst : PgmanagerInstance) : LagRow :=
  ⟨inst.nodeID, inst.role, inst.lagBytes, inst.replayLSN, inst.writeLSN,
    lagSeverity inst.lagBytes warn fail⟩

/-- One instance of the loop. -/
def lagStep (warn fail : Int) (payload : LagPayload) (inst : PgmanagerInstance) : LagPayload :=
  if isStandby inst.role then { payload with rows := payload.rows ++ [lagRow warn fail inst] }
  else if equalFold inst.role "primary" then { payload with primaryLSN := inst.writeLSN }
  else payload

/-- The payload without the time of the snapshot. -/
def lagPayload (warn fail : Int) (engine : PgmanagerStatus) : LagPayload :=
  let payload := engine.instances.foldl (lagStep warn fail) ⟨0, []⟩
  { payload with rows := payload.rows.insertionSort (fun left right => left.nodeID ≤ right.nodeID) }

def lagWorst (payload : LagPayload) : Severity := worst rank .pass (payload.rows.map LagRow.status)

def lagVerdict (strict : Bool) (severity : Severity) : Except Failure Unit :=
  match severity with
  | .fail => unhealthy "at least one standby exceeds the fail threshold"
  | .warn =>
      if strict then warned "at least one standby exceeds the warn threshold (--strict)"
      else .ok ()
  | _ => .ok ()

def threshold (words : ScanError → String) (flag text : String) (default : Int) :
    Except Failure Int :=
  match parseBytes text default with
  | .error failure => .error ⟨exitUsage, flag ++ ": " ++ failure.message words⟩
  | .ok bytes => .ok bytes

/-- The texts of `--warn` and `--fail`. -/
structure LagFlags where
  warn : String
  fail : String
deriving DecidableEq, Repr

def lagThresholds (words : ScanError → String) (lag : LagFlags) : Except Failure (Int × Int) := do
  let warn ← threshold words "--warn" lag.warn warnDefault
  let fail ← threshold words "--fail" lag.fail failDefault
  return (warn, fail)

def runLag (words : ScanError → String) (readers : Readers) (session : Session)
    (flags : ReadFlags) (lag : LagFlags) : Except Failure Unit := do
  let format ← openFormat flags
  let (warn, fail) ← lagThresholds words lag
  let (engine, _) ← fetchStatus readers session
  report format (lagVerdict flags.strict (lagWorst (lagPayload warn fail engine)))

/-! ## When the table exits with zero -/

def LagClean (strict : Bool) (warn fail : Int) (engine : PgmanagerStatus) : Prop :=
  ∀ inst ∈ engine.instances, isStandby inst.role = true →
    inst.lagBytes < fail ∧ (strict = true → inst.lagBytes < warn)

section Verdict

variable (strict : Bool) (warn fail : Int)

theorem lag_rows_fold (instances : List PgmanagerInstance) (payload : LagPayload) :
    (instances.foldl (lagStep warn fail) payload).rows =
      payload.rows ++
        (instances.filter (fun inst => isStandby inst.role)).map (lagRow warn fail) := by
  induction instances generalizing payload with
  | nil => simp
  | cons inst instances ih =>
      rw [List.foldl_cons, ih]
      by_cases standby : isStandby inst.role = true
      · simp [lagStep, standby]
      · rw [lagStep, if_neg standby]
        split <;> simp [standby]

theorem mem_lag_rows (engine : PgmanagerStatus) (row : LagRow) :
    row ∈ (lagPayload warn fail engine).rows ↔
      ∃ inst ∈ engine.instances, isStandby inst.role = true ∧ lagRow warn fail inst = row := by
  have sorted := List.perm_insertionSort (fun left right : LagRow => left.nodeID ≤ right.nodeID)
    (engine.instances.foldl (lagStep warn fail) ⟨0, []⟩).rows
  unfold lagPayload
  dsimp only
  rw [sorted.mem_iff, lag_rows_fold]
  simp [and_assoc]

theorem lag_severity_tolerated (lag : Int) :
    rank (lagSeverity lag warn fail) ≤ tolerated strict ↔
      lag < fail ∧ (strict = true → lag < warn) := by
  unfold lagSeverity
  by_cases failed : lag ≥ fail
  · have late : ¬ lag < fail := by omega
    cases strict <;> simp [failed, late, rank, tolerated]
  · have near : lag < fail := by omega
    by_cases late : lag ≥ warn
    · have slow : ¬ lag < warn := by omega
      cases strict <;> simp [failed, near, late, slow, rank, tolerated]
    · have prompt : lag < warn := by omega
      cases strict <;> simp [failed, near, late, prompt, rank, tolerated]

theorem lag_severity_graded (lag : Int) : Graded (lagSeverity lag warn fail) := by
  unfold lagSeverity
  split
  · exact .inr (.inr rfl)
  split
  · exact .inr (.inl rfl)
  · exact .inl rfl

theorem lag_worst_graded (engine : PgmanagerStatus) :
    Graded (lagWorst (lagPayload warn fail engine)) := by
  apply graded_worst
  rw [List.forall_mem_cons]
  refine ⟨.inl rfl, ?_⟩
  intro severity member
  obtain ⟨row, inRows, rfl⟩ := List.mem_map.1 member
  obtain ⟨inst, -, -, rfl⟩ := (mem_lag_rows warn fail engine row).1 inRows
  exact lag_severity_graded warn fail inst.lagBytes

theorem lag_verdict_ok_iff (severity : Severity) (graded : Graded severity) :
    exitCode (lagVerdict strict severity) = exitOK ↔ rank severity ≤ tolerated strict := by
  rcases graded with rfl | rfl | rfl <;> cases strict <;>
    simp [lagVerdict, rank, tolerated, exitCode, unhealthy, warned, exitOK, exitUnhealthy,
      exitWarnStrict]

/-- The table exits with zero exactly when no standby lags too far behind. -/
theorem lag_ok_iff (engine : PgmanagerStatus) :
    exitCode (lagVerdict strict (lagWorst (lagPayload warn fail engine))) = exitOK ↔
      LagClean strict warn fail engine := by
  rw [lag_verdict_ok_iff strict _ (lag_worst_graded warn fail engine), lagWorst,
    rank_worst_le_iff]
  constructor
  · intro bounded inst member standby
    apply (lag_severity_tolerated strict warn fail inst.lagBytes).1
    apply bounded
    apply List.mem_cons_of_mem
    exact List.mem_map_of_mem ((mem_lag_rows warn fail engine _).2 ⟨inst, member, standby, rfl⟩)
  · intro clean severity member
    rcases List.mem_cons.1 member with rfl | later
    · exact Nat.zero_le _
    · obtain ⟨row, inRows, rfl⟩ := List.mem_map.1 later
      obtain ⟨inst, inInstances, standby, rfl⟩ := (mem_lag_rows warn fail engine row).1 inRows
      exact (lag_severity_tolerated strict warn fail inst.lagBytes).2
        (clean inst inInstances standby)

end Verdict

end PgmanProxy.Pgmctl.LagReport
