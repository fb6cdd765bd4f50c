import PgmanProxy.Chaos.LossGauge
import PgmanProxy.Library.Interleaving

/-!
# The chaos workload's writers and verifiers

A writer takes the next sequence number, inserts its row and records the
acknowledgement. A verifier collects the acknowledged numbers, then loads the highest
number taken, then selects the rows up to it, and settles the difference. Each turn is
one atomic access, so that any number of both may interleave. The database keeps what is
committed, and a select returns at least the rows that were there when it started.
-/

namespace PgmanProxy.Chaos.Workload

open PgmanProxy.Chaos.LossGauge PgmanProxy.Library.Interleaving PgmanProxy.Library.Runs

set_option autoImplicit false

/-- What the processes share: the counter, the table's rows of this writer id, the
acknowledged numbers and the verifier's ledger. The source counts in an `int64`, whose end no
run of the workload comes near. -/
structure Shared where
  nextSeq : Seq
  rows : Finset Seq
  confirmed : Finset Seq
  ledger : Ledger
deriving DecidableEq

inductive Place where
  | waiting
  | inserting (seq : Seq) (durable : Bool)
  | accepted (seq : Seq)
  | idle
  | ranging (expected : Finset Seq)
  | loaded (expected : Finset Seq) (maxSeq : Seq)
  | querying (expected : Finset Seq) (maxSeq : Seq) (visible : Finset Seq)
  | answered (expected present : Finset Seq)
deriving DecidableEq

/-- What the scheduler and the database decide: the process goes on, the key that a range
over the acknowledged numbers comes to, the commit of the insert that is on its way, an
error, which rows beyond the required ones a select returns, and a row that shows up after
its client gave up. -/
inductive Input where
  | advance
  | visit (seq : Seq)
  | commit
  | fail
  | answer (more : Finset Seq)
  | late (seq : Seq)
deriving DecidableEq

def upTo (maxSeq : Seq) (rows : Finset Seq) : Finset Seq := rows.filter (fun seq => seq ≤ maxSeq)

/-- A turn that the process's place has no use for changes nothing. -/
def body (input : Input) (shared : Shared) (place : Place) : Shared × Place :=
  match place, input with
  | .waiting, .advance =>
      ({ shared with nextSeq := shared.nextSeq + 1 }, .inserting (shared.nextSeq + 1) false)
  | .inserting seq _, .commit =>
      ({ shared with rows := insert seq shared.rows }, .inserting seq true)
  -- `Exec` returns without an error only after the commit
  | .inserting seq true, .advance => (shared, .accepted seq)
  | .inserting _ _, .fail => (shared, .waiting)
  | .accepted seq, .advance =>
      ({ shared with confirmed := insert seq shared.confirmed }, .waiting)
  | .idle, .advance => (shared, .ranging ∅)
  | .ranging expected, .visit seq =>
      (shared, .ranging (if seq ∈ shared.confirmed then insert seq expected else expected))
  -- the range is over and the counter is read
  | .ranging expected, .advance =>
      (shared, if shared.nextSeq = 0 then .idle else .loaded expected shared.nextSeq)
  | .loaded expected maxSeq, .advance =>
      (shared, .querying expected maxSeq (upTo maxSeq shared.rows))
  | .querying _ _ _, .fail => (shared, .idle)
  | .querying expected maxSeq visible, .answer more =>
      (shared, .answered expected (visible ∪ upTo maxSeq shared.rows ∩ more))
  | .answered expected present, .advance =>
      ({ shared with ledger := settle shared.ledger shared.confirmed expected present }, .idle)
  | place, .late seq => ({ shared with rows := insert seq shared.rows }, place)
  | place, _ => (shared, place)

inductive Role where
  | writer
  | verifier
deriving DecidableEq, Repr

def Role.place : Role → Place
  | .writer => .waiting
  | .verifier => .idle

section Crowds

variable {Node : Type}

/-- Before the first turn nothing is acknowledged; the table may have rows already. -/
def start (role : Node → Role) (rows : Finset Seq) : Crowd Node Shared Place where
  shared := ⟨0, rows, ∅, Ledger.empty⟩
  place := fun node => (role node).place

def runWorkload [DecidableEq Node] (role : Node → Role) (rows : Finset Seq)
    (events : List (Node × Input)) : Crowd Node Shared Place :=
  run (turn (fun _ => body)) (start role rows) events

end Crowds

/-- Everything a turn can do, from a place to what is shared and the place after it. -/
inductive Access (shared : Shared) : Place → Shared × Place → Prop
  | take :
      Access shared .waiting
        ({ shared with nextSeq := shared.nextSeq + 1 }, .inserting (shared.nextSeq + 1) false)
  | commit (seq : Seq) (durable : Bool) :
      Access shared (.inserting seq durable)
        ({ shared with rows := insert seq shared.rows }, .inserting seq true)
  | accept (seq : Seq) : Access shared (.inserting seq true) (shared, .accepted seq)
  | refuse (seq : Seq) (durable : Bool) : Access shared (.inserting seq durable) (shared, .waiting)
  | acknowledge (seq : Seq) :
      Access shared (.accepted seq)
        ({ shared with confirmed := insert seq shared.confirmed }, .waiting)
  | sweep : Access shared .idle (shared, .ranging ∅)
  | visit (expected : Finset Seq) (seq : Seq) (stored : seq ∈ shared.confirmed) :
      Access shared (.ranging expected) (shared, .ranging (insert seq expected))
  | load (expected : Finset Seq) :
      Access shared (.ranging expected) (shared, .loaded expected shared.nextSeq)
  | query (expected : Finset Seq) (maxSeq : Seq) :
      Access shared (.loaded expected maxSeq)
        (shared, .querying expected maxSeq (upTo maxSeq shared.rows))
  | answer (expected : Finset Seq) (maxSeq : Seq) (visible more : Finset Seq) :
      Access shared (.querying expected maxSeq visible)
        (shared, .answered expected (visible ∪ more))
  | settle (expected present : Finset Seq) :
      Access shared (.answered expected present)
        ({ shared with ledger := settle shared.ledger shared.confirmed expected present }, .idle)
  | late (place : Place) (seq : Seq) :
      Access shared place ({ shared with rows := insert seq shared.rows }, place)
  | giveUp (place : Place) : Access shared place (shared, .idle)
  | stay (place : Place) : Access shared place (shared, place)

theorem body_access (input : Input) (shared : Shared) (place : Place) :
    Access shared place (body input shared place) := by
  unfold body
  split
  · exact .take
  · exact .commit _ _
  · exact .accept _
  · exact .refuse _ _
  · exact .acknowledge _
  · exact .sweep
  · split
    · rename_i stored
      exact .visit _ _ stored
    · exact .stay _
  · split
    · exact .giveUp _
    · exact .load _
  · exact .query _ _
  · exact .giveUp _
  · exact .answer _ _ _ _
  · exact .settle _ _
  · exact .late _ _
  · exact .stay _

/-! ## Only committed numbers are expected -/

/-- Acknowledged numbers are committed and counted, and nothing was ever missing. -/
structure Truthful (shared : Shared) : Prop where
  committed : shared.confirmed ⊆ shared.rows
  counted : ∀ seq ∈ shared.confirmed, seq ≤ shared.nextSeq
  found : shared.ledger.missingSet = ∅
  silent : ∀ reports ∈ shared.ledger.reports, reports.newlyMissing = ∅
  gauge : shared.ledger.dataLoss = 0

/-- What a process knows at its place, and nobody else's turn takes away. -/
def Knows (shared : Shared) : Place → Prop
  | .waiting => True
  | .inserting seq durable => seq ≤ shared.nextSeq ∧ (durable = true → seq ∈ shared.rows)
  | .accepted seq => seq ≤ shared.nextSeq ∧ seq ∈ shared.rows
  | .idle => True
  | .ranging expected => expected ⊆ shared.confirmed
  | .loaded expected maxSeq => expected ⊆ upTo maxSeq shared.rows
  | .querying expected _ visible => expected ⊆ visible
  | .answered expected present => expected ⊆ present

/-- The counter, the rows and the acknowledged numbers only grow. -/
structure Grows (before after : Shared) : Prop where
  nextSeq : before.nextSeq ≤ after.nextSeq
  rows : before.rows ⊆ after.rows
  confirmed : before.confirmed ⊆ after.confirmed

section Turns

variable {shared : Shared} {place : Place} {next : Shared × Place}

theorem access_grows (access : Access shared place next) : Grows shared next.1 := by
  have same : Grows shared shared :=
    ⟨Int.le_refl _, Finset.Subset.refl _, Finset.Subset.refl _⟩
  cases access with
  | take => exact ⟨Int.le_add_of_nonneg_right (by decide), same.rows, same.confirmed⟩
  | commit seq durable => exact ⟨same.nextSeq, Finset.subset_insert _ _, same.confirmed⟩
  | accept seq => exact same
  | refuse seq durable => exact same
  | acknowledge seq => exact ⟨same.nextSeq, same.rows, Finset.subset_insert _ _⟩
  | sweep => exact same
  | visit expected seq stored => exact same
  | load expected => exact same
  | query expected maxSeq => exact same
  | answer expected maxSeq visible more => exact same
  | settle expected present => exact ⟨same.nextSeq, same.rows, same.confirmed⟩
  | late place seq => exact ⟨same.nextSeq, Finset.subset_insert _ _, same.confirmed⟩
  | giveUp place => exact same
  | stay place => exact same

/-- Knowledge survives as long as the shared state only grows. -/
theorem knows_mono {after : Shared} (grows : Grows shared after) (knows : Knows shared place) :
    Knows after place := by
  cases place with
  | waiting => trivial
  | inserting seq durable =>
      exact ⟨knows.1.trans grows.nextSeq, fun committed => grows.rows (knows.2 committed)⟩
  | accepted seq => exact ⟨knows.1.trans grows.nextSeq, grows.rows knows.2⟩
  | idle => trivial
  | ranging expected => exact knows.trans grows.confirmed
  | loaded expected maxSeq => exact knows.trans (Finset.filter_subset_filter _ grows.rows)
  | querying expected maxSeq visible => exact knows
  | answered expected present => exact knows

/-- A sweep whose snapshot was found entirely reports nothing as missing. -/
theorem settle_silent (ledger : Ledger) (confirmed expected present : Finset Seq)
    (quiet : ledger.missingSet = ∅) (found : expected ⊆ present) :
    (settle ledger confirmed expected present).missingSet = ∅ ∧
      ∃ resolved, (settle ledger confirmed expected present).reports =
        ledger.reports ++ [⟨∅, resolved⟩] := by
  have none : expected.filter (fun seq => seq ∉ present) = ∅ := by
    rw [← Finset.sdiff_eq_filter]
    exact Finset.sdiff_eq_empty_iff_subset.2 found
  constructor
  · rw [settle_missing _ _ _ _ (by rw [quiet]; exact Finset.empty_subset _)]
    exact Finset.sdiff_eq_empty_iff_subset.2 found
  · refine ⟨ledger.missingSet.filter (fun seq => seq ∈ present), ?_⟩
    simp only [settle, updateMissingSet, finalizeVerifyDiff, none, Finset.filter_empty]

theorem access_truthful (access : Access shared place next) (truthful : Truthful shared)
    (knows : Knows shared place) : Truthful next.1 := by
  cases access with
  | take =>
      refine ⟨truthful.committed, ?_, truthful.found, truthful.silent, truthful.gauge⟩
      intro seq member
      exact (truthful.counted seq member).trans (Int.le_add_of_nonneg_right (by decide))
  | commit seq durable =>
      exact ⟨truthful.committed.trans (Finset.subset_insert _ _), truthful.counted,
        truthful.found, truthful.silent, truthful.gauge⟩
  | acknowledge seq =>
      refine ⟨?_, ?_, truthful.found, truthful.silent, truthful.gauge⟩
      · exact Finset.insert_subset knows.2 truthful.committed
      · intro other member
        rcases Finset.mem_insert.1 member with same | earlier
        · rw [same]
          exact knows.1
        · exact truthful.counted other earlier
  | settle expected present =>
      obtain ⟨missing, resolved, reports⟩ := settle_silent shared.ledger shared.confirmed
        expected present truthful.found knows
      refine ⟨truthful.committed, truthful.counted, missing, ?_, ?_⟩
      · intro report member
        rw [reports] at member
        rcases List.mem_append.1 member with earlier | last
        · exact truthful.silent report earlier
        · rw [List.mem_singleton.1 last]
      · change (settle _ _ _ _).missingSet.card = 0
        rw [missing]
        rfl
  | late place seq =>
      exact ⟨truthful.committed.trans (Finset.subset_insert _ _), truthful.counted,
        truthful.found, truthful.silent, truthful.gauge⟩
  | accept seq => exact truthful
  | refuse seq durable => exact truthful
  | sweep => exact truthful
  | visit expected seq stored => exact truthful
  | load expected => exact truthful
  | query expected maxSeq => exact truthful
  | answer expected maxSeq visible more => exact truthful
  | giveUp place => exact truthful
  | stay place => exact truthful

/-- A process knows at its next place what it needs there. The order of the verifier's accesses
matters where the counter is loaded: all that was collected before has been counted by then. -/
theorem access_knows (access : Access shared place next) (truthful : Truthful shared)
    (knows : Knows shared place) : Knows next.1 next.2 := by
  cases access with
  | take => exact ⟨Int.le_refl _, fun impossible => by cases impossible⟩
  | commit seq durable => exact ⟨knows.1, fun _ => Finset.mem_insert_self _ _⟩
  | accept seq => exact ⟨knows.1, knows.2 rfl⟩
  | refuse seq durable => trivial
  | acknowledge seq => trivial
  | sweep => exact Finset.empty_subset _
  | visit expected seq stored => exact Finset.insert_subset stored knows
  | load expected =>
      intro seq member
      have stored := knows member
      exact Finset.mem_filter.2 ⟨truthful.committed stored, truthful.counted seq stored⟩
  | query expected maxSeq => exact knows
  | answer expected maxSeq visible more => exact knows.trans Finset.subset_union_left
  | settle expected present => trivial
  | late place seq => exact knows_mono (access_grows (.late place seq)) knows
  | giveUp place => trivial
  | stay place => exact knows

end Turns

section Crowds

variable {Node : Type}

theorem start_annotated (role : Node → Role) (rows : Finset Seq) :
    Annotated Truthful Knows (start role rows) := by
  refine ⟨⟨Finset.empty_subset _, by simp [start], rfl, by simp [start, Ledger.empty], rfl⟩, ?_⟩
  intro node
  change Knows _ (role node).place
  cases role node with
  | writer => trivial
  | verifier => trivial

/-- However the writers and verifiers interleave, no sequence number is ever reported
missing, and the gauge stays at zero. -/
theorem no_false_alarm [DecidableEq Node] (role : Node → Role) (rows : Finset Seq)
    (events : List (Node × Input)) :
    (∀ reports ∈ (runWorkload role rows events).shared.ledger.reports,
        reports.newlyMissing = ∅) ∧
      (runWorkload role rows events).shared.ledger.missingSet = ∅ ∧
      (runWorkload role rows events).shared.ledger.dataLoss = 0 := by
  have kept : Annotated Truthful Knows (runWorkload role rows events) := by
    apply run_invariant (turn (fun _ => body)) (Annotated Truthful Knows)
    · intro crowd event annotated
      apply turn_annotated (fun _ => body) Truthful Knows _ _ crowd event annotated
      · intro _ input shared place truthful knows
        have access := body_access input shared place
        exact ⟨access_truthful access truthful knows, access_knows access truthful knows⟩
      · intro _ input shared place other _ _ knows
        exact knows_mono (access_grows (body_access input shared place)) knows
    · exact start_annotated role rows
  exact ⟨kept.1.silent, kept.1.found, kept.1.gauge⟩

-- A sweep that ends while a second insert is under way has expected the first one.
example :
    (runWorkload (fun writer : Bool => if writer then .writer else .verifier) ∅
      [(true, .advance), (true, .commit), (true, .advance), (true, .advance), (false, .advance),
        (false, .visit 1), (true, .advance), (false, .advance), (true, .commit),
        (false, .advance), (false, .answer ∅), (false, .advance)]).shared =
      ⟨2, {2, 1}, {1}, ⟨∅, [⟨∅, ∅⟩], 0, 1⟩⟩ :=
  rfl

end Crowds

end PgmanProxy.Chaos.Workload
