import PgmanProxy.Library.Runs

/-!
# A node comes back as a standby

Postgres comes up as a primary or as a standby by one file of its data directory,
`standby.signal`. Every boot of the proxy puts the file beside an existing database before
its manager may start Postgres. The calls of the boot interleave with a Postgres that has
outlived the last proxy, and a proxy may be gone at any moment. That nobody but the manager
of a booted proxy starts Postgres is assumed.
-/

namespace PgmanProxy.Runtime.StandbySignal

open PgmanProxy.Library.Runs

set_option autoImplicit false

/-- The files of the data directory that are looked at. -/
structure DataDir where
  pgVersion : Bool
  standbySignal : Bool
deriving DecidableEq, Repr

/-! ## The boot's calls -/

/-- Where `ensureStandbySignalIfInitialized` stands: the call it makes next. -/
inductive Call where
  | statVersion
  | statSignal
  | create
  | returned (result : Except String Unit)

def ensureStandbySignalIfInitialized (dataDir : String) : Call :=
  if dataDir = "" then .returned (.ok ()) else .statVersion

/-- The next call. It fails with `fault`, or answers for the directory as it is. -/
def Call.next (dir : DataDir) (fault : Option String) : Call → Call × DataDir
  | .statVersion =>
      match fault with
      | some err => (.returned (.error ("stat PG_VERSION: " ++ err)), dir)
      | none => (if dir.pgVersion then .statSignal else .returned (.ok ()), dir)
  | .statSignal =>
      match fault with
      | some err => (.returned (.error ("stat standby.signal: " ++ err)), dir)
      | none => (if dir.standbySignal then .returned (.ok ()) else .create, dir)
  | .create =>
      match fault with
      | some err => (.returned (.error ("create standby.signal: " ++ err)), dir)
      -- with `O_EXCL`, a file that has come up meanwhile is as good
      | none => (.returned (.ok ()), { dir with standbySignal := true })
  | .returned result => (.returned result, dir)

/-! ## A node over its boots -/

inductive Role where
  | primary
  | standby
deriving DecidableEq, Repr

inductive Proxy where
  | down
  | booting (call : Call)
  /-- past the gate: there is a manager -/
  | up

/-- A boot goes on after the gate, or exits. -/
def Proxy.after : Call → Proxy
  | .returned (.ok ()) => .up
  | .returned (.error _) => .down
  | call => .booting call

/-- How a database comes to be without the signal. -/
inductive Change where
  | initialised
  | promoted
deriving DecidableEq, Repr

structure Node where
  dir : DataDir
  proxy : Proxy
  postgres : Option Role
  /-- the changes of the present database since the last boot began -/
  journal : List Change

inductive Event where
  | boot
  | call (fault : Option String)
  /-- the proxy is gone, for whatever reason; its Postgres may go on -/
  | exit
  | postgresGone
  | start
  | promote
  | initdb
  | clone
  /-- the proxy is gone amid a clone -/
  | cloneCut
  /-- the signal is written for a demoted node -/
  | demote
  | wipe
deriving DecidableEq, Repr

def startRole (dir : DataDir) : Role := if dir.standbySignal then .standby else .primary

/-- What the manager of a booted proxy does to a stopped Postgres. -/
def Node.managed (node : Node) (change : Node → Node) : Node :=
  match node.proxy, node.postgres with
  | .up, none => change node
  | _, _ => node

def step (dataDir : String) (node : Node) : Event → Node
  | .boot =>
      match node.proxy with
      | .down =>
          { node with
            proxy := .after (ensureStandbySignalIfInitialized dataDir)
            journal := [] }
      | _ => node
  | .call fault =>
      match node.proxy with
      | .booting call =>
          { node with
            dir := (call.next node.dir fault).2
            proxy := .after (call.next node.dir fault).1 }
      | _ => node
  | .exit => { node with proxy := .down }
  | .postgresGone => { node with postgres := none }
  | .start =>
      node.managed (fun node =>
        if node.dir.pgVersion then { node with postgres := some (startRole node.dir) } else node)
  | .promote =>
      match node.postgres with
      | some .standby =>
          { node with
            dir := { node.dir with standbySignal := false }
            postgres := some .primary
            journal := .promoted :: node.journal }
      | _ => node
  | .initdb =>
      node.managed (fun node =>
        if node.dir.pgVersion then node
        else
          { node with
            dir := { node.dir with pgVersion := true }
            journal := .initialised :: node.journal })
  -- another database takes the place of this one
  | .clone => node.managed (fun node => { node with dir := ⟨true, true⟩, journal := [] })
  | .cloneCut =>
      node.managed (fun node =>
        { node with dir := ⟨true, false⟩, proxy := .down, journal := [] })
  | .demote =>
      node.managed (fun node => { node with dir := { node.dir with standbySignal := true } })
  | .wipe => node.managed (fun node => { node with dir := ⟨false, false⟩, journal := [] })

/-! ## The gate's promise -/

/-- Without the signal the database is there because of something this proxy has seen. -/
def Armed (dir : DataDir) (journal : List Change) : Prop :=
  dir.pgVersion = true → dir.standbySignal = true ∨ journal ≠ []

/-- What a boot has seen so far; an `up` proxy has been through the gate. -/
def Booted (dir : DataDir) (journal : List Change) : Proxy → Prop
  | .down => True
  | .booting .statVersion => True
  | .booting .statSignal => dir.pgVersion = true
  | .booting .create => dir.pgVersion = true
  | .booting (.returned _) => False
  | .up => Armed dir journal

def Node.Sound (node : Node) : Prop := Booted node.dir node.journal node.proxy

theorem next_booted (dir : DataDir) (journal : List Change) (call : Call) (fault : Option String)
    (booted : Booted dir journal (.booting call)) :
    Booted (call.next dir fault).2 journal (.after (call.next dir fault).1) := by
  cases call with
  | statVersion =>
      cases fault with
      | some err => trivial
      | none =>
          cases present : dir.pgVersion with
          | true =>
              simp only [Call.next, present, if_true]
              exact present
          | false =>
              simp only [Call.next, present, Bool.false_eq_true, if_false]
              intro there
              rw [present] at there
              cases there
  | statSignal =>
      cases fault with
      | some err => trivial
      | none =>
          cases signal : dir.standbySignal with
          | true =>
              simp only [Call.next, signal, if_true]
              exact fun _ => .inl signal
          | false =>
              simp only [Call.next, signal, Bool.false_eq_true, if_false]
              exact booted
  | create =>
      cases fault with
      | some err => trivial
      | none => exact fun _ => .inl rfl
  | returned result => cases booted

/-- The manager acts only past the gate, so only there a change has to keep the promise. -/
theorem managed_sound (node : Node) (change : Node → Node) (sound : node.Sound)
    (kept : node.proxy = .up → Armed node.dir node.journal → (change node).Sound) :
    (node.managed change).Sound := by
  unfold Node.managed
  split
  · rename_i up stopped
    apply kept up
    rw [Node.Sound, up] at sound
    exact sound
  · exact sound

theorem step_sound (dataDir : String) (configured : dataDir ≠ "") (node : Node) (event : Event)
    (sound : node.Sound) : (step dataDir node event).Sound := by
  cases event with
  | boot =>
      simp only [step]
      split
      · rw [ensureStandbySignalIfInitialized, if_neg configured]
        trivial
      · exact sound
  | call fault =>
      simp only [step]
      split
      · rename_i call booting
        rw [Node.Sound, booting] at sound
        exact next_booted node.dir node.journal call fault sound
      · exact sound
  | exit => trivial
  | postgresGone => exact sound
  | start =>
      apply managed_sound node _ sound
      intro up armed
      split <;> exact sound
  | promote =>
      simp only [step]
      split
      · -- a boot that has found the database goes on with it, a manager has seen the promotion
        rw [Node.Sound] at sound ⊢
        cases proxy : node.proxy with
        | down => trivial
        | up => exact fun _ => .inr (List.cons_ne_nil _ _)
        | booting call =>
            rw [proxy] at sound
            cases call with
            | statVersion => trivial
            | statSignal => exact sound
            | create => exact sound
            | returned result => cases sound
      · exact sound
  | initdb =>
      apply managed_sound node _ sound
      intro up armed
      split
      · exact sound
      · rw [Node.Sound, up]
        exact fun _ => .inr (List.cons_ne_nil _ _)
  | clone =>
      apply managed_sound node _ sound
      intro up armed
      rw [Node.Sound, up]
      exact fun _ => .inl rfl
  | cloneCut =>
      apply managed_sound node _ sound
      intro up armed
      trivial
  | demote =>
      apply managed_sound node _ sound
      intro up armed
      rw [Node.Sound, up]
      exact fun _ => .inl rfl
  | wipe =>
      apply managed_sound node _ sound
      intro up armed
      rw [Node.Sound, up]
      intro there
      cases there

/-- A start that comes up as a primary is one of a booted proxy on a database without the
signal. -/
theorem start_primary (dataDir : String) (node : Node) (stopped : node.postgres = none)
    (primary : (step dataDir node .start).postgres = some .primary) :
    node.proxy = .up ∧ node.dir.pgVersion = true ∧ node.dir.standbySignal = false := by
  simp only [step, Node.managed] at primary
  split at primary
  · rename_i up _
    split at primary
    · rename_i present
      rw [Option.some.injEq, startRole] at primary
      split at primary
      · cases primary
      · rename_i unsigned
        exact ⟨up, present, by simpa using unsigned⟩
    · rw [stopped] at primary
      cases primary
  · rw [stopped] at primary
    cases primary

/-- The gate writes only where it has found a database. -/
theorem call_writes (node : Node) (dataDir : String) (fault : Option String) (sound : node.Sound)
    (written : (step dataDir node (.call fault)).dir ≠ node.dir) : node.dir.pgVersion = true := by
  simp only [step] at written
  split at written
  · rename_i call booting
    rw [Node.Sound, booting] at sound
    cases call with
    | statVersion => cases fault <;> exact absurd rfl written
    | statSignal => exact sound
    | create => exact sound
    | returned result => cases sound
  · exact absurd rfl written

/-- Whatever a node has been through, a Postgres that comes up as a primary does so on a database
that this proxy has itself seen initialised or promoted since it began to boot, and not cloned or
wiped since: no node comes back as a primary on the strength of its old data. And no boot writes
into a directory without a database, so that a new cluster still gets its first primary. -/
theorem primary_start_earned (dataDir : String) (configured : dataDir ≠ "") (node : Node)
    (down : node.proxy = .down) (events : List Event) :
    let now := run (step dataDir) node events
    (now.postgres = none → (step dataDir now .start).postgres = some .primary →
        .initialised ∈ now.journal ∨ .promoted ∈ now.journal) ∧
      ∀ fault, (step dataDir now (.call fault)).dir ≠ now.dir → now.dir.pgVersion = true := by
  intro now
  have sound : now.Sound := by
    apply run_invariant (step dataDir) Node.Sound (step_sound dataDir configured) node _ events
    rw [Node.Sound, down]
    trivial
  constructor
  · intro stopped primary
    rcases start_primary dataDir now stopped primary with ⟨up, present, unsigned⟩
    rw [Node.Sound, up] at sound
    rcases sound present with signed | changed
    · rw [unsigned] at signed
      cases signed
    · rcases List.exists_mem_of_ne_nil _ changed with ⟨change, member⟩
      cases change with
      | initialised => exact .inl member
      | promoted => exact .inr member
  · intro fault written
    exact call_writes now dataDir fault sound written

/-- A primary whose host went down. -/
def formerPrimary : Node := ⟨⟨true, false⟩, .down, none, []⟩

/-- It boots, comes up as a standby, is promoted, and its Postgres is restarted. -/
def promotedAgain : List Event :=
  [.boot, .call none, .call none, .call none, .start, .promote, .postgresGone]

theorem promoted_again_earned :
    (run (step "/pgdata") formerPrimary (promotedAgain.take 5)).postgres = some .standby ∧
      (step "/pgdata" (run (step "/pgdata") formerPrimary promotedAgain) .start).postgres =
        some .primary ∧
      .promoted ∈ (run (step "/pgdata") formerPrimary promotedAgain).journal := by
  have earned := (primary_start_earned "/pgdata" (by decide) formerPrimary rfl promotedAgain).1
    (by decide) (by decide)
  refine ⟨by decide, by decide, ?_⟩
  rcases earned with initialised | promoted
  · exact absurd initialised (by decide)
  · exact promoted

end PgmanProxy.Runtime.StandbySignal
