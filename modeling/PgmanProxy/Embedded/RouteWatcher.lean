import Mathlib.Data.List.Nodup
import Mathlib.Data.List.Perm.Basic
import PgmanProxy.Library.Alternation
import PgmanProxy.Library.Runs

/-!
# The route watcher

The watcher polls the routes of the embedded server, remembers one per peer name
and reports peers that came or went. A peer is looked up in the map of the last
poll while the map of the current one is being filled, so a new peer is reported
once for each of its entries. The order in which Go walks a map is left open.
-/

namespace PgmanProxy.Embedded.RouteWatcher

open PgmanProxy.Library.Alternation PgmanProxy.Library.Runs

set_option autoImplicit false

structure RouteInfo where
  remoteName : String
  ip : String
  port : Int
  didSolicit : Bool
deriving DecidableEq, Repr

/-- A map from peer names to routes; each route stands under its own name. -/
structure RouteMap where
  routes : List RouteInfo
  distinct : (routes.map (fun route => route.remoteName)).Nodup

def RouteMap.empty : RouteMap := ⟨[], List.nodup_nil⟩

def RouteMap.names (map : RouteMap) : List String :=
  map.routes.map (fun route => route.remoteName)

def RouteMap.has (map : RouteMap) (peer : String) : Bool := decide (peer ∈ map.names)

/-- Assignment to the key of the route. -/
def RouteMap.put (map : RouteMap) (route : RouteInfo) : RouteMap where
  routes := route :: map.routes.filter (fun other => other.remoteName ≠ route.remoteName)
  distinct := by
    rw [List.map_cons, List.nodup_cons]
    constructor
    · intro present
      obtain ⟨other, member, same⟩ := List.mem_map.1 present
      exact absurd same (by simpa using (List.mem_filter.1 member).2)
    · exact map.distinct.sublist (List.filter_sublist.map _)

/-- The order in which a range statement visits a map. -/
structure RangeOrder where
  arrange : List RouteInfo → List RouteInfo
  visits : ∀ routes, (arrange routes).Perm routes

inductive RouteEvent where
  | routeUp (nodeID clusterID peerRouteURL peerNodeID direction passwordPrefix : String)
  | routeDown (nodeID clusterID peerRouteURL peerNodeID reason : String)
deriving DecidableEq, Repr

def RouteEvent.peer : RouteEvent → String
  | .routeUp _ _ _ peer _ _ => peer
  | .routeDown _ _ _ peer _ => peer

def RouteEvent.isUp : RouteEvent → Bool
  | .routeUp .. => true
  | .routeDown .. => false

/-- Ports have at most five digits, so the eleven bytes of the buffer always suffice. -/
def portString (port : Int) : String :=
  if port = 0 then "0" else if 0 < port then toString port.toNat else ""

def routeURL (route : RouteInfo) : String :=
  "nats-route://" ++ route.ip ++ ":" ++ portString route.port

structure Watcher where
  nodeID : String
  clusterID : String
  known : RouteMap
  stopped : Bool

def upEvent (watcher : Watcher) (route : RouteInfo) : RouteEvent :=
  .routeUp watcher.nodeID watcher.clusterID (routeURL route) route.remoteName
    (if route.didSolicit then "outbound" else "inbound") ""

def downEvent (watcher : Watcher) (route : RouteInfo) : RouteEvent :=
  .routeDown watcher.nodeID watcher.clusterID (routeURL route) route.remoteName "peer_disconnect"

/-- The loop over the snapshot: the map it fills and the events it emits. -/
def scanRoutes (watcher : Watcher) :
    List (Option RouteInfo) → RouteMap → List RouteEvent → RouteMap × List RouteEvent
  | [], current, events => (current, events)
  | none :: routes, current, events => scanRoutes watcher routes current events
  | some route :: routes, current, events =>
      if route.remoteName = "" then scanRoutes watcher routes current events
      else
        scanRoutes watcher routes (current.put route)
          (if watcher.known.has route.remoteName then events
            else events ++ [upEvent watcher route])

/-- The loop over the map of the last poll. -/
def goneEvents (watcher : Watcher) (order : RangeOrder) (current : RouteMap) : List RouteEvent :=
  ((order.arrange watcher.known.routes).filter
    (fun route => !current.has route.remoteName)).map (downEvent watcher)

/-- `tick`; no snapshot when `Routez` fails. -/
def tick (watcher : Watcher) (snapshot : Option (List (Option RouteInfo))) (order : RangeOrder) :
    Watcher × List RouteEvent :=
  if watcher.stopped then (watcher, [])
  else
    match snapshot with
    | none => (watcher, [])
    | some routes =>
        let scanned := scanRoutes watcher routes .empty []
        ({ watcher with known := scanned.1 },
          scanned.2 ++ goneEvents watcher order scanned.1)

/-! ## Runs -/

inductive Poll where
  | tick (snapshot : Option (List (Option RouteInfo))) (order : RangeOrder)
  | stop

/-- The watcher and everything it has emitted. -/
structure Watched where
  watcher : Watcher
  log : List RouteEvent

def step (state : Watched) : Poll → Watched
  | .tick snapshot order =>
      let ticked := tick state.watcher snapshot order
      ⟨ticked.1, state.log ++ ticked.2⟩
  | .stop => { state with watcher := { state.watcher with stopped := true } }

def fresh (nodeID clusterID : String) : Watched := ⟨⟨nodeID, clusterID, .empty, false⟩, []⟩

/-- The events of one peer, up or down. -/
def history (peer : String) (log : List RouteEvent) : List Bool :=
  (log.filter (fun event => event.peer = peer)).map RouteEvent.isUp

/-- The routes of a snapshot that belong to the peer. -/
def routesOf (peer : String) (snapshot : List (Option RouteInfo)) : List RouteInfo :=
  (snapshot.filterMap id).filter
    (fun route => route.remoteName ≠ "" && route.remoteName = peer)

/-! ## One poll -/

theorem history_append (peer : String) (left right : List RouteEvent) :
    history peer (left ++ right) = history peer left ++ history peer right := by
  simp [history]

@[simp] theorem has_iff (map : RouteMap) (peer : String) :
    map.has peer = true ↔ peer ∈ map.names := by
  simp [RouteMap.has]

theorem put_names (map : RouteMap) (route : RouteInfo) (peer : String) :
    peer ∈ (map.put route).names ↔ peer = route.remoteName ∨ peer ∈ map.names := by
  by_cases same : peer = route.remoteName
  · simp [RouteMap.names, RouteMap.put, same]
  · simp only [RouteMap.names, RouteMap.put, List.map_cons, List.mem_cons, same, false_or,
      List.mem_map, List.mem_filter]
    constructor
    · rintro ⟨other, ⟨member, -⟩, named⟩
      exact ⟨other, member, named⟩
    · rintro ⟨other, member, rfl⟩
      exact ⟨other, ⟨member, decide_eq_true same⟩, rfl⟩

theorem routes_of_other (peer : String) (route : RouteInfo) (routes : List (Option RouteInfo))
    (other : route.remoteName = "" ∨ route.remoteName ≠ peer) :
    routesOf peer (some route :: routes) = routesOf peer routes := by
  rcases other with nameless | differs
  · simp [routesOf, nameless]
  · simp [routesOf, differs]

theorem routes_of_same (route : RouteInfo) (routes : List (Option RouteInfo))
    (named : route.remoteName ≠ "") :
    routesOf route.remoteName (some route :: routes) =
      route :: routesOf route.remoteName routes := by
  simp [routesOf, named]

/-- After the loop the map has the peers it had and those the snapshot names. -/
theorem scan_names (watcher : Watcher) (routes : List (Option RouteInfo)) (current : RouteMap)
    (events : List RouteEvent) (peer : String) :
    peer ∈ (scanRoutes watcher routes current events).1.names ↔
      peer ∈ current.names ∨ routesOf peer routes ≠ [] := by
  induction routes generalizing current events with
  | nil => simp [scanRoutes, routesOf]
  | cons entry routes ih =>
      cases entry with
      | none => exact ih current events
      | some route =>
          rw [scanRoutes]
          by_cases nameless : route.remoteName = ""
          · rw [if_pos nameless, ih, routes_of_other peer route routes (Or.inl nameless)]
          · rw [if_neg nameless, ih, put_names]
            by_cases same : route.remoteName = peer
            · subst same
              simp [routes_of_same route routes nameless]
            · rw [routes_of_other peer route routes (Or.inr same)]
              simp [Ne.symm same]

/-- The loop reports a peer of the last poll not at all, and any other once per entry. -/
theorem scan_history (watcher : Watcher) (routes : List (Option RouteInfo)) (current : RouteMap)
    (events : List RouteEvent) (peer : String) :
    history peer (scanRoutes watcher routes current events).2 =
      history peer events ++ List.replicate
        (if watcher.known.has peer then 0 else (routesOf peer routes).length) true := by
  induction routes generalizing current events with
  | nil => simp [scanRoutes, routesOf]
  | cons entry routes ih =>
      cases entry with
      | none => exact ih current events
      | some route =>
          rw [scanRoutes]
          by_cases nameless : route.remoteName = ""
          · rw [if_pos nameless, ih, routes_of_other peer route routes (Or.inl nameless)]
          · rw [if_neg nameless, ih]
            by_cases same : route.remoteName = peer
            · subst same
              rw [routes_of_same route routes nameless]
              cases watcher.known.has route.remoteName with
              | true => rfl
              | false =>
                  have reported : history route.remoteName (events ++ [upEvent watcher route]) =
                      history route.remoteName events ++ [true] := by
                    simp [history, upEvent, RouteEvent.peer, RouteEvent.isUp]
                  simp [reported, List.replicate_succ]
            · have silent : history peer (events ++ [upEvent watcher route]) =
                  history peer events := by
                simp [history, upEvent, RouteEvent.peer, same]
              rw [routes_of_other peer route routes (Or.inr same)]
              cases watcher.known.has route.remoteName <;> simp [silent]

/-- The second loop reports exactly the peers that are gone, once each. -/
theorem gone_history (watcher : Watcher) (order : RangeOrder) (current : RouteMap)
    (peer : String) :
    history peer (goneEvents watcher order current) =
      if watcher.known.has peer && !current.has peer then [false] else [] := by
  have downs : history peer (goneEvents watcher order current) = List.replicate
      ((order.arrange watcher.known.routes).countP
        (fun route => route.remoteName = peer && !current.has route.remoteName)) false := by
    apply List.eq_replicate_iff.2
    constructor
    · simp only [history, goneEvents, List.filter_map, List.filter_filter, List.length_map,
        List.countP_eq_length_filter]
      rfl
    · intro flag member
      simp only [history, goneEvents, List.mem_map, List.mem_filter] at member
      obtain ⟨event, ⟨⟨route, -, rfl⟩, -⟩, rfl⟩ := member
      rfl
  have counted : (order.arrange watcher.known.routes).countP
      (fun route => route.remoteName = peer && !current.has route.remoteName) =
        if current.has peer then 0 else watcher.known.names.count peer := by
    rw [(order.visits _).countP_eq]
    cases present : current.has peer with
    | true =>
        apply List.countP_eq_zero.2
        intro route _
        by_cases same : route.remoteName = peer <;> simp [same, present]
    | false =>
        have listed : watcher.known.names.count peer =
            watcher.known.routes.countP (fun route => route.remoteName == peer) :=
          List.countP_map
        rw [if_neg Bool.false_ne_true, listed]
        apply List.countP_congr
        intro route _
        by_cases same : route.remoteName = peer <;> simp [same, present]
  have once : watcher.known.names.count peer = if peer ∈ watcher.known.names then 1 else 0 :=
    watcher.known.distinct.count
  rw [downs, counted, once]
  cases current.has peer with
  | true => simp
  | false => by_cases seen : peer ∈ watcher.known.names <;> simp [RouteMap.has, seen]

/-- A poll with a snapshot: the new map has the peers of the snapshot, and each peer's
events grow by those of the two loops. -/
theorem tick_outcome (state : Watched) (snapshot : List (Option RouteInfo)) (order : RangeOrder)
    (peer : String) (running : state.watcher.stopped = false) :
    (peer ∈ (step state (.tick (some snapshot) order)).watcher.known.names ↔
        routesOf peer snapshot ≠ []) ∧
      history peer (step state (.tick (some snapshot) order)).log =
        history peer state.log ++
          if state.watcher.known.has peer then
            if routesOf peer snapshot = [] then [false] else []
          else List.replicate (routesOf peer snapshot).length true := by
  have names := scan_names state.watcher snapshot .empty [] peer
  have nothing : peer ∉ RouteMap.empty.names := List.not_mem_nil
  have reached : step state (.tick (some snapshot) order) =
      ⟨{ state.watcher with known := (scanRoutes state.watcher snapshot .empty []).1 },
        state.log ++ ((scanRoutes state.watcher snapshot .empty []).2 ++
          goneEvents state.watcher order (scanRoutes state.watcher snapshot .empty []).1)⟩ := by
    simp [step, tick, running]
  rw [or_iff_right nothing] at names
  rw [reached]
  refine ⟨names, ?_⟩
  rw [history_append, history_append, scan_history, gone_history]
  have listed : (scanRoutes state.watcher snapshot .empty []).1.has peer =
      !(decide (routesOf peer snapshot = [])) := by
    rw [Bool.eq_iff_iff, has_iff, names]
    simp
  rw [listed]
  cases state.watcher.known.has peer with
  | true => by_cases absent : routesOf peer snapshot = [] <;> simp [history, absent]
  | false => simp [history]

/-! ## Whole runs -/

/-- The log alternates for every peer and ends, for the peers of the last snapshot and
for no others, with their coming up. -/
def Tracks (state : Watched) : Prop :=
  ∀ peer, AlternatesFrom true (history peer state.log) ∧
    ((history peer state.log).getLast? = some true ↔ peer ∈ state.watcher.known.names)

/-- After the poll every peer's events alternate from `route_up`, and after a snapshot they
end with one exactly for the peers that the snapshot names. -/
def EventsTell (state : Watched) (poll : Poll) : Prop :=
  ∀ peer, AlternatesFrom true (history peer (step state poll).log) ∧
    ∀ snapshot order, poll = .tick (some snapshot) order → state.watcher.stopped = false →
      ((history peer (step state poll).log).getLast? = some true ↔ routesOf peer snapshot ≠ [])

/-- No peer that was missing from the last snapshot has several entries in this one. -/
def NewPeersOnce (state : Watched) : Poll → Prop
  | .tick (some snapshot) _ => state.watcher.stopped = false →
      ∀ peer, peer ∉ state.watcher.known.names → (routesOf peer snapshot).length ≤ 1
  | _ => True

theorem due_after_up (flags : List Bool) :
    dueAfter true flags = !decide (flags.getLast? = some true) := by
  unfold dueAfter
  cases flags.getLast? with
  | none => rfl
  | some last => cases last <;> rfl

/-- What a snapshot does to one peer of a tracked log. -/
theorem peer_after_snapshot (state : Watched) (snapshot : List (Option RouteInfo))
    (order : RangeOrder) (peer : String) (running : state.watcher.stopped = false)
    (tracks : Tracks state) :
    (AlternatesFrom true (history peer (step state (.tick (some snapshot) order)).log) ↔
        (peer ∉ state.watcher.known.names → (routesOf peer snapshot).length ≤ 1)) ∧
      ((history peer (step state (.tick (some snapshot) order)).log).getLast? = some true ↔
        routesOf peer snapshot ≠ []) := by
  obtain ⟨alternates, last⟩ := tracks peer
  rw [(tick_outcome state snapshot order peer running).2, alternates_append, due_after_up]
  by_cases known : peer ∈ state.watcher.known.names
  · have up := last.2 known
    rw [if_pos ((has_iff _ _).2 known)]
    by_cases absent : routesOf peer snapshot = []
    · simp [absent, known, up, alternates, AlternatesFrom]
    · simp [absent, known, up, alternates, AlternatesFrom]
  · have down : ¬(history peer state.log).getLast? = some true := fun up => known (last.1 up)
    rw [if_neg (fun has => known ((has_iff _ _).1 has))]
    constructor
    · simp [down, known, alternates, alternates_replicate]
    · by_cases absent : routesOf peer snapshot = []
      · simp [absent, down]
      · have some_route : (routesOf peer snapshot).length ≠ 0 := by simpa using absent
        simp [List.getLast?_append, List.getLast?_replicate, absent, some_route]

/-- A poll takes a snapshot, or it changes neither the log nor the map. -/
theorem poll_cases (state : Watched) (poll : Poll) :
    (∃ snapshot order, poll = .tick (some snapshot) order ∧ state.watcher.stopped = false) ∨
      ((∀ snapshot order, poll = .tick (some snapshot) order → state.watcher.stopped = true) ∧
        (step state poll).log = state.log ∧
        (step state poll).watcher.known = state.watcher.known) := by
  cases poll with
  | stop =>
      right
      refine ⟨?_, rfl, rfl⟩
      intro snapshot order same
      cases same
  | tick snapshot order =>
      cases stopped : state.watcher.stopped with
      | true => exact Or.inr ⟨fun _ _ _ => rfl, by simp [step, tick, stopped]⟩
      | false =>
          cases snapshot with
          | none =>
              right
              refine ⟨?_, by simp [step, tick, stopped]⟩
              intro routes other same
              cases same
          | some routes => exact Or.inl ⟨routes, order, rfl, rfl⟩

theorem events_tell_iff (state : Watched) (poll : Poll) (tracks : Tracks state) :
    EventsTell state poll ↔ NewPeersOnce state poll := by
  rcases poll_cases state poll with ⟨snapshot, order, rfl, running⟩ | ⟨idle, log, -⟩
  · have peers := fun peer => peer_after_snapshot state snapshot order peer running tracks
    constructor
    · intro tell _ peer
      exact (peers peer).1.1 (tell peer).1
    · intro once peer
      refine ⟨(peers peer).1.2 (once running peer), ?_⟩
      intro same _ equal _
      cases equal
      exact (peers peer).2
  · refine iff_of_true ?_ ?_
    · intro peer
      rw [log]
      refine ⟨(tracks peer).1, ?_⟩
      intro snapshot order same running
      cases running.symm.trans (idle snapshot order same)
    · cases poll with
      | stop => trivial
      | tick snapshot order =>
          cases snapshot with
          | none => trivial
          | some routes =>
              intro running
              cases running.symm.trans (idle routes order rfl)

theorem tracks_step (state : Watched) (poll : Poll) (tracks : Tracks state)
    (once : NewPeersOnce state poll) : Tracks (step state poll) := by
  have tell := (events_tell_iff state poll tracks).2 once
  intro peer
  refine ⟨(tell peer).1, ?_⟩
  rcases poll_cases state poll with ⟨snapshot, order, rfl, running⟩ | ⟨-, log, known⟩
  · rw [(tell peer).2 snapshot order rfl running,
      (tick_outcome state snapshot order peer running).1]
  · rw [log, known]
    exact (tracks peer).2

/-- Over every run of a new watcher: the events report link transitions exactly when no
snapshot shows a new peer more than once. -/
theorem route_events_tell_iff (nodeID clusterID : String) (polls : List Poll) :
    StepsMeet step EventsTell (fresh nodeID clusterID) polls ↔
      StepsMeet step NewPeersOnce (fresh nodeID clusterID) polls := by
  refine steps_meet_congr_invariant step (fun _ _ => True) EventsTell NewPeersOnce Tracks
    (fun state poll tracks _ => events_tell_iff state poll tracks)
    (fun state poll tracks _ once => tracks_step state poll tracks once) _ ?_ polls
    (steps_meet_of_forall step (fun _ => True) _ polls (fun _ _ => trivial))
  intro peer
  simp [fresh, history, AlternatesFrom, RouteMap.names, RouteMap.empty]

/-! ## Two connections of one new peer -/

def sortedRange : RangeOrder := ⟨fun routes => routes, fun routes => List.Perm.refl routes⟩

/-- During mesh formation both peers have dialled each other. -/
def meshForming : Poll :=
  .tick (some [some ⟨"node-b", "10.0.0.2", 6222, true⟩, some ⟨"node-b", "10.0.0.2", 41876, false⟩])
    sortedRange

theorem new_peer_reported_up_twice :
    history "node-b" (step (fresh "node-a" "prod") meshForming).log = [true, true] ∧
      ¬StepsMeet step EventsTell (fresh "node-a" "prod") [meshForming] := by
  have twice : history "node-b" (step (fresh "node-a" "prod") meshForming).log = [true, true] := by
    decide
  refine ⟨twice, ?_⟩
  rintro ⟨tell, -⟩
  have alternates := (tell "node-b").1
  rw [twice] at alternates
  exact absurd alternates.2.1 (by decide)

end PgmanProxy.Embedded.RouteWatcher
