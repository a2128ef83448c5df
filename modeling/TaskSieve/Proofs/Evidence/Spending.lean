import TaskSieve.Proofs.Evidence.Collecting
import TaskSieve.Proofs.Evidence.Rounds

/-!
# What gathering evidence costs

A poll asks and waits a limited number of times, and each revision is polled
for only while nothing is remembered about it.  So the revisions that windows
can reach pay for all polls: a poll that leaves something to remember uses one
of them up, and a poll that does not ends the run.  Windows of one push that
have different lengths reach into the same revisions, as long as the push log
tells the same about a push whatever range it is asked for.
-/

namespace TaskSieve

open Step

namespace Event

/-- Whether something was asked of the predictor. -/
def isRequest : Event → Bool
  | .fetched _ _ => true
  | _ => false

/-- How long an event made the run wait. -/
def wait : Event → Nat
  | .slept duration => duration
  | _ => 0

/-- How often the predictor was asked. -/
def requests (events : List Event) : Nat := events.countP isRequest

/-- How long the run waited in all. -/
def waiting (events : List Event) : Nat := (events.map wait).sum

theorem requests_append (later earlier : List Event) :
    requests (later ++ earlier) = requests later + requests earlier :=
  List.countP_append

theorem waiting_append (later earlier : List Event) :
    waiting (later ++ earlier) = waiting later + waiting earlier := by
  simp [waiting]

end Event

namespace Client

variable {client : Client} {branch revision : String}

/-- How many waits fit into the limit of a branch. -/
def turns (client : Client) (branch : String) : Nat :=
  client.polling.limit branch / client.polling.interval

theorem requests_roundEvents (count : Nat) :
    Event.requests (client.roundEvents branch revision count) = count := by
  induction count with
  | zero => rfl
  | succ count induction =>
      rw [roundEvents, List.replicate_succ, List.flatten_cons,
        Event.requests_append]
      rw [roundEvents] at induction
      rw [induction, Nat.add_comm]
      rfl

theorem waiting_roundEvents (count : Nat) :
    Event.waiting (client.roundEvents branch revision count) =
      count * client.polling.interval := by
  induction count with
  | zero => simp [roundEvents, Event.waiting]
  | succ count induction =>
      rw [roundEvents, List.replicate_succ, List.flatten_cons,
        Event.waiting_append]
      rw [roundEvents] at induction
      rw [induction, Nat.succ_mul, Nat.add_comm]
      rfl

/-- From one state to a later one the predictor was asked and waited for no more
than so many polls ask and wait at most. -/
def Costs (client : Client) (branch : String) (polls : Nat)
    (before after : State) : Prop :=
  ∃ added, after.history = added ++ before.history ∧
    Event.requests added ≤ polls * (client.turns branch + 1) ∧
    Event.waiting added ≤
      polls * (client.turns branch * client.polling.interval)

namespace Costs

variable {polls more : Nat} {before between after : State}

theorem free (added : List Event)
    (grown : after.history = added ++ before.history)
    (noRequest : Event.requests added = 0) (noWait : Event.waiting added = 0) :
    client.Costs branch 0 before after :=
  ⟨added, grown, by omega, by omega⟩

theorem refl (state : State) : client.Costs branch 0 state state :=
  free [] rfl rfl rfl

theorem trans (first : client.Costs branch polls before between)
    (second : client.Costs branch more between after) :
    client.Costs branch (polls + more) before after := by
  obtain ⟨earlier, grown, requests, waiting⟩ := first
  obtain ⟨later, grownMore, moreRequests, moreWaiting⟩ := second
  refine ⟨later ++ earlier, by rw [grownMore, grown, List.append_assoc], ?_, ?_⟩
  · rw [Event.requests_append, Nat.add_mul]
    omega
  · rw [Event.waiting_append, Nat.add_mul]
    omega

/-- What does not show in the history costs nothing. -/
theorem of_same_history (cost : client.Costs branch polls before between)
    (same : after.history = between.history) :
    client.Costs branch polls before after := by
  obtain ⟨added, grown, requests, waiting⟩ := cost
  exact ⟨added, same.trans grown, requests, waiting⟩

end Costs

theorem poll_costs (client : Client) (branch revision : String)
    (state : State) :
    client.Costs branch 1 state (client.poll branch revision state).2 := by
  obtain ⟨count, goesOn, _, polled⟩ :=
    client.pollFrom_rounds branch revision state.now state
  have few : count ≤ client.turns branch := rounds_le (Nat.le_refl _) goesOn
  rw [poll, polled]
  refine ⟨.fetched branch revision :: client.roundEvents branch revision count,
    ?_, ?_, ?_⟩
  · change _ :: (client.round branch revision state count).history = _
    rw [round_history, List.cons_append]
  · rw [← List.singleton_append, Event.requests_append, requests_roundEvents,
      Nat.one_mul, Nat.add_comm]
    exact Nat.succ_le_succ few
  · rw [← List.singleton_append, Event.waiting_append, waiting_roundEvents,
      Nat.one_mul]
    exact (Nat.zero_add _).trans_le (Nat.mul_le_mul_right _ few)

end Client

namespace State

/-- How many of the revisions nothing is remembered about. -/
def unanswered (state : State) (branch : String) (revisions : List String) :
    Nat :=
  revisions.countP fun revision =>
    (state.cache.find? ⟨branch, revision, 1⟩).isNone

variable {state after : State} {branch revision : String}
  {revisions : List String}

theorem unanswered_of_same_singles
    (same : ∀ revision, after.cache.find? ⟨branch, revision, 1⟩ =
      state.cache.find? ⟨branch, revision, 1⟩) :
    after.unanswered branch revisions = state.unanswered branch revisions := by
  simp only [unanswered, same]

theorem unanswered_pos (member : revision ∈ revisions)
    (missing : state.cache.find? ⟨branch, revision, 1⟩ = none) :
    0 < state.unanswered branch revisions :=
  List.countP_pos_iff.mpr ⟨revision, member, by simp [missing]⟩

/-- Remembering something about one of the revisions leaves fewer of them. -/
theorem unanswered_remember_lt (member : revision ∈ revisions)
    (missing : state.cache.find? ⟨branch, revision, 1⟩ = none)
    (value : Remembered) :
    (state.remember ⟨branch, revision, 1⟩ value).unanswered branch revisions <
      state.unanswered branch revisions := by
  have fewer : ∀ others : List String,
      (state.remember ⟨branch, revision, 1⟩ value).unanswered branch others ≤
        state.unanswered branch others := by
    intro others
    apply List.countP_mono_left
    intro other _ absent
    rw [find?_remember] at absent
    split at absent
    · cases absent
    · exact absent
  obtain ⟨front, back, rfl⟩ := List.append_of_mem member
  have before := fewer front
  have behind := fewer back
  have found : (state.remember ⟨branch, revision, 1⟩ value).cache.find?
      ⟨branch, revision, 1⟩ =
      some value := by rw [find?_remember, if_pos rfl]
  simp only [unanswered, List.countP_append, List.countP_cons, missing, found]
      at before behind ⊢
  simp
  omega

end State

theorem Conclusive.of_map {α β : Type} {answer : Except Failure α}
    {image : α → β} (conclusive : Conclusive (answer.map image)) :
    Conclusive answer := by
  cases answer with
  | ok value => trivial
  | error failure => exact conclusive

/-- A step that keeps an invariant as long as it answers with a value or a
timeout, and that leaves a state of which less is required when it fails
otherwise. -/
def Step.KeepsGoing {α : Type} (going ended : State → Prop) (step : Step α) :
    Prop :=
  ∀ state, going state → (Conclusive (step state).1 → going (step state).2) ∧
    ended (step state).2

namespace Step.KeepsGoing

variable {α β : Type} {going ended : State → Prop}

theorem of_preserves {step : Step α} (ends : ∀ state, going state → ended state)
    (kept : Preserves going step) : KeepsGoing going ended step :=
  fun state holds => ⟨fun _ => kept state holds, ends _ (kept state holds)⟩

theorem bind {first : Step α} {next : α → Step β}
    (kept : KeepsGoing going ended first)
    (keptNext : ∀ value, KeepsGoing going ended (next value)) :
    KeepsGoing going ended (first >>= next) := by
  intro state holds
  obtain ⟨goes, ends⟩ := kept state holds
  cases answered : first state with
  | mk answer after =>
      rw [answered] at goes ends
      cases answer with
      | ok value =>
          rw [bind_apply_ok next answered]
          exact keptNext value after (goes trivial)
      | error failure =>
          rw [bind_apply_error next answered]
          exact ⟨goes, ends⟩

end Step.KeepsGoing

namespace Client

variable {client : Client} {branch revision : String} {revisions : List String}
  {start : State}

/-- Since a start there were no more polls than revisions that have something to
remember by now. -/
def Affords (client : Client) (branch : String) (revisions : List String)
    (start state : State) : Prop :=
  ∃ polls, client.Costs branch polls start state ∧
    polls + state.unanswered branch revisions ≤ revisions.length

/-- Since a start there were no more polls than revisions. -/
def Afforded (client : Client) (branch : String) (revisions : List String)
    (start state : State) : Prop :=
  client.Costs branch revisions.length start state

theorem Costs.mono {polls more : Nat} {before after : State}
    (cost : client.Costs branch polls before after) (fewer : polls ≤ more) :
    client.Costs branch more before after := by
  obtain ⟨added, grown, requests, waiting⟩ := cost
  exact ⟨added, grown, requests.trans (Nat.mul_le_mul_right _ fewer),
    waiting.trans (Nat.mul_le_mul_right _ fewer)⟩

namespace Affords

variable {state after : State}

theorem refl (state : State) : client.Affords branch revisions state state := by
  refine ⟨0, .refl state, ?_⟩
  rw [Nat.zero_add]
  exact List.countP_le_length

theorem afforded (affords : client.Affords branch revisions start state) :
    client.Afforded branch revisions start state := by
  obtain ⟨polls, cost, enough⟩ := affords
  exact cost.mono (by omega)

/-- Events that are no requests and no waits cost nothing, and neither does what
is remembered for windows. -/
theorem of_free (affords : client.Affords branch revisions start state)
    (added : List Event) (grown : after.history = added ++ state.history)
    (noRequest : Event.requests added = 0) (noWait : Event.waiting added = 0)
    (same : ∀ revision, after.cache.find? ⟨branch, revision, 1⟩ =
      state.cache.find? ⟨branch, revision, 1⟩) :
    client.Affords branch revisions start after := by
  obtain ⟨polls, cost, enough⟩ := affords
  refine ⟨polls, cost.trans (.free added grown noRequest noWait), ?_⟩
  rw [State.unanswered_of_same_singles same]
  exact enough

end Affords

/-- A revision among those that pay is polled for at most once, unless the poll
ends the run. -/
theorem evidenceOf_keepsGoing (client : Client) (branch : String)
    (start : State) (member : revision ∈ revisions) :
    KeepsGoing (client.Affords branch revisions start)
      (client.Afforded branch revisions start)
      (client.evidenceOf branch revision) := by
  intro state affords
  rcases evidenceOf_cases client branch revision state with
    ⟨value, _, same⟩ | ⟨missing, ⟨value, _, same⟩ | ⟨error, failed, same⟩⟩
  · rw [same]
    exact ⟨fun _ => affords, affords.afforded⟩
  · rw [same]
    obtain ⟨polls, cost, enough⟩ := affords
    have polled := poll_cache client branch revision state
    have stillMissing : (client.poll branch revision state).2.cache.find?
        ⟨branch, revision, 1⟩ =
        none := polled ▸ missing
    have fewer := State.unanswered_remember_lt member stillMissing value
    have unchanged :
        (client.poll branch revision state).2.unanswered branch revisions =
        state.unanswered branch revisions :=
      State.unanswered_of_same_singles fun _ => by rw [polled]
    have affordsAfter : client.Affords branch revisions start
        ((client.poll branch revision state).2.remember ⟨branch, revision, 1⟩
          value) :=
      ⟨polls + 1, cost.trans
        ((client.poll_costs branch revision state).of_same_history rfl),
        by omega⟩
    exact ⟨fun _ => affordsAfter, affordsAfter.afforded⟩
  · rw [same]
    constructor
    · intro conclusive
      rw [Conclusive, Remembered.hard_of_ofOutcome failed] at conclusive
      cases conclusive
    · obtain ⟨polls, cost, enough⟩ := affords
      have unpaid := State.unanswered_pos member missing
      exact (cost.trans (client.poll_costs branch revision state)).mono
        (by omega)

theorem collect_keepsGoing (client : Client) (branch : String) (start : State)
    {members : List String}
    (among : ∀ revision ∈ members, revision ∈ revisions) :
    KeepsGoing (client.Affords branch revisions start)
      (client.Afforded branch revisions start)
      (client.collect branch members) := by
  induction members with
  | nil => exact .of_preserves (fun _ => Affords.afforded) (Preserves.pure [])
  | cons revision rest induction =>
      rw [collect]
      apply (client.evidenceOf_keepsGoing branch start
        (among revision (by simp))).bind
      intro evidence
      apply (induction fun other member => among other (by simp [member])).bind
      intro others
      exact .of_preserves (fun _ => Affords.afforded) (Preserves.pure _)

/-- The revisions that windows of a push reach which have at most so many
pushes, when each push before it has the entry that is given for it. -/
def reach (entries : (repository : String) → (id : Int) → PushEntry)
    (push : Push) (pushes : Nat) : List String :=
  if pushes = 0 then []
  else push.revision ::
    (Int.range (max (push.id - pushes + 1) 1) push.id).filterMap fun id =>
      (entries push.repository id).changesets.getLast?

end Client

/-- A push log that tells the same about a push whatever range it is asked for:
as far as it lists a push of the range, it lists it with its own entry. -/
def Environment.ListsAlike (environment : Environment)
    (entries : (repository : String) → (id : Int) → PushEntry) : Prop :=
  ∀ history repository first last log,
    environment.pushes history repository first last = .ok log →
    ∀ id, first ≤ id → id ≤ last → ∀ entry, log.find? id = some entry →
      entry = entries repository id

namespace Client

variable {client : Client} {push : Push} {pushes longest : Nat} {start : State}
  {entries : (repository : String) → (id : Int) → PushEntry}

theorem length_reach_le
    (entries : (repository : String) → (id : Int) → PushEntry) (push : Push)
    (pushes : Nat) : (reach entries push pushes).length ≤ pushes := by
  unfold reach
  split
  · simp
  · have few : (Int.range (max (push.id - pushes + 1) 1) push.id).length ≤
        pushes - 1 := by
      rw [Int.range, List.length_map, List.length_range]
      omega
    have listed := List.length_filterMap_le
      (fun id => (entries push.repository id).changesets.getLast?)
      (Int.range (max (push.id - pushes + 1) 1) push.id)
    rw [List.length_cons]
    omega

theorem mem_reach_iff {revision : String} :
    revision ∈ reach entries push pushes ↔
      0 < pushes ∧ (revision = push.revision ∨
        ∃ id, max (push.id - pushes + 1) 1 ≤ id ∧ id < push.id ∧
          (entries push.repository id).changesets.getLast? =
            some revision) := by
  unfold reach
  split
  · simp [*]
  · have some : 0 < pushes := by omega
    simp [some, List.mem_filterMap, Int.mem_range_iff, and_assoc]

/-- A window that the push log resolves lies within reach. -/
theorem mem_reach_of_windowFor
    (alike : client.environment.ListsAlike entries) (some : 1 ≤ pushes)
    (within : pushes ≤ longest) {state : State} {revisions : List String}
    (resolves :
      PushLog.windowFor (client.environment.pushes state.history) push pushes =
      .ok revisions) :
    ∀ revision ∈ revisions, revision ∈ reach entries push longest := by
  by_cases asks : windowStart push.id pushes < push.id
  · cases answered : client.environment.pushes state.history push.repository
        (windowStart push.id pushes) (push.id - 1) with
    | error error =>
        rw [PushLog.windowFor_of_error asks answered] at resolves
        cases resolves
    | ok log =>
        rw [PushLog.windowFor_of_listed asks answered] at resolves
        cases found : log.revisions (windowStart push.id pushes)
            (push.id - 1) with
        | error error =>
            rw [found] at resolves
            cases resolves
        | ok earlier =>
            rw [found] at resolves
            cases resolves
            intro revision member
            rcases List.mem_append.mp member with listed | head
            · obtain ⟨⟨id, latest⟩, inRange, rfl⟩ := List.mem_map.mp listed
              obtain ⟨above, below, tip⟩ :=
                PushLog.tip_of_mem_revisionsFrom found inRange
              obtain ⟨entry, present, last⟩ := Option.bind_eq_some_iff.mp tip
              have positive := one_le_windowStart push.id pushes
              have start := le_windowStart push.id pushes
              rw [alike _ _ _ _ _ answered id above (by omega) entry present]
                at last
              exact mem_reach_iff.mpr
                ⟨by omega, .inr ⟨id, by omega, by omega, last⟩⟩
            · exact mem_reach_iff.mpr
                ⟨by omega, .inl (List.mem_singleton.mp head)⟩
  · rw [PushLog.windowFor_of_alone (Int.not_lt.mp asks)] at resolves
    cases resolves
    intro revision member
    exact mem_reach_iff.mpr ⟨by omega, .inl (List.mem_singleton.mp member)⟩

/-- Gathering a window goes on with the revisions within reach. -/
theorem evidenceFor_keepsGoing (alike : client.environment.ListsAlike entries)
    (within : max pushes 1 ≤ longest) (start : State) :
    KeepsGoing (client.Affords push.branch (reach entries push longest) start)
      (client.Afforded push.branch (reach entries push longest) start)
      (client.evidenceFor push pushes) := by
  by_cases many : 1 < pushes
  · intro state affords
    have resolving :
        client.Affords push.branch (reach entries push longest) start
        (state.resolving push pushes) := by
      unfold State.resolving
      split
      · exact affords.of_free
          [.queried push.repository (windowStart push.id pushes)
          (push.id - 1)] rfl rfl rfl fun _ => rfl
      · exact affords
    cases missing : state.cache.find? ⟨push.branch, push.revision, pushes⟩ with
    | some value =>
        rw [evidenceFor_remembered many missing]
        exact ⟨fun _ => affords, affords.afforded⟩
    | none =>
        cases resolves :
            PushLog.windowFor (client.environment.pushes state.history)
              push pushes with
        | error failure =>
            rw [evidenceFor_of_unresolved many missing resolves]
            exact ⟨fun _ => resolving, resolving.afforded⟩
        | ok revisions =>
            rw [evidenceFor_of_resolved many missing resolves]
            have few : pushes ≤ longest := by omega
            have among :=
              mem_reach_of_windowFor alike (by omega) few resolves
            obtain ⟨goes, ends⟩ :=
              client.collect_keepsGoing push.branch start among _ resolving
            constructor
            · intro conclusive
              apply (goes (Conclusive.of_map conclusive)).of_free []
                (State.keep_history _ _ _)
                rfl rfl
              exact fun revision => State.find?_single_keep many
            · exact Costs.of_same_history ends (State.keep_history _ _ _)
  · rw [evidenceFor_few (Nat.le_of_not_gt many)]
    exact client.evidenceOf_keepsGoing push.branch start
      (mem_reach_iff.mpr ⟨by omega, .inl rfl⟩)

end Client

end TaskSieve
