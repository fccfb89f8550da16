/-
# Machines that reply to requests

A table of call sites, a row of buffers and a merger are used in the same way: a request is
made, something is replied, and the next request is made of the state that is left. A
request may ask for something, change something, or both.

What holds of single requests holds of all that are made one after the other. This is said
here once: an invariant that every request keeps is kept by any number of them, a run whose
requests may fail is that of the machine exactly if none of them fails, and states that
no single request can tell apart are not told apart by any number of them.
-/

namespace CallTrace

/-- Something that replies to requests and may change with every reply. -/
structure Machine (State Request Reply : Type) where
  /-- The state before anything was requested. -/
  new : State
  /-- The reply to a request, and the state that is left. -/
  answer : State → Request → Reply × State

namespace Machine

variable {State Request Reply : Type} (machine : Machine State Request Reply)

/-- What is replied to requests made one after the other. -/
def replies : List Request → State → List Reply
  | [], _ => []
  | request :: requests, state =>
    (machine.answer state request).1 :: replies requests (machine.answer state request).2

/-- The state that requests leave when they are made one after the other. -/
def after (requests : List Request) (state : State) : State :=
  requests.foldl (fun state request => (machine.answer state request).2) state

/-- The state that comes about by requests made of a new machine. -/
def reached (history : List Request) : State :=
  machine.after history machine.new

theorem reached_append (history further : List Request) :
    machine.reached (history ++ further) = machine.after further (machine.reached history) :=
  List.foldl_append

/-- What is kept by every request is kept by all. -/
theorem after_induction {invariant : State → Prop}
    (keeps : ∀ state request, invariant state → invariant (machine.answer state request).2)
    {state : State} (holds : invariant state) (requests : List Request) :
    invariant (machine.after requests state) := by
  induction requests generalizing state with
  | nil => exact holds
  | cons request requests ih => exact ih (keeps state request holds)

/-- Makes requests one after the other where each may fail. One that fails ends the run and
leaves neither a reply nor a state. -/
def attempt {Fault : Type} (perform : State → Request → Except Fault (Reply × State)) :
    List Request → State → Except Fault (List Reply × State)
  | [], state => .ok ([], state)
  | request :: requests, state => do
    let (reply, next) ← perform state request
    let (replies, last) ← attempt perform requests next
    return (reply :: replies, last)

/-- Whether every request is admitted by the state that those before it leave. -/
def admits (admitted : State → Request → Bool) : List Request → State → Bool
  | [], _ => true
  | request :: requests, state =>
    admitted state request && admits admitted requests (machine.answer state request).2

/-- Requests that are admitted or not by themselves are admitted one by one. -/
theorem admits_eq_all (admitted : Request → Bool) (requests : List Request) (state : State) :
    machine.admits (fun _ request => admitted request) requests state =
      requests.all admitted := by
  induction requests generalizing state with
  | nil => rfl
  | cons request requests ih => rw [admits, List.all_cons, ih]

/-- If requests are answered exactly where they are admitted, as long as an invariant holds
that those admitted keep, then a run is that of the machine exactly where all are admitted. -/
theorem attempt_eq {Fault : Type} {fault : Fault}
    {perform : State → Request → Except Fault (Reply × State)}
    {admitted : State → Request → Bool} {invariant : State → Prop}
    (agrees : ∀ state request, invariant state →
      perform state request =
        if admitted state request then .ok (machine.answer state request) else .error fault)
    (keeps : ∀ state request, invariant state → admitted state request →
      invariant (machine.answer state request).2)
    {state : State} (holds : invariant state) (requests : List Request) :
    attempt perform requests state =
      if machine.admits admitted requests state then
        .ok (machine.replies requests state, machine.after requests state)
      else .error fault := by
  induction requests generalizing state with
  | nil => rfl
  | cons request requests ih =>
      rw [attempt, admits, agrees state request holds]
      by_cases first : admitted state request
      · rw [if_pos first, first, Bool.true_and]
        simp only [bind, Except.bind, ih (keeps state request holds first)]
        by_cases rest : machine.admits admitted requests (machine.answer state request).2
        · rw [if_pos rest, if_pos rest]
          rfl
        · rw [if_neg rest, if_neg rest]
      · rw [if_neg first, Bool.eq_false_iff.mpr first, Bool.false_and]
        rfl

/-- A relation between states that no request breaks: the reply is the same, and the states
that are left are related again. -/
structure IsBisimulation (related : State → State → Prop) : Prop where
  reply {first second : State} (same : related first second) (request : Request) :
    (machine.answer first request).1 = (machine.answer second request).1
  next {first second : State} (same : related first second) (request : Request) :
    related (machine.answer first request).2 (machine.answer second request).2

/-- Any number of requests made of related states. -/
theorem IsBisimulation.run {machine : Machine State Request Reply}
    {related : State → State → Prop} (bisimulation : machine.IsBisimulation related)
    {first second : State} (same : related first second) (requests : List Request) :
    machine.replies requests first = machine.replies requests second ∧
      related (machine.after requests first) (machine.after requests second) := by
  induction requests generalizing first second with
  | nil => exact ⟨rfl, same⟩
  | cons request requests ih =>
      obtain ⟨later, last⟩ := ih (bisimulation.next same request)
      rw [replies, replies, bisimulation.reply same request, later]
      exact ⟨rfl, last⟩

/-- Whether equality ignores only what no request can observe. States that compare equal,
whatever they come from, give the same replies to all that is requested of both, and the
states that are left compare equal again. -/
def EqualStatesAgree [BEq State] : Prop :=
  ∀ history other further : List Request,
    (machine.reached history == machine.reached other) = true →
      machine.replies further (machine.reached history) =
          machine.replies further (machine.reached other) ∧
        (machine.after further (machine.reached history) ==
          machine.after further (machine.reached other)) = true

/-- It is enough that equality of the states that come about is a relation that no request
breaks. -/
theorem IsBisimulation.equalStatesAgree [BEq State] {machine : Machine State Request Reply}
    {related : State → State → Prop} (bisimulation : machine.IsBisimulation related)
    (equal_iff : ∀ history other : List Request,
      (machine.reached history == machine.reached other) = true ↔
        related (machine.reached history) (machine.reached other)) :
    machine.EqualStatesAgree := by
  intro history other further equal
  obtain ⟨replies, last⟩ := bisimulation.run ((equal_iff history other).mp equal) further
  refine ⟨replies, ?_⟩
  rw [← reached_append, ← reached_append] at last ⊢
  exact (equal_iff _ _).mpr last

end Machine

end CallTrace
