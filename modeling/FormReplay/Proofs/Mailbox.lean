import FormReplay.Proofs.Engine.Decision
/-!
# The mailbox of a run

Decisions wait in an inbox until a poll takes them.  What the inbox holds, and which decision is being applied, can be
read off the trace alone (`mail`): the host's posts come to the end of the inbox, and a poll takes the first decision
with the id asked for and drops what stands before it, or all if there is none.  `Corresponds` says what a run may do,
given what the mailbox shows.  Where a trace corresponds throughout, each request has one decision applied at most and
each decision is applied to one request at most.
-/
namespace FormReplay

/-! ## Reading the mailbox -/

/-- Where a run is with its decisions. -/
inductive Desk where
  | idle
  | told (r : DecisionRequest)
  | polling (r : DecisionRequest)
  /-- The run was stopped while it polled. -/
  | halted
  | taken (r : DecisionRequest) (d : Decision)
  | applied (r : DecisionRequest) (d : Decision)

structure Mail where
  inbox : List Decision
  desk  : Desk := .idle
  /-- The decisions applied and the requests they were taken for, the newest first. -/
  log   : List (DecisionRequest × Decision) := []

def Desk.next : Desk → Moment → Desk
  | _, .progress (.decisionRequested r)             => .told r
  | .told r, .asked (.request _) (.ok _)            => .polling r
  | .polling r, .slept .decisionPoll _              => .polling r
  | .taken r d, .asked _ (.ok _)                    => .taken r d
  | .taken r d, .slept _ _                          => .taken r d
  | .taken r d, .progress (.decisionApplied _ _ _ _) => .applied r d
  | _, _                                            => .idle

namespace Mail

/-- The poll before the next moment of the engine's own.  It takes the first decision with the id of the request, and
drops those before it, unless the run is stopped. -/
def poll (stopped : Bool) (m : Mail) : Mail :=
  match m.desk with
  | .polling r =>
    if stopped then { m with desk := .halted }
    else
      match m.inbox.dropWhile (·.id ≠ r.id) with
      | []        => { m with inbox := [] }
      | d :: rest => { m with inbox := rest, desk := .taken r d }
  | _ => m

def next (m : Mail) (moment : Moment) : Mail where
  inbox := m.inbox
  desk  := m.desk.next moment
  log   :=
    match m.desk, moment with
    | .taken r d, .progress (.decisionApplied _ _ _ _) => (r, d) :: m.log
    | _, _ => m.log

end Mail

def mail (inbox : List Decision) : List Entry → Mail
  | [] => { inbox }
  | e :: past =>
    match e.moment with
    | .acted (.post d) => { mail inbox past with inbox := (mail inbox past).inbox ++ [d] }
    | .acted _         => mail inbox past
    | m                => ((mail inbox past).poll e.control.stopped).next m

def requestedIds : List Entry → List RequestId
  | [] => []
  | e :: past =>
    match e.moment with
    | .progress (.decisionRequested r) => r.id :: requestedIds past
    | _                                => requestedIds past

def appliedIds : List Entry → List RequestId
  | [] => []
  | e :: past =>
    match e.moment with
    | .progress (.decisionApplied id _ _ _) => id :: appliedIds past
    | _                                     => appliedIds past

/-! ## What a run may do -/

def Entry.controlAfter (e : Entry) : Control :=
  match e.moment with
  | .acted .stop   => e.control.stop
  | .acted .pause  => e.control.pause
  | .acted .resume => e.control.resume
  | _              => e.control

def Context.settled (c : Context) : Context := { c with pending := none }

/-- Apart from the hold, the flags are as the host left them, and the context is as it was, but for the key that may
be acknowledged. -/
def Steady (key? : Option String) (past : List Entry) (control : Control) (context : Context) : Prop :=
  ∃ x ∈ past.head?, control.release = x.controlAfter.release ∧
    (context.settled = x.context.settled ∨ ∃ key ∈ key?, context.settled = x.context.settled.acknowledge key)

/-- What a decision justifies: the actions it decides on, on the event if there is one, and that it is applied. -/
def Decision.Justifies (d : Decision) (event? : Option Event) (step : Nat) : Moment → Prop
  | .asked (.press offering control) _ =>
    d.action = .press ∧ (d.selectedOption = some control ∧ event? = some offering ∨
      d.followUpOption = some control ∧ event?.isSome = true)
  | .asked (.dismiss event) _ => d.action = .dismiss ∧ event? = some event
  | .asked .detect _ | .slept .settle _ => d.action = .press ∧ d.followUpOption.isSome = true ∧ event?.isSome = true
  | .progress (.decisionApplied id step' action outcome) =>
    id = d.id ∧ step' = step ∧ action = event?.map (fun _ => d.action) ∧ outcome = d.outcome
  | _ => False

def Moment.IsStop : Moment → Prop
  | .progress (.runEnded .stopped none _ _) => True
  | _ => False

/-- The moment has nothing to do with decisions, or tells a request with an id that was not used yet. -/
def Moment.IsFree (past : List Entry) (m : Moment) : Prop :=
  m.IsOrdinary ∨ ∃ r, m = .progress (.decisionRequested r) ∧ r.id ∉ requestedIds past

/-- What may come next, given what is on the desk.  While a request is put and polled for, and where the run was stopped
meanwhile, nothing else happens at all.  What happens once a decision was taken is what it justifies, and the first thing
after it was applied may be that its rule is learned. -/
def Desk.Allows (past : List Entry) (e : Entry) : Desk → Prop
  | .idle => e.moment.IsFree past
  | .told r => Steady none past e.control e.context ∧ ∃ answer, e.moment = .asked (.request r) answer
  | .polling _ => Steady none past e.control e.context ∧ ∃ ms, e.moment = .slept .decisionPoll ms
  | .halted => Steady none past e.control e.context ∧ e.moment.IsStop
  | .taken r d => Steady (r.event.map Event.patternKey) past e.control e.context ∧
    (d.Justifies r.event e.context.stepIndex e.moment ∨ e.moment.IsStop)
  | .applied r d => e.moment.IsFree past ∨
    d.saveRule = true ∧ ∃ event ∈ r.event, ∃ id, e.moment = .progress (.handlerLearned id event.template d.outcome)

/-- What the engine does is what the mailbox allows, the poll before it included. -/
def Corresponds (inbox : List Decision) (e : Entry) (past : List Entry) : Prop :=
  ¬e.moment.IsAct → ((mail inbox past).poll e.control.stopped).desk.Allows past e

/-! ## Polls -/

theorem takeDecision_eq (id : RequestId) (inbox : List Decision) :
    takeDecision id inbox =
      match inbox.dropWhile (·.id ≠ id) with
      | []        => (none, [])
      | d :: rest => (some d, rest) := by
  induction inbox with
  | nil => rfl
  | cons d inbox ih =>
    rw [takeDecision]
    by_cases h : d.id = id
    · rw [if_pos h, List.dropWhile_cons_of_neg (by simpa using h)]
    · rw [if_neg h, List.dropWhile_cons_of_pos (by simpa using h), ih]

namespace Mail

variable {m : Mail} {r : DecisionRequest} {d : Decision} {rest : List Decision}

theorem poll_stopped (hdesk : m.desk = .polling r) : m.poll true = { m with desk := .halted } := by
  unfold poll
  rw [hdesk]
  rfl

theorem poll_taken (hdesk : m.desk = .polling r) (htake : takeDecision r.id m.inbox = (some d, rest)) :
    m.poll false = { m with inbox := rest, desk := .taken r d } := by
  rw [takeDecision_eq] at htake
  unfold poll
  rw [hdesk]
  dsimp only
  rw [if_neg Bool.false_ne_true]
  split at htake
  · cases htake
  · cases htake
    rfl

theorem poll_missed (hdesk : m.desk = .polling r) (htake : takeDecision r.id m.inbox = (none, rest)) :
    m.poll false = { m with inbox := [] } ∧ rest = [] := by
  rw [takeDecision_eq] at htake
  unfold poll
  rw [hdesk]
  dsimp only
  rw [if_neg Bool.false_ne_true]
  split at htake
  · cases htake
    exact ⟨rfl, rfl⟩
  · cases htake

theorem poll_of_ne (stopped : Bool) (hdesk : ∀ r, m.desk ≠ .polling r) : m.poll stopped = m := by
  unfold poll
  split
  · exact absurd ‹_› (hdesk _)
  · rfl

end Mail

theorem Mail.poll_cases (stopped : Bool) (m : Mail) :
    m.poll stopped = m ∨
    ∃ r, m.desk = .polling r ∧
      (m.poll stopped = { m with desk := .halted } ∨ m.poll stopped = { m with inbox := [] } ∨
        ∃ stale d rest, m.inbox = stale ++ d :: rest ∧ d.id = r.id ∧
          m.poll stopped = { m with inbox := rest, desk := .taken r d }) := by
  by_cases hpolling : ∃ r, m.desk = .polling r
  · obtain ⟨r, hdesk⟩ := hpolling
    refine .inr ⟨r, hdesk, ?_⟩
    cases stopped with
    | true => exact .inl (Mail.poll_stopped hdesk)
    | false =>
      cases htake : takeDecision r.id m.inbox with
      | mk found rest =>
        cases found with
        | none   => exact .inr (.inl (Mail.poll_missed hdesk htake).1)
        | some d =>
          obtain ⟨hid, stale, hinbox, -⟩ := takeDecision_eq_some_iff.1 htake
          exact .inr (.inr ⟨stale, d, rest, hinbox, hid, Mail.poll_taken hdesk htake⟩)
  · exact .inl (Mail.poll_of_ne stopped fun r hdesk => hpolling ⟨r, hdesk⟩)

theorem mail_own {inbox : List Decision} {e : Entry} (past : List Entry) (h : ¬e.moment.IsAct) :
    mail inbox (e :: past) = ((mail inbox past).poll e.control.stopped).next e.moment := by
  rw [mail]
  split <;> rename_i hm
  · rw [hm] at h
    exact absurd trivial h
  · rw [hm] at h
    exact absurd trivial h
  · rfl

/-! ## Decisions taken -/

def Desk.open? : Desk → Option RequestId
  | .told r | .polling r => some r.id
  | _ => none

def Desk.held? : Desk → Option (DecisionRequest × Decision)
  | .taken r d => some (r, d)
  | _ => none

/-- The decisions applied or being carried out, and the requests they were taken for, the newest first. -/
def Mail.taken (m : Mail) : List (DecisionRequest × Decision) := m.desk.held?.toList ++ m.log

theorem Mail.log_sublist_taken (m : Mail) : m.log.Sublist m.taken := List.sublist_append_right _ _

theorem Desk.held?_next (desk : Desk) (moment : Moment) : (desk.next moment).held?.toList.Sublist desk.held?.toList := by
  unfold Desk.next
  split <;> first | exact .refl _ | exact List.nil_sublist _

theorem Mail.taken_next (m : Mail) (moment : Moment) : (m.next moment).taken.Sublist m.taken := by
  unfold taken next
  dsimp only
  split
  · rename_i r d id step action outcome hdesk
    rw [hdesk]
    exact .refl _
  · exact .append (Desk.held?_next _ _) (.refl _)

theorem Desk.open?_next {moment : Moment} (h : ∀ r, moment ≠ .progress (.decisionRequested r)) (desk : Desk) :
    (desk.next moment).open?.toList.Sublist desk.open?.toList := by
  unfold Desk.next
  split <;> first | exact .refl _ | exact List.nil_sublist _ | exact absurd rfl (h _)

theorem requestedIds_of_ne {e : Entry} (past : List Entry) (h : ∀ r, e.moment ≠ .progress (.decisionRequested r)) :
    requestedIds (e :: past) = requestedIds past := by
  rw [requestedIds]
  split
  · exact absurd ‹_› (h _)
  · rfl

theorem appliedIds_of_ne {e : Entry} (past : List Entry)
    (h : ∀ id step action outcome, e.moment ≠ .progress (.decisionApplied id step action outcome)) :
    appliedIds (e :: past) = appliedIds past := by
  rw [appliedIds]
  split
  · exact absurd ‹_› (h _ _ _ _)
  · rfl

theorem Mail.log_next_of_ne {moment : Moment} (m : Mail)
    (h : ∀ id step action outcome, moment ≠ .progress (.decisionApplied id step action outcome)) :
    (m.next moment).log = m.log := by
  unfold next
  dsimp only
  split
  · exact absurd rfl (h _ _ _ _)
  · rfl

/-- What the readings of a trace say of a mailbox: no id is requested twice, every decision taken answers a request of
its own, and the ids told to be applied are those of the decisions applied. -/
structure Mail.Faithful (m : Mail) (trace : List Entry) : Prop where
  fresh : (requestedIds trace).Nodup
  requests : (m.desk.open?.toList ++ m.taken.map (·.1.id)).Sublist (requestedIds trace)
  answers : ∀ x ∈ m.taken, x.2.id = x.1.id
  applied : appliedIds trace = m.log.map (·.2.id)

theorem Mail.Faithful.poll {m : Mail} {trace : List Entry} (h : m.Faithful trace) (stopped : Bool) :
    (m.poll stopped).Faithful trace := by
  obtain ⟨hfresh, hrequests, hanswers, happlied⟩ := h
  obtain hpoll | ⟨r, hdesk, hpoll | hpoll | ⟨stale, d, rest, -, hid, hpoll⟩⟩ := m.poll_cases stopped
  · rw [hpoll]
    exact ⟨hfresh, hrequests, hanswers, happlied⟩
  all_goals rw [taken, hdesk] at hrequests hanswers
  · rw [hpoll]
    exact ⟨hfresh, (List.sublist_cons_self _ _).trans hrequests, hanswers, happlied⟩
  · rw [hpoll]
    refine ⟨hfresh, ?_, ?_, happlied⟩
    · rw [taken, hdesk]
      exact hrequests
    · rw [taken, hdesk]
      exact hanswers
  · rw [hpoll]
    exact ⟨hfresh, hrequests, List.forall_mem_cons.2 ⟨hid, hanswers⟩, happlied⟩

/-- What may be told: what has nothing to do with decisions or is a new request, a rule learned, what a decision taken
justifies, and that the run ends as one that was stopped. -/
theorem Desk.Allows.progress {desk : Desk} {past : List Entry} {e : Entry} {event : ProgressEvent}
    (h : desk.Allows past e) (he : e.moment = .progress event) :
    e.moment.IsFree past ∨ (∃ id template outcome, event = .handlerLearned id template outcome) ∨
      (∃ r d, desk = .taken r d ∧ d.Justifies r.event e.context.stepIndex e.moment) ∨ e.moment.IsStop := by
  cases desk with
  | idle        => exact .inl h
  | told r      => obtain ⟨-, answer, hasked⟩ := h; cases he.symm.trans hasked
  | polling r   => obtain ⟨-, ms, hslept⟩ := h; cases he.symm.trans hslept
  | halted      => exact .inr (.inr (.inr h.2))
  | taken r d   =>
    obtain h | h := h.2
    · exact .inr (.inr (.inl ⟨r, d, rfl, h⟩))
    · exact .inr (.inr (.inr h))
  | applied r d =>
    obtain h | ⟨-, learned, -, id, hlearned⟩ := h
    · exact .inl h
    · cases he.symm.trans hlearned
      exact .inr (.inl ⟨id, learned.template, d.outcome, rfl⟩)

theorem Desk.Allows.fresh {desk : Desk} {past : List Entry} {e : Entry} {r : DecisionRequest} (h : desk.Allows past e)
    (he : e.moment = .progress (.decisionRequested r)) : r.id ∉ requestedIds past := by
  obtain (hordinary | ⟨r', he', hnew⟩) | ⟨_, _, _, hlearned⟩ | ⟨_, d, -, hjustified⟩ | hstop := h.progress he
  · rw [he] at hordinary
    exact hordinary.elim
  · cases he.symm.trans he'
    exact hnew
  · cases hlearned
  · rw [he] at hjustified
    exact hjustified.elim
  · rw [he] at hstop
    exact hstop.elim

theorem Desk.Allows.applying {desk : Desk} {past : List Entry} {e : Entry} {id : RequestId} {step : Nat}
    {action : Option DecisionAction} {outcome : Outcome} (h : desk.Allows past e)
    (he : e.moment = .progress (.decisionApplied id step action outcome)) : ∃ r d, desk = .taken r d ∧ id = d.id := by
  obtain (hordinary | ⟨_, he', -⟩) | ⟨_, _, _, hlearned⟩ | ⟨r, d, hdesk, hjustified⟩ | hstop := h.progress he
  · rw [he] at hordinary
    exact hordinary.elim
  · cases he.symm.trans he'
  · cases hlearned
  · rw [he] at hjustified
    exact ⟨r, d, hdesk, hjustified.1⟩
  · rw [he] at hstop
    exact hstop.elim

theorem Mail.Faithful.next {m : Mail} {past : List Entry} {e : Entry} (h : m.Faithful past)
    (hallows : m.desk.Allows past e) : (m.next e.moment).Faithful (e :: past) := by
  obtain ⟨hfresh, hrequests, hanswers, happlied⟩ := h
  by_cases hrequested : ∃ r, e.moment = .progress (.decisionRequested r)
  · obtain ⟨r, he⟩ := hrequested
    have hnew := hallows.fresh he
    rw [he]
    have hlog : (m.next (.progress (.decisionRequested r))).log = m.log := m.log_next_of_ne nofun
    have hids : requestedIds (e :: past) = r.id :: requestedIds past := by rw [requestedIds, he]
    refine ⟨?_, ?_, fun x hx => ?_, ?_⟩
    · rw [hids]
      exact List.nodup_cons.2 ⟨hnew, hfresh⟩
    · rw [hids]
      have hlogged := ((m.log_sublist_taken.map (·.1.id)).trans (List.sublist_append_right _ _)).trans hrequests
      exact (hlog ▸ hlogged).cons_cons r.id
    · exact hanswers x ((m.taken_next _).subset hx)
    · rw [appliedIds_of_ne past (by rw [he]; nofun), happlied, hlog]
  by_cases happlies : ∃ id step action outcome, e.moment = .progress (.decisionApplied id step action outcome)
  · obtain ⟨id, step, action, outcome, he⟩ := happlies
    obtain ⟨r, d, hdesk, rfl⟩ := hallows.applying he
    obtain ⟨inbox, desk, log⟩ := m
    cases hdesk
    rw [he]
    refine ⟨?_, ?_, hanswers, ?_⟩
    · rw [requestedIds_of_ne past (by rw [he]; nofun)]
      exact hfresh
    · rw [requestedIds_of_ne past (by rw [he]; nofun)]
      exact hrequests
    · rw [appliedIds, he]
      exact congrArg (d.id :: ·) happlied
  · have hne : ∀ r, e.moment ≠ .progress (.decisionRequested r) := fun r he => hrequested ⟨r, he⟩
    have hne' : ∀ id step action outcome, e.moment ≠ .progress (.decisionApplied id step action outcome) :=
      fun id step action outcome he => happlies ⟨id, step, action, outcome, he⟩
    refine ⟨?_, ?_, fun x hx => ?_, ?_⟩
    · rw [requestedIds_of_ne past hne]
      exact hfresh
    · rw [requestedIds_of_ne past hne]
      exact ((m.desk.open?_next hne).append ((m.taken_next e.moment).map _)).trans hrequests
    · exact hanswers x ((m.taken_next _).subset hx)
    · rw [appliedIds_of_ne past hne', happlied, m.log_next_of_ne hne']

end FormReplay
