import FormReplay.Proofs.Mailbox
/-!
# Decisions and their requests

Every run corresponds with its mailbox.  While a request is put and polled for nothing else happens, whatever the host
queues and whenever; a poll takes the first decision for the request, and finds the run stopped rather than take any;
and nothing but what the decision taken justifies is done for it.
-/
namespace FormReplay

variable {σ : Type} {env : Env σ} {inbox : List Decision}

/-! ## Sessions and their mailbox -/

def Issued (s : Session σ) : Prop := ∀ id ∈ requestedIds s.trace, ∃ n ≤ s.world.requests, id = .issued n

/-- The mailbox, with a poll if it is due, shows the inbox of the session and this desk. -/
structure Reads (inbox : List Decision) (desk : Desk) (s : Session σ) : Prop where
  always : Always (Corresponds inbox) s.trace
  issued : Issued s
  queue : ((mail inbox s.trace).poll s.world.control.stopped).inbox = s.world.inbox
  desk : ((mail inbox s.trace).poll s.world.control.stopped).desk = desk

/-- The mailbox shows as much before a poll, and the session is as the newest entry left it. -/
structure Shows (inbox : List Decision) (desk : Desk) (s : Session σ) : Prop where
  always : Always (Corresponds inbox) s.trace
  issued : Issued s
  queue : (mail inbox s.trace).inbox = s.world.inbox
  desk : (mail inbox s.trace).desk = desk
  steady : Steady none s.trace s.world.control s.context

def Desk.IsFree : Desk → Prop
  | .idle | .applied _ _ => True
  | _ => False

def Unburdened (inbox : List Decision) (s : Session σ) : Prop := ∃ desk : Desk, desk.IsFree ∧ Reads inbox desk s

structure Working (inbox : List Decision) (r : DecisionRequest) (d : Decision) (s : Session σ) : Prop
    extends Reads inbox (.taken r d) s where
  steady : Steady (r.event.map Event.patternKey) s.trace s.world.control s.context

/-- The run was stopped while it polled, or while a decision was carried out. -/
def Interrupted (inbox : List Decision) (s : Session σ) : Prop :=
  (Reads inbox .halted s ∧ Steady none s.trace s.world.control s.context) ∨ ∃ r d, Working inbox r d s

theorem steady_cons {e : Entry} {past : List Entry} {control : Control} {context : Context}
    (hcontrol : control.release = e.controlAfter.release) (hcontext : context.settled = e.context.settled) :
    Steady none (e :: past) control context := ⟨e, rfl, hcontrol, .inl hcontext⟩

theorem Entry.controlAfter_own {e : Entry} (h : ¬e.moment.IsAct) : e.controlAfter = e.control := by
  unfold Entry.controlAfter
  split
  all_goals first | rfl | exact absurd trivial (‹e.moment = _› ▸ h : ¬(Moment.acted _).IsAct)

namespace Reads

variable {desk : Desk} {s : Session σ} (h : Reads inbox desk s)
include h

theorem recordIssued {m : Moment} (hm : ¬m.IsAct) (hissued : Issued (s.record m))
    (hallows : desk.Allows s.trace ⟨s.world.clock, s.world.control, s.context, m⟩) :
    Shows inbox (desk.next m) (s.record m) := by
  have hmail : mail inbox (s.record m).trace = ((mail inbox s.trace).poll s.world.control.stopped).next m :=
    mail_own _ hm
  refine ⟨⟨fun _ => h.desk ▸ hallows, h.always⟩, hissued, ?_, ?_, ?_⟩
  · rw [hmail]
    exact h.queue
  · rw [hmail]
    exact congrArg (·.next m) h.desk
  · have hcontrol := Entry.controlAfter_own (e := ⟨s.world.clock, s.world.control, s.context, m⟩) hm
    exact steady_cons (congrArg Control.release hcontrol.symm) rfl

theorem record {m : Moment} (hm : ¬m.IsAct) (hnew : ∀ r, m ≠ .progress (.decisionRequested r))
    (hallows : desk.Allows s.trace ⟨s.world.clock, s.world.control, s.context, m⟩) :
    Shows inbox (desk.next m) (s.record m) := by
  have hids : requestedIds (s.record m).trace = requestedIds s.trace := requestedIds_of_ne s.trace hnew
  exact h.recordIssued hm (fun id hid => h.issued id (hids ▸ hid)) hallows

end Reads

namespace Shows

variable {desk : Desk} {s : Session σ} (h : Shows inbox desk s)
include h

theorem obey (act : HostAct) : Shows inbox desk (s.obey act) := by
  have hids : requestedIds (s.record (.acted act)).trace = requestedIds s.trace := requestedIds_of_ne s.trace nofun
  have hissued : Issued (s.record (.acted act)) := fun id hid => h.issued id (hids ▸ hid)
  have halways : Always (Corresponds inbox) (s.record (.acted act)).trace := ⟨fun hact => absurd trivial hact, h.always⟩
  cases act with
  | stop   => exact ⟨halways, hissued, h.queue, h.desk, steady_cons rfl rfl⟩
  | pause  => exact ⟨halways, hissued, h.queue, h.desk, steady_cons rfl rfl⟩
  | resume => exact ⟨halways, hissued, h.queue, h.desk, steady_cons rfl rfl⟩
  | post d => exact ⟨halways, hissued, congrArg (· ++ [d]) h.queue, h.desk, steady_cons rfl rfl⟩

end Shows

theorem shows_acts (inbox : List Decision) (desk : Desk) : KeptByActs (Shows (σ := σ) inbox desk) where
  record _ _ hm := hm.elim
  obey _ act _ hs := hs.obey act
  host _ _ hs := ⟨hs.always, hs.issued, hs.queue, hs.desk, hs.steady⟩
  clock _ _ _ hs := ⟨hs.always, hs.issued, hs.queue, hs.desk, hs.steady⟩

/-! ### Where no decision is under way -/

theorem Mail.poll_of_free {m : Mail} {stopped : Bool} (hfree : (m.poll stopped).desk.IsFree) : m.poll stopped = m := by
  obtain h | ⟨r, hdesk, h | h | ⟨stale, d, rest, -, -, h⟩⟩ := m.poll_cases stopped
  · exact h
  · rw [h] at hfree
    exact hfree.elim
  · rw [h, hdesk] at hfree
    exact hfree.elim
  · rw [h] at hfree
    exact hfree.elim

theorem Unburdened.of_eq {s s' : Session σ} (h : Unburdened inbox s) (htrace : s'.trace = s.trace)
    (hinbox : s'.world.inbox = s.world.inbox) (hrequests : s.world.requests ≤ s'.world.requests) :
    Unburdened inbox s' := by
  obtain ⟨desk, hfree, halways, hissued, hreads, hdesk⟩ := h
  have hpoll : (mail inbox s.trace).poll s.world.control.stopped = mail inbox s.trace :=
    Mail.poll_of_free (hdesk ▸ hfree)
  rw [hpoll] at hreads hdesk
  have hpoll' : (mail inbox s'.trace).poll s'.world.control.stopped = mail inbox s.trace := by
    rw [htrace]
    exact Mail.poll_of_ne _ fun r hr => by
      rw [hdesk.symm.trans hr] at hfree
      exact hfree
  refine ⟨desk, hfree, htrace ▸ halways, fun id hid => ?_, ?_, hpoll' ▸ hdesk⟩
  · obtain ⟨n, hn, hid⟩ := hissued id (htrace ▸ hid)
    exact ⟨n, Nat.le_trans hn hrequests, hid⟩
  · rw [hpoll', hinbox]
    exact hreads

theorem Unburdened.sameDesk {s s' : Session σ} (hsame : s.SameDesk s') (h : Unburdened inbox s) : Unburdened inbox s' :=
  h.of_eq hsame.trace (congrArg World.inbox hsame.world) (Nat.le_of_eq (congrArg World.requests hsame.world.symm))

theorem Unburdened.always {s : Session σ} (h : Unburdened inbox s) : Always (Corresponds inbox) s.trace := by
  obtain ⟨desk, -, hs⟩ := h
  exact hs.always

theorem Steady.mono {key? : Option String} {past : List Entry} {control : Control} {context : Context}
    (h : Steady none past control context) : Steady key? past control context := by
  obtain ⟨x, hx, hcontrol, hcontext | ⟨_, hkey, -⟩⟩ := h
  · exact ⟨x, hx, hcontrol, .inl hcontext⟩
  · cases hkey

/-! ### Waiting for a decision -/

theorem Context.settled_acknowledge (key : String) (c : Context) :
    (c.acknowledge key).settled = c.settled.acknowledge key := by
  unfold acknowledge settled
  split <;> rfl

theorem Context.acknowledge_acknowledge (key : String) (c : Context) :
    (c.acknowledge key).acknowledge key = c.acknowledge key := by
  rw [acknowledge.eq_def key (c.acknowledge key), if_pos (List.contains_iff_mem.2 (mem_acknowledge key c))]

theorem Steady.acknowledge {key : String} {past : List Entry} {control : Control} {context : Context}
    (h : Steady (some key) past control context) : Steady (some key) past control (context.acknowledge key) := by
  obtain ⟨x, hx, hcontrol, hcontext⟩ := h
  refine ⟨x, hx, hcontrol, .inr ⟨key, rfl, ?_⟩⟩
  rw [Context.settled_acknowledge]
  obtain hcontext | ⟨key', hkey, hcontext⟩ := hcontext
  · rw [hcontext]
  · cases hkey
    rw [hcontext, Context.acknowledge_acknowledge]

section Carrying

variable {r : DecisionRequest} {d : Decision} {s : Session σ}

theorem Decision.Justifies.own {event? : Option Event} {step : Nat} {m : Moment} (h : d.Justifies event? step m) :
    ¬m.IsAct ∧ ∀ r, m ≠ .progress (.decisionRequested r) := by
  constructor
  · intro hact
    obtain ⟨act, rfl⟩ := hact.exists
    exact h
  · rintro r rfl
    exact h

theorem Working.record (h : Working inbox r d s) {m : Moment} (hm : d.Justifies r.event s.context.stepIndex m) :
    Shows inbox (Desk.next (.taken r d) m) (s.record m) :=
  h.toReads.record hm.own.1 hm.own.2 ⟨h.steady, .inl hm⟩

theorem Working.applied (env : Env σ) (h : Working inbox r d s) :
    Shows inbox (.applied r d)
      (s.told env (.decisionApplied d.id s.context.stepIndex (r.event.map fun _ => d.action) d.outcome)) := by
  have happlied : d.Justifies r.event s.context.stepIndex
      (.progress (.decisionApplied d.id s.context.stepIndex (r.event.map fun _ => d.action) d.outcome)) :=
    ⟨rfl, rfl, rfl, rfl⟩
  exact (shows_acts inbox _).afterReport env.host.within_all (h.record happlied)

end Carrying

/-! ## Runs -/

theorem Interrupted.record {s : Session σ} (h : Interrupted inbox s) (rows learned : Nat) :
    Shows inbox .idle (s.record (.progress (.runEnded .stopped none rows learned))) := by
  have hnew : ∀ r, Moment.progress (.runEnded .stopped none rows learned) ≠ .progress (.decisionRequested r) := nofun
  have hown : ¬(Moment.progress (.runEnded .stopped none rows learned)).IsAct := fun hact => hact
  obtain ⟨hs, hsteady⟩ | ⟨r, d, hs⟩ := h
  · exact hs.record hown hnew ⟨hsteady, trivial⟩
  · exact hs.toReads.record hown hnew ⟨hs.steady, .inr trivial⟩

end FormReplay
