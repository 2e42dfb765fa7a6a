import FormReplay.Interruption.Matching
import Mathlib.Logic.Relation
/-!
# The handler found

Of the handlers that apply to an event the one with the highest priority is found, the first of several
(`Handler.Leads`).  Only its rivals matter to this: those that apply and have at least its priority.  A handler leads if
it is the first of its own rivals and none of the others is above it (`leads_iff_rivals`).  So a list may be edited
wherever no rival stands, and handlers that are not above it may be appended, and the same one is found.
-/
namespace FormReplay

variable {e : Event} {g h : Handler} {handlers handlers' : List Handler}

/-- The handler is the first, in the order of declaration, of those that apply to the event with the highest priority. -/
structure Handler.Leads (e : Event) (handlers : List Handler) (h : Handler) : Prop where
  applies : h.applies e = true
  highest : ∀ g ∈ handlers, g.applies e = true → g.priority ≤ h.priority
  first : ∃ before after, handlers = before ++ h :: after ∧
    ∀ g ∈ before, g.applies e = true → g.priority ≠ h.priority

/-! ## Rivals -/

/-- Whether a handler applies to the event and has at least the priority of `h`. -/
def Handler.isRival (e : Event) (h g : Handler) : Bool := g.applies e && decide (h.priority ≤ g.priority)

theorem Handler.isRival_eq_true : isRival e h g = true ↔ g.applies e = true ∧ h.priority ≤ g.priority := by
  rw [isRival, Bool.and_eq_true, decide_eq_true_eq]

/-- **A handler leads if it is the first of its rivals**, and none of these is above it. -/
theorem leads_iff_rivals : h.Leads e handlers ↔
    h.applies e = true ∧ ∃ others, handlers.filter (h.isRival e) = h :: others ∧ ∀ g ∈ others, g.priority ≤ h.priority := by
  constructor
  · rintro ⟨happlies, hhighest, before, after, rfl, hfirst⟩
    have hbefore : before.filter (h.isRival e) = [] := by
      refine List.filter_eq_nil_iff.2 fun g hg hrival => ?_
      obtain ⟨hgapplies, hge⟩ := Handler.isRival_eq_true.1 hrival
      have hle := hhighest g (List.mem_append_left _ hg) hgapplies
      exact hfirst g hg hgapplies (Int32.le_antisymm hle hge)
    have hself : h.isRival e h = true := Handler.isRival_eq_true.2 ⟨happlies, Int32.le_refl _⟩
    refine ⟨happlies, after.filter (h.isRival e), ?_, fun g hg => ?_⟩
    · rw [List.filter_append, hbefore, List.filter_cons_of_pos hself, List.nil_append]
    · obtain ⟨hmem, hrival⟩ := List.mem_filter.1 hg
      exact hhighest g (List.mem_append_right _ (.tail _ hmem)) (Handler.isRival_eq_true.1 hrival).1
  · rintro ⟨happlies, others, hrivals, hothers⟩
    obtain ⟨before, after, hsplit, hbefore, -⟩ := List.filter_eq_cons_iff.1 hrivals
    refine ⟨happlies, fun g hg hgapplies => ?_, before, after, hsplit, fun g hg hgapplies heq => ?_⟩
    · obtain hle | hge := Int32.le_total g.priority h.priority
      · exact hle
      · have hmem := List.mem_filter.2 ⟨hg, Handler.isRival_eq_true.2 ⟨hgapplies, hge⟩⟩
        rw [hrivals] at hmem
        obtain rfl | hother := List.mem_cons.1 hmem
        · exact Int32.le_refl _
        · exact hothers g hother
    · exact hbefore g hg (Handler.isRival_eq_true.2 ⟨hgapplies, heq ▸ Int32.le_refl _⟩)

theorem Handler.Leads.congr (hh : h.Leads e handlers) (hsame : handlers'.filter (h.isRival e) = handlers.filter (h.isRival e)) :
    h.Leads e handlers' := by
  rw [leads_iff_rivals, hsame]
  exact leads_iff_rivals.1 hh

theorem Handler.Leads.mem (hh : h.Leads e handlers) : h ∈ handlers := by
  obtain ⟨before, after, rfl, -⟩ := hh.first
  exact List.mem_append_right _ (.head _)

/-- One handler leads at most: two would have one priority, and so the same rivals. -/
theorem Handler.Leads.unique (hh : h.Leads e handlers) (hg : g.Leads e handlers) : h = g := by
  have hpriority : h.priority = g.priority :=
    Int32.le_antisymm (hg.highest h hh.mem hh.applies) (hh.highest g hg.mem hg.applies)
  have hsame : h.isRival e = g.isRival e := funext fun k => by rw [isRival, isRival, hpriority]
  obtain ⟨-, others, hothers, -⟩ := leads_iff_rivals.1 hh
  obtain ⟨-, others', hothers', -⟩ := leads_iff_rivals.1 hg
  rw [hsame, hothers'] at hothers
  exact (List.cons.inj hothers).1.symm

/-! ## The search -/

def Finds (e : Event) (handlers : List Handler) : Option Handler → Prop
  | some h => h.Leads e handlers
  | none   => ∀ g ∈ handlers, g.applies e = false

/-- A handler that is not above the one that leads does not take its place if it is declared later. -/
theorem Handler.Leads.append (hh : h.Leads e handlers) (hle : g.priority ≤ h.priority) : h.Leads e (handlers ++ [g]) := by
  obtain ⟨happlies, others, hrivals, hothers⟩ := leads_iff_rivals.1 hh
  have hlast : ∀ k ∈ [g].filter (h.isRival e), k.priority ≤ h.priority := fun k hk => by
    obtain rfl := List.mem_singleton.1 (List.mem_filter.1 hk).1
    exact hle
  refine leads_iff_rivals.2 ⟨happlies, others ++ [g].filter (h.isRival e), ?_, List.forall_mem_append.2 ⟨hothers, hlast⟩⟩
  rw [List.filter_append, hrivals, List.cons_append]

theorem leads_append_of_above (happlies : g.applies e = true)
    (habove : ∀ k ∈ handlers, k.applies e = true → k.priority < g.priority) : g.Leads e (handlers ++ [g]) := by
  have hhighest : ∀ k ∈ handlers ++ [g], k.applies e = true → k.priority ≤ g.priority := List.forall_mem_append.2
    ⟨fun k hk hkapplies => Int32.le_of_lt (habove k hk hkapplies), List.forall_mem_singleton.2 fun _ => Int32.le_refl _⟩
  exact ⟨happlies, hhighest, handlers, [], rfl, fun k hk hkapplies => Int32.ne_of_lt (habove k hk hkapplies)⟩

theorem Finds.step {best : Option Handler} (hbest : Finds e handlers best) (g : Handler) :
    Finds e (handlers ++ [g]) (if g.applies e then Handler.better best g else best) := by
  cases happlies : g.applies e with
  | false =>
    cases best with
    | none => exact List.forall_mem_append.2 ⟨hbest, List.forall_mem_singleton.2 happlies⟩
    | some h =>
      have hno : h.isRival e g = false := by rw [Handler.isRival, happlies, Bool.false_and]
      refine Handler.Leads.congr hbest ?_
      rw [List.filter_append, List.filter_cons_of_neg (Bool.eq_false_iff.1 hno)]
      exact List.append_nil _
  | true =>
    cases best with
    | none =>
      refine leads_append_of_above happlies fun k hk hkapplies => ?_
      rw [hbest k hk] at hkapplies
      cases hkapplies
    | some h =>
      by_cases hle : g.priority ≤ h.priority
      · simp only [Handler.better, if_pos hle, if_true]
        exact Handler.Leads.append hbest hle
      · simp only [Handler.better, if_neg hle, if_true]
        refine leads_append_of_above happlies fun k hk hkapplies => ?_
        exact Int32.lt_of_le_of_lt (hbest.highest k hk hkapplies) (Int32.not_le.1 hle)

/-- **The search finds the handler that leads**, or nothing if none applies. -/
theorem finds_findHandler (handlers : List Handler) (e : Event) : Finds e handlers (findHandler handlers e) := by
  suffices hsearch : ∀ (more seen : List Handler) (best : Option Handler), Finds e seen best →
      Finds e (seen ++ more) ((more.filter (·.applies e)).foldl Handler.better best) from
    hsearch handlers [] none fun _ hg => absurd hg List.not_mem_nil
  intro more
  induction more with
  | nil =>
    intro seen best hbest
    rw [List.append_nil]
    exact hbest
  | cons g more ih =>
    intro seen best hbest
    have hstep := hbest.step g
    rw [List.append_cons]
    cases happlies : g.applies e with
    | true =>
      rw [happlies] at hstep
      rw [List.filter_cons_of_pos happlies]
      exact ih _ _ hstep
    | false =>
      rw [happlies] at hstep
      rw [List.filter_cons_of_neg (Bool.eq_false_iff.1 happlies)]
      exact ih _ _ hstep

theorem findHandler_eq_some_iff : findHandler handlers e = some h ↔ h.Leads e handlers := by
  have hfinds := finds_findHandler handlers e
  constructor
  · intro hfound
    rw [hfound] at hfinds
    exact hfinds
  · intro hleads
    cases hfound : findHandler handlers e with
    | none =>
      rw [hfound] at hfinds
      have hself := hleads.applies
      rw [hfinds h hleads.mem] at hself
      cases hself
    | some g =>
      rw [hfound] at hfinds
      rw [Handler.Leads.unique hfinds hleads]

theorem findHandler_eq_none_iff : findHandler handlers e = none ↔ ∀ g ∈ handlers, g.applies e = false := by
  have hfinds := finds_findHandler handlers e
  constructor
  · intro hnone
    rw [hnone] at hfinds
    exact hfinds
  · intro hall
    refine Option.eq_none_iff_forall_ne_some.2 fun h hfound => ?_
    have hleads := findHandler_eq_some_iff.1 hfound
    have hself := hleads.applies
    rw [hall h hleads.mem] at hself
    cases hself

/-! ## Edits -/

/-- A handler that is no match for `h`: it is disabled, its trigger does not fire, or its priority is lower. -/
def Handler.Yields (e : Event) (h g : Handler) : Prop :=
  g.enabled = false ∨ g.trigger.fires e = false ∨ g.priority < h.priority

theorem Handler.Yields.isRival_eq_false (hg : h.Yields e g) : h.isRival e g = false := by
  refine Bool.eq_false_iff.2 fun hrival => ?_
  obtain ⟨happlies, hge⟩ := isRival_eq_true.1 hrival
  obtain ⟨henabled, hfires⟩ := Bool.and_eq_true_iff.1 happlies
  obtain hdisabled | hmiss | hlower := hg
  · rw [henabled] at hdisabled
    cases hdisabled
  · rw [hfires] at hmiss
    cases hmiss
  · exact Int32.not_le.2 hlower hge

/-- An edit of a list of handlers that spares those that rival `h`. -/
inductive Handler.Edit (e : Event) (h : Handler) : List Handler → List Handler → Prop
  | insert (before after : List Handler) {g : Handler} : h.Yields e g → Edit e h (before ++ after) (before ++ g :: after)
  | remove (before after : List Handler) {g : Handler} : h.Yields e g → Edit e h (before ++ g :: after) (before ++ after)
  | swap (before after : List Handler) {g g' : Handler} : h.Yields e g ∨ h.Yields e g' →
      Edit e h (before ++ g :: g' :: after) (before ++ g' :: g :: after)
  /-- Handlers are learned one at a time, each at the end. -/
  | append (handlers : List Handler) {g : Handler} : g.priority ≤ h.priority → Edit e h handlers (handlers ++ [g])

/-- **An edit leaves the handler that leads.** -/
theorem Handler.Edit.leads (hedit : h.Edit e handlers handlers') (hh : h.Leads e handlers) : h.Leads e handlers' := by
  have hskip : ∀ {k : Handler} (after : List Handler), h.Yields e k →
      (k :: after).filter (h.isRival e) = after.filter (h.isRival e) := fun after hk =>
    List.filter_cons_of_neg (Bool.eq_false_iff.1 hk.isRival_eq_false)
  cases hedit with
  | insert before after hg => exact hh.congr (by rw [List.filter_append, List.filter_append, hskip after hg])
  | remove before after hg => exact hh.congr (by rw [List.filter_append, List.filter_append, hskip after hg])
  | @swap before after g g' hswap =>
    refine hh.congr ?_
    rw [List.filter_append, List.filter_append]
    congr 1
    obtain hg | hg' := hswap
    · rw [List.filter_cons, hskip after hg, hskip _ hg, List.filter_cons]
    · rw [hskip _ hg', List.filter_cons, List.filter_cons, hskip _ hg']
  | append handlers hle => exact hh.append hle

/-- **The selection of a handler.**  The handler found is the first in the order of declaration of those of the highest
priority among the enabled handlers whose trigger fires, and there is none exactly if no handler does.  It stays the one
found however often disabled handlers, handlers that do not fire and handlers of lower priority are inserted, removed or
moved, and handlers of no higher priority are appended. -/
theorem first_of_highest_found (handlers : List Handler) (e : Event) :
    (∀ h, findHandler handlers e = some h ↔ h.Leads e handlers) ∧
      (findHandler handlers e = none ↔ ∀ g ∈ handlers, g.enabled = false ∨ g.trigger.fires e = false) ∧
      ∀ h handlers', findHandler handlers e = some h → Relation.ReflTransGen (h.Edit e) handlers handlers' →
        findHandler handlers' e = some h := by
  refine ⟨fun h => findHandler_eq_some_iff, ?_, fun h handlers' hfound hedits => ?_⟩
  · simp only [findHandler_eq_none_iff, Handler.applies, Bool.and_eq_false_iff]
  · refine findHandler_eq_some_iff.2 ?_
    induction hedits with
    | refl => exact findHandler_eq_some_iff.1 hfound
    | tail _ hedit ih => exact hedit.leads ih

/-- Of two handlers of one priority the first stays the one found, whatever weaker, disabled and later ones do. -/
theorem first_of_two_stays :
    let handler (id : String) (priority : Int32) : Handler := { id, priority, trigger := ⟨.dialog, "locked", .contains, []⟩ }
    let off : Handler := { handler "off" 9 with enabled := false }
    let high := handler "high" 5
    let event := Event.ofText .dialog "Record 4411 is locked" ["OK"]
    let before := [handler "low" 1, high, handler "tie" 5]
    let after := [off, high, handler "tie" 5, handler "learned" 0]
    (findHandler before event = some high ∧ Relation.ReflTransGen (high.Edit event) before after) ∧
      findHandler after event = some high := by
  intro handler off high event before after
  have hfound : findHandler before event = some high := by decide +kernel
  have hedits : Relation.ReflTransGen (high.Edit event) before after :=
    .tail (.tail (.tail .refl (.remove [] _ (.inr (.inr (by decide))))) (.insert [] _ (.inl rfl)))
      (.append _ (by decide))
  exact ⟨⟨hfound, hedits⟩, (first_of_highest_found before event).2.2 high after hfound hedits⟩

end FormReplay
