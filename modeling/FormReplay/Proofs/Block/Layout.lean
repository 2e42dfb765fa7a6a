import FormReplay.Proofs.Block.Analysis
import FormReplay.Run.Attempt
/-!
# What the walk looks up in a block

The steps of a block stand in a row, and for its own starts the tables of the whole list are the jumps of the
block.  `Fits` says so construct by construct, as the walk reads it.
-/
namespace FormReplay

/-! ## A part of a list -/

def PartAt (steps : List Step) (i : Nat) (part : List Step) : Prop :=
  ∃ before after, before.length = i ∧ steps = before ++ (part ++ after)

namespace PartAt

variable {steps part more : List Step} {i : Nat} {s : Step}

theorem whole (steps : List Step) : PartAt steps 0 steps := ⟨[], [], rfl, by simp⟩

theorem head (h : PartAt steps i (s :: part)) : steps[i]? = some s := by
  obtain ⟨before, after, rfl, rfl⟩ := h
  simp

theorem tail (h : PartAt steps i (s :: part)) : PartAt steps (i + 1) part := by
  obtain ⟨before, after, rfl, rfl⟩ := h
  exact ⟨before ++ [s], after, by simp, by simp⟩

theorem left (h : PartAt steps i (part ++ more)) : PartAt steps i part := by
  obtain ⟨before, after, rfl, rfl⟩ := h
  exact ⟨before, more ++ after, rfl, by simp⟩

theorem right (h : PartAt steps i (part ++ more)) : PartAt steps (i + part.length) more := by
  obtain ⟨before, after, rfl, rfl⟩ := h
  exact ⟨before ++ part, after, by simp, by simp⟩

theorem body {b : Block} (h : PartAt steps i (s :: (b.flatten ++ more))) :
    PartAt steps (i + 1) b.flatten ∧ PartAt steps (i + b.size + 1) more := by
  have hmore := h.tail.right
  rw [b.length_flatten, Nat.add_right_comm] at hmore
  exact ⟨h.tail.left, hmore⟩

end PartAt

/-! ## A part of the jumps -/

namespace Jumps

theorem target?_append (x y : Jumps) (a : Nat) : (x ++ y).target? a = (x.target? a).or (y.target? a) := by
  unfold target?
  rw [List.find?_append]
  cases List.find? (·.1 == a) x <;> rfl

theorem RiseIn.target?_eq_none {x : Jumps} {lo hi a : Nat} (h : x.RiseIn lo hi) (ha : a < lo ∨ hi ≤ a) :
    x.target? a = none := by
  cases hx : x.target? a with
  | none => rfl
  | some b =>
    have := h.range _ (mem_of_target? hx)
    dsimp only at this
    omega

/-- Two lists of jumps lead to the same from every start in a range. -/
def AgreeOn (t x : Jumps) (lo hi : Nat) : Prop := ∀ a, lo ≤ a → a < hi → t.target? a = x.target? a

variable {t x y : Jumps} {lo hi lo' hi' lo'' hi'' : Nat}

theorem AgreeOn.mono (h : t.AgreeOn x lo hi) (hlo : lo ≤ lo') (hhi : hi' ≤ hi) : t.AgreeOn x lo' hi' :=
  fun a hlo' hhi' => h a (Nat.le_trans hlo hlo') (Nat.lt_of_lt_of_le hhi' hhi)

theorem AgreeOn.left (h : t.AgreeOn (x ++ y) lo hi) (hy : y.RiseIn lo'' hi'') (hlo : lo ≤ lo') (hhi : hi' ≤ hi)
    (hy' : hi' ≤ lo'') : t.AgreeOn x lo' hi' := by
  intro a hlo' hhi'
  rw [h a (by omega) (by omega), target?_append, hy.target?_eq_none (by omega), Option.or_none]

theorem AgreeOn.right (h : t.AgreeOn (x ++ y) lo hi) (hx : x.RiseIn lo'' hi'') (hlo : lo ≤ lo') (hhi : hi' ≤ hi)
    (hx' : hi'' ≤ lo') : t.AgreeOn y lo' hi' := by
  intro a hlo' hhi'
  rw [h a (by omega) (by omega), target?_append, hx.target?_eq_none (by omega), Option.none_or]

end Jumps

namespace Block

/-- What the walk looks up in a block that begins at an index: its steps, and where its constructs lead. -/
def Fits (p : Program) (i : Nat) : Block → Prop
  | done => True
  | action m kind spec rest =>
    p.workflow.steps[i]? = some (m.step (.action kind spec)) ∧ rest.Fits p (i + 1)
  | label m name rest => p.workflow.steps[i]? = some (m.step (.label name)) ∧ rest.Fits p (i + 1)
  | leap m way rest => p.workflow.steps[i]? = some (m.step way.kind) ∧ rest.Fits p (i + 1)
  | ifThen m stop c body rest =>
    let last := i + body.size + 1
    p.workflow.steps[i]? = some (m.step (.ifStart c)) ∧ p.tables.ifToElse.target? i = none ∧
      p.tables.ifToEnd.target? i = some last ∧ body.Fits p (i + 1) ∧
      p.workflow.steps[last]? = some (stop.step .ifEnd) ∧ rest.Fits p (last + 1)
  | ifElse m middle stop c body other rest =>
    let between := i + body.size + 1
    let last := between + other.size + 1
    p.workflow.steps[i]? = some (m.step (.ifStart c)) ∧ p.tables.ifToElse.target? i = some between ∧
      p.tables.ifToEnd.target? i = some last ∧ body.Fits p (i + 1) ∧
      p.workflow.steps[between]? = some (middle.step .otherwise) ∧ p.tables.elseToEnd.target? between = some last ∧
      other.Fits p (between + 1) ∧ p.workflow.steps[last]? = some (stop.step .ifEnd) ∧ rest.Fits p (last + 1)
  | loop m _ spec _ body rest =>
    let last := i + body.size + 1
    p.workflow.steps[i]? = some (m.step (.loopStart spec)) ∧ p.tables.loopToEnd.target? i = some last ∧
      body.Fits p (i + 1) ∧ rest.Fits p (last + 1)

theorem target?_pick (link : Link) (i last : Nat) : (pick link link i last).target? i = some last := by
  simp [pick, Jumps.target?]

theorem target?_pick_of_ne {link own : Link} (h : own ≠ link) (i last : Nat) : (pick link own i last).target? i = none := by
  simp [pick, h, Jumps.target?]

variable {t : Jumps} {link : Link} {i : Nat}

theorem enclosed_agree {own : Link} {body rest : Block}
    (h : t.AgreeOn (pick link own i (i + body.size + 1) ++ body.jumps link (i + 1) ++ rest.jumps link (i + body.size + 2))
      i (i + (body.size + rest.size + 2))) :
    t.target? i = (pick link own i (i + body.size + 1)).target? i ∧
      t.AgreeOn (body.jumps link (i + 1)) (i + 1) (i + 1 + body.size) ∧
      t.AgreeOn (rest.jumps link (i + body.size + 2)) (i + body.size + 2) (i + body.size + 2 + rest.size) := by
  have hstart := pick_riseIn link own i (i + body.size + 1)
  have hbody := jumps_riseIn link body (i + 1)
  have hrest := jumps_riseIn link rest (i + body.size + 2)
  have hfront : t.AgreeOn (pick link own i (i + body.size + 1) ++ body.jumps link (i + 1)) i (i + body.size + 2) :=
    h.left hrest (by omega) (by omega) (by omega)
  have hown : t.AgreeOn (pick link own i (i + body.size + 1)) i (i + 1) :=
    hfront.left hbody (by omega) (by omega) (by omega)
  refine ⟨hown i (by omega) (by omega), hfront.right hstart (by omega) (by omega) (by omega), ?_⟩
  exact h.right (hstart.append hbody (by omega) (by omega) (by omega)) (by omega) (by omega) (by omega)

theorem forked_agree {body other rest : Block} {middle stop : Nat} (hmiddle : middle = i + body.size + 1)
    (hstop : stop = middle + other.size + 1)
    (h : t.AgreeOn (pick link .ifToElse i middle ++ pick link .ifToEnd i stop ++ body.jumps link (i + 1) ++
      pick link .elseToEnd middle stop ++ other.jumps link (middle + 1) ++ rest.jumps link (stop + 1))
      i (i + (body.size + other.size + rest.size + 3))) :
    t.target? i = (pick link .ifToElse i middle ++ pick link .ifToEnd i stop).target? i ∧
      t.AgreeOn (body.jumps link (i + 1)) (i + 1) (i + 1 + body.size) ∧
      t.target? middle = (pick link .elseToEnd middle stop).target? middle ∧
      t.AgreeOn (other.jumps link (middle + 1)) (middle + 1) (middle + 1 + other.size) ∧
      t.AgreeOn (rest.jumps link (stop + 1)) (stop + 1) (stop + 1 + rest.size) := by
  have hstart := pick_append_riseIn link i middle stop
  have hbody := jumps_riseIn link body (i + 1)
  have helse := pick_riseIn link .elseToEnd middle stop
  have hother := jumps_riseIn link other (middle + 1)
  have hrest := jumps_riseIn link rest (stop + 1)
  have hfirst := hstart.append hbody (by omega) (by omega) (Nat.le_add_right _ _)
  have hsecond := hfirst.append helse (by omega) (by omega) (by omega)
  have hthird := hsecond.append hother (by omega) (by omega) (by omega)
  have hfour : t.AgreeOn _ i (stop + 1) := h.left hrest (by omega) (by omega) (by omega)
  have hthree : t.AgreeOn _ i (middle + 1) := hfour.left hother (by omega) (by omega) (by omega)
  have htwo : t.AgreeOn _ i middle := hthree.left helse (by omega) (by omega) (by omega)
  have hone : t.AgreeOn _ i (i + 1) := htwo.left hbody (by omega) (by omega) (by omega)
  have hown : t.AgreeOn _ middle (middle + 1) := hthree.right hfirst (by omega) (by omega) (by omega)
  refine ⟨hone i (by omega) (by omega), htwo.right hstart (by omega) (by omega) (by omega),
    hown middle (by omega) (by omega), ?_, ?_⟩
  · exact hfour.right hsecond (by omega) (by omega) (by omega)
  · exact h.right hthird (by omega) (by omega) (by omega)

variable {p : Program}

/-- **A block fits where it stands**, if the tables agree with its own jumps there. -/
theorem fits (b : Block) (hpart : PartAt p.workflow.steps i b.flatten)
    (hagree : ∀ link, (p.tables.jumps link).AgreeOn (b.jumps link i) i (i + b.size)) : b.Fits p i := by
  induction b generalizing i with
  | done => trivial
  | action m kind spec rest ih | label m name rest ih | leap m way rest ih =>
    refine ⟨hpart.head, ih hpart.tail fun link => (hagree link).mono (by omega) ?_⟩
    simp only [size]
    omega
  | ifThen m stop c body rest ihBody ihRest =>
    have h : ∀ link, _ := fun link => enclosed_agree (hagree link)
    obtain ⟨hbody, hstop⟩ := hpart.body
    refine ⟨hpart.head, ?_, ?_, ihBody hbody fun link => (h link).2.1, hstop.head, ?_⟩
    · exact (h .ifToElse).1.trans (target?_pick_of_ne (by decide) i _)
    · exact (h .ifToEnd).1.trans (target?_pick .ifToEnd i _)
    · exact ihRest hstop.tail fun link => (h link).2.2
  | ifElse m middle stop c body other rest ihBody ihOther ihRest =>
    have h : ∀ link, _ := fun link => forked_agree rfl rfl (hagree link)
    obtain ⟨hbody, hmiddle⟩ := hpart.body
    obtain ⟨hother, hstop⟩ := hmiddle.body
    refine ⟨hpart.head, ?_, ?_, ihBody hbody fun link => (h link).2.1, hmiddle.head, ?_, ?_, hstop.head, ?_⟩
    · exact (h .ifToElse).1.trans (target?_pick .ifToElse i _)
    · exact (h .ifToEnd).1.trans (target?_pick .ifToEnd i _)
    · exact (h .elseToEnd).2.2.1.trans (target?_pick .elseToEnd _ _)
    · exact ihOther hother fun link => (h link).2.2.2.1
    · exact ihRest hstop.tail fun link => (h link).2.2.2.2
  | loop m stop spec named body rest ihBody ihRest =>
    have h : ∀ link, _ := fun link => enclosed_agree (hagree link)
    obtain ⟨hbody, hstop⟩ := hpart.body
    refine ⟨hpart.head, ?_, ihBody hbody fun link => (h link).2.1, ?_⟩
    · exact (h .loopToEnd).1.trans (target?_pick .loopToEnd i _)
    · exact ihRest hstop.tail fun link => (h link).2.2

end Block

end FormReplay
