import FormReplay.Run.Session
/-!
# Values and conditions

What a step applies, and what decides conditionals and while loops.  By the standard rules data is
read off the row, and all else is asked of the host.  A host with rules of its own is given the
source or the condition instead, with the row.
-/
namespace FormReplay

variable {σ : Type}

def standardValue (env : Env σ) (row : DataRow) : ValueSource → Engine σ String
  | .static value => return value
  | .data field =>
    match row.getText? field with
    | some value => return value
    | none       => fail (.value (.fieldMissing field))
  | .clipboard => do
    if env.host.hasClipboard then
      match ← ask env .clipboard with
      | some value => return value
      | none       => fail (.value .clipboardEmpty)
    else fail (.value .noClipboard)

/-- The value of a source for a row.  Only rules of the host's own may come to none. -/
def resolveValue (env : Env σ) (row : DataRow) (source : ValueSource) : Engine σ (Option String) := do
  note (.resolving source row)
  if env.host.resolves then ask env (.resolve source row)
  else return some (← standardValue env row source)

def valueFor (env : Env σ) (row : DataRow) : Option ValueSource → Engine σ (Option String)
  | none        => return none
  | some source => resolveValue env row source

def standardVerdict (env : Env σ) (row : DataRow) : Condition → Engine σ Bool
  | .data field op value => return op.holds field value row
  | .ui target check value => do return check.holds value (← ask env (.inspect target))

def evaluate (env : Env σ) (row : DataRow) (condition : Condition) : Engine σ Bool := do
  note (.judging condition row)
  if env.host.judges then ask env (.judge condition row)
  else standardVerdict env row condition

/-- Asks for an element until it is in the state wanted, every `waitPoll` milliseconds, and fails at
the first look at or after the deadline that does not find it so. -/
def pollElement (env : Env σ) (w : WaitSpec) (timeout deadline : Nat) : Nat → Engine σ Unit
  | 0 => outOfFuel
  | fuel + 1 => do
    checkpoint env
    let state ← ask env (.inspect w.target)
    if state.satisfies w.state then return
    if deadline ≤ (← get).world.clock then fail (.step (.timedOut timeout w.target w.state))
    pass env .waitPoll env.config.waitPoll
    pollElement env w timeout deadline fuel

def waitFor (env : Env σ) (w : WaitSpec) : Engine σ Unit := do
  let timeout := (w.timeout.map UInt64.toNat).getD env.config.waitTimeout
  pollElement env w timeout ((← get).world.clock + timeout) env.fuel

end FormReplay
