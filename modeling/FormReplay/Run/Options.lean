import FormReplay.Json.Decode
/-!
# Options of a run
-/
namespace FormReplay

structure RunOptions where
  skipRows  : Nat := 0
  /-- The most primary rows to process after those. -/
  limitRows : Option Nat := none
  dryRun    : Bool := false
  /-- Ask for a decision on every interruption without a handler, and confirm every step. -/
  learningMode : Bool := false
  /-- Stop at the first interruption without a handler. -/
  runUntilInterception : Bool := false
  deriving DecidableEq, Repr

namespace RunOptions

def ofTree? {β : Type} [Readable β] (b : β) : Option RunOptions := do
  let f ← Readable.fields? ["skipRows", "limitRows", "dryRun", "learningMode", "runUntilInterception"] b
  return {
    skipRows             := ← f.withDefault "skipRows" Readable.nat64? 0
    limitRows            := ← f.optional "limitRows" Readable.nat64?
    dryRun               := ← f.withDefault "dryRun" Readable.bool? false
    learningMode         := ← f.withDefault "learningMode" Readable.bool? false
    runUntilInterception := ← f.withDefault "runUntilInterception" Readable.bool? false }

def toJson (o : RunOptions) : Json :=
  .obj [("skipRows", .ofNat o.skipRows), ("limitRows", .ofOption .ofNat o.limitRows),
    ("dryRun", .bool o.dryRun), ("learningMode", .bool o.learningMode),
    ("runUntilInterception", .bool o.runUntilInterception)]

end RunOptions

end FormReplay
