import StackExport.Event
/-!
Well-nested streams: every start is closed by the stop of its own group, and at the end nothing is
open.
-/
namespace StackExport

/-- Why a stream is not well nested. -/
inductive BalanceFault where
  | mismatch (expected found : Group)
  | unopened (found : Group)
  | unclosed (expected : Group)
deriving DecidableEq, Repr

/-- The words for a fault. -/
def BalanceFault.detail : BalanceFault → String
  | .mismatch expected found => "expected " ++ expected.stopKind ++ ", got " ++ found.stopKind
  | .unopened found => found.stopKind ++ " at depth 0"
  | .unclosed expected => "stream ended before " ++ expected.stopKind

/-- A fault and the number of the event at which it shows. -/
structure BalanceError where
  index : Nat
  fault : BalanceFault
deriving DecidableEq, Repr

/-- The message for a fault. -/
def BalanceError.message (e : BalanceError) : String :=
  "unbalanced event stream at event " ++ toString e.index ++ ": " ++ e.fault.detail

/-- Checks the rest of a stream, from the event with a given number on, while some levels are open,
the innermost first. -/
def checkFrom (index : Nat) : (opened : List Group) → List Event → Except BalanceError Unit
  | [], [] => .ok ()
  | g :: _, [] => .error ⟨index, .unclosed g⟩
  | opened, .start o :: rest => checkFrom (index + 1) (o.group :: opened) rest
  | [], .stop g :: _ => .error ⟨index, .unopened g⟩
  | g :: opened, .stop h :: rest =>
    if g = h then checkFrom (index + 1) opened rest else .error ⟨index, .mismatch g h⟩
  | opened, _ :: rest => checkFrom (index + 1) opened rest

/-- Checks that a stream is well nested. -/
def checkBalance (events : List Event) : Except BalanceError Unit :=
  checkFrom 0 [] events

end StackExport
