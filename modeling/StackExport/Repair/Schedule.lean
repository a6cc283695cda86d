import StackExport.Repair.Problem
/-!
The order in which the reports of one round are fixed.

Fixes go from the bottom up, so that removing lines does not move what is still to be fixed. Of
nested removals only the outermost is kept; what lies inside it is done with it, and a removal that
only partly overlaps a kept one waits for the next round.
-/
namespace StackExport

/-- Lines from the first through the last. -/
structure Span where
  first : Nat
  last : Nat
deriving DecidableEq, Repr

namespace Span

def contains (s : Span) (line : Nat) : Bool := s.first ≤ line && line ≤ s.last

/-- The order of spans by their first lines; of two with one first line the longer comes first. -/
def before (a b : Span) : Bool := a.first < b.first || (a.first == b.first && b.last ≤ a.last)

/-- Keeps the spans that start behind the end of the span kept last. -/
def keepFrom (last : Option Span) : List Span → List Span
  | [] => []
  | s :: rest =>
    match last with
    | some kept => if s.first ≤ kept.last then keepFrom (some kept) rest else s :: keepFrom (some s) rest
    | none => s :: keepFrom (some s) rest

def keep (spans : List Span) : List Span := keepFrom none (spans.mergeSort before)

def around? (kept : List Span) (line : Nat) : Option Span := kept.find? (·.contains line)

end Span

/-- The lines that a report asks to remove. -/
def Problem.removal? (p : Problem) : Option Span :=
  match p.kind with
  | .unconfigurableAttribute | .invalidOrUnknownKey =>
    match p.range with
    | some r => if r.first.line ≤ r.last.line then some ⟨r.first.line, r.last.line⟩ else none
    | none => none
  | _ => none

/-- What becomes of a report in one round. -/
inductive Treatment where
  | scheduled
  /-- It is done with a removal around it. -/
  | absorbed
  | deferred
deriving DecidableEq, Repr

/-- What becomes of a report when some spans are kept and some of them are claimed by earlier
reports. -/
def Problem.treatment (p : Problem) (kept claimed : List Span) : Treatment :=
  match p.removal? with
  | some span =>
    if kept.contains span && !claimed.contains span then .scheduled
    else
      match Span.around? kept span.first with
      | some outer => if span.last ≤ outer.last then .absorbed else .deferred
      | none => .deferred
  | none =>
    match p.line.bind (Span.around? kept) with
    | some _ => .absorbed
    | none => .scheduled

/-- The reports with what becomes of each. -/
def treatments (kept : List Span) : (claimed : List Span) → List Problem → List (Problem × Treatment)
  | _, [] => []
  | claimed, p :: rest =>
    let t := p.treatment kept claimed
    let claimed := match t, p.removal? with
      | .scheduled, some span => span :: claimed
      | _, _ => claimed
    (p, t) :: treatments kept claimed rest

/-- True when one report is about a line that is not above that of another; those without a line
come last. -/
def Problem.notAbove (a b : Problem) : Bool :=
  match a.line, b.line with
  | some m, some n => n ≤ m
  | _, none => true
  | none, some _ => false

/-- The reports to fix, in their order, and the number of those that are done with them. -/
def schedule (problems : List Problem) : List Problem × Nat :=
  let kept := Span.keep (problems.filterMap Problem.removal?)
  let treated := treatments kept [] problems
  let chosen := (treated.filter (·.2 == .scheduled)).map (·.1)
  (chosen.mergeSort Problem.notAbove, treated.countP (·.2 == .absorbed))

end StackExport
