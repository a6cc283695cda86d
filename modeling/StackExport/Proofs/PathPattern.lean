import StackExport.Resource.Events
import StackExport.Proofs.PatternLanguage
/-!
Paths against patterns.

A pattern without a star matches one text. A name matches the last segment of a pattern, behind a
path that matches its other segments; and a pattern speaks of that path as the parent of the name,
as long as its segments survive being joined with dots and read again.
-/
namespace StackExport.Proofs.PathPattern

open StackExport
open StackExport.Resource
open StackExport.Proofs.PatternLanguage

variable {path : Path} {pattern text : List Char} {name written : String} {parent : List String}

/-! ### Segments without stars -/

theorem globMatch_iff (h : '*' ∉ pattern) :
    Path.globMatch pattern text = true ↔ pattern = text := by
  have hliteral : IsInstance (pattern ++ []) text ↔ _ := isInstance_literal_append_iff h
  rw [globMatch_eq_true_iff]
  simpa [isInstance_nil_iff, eq_comm] using hliteral

/-- A pattern of one segment without a star matches one path. -/
theorem isLike_iff_of_single (hparse : Path.parse written = ⟨[name]⟩) (h : '*' ∉ name.toList) :
    path.isLike written = true ↔ path = ⟨[name]⟩ := by
  obtain ⟨segments⟩ := path
  rw [Path.isLike, hparse, Path.isLikeSegments]
  rcases segments with _ | ⟨segment, _ | ⟨second, others⟩⟩
  · simp
  · simp [globMatch_iff h, String.toList_inj, eq_comm]
  · simp

/-! ### The parent of a name -/

/-- A path with a name behind it matches a pattern segment by segment. -/
theorem isLikeSegments_child (last : String) :
    (path.child name).isLikeSegments ⟨parent ++ [last]⟩ =
      (path.isLikeSegments ⟨parent⟩ && Path.globMatch last.toList name.toList) := by
  obtain ⟨segments⟩ := path
  by_cases hlength : parent.length = segments.length
  · simp [Path.isLikeSegments, Path.child, hlength, List.zip_append hlength]
  · have hne : (parent.length == segments.length) = false := beq_eq_false_iff_ne.2 hlength
    simp [Path.isLikeSegments, Path.child, hne]

/-- What a pattern without a star in its last segment requires of a path that its other segments
match: its last segment, if they still match when they are joined with dots and read again. -/
theorem requiredName?_eq (hparse : Path.parse written = ⟨parent ++ [name]⟩)
    (hstar : '*' ∉ name.toList) (hlike : path.isLikeSegments ⟨parent⟩ = true) :
    Rules.requiredName? path written =
      if path.isLike (Path.display ⟨parent⟩) then some name else none := by
  have hlength : parent.length = path.segments.length := by
    simpa using (Bool.and_eq_true_iff.1 hlike).1
  have hdepth : (⟨parent ++ [name]⟩ : Path).depth = path.depth + 1 := by
    simp [Path.depth, hlength]
  have hname : (⟨parent ++ [name]⟩ : Path).name = name := by simp [Path.name]
  have htake : (parent ++ [name]).take path.depth = parent := by
    rw [Path.depth, ← hlength, List.take_left]
  have hcontains : name.toList.contains '*' = false := by simpa using hstar
  simp only [Rules.requiredName?, hparse, hdepth, hname, htake, hcontains, beq_self_eq_true,
    Bool.not_false, Bool.true_and]

/-- A segment that is read as it is written. -/
structure IsPlain (segment : String) : Prop where
  ne_empty : segment.toList ≠ []
  no_dot : '.' ∉ segment.toList
  no_bracket : '[' ∉ segment.toList

end StackExport.Proofs.PathPattern
