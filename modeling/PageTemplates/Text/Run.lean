/-!
# Runs of code points

A character class is a list of runs, each with its first and its last code
point.  The runs of a class ascend, so a search ends at the first run that
starts behind the code point looked for.
-/

namespace PageTemplates

namespace Text

/-- The first and the last code point of a run. -/
abbrev Run := Nat × Nat

/-- Whether a code point is in one of some ascending runs. -/
def inRuns (code : Nat) : List Run → Bool
  | [] => false
  | (first, last) :: rest =>
    if code < first then false
    else if code ≤ last then true
    else inRuns code rest

end Text

end PageTemplates
