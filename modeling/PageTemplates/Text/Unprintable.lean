import PageTemplates.Text.Mark
import PageTemplates.Text.Unassigned

/-!
# Characters that are not shown

A quoted text does not show every character as itself.  Some have no shape of
their own: control and format characters, blanks other than the space, line and
paragraph separators, private characters and fillers.  Marks would attach to
the character in front of them, and an unassigned code point has nothing to
show.
-/

namespace PageTemplates

namespace Text

/-- The runs of characters without a shape of their own. -/
def shapelessRuns : List Run :=
  [(0, 31), (127, 160), (173, 173), (1536, 1541), (1564, 1564), (1757, 1757), (1807, 1807),
   (2192, 2193), (2274, 2274), (4447, 4448), (5760, 5760), (6158, 6158), (8192, 8203),
   (8205, 8207), (8232, 8239), (8287, 8292), (8294, 8303), (12288, 12288), (12644, 12644),
   (57344, 63743), (65279, 65279), (65440, 65440), (65529, 65531), (69821, 69821),
   (69837, 69837), (78896, 78911), (113824, 113827), (119155, 119162), (917505, 917505),
   (983040, 1048573), (1048576, 1114109)]

/-- Whether a character is shown as itself. -/
def isPrintable (c : Char) : Bool :=
  !(inRuns c.toNat shapelessRuns || inRuns c.toNat markRuns || inRuns c.toNat unassignedRuns)

end Text

end PageTemplates
