import TalkTimer.Text.Blank

/-!
# The sample script

A small script with every form of marker: timed blocks in each other, a cue on the third
level, and a closing section without a time.
-/

namespace TalkTimer

/-- The lines of the sample script. -/
def sampleLines : List String :=
  ["# Example Talk",
   "",
   "?10:00",
   "## The Roman Empire",
   "",
   "An overview of the empire and what it left behind.",
   "",
   "??02:00",
   "### Historical Context",
   "",
   "- Founding of Rome: 753 BC",
   "- From Republic to Empire",
   "???00:45",
   "- Territorial expansion",
   "",
   "??03:00",
   "### Government and Administration",
   "",
   "- Structure of the Senate",
   "- The role of the Emperor",
   "- Provinces and their administration",
   "",
   "??03:00",
   "### Cultural Achievements",
   "",
   "- Architecture: the Colosseum, aqueducts, roads",
   "- Literature: Virgil, Cicero, Ovid",
   "- Roman law and its influence",
   "",
   "?!!",
   "## Further Reading",
   "This section has no time budget and can be used for reference.",
   "",
   "- Recommended links",
   "- Bibliography"]

/-- The sample script. -/
def sampleScript : Text := sampleLines.flatMap fun l => l.toList ++ ['\n']

end TalkTimer
