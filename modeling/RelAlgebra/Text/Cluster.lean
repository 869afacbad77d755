import RelAlgebra.Text.Joining

/-!
Clusters, the pieces of a line that a reader takes for one character each, and lines with
backspaces, each of which takes back the cluster typed before it.
-/

namespace RelAlgebra.Text

/-- What the end of a cluster can still be joined by. -/
inductive Ending where
  /-- Nothing joins a control character, nor the start of a line. -/
  | control
  | ahead
  | lead
  | vowel
  | tail
  | picture
  /-- A picture and a joiner. -/
  | joinedPicture
  | consonant
  /-- A consonant and a linker. -/
  | linkedConsonant
  /-- Half of a flag, without the other half. -/
  | flag
  /-- Only marks join it. -/
  | plain
  deriving DecidableEq, Repr

namespace Ending

/-- The ending after one more character, which may start a cluster. -/
def after : Ending → Joining → Ending
  | _, .control => control
  | _, .ahead => ahead
  | _, .lead => lead
  | _, .vowel | _, .opened => vowel
  | _, .tail | _, .closed => tail
  | _, .pictograph => picture
  | _, .consonant => consonant
  | flag, .flag => plain
  | _, .flag => flag
  | picture, .mark | picture, .linker | picture, .nonJoiner => picture
  | picture, .joiner => joinedPicture
  | consonant, .mark | consonant, .joiner => consonant
  | consonant, .linker => linkedConsonant
  | linkedConsonant, .mark | linkedConsonant, .joiner | linkedConsonant, .linker =>
    linkedConsonant
  | _, _ => plain

/-- Whether a character belongs to the cluster before it. -/
def joins : Ending → Joining → Bool
  | control, _ | _, .control => false
  | ahead, _ => true
  | _, .mark | _, .linker | _, .joiner | _, .nonJoiner | _, .spacing => true
  | lead, .lead | lead, .vowel | lead, .opened | lead, .closed => true
  | vowel, .vowel | vowel, .tail | tail, .tail => true
  | joinedPicture, .pictograph | linkedConsonant, .consonant | flag, .flag => true
  | _, _ => false

end Ending

/-- The characters that belong to the cluster before them, and the clusters after it. -/
def clustersAfter (e : Ending) : List Char → List Char × List (List Char)
  | [] => ([], [])
  | c :: cs =>
    let j := Joining.of c
    let (first, more) := clustersAfter (e.after j) cs
    if e.joins j then (c :: first, more) else ([], (c :: first) :: more)

/-- The clusters of a line. -/
def clusters (cs : List Char) : List (List Char) := (clustersAfter .control cs).2

def backspace : Char := '\x08'

/-- One more cluster after those typed, the last of which comes first. -/
def typed (before : List (List Char)) (cluster : List Char) : List (List Char) :=
  if cluster = [backspace] then before.tail else cluster :: before

/-- The line that is left when every backspace has taken back the cluster before it, if there is
one. Clusters are those of the line as it was typed. -/
def takenBack (cs : List Char) : List Char :=
  if cs.contains backspace then ((clusters cs).foldl typed []).reverse.flatten else cs

end RelAlgebra.Text
