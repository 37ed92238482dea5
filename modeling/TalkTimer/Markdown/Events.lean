import TalkTimer.Markdown.Block
import TalkTimer.Markdown.Inline
import TalkTimer.Title

/-!
# Events of a Markdown text

The headings of a text, reported one after the other with their inline content. What lies
outside of headings is passed over here.
-/

namespace TalkTimer
namespace Markdown

/-- The event that reports a fragment. -/
def Fragment.event : Fragment → Event
  | text t => .text t
  | code t => .code t
  | softBreak => .softBreak
  | hardBreak => .hardBreak
  | html => .other

/-- Texts that stand side by side put together. -/
def joinTexts : List Event → List Event
  | [] => []
  | e :: es =>
    match e, joinTexts es with
    | .text s, .text t :: rest => .text (s ++ t) :: rest
    | e, rest => e :: rest

/-- The events of a text that are about its headings. -/
def events (t : Text) : List Event :=
  let o := outline t
  o.headings.flatMap fun h =>
    .headingStart :: joinTexts ((inlines o.labels h).map Fragment.event) ++ [.headingEnd]

end Markdown
end TalkTimer
