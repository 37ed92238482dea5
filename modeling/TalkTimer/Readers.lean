import TalkTimer.Arguments
import TalkTimer.Markdown.Events
import TalkTimer.Toml.Document

/-!
# Readers

The readers of Markdown, TOML and arguments that the program comes with. Whatever is proved of the
program is proved for all readers; these are the ones that it runs with.
-/

namespace TalkTimer

instance : MarkdownReader := ⟨Markdown.events⟩

instance : TomlReader := ⟨Toml.parse?⟩

instance : ArgumentReader := ⟨CommandLine.request⟩

end TalkTimer
