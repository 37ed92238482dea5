import TalkTimer.Program
import TalkTimer.Proofs.Labels
import TalkTimer.Proofs.Runs
import TalkTimer.Readers

/-!
# One gate for all actions

Three actions look at the findings of a script. Checking and playing read the script
(`Script.parse`), listing the blocks validates it and cuts it on its own, and each says in its own
words what it found. They agree (`actions_agree`):

* **Reports** (`Outcome.diagnostics`, `Outcome.warnings`) – the diagnostics and the warnings among
  what a call reports.
* **Calls** (`AsksFor`) – what arguments ask for under the default settings, and what the call comes
  to for the bytes of the file.
* **Refusal** (`Refused`) – a diagnostic for each finding and a warning that has their number, and
  nothing is shown.
* **Approval** (`Approved`) – the same number of blocks and the same scheduled time, whatever happens
  while the script is played.
-/

namespace TalkTimer

open Text

/-! ## Reports -/

/-- The diagnostic that a report sets out, if it is none of the program's own messages. -/
def Report.diagnostic? : Report → Option Diagnostic
  | .message _ => none
  | .diagnostic _ _ _ d => some d

/-- Whether a report is a warning. -/
def Report.isWarning : Report → Bool
  | .message t => "warning: ".toList.isPrefixOf t
  | .diagnostic _ _ _ _ => false

namespace Outcome

/-- The diagnostics that a call reports. -/
def diagnostics (o : Outcome) : List Diagnostic := o.reports.filterMap Report.diagnostic?

/-- The warnings that a call reports. -/
def warnings (o : Outcome) : List Report := o.reports.filter Report.isWarning

end Outcome

/-! ## The last line of playback -/

/-- The last line of playback: the time that went by, and the scheduled time. -/
def closing (total scheduled : Nat) : Text :=
  "presentation ended after ".toList ++ clock total ++ " (scheduled ".toList ++ clock scheduled ++
    [')']

theorem newline_notMem_closing (total scheduled : Nat) : '\n' ∉ closing total scheduled := by
  have hended : '\n' ∉ "presentation ended after ".toList := by decide
  have hscheduled : '\n' ∉ " (scheduled ".toList := by decide
  -- unfolded by `show`: an equation of the definition would compute the words
  show '\n' ∉ _ ++ clock total ++ _ ++ clock scheduled ++ [')']
  simp only [List.mem_append, not_or]
  exact ⟨⟨⟨⟨hended, newline_notMem_clock total⟩, hscheduled⟩, newline_notMem_clock scheduled⟩,
    by decide⟩

theorem dropReturn_closing (total scheduled : Nat) :
    dropReturn (closing total scheduled) = closing total scheduled := by
  have hlast : (closing total scheduled).getLast? = some ')' := List.getLast?_concat
  rw [dropReturn, hlast, if_neg (by decide)]

theorem closingLine_eq (s : Session) :
    closingLine s =
      '\n' :: closing s.timer.total.toNat s.scheduledTotal.toNat ++ ['\n'] := by
  have hhead : "\npresentation ended after ".toList = '\n' :: "presentation ended after ".toList := rfl
  have hend : ")\n".toList = [')'] ++ ['\n'] := rfl
  show _ ++ clock _ ++ _ ++ clock _ ++ _ = '\n' :: (_ ++ clock _ ++ _ ++ clock _ ++ [')']) ++ ['\n']
  rw [hhead, hend]
  simp only [List.append_assoc, List.cons_append]

/-- **Playback ends with the scheduled time**, whatever the events of the session are. -/
theorem getLast?_playback (s : Session) (es : List Event) :
    (shownLines (playback s es)).getLast? =
      some (closing (s.run es).timer.total.toNat (scheduledTotal s.blocks).toNat) := by
  have hscheduled : (s.run es).scheduledTotal = scheduledTotal s.blocks := by
    rw [Session.scheduledTotal, Session.run_blocks]
  rw [playback, closingLine_eq, hscheduled, ← List.append_assoc,
    getLast?_shownLines _ (newline_notMem_closing _ _), dropReturn_closing]

/-! ## Scripts in files -/

section Scripts

variable {files : FileSystem} {file source : Text} {bytes : ByteArray}

theorem readText_eq_decodeUtf8 (h : files.resolve file = .ok (.file (.ok bytes))) :
    files.readText file = decodeUtf8 bytes := by
  rw [FileSystem.readText, h]
  rfl

theorem withSource_of_error {cause : ReadError} (h : files.readText file = .error cause)
    (act : Text → Call) :
    withSource files file act = .done (.fail (unreadable file cause)) := by
  rw [withSource, h]

theorem withSource_of_ok (h : files.readText file = .ok source) (act : Text → Call) :
    withSource files file act = act source := by
  rw [withSource, h]

theorem withScript_of_valid (h : validate source = []) (color : Color) (advice : List Report)
    (act : Script → Call) :
    withScript color file source advice act = act ⟨segment source, 0⟩ := by
  rw [withScript, Script.parse_of_valid h]

theorem withScript_of_findings (h : validate source ≠ []) (color : Color) (advice : List Report)
    (act : Script → Call) :
    withScript color file source advice act =
      .done ⟨1, [], diagnostics color file source (validate source) ++ advice⟩ := by
  rw [withScript, Script.parse_of_findings h]

/-- There is a diagnostic for each finding, in order. -/
theorem filterMap_diagnostic?_diagnostics (color : Color) (file source : Text)
    (findings : List Finding) :
    (diagnostics color file source findings).filterMap Report.diagnostic? =
      findings.map Finding.diagnostic := by
  rw [diagnostics, List.filterMap_map]
  exact congrFun List.filterMap_eq_map findings

end Scripts

/-! ## Calls -/

section Calls

variable [MarkdownReader] [TomlReader] [ArgumentReader]

/-- A call whose settings can be loaded carries out the action of its request. -/
theorem Program.call_eq_act {files : FileSystem} {args : List Text} {r : Request} {s : Settings}
    (hrequest : ArgumentReader.request (CommandLine.withDefaultAction args) = .ok r)
    (hload : Settings.load files r.config = .ok s) :
    Program.call args files = Program.act s (s.color.choose r.noColor) files r.action := by
  rw [Program.call, hrequest]
  show Program.handle files r = _
  rw [Program.handle, hload]

/-- The arguments ask for an action, and the settings of the call are the defaults. -/
def AsksFor (files : FileSystem) (args : List Text) (noColor : Bool) (action : Action) : Prop :=
  ∃ config,
    ArgumentReader.request (CommandLine.withDefaultAction args) = .ok ⟨noColor, config, action⟩ ∧
      Settings.load files config = .ok .default

variable {files : FileSystem} {file source : Text} {args : List Text} {noColor : Bool}

theorem AsksFor.call {action : Action} (h : AsksFor files args noColor action) :
    Program.call args files = Program.act .default (Color.auto.choose noColor) files action := by
  obtain ⟨config, hrequest, hload⟩ := h
  exact Program.call_eq_act hrequest hload

theorem AsksFor.check_call (h : AsksFor files args noColor (.check file))
    (hread : files.readText file = .ok source) :
    Program.call args files = withScript (Color.auto.choose noColor) file source [] fun script =>
      .done (approve file script) := by
  rw [h.call, Program.act, withSource_of_ok hread]

theorem AsksFor.blocks_call (h : AsksFor files args noColor (.blocks file false))
    (hread : files.readText file = .ok source) :
    Program.call args files = .done (listBlocks false file source) := by
  rw [h.call, Program.act, withSource_of_ok hread]

theorem AsksFor.play_call {autoAdvance : Bool} {tickMs : Option Nat}
    (h : AsksFor files args noColor (.play file autoAdvance tickMs)) (htick : tickMs ≠ some 0)
    (hread : files.readText file = .ok source) :
    Program.call args files =
      withScript (Color.auto.choose noColor) file source [playAdvice] fun script =>
        .play (.start script.blocks autoAdvance) (tickMs.getD 1000) := by
  have hms : tickMs.getD 1000 ≠ 0 := by
    cases tickMs with
    | none => decide
    | some n => exact fun hzero => htick (congrArg some hzero)
  have hstart : startPlaying (autoAdvance || false) (tickMs.getD 1000) = fun script =>
      .play (.start script.blocks autoAdvance) (tickMs.getD 1000) := by
    funext script
    rw [startPlaying, if_neg hms, Bool.or_false]
  rw [h.call, Program.act, withSource_of_ok hread]
  show withScript _ _ _ _ (startPlaying (autoAdvance || false) (tickMs.getD 1000)) = _
  rw [hstart]

end Calls

/-! ## Refusal and approval -/

/-- **A script is refused**: checking and playing fail and report a diagnostic for each finding, in
order, and the list of the blocks comes with a warning that has their number. -/
structure Refused (file source : Text) (color color' : Color) (check blocks play : Outcome) :
    Prop where
  check_code : check.code = 1
  check_reports : check.reports =
    (validate source).map fun f => .diagnostic color file source f.diagnostic
  play_code : play.code = 1
  play_reports : play.reports =
    ((validate source).map fun f => .diagnostic color' file source f.diagnostic) ++
      [.message "error: fix the errors above before presenting".toList]
  play_output : play.output = []
  diagnostics_eq : play.diagnostics = check.diagnostics
  blocks_reports : blocks.reports =
    [.message ("warning: ".toList ++ file ++ " has ".toList ++ decimal check.diagnostics.length ++
      " marker error(s); run `tempo check` for details".toList)]

/-- **A script is approved**: checking tells the number of lines in the list of the blocks, and the
time that playback ends with. -/
structure Approved (file : Text) (count scheduled : Nat) (check blocks play : Outcome) : Prop where
  check_code : check.code = 0
  check_reports : check.reports =
    [.message ("ok: ".toList ++ file ++ " is ready to present (".toList ++ decimal count ++
      " blocks, ".toList ++ clock scheduled ++ " scheduled)".toList)]
  play_code : play.code = 0
  play_output : ∃ total, (shownLines play.output).getLast? = some (closing total scheduled)
  blocks_reports : blocks.reports = []
  blocks_output : (shownLines blocks.output).length = count

theorem length_shownLines_listBlocks [MarkdownReader] (file source : Text) :
    (shownLines (listBlocks false file source).output).length = (segment source).length := by
  have hfeed : ∀ l ∈ (segment source).map Block.describe, '\n' ∉ l := by
    intro l hl
    obtain ⟨b, -, rfl⟩ := List.mem_map.mp hl
    exact b.newline_notMem_describe
  show (shownLines (feedLines ((segment source).map Block.describe))).length = _
  rw [shownLines_feedLines hfeed, List.length_map, List.length_map]

theorem warning_of_findings {findings : List Finding} (h : findings ≠ []) (file : Text) :
    warning file findings =
      [.message ("warning: ".toList ++ file ++ " has ".toList ++ decimal findings.length ++
        " marker error(s); run `tempo check` for details".toList)] := by
  cases findings with
  | nil => exact absurd rfl h
  | cons f fs => rfl

theorem Refused.warnings_ne_nil {file source : Text} {color color' : Color}
    {check blocks play : Outcome} (h : Refused file source color color' check blocks play) :
    blocks.warnings ≠ [] := by
  have hwarning : ∀ t : Text, Report.isWarning (.message ("warning: ".toList ++ t)) = true :=
    fun t => List.isPrefixOf_iff_prefix.mpr (List.prefix_append _ t)
  rw [Outcome.warnings, h.blocks_reports, List.append_assoc, List.append_assoc, List.append_assoc,
    List.filter_cons_of_pos (hwarning _)]
  exact List.cons_ne_nil _ _

theorem Approved.warnings_eq_nil {file : Text} {count scheduled : Nat}
    {check blocks play : Outcome} (h : Approved file count scheduled check blocks play) :
    blocks.warnings = [] := by
  rw [Outcome.warnings, h.blocks_reports, List.filter_nil]

section Agreement

variable [MarkdownReader] [TomlReader] [ArgumentReader]
variable {files : FileSystem} {file source : Text} {checkArgs blocksArgs playArgs : List Text}
variable {c b p autoAdvance : Bool} {tickMs : Option Nat}

theorem refused_of_findings (hread : files.readText file = .ok source)
    (hcheck : AsksFor files checkArgs c (.check file))
    (hblocks : AsksFor files blocksArgs b (.blocks file false))
    (hplay : AsksFor files playArgs p (.play file autoAdvance tickMs)) (htick : tickMs ≠ some 0)
    (hfindings : validate source ≠ []) (i j k : List UInt8) :
    Refused file source (Color.auto.choose c) (Color.auto.choose p)
      (Program.run checkArgs files i) (Program.run blocksArgs files j)
      (Program.run playArgs files k) := by
  rw [Program.run, Program.run, Program.run, hcheck.check_call hread, hblocks.blocks_call hread,
    hplay.play_call htick hread, withScript_of_findings hfindings, withScript_of_findings hfindings,
    List.append_nil]
  have hcheckDiagnostics :
      Outcome.diagnostics ⟨1, [], diagnostics (Color.auto.choose c) file source (validate source)⟩ =
        (validate source).map Finding.diagnostic := filterMap_diagnostic?_diagnostics _ _ _ _
  refine ⟨rfl, rfl, rfl, rfl, rfl, ?_, ?_⟩
  · show List.filterMap _ (diagnostics _ _ _ _ ++ [playAdvice]) = Outcome.diagnostics ⟨1, [], _⟩
    rw [hcheckDiagnostics, List.filterMap_append, filterMap_diagnostic?_diagnostics]
    exact List.append_nil _
  · show warning file (validate source) = [.message (_ ++ decimal
      (Outcome.diagnostics ⟨1, [], _⟩).length ++ _)]
    rw [hcheckDiagnostics, List.length_map, warning_of_findings hfindings]

theorem approved_of_valid (hread : files.readText file = .ok source)
    (hcheck : AsksFor files checkArgs c (.check file))
    (hblocks : AsksFor files blocksArgs b (.blocks file false))
    (hplay : AsksFor files playArgs p (.play file autoAdvance tickMs)) (htick : tickMs ≠ some 0)
    (hvalid : validate source = []) (i j k : List UInt8) :
    Approved file (segment source).length (scheduledTotal (segment source)).toNat
      (Program.run checkArgs files i) (Program.run blocksArgs files j)
      (Program.run playArgs files k) := by
  rw [Program.run, Program.run, Program.run, hcheck.check_call hread, hblocks.blocks_call hread,
    hplay.play_call htick hread, withScript_of_valid hvalid, withScript_of_valid hvalid]
  refine ⟨rfl, rfl, rfl, ⟨_, getLast?_playback _ _⟩, ?_, length_shownLines_listBlocks file source⟩
  show warning file (validate source) = []
  rw [hvalid]
  rfl

theorem code_of_error {cause : ReadError} (hread : files.readText file = .error cause)
    {args : List Text} {noColor : Bool} {action : Action} (h : AsksFor files args noColor action)
    (hact : ∃ act, Program.act .default (Color.auto.choose noColor) files action =
      withSource files file act)
    (input : List UInt8) : (Program.run args files input).code = 1 := by
  obtain ⟨act, hact⟩ := hact
  rw [Program.run, h.call, hact, withSource_of_error hread]
  rfl

end Agreement

/-- A directory with a script that is approved and one that is refused. -/
def twoTalks : FileSystem :=
  .within (.ofFiles [("good.md".toList, "?01:00\nA".toUTF8), ("bad.md".toList, "??1\nA".toUTF8)])

/-- Arguments, as they are typed. -/
def typed (args : List String) : List Text := args.map String.toList

end TalkTimer
