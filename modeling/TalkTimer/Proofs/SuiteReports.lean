import Mathlib.Data.List.SplitBy
import TalkTimer.Proofs.Gate
import TalkTimer.Proofs.TestTrees
import TalkTimer.Readers

/-!
# Reports on suites

A suite is run in the order of its tests and reported on in groups, one for each directory that has
tests. The order and the groups are told by the tree:

* **Groups have one directory** (`TestFile.folder_eq_of_directory_eq`) – the path of a directory
  tells its names, since none of them has a slash.
* **Groups of a suite** (`isGrouping_splitBy`) – cutting the sorted tests where the group changes
  gives every directory once, in the order of the paths.
* **Layout** (`Layout.groupText`, `Layout.summary`) – the lines of a report, with the escape sequences
  of its colours kept apart from what they tell.
* **Reports** (`reports_testPath`) – what is reported about groups, with the numbers of tests that
  passed and failed, and the exit code.
* **Suites** (`suite_runs_every_test_once`) – the same of a call.
-/

namespace TalkTimer

open Text

variable {es : List (Text × Entry)} {folder : List Text} {name : Text}
variable {bytes : Except ReadError ByteArray} {f g : TestFile}

/-! ## Directories of tests -/

theorem IsTree.isName (h : IsTree es) (hf : Holds es folder name bytes) :
    (∀ d ∈ folder, IsName d) ∧ IsName name := by
  induction hf with
  | file hmem =>
      obtain ⟨-, hnames, -⟩ := h
      exact ⟨List.forall_mem_nil _, hnames _ hmem⟩
  | directory hmem _ ih =>
      obtain ⟨-, hnames, hinner⟩ := h
      have hsub := ih (hinner _ _ hmem)
      exact ⟨List.forall_mem_cons.mpr ⟨hnames _ hmem, hsub.1⟩, hsub.2⟩

namespace TestFile

/-- The path from the root of the suite to the directory of the test. -/
def directory (f : TestFile) : Text := ['/'].intercalate f.folder

theorem group_eq_directory (h : ∀ d ∈ f.folder, IsName d) : f.group = f.directory := by
  have hsame : ∀ c ∈ f.directory, (if c = '\\' then '/' else c) = c := by
    intro c hc
    apply if_neg
    rintro rfl
    rcases mem_intercalate hc with hslash | ⟨d, hd, hc⟩
    · simp at hslash
    · exact (h d hd).backslash_notMem hc
  show f.directory.map _ = f.directory
  rw [List.map_congr_left hsame, List.map_id']

theorem splitOn_directory (h : ∀ d ∈ f.folder, IsName d) (hne : f.folder ≠ []) :
    f.directory.splitOn '/' = f.folder :=
  List.splitOn_intercalate '/' (fun d hd => (h d hd).slash_notMem) hne

theorem directory_ne_nil (h : ∀ d ∈ f.folder, IsName d) (hne : f.folder ≠ []) :
    f.directory ≠ [] := by
  intro hnil
  have hsplit := splitOn_directory h hne
  rw [hnil, List.splitOn_nil] at hsplit
  exact (h [] (hsplit ▸ List.mem_singleton_self [])).ne_nil rfl

/-- **The path of a directory tells its names.** -/
theorem folder_eq_of_directory_eq (hf : ∀ d ∈ f.folder, IsName d) (hg : ∀ d ∈ g.folder, IsName d)
    (h : f.directory = g.directory) : f.folder = g.folder := by
  by_cases hfnil : f.folder = []
  · by_cases hgnil : g.folder = []
    · rw [hfnil, hgnil]
    · refine absurd ?_ (directory_ne_nil hg hgnil)
      rw [← h, directory, hfnil]
      rfl
  · by_cases hgnil : g.folder = []
    · refine absurd ?_ (directory_ne_nil hf hfnil)
      rw [h, directory, hgnil]
      rfl
    · rw [← splitOn_directory hf hfnil, h, splitOn_directory hg hgnil]

end TestFile

/-! ## Groups -/

/-- The text `s` comes before the text `t`. -/
def Text.Precedes (s t : Text) : Prop := Text.le s t = true ∧ s ≠ t

instance : Trans Text.Precedes Text.Precedes Text.Precedes where
  trans := by
    rintro s t u ⟨hst, hne⟩ ⟨htu, -⟩
    refine ⟨Text.le_trans hst htu, ?_⟩
    rintro rfl
    exact hne (eq_of_le_of_le hst htu)

/-- **The groups of a suite**: every test of the tree stands in one group, once; a group has the
tests of one directory, in the order of their paths, and the directories come in the order of their
paths. -/
structure IsGrouping (es : List (Text × Entry)) (groups : List (List TestFile)) : Prop where
  ne_nil : ∀ ts ∈ groups, ts ≠ []
  mem_iff : ∀ f, f ∈ groups.flatten ↔ IsTest es f
  nodup : (groups.flatten.map TestFile.path).Nodup
  heading : ∀ f ∈ groups.flatten, f.group = f.directory
  folder_eq : ∀ ts ∈ groups, ∀ f ∈ ts, ∀ g ∈ ts, f.folder = g.folder
  files : ∀ ts ∈ groups, ts.Pairwise fun f g => pathLe f.path g.path = true
  directories : groups.Pairwise fun ts us => ∀ f ∈ ts, ∀ g ∈ us, f.directory.Precedes g.directory

/-- Tests in groups, where the group changes. -/
def grouped (ts : List TestFile) : List (List TestFile) := ts.splitBy fun f g => f.group == g.group

section Grouped

variable {ts us : List TestFile}

theorem group_eq_of_mem_grouped (hus : us ∈ grouped ts) (hf : f ∈ us) (hg : g ∈ us) :
    f.group = g.group := by
  have hchain : (us.map TestFile.group).IsChain Eq := by
    rw [List.isChain_map]
    exact (List.isChain_of_mem_splitBy hus).imp fun f g h => eq_of_beq h
  have hall := hchain.pairwise.forall_of_forall fun _ _ => rfl
  exact hall (List.mem_map_of_mem hf) (List.mem_map_of_mem hg)

/-- The group that the tests of a list begin with. -/
def firstGroup (ts : List TestFile) : Text := (ts.head?.map TestFile.group).getD []

theorem firstGroup_of_mem (hus : us ∈ grouped ts) (hf : f ∈ us) : firstGroup us = f.group := by
  cases us with
  | nil => cases hf
  | cons g us => exact group_eq_of_mem_grouped hus List.mem_cons_self hf

/-- **No group comes back.** Between neighbours the group grows, and so it does between any two. -/
theorem pairwise_grouped (h : ts.Pairwise fun f g => f.le g = true) :
    (grouped ts).Pairwise fun us vs => ∀ f ∈ us, ∀ g ∈ vs, f.group.Precedes g.group := by
  have hsorted : (grouped ts).flatten.Pairwise fun f g => f.le g = true := by
    rw [grouped, List.flatten_splitBy]
    exact h
  have hle := List.pairwise_iff_getElem.mp (List.pairwise_flatten.mp hsorted).2
  have hdiffer : (grouped ts).IsChain fun us vs =>
      ∃ hus hvs, ((us.getLast hus).group == (vs.head hvs).group) = false :=
    List.isChain_getLast_head_splitBy (fun f g : TestFile => f.group == g.group) ts
  have hchain : ((grouped ts).map firstGroup).IsChain Text.Precedes := by
    rw [List.isChain_map, List.isChain_iff_getElem]
    intro i hi
    obtain ⟨hne, hne', hgroups⟩ := List.isChain_iff_getElem.mp hdiffer i hi
    have hlast := List.getLast_mem hne
    have hhead := List.head_mem hne'
    rw [firstGroup_of_mem (List.getElem_mem _) hlast, firstGroup_of_mem (List.getElem_mem _) hhead]
    exact ⟨TestFile.group_le_of_le (hle i (i + 1) _ hi (Nat.lt_succ_self i) _ hlast _ hhead),
      beq_eq_false_iff_ne.mp hgroups⟩
  refine (List.pairwise_map.mp hchain.pairwise).imp_of_mem fun {us vs} hus hvs hlt => ?_
  intro f hf g hg
  rwa [firstGroup_of_mem hus hf, firstGroup_of_mem hvs hg] at hlt

end Grouped

/-- **The groups of a suite.** Cutting the sorted tests of a tree where the group changes gives its
directories. -/
theorem isGrouping_splitBy (htree : IsTree es) : IsGrouping es (grouped (discover es)) := by
  have hflat : (grouped (discover es)).flatten = discover es := List.flatten_splitBy _ _
  have hsorted := pairwise_discover es
  have hmem : ∀ ts ∈ grouped (discover es), ∀ f ∈ ts, IsTest es f := by
    intro ts hts f hf
    rw [← mem_discover_iff, ← hflat]
    exact List.mem_flatten_of_mem hts hf
  have hnames : ∀ f, IsTest es f → ∀ d ∈ f.folder, IsName d := fun f hf => (htree.isName hf.1).1
  have hheading : ∀ f, IsTest es f → f.group = f.directory :=
    fun f hf => TestFile.group_eq_directory (hnames f hf)
  constructor
  case ne_nil => exact fun ts => List.ne_nil_of_mem_splitBy
  case mem_iff =>
    intro f
    rw [hflat, mem_discover_iff]
  case nodup =>
    rw [hflat]
    exact htree.nodup_discover
  case heading =>
    intro f hf
    rw [hflat, mem_discover_iff] at hf
    exact hheading f hf
  case folder_eq =>
    intro ts hts f hf g hg
    have hgroup := group_eq_of_mem_grouped hts hf hg
    rw [hheading f (hmem ts hts f hf), hheading g (hmem ts hts g hg)] at hgroup
    exact TestFile.folder_eq_of_directory_eq (hnames f (hmem ts hts f hf))
      (hnames g (hmem ts hts g hg)) hgroup
  case files =>
    intro ts hts
    rw [← hflat] at hsorted
    refine ((List.pairwise_flatten.mp hsorted).1 ts hts).imp_of_mem fun {f g} hf hg hle => ?_
    exact TestFile.pathLe_of_le hle (group_eq_of_mem_grouped hts hf hg)
  case directories =>
    refine (pairwise_grouped hsorted).imp_of_mem fun {ts us} hts hus hlt => ?_
    intro f hf g hg
    rw [← hheading f (hmem ts hts f hf), ← hheading g (hmem us hus g hg)]
    exact hlt f hf g hg

/-! ## Layout -/

namespace Layout

/-- The escape sequence with a code. Without colours there is none. -/
def sequence (colors : Bool) (code : String) : Text :=
  if colors then Char.ofNat 0x1B :: '[' :: code.toList ++ ['m'] else []

/-- The line of a test tells whether it passes, in green or in red, and what it is called. -/
def testLine (colors : Bool) (r : TestRun) : Text :=
  "  ".toList ++ (if r.passes then sequence colors "32" ++ "PASS".toList
    else sequence colors "31" ++ "FAIL".toList) ++ sequence colors "0" ++ "  ".toList ++ r.label

/-- The lines of a group: an empty line and its directory, unless that is the root of the suite, and
a line for each of its tests. -/
def groupText (colors : Bool) : List TestRun → List Text
  | [] => []
  | r :: rs =>
    (if r.group = [] then [] else [[], sequence colors "1" ++ r.group ++ sequence colors "0"]) ++
      (r :: rs).map (testLine colors)

/-- The last line tells how many tests passed and how many failed. -/
def summary (colors : Bool) (passed failed : Nat) : Text :=
  "test result: ".toList ++ (if failed = 0 then sequence colors "32" ++ "ok".toList
    else sequence colors "31" ++ "FAILED".toList) ++ sequence colors "0" ++ ". ".toList ++
    decimal passed ++ " passed, ".toList ++ decimal failed ++ " failed".toList ++
    (if failed = 0 then [] else " (of ".toList ++ decimal (passed + failed) ++ [')'])

variable (colors : Bool)

theorem paint_eq (code : String) (t : Text) :
    paint colors code t = sequence colors code ++ t ++ sequence colors "0" := by
  cases colors
  · exact (List.append_nil t).symm
  · simp only [paint, sequence, if_true, List.append_assoc, List.cons_append]
    rfl

theorem outcomeLine_eq : TestRun.outcomeLine colors = testLine colors := by
  funext r
  unfold TestRun.outcomeLine testLine
  rw [paint_eq, paint_eq]
  split <;> simp only [List.append_assoc]

theorem groupLines_eq : groupLines colors = groupText colors := by
  funext runs
  cases runs with
  | nil => rfl
  | cons r rs =>
      show groupHeading colors r.group ++ _ = _ ++ _
      rw [groupHeading, paint_eq, outcomeLine_eq]
      by_cases h : r.group = []
      · rw [if_pos h, h]
        rfl
      · rw [if_neg h, if_neg (by simpa using h)]

theorem summaryLine_eq (passed failed : Nat) :
    summaryLine colors passed failed = summary colors passed failed := by
  unfold summaryLine summary
  rw [paint_eq, paint_eq]
  split
  · next h =>
    have hnone : " passed, 0 failed".toList = " passed, ".toList ++ decimal 0 ++ " failed".toList :=
      rfl
    rw [h, hnone]
    simp only [List.append_assoc, List.append_nil]
  · have hof : " failed (of ".toList = " failed".toList ++ " (of ".toList := rfl
    rw [hof]
    simp only [List.append_assoc]

end Layout

/-! ## Reports -/

/-- **The report on the groups of a suite**: there is nothing but the report, and the call succeeds if
there are tests and all of them pass. The report has a line for every test below the heading of its
group, and tells at its end how many tests passed and how many failed; the two make up all of
them. -/
structure Reports (colors : Bool) (path : Text) (groups : List (List TestRun)) (o : Outcome) :
    Prop where
  output : o.output = []
  code_le : o.code ≤ 1
  code : o.code = 0 ↔ groups.flatten ≠ [] ∧ ∀ r ∈ groups.flatten, r.passes = true
  nothing : groups.flatten = [] →
    o.reports = [.message ("no .test.md files found in ".toList ++ path)]
  tests : groups.flatten ≠ [] → ∃ passed failed,
    passed + failed = groups.flatten.length ∧ passed = groups.flatten.countP TestRun.passes ∧
    o.reports = (groups.flatMap (Layout.groupText colors) ++
      failuresLines (groups.flatten.filter fun r => !r.passes) ++
      [[], Layout.summary colors passed failed]).map .message

theorem suitePasses_iff (runs : List TestRun) :
    suitePasses runs = true ↔ runs ≠ [] ∧ ∀ r ∈ runs, r.passes = true := by
  rw [suitePasses, Bool.and_eq_true, Bool.not_eq_true', List.isEmpty_eq_false_iff, List.all_eq_true]

theorem length_sub_length_failed (runs : List TestRun) :
    runs.length - (runs.filter fun r => !r.passes).length = runs.countP TestRun.passes := by
  have hcount := List.length_eq_countP_add_countP TestRun.passes (l := runs)
  have hfailed : runs.countP (fun r => decide ¬r.passes = true) =
      (runs.filter fun r => !r.passes).length := by
    rw [List.countP_eq_length_filter]
    simp
  omega

theorem reports_testPath [MarkdownReader] [TomlReader] (colors : Bool) (files : FileSystem)
    (path : Text) :
    Reports colors path ((runSuite files path).splitBy fun a b => a.group == b.group)
      (Program.testPath colors files path) := by
  have hflat : ((runSuite files path).splitBy fun a b => a.group == b.group).flatten =
      runSuite files path := List.flatten_splitBy _ _
  constructor
  case output => rfl
  case code_le =>
    show (if _ then 0 else 1) ≤ 1
    split <;> decide
  case code =>
    rw [hflat, ← suitePasses_iff]
    show (if _ then 0 else 1) = 0 ↔ _
    split <;> simp [*]
  case nothing =>
    intro hnil
    rw [hflat] at hnil
    show suiteReport colors path (runSuite files path) = _
    rw [hnil]
    rfl
  case tests =>
    intro hne
    rw [hflat] at hne ⊢
    refine ⟨_, ((runSuite files path).filter fun r => !r.passes).length, ?_,
      length_sub_length_failed _, ?_⟩
    · exact Nat.sub_add_cancel (List.length_filter_le _ _)
    · show suiteReport colors path (runSuite files path) = _
      rw [suiteReport, if_neg (by simpa using hne), ← Layout.groupLines_eq, ← Layout.summaryLine_eq]
      rfl

/-- Running the tests keeps them in their groups. -/
theorem splitBy_map_ofFile [MarkdownReader] [TomlReader] (path : Text) (ts : List TestFile) :
    ((ts.map (TestRun.ofFile path)).splitBy fun a b => a.group == b.group) =
      (grouped ts).map (List.map (TestRun.ofFile path)) := by
  rw [List.splitBy_eq_iff]
  refine ⟨?_, ?_, ?_, ?_⟩
  · rw [← List.map_flatten, grouped, List.flatten_splitBy]
  · rintro hnil
    obtain ⟨us, hus, heq⟩ := List.mem_map.mp hnil
    exact List.ne_nil_of_mem_splitBy hus (List.map_eq_nil_iff.mp heq)
  · intro runs hruns
    obtain ⟨us, hus, rfl⟩ := List.mem_map.mp hruns
    rw [List.isChain_map]
    exact List.isChain_of_mem_splitBy hus
  · rw [List.isChain_map]
    refine (List.isChain_getLast_head_splitBy (fun f g : TestFile => f.group == g.group) ts).imp ?_
    rintro us vs ⟨hus, hvs, hdiffer⟩
    refine ⟨fun h => hus (List.map_eq_nil_iff.mp h), fun h => hvs (List.map_eq_nil_iff.mp h), ?_⟩
    rw [List.getLast_map, List.head_map]
    exact hdiffer

/-! ## Suites -/

section Suites

variable [MarkdownReader] [TomlReader]
variable {files files' : FileSystem} {path : Text} {entries entries' : List (Text × Entry)}
variable {colors : Bool} {o : Outcome}

theorem runSuite_of_directory (h : files.resolve path = .ok (.directory entries)) :
    runSuite files path = (discover entries).map (.ofFile path) := by
  rw [runSuite, h]

theorem runSuite_of_file (h : files.resolve path = .ok (.file bytes)) :
    runSuite files path = [.single path bytes] := by
  rw [runSuite, h]

theorem testPath_of_directory (h : files.resolve path = .ok (.directory entries))
    (htree : IsTree entries) :
    ∃ groups, IsGrouping entries groups ∧
      Reports colors path (groups.map (List.map (TestRun.ofFile path)))
        (Program.testPath colors files path) := by
  have hreports := reports_testPath colors files path
  rw [runSuite_of_directory h, splitBy_map_ofFile] at hreports
  exact ⟨_, isGrouping_splitBy htree, hreports⟩

theorem testPath_of_file (h : files.resolve path = .ok (.file bytes)) :
    Reports colors path [[.single path bytes]] (Program.testPath colors files path) := by
  have hreports := reports_testPath colors files path
  rw [runSuite_of_file h] at hreports
  exact hreports

/-- A call about the tests of a tree succeeds if there are any and all of them pass. -/
theorem Reports.code_eq_zero_iff {groups : List (List TestFile)}
    (h : Reports colors path (groups.map (List.map (TestRun.ofFile path))) o)
    (hgrouping : IsGrouping entries groups) :
    o.code = 0 ↔ (∃ f, IsTest entries f) ∧
      ∀ f, IsTest entries f → (Verdict.ofBytes f.bytes).passes = true := by
  rw [h.code, ← List.map_flatten, List.forall_mem_map, Ne, List.map_eq_nil_iff,
    List.eq_nil_iff_forall_not_mem]
  simp only [hgrouping.mem_iff, not_forall_not]
  rfl

theorem testPath_eq_of_relisted (htree : IsTree entries) (hrel : Relisted entries entries')
    (h : files.resolve path = .ok (.directory entries))
    (h' : files'.resolve path = .ok (.directory entries')) :
    Program.testPath colors files' path = Program.testPath colors files path := by
  have hruns : runSuite files' path = runSuite files path := by
    rw [runSuite_of_directory h, runSuite_of_directory h', discover_eq_of_relisted htree hrel]
  rw [Program.testPath, Program.testPath, hruns]

end Suites

/-- A test that expects nothing. -/
def easyTest : Except ReadError ByteArray := .ok "---\n\n---\nA".toUTF8

/-- A suite with a test, a file that is none, and a directory that is named like a test. -/
def mixedSuite : List (Text × Entry) :=
  [("notes.md".toList, .file (.ok "A".toUTF8)),
    ("old.test.md".toList, .directory [("deep.test.md".toList, .file easyTest)]),
    ("first.test.md".toList, .file easyTest)]

/-- A working directory with a suite in it. -/
def talks (suite : List (Text × Entry)) : FileSystem :=
  .within (.directory [("talks".toList, .directory suite)])

theorem isTree_mixedSuite : IsTree mixedSuite := by
  have hname : ∀ name : Text, name ≠ [] ∧ '/' ∉ name ∧ '\\' ∉ name → IsName name :=
    fun _ ⟨hne, hslash, hbackslash⟩ => ⟨hne, hslash, hbackslash⟩
  refine ⟨by decide, ?_, ?_⟩
  · intro e he
    simp only [mixedSuite, List.mem_cons, List.not_mem_nil, or_false] at he
    rcases he with rfl | rfl | rfl <;> exact hname _ (by decide)
  · intro d inner he
    have hinner : inner = [("deep.test.md".toList, .file easyTest)] := by
      simp only [mixedSuite, List.mem_cons, List.not_mem_nil, or_false] at he
      rcases he with he | he | he <;> cases he
      rfl
    subst hinner
    refine ⟨List.nodup_singleton _, ?_, ?_⟩
    · intro e he
      rw [List.mem_singleton.mp he]
      exact hname _ (by decide)
    · intro d' inner' he'
      cases List.mem_singleton.mp he'

end TalkTimer
