import Mathlib.Data.List.Nodup
import TalkTimer.TestSuite

/-!
# The tests of a directory

A suite is found by a walk through a directory that meets its entries as they are listed. What the
walk finds is told by the tree alone: a test is a file at the end of a path of directories whose
name ends in `.test.md` (`IsTest`). The steps:

* **The walk** (`mem_testsAmong_iff`) – it meets these files and no others.
* **Once** (`IsTree.nodup_paths`) – no path is met twice, since the names in a directory differ.
* **Any listing** (`discover_eq_of_relisted`) – sorted, the tests are the same however the
  directories of the tree are listed, since no two of them stand at one place of the order.
-/

namespace TalkTimer

open Text

/-! ## Trees -/

/-- Below a directory with these entries, the directories named in `folder` lead to a file with this
name and these bytes. -/
inductive Holds : List (Text × Entry) → List Text → Text → Except ReadError ByteArray → Prop
  | file {entries : List (Text × Entry)} {name : Text} {bytes : Except ReadError ByteArray} :
      (name, .file bytes) ∈ entries → Holds entries [] name bytes
  | directory {entries inner : List (Text × Entry)} {d : Text} {folder : List Text} {name : Text}
      {bytes : Except ReadError ByteArray} :
      (d, .directory inner) ∈ entries → Holds inner folder name bytes →
      Holds entries (d :: folder) name bytes

/-- A script test below a directory. -/
def IsTest (entries : List (Text × Entry)) (f : TestFile) : Prop :=
  Holds entries f.folder f.name f.bytes ∧ ".test.md".toList <:+ f.name

/-- A name that an entry may have: it is not empty, and no character of it divides a path. -/
structure IsName (name : Text) : Prop where
  ne_nil : name ≠ []
  slash_notMem : '/' ∉ name
  backslash_notMem : '\\' ∉ name

/-- **A directory tree**: in each directory all names may be given, and no two entries share one. -/
inductive IsTree : List (Text × Entry) → Prop
  | mk {entries : List (Text × Entry)} : (entries.map Prod.fst).Nodup →
      (∀ e ∈ entries, IsName e.1) →
      (∀ d inner, (d, Entry.directory inner) ∈ entries → IsTree inner) → IsTree entries

/-- **The same tree, listed in another order**, in one directory of it or in several. -/
inductive Relisted : List (Text × Entry) → List (Text × Entry) → Prop
  | perm {es es' : List (Text × Entry)} : es.Perm es' → Relisted es es'
  | inside {before after inner inner' : List (Text × Entry)} {d : Text} :
      Relisted inner inner' →
      Relisted (before ++ (d, .directory inner) :: after) (before ++ (d, .directory inner') :: after)
  | trans {es es' es'' : List (Text × Entry)} :
      Relisted es es' → Relisted es' es'' → Relisted es es''

variable {es es' inner inner' before after : List (Text × Entry)} {d name : Text}
variable {folder : List Text} {bytes : Except ReadError ByteArray} {f : TestFile}

theorem Holds.mono (h : Holds es folder name bytes) (hsub : es ⊆ es') :
    Holds es' folder name bytes := by
  cases h with
  | file hmem => exact .file (hsub hmem)
  | directory hmem hinner => exact .directory (hsub hmem) hinner

/-! ## The walk -/

theorem testsAmong_eq_flatMap (folder : List Text) (es : List (Text × Entry)) :
    Entry.testsAmong folder es = es.flatMap fun e => e.2.testsAt folder e.1 := by
  induction es with
  | nil => rw [Entry.testsAmong, List.flatMap_nil]
  | cons e es ih => rw [Entry.testsAmong, ih, List.flatMap_cons]

theorem isTestName_iff : isTestName name = true ↔ ".test.md".toList <:+ name :=
  List.isSuffixOf_iff_suffix

theorem mem_testsAt_file_iff :
    f ∈ (Entry.file bytes).testsAt folder name ↔
      f = ⟨folder, name, bytes⟩ ∧ ".test.md".toList <:+ name := by
  rw [Entry.testsAt, ← isTestName_iff]
  split <;> simp_all

theorem testsAt_directory :
    (Entry.directory inner).testsAt folder name = Entry.testsAmong (folder ++ [name]) inner := by
  rw [Entry.testsAt]

/-- What the walk finds is a test, and the names it went by are those that lead to it. -/
theorem exists_holds_of_mem (es : List (Text × Entry)) (folder : List Text)
    (h : f ∈ Entry.testsAmong folder es) :
    ∃ sub, f.folder = folder ++ sub ∧ Holds es sub f.name f.bytes ∧
      ".test.md".toList <:+ f.name := by
  rw [testsAmong_eq_flatMap] at h
  obtain ⟨⟨name, e⟩, hmem, hf⟩ := List.mem_flatMap.mp h
  cases e with
  | file bytes =>
      obtain ⟨rfl, hname⟩ := mem_testsAt_file_iff.mp hf
      exact ⟨[], (List.append_nil folder).symm, .file hmem, hname⟩
  | directory inner =>
      rw [testsAt_directory] at hf
      obtain ⟨sub, hfolder, hholds, hname⟩ := exists_holds_of_mem inner (folder ++ [name]) hf
      refine ⟨name :: sub, ?_, .directory hmem hholds, hname⟩
      rw [hfolder, List.append_assoc, List.singleton_append]
termination_by sizeOf es
decreasing_by
  have hlt := List.sizeOf_lt_of_mem hmem
  simp at hlt
  omega

/-- A test is found, whatever names the walk went by before. -/
theorem Holds.mem_testsAmong (h : Holds es folder name bytes) (hname : ".test.md".toList <:+ name)
    (above : List Text) : ⟨above ++ folder, name, bytes⟩ ∈ Entry.testsAmong above es := by
  induction h generalizing above with
  | file hmem =>
      rw [testsAmong_eq_flatMap, List.append_nil]
      exact List.mem_flatMap.mpr ⟨_, hmem, mem_testsAt_file_iff.mpr ⟨rfl, hname⟩⟩
  | @directory _ _ d _ _ _ hmem _ ih =>
      rw [testsAmong_eq_flatMap]
      refine List.mem_flatMap.mpr ⟨_, hmem, ?_⟩
      have hfound := ih hname (above ++ [d])
      rw [List.append_assoc] at hfound
      rw [testsAt_directory]
      exact hfound

/-- **The walk finds the tests of the tree**, and nothing else. -/
theorem mem_testsAmong_iff : f ∈ Entry.testsAmong [] es ↔ IsTest es f := by
  constructor
  · intro h
    obtain ⟨sub, hfolder, hholds, hname⟩ := exists_holds_of_mem es [] h
    rw [List.nil_append] at hfolder
    exact ⟨hfolder ▸ hholds, hname⟩
  · rintro ⟨hholds, hname⟩
    exact hholds.mem_testsAmong hname []

theorem mem_discover_iff : f ∈ discover es ↔ IsTest es f := by
  rw [(discover_perm es).mem_iff, mem_testsAmong_iff]

/-! ## Once -/

theorem prefix_path_of_mem_testsAt {e : Entry} (h : f ∈ e.testsAt folder name) :
    folder ++ [name] <+: f.path := by
  cases e with
  | file bytes =>
      obtain ⟨rfl, -⟩ := mem_testsAt_file_iff.mp h
      exact List.prefix_rfl
  | directory inner =>
      rw [testsAt_directory] at h
      obtain ⟨sub, hfolder, -⟩ := exists_holds_of_mem inner _ h
      rw [TestFile.path, hfolder, List.append_assoc]
      exact List.prefix_append _ _

/-- **No path is met twice.** The induction is on the tree; the tests at two entries of a directory
differ in the name of the entry. -/
theorem IsTree.nodup_paths (h : IsTree es) (folder : List Text) :
    ((Entry.testsAmong folder es).map TestFile.path).Nodup := by
  induction h generalizing folder with
  | @mk es hnames _ _ ih =>
      rw [testsAmong_eq_flatMap, List.map_flatMap, List.nodup_flatMap]
      constructor
      · rintro ⟨name, e⟩ hmem
        cases e with
        | file bytes =>
            rw [Entry.testsAt]
            split <;> simp
        | directory inner =>
            rw [testsAt_directory]
            exact ih name inner hmem _
      · refine (List.pairwise_map.mp hnames).imp fun {e e'} hne => ?_
        intro path hpath hpath'
        obtain ⟨f, hf, rfl⟩ := List.mem_map.mp hpath
        obtain ⟨f', hf', heq⟩ := List.mem_map.mp hpath'
        have hpre := prefix_path_of_mem_testsAt hf
        have hpre' := prefix_path_of_mem_testsAt hf'
        rw [heq] at hpre'
        have hsame := (List.prefix_of_prefix_length_le hpre hpre' (by simp)).eq_of_length (by simp)
        exact hne (List.append_cancel_left hsame |> List.singleton_inj.mp)

theorem IsTree.nodup_discover (h : IsTree es) : ((discover es).map TestFile.path).Nodup :=
  ((discover_perm es).map _).nodup_iff.mpr (h.nodup_paths [])

/-! ## Any listing -/

namespace TestFile

variable {g : TestFile}

theorem group_le_of_le (h : f.le g = true) : Text.le f.group g.group = true := by
  unfold le at h
  split at h
  · next hsame =>
    rw [hsame]
    simpa using Text.le_total g.group g.group
  · exact h

theorem pathLe_of_le (h : f.le g = true) (hsame : f.group = g.group) :
    pathLe f.path g.path = true := by
  rwa [le, if_pos hsame] at h

/-- Tests at one place of the order have the same path. -/
theorem path_eq_of_le_of_le (hfg : f.le g = true) (hgf : g.le f = true) : f.path = g.path := by
  have hsame := eq_of_le_of_le (group_le_of_le hfg) (group_le_of_le hgf)
  exact eq_of_pathLe_of_pathLe (pathLe_of_le hfg hsame) (pathLe_of_le hgf hsame.symm)

end TestFile

/-- What is below a directory shows in the directories above it. -/
theorem Holds.replace (h : Holds (before ++ (d, .directory inner) :: after) folder name bytes)
    (hinner : ∀ sub, Holds inner sub name bytes → Holds inner' sub name bytes) :
    Holds (before ++ (d, .directory inner') :: after) folder name bytes := by
  cases h with
  | file hmem =>
      refine .file ?_
      simpa using hmem
  | directory hmem hholds =>
      rw [List.mem_append, List.mem_cons] at hmem
      rcases hmem with hmem | heq | hmem
      · exact .directory (List.mem_append_left _ hmem) hholds
      · cases heq
        exact .directory (List.mem_append_right _ List.mem_cons_self) (hinner _ hholds)
      · exact .directory (List.mem_append_right _ (List.mem_cons_of_mem _ hmem)) hholds

theorem Relisted.holds_iff (h : Relisted es es') (folder : List Text) :
    Holds es folder name bytes ↔ Holds es' folder name bytes := by
  induction h generalizing folder with
  | perm hperm => exact ⟨fun h => h.mono hperm.subset, fun h => h.mono hperm.symm.subset⟩
  | inside _ ih =>
      exact ⟨fun h => h.replace fun sub => (ih sub).mp, fun h => h.replace fun sub => (ih sub).mpr⟩
  | trans _ _ ih ih' => exact (ih folder).trans (ih' folder)

theorem Relisted.isTest_iff (h : Relisted es es') : IsTest es f ↔ IsTest es' f :=
  and_congr_left' (h.holds_iff f.folder)

theorem Relisted.isTree (h : Relisted es es') (htree : IsTree es) : IsTree es' := by
  induction h with
  | perm hperm =>
      obtain ⟨hnodup, hnames, hinner⟩ := htree
      exact ⟨(hperm.map Prod.fst).nodup_iff.mp hnodup,
        fun e he => hnames e (hperm.mem_iff.mpr he),
        fun d inner hmem => hinner d inner (hperm.mem_iff.mpr hmem)⟩
  | @inside before after inner inner' d hrel ih =>
      obtain ⟨hnodup, hnames, hinner⟩ := htree
      refine ⟨by simpa using hnodup, ?_, ?_⟩
      · rw [List.forall_mem_append, List.forall_mem_cons] at hnames ⊢
        exact hnames
      · intro d' inner₀ hmem
        rw [List.mem_append, List.mem_cons] at hmem
        rcases hmem with hmem | heq | hmem
        · exact hinner d' inner₀ (List.mem_append_left _ hmem)
        · cases heq
          exact ih (hinner d inner (List.mem_append_right _ List.mem_cons_self))
        · exact hinner d' inner₀ (List.mem_append_right _ (List.mem_cons_of_mem _ hmem))
  | trans _ _ ih ih' => exact ih' (ih htree)

/-- **The listing does not matter.** The tests of a tree are run in the same order however its
directories are listed. -/
theorem discover_eq_of_relisted (htree : IsTree es) (h : Relisted es es') :
    discover es' = discover es := by
  have hnodup := htree.nodup_discover
  have hnodup' := (h.isTree htree).nodup_discover
  have hmem : ∀ f, f ∈ discover es' ↔ f ∈ discover es := by
    intro f
    rw [mem_discover_iff, mem_discover_iff, h.isTest_iff]
  have hperm := (List.perm_ext_iff_of_nodup (hnodup'.of_map _) (hnodup.of_map _)).mpr hmem
  refine hperm.eq_of_pairwise ?_ (pairwise_discover es') (pairwise_discover es)
  intro f g hf hg hfg hgf
  exact List.inj_on_of_nodup_map hnodup ((hmem f).mp hf) hg (TestFile.path_eq_of_le_of_le hfg hgf)

end TalkTimer
