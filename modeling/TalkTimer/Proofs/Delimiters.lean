import Mathlib.Data.List.TakeWhile
import TalkTimer.FrontMatter
import TalkTimer.Proofs.Lines
import TalkTimer.Readers

/-!
# Test files cut at their delimiters

A test file has its front matter between two lines of three hyphens (`FrontMatter.write`). The
second delimiter is looked for as a line feed with hyphens after it, in the text after the line
ending of the first one.

* **Where the cut is made** (`cutAtDelimiter?_eq_none_iff`, `cutAtDelimiter?_endedLines`) – at the
  first line, from the second one on, that starts with hyphens.
* **What is handed on** (`split_write_cons`) – so at least one line goes to the configuration,
  whatever it is: the lines of the front matter if there are any, otherwise the second delimiter.
* **Which files are split as they were written** (`split_write_iff`) – those with a line between the
  delimiters.
-/

namespace TalkTimer
namespace FrontMatter

open Text

/-! ## Files as they are written -/

/-- How the lines of a file end. -/
inductive LineEnding
  | feed
  | returnFeed
  deriving DecidableEq, Repr

namespace LineEnding

/-- What stands before the line feed. -/
def beforeFeed : LineEnding → Text
  | feed => []
  | returnFeed => ['\r']

def text (e : LineEnding) : Text := e.beforeFeed ++ ['\n']

end LineEnding

/-- What a delimiter starts with. -/
def hyphens : Text := List.replicate 3 '-'

/-- The byte order mark. -/
def mark : Char := Char.ofNat 0xFEFF

/-- A line that can be told from delimiters and from line endings. -/
structure IsConfigLine (l : Text) : Prop where
  newline_notMem : '\n' ∉ l
  return_notMem : '\r' ∉ l
  not_delimiter : ¬ hyphens <+: l

instance (l : Text) : Decidable (IsConfigLine l) :=
  decidable_of_iff ('\n' ∉ l ∧ '\r' ∉ l ∧ ¬ hyphens <+: l)
    ⟨fun ⟨h₁, h₂, h₃⟩ => ⟨h₁, h₂, h₃⟩,
      fun h => ⟨h.newline_notMem, h.return_notMem, h.not_delimiter⟩⟩

/-- Lines, each with its ending. -/
def endedLines (e : LineEnding) (ls : List Text) : Text := ls.flatMap fun l => l ++ e.text

/-- What follows the first line of a test file: the lines `ls`, a delimiter, and a script. -/
def afterOpening (e : LineEnding) (ls : List Text) (source : Text) : Text :=
  endedLines e ls ++ (hyphens ++ (e.text ++ source))

/-- The text of a test file: byte order marks, a delimiter, and what follows. -/
def write (marks : Nat) (e : LineEnding) (ls : List Text) (source : Text) : Text :=
  List.replicate marks mark ++ (hyphens ++ (e.text ++ afterOpening e ls source))

/-- The lines of a configuration, as they are handed on. -/
def config (e : LineEnding) (ls : List Text) : Text := e.text.intercalate ls

variable {e : LineEnding} {l t : Text} {ls : List Text}

theorem endedLines_cons (e : LineEnding) (l : Text) (ls : List Text) :
    endedLines e (l :: ls) = l ++ (e.beforeFeed ++ '\n' :: endedLines e ls) := by
  simp [endedLines, LineEnding.text]

theorem config_singleton (e : LineEnding) (l : Text) : config e [l] = l := by
  simp [config, List.intercalate]

theorem config_cons (e : LineEnding) (l : Text) (hne : ls ≠ []) :
    config e (l :: ls) = l ++ e.beforeFeed ++ '\n' :: config e ls := by
  obtain ⟨l', ls, rfl⟩ := List.exists_cons_of_ne_nil hne
  rw [config, List.intercalate_cons_cons, LineEnding.text]
  simp [config, LineEnding.text]

theorem newline_notMem_append_beforeFeed (e : LineEnding) (hl : '\n' ∉ l) :
    '\n' ∉ l ++ e.beforeFeed := by
  intro h
  rcases List.mem_append.mp h with h | h
  · exact hl h
  · cases e <;> simp [LineEnding.beforeFeed] at h

theorem dropMarks_replicate (n : Nat) (t : Text) :
    dropMarks (List.replicate n mark ++ '-' :: t) = '-' :: t := by
  induction n with
  | zero => rfl
  | succ n ih =>
      rw [List.replicate_succ, List.cons_append, dropMarks]
      exact ih

theorem dropLineEnd_text_append (e : LineEnding) (t : Text) : dropLineEnd (e.text ++ t) = t := by
  cases e <;> rfl

/-! ## Where the cut is made -/

theorem replicate_prefix_append_iff {c : Char} {u : Text} (hu : u.head? ≠ some c) (n : Nat)
    (t : Text) : List.replicate n c <+: t ++ u ↔ List.replicate n c <+: t := by
  induction n generalizing t with
  | zero => simp
  | succ n ih =>
      rw [List.replicate_succ]
      cases t with
      | nil =>
          refine iff_of_false ?_ (by simp)
          intro h
          obtain ⟨r, rfl⟩ : ∃ r, u = c :: r := by
            obtain ⟨r, hr⟩ := h
            exact ⟨_, hr.symm⟩
          exact hu rfl
      | cons d t => rw [List.cons_append, List.cons_prefix_cons, List.cons_prefix_cons, ih]

/-- What follows a line does not make it start with hyphens. -/
theorem hyphens_prefix_append_iff {u : Text} (hu : u.head? ≠ some '-') (t : Text) :
    hyphens <+: t ++ u ↔ hyphens <+: t :=
  replicate_prefix_append_iff hu 3 t

/-- A line feed is a place for the cut if hyphens follow. -/
theorem cutAtDelimiter?_feed (t : Text) :
    cutAtDelimiter? ('\n' :: t) =
      if hyphens <+: t then some ([], t.drop 3)
      else (cutAtDelimiter? t).map fun x => ('\n' :: x.1, x.2) := by
  split
  · next h =>
    obtain ⟨r, rfl⟩ := h
    rfl
  · next h =>
    rw [cutAtDelimiter?]
    rintro r - heq
    exact h ⟨r, heq.symm⟩

theorem cutAtDelimiter?_feed_eq_none_iff (t : Text) :
    cutAtDelimiter? ('\n' :: t) = none ↔ ¬ hyphens <+: t ∧ cutAtDelimiter? t = none := by
  rw [cutAtDelimiter?_feed]
  split
  · next h => exact iff_of_false (by simp) fun hnot => hnot.1 h
  · next h => rw [Option.map_eq_none_iff, and_iff_right h]

/-- No cut is made within a line. -/
theorem cutAtDelimiter?_append (h : '\n' ∉ l) (t : Text) :
    cutAtDelimiter? (l ++ t) = (cutAtDelimiter? t).map fun x => (l ++ x.1, x.2) := by
  induction l with
  | nil => simp
  | cons c l ih =>
      obtain ⟨hc, hl⟩ := not_or.mp (mt List.mem_cons.mpr h)
      rw [List.cons_append, cutAtDelimiter?, ih hl, Option.map_map]
      · rfl
      · rintro r rfl
        exact absurd rfl hc

theorem cutAtDelimiter?_of_notMem (h : '\n' ∉ l) : cutAtDelimiter? l = none := by
  have hcut := cutAtDelimiter?_append h []
  rwa [List.append_nil] at hcut

theorem hyphens_prefix_joinLines_iff (l : Text) (ls : List Text) :
    hyphens <+: joinLines (l :: ls) ↔ hyphens <+: l := by
  cases ls with
  | nil => rw [joinLines_singleton]
  | cons l' ls =>
      rw [joinLines_cons l (List.cons_ne_nil l' ls)]
      exact hyphens_prefix_append_iff (by simp) l

theorem cutAtDelimiter?_joinLines_eq_none_iff (hl : '\n' ∉ l) (hls : ∀ l ∈ ls, '\n' ∉ l) :
    cutAtDelimiter? (joinLines (l :: ls)) = none ↔ ∀ l ∈ ls, ¬ hyphens <+: l := by
  induction ls generalizing l with
  | nil =>
      rw [joinLines_singleton]
      exact iff_of_true (cutAtDelimiter?_of_notMem hl) (by simp)
  | cons l' ls ih =>
      obtain ⟨hl', hls'⟩ := List.forall_mem_cons.mp hls
      rw [joinLines_cons l (List.cons_ne_nil l' ls), cutAtDelimiter?_append hl,
        Option.map_eq_none_iff, cutAtDelimiter?_feed_eq_none_iff, hyphens_prefix_joinLines_iff,
        List.forall_mem_cons, ih hl' hls']

/-- **No cut is made** exactly if no line after the first one starts with hyphens. -/
theorem cutAtDelimiter?_eq_none_iff (t : Text) :
    cutAtDelimiter? t = none ↔ ∀ l ∈ (lines t).tail, ¬ hyphens <+: l := by
  obtain ⟨l, ls, hlines⟩ := List.exists_cons_of_ne_nil (lines_ne_nil t)
  have hfeed : ∀ x ∈ l :: ls, '\n' ∉ x := fun x hx => not_mem_of_mem_lines (hlines ▸ hx)
  obtain ⟨hl, hls⟩ := List.forall_mem_cons.mp hfeed
  have ht : t = joinLines (l :: ls) := by rw [← hlines, joinLines_lines]
  rw [hlines, ht]
  exact cutAtDelimiter?_joinLines_eq_none_iff hl hls

/-- **The cut is made after the lines.** Only the first of them may start with hyphens. -/
theorem cutAtDelimiter?_endedLines (e : LineEnding) (hl : '\n' ∉ l)
    (hls : ∀ l ∈ ls, IsConfigLine l) (rest : Text) :
    cutAtDelimiter? (endedLines e (l :: ls) ++ (hyphens ++ rest)) =
      some (config e (l :: ls) ++ e.beforeFeed, rest) := by
  induction ls generalizing l with
  | nil =>
      have htext : endedLines e [l] ++ (hyphens ++ rest) =
          l ++ e.beforeFeed ++ '\n' :: (hyphens ++ rest) := by
        simp [endedLines, LineEnding.text]
      rw [htext, cutAtDelimiter?_append (newline_notMem_append_beforeFeed e hl),
        cutAtDelimiter?_feed, if_pos (List.prefix_append hyphens rest), config_singleton]
      simp [hyphens]
  | cons l' ls ih =>
      obtain ⟨hl', hls'⟩ := List.forall_mem_cons.mp hls
      have htext : endedLines e (l :: l' :: ls) ++ (hyphens ++ rest) =
          l ++ e.beforeFeed ++ '\n' :: (endedLines e (l' :: ls) ++ (hyphens ++ rest)) := by
        rw [endedLines_cons]
        simp
      -- the next line starts with no hyphens, and its ending does not either
      have hnot : ¬ hyphens <+: endedLines e (l' :: ls) ++ (hyphens ++ rest) := by
        rw [endedLines_cons, List.append_assoc, hyphens_prefix_append_iff]
        · exact hl'.not_delimiter
        · cases e <;> simp [LineEnding.beforeFeed]
      rw [htext, cutAtDelimiter?_append (newline_notMem_append_beforeFeed e hl),
        cutAtDelimiter?_feed, if_neg hnot, ih hl'.newline_notMem hls',
        config_cons e l (List.cons_ne_nil l' ls)]
      simp

/-! ## What is handed on -/

theorem getLast?_config_ne (hl : ∀ l ∈ ls, '\r' ∉ l) : (config e ls).getLast? ≠ some '\r' := by
  induction ls with
  | nil => simp [config, List.intercalate]
  | cons l ls ih =>
      obtain ⟨hl, hls⟩ := List.forall_mem_cons.mp hl
      by_cases hne : ls = []
      · rw [hne, config_singleton]
        exact fun h => hl (List.mem_of_getLast? h)
      · rw [config_cons e l hne, List.getLast?_append, List.getLast?_cons]
        cases h : (config e ls).getLast? with
        | none => simp
        | some c =>
            intro heq
            exact ih hls (h.trans heq)

theorem dropReturns_append_beforeFeed (e : LineEnding) (h : t.getLast? ≠ some '\r') :
    dropReturns (t ++ e.beforeFeed) = t := by
  have hkeep : t.reverse.dropWhile (· == '\r') = t.reverse := by
    cases hrev : t.reverse with
    | nil => rfl
    | cons c r =>
        have hlast : t.getLast? = some c := by rw [← List.head?_reverse, hrev]; rfl
        have hc : ¬ c = '\r' := fun heq => h (heq ▸ hlast)
        simp [hc]
  cases e with
  | feed => rw [LineEnding.beforeFeed, List.append_nil, dropReturns, hkeep, List.reverse_reverse]
  | returnFeed =>
      have hdrop : (t ++ ['\r']).reverse.dropWhile (· == '\r') = t.reverse := by
        rw [List.reverse_append]
        exact hkeep
      rw [LineEnding.beforeFeed, dropReturns, hdrop, List.reverse_reverse]

/-- What ends a text is all that carriage returns are dropped of. -/
theorem eq_return_of_dropReturns_eq_nil (h : dropReturns t = []) : ∀ c ∈ t, c = '\r' := by
  intro c hc
  have hall := List.dropWhile_eq_nil_iff.mp (List.reverse_eq_nil_iff.mp h) c
    (List.mem_reverse.mpr hc)
  exact beq_iff_eq.mp hall

/-- Of a written file the first line is passed over. -/
theorem split_write (marks : Nat) (e : LineEnding) (ls : List Text) (source : Text) :
    split (write marks e ls source) =
      match cutAtDelimiter? (afterOpening e ls source) with
      | some (config, rest) => .ok (dropReturns config, dropLineEnd rest)
      | none => .error .noClosing := by
  have hmarks : dropMarks (write marks e ls source) =
      '-' :: '-' :: '-' :: (e.text ++ afterOpening e ls source) :=
    dropMarks_replicate marks ('-' :: '-' :: (e.text ++ afterOpening e ls source))
  rw [split, hmarks]
  show (match cutAtDelimiter? (dropLineEnd (e.text ++ afterOpening e ls source)) with
    | some (config, rest) => Except.ok (dropReturns config, dropLineEnd rest)
    | none => .error FrontMatterError.noClosing) = _
  rw [dropLineEnd_text_append]

/-- **Lines between the delimiters are handed on**, and so is the script. The first of them may
start with hyphens. -/
theorem split_write_cons (marks : Nat) (e : LineEnding) (source : Text) (hfeed : '\n' ∉ l)
    (hreturn : '\r' ∉ l) (hls : ∀ l ∈ ls, IsConfigLine l) :
    split (write marks e (l :: ls) source) = .ok (config e (l :: ls), source) := by
  have hlast : (config e (l :: ls)).getLast? ≠ some '\r' :=
    getLast?_config_ne (List.forall_mem_cons.mpr ⟨hreturn, fun x hx => (hls x hx).return_notMem⟩)
  have hcut := cutAtDelimiter?_endedLines e hfeed hls (e.text ++ source)
  rw [split_write, afterOpening, hcut]
  simp only [dropReturns_append_beforeFeed e hlast, dropLineEnd_text_append]

/-- With no line between the delimiters, the second one is the first line of what is searched. -/
theorem afterOpening_nil (e : LineEnding) (source : Text) :
    afterOpening e [] source = hyphens ++ e.beforeFeed ++ '\n' :: source := by
  simp [afterOpening, endedLines, LineEnding.text]

theorem newline_notMem_hyphens (e : LineEnding) : '\n' ∉ hyphens ++ e.beforeFeed :=
  newline_notMem_append_beforeFeed e (by decide)

/-- **Without a line between them the second delimiter is not seen**, and a cut is made in the
script or nowhere. -/
theorem split_write_nil_eq_noClosing_iff (marks : Nat) (e : LineEnding) (source : Text) :
    split (write marks e [] source) = .error .noClosing ↔ ∀ l ∈ lines source, ¬ hyphens <+: l := by
  have hcut : cutAtDelimiter? (afterOpening e [] source) = none ↔
      ∀ l ∈ lines source, ¬ hyphens <+: l := by
    rw [cutAtDelimiter?_eq_none_iff, afterOpening_nil, lines_append_feed,
      lines_of_not_mem (newline_notMem_hyphens e)]
    rfl
  rw [← hcut, split_write]
  cases cutAtDelimiter? (afterOpening e [] source) with
  | none => exact iff_of_true rfl rfl
  | some x => exact iff_of_false (by simp) (by simp)

/-- If a cut is made in the script, the second delimiter is handed on as configuration. -/
theorem split_write_nil_ne (marks : Nat) (e : LineEnding) (source : Text) :
    split (write marks e [] source) ≠ .ok (config e [], source) := by
  intro h
  rw [split_write, afterOpening_nil, cutAtDelimiter?_append (newline_notMem_hyphens e)] at h
  cases hcut : cutAtDelimiter? ('\n' :: source) with
  | none => simp [hcut] at h
  | some x =>
      simp only [hcut, Option.map_some, Except.ok.injEq, Prod.mk.injEq] at h
      have hhyphen : '-' ∈ hyphens ++ e.beforeFeed ++ x.1 := by simp [hyphens]
      exact absurd (eq_return_of_dropReturns_eq_nil h.1 '-' hhyphen) (by decide)

/-! ## Which files are split as they were written -/

section Read

variable [TomlReader]

theorem read_eq_noClosing_iff (t : Text) :
    read t = .error .noClosing ↔ split t = .error .noClosing := by
  rw [read]
  cases split t with
  | error err => simp
  | ok x =>
      cases h : readConfig? x.1 with
      | none => simp [h]
      | some expectations => simp [h]

/-- **A file is split as it was written exactly if it has a line of configuration.** Then the
configuration that is read is made of these lines, whatever the script is, and the script is given
back as it is. With no line between the delimiters the second one goes unseen, and a file in which
no line of the script starts with hyphens is refused for want of a delimiter. -/
theorem split_write_iff (marks : Nat) (e : LineEnding) (ls : List Text) (source : Text)
    (hls : ∀ l ∈ ls, IsConfigLine l) :
    (split (write marks e ls source) = .ok (config e ls, source) ↔ ls ≠ []) ∧
    (ls ≠ [] → read (write marks e ls source) =
      match readConfig? (config e ls) with
      | some expectations => .ok (expectations, source)
      | none => .error .unparsable) ∧
    (ls = [] → (read (write marks e ls source) = .error .noClosing ↔
      ∀ l ∈ lines source, ¬ hyphens <+: l)) := by
  have hsplit (hne : ls ≠ []) : split (write marks e ls source) = .ok (config e ls, source) := by
    obtain ⟨l, ls, rfl⟩ := List.exists_cons_of_ne_nil hne
    obtain ⟨hl, hls⟩ := List.forall_mem_cons.mp hls
    exact split_write_cons marks e source hl.newline_notMem hl.return_notMem hls
  refine ⟨⟨?_, hsplit⟩, ?_, ?_⟩
  · rintro h rfl
    exact split_write_nil_ne marks e source h
  · intro hne
    rw [read, hsplit hne]
    cases h : readConfig? (config e ls) with
    | none => simp [h]
    | some expectations => simp [h]
  · rintro rfl
    rw [read_eq_noClosing_iff, split_write_nil_eq_noClosing_iff]

end Read

/-- Two lines of configuration, the second of them empty, and a script that starts with hyphens. -/
theorem split_write_iff_returns :
    let ls := ["auto_advance = true".toList, []]
    let source := "---\n?01:00\nA".toList
    (∀ l ∈ ls, IsConfigLine l) ∧
      write 2 .returnFeed ls source = mark :: mark ::
        "---\r\nauto_advance = true\r\n\r\n---\r\n---\n?01:00\nA".toList ∧
      read (write 2 .returnFeed ls source) = .ok (⟨none, none, none, true, [], none⟩, source) := by
  intro ls source
  have hls : ∀ l ∈ ls, IsConfigLine l := by decide
  have hconfig : readConfig? (config .returnFeed ls) = some ⟨none, none, none, true, [], none⟩ := by
    decide +kernel
  refine ⟨hls, by decide, ?_⟩
  rw [(split_write_iff 2 .returnFeed ls source hls).2.1 (by decide), hconfig]

/-- An empty front matter has both its delimiters, and expects nothing; but it is refused because
the second delimiter cannot be found. -/
theorem empty_front_matter_is_refused :
    ¬ (∀ marks e ls source, (∀ l ∈ ls, IsConfigLine l) →
      split (write marks e ls source) = .ok (config e ls, source)) ∧
    write 0 .feed [] "?01:00\nA".toList = "---\n---\n?01:00\nA".toList ∧
    readConfig? (config .feed []) = some ⟨none, none, none, false, [], none⟩ ∧
    read "---\n---\n?01:00\nA".toList = .error .noClosing := by
  have hread : read "---\n---\n?01:00\nA".toList = .error .noClosing := by decide
  refine ⟨?_, by decide, by decide +kernel, hread⟩
  intro h
  have hsplit := h 0 .feed [] "?01:00\nA".toList (by simp)
  exact absurd hsplit (by decide)

end FrontMatter
end TalkTimer
