import TalkTimer.Excerpt
import TalkTimer.Proofs.Acceptance
import TalkTimer.Proofs.Slices

/-!
# Where findings point

A finding carries a line number and a span of bytes, and both were counted while the check went over
the lines: the number line by line, the bytes by the sizes of the lines passed and of the blanks at
both ends of the faulty one. Both must lead a reader to the same place.

* **The line** (`exists_isAt`) – each finding is about a line that begins with a question mark, blanks
  aside, and has that line's number and trimmed span.
* **The span** (`slice?_trimmedSpan`) – the trimmed span of a line cuts its core out of the source.
* **The number** (`count_feedLines`) – before the line there are as many line feeds as lines.
* **The line of a byte** (`Excerpt.lineAt?_eq_some`) – the span alone leads back to the line.
* **The order** (`validateLines_pairwise`) – findings come line by line, and their spans lie in
  their lines.
-/

namespace TalkTimer

open Text

namespace Text

/-! ## Bytes and line feeds -/

theorem size_pos {t : Text} (h : t ≠ []) : 0 < size t := by
  obtain ⟨c, u, rfl⟩ := List.exists_cons_of_ne_nil h
  have hc := c.utf8Size_pos
  rw [size]
  omega

theorem count_feedLines {ls : List Text} (h : ∀ l ∈ ls, '\n' ∉ l) :
    (feedLines ls).count '\n' = ls.length := by
  induction ls with
  | nil => rfl
  | cons l ls ih =>
      have hl : l.count '\n' = 0 := List.count_eq_zero.mpr (h l List.mem_cons_self)
      have hrest := ih fun x hx => h x (List.mem_cons_of_mem l hx)
      rw [feedLines_cons, List.count_append, List.count_cons_self, hl, hrest, List.length_cons]
      omega

theorem exists_joinLines_cons (l : Text) (ls : List Text) : ∃ rest, joinLines (l :: ls) = l ++ rest := by
  cases ls with
  | nil => exact ⟨[], by rw [joinLines_singleton, List.append_nil]⟩
  | cons l' ls => exact ⟨_, joinLines_cons l (List.cons_ne_nil l' ls)⟩

theorem start_le_of_mem_placeLines {number start : Nat} {ls : List Text} {x : SourceLine}
    (h : x ∈ placeLines number start ls) : start ≤ x.start := by
  induction ls generalizing number start with
  | nil => cases h
  | cons l ls ih =>
      rcases List.mem_cons.mp h with rfl | h
      · exact Nat.le_refl _
      · have hrest := ih h
        omega

end Text

/-! ## The span of a line -/

variable {l source : Text} {before after : List Text} {f : Finding}

/-- **A byte of a line leads back to the line**: it is the last one that begins no later. -/
theorem Excerpt.lineAt?_eq_some {byte : Nat} (h : lines source = before ++ l :: after)
    (hstart : bytesOf before ≤ byte) (hstop : byte ≤ bytesOf before + size l) :
    Excerpt.lineAt? source byte = some (placeAfter before l) := by
  have hplaces : sourceLines source = placeLines 0 0 before ++ placesAfter before (l :: after) := by
    rw [sourceLines, h, placeLines_append, Nat.zero_add, Nat.zero_add]
    rfl
  have hlater : (placesAfter (before ++ [l]) after).filter (fun x => x.start ≤ byte) = [] := by
    rw [List.filter_eq_nil_iff]
    intro x hx
    have hle := start_le_of_mem_placeLines hx
    have hbytes : bytesOf (before ++ [l]) = bytesOf before + (size l + 1) := by simp [bytesOf]
    simp only [decide_eq_true_eq]
    omega
  rw [Excerpt.lineAt?, hplaces, placesAfter_cons, List.filter_append, List.filter_cons_of_pos,
    hlater, List.getLast?_concat]
  exact decide_eq_true hstart

theorem trimmedSpan_within (x : SourceLine) :
    x.start ≤ x.trimmedSpan.start ∧ x.trimmedSpan.stop ≤ x.stop := by
  obtain ⟨g, -, hstart⟩ := exists_gap_append_trimStart x.text
  obtain ⟨h, -, hend⟩ := exists_trimEnd_append_gap x.text
  have hstart := congrArg size hstart
  have hend := congrArg size hend
  rw [size_append] at hstart hend
  simp only [SourceLine.trimmedSpan, SourceLine.stop]
  omega

/-- The trimmed span of a line is the span of its core, behind the blanks in front of it. -/
theorem trimmedSpan_eq {number start : Nat} {g t h : Text} (hg : IsGap g) (ht : IsBare t)
    (hne : t ≠ []) (hh : IsGap h) :
    (SourceLine.mk number start (g ++ t ++ h)).trimmedSpan =
      ⟨start + size g, start + size g + size t⟩ := by
  have hsize : size (g ++ t ++ h) = size g + size t + size h := by
    rw [size_append, size_append]
  simp only [SourceLine.trimmedSpan, trimStart_pad hg ht hne, trimEnd_pad g ht hne hh, hsize,
    size_append, Span.mk.injEq]
  omega

/-! ## The line of a finding -/

/-- The finding is **about** the line `l` after the lines `before`: it has the number and the trimmed
span of that line, which begins with a question mark, blanks aside. -/
structure Finding.IsAt (f : Finding) (before : List Text) (l : Text) : Prop where
  candidate : (trim l).head? = some '?'
  line : f.line = before.length
  span : f.span = (placeAfter before l).trimmedSpan

theorem candidate_of_checkLine {scopes : List Marker} {fault : Fault}
    (h : (checkLine scopes l).1 = some fault) : (trim l).head? = some '?' := by
  by_contra hhead
  rw [checkLine, classify_eq_text_iff.mpr hhead] at h
  cases h

/-- The induction is on the lines that the check has still to pass. -/
theorem exists_isAt {scopes : List Marker} {ls : List Text}
    (h : f ∈ validateLines scopes (placesAfter before ls)) :
    ∃ between l after, ls = between ++ l :: after ∧ f.IsAt (before ++ between) l := by
  induction ls generalizing scopes before with
  | nil => cases h
  | cons l ls ih =>
      rw [placesAfter_cons, validateLines_cons] at h
      rcases List.mem_append.mp h with h | h
      · rw [Option.mem_toList] at h
        obtain ⟨fault, hfault, rfl⟩ := Option.map_eq_some_iff.mp h
        refine ⟨[], l, ls, rfl, ?_⟩
        rw [List.append_nil]
        exact ⟨candidate_of_checkLine hfault, rfl, rfl⟩
      · obtain ⟨between, x, after, rfl, hat⟩ := ih h
        refine ⟨l :: between, x, after, rfl, ?_⟩
        rwa [List.append_cons]

theorem exists_isAt_of_mem_validate (h : f ∈ validate source) :
    ∃ before l after, lines source = before ++ l :: after ∧ f.IsAt before l := by
  have hpass : f ∈ validateLines [] (placesAfter [] (lines source)) := h
  obtain ⟨between, l, after, hlines, hat⟩ := exists_isAt hpass
  exact ⟨between, l, after, hlines, hat⟩

/-- **Findings come in order.** The next one is about a later line, so its span begins behind the line
feed after this one. -/
theorem validateLines_pairwise (scopes : List Marker) (before ls : List Text) :
    (validateLines scopes (placesAfter before ls)).Pairwise fun f g =>
      f.line < g.line ∧ f.span.stop < g.span.start := by
  induction ls generalizing scopes before with
  | nil => exact List.Pairwise.nil
  | cons l ls ih =>
      rw [placesAfter_cons, validateLines_cons, List.pairwise_append]
      refine ⟨?_, ih _ _, ?_⟩
      · cases (checkLine scopes (placeAfter before l).text).1 <;> simp
      · intro f hf g hg
        rw [Option.mem_toList] at hf
        obtain ⟨fault, -, rfl⟩ := Option.map_eq_some_iff.mp hf
        obtain ⟨between, x, after, -, hat⟩ := exists_isAt hg
        have hbytes : bytesOf (before ++ [l] ++ between) =
            bytesOf before + (size l + 1) + bytesOf between := by
          simp [bytesOf, Nat.add_assoc]
        have hf := (trimmedSpan_within (placeAfter before l)).2
        have hg := (trimmedSpan_within (placeAfter (before ++ [l] ++ between) x)).1
        rw [hat.line, hat.span]
        simp only [placeAfter, SourceLine.stop, hbytes, List.length_append,
          List.length_singleton] at hf hg ⊢
        omega

/-! ## The place in the source -/

/-- What a reader finds at the line and at the span of a finding. -/
structure Finding.PointsAt (source : Text) (f : Finding) (l : Text) : Prop where
  line : (lines source)[f.line]? = some l
  slice : f.span.slice? source = some (trim l)
  start_lt_stop : f.span.start < f.span.stop
  stop_le : f.span.stop ≤ size source
  candidate : (trim l).head? = some '?'
  bare : IsBare (trim l)
  oneLine : '\n' ∉ trim l
  /-- As many line feeds stand before the span as lines before the line. -/
  feeds : ∃ before after, source = before ++ after ∧ size before = f.span.start ∧
    before.count '\n' = f.line
  /-- An excerpt, which is told the span alone, shows this line under its number. -/
  shown : ∀ file, (Excerpt.ofDiagnostic file source f.diagnostic).line.text = l ∧
    (Excerpt.ofDiagnostic file source f.diagnostic).lineNumber = decimal (f.line + 1)

theorem Finding.IsAt.trim_ne_nil (h : f.IsAt before l) : trim l ≠ [] := by
  intro hnil
  have hcandidate := h.candidate
  rw [hnil] at hcandidate
  cases hcandidate

/-- **The span of a finding cuts its line out of the source.** In front of the core of the line stand
the lines before it, each with its line feed, and blanks of the line itself. -/
theorem Finding.IsAt.exists_split (h : f.IsAt before l)
    (hlines : lines source = before ++ l :: after) :
    ∃ front rest, source = front ++ trim l ++ rest ∧ front.count '\n' = f.line ∧
      f.span = ⟨size front, size front + size (trim l)⟩ := by
  obtain ⟨g, g', hl, hg, hg', hbare⟩ := isCore_trim l
  obtain ⟨rest, hrest⟩ := exists_joinLines_cons l after
  have hfeed : ∀ x ∈ before ++ l :: after, '\n' ∉ x := by
    intro x hx
    exact not_mem_of_mem_lines (hlines ▸ hx)
  refine ⟨feedLines before ++ g, g' ++ rest, ?_, ?_, ?_⟩
  · rw [← joinLines_lines source, hlines, joinLines_append before (List.cons_ne_nil l after), hrest]
    conv => lhs; rw [hl]
    simp only [List.append_assoc]
  · have hbefore := count_feedLines fun x hx => hfeed x (List.mem_append_left _ hx)
    have hgap : g.count '\n' = 0 := by
      apply List.count_eq_zero.mpr
      intro hmem
      apply hfeed l (by simp)
      rw [hl]
      simp [hmem]
    rw [List.count_append, hbefore, hgap, h.line, Nat.add_zero]
  · rw [h.span, placeAfter, size_append, size_feedLines]
    conv => lhs; rw [hl]
    exact trimmedSpan_eq hg hbare h.trim_ne_nil hg'

theorem Finding.IsAt.pointsAt (h : f.IsAt before l) (hlines : lines source = before ++ l :: after) :
    f.PointsAt source l := by
  obtain ⟨front, rest, hsource, hcount, hspan⟩ := h.exists_split hlines
  have hpos := size_pos h.trim_ne_nil
  have hsize := congrArg size hsource
  rw [size_append, size_append] at hsize
  have hexcerpt : ∀ file,
      (Excerpt.ofDiagnostic file source f.diagnostic).line = placeAfter before l := by
    intro file
    have hwithin := trimmedSpan_within (placeAfter before l)
    rw [← h.span] at hwithin
    have hstart : bytesOf before ≤ f.diagnostic.span.start := hwithin.1
    have hstop : f.diagnostic.span.start ≤ bytesOf before + size l := by
      have hle : f.span.start < f.span.stop := by
        rw [hspan]
        show size front < size front + size (trim l)
        omega
      exact Nat.le_trans (Nat.le_of_lt hle) hwithin.2
    rw [Excerpt.ofDiagnostic, Excerpt.lineAt?_eq_some hlines hstart hstop]
    rfl
  constructor
  case line =>
    rw [hlines, h.line]
    simp
  case slice =>
    rw [hspan]
    exact Span.slice?_eq_some_iff.mpr ⟨front, rest, hsource, rfl, rfl⟩
  case start_lt_stop =>
    rw [hspan]
    show size front < size front + size (trim l)
    omega
  case stop_le =>
    rw [hspan]
    show size front + size (trim l) ≤ size source
    omega
  case candidate => exact h.candidate
  case bare => exact isBare_trim l
  case oneLine =>
    intro hmem
    have hl : l ∈ lines source := by simp [hlines]
    exact not_mem_of_mem_lines hl (trim_subset l hmem)
  case feeds =>
    rw [List.append_assoc] at hsource
    refine ⟨front, _, hsource, ?_, hcount⟩
    rw [hspan]
  case shown =>
    intro file
    rw [Excerpt.lineNumber, hexcerpt file, h.line]
    exact ⟨rfl, rfl⟩

theorem exists_pointsAt (h : f ∈ validate source) : ∃ l, f.PointsAt source l := by
  obtain ⟨before, l, after, hlines, hat⟩ := exists_isAt_of_mem_validate h
  exact ⟨l, hat.pointsAt hlines⟩

/-- **Findings point at their lines.** Line and span of a finding lead to the same place of the source:
the core of a line that begins with a question mark. There is at most one finding for each line, in
line order. -/
theorem findings_point_at_lines (source : Text) :
    (∀ f ∈ validate source, ∃ l, f.PointsAt source l) ∧
    (validate source).Pairwise fun f g => f.line < g.line ∧ f.span.stop < g.span.start := by
  refine ⟨?_, validateLines_pairwise [] [] (lines source)⟩
  intro f hf
  exact exists_pointsAt hf

/-- A faulty line between blanks of two and three bytes, and another one behind it. -/
def betweenBlanks : Text := "é\n\u00a0??01:00\u3000\n??:".toList

theorem findings_point_at_lines_betweenBlanks :
    validate betweenBlanks = [⟨.nesting, 1, ⟨5, 12⟩⟩, ⟨.malformed, 2, ⟨16, 19⟩⟩] ∧
      ∃ l, Finding.PointsAt betweenBlanks ⟨.nesting, 1, ⟨5, 12⟩⟩ l := by
  have hfindings : validate betweenBlanks =
      [⟨.nesting, 1, ⟨5, 12⟩⟩, ⟨.malformed, 2, ⟨16, 19⟩⟩] := by decide
  have hmem : (⟨.nesting, 1, ⟨5, 12⟩⟩ : Finding) ∈ validate betweenBlanks := by
    rw [hfindings]
    exact List.mem_cons_self
  exact ⟨hfindings, (findings_point_at_lines betweenBlanks).1 _ hmem⟩

end TalkTimer
