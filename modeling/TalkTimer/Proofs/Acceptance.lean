import Mathlib.Data.List.Induction
import TalkTimer.Proofs.Markers
import TalkTimer.Proofs.Scopes
import TalkTimer.Script

/-!
# Acceptance by a rule on neighbours

The check finds the parent of a marker by the scopes that are open. For the question whether a whole
script is accepted, the levels can be judged without any parent: the first marker has level 1, and
each other one lies at most one level deeper than the marker right before it (`DeepensByOne`).

* **Parents from neighbours** (`DeepensByOne.exists_nearestAbove?`) – by that rule every deeper
  marker has a parent one level up, although the parent may stand far ahead.
* **Markers that fit** (`wellNested_iff`) – so the rule, with the bound on times, says of a list of
  markers what the look backwards says of each of them.
* **The whole script** (`parse_eq_ok_iff`) – what is accepted, and why the rule is one on scripts
  and not on lines.
-/

namespace TalkTimer

open Text

/-! ## The rule on neighbours -/

/-- The first marker has level 1, and each other one lies **at most one level deeper** than the
marker right before it. -/
structure DeepensByOne (ms : List Marker) : Prop where
  first : ∀ m later, ms = m :: later → m.level = 1
  next : ∀ earlier p m later, ms = earlier ++ p :: m :: later → m.level ≤ p.level + 1

/-- No marker has more time than the nearest earlier one above it, where both have a time to
keep. -/
def KeepsWithinParents (ms : List Marker) : Prop :=
  ∀ earlier m later, ms = earlier ++ m :: later → ∀ p, nearestAbove? m.level earlier = some p →
    m.isTimeControlled = true → p.isTimeControlled = true → m.time ≤ p.time

variable {ms earlier : List Marker} {m p : Marker}

theorem DeepensByOne.of_append {xs ys : List Marker} (h : DeepensByOne (xs ++ ys)) :
    DeepensByOne xs where
  first := by
    rintro m later rfl
    exact h.first m (later ++ ys) rfl
  next := by
    rintro earlier p m later rfl
    exact h.next earlier p m (later ++ ys) (by simp)

/-- **Parents from neighbours.** After the marker `p`, each level that `p` allows next has a marker
exactly one level above it. The induction goes back over the markers: one that does not lie above
the level allows it in turn. -/
theorem DeepensByOne.exists_nearestAbove? (h : DeepensByOne (earlier ++ [p])) {level : Nat}
    (hone : 1 < level) (hlevel : level ≤ p.level + 1) :
    ∃ q, nearestAbove? level (earlier ++ [p]) = some q ∧ q.level + 1 = level := by
  induction earlier using List.reverseRecOn generalizing p with
  | nil =>
      -- the first marker has level 1, and only level 2 may follow it
      have hp : p.level = 1 := h.first p [] rfl
      refine ⟨p, ?_, by omega⟩
      rw [nearestAbove?_append_singleton, if_pos (by omega)]
  | append_singleton earlier r ih =>
      rw [nearestAbove?_append_singleton]
      by_cases hp : p.level < level
      · exact ⟨p, if_pos hp, by omega⟩
      · have hr : p.level ≤ r.level + 1 := h.next earlier r p [] (by simp)
        rw [if_neg hp]
        exact ih h.of_append (by omega)

/-- A marker that fits lies at most one level deeper than the marker before it. -/
theorem level_le_of_misfit? (h : misfit? (earlier ++ [p]) m = none) : m.level ≤ p.level + 1 := by
  by_cases hm : 1 < m.level
  · obtain ⟨q, hq, hlevel⟩ := (misfit?_eq_none_iff.mp h).1 hm
    rw [nearestAbove?_append_singleton] at hq
    split at hq
    · cases hq
      omega
    · omega
  · omega

/-- **Markers that fit, by their neighbours.** -/
theorem wellNested_iff (hpos : ∀ m ∈ ms, 1 ≤ m.level) :
    WellNested ms ↔ DeepensByOne ms ∧ KeepsWithinParents ms := by
  constructor
  · intro h
    refine ⟨⟨?_, ?_⟩, ?_⟩
    · rintro m later rfl
      -- the first marker has no parent, so it may not need one
      have hfit := (misfit?_eq_none_iff.mp (h [] m later rfl)).1
      have hle : ¬ 1 < m.level := fun hlt => by
        obtain ⟨q, hq, -⟩ := hfit hlt
        cases hq
      have hge := hpos m List.mem_cons_self
      omega
    · rintro earlier p m later rfl
      exact level_le_of_misfit? (h (earlier ++ [p]) m later (by simp))
    · rintro earlier m later rfl
      exact (misfit?_eq_none_iff.mp (h earlier m later rfl)).2
  · rintro ⟨hsteps, htimes⟩ earlier m later hms
    refine misfit?_eq_none_iff.mpr ⟨fun hm => ?_, htimes earlier m later hms⟩
    rcases List.eq_nil_or_concat earlier with rfl | ⟨before, p, rfl⟩
    · have hfirst : m.level = 1 := hsteps.first m later hms
      omega
    · have hnext : m.level ≤ p.level + 1 := hsteps.next before p m later (by simpa using hms)
      have hbefore : DeepensByOne ((before ++ [p]) ++ m :: later) := by simpa [hms] using hsteps
      simpa using hbefore.of_append.exists_nearestAbove? hm hnext

/-! ## The whole script -/

/-- A script has no findings exactly if all lines that look like markers are markers, and these
fit. -/
theorem validate_eq_nil_iff_wellNested {source : Text} :
    validate source = [] ↔
      (∀ l ∈ lines source, classify l ≠ .text → ∃ m, classify l = .marker m) ∧
        WellNested (marksOf (lines source)) := by
  constructor
  · intro h
    refine ⟨fun l hl htext => ?_, wellNested_of_validate h⟩
    obtain ⟨before, after, hls⟩ := List.append_of_mem hl
    have hfault := validate_eq_nil_iff.mp h before l after hls
    cases hc : classify l with
    | text => exact absurd hc htext
    | marker m => exact ⟨m, rfl⟩
    | oddSeconds found => simp [faultOf?, hc] at hfault
    | malformed => simp [faultOf?, hc] at hfault
  · rintro ⟨hmarkers, hnested⟩
    refine validate_eq_nil_iff.mpr fun before l after hls => ?_
    have hl : l ∈ lines source := by simp [hls]
    by_cases htext : classify l = .text
    · simp [faultOf?, htext]
    · obtain ⟨m, hm⟩ := hmarkers l hl htext
      have hms : marksOf (lines source) = marksOf before ++ m :: marksOf after := by
        have hread : readMarker? l = some m := readMarker?_eq_some_iff.mpr hm
        have hcons : marksOf (l :: after) = m :: marksOf after := by simp [marksOf, hread]
        rw [hls, marksOf_append, hcons]
      simpa [faultOf?, hm] using hnested _ _ _ hms

theorem Script.exists_parse_iff {id : Nat} {source : Text} :
    (∃ script, Script.parse id source = .ok script) ↔ validate source = [] := by
  by_cases h : validate source = []
  · exact iff_of_true ⟨_, Script.parse_of_valid h id⟩ h
  · refine iff_of_false ?_ h
    rintro ⟨script, hs⟩
    rw [Script.parse_of_findings h] at hs
    cases hs

/-- **Which scripts are accepted.** All lines that look like markers are markers, the levels keep the
rule on neighbours, and no marker has more time than its parent.

The rule decides about the script and not about its lines: below an orphan there may be a marker
that the rule allows, and that is at fault all the same since it has no parent. -/
theorem parse_eq_ok_iff :
    (∀ (id : Nat) (source : Text), (∃ script, Script.parse id source = .ok script) ↔
      (∀ l ∈ lines source, (trim l).head? = some '?' → ∃ m, classify l = .marker m) ∧
        DeepensByOne (marksOf (lines source)) ∧ KeepsWithinParents (marksOf (lines source))) ∧
    ∃ (source : Text) (p m : Marker), marksOf (lines source) = [p, m] ∧ m.level ≤ p.level + 1 ∧
      (validate source).map (fun f => (f.line, f.fault)) = [(0, .nesting), (1, .nesting)] := by
  refine ⟨fun id source => ?_, ?_⟩
  · have hpos : ∀ m ∈ marksOf (lines source), 1 ≤ m.level := by
      intro m hm
      obtain ⟨l, -, hl⟩ := List.mem_filterMap.mp hm
      exact (isWellFormed_of_readMarker? hl).level_pos
    rw [Script.exists_parse_iff, validate_eq_nil_iff_wellNested, wellNested_iff hpos]
    simp only [ne_eq, classify_eq_text_iff, not_not]
  · exact ⟨"???01:00\n??01:00".toList, .timed 3 60, .timed 2 60, by decide⟩

end TalkTimer
