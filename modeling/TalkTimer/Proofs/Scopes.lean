import TalkTimer.Proofs.Lines
import TalkTimer.Validation

/-!
# Open scopes against a look backwards

The check keeps the scopes that are open and takes the innermost one for the parent of the next
marker. What a parent is can be said without any scopes: it is the marker of smaller level that is
nearest before the line. `faultOf?` states the rules of the check with that look backwards, for one
line and the lines before it.

* **The invariant** (`ShowsNearest`) – for every level, closing the scopes that this level closes
  leaves the nearest earlier marker above it on top. A line keeps it, whether or not it is faulty
  (`checkLine_showsNearest`).
* **One line** (`checkLine_fault`) – under the invariant the check finds what the look backwards
  finds.
* **The whole script** (`validate_eq_backward_scan`) – so both report the same, line by line.
-/

namespace TalkTimer

open Text

/-! ## Faults by a look backwards -/

/-- The markers on some lines, in order. A line that only looks like a marker gives none. -/
def marksOf (ls : List Text) : List Marker := ls.filterMap readMarker?

/-- The nearest marker above `level`, looking back over the markers `earlier`. -/
def nearestAbove? (level : Nat) (earlier : List Marker) : Option Marker :=
  earlier.reverse.find? fun p => p.level < level

/-- What is wrong with a marker that comes after the markers `earlier`. -/
def misfit? (earlier : List Marker) (m : Marker) : Option Fault :=
  let parent := nearestAbove? m.level earlier
  if 1 < m.level ∧ parent.map Marker.level ≠ some (m.level - 1) then some .nesting
  else if parent.any fun p => p.isTimeControlled && m.isTimeControlled && p.time < m.time then
    some .exceedsParent
  else none

/-- What is wrong with a line that comes after the lines `before`. -/
def faultOf? (before : List Text) (l : Text) : Option Fault :=
  match classify l with
  | .text => none
  | .oddSeconds found => some (.oddSeconds found)
  | .malformed => some .malformed
  | .marker m => misfit? (marksOf before) m

/-- The fault of a line at its place. -/
def findingOf? (before : List Text) (l : Text) : Option Finding :=
  (faultOf? before l).map fun fault => ⟨fault, before.length, (placeAfter before l).trimmedSpan⟩

@[simp] theorem marksOf_append (xs ys : List Text) :
    marksOf (xs ++ ys) = marksOf xs ++ marksOf ys :=
  List.filterMap_append

theorem marksOf_singleton (l : Text) : marksOf [l] = (readMarker? l).toList := by
  cases h : readMarker? l <;> simp [marksOf, h]

/-- The next marker is the nearest one for all levels below it, and hides nothing from others. -/
theorem nearestAbove?_append_singleton (level : Nat) (earlier : List Marker) (m : Marker) :
    nearestAbove? level (earlier ++ [m]) =
      if m.level < level then some m else nearestAbove? level earlier := by
  rw [nearestAbove?, List.reverse_append, List.reverse_singleton, List.singleton_append,
    List.find?_cons]
  by_cases h : m.level < level
  · simp [h]
  · simp [h, nearestAbove?]

/-! ## Closing scopes -/

/-- Closing the scopes of a deeper level first makes no difference. -/
theorem openScopes_openScopes {level deeper : Nat} (h : level ≤ deeper) (scopes : List Marker) :
    openScopes level (openScopes deeper scopes) = openScopes level scopes := by
  induction scopes with
  | nil => rfl
  | cons s scopes ih =>
      by_cases hs : deeper ≤ s.level
      · have hl : level ≤ s.level := Nat.le_trans h hs
        have h₁ : openScopes deeper (s :: scopes) = openScopes deeper scopes := by
          simp [openScopes, hs]
        have h₂ : openScopes level (s :: scopes) = openScopes level scopes := by
          simp [openScopes, hl]
        rw [h₁, h₂, ih]
      · have h₁ : openScopes deeper (s :: scopes) = s :: scopes := by
          simp [openScopes, hs]
        rw [h₁]

/-- The open scopes **show the nearest** markers: whatever level comes next, the scope that it
leaves on top is the nearest earlier marker above it. -/
def ShowsNearest (scopes earlier : List Marker) : Prop :=
  ∀ level, (openScopes level scopes).head? = nearestAbove? level earlier

theorem showsNearest_nil : ShowsNearest [] (marksOf []) := fun _ => rfl

/-- A marker closes what it closes and opens its own scope; nothing is asked of it. In particular a
marker without parent, or one that skips a level, keeps the invariant too. -/
theorem ShowsNearest.cons {scopes earlier : List Marker} (h : ShowsNearest scopes earlier)
    (m : Marker) : ShowsNearest (m :: openScopes m.level scopes) (earlier ++ [m]) := by
  intro level
  rw [nearestAbove?_append_singleton]
  by_cases hm : m.level < level
  · -- the new scope is above the level and stays open
    have ho : openScopes level (m :: openScopes m.level scopes) =
        m :: openScopes m.level scopes := by
      simp [openScopes, hm]
    rw [ho, if_pos hm, List.head?_cons]
  · -- the level closes the new scope, and all that the new marker closed before
    have hle : level ≤ m.level := Nat.not_lt.mp hm
    have ho : openScopes level (m :: openScopes m.level scopes) =
        openScopes level (openScopes m.level scopes) := by
      simp [openScopes, hle]
    rw [ho, if_neg hm, openScopes_openScopes hle, h level]

/-! ## One line -/

/-- The two ways to put the rules for a marker agree once they agree on the parent. -/
theorem checkAgainst_nearestAbove? (earlier : List Marker) (m : Marker) :
    checkAgainst (nearestAbove? m.level earlier) m = misfit? earlier m := by
  unfold checkAgainst misfit?
  cases nearestAbove? m.level earlier with
  | none => simp
  | some p =>
      simp only [Option.all_some, Option.map_some, Option.any_some,
        Bool.and_comm p.isTimeControlled]
      simp

variable {scopes : List Marker} {before : List Text}

/-- The check finds in a line what the look backwards finds. -/
theorem checkLine_fault (h : ShowsNearest scopes (marksOf before)) (l : Text) :
    (checkLine scopes l).1 = faultOf? before l := by
  unfold checkLine faultOf?
  cases classify l with
  | text => rfl
  | oddSeconds found => rfl
  | malformed => rfl
  | marker m =>
      show checkAgainst (openScopes m.level scopes).head? m = _
      rw [h m.level, checkAgainst_nearestAbove?]

/-- After a line the scopes show the nearest markers again. -/
theorem checkLine_showsNearest (h : ShowsNearest scopes (marksOf before)) (l : Text) :
    ShowsNearest (checkLine scopes l).2 (marksOf (before ++ [l])) := by
  rw [marksOf_append, marksOf_singleton, readMarker?]
  unfold checkLine
  cases classify l with
  | text => simpa [LineClass.marker?] using h
  | oddSeconds found => simpa [LineClass.marker?] using h
  | malformed => simpa [LineClass.marker?] using h
  | marker m => exact h.cons m

/-! ## The whole script -/

/-- The check of the lines after `before`. The induction is on these lines; the invariant says all
that is needed of the scopes that the lines before them left open. -/
theorem validateLines_placesAfter (h : ShowsNearest scopes (marksOf before)) (ls : List Text) :
    validateLines scopes (placesAfter before ls) =
      (ls.zipIdx before.length).filterMap fun x => findingOf? ((before ++ ls).take x.2) x.1 := by
  induction ls generalizing scopes before with
  | nil => rfl
  | cons l ls ih =>
      have hrest := ih (checkLine_showsNearest h l)
      rw [List.length_append, List.length_singleton, ← List.append_cons] at hrest
      have hhead : findingOf? ((before ++ l :: ls).take before.length) l = findingOf? before l := by
        rw [List.take_left]
      rw [placesAfter_cons, validateLines_cons, List.zipIdx_cons, List.filterMap_cons, hhead,
        findingOf?]
      show ((checkLine scopes l).1.map _).toList ++ validateLines (checkLine scopes l).2 _ = _
      rw [checkLine_fault h l, hrest]
      cases faultOf? before l with
      | none => rfl
      | some fault => rfl

/-- **The check is the look backwards.** A script's findings are the faults of its lines, in line
order, each found by looking back from its line alone. -/
theorem validate_eq_backward_scan (source : Text) :
    validate source =
      (lines source).zipIdx.filterMap fun x => findingOf? ((lines source).take x.2) x.1 := by
  have h := validateLines_placesAfter showsNearest_nil (lines source)
  exact h

-- An orphan is at fault, and is the parent of the next marker all the same.
example : (validate "??01:00\n???02:00".toList).map Finding.fault = [.nesting, .exceedsParent] := by
  decide

/-! ## Accepted scripts -/

/-- A script has no findings exactly if no line is at fault after the lines before it. -/
theorem validate_eq_nil_iff {source : Text} :
    validate source = [] ↔
      ∀ before l after, lines source = before ++ l :: after → faultOf? before l = none := by
  have hv := validateLines_placesAfter showsNearest_nil (lines source)
  rw [validate, sourceLines_eq_placesAfter, hv, List.filterMap_eq_nil_iff]
  constructor
  · intro h before l after hls
    have hmem : (l, before.length) ∈ (lines source).zipIdx := by
      rw [hls, List.mk_mem_zipIdx_iff_getElem?]
      simp
    have hf := h _ hmem
    simpa [findingOf?, hls] using hf
  · rintro h ⟨l, i⟩ hmem
    obtain ⟨hi, hl⟩ := List.getElem?_eq_some_iff.mp (List.mk_mem_zipIdx_iff_getElem?.mp hmem)
    have hsplit : lines source = (lines source).take i ++ l :: (lines source).drop (i + 1) := by
      rw [← hl, List.getElem_cons_drop, List.take_append_drop]
    simp [findingOf?, h _ _ _ hsplit]

/-- The nearest marker above a level has a place: there it stands above the level, and no marker
after it does. -/
theorem nearestAbove?_eq_some {level : Nat} {earlier : List Marker} {p : Marker}
    (h : nearestAbove? level earlier = some p) :
    p.level < level ∧ ∃ j, earlier[j]? = some p ∧
      ∀ (k : Nat) (q : Marker), j < k → earlier[k]? = some q → level ≤ q.level := by
  -- the look goes backwards: what it passes over comes after the marker
  obtain ⟨hp, after, before, hrev, hafter⟩ := List.find?_eq_some_iff_append.mp h
  have hsplit : earlier = before.reverse ++ p :: after.reverse := by
    rw [List.reverse_eq_iff] at hrev
    rw [hrev, List.reverse_append, List.reverse_cons, List.append_assoc, List.singleton_append]
  refine ⟨by simpa using hp, before.reverse.length, by simp [hsplit], ?_⟩
  intro k q hk hq
  have hmem : q ∈ after.reverse := by
    obtain ⟨n, rfl⟩ : ∃ n, k = before.reverse.length + 1 + n := ⟨_, (Nat.add_sub_cancel' hk).symm⟩
    rw [hsplit, List.getElem?_append_right (by omega)] at hq
    have hn : before.reverse.length + 1 + n - before.reverse.length = n + 1 := by omega
    rw [hn, List.getElem?_cons_succ] at hq
    exact List.mem_of_getElem? hq
  simpa using hafter q (List.mem_reverse.mp hmem)

/-- When a marker fits: a deeper one lies exactly one level below its parent, and where both have a
time to keep, the parent's time is not exceeded. -/
theorem misfit?_eq_none_iff {earlier : List Marker} {m : Marker} :
    misfit? earlier m = none ↔
      (1 < m.level → ∃ p, nearestAbove? m.level earlier = some p ∧ p.level + 1 = m.level) ∧
      ∀ p, nearestAbove? m.level earlier = some p → m.isTimeControlled = true →
        p.isTimeControlled = true → m.time ≤ p.time := by
  unfold misfit?
  cases h : nearestAbove? m.level earlier with
  | none =>
      by_cases hl : 1 < m.level
      · simp [hl]
      · simp [hl]
  | some p =>
      have hlt := (nearestAbove?_eq_some h).1
      by_cases hl : 1 < m.level ∧ p.level ≠ m.level - 1
      · have hne : ¬ p.level + 1 = m.level := by omega
        simp [hl, hne]
      · -- the marker is in place, so only the bound on its time is left
        have heq : 1 < m.level → p.level + 1 = m.level := by omega
        have hcond : ¬ (1 < m.level ∧ (some p).map Marker.level ≠ some (m.level - 1)) := by
          simpa using hl
        rw [if_neg hcond]
        constructor
        · intro hn
          refine ⟨fun hm => ⟨p, rfl, heq hm⟩, ?_⟩
          rintro _ ⟨⟩ hm hp
          refine Nat.not_lt.mp fun hgt => ?_
          simp [hm, hp, hgt] at hn
        · rintro ⟨-, hbound⟩
          have hle := hbound p rfl
          rw [if_neg]
          simp only [Option.any_some, Bool.and_eq_true, decide_eq_true_eq]
          rintro ⟨⟨hp, hm⟩, hgt⟩
          exact absurd (hle hm hp) (Nat.not_le.mpr hgt)

/-- Markers that fit: none of them is at fault after the ones before it. -/
def WellNested (ms : List Marker) : Prop :=
  ∀ earlier m later, ms = earlier ++ m :: later → misfit? earlier m = none

/-- The first markers of markers that fit do fit. -/
theorem WellNested.of_isPrefix {xs ms : List Marker} (h : WellNested ms) (hx : xs <+: ms) :
    WellNested xs := by
  obtain ⟨ys, rfl⟩ := hx
  rintro earlier m later rfl
  exact h earlier m (later ++ ys) (by simp)

/-- The markers of a script without findings fit. -/
theorem wellNested_of_validate {source : Text} (h : validate source = []) :
    WellNested (marksOf (lines source)) := by
  intro earlier m later hm
  obtain ⟨before, rest, hls, hearlier, hrest⟩ := List.filterMap_eq_append_iff.mp hm
  -- between the lines of the earlier markers and the line of `m` there may be lines without marker
  obtain ⟨gap, l, after, hgap, hnone, hl, -⟩ := List.filterMap_eq_cons_iff.mp hrest
  subst hgap
  have hfault := validate_eq_nil_iff.mp h (before ++ gap) l after (by simp [hls])
  have hclass := readMarker?_eq_some_iff.mp hl
  have hgapNone : marksOf gap = [] := List.filterMap_eq_nil_iff.mpr hnone
  have hbefore : marksOf before = earlier := hearlier
  simpa [faultOf?, hclass, hgapNone, hbefore] using hfault

end TalkTimer
