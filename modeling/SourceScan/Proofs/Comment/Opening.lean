import Mathlib.Data.List.Basic
import SourceScan.Comment.Opening

/-! # Markers at the start of a line

A marker opens a line when it stands right behind the indentation. The longest marker of a group
that opens a line and counts there is found unless there is none, and what is left of the line is
its indentation and the text behind that marker.
-/

namespace SourceScan

/-- The markers for lines of documentation, or those for other lines. -/
def CommentStyle.lineGroup (style : CommentStyle) (isDoc : Bool) : List Marker :=
  if isDoc then style.docLineMarkers else style.lineMarkers

/-- The pairs for blocks of documentation, or those for other blocks. -/
def CommentStyle.blockGroup (style : CommentStyle) (isDoc : Bool) : List BlockPair :=
  if isDoc then style.docBlockPairs else style.blockPairs

/-- A marker stands right behind the indentation of a line, and a text follows it. -/
def Marker.Opens (marker : Marker) (line after : Text) : Prop :=
  line = Text.indent line ++ marker.text ++ after

/-- A text is a line without a marker that stood right behind its indentation. -/
def Marker.RemovedFrom (marker : Marker) (line body : Text) : Prop :=
  ∃ after, marker.Opens line after ∧ body = Text.indent line ++ after

theorem Opening.opens_iff_content {marker : Marker} {line after : Text} :
    marker.Opens line after ↔ Text.content line = marker.text ++ after := by
  unfold Marker.Opens
  constructor
  · intro heq
    have hline : Text.indent line ++ Text.content line =
        Text.indent line ++ (marker.text ++ after) := by
      rw [Text.indent_append_content, ← List.append_assoc]
      exact heq
    exact List.append_cancel_left hline
  · intro hcontent
    rw [List.append_assoc, ← hcontent, Text.indent_append_content]

/-- Two markers of one length that open the same line are one marker. -/
theorem Marker.Opens.unique {marker other : Marker} {line after rest : Text}
    (hmarker : marker.Opens line after) (hother : other.Opens line rest)
    (hlength : marker.text.length = other.text.length) : marker = other ∧ after = rest := by
  rw [Opening.opens_iff_content] at hmarker hother
  obtain ⟨htext, hafter⟩ := List.append_inj (hmarker.symm.trans hother) hlength
  cases marker
  cases other
  cases htext
  exact ⟨rfl, hafter⟩

namespace Opening

section FirstLargest

variable {α : Type} {size : α → Nat} {items others : List α}

theorem firstLargest?_eq_none_iff : firstLargest? size items = none ↔ items = [] := by
  cases items with
  | nil => simp [firstLargest?]
  | cons item rest =>
      simp only [firstLargest?, reduceCtorEq, iff_false]
      split
      · simp
      · split <;> simp

theorem mem_of_firstLargest?_eq_some {best : α} (hbest : firstLargest? size items = some best) :
    best ∈ items := by
  induction items generalizing best with
  | nil => simp [firstLargest?] at hbest
  | cons item rest ih =>
      simp only [firstLargest?] at hbest
      split at hbest
      · exact Option.some.inj hbest ▸ List.mem_cons_self
      next other hother =>
        split at hbest
        · exact List.mem_cons_of_mem _ (Option.some.inj hbest ▸ ih hother)
        · exact Option.some.inj hbest ▸ List.mem_cons_self

theorem size_le_of_firstLargest?_eq_some {best item : α}
    (hbest : firstLargest? size items = some best) (hitem : item ∈ items) :
    size item ≤ size best := by
  induction items generalizing best with
  | nil => cases hitem
  | cons first rest ih =>
      simp only [firstLargest?] at hbest
      split at hbest
      next hrest =>
        obtain rfl := firstLargest?_eq_none_iff.mp hrest
        obtain rfl := Option.some.inj hbest
        exact Nat.le_of_eq (congrArg size (List.mem_singleton.mp hitem))
      next other hother =>
        -- The larger of the first item and the largest of the others bounds them all.
        have hfirst : size first ≤ size best ∧ size other ≤ size best := by
          split at hbest <;> cases hbest <;> omega
        rcases List.mem_cons.mp hitem with rfl | hmem
        · exact hfirst.1
        · exact Nat.le_trans (ih hother hmem) hfirst.2

/-- What comes before the first of the largest items is smaller. -/
theorem exists_append_of_firstLargest?_eq_some {best : α}
    (hbest : firstLargest? size items = some best) :
    ∃ before behind, items = before ++ best :: behind ∧
      ∀ item ∈ before, size item < size best := by
  induction items generalizing best with
  | nil => simp [firstLargest?] at hbest
  | cons first rest ih =>
      simp only [firstLargest?] at hbest
      split at hbest
      next hrest =>
        obtain rfl := Option.some.inj hbest
        exact ⟨[], rest, rfl, by simp⟩
      next other hother =>
        split at hbest
        next hlt =>
          obtain rfl := Option.some.inj hbest
          obtain ⟨before, behind, rfl, hbefore⟩ := ih hother
          exact ⟨first :: before, behind, rfl, List.forall_mem_cons.mpr ⟨hlt, hbefore⟩⟩
        next =>
          obtain rfl := Option.some.inj hbest
          exact ⟨[], rest, rfl, by simp⟩

/-- Where no two different items are of one size, only membership decides which is the largest. -/
theorem firstLargest?_eq_of_mem_iff (hmem : ∀ item, item ∈ items ↔ item ∈ others)
    (hties : ∀ item ∈ items, ∀ other ∈ items, size item = size other → item = other) :
    firstLargest? size items = firstLargest? size others := by
  cases hitems : firstLargest? size items with
  | none =>
      obtain rfl := firstLargest?_eq_none_iff.mp hitems
      have hnone : others = [] := by
        apply List.eq_nil_iff_forall_not_mem.mpr
        intro item hitem
        exact List.not_mem_nil ((hmem item).mpr hitem)
      rw [hnone, firstLargest?]
  | some best =>
      cases hothers : firstLargest? size others with
      | none =>
          obtain rfl := firstLargest?_eq_none_iff.mp hothers
          have hbest := (hmem best).mp (mem_of_firstLargest?_eq_some hitems)
          cases hbest
      | some other =>
          have hbest := mem_of_firstLargest?_eq_some hitems
          have hother := (hmem other).mpr (mem_of_firstLargest?_eq_some hothers)
          have hle := size_le_of_firstLargest?_eq_some hitems hother
          have hge := size_le_of_firstLargest?_eq_some hothers ((hmem best).mp hbest)
          rw [hties best hbest other hother (Nat.le_antisymm hge hle)]

end FirstLargest

section Longest

variable {α : Type} {marker : α → Marker} {counts : α → Text → Bool} {items : List α}
variable {line : Text}

theorem mem_candidates_iff {item : α} {after : Text} :
    (item, after) ∈ candidates marker counts items line ↔
      item ∈ items ∧ (marker item).Opens line after ∧ counts item after = true := by
  unfold candidates
  rw [List.mem_filterMap]
  simp only [Option.map_eq_some_iff, Option.filter_eq_some_iff, Prod.mk.injEq,
    Text.after?_eq_some_iff, opens_iff_content]
  constructor
  · rintro ⟨item, hitem, after, ⟨hcontent, hcounts⟩, rfl, rfl⟩
    exact ⟨hitem, hcontent, hcounts⟩
  · rintro ⟨hitem, hcontent, hcounts⟩
    exact ⟨item, hitem, after, ⟨hcontent, hcounts⟩, rfl, rfl⟩

theorem exists_of_longest?_eq_some {item : α} {body : Text}
    (hlongest : longest? marker counts items line = some (item, body)) :
    item ∈ items ∧ ∃ after, (marker item).Opens line after ∧ counts item after = true ∧
      body = Text.indent line ++ after := by
  obtain ⟨⟨found, after⟩, hfound, heq⟩ := Option.map_eq_some_iff.mp hlongest
  obtain ⟨rfl, rfl⟩ := Prod.mk.inj heq
  obtain ⟨hitem, hopens, hcounts⟩ := mem_candidates_iff.mp (mem_of_firstLargest?_eq_some hfound)
  exact ⟨hitem, after, hopens, hcounts, rfl⟩

theorem removedFrom_of_longest?_eq_some {item : α} {body : Text}
    (hlongest : longest? marker counts items line = some (item, body)) :
    item ∈ items ∧ (marker item).RemovedFrom line body := by
  obtain ⟨hitem, after, hopens, -, hbody⟩ := exists_of_longest?_eq_some hlongest
  exact ⟨hitem, after, hopens, hbody⟩

theorem longest?_eq_none_iff :
    longest? marker counts items line = none ↔
      ∀ item ∈ items, ∀ after, (marker item).Opens line after → counts item after = false := by
  rw [longest?, Option.map_eq_none_iff, firstLargest?_eq_none_iff, List.eq_nil_iff_forall_not_mem]
  constructor
  · intro hnone item hitem after hopens
    refine Bool.eq_false_iff.mpr fun hcounts => ?_
    exact hnone (item, after) (mem_candidates_iff.mpr ⟨hitem, hopens, hcounts⟩)
  · rintro hnone ⟨item, after⟩ hmem
    obtain ⟨hitem, hopens, hcounts⟩ := mem_candidates_iff.mp hmem
    rw [hnone item hitem after hopens] at hcounts
    cases hcounts

/-- Items that count nowhere can be left out of a group. -/
theorem longest?_filter {keep : α → Bool}
    (hkeep : ∀ item ∈ items, keep item = false → ∀ after, counts item after = false) :
    longest? marker counts (items.filter keep) line = longest? marker counts items line := by
  have hcandidates :
      candidates marker counts (items.filter keep) line = candidates marker counts items line := by
    rw [candidates, List.filterMap_filter]
    apply List.filterMap_congr
    intro item hitem
    split
    next => rfl
    next hdropped =>
      have hnever := hkeep item hitem (Bool.eq_false_iff.mpr hdropped)
      have hnone : (Text.after? (marker item).text (Text.content line)).filter (counts item) =
          none := Option.filter_eq_none_iff.mpr fun after _ => by simp [hnever]
      rw [hnone, Option.map_none]
  rw [longest?, hcandidates, longest?]

end Longest

variable {style : CommentStyle} {line : Text}

/-- A line goes on with a run of line comments exactly if some plain line marker opens it. -/
theorem lineBody?_eq_none_iff :
    lineBody? style line = none ↔
      ∀ marker ∈ style.lineMarkers, ∀ after, ¬ marker.Opens line after := by
  rw [lineBody?, Option.map_eq_none_iff, longest?_eq_none_iff]
  simp only [id_eq, Bool.true_eq_false, imp_false]

theorem removedFrom_of_lineBody?_eq_some {body : Text} (hbody : lineBody? style line = some body) :
    ∃ marker ∈ style.lineMarkers, marker.RemovedFrom line body := by
  obtain ⟨⟨marker, _⟩, hlongest, rfl⟩ := Option.map_eq_some_iff.mp hbody
  exact ⟨marker, removedFrom_of_longest?_eq_some hlongest⟩

end Opening

end SourceScan
