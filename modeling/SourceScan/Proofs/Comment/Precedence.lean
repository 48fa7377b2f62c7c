import SourceScan.Comment.Construct
import SourceScan.Proofs.Comment.Opening
import SourceScan.Proofs.Text.Occurrence

/-! # Which marker opens a line

The groups of markers are asked one after another: documentation before other comments of the same
form, and lines before blocks. In the first group that answers, the longest marker that counts is
removed and nothing else, and of the pairs with this opener that count the one declared first closes
the block. A line for which no group answers opens nothing.
-/

namespace SourceScan

/-- The last character of a marker does not follow it. -/
def Marker.Unrepeated (marker : Marker) (after : Text) : Prop :=
  after.head? ≠ some marker.last

/-- The last character of an opener does not follow it, and together with what follows it does not
begin with the closer. -/
def BlockPair.Unrejected (pair : BlockPair) (after : Text) : Prop :=
  pair.opener.Unrepeated after ∧ ¬ pair.closer.text <+: pair.opener.last :: after

theorem Marker.standsBefore_iff (marker : Marker) (after : Text) :
    marker.standsBefore after = true ↔ marker.Unrepeated after :=
  bne_iff_ne

theorem BlockPair.standsBefore_iff (pair : BlockPair) (after : Text) :
    pair.standsBefore after = true ↔ pair.Unrejected after := by
  have hcloser : (Text.after? pair.closer.text (pair.opener.last :: after)).isNone = true ↔
      ¬ pair.closer.text <+: pair.opener.last :: after := by
    rw [Option.isNone_iff_eq_none, Text.after?_eq_none_iff, List.IsPrefix, not_exists]
    exact forall_congr' fun rest => not_congr eq_comm
  rw [standsBefore, Bool.and_eq_true, Marker.standsBefore_iff, hcloser, Unrejected]

/-- The first of some items is known by what does not stand before it. -/
theorem eq_of_append_cons_eq {α : Type} {before behind before' behind' : List α} {item other : α}
    (heq : before ++ item :: behind = before' ++ other :: behind') (hitem : item ∉ before')
    (hother : other ∉ before) : item = other := by
  rcases List.append_eq_append_iff.mp heq with ⟨between, rfl, hcons⟩ | ⟨between, rfl, hcons⟩
  · cases between with
    | nil => exact (List.cons.inj hcons).1
    | cons first rest =>
        obtain ⟨rfl, -⟩ := List.cons.inj hcons
        simp at hitem
  · cases between with
    | nil => exact (List.cons.inj hcons).1.symm
    | cons first rest =>
        obtain ⟨rfl, -⟩ := List.cons.inj hcons
        simp at hother

namespace Opening

section Chosen

variable {α : Type} (marker : α → Marker) (Counts : α → Text → Prop) (items : List α)
variable (line : Text)

/-- The marker of some item opens a line and counts there. -/
def Answers : Prop := ∃ item ∈ items, ∃ after, (marker item).Opens line after ∧ Counts item after

/-- No marker that opens a line and counts there is longer than that of an item, and no item with
the same marker that counts is declared before it. -/
structure Chosen (item : α) (after : Text) : Prop where
  opens : (marker item).Opens line after
  counts : Counts item after
  longest : ∀ other ∈ items, ∀ rest, (marker other).Opens line rest → Counts other rest →
    (marker other).text.length ≤ (marker item).text.length
  first : ∃ before behind, items = before ++ item :: behind ∧
    ∀ other ∈ before, marker other = marker item → ¬ Counts other after

variable {marker Counts items line} {item other : α} {after rest : Text}

theorem not_answers_nil : ¬ Answers marker Counts [] line := by
  rintro ⟨item, hitem, -⟩
  exact List.not_mem_nil hitem

theorem Chosen.singleton (hopens : (marker item).Opens line after) (hcounts : Counts item after) :
    Chosen marker Counts [item] line item after where
  opens := hopens
  counts := hcounts
  longest other hother _ _ _ := by rw [List.mem_singleton.mp hother]
  first := ⟨[], [], rfl, by simp⟩

theorem Chosen.mem (hchosen : Chosen marker Counts items line item after) : item ∈ items := by
  obtain ⟨before, behind, rfl, -⟩ := hchosen.first
  exact List.mem_append_right _ List.mem_cons_self

theorem Chosen.removedFrom (hchosen : Chosen marker Counts items line item after) :
    (marker item).RemovedFrom line (Text.indent line ++ after) :=
  ⟨after, hchosen.opens, rfl⟩

theorem Chosen.unique (hchosen : Chosen marker Counts items line item after)
    (hother : Chosen marker Counts items line other rest) : item = other ∧ after = rest := by
  have hle := hchosen.longest other hother.mem rest hother.opens hother.counts
  have hge := hother.longest item hchosen.mem after hchosen.opens hchosen.counts
  obtain ⟨hmarker, rfl⟩ := hchosen.opens.unique hother.opens (Nat.le_antisymm hge hle)
  obtain ⟨before, behind, hsplit, hfirst⟩ := hchosen.first
  obtain ⟨before', behind', hsplit', hfirst'⟩ := hother.first
  refine ⟨eq_of_append_cons_eq (hsplit.symm.trans hsplit') ?_ ?_, rfl⟩
  · exact fun hmem => hfirst' item hmem hmarker hchosen.counts
  · exact fun hmem => hfirst other hmem hmarker.symm hother.counts

variable {counts : α → Text → Bool}

/-- Candidates stand in the order of their items. -/
theorem exists_append_of_candidates_eq {front back : List (α × Text)}
    (hsplit : candidates marker counts items line = front ++ (item, after) :: back) :
    ∃ before behind, items = before ++ item :: behind ∧
      candidates marker counts before line = front := by
  obtain ⟨before, others, rfl, hbefore, hothers⟩ := List.filterMap_eq_append_iff.mp hsplit
  obtain ⟨passed, found, behind, rfl, hpassed, hfound, -⟩ := List.filterMap_eq_cons_iff.mp hothers
  obtain ⟨_, -, heq⟩ := Option.map_eq_some_iff.mp hfound
  obtain ⟨rfl, -⟩ := Prod.mk.inj heq
  refine ⟨before ++ passed, behind, (List.append_assoc _ _ _).symm, ?_⟩
  rw [candidates, List.filterMap_append, hbefore, List.filterMap_eq_nil_iff.mpr hpassed,
    List.append_nil]

variable (hcounts : ∀ item after, counts item after = true ↔ Counts item after)
include hcounts

theorem longest?_eq_none_iff_not_answers :
    longest? marker counts items line = none ↔ ¬ Answers marker Counts items line := by
  simp only [longest?_eq_none_iff, Answers, not_exists, not_and, ← hcounts, Bool.not_eq_true]

theorem exists_chosen_of_longest?_eq_some {body : Text}
    (hlongest : longest? marker counts items line = some (item, body)) :
    ∃ after, Chosen marker Counts items line item after ∧ body = Text.indent line ++ after := by
  obtain ⟨⟨found, after⟩, hfound, heq⟩ := Option.map_eq_some_iff.mp hlongest
  obtain ⟨rfl, rfl⟩ := Prod.mk.inj heq
  obtain ⟨-, hopens, htrue⟩ := mem_candidates_iff.mp (mem_of_firstLargest?_eq_some hfound)
  refine ⟨after, ⟨hopens, (hcounts _ _).mp htrue, ?longest, ?first⟩, rfl⟩
  case longest =>
    intro other hother rest hrest hcount
    have hmem : (other, rest) ∈ candidates marker counts items line :=
      mem_candidates_iff.mpr ⟨hother, hrest, (hcounts _ _).mpr hcount⟩
    have hle := size_le_of_firstLargest?_eq_some hfound hmem
    exact hle
  case first =>
    obtain ⟨front, back, hsplit, hfront⟩ := exists_append_of_firstLargest?_eq_some hfound
    obtain ⟨before, behind, hitems, hbefore⟩ := exists_append_of_candidates_eq hsplit
    refine ⟨before, behind, hitems, ?_⟩
    intro other hother hsame hcount
    have hopensOther : (marker other).Opens line after := hsame ▸ hopens
    have hmem : (other, after) ∈ front := by
      rw [← hbefore]
      exact mem_candidates_iff.mpr ⟨hother, hopensOther, (hcounts _ _).mpr hcount⟩
    have hlt := hfront (other, after) hmem
    rw [hsame] at hlt
    exact lt_irrefl _ hlt

/-- The longest marker of a group is found exactly with its first item. -/
theorem longest?_eq_some_iff {body : Text} :
    longest? marker counts items line = some (item, body) ↔
      ∃ after, Chosen marker Counts items line item after ∧ body = Text.indent line ++ after := by
  refine ⟨exists_chosen_of_longest?_eq_some hcounts, ?_⟩
  rintro ⟨after, hchosen, rfl⟩
  cases hlongest : longest? marker counts items line with
  | none =>
      have hanswers : Answers marker Counts items line :=
        ⟨item, hchosen.mem, after, hchosen.opens, hchosen.counts⟩
      exact absurd hanswers ((longest?_eq_none_iff_not_answers hcounts).mp hlongest)
  | some found =>
      obtain ⟨other, body⟩ := found
      obtain ⟨rest, hother, rfl⟩ := exists_chosen_of_longest?_eq_some hcounts hlongest
      obtain ⟨rfl, rfl⟩ := hchosen.unique hother
      rfl

theorem map_snd_longest?_eq_some_iff {body : Text} :
    (longest? marker counts items line).map Prod.snd = some body ↔
      ∃ item after, Chosen marker Counts items line item after ∧
        body = Text.indent line ++ after := by
  simp only [Option.map_eq_some_iff, Prod.exists, exists_eq_right, longest?_eq_some_iff hcounts]

theorem map_snd_longest?_eq_none_iff :
    (longest? marker counts items line).map Prod.snd = none ↔
      ¬ Answers marker Counts items line := by
  rw [Option.map_eq_none_iff, longest?_eq_none_iff_not_answers hcounts]

end Chosen

end Opening

/-! ## The four groups

A group has a marker for a line if one of its markers opens the line and counts there. A marker for
documentation does not count everywhere, any other one does.
-/

namespace CommentStyle

variable (style : CommentStyle) (line : Text)

def HasDocLine : Prop := Opening.Answers id Marker.Unrepeated style.docLineMarkers line

def HasLine : Prop := Opening.Answers id (fun _ _ => True) style.lineMarkers line

def HasDocBlock : Prop :=
  Opening.Answers BlockPair.opener BlockPair.Unrejected style.docBlockPairs line

def HasBlock : Prop := Opening.Answers BlockPair.opener (fun _ _ => True) style.blockPairs line

end CommentStyle

namespace Opening

/-- What a line opens: each group of markers is asked only if none before it answers, and the marker
chosen from it is removed behind the indentation. -/
inductive Decided (style : CommentStyle) (line : Text) : Opening → Prop
  | docLine {marker : Marker} {after : Text}
      (hchosen : Chosen id Marker.Unrepeated style.docLineMarkers line marker after) :
      Decided style line (.lineComment (Text.indent line ++ after) true)
  | line {marker : Marker} {after : Text} (hdocLine : ¬ style.HasDocLine line)
      (hchosen : Chosen id (fun _ _ => True) style.lineMarkers line marker after) :
      Decided style line (.lineComment (Text.indent line ++ after) false)
  | docBlock {pair : BlockPair} {after : Text} (hdocLine : ¬ style.HasDocLine line)
      (hline : ¬ style.HasLine line)
      (hchosen : Chosen BlockPair.opener BlockPair.Unrejected style.docBlockPairs line pair after) :
      Decided style line (.blockComment (Text.indent line ++ after) pair.closer true)
  | block {pair : BlockPair} {after : Text} (hdocLine : ¬ style.HasDocLine line)
      (hline : ¬ style.HasLine line) (hdocBlock : ¬ style.HasDocBlock line)
      (hchosen : Chosen BlockPair.opener (fun _ _ => True) style.blockPairs line pair after) :
      Decided style line (.blockComment (Text.indent line ++ after) pair.closer false)
  | code (hdocLine : ¬ style.HasDocLine line) (hline : ¬ style.HasLine line)
      (hdocBlock : ¬ style.HasDocBlock line) (hblock : ¬ style.HasBlock line) :
      Decided style line .code

variable {style : CommentStyle} {line : Text}

theorem docLineBody?_eq_some_iff {body : Text} :
    docLineBody? style line = some body ↔
      ∃ marker after, Chosen id Marker.Unrepeated style.docLineMarkers line marker after ∧
        body = Text.indent line ++ after :=
  map_snd_longest?_eq_some_iff Marker.standsBefore_iff

theorem lineBody?_eq_some_iff {body : Text} :
    lineBody? style line = some body ↔
      ∃ marker after, Chosen id (fun _ _ => True) style.lineMarkers line marker after ∧
        body = Text.indent line ++ after :=
  map_snd_longest?_eq_some_iff fun _ _ => iff_of_true rfl trivial

theorem docBlock?_eq_some_iff {pair : BlockPair} {body : Text} :
    docBlock? style line = some (pair, body) ↔
      ∃ after,
        Chosen BlockPair.opener BlockPair.Unrejected style.docBlockPairs line pair after ∧
        body = Text.indent line ++ after :=
  longest?_eq_some_iff BlockPair.standsBefore_iff

theorem block?_eq_some_iff {pair : BlockPair} {body : Text} :
    block? style line = some (pair, body) ↔
      ∃ after, Chosen BlockPair.opener (fun _ _ => True) style.blockPairs line pair after ∧
        body = Text.indent line ++ after :=
  longest?_eq_some_iff fun _ _ => iff_of_true rfl trivial

theorem docLineBody?_eq_none_iff : docLineBody? style line = none ↔ ¬ style.HasDocLine line :=
  map_snd_longest?_eq_none_iff Marker.standsBefore_iff

theorem lineBody?_eq_none_iff_not_hasLine :
    lineBody? style line = none ↔ ¬ style.HasLine line :=
  map_snd_longest?_eq_none_iff fun _ _ => iff_of_true rfl trivial

theorem docBlock?_eq_none_iff : docBlock? style line = none ↔ ¬ style.HasDocBlock line :=
  longest?_eq_none_iff_not_answers BlockPair.standsBefore_iff

theorem block?_eq_none_iff : block? style line = none ↔ ¬ style.HasBlock line :=
  longest?_eq_none_iff_not_answers fun _ _ => iff_of_true rfl trivial

theorem decided_ofLine (style : CommentStyle) (line : Text) :
    Decided style line (ofLine style line) := by
  unfold ofLine
  split
  next body hbody =>
    obtain ⟨marker, after, hchosen, rfl⟩ := docLineBody?_eq_some_iff.mp hbody
    exact .docLine hchosen
  next hnone =>
    have hdocLine := docLineBody?_eq_none_iff.mp hnone
    split
    next body hbody =>
      obtain ⟨marker, after, hchosen, rfl⟩ := lineBody?_eq_some_iff.mp hbody
      exact .line hdocLine hchosen
    next hnone =>
      have hline := lineBody?_eq_none_iff_not_hasLine.mp hnone
      split
      next pair body hbody =>
        obtain ⟨after, hchosen, rfl⟩ := docBlock?_eq_some_iff.mp hbody
        exact .docBlock hdocLine hline hchosen
      next hnone =>
        have hdocBlock := docBlock?_eq_none_iff.mp hnone
        split
        next pair body hbody =>
          obtain ⟨after, hchosen, rfl⟩ := block?_eq_some_iff.mp hbody
          exact .block hdocLine hline hdocBlock hchosen
        next hnone => exact .code hdocLine hline hdocBlock (block?_eq_none_iff.mp hnone)

theorem Decided.ofLine_eq {opening : Opening} (hdecided : Decided style line opening) :
    ofLine style line = opening := by
  cases hdecided with
  | docLine hchosen =>
      have hbody := docLineBody?_eq_some_iff.mpr ⟨_, _, hchosen, rfl⟩
      simp only [ofLine, hbody]
  | line hdocLine hchosen =>
      have hbody := lineBody?_eq_some_iff.mpr ⟨_, _, hchosen, rfl⟩
      simp only [ofLine, docLineBody?_eq_none_iff.mpr hdocLine, hbody]
  | docBlock hdocLine hline hchosen =>
      have hbody := docBlock?_eq_some_iff.mpr ⟨_, hchosen, rfl⟩
      simp only [ofLine, docLineBody?_eq_none_iff.mpr hdocLine,
        lineBody?_eq_none_iff_not_hasLine.mpr hline, hbody]
  | block hdocLine hline hdocBlock hchosen =>
      have hbody := block?_eq_some_iff.mpr ⟨_, hchosen, rfl⟩
      simp only [ofLine, docLineBody?_eq_none_iff.mpr hdocLine,
        lineBody?_eq_none_iff_not_hasLine.mpr hline, docBlock?_eq_none_iff.mpr hdocBlock, hbody]
  | code hdocLine hline hdocBlock hblock =>
      simp only [ofLine, docLineBody?_eq_none_iff.mpr hdocLine,
        lineBody?_eq_none_iff_not_hasLine.mpr hline, docBlock?_eq_none_iff.mpr hdocBlock,
        block?_eq_none_iff.mpr hblock]

/-- The first line of a run of line comments loses one line marker, a documentation marker exactly
if the run is documentation. -/
theorem removedFrom_of_ofLine_eq_lineComment {body : Text} {isDoc : Bool}
    (hopen : ofLine style line = .lineComment body isDoc) :
    ∃ marker ∈ style.lineGroup isDoc, marker.RemovedFrom line body := by
  have hdecided := decided_ofLine style line
  rw [hopen] at hdecided
  cases hdecided with
  | docLine hchosen => exact ⟨_, hchosen.mem, hchosen.removedFrom⟩
  | line _ hchosen => exact ⟨_, hchosen.mem, hchosen.removedFrom⟩

/-- The first line of a block comment loses the opener of one pair, and the block waits for the
closer of that pair. -/
theorem removedFrom_of_ofLine_eq_blockComment {body : Text} {closer : Marker} {isDoc : Bool}
    (hopen : ofLine style line = .blockComment body closer isDoc) :
    ∃ pair ∈ style.blockGroup isDoc, pair.closer = closer ∧ pair.opener.RemovedFrom line body := by
  have hdecided := decided_ofLine style line
  rw [hopen] at hdecided
  cases hdecided with
  | docBlock _ _ hchosen => exact ⟨_, hchosen.mem, rfl, hchosen.removedFrom⟩
  | block _ _ _ hchosen => exact ⟨_, hchosen.mem, rfl, hchosen.removedFrom⟩

/-- A line opens what the groups of markers decide and nothing else, and a line that opens nothing
is code as a whole. -/
theorem ofLine_eq_iff_decided (style : CommentStyle) (line : Text) :
    (∀ opening, ofLine style line = opening ↔ Decided style line opening) ∧
      (Decided style line .code →
        ∀ following, Construct.read style line following = .code line) := by
  refine ⟨fun opening => ⟨?_, Decided.ofLine_eq⟩, fun hdecided following => ?_⟩
  · rintro rfl
    exact decided_ofLine style line
  · rw [Construct.read, hdecided.ofLine_eq]

/-- The first pair runs into its closer, so that a later one with the same opener is chosen. -/
example :
    let pairs : List BlockPair := [⟨.ofChars '/' ['*', '*'], .ofChars '*' ['/']⟩,
      ⟨.ofChars '/' [], .ofChars '/' []⟩, ⟨.ofChars '/' ['*', '*'], .ofChars '!' []⟩]
    ofLine { docBlockPairs := pairs } " /**/ a".toList =
      .blockComment " / a".toList (.ofChars '!' []) true := by
  decide

end Opening

end SourceScan
