import SourceScan.Proofs.Comment.Layout

/-! # Inside block comments

A line inside a block comment stands below that of the opener and does not hold the closer. Any
other text without the closer can stand in its place: the block ends where it did, and only the
entry for that line is another one.
-/

namespace SourceScan

namespace Block

/-- A line of a block, counted from that of the opener, is above that of the closer, if there is
one. -/
def HoldsOpen (block : Block) (index : Nat) : Prop :=
  index < block.above.length ∨ block.tail? = none ∧ index = block.above.length

/-- A block with another text on one of its lines, and otherwise the same. -/
structure Replaced (index : Nat) (new : Text) (block changed : Block) : Prop where
  entries : changed.entries = block.entries.set index new
  tail? : changed.tail? = block.tail?
  height : changed.above.length = block.above.length

theorem Replaced.cons {index : Nat} {new : Text} {block changed : Block}
    (hchanged : Replaced index new block changed) (first : Text) :
    Replaced (index + 1) new { block with above := first :: block.above }
      { changed with above := first :: changed.above } where
  entries := congrArg (first :: ·) hchanged.entries
  tail? := hchanged.tail?
  height := congrArg Nat.succ hchanged.height

theorem Replaced.verdict {index : Nat} {new : Text} {block changed : Block}
    (hchanged : Replaced index new block changed) : changed.verdict = block.verdict :=
  verdict_congr hchanged.tail? hchanged.height

theorem HoldsOpen.le {block : Block} {index : Nat} (hopen : block.HoldsOpen index) :
    index ≤ block.above.length := by
  rcases hopen with hlt | ⟨-, rfl⟩
  · exact Nat.le_of_lt hlt
  · exact Nat.le_refl _

theorem holdsOpen_cons_iff {block : Block} {first : Text} {index : Nat} :
    HoldsOpen { block with above := first :: block.above } (index + 1) ↔ block.HoldsOpen index := by
  simp [HoldsOpen]

variable {closer : Marker} {text new : Text} {following : List Text} {index : Nat}

/-- A block that is closed in its first text has no line above that of the closer. -/
theorem splitAt?_eq_none_of_holdsOpen (hopen : (read closer text following).HoldsOpen index) :
    Text.splitAt? closer.text text = none := by
  cases hsplit : Text.splitAt? closer.text text with
  | none => rfl
  | some found =>
      have hread : read closer text following = ⟨[], found.1, some found.2⟩ := by
        unfold read
        rw [hsplit]
      simp [hread, HoldsOpen] at hopen

theorem replaced_read_first (hopen : (read closer text following).HoldsOpen 0)
    (hnew : ¬ closer.text <:+: new) :
    Replaced 0 new (read closer text following) (read closer new following) := by
  have hold := splitAt?_eq_none_of_holdsOpen hopen
  have hsplit := Text.splitAt?_eq_none_iff.mpr hnew
  cases following with
  | nil =>
      simp only [read, hold, hsplit]
      exact ⟨rfl, rfl, rfl⟩
  | cons next rest =>
      rw [read_cons hold, read_cons hsplit]
      exact ⟨rfl, rfl, rfl⟩

/-- A text without the closer on a line inside a block. -/
theorem replaced_read (hopen : (read closer text following).HoldsOpen (index + 1))
    (hnew : ¬ closer.text <:+: new) :
    Replaced (index + 1) new (read closer text following)
      (read closer text (following.set index new)) := by
  have hold := splitAt?_eq_none_of_holdsOpen hopen
  induction following generalizing text index with
  | nil => simp [read, hold, HoldsOpen] at hopen
  | cons next rest ih =>
      rw [read_cons hold, holdsOpen_cons_iff] at hopen
      cases index with
      | zero =>
          rw [List.set_cons_zero, read_cons hold, read_cons hold]
          exact (replaced_read_first hopen hnew).cons text
      | succ index =>
          rw [List.set_cons_succ, read_cons hold, read_cons hold]
          exact (ih hopen (splitAt?_eq_none_of_holdsOpen hopen)).cons text

end Block

/-- The construct that begins on the line of the opener, with another text inside. -/
theorem Construct.read_set {style : CommentStyle} {line body new : Text} {closer : Marker}
    {isDoc : Bool} {following : List Text} {index : Nat}
    (hline : Opening.ofLine style line = .blockComment body closer isDoc)
    (hopen : (Block.read closer body following).HoldsOpen (index + 1))
    (hnew : ¬ closer.text <:+: new) :
    ∃ changed, Block.Replaced (index + 1) new (Block.read closer body following) changed ∧
      read style line (following.set index new) = .blockComment line changed isDoc := by
  refine ⟨_, Block.replaced_read hopen hnew, ?_⟩
  simp only [read, hline]

end SourceScan
