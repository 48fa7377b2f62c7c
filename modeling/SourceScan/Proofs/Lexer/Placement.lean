import SourceScan.Lexer
import SourceScan.Proofs.Comment.Layout

/-! # Line numbers of constructs

Constructs follow one another without gap, so each of them begins on the line behind those that all
constructs above it take. Constructs that are placed further down keep everything but their line
numbers.
-/

namespace SourceScan

/-- The number of lines that constructs take altogether. -/
def totalHeight : List Construct → Nat
  | [] => 0
  | construct :: rest => construct.height + totalHeight rest

@[simp] theorem totalHeight_nil : totalHeight [] = 0 := rfl

@[simp] theorem totalHeight_cons (construct : Construct) (rest : List Construct) :
    totalHeight (construct :: rest) = construct.height + totalHeight rest := rfl

theorem length_flatMap_rows (constructs : List Construct) :
    (constructs.flatMap Construct.rows).length = totalHeight constructs := by
  induction constructs with
  | nil => rfl
  | cons construct rest ih =>
      rw [List.flatMap_cons, List.length_append, Construct.length_rows, ih, totalHeight_cons]

/-- A construct takes no more lines than there are. -/
theorem Construct.extra_read_le (style : CommentStyle) (line : Text) (following : List Text) :
    (read style line following).extra ≤ following.length := by
  have hlength := length_lines_read style line following
  rw [List.length_cons, List.length_take, height] at hlength
  omega

theorem totalHeight_constructs (style : CommentStyle) (lines : List Text) :
    totalHeight (constructs style lines) = lines.length := by
  induction lines using constructs.induct style with
  | case1 => rw [constructs]; rfl
  | case2 line following construct ih =>
      have hextra := Construct.extra_read_le style line following
      have hrest : totalHeight (constructs style (following.drop construct.extra)) =
          following.length - (Construct.read style line following).extra :=
        ih.trans List.length_drop
      rw [constructs, totalHeight_cons, hrest, List.length_cons, Construct.height]
      omega

/-! ## Moving down -/

/-- The same run so many lines further down. -/
def CommentRun.below (offset : Nat) (run : CommentRun) : CommentRun :=
  { run with lineno := run.lineno + offset }

namespace Event

/-- The line of a block comment that was kept as code. -/
def keptAt? : Event → Option Nat
  | .keptTail lineno | .keptLine lineno => some lineno
  | .split .. | .parsed .. | .read .. => none

/-- Whether an event reports a block comment that was kept as code. -/
def isKept (event : Event) : Bool := event.keptAt?.isSome

/-- The same report so many lines further down. Other events belong to no line. -/
def below (offset : Nat) : Event → Event
  | .keptTail lineno => .keptTail (lineno + offset)
  | .keptLine lineno => .keptLine (lineno + offset)
  | event => event

end Event

namespace Placed

/-- The same construct so many lines further down. -/
def below (offset : Nat) (placed : Placed) : Placed :=
  { placed with lineno := placed.lineno + offset }

theorem run?_below (offset : Nat) (placed : Placed) :
    (placed.below offset).run? = placed.run?.map (CommentRun.below offset) := by
  obtain ⟨lineno, construct⟩ := placed
  cases construct with
  | code => rfl
  | lineComment => simp [run?, below, CommentRun.below]
  | blockComment line block isDoc =>
      simp only [run?, below]
      cases block.verdict <;> simp [CommentRun.below]

theorem report?_below (offset : Nat) (placed : Placed) :
    (placed.below offset).report? = placed.report?.map (Event.below offset) := by
  obtain ⟨lineno, construct⟩ := placed
  cases construct with
  | code | lineComment => rfl
  | blockComment line block isDoc =>
      simp only [report?, below]
      cases block.verdict <;> rfl

/-- A report names the line on which its block comment begins. -/
theorem keptAt?_of_report?_eq_some {placed : Placed} {event : Event}
    (hreport : placed.report? = some event) : event.keptAt? = some placed.lineno := by
  obtain ⟨lineno, construct⟩ := placed
  cases construct with
  | code | lineComment => cases hreport
  | blockComment line block isDoc =>
      simp only [report?] at hreport
      cases hverdict : block.verdict with
      | accepted => simp [hverdict] at hreport
      | keptLine | keptTail =>
          simp only [hverdict, Option.some.injEq] at hreport
          rw [← hreport]
          rfl

end Placed

/-- Whether a construct is a block comment that is kept as code. -/
def Placed.isKept (placed : Placed) : Bool :=
  match placed.construct with
  | .blockComment _ block _ => block.verdict != .accepted
  | .code _ | .lineComment .. => false

theorem Placed.isSome_report? (placed : Placed) : placed.report?.isSome = placed.isKept := by
  obtain ⟨lineno, construct⟩ := placed
  cases construct with
  | code | lineComment => rfl
  | blockComment line block isDoc =>
      simp only [report?, isKept]
      cases block.verdict <;> rfl

/-- There is one report for each block comment that is kept as code, with the line on which the
comment begins. -/
theorem map_keptAt?_filterMap_report? (placed : List Placed) :
    (placed.filterMap Placed.report?).map Event.keptAt? =
      (placed.filter Placed.isKept).map fun item => some item.lineno := by
  induction placed with
  | nil => rfl
  | cons first rest ih =>
      have hkept := first.isSome_report?
      cases hreport : first.report? with
      | none =>
          rw [hreport] at hkept
          rw [List.filterMap_cons_none hreport, List.filter_cons_of_neg (by simp [← hkept]), ih]
      | some event =>
          rw [hreport] at hkept
          rw [List.filterMap_cons_some hreport, List.filter_cons_of_pos hkept.symm, List.map_cons,
            List.map_cons, ih, Placed.keptAt?_of_report?_eq_some hreport]

theorem isKept_of_mem_filterMap_report? {placed : List Placed} {event : Event}
    (hevent : event ∈ placed.filterMap Placed.report?) : event.isKept = true := by
  obtain ⟨item, -, hreport⟩ := List.mem_filterMap.mp hevent
  rw [Event.isKept, Placed.keptAt?_of_report?_eq_some hreport]
  rfl

theorem place_append (lineno : Nat) (above below : List Construct) :
    place lineno (above ++ below) =
      place lineno above ++ place (lineno + totalHeight above) below := by
  induction above generalizing lineno with
  | nil => rfl
  | cons construct rest ih =>
      rw [List.cons_append, place, ih, place, totalHeight_cons, Nat.add_assoc]
      rfl

theorem place_add (lineno offset : Nat) (constructs : List Construct) :
    place (lineno + offset) constructs = (place lineno constructs).map (Placed.below offset) := by
  induction constructs generalizing lineno with
  | nil => rfl
  | cons construct rest ih =>
      rw [place, place, List.map_cons, ← ih, Nat.add_right_comm]
      rfl

/-- A construct begins on one of the lines that all of them take. -/
theorem lineno_of_mem_place {lineno : Nat} {constructs : List Construct} {placed : Placed}
    (hmem : placed ∈ place lineno constructs) :
    lineno ≤ placed.lineno ∧ placed.lineno < lineno + totalHeight constructs := by
  induction constructs generalizing lineno with
  | nil => cases hmem
  | cons construct rest ih =>
      rw [totalHeight_cons, Construct.height]
      rcases List.mem_cons.mp hmem with rfl | hrest
      · dsimp only
        omega
      · have hbounds := ih hrest
        rw [Construct.height] at hbounds
        omega

/-- Constructs begin on lines that go down the source. -/
theorem pairwise_place (lineno : Nat) (constructs : List Construct) :
    (place lineno constructs).Pairwise fun placed below => placed.lineno < below.lineno := by
  induction constructs generalizing lineno with
  | nil => exact List.Pairwise.nil
  | cons construct rest ih =>
      refine List.pairwise_cons.mpr ⟨?_, ih _⟩
      intro below hbelow
      have hlineno := (lineno_of_mem_place hbelow).1
      rw [Construct.height] at hlineno
      dsimp only
      omega

/-- Where one of the placed constructs begins, and what stands above and below it. -/
theorem exists_of_place_eq_append {lineno : Nat} {constructs : List Construct}
    {before after : List Placed} {placed : Placed}
    (hplace : place lineno constructs = before ++ placed :: after) :
    ∃ above below, constructs = above ++ placed.construct :: below ∧
      before = place lineno above ∧ placed.lineno = lineno + totalHeight above ∧
      after = place (placed.lineno + placed.construct.height) below := by
  induction before generalizing lineno constructs with
  | nil =>
      cases constructs with
      | nil => cases hplace
      | cons construct rest =>
          obtain ⟨rfl, rfl⟩ := List.cons.inj hplace
          exact ⟨[], rest, rfl, rfl, rfl, rfl⟩
  | cons first before ih =>
      cases constructs with
      | nil => cases hplace
      | cons construct rest =>
          obtain ⟨rfl, hrest⟩ := List.cons.inj hplace
          obtain ⟨above, below, rfl, rfl, hlineno, hafter⟩ := ih hrest
          refine ⟨construct :: above, below, rfl, rfl, ?_, hafter⟩
          rw [hlineno, totalHeight_cons, Nat.add_assoc]

/-- A delivered run has one text for each line of its construct, and the construct leaves a lone
line break for each of them. -/
theorem Placed.of_run?_eq_some {placed : Placed} {run : CommentRun}
    (hrun : placed.run? = some run) :
    run.lineno = placed.lineno ∧ run.lines.length = placed.construct.height ∧
      placed.construct.rows = bareRows placed.construct.height ∧ placed.report? = none := by
  obtain ⟨lineno, construct⟩ := placed
  cases construct with
  | code => cases hrun
  | lineComment first more isDoc =>
      cases hrun
      exact ⟨rfl, rfl, rfl, rfl⟩
  | blockComment line block isDoc =>
      simp only [run?] at hrun
      cases hverdict : block.verdict with
      | accepted =>
          simp only [hverdict, Option.some.injEq] at hrun
          simp only [← hrun, Construct.rows, report?, hverdict, Construct.height, Construct.extra,
            Block.entries, List.length_append, List.length_singleton]
          exact ⟨trivial, trivial, trivial, trivial⟩
      | keptLine | keptTail => simp [hverdict] at hrun

end SourceScan
