import Mathlib.Data.List.Forall2
import SourceScan.CommentStyle.Presets
import SourceScan.Proofs.Comment.Layout
import SourceScan.Proofs.Comment.Precedence
import SourceScan.Proofs.Lexer.Delivery

/-! # Where delivered runs stand

Every run that a pass delivers can be read off the lines of the source: it has one text for each
line from its first to its last, and only the markers are gone from them. Runs come in the order of
their lines and share none.
-/

namespace SourceScan

/-- How a run stands in the lines of its source. -/
inductive Stands (style : CommentStyle) (lines : List Text) : CommentRun → Prop where
  /-- Every line loses one line marker, and the line behind the run, if there is one, has no plain
  line marker. -/
  | lineComment {before more bodies after : List Text} {first body : Text} {isDoc : Bool}
      (hlines : lines = before ++ first :: more ++ after)
      (hfirst : ∃ marker ∈ style.lineGroup isDoc, marker.RemovedFrom first body)
      (hmore : List.Forall₂
        (fun line text => ∃ marker ∈ style.lineMarkers, marker.RemovedFrom line text) more bodies)
      (hend : ∀ next ∈ after.head?, ∀ marker ∈ style.lineMarkers, ∀ rest,
        ¬ marker.Opens next rest) :
      Stands style lines ⟨body :: bodies, before.length + 1, isDoc⟩
  /-- The first line loses an opener and the last one is cut at the first closer that belongs to
  it, with only blanks behind; no line above holds that closer. -/
  | closedBlock {before more after above : List Text} {first body final cut tail : Text}
      {pair : BlockPair} {isDoc : Bool}
      (hlines : lines = before ++ first :: more ++ after)
      (hpair : pair ∈ style.blockGroup isDoc) (hfirst : pair.opener.RemovedFrom first body)
      (htexts : body :: more = above ++ [final])
      (habove : ∀ text ∈ above, ¬ pair.closer.text <:+: text)
      (hclose : Text.FirstAt pair.closer.text final cut tail)
      (hblank : ∀ c ∈ tail, isBlank c = true) :
      Stands style lines ⟨above ++ [cut], before.length + 1, isDoc⟩
  /-- Without its closer a block comment goes on to the last line of the source. -/
  | openBlock {before more : List Text} {first body : Text} {pair : BlockPair} {isDoc : Bool}
      (hlines : lines = before ++ first :: more)
      (hpair : pair ∈ style.blockGroup isDoc) (hfirst : pair.opener.RemovedFrom first body)
      (hnone : ∀ text ∈ body :: more, ¬ pair.closer.text <:+: text) :
      Stands style lines ⟨body :: more, before.length + 1, isDoc⟩

/-- The run that a portion delivers when it begins on a given line. -/
def Portion.run? (portion : Portion) (lineno : Nat) : Option CommentRun :=
  portion.comment?.map fun (texts, isDoc) => ⟨texts, lineno, isDoc⟩

/-- The runs of portions, the first of which begins on a given line. -/
def runsFrom : Nat → List Portion → List CommentRun
  | _, [] => []
  | lineno, portion :: rest =>
      (portion.run? lineno).toList ++ runsFrom (lineno + portion.lines.length) rest

namespace Stretch

variable {style : CommentStyle} {following before : List Text} {portion : Portion}
variable {lineno : Nat} {run : CommentRun}

theorem forall₂_removedFrom {more bodies : List Text}
    (hmore : more.map (Opening.lineBody? style) = bodies.map some) :
    List.Forall₂ (fun line text => ∃ marker ∈ style.lineMarkers, marker.RemovedFrom line text)
      more bodies := by
  have hpairs := List.forall₂_eq_eq_eq ▸ hmore
  rw [List.forall₂_map_left_iff, List.forall₂_map_right_iff] at hpairs
  exact hpairs.imp fun _ _ hbody => Opening.removedFrom_of_lineBody?_eq_some hbody

/-- A stretch delivers one text for each of its lines, of which there is at least one. -/
theorem length_run (hstretch : Stretch style following portion)
    (hrun : portion.run? lineno = some run) :
    run.lineno = lineno ∧ run.lines.length = portion.lines.length ∧ 0 < portion.lines.length := by
  cases hstretch with
  | code | keptLine | keptTail => cases hrun
  | lineComment _ hmore _ =>
      cases hrun
      simp [length_eq_of_map_eq_map_some hmore]
  | closed _ htexts _ _ _ =>
      cases hrun
      have hlength := congrArg List.length htexts
      simp only [List.length_append, List.length_cons, List.length_nil] at hlength ⊢
      exact ⟨trivial, hlength.symm, Nat.succ_pos _⟩
  | unclosed _ _ =>
      cases hrun
      simp

theorem stands (hstretch : Stretch style following portion)
    (hrun : portion.run? (before.length + 1) = some run) :
    Stands style (before ++ portion.lines ++ following) run := by
  cases hstretch with
  | code | keptLine | keptTail => cases hrun
  | lineComment hopen hmore hend =>
      cases hrun
      refine .lineComment rfl (Opening.removedFrom_of_ofLine_eq_lineComment hopen)
        (forall₂_removedFrom hmore) ?_
      intro next hnext
      exact Opening.lineBody?_eq_none_iff.mp (hend next hnext)
  | closed hopen htexts habove hclose hblank =>
      cases hrun
      obtain ⟨pair, hpair, rfl, hfirst⟩ := Opening.removedFrom_of_ofLine_eq_blockComment hopen
      exact .closedBlock rfl hpair hfirst htexts habove hclose hblank
  | unclosed hopen hnone =>
      cases hrun
      obtain ⟨pair, hpair, rfl, hfirst⟩ := Opening.removedFrom_of_ofLine_eq_blockComment hopen
      exact .openBlock (List.append_nil _) hpair hfirst hnone

end Stretch

namespace Layout

variable {style : CommentStyle} {lines : List Text} {portions : List Portion} {lineno : Nat}

theorem bounds_of_mem_runsFrom (hlayout : Layout style lines portions) :
    ∀ run ∈ runsFrom lineno portions,
      lineno ≤ run.lineno ∧ run.lineno ≤ run.endLineno ∧
        run.endLineno < lineno + lines.length := by
  induction hlayout generalizing lineno with
  | nil => simp [runsFrom]
  | @cons portion following portions hfirst _ ih =>
      intro run hrun
      rw [List.length_append]
      rcases List.mem_append.mp hrun with hhead | htail
      · obtain ⟨hlineno, hlength, hpos⟩ := hfirst.length_run (Option.mem_toList.mp hhead)
        unfold CommentRun.endLineno
        omega
      · obtain ⟨hlower, hspan, hupper⟩ := ih run htail
        push_cast at hlower hupper ⊢
        omega

theorem pairwise_runsFrom (hlayout : Layout style lines portions) :
    (runsFrom lineno portions).Pairwise fun run next => run.endLineno < next.lineno := by
  induction hlayout generalizing lineno with
  | nil => exact List.Pairwise.nil
  | @cons portion following portions hfirst hrest ih =>
      refine List.pairwise_append.mpr ⟨?_, ih, ?_⟩
      · cases portion.run? lineno with
        | none => exact List.Pairwise.nil
        | some run => exact List.pairwise_singleton _ run
      · intro run hrun next hnext
        obtain ⟨hlineno, hlength, -⟩ := hfirst.length_run (Option.mem_toList.mp hrun)
        obtain ⟨hlower, -⟩ := hrest.bounds_of_mem_runsFrom next hnext
        unfold CommentRun.endLineno
        push_cast at hlower
        omega

/-- The runs of laid out lines stand in the source that has these lines at its end. -/
theorem stands (hlayout : Layout style lines portions) (before : List Text) :
    ∀ run ∈ runsFrom (before.length + 1) portions, Stands style (before ++ lines) run := by
  induction hlayout generalizing before with
  | nil => simp [runsFrom]
  | @cons portion following portions hfirst _ ih =>
      intro run hrun
      rw [← List.append_assoc]
      rcases List.mem_append.mp hrun with hhead | htail
      · exact hfirst.stands (Option.mem_toList.mp hhead)
      · apply ih (before ++ portion.lines) run
        rwa [List.length_append, Nat.add_right_comm]

end Layout

theorem Placed.run?_eq_map_comment? (lineno : Nat) (construct : Construct) :
    (⟨lineno, construct⟩ : Placed).run? =
      construct.comment?.map fun (texts, isDoc) => ⟨texts, lineno, isDoc⟩ := by
  cases construct with
  | code | lineComment => rfl
  | blockComment line block isDoc =>
      simp only [run?, Construct.comment?]
      cases block.verdict <;> rfl

/-- The runs of the constructs of lines are those of their portions. -/
theorem filterMap_run?_place (style : CommentStyle) (lines : List Text) (lineno : Nat) :
    (place lineno (constructs style lines)).filterMap Placed.run? =
      runsFrom lineno (portions style lines) := by
  induction lines using portions.induct style generalizing lineno with
  | case1 => rw [portions, constructs]; rfl
  | case2 line following construct ih =>
      rw [portions, constructs, place, runsFrom, length_lines_read, ← ih, Portion.run?,
        ← Placed.run?_eq_map_comment?]
      cases hrun : (⟨lineno, construct⟩ : Placed).run? with
      | none => rw [List.filterMap_cons_none hrun]; rfl
      | some run => rw [List.filterMap_cons_some hrun]; rfl

namespace Lexer

variable {σ : Type} [Sink σ]

/-- A willing sink is handed the runs of the source in the order of their lines: those of its
portions, all of them and no others. They lie within the source, none reaches the line on which the
next begins, and all of them stand in the lines. -/
theorem tokenize_runs (lexer : Lexer) (progress : Progress σ) (hsink : Willing progress.sink) :
    (lexer.tokenize progress).progress.sink = handed progress.sink lexer.runs ∧
      lexer.runs = runsFrom 1 (portions lexer.style lexer.lines) ∧
      (∀ run ∈ lexer.runs, 1 ≤ run.lineno ∧ run.lineno ≤ run.endLineno ∧
        run.endLineno ≤ lexer.lines.length) ∧
      (lexer.runs.Pairwise fun run next => run.endLineno < next.lineno) ∧
      ∀ run ∈ lexer.runs, Stands lexer.style lexer.lines run := by
  have hlayout := layout_portions lexer.style lexer.lines
  have hruns : lexer.runs = runsFrom 1 (portions lexer.style lexer.lines) :=
    filterMap_run?_place lexer.style lexer.lines 1
  rw [hruns]
  refine ⟨hruns ▸ sink_of_willing lexer hsink, rfl, ?_, hlayout.pairwise_runsFrom, ?_⟩
  · intro run hrun
    obtain ⟨hlower, hspan, hupper⟩ := hlayout.bounds_of_mem_runsFrom run hrun
    push_cast at hlower hupper
    exact ⟨hlower, hspan, by omega⟩
  · exact hlayout.stands []

/-- A run of documentation over two lines is handed to a collector, and it stands in its lines. -/
theorem tokenize_runs_docRun :
    let lines := ["x;", "/// a", " // b", "/* c"].map String.toList
    let lexer : Lexer := ⟨lines, .cFamily, none⟩
    let progress : Progress Collector := { sink := some {} }
    Willing progress.sink ∧
      (lexer.tokenize progress).progress.sink = handed progress.sink lexer.runs ∧
      Stands .cFamily lines ⟨[" a".toList, "  b".toList], 2, true⟩ := by
  intro lines lexer progress
  have hsink : Willing progress.sink := Collector.willing rfl
  obtain ⟨hhanded, -, -, -, hstands⟩ := tokenize_runs lexer progress hsink
  have hruns : lexer.runs =
      [⟨[" a".toList, "  b".toList], 2, true⟩, ⟨[" c".toList], 4, false⟩] := by
    decide +kernel
  refine ⟨hsink, hhanded, hstands _ ?_⟩
  rw [hruns]
  exact List.mem_cons_self

end Lexer

end SourceScan
