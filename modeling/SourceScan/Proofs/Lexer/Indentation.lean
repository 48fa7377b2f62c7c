import SourceScan.Proofs.Comment.Indentation
import SourceScan.Proofs.Lexer.Delivery
import SourceScan.Proofs.Lexer.Placement

/-! # Lexing behind other indentation

The constructs of lines keep their places when blanks are put in front of the lines. Their runs get
the blanks of their lines, and the tokens change on the lines that are kept whole as code only.
-/

namespace SourceScan

/-- The same run with the blanks of its lines in front of its texts. -/
def CommentRun.indented (indents : Nat → Text) (run : CommentRun) : CommentRun :=
  { run with lines := indentFrom indents run.lineno.toNat run.lines }

namespace Placed

/-- The same construct in lines with other indentation. -/
def indented (indents : Nat → Text) (placed : Placed) : Placed :=
  { placed with construct := placed.construct.indented indents placed.lineno }

variable (indents : Nat → Text) (placed : Placed)

theorem run?_indented :
    (placed.indented indents).run? = placed.run?.map (CommentRun.indented indents) := by
  obtain ⟨lineno, construct⟩ := placed
  cases construct with
  | code => rfl
  | lineComment first more isDoc =>
      simp only [indented, Construct.indented, run?, Option.map_some, CommentRun.indented,
        Int.toNat_natCast, indentFrom_cons]
  | blockComment line block isDoc =>
      simp only [indented, Construct.indented, run?, Block.verdict_indented,
        Block.entries_indented]
      cases block.verdict <;> rfl

theorem report?_indented : (placed.indented indents).report? = placed.report? := by
  obtain ⟨lineno, construct⟩ := placed
  cases construct with
  | code => rfl
  | lineComment => rfl
  | blockComment line block isDoc =>
      simp only [indented, Construct.indented, report?, Block.verdict_indented]

end Placed

section Placement

variable {style : CommentStyle} {indents : Nat → Text}
variable (hstyle : style.ClosersUnindented)
variable (hindents : ∀ lineno, ∀ c ∈ indents lineno, isBlank c = true)
include hstyle hindents

theorem place_constructs_indentFrom (lineno : Nat) (lines : List Text) :
    place lineno (constructs style (indentFrom indents lineno lines)) =
      (place lineno (constructs style lines)).map (Placed.indented indents) := by
  induction lines using constructs.induct style generalizing lineno with
  | case1 =>
      rw [indentFrom_nil, constructs]
      rfl
  | case2 line following construct ih =>
      have hread := Construct.read_indented hindents hstyle lineno line following
      have hheight : lineno + 1 + construct.extra = lineno + construct.height := by
        rw [Construct.height]
        omega
      rw [indentFrom_cons, constructs, constructs, place, place, List.map_cons, ← ih, hread]
      simp only [Construct.height, Construct.extra_indented, drop_indentFrom]
      rw [hheight]
      rfl

/-- The constructs stand where they stood, each with the blanks of its lines. -/
theorem placedConstructs_indentFrom (lines : List Text) :
    placedConstructs style (indentFrom indents 1 lines) =
      (placedConstructs style lines).map (Placed.indented indents) :=
  place_constructs_indentFrom hstyle hindents 1 lines

end Placement

namespace Lexer

section Observed

variable {style : CommentStyle} {indents : Nat → Text} (hstyle : style.ClosersUnindented)
variable (hindents : ∀ lineno, ∀ c ∈ indents lineno, isBlank c = true) (lines : List Text)
include hstyle hindents

theorem runs_indentFrom (file : Option String) :
    runs ⟨indentFrom indents 1 lines, style, file⟩ =
      (runs ⟨lines, style, file⟩).map (CommentRun.indented indents) := by
  simp only [runs, placedConstructs_indentFrom hstyle hindents, List.filterMap_map,
    List.map_filterMap, Function.comp_def, Placed.run?_indented]

theorem reports_indentFrom (file : Option String) :
    reports ⟨indentFrom indents 1 lines, style, file⟩ = reports ⟨lines, style, file⟩ := by
  simp only [reports, placedConstructs_indentFrom hstyle hindents, List.filterMap_map,
    Function.comp_def, Placed.report?_indented]

theorem flatMap_tokens_indentFrom :
    (constructs style (indentFrom indents 1 lines)).flatMap Construct.tokens =
      (placedConstructs style lines).flatMap fun placed =>
        placed.construct.tokensBehind (indents placed.lineno) := by
  rw [← flatMap_tokens_placedConstructs, placedConstructs_indentFrom hstyle hindents,
    List.flatMap_map]
  congr
  funext placed
  exact Construct.tokens_indented placed.lineno placed.construct

end Observed

/-- Indentation does not decide what is a comment where no closer begins with a blank, as in all
styles known from the start. Blanks in front of the lines leave the same constructs in the same
places. The same runs are delivered with those blanks in front of their texts, the same blocks are
kept as code and reported, and the tokens differ only by the blanks of lines that are kept whole. -/
theorem tokenize_indentFrom (σ : Type) [Sink σ] :
    (∀ {name : Text} {registered : Registered},
      (name, some registered) ∈ Registry.presets.entries → registered.style.ClosersUnindented) ∧
    ∀ {style : CommentStyle} {indents : Nat → Text} {progress : Progress σ},
      style.ClosersUnindented → (∀ lineno, ∀ c ∈ indents lineno, isBlank c = true) →
      Willing progress.sink → ∀ (lines : List Text) (file : Option String),
        let lexer : Lexer := ⟨lines, style, file⟩
        let indentedLexer : Lexer := ⟨indentFrom indents 1 lines, style, file⟩
        let pass := lexer.tokenize progress
        let indentedPass := indentedLexer.tokenize progress
        (∀ lineno line, Opening.ofLine style (indents lineno ++ line) =
          (Opening.ofLine style line).indented (indents lineno)) ∧
        placedConstructs style (indentFrom indents 1 lines) =
          (placedConstructs style lines).map (Placed.indented indents) ∧
        pass.progress.sink = handed progress.sink lexer.runs ∧
        indentedPass.progress.sink =
          handed progress.sink (lexer.runs.map (CommentRun.indented indents)) ∧
        indentedPass.log = pass.log ∧ indentedPass.failure = pass.failure ∧
        indentedPass.progress.delivered = pass.progress.delivered ∧
        indentedPass.progress.kept = pass.progress.kept ∧
        pass.progress.stream.tokens = progress.stream.tokens ++
          (placedConstructs style lines).flatMap Placed.tokens ∧
        indentedPass.progress.stream.tokens = progress.stream.tokens ++
          (placedConstructs style lines).flatMap fun placed =>
            placed.construct.tokensBehind (indents placed.lineno) := by
  refine ⟨CommentStyle.closersUnindented_of_preset, ?_⟩
  intro style indents progress hstyle hindents hsink lines file lexer indentedLexer pass
    indentedPass
  have hruns : indentedLexer.runs = lexer.runs.map (CommentRun.indented indents) :=
    runs_indentFrom hstyle hindents lines file
  have hreports : indentedLexer.reports = lexer.reports :=
    reports_indentFrom hstyle hindents lines file
  have hpass : pass = _ := lexer.tokenize_of_takes (hsink.takes _)
  have hindented : indentedPass = _ := indentedLexer.tokenize_of_takes (hsink.takes _)
  refine ⟨fun lineno line => Opening.ofLine_append (hindents lineno) style line,
    placedConstructs_indentFrom hstyle hindents lines, sink_of_willing lexer hsink, ?sink, ?log,
    ?failure, ?delivered, ?kept, ?tokens, ?indentedTokens⟩
  case sink => rw [← hruns, sink_of_willing indentedLexer hsink]
  case log => rw [hpass, hindented, hreports, hruns, List.length_map, length_indentFrom]
  case failure => rw [hpass, hindented]
  case delivered => rw [hpass, hindented, hruns, List.length_map]
  case kept => rw [hpass, hindented, hreports]
  case tokens => rw [tokens_of_willing lexer hsink, placedConstructs, flatMap_tokens_place]
  case indentedTokens =>
    rw [tokens_of_willing indentedLexer hsink, flatMap_tokens_indentFrom hstyle hindents]

/-- A block over two lines, one that is kept as code, and a line of code, each line behind another
indentation. -/
theorem tokenize_indentFrom_mixed :
    let indents (lineno : Nat) : Text := List.replicate lineno ' '
    let lines := ["/* a", "b */", "/* p */ x", "y"].map String.toList
    let start : Progress Collector := { sink := some {} }
    let pass := tokenize ⟨indentFrom indents 1 lines, .cFamily, none⟩ start
    ("c++".toList, some ⟨1, .cFamily⟩) ∈ Registry.presets.entries ∧
      (∀ lineno, ∀ c ∈ indents lineno, isBlank c = true) ∧ Willing start.sink ∧
      pass.progress.sink.map Collector.runs = some [⟨["  a".toList, "  b ".toList], 1, false⟩] ∧
      pass.progress.stream.tokens = [.lineBreak, .lineBreak] ++
        lineTokens "   /* p */ x".toList ++ lineTokens "    y".toList := by
  intro indents lines start pass
  have hpreset : ("c++".toList, some ⟨1, .cFamily⟩) ∈ Registry.presets.entries := by decide
  have hindents : ∀ lineno, ∀ c ∈ indents lineno, isBlank c = true := by
    intro lineno c hc
    rw [List.eq_of_mem_replicate hc]
    rfl
  have hstart : Willing start.sink := Collector.willing rfl
  obtain ⟨hpresets, hindented⟩ := tokenize_indentFrom Collector
  obtain ⟨-, -, -, hsink, -, -, -, -, -, htokens⟩ :=
    hindented (hpresets hpreset) hindents hstart lines none
  refine ⟨hpreset, hindents, hstart, ?_, ?_⟩
  · rw [hsink, Collector.handed_eq rfl]
    decide +kernel
  · rw [htokens]
    decide +kernel

end Lexer

end SourceScan
