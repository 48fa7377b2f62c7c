import SourceScan.CommentStyle.Presets
import SourceScan.Proofs.Comment.Opening
import SourceScan.Proofs.Lexer.Delivery
import SourceScan.Proofs.Lexer.Placement

/-! # Lexing in parts

What is read at a line depends on the lines behind it only as far as the construct goes. So lines
can be cut wherever no comment goes on over the cut, and the two parts are lexed one by one: the
tokens, runs and reports of the lower part come behind those of the upper one, further down by the
height of the upper part.
-/

namespace SourceScan

/-- Whether a construct that some lines end with takes in a line that comes right behind it. A run
of line comments does if a plain line marker opens that line, and a block comment does if its closer
never came. -/
def Construct.GoesOn (style : CommentStyle) (next : Text) : Construct → Prop
  | .code _ => False
  | .lineComment .. => ∃ marker ∈ style.lineMarkers, ∃ after, marker.Opens next after
  | .blockComment _ block _ => block.tail? = none

/-- No comment at the end of the upper lines goes on in the lower ones. -/
def Separate (style : CommentStyle) (upper lower : List Text) : Prop :=
  ∀ last ∈ (constructs style upper).getLast?, ∀ next ∈ lower.head?, ¬ last.GoesOn style next

namespace Construct

variable {style : CommentStyle} {line : Text} {following lower : List Text}

theorem not_goesOn_lineComment_iff {next first : Text} {more : List Text} {isDoc : Bool} :
    ¬ GoesOn style next (.lineComment first more isDoc) ↔
      Opening.lineBody? style next = none := by
  simp only [GoesOn, Opening.lineBody?_eq_none_iff, not_exists, not_and]

/-- The construct that is read at a line ends before the line behind it. -/
theorem not_goesOn_read (style : CommentStyle) (line : Text) (following : List Text) :
    ∀ next ∈ (following.drop (read style line following).extra).head?,
      ¬ (read style line following).GoesOn style next := by
  intro next hnext
  cases hopen : Opening.ofLine style line with
  | code =>
      simp only [read, hopen]
      exact id
  | lineComment body isDoc =>
      simp only [read, hopen] at hnext ⊢
      exact not_goesOn_lineComment_iff.mpr ((lineRun_spec style following).2 next hnext)
  | blockComment body closer isDoc =>
      simp only [read, hopen, extra] at hnext ⊢
      -- Without its closer the block takes all lines, so that no line is left behind it.
      intro hunclosed
      obtain ⟨hentries, -⟩ := Block.read_unclosed hunclosed
      have hlength : (Block.read closer body following).above.length = following.length := by
        simpa [Block.entries] using congrArg List.length hentries
      rw [hlength, List.drop_length] at hnext
      cases hnext

/-- What is read at a line depends on the lines that it takes only, unless it goes on in the line
behind them. -/
theorem read_take_append
    (hends : ∀ next ∈ lower.head?, ¬ (read style line following).GoesOn style next) :
    read style line (following.take (read style line following).extra ++ lower) =
      read style line following := by
  cases hopen : Opening.ofLine style line with
  | code => simp only [read, hopen]
  | lineComment body isDoc =>
      simp only [read, hopen, extra, not_goesOn_lineComment_iff] at hends ⊢
      rw [lineRun_append (lineRun_spec style following).1 hends]
  | blockComment body closer isDoc =>
      simp only [read, hopen, extra] at hends ⊢
      generalize hblock : Block.read closer body following = block at hends ⊢
      cases htail : block.tail? with
      | some tail =>
          obtain ⟨final, htexts, habove, hclose⟩ := Block.read_closed (hblock ▸ htail)
          rw [hblock] at htexts habove hclose
          rw [Block.read_of_closed htexts habove hclose, ← htail]
      | none =>
          -- An unclosed block goes on in any line, so that no line may come behind it.
          have hlower : lower = [] := by
            cases lower with
            | nil => rfl
            | cons next rest => exact absurd htail (hends next rfl)
          obtain ⟨hentries, -⟩ := Block.read_unclosed (hblock ▸ htail)
          have hlength := congrArg List.length hentries
          rw [hblock, Block.entries, List.length_append, List.length_singleton,
            List.length_cons] at hlength
          rw [hlower, List.append_nil, Nat.succ.inj hlength, List.take_length, hblock]

/-- What is read at a line stays as it is when lines are added behind, unless it goes on in the
first of them. -/
theorem read_append
    (hends : ∀ next ∈ (following.drop (read style line following).extra ++ lower).head?,
      ¬ (read style line following).GoesOn style next) :
    read style line (following ++ lower) = read style line following := by
  have htake := read_take_append hends
  rwa [← List.append_assoc, List.take_append_drop] at htake

end Construct

/-- The constructs of separate parts are those of the upper part and then those of the lower. -/
theorem constructs_append {style : CommentStyle} {upper lower : List Text}
    (hparts : Separate style upper lower) :
    constructs style (upper ++ lower) = constructs style upper ++ constructs style lower := by
  induction upper using constructs.induct style with
  | case1 =>
      rw [constructs]
      rfl
  | case2 line following construct ih =>
      have hextra := Construct.extra_read_le style line following
      have hinner := Construct.not_goesOn_read style line following
      rw [Separate, constructs] at hparts
      generalize hrest : following.drop (Construct.read style line following).extra = rest
        at hinner hparts
      have hread : Construct.read style line (following ++ lower) =
          Construct.read style line following := by
        apply Construct.read_append
        rw [hrest]
        -- If no line is left behind this construct, it is the last one above the cut.
        cases rest with
        | nil => exact hparts _ (by rw [constructs]; rfl)
        | cons next more => exact hinner
      have hseparate : Separate style rest lower := by
        intro last hlast
        refine hparts last ?_
        rw [List.getLast?_cons, Option.mem_def.mp hlast]
        rfl
      rw [List.cons_append, constructs, hread, List.drop_append_of_le_length hextra, constructs,
        List.cons_append]
      exact congrArg _ (ih (hrest ▸ hseparate))

/-- Lines can be cut between any two of their constructs. -/
theorem exists_append_of_constructs_eq_append {style : CommentStyle} {lines : List Text}
    {above below : List Construct} (hconstructs : constructs style lines = above ++ below) :
    ∃ upper lower, lines = upper ++ lower ∧ upper.length = totalHeight above ∧
      constructs style upper = above ∧ constructs style lower = below ∧
      Separate style upper lower := by
  induction above generalizing lines with
  | nil =>
      have hparts : Separate style [] lines := by simp [Separate, constructs]
      exact ⟨[], lines, rfl, rfl, by rw [constructs], hconstructs, hparts⟩
  | cons first above ih =>
      cases lines with
      | nil =>
          rw [constructs] at hconstructs
          cases hconstructs
      | cons line following =>
          rw [constructs] at hconstructs
          obtain ⟨hfirst, hrest⟩ := List.cons.inj hconstructs
          obtain ⟨upper, lower, hlines, hlength, hupper, hlower, hparts⟩ := ih hrest
          have hinner := Construct.not_goesOn_read style line following
          have hextra := List.length_take_of_le (Construct.extra_read_le style line following)
          rw [hlines] at hinner
          generalize htake : following.take (Construct.read style line following).extra = taken
            at hextra
          have hread : Construct.read style line (taken ++ upper) =
              Construct.read style line following := by
            rw [← htake]
            apply Construct.read_take_append
            intro next hnext
            apply hinner
            rw [List.head?_append, Option.mem_def.mp hnext]
            rfl
          have hfirstUpper : constructs style (line :: (taken ++ upper)) = first :: above := by
            rw [constructs, hread, ← hextra, List.drop_left, hfirst, hupper]
          refine ⟨line :: (taken ++ upper), lower, ?whole, ?height, hfirstUpper, hlower, ?parts⟩
          case whole =>
            rw [List.cons_append, List.append_assoc, ← hlines, ← htake, List.take_append_drop]
          case height =>
            rw [List.length_cons, List.length_append, hextra, hlength, totalHeight_cons, ← hfirst,
              Construct.height, Nat.add_right_comm]
          case parts =>
            rw [Separate, hfirstUpper]
            intro last hlast
            -- The first construct ends at the cut only if it is the only one above.
            cases above with
            | nil =>
                obtain rfl := List.length_eq_zero_iff.mp hlength
                obtain rfl := Option.some.inj hlast
                exact hfirst ▸ hinner
            | cons next above =>
                rw [List.getLast?_cons_cons, ← hupper] at hlast
                exact hparts last hlast

theorem placedConstructs_append {style : CommentStyle} {upper lower : List Text}
    (hparts : Separate style upper lower) :
    placedConstructs style (upper ++ lower) =
      placedConstructs style upper ++
        (placedConstructs style lower).map (Placed.below upper.length) := by
  unfold placedConstructs
  rw [constructs_append hparts, place_append, totalHeight_constructs, place_add]

namespace Lexer

variable {style : CommentStyle} {upper lower : List Text} {file : Option String}

theorem runs_append (hparts : Separate style upper lower) :
    runs ⟨upper ++ lower, style, file⟩ =
      runs ⟨upper, style, file⟩ ++
        (runs ⟨lower, style, file⟩).map (CommentRun.below upper.length) := by
  simp only [runs, placedConstructs_append hparts, List.filterMap_append, List.filterMap_map,
    List.map_filterMap, Function.comp_def, Placed.run?_below]

theorem reports_append (hparts : Separate style upper lower) :
    reports ⟨upper ++ lower, style, file⟩ =
      reports ⟨upper, style, file⟩ ++
        (reports ⟨lower, style, file⟩).map (Event.below upper.length) := by
  simp only [reports, placedConstructs_append hparts, List.filterMap_append, List.filterMap_map,
    List.map_filterMap, Function.comp_def, Placed.report?_below]

variable {σ : Type} [Sink σ] {sink : Option σ}

/-- Before its closing report a pass that is not refused reports the blocks kept as code. -/
theorem filter_isKept_log (lexer : Lexer) (hsink : Willing sink) :
    (lexer.tokenize ({ sink } : Progress σ)).log.filter Event.isKept = lexer.reports := by
  have hreports : lexer.reports.filter Event.isKept = lexer.reports := by
    rw [List.filter_eq_self]
    exact fun _ => isKept_of_mem_filterMap_report?
  rw [tokenize_of_takes lexer (hsink.takes _), List.filter_append, hreports]
  exact List.append_nil _

/-- Parts that no comment joins are lexed one by one. The tokens, the runs and the reports of the
lower part come behind those of the upper one, and the numbers of runs and of blocks kept as code
are added up. -/
theorem tokenize_append (hsink : Willing sink) (hparts : Separate style upper lower)
    (file : Option String) :
    let upperLexer : Lexer := ⟨upper, style, file⟩
    let lowerLexer : Lexer := ⟨lower, style, file⟩
    let whole := tokenize ⟨upper ++ lower, style, file⟩ ({ sink } : Progress σ)
    let first := upperLexer.tokenize ({ sink } : Progress σ)
    let second := lowerLexer.tokenize ({ sink } : Progress σ)
    whole.failure = none ∧
      whole.progress.stream.tokens =
        first.progress.stream.tokens ++ second.progress.stream.tokens ∧
      first.progress.sink = handed sink upperLexer.runs ∧
      second.progress.sink = handed sink lowerLexer.runs ∧
      whole.progress.sink =
        handed sink (upperLexer.runs ++ lowerLexer.runs.map (CommentRun.below upper.length)) ∧
      whole.log.filter Event.isKept =
        first.log.filter Event.isKept ++
          (second.log.filter Event.isKept).map (Event.below upper.length) ∧
      whole.progress.delivered = first.progress.delivered + second.progress.delivered ∧
      whole.progress.kept = first.progress.kept + second.progress.kept := by
  intro upperLexer lowerLexer whole first second
  have hruns : runs ⟨upper ++ lower, style, file⟩ =
      upperLexer.runs ++ lowerLexer.runs.map (CommentRun.below upper.length) :=
    runs_append hparts
  have hreports : reports ⟨upper ++ lower, style, file⟩ =
      upperLexer.reports ++ lowerLexer.reports.map (Event.below upper.length) :=
    reports_append hparts
  refine ⟨failure_of_willing _ hsink, ?tokens, sink_of_willing _ hsink, sink_of_willing _ hsink,
    ?sink, ?log, ?delivered, ?kept⟩
  case tokens =>
    rw [tokens_of_willing _ hsink, tokens_of_willing _ hsink, tokens_of_willing _ hsink]
    simp only [TokenStream.empty, List.nil_append]
    rw [constructs_append hparts, List.flatMap_append]
  case sink => rw [sink_of_willing _ hsink, hruns]
  case log =>
    rw [filter_isKept_log _ hsink, filter_isKept_log _ hsink, filter_isKept_log _ hsink, hreports]
  case delivered =>
    rw [delivered_of_willing _ hsink, delivered_of_willing _ hsink, delivered_of_willing _ hsink,
      hruns, Nat.zero_add, Nat.zero_add, Nat.zero_add, List.length_append, List.length_map]
  case kept =>
    rw [kept_of_willing _ hsink, kept_of_willing _ hsink, kept_of_willing _ hsink, hreports,
      Nat.zero_add, Nat.zero_add, Nat.zero_add, List.length_append, List.length_map]

/-- A block comment below a run of line comments, kept as code in both parts and in the whole. -/
theorem tokenize_append_lowerBlock :
    let upper := ["x;", "// a"].map String.toList
    let lower := ["/* p */ y", "/// b"].map String.toList
    let sink : Option Collector := some {}
    let whole := tokenize ⟨upper ++ lower, .cFamily, none⟩ ({ sink } : Progress Collector)
    Willing sink ∧ Separate .cFamily upper lower ∧
      whole.progress.stream.tokens.map Token.value = ["x", ";", "\n", "\n", "/", "*", " ", "p", " ",
        "*", "/", " ", "y", "\n", "\n"].map String.toList ∧
      whole.progress.sink.map Collector.runs =
        some [⟨[" a".toList], 2, false⟩, ⟨[" b".toList], 4, true⟩] ∧
      whole.log.filter Event.isKept = [.keptLine 3] := by
  intro upper lower sink whole
  have hsink : Willing sink := Collector.willing rfl
  have hparts : Separate .cFamily upper lower := by
    have hupper : (constructs .cFamily upper).getLast? =
        some (.lineComment " a".toList [] false) := by decide +kernel
    intro last hlast next hnext
    obtain rfl := Option.some.inj (hupper.symm.trans hlast)
    obtain rfl := Option.some.inj hnext
    exact Construct.not_goesOn_lineComment_iff.mpr (by decide)
  obtain ⟨-, htokens, -, -, hwhole, hlog, -⟩ := tokenize_append hsink hparts none
  refine ⟨hsink, hparts, ?_, ?_, ?_⟩
  · rw [htokens]
    decide +kernel
  · rw [hwhole, Collector.handed_eq rfl]
    decide +kernel
  · rw [hlog]
    decide +kernel

end Lexer

end SourceScan
