import SourceScan.Parser
import SourceScan.Proofs.Lexer.Delivery
import SourceScan.Proofs.Lexer.Rows
import SourceScan.Proofs.Text.Lines

/-! # Sources with any terminators

A parser sees the lines of a text, not what ended them. So a text parses as it does with line feeds
for all terminators, and since no line of a text holds a line feed, the stream has one line break
for each of them.
-/

namespace SourceScan

variable {σ ρ : Type} [Sink σ]

/-- Lines without line feeds inside leave one line break each. -/
theorem countP_flatMap_tokens (style : CommentStyle) {lines : List Text}
    (hfeed : ∀ line ∈ lines, '\n' ∉ line) :
    ((constructs style lines).flatMap Construct.tokens).countP Token.isLineBreak = lines.length := by
  have hlayout := layout_portions style lines
  rw [← flatten_rows_portions, countP_flatten_of_endsOnce (hlayout.endsOnce_of_mem_rows hfeed),
    hlayout.length_rows]

namespace Parser

variable (parser : Parser σ ρ) {settings : Settings ρ} {lines : List Text}

/-- All that scanning lines does if no run is refused. -/
theorem scan_of_takes (style : CommentStyle)
    (htakes : Takes parser.sink (Lexer.runs ⟨lines, style, parser.file⟩)) :
    let parse := parser.scan style lines
    parse.failure = none ∧
      parse.parser.stream.tokens =
        parser.stream.tokens ++ (constructs style lines).flatMap Construct.tokens ∧
      parse.parser.sink = handed parser.sink (Lexer.runs ⟨lines, style, parser.file⟩) := by
  intro parse
  have hpass : (⟨lines, style, parser.file⟩ : Lexer).tokenize
      ({ stream := parser.stream, sink := parser.sink } : Progress σ) = _ :=
    Lexer.tokenize_of_takes _ htakes
  simp only [parse, scan, hpass]
  exact ⟨rfl, rfl, trivial⟩

variable [Preprocessor ρ]

/-- Without preprocessors the lines are scanned as they are. -/
theorem parseLines_of_plain {style : Option CommentStyle}
    (hstyle : parser.styleUnder settings = .usable style) (hprepare : parser.prepare = none)
    (hpreprocessor : settings.preprocessor = none) :
    parser.parseLines settings lines = parser.cleared.scan (style.getD .bare) lines := by
  have hcleared : parser.cleared.styleUnder settings = .usable style := hstyle
  have hprepared : parser.cleared.prepare = none := hprepare
  simp only [parseLines, hprepared, hpreprocessor, preprocess, hcleared]
  rfl

/-- Lines are read back from a text, whatever ends each of them, unless two terminators fuse. Read
the other way, the lines of any text hold no terminator and spell the text with line feeds for all
terminators, with one more at the end if the last line has none. So the text parses as it does with
line feeds, and there is one line break for each line if no preprocessor changes the lines and no
run is refused. -/
theorem parseText_unified (settings : Settings ρ) :
    (∀ ended : List EndedLine, (∀ item ∈ ended, item.line.Unbroken) →
        (ended.IsChain fun above below => ¬ above.Fuses below) →
        Text.lines (EndedLine.written ended) = ended.map EndedLine.line ∧
          ∀ last : Text, last.Unbroken → last ≠ [] →
            Text.lines (EndedLine.written ended ++ last) = ended.map EndedLine.line ++ [last]) ∧
      ∀ text : Text,
        (∀ line ∈ text.lines, line.Unbroken) ∧
          text.lines.flatMap (· ++ ['\n']) =
            text.unified ++ (if text.EndsOpen then ['\n'] else []) ∧
          parser.parseText settings text = parser.parseText settings text.unified ∧
          ∀ style, parser.styleUnder settings = .usable style → parser.prepare = none →
            settings.preprocessor = none →
            Takes parser.sink (Lexer.runs ⟨text.lines, style.getD .bare, parser.file⟩) →
            let parse := parser.parseText settings text
            parse.failure = none ∧
              parse.parser.sink =
                handed parser.sink (Lexer.runs ⟨text.lines, style.getD .bare, parser.file⟩) ∧
              parse.parser.stream.lineCount = text.lines.length := by
  refine ⟨fun ended hbroken hchain => ⟨?_, fun last hlast hne => ?_⟩, fun text => ?_⟩
  · have hlines := EndedLine.lines_written_append hbroken hchain Text.unbroken_nil
    rwa [List.append_nil, Text.lines, List.append_nil] at hlines
  · rw [EndedLine.lines_written_append hbroken hchain hlast, Text.lines_of_unbroken hlast hne]
  · have hbroken := Text.unbroken_of_mem_lines text
    refine ⟨hbroken, Text.flatMap_lines text, ?_, ?_⟩
    · rw [parseText, parseText, Text.lines_unified]
    · intro style hstyle hprepare hpreprocessor htakes parse
      have hfeed : ∀ line ∈ text.lines, '\n' ∉ line := fun line hline hmem =>
        (hbroken line hline _ hmem).1 rfl
      have hparse : parse = parser.cleared.scan (style.getD .bare) text.lines :=
        parser.parseLines_of_plain hstyle hprepare hpreprocessor
      obtain ⟨hfailure, htokens, hsink⟩ := parser.cleared.scan_of_takes (style.getD .bare) htakes
      rw [hparse]
      refine ⟨hfailure, hsink, ?_⟩
      rw [TokenStream.lineCount, htokens]
      exact countP_flatMap_tokens _ hfeed

/-- A text with all three terminators, two of which stand next to each other, and a last line that
has none. -/
theorem parseText_unified_mixed :
    let ended : List EndedLine := [⟨"x;".toList, .carriageReturn⟩, ⟨[], .both⟩,
      ⟨"// a".toList, .lineFeed⟩, ⟨[], .carriageReturn⟩]
    let last : Text := "y".toList
    let text := EndedLine.written ended ++ last
    let parser : Parser Collector LineEdit := { style := some .cFamily, sink := some {} }
    (∀ item ∈ ended, item.line.Unbroken) ∧
      (ended.IsChain fun above below => ¬ above.Fuses below) ∧ last.Unbroken ∧ last ≠ [] ∧
      text = "x;\r\r\n// a\n\ry".toList ∧
      text.lines = ["x;", "", "// a", "", "y"].map String.toList ∧
      text.unified = "x;\n\n// a\n\ny".toList ∧
      (parser.parseText {} text).parser.stream.lineCount = 5 ∧
      (parser.parseText {} text).parser.sink.map Collector.runs =
        some [⟨[" a".toList], 3, false⟩] := by
  intro ended last text parser
  have hbroken : ∀ item ∈ ended, item.line.Unbroken := by simp [ended, Text.Unbroken]
  have hchain : ended.IsChain fun above below => ¬ above.Fuses below := by
    refine .cons_cons ?_ (.cons_cons ?_ (.cons_cons ?_ (.singleton _)))
    · exact fun hfuses => by cases hfuses.below
    · exact fun hfuses => by cases hfuses.above
    · exact fun hfuses => by cases hfuses.above
  have hlast : Text.Unbroken last := by simp [last, Text.Unbroken]
  have hne : last ≠ [] := by simp [last]
  obtain ⟨hwritten, htext⟩ := parser.parseText_unified {}
  have hlines : text.lines = ["x;", "", "// a", "", "y"].map String.toList :=
    ((hwritten ended hbroken hchain).2 last hlast hne).trans rfl
  have htakes : Takes parser.sink (Lexer.runs ⟨text.lines, .cFamily, parser.file⟩) :=
    (Collector.willing rfl).takes _
  obtain ⟨-, -, -, hparse⟩ := htext text
  obtain ⟨-, hsink, hcount⟩ := hparse (some .cFamily) rfl rfl rfl htakes
  refine ⟨hbroken, hchain, hlast, hne, by decide, hlines, by decide, ?_, ?_⟩
  · rw [hcount, hlines]
    rfl
  · rw [hsink, Collector.handed_eq rfl, hlines]
    decide +kernel

end Parser

end SourceScan
