import SourceScan.CommentStyle.Presets
import SourceScan.Proofs.Comment.Layout
import SourceScan.Proofs.Comment.Precedence
import SourceScan.Proofs.Lexer.Delivery
import SourceScan.Proofs.Token.Shape

/-! # One row of tokens for each line

The tokens that a pass leaves fall into rows, one for each line of the source. A row ends with a
line break and, unless line feeds stand inside the lines, has no other. So the line breaks of a
stream count the lines of its source, whichever of the lines were comments.
-/

namespace SourceScan

/-- Tokens that end with a line break and hold no other. -/
def EndsOnce (row : List Token) : Prop :=
  ∃ code, row = code ++ [Token.lineBreak] ∧ ∀ token ∈ code, token.isLineBreak = false

theorem endsOnce_lineTokens {text : Text} (hfeed : '\n' ∉ text) : EndsOnce (lineTokens text) :=
  ⟨tokenize text, rfl, fun _ htoken => not_isLineBreak_of_mem_tokenize hfeed htoken⟩

theorem EndsOnce.countP_eq_one {row : List Token} (hrow : EndsOnce row) :
    row.countP Token.isLineBreak = 1 := by
  obtain ⟨code, rfl, hcode⟩ := hrow
  have hnone : code.countP Token.isLineBreak = 0 := by
    rw [List.countP_eq_zero]
    intro token htoken
    rw [hcode token htoken]
    exact Bool.false_ne_true
  rw [List.countP_append, hnone]
  rfl

theorem countP_flatten_of_endsOnce {rows : List (List Token)}
    (hrows : ∀ row ∈ rows, EndsOnce row) :
    rows.flatten.countP Token.isLineBreak = rows.length := by
  induction rows with
  | nil => rfl
  | cons row rest ih =>
      obtain ⟨hrow, hrest⟩ := List.forall_mem_cons.mp hrows
      rw [List.flatten_cons, List.countP_append, hrow.countP_eq_one, ih hrest, List.length_cons,
        Nat.add_comm]

theorem eq_lineTokens_of_mem_bareRows {count : Nat} {row : List Token}
    (hrow : row ∈ bareRows count) : row = lineTokens [] :=
  List.eq_of_mem_replicate hrow

theorem Marker.RemovedFrom.mem_line {marker : Marker} {line body : Text} {c : Char}
    (hremoved : marker.RemovedFrom line body) (hc : c ∈ body) : c ∈ line := by
  obtain ⟨after, hopens, rfl⟩ := hremoved
  rw [hopens, List.append_assoc]
  rcases List.mem_append.mp hc with hindent | hafter
  · exact List.mem_append_left _ hindent
  · exact List.mem_append_right _ (List.mem_append_right _ hafter)

namespace Stretch

variable {style : CommentStyle} {following : List Text} {portion : Portion}

/-- A row holds the tokens of some text whose characters come from the lines of the stretch. -/
theorem exists_text_of_mem_rows (hstretch : Stretch style following portion) {row : List Token}
    (hrow : row ∈ portion.rows) :
    ∃ text, row = lineTokens text ∧ ∀ c ∈ text, ∃ line ∈ portion.lines, c ∈ line := by
  cases hstretch with
  | code | keptLine =>
      exact ⟨_, List.mem_singleton.mp hrow, fun c hc => ⟨_, List.mem_singleton_self _, hc⟩⟩
  | lineComment | closed | unclosed =>
      exact ⟨[], eq_lineTokens_of_mem_bareRows hrow, by simp⟩
  | @keptTail first body final before tail closer isDoc more above following hopen htexts _ _
      hclose _ =>
      rcases List.mem_append.mp hrow with hbare | htail
      · exact ⟨[], eq_lineTokens_of_mem_bareRows hbare, by simp⟩
      -- The code behind the closer is a part of the last line, or, without one, of the first.
      refine ⟨tail, List.mem_singleton.mp htail, fun c hc => ?_⟩
      have hfinal : final ∈ body :: more := htexts ▸ List.mem_append_right _ List.mem_cons_self
      have hmem : c ∈ final := hclose.eq_append ▸ List.mem_append_right _ hc
      rcases List.mem_cons.mp hfinal with rfl | hmore
      · obtain ⟨_, _, _, hremoved⟩ := Opening.removedFrom_of_ofLine_eq_blockComment hopen
        exact ⟨first, List.mem_cons_self, hremoved.mem_line hmem⟩
      · exact ⟨final, List.mem_cons_of_mem _ hmore, hmem⟩

end Stretch

namespace Layout

variable {style : CommentStyle} {lines : List Text} {portions : List Portion}

theorem flatMap_lines (hlayout : Layout style lines portions) :
    portions.flatMap Portion.lines = lines := by
  induction hlayout with
  | nil => rfl
  | cons _ _ ih => rw [List.flatMap_cons, ih]

theorem length_rows (hlayout : Layout style lines portions) :
    (portions.flatMap Portion.rows).length = lines.length := by
  induction hlayout with
  | nil => rfl
  | cons hfirst _ ih =>
      rw [List.flatMap_cons, List.length_append, List.length_append, hfirst.length_rows, ih]

theorem exists_text_of_mem_rows (hlayout : Layout style lines portions) {row : List Token}
    (hrow : row ∈ portions.flatMap Portion.rows) :
    ∃ text, row = lineTokens text ∧ ∀ c ∈ text, ∃ line ∈ lines, c ∈ line := by
  induction hlayout with
  | nil => cases hrow
  | cons hfirst _ ih =>
      rw [List.flatMap_cons] at hrow
      rcases List.mem_append.mp hrow with hhead | htail
      · obtain ⟨text, heq, htext⟩ := hfirst.exists_text_of_mem_rows hhead
        refine ⟨text, heq, fun c hc => ?_⟩
        obtain ⟨line, hline, hmem⟩ := htext c hc
        exact ⟨line, List.mem_append_left _ hline, hmem⟩
      · obtain ⟨text, heq, htext⟩ := ih htail
        refine ⟨text, heq, fun c hc => ?_⟩
        obtain ⟨line, hline, hmem⟩ := htext c hc
        exact ⟨line, List.mem_append_right _ hline, hmem⟩

/-- Without line feeds inside the lines every row ends once. -/
theorem endsOnce_of_mem_rows (hlayout : Layout style lines portions)
    (hfeed : ∀ line ∈ lines, '\n' ∉ line) :
    ∀ row ∈ portions.flatMap Portion.rows, EndsOnce row := by
  intro row hrow
  obtain ⟨text, rfl, htext⟩ := hlayout.exists_text_of_mem_rows hrow
  refine endsOnce_lineTokens fun hmem => ?_
  obtain ⟨line, hline, hin⟩ := htext _ hmem
  exact hfeed line hline hin

end Layout

namespace Lexer

variable {σ : Type} [Sink σ]

/-- There is one layout of the lines, without gap or overlap. A pass that is not refused puts the
rows of its portions into the stream, one row for each line. If no line holds a line feed, each row
has one line break, at its end, so that as many line breaks are added as there are lines. -/
theorem tokenize_layout (lexer : Lexer) (progress : Progress σ) (hsink : Willing progress.sink) :
    ∃ portions : List Portion,
      (∀ others, Layout lexer.style lexer.lines others ↔ others = portions) ∧
      portions.flatMap Portion.lines = lexer.lines ∧
      (lexer.tokenize progress).failure = none ∧
      (lexer.tokenize progress).progress.stream.tokens =
        progress.stream.tokens ++ (portions.flatMap Portion.rows).flatten ∧
      (portions.flatMap Portion.rows).length = lexer.lines.length ∧
      ((∀ line ∈ lexer.lines, '\n' ∉ line) →
        (∀ row ∈ portions.flatMap Portion.rows, EndsOnce row) ∧
        (lexer.tokenize progress).progress.stream.lineCount =
          progress.stream.lineCount + lexer.lines.length) := by
  have hlayout := layout_portions lexer.style lexer.lines
  have htokens := tokens_of_willing lexer hsink
  rw [← flatten_rows_portions] at htokens
  refine ⟨_, fun _ => layout_iff, hlayout.flatMap_lines, failure_of_willing lexer hsink, htokens,
    hlayout.length_rows, fun hfeed => ?_⟩
  have hrows := hlayout.endsOnce_of_mem_rows hfeed
  refine ⟨hrows, ?_⟩
  rw [TokenStream.lineCount, htokens, List.countP_append, countP_flatten_of_endsOnce hrows,
    hlayout.length_rows]
  rfl

/-- Seven lines with every kind of construct leave seven line breaks. -/
theorem tokenize_layout_allKinds :
    let lines := ["x;", "// a", "// b", "/* p", "q */ y", "/* z */ w", "/* e"].map String.toList
    let progress : Progress Collector := { sink := some {} }
    Willing progress.sink ∧ (∀ line ∈ lines, '\n' ∉ line) ∧
      ((⟨lines, .cFamily, none⟩ : Lexer).tokenize progress).progress.stream.lineCount = 7 := by
  intro lines progress
  have hsink : Willing progress.sink := Collector.willing rfl
  have hfeed : ∀ line ∈ lines, '\n' ∉ line := by decide
  obtain ⟨_, _, _, _, _, _, hcount⟩ := tokenize_layout ⟨lines, .cFamily, none⟩ progress hsink
  exact ⟨hsink, hfeed, (hcount hfeed).2⟩

end Lexer

end SourceScan
