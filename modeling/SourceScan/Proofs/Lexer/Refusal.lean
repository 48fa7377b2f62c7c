import SourceScan.CommentStyle.Presets
import SourceScan.Proofs.Lexer.Delivery
import SourceScan.Proofs.Lexer.Placement
import SourceScan.Proofs.Lexer.Rows

/-! # Refused runs

A sink that refuses a run ends the pass on the last line of that run. What the pass has done by then
is a part of what it would have done: the runs before the refused one are recorded, the tokens are
the rows of the lines so far, and the blocks above the refused run are reported. A sink that refuses
a later call than there are runs, or no sink at all, changes nothing.
-/

namespace SourceScan

/-- The rows of tokens that take the place of the lines of a source, one for each line. -/
def Lexer.rows (lexer : Lexer) : List (List Token) :=
  (constructs lexer.style lexer.lines).flatMap Construct.rows

/-- How a pass stands whose sink recorded so many runs and refused the next one, beside the pass
over the same lines that nothing stopped. -/
structure StoppedAt (lexer : Lexer) (full stopped : Pass Collector) (earlier : Nat)
    (refused : CommentRun) : Prop where
  failure : stopped.failure = some (.sink (earlier + 1 : Nat))
  recorded : stopped.progress.sink.map Collector.runs = some (lexer.runs.take earlier)
  delivered : stopped.progress.delivered = earlier + 1
  /-- The rows end with that of the last line of the refused run, which is a lone line break. -/
  tokens : ∃ above below : List (List Token),
    lexer.rows = above ++ [Token.lineBreak] :: below ∧
      (above.length + 1 : Int) = refused.endLineno ∧
      full.progress.stream.tokens = above.flatten ++ Token.lineBreak :: below.flatten ∧
      stopped.progress.stream.tokens = above.flatten ++ [Token.lineBreak]
  lineCount : (∀ line ∈ lexer.lines, '\n' ∉ line) →
    (stopped.progress.stream.lineCount : Int) = refused.endLineno
  /-- Only the blocks that begin above the refused run are reported. -/
  log : stopped.log = full.log.filter fun event =>
    event.keptAt?.any fun lineno => (lineno : Int) < refused.lineno

/-- Passes that leave the same behind, whatever becomes of the runs. -/
structure Agree {σ τ : Type} (pass : Pass σ) (other : Pass τ) : Prop where
  failure : pass.failure = other.failure
  stream : pass.progress.stream = other.progress.stream
  delivered : pass.progress.delivered = other.progress.delivered
  kept : pass.progress.kept = other.progress.kept
  log : pass.log = other.log

/-- The construct of a run, below the constructs of the runs before it. -/
theorem exists_of_getElem?_filterMap_run? {placed : List Placed} {index : Nat} {run : CommentRun}
    (hrun : (placed.filterMap Placed.run?)[index]? = some run) :
    ∃ before item after, placed = before ++ item :: after ∧ item.run? = some run ∧
      before.filterMap Placed.run? = (placed.filterMap Placed.run?).take index := by
  obtain ⟨hindex, hget⟩ := List.getElem?_eq_some_iff.mp hrun
  have hsplit := List.take_append_drop index (placed.filterMap Placed.run?)
  rw [List.drop_eq_getElem_cons hindex, hget, eq_comm, List.filterMap_eq_append_iff] at hsplit
  obtain ⟨before, rest, hplaced, hbefore, hrest⟩ := hsplit
  obtain ⟨silent, item, after, rfl, hsilent, hitem, -⟩ := List.filterMap_eq_cons_iff.mp hrest
  refine ⟨before ++ silent, item, after, ?_, hitem, ?_⟩
  · rw [hplaced, List.append_assoc]
  · rw [List.filterMap_append, hbefore, List.filterMap_eq_nil_iff.mpr hsilent, List.append_nil]

namespace Lexer

variable (lexer : Lexer)

theorem agree_of_takes {σ τ : Type} [Sink σ] [Sink τ] {sink : Option σ} {other : Option τ}
    (hsink : Takes sink lexer.runs) (hother : Takes other lexer.runs) :
    Agree (lexer.tokenize ({ sink } : Progress σ))
      (lexer.tokenize ({ sink := other } : Progress τ)) := by
  rw [tokenize_of_takes lexer hsink, tokenize_of_takes lexer hother]
  exact ⟨rfl, rfl, rfl, rfl, rfl⟩

variable {before after : List Placed} {item : Placed} {run : CommentRun}

/-- All that a pass does up to a run that is refused. -/
theorem tokenize_of_refused {σ : Type} [Sink σ] {progress : Progress σ} {error : CallbackError}
    (hplaced : placedConstructs lexer.style lexer.lines = before ++ item :: after)
    (hrun : item.run? = some run) (htakes : Takes progress.sink (before.filterMap Placed.run?))
    (hrefused : (offer (handed progress.sink (before.filterMap Placed.run?)) run).2 = some error) :
    lexer.tokenize progress =
      { progress :=
          { stream := progress.stream.append ((before ++ [item]).flatMap Placed.tokens)
            delivered := progress.delivered + ((before.filterMap Placed.run?).length + 1)
            kept := progress.kept + (before.filterMap Placed.report?).length
            sink := (offer (handed progress.sink (before.filterMap Placed.run?)) run).1 }
        log := before.filterMap Placed.report?
        failure := some error } := by
  obtain ⟨-, -, -, hreport⟩ := Placed.of_run?_eq_some hrun
  have hruns : (before ++ [item]).filterMap Placed.run? =
      before.filterMap Placed.run? ++ [run] := by
    rw [List.filterMap_append, List.filterMap_cons_some hrun, List.filterMap_nil]
  have hreports : (before ++ [item]).filterMap Placed.report? =
      before.filterMap Placed.report? := by
    rw [List.filterMap_append, List.filterMap_cons_none hreport, List.filterMap_nil,
      List.append_nil]
  have hdeliver : deliver progress.sink (placedConstructs lexer.style lexer.lines) =
      ⟨before ++ [item], (offer (handed progress.sink (before.filterMap Placed.run?)) run).1,
        some error⟩ := by
    rw [hplaced]
    exact deliver_of_refused htakes hrun hrefused
  simp only [tokenize, hdeliver, hruns, hreports, List.length_append, List.length_singleton]

/-- The rows up to the last line of a run, which leaves a lone line break. -/
theorem exists_rows_of_run
    (hplaced : placedConstructs lexer.style lexer.lines = before ++ item :: after)
    (hrun : item.run? = some run) :
    ∃ above below : List (List Token),
      lexer.rows = above ++ [Token.lineBreak] :: below ∧
        (above.length + 1 : Int) = run.endLineno ∧
        (before ++ [item]).flatMap Placed.tokens = above.flatten ++ [Token.lineBreak] := by
  obtain ⟨hlineno, hlength, hrows, -⟩ := Placed.of_run?_eq_some hrun
  obtain ⟨above, below, hconstructs, rfl, hitem, -⟩ := exists_of_place_eq_append hplaced
  have hlast : item.construct.rows = bareRows item.construct.extra ++ [[Token.lineBreak]] :=
    hrows.trans List.replicate_succ'
  refine ⟨above.flatMap Construct.rows ++ bareRows item.construct.extra,
    below.flatMap Construct.rows, ?_, ?_, ?_⟩
  · rw [rows, hconstructs, List.flatMap_append, List.flatMap_cons, hlast]
    simp only [List.append_assoc, List.singleton_append]
  · rw [List.length_append, length_flatMap_rows, bareRows, List.length_replicate,
      CommentRun.endLineno, hlineno, hlength, hitem, Construct.height]
    omega
  · have htokens : item.tokens = (bareRows item.construct.extra).flatten ++ [Token.lineBreak] := by
      rw [Placed.tokens, ← Construct.flatten_rows, hlast, List.flatten_append]
      rfl
    rw [List.flatMap_append, flatMap_tokens_place, ← Construct.flatten_flatMap_rows,
      List.flatten_append, List.append_assoc, ← htokens]
    exact congrArg _ (List.append_nil _)

/-- A pass has reported the blocks above a run when it hands over that run, and no others. -/
theorem filterMap_report?_before
    (hplaced : placedConstructs lexer.style lexer.lines = before ++ item :: after) :
    before.filterMap Placed.report? =
      lexer.reports.filter fun event =>
        event.keptAt?.any fun lineno => (lineno : Int) < item.lineno := by
  obtain ⟨above, below, -, rfl, hitem, rfl⟩ := exists_of_place_eq_append hplaced
  have habove : ∀ event ∈ (place 1 above).filterMap Placed.report?,
      (event.keptAt?.any fun lineno => (lineno : Int) < item.lineno) = true := by
    intro event hevent
    obtain ⟨placed, hmem, hreport⟩ := List.mem_filterMap.mp hevent
    have hlineno := (lineno_of_mem_place hmem).2
    rw [Placed.keptAt?_of_report?_eq_some hreport, hitem]
    exact decide_eq_true (Int.ofNat_lt.mpr hlineno)
  have hbelow : ∀ event ∈ (item :: place (item.lineno + item.construct.height) below).filterMap
      Placed.report?, ¬ (event.keptAt?.any fun lineno => (lineno : Int) < item.lineno) = true := by
    intro event hevent
    obtain ⟨placed, hmem, hreport⟩ := List.mem_filterMap.mp hevent
    have hlineno : item.lineno ≤ placed.lineno := by
      rcases List.mem_cons.mp hmem with rfl | hmem
      · exact Nat.le_refl _
      · exact (Nat.le_add_right _ _).trans (lineno_of_mem_place hmem).1
    rw [Placed.keptAt?_of_report?_eq_some hreport]
    simpa using hlineno
  rw [reports, hplaced, List.filterMap_append, List.filter_append,
    List.filter_eq_self.mpr habove, List.filter_eq_nil_iff.mpr hbelow, List.append_nil]

theorem length_rows : lexer.rows.length = lexer.lines.length := by
  rw [rows, length_flatMap_rows, totalHeight_constructs]

theorem tokens_eq_flatten_rows {σ : Type} [Sink σ] {sink : Option σ} (hsink : Willing sink) :
    (lexer.tokenize ({ sink } : Progress σ)).progress.stream.tokens = lexer.rows.flatten := by
  rw [tokens_of_willing lexer hsink, rows, Construct.flatten_flatMap_rows]
  rfl

/-- Unless line feeds stand inside the lines, the tokens up to the end of a line have as many line
breaks as there are lines so far. -/
theorem countP_flatten_of_rows_eq (hfeed : ∀ line ∈ lexer.lines, '\n' ∉ line)
    {above below : List (List Token)} (hrows : lexer.rows = above ++ [Token.lineBreak] :: below) :
    (above.flatten ++ [Token.lineBreak]).countP Token.isLineBreak = above.length + 1 := by
  have hall : ∀ row ∈ lexer.rows, EndsOnce row := by
    rw [rows, ← flatMap_rows_portions]
    exact (layout_portions lexer.style lexer.lines).endsOnce_of_mem_rows hfeed
  rw [hrows] at hall
  have hcount := countP_flatten_of_endsOnce fun row hrow =>
    hall row (List.mem_append_left _ hrow)
  rw [List.countP_append, hcount]
  rfl

/-- What a pass leaves with a collector that refuses the run behind those of some constructs. -/
theorem tokenize_of_refuses {collector : Collector}
    (hplaced : placedConstructs lexer.style lexer.lines = before ++ item :: after)
    (hrun : item.run? = some run)
    (hrefuses : collector.refuses =
      some ((collector.calls + (before.filterMap Placed.run?).length + 1 : Nat) : Int)) :
    lexer.tokenize ({ sink := some collector } : Progress Collector) =
      { progress :=
          { stream := ⟨(before ++ [item]).flatMap Placed.tokens⟩
            delivered := (before.filterMap Placed.run?).length + 1
            kept := (before.filterMap Placed.report?).length
            sink := some { collector.recording (before.filterMap Placed.run?) with
              calls := collector.calls + (before.filterMap Placed.run?).length + 1 } }
        log := before.filterMap Placed.report?
        failure := some (.sink
          ((collector.calls + (before.filterMap Placed.run?).length + 1 : Nat) : Int)) } := by
  obtain ⟨htakes, hoffer⟩ := Collector.offer_handed_of_refuses hrefuses run
  rw [lexer.tokenize_of_refused hplaced hrun htakes (congrArg Prod.snd hoffer), hoffer]
  simp only [Nat.zero_add]
  rfl

/-- A collector that refuses one call stops a pass at the run of that call. -/
theorem stoppedAt_of_refuses {earlier : Nat} (hrun : lexer.runs[earlier]? = some run) :
    StoppedAt lexer (lexer.tokenize ({ sink := some {} } : Progress Collector))
      (lexer.tokenize
        ({ sink := some { refuses := some (earlier + 1 : Nat) } } : Progress Collector))
      earlier run := by
  obtain ⟨before, item, after, hplaced, hitem, htaken⟩ :=
    exists_of_getElem?_filterMap_run? hrun
  have hearlier : (before.filterMap Placed.run?).length = earlier := by
    obtain ⟨hindex, -⟩ := List.getElem?_eq_some_iff.mp hrun
    rw [htaken]
    exact List.length_take_of_le hindex.le
  subst hearlier
  -- The calls for the runs above are let through, and the next call is the one to refuse.
  have hpass := lexer.tokenize_of_refuses hplaced hitem
    (show ({ refuses := some ((before.filterMap Placed.run?).length + 1 : Nat) } :
      Collector).refuses = _ by rw [Nat.zero_add])
  obtain ⟨hlineno, -⟩ := Placed.of_run?_eq_some hitem
  obtain ⟨above, below, hrows, hend, htokens⟩ := lexer.exists_rows_of_run hplaced hitem
  rw [hpass]
  refine ⟨?failure, ?recorded, rfl, ?tokens, ?lineCount, ?log⟩
  case failure => simp only [Nat.zero_add]
  case recorded => exact congrArg some htaken
  case tokens =>
    refine ⟨above, below, hrows, hend, ?_, htokens⟩
    rw [tokens_eq_flatten_rows lexer (Collector.willing rfl), hrows, List.flatten_append,
      List.flatten_cons, List.singleton_append]
  case lineCount =>
    intro hfeed
    have hcount := lexer.countP_flatten_of_rows_eq hfeed hrows
    rw [← htokens] at hcount
    exact (congrArg Nat.cast hcount).trans hend
  case log =>
    rw [tokenize_of_takes lexer ((Collector.willing rfl).takes _), hlineno, List.filter_append,
      lexer.filterMap_report?_before hplaced]
    simp [Event.keptAt?]

/-- A sink that refuses one call of a pass stops it at the run of that call: the runs before it are
recorded, the stream ends with the line break for its last line, and only the blocks that begin
above it are reported. If there are not as many runs, or if there is no sink, the pass leaves behind
what it does when nothing is refused. -/
theorem tokenize_refusing (lexer : Lexer) (earlier : Nat) :
    let full := lexer.tokenize ({ sink := some {} } : Progress Collector)
    let refusing := lexer.tokenize
      ({ sink := some { refuses := some (earlier + 1 : Nat) } } : Progress Collector)
    let bare := lexer.tokenize ({ sink := none } : Progress Collector)
    full.failure = none ∧ full.progress.sink.map Collector.runs = some lexer.runs ∧
      lexer.rows.length = lexer.lines.length ∧
      (∀ run, lexer.runs[earlier]? = some run →
        StoppedAt lexer full refusing earlier run) ∧
      (lexer.runs.length ≤ earlier → Agree refusing full ∧
        refusing.progress.sink.map Collector.runs = some lexer.runs) ∧
      Agree bare full := by
  have hfull : Willing (some ({} : Collector)) := Collector.willing rfl
  refine ⟨failure_of_willing lexer hfull, ?_, lexer.length_rows,
    fun run hrun => stoppedAt_of_refuses lexer hrun, ?_,
    agree_of_takes lexer (willing_none.takes _) (hfull.takes _)⟩
  · rw [sink_of_willing lexer hfull, Collector.handed_eq rfl]
    rfl
  · intro hlength
    have hspares : Collector.Spares { refuses := some (earlier + 1 : Nat) } lexer.runs.length :=
      Collector.spares_of_lt rfl (Nat.lt_succ_of_le (by simpa using hlength))
    obtain ⟨htakes, hhanded⟩ := Collector.takes_of_spares hspares
    refine ⟨agree_of_takes lexer htakes (hfull.takes _), ?_⟩
    rw [tokenize_of_takes lexer htakes, hhanded]
    rfl

/-- The second of two runs is refused on the fourth line, and the block kept as code on the fifth is
not reported any more. -/
theorem tokenize_refusing_secondRun :
    let lines := ["/* p */ y", "// a", "/* b", "c */", "/* q */ z"].map String.toList
    let lexer : Lexer := ⟨lines, .cFamily, none⟩
    let refusing := lexer.tokenize ({ sink := some { refuses := some 2 } } : Progress Collector)
    lexer.runs[1]? = some ⟨[" b".toList, "c ".toList], 3, false⟩ ∧
      refusing.failure = some (.sink 2) ∧
      refusing.progress.sink.map Collector.runs = some [⟨[" a".toList], 2, false⟩] ∧
      (refusing.progress.stream.lineCount : Int) = 4 ∧ refusing.log = [.keptLine 1] := by
  intro lines lexer refusing
  have hrun : lexer.runs[1]? = some ⟨[" b".toList, "c ".toList], 3, false⟩ := by decide +kernel
  have htaken : lexer.runs.take 1 = [⟨[" a".toList], 2, false⟩] := by decide +kernel
  obtain ⟨-, -, -, hstopped, -⟩ := tokenize_refusing lexer 1
  have hpass : StoppedAt lexer (lexer.tokenize { sink := some {} }) refusing 1
      ⟨[" b".toList, "c ".toList], 3, false⟩ := hstopped _ hrun
  refine ⟨hrun, hpass.failure, hpass.recorded.trans (congrArg some htaken),
    hpass.lineCount (by decide), ?_⟩
  rw [hpass.log]
  decide +kernel

end Lexer

end SourceScan
