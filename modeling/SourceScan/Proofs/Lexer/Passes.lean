import SourceScan.CommentStyle.Presets
import SourceScan.Proofs.Lexer.Delivery
import SourceScan.Proofs.Lexer.Placement

/-! # Passes one after another

A pass reads its lines only, not what earlier passes have left. So each pass of a lexer puts the
same tokens behind those in the stream and hands over the same runs, and its closing report has the
totals of all passes so far.
-/

namespace SourceScan

variable {σ : Type} [Sink σ]

namespace Lexer

variable (lexer : Lexer)

/-- What so many passes over the lines of a lexer leave in a stream and with a sink. -/
def progressAfter (tokens : List Token) (sink : Option σ) (times : Nat) : Progress σ where
  stream := ⟨tokens ++ (List.replicate times
    ((constructs lexer.style lexer.lines).flatMap Construct.tokens)).flatten⟩
  delivered := times * lexer.runs.length
  kept := times * lexer.reports.length
  sink := handed sink (List.replicate times lexer.runs).flatten

/-- The last of so many passes, if its sink takes all runs. -/
def passAfter (tokens : List Token) (sink : Option σ) (times : Nat) : Pass σ where
  progress := lexer.progressAfter tokens sink times
  log := lexer.reports ++ [.split lexer.file lexer.lines.length (times * lexer.runs.length)
    (times * lexer.reports.length)]
  failure := none

variable {tokens : List Token} {sink : Option σ}

/-- One more pass adds another copy of everything. -/
theorem tokenize_progressAfter {done : Nat}
    (htakes : Takes (lexer.progressAfter tokens sink done).sink lexer.runs) :
    lexer.tokenize (lexer.progressAfter tokens sink done) =
      lexer.passAfter tokens sink (done + 1) := by
  rw [tokenize_of_takes lexer htakes]
  simp only [passAfter, progressAfter, TokenStream.append, List.replicate_succ',
    List.flatten_append, List.flatten_singleton, handed_append, List.append_assoc, Nat.succ_mul]

/-- The passes behind those that were made already. -/
theorem passes_progressAfter {times : Nat} (done : Nat)
    (htakes : Takes (lexer.progressAfter tokens sink done).sink
      (List.replicate times lexer.runs).flatten) :
    lexer.passes times (lexer.progressAfter tokens sink done) =
      (List.range' (done + 1) times).map (lexer.passAfter tokens sink) := by
  induction times generalizing done with
  | zero => rfl
  | succ times ih =>
      -- The sink takes the runs of the next pass, and as it is then, those of the others.
      rw [List.replicate_succ, List.flatten_cons, takes_append_iff] at htakes
      obtain ⟨hfirst, hrest⟩ := htakes
      have hpass := lexer.tokenize_progressAfter hfirst
      have hsink : handed (lexer.progressAfter tokens sink done).sink lexer.runs =
          (lexer.progressAfter tokens sink (done + 1)).sink := by
        simp only [progressAfter, List.replicate_succ', List.flatten_append,
          List.flatten_singleton, handed_append]
      rw [hsink] at hrest
      rw [passes, hpass, List.range'_succ, List.map_cons]
      exact congrArg _ (ih (done + 1) hrest)

/-- A lexer that goes over its lines again does in each pass what a first pass with an empty stream
does. The stream gets the same tokens again behind what it holds, the sink is handed the same runs,
and the same blocks are reported, each with the line on which it begins and in the order of these
lines. Only the totals of the closing report go up. -/
theorem passes_repeat (tokens : List Token) (times : Nat)
    (htakes : Takes sink (List.replicate times lexer.runs).flatten) :
    let first := lexer.tokenize ({ sink := some {} } : Progress Collector)
    let added := first.progress.stream.tokens
    let blocks := (placedConstructs lexer.style lexer.lines).filter Placed.isKept
    first.progress.sink.map Collector.runs = some lexer.runs ∧
      first.progress.kept = blocks.length ∧
      lexer.reports.map Event.keptAt? = blocks.map (fun block => some block.lineno) ∧
      (blocks.Pairwise fun block below => block.lineno < below.lineno) ∧
      lexer.passes times ({ stream := ⟨tokens⟩, sink } : Progress σ) =
        (List.range' 1 times).map fun count =>
          { progress :=
              { stream := ⟨tokens ++ (List.replicate count added).flatten⟩
                delivered := count * lexer.runs.length
                kept := count * blocks.length
                sink := handed sink (List.replicate count lexer.runs).flatten }
            log := lexer.reports ++ [.split lexer.file lexer.lines.length
              (count * lexer.runs.length) (count * blocks.length)]
            failure := none } := by
  intro first added blocks
  have hfirst : Willing (some ({} : Collector)) := Collector.willing rfl
  have hreports : lexer.reports.map Event.keptAt? = blocks.map fun block => some block.lineno :=
    map_keptAt?_filterMap_report? _
  have hkept : lexer.reports.length = blocks.length := by
    simpa only [List.length_map] using congrArg List.length hreports
  have hadded : added = (constructs lexer.style lexer.lines).flatMap Construct.tokens :=
    tokens_of_willing lexer hfirst
  refine ⟨?runs, ?kept, hreports, (pairwise_place _ _).filter _, ?passes⟩
  case runs =>
    rw [sink_of_willing lexer hfirst, Collector.handed_eq rfl]
    rfl
  case kept => rw [kept_of_willing lexer hfirst, hkept, Nat.zero_add]
  case passes =>
    have hstart : lexer.progressAfter tokens sink 0 = { stream := ⟨tokens⟩, sink } := by
      simp [progressAfter, handed]
    rw [← hstart, lexer.passes_progressAfter 0 (by rwa [hstart]), hadded, ← hkept]
    rfl

/-- Two passes behind other tokens, with a run between two blocks that are kept as code. -/
theorem passes_repeat_twice :
    let lines := ["/* p */ y", "// a", "/* b", "c */ z"].map String.toList
    let lexer : Lexer := ⟨lines, .cFamily, none⟩
    let tokens : List Token := [Token.lineBreak, ⟨.symbol, "q".toList⟩]
    let sink : Option Collector := some {}
    let passes := lexer.passes 2 { stream := ⟨tokens⟩, sink }
    Takes sink (List.replicate 2 lexer.runs).flatten ∧
      passes.map Pass.log = [[.keptLine 1, .keptTail 3, .split none 4 1 2],
        [.keptLine 1, .keptTail 3, .split none 4 2 4]] ∧
      passes.map (fun pass => pass.progress.delivered) = [1, 2] ∧
      passes.map (fun pass => pass.progress.stream.length) = [17, 32] ∧
      passes.map (fun pass => pass.progress.sink.map Collector.runs) =
        [some [⟨[" a".toList], 2, false⟩],
          some [⟨[" a".toList], 2, false⟩, ⟨[" a".toList], 2, false⟩]] := by
  intro lines lexer tokens sink passes
  have htakes : Takes sink (List.replicate 2 lexer.runs).flatten :=
    (Collector.willing rfl).takes _
  obtain ⟨-, -, -, -, hrepeat⟩ := lexer.passes_repeat tokens 2 htakes
  have hpasses : passes = _ := hrepeat
  refine ⟨htakes, ?_, ?_, ?_, ?_⟩
  all_goals
    rw [hpasses]
    decide +kernel

end Lexer

end SourceScan
