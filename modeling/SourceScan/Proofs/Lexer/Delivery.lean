import Mathlib.Data.List.Basic
import SourceScan.Lexer

/-! # Passes and what the sink lets through

A pass goes on as long as the sink takes the runs it is handed, and it ends with the construct whose
run is refused. A sink that takes whatever it is handed lets a pass work through all constructs of
its lines. The stream then has the tokens of them all, and the sink has been handed every run in
order.
-/

namespace SourceScan

variable {σ : Type} [Sink σ]

/-- A sink after it was handed runs one behind another. -/
def handed (sink : Option σ) (runs : List CommentRun) : Option σ :=
  runs.foldl (fun sink run => (offer sink run).1) sink

/-- A sink that refuses no run, whatever it was handed before. -/
def Willing (sink : Option σ) : Prop :=
  ∀ runs run, (offer (handed sink runs) run).2 = none

theorem Willing.next {sink : Option σ} (hsink : Willing sink) (run : CommentRun) :
    Willing (offer sink run).1 :=
  fun runs => hsink (run :: runs)

theorem willing_none : Willing (none : Option σ) := by
  intro runs run
  have hnone : handed (none : Option σ) runs = none := by
    induction runs with
    | nil => rfl
    | cons _ _ ih => exact ih
  rw [hnone]
  rfl

/-- A sink that refuses none of some runs when it is handed them in order. -/
def Takes : Option σ → List CommentRun → Prop
  | _, [] => True
  | sink, run :: rest => (offer sink run).2 = none ∧ Takes (offer sink run).1 rest

theorem Willing.takes {sink : Option σ} (hsink : Willing sink) (runs : List CommentRun) :
    Takes sink runs := by
  induction runs generalizing sink with
  | nil => trivial
  | cons run rest ih => exact ⟨hsink [] run, ih (hsink.next run)⟩

theorem handed_append (sink : Option σ) (runs others : List CommentRun) :
    handed sink (runs ++ others) = handed (handed sink runs) others :=
  List.foldl_append

theorem takes_append_iff {sink : Option σ} {runs others : List CommentRun} :
    Takes sink (runs ++ others) ↔ Takes sink runs ∧ Takes (handed sink runs) others := by
  induction runs generalizing sink with
  | nil => exact (true_and _).to_iff.symm
  | cons run rest ih =>
      rw [List.cons_append, Takes, Takes, ih, and_assoc]
      rfl

namespace Collector

variable {collector : Collector}

/-- The collector with some more runs recorded. -/
def recording (collector : Collector) (runs : List CommentRun) : Collector :=
  { collector with
    calls := collector.calls + runs.length, runs := collector.runs ++ runs }

/-- None of the next so many calls is the one that the collector refuses. -/
def Spares (collector : Collector) (count : Nat) : Prop :=
  ∀ call : Nat, collector.calls < call → call ≤ collector.calls + count →
    collector.refuses ≠ some (call : Int)

theorem spares_of_refuses_eq_none (hrefuses : collector.refuses = none) (count : Nat) :
    collector.Spares count := by
  intro call _ _
  rw [hrefuses]
  exact nofun

theorem offer_of_spares {count : Nat} (hspares : collector.Spares (count + 1))
    (run : CommentRun) : offer (some collector) run = (some (collector.recording [run]), none) := by
  have hcall : collector.refuses ≠ some ((collector.calls + 1 : Nat) : Int) :=
    hspares _ (Nat.lt_succ_self _) (by omega)
  simp only [offer, Sink.receive, receive]
  rw [if_neg hcall]
  rfl

/-- A collector records the runs of all calls that it spares. -/
theorem takes_of_spares {runs : List CommentRun} (hspares : collector.Spares runs.length) :
    Takes (some collector) runs ∧
      handed (some collector) runs = some (collector.recording runs) := by
  induction runs generalizing collector with
  | nil => exact ⟨trivial, by simp [handed, recording]⟩
  | cons run rest ih =>
      have hoffer := offer_of_spares hspares run
      have hrest : (collector.recording [run]).Spares rest.length := by
        intro call hlower hupper
        simp only [recording, List.length_singleton] at hlower hupper
        exact hspares call (by omega) (by rw [List.length_cons]; omega)
      obtain ⟨htakes, hhanded⟩ := ih hrest
      refine ⟨⟨congrArg Prod.snd hoffer, by rwa [hoffer]⟩, ?_⟩
      rw [handed, List.foldl_cons, hoffer, ← handed, hhanded]
      simp [recording, Nat.add_assoc, Nat.add_comm 1]

theorem handed_eq (hrefuses : collector.refuses = none) (runs : List CommentRun) :
    handed (some collector) runs = some (collector.recording runs) :=
  (takes_of_spares (spares_of_refuses_eq_none hrefuses _)).2

theorem willing (hrefuses : collector.refuses = none) : Willing (some collector) := by
  intro runs run
  rw [handed_eq hrefuses]
  exact congrArg Prod.snd (offer_of_spares (spares_of_refuses_eq_none (by exact hrefuses) 1) run)

theorem spares_of_lt {last count : Nat} (hrefuses : collector.refuses = some (last : Int))
    (hcount : collector.calls + count < last) : collector.Spares count := by
  intro call _ hcall hsame
  have hlast : last = call := Int.ofNat.inj (Option.some.inj (hrefuses.symm.trans hsame))
  omega

/-- The call that is the one to refuse is counted, and its run is not recorded. -/
theorem offer_of_refuses (hrefuses : collector.refuses = some ((collector.calls + 1 : Nat) : Int))
    (run : CommentRun) :
    offer (some collector) run =
      (some { collector with calls := collector.calls + 1 },
        some (.sink ((collector.calls + 1 : Nat) : Int))) := by
  simp only [offer, Sink.receive, receive]
  rw [if_pos hrefuses]

/-- A collector records the runs before the call that it refuses. -/
theorem offer_handed_of_refuses {runs : List CommentRun}
    (hrefuses : collector.refuses = some ((collector.calls + runs.length + 1 : Nat) : Int))
    (run : CommentRun) :
    Takes (some collector) runs ∧
      offer (handed (some collector) runs) run =
        (some { collector.recording runs with calls := collector.calls + runs.length + 1 },
          some (.sink ((collector.calls + runs.length + 1 : Nat) : Int))) := by
  obtain ⟨htakes, hhanded⟩ := takes_of_spares (spares_of_lt hrefuses (Nat.lt_succ_self _))
  rw [hhanded]
  exact ⟨htakes, offer_of_refuses hrefuses run⟩

end Collector

/-- A delivery goes on behind a construct, unless the construct has a run that is refused. -/
theorem deliver_cons (sink : Option σ) (placed : Placed) (rest : List Placed) :
    deliver sink (placed :: rest) =
      match placed.run?.bind fun run => (offer sink run).2 with
      | none =>
          let delivery := deliver (handed sink placed.run?.toList) rest
          { delivery with taken := placed :: delivery.taken }
      | some error => ⟨[placed], handed sink placed.run?.toList, some error⟩ := by
  cases hrun : placed.run? with
  | none =>
      rw [deliver, hrun]
      rfl
  | some run =>
      simp only [deliver, hrun, Option.bind_some]
      cases (offer sink run).2 <;> rfl

/-- A delivery has handed over the runs of the constructs that it took, the refused one included. -/
theorem sink_deliver (sink : Option σ) (placed : List Placed) :
    (deliver sink placed).sink =
      handed sink ((deliver sink placed).taken.filterMap Placed.run?) := by
  induction placed generalizing sink with
  | nil => rfl
  | cons first rest ih =>
      rw [deliver_cons]
      cases first.run?.bind fun run => (offer sink run).2 with
      | none =>
          dsimp only
          rw [ih, List.filterMap_eq_flatMap_toList, List.filterMap_eq_flatMap_toList,
            List.flatMap_cons, handed_append]
      | some error =>
          dsimp only
          rw [List.filterMap_eq_flatMap_toList, List.flatMap_singleton]

/-- A sink that takes the runs of some constructs is asked next about those behind them. -/
theorem deliver_append_of_takes {sink : Option σ} {before : List Placed} (after : List Placed)
    (htakes : Takes sink (before.filterMap Placed.run?)) :
    deliver sink (before ++ after) =
      let delivery := deliver (handed sink (before.filterMap Placed.run?)) after
      { delivery with taken := before ++ delivery.taken } := by
  induction before generalizing sink with
  | nil => rfl
  | cons first rest ih =>
      cases hrun : first.run? with
      | none =>
          rw [List.filterMap_cons_none hrun] at htakes ⊢
          simp only [List.cons_append, deliver, hrun, ih htakes]
      | some run =>
          rw [List.filterMap_cons_some hrun] at htakes ⊢
          obtain ⟨htaken, hrest⟩ := htakes
          simp only [List.cons_append, deliver, hrun, htaken, ih hrest]
          rfl

/-- Nothing stops the delivery to a sink that takes all runs. -/
theorem deliver_of_takes {sink : Option σ} {placed : List Placed}
    (htakes : Takes sink (placed.filterMap Placed.run?)) :
    deliver sink placed = ⟨placed, handed sink (placed.filterMap Placed.run?), none⟩ := by
  have hdeliver := deliver_append_of_takes [] htakes
  rw [List.append_nil] at hdeliver
  rw [hdeliver]
  exact congrArg (fun taken => (⟨taken, _, none⟩ : Delivery σ)) (List.append_nil placed)

/-- The delivery ends with the construct whose run is refused. -/
theorem deliver_of_refused {sink : Option σ} {before after : List Placed} {placed : Placed}
    {run : CommentRun} {error : CallbackError}
    (htakes : Takes sink (before.filterMap Placed.run?)) (hrun : placed.run? = some run)
    (hrefused : (offer (handed sink (before.filterMap Placed.run?)) run).2 = some error) :
    deliver sink (before ++ placed :: after) =
      ⟨before ++ [placed], (offer (handed sink (before.filterMap Placed.run?)) run).1,
        some error⟩ := by
  rw [deliver_append_of_takes _ htakes]
  simp only [deliver, hrun, hrefused]

/-- Whatever the sink does, a pass works through the first constructs, in order. -/
theorem taken_deliver_isPrefix (sink : Option σ) (placed : List Placed) :
    (deliver sink placed).taken <+: placed := by
  induction placed generalizing sink with
  | nil => exact List.prefix_refl []
  | cons first rest ih =>
      simp only [deliver]
      split
      · exact List.prefix_append [first] rest
      · exact List.cons_prefix_cons.mpr ⟨rfl, ih _⟩

theorem flatMap_tokens_place (lineno : Nat) (constructs : List Construct) :
    (place lineno constructs).flatMap Placed.tokens = constructs.flatMap Construct.tokens := by
  induction constructs generalizing lineno with
  | nil => rfl
  | cons construct rest ih => rw [place, List.flatMap_cons, ih, List.flatMap_cons, Placed.tokens]

theorem flatMap_tokens_placedConstructs (style : CommentStyle) (lines : List Text) :
    (placedConstructs style lines).flatMap Placed.tokens =
      (constructs style lines).flatMap Construct.tokens :=
  flatMap_tokens_place 1 _

namespace Lexer

/-- The runs of comments in the lines of a source, in order. -/
def runs (lexer : Lexer) : List CommentRun :=
  (placedConstructs lexer.style lexer.lines).filterMap Placed.run?

/-- The reports of block comments that are kept as code, in order. -/
def reports (lexer : Lexer) : List Event :=
  (placedConstructs lexer.style lexer.lines).filterMap Placed.report?

variable (lexer : Lexer) {progress : Progress σ}

/-- All that a pass does if it is not refused. -/
theorem tokenize_of_takes (htakes : Takes progress.sink lexer.runs) :
    lexer.tokenize progress =
      { progress :=
          { stream := progress.stream.append
              ((constructs lexer.style lexer.lines).flatMap Construct.tokens)
            delivered := progress.delivered + lexer.runs.length
            kept := progress.kept + lexer.reports.length
            sink := handed progress.sink lexer.runs }
        log := lexer.reports ++ [.split lexer.file lexer.lines.length
          (progress.delivered + lexer.runs.length) (progress.kept + lexer.reports.length)]
        failure := none } := by
  have hdeliver : deliver progress.sink (placedConstructs lexer.style lexer.lines) =
      ⟨placedConstructs lexer.style lexer.lines, handed progress.sink lexer.runs, none⟩ :=
    deliver_of_takes htakes
  simp only [tokenize, hdeliver, flatMap_tokens_placedConstructs]
  rfl

theorem failure_of_willing (hsink : Willing progress.sink) :
    (lexer.tokenize progress).failure = none := by
  rw [tokenize_of_takes lexer (hsink.takes _)]

theorem sink_of_willing (hsink : Willing progress.sink) :
    (lexer.tokenize progress).progress.sink = handed progress.sink lexer.runs := by
  rw [tokenize_of_takes lexer (hsink.takes _)]

theorem tokens_of_willing (hsink : Willing progress.sink) :
    (lexer.tokenize progress).progress.stream.tokens =
      progress.stream.tokens ++ (constructs lexer.style lexer.lines).flatMap Construct.tokens := by
  rw [tokenize_of_takes lexer (hsink.takes _)]
  rfl

theorem delivered_of_willing (hsink : Willing progress.sink) :
    (lexer.tokenize progress).progress.delivered = progress.delivered + lexer.runs.length := by
  rw [tokenize_of_takes lexer (hsink.takes _)]

theorem kept_of_willing (hsink : Willing progress.sink) :
    (lexer.tokenize progress).progress.kept = progress.kept + lexer.reports.length := by
  rw [tokenize_of_takes lexer (hsink.takes _)]

end Lexer

end SourceScan
