import SourceScan.CommentStyle.Presets
import SourceScan.Proofs.Lexer.Delivery
import SourceScan.Proofs.Scope.History
import SourceScan.Proofs.Settings.Contexts
import SourceScan.Session

/-! # One source after another

A parser may be given any sources, under any settings and with any calls in between, and some of
them may fail halfway. The next lines that it is given come out as from a parser that was just made:
the same tokens, scopes, topics and error, and the same runs for the sink. Only the name of the last
file stays behind, in the closing reports.
-/

namespace SourceScan

variable {σ ρ φ : Type} [Sink σ]

/-! ## Sinks without memory -/

/-- Two sinks that say the same to every run, whatever each of them was handed before. -/
def Alike (sink other : Option σ) : Prop :=
  ∀ runs runs' run, (offer (handed sink runs) run).2 = (offer (handed other runs') run).2

/-- A sink whose word on a run depends on that run alone. -/
def Steady (sink : Option σ) : Prop := Alike sink sink

theorem alike_handed {sink other : Option σ} (halike : Alike sink other)
    (runs runs' : List CommentRun) : Alike (handed sink runs) (handed other runs') := by
  intro more more' run
  rw [← handed_append, ← handed_append]
  exact halike _ _ run

/-- A sink that refuses nothing gives one answer to all runs. -/
theorem Willing.steady {sink : Option σ} (hsink : Willing sink) : Steady sink :=
  fun runs runs' run => (hsink runs run).trans (hsink runs' run).symm

/-- Sinks that are alike stop a delivery at the same construct. -/
theorem deliver_of_alike {sink other : Option σ} (halike : Alike sink other)
    (placed : List Placed) :
    (deliver sink placed).taken = (deliver other placed).taken ∧
      (deliver sink placed).failure = (deliver other placed).failure := by
  induction placed generalizing sink other with
  | nil => exact ⟨rfl, rfl⟩
  | cons first rest ih =>
      have hword : (first.run?.bind fun run => (offer sink run).2) =
          first.run?.bind fun run => (offer other run).2 := by
        congr
        funext run
        exact halike [] [] run
      obtain ⟨htaken, hfailure⟩ := ih (alike_handed halike first.run?.toList first.run?.toList)
      rw [deliver_cons, deliver_cons, hword]
      cases first.run?.bind fun run => (offer other run).2 with
      | none => exact ⟨congrArg (List.cons first) htaken, hfailure⟩
      | some error => exact ⟨rfl, rfl⟩

/-! ## Parses that come out the same -/

/-- Parses by two parsers that come out the same. Each sink has been handed the same runs on top of
what its parser had handed it before, and the reports are the same if the parsers name the same
file. -/
structure SameParse (parser other : Parser σ ρ) (parse parse' : Parse σ ρ) : Prop where
  failure : parse.failure = parse'.failure
  stream : parse.parser.stream = parse'.parser.stream
  scopes : parse.parser.scopes = parse'.parser.scopes
  topics : parse.parser.topics = parse'.parser.topics
  runs : ∃ runs, parse.parser.sink = handed parser.sink runs ∧
    parse'.parser.sink = handed other.sink runs
  log : parser.file = other.file → parse.log = parse'.log

/-- Parsers of one make have the same style, naming and preprocessor, and sinks that are alike. -/
structure SameMake (parser other : Parser σ ρ) : Prop where
  style : parser.style = other.style
  naming : parser.naming = other.naming
  prepare : parser.prepare = other.prepare
  sink : Alike parser.sink other.sink

namespace SameMake

variable {parser other : Parser σ ρ} {settings : Settings ρ}

theorem cleared (hmake : SameMake parser other) : SameMake parser.cleared other.cleared :=
  ⟨hmake.style, hmake.naming, hmake.prepare, hmake.sink⟩

theorem styleUnder (hmake : SameMake parser other) :
    parser.styleUnder settings = other.styleUnder settings := by
  rw [Parser.styleUnder, Parser.styleUnder, hmake.style]

/-- Lines are scanned the same by cleared parsers of one make. -/
theorem scan (hmake : SameMake parser other) (style : CommentStyle) (lines : List Text) :
    SameParse parser.cleared other.cleared (parser.cleared.scan style lines)
      (other.cleared.scan style lines) := by
  obtain ⟨htaken, hfailure⟩ := deliver_of_alike hmake.sink (placedConstructs style lines)
  have hsink := sink_deliver parser.sink (placedConstructs style lines)
  have hother := sink_deliver other.sink (placedConstructs style lines)
  rw [htaken] at hsink
  refine ⟨?_, ?_, rfl, rfl, ⟨_, hsink, hother⟩, ?_⟩
  · exact congrArg (Option.map ParseError.callback) hfailure
  · simp only [Parser.scan, Parser.cleared, Lexer.tokenize, htaken]
  · intro hfile
    have hfile : parser.file = other.file := hfile
    simp only [Parser.scan, Parser.cleared, Lexer.tokenize, htaken, hfailure, hfile]

/-- Lines are parsed the same by parsers of one make, whatever the two have parsed before. -/
theorem parseLines [Preprocessor ρ] (hmake : SameMake parser other) (lines : List Text) :
    SameParse parser other (parser.parseLines settings lines)
      (other.parseLines settings lines) := by
  have hprepare : parser.cleared.prepare = other.cleared.prepare := hmake.prepare
  have hstyle : parser.cleared.styleUnder settings = other.cleared.styleUnder settings :=
    hmake.cleared.styleUnder
  -- A parse that ends before the scan hands over no run.
  have hstopped : ∀ error, SameParse parser.cleared other.cleared ⟨parser.cleared, [], error⟩
      ⟨other.cleared, [], error⟩ :=
    fun error => ⟨rfl, rfl, rfl, rfl, ⟨[], rfl, rfl⟩, fun _ => rfl⟩
  have hcleared : SameParse parser.cleared other.cleared
      (parser.parseLines settings lines) (other.parseLines settings lines) := by
    simp only [Parser.parseLines, hprepare, hstyle]
    cases preprocess other.cleared.prepare lines >>= preprocess settings.preprocessor with
    | error error => exact hstopped _
    | ok lines =>
        cases other.cleared.styleUnder settings with
        | usable style => exact hmake.scan _ lines
        | unusable value =>
            by_cases hnil : lines = []
            · simp only [hnil, if_true]
              exact hmake.scan _ []
            · simp only [hnil, if_false]
              exact hstopped _
  obtain ⟨hfailure, hstream, hscopes, htopics, hruns, hlog⟩ := hcleared
  exact ⟨hfailure, hstream, hscopes, htopics, hruns, hlog⟩

end SameMake

/-! ## Histories of a parser -/

/-- A call on a parser, or on what surrounds it. -/
inductive SessionCall (ρ : Type) (φ : Type := FileTree) where
  | parseLines (lines : List Text)
  | parseText (text : Text)
  | parseFile (path : String)
  | scope (call : ScopeCall)
  | setTokens (tokens : List Token)
  | clearTokens
  | addTopic (topic : Value)
  | clearTopics
  | configure (call : SettingsCall ρ)
  /-- The files that can be read are other ones from now on. -/
  | place (files : φ)

namespace Session

omit [Sink σ] in
theorem parser_accept (session : Session σ ρ φ) (parse : Parse σ ρ) :
    (session.accept parse).parser = parse.parser := by
  unfold accept
  split <;> rfl

variable [Preprocessor ρ] [Reader φ]

/-- The session after a call, whether the call succeeds or fails. -/
def perform (session : Session σ ρ φ) : SessionCall ρ φ → Session σ ρ φ
  | .parseLines lines => session.accept (session.parser.parseLines session.settings.active lines)
  | .parseText text => session.accept (session.parser.parseText session.settings.active text)
  | .parseFile path =>
      session.accept (session.parser.parseFile session.files session.settings.active path)
  | .scope call =>
      session.modifyScopes (session.parser.scopes.perform session.parser.naming call)
  | .setTokens tokens => session.setStream ⟨tokens⟩
  | .clearTokens => session.setStream .empty
  | .addTopic topic => { session with parser := session.parser.addTopic topic }
  | .clearTopics => { session with parser := { session.parser with topics := none } }
  | .configure call =>
      { session with settings := (session.settings.perform? call).getD session.settings }
  | .place files => { session with files }

/-- The session after calls one behind another. -/
def performAll (session : Session σ ρ φ) (calls : List (SessionCall ρ φ)) : Session σ ρ φ :=
  calls.foldl perform session

end Session

/-- What a parser keeps for good: its make, and its sink, which may have been handed runs. -/
structure Keeps (parser later : Parser σ ρ) : Prop where
  style : later.style = parser.style
  naming : later.naming = parser.naming
  prepare : later.prepare = parser.prepare
  sink : ∃ runs, later.sink = handed parser.sink runs

namespace Keeps

variable {parser later last : Parser σ ρ}

theorem refl (parser : Parser σ ρ) : Keeps parser parser := ⟨rfl, rfl, rfl, [], rfl⟩

theorem trans (hlater : Keeps parser later) (hlast : Keeps later last) : Keeps parser last := by
  obtain ⟨runs, hruns⟩ := hlater.sink
  obtain ⟨more, hmore⟩ := hlast.sink
  refine ⟨hlast.style.trans hlater.style, hlast.naming.trans hlater.naming,
    hlast.prepare.trans hlater.prepare, runs ++ more, ?_⟩
  rw [hmore, hruns, handed_append]

theorem scan (hlater : Keeps parser later) (style : CommentStyle) (lines : List Text) :
    Keeps parser (later.scan style lines).parser :=
  hlater.trans ⟨rfl, rfl, rfl, _, sink_deliver later.sink _⟩

variable [Preprocessor ρ]

theorem parseLines (parser : Parser σ ρ) (settings : Settings ρ) (lines : List Text) :
    Keeps parser (parser.parseLines settings lines).parser := by
  have hcleared : Keeps parser parser.cleared := ⟨rfl, rfl, rfl, [], rfl⟩
  simp only [Parser.parseLines]
  cases preprocess parser.cleared.prepare lines >>= preprocess settings.preprocessor with
  | error error => exact hcleared
  | ok lines =>
      cases parser.cleared.styleUnder settings with
      | usable style => exact hcleared.scan _ lines
      | unusable value =>
          by_cases hnil : lines = []
          · simp only [hnil, if_true]
            exact hcleared.scan _ []
          · simp only [hnil, if_false]
            exact hcleared

variable [Reader φ]

theorem parseFile (parser : Parser σ ρ) (files : φ) (settings : Settings ρ) (path : String) :
    Keeps parser (parser.parseFile files settings path).parser := by
  have hnamed : Keeps parser { parser with file := some path } := ⟨rfl, rfl, rfl, [], rfl⟩
  simp only [Parser.parseFile]
  cases readLines files settings path none with
  | error error => exact hnamed
  | ok found => exact hnamed.trans (parseLines _ settings found.1)

theorem perform (session : Session σ ρ φ) (call : SessionCall ρ φ) :
    Keeps session.parser (session.perform call).parser := by
  cases call with
  | parseLines lines =>
      rw [Session.perform, Session.parser_accept]
      exact parseLines _ _ lines
  | parseText text =>
      rw [Session.perform, Session.parser_accept]
      exact parseLines _ _ text.lines
  | parseFile path =>
      rw [Session.perform, Session.parser_accept]
      exact parseFile _ _ _ path
  | scope | setTokens | clearTokens | addTopic | clearTopics | configure | place =>
      exact ⟨rfl, rfl, rfl, [], rfl⟩

theorem performAll (session : Session σ ρ φ) (calls : List (SessionCall ρ φ)) :
    Keeps session.parser (session.performAll calls).parser := by
  induction calls generalizing session with
  | nil => exact refl _
  | cons call rest ih => exact (perform session call).trans (ih (session.perform call))

end Keeps

/-! ## Parsers that were just made -/

/-- A receiver that judges each run by itself, and records those that it does not refuse. -/
structure Judge where
  refuses : CommentRun → Option CallbackError
  runs : List CommentRun := []

namespace Judge

instance : Sink Judge where
  receive judge run :=
    match judge.refuses run with
    | some error => (judge, some error)
    | none => ({ judge with runs := judge.runs ++ [run] }, none)

theorem exists_handed (judge : Judge) (runs : List CommentRun) :
    ∃ recorded, handed (some judge) runs = some { judge with runs := recorded } := by
  induction runs generalizing judge with
  | nil => exact ⟨judge.runs, rfl⟩
  | cons run rest ih =>
      have hoffer : ∃ recorded,
          (offer (some judge) run).1 = some { judge with runs := recorded } := by
        simp only [offer, Sink.receive]
        cases judge.refuses run with
        | some error => exact ⟨judge.runs, rfl⟩
        | none => exact ⟨_, rfl⟩
      obtain ⟨recorded, hrecorded⟩ := hoffer
      obtain ⟨all, hall⟩ := ih { judge with runs := recorded }
      refine ⟨all, ?_⟩
      rw [handed, List.foldl_cons, hrecorded]
      exact hall

theorem steady (judge : Judge) : Steady (some judge) := by
  have hword : ∀ runs run,
      (offer (handed (some judge) runs) run).2 = judge.refuses run := by
    intro runs run
    obtain ⟨recorded, hrecorded⟩ := judge.exists_handed runs
    rw [hrecorded]
    simp only [offer, Sink.receive]
    cases hrefuses : judge.refuses run <;> rfl
  intro runs runs' run
  rw [hword, hword]

end Judge

namespace Session

variable [Preprocessor ρ] [Reader φ]

/-- After any calls on a parser, finished or failed, it parses lines as a parser does that is made
with the same style, naming, preprocessor and sink. If the sink says the same to a run whatever it
was handed before, it does not matter in which state the new parser gets it, and the name of the
last file shows in the reports only. -/
theorem parseLines_performAll (session : Session σ ρ φ) (calls : List (SessionCall ρ φ))
    (lines : List Text) :
    let later := session.performAll calls
    let settings := later.settings.active
    let made (sink : Option σ) (file : Option String) : Parser σ ρ :=
      { style := session.parser.style, sink, file, naming := session.parser.naming
        prepare := session.parser.prepare }
    let again := later.parser.parseLines settings lines
    again = (made later.parser.sink later.parser.file).parseLines settings lines ∧
      (Steady session.parser.sink → ∀ earlier file,
        let anew := made (handed session.parser.sink earlier) file
        SameParse later.parser anew again (anew.parseLines settings lines)) := by
  intro later settings made again
  have hkeeps : Keeps session.parser later.parser := Keeps.performAll session calls
  constructor
  · have hcleared : later.parser.cleared = (made later.parser.sink later.parser.file).cleared := by
      simp only [Parser.cleared, made, hkeeps.style, hkeeps.naming, hkeeps.prepare]
    simp only [again, Parser.parseLines, hcleared]
  · intro hsteady earlier file anew
    obtain ⟨runs, hruns⟩ := hkeeps.sink
    have hmake : SameMake later.parser anew :=
      ⟨hkeeps.style, hkeeps.naming, hkeeps.prepare, hruns ▸ alike_handed hsteady runs earlier⟩
    exact hmake.parseLines lines

/-- A history with a refused run, a failing preprocessor, a file that is missing, open levels,
foreign tokens and a topic. The next lines end with the same refused run as they do in a new parser
with another file name. -/
theorem parseLines_performAll_failures :
    let judge : Judge :=
      { refuses := fun run => if run.isDoc then some (.sink run.lineno) else none }
    let session : Session Judge LineEdit :=
      { parser := { style := some .cFamily, sink := some judge }, files := {} }
    let calls : List (SessionCall LineEdit) :=
      [.parseText "a\n/** b */\rc".toList, .scope (.openLevel (some "end") 3 (some "A")),
        .configure (.enter { preprocessor := some .fail }), .parseLines ["x".toList],
        .configure (.leave (some .context)), .parseFile "none", .setTokens [Token.lineBreak],
        .scope (.addImport "y"), .addTopic .null]
    let later := session.performAll calls
    let lines := ["z", "/// d", "// e"].map String.toList
    let again := later.parser.parseLines later.settings.active lines
    let anew := ({ style := some .cFamily, sink := some judge, file := some "new" } :
      Parser Judge LineEdit).parseLines later.settings.active lines
    Steady session.parser.sink ∧ later.parser.file = some "none" ∧
      later.parser.scopes ≠ .fresh ∧ later.parser.stream ≠ .empty ∧
      again.failure = some (.callback (.sink 2)) ∧ anew.failure = some (.callback (.sink 2)) ∧
      again.parser.stream = anew.parser.stream ∧ again.parser.scopes = anew.parser.scopes ∧
      again.parser.topics = anew.parser.topics := by
  intro judge session calls later lines again anew
  have hsteady : Steady session.parser.sink := judge.steady
  obtain ⟨-, hsame⟩ := parseLines_performAll session calls lines
  have hparse : SameParse later.parser _ again anew := hsame hsteady [] (some "new")
  have hfailure : anew.failure = some (.callback (.sink 2)) := by decide +kernel
  exact ⟨hsteady, by decide +kernel, by decide +kernel, by decide +kernel,
    hparse.failure.trans hfailure, hfailure, hparse.stream, hparse.scopes, hparse.topics⟩

end Session

end SourceScan
