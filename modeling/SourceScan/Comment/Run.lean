import SourceScan.Text.Basic
import SourceScan.Value

/-! # Comment runs and their receivers

An accepted comment is handed over as a run: its texts, the line it starts on, and whether it is
documentation. A receiver may refuse a run; what it recorded before stays.
-/

namespace SourceScan

/-- A comment with its place, one text for each of its lines. -/
structure CommentRun where
  lines : List Text
  lineno : Int
  isDoc : Bool := false
deriving DecidableEq, Repr

/-- The line that a run ends on. -/
def CommentRun.endLineno (run : CommentRun) : Int := run.lineno + run.lines.length - 1

/-- An error raised by code that the scanner calls. -/
inductive CallbackError where
  /-- A sink refused a run; runs are counted from one. -/
  | sink (call : Int)
  | preprocessor
  /-- The work inside a context of settings failed. -/
  | context
deriving DecidableEq, Repr

def CallbackError.message : CallbackError → String
  | .sink call => "sink failed on run " ++ toString call
  | .preprocessor => "preprocessor failed"
  | .context => "boom"

/-- A receiver of comment runs. It learns of a pass by the runs that it is handed and answers each
by what it returns: it has no access to the lines or to the stream of the pass. -/
class Sink (σ : Type) where
  /-- Takes a run; the receiver as it is afterwards, and the error if it refused. -/
  receive : σ → CommentRun → σ × Option CallbackError

/-- A receiver that records runs and may be set to refuse one call. -/
structure Collector where
  runs : List CommentRun := []
  calls : Nat := 0
  refuses : Option Int := none
deriving DecidableEq, Repr

namespace Collector

/-- Records a run unless this call is the one to refuse. -/
def receive (collector : Collector) (run : CommentRun) : Collector × Option CallbackError :=
  let call := collector.calls + 1
  if collector.refuses = some (call : Int) then
    ({ collector with calls := call }, some (.sink call))
  else ({ collector with calls := call, runs := collector.runs ++ [run] }, none)

instance : Sink Collector := ⟨receive⟩

def docRuns (collector : Collector) : List CommentRun := collector.runs.filter CommentRun.isDoc

def clear (collector : Collector) : Collector := { collector with runs := [] }

end Collector

end SourceScan
