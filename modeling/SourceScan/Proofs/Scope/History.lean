import SourceScan.Proofs.Scope.Record
import SourceScan.Scope.Tracker

/-! # Histories of scopes

Calls on a tracker may come in any order and name any lines. Its record is canonical after each of
them, and it ends with the scope that the last recorded call put in force. If the lines go down the
source, the record says no less than the full history of these calls, in the fewest entries.
-/

namespace SourceScan

/-- A call on a tracker. -/
inductive ScopeCall (ι : Type := List String) where
  | openLevel (closingSymbol : Option String) (lineno : Int) (package : Option String)
  | closeLevel (lineno : Int)
  | setPackage (package : Option String) (lineno : Int)
  | addImport (name : String)
  | edit (change : FrameEdit ι)
  | clear

/-- The line of a call that is recorded. -/
def ScopeCall.line? {ι : Type} : ScopeCall ι → Option Int
  | .openLevel _ lineno _ | .closeLevel lineno | .setPackage _ lineno => some lineno
  | .addImport _ | .edit _ | .clear => none

namespace ScopeTracker

/-- The tracker after a call. -/
def perform (tracker : ScopeTracker) (naming : Naming) : ScopeCall → ScopeTracker
  | .openLevel closingSymbol lineno package =>
      tracker.openLevel naming closingSymbol lineno package
  | .closeLevel lineno => (tracker.closeLevel naming lineno).2
  | .setPackage package lineno => tracker.setPackage naming package lineno
  | .addImport name => tracker.addImport name
  | .edit change => tracker.edit change
  | .clear => fresh

/-- The tracker after calls one behind another. -/
def performAll (tracker : ScopeTracker) (naming : Naming) (calls : List ScopeCall) :
    ScopeTracker :=
  calls.foldl (fun tracker call => tracker.perform naming call) tracker

/-- The line of each recorded call, with the name that the frames had right after the call. -/
def history (tracker : ScopeTracker) (naming : Naming) : List ScopeCall → List ScopeEntry
  | [] => []
  | call :: rest =>
      let next := tracker.perform naming call
      (call.line?.map (⟨naming next.frames, ·⟩)).toList ++ next.history naming rest

variable {tracker : ScopeTracker} {naming : Naming} {call : ScopeCall}

theorem record_perform_of_line? {lineno : Int} (hline : call.line? = some lineno) :
    (tracker.perform naming call).record =
      tracker.record.add (naming (tracker.perform naming call).frames) lineno := by
  cases call with
  | openLevel | closeLevel | setPackage =>
      cases hline
      rfl
  | addImport | edit | clear => cases hline

theorem record_perform_of_line?_eq_none (hline : call.line? = none) (hclear : call ≠ .clear) :
    (tracker.perform naming call).record = tracker.record := by
  cases call with
  | openLevel | closeLevel | setPackage => cases hline
  | addImport | edit => rfl
  | clear => exact absurd rfl hclear

theorem canonical_perform (htracker : Canonical tracker.record.toList) :
    Canonical (tracker.perform naming call).record.toList := by
  cases hline : call.line? with
  | some lineno =>
      rw [record_perform_of_line? hline]
      exact (Record.added_add _ _ _).canonical htracker
  | none =>
      by_cases hclear : call = .clear
      · subst hclear
        exact Record.canonical_start
      · rwa [record_perform_of_line?_eq_none hline hclear]

theorem canonical_record_performAll (htracker : Canonical tracker.record.toList)
    (calls : List ScopeCall) : Canonical (tracker.performAll naming calls).record.toList := by
  induction calls generalizing tracker with
  | nil => exact htracker
  | cons call rest ih => exact ih (canonical_perform htracker)

/-- After any calls from a fresh tracker the record is canonical, and every recorded call leaves the
name of the frames as its last scope, however scopes are named. -/
theorem record_of_calls (naming : Naming) (calls : List ScopeCall) :
    (fresh.performAll naming calls).record.toList ≠ [] ∧
      Canonical (fresh.performAll naming calls).record.toList ∧
      ∀ call, call.line?.isSome = true →
        let next := (fresh.performAll naming calls).perform naming call
        next.record.toList.getLast?.map ScopeEntry.scope = some (naming next.frames) := by
  refine ⟨?_, canonical_record_performAll Record.canonical_start calls, ?_⟩
  · simp [Record.toList]
  · intro call hcall next
    obtain ⟨lineno, hline⟩ := Option.isSome_iff_exists.mp hcall
    rw [Record.toList, List.getLast?_reverse, List.head?_cons, Option.map_some]
    rw [record_perform_of_line? hline, (Record.added_add _ _ _).scope_latest]

/-- Without clearing, a record is made by the entries of the history. -/
theorem record_performAll (calls : List ScopeCall) (hclear : ScopeCall.clear ∉ calls) :
    (tracker.performAll naming calls).record =
      tracker.record.addAll (tracker.history naming calls) := by
  induction calls generalizing tracker with
  | nil => rfl
  | cons call rest ih =>
      obtain ⟨hcall, hrest⟩ := not_or.mp (List.mem_cons.not.mp hclear)
      have hstep : (tracker.performAll naming (call :: rest)).record =
          (tracker.perform naming call).record.addAll
            ((tracker.perform naming call).history naming rest) := ih hrest
      rw [hstep, history]
      cases hline : call.line? with
      | some lineno =>
          rw [record_perform_of_line? hline]
          rfl
      | none =>
          rw [record_perform_of_line?_eq_none hline (Ne.symm hcall)]
          rfl

theorem map_lineno_history (tracker : ScopeTracker) (naming : Naming) (calls : List ScopeCall) :
    (tracker.history naming calls).map ScopeEntry.lineno = calls.filterMap ScopeCall.line? := by
  induction calls generalizing tracker with
  | nil => rfl
  | cons call rest ih =>
      rw [history, List.map_append, ih]
      cases hline : call.line? with
      | some lineno => rw [List.filterMap_cons_some hline]; rfl
      | none => rw [List.filterMap_cons_none hline]; rfl

/-- Calls whose lines go down the source from line one on leave a record that gives each line the
name of the frames after the last recorded call for that line or a line above, and no scope where
there is no such call. No other list of entries with this meaning is as short, unless its first
entry is for a line above the source. -/
theorem record_of_rising_calls (naming : Naming) (calls : List ScopeCall)
    (hclear : ScopeCall.clear ∉ calls)
    (hone : ∀ lineno ∈ calls.filterMap ScopeCall.line?, 1 ≤ lineno)
    (hrising : (calls.filterMap ScopeCall.line?).Pairwise (· ≤ ·)) :
    let entries := (fresh.performAll naming calls).record.toList
    let meaning := fun line => (scopeAt? (fresh.history naming calls) line).getD none
    (∀ line, 1 ≤ line → scopeAt? entries line = some (meaning line)) ∧
      ∀ others, (∀ line, 1 ≤ line → scopeAt? others line = some (meaning line)) →
        entries.length ≤ others.length ∧
          (others.length = entries.length → (∀ other ∈ others, 1 ≤ other.lineno) →
            others = entries) := by
  intro entries meaning
  have hcanonical : Canonical entries := canonical_record_performAll Record.canonical_start calls
  have hmeaning : ∀ line, 1 ≤ line → scopeAt? entries line = some (meaning line) := by
    intro line hline
    have hlines := map_lineno_history fresh naming calls
    have hpairs : (fresh.history naming calls).Pairwise
        fun change next => change.lineno ≤ next.lineno := by
      rwa [← hlines, List.pairwise_map] at hrising
    have hlatest : ∀ change ∈ fresh.history naming calls, 1 ≤ change.lineno := by
      rwa [← hlines, List.forall_mem_map] at hone
    have hstart : scopeAt? Record.start.toList line = some none :=
      (scopeAt?_reverse_cons _ [] line).trans (if_pos hline)
    have hrecord := Record.scopeAt?_addAll Record.canonical_start hlatest hpairs line
    rw [hstart] at hrecord
    simp only [entries, meaning, record_performAll calls hclear]
    refine hrecord.trans ?_
    cases scopeAt? (fresh.history naming calls) line <;> rfl
  refine ⟨hmeaning, fun others hothers => ?_⟩
  apply hcanonical.length_le
  intro line hline
  rw [hothers line hline, hmeaning line hline]

/-- A level that is opened and closed on one line, a package, an import, and a nested level. -/
theorem record_of_rising_calls_nested :
    let calls : List ScopeCall := [.openLevel (some "end") 2 (some "A"), .closeLevel 2,
      .setPackage (some "B") 3, .addImport "x", .openLevel (some ")") 5 none, .closeLevel 7]
    let entries := (fresh.performAll .nearest calls).record.toList
    ScopeCall.clear ∉ calls ∧ (∀ lineno ∈ calls.filterMap ScopeCall.line?, 1 ≤ lineno) ∧
      (calls.filterMap ScopeCall.line?).Pairwise (· ≤ ·) ∧
      entries = [⟨none, 1⟩, ⟨some "B", 3⟩] ∧
      scopeAt? entries 6 = some ((scopeAt? (fresh.history .nearest calls) 6).getD none) := by
  intro calls entries
  have hclear : ScopeCall.clear ∉ calls := by simp [calls]
  have hone : ∀ lineno ∈ calls.filterMap ScopeCall.line?, 1 ≤ lineno := by decide
  have hrising : (calls.filterMap ScopeCall.line?).Pairwise (· ≤ ·) := by decide
  refine ⟨hclear, hone, hrising, by decide, ?_⟩
  exact (record_of_rising_calls .nearest calls hclear hone hrising).1 6 (by decide)

end ScopeTracker

end SourceScan
