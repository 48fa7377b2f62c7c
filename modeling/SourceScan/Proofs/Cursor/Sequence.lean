import Mathlib.Data.Set.Basic
import SourceScan.Proofs.Cursor.Closing

/-! # Where sequences follow

A search for a sequence of values stops at the first position from which the values of the tokens
are those of the sequence. The last values have to be there as well, and a sequence may begin inside
an attempt at it that fails. The line breaks before the sequence and those in it are counted once.
-/

namespace SourceScan

namespace Search

variable {sequence : List Text}

theorem startsWith_iff_take {tokens : List Token} :
    startsWith sequence tokens = true ↔
      sequence.length ≤ tokens.length ∧
        (tokens.take sequence.length).map Token.value = sequence := by
  rw [startsWith, List.isPrefixOf_iff_prefix, List.prefix_iff_eq_take, ← List.map_take]
  constructor
  · intro heq
    have hlength := congrArg List.length heq
    rw [List.length_map, List.length_take] at hlength
    exact ⟨by omega, heq.symm⟩
  · exact fun hvalues => hvalues.2.symm

/-- The search passes a token only if the sequence does not begin with it, so it comes to the first
position from which the sequence follows. -/
theorem finds_forSequence (hsequence : sequence ≠ []) (tokens : List Token) :
    Finds (fun position => startsWith sequence (tokens.drop position) = true)
      (forSequence sequence tokens) := by
  fun_induction forSequence sequence tokens with
  | case1 =>
      apply finds_nowhere
      intro position hstarts
      rw [List.drop_nil, startsWith_iff_take, List.length_nil] at hstarts
      exact hsequence (List.eq_nil_of_length_eq_zero (Nat.le_zero.mp hstarts.1))
  | case2 token rest hstarts => exact finds_here hstarts
  | case3 token rest hother ih => exact ih.behind token hother fun _ => Iff.rfl

end Search

namespace TokenStream

/-- The tokens from a position on have the values of a sequence, the last of them included. -/
def SequenceAt (stream : TokenStream) (position : Int) (sequence : List Text) : Prop :=
  position + sequence.length ≤ stream.length ∧
    (stream.within position (position + sequence.length)).map Token.value = sequence

instance (stream : TokenStream) (position : Int) (sequence : List Text) :
    Decidable (stream.SequenceAt position sequence) :=
  inferInstanceAs (Decidable (_ ∧ _))

variable {stream : TokenStream} {cursor next : Cursor} {sequence : List Text}

theorem sequenceAt_iff_startsWith {position : Nat} (hposition : position ≤ stream.length) :
    stream.SequenceAt position sequence ↔
      Search.startsWith sequence (stream.tokens.drop position) = true := by
  have hlength : stream.length = stream.tokens.length := rfl
  have hbound : (position : Int) + sequence.length ≤ stream.length ↔
      sequence.length ≤ stream.tokens.length - position := by omega
  rw [SequenceAt, hbound, ← Int.natCast_add, within_add, Search.startsWith_iff_take,
    List.length_drop]

/-- The positions at or behind an index from which a sequence follows are those that the search
looks for. -/
theorem sequenceAt_iff_of_le (hsequence : sequence ≠ []) {index : Nat}
    {position : Int} :
    index ≤ position ∧ stream.SequenceAt position sequence ↔
      ∃ passed : Nat, position = (index + passed : Nat) ∧
        Search.startsWith sequence ((stream.tokens.drop index).drop passed) = true := by
  simp only [List.drop_drop]
  constructor
  · rintro ⟨hindex, hat⟩
    obtain ⟨passed, rfl⟩ := Int.le.dest hindex
    rw [← Int.natCast_add] at hat ⊢
    refine ⟨passed, rfl, (sequenceAt_iff_startsWith ?_).mp hat⟩
    have hbound := hat.1
    omega
  · rintro ⟨passed, rfl, hstarts⟩
    have hbound := (Search.startsWith_iff_take.mp hstarts).1
    have hpos := List.length_pos_iff.mpr hsequence
    rw [List.length_drop] at hbound
    have hposition : index + passed ≤ stream.length := by
      have hlength : stream.length = stream.tokens.length := rfl
      omega
    exact ⟨by omega, (sequenceAt_iff_startsWith hposition).mpr hstarts⟩

theorem isLeast_of_found (hsequence : sequence ≠ []) {index : Nat}
    (hfound : (Search.forSequence sequence (stream.tokens.drop index)).found = true) :
    IsLeast {position : Int | index ≤ position ∧ stream.SequenceAt position sequence}
      (index + (Search.forSequence sequence (stream.tokens.drop index)).passed : Nat) := by
  obtain ⟨hstarts, hleast⟩ :=
    (Search.finds_forSequence hsequence (stream.tokens.drop index)).found hfound
  refine ⟨(sequenceAt_iff_of_le hsequence).mpr ⟨_, rfl, hstarts⟩, ?_⟩
  intro position hposition
  obtain ⟨passed, rfl, hpassed⟩ := (sequenceAt_iff_of_le hsequence).mp hposition
  have hle := hleast hpassed
  omega

theorem eq_empty_of_missed (hsequence : sequence ≠ []) {index : Nat}
    (hmissed : (Search.forSequence sequence (stream.tokens.drop index)).found = false) :
    {position : Int | index ≤ position ∧ stream.SequenceAt position sequence} = ∅ := by
  apply Set.eq_empty_of_forall_notMem
  intro position hposition
  obtain ⟨passed, -, hpassed⟩ := (sequenceAt_iff_of_le hsequence).mp hposition
  exact (Search.finds_forSequence hsequence _).missed hmissed passed hpassed

/-- A cursor that goes to some index goes down by the line breaks before it. -/
theorem skipUntil?_of_index (hcursor : stream.Holds cursor) {found : Bool} {index : Int}
    (hskip : ∃ last, stream.skipUntil? cursor sequence = some (found, ⟨index, last⟩)) :
    stream.skipUntil? cursor sequence =
      some (found, ⟨index, cursor.lineno + stream.breaksBetween cursor.index index⟩) := by
  obtain ⟨last, hskip⟩ := hskip
  obtain ⟨_, next, hnext, hadvances⟩ := advances_skipUntil hcursor sequence
  obtain ⟨rfl, rfl⟩ := Prod.mk.inj (Option.some.inj (hnext.symm.trans hskip))
  rw [hskip, ← hadvances.lineno]

/-- A search goes behind the sequence that it finds, and else to the end of the stream. -/
theorem exists_skipUntil?_eq (hsequence : sequence ≠ []) (index : Nat) (lineno : Int) :
    let search := Search.forSequence sequence (stream.tokens.drop index)
    ∃ last, stream.skipUntil? ⟨index, lineno⟩ sequence = some (search.found,
      ⟨if search.found then (index + search.passed : Nat) + sequence.length else stream.length,
        last⟩) := by
  intro search
  have hfrom : stream.from? index = some (stream.tokens.drop index) :=
    if_pos (Int.natCast_nonneg index)
  have hbefore : (-(index : Int)).toNat = 0 := by omega
  have hmax : max (index : Int) 0 = index := Int.max_eq_left (Int.natCast_nonneg index)
  simp only [skipUntil?, if_neg hsequence, hfrom, Option.map_some, hbefore, List.take_zero,
    List.length_nil, List.drop_zero, hmax]
  change ∃ last, some (if search.found then _ else _) = _
  cases search.found with
  | true => exact ⟨_, rfl⟩
  | false => exact ⟨_, rfl⟩

/-- A cursor goes behind the first occurrence of a sequence that begins no earlier than where the
cursor is, or to the end of the stream if there is none, and down by the line breaks on its way. The
empty sequence is found at once. -/
theorem skipUntil_to_first_occurrence (hcursor : stream.Holds cursor) :
    stream.skipUntil? cursor [] = some (true, cursor) ∧
    ∀ sequence : List Text, sequence ≠ [] →
      let occurrences := {position | cursor.index ≤ position ∧ stream.SequenceAt position sequence}
      let skipped := stream.skipUntil? cursor sequence
      ((∃ next, skipped = some (true, next)) ↔ occurrences.Nonempty) ∧
      (occurrences.Nonempty → ∃ position, IsLeast occurrences position ∧
        skipped = some (true, ⟨position + sequence.length,
          cursor.lineno + stream.breaksBetween cursor.index (position + sequence.length)⟩)) ∧
      (occurrences = ∅ →
        skipped = some (false, ⟨stream.length,
          cursor.lineno + stream.breaksBetween cursor.index stream.length⟩)) := by
  refine ⟨if_pos rfl, ?_⟩
  intro sequence hsequence occurrences skipped
  obtain ⟨index, lineno⟩ := cursor
  obtain ⟨index, rfl⟩ := Int.eq_ofNat_of_zero_le hcursor.1
  have hskip := skipUntil?_of_index hcursor (exists_skipUntil?_eq hsequence index lineno)
  cases hfound : (Search.forSequence sequence (stream.tokens.drop index)).found with
  | true =>
      rw [hfound, if_pos rfl] at hskip
      have hfirst := isLeast_of_found hsequence hfound
      refine ⟨iff_of_true ⟨_, hskip⟩ ⟨_, hfirst.1⟩, fun _ => ⟨_, hfirst, hskip⟩, ?_⟩
      intro hempty
      exact absurd hempty (Set.nonempty_iff_ne_empty.mp ⟨_, hfirst.1⟩)
  | false =>
      rw [hfound, if_neg Bool.false_ne_true] at hskip
      have hnone : ¬ occurrences.Nonempty :=
        Set.not_nonempty_iff_eq_empty.mpr (eq_empty_of_missed hsequence hfound)
      refine ⟨iff_of_false ?_ hnone, fun hsome => absurd hsome hnone, fun _ => hskip⟩
      rintro ⟨next, hnext⟩
      cases hskip.symm.trans hnext

/-- A sequence that begins inside a failed attempt, and one that the end of the stream cuts off. -/
theorem skipUntil_to_first_occurrence_overlapping :
    let values : List Text := [['\n'], ['a'], ['a'], ['\n'], ['b'], ['a'], ['a']]
    let stream : TokenStream := ⟨values.map (⟨.symbol, ·⟩)⟩
    let sequence : List Text := [['a'], ['\n'], ['b']]
    stream.Holds ⟨0, 1⟩ ∧ sequence ≠ [] ∧
      IsLeast {position : Int | 0 ≤ position ∧ stream.SequenceAt position sequence} 2 ∧
      stream.skipUntil? ⟨0, 1⟩ sequence = some (true, ⟨5, 3⟩) ∧
      stream.skipUntil? ⟨5, 3⟩ sequence = some (false, ⟨7, 3⟩) := by
  intro values stream sequence
  have hholds : stream.Holds ⟨0, 1⟩ := by decide
  have hsequence : sequence ≠ [] := List.cons_ne_nil _ _
  have hskip : stream.skipUntil? ⟨0, 1⟩ sequence = some (true, ⟨5, 3⟩) := by decide +kernel
  obtain ⟨hfound, hfirst, -⟩ := (skipUntil_to_first_occurrence hholds).2 sequence hsequence
  obtain ⟨position, hleast, hposition⟩ := hfirst (hfound.mp ⟨_, hskip⟩)
  have hindex := congrArg (fun skipped : Bool × Cursor => skipped.2.index)
    (Option.some.inj (hposition.symm.trans hskip))
  have hsum : position + 3 = 5 := hindex
  obtain rfl : position = 2 := by omega
  exact ⟨hholds, hsequence, hleast, hskip, by decide +kernel⟩

end TokenStream

end SourceScan
