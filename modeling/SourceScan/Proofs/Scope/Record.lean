import Mathlib.Data.List.Chain
import Mathlib.Order.Lattice
import SourceScan.Scope.Record

/-! # Canonical records

A record says which scope is in force on each line. Adding a change keeps it canonical and changes
what it says from one line on only. Of all lists of entries that say the same, a canonical one is
the shortest.
-/

namespace SourceScan

attribute [ext] ScopeEntry

/-- Entries, oldest first, that begin on line one, go up from line to line, and change the scope
each time. -/
structure Canonical (entries : List ScopeEntry) : Prop where
  first : entries.head?.map ScopeEntry.lineno = some 1
  rising : entries.Pairwise fun entry next => entry.lineno < next.lineno
  changing : entries.IsChain fun entry next => entry.scope ≠ next.scope

/-- The scope that entries put in force on a line: that of the last entry for this line or a line
above, if there is one. -/
def scopeAt? (entries : List ScopeEntry) (line : Int) : Option (Option String) :=
  (entries.reverse.find? fun entry => entry.lineno ≤ line).map ScopeEntry.scope

theorem scopeAt?_cons (entry : ScopeEntry) (rest : List ScopeEntry) (line : Int) :
    scopeAt? (entry :: rest) line =
      (scopeAt? rest line).or (if entry.lineno ≤ line then some entry.scope else none) := by
  unfold scopeAt?
  rw [List.reverse_cons, List.find?_append, Option.map_or]
  congr 1
  split
  next hle => simp [hle]
  next hlt => simp [hlt]

theorem scopeAt?_reverse_cons (entry : ScopeEntry) (before : List ScopeEntry) (line : Int) :
    scopeAt? (entry :: before).reverse line =
      if entry.lineno ≤ line then some entry.scope else scopeAt? before.reverse line := by
  unfold scopeAt?
  rw [List.reverse_reverse, List.reverse_reverse, List.find?_cons]
  split
  next hle => rw [if_pos (of_decide_eq_true hle)]; rfl
  next hlt => rw [if_neg (of_decide_eq_false hlt)]

theorem canonical_reverse_iff {entries : List ScopeEntry} :
    Canonical entries.reverse ↔
      entries.getLast?.map ScopeEntry.lineno = some 1 ∧
      (entries.Pairwise fun entry before => before.lineno < entry.lineno) ∧
      entries.IsChain fun entry before => before.scope ≠ entry.scope := by
  rw [← List.head?_reverse, ← List.pairwise_reverse, ← List.isChain_reverse]
  exact ⟨fun h => ⟨h.first, h.rising, h.changing⟩, fun h => ⟨h.1, h.2.1, h.2.2⟩⟩

theorem canonical_singleton_iff {entry : ScopeEntry} :
    Canonical [entry].reverse ↔ entry.lineno = 1 := by
  rw [canonical_reverse_iff]
  constructor
  · rintro ⟨hfirst, -, -⟩
    exact Option.some.inj hfirst
  · intro hlineno
    exact ⟨congrArg some hlineno, List.pairwise_singleton _ _, List.isChain_singleton _⟩

theorem canonical_cons_cons_iff {latest previous : ScopeEntry} {older : List ScopeEntry} :
    Canonical (latest :: previous :: older).reverse ↔
      Canonical (previous :: older).reverse ∧ previous.lineno < latest.lineno ∧
        previous.scope ≠ latest.scope := by
  rw [canonical_reverse_iff, canonical_reverse_iff, List.getLast?_cons_cons]
  constructor
  · rintro ⟨hfirst, hrising, hchanging⟩
    obtain ⟨hlatest, hrest⟩ := List.pairwise_cons.mp hrising
    obtain ⟨hscope, hchain⟩ := List.isChain_cons_cons.mp hchanging
    exact ⟨⟨hfirst, hrest, hchain⟩, hlatest previous List.mem_cons_self, hscope⟩
  · rintro ⟨⟨hfirst, hrest, hchain⟩, hlineno, hscope⟩
    refine ⟨hfirst, List.pairwise_cons.mpr ⟨?_, hrest⟩, List.isChain_cons_cons.mpr ⟨hscope, hchain⟩⟩
    intro entry hentry
    rcases List.mem_cons.mp hentry with rfl | holder
    · exact hlineno
    · exact ((List.pairwise_cons.mp hrest).1 entry holder).trans hlineno

theorem one_le_lineno_latest {latest : ScopeEntry} {earlier : List ScopeEntry}
    (hentries : Canonical (latest :: earlier).reverse) : 1 ≤ latest.lineno := by
  induction earlier generalizing latest with
  | nil => exact (canonical_singleton_iff.mp hentries).ge
  | cons previous older ih =>
      obtain ⟨hrest, hlineno, -⟩ := canonical_cons_cons_iff.mp hentries
      exact (ih hrest).trans hlineno.le

namespace Record

variable {record next : Record} {scope : Option String} {lineno : Int}

/-- What adding a change makes of a record. -/
inductive Added (record : Record) (scope : Option String) (lineno : Int) : Record → Prop where
  | dropped (hscope : scope = record.latest.scope) : Added record scope lineno record
  | appended (hscope : scope ≠ record.latest.scope) (hlater : record.latest.lineno < lineno) :
      Added record scope lineno ⟨⟨scope, lineno⟩, record.latest :: record.earlier⟩
  | cancelled {previous : ScopeEntry} {older : List ScopeEntry}
      (hline : lineno ≤ record.latest.lineno) (hearlier : record.earlier = previous :: older)
      (hprevious : previous.scope = scope) : Added record scope lineno ⟨previous, older⟩
  | overwritten (hline : lineno ≤ record.latest.lineno)
      (hprevious : ∀ previous ∈ record.earlier.head?, previous.scope ≠ scope) :
      Added record scope lineno ⟨⟨scope, record.latest.lineno⟩, record.earlier⟩

theorem added_add (record : Record) (scope : Option String) (lineno : Int) :
    record.Added scope lineno (record.add scope lineno) := by
  unfold add
  split
  next hscope => exact .dropped hscope
  next hscope =>
    split
    next hlater => exact .appended hscope hlater
    next hlater =>
      have hline := not_lt.mp hlater
      split
      next hearlier =>
        have hadded :
            record.Added scope lineno ⟨⟨scope, record.latest.lineno⟩, record.earlier⟩ := by
          refine .overwritten hline ?_
          simp [hearlier]
        rwa [hearlier] at hadded
      next previous older hearlier =>
        split
        next hprevious => exact .cancelled hline hearlier hprevious
        next hprevious =>
          have hadded :
              record.Added scope lineno ⟨⟨scope, record.latest.lineno⟩, record.earlier⟩ := by
            refine .overwritten hline ?_
            simpa [hearlier] using hprevious
          rwa [hearlier] at hadded

namespace Added

/-- Whatever the scope and the line of a change, the record stays canonical. -/
theorem canonical (hadded : record.Added scope lineno next) (hrecord : Canonical record.toList) :
    Canonical next.toList := by
  unfold toList at hrecord ⊢
  cases hadded with
  | dropped _ => exact hrecord
  | appended hscope hlater => exact canonical_cons_cons_iff.mpr ⟨hrecord, hlater, Ne.symm hscope⟩
  | cancelled _ hearlier _ =>
      rw [hearlier] at hrecord
      exact (canonical_cons_cons_iff.mp hrecord).1
  | overwritten _ hprevious =>
      cases hearlier : record.earlier with
      | nil =>
          rw [hearlier] at hrecord
          have hlineno := canonical_singleton_iff.mp hrecord
          exact canonical_singleton_iff.mpr hlineno
      | cons previous older =>
          rw [hearlier] at hrecord hprevious
          obtain ⟨hrest, hlineno, -⟩ := canonical_cons_cons_iff.mp hrecord
          -- The entry keeps its line, so only the two scopes have to differ again.
          exact canonical_cons_cons_iff.mpr ⟨hrest, hlineno, hprevious previous rfl⟩

theorem scope_latest (hadded : record.Added scope lineno next) : next.latest.scope = scope := by
  cases hadded with
  | dropped hscope => exact hscope.symm
  | appended | overwritten => rfl
  | cancelled _ _ hprevious => exact hprevious

/-- A change puts its scope in force from its line on, or from the line of the latest entry on if
that is further down; above, the record says what it said. -/
theorem scopeAt?_eq (hadded : record.Added scope lineno next) (hrecord : Canonical record.toList)
    (line : Int) :
    scopeAt? next.toList line =
      if max lineno record.latest.lineno ≤ line then some scope
      else scopeAt? record.toList line := by
  unfold toList at hrecord ⊢
  cases hadded with
  | dropped hscope =>
      split
      next hle => rw [scopeAt?_reverse_cons, if_pos (le_trans (le_max_right _ _) hle), hscope]
      next => rfl
  | appended _ hlater =>
      rw [max_eq_left (le_of_lt hlater)]
      exact scopeAt?_reverse_cons _ _ line
  | @cancelled previous older hline hearlier hprevious =>
      rw [hearlier] at hrecord ⊢
      obtain ⟨-, hlineno, -⟩ := canonical_cons_cons_iff.mp hrecord
      simp only [max_eq_right hline, scopeAt?_reverse_cons, hprevious]
      by_cases hle : record.latest.lineno ≤ line
      · rw [if_pos (le_trans (le_of_lt hlineno) hle), if_pos hle]
      · rw [if_neg hle, if_neg hle]
  | overwritten hline _ =>
      simp only [max_eq_right hline, scopeAt?_reverse_cons]
      split <;> rfl

theorem lineno_latest_le (hadded : record.Added scope lineno next)
    (hrecord : Canonical record.toList) {bound : Int} (hlatest : record.latest.lineno ≤ bound)
    (hlineno : lineno ≤ bound) : next.latest.lineno ≤ bound := by
  cases hadded with
  | dropped | overwritten => exact hlatest
  | appended => exact hlineno
  | cancelled _ hearlier _ =>
      rw [toList, hearlier] at hrecord
      obtain ⟨-, hprevious, -⟩ := canonical_cons_cons_iff.mp hrecord
      exact le_trans (le_of_lt hprevious) hlatest

end Added

theorem canonical_start : Canonical start.toList := canonical_singleton_iff.mpr rfl

/-- The record after changes one behind another. -/
def addAll (record : Record) (changes : List ScopeEntry) : Record :=
  changes.foldl (fun record change => record.add change.scope change.lineno) record

theorem addAll_append (record : Record) (changes others : List ScopeEntry) :
    record.addAll (changes ++ others) = (record.addAll changes).addAll others :=
  List.foldl_append

theorem canonical_addAll (hrecord : Canonical record.toList) (changes : List ScopeEntry) :
    Canonical (record.addAll changes).toList := by
  induction changes generalizing record with
  | nil => exact hrecord
  | cons change rest ih =>
      have hadded := record.added_add change.scope change.lineno
      exact ih (hadded.canonical hrecord)

/-- If changes come in the order of their lines, the record says after them what the list of all
these changes says, and on the lines above the first what it said before. -/
theorem scopeAt?_addAll (hrecord : Canonical record.toList) {changes : List ScopeEntry}
    (hlatest : ∀ change ∈ changes, record.latest.lineno ≤ change.lineno)
    (hrising : changes.Pairwise fun change next => change.lineno ≤ next.lineno) (line : Int) :
    scopeAt? (record.addAll changes).toList line =
      (scopeAt? changes line).or (scopeAt? record.toList line) := by
  induction changes generalizing record with
  | nil => rfl
  | cons change rest ih =>
      obtain ⟨hchange, hrest⟩ := List.forall_mem_cons.mp hlatest
      obtain ⟨hlater, hpairs⟩ := List.pairwise_cons.mp hrising
      have hadded := record.added_add change.scope change.lineno
      -- A cancelled entry moves the latest one up, never below the changes still to come.
      have hbound : ∀ next ∈ rest,
          (record.add change.scope change.lineno).latest.lineno ≤ next.lineno := by
        intro next hnext
        exact hadded.lineno_latest_le hrecord (hrest next hnext) (hlater next hnext)
      have hstep := ih (hadded.canonical hrecord) hbound hpairs
      rw [hadded.scopeAt?_eq hrecord, max_eq_left hchange] at hstep
      rw [scopeAt?_cons, Option.or_assoc]
      refine hstep.trans (congrArg _ ?_)
      split <;> rfl

end Record

/-! ## Shortest lists of entries -/

theorem exists_of_scopeAt?_reverse {others : List ScopeEntry} {scope : Option String} {line : Int}
    (hline : scopeAt? others.reverse line = some scope) :
    ∃ behind entry before, others = behind ++ entry :: before ∧ entry.scope = scope ∧
      entry.lineno ≤ line ∧ ∀ other ∈ behind, line < other.lineno := by
  unfold scopeAt? at hline
  rw [List.reverse_reverse, Option.map_eq_some_iff] at hline
  obtain ⟨entry, hfind, hscope⟩ := hline
  obtain ⟨hle, behind, before, heq, hbehind⟩ := List.find?_eq_some_iff_append.mp hfind
  refine ⟨behind, entry, before, heq, hscope, of_decide_eq_true hle, ?_⟩
  intro other hother
  have hnot := hbehind other hother
  simpa using hnot

theorem scopeAt?_reverse_append {behind before : List ScopeEntry} {line : Int}
    (hbehind : ∀ other ∈ behind, line < other.lineno) :
    scopeAt? (behind ++ before).reverse line = scopeAt? before.reverse line := by
  induction behind with
  | nil => rfl
  | cons other rest ih =>
      obtain ⟨hother, hrest⟩ := List.forall_mem_cons.mp hbehind
      rw [List.cons_append, scopeAt?_reverse_cons, if_neg (not_le.mpr hother), ih hrest]

/-- Entries that go up and change the scope each time are the fewest that say what they say on the
lines down to their latest one, and the only ones so few that name no line above the first. -/
theorem length_le_of_scopeAt?_reverse_eq {latest : ScopeEntry} {earlier others : List ScopeEntry}
    (hentries : Canonical (latest :: earlier).reverse)
    (hsame : ∀ line, 1 ≤ line → line ≤ latest.lineno →
      scopeAt? others.reverse line = scopeAt? (latest :: earlier).reverse line) :
    (latest :: earlier).length ≤ others.length ∧
      (others.length = (latest :: earlier).length → (∀ other ∈ others, 1 ≤ other.lineno) →
        others = latest :: earlier) := by
  induction earlier generalizing latest others with
  | nil =>
      have hlatest := canonical_singleton_iff.mp hentries
      have hfirst := hsame 1 le_rfl hlatest.ge
      rw [scopeAt?_reverse_cons, if_pos hlatest.le] at hfirst
      obtain ⟨behind, entry, before, rfl, hscope, hle, -⟩ := exists_of_scopeAt?_reverse hfirst
      simp only [List.length_append, List.length_cons, List.length_nil]
      refine ⟨by omega, fun hlength hlines => ?_⟩
      obtain rfl := List.eq_nil_of_length_eq_zero (by omega : behind.length = 0)
      obtain rfl := List.eq_nil_of_length_eq_zero (by omega : before.length = 0)
      have hlineno : entry.lineno = latest.lineno :=
        hlatest ▸ le_antisymm hle (hlines entry List.mem_cons_self)
      rw [ScopeEntry.ext hscope hlineno]
      rfl
  | cons previous older ih =>
      obtain ⟨hrest, hprevious, hchange⟩ := canonical_cons_cons_iff.mp hentries
      have hpos := one_le_lineno_latest hrest
      have hlast := hsame latest.lineno (by omega) le_rfl
      rw [scopeAt?_reverse_cons, if_pos le_rfl] at hlast
      obtain ⟨behind, entry, before, rfl, hscope, hle, hbehind⟩ := exists_of_scopeAt?_reverse hlast
      -- One line above the latest entry the scope is still another one.
      have hge : latest.lineno ≤ entry.lineno := by
        by_contra hlt
        have habove := hsame (latest.lineno - 1) (by omega) (by omega)
        rw [scopeAt?_reverse_append fun other hother => by have := hbehind other hother; omega,
          scopeAt?_reverse_cons, if_pos (by omega), scopeAt?_reverse_cons, if_neg (by omega),
          scopeAt?_reverse_cons, if_pos (by omega), hscope] at habove
        exact hchange (Option.some.inj habove).symm
      have hbefore : ∀ line, 1 ≤ line → line ≤ previous.lineno →
          scopeAt? before.reverse line = scopeAt? (previous :: older).reverse line := by
        intro line hone hline
        have hboth := hsame line hone (by omega)
        rwa [scopeAt?_reverse_append fun other hother => by have := hbehind other hother; omega,
          scopeAt?_reverse_cons, if_neg (by omega), scopeAt?_reverse_cons, if_neg (by omega)]
          at hboth
      obtain ⟨hlength, hunique⟩ := ih hrest hbefore
      simp only [List.length_append, List.length_cons] at hlength ⊢
      refine ⟨by omega, fun heq hlines => ?_⟩
      obtain rfl := List.eq_nil_of_length_eq_zero (by omega : behind.length = 0)
      have htail := hunique (by simp at heq ⊢; omega)
        fun other hother => hlines other (List.mem_cons_of_mem _ hother)
      rw [ScopeEntry.ext hscope (le_antisymm hle hge), htail]
      rfl

/-- No list of entries says on all lines of a source what canonical entries say in fewer entries,
and no other one in as many that has none for a line above the first. -/
theorem Canonical.length_le {entries others : List ScopeEntry} (hentries : Canonical entries)
    (hsame : ∀ line, 1 ≤ line → scopeAt? others line = scopeAt? entries line) :
    entries.length ≤ others.length ∧
      (others.length = entries.length → (∀ other ∈ others, 1 ≤ other.lineno) →
        others = entries) := by
  obtain ⟨before, rfl⟩ := List.reverse_surjective entries
  obtain ⟨behind, rfl⟩ := List.reverse_surjective others
  cases before with
  | nil => cases hentries.first
  | cons latest earlier =>
      obtain ⟨hlength, hunique⟩ := length_le_of_scopeAt?_reverse_eq hentries
        fun line hline _ => hsame line hline
      rw [List.length_reverse, List.length_reverse]
      refine ⟨hlength, fun heq hlines => congrArg _ (hunique heq ?_)⟩
      intro other hother
      exact hlines other (List.mem_reverse.mpr hother)

theorem Canonical.one_le_lineno {entries : List ScopeEntry} (hentries : Canonical entries) :
    ∀ entry ∈ entries, 1 ≤ entry.lineno := by
  obtain ⟨hfirst, hrising, -⟩ := hentries
  cases entries with
  | nil => cases hfirst
  | cons first rest =>
      have hone : first.lineno = 1 := Option.some.inj hfirst
      intro entry hentry
      rcases List.mem_cons.mp hentry with rfl | hrest
      · exact hone.ge
      · exact hone.ge.trans ((List.pairwise_cons.mp hrising).1 entry hrest).le

/-- Canonical entries are known by what they say on the lines of a source. -/
theorem Canonical.eq_of_scopeAt?_eq {entries others : List ScopeEntry}
    (hentries : Canonical entries) (hothers : Canonical others)
    (hsame : ∀ line, 1 ≤ line → scopeAt? others line = scopeAt? entries line) :
    others = entries := by
  obtain ⟨hle, hunique⟩ := hentries.length_le hsame
  obtain ⟨hge, -⟩ := hothers.length_le fun line hline => (hsame line hline).symm
  exact hunique (le_antisymm hge hle) hothers.one_le_lineno

namespace Record

/-- Entries for one line put the last of their scopes in force there. -/
theorem scopeAt?_of_one_line {changes : List ScopeEntry} {lineno : Int}
    (hlines : ∀ change ∈ changes, change.lineno = lineno) (line : Int) :
    scopeAt? changes line =
      if lineno ≤ line then changes.getLast?.map ScopeEntry.scope else none := by
  obtain ⟨before, rfl⟩ := List.reverse_surjective changes
  cases before with
  | nil => simp [scopeAt?]
  | cons last before =>
      have hlast := hlines last (List.mem_reverse.mpr List.mem_cons_self)
      rw [scopeAt?_reverse_cons, hlast, List.getLast?_reverse, List.head?_cons, Option.map_some]
      split
      next => rfl
      next hline =>
        rw [scopeAt?, List.reverse_reverse, List.find?_eq_none.mpr, Option.map_none]
        intro entry hentry
        have hlineno := hlines entry (List.mem_reverse.mpr (List.mem_cons_of_mem _ hentry))
        rwa [hlineno, decide_eq_true_eq]

/-- Changes on one line that end with the scope of the latest entry come to nothing. -/
theorem addAll_eq_self {record : Record} {changes : List ScopeEntry} {lineno : Int}
    (hrecord : Canonical record.toList) (hlatest : record.latest.lineno ≤ lineno)
    (hlines : ∀ change ∈ changes, change.lineno = lineno)
    (hlast : ∀ change ∈ changes.getLast?, change.scope = record.latest.scope) :
    record.addAll changes = record := by
  have hsame : ∀ line, 1 ≤ line →
      scopeAt? (record.addAll changes).toList line = scopeAt? record.toList line := by
    intro line _
    rw [scopeAt?_addAll hrecord (fun change hchange => (hlines change hchange).symm ▸ hlatest)
      (List.pairwise_of_forall_mem_list fun change hchange next hnext =>
        ((hlines change hchange).trans (hlines next hnext).symm).le),
      scopeAt?_of_one_line hlines]
    split
    next hline =>
      cases hend : changes.getLast? with
      | none => rfl
      | some change =>
          rw [Option.map_some, Option.some_or, hlast change hend, toList, scopeAt?_reverse_cons,
            if_pos (hlatest.trans hline)]
    next => rfl
  have hentries := hrecord.eq_of_scopeAt?_eq (canonical_addAll hrecord changes) hsame
  obtain ⟨hlatest, hearlier⟩ := List.cons.inj (List.reverse_injective hentries)
  cases record
  exact congrArg₂ Record.mk hlatest hearlier

/-- A change makes of a record the one canonical record that puts the scope of the change in force
from its line on, or from the line of the latest entry on if that is further down, and says above
what the record said. So the lines above the latest entry keep their scopes, whatever the line of
the change. -/
theorem eq_toList_add_iff {record : Record} (hrecord : Canonical record.toList)
    (scope : Option String) (lineno : Int) :
    let added := (record.add scope lineno).toList
    (∀ entries, entries = added ↔ Canonical entries ∧ ∀ line, 1 ≤ line →
      scopeAt? entries line =
        if max lineno record.latest.lineno ≤ line then some scope
        else scopeAt? record.toList line) ∧
    ∀ line, line < record.latest.lineno →
      scopeAt? added line = scopeAt? record.toList line := by
  intro added
  have hadded := record.added_add scope lineno
  have hmeaning := hadded.scopeAt?_eq hrecord
  refine ⟨fun entries => ⟨?_, ?_⟩, fun line hline => ?_⟩
  · rintro rfl
    exact ⟨hadded.canonical hrecord, fun line _ => hmeaning line⟩
  · rintro ⟨hentries, hother⟩
    apply (hadded.canonical hrecord).eq_of_scopeAt?_eq hentries
    intro line hline
    rw [hother line hline, hmeaning line]
  · have habove : ¬ max lineno record.latest.lineno ≤ line := by omega
    rw [hmeaning line, if_neg habove]

/-- A change for a line above the source cancels the latest entry. -/
theorem eq_toList_add_iff_cancelled :
    let record : Record := ⟨⟨some "A", 4⟩, [⟨none, 1⟩]⟩
    Canonical record.toList ∧ (record.add none (-2)).toList = [⟨none, 1⟩] ∧
      scopeAt? (record.add none (-2)).toList 3 = scopeAt? record.toList 3 ∧
      ∀ entries, Canonical entries → (∀ line, 1 ≤ line → scopeAt? entries line =
        if max (-2) 4 ≤ line then some none else scopeAt? record.toList line) →
        entries = [⟨none, 1⟩] := by
  intro record
  have hrecord : Canonical record.toList := by
    refine canonical_cons_cons_iff.mpr ⟨canonical_singleton_iff.mpr rfl, by decide, by decide⟩
  obtain ⟨hunique, habove⟩ := eq_toList_add_iff hrecord none (-2)
  refine ⟨hrecord, by decide, habove 3 (by decide), ?_⟩
  intro entries hentries hmeaning
  exact (hunique entries).mpr ⟨hentries, hmeaning⟩

end Record

end SourceScan
