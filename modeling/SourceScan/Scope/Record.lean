/-! # Scope records

A record tells which scope is in force from which line on. It is kept short: neighbouring entries
differ in scope, each line has at most one entry, and line numbers rise.
-/

namespace SourceScan

/-- The scope in force from a line on; no scope at the top level. -/
structure ScopeEntry where
  scope : Option String
  lineno : Int
deriving DecidableEq, Repr

/-- A record that is never empty: the latest entry, and the earlier ones from the latest back. -/
structure Record where
  latest : ScopeEntry
  earlier : List ScopeEntry
deriving DecidableEq, Repr

namespace Record

/-- The record of a source before anything is known of it. -/
def start : Record := ⟨⟨none, 1⟩, []⟩

/-- All entries, oldest first. -/
def toList (record : Record) : List ScopeEntry := (record.latest :: record.earlier).reverse

/-- The record after a change of scope on a line. The scope already in force adds nothing. A change
on the line of the latest entry, or before it, falls on that line; if it brings back the scope
before that entry, the entry goes. -/
def add (record : Record) (scope : Option String) (lineno : Int) : Record :=
  if scope = record.latest.scope then record
  else if record.latest.lineno < lineno then
    ⟨⟨scope, lineno⟩, record.latest :: record.earlier⟩
  else
    match record.earlier with
    | [] => ⟨⟨scope, record.latest.lineno⟩, []⟩
    | previous :: older =>
        if previous.scope = scope then ⟨previous, older⟩
        else ⟨⟨scope, record.latest.lineno⟩, previous :: older⟩

end Record

end SourceScan
