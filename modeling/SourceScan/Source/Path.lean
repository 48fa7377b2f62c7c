import SourceScan.Text.Basic

/-! # Paths

A path is a root and the names below it. Empty names and single points are dropped when a path is
read; two points stay, since what they mean depends on the files.
-/

namespace SourceScan

/-- A path in its normal form. -/
structure Path where
  /-- Nothing for a relative path, and one slash or exactly two for an absolute one. -/
  root : String
  parts : List Text
deriving DecidableEq, Repr

namespace Path

def here : Text := ['.']

def parent : Text := ['.', '.']

def parse (path : Text) : Path where
  root := match path.takeWhile (· == '/') with
    | [] => ""
    | [_, _] => "//"
    | _ => "/"
  parts := (path.splitOnP (· == '/')).filter fun part => part != [] && part != here

/-- Writes a path; a relative one without names is a single point. -/
def display (path : Path) : String :=
  if path.root = "" ∧ path.parts = [] then String.ofList here
  else path.root ++ "/".intercalate (path.parts.map String.ofList)

def isAbsolute (path : Path) : Bool := path.root != ""

end Path

end SourceScan
