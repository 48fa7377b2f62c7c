import SourceScan.CommentStyle.Basic

/-! # Comment styles of known languages -/

namespace SourceScan

def Marker.slashes : Marker := .ofChars '/' ['/']

def Marker.hash : Marker := .ofChars '#' []

def BlockPair.starred : BlockPair := ⟨.ofChars '/' ['*'], .ofChars '*' ['/']⟩

def BlockPair.doublyStarred : BlockPair := ⟨.ofChars '/' ['*', '*'], .ofChars '*' ['/']⟩

namespace CommentStyle

/-- Blocks between starred slashes; two stars open documentation. -/
def c : CommentStyle where
  blockPairs := [.starred]
  docBlockPairs := [.doublyStarred]

/-- Lines after two slashes and blocks between starred slashes; a third slash or a second star
makes documentation of them. -/
def cFamily : CommentStyle where
  lineMarkers := [.slashes]
  blockPairs := [.starred]
  docLineMarkers := [.ofChars '/' ['/', '/']]
  docBlockPairs := [.doublyStarred]

/-- Lines after a hash; two hashes open documentation. -/
def hashes : CommentStyle where
  lineMarkers := [.hash]
  docLineMarkers := [.ofChars '#' ['#']]

/-- Lines after a hash. -/
def shell : CommentStyle where
  lineMarkers := [.hash]

/-- Lines after two slashes, and blocks in braces or in starred parentheses. -/
def pascal : CommentStyle where
  lineMarkers := [.slashes]
  blockPairs := [⟨.ofChars '{' [], .ofChars '}' []⟩, ⟨.ofChars '(' ['*'], .ofChars '*' [')']⟩]

/-- Lines after two dashes, and blocks between starred slashes. -/
def sql : CommentStyle where
  lineMarkers := [.ofChars '-' ['-']]
  blockPairs := [.starred]

end CommentStyle

end SourceScan
