import ReviewContext.Block.Window

/-!
# Size ceilings of blocks

A span whose code has too many characters is cut, and a marker tells the length before and after.
A span with too many lines is shown by windows, unless even these have too many characters. Any
other span is shown as it is.
-/

namespace ReviewContext

open ReviewContext.Text

structure Ceilings where
  maxChars : Int
  maxLines : Int
  radius : Int
  family : Family
  deriving DecidableEq, Repr

/-- Cuts a text so that, with a marker behind it, it has at most the given number of characters. A
ceiling too low for the marker leaves the head of the marker alone. -/
def truncateChars (text : String) (maxChars : Int) (family : Family) : String :=
  let marker (kept : Int) := Marker.comment family (Marker.truncated text.length kept)
  let room := maxChars - (marker maxChars).length - 1
  if room ≤ 0 then sliceTo (marker 0) maxChars
  else sliceTo text room ++ "\n" ++ marker room

namespace Span

/-- The code of the span as it stands in the source. -/
def verbatim (span : Span) (lines : List String) : String :=
  joinRows (slice lines (span.first - 1) span.last)

def lineTotal (span : Span) : Int :=
  span.last - span.first + 1

def block (span : Span) (code : String) (truncation : Truncation) : Block :=
  ⟨code, span.first, span.last, span.kind, span.name, truncation⟩

/-- The block of a span within the ceilings. -/
def govern (span : Span) (lines : List String) (ceilings : Ceilings) : Block :=
  let code := span.verbatim lines
  let cut := span.block (truncateChars code ceilings.maxChars ceilings.family) .chars
  if ceilings.maxChars < code.length then cut
  else if ceilings.maxLines < span.lineTotal then
    let windowed := span.windowed lines ceilings.radius ceilings.maxLines ceilings.family
    if ceilings.maxChars < windowed.length then cut else span.block windowed .window
  else span.block code .none

/-- Whether governing the span calls for windows. -/
def needsWindows (span : Span) (lines : List String) (ceilings : Ceilings) : Bool :=
  (span.verbatim lines).length ≤ ceilings.maxChars && ceilings.maxLines < span.lineTotal

/-- Windows of the span, unless a marker holds a number that cannot be written. -/
def tryWindowed (span : Span) (lines : List String) (radius maxLines : Int) (family : Family) :
    Except NumeralFault String :=
  if span.hasWritableGaps lines radius then .ok (span.windowed lines radius maxLines family)
  else .error .tooLongToWrite

/-- The block of a span, unless a marker in it holds a number that cannot be written. -/
def tryGovern (span : Span) (lines : List String) (ceilings : Ceilings) :
    Except NumeralFault Block :=
  if span.needsWindows lines ceilings && !span.hasWritableGaps lines ceilings.radius then
    .error .tooLongToWrite
  else .ok (span.govern lines ceilings)

end Span

end ReviewContext
