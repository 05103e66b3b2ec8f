import HostProvision.Cli.Colour
import HostProvision.Cli.LogFilter
import HostProvision.World

/-! # What the user sees

`Display.render` turns the record of a run into what appears on the two streams of the program. Text
for the output and octets for the diagnostics are passed on as they are; log messages become lines
among the diagnostics if the filter shows them. A line carries the labels of the spans around it
that the filter shows. Once log files are open, messages finer than the level of detail asked for on
the command line appear in none of the places. -/

namespace HostProvision

namespace Cli

/-- A span that is open. -/
structure OpenSpan where
  /-- The span. -/
  span : Span
  /-- Whether log messages inside it carry its label. -/
  isShown : Bool
  /-- How much detail it lets through for the messages inside it, if the filter is about it. -/
  detail? : Option Nat
  deriving DecidableEq, Repr

/-- What has appeared on the two streams, and what bears on the next log message. -/
structure Display where
  /-- The text on the output stream. -/
  output : List String := []
  /-- The octets on the diagnostic stream. -/
  diagnostics : List Bytes := []
  /-- The spans that are open, the innermost first. -/
  spans : List OpenSpan := []
  /-- The finest detail that is shown whatever the filter says. -/
  ceiling : Option Nat := none

namespace Display

/-- The style of a level. -/
def levelStyle : Level → TextStyle
  | .error => .red
  | .warn => .yellow
  | .info => .green
  | .debug => .blue
  | .trace => .purple

/-- A level, padded to the width of the longest. -/
def levelColumn (level : Level) : String :=
  (levelStyle level).paint
    (String.ofList (List.replicate (5 - level.name.length) ' ') ++ level.name)

/-- A field of a span in its label. -/
def fieldText (field : String × FieldValue) : String :=
  TextStyle.slanted.paint field.1 ++ TextStyle.faint.paint "=" ++ field.2.shown

/-- The label that log messages inside a span carry. -/
def spanLabel (span : Span) : String :=
  TextStyle.bold.paint span.name ++ TextStyle.bold.paint "\x7b" ++
    " ".intercalate (span.fields.map fieldText) ++ TextStyle.bold.paint "\x7d"

/-- The labels of the open spans before a log message. -/
def spanColumn (spans : List OpenSpan) : String :=
  match (spans.reverse.filter OpenSpan.isShown).map fun opened =>
    spanLabel opened.span ++ TextStyle.faint.paint ":" with
  | [] => ""
  | labels => String.join labels ++ " "

/-- A character of a log message. Characters that control a terminal are shown by their code. -/
def messageChar (c : Char) : List Char :=
  if c = '\x1b' ∨ c = '\x07' ∨ c = '\x08' ∨ c = '\x0c' ∨ c = '\x7f' then
    ['\\', 'x'] ++ (if c.toNat < 0x10 then ['0'] else []) ++ Text.hexDigits c.toNat
  else if 0x80 ≤ c.toNat ∧ c.toNat ≤ 0x9F then
    ['\\', 'u', '\x7b'] ++ Text.hexDigits c.toNat ++ ['\x7d']
  else [c]

/-- The words of a log message as its line shows them. -/
def messageText (message : String) : String :=
  String.ofList (message.toList.flatMap messageChar)

/-- The line of a log message. -/
def eventLine (spans : List OpenSpan) (event : Event) : String :=
  levelColumn event.level ++ " " ++ spanColumn spans ++ TextStyle.faint.paint event.source ++
    TextStyle.faint.paint ":" ++ " " ++ messageText event.message ++ "\n"

/-- How much detail the open spans let through. -/
def scopes (display : Display) : List Nat :=
  display.spans.filterMap OpenSpan.detail?

/-- Whether a log message is shown. -/
def showsEvent (filter : LogFilter) (display : Display) (event : Event) : Bool :=
  filter.shows display.scopes event.level event.source &&
    match display.ceiling with
    | some detail => event.level.detail ≤ detail
    | none => true

/-- A span as it is opened. -/
def opened (filter : LogFilter) (display : Display) (span : Span) : OpenSpan :=
  let isShown := filter.showsSpan display.scopes span
  ⟨span, isShown, if isShown then filter.spanDetail? span else none⟩

/-- Shows one notice. -/
def notice (filter : LogFilter) (display : Display) : Notice → Display
  | .event event =>
    if showsEvent filter display event then
      { display with
        diagnostics := display.diagnostics ++ [Utf8.encode (eventLine display.spans event)] }
    else display
  | .diagnostics octets => { display with diagnostics := display.diagnostics ++ [octets] }
  | .output text => { display with output := display.output ++ [text] }
  | .enter span => { display with spans := opened filter display span :: display.spans }
  | .leave => { display with spans := display.spans.drop 1 }

/-- Shows one entry of the record of a run. -/
def entry (filter : LogFilter) (detail : Nat) (display : Display) : Entry → Display
  | .told told => notice filter display told
  | .exchange (.openLogs _) .opened => { display with ceiling := some detail }
  | .exchange .. => display

/-- Shows the record of a run under a filter, where log files take messages up to a detail. -/
def render (filter : LogFilter) (detail : Nat) (entries : List Entry) : Display :=
  entries.foldl (entry filter detail) {}

/-- The text on the output stream. -/
def outputText (display : Display) : String :=
  String.join display.output

/-- The octets on the diagnostic stream. -/
def diagnosticOctets (display : Display) : Bytes :=
  display.diagnostics.flatten

example : messageText "a\tb\x1b[c\u0085" = "a\tb\\x1b[c\\u\x7b85\x7d" := by decide +kernel

end Display

end Cli

end HostProvision
