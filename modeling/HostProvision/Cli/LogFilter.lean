import HostProvision.Cli.LogDirective

/-! # Filtering log messages

A log filter is a list of directives. A log message is shown if the most specific of the directives
about its source shows its level, or if it stands inside a span that a directive is about and that
lets the level through. A message that no directive is about is not shown. -/

namespace HostProvision

namespace Cli

/-- A list of directives. -/
abbrev LogFilter : Type :=
  List LogDirective

namespace LogFilter

/-- The directive that decides about a source, out of those that pass a test. -/
def deciding? (filter : LogFilter) (test : LogDirective → Bool) : Option LogDirective :=
  (filter.filter fun directive => directive.isGeneral && test directive).foldl
    (fun best directive =>
      match best with
      | some earlier => if earlier.outranks directive then some earlier else some directive
      | none => some directive)
    none

/-- Whether the deciding directive, out of those that pass a test, shows a level. -/
def showsWhere (filter : LogFilter) (test : LogDirective → Bool) (level : Level) : Bool :=
  match filter.deciding? test with
  | some directive => level.detail ≤ directive.detail
  | none => false

/-- The finest detail that any message is shown with. A directive that compares values could show
everything. -/
def finest (filter : LogFilter) : Nat :=
  if filter.any LogDirective.comparesValue then Level.trace.detail
  else (filter.map LogDirective.detail).foldl max 0

/-- The directives about spans. Of those about the same only the last one counts. -/
def spanDirectives (filter : LogFilter) : List LogDirective :=
  (filter.filter LogDirective.isScoped).foldr
    (fun directive later =>
      if later.any directive.sameSubject then later else directive :: later)
    []

/-- How much detail a span lets through for the messages inside it, if directives are about it. -/
def spanDetail? (filter : LogFilter) (span : Span) : Option Nat :=
  match filter.spanDirectives.filter fun directive => directive.concernsSpan span with
  | [] => none
  | directives =>
    some (((directives.filter fun directive => directive.acceptsValues span).map
      LogDirective.detail).foldl max 0)

/-- Whether messages of a level from a source are shown inside spans that let some detail through. -/
def shows (filter : LogFilter) (scopes : List Nat) (level : Level) (source : String) : Bool :=
  level.detail ≤ filter.finest &&
    (filter.showsWhere (fun directive => directive.concernsMessages source) level ||
      scopes.any fun detail => level.detail ≤ detail)

/-- Whether a span is shown inside spans that let some detail through. A span has the level of
general information. -/
def showsSpan (filter : LogFilter) (scopes : List Nat) (span : Span) : Bool :=
  Level.info.detail ≤ filter.finest &&
    ((filter.spanDetail? span).isSome ||
      filter.showsWhere (fun directive => directive.concernsSource span.source) .info ||
      scopes.any fun detail => Level.info.detail ≤ detail)

/-- The detail that is shown by default, by how often more was asked for. -/
def defaultDetail (verbosity : Nat) : Nat :=
  match verbosity with
  | 0 => Level.info.detail
  | 1 => Level.debug.detail
  | _ => Level.trace.detail

/-- The directives of a setting, as texts. -/
def directiveTexts (setting : String) : List String :=
  ((setting.toList.splitOn ',').filter fun text => !text.isEmpty).map String.ofList

/-- The filter that a setting asks for. Without any usable directive the default detail of all
sources is shown. -/
def ofSetting (setting : String) (verbosity : Nat) : LogFilter :=
  match (directiveTexts setting).filterMap fun text => (LogDirective.parse text).toOption with
  | [] => [{ detail := defaultDetail verbosity }]
  | directives => directives

/-- The warnings about the directives of a setting that cannot be used. -/
def warnings (setting : String) : List String :=
  (directiveTexts setting).filterMap fun text =>
    match LogDirective.parse text with
    | .ok _ => none
    | .error fault => some ("ignoring \x60" ++ text ++ "\x60: " ++ fault.message)

/-- A filter of one directive for all sources shows what is not finer than its detail. -/
@[simp] theorem shows_singleton (detail : Nat) (level : Level) (source : String) :
    shows [{ detail }] [] level source = decide (level.detail ≤ detail) := by
  simp [shows, showsWhere, finest, deciding?, LogDirective.concernsMessages,
    LogDirective.concernsSource, LogDirective.comparesValue]

example : shows (ofSetting "info,brewup_core=off" 0) [] .info "brewup_core::ensure" = false := by
  decide +kernel
example : shows (ofSetting "brewup=debug" 0) [] .debug "brewup_core::brew" = true := by
  decide +kernel
example : shows (ofSetting "," 1) [] .debug "brewup" = true := by decide +kernel
example : spanDetail? (ofSetting "[run]=debug" 0) (.provisioning default) = some 4 := by
  decide +kernel

end LogFilter

end Cli

end HostProvision
