import Metering.Completion.Basic
import Metering.Event

/-!
Exporters: where periodic readers hand their reports. One keeps the reports in memory, one writes
them to the log, and one answers as a script says and counts the calls it gets.
-/

namespace Metering

/-- How a scripted exporter answers a call. -/
inductive Response where
  | code (outcome : Outcome)
  /-- It takes a while and then succeeds. -/
  | slow (duration : Span)
  /-- It ends the thread that calls it. -/
  | crash
  deriving DecidableEq, Repr

inductive ExporterKind where
  | memory
  | logging
  /-- Answers exports in turn, and with success when the list is used up. -/
  | scripted (exports : List Response) (flush shutdown : Response)
  deriving DecidableEq, Repr

structure Exporter where
  kind : ExporterKind
  preference : TemporalityPreference := default
  /-- What it asks for, per kind of instrument. It need not be that of a preference. -/
  temporality : TemporalityChoice := preference.temporality
  isShutdown : Bool := false
  /-- The reports kept, the first one first. -/
  reports : List Report := []
  exports : Nat := 0
  flushes : Nat := 0
  shutdowns : Nat := 0

namespace Exporter

/-- What the log says about a report: each metric, followed by its points. -/
def describe (report : Report) : List Event :=
  report.scopes.flatMap fun scope => scope.metrics.flatMap fun metric =>
    .metricLogged scope.scope.name metric :: metric.points.map (.pointLogged metric.name)

def accept (exporter : Exporter) (report : Report) : Exporter × Response × List Event :=
  let counted := { exporter with exports := exporter.exports + 1 }
  match exporter.kind with
  | .memory =>
    ({ counted with reports := counted.reports ++ [report] }, .code .succeeded, [])
  | .logging =>
    if exporter.isShutdown then (counted, .code (.failed (some .alreadyShutdown)), [])
    else (counted, .code .succeeded, describe report)
  | .scripted responses flush shutdown =>
    ({ counted with
        reports := counted.reports ++ [report]
        kind := .scripted responses.tail flush shutdown },
      responses.head?.getD (.code .succeeded), [])

def flush (exporter : Exporter) : Exporter × Response :=
  ({ exporter with flushes := exporter.flushes + 1 },
    match exporter.kind with
    | .scripted _ response _ => response
    | _ => .code .succeeded)

def shutdown (exporter : Exporter) : Exporter × Response :=
  ({ exporter with shutdowns := exporter.shutdowns + 1, isShutdown := true },
    match exporter.kind with
    | .scripted _ _ response => response
    | _ => .code .succeeded)

def clear (exporter : Exporter) : Exporter := { exporter with reports := [] }

open Text

def outline (exporter : Exporter) : String :=
  match exporter.kind with
  | .memory =>
    Outline.fields "InMemoryMetricExporter" [("temporality", exporter.preference.name)]
  | .logging => Outline.fields "LoggingMetricExporter" [
      ("temporality", exporter.preference.name),
      ("is_shutdown", Outline.bool exporter.isShutdown)]
  | .scripted _ _ _ => "Scripted"

end Exporter

end Metering
