import SchemaMigration.Cli.Project
import SchemaMigration.Engine.Report

/-! # Commands that look at a project

Status reports, as tables or as JSON, and the check of completed migrations against their
definitions.
-/

namespace SchemaMigration

namespace StatusEntry

/-- What is remarkable about a migration. -/
def notes (e : StatusEntry) : List String :=
  (if e.drifted then ["changed since applied"] else []) ++
    if e.reversible then [] else ["irreversible"]

def cells (e : StatusEntry) : List String :=
  [e.id.text, e.state.text, Time.secondsTextOrDash e.finishedAt, ", ".intercalate e.notes]

/-- A failed or in-progress entry in full. -/
def detailLines (e : StatusEntry) : List String := [
  e.id.text ++ " (" ++ e.state.text ++ (if e.orphaned then ", no matching migration" else "") ++ ")",
  "  started:  " ++ Time.secondsTextOrDash e.startedAt,
  "  finished: " ++ Time.secondsTextOrDash e.finishedAt,
  "  error:    " ++ e.failureReason.getD "interrupted before completion"]

end StatusEntry

def StatusCounts.line (c : StatusCounts) : String :=
  Nat.repr c.total ++ " total: " ++ Nat.repr c.completed ++ " completed, " ++
    Nat.repr c.pending ++ " pending, " ++ Nat.repr c.failed ++ " failed, " ++
    Nat.repr c.inProgress ++ " in progress"

/-- What to do about failed and in-progress migrations. -/
def dirtyAdvice : String :=
  "Dirty state: run `strata status --show-failed`, then `strata retry <id>` or " ++
    "`strata mark-completed <id>`."

namespace StatusReport

def failedLines (r : StatusReport) : List String :=
  if r.failed.isEmpty then ["No failed or in-progress migrations"]
  else r.failed.flatMap StatusEntry.detailLines

def lines (r : StatusReport) (migrationsPath trackingTable : String) : List String :=
  let entries :=
    if r.entries.isEmpty then ["No migrations found in " ++ migrationsPath]
    else Cli.tableLines ["ID", "STATE", "FINISHED", "NOTES"] (r.entries.map StatusEntry.cells)
  let orphaned :=
    if r.orphaned.isEmpty then []
    else ["", "Records in " ++ trackingTable ++ " with no matching migration:"] ++
      r.orphaned.map fun record => "  " ++ record.id.text ++ " (" ++ record.status.text ++ ")"
  entries ++ orphaned ++ ["", r.counts.line] ++ if r.isDirty then [dirtyAdvice] else []

end StatusReport

/-- The cells of a mismatch, with the beginnings of the checksums. -/
def ChecksumMismatch.cells (d : ChecksumMismatch) : List String :=
  let short (checksum : String) : String := String.ofList (checksum.toList.take 12)
  [d.id.text, short d.recorded, short d.current]

/-- Mismatches for people to read, with a table of `ChecksumMismatch.cells`. -/
def mismatchLines (mismatches : List ChecksumMismatch) : List String :=
  if mismatches.isEmpty then ["All applied migrations match their definitions"]
  else
    Cli.tableLines ["ID", "RECORDED", "CURRENT"] (mismatches.map ChecksumMismatch.cells) ++
      ["", Cli.plural mismatches.length "migration" ++ " changed since applied"]

namespace Cli.Project

/-- Reports the state of every migration, or of those that are failed or in progress. -/
def status (p : Project) (showFailed : Bool) (output : OutputFormat) : Command Unit := do
  let report ← Command.engine p.runner.status
  match output, showFailed with
  | .json, true => Command.line (entriesToJson report.failed).pretty
  | .json, false => Command.line report.toJson.pretty
  | .table, true => Command.lines report.failedLines
  | .table, false => Command.lines (report.lines p.migrationsPath p.trackingTable)

/-- Checks completed migrations against their definitions. -/
def validate (p : Project) : Command Unit := do
  let mismatches ← Command.engine p.runner.validate
  Command.lines (mismatchLines mismatches)
  if !mismatches.isEmpty then throw (.exit driftCode)

end Cli.Project

end SchemaMigration
