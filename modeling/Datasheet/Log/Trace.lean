import Datasheet.Log.Event
import Datasheet.Schema
import Datasheet.Selection

/-! # Traces

The events that a piece of work reports, in the order in which it reports them. Work that fails reports what
it did before it failed.
-/

namespace Datasheet

open Log

/-- A dataset that has been read from text reports its size. -/
def Dataset.importTrace (d : Dataset) : List Event :=
  [.imported d.name d.sheet.columnCount d.sheet.rowCount]

def Dataset.removalTrace (d : Dataset) (column : String) : List Event := [.columnRemoved column d.name]

namespace Schema

/-- Each column is reported once it has been profiled, and the schema once it is complete. -/
def inferenceTraceFrom (settings : SchemaSettings) (lexicon : Lexicon) (d : Dataset) :
    Nat → List String → Schema → List Event
  | _, [], s => [.schemaInferred s.name s.fields.length]
  | index, column :: columns, s =>
      match inferField settings lexicon d index column with
      | .error _ => []
      | .ok f =>
          .columnProfiled column f.kind f.distinct ::
            match s.add f with
            | .error _ => []
            | .ok s' => inferenceTraceFrom settings lexicon d (index + 1) columns s'

def inferenceTrace (settings : SchemaSettings) (lexicon : Lexicon) (d : Dataset) : List Event :=
  inferenceTraceFrom settings lexicon d 0 d.sheet.header { name := d.name }

end Schema

namespace Selection

/-- Each filter that has been applied reports how many rows are left. -/
def narrowingTrace (ignoreCase : Bool) : Sheet → List Filter → List Event
  | _, [] => []
  | sheet, f :: filters =>
      match narrow ignoreCase sheet f with
      | .error _ => []
      | .ok narrowed => .rowsNarrowed f narrowed.rowCount :: narrowingTrace ignoreCase narrowed filters

def trace (s : Selection) (d : Dataset) : List Event :=
  .selectionStarted d.name d.sheet.rowCount s.filters.length s.columns.length
    :: narrowingTrace s.ignoreCase d.sheet s.filters

end Selection

end Datasheet
