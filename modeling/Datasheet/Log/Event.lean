import Datasheet.Filter.Basic
import Datasheet.Log.Line

/-! # Events

What the library reports of its work: data that arrives, schemas, queries in memory, and the traffic with an
SQL engine. An event becomes a log entry, which reaches the ring by way of its line.
-/

namespace Datasheet.Log

/-- Something worth a log entry. -/
inductive Event where
  | imported (dataset : String) (columns rows : Nat)
  | columnRemoved (column dataset : String)
  | fieldDeleted (field : String)
  | fieldRecovered (field : String)
  | columnProfiled (column : String) (kind : Kind) (distinct : Nat)
  | schemaInferred (schema : String) (fields : Nat)
  | selectionStarted (dataset : String) (rows filters fields : Nat)
  | rowsNarrowed (filter : Filter) (rows : Nat)
  | queryGenerated (sql : String)
  | queryExecuted (sql : String)
  | connectionLost
  | frequencyFound (field : String) (count : Nat)
  | tableLoaded (rows : Nat) (table : String)
  | rowsReturned (rows : Nat)
  deriving DecidableEq, Repr

namespace Event

def level : Event → Level
  | imported .. => .info
  | schemaInferred .. => .info
  | queryExecuted .. => .info
  | tableLoaded .. => .info
  | connectionLost => .warn
  | _ => .debug

def target : Event → String
  | imported .. => "import"
  | columnRemoved .. => "import"
  | fieldDeleted .. => "schema"
  | fieldRecovered .. => "schema"
  | columnProfiled .. => "schema"
  | schemaInferred .. => "schema"
  | selectionStarted .. => "query"
  | rowsNarrowed .. => "query"
  | _ => "sql"

def message : Event → String
  | imported dataset columns rows =>
      "Imported '" ++ dataset ++ "' with " ++ columns.repr ++ " columns and " ++ rows.repr ++ " rows"
  | columnRemoved column dataset => "Removed column '" ++ column ++ "' from '" ++ dataset ++ "'"
  | fieldDeleted field => "Deleted field '" ++ field ++ "'"
  | fieldRecovered field => "Recovered field '" ++ field ++ "'"
  | columnProfiled column kind distinct =>
      "Column '" ++ column ++ "': " ++ kind.name ++ ", " ++ distinct.repr ++ " distinct values"
  | schemaInferred schema fields =>
      "Inferred schema '" ++ schema ++ "' with " ++ fields.repr ++ " fields"
  | selectionStarted dataset rows filters fields =>
      "Executing statement on '" ++ dataset ++ "' (" ++ rows.repr ++ " rows, " ++ filters.repr
        ++ " filters, " ++ fields.repr ++ " fields)"
  | rowsNarrowed filter rows => "After " ++ filter.text ++ ": " ++ rows.repr ++ " rows remain"
  | queryGenerated sql => "Generated: " ++ sql
  | queryExecuted sql => "Executing: " ++ sql
  | connectionLost => "Connection closed, reconnecting once"
  | frequencyFound field count => "Extreme frequency for '" ++ field ++ "' is " ++ count.repr
  | tableLoaded rows table => "Loaded " ++ rows.repr ++ " rows into table " ++ table
  | rowsReturned rows => "Query returned " ++ rows.repr ++ " rows"

def entry (e : Event) : Entry := ⟨e.level, e.target, e.message⟩

end Event

/-- The ring after events, each written as a line. -/
def Ring.writeEvents (r : Ring) (events : List Event) : Ring :=
  events.foldl (fun r e => r.write e.entry.line) r

end Datasheet.Log
