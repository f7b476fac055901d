import Datasheet.Dataset
import Datasheet.Settings.Basic
import Datasheet.Sql.Engine.Evaluation
import Datasheet.Sql.Reader
import Datasheet.Sql.Session

/-! # The SQL engine

The engine holds a dataset as a table of texts. Every connection makes the table anew, and an open connection
answers the text of any query that the library makes. The engine's own rules decide which names can be used.
-/

namespace Datasheet.Sql

/-- A dataset, the name of its table, and what the engine's clock tells. -/
structure Engine where
  dataset : Dataset
  tableName : String
  clock : Clock := default

namespace Engine

/-- The engine of a dataset; the table has the dataset's name. -/
def ofDataset (d : Dataset) (clock : Clock := default) : Engine := ⟨d, d.name, clock⟩

/-- Takes the name of the table from the settings, if they tell it. -/
def configure (e : Engine) (settings : SqlSettings) : Engine :=
  { e with tableName := settings.tableName.getD e.tableName }

def readName? (name : String) : Option Name :=
  match lex (Token.ofName name).spelling with
  | some [t] => Name.ofToken? t
  | _ => none

/-- The engine keeps names with this start for itself. -/
def isReservedTable (name : String) : Bool := (upperWord name).toList.take 7 == "SQLITE_".toList

/-- The first column whose name another column before it has. -/
def duplicate? : List String → List String → Option String
  | _, [] => none
  | seen, c :: columns => if seen.any (sameName c) then some c else duplicate? (c :: seen) columns

/-- Why the table cannot be made. The table cannot be named by the word that asks whether it is there. -/
def fault? (e : Engine) : Option EngineFault :=
  let columns := e.dataset.sheet.header
  if (readName? e.tableName).isNone || isKeyword "IF" e.tableName then some .unreadable
  else if columns.any fun c => (readName? c).isNone then some .unreadable
  else if isReservedTable e.tableName then some (.reservedTable e.tableName)
  else if columnLimit < columns.length then some .tooManyColumns
  else (duplicate? [] columns).map .duplicateColumn

def table (e : Engine) : Table where
  name := e.tableName
  columns := e.dataset.sheet.header
  rows := e.dataset.sheet.rows.zipIdx.map fun (cells, index) => ⟨index + 1, cells⟩
  clock := e.clock

/-- Opens a connection; none without columns, and none if the table cannot be made. -/
def connect (e : Engine) : Except ExecutionFault Bool :=
  if e.dataset.sheet.header.isEmpty then .error (.noColumns e.dataset.name)
  else
    match e.fault? with
    | some fault => .error (.refused fault)
    | none => .ok true

def answer (e : Engine) (sql : String) : Except Error Sheet :=
  match Query.ofText? sql with
  | some q => q.run e.table
  | none => .error (.execution (.refused .unreadable))

/-- The answer of a connection, which has to be open. -/
def query (e : Engine) (isOpen : Bool) (sql : String) : Except Error Sheet :=
  if isOpen then e.answer sql else .error (.execution .closed)

/-- The engine as a session sees it. A connection is open or it is not. -/
def backend (e : Engine) : Backend Unit Bool where
  connect world := (e.connect, world)
  isClosed _ isOpen := !isOpen
  query world isOpen sql := (e.query isOpen sql, world, isOpen)
  close world _ := (world, false)
  connected := [.tableLoaded e.dataset.sheet.rowCount (identifier e.tableName)]
  answered sheet := [.rowsReturned sheet.rowCount]

end Engine

end Datasheet.Sql
