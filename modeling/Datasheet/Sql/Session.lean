import Datasheet.Log.Event
import Datasheet.Sheet
import Datasheet.Sql.Builder

/-! # Sessions

A session owns at most one connection to an SQL engine and uses it for all of its queries. It connects when the
first query needs it. When it finds its connection closed it connects once more, and if that fails the query
fails: there is no other retry.
-/

namespace Datasheet.Sql

open Log

/-- An SQL engine in a world `ω`, with connections of type `κ`. -/
structure Backend (ω κ : Type) where
  connect : ω → Except ExecutionFault κ × ω
  isClosed : ω → κ → Bool
  /-- Answers a text; the connection may change by it. -/
  query : ω → κ → String → Except Error Sheet × ω × κ
  close : ω → κ → ω × κ
  connected : List Event
  answered : Sheet → List Event

/-- The world, the connection that the session holds, and what has been reported. -/
structure Session (ω κ : Type) where
  world : ω
  connection : Option κ := none
  journal : List Event := []

namespace Session

variable {ω κ : Type}

def report (s : Session ω κ) (events : List Event) : Session ω κ := { s with journal := s.journal ++ events }

def isConnected (b : Backend ω κ) (s : Session ω κ) : Bool :=
  s.connection.any fun connection => !b.isClosed s.world connection

/-- Gives the connection up, so that the next query connects again. -/
def close (b : Backend ω κ) (s : Session ω κ) : Session ω κ :=
  match s.connection with
  | none => s
  | some connection => { s with world := (b.close s.world connection).1, connection := none }

/-- Connects once. A connection that is closed from the start is not kept. -/
def connect (b : Backend ω κ) (s : Session ω κ) : Except Error κ × Session ω κ :=
  match b.connect s.world with
  | (.error fault, world) => (.error (.execution (.couldNotConnect fault)), { s with world := world })
  | (.ok connection, world) =>
      let s := { s with world := world, journal := s.journal ++ b.connected }
      if b.isClosed world connection then (.error (.execution .closedFromStart), s)
      else (.ok connection, { s with connection := some connection })

/-- The connection for the next query: the one held if it is open, and otherwise a new one. -/
def ensureOpen (b : Backend ω κ) (s : Session ω κ) : Except Error κ × Session ω κ :=
  match s.connection with
  | none => s.connect b
  | some connection =>
      if b.isClosed s.world connection then (s.report [.connectionLost]).connect b
      else (.ok connection, s)

def execute (b : Backend ω κ) (s : Session ω κ) (sql : String) : Except Error Sheet × Session ω κ :=
  match s.ensureOpen b with
  | (.error e, s) => (.error e, s)
  | (.ok connection, s) =>
      let s := s.report [.queryExecuted sql]
      let (answer, world, connection) := b.query s.world connection sql
      let s := { s with world := world, connection := some connection }
      match answer with
      | .ok sheet => (.ok sheet, s.report (b.answered sheet))
      | .error e => (.error e, s)

/-- Answers a request. A request without a query is refused before anything is connected. -/
def ask (b : Backend ω κ) (s : Session ω κ) (builder : QueryBuilder) (request : Request) :
    Except Error Sheet × Session ω κ :=
  match builder.text request with
  | .error fault => (.error (.generation fault), s)
  | .ok sql => (s.report [.queryGenerated sql]).execute b sql

/-- The single value of an aggregate; none if there is nothing to aggregate. -/
def aggregate (b : Backend ω κ) (s : Session ω κ) (builder : QueryBuilder) (field function : String) :
    Except Error (Option String) × Session ω κ :=
  match s.ask b builder (.aggregate field function) with
  | (.error e, s) => (.error e, s)
  | (.ok sheet, s) => (.ok (((sheet.rows.head?).bind (·.head?)).filter (!·.isEmpty)), s)

/-- All values of a field that occur most (or least) often. The first query finds how often that is, and the
    second one lists the values that occur so often. -/
def frequent (b : Backend ω κ) (s : Session ω κ) (builder : QueryBuilder) (field : String)
    (order : FrequencyOrder) : Except Error Sheet × Session ω κ :=
  match s.ask b builder (.frequency field order) with
  | (.error e, s) => (.error e, s)
  | (.ok first, s) =>
      match first.rows.head? with
      | none => (.ok (Sheet.blank first.header), s)
      | some row =>
          let text := row.getD 1 ""
          match readCount? text.toList with
          | none => (.error (.execution (.unexpectedFrequency text)), s)
          | some count =>
              (s.report [.frequencyFound field count]).ask b builder (.withFrequency field count)

end Session

end Datasheet.Sql
