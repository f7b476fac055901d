import Datasheet.Sql.Session

/-! # Scripted engines

An engine whose connections and answers are written down in advance, to rehearse a session: connecting may fail
or give a connection that is closed already, and all connections hang up together.
-/

namespace Datasheet.Sql

/-- A query's scripted answer. -/
inductive Reply where
  | fails (message : String)
  | answers (header : List String) (rows : List (List String))
  deriving DecidableEq, Repr

/-- What happens when a session connects. -/
inductive Opening where
  | fails (message : String)
  | opens (closed : Bool) (replies : List Reply)
  deriving DecidableEq, Repr

/-- The world of a scripted engine. -/
structure Script where
  openings : List Opening
  /-- How often the session has tried to connect. -/
  attempts : Nat := 0
  closed : Bool := false
  /-- The texts that connections have received, in order. -/
  received : List String := []
  deriving DecidableEq, Repr

namespace Script

/-- Plays the next opening. After the last one the engine is down. -/
def connect (s : Script) : Except ExecutionFault (List Reply) × Script :=
  let tried := { s with attempts := s.attempts + 1, openings := s.openings.tail }
  match s.openings with
  | [] => (.error (.reported "engine down"), tried)
  | .fails message :: _ => (.error (.reported message), tried)
  | .opens closed replies :: _ => (.ok replies, { tried with closed := closed })

/-- Plays the next reply of a connection. After the last one every text is rejected. -/
def query (s : Script) (replies : List Reply) (sql : String) : Except Error Sheet × Script × List Reply :=
  let heard := { s with received := s.received ++ [sql] }
  match replies with
  | [] => (.error (.execution (.reported ("rejected: " ++ sql))), heard, [])
  | .fails message :: rest => (.error (.execution (.reported message)), heard, rest)
  | .answers header rows :: rest => (Sheet.ofRows header rows, heard, rest)

def hangUp (s : Script) : Script := { s with closed := true }

def backend : Backend Script (List Reply) where
  connect := connect
  isClosed s _ := s.closed
  query := query
  close s replies := (s.hangUp, replies)
  connected := []
  answered _ := []

end Script

end Datasheet.Sql
