import Datasheet.Sheet
import Datasheet.Sql.Engine.Aggregation
import Datasheet.Sql.Engine.Pattern
import Datasheet.Sql.Engine.Table

/-! # Evaluating queries

The answer of a query over a table. Rows are tested in the order of the table and conditions in the order of the
query; a row is kept if every condition holds, and the first condition that does not hold ends the test of a
row. A test with a missing value does not hold.
-/

namespace Datasheet.Sql

def Comparison.accepts : Comparison → Ordering → Bool
  | equal, o => o == .eq
  | notEqual, o => o != .eq
  | less, o => o == .lt
  | lessOrEqual, o => o != .gt
  | greater, o => o == .gt
  | greaterOrEqual, o => o != .lt

def Comparison.holds (c : Comparison) (v w : Value) : Bool := (v.compare? w).any c.accepts

/-- The longest pattern that the engine matches, in bytes. -/
def patternLimit : Nat := 50000

/-- A pattern matches a text, if both are there. -/
def matchPattern (matcher : String → String → Bool) (pattern subject : Value) :
    Except EngineFault (Option Bool) :=
  match pattern.text?, subject.text? with
  | some p, some s => if patternLimit < p.utf8ByteSize then .error .patternTooLong else .ok (some (matcher p s))
  | _, _ => .ok none

namespace Test

def holds (test : Test) (t : Table) (row : Row) : Except EngineFault Bool :=
  match test with
  | compare left comparison right =>
      let v := left.value t row
      let w := right.value t row
      .ok (comparison.holds (if right.isNumeric t then v.besideNumber else v)
        (if left.isNumeric t then w.besideNumber else w))
  | like subject pattern => do
      let holds ← matchPattern likeHolds (pattern.value t row) (subject.value t row)
      .ok (holds == some true)
  | glob subject negated pattern => do
      let holds ← matchPattern globHolds (.text pattern) (subject.value t row)
      .ok (holds == some !negated)

def names : Test → List Name
  | compare left _ right => left.names ++ right.names
  | like subject pattern => subject.names ++ pattern.names
  | glob subject _ _ => subject.names

end Test

/-- A condition that is ready to test rows: the value of an aggregate has been computed. -/
inductive Check where
  | test (t : Test)
  | equals (value : Scalar) (wanted : Except EngineFault Value)

namespace Check

def holds (check : Check) (t : Table) (row : Row) : Except EngineFault Bool :=
  match check with
  | .test single => single.holds t row
  | .equals value wanted => do
      let w ← wanted
      .ok (Comparison.equal.holds (value.value t row) w)

def allHold (t : Table) (row : Row) : List Check → Except EngineFault Bool
  | [] => .ok true
  | check :: checks => do
      if ← check.holds t row then allHold t row checks else .ok false

/-- The rows of which all conditions hold, and no more of them than are needed. -/
def scan (t : Table) (checks : List Check) : Option Nat → List Row → Except EngineFault (List Row)
  | some 0, _ => .ok []
  | _, [] => .ok []
  | needed, row :: rows => do
      if ← allHold t row checks then
        let kept ← scan t checks (needed.map (· - 1)) rows
        .ok (row :: kept)
      else scan t checks needed rows

end Check

def aggregateOver (function : Aggregate) (value : Scalar) (t : Table) (rows : List Row) :
    Except EngineFault Value :=
  match function.answer? (rows.map (value.value t)) with
  | some v => .ok v
  | none => .error .integerOverflow

def Extreme.answer (e : Extreme) (t : Table) : Except EngineFault Value := do
  let rows ← Check.scan t (e.tests.map .test) none t.rows
  aggregateOver e.function e.value t rows

/-- A condition, ready to test the rows of a table. -/
def Condition.check (t : Table) : Condition → Check
  | .test single => .test single
  | .isExtreme value extreme => .equals value (extreme.answer t)

def Condition.names : Condition → List Name
  | test t => t.names
  | isExtreme value extreme => value.names ++ extreme.value.names ++ extreme.tests.flatMap Test.names

def Condition.tables : Condition → List Name
  | test _ => []
  | isExtreme _ extreme => [extreme.table]

def firstOccurrences : List Value → List Value → List Value
  | _, [] => []
  | seen, v :: values =>
      if seen.contains v then firstOccurrences seen values else v :: firstOccurrences (v :: seen) values

/-- A value does not come after another one. The missing value comes first. -/
def Value.isAtMost (v w : Value) : Bool :=
  match v.compare? w with
  | some o => o != .gt
  | none => v == .null

/-- The distinct values of a row of values in ascending order, each with the number of its occurrences. -/
def frequencies (values : List Value) : List (Value × Nat) :=
  ((firstOccurrences [] values).mergeSort Value.isAtMost).map fun v => (v, values.count v)

/-- One value takes the place of a smaller one at an end of the ranking. Of the values with one number of occurrences the
    greatest is the most frequent one, and the smallest the least frequent one. -/
def FrequencyOrder.prefers : FrequencyOrder → Nat → Nat → Bool
  | most, count, best => best ≤ count
  | least, count, best => count < best

def FrequencyPick.pick : FrequencyPick → List (Value × Nat) → List (Value × Nat)
  | first _, [] => []
  | first order, group :: groups =>
      [groups.foldl (fun best g => if order.prefers g.2 best.2 then g else best) group]
  | exactly count, groups => groups.filter fun g => g.2 == count

/-- The greatest number that limits rows. -/
def greatestLimit : Nat := Nat.pow 2 63 - 1

/-- The limits of a window can be read; the start does not matter where no row is wanted. -/
def Window.isReadable (w : Window) : Bool := w.limit == 0 || (w.limit ≤ greatestLimit && w.offset ≤ greatestLimit)

def Answer.needed : Answer → Option Nat
  | rows _ (some w) => some (if w.limit = 0 then 0 else w.offset + w.limit)
  | _ => none

/-- Columns of an answer: a heading and a value for each row. -/
def columnsOf (t : Table) : List Name → List (String × (Row → Value))
  | [] => t.columns.zipIdx.map fun (name, index) => (name, fun row => .text (row.cells.getD index ""))
  | names => names.map fun n => (t.heading n, fun row => t.value row n)

def sheetOf (headings : List String) (rows : List (List Value)) : Except Error Sheet :=
  Sheet.ofRows headings (rows.map (·.map Value.toText))

def Answer.sheet (a : Answer) (t : Table) (kept : List Row) : Except Error Sheet :=
  match a with
  | rows names window =>
      let columns := columnsOf t names
      let shown := match window with
        | some w => if w.limit = 0 then [] else (kept.drop w.offset).take w.limit
        | none => kept
      sheetOf (columns.map (·.1)) (shown.map fun row => columns.map fun (_, value) => value row)
  | distinct n => sheetOf [t.heading n] ((firstOccurrences [] (kept.map (t.value · n))).map ([·]))
  | rowCount => sheetOf ["num_rows"] [[.integer kept.length]]
  | aggregate function value label =>
      match aggregateOver function value t kept with
      | .ok v => sheetOf [label] [[v]]
      | .error fault => .error (.execution (.refused fault))
  | frequencies n pick =>
      sheetOf [t.heading n, "freq"]
        ((pick.pick (Sql.frequencies (kept.map (t.value · n)))).map fun (v, count) => [v, .integer count])

def Answer.names : Answer → List Name
  | rows names _ => names
  | distinct n => [n]
  | rowCount => []
  | aggregate _ value _ => value.names
  | frequencies n _ => [n]

/-- The greatest number of columns of a table or an answer. -/
def columnLimit : Nat := 2000

/-- The greatest height of an expression. -/
def heightLimit : Nat := 1000

def Scalar.height : Scalar → Nat
  | plain _ => 1
  | _ => 2

def Test.height : Test → Nat
  | compare left _ right => max left.height right.height + 1
  | like subject pattern => max subject.height pattern.height + 1
  | glob subject negated _ => subject.height + (if negated then 2 else 1)

def joinedHeight : List Nat → Nat
  | [] => 0
  | height :: heights => heights.foldl (fun joined h => max joined h + 1) height

def Extreme.height (e : Extreme) : Nat := max (e.value.height + 1) (joinedHeight (e.tests.map Test.height))

def Condition.height : Condition → Nat
  | test t => t.height
  | isExtreme value extreme => max value.height (extreme.height + 1) + 1

def Condition.innerHeight : Condition → Nat
  | test _ => 0
  | isExtreme _ extreme => extreme.height

/-- The conditions are not nested too deeply. A query inside of a condition counts on top of all conditions. -/
def Query.isShallow (q : Query) : Bool :=
  let height := joinedHeight (q.conditions.map Condition.height)
  q.conditions.all fun c => height + c.innerHeight ≤ heightLimit

def Query.fault? (q : Query) (t : Table) : Option EngineFault :=
  let tables := q.table :: q.conditions.flatMap Condition.tables
  let names := q.answer.names ++ q.conditions.flatMap Condition.names
  match tables.find? fun n => !sameName n.text t.name with
  | some n => some (.unknownTable n.text)
  | none =>
      match names.find? fun n => (t.resolve? n).isNone with
      | some n => some (.unknownColumn n.text)
      | none =>
          if columnLimit < q.answer.names.length then some .tooManyColumns
          else if !q.isShallow then some .tooDeep
          else none

def Answer.startFault? : Answer → Option EngineFault
  | rows _ (some w) => if w.isReadable then none else some .countMismatch
  | _ => none

def Query.run (q : Query) (t : Table) : Except Error Sheet :=
  match (q.fault? t).or q.answer.startFault? with
  | some fault => .error (.execution (.refused fault))
  | none =>
      match Check.scan t (q.conditions.map (·.check t)) q.answer.needed t.rows with
      | .ok kept => q.answer.sheet t kept
      | .error fault => .error (.execution (.refused fault))

end Datasheet.Sql
