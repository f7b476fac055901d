import Datasheet.Sql.Script

/-! # Conversations of a session with its engine

A session is watched while callers ask it for answers and connections hang up: every attempt to connect, every text
that is handed to a connection and whether that connection was open are written down. Watching changes nothing. In
every state that can be reached, a query connects once if the session holds no open connection and not at all
otherwise, and its text goes to an open connection or nowhere.
-/

namespace Datasheet.Sql

open Log

variable {ω κ : Type}

/-! ## Watching -/

/-- What a session does to an engine. -/
inductive Call where
  /-- The session connects, and gets an open connection or not. -/
  | connects (isOpen : Bool)
  /-- The session hands a text to a connection that is open, or is not, at this moment. -/
  | sends (sql : String) (isOpen : Bool) (answer : Except Error Sheet)
  | closes

/-- A world, and what sessions have done in it. -/
structure Watched (ω : Type) where
  world : ω
  calls : List Call := []

/-- Connecting now gives an open connection. -/
def Backend.opens (b : Backend ω κ) (world : ω) : Bool :=
  match b.connect world with
  | (.ok connection, world) => !b.isClosed world connection
  | (.error _, _) => false

/-- The same engine, with all calls written down. -/
def Backend.watched (b : Backend ω κ) : Backend (Watched ω) κ where
  connect w := ((b.connect w.world).1, ⟨(b.connect w.world).2, w.calls ++ [.connects (b.opens w.world)]⟩)
  isClosed w connection := b.isClosed w.world connection
  query w connection sql :=
    let (answer, world, used) := b.query w.world connection sql
    (answer, ⟨world, w.calls ++ [.sends sql (!b.isClosed w.world connection) answer]⟩, used)
  close w connection := (⟨(b.close w.world connection).1, w.calls ++ [.closes]⟩, (b.close w.world connection).2)
  connected := b.connected
  answered := b.answered

/-- A closed connection stays closed when the session connects and does not get an open one. -/
def Backend.KeepsClosed (b : Backend ω κ) : Prop :=
  ∀ world connection, b.isClosed world connection = true → b.opens world = false →
    b.isClosed (b.connect world).2 connection = true

namespace Session

/-- What happens to a session, or around it. -/
inductive Step (ω : Type) where
  | execute (sql : String)
  | aggregate (builder : QueryBuilder) (field function : String)
  | frequent (builder : QueryBuilder) (field : String) (order : FrequencyOrder)
  | close
  /-- Something happens in the world without the session, such as a hang-up. -/
  | outside (event : ω → ω)

def perform (b : Backend ω κ) (s : Session ω κ) : Step ω → Session ω κ
  | .execute sql => (s.execute b sql).2
  | .aggregate builder field function => (s.aggregate b builder field function).2
  | .frequent builder field order => (s.frequent b builder field order).2
  | .close => s.close b
  | .outside event => { s with world := event s.world }

def run (b : Backend ω κ) (s : Session ω κ) (steps : List (Step ω)) : Session ω κ := steps.foldl (perform b) s

/-- A step in a watched world. Events do not touch what has been written down. -/
def Step.watched : Step ω → Step (Watched ω)
  | .execute sql => .execute sql
  | .aggregate builder field function => .aggregate builder field function
  | .frequent builder field order => .frequent builder field order
  | .close => .close
  | .outside event => .outside fun w => { w with world := event w.world }

/-- The session without what has been written down. -/
def unwatched (s : Session (Watched ω) κ) : Session ω κ := ⟨s.world.world, s.connection, s.journal⟩

def calls (s : Session (Watched ω) κ) : List Call := s.world.calls

/-! ## Open and lost connections -/

section

variable {b : Backend ω κ} {s : Session ω κ}

/-- What a session reports before it connects. -/
def loss (s : Session ω κ) : List Event := if s.connection.isSome then [.connectionLost] else []

theorem ensureOpen_of_isConnected (held : s.isConnected b = true) :
    ∃ connection, b.isClosed s.world connection = false ∧ s.ensureOpen b = (.ok connection, s) := by
  obtain ⟨world, _ | connection, journal⟩ := s
  · cases held
  · have here : b.isClosed world connection = false := by simpa [isConnected] using held
    exact ⟨connection, here, by simp [ensureOpen, here]⟩

theorem ensureOpen_of_not_isConnected (absent : s.isConnected b = false) :
    s.ensureOpen b = (s.report s.loss).connect b := by
  obtain ⟨world, _ | connection, journal⟩ := s
  · simp [ensureOpen, loss, report]
  · have closed : b.isClosed world connection = true := by simpa [isConnected] using absent
    simp [ensureOpen, loss, closed]

end

variable {b : Backend ω κ} {s s' : Session (Watched ω) κ} {builder : QueryBuilder} {field function sql : String}
  {order : FrequencyOrder} {answer : Except Error Sheet} {events : List Event}

/-- A result without what has been written down on the way to it. -/
def erased {α : Type} (x : α × Session (Watched ω) κ) : α × Session ω κ := (x.1, x.2.unwatched)

theorem connect_unwatched (s : Session (Watched ω) κ) : s.unwatched.connect b = erased (s.connect b.watched) := by
  simp only [erased, Session.connect, Backend.watched, unwatched]
  cases made : b.connect s.world.world with
  | mk result world =>
      cases result with
      | error fault => rfl
      | ok connection => cases closed : b.isClosed world connection <;> simp [closed]

theorem ensureOpen_unwatched (s : Session (Watched ω) κ) :
    s.unwatched.ensureOpen b = erased (s.ensureOpen b.watched) := by
  cases held : s.isConnected b.watched with
  | false =>
      rw [ensureOpen_of_not_isConnected held, ensureOpen_of_not_isConnected (s := s.unwatched) held]
      exact connect_unwatched (s.report s.loss)
  | true =>
      obtain ⟨w, _ | connection, journal⟩ := s
      · cases held
      · have here : b.isClosed w.world connection = false := by simpa [isConnected, Backend.watched] using held
        simp [erased, ensureOpen, Backend.watched, unwatched, here]

theorem execute_unwatched (s : Session (Watched ω) κ) (sql : String) :
    s.unwatched.execute b sql = erased (s.execute b.watched sql) := by
  rw [execute, execute, ensureOpen_unwatched]
  obtain ⟨_ | connection, s⟩ := s.ensureOpen b.watched
  · rfl
  · simp only [erased, Backend.watched, unwatched, report]
    cases (b.query s.world.world connection sql).1 <;> rfl

theorem ask_unwatched (s : Session (Watched ω) κ) (builder : QueryBuilder) (request : Request) :
    s.unwatched.ask b builder request = erased (s.ask b.watched builder request) := by
  rw [ask, ask]
  cases builder.text request with
  | error fault => rfl
  | ok sql => exact execute_unwatched (s.report [.queryGenerated sql]) sql

theorem aggregate_unwatched (s : Session (Watched ω) κ) (builder : QueryBuilder) (field function : String) :
    s.unwatched.aggregate b builder field function = erased (s.aggregate b.watched builder field function) := by
  rw [aggregate, aggregate, ask_unwatched]
  obtain ⟨_ | sheet, s⟩ := s.ask b.watched builder (.aggregate field function) <;> rfl

theorem frequent_unwatched (s : Session (Watched ω) κ) (builder : QueryBuilder) (field : String)
    (order : FrequencyOrder) :
    s.unwatched.frequent b builder field order = erased (s.frequent b.watched builder field order) := by
  rw [frequent, frequent, ask_unwatched]
  obtain ⟨_ | first, s⟩ := s.ask b.watched builder (.frequency field order)
  · rfl
  · simp only [erased]
    split
    · rfl
    · next row _ =>
        split
        · rfl
        · next count _ => exact ask_unwatched (s.report [.frequencyFound field count]) builder (.withFrequency field count)

theorem perform_unwatched (s : Session (Watched ω) κ) (step : Step ω) :
    (perform b.watched s step.watched).unwatched = perform b s.unwatched step := by
  cases step with
  | execute sql => exact congrArg (·.2) (execute_unwatched s sql).symm
  | aggregate builder field function => exact congrArg (·.2) (aggregate_unwatched s builder field function).symm
  | frequent builder field order => exact congrArg (·.2) (frequent_unwatched s builder field order).symm
  | close =>
      obtain ⟨w, _ | connection, journal⟩ := s <;> rfl
  | outside event => rfl

/-- Watching changes nothing. -/
theorem run_unwatched (s : Session (Watched ω) κ) (steps : List (Step ω)) :
    (run b.watched s (steps.map Step.watched)).unwatched = run b s.unwatched steps := by
  induction steps generalizing s with
  | nil => rfl
  | cons step steps ih => exact (ih _).trans (congrArg (run b · steps) (perform_unwatched s step))

/-! ## One text -/

/-- What a text leads to. It goes to the open connection that the session holds. Without one the session connects
    once, and the text goes to the new connection if that is open; otherwise it goes nowhere, and the session holds
    what it has held before. -/
inductive Exchange (b : Backend ω κ) (s : Session (Watched ω) κ) (sql : String) :
    Except Error Sheet → Session (Watched ω) κ → Prop where
  | held {answer : Except Error Sheet} {s' : Session (Watched ω) κ} (connected : s.isConnected b.watched = true)
      (said : s'.calls = s.calls ++ [.sends sql true answer]) : Exchange b s sql answer s'
  | fresh {answer : Except Error Sheet} {s' : Session (Watched ω) κ} (absent : s.isConnected b.watched = false)
      (opens : b.opens s.world.world = true)
      (said : s'.calls = s.calls ++ [.connects true, .sends sql true answer]) : Exchange b s sql answer s'
  | failed {fault : ExecutionFault} {s' : Session (Watched ω) κ} (absent : s.isConnected b.watched = false)
      (shut : b.opens s.world.world = false) (said : s'.calls = s.calls ++ [.connects false])
      (kept : s'.connection = s.connection) (after : s'.world.world = (b.connect s.world.world).2) :
      Exchange b s sql (.error (.execution fault)) s'

theorem connect_of_opens (opens : b.opens s.world.world = true) :
    ∃ connection t, s.connect b.watched = (.ok connection, t) ∧ b.isClosed t.world.world connection = false
      ∧ t.calls = s.calls ++ [.connects true] := by
  have how := opens
  simp only [Backend.opens] at how
  split at how
  · next connection world made =>
      have here : b.isClosed world connection = false := by simpa using how
      refine ⟨connection, ⟨⟨world, s.calls ++ [.connects true]⟩, some connection, s.journal ++ b.connected⟩, ?_, here, rfl⟩
      simp only [Session.connect, Backend.watched, made, here, opens]
      rfl
  · cases how

theorem connect_of_not_opens (shut : b.opens s.world.world = false) :
    ∃ fault t, s.connect b.watched = (.error (.execution fault), t) ∧ t.calls = s.calls ++ [.connects false]
      ∧ t.connection = s.connection ∧ t.world.world = (b.connect s.world.world).2 := by
  have how := shut
  simp only [Backend.opens] at how
  simp only [Session.connect, Backend.watched, shut]
  split at how
  · next connection world made =>
      have here : b.isClosed world connection = true := by simpa using how
      simp only [made, here, if_true]
      exact ⟨_, _, rfl, rfl, rfl, rfl⟩
  · next cause world made =>
      simp only [made]
      exact ⟨_, _, rfl, rfl, rfl, rfl⟩

theorem execute_sends {connection : κ} {t : Session (Watched ω) κ} (ensured : s.ensureOpen b.watched = (.ok connection, t))
    (here : b.isClosed t.world.world connection = false) :
    (s.execute b.watched sql).2.calls = t.calls ++ [.sends sql true (s.execute b.watched sql).1] := by
  rw [execute, ensured]
  simp only [report, Backend.watched, here]
  cases (b.query t.world.world connection sql).1 <;> rfl

theorem exchange_execute (b : Backend ω κ) (s : Session (Watched ω) κ) (sql : String) :
    Exchange b s sql (s.execute b.watched sql).1 (s.execute b.watched sql).2 := by
  cases held : s.isConnected b.watched with
  | true =>
      obtain ⟨connection, here, ensured⟩ := ensureOpen_of_isConnected held
      exact .held held (execute_sends ensured here)
  | false =>
      have ensured := ensureOpen_of_not_isConnected held
      cases opens : b.opens s.world.world with
      | true =>
          obtain ⟨connection, t, connected, here, calls⟩ := connect_of_opens (s := s.report s.loss) opens
          have said : (s.execute b.watched sql).2.calls = _ := execute_sends (ensured.trans connected) here
          rw [calls, List.append_assoc] at said
          exact .fresh held opens said
      | false =>
          obtain ⟨fault, t, refused, calls, kept, after⟩ := connect_of_not_opens (s := s.report s.loss) opens
          have answered : s.execute b.watched sql = (.error (.execution fault), t) := by
            rw [execute, ensured, refused]
          rw [answered]
          exact .failed held opens calls kept after

theorem Exchange.of_report (exchange : Exchange b (s.report events) sql answer s') : Exchange b s sql answer s' := by
  cases exchange with
  | held connected said => exact .held connected said
  | fresh absent opens said => exact .fresh absent opens said
  | failed absent shut said kept after => exact .failed absent shut said kept after

theorem Exchange.calls_of_not_isConnected (exchange : Exchange b s sql answer s')
    (absent : s.isConnected b.watched = false) :
    s'.calls = s.calls ++ if b.opens s.world.world then [.connects true, .sends sql true answer] else [.connects false] := by
  cases exchange with
  | held connected said => simp [absent] at connected
  | fresh _ opens said => rw [said, opens, if_pos rfl]
  | failed _ shut said kept after => rw [said, shut, if_neg (by decide)]

theorem Exchange.isConnected_of_failed (exchange : Exchange b s sql answer s') (keeps : b.KeepsClosed)
    (failed : s'.calls = s.calls ++ [.connects false]) : s'.isConnected b.watched = false := by
  cases exchange with
  | held connected said => simp [said] at failed
  | fresh absent opens said => simp [said] at failed
  | failed absent shut said kept after =>
      rw [isConnected, kept]
      cases held : s.connection with
      | none => rfl
      | some connection =>
          have closed : b.isClosed s.world.world connection = true := by
            simpa [isConnected, held, Backend.watched] using absent
          simpa [Backend.watched, after] using keeps _ _ closed shut

/-! ## One request -/

/-- What a request leads to: without a text the session does nothing at all. -/
inductive Asking (b : Backend ω κ) (s : Session (Watched ω) κ) (builder : QueryBuilder) (request : Request) :
    Except Error Sheet → Session (Watched ω) κ → Prop where
  | refused {fault : GenerationFault} (textless : builder.text request = .error fault) :
      Asking b s builder request (.error (.generation fault)) s
  | sent {sql : String} {answer : Except Error Sheet} {s' : Session (Watched ω) κ}
      (text : builder.text request = .ok sql) (exchange : Exchange b s sql answer s') :
      Asking b s builder request answer s'

theorem asking_ask (b : Backend ω κ) (s : Session (Watched ω) κ) (builder : QueryBuilder) (request : Request) :
    Asking b s builder request (s.ask b.watched builder request).1 (s.ask b.watched builder request).2 := by
  rw [ask]
  cases text : builder.text request with
  | error fault => exact .refused text
  | ok sql => exact .sent text (exchange_execute b (s.report [.queryGenerated sql]) sql).of_report

theorem Asking.exchange {request : Request} (asking : Asking b s builder request answer s')
    (text : builder.text request = .ok sql) : Exchange b s sql answer s' := by
  cases asking with
  | refused textless => cases text.symm.trans textless
  | sent text' exchange => exact Except.ok.inj (text'.symm.trans text) ▸ exchange

/-- The value that the answer to an aggregate holds. -/
def single (sheet : Sheet) : Option String := ((sheet.rows.head?).bind (·.head?)).filter (!·.isEmpty)

theorem aggregate_eq_ask (b : Backend ω κ) (s : Session ω κ) (builder : QueryBuilder) (field function : String) :
    s.aggregate b builder field function
      = ((s.ask b builder (.aggregate field function)).1.map single, (s.ask b builder (.aggregate field function)).2) := by
  rw [aggregate]
  obtain ⟨_ | sheet, s⟩ := s.ask b builder (.aggregate field function) <;> rfl

/-- What the values that occur most or least often lead to. A second text is sent if the first answer holds a count,
    and it asks for the values with this count. -/
inductive Counting (b : Backend ω κ) (s : Session (Watched ω) κ) (builder : QueryBuilder) (field : String)
    (order : FrequencyOrder) : Except Error Sheet → Session (Watched ω) κ → Prop where
  | failed {e : Error} {s' : Session (Watched ω) κ} (asking : Asking b s builder (.frequency field order) (.error e) s') :
      Counting b s builder field order (.error e) s'
  | blank {sql : String} {first : Sheet} {s' : Session (Watched ω) κ}
      (text : builder.text (.frequency field order) = .ok sql) (exchange : Exchange b s sql (.ok first) s')
      (rowless : first.rows = []) : Counting b s builder field order (.ok (Sheet.blank first.header)) s'
  | uncounted {sql : String} {first : Sheet} {row : List String} {s' : Session (Watched ω) κ}
      (text : builder.text (.frequency field order) = .ok sql) (exchange : Exchange b s sql (.ok first) s')
      (found : first.rows.head? = some row) (unreadable : readCount? (row.getD 1 "").toList = none) :
      Counting b s builder field order (.error (.execution (.unexpectedFrequency (row.getD 1 "")))) s'
  | counted {sql next : String} {first : Sheet} {row : List String} {count : Nat} {answer : Except Error Sheet}
      {between s' : Session (Watched ω) κ}
      (text : builder.text (.frequency field order) = .ok sql) (exchange : Exchange b s sql (.ok first) between)
      (found : first.rows.head? = some row) (read : readCount? (row.getD 1 "").toList = some count)
      (following : builder.text (.withFrequency field count) = .ok next) (second : Exchange b between next answer s') :
      Counting b s builder field order answer s'

theorem text_withFrequency (text : builder.text (.frequency field order) = .ok sql) (count : Nat) :
    ∃ next, builder.text (.withFrequency field count) = .ok next := by
  simp only [QueryBuilder.text, QueryBuilder.query, QueryBuilder.outline] at text ⊢
  cases known : builder.checkField field with
  | error fault => simp [known, bind, Except.bind, Except.map] at text
  | ok _ =>
      cases tests : builder.filterTests with
      | error fault => simp [known, tests, bind, Except.bind, Except.map] at text
      | ok filters => exact ⟨_, rfl⟩

theorem counting_frequent (b : Backend ω κ) (s : Session (Watched ω) κ) (builder : QueryBuilder) (field : String)
    (order : FrequencyOrder) :
    Counting b s builder field order (s.frequent b.watched builder field order).1
      (s.frequent b.watched builder field order).2 := by
  have asking := asking_ask b s builder (.frequency field order)
  rw [frequent]
  generalize s.ask b.watched builder (.frequency field order) = asked at asking ⊢
  obtain ⟨e | first, between⟩ := asked
  · exact .failed asking
  · cases asking with
    | sent text exchange =>
        simp only
        cases found : first.rows.head? with
        | none => exact .blank text exchange (List.head?_eq_none_iff.1 found)
        | some row =>
            cases read : readCount? (row.getD 1 "").toList with
            | none => simpa only [read] using .uncounted text exchange found read
            | some count =>
                obtain ⟨next, following⟩ := text_withFrequency text count
                have second := asking_ask b (between.report [.frequencyFound field count]) builder
                  (.withFrequency field count)
                simpa only [read] using .counted text exchange found read following (second.exchange following).of_report

/-- After closing no connection is held. Only a connection that has been held is closed. -/
theorem close_watched (b : Backend ω κ) (s : Session (Watched ω) κ) :
    (s.close b.watched).connection = none
      ∧ (s.close b.watched).calls = s.calls ++ if s.connection.isSome then [.closes] else [] := by
  obtain ⟨w, _ | connection, journal⟩ := s
  · exact ⟨rfl, (List.append_nil _).symm⟩
  · exact ⟨rfl, rfl⟩

/-! ## Whole runs -/

/-- What a session does for one text, or when it gives its connection up. -/
inductive Round : List Call → Prop where
  | held (sql : String) (answer : Except Error Sheet) : Round [.sends sql true answer]
  | fresh (sql : String) (answer : Except Error Sheet) : Round [.connects true, .sends sql true answer]
  | failed : Round [.connects false]
  | closed : Round [.closes]

/-- From one session to a later one there are only whole rounds. -/
def Rounds (s s' : Session (Watched ω) κ) : Prop :=
  ∃ rounds : List (List Call), (∀ round ∈ rounds, Round round) ∧ s'.calls = s.calls ++ rounds.flatten

theorem Rounds.refl (s : Session (Watched ω) κ) : Rounds s s := ⟨[], by simp, by simp⟩

theorem Rounds.trans {s s' s'' : Session (Watched ω) κ} (first : Rounds s s') (second : Rounds s' s'') : Rounds s s'' := by
  obtain ⟨rounds, whole, said⟩ := first
  obtain ⟨rounds', whole', said'⟩ := second
  refine ⟨rounds ++ rounds', ?_, ?_⟩
  · intro round member
    exact (List.mem_append.1 member).elim (whole round) (whole' round)
  · rw [said', said, List.flatten_append, List.append_assoc]

theorem Rounds.of_round {round : List Call} (whole : Round round) (said : s'.calls = s.calls ++ round) : Rounds s s' :=
  ⟨[round], by simpa using whole, by simpa using said⟩

theorem Exchange.rounds (exchange : Exchange b s sql answer s') : Rounds s s' := by
  cases exchange with
  | held connected said => exact .of_round (.held sql answer) said
  | fresh absent opens said => exact .of_round (.fresh sql answer) said
  | failed absent shut said kept after => exact .of_round .failed said

theorem Asking.rounds {request : Request} (asking : Asking b s builder request answer s') : Rounds s s' := by
  cases asking with
  | refused textless => exact .refl s
  | sent text exchange => exact exchange.rounds

theorem Counting.rounds (counting : Counting b s builder field order answer s') : Rounds s s' := by
  cases counting with
  | failed asking => exact asking.rounds
  | blank text exchange rowless => exact exchange.rounds
  | uncounted text exchange found unreadable => exact exchange.rounds
  | counted text exchange found read following second => exact exchange.rounds.trans second.rounds

theorem rounds_perform (b : Backend ω κ) (s : Session (Watched ω) κ) (step : Step ω) :
    Rounds s (perform b.watched s step.watched) := by
  cases step with
  | execute sql => exact (exchange_execute b s sql).rounds
  | aggregate builder field function =>
      simp only [Step.watched, perform, aggregate_eq_ask]
      exact (asking_ask b s builder (.aggregate field function)).rounds
  | frequent builder field order => exact (counting_frequent b s builder field order).rounds
  | close =>
      obtain ⟨w, _ | connection, journal⟩ := s
      · exact .refl _
      · exact .of_round .closed rfl
  | outside event => exact .refl _

theorem rounds_run (b : Backend ω κ) (s : Session (Watched ω) κ) (steps : List (Step ω)) :
    Rounds s (run b.watched s (steps.map Step.watched)) := by
  induction steps generalizing s with
  | nil => exact .refl s
  | cons step steps ih => exact (rounds_perform b s step).trans (ih _)

/-- In every state that a session can come to, a text goes to the open connection that the session holds, or the
    session connects once and the text goes to the new connection, if that is open. After a failure to connect the
    next text makes it connect once more. An aggregate and the most frequent values send the texts that they need,
    and no text before there is one. After closing no connection is held. -/
theorem connects_only_when_needed (b : Backend ω κ) (world : ω) (steps : List (Step ω)) :
    let s := run b.watched ⟨⟨world, []⟩, none, []⟩ (steps.map Step.watched)
    s.unwatched = run b ⟨world, none, []⟩ steps
      ∧ Rounds ⟨⟨world, []⟩, none, []⟩ s
      ∧ (∀ sql, Exchange b s sql (s.execute b.watched sql).1 (s.execute b.watched sql).2)
      ∧ (∀ sql next, b.KeepsClosed → s.isConnected b.watched = false → b.opens s.world.world = false →
          let failed := (s.execute b.watched sql).2
          let (answer, retried) := failed.execute b.watched next
          retried.calls = failed.calls ++ if b.opens failed.world.world then [.connects true, .sends next true answer]
            else [.connects false])
      ∧ (∀ builder field function, ∃ answer,
          Asking b s builder (.aggregate field function) answer (s.aggregate b.watched builder field function).2
            ∧ (s.aggregate b.watched builder field function).1 = answer.map single)
      ∧ (∀ builder field order, Counting b s builder field order (s.frequent b.watched builder field order).1
          (s.frequent b.watched builder field order).2)
      ∧ (s.close b.watched).connection = none
      ∧ (s.close b.watched).calls = s.calls ++ if s.connection.isSome then [.closes] else [] := by
  intro s
  refine ⟨run_unwatched _ steps, rounds_run b _ steps, exchange_execute b s, ?_, ?_, counting_frequent b s,
    close_watched b s⟩
  · intro sql next keeps absent shut
    -- The failed text has tried to connect and left the session without a connection, so the next one tries again.
    have exchange := exchange_execute b s sql
    have failed := exchange.calls_of_not_isConnected absent
    rw [shut, if_neg (by decide)] at failed
    exact (exchange_execute b _ next).calls_of_not_isConnected (exchange.isConnected_of_failed keeps failed)
  · intro builder field function
    rw [aggregate_eq_ask]
    exact ⟨_, asking_ask b s builder (.aggregate field function), rfl⟩

end Session

/-- Connections of a script hang up together, and only a new open connection opens them again. -/
theorem Script.keepsClosed : Script.backend.KeepsClosed := by
  rintro script connection (closed : script.closed = true) shut
  obtain ⟨_ | ⟨_ | ⟨isClosed, replies⟩, openings⟩, attempts, _, received⟩ := script
  · exact closed
  · exact closed
  · simpa [Backend.opens, Script.backend, Script.connect] using shut

/-- An engine that gives an open connection, then a closed one, and then an open one again. -/
def Script.wavering : Script where
  openings := [.opens false [.answers ["x"] [["1"]]], .opens true [], .opens false [.answers ["x"] [["2"]]]]

/-- The first connection hangs up, and the second text is lost with the closed connection. -/
theorem Session.connects_only_when_needed_wavering :
    let b := Script.backend
    let s := run b.watched ⟨⟨Script.wavering, []⟩, none, []⟩ ([.execute "a", .outside Script.hangUp].map Step.watched)
    let failed := (s.execute b.watched "b").2
    let (answer, retried) := failed.execute b.watched "c"
    retried.calls = failed.calls ++ [.connects true, .sends "c" true answer]
      ∧ retried.unwatched.world.received = ["a", "c"] := by
  obtain ⟨_, _, _, retries, _⟩ :=
    connects_only_when_needed Script.backend Script.wavering [.execute "a", .outside Script.hangUp]
  exact ⟨retries "b" "c" Script.keepsClosed rfl rfl, rfl⟩

end Datasheet.Sql
