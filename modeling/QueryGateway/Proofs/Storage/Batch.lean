import QueryGateway.Storage.LogTable
import Mathlib.Data.List.Forall2

/-!
# Batches of log rows

A row says what its entry says, without NUL, and in signed numbers of the same 64 bits.
A batch is judged row by row: a row is taken if the database has nothing
against it and no row that is there, or was taken before it, has its
identifier.  The statements of a batch follow from the verdicts.  If none of
them is refused but inserts, the table gains the rows that are taken; if one is
refused, it gains nothing.
-/

namespace QueryGateway
namespace Storage

open Execution

structure LogRow.RecordOf (entry : LogEntry) (row : LogRow) : Prop where
  id : row.id = entry.id
  queryId : row.queryId = entry.queryId
  systemId : row.systemId = entry.systemId
  userId : row.userId = entry.userId
  status : row.status = entry.status
  resultSnapshot : row.resultSnapshot = entry.resultSnapshot.map stripNul
  executionTimeMs : row.executionTimeMs.toUInt64 = entry.executionTimeMs
  recordCount : row.recordCount.toUInt64 = entry.recordCount
  errorMessage : row.errorMessage = entry.errorMessage.map stripText
  createdAt : row.createdAt = entry.createdAt

theorem LogRow.recordOf_ofEntry (entry : LogEntry) : RecordOf entry (.ofEntry entry) where
  id := rfl
  queryId := rfl
  systemId := rfl
  userId := rfl
  status := rfl
  resultSnapshot := rfl
  executionTimeMs := UInt64.toUInt64_toInt64 entry.executionTimeMs
  recordCount := UInt64.toUInt64_toInt64 entry.recordCount
  errorMessage := rfl
  createdAt := rfl

def Statement.isControl : Statement -> Bool
  | .insert _ => false
  | _ => true

abbrev Verdict := LogRow × Bool

namespace Verdict

def statements (verdict : Verdict) : List Statement :=
  [.savepoint, .insert verdict.1, if verdict.2 then .release else .rollbackTo]

def taken (verdicts : List Verdict) : List LogRow :=
  (verdicts.filter Prod.snd).map Prod.fst

def script (verdicts : List Verdict) : List Statement :=
  if verdicts.isEmpty then [] else .begin :: (verdicts.flatMap statements ++ [.commit])

theorem taken_cons_false (row : LogRow) (rest : List Verdict) :
    taken ((row, false) :: rest) = taken rest :=
  rfl

theorem taken_append (front rest : List Verdict) :
    taken (front ++ rest) = taken front ++ taken rest := by
  unfold taken
  rw [List.filter_append, List.map_append]

theorem length_taken_le (verdicts : List Verdict) : (taken verdicts).length ≤ verdicts.length := by
  unfold taken
  rw [List.length_map]
  exact List.length_filter_le Prod.snd verdicts

theorem length_statements (verdicts : List Verdict) :
    (verdicts.flatMap statements).length = 3 * verdicts.length := by
  induction verdicts with
  | nil => rfl
  | cons verdict rest ih =>
      rw [List.flatMap_cons, List.length_append, ih, List.length_cons]
      show 3 + 3 * rest.length = 3 * (rest.length + 1)
      omega

end Verdict

namespace LogTable

/-- Whether a row is taken as the one at an index of its batch, when `seen` is there already. -/
def takes (refusal : Refusal) (index : Nat) (seen : List LogRow) (row : LogRow) : Bool :=
  (refusal (3 * index + 2) (.insert row)).isNone && !seen.any fun other => other.id = row.id

def verdicts (refusal : Refusal) : Nat -> List LogRow -> List LogRow -> List Verdict
  | _, _, [] => []
  | index, seen, row :: rest =>
      if takes refusal index seen row then
        (row, true) :: verdicts refusal (index + 1) (seen ++ [row]) rest
      else
        (row, false) :: verdicts refusal (index + 1) seen rest

def judge (refusal : Refusal) (entries : List LogEntry) (table : LogTable) : List Verdict :=
  verdicts refusal 0 table.rows (entries.map LogRow.ofEntry)

/-- Of statements that are sent from a position on, none is refused but inserts. -/
def Granted (refusal : Refusal) (position : Nat) (statements : List Statement) : Prop :=
  forall index statement, statements[index]? = some statement -> statement.isControl = true ->
    refusal (position + index) statement = none

theorem granted_nil (refusal : Refusal) (position : Nat) : Granted refusal position [] := by
  intro index statement hsome
  cases hsome

theorem granted_cons {refusal : Refusal} {position : Nat} {first : Statement}
    {rest : List Statement} :
    Granted refusal position (first :: rest) ↔
      (first.isControl = true -> refusal position first = none) ∧
        Granted refusal (position + 1) rest := by
  constructor
  · intro hgranted
    constructor
    · exact hgranted 0 first rfl
    · intro index statement hsome hcontrol
      have hlater := hgranted (index + 1) statement hsome hcontrol
      rwa [← Nat.add_assoc, Nat.add_right_comm] at hlater
  · rintro ⟨hfirst, hrest⟩ index statement hsome hcontrol
    cases index with
    | zero =>
        cases hsome
        exact hfirst hcontrol
    | succ index =>
        rw [← Nat.add_assoc, Nat.add_right_comm]
        exact hrest index statement hsome hcontrol

theorem granted_append {refusal : Refusal} {position : Nat} {front rest : List Statement} :
    Granted refusal position (front ++ rest) ↔
      Granted refusal position front ∧ Granted refusal (position + front.length) rest := by
  induction front generalizing position with
  | nil =>
      constructor
      · intro hrest
        exact ⟨granted_nil refusal position, hrest⟩
      · intro hboth
        exact hboth.right
  | cons first front ih =>
      have hlength : position + (first :: front).length = position + 1 + front.length := by
        rw [List.length_cons]
        omega
      rw [List.cons_append, granted_cons, granted_cons, ih, hlength, and_assoc]

theorem granted_congr {refusal other : Refusal} {position otherPosition : Nat}
    {statements : List Statement}
    (hsame : forall index statement, index < statements.length ->
      other (otherPosition + index) statement = refusal (position + index) statement)
    (hgranted : Granted refusal position statements) :
    Granted other otherPosition statements := by
  intro index statement hsome hcontrol
  have hlt : index < statements.length := (List.getElem?_eq_some_iff.mp hsome).choose
  rw [hsame index statement hlt]
  exact hgranted index statement hsome hcontrol

/-!
# Exchanges
-/

section Exchange

variable {α β : Type} {connection later : Connection} {table : LogTable}

theorem run_bind (first : Exchange α) (second : α -> Exchange β) (connection : Connection) :
    (first >>= second) connection =
      match first connection with
      | (.ok value, later) => second value later
      | (.error failure, later) => (.error failure, later) := by
  show StateT.bind first (ExceptT.bindCont second) connection = _
  unfold StateT.bind
  rcases first connection with ⟨answer, later⟩
  cases answer with
  | ok value => rfl
  | error failure => rfl

theorem bind_of_ok {first : Exchange α} {second : α -> Exchange β} {value : α}
    (hfirst : first connection = (.ok value, later)) :
    (first >>= second) connection = second value later := by
  rw [run_bind, hfirst]

/-- What the database says is passed on, and nothing has been committed. -/
def Fails (table : LogTable) (outcome : Except Failure α × Connection) : Prop :=
  (exists message, outcome.1 = .error (.store (databaseError message))) ∧ outcome.2.table = table

theorem Fails.bind {first : Exchange α} (hfails : Fails table (first connection))
    (second : α -> Exchange β) : Fails table ((first >>= second) connection) := by
  generalize hfirst : first connection = outcome at hfails
  rcases outcome with ⟨answer, later⟩
  rcases hfails with ⟨⟨message, hanswer⟩, htable⟩
  cases hanswer
  rw [run_bind, hfirst]
  exact ⟨⟨message, rfl⟩, htable⟩

theorem Fails.of_bind {first : Exchange α} {second : α -> Exchange β} {value : α}
    (hfirst : first connection = (.ok value, later)) (hfails : Fails table (second value later)) :
    Fails table ((first >>= second) connection) := by
  rw [bind_of_ok hfirst]
  exact hfails

theorem send_of_none {refusal : Refusal} {statement : Statement}
    (hrefusal : refusal connection.sent statement = none)
    (hobjection : connection.transaction.objection statement = none) :
    send refusal statement connection = (.ok (), connection.apply statement) := by
  unfold send
  rw [hrefusal, hobjection]
  rfl

theorem fails_send {refusal : Refusal} {statement : Statement}
    (hrefusal : ¬ refusal connection.sent statement = none) :
    Fails connection.table (send refusal statement connection) := by
  unfold send
  cases hmessage : refusal connection.sent statement with
  | none => exact absurd hmessage hrefusal
  | some message => exact ⟨⟨message, rfl⟩, rfl⟩

end Exchange

/-!
# One row
-/

/-- A transaction that has seen to the rows of its batch below an index, and sees these rows now. -/
structure Between (table : LogTable) (index : Nat) (rows : List LogRow)
    (connection : Connection) : Prop where
  table : connection.table = table
  rows : connection.transaction.rows = rows
  sound : connection.transaction.failed = false
  sent : connection.sent = 3 * index + 1

def after (refusal : Refusal) (index : Nat) (rows : List LogRow) (row : LogRow) : List LogRow :=
  if takes refusal index rows row then rows ++ [row] else rows

variable {refusal : Refusal} {table : LogTable} {index : Nat} {rows : List LogRow}
  {connection : Connection}

theorem Between.aborted (hbetween : Between table index rows connection) :
    connection.transaction.aborted = none := by
  unfold Transaction.aborted
  rw [hbetween.sound]
  rfl

theorem send_insert (hbetween : Between table index rows connection) (row : LogRow) :
    (takes refusal index rows row = true ->
      send refusal (.insert row) (connection.apply .savepoint) =
        (.ok (), (connection.apply .savepoint).apply (.insert row))) ∧
    (takes refusal index rows row = false -> exists failure,
      send refusal (.insert row) (connection.apply .savepoint) =
        (.error failure, (connection.apply .savepoint).refuse)) := by
  have hsent : (connection.apply .savepoint).sent = 3 * index + 2 :=
    congrArg (· + 1) hbetween.sent
  have haborted : (connection.apply .savepoint).transaction.aborted = none := hbetween.aborted
  have hobjection : (connection.apply .savepoint).transaction.objection (.insert row) =
      (connection.apply .savepoint).transaction.duplicate row := by
    show (connection.apply .savepoint).transaction.aborted.or _ = _
    rw [haborted]
    rfl
  have hduplicate : (connection.apply .savepoint).transaction.duplicate row =
      if rows.any fun other => other.id = row.id then
        some "duplicate key value violates unique constraint \"query_execution_logs_pkey\""
      else
        none := by
    rw [← hbetween.rows]
    rfl
  unfold send takes
  rw [hsent, hobjection, hduplicate]
  cases refusal (3 * index + 2) (.insert row) with
  | some message =>
      constructor
      · intro htaken
        cases htaken
      · intro _
        exact ⟨_, rfl⟩
  | none =>
      cases rows.any fun other => other.id = row.id with
      | true =>
          constructor
          · intro htaken
            cases htaken
          · intro _
            exact ⟨_, rfl⟩
      | false =>
          constructor
          · intro _
            rfl
          · intro htaken
            cases htaken

theorem attempt_insert (hbetween : Between table index rows connection) (row : LogRow) :
    let taken := takes refusal index rows row
    let closing := if taken then Statement.release else .rollbackTo
    exists later, attempt refusal (.insert row) (connection.apply .savepoint) = (.ok taken, later) ∧
      later.table = table ∧ later.sent = 3 * index + 3 ∧
      later.transaction.objection closing = none ∧
      Between table (index + 1) (after refusal index rows row) (later.apply closing) := by
  intro taken closing
  rcases send_insert hbetween row with ⟨haccepted, hrejected⟩
  have hsent : connection.sent + 1 + 1 = 3 * index + 3 := by rw [hbetween.sent]
  have hsettled : connection.sent + 1 + 1 + 1 = 3 * (index + 1) + 1 := by rw [hsent]; omega
  unfold attempt after
  cases htaken : takes refusal index rows row with
  | true =>
      have hclosing : closing = .release := if_pos htaken
      rw [haccepted htaken, hclosing]
      refine ⟨_, congrArg (fun taken => (Except.ok taken, _)) htaken.symm, hbetween.table, hsent,
        ?_, hbetween.table, ?_, hbetween.sound, hsettled⟩
      · show connection.transaction.aborted.or none = none
        rw [hbetween.aborted]
        rfl
      · show connection.transaction.rows ++ [row] = rows ++ [row]
        rw [hbetween.rows]
  | false =>
      have hclosing : closing = .rollbackTo := if_neg (Bool.eq_false_iff.mp htaken)
      rcases hrejected htaken with ⟨failure, hsend⟩
      rw [hsend, hclosing]
      exact ⟨_, congrArg (fun taken => (Except.ok taken, _)) htaken.symm, hbetween.table, hsent,
        rfl, hbetween.table, hbetween.rows, rfl, hsettled⟩

theorem send_savepoint (hbetween : Between table index rows connection)
    (hsavepoint : refusal (3 * index + 1) .savepoint = none) :
    send refusal .savepoint connection = (.ok (), connection.apply .savepoint) := by
  apply send_of_none
  · rw [hbetween.sent]
    exact hsavepoint
  · exact hbetween.aborted

/-- A row that is taken stays, and one that is rejected leaves nothing but its savepoint. -/
theorem writeRow_of_granted (hbetween : Between table index rows connection) (row : LogRow)
    (hgranted : Granted refusal (3 * index + 1)
      (Verdict.statements (row, takes refusal index rows row))) :
    exists later, writeRow refusal row connection = (.ok (takes refusal index rows row), later) ∧
      Between table (index + 1) (after refusal index rows row) later := by
  rcases granted_cons.mp hgranted with ⟨hsavepoint, hrest⟩
  rcases granted_cons.mp (granted_cons.mp hrest).right with ⟨hclosing, _⟩
  rcases attempt_insert hbetween row with
    ⟨tried, hattempt, _, hsent, hobjection, hsettled⟩
  refine ⟨_, ?_, hsettled⟩
  unfold writeRow
  rw [bind_of_ok (send_savepoint hbetween (hsavepoint rfl)), bind_of_ok hattempt]
  apply bind_of_ok
  apply send_of_none
  · rw [hsent]
    apply hclosing
    cases takes refusal index rows row <;> rfl
  · exact hobjection

theorem writeRow_of_not_granted (hbetween : Between table index rows connection) (row : LogRow)
    (hrefused : ¬ Granted refusal (3 * index + 1)
      (Verdict.statements (row, takes refusal index rows row))) :
    Fails table (writeRow refusal row connection) := by
  rcases attempt_insert hbetween row with
    ⟨tried, hattempt, htable, hsent, _, _⟩
  unfold writeRow
  by_cases hsavepoint : refusal (3 * index + 1) .savepoint = none
  · apply Fails.of_bind (send_savepoint hbetween hsavepoint)
    apply Fails.of_bind hattempt
    apply Fails.bind
    rw [← htable]
    apply fails_send
    rw [hsent]
    intro hclosing
    apply hrefused
    apply granted_cons.mpr
    refine ⟨fun _ => hsavepoint, granted_cons.mpr ⟨?_, granted_cons.mpr ⟨fun _ => hclosing, ?_⟩⟩⟩
    · intro hcontrol
      cases hcontrol
    · exact granted_nil refusal _
  · rw [← hbetween.table]
    apply Fails.bind
    apply fails_send
    rw [hbetween.sent]
    exact hsavepoint

/-!
# Many rows
-/

theorem verdicts_cons (refusal : Refusal) (index : Nat) (rows : List LogRow) (row : LogRow)
    (rest : List LogRow) :
    verdicts refusal index rows (row :: rest) =
      (row, takes refusal index rows row) ::
        verdicts refusal (index + 1) (after refusal index rows row) rest := by
  unfold after
  rw [verdicts]
  cases htakes : takes refusal index rows row with
  | true => rfl
  | false => rfl

theorem after_append_taken (refusal : Refusal) (index : Nat) (rows : List LogRow) (row : LogRow)
    (rest : List Verdict) :
    after refusal index rows row ++ Verdict.taken rest =
      rows ++ Verdict.taken ((row, takes refusal index rows row) :: rest) := by
  unfold after
  cases takes refusal index rows row with
  | true => exact List.append_assoc rows [row] (Verdict.taken rest)
  | false => rfl

theorem length_verdicts (refusal : Refusal) (index : Nat) (rows batch : List LogRow) :
    (verdicts refusal index rows batch).length = batch.length := by
  induction batch generalizing index rows with
  | nil => rfl
  | cons row rest ih =>
      rw [verdicts_cons, List.length_cons, ih]
      rfl

theorem writeRows_of_granted (batch : List LogRow)
    (hbetween : Between table index rows connection)
    (hgranted : Granted refusal (3 * index + 1)
      ((verdicts refusal index rows batch).flatMap Verdict.statements)) :
    exists later,
      writeRows refusal batch connection =
          (.ok (Verdict.taken (verdicts refusal index rows batch)).length, later) ∧
        Between table (index + batch.length)
          (rows ++ Verdict.taken (verdicts refusal index rows batch)) later := by
  induction batch generalizing index rows connection with
  | nil =>
      refine ⟨connection, rfl, ?_⟩
      show Between table index (rows ++ []) connection
      rw [List.append_nil]
      exact hbetween
  | cons row rest ih =>
      rw [verdicts_cons, List.flatMap_cons] at hgranted
      rcases granted_append.mp hgranted with ⟨hrow, hrest⟩
      rcases writeRow_of_granted hbetween row hrow with ⟨written, hwrite, hafter⟩
      rcases ih hafter hrest with ⟨later, hwrites, hlater⟩
      have hindex : index + 1 + rest.length = index + (row :: rest).length := by
        rw [List.length_cons]
        omega
      rw [after_append_taken, ← verdicts_cons, hindex] at hlater
      refine ⟨later, ?_, hlater⟩
      rw [writeRows, bind_of_ok hwrite, bind_of_ok hwrites, verdicts_cons]
      cases takes refusal index rows row with
      | true => rfl
      | false => rfl

theorem writeRows_of_not_granted (batch : List LogRow)
    (hbetween : Between table index rows connection)
    (hrefused : ¬ Granted refusal (3 * index + 1)
      ((verdicts refusal index rows batch).flatMap Verdict.statements)) :
    Fails table (writeRows refusal batch connection) := by
  induction batch generalizing index rows connection with
  | nil => exact absurd (granted_nil refusal _) hrefused
  | cons row rest ih =>
      rw [verdicts_cons, List.flatMap_cons, granted_append] at hrefused
      by_cases hrow : Granted refusal (3 * index + 1)
          (Verdict.statements (row, takes refusal index rows row))
      · rcases writeRow_of_granted hbetween row hrow with ⟨written, hwrite, hafter⟩
        apply Fails.of_bind hwrite
        apply Fails.bind
        apply ih hafter
        intro hrest
        exact hrefused ⟨hrow, hrest⟩
      · apply Fails.bind
        exact writeRow_of_not_granted hbetween row hrow

/-!
# A transaction
-/

theorem between_begin (table : LogTable) :
    Between table 0 table.rows ((Connection.ofTable table).apply .begin) :=
  ⟨rfl, rfl, rfl, rfl⟩

theorem granted_transaction {batch : List LogRow} :
    Granted refusal 0 (.begin ::
        ((verdicts refusal 0 table.rows batch).flatMap Verdict.statements ++ [.commit])) ↔
      refusal 0 .begin = none ∧
        Granted refusal 1 ((verdicts refusal 0 table.rows batch).flatMap Verdict.statements) ∧
        refusal (3 * batch.length + 1) .commit = none := by
  have hlength : 0 + 1 + ((verdicts refusal 0 table.rows batch).flatMap Verdict.statements).length =
      3 * batch.length + 1 := by
    rw [Verdict.length_statements, length_verdicts]
    omega
  rw [granted_cons, granted_append, granted_cons, hlength]
  constructor
  · rintro ⟨hbegin, hrows, hcommit, _⟩
    exact ⟨hbegin rfl, hrows, hcommit rfl⟩
  · rintro ⟨hbegin, hrows, hcommit⟩
    exact ⟨fun _ => hbegin, hrows, fun _ => hcommit, granted_nil refusal _⟩

theorem transact_of_granted {batch : List LogRow}
    (hgranted : Granted refusal 0 (.begin ::
      ((verdicts refusal 0 table.rows batch).flatMap Verdict.statements ++ [.commit]))) :
    exists later,
      transact refusal batch (Connection.ofTable table) =
          (.ok (Verdict.taken (verdicts refusal 0 table.rows batch)).length, later) ∧
        later.table = ⟨table.rows ++ Verdict.taken (verdicts refusal 0 table.rows batch)⟩ := by
  rcases granted_transaction.mp hgranted with ⟨hbegin, hrows, hcommit⟩
  have hbegun : send refusal .begin (Connection.ofTable table) =
      (.ok (), (Connection.ofTable table).apply .begin) :=
    send_of_none hbegin rfl
  rcases writeRows_of_granted batch (between_begin table) hrows with ⟨written, hwrites, hwritten⟩
  rw [Nat.zero_add] at hwritten
  have hcommitted : send refusal .commit written = (.ok (), written.apply .commit) := by
    apply send_of_none
    · rw [hwritten.sent]
      exact hcommit
    · rfl
  refine ⟨written.apply .commit, ?_, ?_⟩
  · unfold transact
    rw [bind_of_ok hbegun, bind_of_ok hwrites, bind_of_ok hcommitted]
    rfl
  · show (if written.transaction.failed then written.table else ⟨written.transaction.rows⟩) = _
    rw [hwritten.sound, hwritten.rows]
    rfl

theorem transact_of_not_granted {batch : List LogRow}
    (hrefused : ¬ Granted refusal 0 (.begin ::
      ((verdicts refusal 0 table.rows batch).flatMap Verdict.statements ++ [.commit]))) :
    Fails table (transact refusal batch (Connection.ofTable table)) := by
  rw [granted_transaction] at hrefused
  unfold transact
  by_cases hbegin : refusal 0 .begin = none
  · have hbegun : send refusal .begin (Connection.ofTable table) =
        (.ok (), (Connection.ofTable table).apply .begin) :=
      send_of_none hbegin rfl
    apply Fails.of_bind hbegun
    by_cases hrows : Granted refusal 1
        ((verdicts refusal 0 table.rows batch).flatMap Verdict.statements)
    · rcases writeRows_of_granted batch (between_begin table) hrows with
        ⟨written, hwrites, hwritten⟩
      rw [Nat.zero_add] at hwritten
      apply Fails.of_bind hwrites
      apply Fails.bind
      rw [← hwritten.table]
      apply fails_send
      rw [hwritten.sent]
      intro hcommit
      exact hrefused ⟨hbegin, hrows, hcommit⟩
    · apply Fails.bind
      exact writeRows_of_not_granted batch (between_begin table) hrows
  · apply Fails.bind
    exact @fails_send (.ofTable table) refusal .begin hbegin

/-!
# A batch of entries
-/

theorem script_judge {entries : List LogEntry} (hentries : entries ≠ []) :
    Verdict.script (table.judge refusal entries) =
      .begin :: ((table.judge refusal entries).flatMap Verdict.statements ++ [.commit]) := by
  cases entries with
  | nil => exact absurd rfl hentries
  | cons entry rest =>
      unfold judge
      rw [List.map_cons, verdicts_cons]
      rfl

theorem insertLogs_of_nonempty {entries : List LogEntry} (hentries : entries ≠ []) :
    table.insertLogs refusal entries =
      ((transact refusal (entries.map LogRow.ofEntry) (Connection.ofTable table)).1,
        (transact refusal (entries.map LogRow.ofEntry) (Connection.ofTable table)).2.table) := by
  cases entries with
  | nil => exact absurd rfl hentries
  | cons entry rest => rfl

theorem insertLogs_of_granted {entries : List LogEntry}
    (hgranted : Granted refusal 0 (Verdict.script (table.judge refusal entries))) :
    table.insertLogs refusal entries =
      (.ok (Verdict.taken (table.judge refusal entries)).length,
        ⟨table.rows ++ Verdict.taken (table.judge refusal entries)⟩) := by
  by_cases hentries : entries = []
  · rw [hentries]
    show (Except.ok 0, table) = (.ok 0, LogTable.mk (table.rows ++ []))
    rw [List.append_nil]
  · rw [script_judge hentries] at hgranted
    rcases transact_of_granted hgranted with ⟨later, htransact, htable⟩
    rw [insertLogs_of_nonempty hentries, htransact]
    exact congrArg (Prod.mk _) htable

theorem insertLogs_of_not_granted {entries : List LogEntry}
    (hrefused : ¬ Granted refusal 0 (Verdict.script (table.judge refusal entries))) :
    exists message, table.insertLogs refusal entries =
      (.error (.store (databaseError message)), table) := by
  have hentries : entries ≠ [] := by
    intro hnil
    rw [hnil] at hrefused
    exact hrefused (granted_nil refusal 0)
  rw [script_judge hentries] at hrefused
  rcases transact_of_not_granted hrefused with ⟨⟨message, hanswer⟩, htable⟩
  refine ⟨message, ?_⟩
  rw [insertLogs_of_nonempty hentries, hanswer, htable]

theorem takes_eq_true_iff {seen : List LogRow} {row : LogRow} :
    takes refusal index seen row = true ↔
      refusal (3 * index + 2) (.insert row) = none ∧
        forall other, other ∈ seen -> other.id ≠ row.id := by
  unfold takes
  simp only [Bool.and_eq_true, Option.isNone_iff_eq_none, Bool.not_eq_true', List.any_eq_false,
    decide_eq_true_eq, ne_eq]

theorem map_fst_verdicts (refusal : Refusal) (index : Nat) (rows batch : List LogRow) :
    (verdicts refusal index rows batch).map Prod.fst = batch := by
  induction batch generalizing index rows with
  | nil => rfl
  | cons row rest ih => rw [verdicts_cons, List.map_cons, ih]

theorem row_of_judge {entries : List LogEntry} {index : Nat} {entry : LogEntry} {row : LogRow}
    {taken : Bool} (hentry : entries[index]? = some entry)
    (hverdict : (table.judge refusal entries)[index]? = some (row, taken)) :
    row = .ofEntry entry := by
  have hrows := congrArg (fun rows => rows[index]?)
    (map_fst_verdicts refusal 0 table.rows (entries.map LogRow.ofEntry))
  unfold judge at hverdict
  simp only [List.getElem?_map, hverdict, hentry, Option.map_some] at hrows
  exact Option.some.inj hrows

theorem recordOf_judge (refusal : Refusal) (entries : List LogEntry) (table : LogTable) :
    List.Forall₂ LogRow.RecordOf entries ((table.judge refusal entries).map Prod.fst) := by
  unfold judge
  rw [map_fst_verdicts, List.forall₂_map_right_iff, List.forall₂_same]
  intro entry _
  exact LogRow.recordOf_ofEntry entry

theorem takes_of_getElem? {batch : List LogRow} {offset : Nat} {row : LogRow} {taken : Bool}
    (hverdict : (verdicts refusal index rows batch)[offset]? = some (row, taken)) :
    taken = takes refusal (index + offset)
      (rows ++ Verdict.taken ((verdicts refusal index rows batch).take offset)) row := by
  induction batch generalizing index rows offset with
  | nil => cases hverdict
  | cons first rest ih =>
      rw [verdicts_cons] at hverdict ⊢
      cases offset with
      | zero =>
          cases hverdict
          show _ = takes refusal index (rows ++ []) row
          rw [List.append_nil]
      | succ offset =>
          have hlater := ih (List.getElem?_cons_succ ▸ hverdict)
          rw [after_append_taken, Nat.add_assoc, Nat.add_comm 1 offset] at hlater
          rw [List.take_succ_cons]
          exact hlater

/-!
# Batches without a row that is rejected
-/

theorem verdicts_append (refusal : Refusal) (index : Nat) (rows front rest : List LogRow) :
    verdicts refusal index rows (front ++ rest) =
      verdicts refusal index rows front ++
        verdicts refusal (index + front.length)
          (rows ++ Verdict.taken (verdicts refusal index rows front)) rest := by
  induction front generalizing index rows with
  | nil =>
      show _ = verdicts refusal index (rows ++ []) rest
      rw [List.append_nil]
      rfl
  | cons row front ih =>
      have hindex : index + 1 + front.length = index + (row :: front).length := by
        rw [List.length_cons]
        omega
      rw [List.cons_append, verdicts_cons, verdicts_cons, ih, after_append_taken, hindex]
      rfl

theorem verdicts_congr {refusal other : Refusal} {index otherIndex : Nat} {batch : List LogRow}
    (hsame : forall offset row, offset < batch.length ->
      other (3 * (otherIndex + offset) + 2) (.insert row) =
        refusal (3 * (index + offset) + 2) (.insert row))
    (rows : List LogRow) :
    verdicts other otherIndex rows batch = verdicts refusal index rows batch := by
  induction batch generalizing index otherIndex rows with
  | nil => rfl
  | cons row rest ih =>
      have hfirst : other (3 * otherIndex + 2) (.insert row) =
          refusal (3 * index + 2) (.insert row) :=
        hsame 0 row (Nat.zero_lt_succ rest.length)
      have htakes : forall seen, takes other otherIndex seen row = takes refusal index seen row := by
        intro seen
        unfold takes
        rw [hfirst]
      have hrest : forall rows, verdicts other (otherIndex + 1) rows rest =
          verdicts refusal (index + 1) rows rest := by
        apply ih
        intro offset row hoffset
        have hlater := hsame (offset + 1) row (Nat.succ_lt_succ hoffset)
        rw [← Nat.add_assoc, ← Nat.add_assoc, Nat.add_right_comm otherIndex,
          Nat.add_right_comm index] at hlater
        exact hlater
      rw [verdicts_cons, verdicts_cons, hrest]
      unfold after
      rw [htakes]

/-- What is refused when the statements for the row at an index are not sent. -/
def without (index : Nat) (refusal : Refusal) : Refusal := fun position =>
  refusal (if position ≤ 3 * index then position else position + 3)

theorem without_of_le {position : Nat} (hle : position ≤ 3 * index) :
    without index refusal position = refusal position := by
  unfold without
  rw [if_pos hle]

theorem without_of_lt {position : Nat} (hlt : 3 * index < position) :
    without index refusal position = refusal (position + 3) := by
  unfold without
  rw [if_neg (Nat.not_le.mpr hlt)]

theorem verdicts_without {front rest : List LogRow} {row : LogRow}
    (hverdict : (verdicts refusal 0 rows (front ++ row :: rest))[front.length]? =
      some (row, false)) :
    exists before later, before.length = front.length ∧
      verdicts refusal 0 rows (front ++ row :: rest) = before ++ (row, false) :: later ∧
      verdicts (without front.length refusal) 0 rows (front ++ rest) = before ++ later := by
  let before := verdicts refusal 0 rows front
  have hbefore : before.length = front.length := length_verdicts refusal 0 rows front
  rw [verdicts_append, verdicts_cons, Nat.zero_add] at hverdict ⊢
  rw [List.getElem?_append_right (Nat.le_of_eq hbefore), hbefore, Nat.sub_self,
    List.getElem?_cons_zero] at hverdict
  injection hverdict with hverdict
  injection hverdict with _ hrejected
  have hafter : after refusal front.length (rows ++ Verdict.taken before) row =
      rows ++ Verdict.taken before := by
    unfold after
    rw [hrejected]
    rfl
  have hfront : verdicts (without front.length refusal) 0 rows front = before := by
    apply verdicts_congr
    intro offset row hoffset
    rw [without_of_le (by omega)]
  have hrest : verdicts (without front.length refusal) front.length
        (rows ++ Verdict.taken before) rest =
      verdicts refusal (front.length + 1) (rows ++ Verdict.taken before) rest := by
    apply verdicts_congr
    intro offset row _
    rw [without_of_lt (by omega)]
    congr 1
    omega
  refine ⟨before, verdicts refusal (front.length + 1) (rows ++ Verdict.taken before) rest,
    hbefore, ?_, ?_⟩
  · rw [hrejected, hafter]
  · rw [verdicts_append, hfront, Nat.zero_add, hrest]

theorem granted_without {before later : List Verdict} {verdict : Verdict}
    (hgranted : Granted refusal 0 (Verdict.script (before ++ verdict :: later))) :
    Granted (without before.length refusal) 0 (Verdict.script (before ++ later)) := by
  have hscript : Verdict.script (before ++ verdict :: later) =
      .begin :: ((before ++ verdict :: later).flatMap Verdict.statements ++ [.commit]) := by
    cases before <;> rfl
  rw [hscript, List.flatMap_append, List.flatMap_cons, List.append_assoc, List.append_assoc,
    granted_cons, granted_append, granted_append, Verdict.length_statements] at hgranted
  rcases hgranted with ⟨hbegin, hbefore, _, hlater⟩
  cases hempty : (before ++ later).isEmpty with
  | true =>
      unfold Verdict.script
      rw [hempty]
      exact granted_nil _ 0
  | false =>
      unfold Verdict.script
      rw [hempty]
      show Granted _ 0 (.begin :: ((before ++ later).flatMap Verdict.statements ++ [.commit]))
      rw [List.flatMap_append, List.append_assoc, granted_cons, granted_append,
        Verdict.length_statements]
      refine ⟨?_, ?_, ?_⟩
      · intro hcontrol
        rw [without_of_le (Nat.zero_le _)]
        exact hbegin hcontrol
      · refine granted_congr ?_ hbefore
        intro index statement hindex
        rw [Verdict.length_statements] at hindex
        rw [without_of_le (by omega)]
      · refine granted_congr ?_ hlater
        intro index statement _
        rw [without_of_lt (by omega)]
        congr 1
        show _ = 0 + 1 + 3 * before.length + 3 + index
        omega

theorem insertLogs_without {front rest : List LogEntry} {entry : LogEntry}
    (hverdict : (table.judge refusal (front ++ entry :: rest))[front.length]? =
      some (.ofEntry entry, false))
    (hgranted : Granted refusal 0
      (Verdict.script (table.judge refusal (front ++ entry :: rest)))) :
    table.insertLogs (without front.length refusal) (front ++ rest) =
      table.insertLogs refusal (front ++ entry :: rest) := by
  rw [insertLogs_of_granted hgranted]
  unfold judge at hverdict hgranted ⊢
  rw [List.map_append, List.map_cons] at hverdict hgranted ⊢
  rw [← @List.length_map _ _ front LogRow.ofEntry] at hverdict ⊢
  rcases verdicts_without hverdict with ⟨before, later, hlength, hwith, hwithout⟩
  rw [hwith] at hgranted ⊢
  have hreduced := granted_without hgranted
  rw [hlength, ← hwithout, ← List.map_append] at hreduced
  rw [insertLogs_of_granted hreduced]
  unfold judge
  rw [List.map_append, hwithout, Verdict.taken_append, Verdict.taken_append,
    Verdict.taken_cons_false]

/-!
# What becomes of a batch
-/

/--
Each entry has its own row, in the order of the batch.  A row is taken if the
database accepts its insert and no row that is there by then has its identifier.
When all other statements are accepted, the table gains exactly the rows that are
taken, and their number is told; when one of them is refused, the batch fails and
the table is as it was.  A row that is rejected makes no difference to the others.
-/
theorem insertLogs_exact (refusal : Refusal) (entries : List LogEntry) (table : LogTable) :
    let judged := table.judge refusal entries
    let answered := table.insertLogs refusal entries
    List.Forall₂ LogRow.RecordOf entries (judged.map Prod.fst) ∧
    (forall index row taken, judged[index]? = some (row, taken) ->
      (taken = true ↔ refusal (3 * index + 2) (.insert row) = none ∧
        forall other, other ∈ table.rows ++ Verdict.taken (judged.take index) ->
          other.id ≠ row.id)) ∧
    (Granted refusal 0 (Verdict.script judged) ->
      answered = (.ok (Verdict.taken judged).length, ⟨table.rows ++ Verdict.taken judged⟩)) ∧
    (¬ Granted refusal 0 (Verdict.script judged) ->
      exists message, answered = (.error (.store (databaseError message)), table)) ∧
    (forall front entry rest row count after, entries = front ++ entry :: rest ->
      judged[front.length]? = some (row, false) -> answered = (.ok count, after) ->
        table.insertLogs (without front.length refusal) (front ++ rest) = (.ok count, after)) := by
  intro judged answered
  refine ⟨recordOf_judge refusal entries table, ?_, insertLogs_of_granted,
    insertLogs_of_not_granted, ?_⟩
  · intro index row taken hverdict
    rw [takes_of_getElem? hverdict, Nat.zero_add]
    exact takes_eq_true_iff
  · intro front entry rest row count after hentries hverdict hanswered
    -- A batch of which a number is told has not failed.
    have hgranted : Granted refusal 0 (Verdict.script judged) := by
      apply Classical.byContradiction
      intro hrefused
      rcases insertLogs_of_not_granted hrefused with ⟨message, hfailed⟩
      cases hfailed.symm.trans hanswered
    have hentry : entries[front.length]? = some entry := by
      rw [hentries, List.getElem?_append_right (Nat.le_refl _), Nat.sub_self]
      rfl
    rw [row_of_judge hentry hverdict] at hverdict
    subst hentries
    rw [insertLogs_without hverdict hgranted]
    exact hanswered

/-!
# A batch with a row that is there already
-/

namespace Retrying

def entry (digit : Nat) : LogEntry :=
  { LogEntry.plain (Uuid.ofNat digit) (Uuid.ofNat 7) .failed ⟨0, 0, 0⟩ with
    errorMessage := some "timed out\x00" }

def before : LogTable :=
  ⟨[.ofEntry (entry 2)]⟩

def accepting : Refusal := fun _ _ =>
  none

theorem judge_retried :
    before.judge accepting [entry 1, entry 2, entry 3] =
      [(.ofEntry (entry 1), true), (.ofEntry (entry 2), false), (.ofEntry (entry 3), true)] := by
  rfl

/-- The row that is rejected is left out, and the others are written as without it. -/
theorem insertLogs_exact_retried :
    let answered := before.insertLogs accepting [entry 1, entry 2, entry 3]
    exists first third, LogRow.RecordOf (entry 1) first ∧ LogRow.RecordOf (entry 3) third ∧
      answered = (.ok 2, ⟨before.rows ++ [first, third]⟩) ∧
      before.insertLogs accepting [entry 1, entry 3] = answered := by
  intro answered
  have hexact := insertLogs_exact accepting [entry 1, entry 2, entry 3] before
  rw [judge_retried] at hexact
  rcases hexact with ⟨hrecords, _, hwritten, _, hothers⟩
  have hanswered : answered =
      (.ok 2, ⟨before.rows ++ [.ofEntry (entry 1), .ofEntry (entry 3)]⟩) :=
    hwritten fun _ _ _ _ => rfl
  simp only [List.map_cons, List.forall₂_cons] at hrecords
  rcases hrecords with ⟨hfirst, _, hthird, _⟩
  refine ⟨_, _, hfirst, hthird, hanswered, ?_⟩
  rw [hanswered]
  exact hothers [entry 1] (entry 2) [entry 3] (.ofEntry (entry 2)) 2 _ rfl rfl hanswered

end Retrying

end LogTable
end Storage
end QueryGateway
