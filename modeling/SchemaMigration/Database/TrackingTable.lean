import SchemaMigration.Database.Timestamp

/-! # The tracking table

One row for each migration that was ever begun, with its status, its times, the checksum it was applied
with and the reason why it failed. Rows are changed by a handful of statements (`Change`), each of which
touches only rows of one id, and read in one of three ways (`Query`).
-/

namespace SchemaMigration

/-- A row as it is stored. Any column may be missing in a table that was made without constraints,
    and a status is any text. -/
structure TrackingRow where
  id : Option String
  status : Option String
  startedAt : Option Timestamp
  finishedAt : Option Timestamp
  checksum : Option String
  failureReason : Option String
  deriving Repr, DecidableEq

/-- The rows of a tracking table in the order of their insertion. -/
structure TrackingTable where
  /-- Whether ids are distinct and the id, the status and the start are present. -/
  isConstrained : Bool
  rows : List TrackingRow
  deriving Repr, DecidableEq

/-- The statuses that statements write. -/
def inProgressStatus : String := "in_progress"

@[inherit_doc inProgressStatus]
def completedStatus : String := "completed"

@[inherit_doc inProgressStatus]
def failedStatus : String := "failed"

/-- A statement that changes rows. -/
inductive Change where
  /-- A row for a migration that begins. -/
  | insertStarted (id : String) (now : Time.Reading)
  /-- A row for a migration that counts as completed without having run. -/
  | insertCompleted (id : String) (now : Time.Reading) (checksum : Option String)
  /-- From in progress to completed. -/
  | complete (id : String) (now : Time.Reading) (checksum : String)
  /-- From in progress to failed. -/
  | fail (id : String) (now : Time.Reading) (reason : String)
  /-- From failed to in progress. -/
  | restart (id : String) (now : Time.Reading)
  /-- From any status to completed, with the checksum that is given or else the one recorded. -/
  | settle (id : String) (now : Time.Reading) (checksum : Option String)
  | delete (id : String)
  deriving DecidableEq

inductive Violation where
  | duplicateId (id : String)
  | missing (column : String)
  deriving Repr, DecidableEq

def Violation.message (table : String) : Violation → String
  | .duplicateId id =>
    "Constraint Error: Duplicate key \"id: " ++ id ++ "\" violates primary key constraint."
  | .missing column => "Constraint Error: NOT NULL constraint failed: " ++ table ++ "." ++ column

namespace TrackingRow

def hasId (id : String) (r : TrackingRow) : Bool :=
  r.id == some id

def isAt (id status : String) (r : TrackingRow) : Bool :=
  r.id == some id && r.status == some status

/-- The order of ids, rows without an id last. -/
def idNotAfter (a b : TrackingRow) : Bool :=
  match a.id, b.id with
  | some x, some y => x ≤ y
  | none, some _ => false
  | _, none => true

/-- The order from the most recently finished row to the least, rows that are not finished last;
    among rows finished at one time, the greater id comes first. -/
def finishedNotBefore (a b : TrackingRow) : Bool :=
  match a.finishedAt, b.finishedAt with
  | some x, some y => if x = y then idDescending else y.notLater x
  | some _, none => true
  | none, some _ => false
  | none, none => idDescending
where
  idDescending : Bool :=
    match a.id, b.id with
    | some x, some y => y ≤ x
    | none, some _ => false
    | _, none => true

end TrackingRow

namespace TrackingTable

/-- A table without rows, with its constraints. -/
def empty : TrackingTable := ⟨true, []⟩

/-- The constraint that a new row would break, if there is one. -/
def violation? (t : TrackingTable) (row : TrackingRow) : Option Violation :=
  if !t.isConstrained then none
  else match row.id with
    | none => some (.missing "id")
    | some id =>
      if row.status.isNone then some (.missing "status")
      else if row.startedAt.isNone then some (.missing "started_at")
      else if t.rows.any (·.hasId id) then some (.duplicateId id)
      else none

def insert (t : TrackingTable) (row : TrackingRow) : Except Violation TrackingTable :=
  match t.violation? row with
  | some violation => .error violation
  | none => .ok { t with rows := t.rows ++ [row] }

/-- Changes the rows that are selected, and counts them. -/
def update (t : TrackingTable) (selected : TrackingRow → Bool) (f : TrackingRow → TrackingRow) :
    TrackingTable × Nat :=
  ({ t with rows := t.rows.map fun r => if selected r then f r else r }, t.rows.countP selected)

/-- Removes the rows that are selected, and counts them. -/
def remove (t : TrackingTable) (selected : TrackingRow → Bool) : TrackingTable × Nat :=
  ({ t with rows := t.rows.filter fun r => !selected r }, t.rows.countP selected)

end TrackingTable

/-- Carries out a statement on a table; the number is the count of rows it affected. A statement
    that is refused leaves the table as it was. -/
def Change.apply (t : TrackingTable) : Change → Except Violation (TrackingTable × Nat)
  | insertStarted id now => do
    let t ← t.insert ⟨some id, some inProgressStatus, some (.ofReading now), none, none, none⟩
    .ok (t, 1)
  | insertCompleted id now checksum => do
    let time := some (Timestamp.ofReading now)
    let t ← t.insert ⟨some id, some completedStatus, time, time, checksum, none⟩
    .ok (t, 1)
  | complete id now checksum =>
    .ok (t.update (·.isAt id inProgressStatus) fun r =>
      { r with
        status := some completedStatus
        finishedAt := some (.ofReading now)
        checksum := some checksum
        failureReason := none })
  | fail id now reason =>
    .ok (t.update (·.isAt id inProgressStatus) fun r =>
      { r with
        status := some failedStatus
        finishedAt := some (.ofReading now)
        failureReason := some reason })
  | restart id now =>
    .ok (t.update (·.isAt id failedStatus) fun r =>
      { r with
        status := some inProgressStatus
        startedAt := some (.ofReading now)
        finishedAt := none
        failureReason := none })
  | settle id now checksum =>
    .ok (t.update (·.hasId id) fun r =>
      { r with
        status := some completedStatus
        finishedAt := some (.ofReading now)
        checksum := checksum.or r.checksum
        failureReason := none })
  | delete id => .ok (t.remove (·.hasId id))

inductive Query where
  | byId (id : String)
  /-- All rows in the order of their ids. -/
  | all
  /-- The rows of completed migrations, the most recently finished one first. -/
  | completedByRecency
  deriving Repr, DecidableEq

def Query.run (t : TrackingTable) : Query → List TrackingRow
  | byId id => t.rows.filter (·.hasId id)
  | all => t.rows.mergeSort TrackingRow.idNotAfter
  | completedByRecency =>
    (t.rows.filter (·.status == some completedStatus)).mergeSort TrackingRow.finishedNotBefore

end SchemaMigration
