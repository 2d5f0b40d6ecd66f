import Eligibility.Document.Display
import Eligibility.Store.Session

/-!
# Queries

What a database is asked: for all rows of a table, for the row of a name, for the rows of
some names, or to take a row. A query has a statement with a question mark for each text that
it depends on. If a query fails, the message shows the statement and the texts.
-/

namespace Eligibility

namespace TableName

/-- The columns of a table. The second one holds the name of a row. -/
def columns : TableName → List String
  | .rules => ["id", "name", "rule_string", "ast", "created_at"]
  | .attributes => ["id", "attribute_name", "data_type", "allowed_values", "created_at"]

/-- A column with its table. -/
def column (table : TableName) (name : String) : String := s!"{table.word}.{name}"

/-- The column of the names. -/
def nameColumn : TableName → String
  | .rules => column .rules "name"
  | .attributes => column .attributes "attribute_name"

/-- The column by which a list of all rows is ordered. -/
def orderColumn : TableName → String
  | .rules => column .rules "id"
  | .attributes => column .attributes "attribute_name"

end TableName

/-- What a database is asked. -/
inductive Query where
  | all (table : TableName)
  | named (table : TableName) (name : String)
  | anyOf (table : TableName) (names : List String)
  /-- A rule is to be stored, with its document as a text. -/
  | insertion (name text document : String)
deriving DecidableEq, Repr

namespace Query

/-- The table that is looked at. -/
def table : Query → TableName
  | .all table => table
  | .named table _ => table
  | .anyOf table _ => table
  | .insertion .. => .rules

/-- The texts that the query depends on. -/
def parameters : Query → List String
  | .all _ => []
  | .named _ name => [name]
  | .anyOf _ names => names.eraseDups
  | .insertion name text document => [name, text, document]

/-- A question mark for each text that the query depends on. -/
def marks (q : Query) : String := ", ".intercalate (q.parameters.map fun _ => "?")

/-- The statement that looks up rows, up to the condition. -/
def selection (table : TableName) : String :=
  "SELECT " ++ ", ".intercalate (table.columns.map table.column) ++ s!" \nFROM {table.word}"

/-- The statement of the query. -/
def statement (q : Query) : String :=
  match q with
  | .all table => s!"{selection table} ORDER BY {table.orderColumn}"
  | .named table _ => s!"{selection table} \nWHERE {table.nameColumn} = ?"
  | .anyOf table _ =>
      s!"{selection table} \nWHERE {table.nameColumn} IN ({q.marks}) ORDER BY " ++
        table.column "id"
  | .insertion .. =>
      s!"INSERT INTO rules (name, rule_string, ast) VALUES ({q.marks}) RETURNING id, created_at"

/-- The most characters of a text that a message shows. -/
def maxShown : Nat := 300

/-- A text in quotes. Of a long one the middle is left out. -/
def shortened (s : String) : String :=
  let cs := (Text.display s).toList
  if cs.length ≤ maxShown then String.ofList cs
  else
    let half := maxShown / 2
    String.ofList (cs.take half) ++ s!" ... ({cs.length - maxShown} characters truncated) ... " ++
      String.ofList (cs.drop (cs.length - half))

/-- The lines that show the statement and the texts of the query. -/
def details (q : Query) : List String :=
  let shown := q.parameters.map shortened
  let parameters := match shown with
    | [] => []
    | [only] => [s!"[parameters: ({only},)]"]
    | _ => ["[parameters: (" ++ ", ".intercalate shown ++ ")]"]
  s!"[SQL: {q.statement}]" :: parameters

end Query

/-- What a database cannot do: what is asked, or keep its own rules. -/
inductive DatabaseFault where
  | operation
  | integrity
deriving DecidableEq, Repr

/-- The word for a fault. -/
def DatabaseFault.word : DatabaseFault → String
  | operation => "sqlite3.OperationalError"
  | integrity => "sqlite3.IntegrityError"

/-- The page that explains a fault. -/
def DatabaseFault.page : DatabaseFault → String
  | operation => "https://sqlalche.me/e/21/e3q8"
  | integrity => "https://sqlalche.me/e/21/gkpj"

/-- The message of a fault with some details. -/
def DatabaseFault.message (fault : DatabaseFault) (what : String) (details : List String) :
    String :=
  "\n".intercalate <| s!"({fault.word}) {what}" :: details ++
    [s!"(Background on this error at: {fault.page})"]

namespace Query

/-- The message of a query whose table has not been created. -/
def missingTable (q : Query) : String :=
  DatabaseFault.operation.message s!"no such table: {q.table.word}" q.details

/-- The message of an insertion with a name that is taken. -/
def nameTaken (q : Query) : String :=
  DatabaseFault.integrity.message s!"UNIQUE constraint failed: {q.table.nameColumn}" q.details

end Query

end Eligibility
