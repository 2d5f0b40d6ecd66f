import Eligibility.Store.Address

/-!
# Drivers

The scheme of an address names a kind of database and a driver for it, or leaves the driver
to the kind. Of all drivers only two are present: both are for SQLite, and one of them works
asynchronously. Some names that look like drivers are those of other things that belong to a
kind of database.
-/

namespace Eligibility

/-- What a name stands for among the drivers of a kind of database. -/
inductive Driver where
  /-- A driver that depends on a module that is not present. -/
  | absent (needs : String)
  /-- The driver of SQLite that works synchronously. -/
  | synchronous
  /-- The driver of SQLite that works asynchronously. -/
  | asynchronous
  /-- Something else than a driver. -/
  | other (thing : String)

namespace Driver

/-- The name of the driver that is used where an address names none. -/
def usual : String := "base"

/-- Parts of a kind of database that are no drivers. -/
def parts (kind : String) (names : List String) : List (String × Driver) :=
  names.map fun name => (name, other s!"module 'sqlalchemy.dialects.{kind}.{name}'")

/-- Classes of a kind of database. -/
def classes (names : List String) : List (String × Driver) :=
  names.map fun name => (name, other s!"type object '{name}'")

/-- Drivers with the modules that they need, none of which is present. -/
def absents (drivers : List (String × String)) : List (String × Driver) :=
  drivers.map fun (name, needs) => (name, absent needs)

/-- The names of a kind of database that two kinds share. -/
def shared : List (String × Driver) :=
  absents [(usual, "MySQLdb"), ("mysqldb", "MySQLdb"), ("pymysql", "pymysql"),
    ("aiomysql", "aiomysql"), ("asyncmy", "asyncmy"), ("cymysql", "cymysql"),
    ("mysqlconnector", "mysql"), ("mariadbconnector", "mariadb"), ("pyodbc", "pyodbc")] ++
  parts "mysql" ["dml", "enumerated", "expression", "json", "mariadb", "reflection",
    "reserved_words", "types"]

/-- The names of SQLite. -/
def sqlite : List (String × Driver) :=
  [(usual, synchronous), ("pysqlite", synchronous), ("aiosqlite", asynchronous)] ++
  absents [("pysqlcipher", "pysqlcipher3")] ++
  parts "sqlite" ["dml", "json"] ++
  classes ["BLOB", "BOOLEAN", "CHAR", "DATE", "DATETIME", "DECIMAL", "FLOAT", "INTEGER", "Insert",
    "JSON", "NUMERIC", "REAL", "SMALLINT", "TEXT", "TIME", "TIMESTAMP", "VARCHAR"] ++
  [("dialect", other "type object 'SQLiteDialect_pysqlite'"), ("insert", other "'function' object")]

/-- The kinds of databases, with the names of each. -/
def kinds : List (String × List (String × Driver)) :=
  [("sqlite", sqlite),
    ("postgresql",
      absents [(usual, "psycopg"), ("psycopg", "psycopg"), ("psycopg_async", "psycopg"),
        ("asyncpg", "asyncpg"), ("psycopg2", "psycopg2"), ("psycopg2cffi", "psycopg2cffi"),
        ("pg8000", "pg8000")] ++
      parts "postgresql" ["dml", "ext", "json", "named_types", "operators", "pg_catalog",
        "ranges", "types"]),
    ("mysql", shared), ("mariadb", shared),
    ("oracle",
      absents [(usual, "oracledb"), ("oracledb", "oracledb"), ("oracledb_async", "oracledb"),
        ("cx_oracle", "cx_Oracle")] ++
      parts "oracle" ["dictionary", "types", "vector"]),
    ("mssql",
      absents [(usual, "pyodbc"), ("pyodbc", "pyodbc"), ("pymssql", "pymssql"),
        ("aioodbc", "aioodbc"), ("mssqlpython", "mssql_python")] ++
      parts "mssql" ["information_schema", "json"])]

/-- The driver of a name for a kind of database. -/
def ofName? (kind name : String) : Option Driver := (kinds.lookup kind).bind (List.lookup name)

end Driver

namespace Address

/-- What the scheme of an address stands for. -/
def driver? (a : Address) : Except AddressError Driver :=
  let found := fun kind name full =>
    match Driver.ofName? kind name with
    | some driver => .ok driver
    | none => .error (.unknownDriver full)
  match a.scheme.splitOn "+" with
  | [kind] => found kind Driver.usual kind
  | [kind, name] => found kind name s!"{kind}.{name}"
  | _ => .error .severalDrivers

end Address

end Eligibility
