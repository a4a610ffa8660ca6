/-
  SealedDrop.Store.Driver
  ───────────────────────
  **WHICH DRIVERS OF TABLES THERE ARE.**

  A driver is named by a kind of database, and possibly by a connector after
  a plus sign.  The tables of this service live in memory, with the driver that
  is always at hand; every other known driver needs a component that is not
  part of the service.
-/
import SealedDrop.Text.Basic

namespace SealedDrop.Store

/-- Whether a driver can be used. -/
inductive Driver where
  /-- It keeps tables in memory. -/
  | atHand
  /-- It needs this component. -/
  | needs (component : Text)
  deriving DecidableEq, Repr

namespace Driver

/-- The names of the driver that is at hand. -/
def ownNames : List Text := ["sqlite", "sqlite+pysqlite", "sqlite+base"]

/-- The other drivers, each with the component that it needs. -/
def foreign : List (Text × Text) :=
  table.map fun (name, component) => (Text.ofString name, Text.ofString component)
where
  table : List (String × String) :=
    [("sqlite+aiosqlite", "aiosqlite"), ("sqlite+pysqlcipher", "pysqlcipher3"),
     ("postgresql", "psycopg"), ("postgresql+base", "psycopg"), ("postgresql+psycopg", "psycopg"),
     ("postgresql+psycopg_async", "psycopg"), ("postgresql+psycopg2", "psycopg2"),
     ("postgresql+asyncpg", "asyncpg"), ("postgresql+pg8000", "pg8000"),
     ("postgresql+psycopg2cffi", "psycopg2cffi"),
     ("mysql", "MySQLdb"), ("mysql+base", "MySQLdb"), ("mysql+mysqldb", "MySQLdb"),
     ("mysql+pymysql", "pymysql"), ("mysql+mysqlconnector", "mysql"),
     ("mysql+aiomysql", "aiomysql"), ("mysql+asyncmy", "asyncmy"), ("mysql+cymysql", "cymysql"),
     ("mysql+mariadbconnector", "mariadb"), ("mysql+pyodbc", "pyodbc"),
     ("mariadb", "MySQLdb"), ("mariadb+mysqldb", "MySQLdb"), ("mariadb+pymysql", "pymysql"),
     ("mariadb+mysqlconnector", "mysql"), ("mariadb+aiomysql", "aiomysql"),
     ("mariadb+asyncmy", "asyncmy"), ("mariadb+cymysql", "cymysql"),
     ("mariadb+mariadbconnector", "mariadb"), ("mariadb+pyodbc", "pyodbc"),
     ("oracle", "oracledb"), ("oracle+base", "oracledb"), ("oracle+oracledb", "oracledb"),
     ("oracle+oracledb_async", "oracledb"), ("oracle+cx_oracle", "cx_Oracle"),
     ("mssql", "pyodbc"), ("mssql+base", "pyodbc"), ("mssql+pyodbc", "pyodbc"),
     ("mssql+pymssql", "pymssql"), ("mssql+aioodbc", "aioodbc")]

/-- The driver of a name. -/
def ofName? (name : Text) : Option Driver :=
  if ownNames.contains name then some .atHand
  else (foreign.find? fun d => d.1 = name).map fun d => .needs d.2

/-- Every name stands for one driver: no name is given twice. -/
theorem names_nodup : (ownNames ++ foreign.map Prod.fst).Nodup := by decide +kernel

end Driver

end SealedDrop.Store
