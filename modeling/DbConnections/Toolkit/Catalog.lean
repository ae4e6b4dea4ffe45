import DbConnections.Fault
namespace DbConnections

namespace Plugin

structure Driver where
  name : String
  absent : Option String
  deriving DecidableEq, Repr

/-- What a name in a plug-in package stands for. -/
inductive Member where
  | driver (d : Driver)
  | emptyDialect
  | found (f : Found)
  deriving DecidableEq, Repr

inductive Shape where
  | package
  | file
  | namespace
  deriving DecidableEq, Repr

/-- A plug-in package of a database family, or another module that a family name reaches. -/
structure Package where
  family : String
  path : String
  shape : Shape := .package
  default : Option String := none
  dialectClass : Option String := none
  drivers : List Driver := []
  modules : List String := []
  types : List (String × String) := []
  constructs : List String := []
  functions : List String := []
  imports : List (String × String) := []
  objects : List (String × String) := []
  deriving Repr

def sameNames (names : List String) : List (String × String) := names.map fun n => (n, n)

def compatModule : List (String × String) := [("compat", "sqlalchemy.util.compat")]

def moduleData (shape : Shape) : List (String × Found) :=
  [("__name__", .object "str"), ("__doc__", .object "NoneType"),
   ("__package__", .object "str"), ("__spec__", .object "ModuleSpec"),
   ("__dict__", .object "dict"), ("__annotations__", .object "dict"),
   ("__class__", .type "module")] ++
  match shape with
  | .namespace =>
    [("__loader__", .object "NamespaceLoader"), ("__path__", .object "_NamespacePath"),
     ("__file__", .object "NoneType")]
  | .package | .file =>
    [("__loader__", .object "SourceFileLoader"), ("__file__", .object "str"),
     ("__cached__", .object "str"), ("__builtins__", .object "dict"),
     ("__all__", .object "tuple")] ++
    if shape = .package then [("__path__", .object "list")] else []

def slotMethods : List String :=
  ["__repr__", "__getattribute__", "__setattr__", "__delattr__", "__init__", "__eq__",
   "__ne__", "__lt__", "__le__", "__gt__", "__ge__", "__hash__", "__str__"]

def builtinMethods : List String :=
  ["__dir__", "__new__", "__format__", "__reduce__", "__reduce_ex__", "__sizeof__",
   "__subclasshook__", "__init_subclass__", "__getstate__"]

def moduleAttribute? (shape : Shape) (name : String) : Option Found :=
  match (moduleData shape).lookup name with
  | some f => some f
  | none =>
    if slotMethods.contains name then some (.object "method-wrapper")
    else if builtinMethods.contains name then some (.object "builtin_function_or_method")
    else none

def mysqlDrivers : List Driver :=
  [⟨"mysqldb", some "MySQLdb"⟩, ⟨"pymysql", some "pymysql"⟩, ⟨"mysqlconnector", some "mysql"⟩,
   ⟨"cymysql", some "cymysql"⟩, ⟨"oursql", some "oursql"⟩, ⟨"pyodbc", some "pyodbc"⟩,
   ⟨"aiomysql", some "aiomysql"⟩, ⟨"asyncmy", some "asyncmy"⟩,
   ⟨"mariadbconnector", some "mariadb"⟩]

def sqlite : Package where
  family := "sqlite"
  path := "sqlalchemy.dialects.sqlite"
  default := some "pysqlite"
  dialectClass := some "SQLiteDialect_pysqlite"
  drivers := [⟨"pysqlite", none⟩, ⟨"aiosqlite", some "aiosqlite"⟩,
    ⟨"pysqlcipher", some "pysqlcipher3"⟩]
  modules := ["dml", "json"]
  types := sameNames ["BLOB", "BOOLEAN", "CHAR", "DATE", "DATETIME", "DECIMAL", "FLOAT",
    "INTEGER", "JSON", "NUMERIC", "REAL", "SMALLINT", "TEXT", "TIME", "TIMESTAMP", "VARCHAR",
    "Insert"]
  functions := ["insert"]
  imports := compatModule

def mysql : Package where
  family := "mysql"
  path := "sqlalchemy.dialects.mysql"
  default := some "mysqldb"
  dialectClass := some "MySQLDialect_mysqldb"
  drivers := mysqlDrivers
  modules := ["dml", "enumerated", "expression", "json", "mariadb", "reflection",
    "reserved_words", "types"]
  types := sameNames ["BIGINT", "BINARY", "BIT", "BLOB", "BOOLEAN", "CHAR", "DATE", "DATETIME",
    "DECIMAL", "DOUBLE", "ENUM", "FLOAT", "INTEGER", "JSON", "LONGBLOB", "LONGTEXT",
    "MEDIUMBLOB", "MEDIUMINT", "MEDIUMTEXT", "NCHAR", "NUMERIC", "NVARCHAR", "REAL", "SET",
    "SMALLINT", "TEXT", "TIME", "TIMESTAMP", "TINYBLOB", "TINYINT", "TINYTEXT", "VARBINARY",
    "VARCHAR", "YEAR", "Insert", "match"]
  functions := ["insert"]
  imports := compatModule

def postgresql : Package where
  family := "postgresql"
  path := "sqlalchemy.dialects.postgresql"
  default := some "psycopg2"
  dialectClass := some "PGDialect_psycopg2"
  drivers := [⟨"psycopg2", some "psycopg2"⟩, ⟨"psycopg2cffi", some "psycopg2cffi"⟩,
    ⟨"pg8000", some "pg8000"⟩, ⟨"asyncpg", some "asyncpg"⟩, ⟨"pygresql", some "pgdb"⟩,
    ⟨"pypostgresql", some "postgresql"⟩]
  modules := ["dml", "ext", "json", "ranges"]
  types := sameNames ["ARRAY", "array", "BIGINT", "BIT", "BOOLEAN", "BYTEA", "CHAR", "CIDR",
    "DATE", "DOUBLE_PRECISION", "ENUM", "FLOAT", "INET",
    "INTEGER", "INTERVAL", "MACADDR", "MONEY", "NUMERIC", "OID", "REAL", "REGCLASS",
    "SMALLINT", "TEXT", "TIME", "TIMESTAMP", "TSVECTOR", "UUID", "VARCHAR", "Insert",
    "aggregate_order_by", "ExcludeConstraint", "HSTORE", "hstore", "JSON", "JSONB",
    "DATERANGE", "INT4RANGE", "INT8RANGE", "NUMRANGE", "TSRANGE", "TSTZRANGE"]
  constructs := ["CreateEnumType", "DropEnumType"]
  functions := ["All", "Any", "insert", "array_agg"]
  imports := compatModule

def mssql : Package where
  family := "mssql"
  path := "sqlalchemy.dialects.mssql"
  default := some "pyodbc"
  dialectClass := some "MSDialect_pyodbc"
  drivers := [⟨"pyodbc", some "pyodbc"⟩, ⟨"pymssql", some "pymssql"⟩, ⟨"mxodbc", some "mx"⟩]
  modules := ["information_schema", "json"]
  types := sameNames ["BIGINT", "BINARY", "BIT", "CHAR", "DATE", "DATETIME", "DATETIME2",
    "DATETIMEOFFSET", "DECIMAL", "FLOAT", "IMAGE", "INTEGER", "JSON", "MONEY", "NCHAR",
    "NTEXT", "NUMERIC", "NVARCHAR", "REAL", "ROWVERSION", "SMALLDATETIME", "SMALLINT",
    "SMALLMONEY", "SQL_VARIANT", "TEXT", "TIME", "TIMESTAMP", "TINYINT", "UNIQUEIDENTIFIER",
    "VARBINARY", "VARCHAR", "XML"]
  functions := ["try_cast"]

def oracle : Package where
  family := "oracle"
  path := "sqlalchemy.dialects.oracle"
  default := some "cx_oracle"
  dialectClass := some "OracleDialect_cx_oracle"
  drivers := [⟨"cx_oracle", some "cx_Oracle"⟩]
  types := sameNames ["BFILE", "BINARY_DOUBLE", "BINARY_FLOAT", "BLOB", "CHAR", "CLOB", "DATE",
    "DOUBLE_PRECISION", "FLOAT", "INTERVAL", "LONG", "NCHAR", "NCLOB", "NUMBER", "NVARCHAR",
    "RAW", "ROWID", "TIMESTAMP", "VARCHAR", "VARCHAR2"] ++ [("NVARCHAR2", "NVARCHAR")]

def firebird : Package where
  family := "firebird"
  path := "sqlalchemy.dialects.firebird"
  default := some "fdb"
  dialectClass := some "FBDialect_fdb"
  drivers := [⟨"fdb", some "fdb"⟩, ⟨"kinterbasdb", some "kinterbasdb"⟩]
  types := sameNames ["BIGINT", "BLOB", "CHAR", "DATE", "FLOAT", "NUMERIC", "SMALLINT", "TEXT",
    "TIME", "TIMESTAMP", "VARCHAR"]

def sybase : Package where
  family := "sybase"
  path := "sqlalchemy.dialects.sybase"
  default := some "pyodbc"
  dialectClass := some "SybaseDialect_pyodbc"
  drivers := [⟨"pyodbc", some "pyodbc"⟩, ⟨"pysybase", some "Sybase"⟩]
  types := sameNames ["BIGINT", "BINARY", "BIT", "CHAR", "DATE", "DATETIME", "FLOAT", "IMAGE",
    "INTEGER", "MONEY", "NCHAR", "NUMERIC", "NVARCHAR", "SMALLINT", "SMALLMONEY", "TEXT",
    "TIME", "TINYINT", "UNICHAR", "UNITEXT", "UNIVARCHAR", "VARBINARY", "VARCHAR"] ++
    [("INT", "INTEGER")]

def dialectsFile : Package where
  family := "__init__"
  path := "sqlalchemy.dialects.__init__"
  shape := .file
  functions := ["_auto_fn"]
  imports := [("util", "sqlalchemy.util")]
  objects := [("registry", "PluginLoader"), ("plugins", "PluginLoader")]

def compiledFiles : Package where
  family := "__pycache__"
  path := "sqlalchemy.dialects.__pycache__"
  shape := .namespace

/-- Every module a family name reaches, found by that name. -/
def packages : List Package :=
  [sqlite, mysql, postgresql, mssql, oracle, firebird, sybase, dialectsFile, compiledFiles]

def mysqlHelperFiles : List String :=
  ["dml", "enumerated", "expression", "json", "mariadb", "provision", "reflection",
   "reserved_words", "types", "__pycache__"]

namespace Package

/-- The default driver. -/
def defaultDriver? (p : Package) : Option Driver :=
  p.default.bind fun d => p.drivers.find? (·.name == d)

/-- What a name in the package stands for; `none` when the package has no such name. The
`base` module and the package's own `dialect` stand for the default driver's dialect; the
latter is a class, which defines no dialect of its own. -/
def member? (p : Package) (name : String) : Option Member :=
  if name = "base" then Member.driver <$> p.defaultDriver?
  else if name = "dialect" then (fun c => Member.found (.type c)) <$> p.dialectClass
  else match p.drivers.find? (·.name == name) with
    | some d => some (.driver d)
    | none =>
      if p.modules.contains name then some (.found (.module (p.path ++ "." ++ name)))
      else if p.constructs.contains name then some .emptyDialect
      else match p.types.lookup name with
        | some cls => some (.found (.type cls))
        | none =>
          if p.functions.contains name then some (.found (.object "function"))
          else match p.imports.lookup name with
            | some path => some (.found (.module path))
            | none => match p.objects.lookup name with
              | some t => some (.found (.object t))
              | none => Member.found <$> moduleAttribute? p.shape name

end Package

def mariadbMember? (name : String) : Option Member :=
  if name = "base" ∨ name = "__init__" then Member.driver <$> mysql.defaultDriver?
  else match mysql.drivers.find? (·.name == name) with
    | some d => some (.driver d)
    | none =>
      if mysqlHelperFiles.contains name then some (.found (.module (mysql.path ++ "." ++ name)))
      else none

end Plugin

end DbConnections
