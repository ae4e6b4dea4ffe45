namespace DbConnections

structure Requirement where
  family : String
  package : String
  deriving DecidableEq, Repr

namespace Requirement

/-- The families that need a package, and the package each needs. -/
def table : List Requirement :=
  [⟨"mysql", "pymysql"⟩, ⟨"postgresql", "psycopg2"⟩, ⟨"oracle", "cx_oracle"⟩,
   ⟨"mssql", "pyodbc"⟩]

/-- The family of a dialect: the text before the first `+`, lower-cased. Lower-casing ASCII
letters is enough to tell the families apart: no other character lower-cases to a string of
ASCII letters found in the table's family names. -/
def familyOf (dialect : String) : String :=
  String.ofList ((dialect.toList.takeWhile (· ≠ '+')).map Char.toLower)

def of? (dialect : String) : Option Requirement :=
  table.find? (·.family == familyOf dialect)

end Requirement

end DbConnections
