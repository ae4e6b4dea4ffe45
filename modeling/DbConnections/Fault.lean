import DbConnections.Validator
import DbConnections.Requirement
namespace DbConnections

inductive Found where
  | module (path : String)
  | type (name : String)
  | object (typeName : String)
  deriving DecidableEq, Repr

/-- Why an operation on connections failed. -/
inductive Fault where
  | rejected (r : Rejection)
  | invalidAtStart (issues : List (Field × Issue))
  | duplicateName (name : String)
  | missingDriver (r : Requirement) (dialect : String)
  | unknownBackend (plugin : String)
  | malformedBackend
  | noDialect (f : Found)
  | emptyDialect
  | missingModule (module : String)
  | invalidFileUrl (url : String)
  | notFound (name : String)
  | unhashable (typeName : String)
  | indexOutOfRange
  | indexTooLarge
  | badIndex (typeName : String)
  | noSplit (typeName : String)
  | bytesSplit
  | notIterable (typeName : String)
  | missingKey (name : String)
  deriving DecidableEq, Repr

namespace Fault

variable [Validator]

def message : Fault → String
  | .rejected r => r.message
  | .invalidAtStart issues => "⚠️ Configuração inválida: " ++ Validator.report issues
  | .duplicateName n => "⚠️ A conexão '" ++ n ++ "' já existe! Escolha outro nome."
  | .missingDriver r d =>
    "⚠️ Driver necessário: " ++ r.package ++ "\n💡 Instale com: pip install datasolver[" ++
      r.family ++ "]\n🛠️ Dialeto usado: " ++ d
  | .unknownBackend p => "Can't load plugin: sqlalchemy.dialects:" ++ p
  | .malformedBackend => "too many values to unpack (expected 2)"
  | .noDialect (.module p) => "module '" ++ p ++ "' has no attribute 'dialect'"
  | .noDialect (.type n) => "type object '" ++ n ++ "' has no attribute 'dialect'"
  | .noDialect (.object t) => "'" ++ t ++ "' object has no attribute 'dialect'"
  | .emptyDialect => "'NoneType' object has no attribute 'get_dialect_cls'"
  | .missingModule m => "No module named '" ++ m ++ "'"
  | .invalidFileUrl u =>
    "Invalid SQLite URL: " ++ u ++ "\nValid SQLite URL forms are:\n sqlite:///:memory: (or, sqlite://)\n sqlite:///relative/path/to/file.db\n sqlite:////absolute/path/to/file.db"
  | .notFound n => "⚠️ Conexão '" ++ n ++ "' não encontrada."
  | .unhashable t => "unhashable type: '" ++ t ++ "'"
  | .indexOutOfRange => "list index out of range"
  | .indexTooLarge => "cannot fit 'int' into an index-sized integer"
  | .badIndex t => "list indices must be integers or slices, not " ++ t
  | .noSplit t => "'" ++ t ++ "' object has no attribute 'split'"
  | .bytesSplit => "a bytes-like object is required, not 'str'"
  | .notIterable t => "'" ++ t ++ "' object is not iterable"
  | .missingKey n => "'" ++ n ++ "'"

/-- The fault that creating a registry raises where adding one of its settings raised `f`:
refused fields become a refused start with the same issues; every other fault is raised as it
is. -/
def raisedAtStart : Fault → Fault
  | .rejected (.invalid issues) => .invalidAtStart issues
  | f => f

end Fault

end DbConnections
