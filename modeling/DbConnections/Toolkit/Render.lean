import DbConnections.Url
namespace DbConnections

namespace Url

/-- Percent-encodes the three characters that separate parts of the URL's authority. -/
def encodeChar : Char → List Char
  | ':' => ['%', '3', 'A']
  | '@' => ['%', '4', '0']
  | '/' => ['%', '2', 'F']
  | c => [c]

def encode (s : String) : String := String.ofList (s.toList.flatMap encodeChar)

def mask : String := "***"

/-- The user, then `:` and the password if any, then `@`; nothing without a user. -/
def credentials (u : Url) (masked : Bool) : String :=
  match u.username with
  | none => ""
  | some user =>
    encode user ++ (match u.password with
      | none => ""
      | some pw => ":" ++ if masked then mask else encode pw) ++ "@"

def hostText : Option String → String
  | none => ""
  | some h => if h.toList.contains ':' then "[" ++ h ++ "]" else h

def render (u : Url) (masked : Bool) : String :=
  u.drivername ++ "://" ++ u.credentials masked ++ hostText u.host ++
    (match u.port with
      | none => ""
      | some p => ":" ++ toString p) ++ "/" ++ u.database

def text (u : Url) : String := u.render false

def masked (u : Url) : String := u.render true

end Url

end DbConnections
