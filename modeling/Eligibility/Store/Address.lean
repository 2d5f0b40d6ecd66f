import Eligibility.Document.Display
import Eligibility.Number.Layout
import Eligibility.Number.Reading
import Eligibility.Store.Query
import Eligibility.Text.Form
import Eligibility.Text.Word

/-!
# Addresses of databases

The address of a database names its kind and a driver, and where the database is: a user, a
host with a port, and a name, each of which may be left out. Options for the connection may
follow.
-/

namespace Eligibility

/-- The address of a database. The scheme is the kind of the database, with a plus sign and
the driver behind it if the address names one. -/
structure Address where
  scheme : String
  user : Option String
  password : Option String
  host : Option String
  port : Option Int
  name : Option String
  options : List (String × String)

/-- Why no database can be reached at an address. -/
inductive AddressError where
  /-- The text is no address. -/
  | unreadable
  /-- A text that has to be an integer is not read as one. -/
  | integerUnreadable (cause : Number.ConversionError)
  /-- A text that has to be a number is none. -/
  | numberUnreadable (text : String)
  /-- A text that has to be a truth value is none. -/
  | truthUnreadable (text : String)
  /-- An option that takes an integer is given more than once. -/
  | severalIntegers
  /-- An option that takes a number is given more than once. -/
  | severalNumbers
  /-- An option that is passed on as it is is given more than once. -/
  | severalTexts
  /-- An extension is asked for that is not present. -/
  | unknownExtension (name : String)
  /-- More than one driver is named. -/
  | severalDrivers
  /-- No driver of the kind of database has this name. -/
  | unknownDriver (name : String)
  /-- The name of the driver is that of something else. -/
  | noDriver (thing : String)
  /-- The driver depends on a module that is not present. -/
  | moduleMissing (name : String)
  /-- The driver cannot be used asynchronously. -/
  | notAsynchronous (driver : String)
  /-- An SQLite database has no user and no host. -/
  | notLocal (address : String)
  /-- Options are to be put behind a name that is not given. -/
  | nameMissing
  /-- The name of a file holds a character with the number zero. -/
  | nameCut
  /-- An option has an integer of more than thirty-two bits. -/
  | integerTooLarge
  /-- The isolation of transactions has none of the known levels. -/
  | isolationUnknown
  /-- A file is to be opened in an unknown way. -/
  | modeUnknown (kind mode : String)
deriving DecidableEq, Repr

/-- The message of the error. -/
def AddressError.message : AddressError → String
  | .unreadable => "Could not parse SQLAlchemy URL from given URL string"
  | .integerUnreadable cause => cause.message
  | .numberUnreadable text => s!"could not convert string to float: {Text.display text}"
  | .truthUnreadable text => s!"String is not true/false: {Text.display text}"
  | .severalIntegers =>
      "int() argument must be a string, a bytes-like object or a real number, not 'tuple'"
  | .severalNumbers => "float() argument must be a string or a real number, not 'tuple'"
  | .severalTexts => "quote_from_bytes() expected bytes"
  | .unknownExtension name => s!"Can't load plugin: sqlalchemy.plugins:{name}"
  | .severalDrivers => "too many values to unpack (expected 2)"
  | .unknownDriver name => s!"Can't load plugin: sqlalchemy.dialects:{name}"
  | .noDriver thing => s!"{thing} has no attribute 'dialect'"
  | .moduleMissing name => s!"No module named '{name}'"
  | .notAsynchronous driver =>
      "The asyncio extension requires an async driver to be used. The loaded " ++
        s!"{Text.display driver} is not async."
  | .notLocal address =>
      s!"Invalid SQLite URL: {address}\nValid SQLite URL forms are:\n " ++
        "sqlite:///:memory: (or, sqlite://)\n sqlite:///relative/path/to/file.db\n " ++
        "sqlite:////absolute/path/to/file.db"
  | .nameMissing => "unsupported operand type(s) for +=: 'NoneType' and 'str'"
  | .nameCut => "embedded null byte"
  | .integerTooLarge => "Python int too large to convert to C int"
  | .isolationUnknown =>
      "isolation_level string must be '', 'DEFERRED', 'IMMEDIATE', or 'EXCLUSIVE'"
  | .modeUnknown kind mode => DatabaseFault.operation.message s!"no such {kind} mode: {mode}" []

namespace Address

/-! ## Reading -/

/-- What stands before the last occurrence of a character, and what stands behind it. -/
def splitLast? (mark : Char) (cs : List Char) : Option (List Char × List Char) :=
  match cs.reverse.dropWhile (· != mark) with
  | [] => none
  | _ :: before => some (before.reverse, (cs.reverse.takeWhile (· != mark)).reverse)

/-- The user and the password in front of a host, and what follows them. The password may
hold anything but an at sign. -/
def splitUser (cs : List Char) : Option (List Char) × Option (List Char) × List Char :=
  let isUser := fun c => !(c == ':' || c == '/')
  let user := cs.takeWhile isUser
  match cs.dropWhile isUser with
  | ':' :: after =>
      match after.dropWhile (· != '@') with
      | _ :: rest => (some user, some (after.takeWhile (· != '@')), rest)
      | [] => splitPlain user
  | _ => splitPlain user
where
  /-- The user alone, up to the last at sign. -/
  splitPlain (user : List Char) : Option (List Char) × Option (List Char) × List Char :=
    match splitLast? '@' user with
    | some (name, _) => (some name, none, cs.drop (name.length + 1))
    | none => (none, none, cs)

/-- The host at the start of a text, which may stand in brackets, and what follows it. -/
def splitHost (cs : List Char) : Option (List Char) × List Char :=
  match bracketed? with
  | some found => found
  | none =>
      match cs.takeWhile fun c => !(c == '/' || c == ':' || c == '?') with
      | [] => (none, cs)
      | host => (some host, cs.drop host.length)
where
  /-- The host in brackets. -/
  bracketed? : Option (Option (List Char) × List Char) :=
    match cs with
    | '[' :: after =>
        match splitLast? ']' (after.takeWhile fun c => !(c == '/' || c == '?')) with
        | some (c :: host, _) => some (some (c :: host), after.drop (host.length + 2))
        | _ => none
    | _ => none

/-- What follows a mark up to a character of a class, and what follows that. Without the mark
there is nothing. -/
def splitAfter (mark : Char) (ends : Char → Bool) (cs : List Char) :
    Option (List Char) × List Char :=
  match cs with
  | c :: after =>
      if c = mark then (some (after.takeWhile (!ends ·)), after.dropWhile (!ends ·))
      else (none, cs)
  | [] => (none, [])

/-- The port that a text names. -/
def port? : Option (List Char) → Except AddressError (Option Int)
  | none => .ok none
  | some cs =>
      match Number.readInteger (String.ofList cs) with
      | .ok n => .ok (some n)
      | .error e => .error (.integerUnreadable e)

/-- The options of the text behind a question mark. An option without a value counts as not
given. -/
def optionsOf (cs : Option (List Char)) : List (String × String) :=
  (Text.formFields (cs.getD [])).filter fun (_, value) => !value.isEmpty

/-- The address that a text names. -/
def ofText? (s : String) : Except AddressError Address :=
  let isScheme := fun c => Text.isWordChar c || c == '+'
  let scheme := s.toList.takeWhile isScheme
  match scheme, s.toList.dropWhile isScheme with
  | _ :: _, ':' :: '/' :: '/' :: rest =>
      let (user, password, rest) := splitUser rest
      let (host, rest) := splitHost rest
      let (port, rest) := splitAfter ':' (fun c => c == '/' || c == '?') rest
      let (name, rest) := splitAfter '/' (· == '?') rest
      let (options, _) := splitAfter '?' (· == '\n') rest
      (port? port).map fun port =>
        ⟨String.ofList scheme, user.map Text.unescaped, password.map Text.unescaped,
          host.map String.ofList, port, name.map Text.unescaped, optionsOf options⟩
  | _, _ => .error .unreadable

/-! ## Writing -/

/-- The options in order of their names. -/
def sortedOptions (a : Address) : List (String × String) :=
  a.options.mergeSort fun (name, _) (other, _) => !decide (other < name)

/-- The text of an address, with the password hidden and the options in order. -/
def text (a : Address) : String :=
  let credentials := match a.user, a.password with
    | none, _ => ""
    | some user, none => Text.escaped [' ', '+'] user ++ "@"
    | some user, some _ => Text.escaped [' ', '+'] user ++ ":***@"
  let host := match a.host with
    | none => ""
    | some host => if host.toList.contains ':' then s!"[{host}]" else host
  let port := a.port.elim "" fun port => s!":{Number.integerText port}"
  let name := a.name.elim "" fun name => "/" ++ Text.escaped [' ', '+', '/'] name
  let options := if a.options.isEmpty then "" else "?" ++ Text.form a.sortedOptions
  s!"{a.scheme}://{credentials}{host}{port}{name}{options}"

end Address

end Eligibility
