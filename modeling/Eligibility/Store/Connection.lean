import Eligibility.Store.Driver
import Eligibility.Text.Lowercase

/-!
# Connections

Whether a database can be reached at an address. That takes the asynchronous driver of
SQLite, which knows neither users nor hosts, and options that make sense. An option may be
given more than once, which only some options allow.
-/

namespace Eligibility.Address

/-! ## Options -/

/-- The values of an option. -/
def valuesOf (a : Address) (name : String) : List String :=
  (a.options.filter fun (other, _) => other == name).map (·.2)

/-- The truth value of an option. Given more than once, it is true. -/
def truth? (a : Address) (name : String) : Except AddressError (Option Bool) :=
  match a.valuesOf name with
  | [] => .ok none
  | [value] =>
      let word := Text.lower (Text.trim value)
      if ["true", "yes", "on", "y", "t", "1"].contains word then .ok (some true)
      else if ["false", "no", "off", "n", "f", "0"].contains word then .ok (some false)
      else .error (.truthUnreadable word)
  | _ => .ok (some true)

/-- The integer of an option. -/
def integer? (a : Address) (name : String) : Except AddressError (Option Int) :=
  match a.valuesOf name with
  | [] => .ok none
  | [value] =>
      match Number.readInteger value with
      | .ok n => .ok (some n)
      | .error e => .error (.integerUnreadable e)
  | _ => .error .severalIntegers

/-- An option that takes a number has one. -/
def checkNumber (a : Address) (name : String) : Except AddressError Unit :=
  match a.valuesOf name with
  | [] => .ok ()
  | [value] =>
      if (Number.plainDoubleOf? value).isSome then .ok () else .error (.numberUnreadable value)
  | _ => .error .severalNumbers

/-- The names of the options of an SQLite connection. The first one asks for the name of the
database to be taken for an address of its own. -/
def optionNames : List String :=
  ["uri", "timeout", "isolation_level", "detect_types", "check_same_thread", "cached_statements"]

/-- The options that are put behind the name of the database, where that is an address. -/
def nameOptions (a : Address) : List (String × String) :=
  a.sortedOptions.filter fun (name, _) => !optionNames.contains name

/-- The options behind the name of the database have one value each, and the name is given
if there are any. -/
def checkNameOptions (a : Address) : Except AddressError Unit := do
  let names := a.nameOptions.map (·.1)
  if names.any fun name => 1 < names.count name then throw .severalTexts
  if a.name.isNone && !names.isEmpty then throw .nameMissing

/-! ## Opening -/

/-- The integer has thirty-two bits. -/
def fitsHalfWord (n : Int) : Bool :=
  -(Nat.pow 2 31 : Nat) ≤ n && n < (Nat.pow 2 31 : Nat)

/-- The ways in which a file may be opened, for the options that tell them. -/
def openingModes : List (String × String × List String) :=
  [("cache", "cache", ["shared", "private"]), ("mode", "access", ["ro", "rw", "rwc", "memory"])]

/-- The options behind the name of a file are known ways of opening it. -/
def checkModes (a : Address) : Except AddressError Unit :=
  a.nameOptions.forM fun (name, value) =>
    match openingModes.lookup name with
    | none => .ok ()
    | some (kind, modes) =>
        if modes.contains value then .ok () else .error (.modeUnknown kind value)

/-- An integer that is handed to SQLite is small. -/
def checkSize (n : Option Int) : Except AddressError Unit :=
  if n.any (!fitsHalfWord ·) then .error .integerTooLarge else .ok ()

/-- The isolation of transactions is not known if it is given more than once. Given once, it
is passed over. -/
def checkIsolation (a : Address) : Except AddressError Unit :=
  if 1 < (a.valuesOf "isolation_level").length then .error .isolationUnknown else .ok ()

/-- The database of a name can be opened, given the integers among the options. -/
def checkOpening (a : Address) (byAddress : Bool) (types statements : Option Int) :
    Except AddressError Unit := do
  let name := (a.name.getD "").toList
  if name.contains '\x00' then throw .nameCut
  checkSize types
  a.checkIsolation
  checkSize statements
  if byAddress && "file:".toList.isPrefixOf name then a.checkModes

/-! ## Checks -/

/-- The address names a user, a password, a host or a port. -/
def isRemote (a : Address) : Bool :=
  let isGiven := fun s : Option String => s.any fun s => !s.isEmpty
  isGiven a.user || isGiven a.password || isGiven a.host || a.port.any (· != 0)

/-- An SQLite database can be reached at the address. -/
def checkSqlite (a : Address) (isAsynchronous : Bool) : Except AddressError Unit := do
  if a.isRemote then throw (.notLocal a.text)
  let byAddress := (← a.truth? "uri").getD false
  a.checkNumber "timeout"
  let types ← a.integer? "detect_types"
  discard (a.truth? "check_same_thread")
  let statements ← a.integer? "cached_statements"
  if byAddress then a.checkNameOptions
  if !isAsynchronous then throw (.notAsynchronous "pysqlite")
  a.checkOpening byAddress types statements

/-- The address without the option that asks for extensions under another name. -/
def withoutExtensions (a : Address) : Address :=
  { a with options := a.options.filter fun (name, _) => name != "plugins" }

/-- Fails unless a database can be reached at the address. No extensions are present. -/
def check (a : Address) : Except AddressError Unit := do
  if let extension :: _ := a.valuesOf "plugin" then throw (.unknownExtension extension)
  match ← a.driver? with
  | .absent needs => throw (.moduleMissing needs)
  | .other thing => throw (.noDriver thing)
  | .synchronous => a.withoutExtensions.checkSqlite false
  | .asynchronous => a.withoutExtensions.checkSqlite true

end Eligibility.Address
