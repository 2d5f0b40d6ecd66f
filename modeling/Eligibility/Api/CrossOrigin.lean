import Eligibility.Api.Request
import Eligibility.Document.Display
import Eligibility.Settings.Basic
import Eligibility.Text.Lowercase

/-!
# Requests from other origins

Before a browser sends a request to another origin, it asks for leave: with the method
`OPTIONS`, its own origin, and the method and the headers that it wants to use. The server
answers from its settings alone, whatever the path. A star in a list of the settings stands
for everything. The answer names the methods and the headers that may be used, which takes
characters that have a single byte.
-/

namespace Eligibility

namespace Request

/-- The method that the request asks leave for, if it asks for any. -/
def askedMethod? (r : Request) : Option String :=
  if r.method = "OPTIONS" ∧ (r.header? "Origin").isSome then
    r.header? "Access-Control-Request-Method"
  else none

end Request

namespace Settings

/-- The methods that a star stands for. -/
def allMethods : List String :=
  ["DELETE", "GET", "HEAD", "OPTIONS", "PATCH", "POST", "PUT", "QUERY"]

/-- The headers that need no leave. -/
def freeHeaders : List String := ["Accept", "Accept-Language", "Content-Language", "Content-Type"]

/-- The methods that requests from other origins may use. -/
def allowedMethods (s : Settings) : List String :=
  if s.corsMethods.contains "*" then allMethods else s.corsMethods

/-- The headers that requests from other origins may use, unless they may use all. -/
def allowedHeaders (s : Settings) : List String :=
  (freeHeaders ++ s.corsHeaders).eraseDups.mergeSort fun a b => !decide (b < a)

/-- Requests may come from the origin. -/
def allowsOrigin (s : Settings) (origin : String) : Bool :=
  s.corsOrigins.contains "*" || s.corsOrigins.contains origin

/-- Requests from other origins may use the method. -/
def allowsMethod (s : Settings) (method : String) : Bool :=
  s.allowedMethods.contains method

/-- Requests from other origins may use the headers of a list with commas. -/
def allowsHeaders (s : Settings) (headers : String) : Bool :=
  let allowed := s.allowedHeaders.map Text.lower
  s.corsHeaders.contains "*" ||
    (headers.splitOn ",").all fun header => allowed.contains (Text.trim (Text.lower header))

/-- What a request asks leave for, with this method, is allowed. Private networks are never
open. -/
def allows (s : Settings) (r : Request) (method : String) : Bool :=
  s.allowsOrigin ((r.header? "Origin").getD "") && s.allowsMethod method &&
    ((r.header? "Access-Control-Request-Headers").map s.allowsHeaders).getD true &&
    (r.header? "Access-Control-Request-Private-Network").isNone

end Settings

/-! ## The headers of the answer -/

/-- Characters of a header that have no single byte: the first one, its position, and how
many there are in a row. -/
structure WideCharacters where
  first : Char
  position : Nat
  count : Nat
deriving DecidableEq, Repr

namespace WideCharacters

/-- The message of a header with such characters. -/
def message (w : WideCharacters) : String :=
  let place :=
    if w.count ≤ 1 then
      "character '" ++ String.ofList (Text.numberedChar w.first) ++ s!"' in position {w.position}"
    else s!"characters in position {w.position}-{w.position + w.count - 1}"
  s!"'latin-1' codec can't encode {place}: ordinal not in range(256)"

/-- A character that has no single byte. -/
def isWide (c : Char) : Bool := 0x100 ≤ c.toNat

/-- The first such characters of a text. -/
def ofText? (s : String) : Option WideCharacters :=
  let before := s.toList.takeWhile (!isWide ·)
  match s.toList.drop before.length with
  | c :: cs => some ⟨c, before.length, (cs.takeWhile isWide).length + 1⟩
  | [] => none

end WideCharacters

/-- The lists in the headers of the answer. Headers are not listed if all may be used. -/
def Settings.leaveHeaders (s : Settings) : List String :=
  ", ".intercalate s.allowedMethods ::
    if s.corsHeaders.contains "*" then [] else [", ".intercalate s.allowedHeaders]

/-- The headers of the answer can be written. -/
def Settings.checkLeave (s : Settings) : Except WideCharacters Unit :=
  match s.leaveHeaders.findSome? WideCharacters.ofText? with
  | some wide => .error wide
  | none => .ok ()

end Eligibility
