import Eligibility.Text.Escape

/-!
# Paths of requests

The target of a request is its path, with some characters written as escapes, and whatever
follows a question mark or a hash, which does not belong to the path. What is not UTF-8
becomes the replacement character. A client finds the target by resolving a reference.
-/

namespace Eligibility.Path

/-- The path of a target. -/
def ofTarget (target : String) : String :=
  Text.unescaped (target.toList.takeWhile fun c => !(c == '?' || c == '#'))

/-! ## References -/

/-- The segments so far, latest first, after one more. A dot adds nothing, and two dots take
the latest segment away, but not the empty one in front of the whole path. -/
def addSegment (done : List String) (segment : String) : List String :=
  if segment = "." then done
  else if segment = ".." then if done = [""] then done else done.tail
  else segment :: done

/-- The path without dot segments. -/
def withoutDots (path : String) : String :=
  let resolved := "/".intercalate ((path.splitOn "/").foldl addSegment []).reverse
  if resolved.isEmpty then "/" else resolved

/-- What follows the host in a reference, if two slashes in front announce one. -/
def dropHost : List Char → List Char
  | '/' :: '/' :: cs => cs.dropWhile (· != '/')
  | cs => cs

/-- The target of a reference: relative to the root of the server, and without dots. -/
def ofReference (reference : String) : String :=
  let isPath := fun c => !(c == '?' || c == '#')
  let path := dropHost (reference.toList.takeWhile isPath)
  withoutDots (String.ofList ('/' :: path.dropWhile (· == '/'))) ++
    String.ofList (reference.toList.dropWhile isPath)

end Eligibility.Path
