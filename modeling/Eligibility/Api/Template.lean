import Eligibility.Document.Reader

/-!
# Path templates

The path of a route is a template: characters that stand for themselves, and parameters in
braces, each of which stands for a part of the path. A parameter takes one segment unless it
names another kind of part. Braces around anything else stand for themselves.
-/

namespace Eligibility

/-! ## Parts -/

/-- The part of a path that a parameter takes. -/
inductive PartKind where
  | segment
  | anything
  | integer
  | decimal
  | identifier
deriving DecidableEq, Repr

namespace PartKind

/-- The word for a kind of part. -/
def word : PartKind → String
  | segment => "str"
  | anything => "path"
  | integer => "int"
  | decimal => "float"
  | identifier => "uuid"

/-- The kind of part of a word. -/
def ofWord? (s : String) : Option PartKind :=
  [segment, anything, integer, decimal, identifier].find? fun kind => kind.word == s

/-- The text has groups of hexadecimal digits of these sizes, with or without a dash between
two groups. -/
def isGrouped : List Nat → List Char → Bool
  | [], cs => cs.isEmpty
  | [size], cs => cs.length == size && cs.all fun c => (Text.hexValue? c).isSome
  | size :: sizes, cs =>
      let group := cs.take size
      group.length == size && (group.all fun c => (Text.hexValue? c).isSome) &&
        isGrouped sizes (Number.dropMinus (cs.drop size))

/-- A part of this kind may hold the character. -/
def mayHold : PartKind → Char → Bool
  | segment, c => c != '/'
  | anything, c => c != '\n'
  | integer, c => Document.isPlainDigit c
  | decimal, c => Document.isPlainDigit c || c == '.'
  | identifier, c => (Text.hexValue? c).isSome || c == '-'

/-- The characters, all of which a part of this kind may hold, make up such a part. -/
def hasForm : PartKind → List Char → Bool
  | segment, cs => !cs.isEmpty
  | anything, _ => true
  | integer, cs => !cs.isEmpty
  | decimal, cs =>
      let (whole, rest) := Document.spanDigits cs
      !whole.isEmpty && (rest.isEmpty || Document.afterFraction? rest == some [])
  | identifier, cs => isGrouped [8, 4, 4, 4, 12] cs

end PartKind

/-! ## Templates -/

/-- A piece of a template: a character that stands for itself, or a parameter with its name
and the word for the kind of part that it takes. -/
inductive TemplatePiece where
  | letter (c : Char)
  | parameter (name kind : String)
deriving DecidableEq, Repr

/-- A template of paths. -/
abbrev Template := List TemplatePiece

/-- The parts of a path that the parameters of a template stand for, by name. -/
abbrev Parts := List (String × String)

namespace Template

/-- A character that a name may begin with. -/
def startsName (c : Char) : Bool :=
  ('a' ≤ c && c ≤ 'z') || ('A' ≤ c && c ≤ 'Z') || c == '_'

/-- The name at the start of a text, and what follows it. -/
def spanName (cs : List Char) : List Char × List Char :=
  match cs with
  | [] => ([], [])
  | c :: _ =>
      if startsName c then
        let isInner := fun c => startsName c || Document.isPlainDigit c
        (cs.takeWhile isInner, cs.dropWhile isInner)
      else ([], cs)

/-- The parameter whose opening brace has just been passed, with the number of characters
that it takes up behind the brace. -/
def parameter? (cs : List Char) : Option (TemplatePiece × Nat) :=
  match spanName cs with
  | ([], _) => none
  | (name, '\x7d' :: _) =>
      some (.parameter (String.ofList name) PartKind.segment.word, name.length + 1)
  | (name, ':' :: after) =>
      match spanName after with
      | ([], _) => none
      | (kind, '\x7d' :: _) =>
          some (.parameter (String.ofList name) (String.ofList kind),
            name.length + kind.length + 2)
      | _ => none
  | _ => none

/-- The pieces of a text of which a number of characters belong to a parameter that has been
read already. -/
def pieces : Nat → List Char → Template
  | _, [] => []
  | skipped + 1, _ :: cs => pieces skipped cs
  | 0, c :: cs =>
      if c = '\x7b' then
        match parameter? cs with
        | some (piece, size) => piece :: pieces size cs
        | none => .letter c :: pieces 0 cs
      else .letter c :: pieces 0 cs

/-- The template that a text writes. -/
def ofText (s : String) : Template := pieces 0 s.toList

/-- The names of the parameters, in order. -/
def names (t : Template) : List String :=
  t.filterMap fun
    | .parameter name _ => some name
    | .letter _ => none

/-- The parts that the parameters stand for, if the template fits the whole of a text. Where
it fits in several ways, earlier parameters take as much as they can. -/
def parts? : Template → List Char → Option Parts
  | [], [] => some []
  | [], _ :: _ => none
  | .letter _ :: _, [] => none
  | .letter a :: rest, c :: cs => if a = c then parts? rest cs else none
  | .parameter name word :: rest, cs =>
      match PartKind.ofWord? word with
      | none => none
      | some kind =>
          let longest := (cs.takeWhile kind.mayHold).length
          (List.range (longest + 1)).reverse.findSome? fun size =>
            if kind.hasForm (cs.take size) then
              (parts? rest (cs.drop size)).map ((name, String.ofList (cs.take size)) :: ·)
            else none

/-! ## Names in braces -/

/-- The text with the kinds of its parameters left out. -/
def withoutKinds (t : Template) : List Char :=
  t.flatMap fun
    | .letter c => [c]
    | .parameter name _ => '\x7b' :: name.toList ++ ['\x7d']

/-- What stands between an opening brace, which has just been passed, and the next closing
one on the same line. -/
def braced? (cs : List Char) : Option (List Char) :=
  match cs.dropWhile fun c => !(c == '\x7d' || c == '\n') with
  | '\x7d' :: _ => some (cs.takeWhile (· != '\x7d'))
  | _ => none

/-- All texts between braces, where a number of characters are passed over first. -/
def bracedTexts : Nat → List Char → List (List Char)
  | _, [] => []
  | skipped + 1, _ :: cs => bracedTexts skipped cs
  | 0, c :: cs =>
      if c = '\x7b' then
        match braced? cs with
        | some text => text :: bracedTexts (text.length + 1) cs
        | none => bracedTexts 0 cs
      else bracedTexts 0 cs

end Template

/-! ## Faults -/

/-- What is wrong with the path of a route. -/
inductive PathError where
  /-- The path does not begin with a slash. -/
  | noSlash
  /-- No kind of part has this word. -/
  | unknownKind (word : String)
  /-- Names of parameters occur more than once. -/
  | repeated (names : List String) (path : String)
  /-- A parameter has the name under which handlers take the body. -/
  | bodyName
deriving DecidableEq, Repr

/-- The message of the error. -/
def PathError.message : PathError → String
  | .noSlash => "A path prefix must start with '/'"
  | .unknownKind word => s!"Unknown path convertor '{word}'"
  | .repeated names path =>
      let ending := if names.length ≤ 1 then "" else "s"
      s!"Duplicated param name{ending} " ++ ", ".intercalate names ++ s!" at path {path}"
  | .bodyName => "Path params must be of one of the supported types"

namespace Template

/-- The words of the template that are for no kind of part. -/
def unknownKinds (t : Template) : List String :=
  t.filterMap fun
    | .parameter _ word => if (PartKind.ofWord? word).isNone then some word else none
    | .letter _ => none

/-- The names that occur more than once, in order of their text. -/
def repeatedNames (t : Template) : List String :=
  let all := names t
  ((all.filter fun name => 1 < all.count name).eraseDups).mergeSort fun a b => !decide (b < a)

/-- The text writes a template whose kinds are known and whose names are distinct. -/
def check (path : String) : Except PathError Unit :=
  let t := ofText path
  match unknownKinds t, repeatedNames t with
  | word :: _, _ => .error (.unknownKind word)
  | [], [] => .ok ()
  | [], names => .error (.repeated names path)

end Template

end Eligibility
