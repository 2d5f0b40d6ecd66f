import Eligibility.Number.Reading
import Eligibility.Rule.Formula
import Eligibility.Text.Word

/-!
# Tokens of a rule

A rule text is cut into tokens from left to right. At each place the lexeme that begins
there is taken whole; a character at which none begins is dropped. A number is taken in one
piece only if no word character and no point follows it, so that digits glued to a word
belong to the word.
-/

namespace Eligibility

/-- The kinds of tokens. -/
inductive TokenKind where
  | name
  | number
  | quoted
  | comparison
  | connective (op : Connective)
  | opening
  | closing
deriving DecidableEq, Repr

/-- A token: its kind, its text as written, and the place where it begins. -/
structure Token where
  kind : TokenKind
  lexeme : String
  position : Nat
deriving DecidableEq, Repr

namespace Token

open Eligibility.Text

/-- The digits at the start of a text. -/
def leadingDigits (cs : List Char) : List Char := cs.takeWhile isDigit

/-- A number may end before this text. -/
def endsNumber : List Char → Bool
  | [] => true
  | c :: _ => !(isWordChar c || c == '.')

/-- The unsigned number that begins a text: digits, and a fraction if a point and digits
follow. -/
def unsignedNumber? (cs : List Char) : Option (List Char) :=
  let whole := leadingDigits cs
  let rest := cs.drop whole.length
  let fraction := match rest with
    | '.' :: after => leadingDigits after
    | _ => []
  let lexeme := if fraction.isEmpty then whole else whole ++ '.' :: fraction
  if !whole.isEmpty && endsNumber (cs.drop lexeme.length) then some lexeme else none

/-- The number that begins a text, with an optional minus. -/
def number? : List Char → Option (List Char)
  | '-' :: cs => (unsignedNumber? cs).map ('-' :: ·)
  | cs => unsignedNumber? cs

/-- The kind of a word: a keyword, a number written like a word, or a name. -/
def wordKind (lexeme : List Char) : TokenKind :=
  let word := String.ofList lexeme
  match Connective.ofKeyword? word with
  | some op => .connective op
  | none => if Number.isNumericText word then .number else .name

/-- The comparison that begins a text, the longer ones first. -/
def comparison? : List Char → Option (List Char)
  | '<' :: '=' :: _ => some ['<', '=']
  | '>' :: '=' :: _ => some ['>', '=']
  | '<' :: '>' :: _ => some ['<', '>']
  | '!' :: '=' :: _ => some ['!', '=']
  | '=' :: _ => some ['=']
  | '<' :: _ => some ['<']
  | '>' :: _ => some ['>']
  | _ => none

/-- The quoted text that begins a text: up to the next quote of the same sort. -/
def quoted? : List Char → Option (List Char)
  | c :: cs =>
      if (c == '\'' || c == '"') && cs.contains c then
        some (c :: (cs.takeWhile (· != c) ++ [c]))
      else none
  | [] => none

/-- The lexeme that begins a text, and its kind. -/
def lexeme? (cs : List Char) : Option (TokenKind × List Char) :=
  match number? cs with
  | some lexeme => some (.number, lexeme)
  | none =>
    match cs.takeWhile isWordChar with
    | c :: word => some (wordKind (c :: word), c :: word)
    | [] =>
      match comparison? cs with
      | some lexeme => some (.comparison, lexeme)
      | none =>
        match cs with
        | '(' :: _ => some (.opening, ['('])
        | ')' :: _ => some (.closing, [')'])
        | _ => (quoted? cs).map fun lexeme => (.quoted, lexeme)

/-- The tokens of a text that begins at a place. -/
def scanFrom (position : Nat) : List Char → List Token
  | [] => []
  | c :: cs =>
      match lexeme? (c :: cs) with
      | some (kind, lexeme) =>
          ⟨kind, String.ofList lexeme, position⟩ ::
            scanFrom (position + lexeme.length) (cs.drop (lexeme.length - 1))
      | none => scanFrom (position + 1) cs
termination_by cs => cs.length
decreasing_by
  · simp only [List.length_drop, List.length_cons]
    omega
  · simp

/-- The tokens of a rule text. -/
def scan (text : String) : List Token := scanFrom 0 text.toList

end Token

end Eligibility
