import Eligibility.Rule.SyntaxError
import Eligibility.Rule.Token

/-!
# Parsing

AND binds tighter than OR, chains of either lean to the left, and parentheses group:

* an expression is terms joined by OR,
* a term is factors joined by AND,
* a factor is an expression in parentheses or a comparison.

The parser reads the tokens once, from left to right. What it has read of the expression at
hand is a *chain*; the chains around the groups that are still open wait aside.
-/

namespace Eligibility.Parser

/-- What stands before the factor at hand: a formula joined to its term by OR, and the
factors of its term joined by AND. -/
structure Chain where
  disjunction : Option Formula
  conjunction : Option Formula

/-- Nothing stands before the factor at hand. -/
def Chain.empty : Chain := ⟨none, none⟩

/-- The term that ends with a factor. -/
def Chain.term (chain : Chain) (factor : Formula) : Formula :=
  match chain.conjunction with
  | none => factor
  | some left => .join .and left factor

/-- The expression that ends with a factor. -/
def Chain.expression (chain : Chain) (factor : Formula) : Formula :=
  match chain.disjunction with
  | none => chain.term factor
  | some left => .join .or left (chain.term factor)

/-- A group that is still open: where its parenthesis stands, and the chain around it. -/
structure Group where
  position : Nat
  outer : Chain

/-- The literal of a token. -/
def literal? (token : Token) : Except RuleTextError Literal :=
  match token.kind with
  | .name => .ok (.text token.lexeme)
  | .quoted => .ok (.text (String.ofList (token.lexeme.toList.drop 1).dropLast))
  | .number =>
      match Number.read token.lexeme with
      | .ok n => .ok (.number n)
      | .error e => .error (.number e)
  | _ => .error (.syntaxError ⟨.expectedLiteral token.lexeme, some token.position⟩)

/-- The comparison of three tokens. -/
def comparison? (name operator value : Token) : Except RuleTextError Comparison :=
  if name.kind ≠ .name then .error (.syntaxError ⟨.expectedName name.lexeme, some name.position⟩)
  else if operator.kind ≠ .comparison then
    .error (.syntaxError ⟨.expectedOperator operator.lexeme, some operator.position⟩)
  else (literal? value).map fun literal => ⟨name.lexeme, operator.lexeme, literal⟩

mutual

/-- The formula of the tokens from a factor on, when `room` more groups may be opened. -/
def factor (room : Nat) (open_ : List Group) (chain : Chain) :
    List Token → Except RuleTextError Formula
  | [] => .error (.syntaxError ⟨.incompleteComparison, none⟩)
  | token :: tokens =>
      if token.kind = .opening then
        match room with
        | 0 => .error (.syntaxError ⟨.tooDeep, some token.position⟩)
        | room + 1 => factor room (⟨token.position, chain⟩ :: open_) .empty tokens
      else
        match tokens with
        | operator :: value :: rest =>
            match comparison? token operator value with
            | .error e => .error e
            | .ok c => after room open_ chain (.atom c) rest
        | _ => .error (.syntaxError ⟨.incompleteComparison, some token.position⟩)

/-- The formula of the tokens that follow a factor. -/
def after (room : Nat) (open_ : List Group) (chain : Chain) (f : Formula) :
    List Token → Except RuleTextError Formula
  | [] =>
      match open_ with
      | [] => .ok (chain.expression f)
      | group :: _ => .error (.syntaxError ⟨.unclosedGroup, some group.position⟩)
  | token :: tokens =>
      match token.kind, open_ with
      | .connective .and, _ =>
          factor room open_ ⟨chain.disjunction, some (chain.term f)⟩ tokens
      | .connective .or, _ => factor room open_ ⟨some (chain.expression f), none⟩ tokens
      | .closing, group :: outer =>
          after (room + 1) outer group.outer (chain.expression f) tokens
      | _, [] => .error (.syntaxError ⟨.trailingTokens, some token.position⟩)
      | _, _ :: _ => .error (.syntaxError ⟨.unclosedGroup, some token.position⟩)

end

/-- The formula of a list of tokens, with groups at most `maxDepth` deep. -/
def parse (maxDepth : Nat) (tokens : List Token) : Except RuleTextError Formula :=
  factor maxDepth [] .empty tokens

end Eligibility.Parser

namespace Eligibility.Formula

/-- The depth to which groups may nest unless something else is asked for. -/
def defaultMaxDepth : Nat := 64

/-- The formula of a rule text. -/
def ofText? (text : String) (maxDepth : Nat) : Except RuleTextError Formula :=
  Parser.parse maxDepth (Token.scan text)

end Eligibility.Formula
