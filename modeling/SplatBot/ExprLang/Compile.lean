import SplatBot.ExprLang.Run

/-!
# The expression language of knowledge rules: `expr.Compile`

`loadKnowledgeEntries` accepts a rule's expression when `expr.Compile` returns a program,
and takes the compiler as a parameter.  `Compile` here is the instance the runs on fixed
rule files evaluate: lexing and parsing of the fragment that knowledge rules use.  It is not
the library: it has no type checker, so it accepts ill-typed programs such as `not 1`, and
it rejects programs outside the fragment (comparisons, `in`, member access, builtins) that
the library compiles.  On the expressions the fixed runs compile (`(`, `1`, `false`,
`false or true` and the platform expressions) it agrees with the library.

The lexer reads one character at a time (`feed`), so it is structural on the input.  The
parser is expr's precedence climbing restricted to the fragment: the conditional `?:`
binds loosest, then `or`/`||`, then `and`/`&&`, then the prefix `not`/`!`; `and` and `or`
associate to the left.  It runs on fuel, eight steps per token, which no input exhausts:
each descent from `parseConditional` to `parsePrimary` costs five and consumes a token.
-/

namespace SplatBot
namespace ExprLang

/-- The lexer's token kinds (`file.Kind`). -/
inductive Tok
  | identifier (name : String)
  | number (n : Nat)
  | string (s : String)
  | operator (op : String)
  | bracket (c : Char)
  deriving DecidableEq, Repr

/-- What the lexer is in the middle of. -/
inductive LexMode
  | start
  | word (acc : List Char)
  | number (acc : List Char)
  | text (quote : Char) (acc : List Char)
  | amp
  | pipe
  | bang
  deriving DecidableEq, Repr

/-- Blanks between tokens. -/
def isBlank (c : Char) : Bool := c = ' ' || c = '\t' || c = '\n' || c = '\r'

/-- A finished word: the operators `and`, `or`, `not`, or an identifier. -/
def wordTok (acc : List Char) : Tok :=
  let w := String.mk acc.reverse
  if w = "and" || w = "or" || w = "not" then .operator w else .identifier w

/-- The value of a run of decimal digits, read in reverse. -/
def digitsValue (acc : List Char) : Nat :=
  acc.foldr (fun c n => n * 10 + (c.toNat - '0'.toNat)) 0

/-- The first character of a token. -/
def startFeed (c : Char) : Except String (List Tok × LexMode) :=
  if isBlank c then .ok ([], .start)
  else if c.isAlpha || c = '_' then .ok ([], .word [c])
  else if c.isDigit then .ok ([], .number [c])
  else if c = '"' || c = '\'' then .ok ([], .text c [])
  else if c = '&' then .ok ([], .amp)
  else if c = '|' then .ok ([], .pipe)
  else if c = '!' then .ok ([], .bang)
  else if c = '(' || c = ')' || c = '[' || c = ']' then .ok ([.bracket c], .start)
  else if c = ',' || c = '?' || c = ':' then .ok ([.operator (String.singleton c)], .start)
  else .error ("unrecognized character: " ++ String.singleton c)

/-- One character: the tokens it completes and the mode after it. -/
def feed : LexMode → Char → Except String (List Tok × LexMode)
  | .start, c => startFeed c
  | .word acc, c =>
    if c.isAlphanum || c = '_' then .ok ([], .word (c :: acc))
    else (startFeed c).map fun (ts, m) => (wordTok acc :: ts, m)
  | .number acc, c =>
    if c.isDigit then .ok ([], .number (c :: acc))
    else (startFeed c).map fun (ts, m) => (.number (digitsValue acc) :: ts, m)
  | .text quote acc, c =>
    if c = quote then .ok ([.string (String.mk acc.reverse)], .start)
    else .ok ([], .text quote (c :: acc))
  | .amp, c => if c = '&' then .ok ([.operator "&&"], .start) else .error "unexpected token &"
  | .pipe, c => if c = '|' then .ok ([.operator "||"], .start) else .error "unexpected token |"
  | .bang, c =>
    if c = '=' then .ok ([.operator "!="], .start)
    else (startFeed c).map fun (ts, m) => (.operator "!" :: ts, m)

/-- The end of the input. -/
def finish : LexMode → Except String (List Tok)
  | .start => .ok []
  | .word acc => .ok [wordTok acc]
  | .number acc => .ok [.number (digitsValue acc)]
  | .text _ _ => .error "literal not terminated"
  | .amp => .error "unexpected token &"
  | .pipe => .error "unexpected token |"
  | .bang => .ok [.operator "!"]

/-- The lexer from a mode on. -/
def lexFrom : LexMode → List Char → Except String (List Tok)
  | mode, [] => finish mode
  | mode, c :: cs => do
    let (ts, mode) ← feed mode c
    return ts ++ (← lexFrom mode cs)

/-- `lexer.Lex`. -/
def lex (input : String) : Except String (List Tok) := lexFrom .start input.toList

mutual
/-- An expression, the conditional `cond ? exp1 : exp2` included. -/
def parseConditional : Nat → List Tok → Except String (Node × List Tok)
  | 0, _ => .error "expression nested too deeply"
  | n + 1, ts => do
    let (cond, ts) ← parseOr n ts
    match ts with
    | .operator "?" :: ts =>
      let (exp1, ts) ← parseConditional n ts
      match ts with
      | .operator ":" :: ts =>
        let (exp2, ts) ← parseConditional n ts
        return (.conditional cond exp1 exp2, ts)
      | _ => .error "unexpected token; expected :"
    | _ => return (cond, ts)
/-- Operands of `or`/`||`. -/
def parseOr : Nat → List Tok → Except String (Node × List Tok)
  | 0, _ => .error "expression nested too deeply"
  | n + 1, ts => do
    let (left, ts) ← parseAnd n ts
    orLoop n left ts
/-- Further `or` operands, associating to the left. -/
def orLoop : Nat → Node → List Tok → Except String (Node × List Tok)
  | 0, _, _ => .error "expression nested too deeply"
  | n + 1, left, .operator op :: ts =>
    if op = "or" || op = "||" then do
      let (right, ts) ← parseAnd n ts
      orLoop n (.or left right) ts
    else return (left, .operator op :: ts)
  | _ + 1, left, ts => return (left, ts)
/-- Operands of `and`/`&&`. -/
def parseAnd : Nat → List Tok → Except String (Node × List Tok)
  | 0, _ => .error "expression nested too deeply"
  | n + 1, ts => do
    let (left, ts) ← parseUnary n ts
    andLoop n left ts
/-- Further `and` operands, associating to the left. -/
def andLoop : Nat → Node → List Tok → Except String (Node × List Tok)
  | 0, _, _ => .error "expression nested too deeply"
  | n + 1, left, .operator op :: ts =>
    if op = "and" || op = "&&" then do
      let (right, ts) ← parseUnary n ts
      andLoop n (.and left right) ts
    else return (left, .operator op :: ts)
  | _ + 1, left, ts => return (left, ts)
/-- A prefix `not`/`!` and its operand. -/
def parseUnary : Nat → List Tok → Except String (Node × List Tok)
  | 0, _ => .error "expression nested too deeply"
  | n + 1, .operator op :: ts =>
    if op = "not" || op = "!" then do
      let (node, ts) ← parseUnary n ts
      return (.not node, ts)
    else .error ("unexpected token " ++ op)
  | n + 1, ts => parsePrimary n ts
/-- Literals, identifiers, calls, arrays and parenthesised expressions. -/
def parsePrimary : Nat → List Tok → Except String (Node × List Tok)
  | 0, _ => .error "expression nested too deeply"
  | _ + 1, .number k :: ts => return (.integer k, ts)
  | _ + 1, .string s :: ts => return (.string s, ts)
  | n + 1, .identifier name :: .bracket '(' :: ts => do
    let (arguments, ts) ← parseList n ')' ts
    return (.call name arguments, ts)
  | _ + 1, .identifier name :: ts =>
    return (if name = "true" then .bool true else if name = "false" then .bool false
      else if name = "nil" then .nil else .identifier name, ts)
  | n + 1, .bracket '[' :: ts => do
    let (items, ts) ← parseList n ']' ts
    return (.array items, ts)
  | n + 1, .bracket '(' :: ts => do
    let (node, ts) ← parseConditional n ts
    match ts with
    | .bracket ')' :: ts => return (node, ts)
    | _ => .error "unexpected token; expected )"
  | _ + 1, _ => .error "unexpected token"
/-- A bracketed, comma-separated list up to its `close` bracket, possibly empty. -/
def parseList : Nat → Char → List Tok → Except String (List Node × List Tok)
  | 0, _, _ => .error "expression nested too deeply"
  | n + 1, close, .bracket c :: ts =>
    if c = close then return ([], ts) else parseItems n close (.bracket c :: ts)
  | n + 1, close, ts => parseItems n close ts
/-- A non-empty comma-separated list up to its `close` bracket. -/
def parseItems : Nat → Char → List Tok → Except String (List Node × List Tok)
  | 0, _, _ => .error "expression nested too deeply"
  | n + 1, close, ts => do
    let (node, ts) ← parseConditional n ts
    match ts with
    | .operator "," :: ts => do
      let (nodes, ts) ← parseItems n close ts
      return (node :: nodes, ts)
    | .bracket c :: ts => if c = close then return ([node], ts) else .error "unexpected token"
    | _ => .error "unexpected token"
end

/-- `expr.Compile(input, exprOptions...)`: the whole input must parse. -/
def Compile (input : String) : Except String Node := do
  let ts ← lex input
  let (node, rest) ← parseConditional (8 * (ts.length + 1)) ts
  match rest with
  | [] => return node
  | _ => .error "unexpected token"

example : Compile "false or true" = .ok (.or (.bool false) (.bool true)) := rfl

end ExprLang
end SplatBot
