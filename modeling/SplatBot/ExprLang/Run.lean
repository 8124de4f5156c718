import Mathlib.Data.List.Basic

/-!
# The expression language of knowledge rules: values and `expr.Run`

`loadKnowledgeEntries` (`pkg/knowledge/knowledge.go`) compiles a rule's `expr` with
`expr.Compile(asset.On.Expr, exprOptions...)`, and `isTokenMatch` runs the program with
`expr.Run(match.CompiledExpr, map[string]interface{}{"tokens": tokens})`.  The library is
not part of the repository; this file gives the fragment of it that knowledge rules use:
literals, the `tokens` variable, arrays, calls of the two functions `init` registers in
`exprOptions`, `not`, `and`, `or` and the conditional `?:`.

The evaluator follows the virtual machine: `and`, `or`, `not` and `?:` assert that their
deciding operand is a `bool` (`vm.current().(bool)`), and the right operand of `and` or
`or` is returned as it is, whatever its type.  A Go panic inside `expr.Run` is recovered by
the machine and returned as an error, so every fault here is an `Except.error`.
-/

namespace SplatBot
namespace ExprLang

/-- A Go `map[string]string`, such as the token map `util.NormalizeTokens` builds. -/
abbrev TokenMap := List (String × String)

/-- Whether `key` is present in the map: `_, exists := tokenMap[key]`. -/
def present (tokenMap : TokenMap) (key : String) : Bool := (tokenMap.lookup key).isSome

/-- The runtime values of the fragment: Go's `any` as the machine sees it. -/
inductive Value
  | nil
  | bool (b : Bool)
  | int (n : Int)
  | string (s : String)
  | array (items : List Value)
  | tokens (m : TokenMap)

/-- The syntax tree `expr.Compile` produces for the fragment (`ast.Node`). -/
inductive Node
  | nil
  | bool (b : Bool)
  | integer (n : Nat)
  | string (s : String)
  | identifier (name : String)
  | array (items : List Node)
  | call (callee : String) (arguments : List Node)
  | not (node : Node)
  | and (left right : Node)
  | or (left right : Node)
  | conditional (cond exp1 exp2 : Node)

/-- The assertion `v.(bool)` that `OpJumpIfFalse`, `OpJumpIfTrue` and `OpNot` make. -/
def Value.asBool : Value → Except String Bool
  | .bool b => .ok b
  | _ => .error "interface conversion: value is not bool"

/-- `tokenMap := params[0].(map[string]string)` and `params[1].([]any)`, as both functions
of `exprOptions` read their parameters, in that order. -/
def mapAndList : List Value → Except String (TokenMap × List Value)
  | .tokens m :: .array items :: _ => .ok (m, items)
  | [] => .error "runtime error: index out of range [0] with length 0"
  | [.tokens _] => .error "runtime error: index out of range [1] with length 1"
  | .tokens _ :: _ :: _ => .error "interface conversion: params[1] is not []any"
  | _ :: _ => .error "interface conversion: params[0] is not map[string]string"

/-- The loop of `containsAny`: `true` at the first present key; `param.(string)` panics on
a non-string before that. -/
def presentAny (tokenMap : TokenMap) : List Value → Except String Bool
  | [] => .ok false
  | .string key :: rest => if present tokenMap key then .ok true else presentAny tokenMap rest
  | _ :: _ => .error "interface conversion: param is not string"

/-- The loop of `containsAll`: `false` at the first absent key; `param.(string)` panics on
a non-string before that. -/
def presentAll (tokenMap : TokenMap) : List Value → Except String Bool
  | [] => .ok true
  | .string key :: rest => if present tokenMap key then presentAll tokenMap rest else .ok false
  | _ :: _ => .error "interface conversion: param is not string"

/-- `containsAny`, registered by `init` in `knowledge.go`. -/
def containsAny (params : List Value) : Except String Value := do
  let (tokenMap, items) ← mapAndList params
  return .bool (← presentAny tokenMap items)

/-- `containsAll`, registered by `init` in `knowledge.go`: `result := len(params[1]) > 0`,
cleared at the first absent key. -/
def containsAll (params : List Value) : Except String Value := do
  let (tokenMap, items) ← mapAndList params
  return .bool (!items.isEmpty && (← presentAll tokenMap items))

/-- A call of a named function: the two of `exprOptions`, or a call of `nil`. -/
def callFunction (callee : String) (params : List Value) : Except String Value :=
  if callee = "containsAny" then containsAny params
  else if callee = "containsAll" then containsAll params
  else .error ("reflect: call of nil function " ++ callee)

mutual
/-- `expr.Run(program, map[string]interface{}{"tokens": tokens})`: the identifier `tokens`
is the token map, every other identifier is `nil`. -/
def run (tokens : TokenMap) : Node → Except String Value
  | .nil => .ok .nil
  | .bool b => .ok (.bool b)
  | .integer n => .ok (.int n)
  | .string s => .ok (.string s)
  | .identifier name => .ok (if name = "tokens" then .tokens tokens else .nil)
  | .array items => .array <$> runAll tokens items
  | .call callee arguments => runAll tokens arguments >>= callFunction callee
  | .not node => do return .bool !(← (← run tokens node).asBool)
  | .and left right => do
    if (← (← run tokens left).asBool) then run tokens right else return .bool false
  | .or left right => do
    if (← (← run tokens left).asBool) then return .bool true else run tokens right
  | .conditional cond exp1 exp2 => do
    if (← (← run tokens cond).asBool) then run tokens exp1 else run tokens exp2
/-- The arguments of a call or the items of an array, left to right. -/
def runAll (tokens : TokenMap) : List Node → Except String (List Value)
  | [] => .ok []
  | node :: nodes => do
    let value ← run tokens node
    return value :: (← runAll tokens nodes)
end

end ExprLang
end SplatBot
