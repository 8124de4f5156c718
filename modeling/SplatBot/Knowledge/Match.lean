import SplatBot.Data
import SplatBot.ExprLang.Compile
import Mathlib.Data.List.Count

/-!
# Matching a knowledge asset's `on` tree: `isTokenMatch`

`isTokenMatch` (`pkg/knowledge/knowledge.go`) decides a node of a `data.TokenMatch` tree
against the normalized token map.  A node with a compiled expression is decided by
running it; any other node combines its own tokens (`tokensMatch`) with its `terms`:
under `"or"` the loop over the terms stops at the first satisfied one and sets the
counter to `len(match.Terms)`, otherwise it counts the satisfied terms, and the node holds
when the counter reaches `len(match.Terms)`.  The result is written to `match.Satisfied`.

`TokenMatch.eval` is the reading of a tree the matcher is meant to compute, in the words of
the matching rules: the node's literal test (`TokenMatch.lit`), and then any (`"or"`) or
all of the terms.  The code's `tokensMatch` is that literal test (`tokensMatch_eq_lit`),
and `isTokenMatch_eval` shows the matcher computes `eval` on every tree without
expressions, whatever the `satisfied` flags held.
`eval` has no negation, so a tree that holds on a token map holds on every map with more
keys (`eval_mono`).
-/

namespace SplatBot

open ExprLang

/-- The node's own tokens, as `isTokenMatch` first computes `tokensMatch`: vacuously true
without tokens, else `TokensPresentOR` under `"or"` and `TokensPresentAND` otherwise. -/
def tokensMatch (U : Util) (tokens : TokenMap) (m : TokenMatch) : Bool :=
  if m.tokens.length > 0 then
    if m.type == "or" then U.TokensPresentOR tokens m.tokens
    else U.TokensPresentAND tokens m.tokens
  else true

mutual
/-- `isTokenMatch(match, tokens)`: the result and the node as the call leaves it. -/
def isTokenMatch (U : Util) (tokens : TokenMap) : TokenMatch → Go (Bool × TokenMatch)
  | m@⟨_, _, _, _, some program, _⟩ =>
    match run tokens program with
    | .error _ => return (false, m)
    | .ok (.bool b) => return (b, m)
    | .ok _ => throw "interface conversion: interface is not bool"
  | m@⟨type, toks, terms, expr, none, _⟩ => do
    if tokensMatch U tokens m && terms.length > 0 then
      let (satisfied, updated) ← matchTerms U tokens (type == "or") terms.length 0 terms
      let result := satisfied == terms.length
      return (result, ⟨type, toks, updated, expr, none, result⟩)
    else
      return (tokensMatch U tokens m, ⟨type, toks, terms, expr, none, tokensMatch U tokens m⟩)
/-- The loop `for idx := range match.Terms` of `isTokenMatch`, from counter `satisfied`:
under `or` a satisfied term sets the counter to `len` and breaks, leaving the remaining
terms as they were. -/
def matchTerms (U : Util) (tokens : TokenMap) (or : Bool) (len : Nat) :
    Nat → List TokenMatch → Go (Nat × List TokenMatch)
  | satisfied, [] => return (satisfied, [])
  | satisfied, term :: rest => do
    let (tokenMatch, term) ← isTokenMatch U tokens term
    if tokenMatch then
      if or then return (len, term :: rest)
      else
        let (satisfied, rest) ← matchTerms U tokens or len (satisfied + 1) rest
        return (satisfied, term :: rest)
    else
      let (satisfied, rest) ← matchTerms U tokens or len satisfied rest
      return (satisfied, term :: rest)
end

/-- `IsMatch`: an asset's `on` tree against the normalized tokens. -/
def IsMatch (U : Util) (asset : KnowledgeAsset) (tokens : List String) : Go Bool :=
  Prod.fst <$> isTokenMatch U (U.NormalizeTokens tokens) asset.On

/-- `IsStringMatch`: `IsMatch` on the text split at single spaces. -/
def IsStringMatch (U : Util) (asset : KnowledgeAsset) (str : String) : Go Bool :=
  IsMatch U asset (split str ' ')

namespace TokenMatch

/-- A node's literal test as the matching rules state it: true when the node lists no
tokens, `TokensPresentOR` of its tokens when its type is `"or"`, and `TokensPresentAND`
otherwise. -/
def lit (U : Util) (tokens : TokenMap) (n : TokenMatch) : Bool :=
  match n.tokens with
  | [] => true
  | _ :: _ =>
    if n.type = "or" then U.TokensPresentOR tokens n.tokens else U.TokensPresentAND tokens n.tokens

mutual
/-- What a tree without expressions means: its literal test holds, and it has no terms or
any (`"or"`) or all of them hold. -/
def eval (U : Util) (tokens : TokenMap) : TokenMatch → Bool
  | m@⟨type, _, terms, _, _, _⟩ =>
    m.lit U tokens && (terms.isEmpty || evalTerms U tokens (type == "or") terms)
/-- `eval` over a node's terms: some of them under `or`, all of them otherwise. -/
def evalTerms (U : Util) (tokens : TokenMap) (or : Bool) : List TokenMatch → Bool
  | [] => !or
  | term :: rest =>
    if or then eval U tokens term || evalTerms U tokens or rest
    else eval U tokens term && evalTerms U tokens or rest
end

mutual
/-- No node of the tree carries a compiled expression. -/
def exprFree : TokenMatch → Bool
  | ⟨_, _, terms, _, compiledExpr, _⟩ => compiledExpr.isNone && exprFreeTerms terms
/-- `exprFree` of every term. -/
def exprFreeTerms : List TokenMatch → Bool
  | [] => true
  | term :: rest => exprFree term && exprFreeTerms rest
end

mutual
/-- The tree with every `satisfied` flag cleared. -/
def clearSatisfied : TokenMatch → TokenMatch
  | ⟨type, toks, terms, expr, compiledExpr, _⟩ =>
    ⟨type, toks, clearTerms terms, expr, compiledExpr, false⟩
/-- `clearSatisfied` of every term. -/
def clearTerms : List TokenMatch → List TokenMatch
  | [] => []
  | term :: rest => clearSatisfied term :: clearTerms rest
end

theorem evalTerms_true (U : Util) (tokens : TokenMap) (ts : List TokenMatch) :
    evalTerms U tokens true ts = ts.any (eval U tokens) := by
  induction ts with
  | nil => rfl
  | cons t ts ih => simp [evalTerms, ih]

theorem evalTerms_false (U : Util) (tokens : TokenMap) (ts : List TokenMatch) :
    evalTerms U tokens false ts = ts.all (eval U tokens) := by
  induction ts with
  | nil => rfl
  | cons t ts ih => simp [evalTerms, ih]

/-- The code's test of a node's own tokens is the literal test. -/
theorem tokensMatch_eq_lit (U : Util) (tokens : TokenMap) (m : TokenMatch) :
    tokensMatch U tokens m = m.lit U tokens := by
  obtain ⟨type, toks, terms, expr, c, sat⟩ := m
  cases toks <;> simp [tokensMatch, lit]

mutual
theorem eval_clearSatisfied (U : Util) (tokens : TokenMap) :
    ∀ m : TokenMatch, m.clearSatisfied.eval U tokens = m.eval U tokens ∧
      m.clearSatisfied.exprFree = m.exprFree
  | ⟨type, toks, terms, expr, c, _⟩ => by
    obtain ⟨h₁, h₂, h₃⟩ := evalTerms_clearTerms U tokens terms
    simp only [clearSatisfied, eval, exprFree, lit, h₂, h₃]
    cases type == "or" <;> simp [h₁]
theorem evalTerms_clearTerms (U : Util) (tokens : TokenMap) :
    ∀ ts : List TokenMatch, (∀ or, evalTerms U tokens or (clearTerms ts) = evalTerms U tokens or ts) ∧
      (clearTerms ts).isEmpty = ts.isEmpty ∧ exprFreeTerms (clearTerms ts) = exprFreeTerms ts
  | [] => by simp [clearTerms]
  | t :: ts => by
    obtain ⟨h₁, h₂⟩ := eval_clearSatisfied U tokens t
    obtain ⟨h₃, -, h₄⟩ := evalTerms_clearTerms U tokens ts
    refine ⟨fun or => ?_, rfl, ?_⟩ <;> simp [clearTerms, evalTerms, exprFreeTerms, h₁, h₂, h₃, h₄]
end

theorem eval_mk (U : Util) (tokens : TokenMap) (type : String) (toks : List String)
    (terms : List TokenMatch) (expr : String) (c : Option Node) (sat : Bool) :
    eval U tokens ⟨type, toks, terms, expr, c, sat⟩ =
      (tokensMatch U tokens ⟨type, toks, terms, expr, c, sat⟩ && (terms.isEmpty ||
        if type == "or" then terms.any (eval U tokens) else terms.all (eval U tokens))) := by
  rw [eval, ← tokensMatch_eq_lit]; cases type == "or" <;> simp [evalTerms_true, evalTerms_false]

end TokenMatch

/-- The counter the terms loop ends with decides the terms as `eval` does. -/
theorem loopCount_beq (U : Util) (tokens : TokenMap) (or : Bool) (terms : List TokenMatch)
    (hlen : 0 < terms.length) :
    ((if or then (if terms.any (TokenMatch.eval U tokens) then terms.length else 0)
      else 0 + terms.countP (TokenMatch.eval U tokens)) == terms.length) =
      (if or then terms.any (TokenMatch.eval U tokens) else terms.all (TokenMatch.eval U tokens)) := by
  cases or
  · rw [Bool.eq_iff_iff]; simp [List.countP_eq_length]
  · cases terms.any (TokenMatch.eval U tokens) <;> simp; omega

mutual
theorem isTokenMatch_of_exprFree (U : Util) (tokens : TokenMap) :
    ∀ m : TokenMatch, m.exprFree = true →
      ∃ m', isTokenMatch U tokens m = .ok (m.eval U tokens, m') ∧ m'.satisfied = m.eval U tokens
  | ⟨_, _, _, _, some _, _⟩, h => by simp [TokenMatch.exprFree] at h
  | ⟨type, toks, terms, expr, none, sat⟩, h => by
    have hterms : TokenMatch.exprFreeTerms terms = true := by simpa [TokenMatch.exprFree] using h
    obtain ⟨updated, hloop⟩ :=
      matchTerms_of_exprFree U tokens (type == "or") terms.length 0 terms hterms
    rw [TokenMatch.eval_mk]
    by_cases hcond : (tokensMatch U tokens ⟨type, toks, terms, expr, none, sat⟩ &&
        terms.length > 0) = true
    · have hc := hcond
      simp only [Bool.and_eq_true, decide_eq_true_eq] at hc
      have hne : terms.isEmpty = false := List.isEmpty_eq_false.2 (List.ne_nil_of_length_pos hc.2)
      refine ⟨⟨type, toks, updated, expr, none, _⟩, ?_, rfl⟩
      rw [isTokenMatch, if_pos hcond, hloop, hc.1, hne, Bool.true_and, Bool.false_or,
        ← loopCount_beq U tokens _ terms hc.2]
      rfl
    · have hres : (tokensMatch U tokens ⟨type, toks, terms, expr, none, sat⟩ && (terms.isEmpty ||
          if type == "or" then terms.any (TokenMatch.eval U tokens)
          else terms.all (TokenMatch.eval U tokens))) =
            tokensMatch U tokens ⟨type, toks, terms, expr, none, sat⟩ := by
        cases terms <;> simp_all
      refine ⟨⟨type, toks, terms, expr, none, tokensMatch U tokens ⟨type, toks, terms, expr, none, sat⟩⟩,
        ?_, hres.symm⟩
      rw [isTokenMatch, if_neg hcond, hres]
      rfl
theorem matchTerms_of_exprFree (U : Util) (tokens : TokenMap) (or : Bool) (len : Nat) :
    ∀ (s : Nat) (ts : List TokenMatch), TokenMatch.exprFreeTerms ts = true →
      ∃ ts', matchTerms U tokens or len s ts =
        .ok (if or then (if ts.any (TokenMatch.eval U tokens) then len else s)
          else s + ts.countP (TokenMatch.eval U tokens), ts')
  | s, [], _ => ⟨[], by cases or <;> rfl⟩
  | s, t :: ts, h => by
    simp only [TokenMatch.exprFreeTerms, Bool.and_eq_true] at h
    obtain ⟨t', ht, -⟩ := isTokenMatch_of_exprFree U tokens t h.1
    obtain ⟨ts₀, h₀⟩ := matchTerms_of_exprFree U tokens or len s ts h.2
    obtain ⟨ts₁, h₁⟩ := matchTerms_of_exprFree U tokens or len (s + 1) ts h.2
    cases hev : t.eval U tokens <;> cases or
    · exact ⟨t' :: ts₀, by simp [matchTerms, ht, h₀, hev, bind, Except.bind, pure, Except.pure]⟩
    · exact ⟨t' :: ts₀, by simp [matchTerms, ht, h₀, hev, bind, Except.bind, pure, Except.pure]⟩
    · exact ⟨t' :: ts₁, by simp [matchTerms, ht, h₁, hev, bind, Except.bind, pure, Except.pure]; omega⟩
    · exact ⟨t' :: ts, by simp [matchTerms, ht, hev, bind, Except.bind, pure, Except.pure]⟩
end

/-- **`isTokenMatch` computes `eval`.**  On every tree without compiled expressions and
every token map, the matcher returns `eval` of the tree and stores it in the root's
`satisfied`; every tree that differs from it only in its `satisfied` flags gets the same
result, so the flags a previous call left do not matter. -/
theorem isTokenMatch_eval (U : Util) (tokens : TokenMap) (m : TokenMatch)
    (h : m.exprFree = true) :
    (∃ m', isTokenMatch U tokens m = .ok (m.eval U tokens, m') ∧
      m'.satisfied = m.eval U tokens) ∧
    ∀ m₂ : TokenMatch, m₂.clearSatisfied = m.clearSatisfied →
      Prod.fst <$> isTokenMatch U tokens m₂ = .ok (m.eval U tokens) := by
  refine ⟨isTokenMatch_of_exprFree U tokens m h, fun m₂ h₂ => ?_⟩
  have e₁ := TokenMatch.eval_clearSatisfied U tokens m
  have e₂ := TokenMatch.eval_clearSatisfied U tokens m₂
  rw [h₂, e₁.1, e₁.2] at e₂
  obtain ⟨m', hm', -⟩ := isTokenMatch_of_exprFree U tokens m₂ (e₂.2 ▸ h)
  rw [hm', ← e₂.1]
  rfl

/-- An `or` node whose second term holds, after a previous call left stale flags. -/
def orTree : TokenMatch :=
  { type := "or", satisfied := true,
    terms := [{ tokens := ["aws"], terms := [] }, { tokens := ["vsphere"], terms := [] }] }

/-- `isTokenMatch_eval` applies to `orTree` on the tokens of "install vsphere". -/
theorem isTokenMatch_eval_orTree :
    orTree.exprFree = true ∧
      ((∃ m', isTokenMatch specUtil (specUtil.NormalizeTokens ["install", "vsphere"]) orTree =
          .ok (orTree.eval specUtil (specUtil.NormalizeTokens ["install", "vsphere"]), m') ∧
        m'.satisfied = orTree.eval specUtil (specUtil.NormalizeTokens ["install", "vsphere"])) ∧
      ∀ m₂ : TokenMatch, m₂.clearSatisfied = orTree.clearSatisfied →
        Prod.fst <$> isTokenMatch specUtil (specUtil.NormalizeTokens ["install", "vsphere"]) m₂ =
          .ok (orTree.eval specUtil (specUtil.NormalizeTokens ["install", "vsphere"]))) :=
  ⟨rfl, isTokenMatch_eval specUtil _ orTree rfl⟩

/-! ## More tokens, more matches -/

/-- The presence tests of a `Util` only look for keys: a map with more keys passes more
tests. -/
structure Util.Monotone (U : Util) : Prop where
  or_mono : ∀ (T T' : TokenMap) (ks : List String), (∀ k, present T k → present T' k) →
    U.TokensPresentOR T ks = true → U.TokensPresentOR T' ks = true
  and_mono : ∀ (T T' : TokenMap) (ks : List String), (∀ k, present T k → present T' k) →
    U.TokensPresentAND T ks = true → U.TokensPresentAND T' ks = true

theorem specUtil_monotone : specUtil.Monotone where
  or_mono T T' ks hT h := by
    simp only [specUtil, List.any_eq_true] at h ⊢
    obtain ⟨k, hk, hp⟩ := h
    exact ⟨k, hk, hT k hp⟩
  and_mono T T' ks hT h := by
    simp only [specUtil, List.all_eq_true] at h ⊢
    exact fun k hk => hT k (h k hk)

section Mono

variable {U : Util} {T T' : TokenMap}

theorem tokensMatch_mono (hU : U.Monotone) (hT : ∀ k, present T k → present T' k)
    (m : TokenMatch) : tokensMatch U T m = true → tokensMatch U T' m = true := by
  unfold tokensMatch
  split
  · split
    · exact hU.or_mono T T' m.tokens hT
    · exact hU.and_mono T T' m.tokens hT
  · exact id

mutual
/-- A tree without expressions that holds on a token map holds on every map with more keys. -/
theorem eval_mono (hU : U.Monotone) (hT : ∀ k, present T k → present T' k) :
    ∀ m : TokenMatch, m.eval U T = true → m.eval U T' = true
  | ⟨type, toks, terms, expr, c, sat⟩, h => by
    rw [TokenMatch.eval, ← TokenMatch.tokensMatch_eq_lit, Bool.and_eq_true, Bool.or_eq_true] at h ⊢
    exact ⟨tokensMatch_mono hU hT _ h.1, h.2.imp id (evalTerms_mono hU hT _ terms)⟩
theorem evalTerms_mono (hU : U.Monotone) (hT : ∀ k, present T k → present T' k) :
    ∀ (or : Bool) (ts : List TokenMatch),
      TokenMatch.evalTerms U T or ts = true → TokenMatch.evalTerms U T' or ts = true
  | _, [], h => h
  | or, t :: ts, h => by
    cases or
    · simp only [TokenMatch.evalTerms, Bool.false_eq_true, if_false, Bool.and_eq_true] at h ⊢
      exact ⟨eval_mono hU hT t h.1, evalTerms_mono hU hT false ts h.2⟩
    · simp only [TokenMatch.evalTerms, if_true, Bool.or_eq_true] at h ⊢
      exact h.imp (eval_mono hU hT t) (evalTerms_mono hU hT true ts)
end

end Mono

/-- A key is present in the normalized map of a list exactly when it normalizes one of its
tokens. -/
theorem present_map_pair (f : String → String) (k : String) :
    ∀ l : List String, present (l.map fun t => (f t, f t)) k = true ↔ ∃ t ∈ l, f t = k
  | [] => by simp [present]
  | t :: l => by
    have ih := present_map_pair f k l
    by_cases h : k = f t
    · subst h
      simp [present]
    · have hb : (k == f t) = false := by simpa using h
      simp only [present, List.map_cons, List.lookup_cons, hb] at ih ⊢
      rw [ih]
      simp [Ne.symm h]

/-- More tokens give a normalized map with more keys. -/
theorem present_normalizeTokens_mono {l l' : List String} (h : l ⊆ l') (k : String) :
    present (specUtil.NormalizeTokens l) k = true → present (specUtil.NormalizeTokens l') k = true := by
  simp only [specUtil, present_map_pair]
  exact fun ⟨t, ht, hk⟩ => ⟨t, h ht, hk⟩

/-- **A rule expression that yields a number crashes the matcher.**  `"1"` compiles, and
on every token map `isTokenMatch` panics at the assertion `result.(bool)` rather than
treating the non-boolean result as not satisfied. -/
theorem isTokenMatch_panics_on_number (U : Util) (tokens : TokenMap) :
    Compile "1" = .ok (.integer 1) ∧
      isTokenMatch U tokens { terms := [], expr := "1", compiledExpr := some (.integer 1) } =
        .error "interface conversion: interface is not bool" :=
  ⟨rfl, rfl⟩

end SplatBot
