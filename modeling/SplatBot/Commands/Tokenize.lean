import SplatBot.Data

/-!
# Tokenizing a message and matching a command: `tokenize` and `checkForCommand`

`tokenize` (`pkg/commands/command.go`) splits a message at single spaces, or, when quotes
are honoured, collects the matches of the regular expression `"([^"]*?)"|(\S+)`: at each
position the leftmost-first alternation prefers a quoted run, which needs a closing quote
further on, and otherwise takes a maximal run of non-blanks.  `scan` reads the text once,
with a mode for the run it is in, so it is structural on the characters.  Writing each
argument bare, or in quotes when it is empty or holds a blank, and joining them with
spaces, `tokenize` reads back exactly the arguments (`tokenize_joinTokens`, and over Go
strings `tokenize_renderArgs`).

`checkForCommand` compares the descriptor's `Commands` with `args[index]` position by
position.  It returns `true` exactly on a prefix (`checkForCommand_eq_true_iff`), and it
reads past the end of `args`, a Go panic, exactly when the arguments are a proper prefix of
`Commands` (`checkForCommand_panics_iff`).
-/

namespace SplatBot

/-- RE2's `\s`: space, tab, newline, form feed and carriage return. -/
def isSpace (c : Char) : Bool :=
  c = ' ' || c = '\t' || c = '\n' || c = Char.ofNat 12 || c = '\r'

/-- Where the regular-expression scan is: between matches, in a run of non-blanks, or in
a quoted run (entered only when a closing quote follows). -/
inductive ScanMode
  | gap
  | bare (acc : List Char)
  | quoted (acc : List Char)

/-- `re.FindAllStringSubmatch(msgText, -1)` with each match turned into its token: the text
between the quotes (`match[1]`, or `match[2] = ""` for `""`), or the run `match[2]`.  The
`strings.Trim` of the quoted text removes nothing, as `[^"]` holds no quote. -/
def scan : ScanMode → List Char → List String
  | .gap, [] => []
  | .bare acc, [] => [String.mk acc.reverse]
  | .quoted acc, [] => [String.mk acc.reverse]
  | .gap, c :: cs =>
    if isSpace c then scan .gap cs
    else if c = '"' && cs.contains '"' then scan (.quoted []) cs
    else scan (.bare [c]) cs
  | .bare acc, c :: cs =>
    if isSpace c then String.mk acc.reverse :: scan .gap cs else scan (.bare (c :: acc)) cs
  | .quoted acc, c :: cs =>
    if c = '"' then String.mk acc.reverse :: scan .gap cs else scan (.quoted (c :: acc)) cs

/-- `tokenize(msgText, glob)`. -/
def tokenize (msgText : String) (glob : Bool) : List String :=
  if glob then scan .gap msgText.toList else split msgText ' '

/-! ## Quoting -/

/-- How an argument is written so that `tokenize` reads it back: in quotes when it is
empty or holds a blank, bare otherwise. -/
def quoteToken (t : List Char) : List Char :=
  if t.isEmpty || t.any isSpace then '"' :: (t ++ ['"']) else t

/-- Arguments written one after another, separated by single spaces. -/
def joinTokens : List (List Char) → List Char
  | [] => []
  | [t] => quoteToken t
  | t :: t' :: ts => quoteToken t ++ ' ' :: joinTokens (t' :: ts)

theorem scan_bare_run (acc : List Char) :
    ∀ (w rest : List Char), w.any isSpace = false →
      scan (.bare acc) (w ++ rest) = scan (.bare (w.reverse ++ acc)) rest
  | [], _, _ => rfl
  | c :: w, rest, h => by
    simp only [List.any_cons, Bool.or_eq_false_iff] at h
    rw [List.cons_append, scan, if_neg (by simp [h.1]), scan_bare_run (c :: acc) w rest h.2]
    simp

theorem scan_quoted_run (acc : List Char) :
    ∀ (w rest : List Char), '"' ∉ w →
      scan (.quoted acc) (w ++ rest) = scan (.quoted (w.reverse ++ acc)) rest
  | [], _, _ => rfl
  | c :: w, rest, h => by
    simp only [List.mem_cons, not_or] at h
    rw [List.cons_append, scan, if_neg (Ne.symm h.1), scan_quoted_run (c :: acc) w rest h.2]
    simp

/-- One written argument reads back as itself, before a space or at the end. -/
theorem scan_quoteToken (t rest : List Char) (ht : '"' ∉ t)
    (hrest : rest = [] ∨ ∃ more, rest = ' ' :: more) :
    scan .gap (quoteToken t ++ rest) = String.mk t :: scan .gap rest := by
  unfold quoteToken
  split
  · rw [List.cons_append, scan, if_neg (by decide), List.append_assoc,
      scan_quoted_run [] t _ ht]
    simp [scan]
  · rename_i hq
    simp only [Bool.or_eq_true, List.isEmpty_iff, not_or] at hq
    obtain ⟨c, w, rfl⟩ := List.exists_cons_of_ne_nil hq.1
    have hw : (c :: w).any isSpace = false := by simpa using hq.2
    simp only [List.any_cons, Bool.or_eq_false_iff] at hw
    have hc : c ≠ '"' := fun h => ht (h ▸ List.mem_cons_self _ _)
    rw [List.cons_append, scan, if_neg (by simp [hw.1]), if_neg (by simp [hc]),
      scan_bare_run [c] w rest hw.2]
    rcases hrest with rfl | ⟨more, rfl⟩
    · simp [scan]
    · simp [scan, isSpace]

theorem tokenize_mk (l : List Char) : tokenize (String.mk l) true = scan .gap l := rfl

/-- Written arguments are scanned back one by one. -/
theorem scan_joinTokens : ∀ ts : List (List Char), (∀ t ∈ ts, '"' ∉ t) →
    scan .gap (joinTokens ts) = ts.map String.mk
  | [], _ => rfl
  | [t], h => by
    simpa [joinTokens, scan] using scan_quoteToken t [] (h t (List.mem_singleton_self _)) (.inl rfl)
  | t :: t' :: ts, h => by
    rw [joinTokens, scan_quoteToken t _ (h t (List.mem_cons_self _ _)) (.inr ⟨_, rfl⟩),
      List.map_cons, ← scan_joinTokens (t' :: ts) fun u hu => h u (List.mem_cons_of_mem _ hu)]
    simp [scan, isSpace]

/-- **Quoting round-trips through `tokenize`.**  Arguments without quote characters,
written bare or, when empty or holding a blank, in quotes, and separated by single spaces,
are read back by `tokenize` honouring quotes as exactly the arguments written. -/
theorem tokenize_joinTokens : ∀ ts : List (List Char), (∀ t ∈ ts, '"' ∉ t) →
    tokenize (String.mk (joinTokens ts)) true = ts.map String.mk :=
  fun ts h => (tokenize_mk _).trans (scan_joinTokens ts h)

/-- `tokenize_joinTokens` applies to `jira create "a summary"`. -/
theorem tokenize_joinTokens_summary :
    String.mk (joinTokens ["jira".toList, "create".toList, "a summary".toList]) =
      "jira create \"a summary\"" ∧
    (∀ t ∈ ["jira".toList, "create".toList, "a summary".toList], '"' ∉ t) ∧
    tokenize (String.mk (joinTokens ["jira".toList, "create".toList, "a summary".toList])) true =
      ["jira".toList, "create".toList, "a summary".toList].map String.mk :=
  ⟨rfl, by decide, tokenize_joinTokens _ (by decide)⟩

/-! ### Rendering strings

The same round trip over Go strings: each argument rendered by `quoteToken`, the
renderings joined by `strings.Join(_, " ")`, which is `String.intercalate " "`. -/

/-- The message text a list of arguments is written as. -/
def renderArgs (args : List String) : String :=
  " ".intercalate (args.map fun a => String.mk (quoteToken a.toList))

theorem intercalate_go_append (s t u : String) :
    ∀ l, String.intercalate.go (s ++ t) u l = s ++ String.intercalate.go t u l
  | [] => rfl
  | a :: l => by
    simp only [String.intercalate.go, String.append_assoc, intercalate_go_append s _ u l]

theorem intercalate_cons_cons (s a b : String) (l : List String) :
    s.intercalate (a :: b :: l) = a ++ s ++ s.intercalate (b :: l) :=
  intercalate_go_append (a ++ s) b s l

theorem renderArgs_eq : ∀ args : List String,
    renderArgs args = String.mk (joinTokens (args.map String.toList))
  | [] => rfl
  | [_] => rfl
  | a :: b :: args => by
    have ih := renderArgs_eq (b :: args)
    simp only [renderArgs, List.map_cons, intercalate_cons_cons] at ih ⊢
    rw [ih]
    apply String.ext
    simp [joinTokens]

/-- **`tokenize` reads rendered arguments back.**  For arguments without quote characters,
rendered bare or, when empty or holding a blank, in quotes, and joined by single spaces,
`tokenize` honouring quotes returns exactly the arguments. -/
theorem tokenize_renderArgs (args : List String) (h : ∀ a ∈ args, '"' ∉ a.toList) :
    tokenize (renderArgs args) true = args := by
  rw [renderArgs_eq, tokenize_mk, scan_joinTokens _ (by simpa using h), List.map_map]
  exact List.map_id args

/-- `tokenize_renderArgs` applies to `jira create "fix the thing" ""`. -/
theorem tokenize_renderArgs_thing :
    renderArgs ["jira", "create", "fix the thing", ""] = "jira create \"fix the thing\" \"\"" ∧
    (∀ a ∈ ["jira", "create", "fix the thing", ""], '"' ∉ a.toList) ∧
    tokenize (renderArgs ["jira", "create", "fix the thing", ""]) true =
      ["jira", "create", "fix the thing", ""] :=
  ⟨rfl, by decide, tokenize_renderArgs _ (by decide)⟩

/-! ## Matching the trigger -/

/-- The loop of `checkForCommand` from position `index`: a differing `args[index]` ends it
with `false`, and an `index` past the end of `args` panics. -/
def commandLoop (args : List String) : Nat → List String → Go Bool
  | _, [] => pure true
  | index, command :: rest =>
    match args[index]? with
    | none => throw ("runtime error: index out of range [" ++ toString index ++
        "] with length " ++ toString args.length)
    | some arg => if command ≠ arg then pure false else commandLoop args (index + 1) rest

/-- `checkForCommand(args, attribute)`. -/
def checkForCommand (args : List String) (attr : Attributes) : Go Bool :=
  commandLoop args 0 attr.commands

theorem commandLoop_eq_true_iff (args : List String) :
    ∀ (index : Nat) (commands : List String),
      commandLoop args index commands = .ok true ↔ commands <+: args.drop index
  | _, [] => by simp [commandLoop, pure, Except.pure]
  | index, command :: rest => by
    rw [commandLoop]
    cases h : args[index]? with
    | none =>
      rw [List.drop_eq_nil_of_le (List.getElem?_eq_none_iff.1 h)]
      simp [throw, throwThe, MonadExceptOf.throw]
    | some arg =>
      obtain ⟨hlt, rfl⟩ := List.getElem?_eq_some_iff.1 h
      rw [List.drop_eq_getElem_cons hlt, List.cons_prefix_cons,
        ← commandLoop_eq_true_iff args (index + 1) rest]
      by_cases hc : command = args[index] <;> simp [hc, pure, Except.pure]

theorem commandLoop_panics_iff (args : List String) :
    ∀ (index : Nat) (commands : List String),
      (∃ msg, commandLoop args index commands = .error msg) ↔
        args.drop index <+: commands ∧ (args.drop index).length < commands.length
  | _, [] => by simp [commandLoop, pure, Except.pure]
  | index, command :: rest => by
    rw [commandLoop]
    cases h : args[index]? with
    | none =>
      rw [List.drop_eq_nil_of_le (List.getElem?_eq_none_iff.1 h)]
      simp [throw, throwThe, MonadExceptOf.throw]
    | some arg =>
      obtain ⟨hlt, rfl⟩ := List.getElem?_eq_some_iff.1 h
      rw [List.drop_eq_getElem_cons hlt, List.cons_prefix_cons, List.length_cons,
        List.length_cons, Nat.add_lt_add_iff_right, and_assoc,
        ← commandLoop_panics_iff args (index + 1) rest]
      by_cases hc : command = args[index]
      · simp [hc]
      · simp [hc, Ne.symm hc, pure, Except.pure]

/-- `checkForCommand` returns `true` exactly when `Commands` is a prefix of `args`. -/
theorem checkForCommand_eq_true_iff (args : List String) (attr : Attributes) :
    checkForCommand args attr = .ok true ↔ attr.commands <+: args := by
  simpa using commandLoop_eq_true_iff args 0 attr.commands

/-- `checkForCommand` panics exactly when `args` is a proper prefix of `Commands`. -/
theorem checkForCommand_panics_iff (args : List String) (attr : Attributes) :
    (∃ msg, checkForCommand args attr = .error msg) ↔
      args <+: attr.commands ∧ args.length < attr.commands.length := by
  simpa using commandLoop_panics_iff args 0 attr.commands

end SplatBot
