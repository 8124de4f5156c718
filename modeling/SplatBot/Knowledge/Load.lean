import SplatBot.Knowledge.Handler
import SplatBot.Commands.Handler
import SplatBot.ExprLang.Compile
import Mathlib.Data.List.ReduceOption
import Mathlib.Data.List.Nodup

/-!
# Loading the knowledge assets: `getKnowledgeEntryPaths`, `loadKnowledgeEntries`, `init`

`init` of package knowledge (`pkg/knowledge/knowledge.go`) loads the rule files under
`PROMPT_PATH` and registers `KnowledgeCommandAttributes` only when loading returned no
error.  `getKnowledgeEntryPaths` walks the directory depth first and collects the `.yaml`
files; `loadKnowledgeEntries` reads each, unmarshals it (skipping a file that does not
parse), appends the platform terms its path implies to `On.Terms`, and, when the rule has
an expression, prefixes the platform expression with `" and "` and compiles the result.

The directory is the tree `os.ReadDir` lists (`FsNode`); `os.ReadFile`, `yaml.Unmarshal`
and `expr.Compile(expr, exprOptions...)` are parameters, so every general theorem here holds
whatever the library compiles.  The runs on fixed rule files take `ExprLang.Compile`, the
parser of the fragment the rules use, which compiles their expressions as the library does.
`filepath.Join(path, name)` is `path ++ "/" ++ name`, which is what it returns for a clean
directory path other than `/` and an entry name; the walk starts at `PROMPT_PATH` as given,
so for a root that is not clean (a trailing `/`, a `./`) the model's paths keep the root as
written, where the code's are cleaned.  `yamlFiles` is the listing the walk computes
(`getKnowledgeEntryPaths_nil`): every `.yaml` file once, or the error of a directory that
cannot be read (`getKnowledgeEntryPaths_yamlPaths`); loading then keeps the assets of the
files before the first failure (`loadKnowledgeEntries_first_error`).  Loading is a function
of the assets loaded so far: it returns the error, if any, and the assets, since the global
`knowledgeAssets` keeps what was appended before an error.
-/

namespace SplatBot

open ExprLang

/-- A directory tree as `os.ReadDir` lists it: a file, or a directory whose listing is its
entries in name order or the error reading it. -/
inductive FsNode
  | file
  | dir (entries : Except String (List (String × FsNode)))

/-- The file system the loader sees: the tree under the prompt path, and `os.ReadFile`. -/
structure FileSystem where
  tree : FsNode
  ReadFile : String → Except String String

/-- `filepath.Ext(name)`: from the last dot of the last path element on, or empty. -/
def ext (name : String) : String :=
  match name.toList.reverse.span fun c => c ≠ '.' && c ≠ '/' with
  | (suffix, '.' :: _) => String.mk ('.' :: suffix.reverse)
  | _ => ""

mutual
/-- `getKnowledgeEntryPaths(path, paths)` on the tree at `path`. -/
def getKnowledgeEntryPaths (path : String) : FsNode → List String → Except String (List String)
  | .file, _ => .error ("error reading knowledge prompts directory: readdirent " ++ path ++
      ": not a directory")
  | .dir (.error e), _ => .error ("error reading knowledge prompts directory: " ++ e)
  | .dir (.ok entries), paths => walkEntries path entries paths
/-- The loop over a directory's entries: recurse into directories, collect `.yaml` files. -/
def walkEntries (path : String) : List (String × FsNode) → List String → Except String (List String)
  | [], paths => .ok paths
  | (name, node) :: rest, paths =>
    match node with
    | .dir _ =>
      match getKnowledgeEntryPaths (path ++ "/" ++ name) node paths with
      | .error e => .error e
      | .ok paths => walkEntries path rest paths
    | .file =>
      if ext name = ".yaml" then walkEntries path rest (paths ++ [path ++ "/" ++ name])
      else walkEntries path rest paths
end

mutual
/-- The `.yaml` files of the tree at `path`, depth first, each directory's entries in the
order they are listed; a listing that fails is the error. -/
def yamlFiles (path : String) : FsNode → Except String (List String)
  | .file => .error ("error reading knowledge prompts directory: readdirent " ++ path ++
      ": not a directory")
  | .dir (.error e) => .error ("error reading knowledge prompts directory: " ++ e)
  | .dir (.ok entries) => yamlEntries path entries
/-- `yamlFiles` of a directory's entries, one after another. -/
def yamlEntries (path : String) : List (String × FsNode) → Except String (List String)
  | [] => .ok []
  | (name, node) :: rest =>
    match node with
    | .dir _ => do
      let sub ← yamlFiles (path ++ "/" ++ name) node
      return sub ++ (← yamlEntries path rest)
    | .file =>
      (fun more => (if ext name = ".yaml" then [path ++ "/" ++ name] else []) ++ more) <$>
        yamlEntries path rest
end

mutual
/-- The walk only prepends what it was given: it returns the paths it was called with
followed by `yamlFiles`, or the first listing error. -/
theorem getKnowledgeEntryPaths_eq (path : String) : ∀ (node : FsNode) (paths : List String),
    getKnowledgeEntryPaths path node paths = (paths ++ ·) <$> yamlFiles path node
  | .file, _ => rfl
  | .dir (.error _), _ => rfl
  | .dir (.ok entries), paths => walkEntries_eq path entries paths
theorem walkEntries_eq (path : String) : ∀ (entries : List (String × FsNode)) (paths : List String),
    walkEntries path entries paths = (paths ++ ·) <$> yamlEntries path entries
  | [], paths => by simp [walkEntries, yamlEntries, Functor.map, Except.map]
  | (name, .dir l) :: rest, paths => by
    rw [walkEntries, yamlEntries, getKnowledgeEntryPaths_eq (path ++ "/" ++ name) (.dir l) paths]
    cases yamlFiles (path ++ "/" ++ name) (.dir l) with
    | error e => rfl
    | ok sub =>
      simp only [Functor.map, Except.map, bind, Except.bind, pure, Except.pure]
      rw [walkEntries_eq path rest (paths ++ sub)]
      cases yamlEntries path rest <;> simp [Functor.map, Except.map]
  | (name, .file) :: rest, paths => by
    rw [walkEntries, yamlEntries, Functor.map_map]
    split
    · rw [walkEntries_eq path rest]
      congr 1
      funext more
      simp
    · rw [walkEntries_eq path rest]
      rfl
end

/-- **The walk lists the `.yaml` files, depth first.**  As `loadKnowledgeEntries` calls it,
from no paths, `getKnowledgeEntryPaths` returns the tree's `.yaml` files, each directory's
entries in the order they are listed and a subdirectory's files at its place, or the
first listing error. -/
theorem getKnowledgeEntryPaths_nil (dir : String) (tree : FsNode) :
    getKnowledgeEntryPaths dir tree [] = yamlFiles dir tree := by
  rw [getKnowledgeEntryPaths_eq]
  cases yamlFiles dir tree <;> rfl

/-! ### Every `.yaml` file, once, or the error -/

mutual
/-- Whether `os.ReadDir` reads the node as a directory, and every directory below it. -/
def readable : FsNode → Bool
  | .file => false
  | .dir (.error _) => false
  | .dir (.ok entries) => entriesReadable entries
/-- Whether every directory among the entries is `readable`. -/
def entriesReadable : List (String × FsNode) → Bool
  | [] => true
  | (_, .file) :: rest => entriesReadable rest
  | (_, .dir listing) :: rest => readable (.dir listing) && entriesReadable rest
end

mutual
/-- The path of every non-directory entry (`.file`, symlinks included, as `os.ReadDir`
does not follow them) with extension `.yaml` in the tree at `path`, depth first, each
directory's entries in the order they are listed. -/
def yamlPaths (path : String) : FsNode → List String
  | .file => []
  | .dir (.error _) => []
  | .dir (.ok entries) => entriesYamlPaths path entries
/-- `yamlPaths` of a directory's entries, one after another. -/
def entriesYamlPaths (path : String) : List (String × FsNode) → List String
  | [] => []
  | (name, .file) :: rest =>
    (if ext name = ".yaml" then [path ++ "/" ++ name] else []) ++ entriesYamlPaths path rest
  | (name, .dir listing) :: rest =>
    yamlPaths (path ++ "/" ++ name) (.dir listing) ++ entriesYamlPaths path rest
end

mutual
/-- `yamlFiles` is the error exactly when a directory cannot be read, and `yamlPaths`
otherwise. -/
theorem yamlFiles_toOption (path : String) : ∀ node : FsNode,
    (yamlFiles path node).toOption = if readable node then some (yamlPaths path node) else none
  | .file => rfl
  | .dir (.error _) => rfl
  | .dir (.ok entries) => yamlEntries_toOption path entries
theorem yamlEntries_toOption (path : String) : ∀ entries : List (String × FsNode),
    (yamlEntries path entries).toOption =
      if entriesReadable entries then some (entriesYamlPaths path entries) else none
  | [] => rfl
  | (name, .file) :: rest => by
    have ih := yamlEntries_toOption path rest
    simp only [yamlEntries, entriesReadable, entriesYamlPaths]
    revert ih
    cases yamlEntries path rest <;> cases entriesReadable rest <;>
      simp [Functor.map, Except.map, Except.toOption]
  | (name, .dir listing) :: rest => by
    have ih₁ := yamlFiles_toOption (path ++ "/" ++ name) (.dir listing)
    have ih₂ := yamlEntries_toOption path rest
    simp only [yamlEntries, entriesReadable, entriesYamlPaths]
    revert ih₁ ih₂
    cases yamlFiles (path ++ "/" ++ name) (.dir listing) <;> cases yamlEntries path rest <;>
      cases readable (.dir listing) <;> cases entriesReadable rest <;>
      simp [bind, Except.bind, pure, Except.pure, Except.toOption]
    rintro rfl rfl
    rfl
end

mutual
/-- Whether the tree is named as a file system names it: the entries of a directory have
distinct names, none holding a `/`. -/
def wellNamed : FsNode → Bool
  | .file => true
  | .dir (.error _) => true
  | .dir (.ok entries) => decide (entries.map Prod.fst).Nodup && entriesWellNamed entries
/-- Whether every entry is `wellNamed`, with a name without `/`. -/
def entriesWellNamed : List (String × FsNode) → Bool
  | [] => true
  | (name, node) :: rest => decide ('/' ∉ name.toList) && wellNamed node && entriesWellNamed rest
end

/-- A name without `/`, followed by nothing or by `/`, is read back from the text. -/
theorem segment_eq : ∀ {n n' t t' : List Char}, '/' ∉ n → '/' ∉ n' →
    (t = [] ∨ ∃ s, t = '/' :: s) → (t' = [] ∨ ∃ s, t' = '/' :: s) → n ++ t = n' ++ t' → n = n'
  | [], [], _, _, _, _, _, _, _ => rfl
  | [], c :: _, _, _, _, hn', ht, _, h => by
    rcases ht with rfl | ⟨s, rfl⟩
    · cases h
    · cases h; simp at hn'
  | c :: _, [], _, _, hn, _, _, ht', h => by
    rcases ht' with rfl | ⟨s, rfl⟩
    · cases h
    · cases h; simp at hn
  | c :: n, c' :: n', _, _, hn, hn', ht, ht', h => by
    simp only [List.cons_append, List.cons.injEq] at h
    simp only [List.mem_cons, not_or] at hn hn'
    rw [h.1, segment_eq hn.2 hn'.2 ht ht' h.2]

mutual
/-- Every path listed under `path` extends it by `/`. -/
theorem yamlPaths_shape (path : String) : ∀ node : FsNode,
    ∀ x ∈ yamlPaths path node, ∃ t, x.data = path.data ++ '/' :: t
  | .file => by simp [yamlPaths]
  | .dir (.error _) => by simp [yamlPaths]
  | .dir (.ok entries) => fun x hx => by
    obtain ⟨n, -, t, h, -⟩ := entriesYamlPaths_shape path entries x hx
    exact ⟨_, h⟩
theorem entriesYamlPaths_shape (path : String) : ∀ entries : List (String × FsNode),
    ∀ x ∈ entriesYamlPaths path entries, ∃ n ∈ entries.map Prod.fst, ∃ t,
      x.data = path.data ++ '/' :: (n.data ++ t) ∧ (t = [] ∨ ∃ s, t = '/' :: s)
  | [] => by simp [entriesYamlPaths]
  | (name, .file) :: rest => fun x hx => by
    simp only [entriesYamlPaths, List.mem_append] at hx
    rcases hx with hx | hx
    · split at hx
      · rw [List.mem_singleton.1 hx]
        exact ⟨name, List.mem_cons_self _ _, [], by simp, .inl rfl⟩
      · cases hx
    · obtain ⟨n, hn, t, h⟩ := entriesYamlPaths_shape path rest x hx
      exact ⟨n, List.mem_cons_of_mem _ hn, t, h⟩
  | (name, .dir listing) :: rest => fun x hx => by
    simp only [entriesYamlPaths, List.mem_append] at hx
    rcases hx with hx | hx
    · obtain ⟨t, h⟩ := yamlPaths_shape (path ++ "/" ++ name) (.dir listing) x hx
      exact ⟨name, List.mem_cons_self _ _, '/' :: t, by simp [h], .inr ⟨t, rfl⟩⟩
    · obtain ⟨n, hn, t, h⟩ := entriesYamlPaths_shape path rest x hx
      exact ⟨n, List.mem_cons_of_mem _ hn, t, h⟩
end

theorem entriesWellNamed_names : ∀ {entries : List (String × FsNode)},
    entriesWellNamed entries = true → ∀ n ∈ entries.map Prod.fst, '/' ∉ n.toList
  | [], _ => by simp
  | (name, node) :: rest, h => by
    simp only [entriesWellNamed, Bool.and_eq_true, decide_eq_true_eq] at h
    rw [List.map_cons]
    exact List.forall_mem_cons.2 ⟨h.1.1, entriesWellNamed_names h.2⟩

theorem entriesYamlPaths_cons (path name : String) (node : FsNode)
    (rest : List (String × FsNode)) :
    entriesYamlPaths path ((name, node) :: rest) =
      entriesYamlPaths path [(name, node)] ++ entriesYamlPaths path rest := by
  cases node <;> simp [entriesYamlPaths]

/-- The paths of an entry and of the entries after it are disjoint when its name is fresh:
a path names its entry right after the directory's path. -/
theorem entriesYamlPaths_cons_nodup {path name : String} {node : FsNode}
    {rest : List (String × FsNode)} (hname : '/' ∉ name.toList)
    (hrest : entriesWellNamed rest = true) (hfresh : name ∉ rest.map Prod.fst)
    (hentry : (entriesYamlPaths path [(name, node)]).Nodup)
    (hnodup : (entriesYamlPaths path rest).Nodup) :
    (entriesYamlPaths path ((name, node) :: rest)).Nodup := by
  rw [entriesYamlPaths_cons, List.nodup_append]
  refine ⟨hentry, hnodup, fun x hmem hmem' => ?_⟩
  obtain ⟨n, hn, t, hx, ht⟩ := entriesYamlPaths_shape path [(name, node)] x hmem
  obtain ⟨n', hn', t', hx', ht'⟩ := entriesYamlPaths_shape path rest x hmem'
  obtain rfl : n = name := by simpa using hn
  rw [hx, List.append_cancel_left_eq, List.cons.injEq] at hx'
  have hnn' := segment_eq hname (entriesWellNamed_names hrest n' hn') ht ht' hx'.2
  exact hfresh (String.ext hnn' ▸ hn')

mutual
theorem yamlPaths_nodup (path : String) : ∀ node : FsNode, wellNamed node = true →
    (yamlPaths path node).Nodup
  | .file, _ => List.nodup_nil
  | .dir (.error _), _ => List.nodup_nil
  | .dir (.ok entries), h => by
    simp only [wellNamed, Bool.and_eq_true, decide_eq_true_eq] at h
    exact entriesYamlPaths_nodup path entries h.2 h.1
theorem entriesYamlPaths_nodup (path : String) : ∀ entries : List (String × FsNode),
    entriesWellNamed entries = true → (entries.map Prod.fst).Nodup →
      (entriesYamlPaths path entries).Nodup
  | [], _, _ => List.nodup_nil
  | (name, .file) :: rest, h, hnames => by
    simp only [entriesWellNamed, Bool.and_eq_true, decide_eq_true_eq] at h
    rw [List.map_cons, List.nodup_cons] at hnames
    refine entriesYamlPaths_cons_nodup h.1.1 h.2 hnames.1 ?_
      (entriesYamlPaths_nodup path rest h.2 hnames.2)
    simp only [entriesYamlPaths, List.append_nil]
    split <;> simp
  | (name, .dir listing) :: rest, h, hnames => by
    simp only [entriesWellNamed, Bool.and_eq_true, decide_eq_true_eq] at h
    rw [List.map_cons, List.nodup_cons] at hnames
    refine entriesYamlPaths_cons_nodup h.1.1 h.2 hnames.1 ?_
      (entriesYamlPaths_nodup path rest h.2 hnames.2)
    simpa [entriesYamlPaths] using yamlPaths_nodup (path ++ "/" ++ name) (.dir listing) h.1.2
end

/-- **The walk returns every `.yaml` file once, or the error.**  From any accumulator, when
every directory of the tree can be read, `getKnowledgeEntryPaths` returns the accumulator
followed by the path of every non-directory `.yaml` entry, depth first and in listing
order; it returns an error exactly when some directory cannot be read; and in a tree
named as a file system names it, no path is listed twice. -/
theorem getKnowledgeEntryPaths_yamlPaths (root : String) (tree : FsNode) (acc : List String) :
    (readable tree = true →
      getKnowledgeEntryPaths root tree acc = .ok (acc ++ yamlPaths root tree)) ∧
    ((∃ e, getKnowledgeEntryPaths root tree acc = .error e) ↔ readable tree = false) ∧
    (wellNamed tree = true → (yamlPaths root tree).Nodup) := by
  have h := yamlFiles_toOption root tree
  rw [getKnowledgeEntryPaths_eq]
  refine ⟨fun hr => ?_, ?_, yamlPaths_nodup root tree⟩
  · rw [hr, if_pos rfl] at h
    cases hy : yamlFiles root tree <;> simp_all [Except.toOption, Functor.map, Except.map]
  · cases hy : yamlFiles root tree <;> cases hr : readable tree <;>
      simp_all [Except.toOption, Functor.map, Except.map]

/-- A prompt directory with a subdirectory and a file of another extension. -/
def promptsTree : FsNode :=
  .dir (.ok [("a.yaml", .file), ("sub", .dir (.ok [("b.yaml", .file), ("notes.txt", .file)])),
    ("c.yaml", .file)])

/-- `getKnowledgeEntryPaths_yamlPaths` applies to `promptsTree`. -/
theorem getKnowledgeEntryPaths_yamlPaths_prompts :
    readable promptsTree = true ∧ wellNamed promptsTree = true ∧
    yamlPaths "/prompts" promptsTree =
      ["/prompts/a.yaml", "/prompts/sub/b.yaml", "/prompts/c.yaml"] ∧
    getKnowledgeEntryPaths "/prompts" promptsTree ["x"] =
      .ok (["x"] ++ yamlPaths "/prompts" promptsTree) ∧
    (yamlPaths "/prompts" promptsTree).Nodup :=
  ⟨rfl, by decide, rfl, (getKnowledgeEntryPaths_yamlPaths _ _ _).1 rfl,
    (getKnowledgeEntryPaths_yamlPaths "/prompts" promptsTree ["x"]).2.2 (by decide)⟩

/-- `asset.On.Terms = append(asset.On.Terms, contextTerms...)`. -/
def withContextTerms (contextTerms : List TokenMatch) (asset : KnowledgeAsset) : KnowledgeAsset :=
  { asset with On := { asset.On with terms := asset.On.terms ++ contextTerms } }

/-- The expression compiled for a rule file: `"%s and %s"` of the platform expression and
the rule's own, or the rule's own when the path implies none. -/
def platformExpr (P : Platforms) (filePath expr : String) : String :=
  let platformExpressions := P.GetPathContextExpr filePath
  if platformExpressions.length > 0 then platformExpressions ++ " and " ++ expr else expr

/-- The body of `loadKnowledgeEntries`' loop for one file: the asset to append, `none` for a
file that does not unmarshal, or the error that ends loading; `Compile` is
`expr.Compile(expr, exprOptions...)`. -/
def loadEntry (P : Platforms) (Unmarshal : String → Except String KnowledgeAsset)
    (Compile : String → Except String Node)
    (fs : FileSystem) (filePath : String) : Except String (Option KnowledgeAsset) :=
  match fs.ReadFile filePath with
  | .error e => .error ("error reading file " ++ filePath ++ ": " ++ e)
  | .ok knowledgeModel =>
    match Unmarshal knowledgeModel with
    | .error _ => .ok none
    | .ok asset =>
      let asset := withContextTerms (P.GetPathContextTerms filePath) asset
      if asset.On.expr.length > 0 then
        let expr := platformExpr P filePath asset.On.expr
        match Compile expr with
        | .error e => .error ("error compiling knowledge expression: " ++ e)
        | .ok program =>
          .ok (some { asset with On := { asset.On with expr, compiledExpr := some program } })
      else .ok (some asset)

/-- The loop of `loadKnowledgeEntries` over the collected paths, appending to the assets. -/
def loadFiles (P : Platforms) (Unmarshal : String → Except String KnowledgeAsset)
    (Compile : String → Except String Node)
    (fs : FileSystem) : List String → List KnowledgeAsset → Option String × List KnowledgeAsset
  | [], knowledgeAssets => (none, knowledgeAssets)
  | filePath :: rest, knowledgeAssets =>
    match loadEntry P Unmarshal Compile fs filePath with
    | .error e => (some e, knowledgeAssets)
    | .ok none => loadFiles P Unmarshal Compile fs rest knowledgeAssets
    | .ok (some asset) => loadFiles P Unmarshal Compile fs rest (knowledgeAssets ++ [asset])

/-- `loadKnowledgeEntries(dir)`: the error it returns, if any, and `knowledgeAssets` after it. -/
def loadKnowledgeEntries (P : Platforms) (Unmarshal : String → Except String KnowledgeAsset)
    (Compile : String → Except String Node)
    (fs : FileSystem) (dir : String) (knowledgeAssets : List KnowledgeAsset) :
    Option String × List KnowledgeAsset :=
  match getKnowledgeEntryPaths dir fs.tree [] with
  | .error e => (some ("error reading knowledge prompts directory: " ++ e), knowledgeAssets)
  | .ok files => loadFiles P Unmarshal Compile fs files knowledgeAssets

/-- The directory `init` loads from: `PROMPT_PATH`, by default `/usr/src/app/knowledge_prompts`. -/
def promptPath (PROMPT_PATH : String) : String :=
  if PROMPT_PATH = "" then "/usr/src/app/knowledge_prompts" else PROMPT_PATH

/-- `init` of package knowledge, after `exprOptions`: load from the prompt path and register
`KnowledgeCommandAttributes` over the loaded assets unless loading failed. -/
def knowledgeInit (U : Util) (P : Platforms) (slack : Slack)
    (Unmarshal : String → Except String KnowledgeAsset)
    (Compile : String → Except String Node) (fs : FileSystem) (PROMPT_PATH : String)
    (r : Registry) : List KnowledgeAsset × Registry :=
  match loadKnowledgeEntries P Unmarshal Compile fs (promptPath PROMPT_PATH) [] with
  | (some _, knowledgeAssets) => (knowledgeAssets, r)
  | (none, knowledgeAssets) =>
    (knowledgeAssets, AddCommand (KnowledgeCommandAttributes U P slack knowledgeAssets) r)

/-- `init` registers the knowledge command exactly when loading returned no error. -/
theorem knowledgeInit_of_loaded (U : Util) (P : Platforms) (slack : Slack)
    (Unmarshal : String → Except String KnowledgeAsset)
    (Compile : String → Except String Node) (fs : FileSystem) (PROMPT_PATH : String)
    (r : Registry)
    (h : (loadKnowledgeEntries P Unmarshal Compile fs (promptPath PROMPT_PATH) []).1 = none) :
    knowledgeInit U P slack Unmarshal Compile fs PROMPT_PATH r =
      ((loadKnowledgeEntries P Unmarshal Compile fs (promptPath PROMPT_PATH) []).2,
        AddCommand (KnowledgeCommandAttributes U P slack
          (loadKnowledgeEntries P Unmarshal Compile fs (promptPath PROMPT_PATH) []).2) r) := by
  unfold knowledgeInit
  split <;> simp_all

/-! ## The loop over the files -/

section Loop

variable (P : Platforms) (Unmarshal : String → Except String KnowledgeAsset)
    (Compile : String → Except String Node) (fs : FileSystem)

/-- `mapM` in `Except` succeeds on a cons exactly through its head and its tail. -/
theorem mapM_cons_eq_ok {α β ε : Type} {g : α → Except ε β} {a : α} {as : List α}
    {bs : List β} (h : (a :: as).mapM g = .ok bs) :
    ∃ b bs', g a = .ok b ∧ as.mapM g = .ok bs' ∧ bs = b :: bs' := by
  simp only [List.mapM_cons, bind, Except.bind, pure, Except.pure] at h
  split at h
  · cases h
  rename_i b hb
  split at h <;> cases h
  rename_i bs' hbs
  exact ⟨b, bs', hb, hbs, rfl⟩

/-- The loop's step on a file that loads: its asset, if any, is appended. -/
theorem loadFiles_cons_ok {file : String} {o : Option KnowledgeAsset}
    (h : loadEntry P Unmarshal Compile fs file = .ok o) (rest : List String)
    (acc : List KnowledgeAsset) :
    loadFiles P Unmarshal Compile fs (file :: rest) acc =
      loadFiles P Unmarshal Compile fs rest (acc ++ o.toList) := by
  cases o <;> simp [loadFiles, h]

/-- When every file loads, the loop appends each loaded asset, in order. -/
theorem loadFiles_of_mapM_ok : ∀ (files : List String) (acc : List KnowledgeAsset)
    (loaded : List (Option KnowledgeAsset)),
    files.mapM (loadEntry P Unmarshal Compile fs) = .ok loaded →
    loadFiles P Unmarshal Compile fs files acc = (none, acc ++ loaded.reduceOption)
  | [], acc, loaded, h => by
    cases h
    simp [loadFiles]
  | file :: rest, acc, loaded, h => by
    obtain ⟨o, os, hfile, hrest, rfl⟩ := mapM_cons_eq_ok h
    rw [loadFiles_cons_ok P Unmarshal Compile fs hfile, loadFiles_of_mapM_ok rest _ os hrest]
    cases o <;> simp

/-- The loop stops at the first file that fails, with the assets of the files before it. -/
theorem loadFiles_of_error (bad : String) (rest : List String) (e : String)
    (hbad : loadEntry P Unmarshal Compile fs bad = .error e) :
    ∀ (pre : List String) (acc : List KnowledgeAsset) (loaded : List (Option KnowledgeAsset)),
      pre.mapM (loadEntry P Unmarshal Compile fs) = .ok loaded →
      loadFiles P Unmarshal Compile fs (pre ++ bad :: rest) acc =
        (some e, acc ++ loaded.reduceOption)
  | [], acc, loaded, h => by
    cases h
    simp [loadFiles, hbad]
  | file :: pre, acc, loaded, h => by
    obtain ⟨o, os, hfile, hpre, rfl⟩ := mapM_cons_eq_ok h
    rw [List.cons_append, loadFiles_cons_ok P Unmarshal Compile fs hfile,
      loadFiles_of_error bad rest e hbad pre _ os hpre]
    cases o <;> simp

/-- **Loading keeps what came before the first failure.**  Over the paths the walk
collected, `loadKnowledgeEntries` appends the assets of all files when every file loads
(a file that does not unmarshal contributes none); otherwise it returns the first failing
file's error, with exactly the assets of the files before it appended. -/
theorem loadKnowledgeEntries_first_error (dir : String) (files : List String)
    (acc : List KnowledgeAsset) (hpaths : getKnowledgeEntryPaths dir fs.tree [] = .ok files) :
    (∀ loaded, files.mapM (loadEntry P Unmarshal Compile fs) = .ok loaded →
      loadKnowledgeEntries P Unmarshal Compile fs dir acc = (none, acc ++ loaded.reduceOption)) ∧
    ∀ pre bad rest loaded e, files = pre ++ bad :: rest →
      pre.mapM (loadEntry P Unmarshal Compile fs) = .ok loaded →
      loadEntry P Unmarshal Compile fs bad = .error e →
      loadKnowledgeEntries P Unmarshal Compile fs dir acc =
        (some e, acc ++ loaded.reduceOption) := by
  refine ⟨fun loaded h => ?_, fun pre bad rest loaded e hfiles hpre hbad => ?_⟩
  · rw [loadKnowledgeEntries, hpaths]
    exact loadFiles_of_mapM_ok P Unmarshal Compile fs files acc loaded h
  · rw [loadKnowledgeEntries, hpaths, hfiles]
    exact loadFiles_of_error P Unmarshal Compile fs bad rest e hbad pre acc loaded hpre

end Loop

/-! ## Platform terms -/

namespace TokenMatch

@[simp]
theorem exprFreeTerms_append (ts us : List TokenMatch) :
    exprFreeTerms (ts ++ us) = (exprFreeTerms ts && exprFreeTerms us) := by
  induction ts with
  | nil => rfl
  | cons t ts ih => simp [exprFreeTerms, ih, Bool.and_assoc]

/-- Appending terms to a node that is not `"or"` conjoins them with the node. -/
theorem eval_appendTerms (U : Util) (tokens : TokenMap) (m : TokenMatch) (ctx : List TokenMatch)
    (h : m.type ≠ "or") :
    ({ m with terms := m.terms ++ ctx } : TokenMatch).eval U tokens =
      (m.eval U tokens && ctx.all (eval U tokens)) := by
  obtain ⟨type, toks, terms, expr, c, sat⟩ := m
  have hor : (type == "or") = false := by simpa using h
  have hall : ∀ l : List TokenMatch, (l.isEmpty || l.all (eval U tokens)) = l.all (eval U tokens) := by
    intro l; cases l <;> simp
  rw [eval_mk, eval_mk]
  simp only [hor, Bool.false_eq_true, if_false, hall]
  rw [List.all_append, ← Bool.and_assoc]
  rfl

@[simp]
theorem exprFree_appendTerms (m : TokenMatch) (ctx : List TokenMatch) :
    ({ m with terms := m.terms ++ ctx } : TokenMatch).exprFree = (m.exprFree && exprFreeTerms ctx) := by
  obtain ⟨type, toks, terms, expr, c, sat⟩ := m
  simp [exprFree, Bool.and_assoc]

end TokenMatch

/-- A rule without an expression is loaded as parsed, with the path's platform terms
appended to its root's terms. -/
theorem loadEntry_of_empty_expr (P : Platforms) (Unmarshal : String → Except String KnowledgeAsset)
    (Compile : String → Except String Node)
    (fs : FileSystem) (filePath text : String) (asset : KnowledgeAsset)
    (hread : fs.ReadFile filePath = .ok text) (hyaml : Unmarshal text = .ok asset)
    (hexpr : asset.On.expr = "") :
    loadEntry P Unmarshal Compile fs filePath =
      .ok (some (withContextTerms (P.GetPathContextTerms filePath) asset)) := by
  simp [loadEntry, hread, hyaml, withContextTerms, hexpr]

/-- **Platform terms are required under a root that is not `"or"`.**  A rule file without an
expression, whose root is not `"or"`, is loaded as an asset that the matcher finds exactly
when the parsed tree holds and every term of the path's platform context holds. -/
theorem loadEntry_requires_context (U : Util) (tokens : TokenMap) (P : Platforms)
    (Unmarshal : String → Except String KnowledgeAsset)
    (Compile : String → Except String Node) (fs : FileSystem)
    (filePath text : String) (asset : KnowledgeAsset)
    (hread : fs.ReadFile filePath = .ok text) (hyaml : Unmarshal text = .ok asset)
    (hexpr : asset.On.expr = "") (htype : asset.On.type ≠ "or")
    (hfree : asset.On.exprFree = true)
    (hctx : TokenMatch.exprFreeTerms (P.GetPathContextTerms filePath) = true) :
    ∃ loaded, loadEntry P Unmarshal Compile fs filePath = .ok (some loaded) ∧
      Prod.fst <$> isTokenMatch U tokens loaded.On =
        .ok (asset.On.eval U tokens &&
          (P.GetPathContextTerms filePath).all (TokenMatch.eval U tokens)) := by
  refine ⟨_,
    loadEntry_of_empty_expr P Unmarshal Compile fs filePath text asset hread hyaml hexpr, ?_⟩
  have hfree' : (withContextTerms (P.GetPathContextTerms filePath) asset).On.exprFree = true := by
    simp [withContextTerms, hfree, hctx]
  obtain ⟨m', hm, -⟩ := isTokenMatch_of_exprFree U tokens _ hfree'
  rw [hm, ← TokenMatch.eval_appendTerms U tokens asset.On _ htype]
  rfl

/-- Rule files read back as their own path. -/
def pathAsContents (tree : FsNode) : FileSystem := { tree, ReadFile := fun path => .ok path }

/-- One rule file under the `vsphere` directory. -/
def vsphereRule (name : String) : FileSystem :=
  pathAsContents (.dir (.ok [("vsphere", .dir (.ok [(name, .file)]))]))

/-- An `"and"` rule on `install`. -/
def installAndRule : KnowledgeAsset :=
  { name := "install", On := { type := "and", tokens := ["install"], terms := [] } }

/-- `installAndRule`, whatever the file. -/
def installAndYaml (_ : String) : Except String KnowledgeAsset := .ok installAndRule

/-- `loadEntry_requires_context` applies to an `"and"` rule under `vsphere`. -/
theorem loadEntry_requires_context_install :
    (vsphereRule "install.yaml").ReadFile "/prompts/vsphere/install.yaml" =
        .ok "/prompts/vsphere/install.yaml" ∧
      installAndYaml "/prompts/vsphere/install.yaml" = .ok installAndRule ∧
      ∃ loaded, loadEntry specPlatforms installAndYaml ExprLang.Compile
          (vsphereRule "install.yaml")
          "/prompts/vsphere/install.yaml" = .ok (some loaded) ∧
        Prod.fst <$> isTokenMatch specUtil [] loaded.On =
          .ok (installAndRule.On.eval specUtil [] &&
            (specPlatforms.GetPathContextTerms "/prompts/vsphere/install.yaml").all
              (TokenMatch.eval specUtil [])) :=
  ⟨rfl, rfl, loadEntry_requires_context specUtil [] specPlatforms installAndYaml ExprLang.Compile
    (vsphereRule "install.yaml") "/prompts/vsphere/install.yaml" _ _ rfl rfl rfl
    (by decide) rfl rfl⟩

/-- An `"or"` rule whose one term is the token `install`. -/
def installOrYaml (_ : String) : Except String KnowledgeAsset :=
  .ok { name := "install", On := { type := "or", terms := [{ tokens := ["install"], terms := [] }] } }

/-- **Under an `"or"` root the platform term is one more alternative.**  The `"or"` rule on
`install` under `vsphere` is loaded with the vSphere term appended to its alternatives, so
the message `install` matches it although the vSphere term does not hold. -/
theorem loadKnowledgeEntries_or_root_drops_context :
    ∃ loaded, loadKnowledgeEntries specPlatforms installOrYaml ExprLang.Compile
        (vsphereRule "install.yaml")
        "/prompts" [] = (none, [loaded]) ∧
      IsMatch specUtil loaded ["install"] = .ok true ∧
      (specPlatforms.GetPathContextTerms "/prompts/vsphere/install.yaml").map
        (fun c => Prod.fst <$> isTokenMatch specUtil (specUtil.NormalizeTokens ["install"]) c) =
          [.ok false] :=
  ⟨_, rfl, rfl, rfl⟩

/-! ## Platform expressions -/

/-- A rule whose expression has a top-level `or`. -/
def upgradeYaml (_ : String) : Except String KnowledgeAsset :=
  .ok { name := "upgrade", On := { expr := "false or true", terms := [] } }

/-- **The platform expression is not parenthesized.**  Under `vsphere`, the rule expression
`false or true` is compiled as `containsAny(...) and false or true`, which `and` binds as
`(containsAny(...) and false) or true`: it holds on the empty token map, where the platform
expression does not. -/
theorem loadKnowledgeEntries_expr_precedence :
    ∃ loaded, loadKnowledgeEntries specPlatforms upgradeYaml ExprLang.Compile
        (vsphereRule "upgrade.yaml")
        "/prompts" [] = (none, [loaded]) ∧
      loaded.On.expr = "containsAny(tokens, [\"vsphere\", \"vcenter\"]) and false or true" ∧
      loaded.On.compiledExpr.map (run []) = some (.ok (.bool true)) ∧
      (Compile (specPlatforms.GetPathContextExpr "/prompts/vsphere/upgrade.yaml") >>= run []) =
        .ok (.bool false) ∧
      (Compile "false or true" >>= run []) = .ok (.bool true) :=
  ⟨_, rfl, rfl, rfl, rfl, rfl⟩

/-! ## Nested expressions -/

/-- An `"and"` rule whose one term carries the expression `false`, the root none. -/
def nestedExprYaml (_ : String) : Except String KnowledgeAsset :=
  .ok { name := "nested", On := { type := "and", terms := [{ expr := "false", terms := [] }] } }

/-- **Only the root's expression is compiled.**  A rule whose term below the root carries
the expression `false` is loaded with that term's expression text but no program, so
`isTokenMatch` decides the term by its tokens and terms, of which it has none: the rule
holds for every token map, on which `false` evaluates to false. -/
theorem loadKnowledgeEntries_ignores_nested_expr :
    ∃ loaded, loadKnowledgeEntries specPlatforms nestedExprYaml ExprLang.Compile
        (pathAsContents (.dir (.ok [("nested.yaml", .file)]))) "/prompts" [] = (none, [loaded]) ∧
      loaded.On.terms.map (·.expr) = ["false"] ∧
      loaded.On.terms.map (·.compiledExpr.isSome) = [false] ∧
      ∀ (U : Util) (tokens : TokenMap), (Compile "false" >>= run tokens) = .ok (.bool false) ∧
        Prod.fst <$> isTokenMatch U tokens loaded.On = .ok true :=
  ⟨_, rfl, rfl, rfl, fun _ _ => ⟨rfl, rfl⟩⟩

/-! ## Errors -/

/-- Three rule files, `a.yaml`, `b.yaml`, `c.yaml`. -/
def threeRules : FileSystem :=
  pathAsContents (.dir (.ok [("a.yaml", .file), ("b.yaml", .file), ("c.yaml", .file)]))

/-- The rules of `threeRules` under `/prompts`: `b.yaml`'s expression is `(`. -/
def promptYaml (text : String) : Except String KnowledgeAsset :=
  if text = "/prompts/b.yaml" then .ok { name := "b", On := { expr := "(", terms := [] } }
  else .ok { name := text, On := { tokens := ["install"], terms := [] } }

/-- **A rule whose expression does not compile ends loading.**  Of `a.yaml`, `b.yaml`,
`c.yaml`, only `b.yaml`'s expression fails to compile: loading returns the error with
`a.yaml`'s asset already appended and `c.yaml`'s never loaded, and `init` registers no
knowledge command. -/
theorem loadKnowledgeEntries_aborts_on_bad_expr :
    (∃ e,
      (loadKnowledgeEntries specPlatforms promptYaml ExprLang.Compile threeRules "/prompts" []).1 =
      some ("error compiling knowledge expression: " ++ e)) ∧
    (loadKnowledgeEntries specPlatforms promptYaml ExprLang.Compile threeRules "/prompts" []).2.map
      (·.name) = ["/prompts/a.yaml"] ∧
    (knowledgeInit specUtil specPlatforms specSlack promptYaml ExprLang.Compile threeRules
      "/prompts"
      {}).2.attributes.length = 0 :=
  ⟨⟨_, rfl⟩, rfl, rfl⟩

/-- `loadKnowledgeEntries_first_error` applies to `threeRules`, failing at `b.yaml`. -/
theorem loadKnowledgeEntries_first_error_threeRules :
    getKnowledgeEntryPaths "/prompts" threeRules.tree [] =
      .ok ["/prompts/a.yaml", "/prompts/b.yaml", "/prompts/c.yaml"] ∧
    ((∀ loaded, ["/prompts/a.yaml", "/prompts/b.yaml", "/prompts/c.yaml"].mapM
        (loadEntry specPlatforms promptYaml ExprLang.Compile threeRules) = .ok loaded →
      loadKnowledgeEntries specPlatforms promptYaml ExprLang.Compile threeRules "/prompts" [] =
        (none, [] ++ loaded.reduceOption)) ∧
    ∀ pre bad rest loaded e, ["/prompts/a.yaml", "/prompts/b.yaml", "/prompts/c.yaml"] =
        pre ++ bad :: rest →
      pre.mapM (loadEntry specPlatforms promptYaml ExprLang.Compile threeRules) = .ok loaded →
      loadEntry specPlatforms promptYaml ExprLang.Compile threeRules bad = .error e →
      loadKnowledgeEntries specPlatforms promptYaml ExprLang.Compile threeRules "/prompts" [] =
        (some e, [] ++ loaded.reduceOption)) :=
  ⟨rfl, loadKnowledgeEntries_first_error specPlatforms promptYaml ExprLang.Compile threeRules
    "/prompts" _ [] rfl⟩

end SplatBot
