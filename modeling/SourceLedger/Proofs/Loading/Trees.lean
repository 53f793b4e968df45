import SourceLedger.Configuration
import SourceLedger.Proofs.Loading.Contents
import SourceLedger.Proofs.Syntax.Serialization

/-!
# Loading trees

Every item with content gets the tree of its content, and an item without content has none. Items
of the same full path share one source, which is no loss where their contents are those that the
path leads to.
-/

namespace SourceLedger

namespace Value

theorem equals_text (s t : Text) : (Value.text s).equals (.text t) = (s == t) := by
  rw [equals]
  · rfl
  · nofun
  · nofun

end Value

namespace Loading

variable {fs : FileSystem} {v : Value} {path t : Text} {items : Items} {options : ParseOptions}

theorem text_of_textAt (h : textAt fs v = some t) : ∃ path, v = .text path := by
  unfold textAt at h
  split at h
  · next read =>
    obtain ⟨path, _, _, rfl, _⟩ := readContent_some read
    exact ⟨path, rfl⟩
  · cases h

/-- The content of every item is the text at its full path. -/
def Current (fs : FileSystem) (items : Items) : Prop :=
  ∀ e ∈ items, e.2.content = (textAt fs e.2.fullPath).map .text

theorem current_reread (fs : FileSystem) (items : Items) :
    Current fs (items.mapValues (reread fs)) := by
  rw [Current, Entries.forall_mem_mapValues]
  exact fun _ _ => rfl

/-- A source is a full path with the text at it. -/
def IsSource (fs : FileSystem) (p : Value × Value) : Prop :=
  ∃ path t, p = (.text path, .text t) ∧ textAt fs (.text path) = some t

theorem isSource_of_content {item : Item} {c : Value}
    (current : item.content = (textAt fs item.fullPath).map .text)
    (h : item.content = some c) : IsSource fs (item.fullPath, c) := by
  rw [current, Option.map_eq_some_iff] at h
  obtain ⟨t, ht, rfl⟩ := h
  obtain ⟨path, heq⟩ := text_of_textAt ht
  rw [heq] at ht ⊢
  exact ⟨path, t, rfl, ht⟩

/-- One more item among the sources. -/
def addSource (found : List (Value × Value)) (e : Text × Item) : List (Value × Value) :=
  match e.2.content with
  | none => found
  | some content =>
    if found.any fun (p, _) => p.equals e.2.fullPath then
      found.map fun (p, c) => if p.equals e.2.fullPath then (p, content) else (p, c)
    else found ++ [(e.2.fullPath, content)]

/-- An item adds its full path and content to the sources, unless they are among them already or it
has no content. -/
theorem addSource_cases {found : List (Value × Value)} (sources : ∀ p ∈ found, IsSource fs p)
    {e : Text × Item} (current : e.2.content = (textAt fs e.2.fullPath).map .text) :
    (addSource found e = found ∧ ∀ c, e.2.content = some c → (e.2.fullPath, c) ∈ found) ∨
      ∃ c, e.2.content = some c ∧ e.2.fullPath ∉ found.map (·.1) ∧
        addSource found e = found ++ [(e.2.fullPath, c)] := by
  unfold addSource
  cases hc : e.2.content with
  | none => exact .inl ⟨rfl, nofun⟩
  | some content =>
      obtain ⟨path, t, heq, ht⟩ := isSource_of_content current hc
      obtain ⟨hpath, rfl⟩ := Prod.mk.inj heq
      simp only [hpath]
      have known : ∀ p ∈ found, p.1.equals (.text path) = true → p = (.text path, .text t) := by
        intro p hp equal
        obtain ⟨path', t', rfl, ht'⟩ := sources p hp
        rw [Value.equals_text, beq_iff_eq] at equal
        subst equal
        cases ht.symm.trans ht'
        rfl
      split_ifs with there
      · obtain ⟨p, hp, equal⟩ := List.any_eq_true.mp there
        have same : (found.map fun (p, c) =>
            if p.equals (.text path) then (p, .text t) else (p, c)) = found := by
          refine (List.map_congr_left fun p hp => ?_).trans (List.map_id found)
          change (if p.1.equals (.text path) = true then (p.1, .text t) else p) = p
          split_ifs with equal
          · rw [known p hp equal]
          · rfl
        refine .inl ⟨same, ?_⟩
        rintro c ⟨⟩
        exact known p hp equal ▸ hp
      · refine .inr ⟨.text t, rfl, fun mem => there ?_, rfl⟩
        obtain ⟨p, hp, hfst⟩ := List.mem_map.mp mem
        exact List.any_eq_true.mpr ⟨p, hp, by rw [hfst, Value.equals_text, beq_self_eq_true]⟩

/-- Sources are those of some items: texts at full paths, each path once and from one of the items,
and nothing is left out. -/
structure SourcesOf (fs : FileSystem) (items : Items) (found : List (Value × Value)) : Prop where
  isSource : ∀ p ∈ found, IsSource fs p
  nodup : (found.map (·.1)).Nodup
  fromItem : ∀ p ∈ found, ∃ e ∈ items, e.2.hasContent = true ∧ e.2.fullPath = p.1
  complete : ∀ e ∈ items, ∀ c, e.2.content = some c → (e.2.fullPath, c) ∈ found

theorem SourcesOf.addSource {found : List (Value × Value)} (sourcesOf : SourcesOf fs items found)
    {e : Text × Item} (current : e.2.content = (textAt fs e.2.fullPath).map .text) :
    SourcesOf fs (items ++ [e]) (addSource found e) := by
  have fromItem : ∀ p ∈ found,
      ∃ e' ∈ items ++ [e], e'.2.hasContent = true ∧ e'.2.fullPath = p.1 := by
    intro p hp
    obtain ⟨e', he', origin⟩ := sourcesOf.fromItem p hp
    exact ⟨e', List.mem_append_left _ he', origin⟩
  rcases addSource_cases sourcesOf.isSource current with ⟨same, known⟩ | ⟨c, hc, fresh, added⟩
  · rw [same]
    refine ⟨sourcesOf.isSource, sourcesOf.nodup, fromItem, fun e' he' => ?_⟩
    rcases List.mem_append.mp he' with he' | he'
    · exact sourcesOf.complete e' he'
    · rwa [List.mem_singleton.mp he']
  · rw [added]
    refine ⟨?_, ?_, ?_, fun e' he' c' hc' => ?_⟩
    · exact List.forall_mem_append.mpr ⟨sourcesOf.isSource,
        List.forall_mem_singleton.mpr (isSource_of_content current hc)⟩
    · rw [List.map_append, List.map_singleton]
      exact sourcesOf.nodup.append (List.nodup_singleton _) (List.disjoint_singleton.mpr fresh)
    · refine List.forall_mem_append.mpr ⟨fromItem, ?_⟩
      refine List.forall_mem_singleton.mpr ⟨e, by simp, ?_, rfl⟩
      rw [Item.hasContent, hc]
      rfl
    · rcases List.mem_append.mp he' with he' | he'
      · exact List.mem_append_left _ (sourcesOf.complete e' he' c' hc')
      · obtain rfl := List.mem_singleton.mp he'
        cases hc.symm.trans hc'
        exact List.mem_append_right _ List.mem_cons_self

/-- The sources of items whose contents are those at their full paths. -/
theorem sourcesOf_sources (current : Current fs items) : SourcesOf fs items (sources items) := by
  have all : ∀ (later earlier : Items) (found : List (Value × Value)),
      SourcesOf fs earlier found → Current fs later →
      SourcesOf fs (earlier ++ later) (later.foldl Loading.addSource found) := by
    intro later
    induction later with
    | nil =>
        intro earlier found sourcesOf _
        rwa [List.append_nil]
    | cons e later ih =>
        intro earlier found sourcesOf current
        rw [Current, List.forall_mem_cons] at current
        have next := ih (earlier ++ [e]) _ (sourcesOf.addSource current.1) current.2
        rwa [List.append_assoc] at next
  exact all items [] [] ⟨by simp, by simp, by simp, by simp⟩ current

/-- The tree of the content of an item, if it has one that can be parsed. -/
def treeOf (options : ParseOptions) (item : Item) : Option Value :=
  match item.content, item.fullPath with
  | some (.text t), .text path => (Parsing.parse options t path).toOption
  | _, _ => none

theorem treeOf_eq_some {item : Item} {tree : Value} (h : treeOf options item = some tree) :
    ∃ t path, item.content = some (.text t) ∧ item.fullPath = .text path ∧
      Parsing.parse options t path = .ok tree := by
  unfold treeOf at h
  split at h
  · next t path content fullPath => exact ⟨t, path, content, fullPath, eq_ok_of_toOption h⟩
  · cases h

/-- An item with the tree of its content. -/
def reparse (options : ParseOptions) (item : Item) : Item :=
  { item with tree := treeOf options item }

theorem reparse_plain {item : Item} (plain : item.Plain) : (reparse options item).Plain where
  content := plain.content
  tree h := by
    obtain ⟨_, _, _, _, parsed⟩ := treeOf_eq_some h
    exact Parsing.parse_ne_null parsed rfl

theorem reparse_distinct {item : Item} (distinct : item.Distinct) :
    (reparse options item).Distinct where
  id := distinct.id
  fullPath := distinct.fullPath
  index := distinct.index
  content := distinct.content
  tree v hv := by
    obtain ⟨_, _, _, _, parsed⟩ := treeOf_eq_some hv
    exact Parsing.distinct_parse parsed

/-- Every content of the items can be parsed. -/
def Parses (options : ParseOptions) (items : Items) : Prop :=
  ∀ e ∈ items, ∀ t path, e.2.content = some (.text t) → e.2.fullPath = .text path →
    ∃ tree, Parsing.parse options t path = .ok tree

theorem parseSourceWith_eq_ok {parser : SourceParser} {content : Value} {tree : Text × Value}
    (h : parseSourceWith parser v content = .ok tree) :
    ∃ t, v = .text tree.1 ∧ content = .text t ∧ parser t tree.1 = .ok tree.2 := by
  unfold parseSourceWith at h
  split at h
  · next t path =>
    obtain ⟨made, parsed, rfl⟩ := map_eq_ok h
    exact ⟨t, rfl, rfl, parsed⟩
  · cases h

theorem parseSource_eq_ok {tree : Text × Value}
    (h : parseSource options (.text path) (.text t) = .ok tree) :
    Parsing.parse options t path = .ok tree.2 ∧ tree.1 = path := by
  obtain ⟨_, hpath, htext, parsed⟩ := parseSourceWith_eq_ok h
  cases hpath
  cases htext
  exact ⟨mapError_eq_ok parsed, rfl⟩

/-- A tree that was made is that of the text at its path. -/
theorem text_of_made (current : Current fs items) {trees : List (Text × Value)}
    (parsed : (sources items).map (fun (path, content) => parseSource options path content) =
      trees.map .ok) {path : Text} {tree : Value} (made : (path, tree) ∈ trees) :
    ∃ t, textAt fs (.text path) = some t ∧ Parsing.parse options t path = .ok tree := by
  obtain ⟨source, listed, heq⟩ := exists_of_mem_of_map_eq parsed made
  obtain ⟨_, t, rfl, ht⟩ := (sourcesOf_sources current).isSource source listed
  obtain ⟨hparse, rfl⟩ := parseSource_eq_ok heq
  exact ⟨t, ht, hparse⟩

/-- The trees that were made are those of the items. -/
theorem get?_trees (current : Current fs items) {trees : List (Text × Value)}
    (parsed : (sources items).map (fun (path, content) => parseSource options path content) =
      trees.map .ok) {e : Text × Item} (he : e ∈ items) :
    e.2.fullPath.asText?.bind (Entries.get? (Entries.ofList trees)) = treeOf options e.2 ∧
      ∀ t path, e.2.content = some (.text t) → e.2.fullPath = .text path →
        ∃ tree, Parsing.parse options t path = .ok tree := by
  have hcurrent := current e he
  cases hc : e.2.content with
  | none =>
      refine ⟨?_, nofun⟩
      rw [treeOf, hc]
      cases ht : e.2.fullPath.asText? with
      | none => rfl
      | some path =>
          rw [Option.bind_some, Entries.get?_eq_none_iff]
          intro written
          obtain ⟨tree, htree⟩ := Entries.mem_keys_iff.mp written
          have made := Entries.mem_ofList (Entries.mem_of_get? htree)
          obtain ⟨t, found, _⟩ := text_of_made current parsed made
          have heq : e.2.fullPath = .text path := Value.asText?_eq_some.mp ht
          rw [hc, heq, found] at hcurrent
          cases hcurrent
  | some c =>
      obtain ⟨path, t, heq, ht⟩ := isSource_of_content hcurrent hc
      obtain ⟨hpath, rfl⟩ := Prod.mk.inj heq
      have listed := (sourcesOf_sources current).complete e he _ hc
      obtain ⟨⟨path', tree⟩, hr, heq⟩ := exists_of_map_eq parsed listed
      rw [hpath] at heq
      obtain ⟨hparse, rfl⟩ := parseSource_eq_ok heq
      refine ⟨?_, ?_⟩
      · rw [treeOf, hc, hpath]
        simp only [hparse]
        refine Entries.get?_ofList hr fun u hu => ?_
        obtain ⟨t', ht', hparse'⟩ := text_of_made current parsed hu
        cases ht.symm.trans ht'
        exact Except.ok.inj (hparse'.symm.trans hparse)
      · rintro t' path' ⟨⟩ hpath'
        cases hpath.symm.trans hpath'
        exact ⟨tree, hparse⟩

section Jobs

variable {w : Workspace} {d : Document}

theorem requireKeys_cases (keys : List Value) (w : Workspace) :
    (∃ failure, requireKeys keys w = (.error failure, w) ∧ keys.all canBeKey = false) ∨
      requireKeys keys w = (.ok (), w) ∧ keys.all canBeKey = true := by
  unfold requireKeys
  split_ifs with allowed
  · exact Or.inr ⟨rfl, allowed⟩
  · exact Or.inl ⟨_, rfl, Bool.not_eq_true _ ▸ allowed⟩

/-- The parse options that a document asks for. -/
def optionsOf (d : Document) : Except ParseOptions.Fault ParseOptions :=
  ParseOptions.ofValue
    ((Store.namespaceOf d Document.configName).lookup Configuration.optionsKey .null)

theorem storedOptions_of_load {w' : Workspace} (loaded : Store.load w = (.ok d, w')) :
    storedOptions w = ((optionsOf d).mapError (·.failure), w') := by
  refine (Job.bind_of_ok (Store.getNamespace_of_load loaded _)).trans ?_
  change Job.ofExcept ((optionsOf d).mapError (·.failure)) w' = _
  cases optionsOf d <;> rfl

/-- The parse options that trees are loaded with: those that are given, or else those that the
document asks for. -/
def optionsFor (options? : Option ParseOptions) (d : Document) :
    Except ParseOptions.Fault ParseOptions :=
  match options? with
  | some options => .ok options
  | none => optionsOf d

/-- Trees are loaded with these options, where they are accepted. -/
theorem loadTrees_of_load (options? : Option ParseOptions)
    (loaded : Store.load w = (.ok d, Store.holding w d)) :
    (∃ fault, optionsFor options? d = .error fault ∧
      loadTrees options? w = (.error fault.failure, Store.holding w d)) ∨
    ∃ options, optionsFor options? d = .ok options ∧
      loadTrees options? w = loadTreesWith (Parsing.attempt options) (Store.holding w d) := by
  cases options? with
  | some options => exact .inr ⟨options, rfl, Store.items_bind_of_load loaded⟩
  | none =>
      have stored := storedOptions_of_load loaded
      cases asked : optionsOf d with
      | error fault =>
          rw [asked] at stored
          exact .inl ⟨fault, asked, Job.bind_of_error stored⟩
      | ok options =>
          rw [asked] at stored
          exact .inr ⟨options, asked, Job.bind_of_ok stored⟩

/-- The trees that a parser makes of the sources of some items. -/
def MadeBy (parser : SourceParser) (items : Items) (trees : List (Text × Value)) : Prop :=
  (sources items).map (fun (path, content) => parseSourceWith parser path content) = trees.map .ok

/-- The trees of the sources of some items. -/
def MadeTrees (options : ParseOptions) (items : Items) (trees : List (Text × Value)) : Prop :=
  (sources items).map (fun (path, content) => parseSource options path content) = trees.map .ok

theorem MadeBy.parsed {parser : SourceParser} {trees : List (Text × Value)}
    (made : MadeBy parser items trees) {e : Text × Value} (he : e ∈ trees) :
    ∃ t, parser t e.1 = .ok e.2 := by
  obtain ⟨_, _, heq⟩ := exists_of_mem_of_map_eq made he
  obtain ⟨t, _, _, parsed⟩ := parseSourceWith_eq_ok heq
  exact ⟨t, parsed⟩

theorem MadeTrees.parsed {trees : List (Text × Value)} (made : MadeTrees options items trees)
    {e : Text × Value} (he : e ∈ trees) : ∃ t, Parsing.parse options t e.1 = .ok e.2 :=
  have made : MadeBy (Parsing.attempt options) items trees := made
  (made.parsed he).imp fun _ => mapError_eq_ok

/-- Every tree is made under the full path of its source. -/
theorem MadeTrees.paths {trees : List (Text × Value)} (made : MadeTrees options items trees) :
    (sources items).map (·.1) = trees.map fun e => .text e.1 := by
  unfold MadeTrees at made
  generalize sources items = sources at made
  induction sources generalizing trees with
  | nil =>
      obtain rfl := List.map_eq_nil_iff.mp made.symm
      rfl
  | cons p sources ih =>
      cases trees with
      | nil => cases made
      | cons e trees =>
          obtain ⟨first, rest⟩ := List.cons.inj made
          obtain ⟨_, path, _, _⟩ := parseSourceWith_eq_ok first
          rw [List.map_cons, List.map_cons, path, ih rest]

/-- There are as many trees as full paths of items with content. -/
theorem MadeTrees.length {trees : List (Text × Value)} (made : MadeTrees options items trees)
    (current : Current fs items) : trees.length = (items.fullPathsOf Item.hasContent).length := by
  obtain ⟨isSource, nodup, fromItem, complete⟩ := sourcesOf_sources current
  rw [made.paths] at nodup
  have nodup : (trees.map (·.1)).Nodup := by
    refine List.Nodup.of_map Value.text ?_
    rwa [List.map_map]
  have mem (path : Text) : path ∈ trees.map (·.1) ↔ .text path ∈ (sources items).map (·.1) := by
    rw [made.paths]
    simp
  rw [← Items.length_eq_fullPathsOf nodup, List.length_map]
  intro path
  rw [mem, List.mem_map]
  constructor
  · rintro ⟨p, hp, hpath⟩
    obtain ⟨e, he, hasContent, fullPath⟩ := fromItem p hp
    exact ⟨e, he, hasContent, fullPath.trans hpath⟩
  · rintro ⟨e, he, hasContent, fullPath⟩
    obtain ⟨c, hc⟩ := Option.isSome_iff_exists.mp hasContent
    exact ⟨_, complete e he c hc, fullPath⟩

theorem MadeBy.distinct_withTree {parser : SourceParser} {trees : List (Text × Value)}
    (made : MadeBy parser items trees)
    (distinct : ∀ source path tree, parser source path = .ok tree → tree.Distinct) {item : Item}
    (old : item.Distinct) : (withTree (Entries.ofList trees) item).Distinct where
  id := old.id
  fullPath := old.fullPath
  index := old.index
  content := old.content
  tree v hv := by
    obtain ⟨path, _, found⟩ := Option.bind_eq_some_iff.mp hv
    obtain ⟨t, parsed⟩ := made.parsed (Entries.mem_ofList (Entries.mem_of_get? found))
    exact distinct _ _ _ parsed

theorem MadeTrees.distinct_withTree {trees : List (Text × Value)}
    (made : MadeTrees options items trees) {item : Item} (old : item.Distinct) :
    (withTree (Entries.ofList trees) item).Distinct :=
  have made : MadeBy (Parsing.attempt options) items trees := made
  made.distinct_withTree (fun _ _ _ parsed => Parsing.distinct_parse (mapError_eq_ok parsed)) old

/-- A tree that an item gets is one that was made. -/
theorem parsed_of_withTree {trees : List (Text × Value)} (made : MadeTrees options items trees)
    {item : Item} {tree : Value} (h : (withTree (Entries.ofList trees) item).tree = some tree) :
    ∃ t path, item.fullPath = .text path ∧ Parsing.parse options t path = .ok tree := by
  obtain ⟨path, hpath, found⟩ := Option.bind_eq_some_iff.mp h
  obtain ⟨t, parsed⟩ := made.parsed (Entries.mem_ofList (Entries.mem_of_get? found))
  exact ⟨t, path, Value.asText?_eq_some.mp hpath, parsed⟩

/-- Sources of which trees were made have paths that can be looked up by. -/
theorem MadeBy.canBeKey {parser : SourceParser} {trees : List (Text × Value)}
    (made : MadeBy parser items trees) :
    ((sources items).map Prod.fst).all Loading.canBeKey = true := by
  rw [List.all_map, List.all_eq_true]
  intro source listed
  obtain ⟨tree, _, heq⟩ := exists_of_map_eq made listed
  obtain ⟨_, path, _, _⟩ := parseSourceWith_eq_ok heq
  rw [Function.comp_apply, path]
  rfl

theorem MadeBy.unique {parser : SourceParser} {trees trees' : List (Text × Value)}
    (made : MadeBy parser items trees) (made' : MadeBy parser items trees') : trees' = trees :=
  List.map_injective_iff.mpr (fun _ _ => Except.ok.inj) (Eq.trans (Eq.symm made') made)

/-- The full paths of all items can be looked up by. -/
def Keyed (items : Items) : Prop := (items.map (·.2.fullPath)).all canBeKey = true

/-- Trees are made of all contents at once, or else one of them cannot be made or stored, loading
fails and nothing is written. The trees that were made are counted. -/
theorem loadTreesWith_cases (parser : SourceParser) (cached : w.store.cached = some d) :
    (∃ failure log, loadTreesWith parser w = (.error failure, { w with log }) ∧
      ∀ items trees, Store.Tracks d items → MadeBy parser items trees → ¬Keyed items) ∨
      ∃ items trees log, Store.Tracks d items ∧ MadeBy parser items trees ∧ Keyed items ∧
        loadTreesWith parser w = (do
          Store.mergeItems (items.mapValues (withTree (Entries.ofList trees)))
          return trees.length : Job Nat) { w with log } := by
  have found := Store.items_of_load (Store.load_cached cached)
  cases hitems : Items.ofValue (Store.namespaceOf d Document.filesName) with
  | error e =>
      rw [hitems] at found
      refine Or.inl ⟨.unexpected e, w.log, Job.bind_of_error found, fun _ _ tracks => ?_⟩
      cases hitems.symm.trans tracks
  | ok items =>
      rw [hitems] at found
      have only {items' : Items} : Store.Tracks d items' → items' = items :=
        Store.Tracks.unique hitems
      obtain ⟨log, spoken⟩ := Job.speaks_forM
        (f := fun p : Value × Value => Job.say .debug ("parse " ++ p.1.display))
        (fun _ => Job.speaks_say _ _) (sources items) w
      have run : loadTreesWith parser w = (do
          requireKeys ((sources items).map Prod.fst)
          (sources items).forM fun p => Job.say .debug ("parse " ++ p.1.display)
          let trees ← Job.gather
            ((sources items).map fun (path, content) => parseSourceWith parser path content)
          requireKeys (items.map (·.2.fullPath))
          Store.mergeItems (items.mapValues (withTree (Entries.ofList trees)))
          return trees.length : Job Nat) w := Job.bind_of_ok found
      rcases requireKeys_cases ((sources items).map Prod.fst) w with
        ⟨failure, failed, unkeyed⟩ | ⟨passed, -⟩
      · refine Or.inl ⟨failure, w.log, run.trans (Job.bind_of_error failed), ?_⟩
        rintro _ _ tracks made -
        rw [only tracks] at made
        cases unkeyed.symm.trans made.canBeKey
      have run := run.trans ((Job.bind_of_ok passed).trans (Job.bind_of_ok spoken))
      rcases Job.gather_cases ((sources items).map fun (path, content) =>
          parseSourceWith parser path content) { w with log } with
        ⟨failure, failed⟩ | ⟨trees, gathered, parsed⟩
      · refine Or.inl ⟨failure, log, run.trans (Job.bind_of_error failed), ?_⟩
        rintro _ trees tracks made -
        rw [only tracks] at made
        obtain ⟨source, listed, unmade⟩ := List.mem_map.mp (Job.mem_of_gather failed)
        obtain ⟨tree, _, isMade⟩ := exists_of_map_eq made listed
        cases unmade.symm.trans isMade
      have run := run.trans (Job.bind_of_ok gathered)
      rcases requireKeys_cases (items.map (·.2.fullPath)) { w with log } with
        ⟨failure, failed, unkeyed⟩ | ⟨passed, keyed⟩
      · refine Or.inl ⟨failure, log, run.trans (Job.bind_of_error failed), ?_⟩
        intro _ _ tracks _ keyed
        rw [only tracks] at keyed
        cases unkeyed.symm.trans keyed
      exact Or.inr ⟨items, trees, log, hitems, parsed, keyed, run.trans (Job.bind_of_ok passed)⟩

theorem loadTreesWith_of_load (parser : SourceParser)
    (loaded : Store.load w = (.ok d, Store.holding w d)) :
    (∃ failure log, loadTreesWith parser w = (.error failure, { Store.holding w d with log }) ∧
      ∀ items trees, Store.Tracks d items → MadeBy parser items trees → ¬Keyed items) ∨
      ∃ items trees log, Store.Tracks d items ∧ MadeBy parser items trees ∧ Keyed items ∧
        loadTreesWith parser w = (do
          Store.mergeItems (items.mapValues (withTree (Entries.ofList trees)))
          return trees.length : Job Nat) { Store.holding w d with log } := by
  have inMemory : loadTreesWith parser w = loadTreesWith parser (Store.holding w d) :=
    Store.items_bind_of_load loaded
  rw [inMemory]
  exact loadTreesWith_cases parser (w := Store.holding w d) rfl

/-- With the stored options, loading trees fails where these are refused. -/
theorem loadTrees_cases (cached : w.store.cached = some d) :
    (∃ failure log, loadTrees none w = (.error failure, { w with log })) ∨
      ∃ options items trees log, optionsOf d = .ok options ∧ Store.Tracks d items ∧
        MadeTrees options items trees ∧
        loadTrees none w = (do
          Store.mergeItems (items.mapValues (withTree (Entries.ofList trees)))
          return trees.length : Job Nat) { w with log } := by
  rcases loadTrees_of_load none (Store.load_of_cached cached) with
    ⟨fault, _, failed⟩ | ⟨options, accepted, run⟩
  · rw [Store.holding_of_cached cached] at failed
    exact Or.inl ⟨_, w.log, failed⟩
  · rw [Store.holding_of_cached cached] at run
    rw [run]
    rcases loadTreesWith_cases (Parsing.attempt options) cached with
      ⟨failure, log, failed, -⟩ | ⟨items, trees, log, tracks, made, -, done⟩
    · exact Or.inl ⟨failure, log, failed⟩
    · exact Or.inr ⟨options, items, trees, log, accepted, tracks, made, done⟩

/-- Where the contents are those at the full paths, every item gets the tree of its content. -/
theorem withTree_eq_reparse (current : Current fs items) {trees : List (Text × Value)}
    (made : MadeTrees options items trees) :
    items.mapValues (withTree (Entries.ofList trees)) = items.mapValues (reparse options) ∧
      Parses options items := by
  have spec : ∀ e ∈ items, _ := fun e he => get?_trees current made he
  refine ⟨List.map_congr_left fun e he => Prod.ext rfl ?_, fun e he => (spec e he).2⟩
  simp only [withTree, reparse, (spec e he).1]

end Jobs

end Loading

end SourceLedger
