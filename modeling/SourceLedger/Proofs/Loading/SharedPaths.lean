import SourceLedger.Proofs.Loading.Trees
import SourceLedger.Proofs.Store.Merged

/-!
# Items of one full path

While trees are made they are kept by full path. So the items of one full path share a tree: that
of the last content among theirs, whatever the contents of the others are, and whether or not they
have any.
-/

namespace SourceLedger

/-- The full path is a text, and so is the content where there is one. -/
structure Item.WellFormed (item : Item) : Prop where
  fullPath : ∃ path, item.fullPath = .text path
  content : ∀ c, item.content = some c → ∃ t, c = .text t

namespace Loading

variable {items : Items} {item : Item} {parser : SourceParser} {path t : Text}

/-- A text is the last content among the items of a full path. -/
def LastContent (items : Items) (path t : Text) : Prop :=
  ∃ before e after, items = before ++ e :: after ∧ e.2.fullPath = .text path ∧
    e.2.content = some (.text t) ∧
    ∀ e' ∈ after, e'.2.fullPath = .text path → e'.2.content = none

/-- No item of a full path has content. -/
def NoContent (items : Items) (path : Text) : Prop :=
  ∀ e ∈ items, e.2.fullPath = .text path → e.2.content = none

/-- The full path and the content of an item, if it has content. -/
def sourceOf (item : Item) : Option (Text × Text) :=
  match item.fullPath, item.content with
  | .text path, some (.text t) => some (path, t)
  | _, _ => none

theorem sourceOf_eq_some : sourceOf item = some (path, t) ↔
    item.fullPath = .text path ∧ item.content = some (.text t) := by
  unfold sourceOf
  constructor
  · intro h
    split at h
    · next fullPath content =>
      cases h
      exact ⟨fullPath, content⟩
    · cases h
  · rintro ⟨fullPath, content⟩
    rw [fullPath, content]

/-- The sources of some items as texts, one after another. -/
def sourceTexts (items : Items) : List (Text × Text) := items.filterMap (sourceOf ·.2)

/-- The sources that parsers are given: of those with one full path, the last one. -/
def sharedSources (items : Items) : Entries Text := Entries.ofList (sourceTexts items)

/-- Texts as the values that they are stored as. -/
def asValues (sources : Entries Text) : List (Value × Value) :=
  sources.map fun (path, t) => (.text path, .text t)

theorem addSource_asValues {sources : Entries Text} (nodup : sources.keys.Nodup)
    {e : Text × Item} (wellFormed : e.2.WellFormed) :
    addSource (asValues sources) e =
      asValues ((sourceOf e.2).elim sources fun (path, t) => sources.put path t) := by
  obtain ⟨path, fullPath⟩ := wellFormed.fullPath
  unfold addSource sourceOf
  rw [fullPath]
  cases content : e.2.content with
  | none => rfl
  | some c =>
      obtain ⟨t, rfl⟩ := wellFormed.content c content
      simp only [Option.elim]
      have equals (p : Text) : (Value.text p).equals (.text path) = decide (p = path) := by
        rw [Value.equals_text, beq_eq_decide]
      have there : ((asValues sources).any fun s => s.1.equals (.text path)) =
          decide (path ∈ sources.keys) := by
        rw [Bool.eq_iff_iff, decide_eq_true_iff, List.any_eq_true]
        simp [asValues, equals, Entries.keys]
      rw [there]
      by_cases h : path ∈ sources.keys
      · rw [decide_eq_true h, if_pos rfl, Entries.put_of_mem nodup h, asValues, asValues,
          List.map_map, List.map_map]
        refine List.map_congr_left fun s _ => ?_
        simp only [Function.comp_apply, equals, decide_eq_true_eq]
        split_ifs <;> rfl
      · rw [decide_eq_false h, if_neg Bool.false_ne_true, Entries.put_of_notMem h, asValues,
          asValues, List.map_append]
        rfl

/-- Of items that are well formed, the parsers are given the sources that are shared. -/
theorem sources_eq (wellFormed : ∀ e ∈ items, e.2.WellFormed) :
    sources items = asValues (sharedSources items) := by
  induction items using List.reverseRecOn with
  | nil => rfl
  | append_singleton items e ih =>
      rw [List.forall_mem_append] at wellFormed
      have last : sources (items ++ [e]) = addSource (sources items) e := List.foldl_append
      have texts : sourceTexts (items ++ [e]) = sourceTexts items ++ (sourceOf e.2).toList := by
        rw [sourceTexts, List.filterMap_append]
        cases h : sourceOf e.2 <;> simp [sourceTexts, h]
      have nodup : (sharedSources items).keys.Nodup := Entries.nodup_ofList _
      rw [last, ih wellFormed.1,
        addSource_asValues nodup (wellFormed.2 e (List.mem_singleton_self e)),
        sharedSources, sharedSources, texts]
      cases sourceOf e.2 with
      | none => rw [Option.toList_none, List.append_nil]; rfl
      | some source => rw [Option.toList_some, Entries.ofList_concat]; rfl

theorem mem_keys_sourceTexts : path ∈ Entries.keys (sourceTexts items) ↔
    ∃ e ∈ items, ∃ t, e.2.fullPath = .text path ∧ e.2.content = some (.text t) := by
  rw [Entries.keys, List.mem_map]
  constructor
  · rintro ⟨⟨_, t⟩, mem, rfl⟩
    obtain ⟨e, he, source⟩ := List.mem_filterMap.mp mem
    exact ⟨e, he, t, sourceOf_eq_some.mp source⟩
  · rintro ⟨e, he, t, isSource⟩
    exact ⟨(path, t), List.mem_filterMap.mpr ⟨e, he, sourceOf_eq_some.mpr isSource⟩, rfl⟩

/-- Shared sources are the last contents of full paths. -/
theorem get?_sharedSources (wellFormed : ∀ e ∈ items, e.2.WellFormed) :
    (sharedSources items).get? path = some t ↔ LastContent items path t := by
  rw [sharedSources, Entries.get?_ofList_eq_some_iff, LastContent]
  constructor
  · rintro ⟨before, after, split, absent⟩
    obtain ⟨front, back, rfl, _, rest⟩ := List.filterMap_eq_append_iff.mp split
    obtain ⟨skipped, e, later, rfl, without, source, rfl⟩ := List.filterMap_eq_cons_iff.mp rest
    obtain ⟨fullPath, content⟩ := sourceOf_eq_some.mp source
    refine ⟨front ++ skipped, e, later, by simp, fullPath, content, fun e' he' fullPath' => ?_⟩
    cases content' : e'.2.content with
    | none => rfl
    | some c =>
        obtain ⟨t', rfl⟩ := (wellFormed e' (by simp [he'])).content c content'
        exact absurd (mem_keys_sourceTexts.mpr ⟨e', he', t', fullPath', content'⟩) absent
  · rintro ⟨before, e, after, rfl, fullPath, content, none⟩
    refine ⟨sourceTexts before, sourceTexts after, ?_, fun there => ?_⟩
    · rw [sourceTexts, List.filterMap_append, List.filterMap_cons,
        sourceOf_eq_some.mpr ⟨fullPath, content⟩]
      rfl
    · obtain ⟨e', he', t', fullPath', content'⟩ := mem_keys_sourceTexts.mp there
      cases (none e' he' fullPath').symm.trans content'

theorem mem_keys_sharedSources (wellFormed : ∀ e ∈ items, e.2.WellFormed) :
    path ∈ (sharedSources items).keys ↔
      ∃ e ∈ items, e.2.hasContent = true ∧ e.2.fullPath = .text path := by
  rw [sharedSources, Entries.ofList, Entries.mem_keys_update, Entries.keys_nil,
    or_iff_right List.not_mem_nil, mem_keys_sourceTexts]
  refine exists_congr fun e => and_congr_right fun he => ?_
  constructor
  · rintro ⟨t, fullPath, content⟩
    exact ⟨by rw [Item.hasContent, content]; rfl, fullPath⟩
  · rintro ⟨hasContent, fullPath⟩
    obtain ⟨c, content⟩ := Option.isSome_iff_exists.mp hasContent
    obtain ⟨t, rfl⟩ := (wellFormed e he).content c content
    exact ⟨t, fullPath, content⟩

/-- A full path without a shared source is one without content. -/
theorem noContent_of_get? (wellFormed : ∀ e ∈ items, e.2.WellFormed)
    (absent : (sharedSources items).get? path = none) : NoContent items path := by
  intro e he fullPath
  rw [Entries.get?_eq_none_iff, mem_keys_sharedSources wellFormed] at absent
  by_contra content
  exact absent ⟨e, he, Option.isSome_iff_ne_none.mpr content, fullPath⟩

/-- The trees that were made of some sources are those that the parser gives, path by path. -/
theorem made_of_texts {sources : Entries Text} {trees : Entries Value}
    (made : (asValues sources).map (fun (path, content) => parseSourceWith parser path content) =
      trees.map .ok) :
    trees.keys = sources.keys ∧
      ∀ path t, sources.get? path = some t →
        ∃ tree, parser t path = .ok tree ∧ trees.get? path = some tree := by
  induction sources generalizing trees with
  | nil =>
      obtain rfl := List.map_eq_nil_iff.mp made.symm
      exact ⟨rfl, nofun⟩
  | cons source sources ih =>
      cases trees with
      | nil => cases made
      | cons tree trees =>
          obtain ⟨first, rest⟩ := List.cons.inj made
          obtain ⟨keys, found⟩ := ih rest
          obtain ⟨source₁, source₂⟩ := source
          obtain ⟨tree₁, tree₂⟩ := tree
          obtain ⟨t, heq, content, parsed⟩ := parseSourceWith_eq_ok first
          cases heq
          cases content
          refine ⟨congrArg (tree₁ :: ·) keys, fun path t there => ?_⟩
          rw [Entries.get?] at there ⊢
          split_ifs at there ⊢ with here
          · cases there
            cases here
            exact ⟨tree₂, parsed, rfl⟩
          · exact found path t there

/-- How an item comes by its tree: it is that of the last content of its full path. -/
inductive TreeAt (parser : SourceParser) (items : Items) (path : Text) : Option Value → Prop
  | last {t : Text} {tree : Value} (content : LastContent items path t)
      (parsed : parser t path = .ok tree) : TreeAt parser items path (some tree)
  | none (content : NoContent items path) : TreeAt parser items path none

/-- Trees were made for every full path with content, and for no other. -/
theorem treeAt_of_made (wellFormed : ∀ e ∈ items, e.2.WellFormed) {trees : List (Text × Value)}
    (made : MadeBy parser items trees) :
    (∀ path, TreeAt parser items path (Entries.get? (Entries.ofList trees) path)) ∧
      trees.length = (items.fullPathsOf Item.hasContent).length := by
  rw [MadeBy, sources_eq wellFormed] at made
  obtain ⟨keys, found⟩ := made_of_texts made
  have nodup : (Entries.keys trees).Nodup := by
    rw [keys]
    exact Entries.nodup_ofList _
  rw [Entries.ofList_of_nodup nodup]
  refine ⟨fun path => ?_, ?_⟩
  · cases there : (sharedSources items).get? path with
    | some t =>
        obtain ⟨tree, parsed, got⟩ := found path t there
        rw [got]
        exact .last ((get?_sharedSources wellFormed).mp there) parsed
    | none =>
        have none : Entries.get? trees path = none := by
          rwa [Entries.get?_eq_none_iff, keys, ← Entries.get?_eq_none_iff]
        rw [none]
        exact .none (noContent_of_get? wellFormed there)
  · rw [← Items.length_eq_fullPathsOf nodup, Entries.keys, List.length_map]
    intro path
    rw [keys]
    exact mem_keys_sharedSources wellFormed

/-- The tree of an item is that of its own content. -/
structure HasOwnTree (parser : SourceParser) (item : Item) : Prop where
  parsed : ∀ t path, item.content = some (.text t) → item.fullPath = .text path →
    ∃ tree, parser t path = .ok tree ∧ item.tree = some tree
  unset : item.content = none → item.tree = none

theorem LastContent.eq_of_agree (last : LastContent items path t) {e : Text × Item}
    (fullPath : e.2.fullPath = .text path)
    (agree : ∀ e' ∈ items, e'.2.fullPath = e.2.fullPath → e'.2.content = e.2.content) :
    e.2.content = some (.text t) := by
  obtain ⟨before, e', after, rfl, fullPath', content', _⟩ := last
  exact (agree e' (by simp) (fullPath'.trans fullPath.symm)).symm.trans content'

theorem tree_withTree (trees : Entries Value) (fullPath : item.fullPath = .text path) :
    (withTree trees item).tree = trees.get? path := by
  rw [withTree, fullPath]
  rfl

/-- Where the items of a full path agree in their content, it is no loss that they share a tree. -/
theorem hasOwnTree_of_agree (wellFormed : ∀ e ∈ items, e.2.WellFormed) {trees : Entries Value}
    (made : ∀ path, TreeAt parser items path (trees.get? path)) {e : Text × Item} (he : e ∈ items)
    (agree : ∀ e' ∈ items, e'.2.fullPath = e.2.fullPath → e'.2.content = e.2.content) :
    HasOwnTree parser (withTree trees e.2) := by
  obtain ⟨path, fullPath⟩ := (wellFormed e he).fullPath
  have tree := tree_withTree trees fullPath
  have treeAt := made path
  generalize trees.get? path = found at tree treeAt
  refine ⟨fun t path' content same => ?_, fun content => ?_⟩
  · have content : e.2.content = some (.text t) := content
    cases fullPath.symm.trans same
    cases treeAt with
    | last last parsed =>
        cases content.symm.trans (last.eq_of_agree fullPath agree)
        exact ⟨_, parsed, tree⟩
    | none without => cases (without e he fullPath).symm.trans content
  · have content : e.2.content = none := content
    cases treeAt with
    | last last _ => cases content.symm.trans (last.eq_of_agree fullPath agree)
    | none => exact tree

variable {w w' : Workspace} {d : Document} {n : Nat}

/-- The law of loaded trees. Loading them changes nothing but the trees of the items. Each item gets
the tree of the last content among the items of its full path, and none where there is no content;
this is the tree of its own content if the items of its full path agree. The number of full paths
with content is answered. -/
theorem trees_by_full_path
    (tables : ∀ source path tree, parser source path = .ok tree →
      ∃ es : Value.Table, tree = .table es)
    (loaded : Store.load w = (.ok d, Store.holding w d)) (distinct : Value.Table.Distinct d)
    (tracks : Store.Tracks d items) (wellFormed : ∀ e ∈ items, e.2.WellFormed)
    (done : loadTreesWith parser w = (.ok n, w')) :
    ∃ trees log d', w' = Store.written { w with log } d' ∧
      (Store.writing { w with log } d').result = .ok () ∧
      Store.Tracks d' (items.mapValues (withTree trees)) ∧
      (∀ name, name ≠ Document.filesName → Store.namespaceOf d' name = Store.namespaceOf d name) ∧
      (∀ path, TreeAt parser items path (Entries.get? trees path)) ∧
      (∀ e ∈ items, (∀ e' ∈ items, e'.2.fullPath = e.2.fullPath → e'.2.content = e.2.content) →
        HasOwnTree parser (withTree trees e.2)) ∧
      n = (items.fullPathsOf Item.hasContent).length := by
  rcases loadTreesWith_of_load parser loaded with
    ⟨failure, log, failed, -⟩ | ⟨items', trees, log, tracks', made, -, run⟩
  · cases failed.symm.trans done
  obtain rfl := tracks'.unique tracks
  obtain ⟨treeAt, count⟩ := treeAt_of_made wellFormed made
  obtain ⟨rfl, written, rfl⟩ := Store.mergeItems_eq_ok (run.symm.trans done)
  refine ⟨_, log, _, rfl, written, ?_, fun name other => ?_, treeAt,
    fun e he => hasOwnTree_of_agree wellFormed treeAt he, count⟩
  · refine tracks.mapValues distinct fun e he => ⟨(tracks.plain e he).content, fun null => ?_⟩
    obtain ⟨path, _, found⟩ := Option.bind_eq_some_iff.mp null
    have tree := treeAt path
    rw [found] at tree
    cases tree with
    | last _ parsed =>
        obtain ⟨es, heq⟩ := tables _ _ _ parsed
        cases heq
  · exact Store.namespaceOf_merged_of_ne (Ne.symm other) d _

section Examples

/-- An item of one fixed full path. -/
def twin (index : Text) (content : Option Text) : Item where
  id := .text "0"
  fullPath := .text "/a.py"
  index := .text index
  content := content.map .text
  tree := some (.table [])

/-- Three items of one full path: with a content, with another one, and without. -/
def twins : Items :=
  [("a.py", twin "a.py" (some "x\n")), ("./a.py", twin "./a.py" (some "")),
    ("/a.py", twin "/a.py" none)]

theorem forall_twins {P : Item → Prop} (h : ∀ index content, P (twin index content)) :
    ∀ e ∈ twins, P e.2 := by
  simp [twins, h]

/-- A workspace with a document of these items in memory. -/
def withTwins : Workspace :=
  Store.holding (Store.opened [] "db.json") (Store.withItems (Document.withDefaults []) twins)

theorem trees_by_full_path_twins :
    let parser := Parsing.attempt .default
    let w := withTwins
    let d := Store.withItems (Document.withDefaults []) twins
    ∃ w', ((∀ source path tree, parser source path = .ok tree →
        ∃ es : Value.Table, tree = .table es) ∧
      Store.load w = (.ok d, Store.holding w d) ∧ Value.Table.Distinct d ∧
      Store.Tracks d twins ∧ (∀ e ∈ twins, e.2.WellFormed) ∧
      loadTreesWith parser w = (.ok 1, w')) ∧
    ∃ trees log d', w' = Store.written { w with log } d' ∧
      (Store.writing { w with log } d').result = .ok () ∧
      Store.Tracks d' (twins.mapValues (withTree trees)) ∧
      (∀ name, name ≠ Document.filesName → Store.namespaceOf d' name = Store.namespaceOf d name) ∧
      (∀ path, TreeAt parser twins path (Entries.get? trees path)) ∧
      (∀ e ∈ twins, (∀ e' ∈ twins, e'.2.fullPath = e.2.fullPath → e'.2.content = e.2.content) →
        HasOwnTree parser (withTree trees e.2)) ∧
      1 = (twins.fullPathsOf Item.hasContent).length := by
  intro parser w d
  have tables : ∀ source path tree, parser source path = .ok tree →
      ∃ es : Value.Table, tree = .table es := by
    intro source path tree parsed
    obtain ⟨es, heq, _⟩ := Parsing.exists_table_of_parse (mapError_eq_ok parsed)
    exact ⟨es, heq⟩
  have loaded : Store.load w = (.ok d, Store.holding w d) := rfl
  have distinct : Value.Table.Distinct d := by
    refine (Store.withItems_new_complete (by decide)
      (forall_twins fun index content => ?_)).distinct
    refine ⟨Value.distinct_text _, Value.distinct_text _, Value.distinct_text _, ?_, ?_⟩
    · rintro _ hc
      obtain ⟨t, _, rfl⟩ := Option.map_eq_some_iff.mp hc
      exact Value.distinct_text t
    · rintro _ ⟨⟩
      exact Value.Table.distinct_nil
  have tracks : Store.Tracks d twins := rfl
  have wellFormed : ∀ e ∈ twins, e.2.WellFormed := forall_twins fun index content =>
    ⟨⟨_, rfl⟩, fun c hc => (Option.map_eq_some_iff.mp hc).imp fun _ h => h.2.symm⟩
  have answer : (loadTreesWith parser w).1.toOption = some 1 := by decide +kernel
  have done : loadTreesWith parser w = (.ok 1, (loadTreesWith parser w).2) :=
    Prod.ext (eq_ok_of_toOption answer) rfl
  exact ⟨_, ⟨tables, loaded, distinct, tracks, wellFormed, done⟩,
    trees_by_full_path tables loaded distinct tracks wellFormed done⟩

/-- The first item gets the tree of the content of the second, and so does the one without any. -/
theorem twins_share_tree :
    let after := (loadTreesWith (Parsing.attempt .default) withTwins).2
    (Store.items after).1.toOption.map (·.map fun e =>
        (e.2.tree.isSome, e.2.tree.bind fun tree => (treeOf .default e.2).map tree.equals)) =
      some [(true, some false), (true, some true), (true, none)] := by
  decide +kernel

end Examples

end Loading

end SourceLedger
