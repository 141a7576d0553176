/-
This file shows that a collection which is written and parsed again keeps its resources, its rules
and its shape, whatever resources were put into it.
-/

import Graft.Collection
import Graft.Proofs.Node.Equality
import Graft.Proofs.Yaml.ReadBack

namespace Graft

deriving instance DecidableEq for Resource, Format, Collection

/-- Resources are those with their roots. -/
theorem Resource.map_mk_root (resources : List Resource) :
    (resources.map Resource.root).map Resource.mk = resources := by
  rw [List.map_map]
  exact List.map_id resources

/-- Roots are those of their resources. -/
theorem Resource.map_root_mk (roots : List Node) :
    (roots.map Resource.mk).map Resource.root = roots := by
  rw [List.map_map]
  exact List.map_id roots

/-- A list with other items: all other entries stay, and the items stand in the old place, or last
if there were none. -/
structure ItemsReplaced (items : List Node) (before after : List (String × Node)) : Prop where
  items : Entries.find? "items" after = some (.sequence items)
  others : ∀ key, key ≠ "items" → Entries.find? key after = Entries.find? key before
  keys : Entries.keys after =
    if "items" ∈ Entries.keys before then Entries.keys before
    else Entries.keys before ++ ["items"]

/-- Two formats are of one kind, and a list has the items in the place of those it had. -/
inductive Format.Rewritten (items : List Node) : Format → Format → Prop where
  | stream : Rewritten items .stream .stream
  | list {before after : List (String × Node)} (replaced : ItemsReplaced items before after) :
      Rewritten items (.list before) (.list after)

namespace Collection

/-- The roots of the resources. -/
def roots (collection : Collection) : List Node := collection.resources.map Resource.root

/-- The format with the resources as its items. -/
def rewritten (collection : Collection) : Format :=
  match collection.format with
  | .stream => .stream
  | .list entries => .list (Entries.put "items" (.sequence collection.roots) entries)

/-- The documents that a collection is written as. -/
def documents (collection : Collection) : List Node :=
  match collection.rewritten with
  | .stream => collection.roots
  | .list entries => [.mapping entries]

/-- The text of a collection is that of its documents. -/
theorem render_eq (collection : Collection) :
    collection.render = Yaml.streamText collection.documents := by
  obtain ⟨resources, format⟩ := collection
  cases format with
  | stream => rfl
  | list entries =>
      simp only [render, documents, rewritten, roots, Yaml.streamText, Text.join, List.map_cons,
        List.map_nil, String.intercalate_singleton]

/-- A format agrees with the resources when its text can be taken for nothing else: a stream is no
single list, and a list is one. -/
def Coherent (collection : Collection) : Prop :=
  match collection.format with
  | .stream => ∀ resource, collection.resources = [resource] → listEntries? resource.root = none
  | .list entries => listEntries? (.mapping entries) = some entries

/-- Documents that are no single list are a stream. -/
theorem ofDocuments_stream {documents : List Node}
    (unlisted : ∀ document, documents = [document] → listEntries? document = none) :
    ofDocuments documents = .ok ⟨documents.map Resource.mk, .stream⟩ := by
  rw [ofDocuments]
  split
  · rename_i entries listed
    obtain ⟨document, rfl, found⟩ := List.map_eq_singleton_iff.mp listed
    cases (unlisted document rfl).symm.trans found
  · rfl

/-- A mapping that is a list stays one when its items are replaced. -/
theorem listEntries?_put {entries : List (String × Node)}
    (listed : listEntries? (.mapping entries) = some entries) (items : Node) :
    listEntries? (.mapping (Entries.put "items" items entries)) =
      some (Entries.put "items" items entries) := by
  rw [listEntries?] at listed ⊢
  rw [Entries.find?_put_other (by decide)]
  split at listed
  · rename_i named
    rw [if_pos named]
  · cases listed

/-- Documents that are read back are parsed as the collection that they were written for. -/
theorem ofDocuments_documents {collection : Collection} (coherent : collection.Coherent) :
    ofDocuments collection.documents = .ok ⟨collection.resources, collection.rewritten⟩ := by
  obtain ⟨resources, format⟩ := collection
  cases format with
  | stream =>
      have unlisted : ∀ document, resources.map Resource.root = [document] →
          listEntries? document = none := by
        intro document single
        obtain ⟨resource, rfl, rfl⟩ := List.map_eq_singleton_iff.mp single
        exact coherent resource rfl
      have parsed := ofDocuments_stream unlisted
      rwa [Resource.map_mk_root] at parsed
  | list entries =>
      have listed := listEntries?_put coherent (.sequence (resources.map Resource.root))
      simp only [documents, rewritten, roots, ofDocuments, List.map_cons, List.map_nil, listed,
        itemsOf, Entries.find?_put_same]
      rw [Except.map, Resource.map_mk_root]

/-- A written collection that is read back is parsed with its resources and its format. -/
theorem parse_of_readBack {collection : Collection} (coherent : collection.Coherent)
    (given : ∀ document ∈ collection.documents, document.isNull = false)
    (readBack : Yaml.ReadBack collection.documents) :
    parse collection.render = .ok ⟨collection.resources, collection.rewritten⟩ := by
  rw [render_eq]
  unfold parse
  rw [readBack.parseStream given]
  exact ofDocuments_documents coherent

/-- Replacing the items keeps all other entries and their order. -/
theorem itemsReplaced_put (items : List Node) (entries : List (String × Node)) :
    ItemsReplaced items entries (Entries.put "items" (.sequence items) entries) where
  items := Entries.find?_put_same _ _ _
  others _ different := Entries.find?_put_other different _ _
  keys := Entries.keys_put _ _ _

/-- A collection is rewritten in its own format. -/
theorem rewritten_spec (collection : Collection) :
    Format.Rewritten collection.roots collection.format collection.rewritten := by
  obtain ⟨resources, format⟩ := collection
  cases format with
  | stream => exact .stream
  | list entries => exact .list (itemsReplaced_put _ entries)

/-- The rules that a collection carries do not depend on its items. -/
theorem functionConfig?_rewritten (collection : Collection) (resources : List Resource) :
    functionConfig? ⟨resources, collection.rewritten⟩ = collection.functionConfig? := by
  obtain ⟨others, format⟩ := collection
  cases format with
  | stream => rfl
  | list entries =>
      have kept := (itemsReplaced_put (others.map Resource.root) entries).others "functionConfig"
        (by decide)
      simp only [functionConfig?, rewritten, roots, kept]

/-- A parsed collection comes from documents that are not null. -/
theorem documents_of_parse {text : String} {collection : Collection}
    (parsed : parse text = .ok collection) :
    ∃ documents, ofDocuments documents = .ok collection ∧
      ∀ document ∈ documents, document.isNull = false := by
  unfold parse at parsed
  split at parsed
  · rename_i documents read
    exact ⟨documents, parsed, Yaml.isNull_of_collectDocuments read⟩
  · cases parsed

/-- The documents of a collection are a single list with its items, or a stream. -/
theorem cases_of_ofDocuments {documents : List Node} {collection : Collection}
    (made : ofDocuments documents = .ok collection) :
    (∃ entries, listEntries? (.mapping entries) = some entries ∧
        collection.format = .list entries) ∨
      (∀ document, documents = [document] → listEntries? document = none) ∧
        collection = ⟨documents.map Resource.mk, .stream⟩ := by
  rw [ofDocuments] at made
  split at made
  · rename_i entries listed
    obtain ⟨document, rfl, found⟩ := List.map_eq_singleton_iff.mp listed
    obtain ⟨items, -, rfl⟩ := Result.map_eq_ok.mp made
    refine .inl ⟨entries, ?_, rfl⟩
    cases document with
    | mapping others =>
        have same := found
        rw [listEntries?] at same
        split at same
        · cases same
          exact found
        · cases same
    | sequence _ | text _ | number _ | boolean _ | null => cases found
  · rename_i unlisted
    cases made
    refine .inr ⟨?_, rfl⟩
    rintro document rfl
    cases found : listEntries? document with
    | none => rfl
    | some entries => exact absurd (by rw [List.map_singleton, found]) (unlisted entries)

/-- A parsed list is a list by its entries. -/
theorem listed_of_parse {text : String} {collection : Collection}
    {entries : List (String × Node)} (parsed : parse text = .ok collection)
    (format : collection.format = .list entries) :
    listEntries? (.mapping entries) = some entries := by
  obtain ⟨documents, made, -⟩ := documents_of_parse parsed
  obtain ⟨others, listed, same⟩ | ⟨-, rfl⟩ := cases_of_ofDocuments made
  · cases format.symm.trans same
    exact listed
  · cases format

/-- A parsed collection is coherent, and its documents are not null. -/
theorem coherent_of_parse {text : String} {collection : Collection}
    (parsed : parse text = .ok collection) :
    collection.Coherent ∧ ∀ document ∈ collection.documents, document.isNull = false := by
  obtain ⟨documents, made, given⟩ := documents_of_parse parsed
  obtain ⟨entries, listed, format⟩ | ⟨unlisted, rfl⟩ := cases_of_ofDocuments made
  · obtain ⟨resources, shape⟩ := collection
    obtain rfl : shape = .list entries := format
    exact ⟨listed, by simp [Collection.documents, rewritten, Node.isNull]⟩
  · constructor
    · intro resource single
      obtain ⟨document, rfl, rfl⟩ := List.map_eq_singleton_iff.mp single
      exact unlisted document rfl
    · rw [← Resource.map_root_mk documents] at given
      exact given

/-- A collection with other resources in the place of its own. -/
def withResources (collection : Collection) (resources : List Resource) : Collection :=
  { collection with resources }

/-- A parsed collection is parsed again after other resources were put into it and it was written:
the resources come back in order, the rules are the same, and so is the format, with the resources
as the items of a list. No resource may be null, a stream may not turn into a single list, and the
text must be read back as the values that were written. -/
theorem parse_render {text : String} {collection : Collection} {resources : List Resource}
    (parsed : parse text = .ok collection)
    (given : ∀ resource ∈ resources, resource.root.isNull = false)
    (unlisted : collection.format = .stream →
      ∀ resource, resources = [resource] → listEntries? resource.root = none)
    (readBack : Yaml.ReadBack (collection.withResources resources).documents) :
    ∃ reread, parse (collection.withResources resources).render = .ok reread ∧
      reread.resources = resources ∧ reread.functionConfig? = collection.functionConfig? ∧
        Format.Rewritten (resources.map Resource.root) collection.format reread.format := by
  obtain ⟨others, format⟩ := collection
  have coherent : ((Collection.mk others format).withResources resources).Coherent := by
    cases format with
    | stream => exact unlisted rfl
    | list entries => exact listed_of_parse parsed rfl
  have kept : ∀ document ∈ ((Collection.mk others format).withResources resources).documents,
      document.isNull = false := by
    cases format with
    | stream =>
        intro document member
        obtain ⟨resource, inside, rfl⟩ := List.mem_map.mp member
        exact given resource inside
    | list entries => simp [withResources, Collection.documents, rewritten, Node.isNull]
  refine ⟨_, parse_of_readBack coherent kept readBack, rfl, ?_, ?_⟩
  · exact functionConfig?_rewritten ⟨resources, format⟩ resources
  · exact rewritten_spec ⟨resources, format⟩

/-- A list with null items and rules gets two items in their place. -/
theorem parse_render_nullItems :
    let text := "kind: ResourceList\nitems: null\nfunctionConfig: {a: 1}\n"
    let rules : Node := .mapping [("a", .number (.whole 1))]
    let entries (items : Node) : List (String × Node) :=
      [("kind", .text "ResourceList"), ("items", items), ("functionConfig", rules)]
    let collection : Collection := ⟨[], .list (entries .null)⟩
    let resources : List Resource := [⟨.mapping [("kind", .text "A")]⟩, ⟨.sequence [.text "1"]⟩]
    parse text = .ok collection ∧
      Yaml.ReadBack (collection.withResources resources).documents ∧
        ∃ reread, parse (collection.withResources resources).render = .ok reread ∧
          reread.resources = resources ∧ reread.functionConfig? = some rules := by
  intro text rules entries collection resources
  have parsed : parse text = .ok collection := by decide +kernel
  have readBack : Yaml.ReadBack (collection.withResources resources).documents := by
    decide +kernel
  obtain ⟨reread, again, same, sameRules, -⟩ :=
    parse_render parsed (by decide +kernel) nofun readBack
  exact ⟨parsed, readBack, reread, again, same, sameRules⟩

end Collection

end Graft
