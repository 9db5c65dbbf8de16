/-
  An exported document holds the fragments that it needs, and no other.

  1. **Objects** — no two operations of an accepted document share a name, so there is one object
     for each (`documentObjects_eq`).  No two fragments share one, so the map of fragments is the
     list of them (`fragmentMap_eq`), and what is kept of it keeps its order.

  2. **Need** — definitions are self-contained if they hold all fragments that they spread
     (`SelfContained`).  The fragments that are reached are, and whatever is self-contained holds
     them (`mem_of_reaches`).

  3. **Documents** — together: `documentObjects_selfContained`.
-/
import QueryTypings.Exported.Documents
import QueryTypings.Proofs.Check.Accepted
import QueryTypings.Schema.Load
import Mathlib.Data.List.Nodup
import Mathlib.Data.List.Perm.Subperm

namespace QueryTypings.Exported

open QueryTypings.Graphql QueryTypings.Text QueryTypings.Check

variable {d : Document}

/-! ## Objects -/

theorem documentObjects_eq (h : (operationNames d).Nodup) :
    documentObjects d = d.namedOperations.map fun p =>
      (p.1.text, documentObject (exportedDefinitions d.fragmentMap p.2)) := by
  refine OrderedMap.ofPairs_of_nodup ?_
  rwa [OrderedMap.keys, List.map_map]

/-- There is one object for each operation with a name, in order. -/
theorem keys_documentObjects (h : (operationNames d).Nodup) :
    OrderedMap.keys (documentObjects d) = operationNames d := by
  rw [documentObjects_eq h, OrderedMap.keys, List.map_map]
  rfl

theorem get?_documentObjects (h : (operationNames d).Nodup) {n : Name} {o : Operation}
    (ho : (n, o) ∈ d.namedOperations) :
    OrderedMap.get? n.text (documentObjects d)
      = some (documentObject (exportedDefinitions d.fragmentMap o)) := by
  refine OrderedMap.get?_of_mem (by rwa [keys_documentObjects h]) ?_
  rw [documentObjects_eq h]
  exact List.mem_map.mpr ⟨(n, o), ho, rfl⟩

theorem fragmentMap_eq (h : (fragmentNames d).Nodup) :
    d.fragmentMap = d.fragments.map fun f => (f.name.text, f) := by
  refine OrderedMap.ofPairs_of_nodup ?_
  rwa [OrderedMap.keys, List.map_map]

theorem lists_fragmentMap (h : (fragmentNames d).Nodup) : Lists d.fragmentMap d.fragments := by
  intro k f
  rw [fragmentMap_eq h]
  constructor
  · intro hf
    obtain ⟨g, hg, heq⟩ := List.mem_map.mp (OrderedMap.mem_of_get? hf)
    obtain ⟨rfl, rfl⟩ := Prod.mk.inj heq
    exact ⟨hg, rfl⟩
  · rintro ⟨hf, rfl⟩
    refine OrderedMap.get?_of_mem ?_ (List.mem_map.mpr ⟨f, hf, rfl⟩)
    rwa [OrderedMap.keys, List.map_map]

/-- The fragments that an operation is exported with. -/
def exportedFragments (d : Document) (o : Operation) : List Fragment :=
  d.fragments.filter fun f => (usedFragments d.fragmentMap o.selections).contains f.name.text

theorem exportedDefinitions_eq (h : (fragmentNames d).Nodup) (o : Operation) :
    exportedDefinitions d.fragmentMap o
      = .operation o :: (exportedFragments d o).map .fragment := by
  rw [exportedDefinitions, exportedFragments]
  generalize usedFragments d.fragmentMap o.selections = needed
  rw [fragmentMap_eq h, List.filter_map, List.map_map]
  rfl

/-! ## Need -/

/-- An operation and fragments hold all fragments that they spread. -/
def SelfContained (o : Operation) (fs : List Fragment) : Prop :=
  ∀ k, Spreading k o.selections ∨ (∃ f ∈ fs, Spreading k f.selections) → ∃ f ∈ fs, f.name.text = k

theorem eq_of_fragmentName (h : (fragmentNames d).Nodup) {f g : Fragment} (hf : f ∈ d.fragments)
    (hg : g ∈ d.fragments) (hname : f.name.text = g.name.text) : f = g :=
  List.inj_on_of_nodup_map h hf hg hname

/-- What is self-contained holds the fragments that are reached. -/
theorem mem_of_reaches (h : (fragmentNames d).Nodup) {o : Operation} {kept : List Fragment}
    (hkept : kept ⊆ d.fragments) (hcontained : SelfContained o kept) {f : Fragment}
    (hf : Reaches d.fragments o.selections f) : f ∈ kept := by
  induction hf with
  | direct mem spread =>
      obtain ⟨g, hg, hname⟩ := hcontained _ (Or.inl spread)
      exact eq_of_fragmentName h (hkept hg) mem hname ▸ hg
  | through _ mem spread ih =>
      obtain ⟨g, hg, hname⟩ := hcontained _ (Or.inr ⟨_, ih, spread⟩)
      exact eq_of_fragmentName h (hkept hg) mem hname ▸ hg

theorem mem_exportedFragments_iff (h : (fragmentNames d).Nodup) {o : Operation} {f : Fragment} :
    f ∈ exportedFragments d o ↔ Reaches d.fragments o.selections f := by
  rw [exportedFragments, List.mem_filter, List.contains_iff_mem,
    mem_usedFragments_iff (lists_fragmentMap h)]
  constructor
  · rintro ⟨hf, g, hreaches, hname⟩
    exact eq_of_fragmentName h hreaches.mem hf hname ▸ hreaches
  · exact fun hreaches => ⟨hreaches.mem, f, hreaches, rfl⟩

/-- The fragments that are reached are self-contained, if all that are spread are there. -/
theorem selfContained_exportedFragments
    (h : Regular (fun k => ∃ f ∈ d.fragments, f.name.text = k) d) {o : Operation}
    (ho : o ∈ d.operations) : SelfContained o (exportedFragments d o) := by
  rintro k (hk | ⟨f, hf, hk⟩)
  · obtain ⟨g, hg, rfl⟩ := h.inOperations o ho k hk
    exact ⟨g, (mem_exportedFragments_iff h.fragments).mpr (.direct hg hk), rfl⟩
  · have hreaches := (mem_exportedFragments_iff h.fragments).mp hf
    obtain ⟨g, hg, rfl⟩ := h.inFragments f hreaches.mem k hk
    exact ⟨g, (mem_exportedFragments_iff h.fragments).mpr (.through hreaches hg hk), rfl⟩

/-! ## Documents -/

/-- **An exported document is self-contained, and no smaller one would be.**  For each operation
    with a name the object holds the operation, and then, in the order of the text and without a
    repetition, the fragments to which spreads lead from it.  All that these definitions spread is
    there; without any one of the fragments this would not hold. -/
theorem documentObjects_selfContained {s : Schema} {text : String} (h : accepted s text = .ok d)
    {n : Name} {o : Operation} (ho : (n, o) ∈ d.namedOperations) :
    ∃ fs : List Fragment,
      OrderedMap.get? n.text (documentObjects d)
        = some (.object [("kind", .string "Document"),
          ("definitions", .array (o.encode :: fs.map Fragment.encode))])
      ∧ fs.Sublist d.fragments ∧ (fs.map fun f => f.name.text).Nodup
      ∧ (∀ f, f ∈ fs ↔ Reaches d.fragments o.selections f)
      ∧ SelfContained o fs
      ∧ ∀ kept : List Fragment, kept.Sublist fs → SelfContained o kept → kept = fs := by
  have hregular := regular_of_accepted h
  have hsub : (exportedFragments d o).Sublist d.fragments := List.filter_sublist
  have hnames : ((exportedFragments d o).map fun f => f.name.text).Nodup :=
    hregular.fragments.sublist (hsub.map _)
  refine ⟨exportedFragments d o, ?_, hsub, hnames,
    fun f => mem_exportedFragments_iff hregular.fragments,
    selfContained_exportedFragments hregular (mem_namedOperations_iff.mp ho).1, ?_⟩
  · rw [get?_documentObjects hregular.operations ho, exportedDefinitions_eq hregular.fragments,
      documentObject, encodeDocument, List.map_cons, List.map_map]
    rfl
  · -- what is kept is all: it holds what is reached, and nothing is there twice
    intro kept hkept hcontained
    have hall : exportedFragments d o ⊆ kept := fun f hf =>
      mem_of_reaches hregular.fragments (hkept.trans hsub).subset hcontained
        ((mem_exportedFragments_iff hregular.fragments).mp hf)
    have hnodup : (exportedFragments d o).Nodup := List.Nodup.of_map _ hnames
    exact hkept.eq_of_length_le (List.Nodup.subperm hnodup hall).length_le

/-- A schema in which fragments can be nested. -/
def nodeSchema : Schema :=
  (Schema.ofText "type Query{n:N}type N{n:N a:Int}").toOption.getD default

/-- A query that spreads `A` in an inline fragment, and `B` nowhere. -/
def nodeQuery : String := "query Q{...on Query{...A}}fragment B on N{a}fragment A on Query{n{a}}"

/-- The query has no issues, and of its fragments `A` is exported. -/
theorem nodeQuery_facts :
    (Document.ofText nodeQuery).toOption.map (fun d =>
      (startsWithSpread ⟨nodeSchema, d⟩ "A", d.namedOperations.map fun p =>
        (p.1.text, (exportedFragments d p.2).map fun f => f.name.text)))
      = some (true, [("Q", ["A"])]) := by
  decide +kernel

/-- The exported document holds `A`, and all that is spread in it. -/
theorem documentObjects_selfContained_nodeQuery :
    ∃ d n o fs, accepted nodeSchema nodeQuery = .ok d ∧ (n, o) ∈ d.namedOperations
      ∧ n.text = "Q"
      ∧ OrderedMap.get? n.text (documentObjects d)
        = some (.object [("kind", .string "Document"),
          ("definitions", .array (o.encode :: fs.map Fragment.encode))])
      ∧ (∀ k, k ∈ fs.map (fun f => f.name.text) ↔ k ∈ ["A"])
      ∧ SelfContained o fs := by
  have hfacts := nodeQuery_facts
  cases hd : Document.ofText nodeQuery with
  | error e =>
      rw [hd] at hfacts
      cases hfacts
  | ok d =>
      rw [hd] at hfacts
      obtain ⟨hspread, hlist⟩ := Prod.mk.inj (Option.some.inj hfacts)
      have haccepted := accepted_of_issues (s := nodeSchema) (by decide +kernel) hd
        (issues_of_startsWithSpread hspread)
      obtain ⟨⟨n, o⟩, hoperations, hpair⟩ := List.map_eq_singleton_iff.mp hlist
      obtain ⟨hname, hnames⟩ := Prod.mk.inj hpair
      have ho : (n, o) ∈ d.namedOperations := by
        rw [hoperations]
        exact List.mem_singleton_self _
      obtain ⟨fs, hobject, _, _, hmem, hcontained, _⟩ := documentObjects_selfContained haccepted ho
      refine ⟨d, n, o, fs, haccepted, ho, hname, hobject, fun k => ?_, hcontained⟩
      rw [← hnames, List.mem_map, List.mem_map]
      have hfragments := (regular_of_accepted haccepted).fragments
      exact exists_congr fun f => by rw [hmem, mem_exportedFragments_iff hfragments]

end QueryTypings.Exported
