/-
  What holds of a document that was accepted.

  1. **Verdict** — only a document without any issue passes (`issues_eq_nil_of_accepted`).

  2. **Spreads** — where a selection has no issue, each fragment that it spreads is there, however
     deep the spread stands (`fragment?_of_spreads`).

  3. **Documents** — the issues are those of one definition after another, each held against those
     before it.  So what holds of the definitions so far is carried on by a definition without
     issues (`Regular.concat`), and holds of the document (`regular_of_accepted`): no two operations
     and no two fragments share a name, and all fragments that are spread are there.

  4. **Acceptance** — the other way round, a document without issues is accepted
     (`accepted_of_issues`).  Where fragments are spread, what has been compared is looked up by
     hash values, which do not compute in a proof; for the first spread of a document this is told
     by hand (`issues_of_startsWithSpread`).
-/
import QueryTypings.Check.Accepted
import QueryTypings.Proofs.Graphql.Reachability
import Mathlib.Data.List.Nodup

namespace QueryTypings.Check

open QueryTypings.Graphql QueryTypings.Schema QueryTypings.Text

/-! ## Verdict -/

theorem verdictFrom_issues_nil :
    ∀ {room : Nat} {told issues : List Issue}, verdictFrom room told issues = .issues [] →
      told = [] ∧ issues = []
  | _, told, [], h => by
      rw [verdictFrom] at h
      exact ⟨List.reverse_eq_nil_iff.mp (Verdict.issues.inj h), rfl⟩
  | _, told, i :: r, h => by
      unfold verdictFrom at h
      split at h
      · cases h
      · simp at h
      · simp at h
      · exact absurd (verdictFrom_issues_nil h).1 (List.cons_ne_nil _ _)

/-- **A document that was accepted has no issues**, or is empty. -/
theorem issues_eq_nil_of_accepted {s : Schema} {text : String} {d : Document}
    (h : accepted s text = .ok d) : d = [] ∨ (Inquiry.mk s d).issues = [] := by
  rw [accepted] at h
  split at h
  · exact Or.inl (Except.ok.inj h).symm
  · split at h
    · cases h
    · split at h
      · rename_i hverdict
        obtain rfl := Except.ok.inj h
        exact Or.inr (verdictFrom_issues_nil hverdict).2
      · cases h
      · cases h

theorem issuesFrom_eq_nil {q : Inquiry} (h : q.issues = []) :
    issuesFrom q (.of q) [] q.document = [] := by
  rw [Inquiry.issues] at h
  split at h
  · cases h
  · exact (List.append_eq_nil_iff.mp h).2

/-! ## Spreads -/

variable {c : Scope}

theorem selectionIssues_of_mem {ss : List Selection} {s : Selection} (hs : s ∈ ss) {p : Place}
    (h : selectionsIssues c p ss = []) : selectionIssues c p s = [] := by
  induction ss with
  | nil => cases hs
  | cons t r ih =>
      rw [selectionsIssues, List.append_eq_nil_iff] at h
      rcases List.mem_cons.mp hs with rfl | hs
      · exact h.1
      · exact ih hs h.2

/-- A fragment that is spread by a selection without issues is there. -/
theorem fragment?_of_spreads {k : String} {s : Selection} (hs : s.Spreads k) :
    ∀ {p : Place}, selectionIssues c p s = [] → (c.inquiry.fragment? k).isSome := by
  induction hs with
  | here named =>
      intro p h
      -- a fragment that is not there is an issue of the spread itself
      rw [selectionIssues, List.append_eq_nil_iff, List.append_eq_nil_iff, spreadIssues, named] at h
      cases hf : c.inquiry.fragment? k with
      | none =>
          rw [hf] at h
          cases h.1.1
      | some f => rfl
  | branch mem _ ih =>
      intro p h
      rw [selectionIssues, List.append_eq_nil_iff, List.append_eq_nil_iff] at h
      exact ih (selectionIssues_of_mem mem h.1.2)
  | inline mem _ ih =>
      intro p h
      rw [selectionIssues, List.append_eq_nil_iff] at h
      exact ih (selectionIssues_of_mem mem h.2)

theorem fragment?_of_spreading {k : String} {ss : List Selection} {p : Place}
    (h : selectionsIssues c p ss = []) (hk : Spreading k ss) :
    (c.inquiry.fragment? k).isSome := by
  obtain ⟨s, hs, hk⟩ := hk
  exact fragment?_of_spreads hk (selectionIssues_of_mem hs h)

theorem exists_of_fragment? {q : Inquiry} {k : String} (h : (q.fragment? k).isSome) :
    ∃ f ∈ q.document.fragments, f.name.text = k := by
  obtain ⟨f, hf⟩ := Option.isSome_iff_exists.mp h
  rw [Inquiry.fragment?, List.find?_eq_some_iff_append] at hf
  obtain ⟨hname, before, after, hsplit, _⟩ := hf
  refine ⟨f, List.mem_reverse.mp ?_, eq_of_beq hname⟩
  rw [hsplit]
  exact List.mem_append_right _ List.mem_cons_self

/-! ## Documents -/

/-- The names of the operations that have one. -/
def operationNames (d : Document) : List String := d.namedOperations.map fun p => p.1.text

/-- The names of the fragments. -/
def fragmentNames (d : Document) : List String := d.fragments.map fun f => f.name.text

/-- No name is given twice, and all fragments are known that are spread. -/
structure Regular (known : String → Prop) (d : Document) : Prop where
  operations : (operationNames d).Nodup
  fragments : (fragmentNames d).Nodup
  inOperations : ∀ o ∈ d.operations, ∀ k, Spreading k o.selections → known k
  inFragments : ∀ f ∈ d.fragments, ∀ k, Spreading k f.selections → known k

theorem Regular.nil (known : String → Prop) : Regular known [] where
  operations := List.nodup_nil
  fragments := List.nodup_nil
  inOperations := fun _ h => (by cases h)
  inFragments := fun _ h => (by cases h)

theorem name_not_mem_of_secondFragment {before : List Fragment} {f : Fragment}
    (h : secondFragmentIssues before f = []) :
    f.name.text ∉ before.map fun g => g.name.text := by
  rw [secondFragmentIssues] at h
  split at h
  · cases h
  · rename_i hnone
    intro hmem
    obtain ⟨g, hg, hname⟩ := List.mem_map.mp hmem
    exact absurd (beq_iff_eq.mpr hname) (List.find?_eq_none.mp hnone g hg)

theorem mem_namedOperations_iff {d : Document} {n : Name} {o : Operation} :
    (n, o) ∈ d.namedOperations ↔ o ∈ d.operations ∧ o.name? = some n := by
  simp only [Document.namedOperations, List.mem_filterMap, Option.map_eq_some_iff, Prod.mk.injEq]
  constructor
  · rintro ⟨o', ho, n', hn, rfl, rfl⟩
    exact ⟨ho, hn⟩
  · rintro ⟨ho, hn⟩
    exact ⟨o, ho, n, hn, rfl, rfl⟩

theorem name_not_mem_of_secondOperation {before : Document} {o : Operation} {n : Name}
    (hn : o.name? = some n) (h : secondOperationIssues before.operations o = []) :
    n.text ∉ operationNames before := by
  simp only [secondOperationIssues, hn] at h
  split at h
  · cases h
  · rename_i hnone
    intro hmem
    obtain ⟨⟨m, o'⟩, hmem, hname⟩ := List.mem_map.mp hmem
    obtain ⟨ho', hm⟩ := mem_namedOperations_iff.mp hmem
    exact absurd (beq_iff_eq.mpr hname)
      (List.find?_eq_none.mp hnone m (List.mem_filterMap.mpr ⟨o', ho', hm⟩))

theorem operationIssues_eq_nil {before : List Operation} {o : Operation}
    (h : operationIssues c before o = []) :
    secondOperationIssues before o = []
      ∧ selectionsIssues c (.ofOperation c.inquiry o) o.selections = [] := by
  simp only [operationIssues, List.append_eq_nil_iff] at h
  exact ⟨by simp only [h], by simp only [h]⟩

theorem fragmentIssues_eq_nil {before : List Fragment} {f : Fragment}
    (h : fragmentIssues c before f = []) :
    secondFragmentIssues before f = []
      ∧ selectionsIssues c (.ofFragment c.inquiry f) f.selections = [] := by
  simp only [fragmentIssues, List.append_eq_nil_iff] at h
  exact ⟨by simp only [h], by simp only [h]⟩

variable {q : Inquiry} {found : Findings} {before : Document}

theorem operations_append (a b : Document) :
    Document.operations (a ++ b) = a.operations ++ b.operations := List.filterMap_append

theorem fragments_append (a b : Document) :
    Document.fragments (a ++ b) = a.fragments ++ b.fragments := List.filterMap_append

theorem namedOperations_append (a b : Document) :
    Document.namedOperations (a ++ b) = a.namedOperations ++ b.namedOperations := by
  rw [Document.namedOperations, operations_append, List.filterMap_append]
  rfl

/-- An operation without issues keeps a document regular. -/
theorem Regular.concat_operation {o : Operation}
    (hbefore : Regular (fun k => (q.fragment? k).isSome) before)
    (h : operationIssues ⟨q, found⟩ before.operations o = []) :
    Regular (fun k => (q.fragment? k).isSome) (before ++ [.operation o]) := by
  obtain ⟨hsecond, hselections⟩ := operationIssues_eq_nil h
  have hops := operations_append before [.operation o]
  have hfragments : Document.fragments (before ++ [.operation o]) = before.fragments :=
    (fragments_append _ _).trans (List.append_nil _)
  refine ⟨?_, ?_, ?_, ?_⟩
  · rw [operationNames, namedOperations_append, List.map_append]
    cases hn : o.name? with
    | none =>
        have hnone : Document.namedOperations [.operation o] = [] := by
          simp [Document.namedOperations, Document.operations, hn]
        rw [hnone, List.map_nil, List.append_nil]
        exact hbefore.operations
    | some n =>
        have hsome : Document.namedOperations [.operation o] = [(n, o)] := by
          simp [Document.namedOperations, Document.operations, hn]
        rw [hsome, List.map_singleton, ← List.concat_eq_append]
        exact .concat (name_not_mem_of_secondOperation hn hsecond) hbefore.operations
  · rw [fragmentNames, hfragments]
    exact hbefore.fragments
  · rw [hops]
    refine List.forall_mem_append.mpr ⟨hbefore.inOperations, ?_⟩
    exact List.forall_mem_singleton.mpr fun k hk => fragment?_of_spreading hselections hk
  · rw [hfragments]
    exact hbefore.inFragments

/-- A fragment without issues keeps a document regular. -/
theorem Regular.concat_fragment {f : Fragment}
    (hbefore : Regular (fun k => (q.fragment? k).isSome) before)
    (h : fragmentIssues ⟨q, found⟩ before.fragments f = []) :
    Regular (fun k => (q.fragment? k).isSome) (before ++ [.fragment f]) := by
  obtain ⟨hsecond, hselections⟩ := fragmentIssues_eq_nil h
  have hops : Document.operations (before ++ [.fragment f]) = before.operations :=
    (operations_append _ _).trans (List.append_nil _)
  have hfragments := fragments_append before [.fragment f]
  refine ⟨?_, ?_, ?_, ?_⟩
  · rw [operationNames, Document.namedOperations, hops]
    exact hbefore.operations
  · have hsingle : Document.fragments [.fragment f] = [f] := rfl
    rw [fragmentNames, hfragments, List.map_append, hsingle, List.map_singleton,
      ← List.concat_eq_append]
    exact .concat (name_not_mem_of_secondFragment hsecond) hbefore.fragments
  · rw [hops]
    exact hbefore.inOperations
  · rw [hfragments]
    refine List.forall_mem_append.mpr ⟨hbefore.inFragments, ?_⟩
    exact List.forall_mem_singleton.mpr fun k hk => fragment?_of_spreading hselections hk

/-- A definition that is neither an operation nor a fragment changes nothing. -/
theorem Regular.concat_other {known : String → Prop} {x : Definition}
    (hbefore : Regular known before) (hoperation : Document.operations [x] = [])
    (hfragment : Document.fragments [x] = []) : Regular known (before ++ [x]) := by
  have hops : Document.operations (before ++ [x]) = before.operations := by
    rw [operations_append, hoperation, List.append_nil]
  have hfragments : Document.fragments (before ++ [x]) = before.fragments := by
    rw [fragments_append, hfragment, List.append_nil]
  refine ⟨?_, ?_, hops ▸ hbefore.inOperations, hfragments ▸ hbefore.inFragments⟩
  · rw [operationNames, Document.namedOperations, hops]
    exact hbefore.operations
  · rw [fragmentNames, hfragments]
    exact hbefore.fragments

/-- **A definition without issues keeps a document regular.** -/
theorem Regular.concat {x : Definition}
    (hbefore : Regular (fun k => (q.fragment? k).isSome) before)
    (h : definitionIssuesHere q found before x = []) :
    Regular (fun k => (q.fragment? k).isSome) (before ++ [x]) := by
  cases x with
  | operation o => exact hbefore.concat_operation h
  | fragment f => exact hbefore.concat_fragment h
  | schema s => exact hbefore.concat_other rfl rfl
  | type t => exact hbefore.concat_other rfl rfl
  | directive x => exact hbefore.concat_other rfl rfl
  | directiveExtension x => exact hbefore.concat_other rfl rfl

theorem regular_of_issuesFrom :
    ∀ {rest before : Document}, Regular (fun k => (q.fragment? k).isSome) before →
      issuesFrom q found before rest = [] →
      Regular (fun k => (q.fragment? k).isSome) (before ++ rest)
  | [], before, hbefore, _ => by
      rw [List.append_nil]
      exact hbefore
  | x :: rest, before, hbefore, h => by
      rw [issuesFrom, List.append_eq_nil_iff] at h
      have hrest := regular_of_issuesFrom (hbefore.concat h.1) h.2
      rwa [List.append_assoc, List.singleton_append] at hrest

theorem Regular.imp {known known' : String → Prop} {d : Document} (h : Regular known d)
    (himp : ∀ k, known k → known' k) : Regular known' d where
  operations := h.operations
  fragments := h.fragments
  inOperations := fun o ho k hk => himp k (h.inOperations o ho k hk)
  inFragments := fun f hf k hk => himp k (h.inFragments f hf k hk)

/-- **A document that was accepted is regular.** -/
theorem regular_of_accepted {s : Schema} {text : String} {d : Document}
    (h : accepted s text = .ok d) : Regular (fun k => ∃ f ∈ d.fragments, f.name.text = k) d := by
  rcases issues_eq_nil_of_accepted h with rfl | hissues
  · exact Regular.nil _
  · exact (regular_of_issuesFrom (Regular.nil _) (issuesFrom_eq_nil hissues)).imp
      fun _ hk => exists_of_fragment? hk

/-! ## Acceptance -/

theorem accepted_of_issues {s : Schema} {text : String} {d : Document}
    (hblank : isBlankText text = false) (hd : Document.ofText text = .ok d)
    (h : (Inquiry.mk s d).issues = []) : accepted s text = .ok d := by
  rw [accepted, hblank, hd]
  simp only [h]
  rfl

/-- A selection set that only spreads a fragment, which spreads nothing, has no conflicts. -/
theorem withinSet_of_fragment {x : SelectionSet} {done : Compared} {fuel : Nat} {n : String}
    {f : Fragment} (hfields : x.fieldMap q = []) (hfragments : x.fragments = [n])
    (hnew : isCompared false (x.opening, n) done.sets = false)
    (hf : q.fragment? n = some f) (hopening : (x.opening == f.opening) = false)
    (hinner : (ofFragment q f).fragments = []) :
    (withinSet q (fuel + 2) x).run done
      = some ([], { done with sets := done.sets.insert (x.opening, n) false }) := by
  have hplace : (ofFragment q f).opening = f.opening := rfl
  have hclaim : (claimSet false x.opening n).run done
      = some (true, { done with sets := done.sets.insert (x.opening, n) false }) := by
    simp [claimSet, hnew]
  simp [withinSet, withinSet.fragments, withFragment, hclaim, hfields, hfragments, hf, hplace,
    hopening, hinner, conflictsOfEach, betweenMaps]

/-- What has been compared when a selection set has been compared with a fragment. -/
def comparedWith (x : SelectionSet) (n : String) : Compared :=
  ⟨(∅ : Std.HashMap (Position × String) Bool).insert (x.opening, n) false, ∅, 0⟩

/-- The first selection set of a document only spreads a fragment, which spreads nothing; if it has
    no conflicts, the document has no issues. -/
def startsWithSpread (q : Inquiry) (n : String) : Bool :=
  match q.document.flatMap (setsInDefinition q), q.fragment? n with
  | x :: rest, some f =>
      (x.fieldMap q).isEmpty && x.fragments == [n] && !(x.opening == f.opening)
        && (ofFragment q f).fragments.isEmpty && !isTooDeep q
        && (q.document.filterMap notExecutable?).isEmpty
        && (issuesFrom q { Findings.of q with
          conflicts := (x.opening, [])
            :: conflictsFrom q (comparingFuel q (x :: rest).length) rest (comparedWith x n) } []
              q.document).isEmpty
  | _, _ => false

/-- Then it has no issues. -/
theorem issues_of_startsWithSpread {q : Inquiry} {n : String} (h : startsWithSpread q n = true) :
    q.issues = [] := by
  unfold startsWithSpread at h
  split at h
  · rename_i x rest f hsets hf
    simp only [Bool.and_eq_true, List.isEmpty_iff, beq_iff_eq, Bool.not_eq_true'] at h
    obtain ⟨⟨⟨⟨⟨⟨hfields, hfragments⟩, hopening⟩, hinner⟩, hdeep⟩, hexecutable⟩, hissues⟩ := h
    obtain ⟨k, hk⟩ : ∃ k, comparingFuel q (x :: rest).length = k + 2 :=
      Nat.exists_eq_add_of_le' (Nat.le_trans (by omega) (Nat.le_mul_of_pos_left _ (Nat.succ_pos _)))
    have hwithin := @withinSet_of_fragment q x ⟨∅, ∅, 0⟩ k n f hfields hfragments
      (by simp [isCompared]) hf hopening hinner
    have hconflicts : setConflicts q = (x.opening, [])
        :: conflictsFrom q (comparingFuel q (x :: rest).length) rest (comparedWith x n) := by
      rw [setConflicts, hsets, conflictsFrom, hk, hwithin]
      rfl
    rw [Inquiry.issues, hdeep, hexecutable, Findings.of, hconflicts]
    exact hissues
  · cases h

end QueryTypings.Check
