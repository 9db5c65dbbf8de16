/-
  Script modules that are read again.

  A script module has a line for each document.  Whoever reads it cuts its text at line feeds, each
  line at what stands before, between and behind the name and the value, and reads the value as
  JSON (`Exported.decode`).

  1. **Documents** — names in a document that was accepted are identifiers, and its values have not
     too many brackets in one another for the reader (`fine_of_accepted`, `nested_documentObject`).

  2. **Lines** — so no line of a module goes on in the next one, and each gives its name and its
     value back (`exported?_exportLine`, `splitAt_scriptModule`).

  3. **Modules** — a module with at least one document gives the documents back in their order,
     whatever their strings hold (`decode_scriptModule`).
-/
import QueryTypings.Json.Reader
import QueryTypings.Proofs.Exported.SelfContained
import QueryTypings.Proofs.Graphql.Reading

namespace QueryTypings.Exported

open QueryTypings.Graphql QueryTypings.Check QueryTypings.Text QueryTypings.Json

/-! ## Documents -/

variable {d : Document} {s : Schema} {text : String}

/-- **What is accepted was read**, or it is empty. -/
theorem ofText_of_accepted (h : accepted s text = .ok d) :
    d = [] ∨ Document.ofText text = .ok d := by
  rw [accepted] at h
  split at h
  · exact Or.inl (Except.ok.inj h).symm
  · split at h
    · cases h
    · rename_i hread
      split at h
      · obtain rfl := Except.ok.inj h
        exact Or.inr hread
      · cases h
      · cases h

theorem fine_of_accepted (h : accepted s text = .ok d) : ∀ x ∈ d, x.Fine := by
  rcases ofText_of_accepted h with rfl | hread
  · exact fun x hx => absurd hx List.not_mem_nil
  · exact fine_of_ofText hread

theorem fine_operation (h : ∀ x ∈ d, x.Fine) : ∀ o ∈ d.operations, o.Fine := by
  intro o ho
  obtain ⟨x, hx, heq⟩ := List.mem_filterMap.mp ho
  cases x with
  | operation o' => exact Option.some.inj heq ▸ h _ hx
  | _ => cases heq

theorem fine_fragment (h : ∀ x ∈ d, x.Fine) : ∀ f ∈ d.fragments, f.Fine := by
  intro f hf
  obtain ⟨x, hx, heq⟩ := List.mem_filterMap.mp hf
  cases x with
  | fragment f' => exact Option.some.inj heq ▸ h _ hx
  | _ => cases heq

/-- The name of an operation is an identifier. -/
theorem isIdentifier_of_named (h : ∀ x ∈ d, x.Fine) {n : Name} {o : Operation}
    (ho : (n, o) ∈ d.namedOperations) : IsIdentifier n.text := by
  obtain ⟨hmem, hname⟩ := mem_namedOperations_iff.mp ho
  exact ((fine_operation h o hmem).name n hname).isIdentifier

/-- The brackets of an exported document. -/
theorem nested_documentObject (h : ∀ x ∈ d, x.Fine) (hnames : (fragmentNames d).Nodup)
    {o : Operation} (ho : o ∈ d.operations) :
    Nested 611 (documentObject (exportedDefinitions d.fragmentMap o)) := by
  refine nested_node _ (List.forall_mem_singleton.mpr (nested_always
    (.array (List.forall_mem_map.mpr ?_))))
  rw [exportedDefinitions_eq hnames]
  refine List.forall_mem_cons.mpr ⟨(fine_operation h o ho).nested,
    List.forall_mem_map.mpr fun f hf => ?_⟩
  exact (fine_fragment h f (List.mem_filter.mp hf).1).nested

/-- What a line of a module needs in order to be read again. -/
structure Legible (p : String × Json) : Prop where
  name : IsIdentifier p.1
  value : Nested maxDepth p.2

theorem legible_of_accepted (h : accepted s text = .ok d) :
    ∀ p ∈ documentObjects d, Legible p := by
  have hregular := regular_of_accepted h
  have hfine := fine_of_accepted h
  rw [documentObjects_eq hregular.operations]
  refine List.forall_mem_map.mpr fun (n, o) ho => ⟨isIdentifier_of_named hfine ho, ?_⟩
  exact (nested_documentObject hfine hregular.fragments (mem_namedOperations_iff.mp ho).1).mono
    (by decide)

/-! ## Lines -/

/-- What stands between the beginning of a line and a semicolon at its end, cut into a name and a
    value. -/
def exported? (line : List Char) : Option (String × Json) :=
  match dropFront? "export const ".toList line with
  | none => none
  | some r =>
      match dropFront? " = ".toList (r.dropWhile (· != ' ')) with
      | none => none
      | some payload =>
          if payload.getLast? = some ';' then
            match ofText (String.ofList payload.dropLast) with
            | .ok v => some (String.ofList (r.takeWhile (· != ' ')), v)
            | .error _ => none
          else none

/-- The names and values in the lines of a module, each of which ends with a line feed. -/
def decode (source : String) : Option (OrderedMap Json) :=
  match (splitAt '\n' source.toList).reverse with
  | [] :: lines => lines.reverse.mapM exported?
  | _ => none

theorem toList_exportLine (name : String) (v : Json) :
    (exportLine name v).toList
      = "export const ".toList ++ (name.toList ++ (" = ".toList ++ (render v ++ [';']))) := by
  -- an equation of `exportLine` takes long to state
  delta exportLine
  simp only [String.toList_append, List.append_assoc, toText, String.toList_ofList]
  rfl

/-- **A line gives its name and its value back.** -/
theorem exported?_exportLine {name : String} {v : Json} (h : Legible (name, v)) :
    exported? (exportLine name v).toList = some (name, v) := by
  have hname : ∀ c ∈ name.toList, (c != ' ') = true := by
    intro c hc
    have hword := h.name.2 c hc
    refine bne_iff_ne.mpr ?_
    rintro rfl
    exact absurd hword (by decide)
  have hread : ofText (String.ofList (render v)) = .ok v := ofText_toText h.value
  have htake : (name.toList ++ (" = ".toList ++ (render v ++ [';']))).takeWhile (· != ' ')
      = name.toList := by
    rw [List.takeWhile_append_of_pos hname]
    exact List.append_nil _
  have hdrop : (name.toList ++ (" = ".toList ++ (render v ++ [';']))).dropWhile (· != ' ')
      = " = ".toList ++ (render v ++ [';']) := by
    rw [List.dropWhile_append_of_pos hname]
    rfl
  rw [exported?, toList_exportLine, dropFront_append]
  simp only [hdrop, htake, dropFront_append, List.getLast?_concat, List.dropLast_concat, hread,
    if_true, String.ofList_toList]

theorem break_not_mem_exportLine {name : String} {v : Json} (h : Legible (name, v)) :
    '\n' ∉ (exportLine name v).toList := by
  have hname : '\n' ∉ name.toList := fun hmem => absurd (h.name.2 _ hmem) (by decide)
  have hvalue : '\n' ∉ render v := fun hmem =>
    absurd (printable_render h.value _ hmem) (by decide)
  rw [toList_exportLine]
  simp only [List.mem_append, not_or]
  exact ⟨by decide, hname, by decide, hvalue, by decide⟩

/-- The lines of a module, behind the last of which nothing stands. -/
theorem splitAt_scriptModule (hne : documentObjects d ≠ [])
    (h : ∀ p ∈ documentObjects d, Legible p) :
    splitAt '\n' (scriptModule d).toList
      = (documentObjects d).map (fun p => (exportLine p.1 p.2).toList) ++ [[]] := by
  rw [scriptModule]
  cases hobjects : documentObjects d with
  | nil => exact absurd hobjects hne
  | cons p r =>
      rw [hobjects] at h
      have hbreak : ∀ l ∈ (p :: r).map (fun p => (exportLine p.1 p.2).toList), '\n' ∉ l :=
        List.forall_mem_map.mpr fun q hq => break_not_mem_exportLine (h q hq)
      show splitAt '\n' (joinWith "\n" ((p :: r).map fun p => exportLine p.1 p.2) ++ "\n").toList = _
      rw [String.toList_append, toList_joinWith, List.map_map]
      show splitAt '\n' (intercal ['\n'] ((p :: r).map fun p => (exportLine p.1 p.2).toList)
        ++ '\n' :: []) = _
      rw [splitAt_append, splitAt_intercal (by simp) hbreak]
      rfl

/-! ## Modules -/

theorem mapM_exported? {ps : OrderedMap Json} (h : ∀ p ∈ ps, Legible p) :
    (ps.map fun p => (exportLine p.1 p.2).toList).mapM exported? = some ps := by
  induction ps with
  | nil => rfl
  | cons p r ih =>
      obtain ⟨hp, hr⟩ := List.forall_mem_cons.mp h
      rw [List.map_cons, List.mapM_cons, exported?_exportLine hp, ih hr]
      rfl

/-- **A module gives its documents back.**  For each document that was accepted and has an operation
    with a name, the lines of the module's text are read as the names and values of the exported
    documents, in their order. -/
theorem decode_scriptModule (h : accepted s text = .ok d) (hnamed : d.namedOperations ≠ []) :
    decode (scriptModule d) = some (documentObjects d) := by
  have hlegible := legible_of_accepted h
  have hne : documentObjects d ≠ [] := by
    rw [documentObjects_eq (regular_of_accepted h).operations]
    simpa using hnamed
  rw [decode, splitAt_scriptModule hne hlegible, List.reverse_append]
  simp only [List.reverse_cons, List.reverse_nil, List.nil_append, List.singleton_append,
    List.reverse_reverse]
  exact mapM_exported? hlegible

/-- A schema with a field that takes a string. -/
def stringSchema : Schema :=
  (Schema.ofText "type Query\x7ba(x:String):Int\x7d").toOption.getD default

/-- A query with a quote, a backslash, a line feed, a line separator and a character beyond the basic
    plane, in a string and in a block string. -/
def stringQuery : String :=
  "query Q\x7ba(x:\"\\\"\\\\\\n\\u2028😀\")b:a(x:\"\"\"\"\\\n \u2028😀\"\"\")\x7d"

/-- The strings among the arguments of fields. -/
def argumentStrings (d : Document) : List (String × Bool) :=
  d.operations.flatMap fun o => o.selections.flatMap fun
    | .leaf f => f.arguments.filterMap fun a =>
        match a.value with
        | .string text block _ => some (text, block)
        | _ => none
    | _ => []

/-- The query has no issues, and its strings hold these characters. -/
theorem stringQuery_facts :
    (Document.ofText stringQuery).toOption.map (fun d =>
      ((Inquiry.mk stringSchema d).issues.isEmpty, d.namedOperations.isEmpty, argumentStrings d))
      = some (true, false, [("\"\\\n\u2028😀", false), ("\"\\\n\u2028😀", true)]) := by
  decide +kernel

/-- The module of this query gives the document with these strings back. -/
theorem decode_scriptModule_stringQuery :
    ∃ d, accepted stringSchema stringQuery = .ok d ∧ d.namedOperations ≠ []
      ∧ argumentStrings d = [("\"\\\n\u2028😀", false), ("\"\\\n\u2028😀", true)]
      ∧ decode (scriptModule d) = some (documentObjects d) := by
  have hfacts := stringQuery_facts
  cases hd : Document.ofText stringQuery with
  | error e =>
      rw [hd] at hfacts
      cases hfacts
  | ok d =>
      rw [hd] at hfacts
      obtain ⟨hissues, hrest⟩ := Prod.mk.inj (Option.some.inj hfacts)
      obtain ⟨hnamed, hstrings⟩ := Prod.mk.inj hrest
      have haccepted := accepted_of_issues (s := stringSchema) (by decide +kernel) hd
        (List.isEmpty_iff.mp hissues)
      have hne : d.namedOperations ≠ [] := List.isEmpty_eq_false_iff.mp hnamed
      exact ⟨d, haccepted, hne, hstrings, decode_scriptModule haccepted hne⟩

end QueryTypings.Exported
