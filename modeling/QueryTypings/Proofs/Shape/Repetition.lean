/-
  Selections that are made again.

  1. **The same fields are met** — what repeated selections lead to has been met before, under the
     same condition (`mem_occurrences_of_subset`).

  2. **The same entries** — so no key is new, every key keeps its place, its first field and its
     condition, and of the fields under it only what was selected before is selected again
     (`collect_repeated`).  This is the crux: one level down there are again selections that are
     made again.

  3. **The same types** — by induction on the depth the type of an object is the same
     (`objectType_repeated`).  The bound for the depth grows with the number of selections, but the
     depth itself does not (`boundedObject_repeated`).
-/
import QueryTypings.Proofs.Shape.Inlining
import QueryTypings.Proofs.Shape.Termination

namespace QueryTypings.Shape

open QueryTypings.Graphql QueryTypings.Schema QueryTypings.Typescript QueryTypings.Declaration

variable {g : Setting} {parent : NamedType} {ss extra : List Selection}

/-! ## The same fields are met -/

/-- What some of the selections lead to, all of them lead to. -/
theorem mem_occurrences_of_subset {keeps : Selection → Bool} {c : Bool} (h : extra ⊆ ss) :
    ∀ o ∈ occurrences g parent keeps c extra, o ∈ occurrences g parent keeps c ss := by
  have hsingle (xs : List Selection) : occurrences g parent keeps c xs
      = xs.flatMap fun x => occurrences g parent keeps c [x] := by
    rw [← occurrences_flatMap, List.flatMap_singleton']
  intro o ho
  rw [hsingle] at ho ⊢
  obtain ⟨x, hx, hox⟩ := List.mem_flatMap.mp ho
  exact List.mem_flatMap.mpr ⟨x, h hx, hox⟩

/-! ## The same entries -/

/-- The same first field under the same condition; of the fields nothing is selected that was not
    selected before. -/
structure RepeatedEntry (e e' : Entry) : Prop where
  first : e'.first = e.first
  conditional : e'.conditional = e.conditional
  selections : ∃ extra, extra ⊆ e.selections ∧ e'.selections = e.selections ++ extra

/-- An entry joined with an entry for occurrences among its own. -/
theorem repeatedEntry_join {key : String} {e x : Entry} {os ps : List Occurrence}
    (h : ∀ o ∈ ps, o ∈ os) (he : (key, e) ∈ grouped os) (hx : (key, x) ∈ grouped ps) :
    RepeatedEntry e (e.join x) := by
  have hsub : ∀ o ∈ withKey key ps, o ∈ withKey key os := by
    intro o ho
    obtain ⟨hmem, hkey⟩ := List.mem_filter.mp ho
    exact List.mem_filter.mpr ⟨h o hmem, hkey⟩
  have hnodes : x.nodes ⊆ e.nodes := by
    rw [nodes_of_mem_grouped he, nodes_of_mem_grouped hx]
    exact List.map_subset _ hsub
  have hcond : e.conditional = true → x.conditional = true := by
    rw [conditional_of_mem_grouped he, conditional_of_mem_grouped hx, List.all_eq_true,
      List.all_eq_true]
    exact fun hall o ho => hall o (hsub o ho)
  refine ⟨rfl, ?_, x.selections, ?_, Entry.selections_join e x⟩
  · show (e.conditional && x.conditional) = e.conditional
    cases hc : e.conditional with
    | false => rfl
    | true => exact hcond hc
  · intro y hy
    obtain ⟨n, hn, hyn⟩ := List.mem_flatMap.mp hy
    exact List.mem_flatMap.mpr ⟨n, hnodes hn, hyn⟩

/-- Grouping what was met before, once more, leaves the keys as they are. -/
theorem grouped_repeated {os ps : List Occurrence} (h : ∀ o ∈ ps, o ∈ os) :
    OrderedMap.InStep RepeatedEntry (grouped os) (grouped (os ++ ps)) := by
  have hnew : (grouped ps).filter (fun p => (OrderedMap.get? p.1 (grouped os)).isNone) = [] := by
    rw [List.filter_eq_nil_iff]
    intro p hp hnone
    rw [Option.isNone_iff_eq_none, OrderedMap.get?_eq_none_iff] at hnone
    obtain ⟨o, ho, hkey⟩ := mem_keys_grouped.mp (List.mem_map_of_mem (f := (·.1)) hp)
    exact hnone (mem_keys_grouped.mpr ⟨o, h o ho, hkey⟩)
  rw [grouped_append, FieldMap.merge, hnew, List.append_nil, OrderedMap.InStep,
    List.forall₂_map_right_iff, List.forall₂_same]
  intro p hp
  refine ⟨rfl, ?_⟩
  show RepeatedEntry p.2 (FieldMap.joined (grouped ps) p.1 p.2)
  rw [FieldMap.joined]
  cases hx : OrderedMap.get? p.1 (grouped ps) with
  | none => exact ⟨rfl, rfl, [], List.nil_subset _, (List.append_nil _).symm⟩
  | some x => exact repeatedEntry_join h hp (OrderedMap.mem_of_get? hx)

/-- **What is collected keeps its keys**, each with its first field and its condition. -/
theorem collect_repeated (h : extra ⊆ ss) :
    OrderedMap.InStep RepeatedEntry (collect g.schema g.fragments parent false ss)
      (collect g.schema g.fragments parent false (ss ++ extra)) := by
  rw [collect_eq_grouped, collect_eq_grouped, occurrences_append]
  exact grouped_repeated (mem_occurrences_of_subset h)

/-! ## The same types -/

/-- **The type of an object is the same** if selections are made again, at any depth. -/
theorem objectType_repeated (fuel : Nat) : ∀ {ss extra : List Selection}, extra ⊆ ss →
    ∀ typename parent,
      objectType g fuel typename (ss ++ extra) parent = objectType g fuel typename ss parent := by
  induction fuel with
  | zero => exact fun _ _ _ => rfl
  | succ fuel ih =>
      intro ss extra h typename parent
      have hmap := @collect_repeated g parent ss extra h
      have hmembers : (collect g.schema g.fragments parent false ss).mapM
            (fun p => keyMember g (objectType g fuel true) parent p.1 p.2)
          = (collect g.schema g.fragments parent false (ss ++ extra)).mapM
            fun p => keyMember g (objectType g fuel true) parent p.1 p.2 := by
        refine OrderedMap.InStep.mapM_eq hmap fun key e e' he => ?_
        obtain ⟨below, hbelow, hselections⟩ := he.selections
        refine keyMember_congr he.first.symm he.conditional.symm (funext fun t => ?_) parent key
        rw [hselections]
        exact (ih hbelow true t).symm
      have hname : ∀ e e' : Entry, RepeatedEntry e e' → e'.fieldName = e.fieldName :=
        fun e e' he => congrArg (fun n => n.head.name.text) he.first
      simp only [objectType, hmembers, typenameMembers_inStep hmap hname]

theorem fieldCounts_append (ss ts : List Selection) :
    fieldCounts (ss ++ ts) = fieldCounts ss + fieldCounts ts := by
  induction ss with
  | nil => exact (Nat.zero_add _).symm
  | cons x r ih => rw [List.cons_append, fieldCounts, fieldCounts, ih, Nat.add_assoc]

/-- **Repeating selections changes nothing.**  Where fragments do not lead back to themselves, the
    type of an object for some sets of selections stays the same when sets among them are added once
    more. -/
theorem boundedObject_repeated (ha : Acyclic g.fragments) (sets again : List (List Selection))
    (h : ∀ t ∈ again, t ∈ sets) (typename : Bool) (parent : NamedType) :
    boundedObject g typename (sets ++ again).flatten parent
      = boundedObject g typename sets.flatten parent := by
  have hextra : again.flatten ⊆ sets.flatten := by
    intro x hx
    obtain ⟨t, ht, hxt⟩ := List.mem_flatten.mp hx
    exact List.mem_flatten.mpr ⟨t, h t ht, hxt⟩
  obtain ⟨depth, hlt, hwithin⟩ := exists_within ha sets.flatten
  have hbound : depthBound g sets.flatten ≤ depthBound g (sets.flatten ++ again.flatten) := by
    rw [depthBound, depthBound, fieldCounts_append]
    omega
  rw [List.flatten_append]
  calc objectType g (depthBound g (sets.flatten ++ again.flatten)) typename
          (sets.flatten ++ again.flatten) parent
      = objectType g (depthBound g (sets.flatten ++ again.flatten)) typename sets.flatten parent :=
        objectType_repeated _ hextra typename parent
    _ = boundedObject g typename sets.flatten parent :=
        objectType_eq_bounded ha hwithin (Nat.lt_of_lt_of_le hlt hbound) typename parent

/-! ## A field whose selections are under a condition -/

section Nested

open QueryTypings.Execution

/-- The text for a pair whose texts are asked for under a condition, as often as one likes. -/
theorem boundedObject_repeated_nested :
    Acyclic nestedDocument.fragmentMap
      ∧ (∀ t ∈ [nestedQuery.selections, nestedQuery.selections], t ∈ [nestedQuery.selections])
      ∧ (boundedObject (settingOf sharedKey.schema [] nestedDocument) true
          ([nestedQuery.selections] ++ [nestedQuery.selections, nestedQuery.selections]).flatten
          pairQueryType).map Ty.text
        = .ok ("\x7b __typename?: 'Query', pair?: "
          ++ "\x7b __typename?: 'Pair', x?: string, y?: string \x7d | null \x7d") := by
  have hagain : ∀ t ∈ [nestedQuery.selections, nestedQuery.selections],
      t ∈ [nestedQuery.selections] := by simp
  refine ⟨acyclic_nestedDocument, hagain, ?_⟩
  rw [boundedObject_repeated (g := settingOf sharedKey.schema [] nestedDocument)
    acyclic_nestedDocument [nestedQuery.selections] _ hagain true pairQueryType]
  rfl

end Nested

end QueryTypings.Shape
