/-
  Collecting fields as an execution does, every fragment once.

  1. **Visiting** — `visitSelections` goes through selections in order and carries along the names
     of the fragments that have been spread.  A spread of one of them is passed over; so is a
     selection that `keeps` refuses.  `visited` is a whole visit, from no names at all.

  2. **Grouping** — `groupFields` puts the fields that were visited under their keys, and
     `collectFields` is visiting and grouping.

  3. **The crux** — a visit yields what is met when every spread is opened, without fields that were
     met before (`thinned_visited`).  `Visited` is the invariant.  A name that has been seen stands
     either for a fragment whose fields have all been met, or for one that is still being gone
     through.  Ranks tell the two apart: inside a fragment only fragments of a lower rank are spread,
     so a fragment that is still open is never asked for.

  4. **Reading a group** — what stands under a key, and the keys in order with their first fields.
-/
import QueryTypings.Proofs.Shape.Depth
import QueryTypings.Proofs.Shape.Expansion

namespace QueryTypings.Execution

open QueryTypings.Graphql QueryTypings.Schema QueryTypings.Shape

/-! ## Visiting -/

/-- What a visit leaves: the fields, and the names of the fragments that were spread by then. -/
structure Visit where
  fields : List FieldNode
  seen : List String

section Visits

variable (g : Setting) (parent : NamedType) (keeps : Selection → Bool)

mutual

/-- Visits a selection; `openFragment` visits the fragment of a given name. -/
def visitSelection (openFragment : String → List String → Visit) (seen : List String) :
    Selection → Visit
  | .leaf f => ⟨if keeps (.leaf f) then [⟨f, []⟩] else [], seen⟩
  | .branch f o ss => ⟨if keeps (.branch f o ss) then [⟨f, ss⟩] else [], seen⟩
  | .inline c ds p o ss =>
      if keeps (.inline c ds p o ss) && (c.map fun n => applies g.schema parent n.text).getD true
      then visitSelections openFragment seen ss
      else ⟨[], seen⟩
  | .spread n ds p =>
      if keeps (.spread n ds p) && !seen.contains n.text
      then openFragment n.text (n.text :: seen)
      else ⟨[], seen⟩

/-- Visits selections in order. -/
def visitSelections (openFragment : String → List String → Visit) (seen : List String) :
    List Selection → Visit
  | [] => ⟨[], seen⟩
  | x :: r =>
      let first := visitSelection openFragment seen x
      let rest := visitSelections openFragment first.seen r
      ⟨first.fields ++ rest.fields, rest.seen⟩

end

/-- Visits a fragment, in a chain of so many fragments at most. -/
def visitFragment : Nat → String → List String → Visit
  | 0, _, seen => ⟨[], seen⟩
  | fuel + 1, name, seen =>
      match OrderedMap.get? name g.fragments with
      | none => ⟨[], seen⟩
      | some f =>
          if applies g.schema parent f.condition.text then
            visitSelections g parent keeps (visitFragment fuel) seen f.selections
          else ⟨[], seen⟩

/-- The fields of an object that selections ask for, in order. -/
def visited (ss : List Selection) : List FieldNode :=
  (visitSelections g parent keeps (visitFragment g parent keeps g.fragments.length) [] ss).fields

end Visits

/-! ## Grouping -/

/-- The fields that share a key. -/
structure Group where
  first : FieldNode
  others : List FieldNode

namespace Group

/-- The fields in order. -/
def fields (grp : Group) : List FieldNode := grp.first :: grp.others

/-- What is selected of all the fields. -/
def selections (grp : Group) : List Selection := grp.fields.flatMap FieldNode.selections

/-- The name of the field. -/
def fieldName (grp : Group) : String := grp.first.head.name.text

end Group

/-- The group for a field that comes after those of another group, if there is one. -/
def joinGroup (n : FieldNode) : Option Group → Group
  | none => ⟨n, []⟩
  | some grp => ⟨grp.first, grp.others ++ [n]⟩

/-- Puts a field under its key. -/
def addField (groups : OrderedMap Group) (n : FieldNode) : OrderedMap Group :=
  OrderedMap.put n.key (joinGroup n (OrderedMap.get? n.key groups)) groups

/-- Fields by key, the keys in the order in which they came. -/
def groupFields (ns : List FieldNode) : OrderedMap Group := ns.foldl addField []

/-- **The fields of an object by key**, every fragment visited once. -/
def collectFields (g : Setting) (parent : NamedType) (keeps : Selection → Bool)
    (ss : List Selection) : OrderedMap Group :=
  groupFields (visited g parent keeps ss)

/-! ## What a visit yields -/

variable {g : Setting} {parent : NamedType} {keeps : Selection → Bool} {rank : String → Nat}

/-- The invariant of a visit: `before` has been met when it begins, `full` is what it goes through,
    and it takes place inside a fragment of rank `bound`. -/
structure Visited (g : Setting) (parent : NamedType) (keeps : Selection → Bool)
    (rank : String → Nat) (bound : Nat) (seen : List String) (before full : List FieldNode)
    (v : Visit) : Prop where
  /-- Only fields that were met before are missing. -/
  thinned : Thinned before full v.fields
  /-- A fragment of lower rank that has been seen has been gone through. -/
  covered : ∀ n ∈ v.seen, rank n < bound →
    ∀ x ∈ fieldsMetBy g parent keeps n, x ∈ before ++ full
  /-- The new names have a lower rank. -/
  fresh : ∀ n ∈ v.seen, n ∈ seen ∨ rank n < bound

/-- Every fragment of lower rank that has been seen has been gone through. -/
def Covered (g : Setting) (parent : NamedType) (keeps : Selection → Bool) (rank : String → Nat)
    (bound : Nat) (seen : List String) (before : List FieldNode) : Prop :=
  ∀ n ∈ seen, rank n < bound → ∀ x ∈ fieldsMetBy g parent keeps n, x ∈ before

namespace Visited

variable {bound : Nat} {seen : List String} {before full full' : List FieldNode} {v v' : Visit}

/-- Nothing is gone through. -/
theorem nothing (hc : Covered g parent keeps rank bound seen before) :
    Visited g parent keeps rank bound seen before [] ⟨[], seen⟩ where
  thinned := .nil
  covered := fun n hn hlt x hx => by
    rw [List.append_nil]
    exact hc n hn hlt x hx
  fresh := fun _ hn => Or.inl hn

/-- Fields are taken as they are. -/
theorem taken (hc : Covered g parent keeps rank bound seen before) (ns : List FieldNode) :
    Visited g parent keeps rank bound seen before ns ⟨ns, seen⟩ where
  thinned := Thinned.refl before ns
  covered := fun n hn hlt x hx => List.mem_append_left _ (hc n hn hlt x hx)
  fresh := fun _ hn => Or.inl hn

/-- A second visit goes on where the first has ended. -/
theorem append (h : Visited g parent keeps rank bound seen before full v)
    (h' : Visited g parent keeps rank bound v.seen (before ++ full) full' v') :
    Visited g parent keeps rank bound seen before (full ++ full')
      ⟨v.fields ++ v'.fields, v'.seen⟩ where
  thinned := h.thinned.append h'.thinned
  covered := fun n hn hlt x hx => by
    rw [← List.append_assoc]
    exact h'.covered n hn hlt x hx
  fresh := fun n hn => by
    rcases h'.fresh n hn with hn | hlt
    · exact h.fresh n hn
    · exact Or.inr hlt

end Visited

/-- Fragments of lower rank are visited as they should be. -/
def Opens (g : Setting) (parent : NamedType) (keeps : Selection → Bool) (rank : String → Nat)
    (bound : Nat) (openFragment : String → List String → Visit) : Prop :=
  ∀ n, rank n < bound → ∀ seen before, Covered g parent keeps rank bound seen before →
    Visited g parent keeps rank bound seen before (fieldsMetBy g parent keeps n)
      (openFragment n (n :: seen))

section Selections

variable {bound : Nat} {openFragment : String → List String → Visit}

mutual

theorem visited_selection (ho : Opens g parent keeps rank bound openFragment) :
    ∀ (x : Selection) (seen : List String) (before : List FieldNode),
      (∀ n ∈ x.spreads, rank n < bound) → Covered g parent keeps rank bound seen before →
        Visited g parent keeps rank bound seen before (fieldsMetAt g parent keeps x)
          (visitSelection g parent keeps openFragment seen x)
  | .leaf f, seen, before, _, hc => by
      have hmet : fieldsMetAt g parent keeps (.leaf f)
          = if keeps (.leaf f) then [⟨f, []⟩] else [] := by
        rw [fieldsMetAt, occurrencesOf]
        split <;> rfl
      rw [hmet, visitSelection]
      exact .taken hc _
  | .branch f o ss, seen, before, _, hc => by
      have hmet : fieldsMetAt g parent keeps (.branch f o ss)
          = if keeps (.branch f o ss) then [⟨f, ss⟩] else [] := by
        rw [fieldsMetAt, occurrencesOf]
        split <;> rfl
      rw [hmet, visitSelection]
      exact .taken hc _
  | .inline c ds p o ss, seen, before, hs, hc => by
      rw [fieldsMetAt_inline, visitSelection]
      split
      · exact visited_selections ho ss seen before hs hc
      · exact .nothing hc
  | .spread n ds p, seen, before, hs, hc => by
      have hlt : rank n.text < bound := hs n.text (List.mem_singleton.mpr rfl)
      rw [fieldsMetAt_spread, visitSelection]
      by_cases hk : keeps (.spread n ds p)
      · by_cases hn : n.text ∈ seen
        · -- The fragment has been gone through, so nothing of it is missed.
          have hold : ¬ (keeps (.spread n ds p) && !seen.contains n.text) = true := by
            simp [hn]
          rw [if_pos hk, if_neg hold]
          have hall := hc n.text hn hlt
          exact ⟨Thinned.drop_all hall,
            fun m hm hmlt x hx => List.mem_append_left _ (hc m hm hmlt x hx),
            fun m hm => Or.inl hm⟩
        · have hnew : (keeps (.spread n ds p) && !seen.contains n.text) = true := by
            simp [hn, hk]
          rw [if_pos hk, if_pos hnew]
          exact ho n.text hlt seen before hc
      · rw [if_neg hk, if_neg (by simp [hk])]
        exact .nothing hc

theorem visited_selections (ho : Opens g parent keeps rank bound openFragment) :
    ∀ (ss : List Selection) (seen : List String) (before : List FieldNode),
      (∀ n ∈ spreads ss, rank n < bound) → Covered g parent keeps rank bound seen before →
        Visited g parent keeps rank bound seen before (fieldsMet g parent keeps ss)
          (visitSelections g parent keeps openFragment seen ss)
  | [], seen, before, _, hc => .nothing hc
  | x :: r, seen, before, hs, hc => by
      rw [fieldsMet_cons, visitSelections]
      have hx := visited_selection ho x seen before
        (fun n hn => hs n (List.mem_append_left _ hn)) hc
      have hr := visited_selections ho r _ (before ++ fieldsMetAt g parent keeps x)
        (fun n hn => hs n (List.mem_append_right _ hn)) hx.covered
      exact hx.append hr

end

end Selections

/-- A name that stands for nothing, or whose fragment does not apply, is seen and that is all. -/
theorem visited_nothing {bound : Nat} {n : String} {seen : List String} {before : List FieldNode}
    (hlt : rank n < bound) (hmet : fieldsMetBy g parent keeps n = [])
    (hc : Covered g parent keeps rank bound seen before) :
    Visited g parent keeps rank bound seen before (fieldsMetBy g parent keeps n)
      ⟨[], n :: seen⟩ := by
  rw [hmet]
  refine ⟨.nil, fun m hm hmlt x hx => ?_, fun m hm => ?_⟩
  · rw [List.append_nil]
    rcases List.mem_cons.mp hm with rfl | hm
    · rw [hmet] at hx
      cases hx
    · exact hc m hm hmlt x hx
  · rcases List.mem_cons.mp hm with rfl | hm
    · exact Or.inr hlt
    · exact Or.inl hm

/-- What has been gone through inside a fragment has been gone through in its surroundings. -/
theorem Visited.leave {bound : Nat} {n : String} {seen : List String}
    {before : List FieldNode} {v : Visit} (hlt : rank n < bound)
    (hc : Covered g parent keeps rank bound seen before)
    (h : Visited g parent keeps rank (rank n) (n :: seen) before (fieldsMetBy g parent keeps n) v) :
    Visited g parent keeps rank bound seen before (fieldsMetBy g parent keeps n) v := by
  refine ⟨h.thinned, fun m hm hmlt x hx => ?_, fun m hm => ?_⟩
  · rcases h.fresh m hm with hm' | hlow
    · rcases List.mem_cons.mp hm' with rfl | hm'
      · exact List.mem_append_right _ hx
      · exact List.mem_append_left _ (hc m hm' hmlt x hx)
    · exact h.covered m hm hlow x hx
  · rcases h.fresh m hm with hm' | hlow
    · rcases List.mem_cons.mp hm' with rfl | hm'
      · exact Or.inr hlt
      · exact Or.inl hm'
    · exact Or.inr (by omega)

theorem opens_visitFragment (h : Acyclic g.fragments) (hr : Ranks g.fragments rank)
    (parent : NamedType) (keeps : Selection → Bool) (fuel : Nat) :
    ∀ bound, (∀ n, rank n < bound → rank n ≤ fuel) →
      Opens g parent keeps rank bound (visitFragment g parent keeps fuel) := by
  induction fuel with
  | zero =>
      intro bound hle n hlt seen before hc
      have hnone : OrderedMap.get? n g.fragments = none := by
        cases hf : OrderedMap.get? n g.fragments with
        | none => rfl
        | some f =>
            have := hr.pos hf
            have := hle n hlt
            omega
      exact visited_nothing hlt (by rw [fieldsMetBy_eq h, hnone]) hc
  | succ fuel ih =>
      intro bound hle n hlt seen before hc
      rw [visitFragment]
      cases hf : OrderedMap.get? n g.fragments with
      | none => exact visited_nothing hlt (by rw [fieldsMetBy_eq h, hf]) hc
      | some f =>
          dsimp only
          split
          · rename_i happ
            have hmet : fieldsMetBy g parent keeps n = fieldsMet g parent keeps f.selections := by
              simp [fieldsMetBy_eq h, hf, happ]
            have hinner : Opens g parent keeps rank (rank n) (visitFragment g parent keeps fuel) :=
              ih (rank n) fun m hm => by
                have := hle n hlt
                omega
            -- The fragment itself has been seen but not gone through; its rank is the bound.
            have hc' : Covered g parent keeps rank (rank n) (n :: seen) before := by
              intro m hm hmlt x hx
              rcases List.mem_cons.mp hm with rfl | hm
              · omega
              · exact hc m hm (by omega) x hx
            have hbody := visited_selections hinner f.selections (n :: seen) before
              (fun m hm => hr.lt ⟨f, hf, hm⟩) hc'
            rw [← hmet] at hbody
            exact hbody.leave hlt hc
          · rename_i happ
            exact visited_nothing hlt (by simp [fieldsMetBy_eq h, hf, happ]) hc

/-- **A visit yields what is met, without fields that were met before.** -/
theorem thinned_visited (h : Acyclic g.fragments) (parent : NamedType) (keeps : Selection → Bool)
    (ss : List Selection) :
    Thinned [] (fieldsMet g parent keeps ss) (visited g parent keeps ss) := by
  obtain ⟨rank, hr⟩ := exists_ranks h
  have hopens := opens_visitFragment h hr parent keeps g.fragments.length
    (g.fragments.length + 1) fun n _ => hr.le n
  have hseen : Covered g parent keeps rank (g.fragments.length + 1) [] [] := by
    intro n hn
    cases hn
  refine (visited_selections hopens ss [] [] (fun n _ => ?_) hseen).thinned
  have := hr.le n
  omega

/-! ## Reading a group -/

/-- The group of fields that share a key. -/
def groupOf? : List FieldNode → Option Group
  | [] => none
  | n :: r => some ⟨n, r⟩

theorem joinGroup_groupOf? (n : FieldNode) (ns : List FieldNode) :
    some (joinGroup n (groupOf? ns)) = groupOf? (ns ++ [n]) := by
  cases ns <;> rfl

theorem groupFields_concat (ns : List FieldNode) (n : FieldNode) :
    groupFields (ns ++ [n]) = addField (groupFields ns) n := by
  rw [groupFields, List.foldl_append]
  rfl

theorem nodup_keys_groupFields (ns : List FieldNode) :
    (OrderedMap.keys (groupFields ns)).Nodup := by
  induction ns using List.reverseRecOn with
  | nil => exact List.nodup_nil
  | append_singleton r n ih =>
      rw [groupFields_concat, addField]
      exact OrderedMap.nodup_keys_put ih _ _

/-- **What stands under a key**: the fields that have it. -/
theorem get?_groupFields (key : String) (ns : List FieldNode) :
    OrderedMap.get? key (groupFields ns) = groupOf? (ns.filter fun n => n.key = key) := by
  induction ns using List.reverseRecOn with
  | nil => rfl
  | append_singleton r n ih =>
      rw [groupFields_concat, addField, List.filter_append]
      by_cases hk : n.key = key
      · subst hk
        rw [OrderedMap.get?_put_self, ih, joinGroup_groupOf?]
        simp
      · rw [OrderedMap.get?_put_of_ne (Ne.symm hk), ih]
        simp [hk]

theorem fields_of_mem_groupFields {key : String} {grp : Group} {ns : List FieldNode}
    (h : (key, grp) ∈ groupFields ns) : grp.fields = ns.filter fun n => n.key = key := by
  have hget := OrderedMap.get?_of_mem (nodup_keys_groupFields ns) h
  rw [get?_groupFields] at hget
  cases hf : ns.filter fun n => n.key = key with
  | nil =>
      rw [hf] at hget
      cases hget
  | cons n r =>
      rw [hf] at hget
      cases hget
      rfl

theorem mem_keys_groupFields {key : String} {ns : List FieldNode} :
    key ∈ OrderedMap.keys (groupFields ns) ↔ ∃ n ∈ ns, n.key = key := by
  rw [← not_iff_not, ← OrderedMap.get?_eq_none_iff, get?_groupFields]
  cases hf : ns.filter fun n => n.key = key with
  | nil => simpa [groupOf?] using hf
  | cons n r =>
      have hn : n ∈ ns.filter fun n => n.key = key := hf ▸ List.mem_cons_self
      obtain ⟨hmem, hkey⟩ := List.mem_filter.mp hn
      refine ⟨fun h => (by cases h), fun h => absurd ⟨n, hmem, by simpa using hkey⟩ h⟩

/-- The keys, each with its first field. -/
def headsOf (groups : OrderedMap Group) : OrderedMap FieldNode :=
  groups.map fun p => (p.1, p.2.first)

theorem keys_headsOf (groups : OrderedMap Group) :
    OrderedMap.keys (headsOf groups) = OrderedMap.keys groups := by
  simp [headsOf, OrderedMap.keys, Function.comp_def]

/-- Adding a field to those of its key leaves all first fields as they are. -/
theorem headsOf_addField (groups : OrderedMap Group) (n : FieldNode) :
    headsOf (addField groups n)
      = if n.key ∈ OrderedMap.keys groups then headsOf groups
        else headsOf groups ++ [(n.key, n)] := by
  induction groups with
  | nil => rfl
  | cons p r ih =>
      obtain ⟨k, grp⟩ := p
      by_cases hk : k = n.key
      · simp [addField, OrderedMap.put, OrderedMap.get?, OrderedMap.keys, headsOf, joinGroup, hk]
      · have hadd : addField ((k, grp) :: r) n = (k, grp) :: addField r n := by
          rw [addField, OrderedMap.put, if_neg hk, OrderedMap.get?, if_neg hk]
          rfl
        have hmem : n.key ∈ OrderedMap.keys ((k, grp) :: r) ↔ n.key ∈ OrderedMap.keys r := by
          simp [OrderedMap.keys, Ne.symm hk]
        have hcons : ∀ m : OrderedMap Group,
            headsOf ((k, grp) :: m) = (k, grp.first) :: headsOf m := fun _ => rfl
        rw [hadd, hcons, hcons, ih]
        by_cases hn : n.key ∈ OrderedMap.keys r
        · rw [if_pos hn, if_pos (hmem.mpr hn)]
        · rw [if_neg hn, if_neg (mt hmem.mp hn), List.cons_append]

/-- **Keys in order, with their first fields.** -/
theorem headsOf_groupFields (ns : List FieldNode) :
    headsOf (groupFields ns) = firstFields [] ns := by
  induction ns using List.reverseRecOn with
  | nil => rfl
  | append_singleton r n ih =>
      rw [groupFields_concat, headsOf_addField, firstFields_append, ← ih]
      simp only [firstFields, keys_headsOf]

/-! ## Selections without directives -/

/-- A field of which nothing is said but its name. -/
def bareField (name : String) : FieldHead := ⟨none, ⟨name, .first⟩, [], [], .first⟩

/-- A spread without directives. -/
def bareSpread (name : String) : Selection := .spread ⟨name, .first⟩ [] .first

/-- A fragment without directives. -/
def bareFragment (name condition : String) (ss : List Selection) : Fragment :=
  ⟨none, ⟨name, .first⟩, ⟨condition, .first⟩, [], ss, .first, .first⟩

end QueryTypings.Execution
