/-
  Collecting fields, seen as two steps: going through the selections, and grouping what was met.

  1. **Occurrences** — `occurrences` lists the fields that selections lead to, in the order in which
     they are met, every fragment opened wherever it is spread.  An occurrence remembers whether a
     condition stands on the way to it.  Selections that `keeps` refuses are passed over with all
     that is in them, so the same list also describes what is left of selections once their
     conditions are decided.

  2. **Grouping** — `grouped` puts occurrences under their keys.  It turns concatenation into
     merging (`grouped_append`), and this is all that is needed to show that collecting is grouping
     (`collect_eq_grouped`).

  3. **Reading a group** — `get?_grouped` says what stands under a key: the occurrences with that
     key, in order, conditional if all of them are.  `heads_grouped` gives the keys in order, each
     with its first field, by a fold that never looks back at a key it has seen.

  4. **Fields alone** — `fieldsMet` forgets conditions.  Whether the way to some selections is
     conditional does not matter for the fields that are met (`map_node_occurrences`).

  5. **Repetitions left out** — `Thinned seen full thin` says that `thin` is `full` without some
     elements each of which occurs earlier in `full`, or in `seen`.  Nothing has to be left out, and
     what stays keeps its order.  The relation is made for expansions in which the same part comes
     again: it is closed under concatenation, under filters and under expanding every element, and
     it can be composed.  What is read off a list by taking only the first element of every kind
     cannot tell the two lists apart (`firstFields_eq_of_thinned`).
-/
import QueryTypings.Shape.Object
import Mathlib.Data.List.Induction

namespace QueryTypings.Shape

open QueryTypings.Graphql QueryTypings.Schema

/-- A field that is met, and whether it depends on a condition. -/
structure Occurrence where
  node : FieldNode
  conditional : Bool

/-! ## Going through selections -/

section Occurrences

variable (g : Setting) (parent : NamedType) (keeps : Selection → Bool)

mutual

/-- The fields that a selection leads to; `expand` says what the fragment of a given name does,
    inside a condition or not. -/
def occurrencesOf (expand : String → Bool → List Occurrence) (conditional : Bool) :
    Selection → List Occurrence
  | .leaf f =>
      if keeps (.leaf f) then [⟨⟨f, []⟩, conditional || hasCondition (.leaf f)⟩] else []
  | .branch f o ss =>
      if keeps (.branch f o ss) then
        [⟨⟨f, ss⟩, conditional || hasCondition (.branch f o ss)⟩]
      else []
  | .inline c ds p o ss =>
      if keeps (.inline c ds p o ss) && (c.map fun n => applies g.schema parent n.text).getD true
      then occurrencesIn expand (conditional || hasCondition (.inline c ds p o ss)) ss
      else []
  | .spread n ds p =>
      if keeps (.spread n ds p) then expand n.text (conditional || hasCondition (.spread n ds p))
      else []

/-- The fields that selections lead to. -/
def occurrencesIn (expand : String → Bool → List Occurrence) (conditional : Bool) :
    List Selection → List Occurrence
  | [] => []
  | x :: r => occurrencesOf expand conditional x ++ occurrencesIn expand conditional r

end

/-- The fields that a fragment leads to, in a chain of so many fragments at most. -/
def occurrencesOfFragment : Nat → String → Bool → List Occurrence
  | 0, _, _ => []
  | fuel + 1, name, conditional =>
      match OrderedMap.get? name g.fragments with
      | none => []
      | some f =>
          if applies g.schema parent f.condition.text then
            occurrencesIn g parent keeps (occurrencesOfFragment fuel) conditional f.selections
          else []

/-- The fields of an object that selections lead to. -/
def occurrences (conditional : Bool) (ss : List Selection) : List Occurrence :=
  occurrencesIn g parent keeps (occurrencesOfFragment g parent keeps g.fragments.length)
    conditional ss

end Occurrences

/-- Nothing is passed over. -/
def keepsAll (_ : Selection) : Bool := true

variable {g : Setting} {parent : NamedType} {keeps : Selection → Bool}

theorem occurrencesIn_append (expand : String → Bool → List Occurrence) (conditional : Bool)
    (ss ts : List Selection) :
    occurrencesIn g parent keeps expand conditional (ss ++ ts)
      = occurrencesIn g parent keeps expand conditional ss
        ++ occurrencesIn g parent keeps expand conditional ts := by
  induction ss with
  | nil => simp [occurrencesIn]
  | cons x r ih => simp [occurrencesIn, ih]

theorem occurrences_append (conditional : Bool) (ss ts : List Selection) :
    occurrences g parent keeps conditional (ss ++ ts)
      = occurrences g parent keeps conditional ss ++ occurrences g parent keeps conditional ts :=
  occurrencesIn_append _ conditional ss ts

/-- Selections that are put together lead to what each of them leads to. -/
theorem occurrences_flatMap {α : Type} (conditional : Bool) (f : α → List Selection)
    (xs : List α) :
    occurrences g parent keeps conditional (xs.flatMap f)
      = xs.flatMap fun x => occurrences g parent keeps conditional (f x) := by
  induction xs with
  | nil => rfl
  | cons x r ih => simp only [List.flatMap_cons, occurrences_append, ih]

/-! ## Grouping -/

/-- The entry for a single occurrence. -/
def Occurrence.entry (o : Occurrence) : Entry := ⟨o.node, [], o.conditional⟩

/-- The key under which a field is found. -/
def FieldNode.key (n : FieldNode) : String := n.head.key

/-- Occurrences by key. -/
def grouped : List Occurrence → FieldMap
  | [] => []
  | o :: r => FieldMap.merge [(o.node.key, o.entry)] (grouped r)

theorem nodup_keys_grouped (os : List Occurrence) : (OrderedMap.keys (grouped os)).Nodup := by
  induction os with
  | nil => simp [grouped, OrderedMap.keys]
  | cons o r ih => exact FieldMap.nodup_keys_merge (by simp [OrderedMap.keys]) ih

/-- **Grouping turns concatenation into merging.** -/
theorem grouped_append (os ps : List Occurrence) :
    grouped (os ++ ps) = (grouped os).merge (grouped ps) := by
  induction os with
  | nil => simp [grouped]
  | cons o r ih =>
      rw [List.cons_append, grouped, grouped, ih, FieldMap.merge_assoc (by simp [OrderedMap.keys])
        (nodup_keys_grouped r) (nodup_keys_grouped ps)]

@[simp] theorem grouped_nil : grouped [] = [] := rfl

theorem grouped_singleton (o : Occurrence) : grouped [o] = [(o.node.key, o.entry)] := by
  simp [grouped]

section Collect

variable {collected : String → Bool → FieldMap} {met : String → Bool → List Occurrence}

mutual

theorem collectSelection_eq_grouped (h : ∀ n c, collected n c = grouped (met n c))
    (conditional : Bool) : ∀ x : Selection,
      collectSelection g.schema parent collected conditional x
        = grouped (occurrencesOf g parent keepsAll met conditional x)
  | .leaf f => by
      simp [collectSelection, occurrencesOf, keepsAll, grouped_singleton, Occurrence.entry,
        FieldNode.key]
  | .branch f o ss => by
      simp [collectSelection, occurrencesOf, keepsAll, grouped_singleton, Occurrence.entry,
        FieldNode.key]
  | .inline c ds p o ss => by
      rw [collectSelection, occurrencesOf, collectSelections_eq_grouped h _ ss]
      simp only [keepsAll, Bool.true_and]
      split <;> rfl
  | .spread n ds p => by simp [collectSelection, occurrencesOf, keepsAll, h]

theorem collectSelections_eq_grouped (h : ∀ n c, collected n c = grouped (met n c))
    (conditional : Bool) : ∀ ss : List Selection,
      collectSelections g.schema parent collected conditional ss
        = grouped (occurrencesIn g parent keepsAll met conditional ss)
  | [] => rfl
  | x :: r => by
      rw [collectSelections, occurrencesIn, grouped_append,
        collectSelection_eq_grouped h conditional x,
        collectSelections_eq_grouped h conditional r]

end

end Collect

theorem collectFragment_eq_grouped (fuel : Nat) (name : String) (conditional : Bool) :
    collectFragment g.schema g.fragments parent fuel name conditional
      = grouped (occurrencesOfFragment g parent keepsAll fuel name conditional) := by
  induction fuel generalizing name conditional with
  | zero => rfl
  | succ fuel ih =>
      rw [collectFragment, occurrencesOfFragment]
      cases OrderedMap.get? name g.fragments with
      | none => rfl
      | some f =>
          dsimp only
          split
          · exact collectSelections_eq_grouped ih conditional f.selections
          · rfl

/-- **Collecting is grouping what is met.** -/
theorem collect_eq_grouped (conditional : Bool) (ss : List Selection) :
    collect g.schema g.fragments parent conditional ss
      = grouped (occurrences g parent keepsAll conditional ss) :=
  collectSelections_eq_grouped (collectFragment_eq_grouped g.fragments.length) conditional ss

/-! ## Reading a group -/

/-- The occurrences with a given key. -/
def withKey (key : String) (os : List Occurrence) : List Occurrence :=
  os.filter fun o => o.node.key = key

/-- The entry for occurrences that share a key. -/
def entryOf? : List Occurrence → Option Entry
  | [] => none
  | o :: r => some ⟨o.node, r.map Occurrence.node, o.conditional && r.all Occurrence.conditional⟩

theorem withKey_cons_self (o : Occurrence) (os : List Occurrence) :
    withKey o.node.key (o :: os) = o :: withKey o.node.key os := by
  simp [withKey]

theorem withKey_cons_of_ne {key : String} {o : Occurrence} (h : o.node.key ≠ key)
    (os : List Occurrence) : withKey key (o :: os) = withKey key os := by
  simp [withKey, h]

theorem joined_eq_of_entryOf? {m : FieldMap} {key : String} {os : List Occurrence}
    (h : OrderedMap.get? key m = entryOf? os) (o : Occurrence) :
    some (m.joined key o.entry) = entryOf? (o :: os) := by
  rw [FieldMap.joined, h]
  cases os with
  | nil => simp [entryOf?, Occurrence.entry]
  | cons p r => simp [entryOf?, Occurrence.entry, Entry.join, Entry.nodes]

/-- **What stands under a key**: the occurrences that have it. -/
theorem get?_grouped (key : String) (os : List Occurrence) :
    OrderedMap.get? key (grouped os) = entryOf? (withKey key os) := by
  induction os with
  | nil => rfl
  | cons o r ih =>
      rw [grouped, FieldMap.get?_merge]
      by_cases h : o.node.key = key
      · subst h
        rw [withKey_cons_self, ← joined_eq_of_entryOf? ih]
        simp [OrderedMap.get?]
      · rw [withKey_cons_of_ne h, ← ih]
        simp [OrderedMap.get?, h]

/-- An entry under a key: its fields are those that were met under the key. -/
theorem nodes_of_mem_grouped {key : String} {e : Entry} {os : List Occurrence}
    (h : (key, e) ∈ grouped os) : e.nodes = (withKey key os).map Occurrence.node := by
  have hget := OrderedMap.get?_of_mem (nodup_keys_grouped os) h
  rw [get?_grouped] at hget
  cases hw : withKey key os with
  | nil => rw [hw] at hget; cases hget
  | cons o r => rw [hw] at hget; cases hget; rfl

/-- An entry depends on a condition if all that was met under its key does. -/
theorem conditional_of_mem_grouped {key : String} {e : Entry} {os : List Occurrence}
    (h : (key, e) ∈ grouped os) :
    e.conditional = (withKey key os).all Occurrence.conditional := by
  have hget := OrderedMap.get?_of_mem (nodup_keys_grouped os) h
  rw [get?_grouped] at hget
  cases hw : withKey key os with
  | nil => rw [hw] at hget; cases hget
  | cons o r => rw [hw] at hget; cases hget; rfl

theorem mem_keys_grouped {key : String} {os : List Occurrence} :
    key ∈ OrderedMap.keys (grouped os) ↔ ∃ o ∈ os, o.node.key = key := by
  induction os with
  | nil => simp [OrderedMap.keys]
  | cons o r ih =>
      rw [grouped, FieldMap.mem_keys_merge, ih]
      simp [OrderedMap.keys, eq_comm]

/-- The first field for every key, added to those that are known. -/
def firstFields : OrderedMap FieldNode → List FieldNode → OrderedMap FieldNode
  | m, [] => m
  | m, n :: r =>
      if n.key ∈ OrderedMap.keys m then firstFields m r else firstFields (m ++ [(n.key, n)]) r

theorem firstFields_append (m : OrderedMap FieldNode) (ns ks : List FieldNode) :
    firstFields m (ns ++ ks) = firstFields (firstFields m ns) ks := by
  induction ns generalizing m with
  | nil => rfl
  | cons n r ih =>
      simp only [List.cons_append, firstFields]
      split <;> exact ih _

/-- The keys of a map, each with its first field. -/
def FieldMap.heads (m : FieldMap) : OrderedMap FieldNode := m.map fun p => (p.1, p.2.first)

theorem FieldMap.keys_heads (m : FieldMap) : OrderedMap.keys m.heads = OrderedMap.keys m := by
  simp [FieldMap.heads, OrderedMap.keys, Function.comp_def]

/-- **Keys in order, with their first fields.** -/
theorem heads_grouped (os : List Occurrence) :
    (grouped os).heads = firstFields [] (os.map Occurrence.node) := by
  induction os using List.reverseRecOn with
  | nil => rfl
  | append_singleton r o ih =>
      rw [grouped_append, List.map_append, firstFields_append, ← ih, grouped_singleton]
      simp only [List.map_cons, List.map_nil, firstFields, FieldMap.keys_heads]
      by_cases h : o.node.key ∈ OrderedMap.keys (grouped r)
      · obtain ⟨e, he⟩ := Option.ne_none_iff_exists'.mp
          (mt OrderedMap.get?_eq_none_iff.mp (not_not_intro h))
        rw [if_pos h]
        simp only [FieldMap.heads, FieldMap.merge, List.map_append, List.map_map]
        simp only [List.filter_cons, he, Option.isNone_some, List.filter_nil]
        simp only [Bool.false_eq_true, if_false, List.map_nil, List.append_nil]
        refine List.map_congr_left fun p _ => ?_
        simp only [Function.comp_apply, FieldMap.joined]
        split <;> rfl
      · rw [if_neg h]
        have hnone := OrderedMap.get?_eq_none_iff.mpr h
        have hjoined : ∀ p ∈ grouped r, FieldMap.joined [(o.node.key, o.entry)] p.1 p.2 = p.2 := by
          intro p hp
          have hne : o.node.key ≠ p.1 := by
            rintro heq
            exact h (heq ▸ List.mem_map.mpr ⟨p, hp, rfl⟩)
          simp [FieldMap.joined, OrderedMap.get?, hne]
        have hmap : (grouped r).map
            (fun p => (p.1, FieldMap.joined [(o.node.key, o.entry)] p.1 p.2)) = grouped r := by
          conv_rhs => rw [← List.map_id (grouped r)]
          exact List.map_congr_left fun p hp => by rw [hjoined p hp]; rfl
        rw [FieldMap.merge, hmap]
        simp [FieldMap.heads, hnone, Occurrence.entry]

/-! ## Fields alone -/

section Nodes

variable {expand : String → Bool → List Occurrence}

mutual

theorem map_node_occurrencesOf
    (h : ∀ n c c', (expand n c).map Occurrence.node = (expand n c').map Occurrence.node)
    (c c' : Bool) : ∀ x : Selection,
      (occurrencesOf g parent keeps expand c x).map Occurrence.node
        = (occurrencesOf g parent keeps expand c' x).map Occurrence.node
  | .leaf f => by rw [occurrencesOf, occurrencesOf]; split <;> rfl
  | .branch f o ss => by rw [occurrencesOf, occurrencesOf]; split <;> rfl
  | .inline t ds p o ss => by
      rw [occurrencesOf, occurrencesOf]
      split
      · exact map_node_occurrencesIn h _ _ ss
      · rfl
  | .spread n ds p => by
      rw [occurrencesOf, occurrencesOf]
      split
      · exact h _ _ _
      · rfl

theorem map_node_occurrencesIn
    (h : ∀ n c c', (expand n c).map Occurrence.node = (expand n c').map Occurrence.node)
    (c c' : Bool) : ∀ ss : List Selection,
      (occurrencesIn g parent keeps expand c ss).map Occurrence.node
        = (occurrencesIn g parent keeps expand c' ss).map Occurrence.node
  | [] => rfl
  | x :: r => by
      rw [occurrencesIn, occurrencesIn, List.map_append, List.map_append,
        map_node_occurrencesOf h c c' x, map_node_occurrencesIn h c c' r]

end

end Nodes

theorem map_node_occurrencesOfFragment (fuel : Nat) (n : String) (c c' : Bool) :
    (occurrencesOfFragment g parent keeps fuel n c).map Occurrence.node
      = (occurrencesOfFragment g parent keeps fuel n c').map Occurrence.node := by
  induction fuel generalizing n c c' with
  | zero => rfl
  | succ fuel ih =>
      rw [occurrencesOfFragment, occurrencesOfFragment]
      cases OrderedMap.get? n g.fragments with
      | none => rfl
      | some f =>
          dsimp only
          split
          · exact map_node_occurrencesIn ih c c' f.selections
          · rfl

/-- Conditions on the way do not change which fields are met. -/
theorem map_node_occurrences (c c' : Bool) (ss : List Selection) :
    (occurrences g parent keeps c ss).map Occurrence.node
      = (occurrences g parent keeps c' ss).map Occurrence.node :=
  map_node_occurrencesIn (map_node_occurrencesOfFragment g.fragments.length) c c' ss

/-- The fields of an object that are met in selections, fragments opened wherever they are
    spread. -/
def fieldsMet (g : Setting) (parent : NamedType) (keeps : Selection → Bool)
    (ss : List Selection) : List FieldNode :=
  (occurrences g parent keeps false ss).map Occurrence.node

theorem fieldsMet_flatMap {α : Type} (f : α → List Selection) (xs : List α) :
    fieldsMet g parent keeps (xs.flatMap f) = xs.flatMap fun x => fieldsMet g parent keeps (f x) := by
  rw [fieldsMet, occurrences_flatMap, List.map_flatMap]
  rfl

theorem map_node_withKey (key : String) (os : List Occurrence) :
    (withKey key os).map Occurrence.node
      = (os.map Occurrence.node).filter fun n => n.key = key := by
  rw [withKey, List.filter_map]
  rfl

/-! ## Repetitions left out -/

/-- The last list is the one before it without elements that were seen or occur earlier. -/
inductive Thinned {α : Type} : List α → List α → List α → Prop
  | nil {seen} : Thinned seen [] []
  | keep {seen x full thin} :
      Thinned (x :: seen) full thin → Thinned seen (x :: full) (x :: thin)
  | drop {seen x full thin} :
      x ∈ seen → Thinned seen full thin → Thinned seen (x :: full) thin

namespace Thinned

variable {α β : Type} {seen seen' full thin : List α}

theorem refl (seen xs : List α) : Thinned seen xs xs := by
  induction xs generalizing seen with
  | nil => exact .nil
  | cons x r ih => exact .keep (ih (x :: seen))

/-- Having seen more is no obstacle. -/
theorem mono (h : Thinned seen full thin) (hsub : ∀ x ∈ seen, x ∈ seen') :
    Thinned seen' full thin := by
  induction h generalizing seen' with
  | nil => exact .nil
  | @keep seen x full thin _ ih =>
      refine .keep (ih fun y hy => ?_)
      rcases List.mem_cons.mp hy with rfl | hy
      · exact List.mem_cons_self
      · exact List.mem_cons_of_mem _ (hsub y hy)
  | drop hx _ ih => exact .drop (hsub _ hx) (ih hsub)

/-- What has all been seen can be left out altogether. -/
theorem drop_all (h : ∀ x ∈ full, x ∈ seen) : Thinned seen full [] := by
  induction full with
  | nil => exact .nil
  | cons x r ih =>
      exact .drop (h x List.mem_cons_self) (ih fun y hy => h y (List.mem_cons_of_mem _ hy))

/-- Nothing is lost but what was seen. -/
theorem mem_or_mem (h : Thinned seen full thin) {x : α} (hx : x ∈ full) : x ∈ seen ∨ x ∈ thin := by
  induction h with
  | nil => cases hx
  | @keep seen y full thin _ ih =>
      rcases List.mem_cons.mp hx with rfl | hx
      · exact Or.inr List.mem_cons_self
      · rcases ih hx with hs | ht
        · rcases List.mem_cons.mp hs with rfl | hs
          · exact Or.inr List.mem_cons_self
          · exact Or.inl hs
        · exact Or.inr (List.mem_cons_of_mem _ ht)
  | drop hy _ ih =>
      rcases List.mem_cons.mp hx with rfl | hx
      · exact Or.inl hy
      · exact ih hx

/-- Nothing is added. -/
theorem mem_of_mem (h : Thinned seen full thin) {x : α} (hx : x ∈ thin) : x ∈ full := by
  induction h with
  | nil => exact hx
  | keep _ ih =>
      rcases List.mem_cons.mp hx with rfl | hx
      · exact List.mem_cons_self
      · exact List.mem_cons_of_mem _ (ih hx)
  | drop _ _ ih => exact List.mem_cons_of_mem _ (ih hx)

/-- From nothing seen, both lists have the same elements. -/
theorem mem_iff (h : Thinned [] full thin) {x : α} : x ∈ full ↔ x ∈ thin := by
  refine ⟨fun hx => ?_, h.mem_of_mem⟩
  rcases h.mem_or_mem hx with hs | ht
  · cases hs
  · exact ht

/-- A second pair of lists may leave out what occurs in the first. -/
theorem append {full' thin' : List α} (h : Thinned seen full thin)
    (h' : Thinned (seen ++ full) full' thin') :
    Thinned seen (full ++ full') (thin ++ thin') := by
  induction h with
  | nil => simpa using h'
  | @keep seen x full thin _ ih =>
      refine .keep (ih (h'.mono fun y hy => ?_))
      simp only [List.mem_append, List.mem_cons] at hy ⊢
      tauto
  | @drop seen x full thin hx _ ih =>
      refine .drop hx (ih (h'.mono fun y hy => ?_))
      simp only [List.mem_append, List.mem_cons] at hy ⊢
      rcases hy with hy | rfl | hy
      · exact Or.inl hy
      · exact Or.inl hx
      · exact Or.inr hy

theorem trans {rare : List α} (h : Thinned seen full thin) (h' : Thinned seen thin rare) :
    Thinned seen full rare := by
  induction h generalizing rare with
  | nil => exact h'
  | @keep seen x full thin _ ih =>
      cases h' with
      | keep h' => exact .keep (ih h')
      | drop hx h' =>
          have hrest := ih (h'.mono fun y hy => List.mem_cons_of_mem _ hy)
          refine .drop hx (hrest.mono fun y hy => ?_)
          rcases List.mem_cons.mp hy with rfl | hy
          · exact hx
          · exact hy
  | drop hx _ ih => exact .drop hx (ih h')

theorem filter (p : α → Bool) (h : Thinned seen full thin) :
    Thinned (seen.filter p) (full.filter p) (thin.filter p) := by
  induction h with
  | nil => exact .nil
  | @keep seen x full thin _ ih =>
      by_cases hp : p x
      · rw [List.filter_cons_of_pos hp, List.filter_cons_of_pos hp]
        rw [List.filter_cons_of_pos hp] at ih
        exact .keep ih
      · rw [List.filter_cons_of_neg hp, List.filter_cons_of_neg hp]
        rwa [List.filter_cons_of_neg hp] at ih
  | @drop seen x full thin hx _ ih =>
      by_cases hp : p x
      · rw [List.filter_cons_of_pos hp]
        exact .drop (List.mem_filter.mpr ⟨hx, hp⟩) ih
      · rwa [List.filter_cons_of_neg hp]

/-- Expanding an element that comes again yields nothing that has not been seen. -/
theorem flatMap (f : α → List β) (h : Thinned seen full thin) :
    Thinned (seen.flatMap f) (full.flatMap f) (thin.flatMap f) := by
  induction h with
  | nil => exact .nil
  | @keep seen x full thin _ ih =>
      rw [List.flatMap_cons, List.flatMap_cons]
      refine (refl _ (f x)).append (ih.mono fun y hy => ?_)
      rw [List.flatMap_cons] at hy
      rcases List.mem_append.mp hy with hy | hy
      · exact List.mem_append_right _ hy
      · exact List.mem_append_left _ hy
  | @drop seen x full thin hx _ ih =>
      rw [List.flatMap_cons]
      have hall : ∀ y ∈ f x, y ∈ seen.flatMap f := fun y hy =>
        List.mem_flatMap.mpr ⟨x, hx, hy⟩
      exact (drop_all hall).append (ih.mono fun y hy => List.mem_append_left _ hy)

end Thinned

/-- The keys of a list of fields, each with its first field, do not show what was left out. -/
theorem firstFields_eq_of_thinned {seen full thin : List FieldNode}
    (h : Thinned seen full thin) {m : OrderedMap FieldNode}
    (hm : ∀ n ∈ seen, n.key ∈ OrderedMap.keys m) : firstFields m full = firstFields m thin := by
  induction h generalizing m with
  | nil => rfl
  | @keep seen x full thin _ ih =>
      simp only [firstFields]
      split
      · rename_i hx
        refine ih fun n hn => ?_
        rcases List.mem_cons.mp hn with rfl | hn
        · exact hx
        · exact hm n hn
      · refine ih fun n hn => ?_
        rcases List.mem_cons.mp hn with rfl | hn
        · simp [OrderedMap.keys]
        · simpa [OrderedMap.keys] using Or.inl (List.mem_map.mp (hm n hn))
  | drop hx _ ih =>
      rw [firstFields, if_pos (hm _ hx)]
      exact ih hm

end QueryTypings.Shape
