/-
  Merging field maps, and collecting as a walk that merges.

  1. **What merging does** — the keys of a merged map are those of both, in the order of their first
     places; under each key stand the fields of the one map and then those of the other, and the key
     depends on a condition if it does in both.  This says which map it is (`eq_merge_iff`).  A key
     without a place counts as one without fields, so no case is set apart.

  2. **Entry by entry** — a map is also merged by going through the other one, where each entry is
     joined to what stands under its key or comes last (`absorb_eq_merge`).

  3. **Collecting** — selections put together contribute the merged maps of what they contribute
     (`collect_append`).  So collecting is a walk through the selections that takes up, entry by
     entry, what each of them contributes to a map that begins empty (`collect_eq_foldl`).  This is
     where nesting is flattened: what a fragment contributes is itself a map from such a walk.

  4. **Conditions** — inside a condition the same entries come out, each conditional
     (`collect_true`), through all fragments and whatever held before.
-/
import QueryTypings.Proofs.Distinct
import QueryTypings.Proofs.Shape.Inlining
import QueryTypings.Proofs.Shape.Termination

namespace QueryTypings.Shape

open QueryTypings.Graphql QueryTypings.Schema

/-! ## What merging does -/

/-- An entry is known by its fields and its condition. -/
theorem Entry.eq_of_nodes {e e' : Entry} (hnodes : e.nodes = e'.nodes)
    (hconditional : e.conditional = e'.conditional) : e = e' := by
  obtain ⟨first, others, conditional⟩ := e
  obtain ⟨first', others', conditional'⟩ := e'
  obtain ⟨rfl, rfl⟩ := List.cons.inj hnodes
  cases hconditional
  rfl

namespace FieldMap

variable {a b m : FieldMap} {key : String} {e : Entry}

/-- No key stands twice. -/
abbrev Distinct (m : FieldMap) : Prop := (OrderedMap.keys m).Nodup

/-- The fields under a key; none where the key is missing. -/
def nodesAt (m : FieldMap) (key : String) : List FieldNode :=
  ((OrderedMap.get? key m).map Entry.nodes).getD []

/-- All that stands under a key depends on a condition. -/
def conditionalAt (m : FieldMap) (key : String) : Bool := (OrderedMap.get? key m).all Entry.conditional

/-- The map has the keys of two maps in the order of their first places, and under each key the
    fields of both, which depend on a condition if they do in both. -/
structure IsMerged (a b m : FieldMap) : Prop where
  keys : OrderedMap.keys m = (OrderedMap.keys a ++ OrderedMap.keys b).eraseDups
  nodes : ∀ key, m.nodesAt key = a.nodesAt key ++ b.nodesAt key
  conditional : ∀ key, m.conditionalAt key = (a.conditionalAt key && b.conditionalAt key)

theorem nodesAt_of_get? (h : OrderedMap.get? key m = some e) : m.nodesAt key = e.nodes := by
  rw [nodesAt, h]
  rfl

theorem conditionalAt_of_get? (h : OrderedMap.get? key m = some e) :
    m.conditionalAt key = e.conditional := by
  rw [conditionalAt, h]
  rfl

theorem nodesAt_merge (a b : FieldMap) (key : String) :
    (a.merge b).nodesAt key = a.nodesAt key ++ b.nodesAt key := by
  simp only [nodesAt, get?_merge, joined]
  cases OrderedMap.get? key a with
  | none => rfl
  | some x =>
      cases OrderedMap.get? key b with
      | none => exact (List.append_nil _).symm
      | some y => exact Entry.nodes_join x y

theorem conditionalAt_merge (a b : FieldMap) (key : String) :
    (a.merge b).conditionalAt key = (a.conditionalAt key && b.conditionalAt key) := by
  simp only [conditionalAt, get?_merge, joined]
  cases OrderedMap.get? key a with
  | none => rfl
  | some x =>
      cases OrderedMap.get? key b with
      | none => exact (Bool.and_true _).symm
      | some y => rfl

/-- The new keys come behind the old ones. -/
theorem keys_merge_eq_eraseDups (ha : a.Distinct) (hb : b.Distinct) :
    OrderedMap.keys (a.merge b) = (OrderedMap.keys a ++ OrderedMap.keys b).eraseDups := by
  have hnew : (OrderedMap.keys b).removeAll (OrderedMap.keys a)
      = (OrderedMap.keys b).filter fun k => (OrderedMap.get? k a).isNone := by
    refine List.filter_congr fun k _ => ?_
    rw [Bool.eq_iff_iff, Option.isNone_iff_eq_none, OrderedMap.get?_eq_none_iff]
    simp
  have hrest : ((OrderedMap.keys b).filter fun k => (OrderedMap.get? k a).isNone).Nodup :=
    hb.sublist List.filter_sublist
  rw [keys_merge, List.eraseDups_append, hnew, eraseDups_of_nodup ha, eraseDups_of_nodup hrest]

theorem isMerged_merge (ha : a.Distinct) (hb : b.Distinct) : IsMerged a b (a.merge b) where
  keys := keys_merge_eq_eraseDups ha hb
  nodes := nodesAt_merge a b
  conditional := conditionalAt_merge a b

/-- Two maps are the same if they have the same keys in order, and the same fields under each, with
    the same conditions. -/
theorem eq_of_nodesAt (ha : a.Distinct) (hkeys : OrderedMap.keys a = OrderedMap.keys b)
    (hnodes : ∀ key, a.nodesAt key = b.nodesAt key)
    (hconditional : ∀ key, a.conditionalAt key = b.conditionalAt key) : a = b := by
  refine OrderedMap.ext_of_keys ha hkeys fun key => ?_
  cases hx : OrderedMap.get? key a with
  | none =>
      have hmissing : key ∉ OrderedMap.keys b := hkeys ▸ OrderedMap.get?_eq_none_iff.mp hx
      exact (OrderedMap.get?_eq_none_iff.mpr hmissing).symm
  | some x =>
      cases hy : OrderedMap.get? key b with
      | none =>
          have hmissing : key ∉ OrderedMap.keys a := hkeys ▸ OrderedMap.get?_eq_none_iff.mp hy
          cases hx.symm.trans (OrderedMap.get?_eq_none_iff.mpr hmissing)
      | some y =>
          congr 1
          refine Entry.eq_of_nodes ?_ ?_
          · rw [← nodesAt_of_get? hx, ← nodesAt_of_get? hy, hnodes key]
          · rw [← conditionalAt_of_get? hx, ← conditionalAt_of_get? hy, hconditional key]

/-- **What merging does**, and that nothing else does it. -/
theorem eq_merge_iff (ha : a.Distinct) (hb : b.Distinct) : m = a.merge b ↔ IsMerged a b m := by
  constructor
  · rintro rfl
    exact isMerged_merge ha hb
  · intro h
    have hmerged := isMerged_merge ha hb
    have hdistinct : m.Distinct := by
      rw [Distinct, h.keys]
      exact nodup_eraseDups _
    refine eq_of_nodesAt hdistinct (h.keys.trans hmerged.keys.symm) (fun key => ?_) (fun key => ?_)
    · rw [h.nodes, hmerged.nodes]
    · rw [h.conditional, hmerged.conditional]

/-! ## Entry by entry -/

/-- Takes up an entry: joined to what stands under its key, or at the end. -/
def add (m : FieldMap) (p : String × Entry) : FieldMap :=
  OrderedMap.put p.1 (((OrderedMap.get? p.1 m).map fun x => x.join p.2).getD p.2) m

/-- Takes up the entries of a map, one after the other. -/
def absorb (a b : FieldMap) : FieldMap := b.foldl add a

theorem add_eq_merge (ha : a.Distinct) (p : String × Entry) : a.add p = a.merge [p] := by
  obtain ⟨k, e⟩ := p
  have hkeys : OrderedMap.keys (a.add (k, e)) = OrderedMap.keys (a.merge [(k, e)]) := by
    rw [add, OrderedMap.keys_put, keys_merge]
    by_cases hk : k ∈ OrderedMap.keys a
    · have hsome := mt OrderedMap.get?_eq_none_iff.mp (not_not_intro hk)
      rw [if_pos hk]
      simp [OrderedMap.keys, hsome]
    · have hnone := OrderedMap.get?_eq_none_iff.mpr hk
      rw [if_neg hk]
      simp [OrderedMap.keys, hnone]
  have hdistinct : (a.add (k, e)).Distinct := by
    rw [Distinct, hkeys]
    exact nodup_keys_merge ha (List.nodup_singleton k)
  refine OrderedMap.ext_of_keys hdistinct hkeys fun key => ?_
  rw [get?_merge, add]
  by_cases hk : key = k
  · subst hk
    rw [OrderedMap.get?_put_self]
    cases OrderedMap.get? key a <;> simp [joined, OrderedMap.get?]
  · rw [OrderedMap.get?_put_of_ne hk]
    cases OrderedMap.get? key a <;> simp [joined, OrderedMap.get?, Ne.symm hk]

/-- **Taking up a map entry by entry is merging it.** -/
theorem absorb_eq_merge (ha : a.Distinct) (hb : b.Distinct) : a.absorb b = a.merge b := by
  induction b generalizing a with
  | nil => exact (merge_nil a).symm
  | cons p r ih =>
      obtain ⟨hp, hr⟩ := List.nodup_cons.mp hb
      have hsingle : OrderedMap.keys [p] = [p.1] := rfl
      have hone : Distinct [p] := List.nodup_singleton p.1
      -- the entry is the first of the map, since the rest does not have its key
      have hcons : FieldMap.merge [p] r = p :: r := by
        have hget : OrderedMap.get? p.1 r = none := OrderedMap.get?_eq_none_iff.mpr hp
        have hrest : r.filter (fun q => (OrderedMap.get? q.1 [p]).isNone) = r := by
          refine List.filter_eq_self.mpr fun q hq => ?_
          rw [Option.isNone_iff_eq_none, OrderedMap.get?_eq_none_iff, hsingle,
            List.mem_singleton]
          intro heq
          exact hp (List.mem_map.mpr ⟨q, hq, heq⟩)
        rw [merge, hrest]
        simp [joined, hget]
      calc a.absorb (p :: r) = (a.add p).absorb r := rfl
        _ = (a.merge [p]).absorb r := by rw [add_eq_merge ha]
        _ = (a.merge [p]).merge r := ih (nodup_keys_merge ha hone) hr
        _ = a.merge (FieldMap.merge [p] r) := merge_assoc ha hone hr
        _ = a.merge (p :: r) := by rw [hcons]

end FieldMap

/-! ## Collecting -/

variable {g : Setting} {parent : NamedType}

theorem distinct_collect (g : Setting) (parent : NamedType) (c : Bool) (ss : List Selection) :
    (collect g.schema g.fragments parent c ss).Distinct := by
  rw [collect_eq_grouped]
  exact nodup_keys_grouped _

/-- **Selections put together contribute the merged maps.** -/
theorem collect_append (c : Bool) (ss ts : List Selection) :
    collect g.schema g.fragments parent c (ss ++ ts)
      = (collect g.schema g.fragments parent c ss).merge
          (collect g.schema g.fragments parent c ts) := by
  rw [collect_eq_grouped, collect_eq_grouped, collect_eq_grouped, occurrences_append,
    grouped_append]

/-- The walk through sets of selections: a map begins empty and takes up what each selection
    contributes; `fields` gives what nested selections contribute. -/
def walk (g : Setting) (parent : NamedType) (fields : Bool → List Selection → FieldMap) (c : Bool)
    (sets : List (List Selection)) : FieldMap :=
  sets.foldl (fun m ss => ss.foldl (fun m x => m.absorb (contribution g parent fields c x)) m) []

theorem contribution_eq_collect (ha : Acyclic g.fragments) (c : Bool) (x : Selection) :
    contribution g parent (collect g.schema g.fragments parent) c x
      = collect g.schema g.fragments parent c [x] := by
  rw [collect_eq_foldr ha, List.foldr_cons, List.foldr_nil, FieldMap.merge_nil]

/-- The walk goes on from what has been collected before. -/
theorem foldl_absorb_eq (ha : Acyclic g.fragments) (c : Bool) (ss : List Selection) :
    ∀ {m : FieldMap}, m.Distinct →
      ss.foldl (fun m x =>
          m.absorb (contribution g parent (collect g.schema g.fragments parent) c x)) m
        = m.merge (collect g.schema g.fragments parent c ss) := by
  induction ss with
  | nil =>
      intro m _
      exact (FieldMap.merge_nil m).symm
  | cons x r ih =>
      intro m hm
      have hx := distinct_collect g parent c [x]
      have hr := distinct_collect g parent c r
      rw [List.foldl_cons, contribution_eq_collect ha, FieldMap.absorb_eq_merge hm hx,
        ih (FieldMap.nodup_keys_merge hm hx), FieldMap.merge_assoc hm hx hr, ← collect_append,
        List.singleton_append]

/-- **Collecting is the walk**, with nested selections collected likewise. -/
theorem collect_eq_walk (ha : Acyclic g.fragments) (c : Bool) (sets : List (List Selection)) :
    collect g.schema g.fragments parent c sets.flatten
      = walk g parent (collect g.schema g.fragments parent) c sets := by
  have hempty : FieldMap.Distinct [] := List.nodup_nil
  rw [walk, ← List.foldl_flatten, foldl_absorb_eq ha c sets.flatten hempty, FieldMap.nil_merge]

/-! ## Conditions -/

/-- The same fields under a condition. -/
def Entry.conditioned (e : Entry) : Entry := ⟨e.first, e.others, true⟩

namespace FieldMap

/-- The same entries, all conditional. -/
def conditioned (m : FieldMap) : FieldMap := m.map fun p => (p.1, p.2.conditioned)

theorem get?_conditioned (m : FieldMap) (key : String) :
    OrderedMap.get? key m.conditioned = (OrderedMap.get? key m).map Entry.conditioned :=
  OrderedMap.get?_mapValues (fun (_ : String) (e : Entry) => e.conditioned) key m

theorem conditioned_merge (a b : FieldMap) :
    (a.merge b).conditioned = a.conditioned.merge b.conditioned := by
  have hjoined : ∀ key e, (joined b key e).conditioned
      = joined b.conditioned key e.conditioned := by
    intro key e
    rw [joined, joined, get?_conditioned]
    cases OrderedMap.get? key b <;> rfl
  have hnew : ∀ key, (OrderedMap.get? key a).isNone
      = (OrderedMap.get? key a.conditioned).isNone := by
    intro key
    rw [get?_conditioned, Option.isNone_map]
  simp only [merge, conditioned, List.map_append, List.map_map, List.filter_map]
  congr 1
  · refine List.map_congr_left fun p _ => ?_
    exact congrArg (Prod.mk p.1) (hjoined p.1 p.2)
  · congr 1
    exact List.filter_congr fun p _ => hnew p.1

end FieldMap

section Conditioned

variable {s : Schema} {expand : String → Bool → FieldMap}

mutual

theorem collectSelection_true (h : ∀ n c, expand n true = (expand n c).conditioned) :
    ∀ (c : Bool) (x : Selection), collectSelection s parent expand true x
      = (collectSelection s parent expand c x).conditioned
  | _, .leaf _ => rfl
  | _, .branch _ _ _ => rfl
  | c, .inline t ds p o ss => by
      rw [collectSelection, collectSelection, Bool.true_or]
      split
      · exact collectSelections_true h _ ss
      · rfl
  | c, .spread n ds p => by
      rw [collectSelection, collectSelection, Bool.true_or]
      exact h n.text _

theorem collectSelections_true (h : ∀ n c, expand n true = (expand n c).conditioned) :
    ∀ (c : Bool) (ss : List Selection), collectSelections s parent expand true ss
      = (collectSelections s parent expand c ss).conditioned
  | _, [] => rfl
  | c, x :: r => by
      rw [collectSelections, collectSelections, FieldMap.conditioned_merge,
        collectSelection_true h c x, collectSelections_true h c r]

end

end Conditioned

theorem collectFragment_true (fuel : Nat) (n : String) (c : Bool) :
    collectFragment g.schema g.fragments parent fuel n true
      = (collectFragment g.schema g.fragments parent fuel n c).conditioned := by
  induction fuel generalizing n c with
  | zero => rfl
  | succ fuel ih =>
      rw [collectFragment, collectFragment]
      cases OrderedMap.get? n g.fragments with
      | none => rfl
      | some f =>
          dsimp only
          split
          · exact collectSelections_true ih c f.selections
          · rfl

/-- **Inside a condition the same entries come out, all conditional.** -/
theorem collect_true (c : Bool) (ss : List Selection) :
    collect g.schema g.fragments parent true ss
      = (collect g.schema g.fragments parent c ss).conditioned :=
  collectSelections_true (collectFragment_true _) c ss

/-! ## Merging and collecting -/

/-- **Field maps are a monoid, and collecting leads to it from lists.**  Merging is associative, and
    the empty map leaves others as they are; the merged map is the one with the keys of both in the
    order of their first places, the fields of both under each key, and a condition only where both
    have one, and the entries may as well be taken up one by one.  What sets of selections put
    together contribute is merged from what they contribute; and inside a condition the same entries
    come out, all conditional.  Where fragments do not lead back to themselves, collecting is the
    walk through the sets. -/
theorem collecting_merges (g : Setting) (parent : NamedType) (c : Bool) :
    (∀ a b d : FieldMap, a.Distinct → b.Distinct → d.Distinct →
        (a.merge b).merge d = a.merge (b.merge d)
          ∧ FieldMap.merge [] a = a ∧ a.merge [] = a
          ∧ (a.merge b).Distinct
          ∧ (∀ m, m = a.merge b ↔ FieldMap.IsMerged a b m)
          ∧ a.absorb b = a.merge b)
      ∧ (∀ sets more : List (List Selection),
          collect g.schema g.fragments parent c (sets ++ more).flatten
            = (collect g.schema g.fragments parent c sets.flatten).merge
                (collect g.schema g.fragments parent c more.flatten))
      ∧ (∀ sets : List (List Selection), collect g.schema g.fragments parent true sets.flatten
          = (collect g.schema g.fragments parent c sets.flatten).conditioned)
      ∧ (Acyclic g.fragments → ∀ sets : List (List Selection),
          collect g.schema g.fragments parent c sets.flatten
            = walk g parent (collect g.schema g.fragments parent) c sets) := by
  refine ⟨fun a b d ha hb hd => ?_, fun sets more => ?_, fun sets => ?_, fun hacyclic sets => ?_⟩
  · exact ⟨FieldMap.merge_assoc ha hb hd, FieldMap.nil_merge a, FieldMap.merge_nil a,
      FieldMap.nodup_keys_merge ha hb, fun _ => FieldMap.eq_merge_iff ha hb,
      FieldMap.absorb_eq_merge ha hb⟩
  · rw [List.flatten_append]
    exact collect_append c sets.flatten more.flatten
  · exact collect_true c sets.flatten
  · exact collect_eq_walk hacyclic c sets

/-! ## A fragment spread with and without a condition -/

section Nested

open QueryTypings.Execution QueryTypings.Declaration

/-- Pairs, and the fragments `Texts`, with both texts, and `Last`, with the last one. -/
def nestedSetting : Setting := settingOf sharedKey.schema [] nestedDocument

/-- The selections `...Texts @include(if: $more)`. -/
def textsUnderCondition : List Selection := [.spread ⟨"Texts", .first⟩ [includeMore] .first]

/-- What the selections of `Texts` contribute under the condition. -/
def textsMap : FieldMap :=
  [("x", ⟨⟨bareField "x", []⟩, [], true⟩), ("y", ⟨⟨bareField "y", []⟩, [], true⟩)]

/-- What the selections of `Last` contribute. -/
def lastMap : FieldMap := [("y", ⟨⟨bareField "y", []⟩, [], false⟩)]

/-- The last text is asked for twice, and only once under the condition. -/
def lastTwice : Entry := ⟨⟨bareField "y", []⟩, [⟨bareField "y", []⟩], false⟩

theorem collecting_merges_nested :
    textsMap.Distinct ∧ lastMap.Distinct ∧ Acyclic nestedSetting.fragments
      ∧ (lastMap.merge textsMap).merge lastMap = lastMap.merge (textsMap.merge lastMap)
      ∧ FieldMap.IsMerged textsMap lastMap
          [("x", ⟨⟨bareField "x", []⟩, [], true⟩), ("y", lastTwice)]
      ∧ walk nestedSetting pairType
            (collect nestedSetting.schema nestedSetting.fragments pairType) false
            ([textsUnderCondition] ++ [[bareSpread "Last"]])
          = textsMap.merge lastMap
      ∧ collect nestedSetting.schema nestedSetting.fragments pairType true [bareSpread "Last"]
          = lastMap.conditioned := by
  have htexts : textsMap.Distinct := by decide
  have hlast : lastMap.Distinct := by decide
  obtain ⟨hmonoid, happend, htrue, hwalk⟩ := collecting_merges nestedSetting pairType false
  obtain ⟨hassoc, -⟩ := hmonoid lastMap textsMap lastMap hlast htexts hlast
  obtain ⟨-, -, -, -, hmerged, -⟩ := hmonoid textsMap lastMap [] htexts hlast List.nodup_nil
  refine ⟨htexts, hlast, acyclic_nestedDocument, hassoc, (hmerged _).mp rfl, ?_, ?_⟩
  · rw [← hwalk acyclic_nestedDocument, happend]
    rfl
  · exact htrue [[bareSpread "Last"]]

end Nested

end QueryTypings.Shape
