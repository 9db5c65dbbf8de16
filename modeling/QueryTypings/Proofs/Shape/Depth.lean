/-
  Fragments that do not lead back to themselves, and how deep fields are nested.

  1. **Circles and ranks** — `Acyclic`: no fragment spreads itself, directly or through others, at
     any depth of fields and inline fragments.  The number of fragments that can be reached gives
     every fragment a rank, and what a fragment spreads ranks below it (`exists_ranks`).  No rank
     exceeds the number of fragments.  Conversely ranks rule out circles (`acyclic_of_lt`), which is
     how a given document is shown to have none.

  2. **Opening a fragment** — a chain of fragments, each opened inside the one before, goes down in
     rank, so it ends before its fuel does: what a fragment leads to is what its own selections lead
     to (`opened_eq`).

  3. **Depth** — `Within g d ss`: below `ss` fields are nested at most `d` deep, fragments opened.
     It depends on what is met only, so selections that are put together are as deep as the deepest
     of them (`within_flatMap`); their number does not matter.

  4. **The bound** — every level passes another field of the selections or of a fragment.  The
     measure is the number of fields in the selections plus those in all fragments of rank below a
     bound, where the selections spread only such fragments; going down one level makes it smaller
     (`smaller_of_met`).

  5. **Enough fuel** — above the depth, more fuel makes no difference to the type of an object
     (`objectType_fuel`), and the type is never missing for want of fuel (`objectType_ends`).
-/
import QueryTypings.Proofs.Shape.Expansion
import Mathlib.Data.Finset.Card
import Mathlib.Logic.Relation

namespace QueryTypings.Shape

open QueryTypings.Graphql QueryTypings.Schema Relation QueryTypings.Typescript
  QueryTypings.Declaration

/-! ## Circles and ranks -/

/-- The fragment of one name spreads that of another, at any depth of its selections. -/
def SpreadsTo (fragments : OrderedMap Fragment) (n m : String) : Prop :=
  ∃ f, OrderedMap.get? n fragments = some f ∧ m ∈ spreads f.selections

/-- No fragment leads back to itself. -/
def Acyclic (fragments : OrderedMap Fragment) : Prop :=
  ∀ n, ¬ TransGen (SpreadsTo fragments) n n

/-- Numbers for fragments that go down along spreads.  A fragment that is there has a number of at
    least one, so a chain of fragments is no longer than the number of the first. -/
structure Ranks (fragments : OrderedMap Fragment) (rank : String → Nat) : Prop where
  pos : ∀ {n f}, OrderedMap.get? n fragments = some f → 0 < rank n
  lt : ∀ {n m}, SpreadsTo fragments n m → rank m < rank n
  le : ∀ n, rank n ≤ fragments.length

variable {fragments : OrderedMap Fragment} {rank : String → Nat}

theorem lt_of_transGen (h : ∀ n m, SpreadsTo fragments n m → rank m < rank n) {n m : String}
    (hnm : TransGen (SpreadsTo fragments) n m) : rank m < rank n := by
  induction hnm with
  | single hstep => exact h _ _ hstep
  | tail _ hstep ih => exact Nat.lt_trans (h _ _ hstep) ih

/-- Numbers that go down along spreads leave no room for a circle. -/
theorem acyclic_of_lt (rank : String → Nat)
    (h : ∀ n m, SpreadsTo fragments n m → rank m < rank n) : Acyclic fragments :=
  fun _ hn => Nat.lt_irrefl _ (lt_of_transGen h hn)

open Classical in
/-- The names of fragments that can be reached from a fragment. -/
noncomputable def reachable (fragments : OrderedMap Fragment) (n : String) : Finset String :=
  (OrderedMap.keys fragments).toFinset.filter fun m => TransGen (SpreadsTo fragments) n m

theorem mem_reachable {n m : String} :
    m ∈ reachable fragments n
      ↔ m ∈ OrderedMap.keys fragments ∧ TransGen (SpreadsTo fragments) n m := by
  simp [reachable]

theorem mem_keys_of_get? {n : String} {f : Fragment}
    (h : OrderedMap.get? n fragments = some f) : n ∈ OrderedMap.keys fragments := by
  by_contra hn
  rw [OrderedMap.get?_eq_none_iff.mpr hn] at h
  cases h

/-- Going along a spread leaves fewer fragments to be reached. -/
theorem card_reachable_lt (h : Acyclic fragments) {n m : String}
    (hm : m ∈ OrderedMap.keys fragments) (hnm : SpreadsTo fragments n m) :
    (reachable fragments m).card < (reachable fragments n).card := by
  refine Finset.card_lt_card ⟨fun k hk => ?_, fun hsub => ?_⟩
  · obtain ⟨hkeys, hmk⟩ := mem_reachable.mp hk
    exact mem_reachable.mpr ⟨hkeys, TransGen.head hnm hmk⟩
  · exact h m (mem_reachable.mp (hsub (mem_reachable.mpr ⟨hm, TransGen.single hnm⟩))).2

theorem card_reachable_lt_length (h : Acyclic fragments) {n : String}
    (hn : n ∈ OrderedMap.keys fragments) : (reachable fragments n).card < fragments.length := by
  have hlt : (reachable fragments n).card < (OrderedMap.keys fragments).toFinset.card := by
    refine Finset.card_lt_card ⟨fun k hk => ?_, fun hsub => ?_⟩
    · exact List.mem_toFinset.mpr (mem_reachable.mp hk).1
    · exact h n (mem_reachable.mp (hsub (List.mem_toFinset.mpr hn))).2
  have hle := List.toFinset_card_le (OrderedMap.keys fragments)
  have hlen : (OrderedMap.keys fragments).length = fragments.length := by
    simp [OrderedMap.keys]
  omega

/-- **Without circles there are ranks.** -/
theorem exists_ranks (h : Acyclic fragments) : ∃ rank, Ranks fragments rank := by
  classical
  refine ⟨fun n => if n ∈ OrderedMap.keys fragments then (reachable fragments n).card + 1 else 0,
    ⟨fun hf => ?_, fun hnm => ?_, fun n => ?_⟩⟩
  · simp [mem_keys_of_get? hf]
  · have hn := mem_keys_of_get? hnm.choose_spec.1
    rw [if_pos hn]
    split
    · rename_i hm
      have := card_reachable_lt h hm hnm
      omega
    · omega
  · split
    · rename_i hn
      have := card_reachable_lt_length h hn
      omega
    · exact Nat.zero_le _

/-! ## Opening a fragment -/

variable {g : Setting} {parent : NamedType} {keeps : Selection → Bool}

section Congruence

variable {expand expand' : String → Bool → List Occurrence}

mutual

/-- What a selection leads to depends on the fragments that it spreads, and on no other. -/
theorem occurrencesOf_congr (conditional : Bool) : ∀ x : Selection,
    (∀ n ∈ x.spreads, expand n = expand' n) →
      occurrencesOf g parent keeps expand conditional x
        = occurrencesOf g parent keeps expand' conditional x
  | .leaf f, _ => rfl
  | .branch f o ss, _ => rfl
  | .inline c ds p o ss, h => by
      rw [occurrencesOf, occurrencesOf, occurrencesIn_congr _ ss h]
  | .spread n ds p, h => by
      rw [occurrencesOf, occurrencesOf, h n.text (List.mem_singleton.mpr rfl)]

theorem occurrencesIn_congr (conditional : Bool) : ∀ ss : List Selection,
    (∀ n ∈ spreads ss, expand n = expand' n) →
      occurrencesIn g parent keeps expand conditional ss
        = occurrencesIn g parent keeps expand' conditional ss
  | [], _ => rfl
  | x :: r, h => by
      rw [occurrencesIn, occurrencesIn,
        occurrencesOf_congr conditional x fun n hn => h n (List.mem_append_left _ hn),
        occurrencesIn_congr conditional r fun n hn => h n (List.mem_append_right _ hn)]

end

end Congruence

/-- More fuel than a fragment's rank changes nothing. -/
theorem occurrencesOfFragment_congr (hr : Ranks g.fragments rank) (fuel fuel' : Nat) (n : String)
    (h : rank n ≤ fuel) (h' : rank n ≤ fuel') :
    occurrencesOfFragment g parent keeps fuel n = occurrencesOfFragment g parent keeps fuel' n := by
  induction fuel generalizing fuel' n with
  | zero =>
      have hnone : OrderedMap.get? n g.fragments = none := by
        cases hf : OrderedMap.get? n g.fragments with
        | none => rfl
        | some f => have := hr.pos hf; omega
      funext conditional
      cases fuel' with
      | zero => rfl
      | succ fuel' => rw [occurrencesOfFragment, occurrencesOfFragment, hnone]
  | succ fuel ih =>
      funext conditional
      cases hf : OrderedMap.get? n g.fragments with
      | none => cases fuel' <;> simp [occurrencesOfFragment, hf]
      | some f =>
          cases fuel' with
          | zero => have := hr.pos hf; omega
          | succ fuel' =>
              have hcongr : ∀ m ∈ spreads f.selections,
                  occurrencesOfFragment g parent keeps fuel m
                    = occurrencesOfFragment g parent keeps fuel' m := by
                intro m hm
                have hlt := hr.lt ⟨f, hf, hm⟩
                exact ih fuel' m (by omega) (by omega)
              rw [occurrencesOfFragment, occurrencesOfFragment, hf]
              simp only [occurrencesIn_congr conditional f.selections hcongr]

/-- What the fragment of a given name leads to. -/
def opened (g : Setting) (parent : NamedType) (keeps : Selection → Bool) :
    String → Bool → List Occurrence :=
  occurrencesOfFragment g parent keeps g.fragments.length

theorem occurrences_cons (conditional : Bool) (x : Selection) (r : List Selection) :
    occurrences g parent keeps conditional (x :: r)
      = occurrencesOf g parent keeps (opened g parent keeps) conditional x
        ++ occurrences g parent keeps conditional r := rfl

/-- **A fragment leads to what its selections lead to**, if it applies. -/
theorem opened_eq (h : Acyclic g.fragments) (n : String) (conditional : Bool) :
    opened g parent keeps n conditional
      = match OrderedMap.get? n g.fragments with
        | none => []
        | some f =>
            if applies g.schema parent f.condition.text then
              occurrences g parent keeps conditional f.selections
            else [] := by
  obtain ⟨rank, hr⟩ := exists_ranks h
  have hle := hr.le n
  rw [opened, occurrencesOfFragment_congr hr _ (g.fragments.length + 1) n hle (by omega),
    occurrencesOfFragment]
  rfl

/-- The fields that are met in a selection. -/
def fieldsMetAt (g : Setting) (parent : NamedType) (keeps : Selection → Bool) (x : Selection) :
    List FieldNode :=
  (occurrencesOf g parent keeps (opened g parent keeps) false x).map Occurrence.node

/-- The fields that are met in a fragment. -/
def fieldsMetBy (g : Setting) (parent : NamedType) (keeps : Selection → Bool) (n : String) :
    List FieldNode :=
  (opened g parent keeps n false).map Occurrence.node

theorem fieldsMet_cons (x : Selection) (r : List Selection) :
    fieldsMet g parent keeps (x :: r)
      = fieldsMetAt g parent keeps x ++ fieldsMet g parent keeps r := by
  rw [fieldsMet, occurrences_cons, List.map_append]
  rfl

theorem fieldsMetAt_inline (c : Option Name) (ds : List Directive) (p o : Position)
    (ss : List Selection) :
    fieldsMetAt g parent keeps (.inline c ds p o ss)
      = if keeps (.inline c ds p o ss)
          && (c.map fun n => applies g.schema parent n.text).getD true
        then fieldsMet g parent keeps ss else [] := by
  rw [fieldsMetAt, occurrencesOf]
  split
  · exact map_node_occurrences _ _ ss
  · rfl

theorem fieldsMetAt_spread (n : Name) (ds : List Directive) (p : Position) :
    fieldsMetAt g parent keeps (.spread n ds p)
      = if keeps (.spread n ds p) then fieldsMetBy g parent keeps n.text else [] := by
  rw [fieldsMetAt, occurrencesOf]
  split
  · exact map_node_occurrencesOfFragment _ _ _ _
  · rfl

theorem fieldsMetBy_eq (h : Acyclic g.fragments) (n : String) :
    fieldsMetBy g parent keeps n
      = match OrderedMap.get? n g.fragments with
        | none => []
        | some f =>
            if applies g.schema parent f.condition.text then fieldsMet g parent keeps f.selections
            else [] := by
  rw [fieldsMetBy, opened_eq h]
  cases OrderedMap.get? n g.fragments with
  | none => rfl
  | some f =>
      dsimp only
      split <;> rfl

/-! ## Depth -/

/-- Below the selections fields are nested to at most the given depth. -/
def Within (g : Setting) : Nat → List Selection → Prop
  | 0, ss => ∀ parent, fieldsMet g parent keepsAll ss = []
  | d + 1, ss => ∀ parent, ∀ n ∈ fieldsMet g parent keepsAll ss, Within g d n.selections

variable {g : Setting}

/-- Selections that are put together are as deep as each of them. -/
theorem within_flatMap {α : Type} {d : Nat} {f : α → List Selection} {xs : List α}
    (h : ∀ x ∈ xs, Within g d (f x)) : Within g d (xs.flatMap f) := by
  cases d with
  | zero =>
      intro parent
      rw [fieldsMet_flatMap, List.flatMap_eq_nil_iff]
      exact fun x hx => h x hx parent
  | succ d =>
      intro parent n hn
      rw [fieldsMet_flatMap] at hn
      obtain ⟨x, hx, hnx⟩ := List.mem_flatMap.mp hn
      exact h x hx parent n hnx

/-- An entry of what is collected goes one level less deep. -/
theorem within_of_mem_collect {d : Nat} {ss : List Selection} (h : Within g d ss)
    {parent : NamedType} {key : String} {e : Entry}
    (he : (key, e) ∈ collect g.schema g.fragments parent false ss) :
    ∃ d', d = d' + 1 ∧ Within g d' e.selections := by
  rw [collect_eq_grouped] at he
  have hmet : ∀ n ∈ e.nodes, n ∈ fieldsMet g parent keepsAll ss := by
    intro n hn
    rw [nodes_of_mem_grouped he, map_node_withKey] at hn
    exact List.mem_of_mem_filter hn
  cases d with
  | zero =>
      have hfirst := hmet e.first List.mem_cons_self
      rw [h parent] at hfirst
      cases hfirst
  | succ d => exact ⟨d, rfl, within_flatMap fun n hn => h parent n (hmet n hn)⟩

/-! ## The bound -/

section Bound

variable {rank : String → Nat} {parent : NamedType} {keeps : Selection → Bool}

/-- The number of fields in the fragments of rank below a bound. -/
def weightBelow (rank : String → Nat) (bound : Nat) : OrderedMap Fragment → Nat
  | [] => 0
  | (n, f) :: r =>
      (if rank n < bound then fieldCounts f.selections else 0) + weightBelow rank bound r

theorem weightBelow_le (rank : String → Nat) {bound bound' : Nat} (h : bound ≤ bound')
    (m : OrderedMap Fragment) :
    weightBelow rank bound m ≤ weightBelow rank bound' m := by
  induction m with
  | nil => exact Nat.le_refl 0
  | cons p r ih =>
      obtain ⟨n, f⟩ := p
      rw [weightBelow, weightBelow]
      by_cases hn : rank n < bound
      · rw [if_pos hn, if_pos (by omega)]
        omega
      · rw [if_neg hn]
        omega

/-- A fragment counts beside those of lower rank. -/
theorem fieldCounts_add_weightBelow_le (rank : String → Nat) {n : String} {f : Fragment}
    {m : OrderedMap Fragment} (hf : (n, f) ∈ m) :
    fieldCounts f.selections + weightBelow rank (rank n) m ≤ weightBelow rank (rank n + 1) m := by
  induction m with
  | nil => cases hf
  | cons p r ih =>
      rcases List.mem_cons.mp hf with rfl | hr
      · have hle := weightBelow_le rank (Nat.le_add_right (rank n) 1) r
        rw [weightBelow, weightBelow, if_neg (Nat.lt_irrefl _), if_pos (Nat.lt_succ_self _)]
        omega
      · obtain ⟨k, f'⟩ := p
        have hrest := ih hr
        rw [weightBelow, weightBelow]
        by_cases hk : rank k < rank n
        · rw [if_pos hk, if_pos (by omega)]
          omega
        · rw [if_neg hk]
          omega

/-- A bound that is above all ranks leaves no fragment out.  The sum is taken from the left, so the
    induction carries along what was added up before. -/
theorem add_weightBelow_of_lt {bound : Nat} {m : OrderedMap Fragment} (h : ∀ n, rank n < bound)
    (before : Nat) :
    before + weightBelow rank bound m
      = (m.map fun p => fieldCounts p.2.selections).foldl (· + ·) before := by
  induction m generalizing before with
  | nil => rfl
  | cons p r ih =>
      obtain ⟨n, f⟩ := p
      rw [weightBelow, if_pos (h n), List.map_cons, List.foldl_cons, ← ih, Nat.add_assoc]

/-- What is selected of a field measures less than a given number. -/
def Smaller (g : Setting) (rank : String → Nat) (measure : Nat) (n : FieldNode) : Prop :=
  ∃ bound, (∀ m ∈ spreads n.selections, rank m < bound)
    ∧ fieldCounts n.selections + weightBelow rank bound g.fragments < measure

theorem Smaller.mono {measure measure' : Nat} {n : FieldNode} (h : Smaller g rank measure n)
    (hle : measure ≤ measure') : Smaller g rank measure' n := by
  obtain ⟨bound, hs, hlt⟩ := h
  exact ⟨bound, hs, by omega⟩

section Selections

variable {bound : Nat}

mutual

theorem smaller_of_metAt (hfrag : ∀ m, rank m < bound → ∀ n ∈ fieldsMetBy g parent keeps m,
      Smaller g rank (weightBelow rank bound g.fragments) n) :
    ∀ (x : Selection), (∀ m ∈ x.spreads, rank m < bound) →
      ∀ n ∈ fieldsMetAt g parent keeps x,
        Smaller g rank (fieldCount x + weightBelow rank bound g.fragments) n
  | .leaf f, _, n, hn => by
      rw [fieldsMetAt, occurrencesOf] at hn
      split at hn
      · obtain rfl : n = ⟨f, []⟩ := by simpa using hn
        refine ⟨bound, fun m hm => (by cases hm), ?_⟩
        show 0 + _ < 1 + _
        omega
      · cases hn
  | .branch f o ss, hs, n, hn => by
      rw [fieldsMetAt, occurrencesOf] at hn
      split at hn
      · obtain rfl : n = ⟨f, ss⟩ := by simpa using hn
        refine ⟨bound, hs, ?_⟩
        show fieldCounts ss + _ < fieldCounts ss + 1 + _
        omega
      · cases hn
  | .inline c ds p o ss, hs, n, hn => by
      rw [fieldsMetAt_inline] at hn
      split at hn
      · exact smaller_of_met hfrag ss hs n hn
      · cases hn
  | .spread m ds p, hs, n, hn => by
      rw [fieldsMetAt_spread] at hn
      split at hn
      · exact (hfrag m.text (hs _ (List.mem_singleton.mpr rfl)) n hn).mono (by omega)
      · cases hn

/-- Going down one level makes the measure smaller. -/
theorem smaller_of_met (hfrag : ∀ m, rank m < bound → ∀ n ∈ fieldsMetBy g parent keeps m,
      Smaller g rank (weightBelow rank bound g.fragments) n) :
    ∀ (ss : List Selection), (∀ m ∈ spreads ss, rank m < bound) →
      ∀ n ∈ fieldsMet g parent keeps ss,
        Smaller g rank (fieldCounts ss + weightBelow rank bound g.fragments) n
  | [], _, n, hn => by cases hn
  | x :: r, hs, n, hn => by
      rw [fieldsMet_cons] at hn
      rcases List.mem_append.mp hn with hx | hr
      · refine (smaller_of_metAt hfrag x (fun m hm => hs m (List.mem_append_left _ hm)) n hx).mono ?_
        show _ ≤ fieldCount x + fieldCounts r + _
        omega
      · refine (smaller_of_met hfrag r (fun m hm => hs m (List.mem_append_right _ hm)) n hr).mono ?_
        show _ ≤ fieldCount x + fieldCounts r + _
        omega

end

end Selections

/-- Going down from a fragment leads below the weight of the fragments up to its rank. -/
theorem smaller_of_metBy (h : Acyclic g.fragments) (hr : Ranks g.fragments rank) (bound : Nat) :
    ∀ m, rank m < bound → ∀ n ∈ fieldsMetBy g parent keeps m,
      Smaller g rank (weightBelow rank bound g.fragments) n := by
  induction bound using Nat.strong_induction_on with
  | _ bound ih =>
      intro m hm n hn
      rw [fieldsMetBy_eq h] at hn
      cases hf : OrderedMap.get? m g.fragments with
      | none => simp [hf] at hn
      | some f =>
          simp only [hf] at hn
          split at hn
          · have hbody := smaller_of_met (ih (rank m) hm) f.selections
              (fun k hk => hr.lt ⟨f, hf, hk⟩) n hn
            have hcount := fieldCounts_add_weightBelow_le rank (OrderedMap.mem_of_get? hf)
            have hmono := weightBelow_le rank (show rank m + 1 ≤ bound from hm) g.fragments
            exact hbody.mono (by omega)
          · cases hn

theorem within_of_measure (h : Acyclic g.fragments) (hr : Ranks g.fragments rank) (d : Nat) :
    ∀ bound ss, (∀ m ∈ spreads ss, rank m < bound) →
      fieldCounts ss + weightBelow rank bound g.fragments ≤ d → Within g d ss := by
  induction d with
  | zero =>
      intro bound ss hs hle parent
      refine List.eq_nil_iff_forall_not_mem.mpr fun n hn => ?_
      obtain ⟨_, _, hlt⟩ := smaller_of_met (smaller_of_metBy h hr bound) ss hs n hn
      omega
  | succ d ih =>
      intro bound ss hs hle parent n hn
      obtain ⟨bound', hs', hlt⟩ := smaller_of_met (smaller_of_metBy h hr bound) ss hs n hn
      exact ih bound' n.selections hs' (by omega)

end Bound

/-- **Fields are nested less deep than the bound says.** -/
theorem exists_within (h : Acyclic g.fragments) (ss : List Selection) :
    ∃ d, d < depthBound g ss ∧ Within g d ss := by
  obtain ⟨rank, hr⟩ := exists_ranks h
  have hlt : ∀ n, rank n < g.fragments.length + 1 := fun n => Nat.lt_succ_of_le (hr.le n)
  refine ⟨fieldCounts ss + weightBelow rank (g.fragments.length + 1) g.fragments, ?_,
    within_of_measure h hr _ _ ss (fun n _ => hlt n) (Nat.le_refl _)⟩
  rw [depthBound, ← add_weightBelow_of_lt hlt, Nat.zero_add]
  exact Nat.lt_succ_self _

/-! ## Enough fuel -/

theorem mapM_congr {α β ε : Type} {f f' : α → Except ε β} {xs : List α}
    (h : ∀ x ∈ xs, f x = f' x) : xs.mapM f = xs.mapM f' := by
  induction xs with
  | nil => rfl
  | cons x r ih =>
      rw [List.mapM_cons, List.mapM_cons, h x List.mem_cons_self,
        ih fun y hy => h y (List.mem_cons_of_mem _ hy)]

/-- The member for a key depends on the first field, on whether there is a condition, and on the
    types of what is selected. -/
theorem keyMember_congr {object object' : List Selection → NamedType → Except Fault Ty}
    {e e' : Entry} (hfirst : e.first = e'.first) (hcond : e.conditional = e'.conditional)
    (hobject : object e.selections = object' e'.selections) (parent : NamedType) (key : String) :
    keyMember g object parent key e = keyMember g object' parent key e' := by
  simp only [keyMember, Entry.fieldName, hfirst, hcond, hobject]
  rfl

/-- **Above the depth fuel makes no difference.** -/
theorem objectType_fuel (fuel : Nat) :
    ∀ {d fuel' : Nat} {ss : List Selection}, Within g d ss → d < fuel → d < fuel' →
      ∀ typename parent,
        objectType g fuel typename ss parent = objectType g fuel' typename ss parent := by
  induction fuel with
  | zero => intro d fuel' ss _ hlt; omega
  | succ fuel ih =>
      intro d fuel' ss hw hlt hlt' typename parent
      obtain ⟨fuel', rfl⟩ : ∃ k, fuel' = k + 1 := ⟨fuel' - 1, by omega⟩
      have hmembers : ∀ p ∈ collect g.schema g.fragments parent false ss,
          keyMember g (objectType g fuel true) parent p.1 p.2
            = keyMember g (objectType g fuel' true) parent p.1 p.2 := by
        intro p hp
        obtain ⟨d', rfl, hdeeper⟩ := within_of_mem_collect hw hp
        refine keyMember_congr rfl rfl (funext fun t => ?_) parent p.1
        exact ih hdeeper (by omega) (by omega) true t
      simp only [objectType, mapM_congr hmembers]

/-- The result is not missing for want of fuel. -/
def Ends {α : Type} (x : Except Fault α) : Prop := x ≠ .error .endless

theorem ends_bind {α β : Type} {x : Except Fault α} {f : α → Except Fault β} (hx : Ends x)
    (hf : ∀ a, Ends (f a)) : Ends (x >>= f) := by
  cases x with
  | error e => exact fun h => hx (by injection h with h; rw [h])
  | ok a => exact hf a

theorem ends_ok {α : Type} (a : α) : Ends (.ok a) := fun h => by cases h

theorem ends_mapM {α β : Type} {f : α → Except Fault β} {xs : List α}
    (h : ∀ x ∈ xs, Ends (f x)) : Ends (xs.mapM f) := by
  induction xs with
  | nil => exact ends_ok []
  | cons x r ih =>
      rw [List.mapM_cons]
      refine ends_bind (h x List.mem_cons_self) fun a => ?_
      exact ends_bind (ih fun y hy => h y (List.mem_cons_of_mem _ hy)) fun b => ends_ok _

theorem ends_wrapped {s : Schema} {ofNamed : NamedType → Except Fault Ty}
    (h : ∀ t, Ends (ofNamed t)) (t : TypeRef) : Ends (wrapped s ofNamed t) := by
  induction t with
  | nonNull t ih => exact ih
  | list t ih => exact ends_bind ih fun a => ends_ok _
  | named n =>
      rw [wrapped]
      cases s.type? n with
      | none => exact fun h => by cases h
      | some t => exact h t

theorem ends_selectionType {object : NamedType → Except Fault Ty} (h : ∀ t, Ends (object t))
    (t : NamedType) : Ends (selectionType g object t) := by
  rw [selectionType]
  cases t.parts with
  | scalar => exact ends_ok _
  | enum _ => exact ends_ok _
  | input _ _ => exact ends_ok _
  | object _ _ => exact h t
  | interface _ _ => exact ends_bind (ends_mapM fun t _ => h t) fun a => ends_ok _
  | union _ => exact ends_bind (ends_mapM fun t _ => h t) fun a => ends_ok _

theorem ends_keyMember {object : List Selection → NamedType → Except Fault Ty} {e : Entry}
    (h : ∀ t, Ends (object e.selections t)) (parent : NamedType) (key : String) :
    Ends (keyMember g object parent key e) := by
  rw [keyMember]
  split
  · exact ends_ok _
  · cases parent.field? e.fieldName with
    | none => exact fun h => by cases h
    | some f => exact ends_bind (ends_wrapped (ends_selectionType h) f.type) fun a => ends_ok _

/-- **Above the depth there is always an answer.** -/
theorem objectType_ends (fuel : Nat) :
    ∀ {d : Nat} {ss : List Selection}, Within g d ss → d < fuel →
      ∀ typename parent, Ends (objectType g fuel typename ss parent) := by
  induction fuel with
  | zero => intro d ss _ hlt; omega
  | succ fuel ih =>
      intro d ss hw hlt typename parent
      rw [objectType]
      refine ends_bind (ends_mapM fun p hp => ?_) fun members => ends_ok _
      obtain ⟨d', rfl, hdeeper⟩ := within_of_mem_collect hw hp
      exact ends_keyMember (ih hdeeper (by omega) true) parent p.1

end QueryTypings.Shape
