/-
  Fragments without circles among the issues do not lead back to themselves.

  1. **Spreads in order** — the spreads that the rule follows are those that stand in selections at
     any depth (`exists_mem_allSpreads_iff`).

  2. **Settled fragments** — the fragments whose spreads have all been followed form a list, the
     last one in front; each of them spreads only fragments behind it (`Settled`).  Following the
     spreads of a fragment without finding a circle settles it, and leaves settled what was visited
     and is not open (`settled_followFragment`).  The fuel suffices, since the open fragments are
     all different.

  3. **Order** — so there are numbers that go down along spreads, and no circle
     (`acyclic_of_circles`).
-/
import QueryTypings.Check.Operations
import QueryTypings.Proofs.Exported.SelfContained
import QueryTypings.Proofs.Graphql.Places
import QueryTypings.Proofs.Shape.Depth

namespace QueryTypings.Check

open QueryTypings.Graphql QueryTypings.Schema QueryTypings.Shape QueryTypings.Exported

/-! ## Spreads in order -/

theorem directSpreads_cons (x : Selection) (r : List Selection) :
    directSpreads (x :: r) = directSpreads [x] ++ directSpreads r :=
  @List.filterMap_append _ _ [x] r _

mutual

theorem exists_mem_spreadsInside_iff {k : String} : ∀ {x : Selection},
    (∃ s ∈ directSpreads [x] ++ spreadsInside x, s.name.text = k) ↔ x.Spreads k
  | .leaf _ => by
      constructor
      · rintro ⟨_, hs, -⟩
        cases hs
      · intro h
        cases h
  | .branch _ _ ss => by
      refine (@exists_mem_allSpreads_iff k ss).trans ?_
      constructor
      · rintro ⟨_, hs, hk⟩
        exact .branch hs hk
      · intro h
        cases h with
        | branch hs hk => exact ⟨_, hs, hk⟩
  | .inline _ _ _ _ ss => by
      refine (@exists_mem_allSpreads_iff k ss).trans ?_
      constructor
      · rintro ⟨_, hs, hk⟩
        exact .inline hs hk
      · intro h
        cases h with
        | inline hs hk => exact ⟨_, hs, hk⟩
  | .spread n _ p => by
      constructor
      · rintro ⟨_, hs, hk⟩
        obtain rfl := List.mem_singleton.mp hs
        exact .here hk
      · intro h
        cases h with
        | here hk => exact ⟨⟨n, p⟩, List.mem_singleton.mpr rfl, hk⟩

/-- The spreads in order are those of the fragments that are spread. -/
theorem exists_mem_allSpreads_iff {k : String} : ∀ {ss : List Selection},
    (∃ s ∈ allSpreads ss, s.name.text = k) ↔ Spreading k ss
  | [] => by
      constructor
      · rintro ⟨_, hs, -⟩
        cases hs
      · rintro ⟨_, hs, -⟩
        cases hs
  | x :: r => by
      have hx := exists_mem_spreadsInside_iff (k := k) (x := x)
      have hr := @exists_mem_allSpreads_iff k r
      rw [Spreading, List.exists_mem_cons_iff, ← Spreading, ← hx, ← hr, allSpreads, allSpreads,
        directSpreads_cons, spreadsBelow]
      simp only [List.mem_append, or_and_right, exists_or]
      exact (or_congr_right or_comm).trans or_or_or_comm

end

/-! ## Settled fragments -/

variable {q : Inquiry}

/-- A name is that of a fragment. -/
theorem name_of_fragment? {k : String} {f : Fragment} (h : q.fragment? k = some f) :
    f ∈ q.document.fragments ∧ f.name.text = k := by
  have hname := List.find?_some h
  exact ⟨List.mem_reverse.mp (List.mem_of_find?_eq_some h), eq_of_beq hname⟩

/-- If no two fragments share a name, each is found under its own. -/
theorem fragment?_of_mem (h : (fragmentNames q.document).Nodup) {f : Fragment}
    (hf : f ∈ q.document.fragments) : q.fragment? f.name.text = some f := by
  have hsome : (q.fragment? f.name.text).isSome :=
    List.find?_isSome.mpr ⟨f, List.mem_reverse.mpr hf, beq_self_eq_true _⟩
  obtain ⟨g, hg⟩ := Option.isSome_iff_exists.mp hsome
  obtain ⟨hmem, hname⟩ := name_of_fragment? hg
  rwa [eq_of_fragmentName h hmem hf hname] at hg

/-- Each fragment of the list spreads only fragments behind it. -/
inductive Settled (q : Inquiry) : List String → Prop
  | nil : Settled q []
  | cons {f : Fragment} {L : List String} : q.fragment? f.name.text = some f →
      (∀ s ∈ allSpreads f.selections, s.name.text ∈ L) → Settled q L →
      Settled q (f.name.text :: L)

/-- What was visited and is not open is settled. -/
structure Progress (q : Inquiry) (opened visited L : List String) : Prop where
  settled : Settled q L
  visited : ∀ n ∈ visited, n ∈ opened ∨ n ∈ L

section Following

/-- Following a fragment that is not open settles it, if no circle is found. -/
def Settles (q : Inquiry) (opened : List String)
    (follow : Fragment → List Spread → List String → List Issue × List String) : Prop :=
  ∀ g path visited L, q.fragment? g.name.text = some g → g.name.text ∉ opened →
    Progress q opened visited L → (follow g path visited).1 = [] →
    ∃ L', Progress q opened (follow g path visited).2 L' ∧ L ⊆ L' ∧ g.name.text ∈ L'

/-- What is done with one spread of a fragment. -/
def followSpread (q : Inquiry) (opened : List String) (path : List Spread)
    (follow : Fragment → List Spread → List String → List Issue × List String) :
    List Issue × List String → Spread → List Issue × List String :=
  fun (found, visited) s =>
    if opened.contains s.name.text then
      let round := circle s.name.text path
      let start := (round.head?.getD s).position
      (found ++ [⟨.fragmentCycle s.name.text (round.map fun t => t.name.text), some start⟩],
        visited)
    else match q.fragment? s.name.text with
      | some g =>
          let more := follow g (s :: path) visited
          (found ++ more.1, more.2)
      | none => (found, visited)

theorem followFragment_succ (fuel : Nat) (f : Fragment) (path : List Spread)
    (opened visited : List String) :
    followFragment q (fuel + 1) f path opened visited
      = if visited.contains f.name.text then ([], visited)
        else (allSpreads f.selections).foldl
          (followSpread q (f.name.text :: opened) path fun g p v =>
            followFragment q fuel g p (f.name.text :: opened) v)
          ([], f.name.text :: visited) := rfl

variable {follow : Fragment → List Spread → List String → List Issue × List String}
  {opened : List String} {path : List Spread} {acc : List Issue × List String}

theorem followSpread_eq_nil {s : Spread} (h : (followSpread q opened path follow acc s).1 = []) :
    acc.1 = [] ∧ s.name.text ∉ opened := by
  rw [followSpread] at h
  dsimp only at h
  split at h
  · exact absurd (List.append_eq_nil_iff.mp h).2 (List.cons_ne_nil _ _)
  · rename_i hopened
    refine ⟨?_, fun hmem => hopened (List.contains_iff_mem.mpr hmem)⟩
    split at h
    · exact (List.append_eq_nil_iff.mp h).1
    · exact h

/-- Issues that were found stay. -/
theorem foldl_followSpread_eq_nil {ss : List Spread}
    (h : (ss.foldl (followSpread q opened path follow) acc).1 = []) : acc.1 = [] := by
  induction ss generalizing acc with
  | nil => exact h
  | cons s r ih => exact (followSpread_eq_nil (ih h)).1

/-- Following spreads one after another settles the fragments that they name. -/
theorem settled_foldl (hfollow : Settles q opened follow) {ss : List Spread}
    (hknown : ∀ s ∈ ss, (q.fragment? s.name.text).isSome) {L : List String}
    (h : (ss.foldl (followSpread q opened path follow) acc).1 = [])
    (hacc : Progress q opened acc.2 L) :
    ∃ L', Progress q opened (ss.foldl (followSpread q opened path follow) acc).2 L'
      ∧ L ⊆ L' ∧ ∀ s ∈ ss, s.name.text ∈ L' := by
  induction ss generalizing acc L with
  | nil =>
      refine ⟨L, hacc, List.Subset.refl _, ?_⟩
      intro s hs
      cases hs
  | cons s r ih =>
      obtain ⟨found, visited⟩ := acc
      obtain ⟨hs, hr⟩ := List.forall_mem_cons.mp hknown
      obtain ⟨g, hg⟩ := Option.isSome_iff_exists.mp hs
      obtain ⟨-, hname⟩ := name_of_fragment? hg
      rw [List.foldl_cons] at h ⊢
      have hnow := foldl_followSpread_eq_nil h
      obtain ⟨-, hopened⟩ := followSpread_eq_nil hnow
      have hstep : followSpread q opened path follow (found, visited) s
          = (found ++ (follow g (s :: path) visited).1, (follow g (s :: path) visited).2) := by
        rw [followSpread]
        dsimp only
        rw [if_neg fun hmem => hopened (List.contains_iff_mem.mp hmem), hg]
      rw [hstep] at hnow h ⊢
      obtain ⟨L₁, hL₁, hsub, hmem⟩ := hfollow g (s :: path) visited L (hname ▸ hg)
        (hname ▸ hopened) hacc (List.append_eq_nil_iff.mp hnow).2
      obtain ⟨L₂, hL₂, hsub', hrest⟩ := ih hr h hL₁
      exact ⟨L₂, hL₂, List.Subset.trans hsub hsub',
        List.forall_mem_cons.mpr ⟨hsub' (hname ▸ hmem), hrest⟩⟩

/-- **A fragment that is followed without finding a circle is settled**, and with it all that it
    leads to. -/
theorem settles_followFragment
    (hknown : ∀ f ∈ q.document.fragments, ∀ s ∈ allSpreads f.selections,
      (q.fragment? s.name.text).isSome)
    (fuel : Nat) : ∀ {opened : List String}, opened.Nodup → opened ⊆ fragmentNames q.document →
      fuel + opened.length = q.document.fragments.length + 1 →
      Settles q opened fun g p v => followFragment q fuel g p opened v := by
  induction fuel with
  | zero =>
      intro opened hnodup hsub hfuel
      -- there are not so many fragments
      have hle := (hnodup.subperm hsub).length_le
      rw [fragmentNames, List.length_map] at hle
      omega
  | succ fuel ih =>
      intro opened hnodup hsub hfuel f path visited L hf hopened hL h
      have hmem := (name_of_fragment? hf).1
      dsimp only at h ⊢
      rw [followFragment_succ] at h ⊢
      by_cases hvisited : f.name.text ∈ visited
      · rw [if_pos (List.contains_iff_mem.mpr hvisited)]
        exact ⟨L, hL, List.Subset.refl _, (hL.visited _ hvisited).resolve_left hopened⟩
      · rw [if_neg fun hc => hvisited (List.contains_iff_mem.mp hc)] at h ⊢
        have hfollow := @ih (f.name.text :: opened) (List.nodup_cons.mpr ⟨hopened, hnodup⟩)
          (List.cons_subset.mpr ⟨List.mem_map_of_mem hmem, hsub⟩)
          (by rw [List.length_cons]; omega)
        have hstart : Progress q (f.name.text :: opened) (f.name.text :: visited) L := by
          refine ⟨hL.settled, ?_⟩
          intro n hn
          rcases List.mem_cons.mp hn with rfl | hn
          · exact Or.inl List.mem_cons_self
          · exact (hL.visited n hn).imp_left (List.mem_cons_of_mem _)
        obtain ⟨L', hL', hsub', hspreads⟩ := settled_foldl hfollow (hknown f hmem) h hstart
        -- now the fragment itself is settled, in front of what it spreads
        refine ⟨f.name.text :: L', ⟨.cons hf hspreads hL'.settled, ?_⟩, ?_, List.mem_cons_self⟩
        · intro n hn
          rcases hL'.visited n hn with hn | hn
          · rcases List.mem_cons.mp hn with rfl | hn
            · exact Or.inr List.mem_cons_self
            · exact Or.inl hn
          · exact Or.inr (List.mem_cons_of_mem _ hn)
        · intro n hn
          exact List.mem_cons_of_mem _ (hsub' hn)

/-- All fragments are settled, if no circle is found from any of them. -/
theorem exists_settled_of_circlesFrom
    (hknown : ∀ f ∈ q.document.fragments, ∀ s ∈ allSpreads f.selections,
      (q.fragment? s.name.text).isSome) {fs : List Fragment}
    (hfs : ∀ f ∈ fs, q.fragment? f.name.text = some f) {visited L : List String}
    (hL : Progress q [] visited L)
    (h : ∀ found ∈ circlesFrom q (q.document.fragments.length + 1) fs visited, found = []) :
    ∃ L', Settled q L' ∧ L ⊆ L' ∧ ∀ f ∈ fs, f.name.text ∈ L' := by
  induction fs generalizing visited L with
  | nil =>
      refine ⟨L, hL.settled, List.Subset.refl _, ?_⟩
      intro f hf
      cases hf
  | cons f r ih =>
      obtain ⟨hf, hr⟩ := List.forall_mem_cons.mp hfs
      rw [circlesFrom] at h
      obtain ⟨hnow, hrest⟩ := List.forall_mem_cons.mp h
      obtain ⟨L₁, hL₁, hsub, hmem⟩ := settles_followFragment hknown
        (q.document.fragments.length + 1) List.nodup_nil (List.nil_subset _) rfl f [] visited L hf
        List.not_mem_nil hL hnow
      obtain ⟨L₂, hL₂, hsub', hothers⟩ := ih hr hL₁ hrest
      exact ⟨L₂, hL₂, List.Subset.trans hsub hsub', List.forall_mem_cons.mpr ⟨hsub' hmem, hothers⟩⟩

end Following

/-! ## Order -/

/-- The number of a name in a list: how many stand from its last place on. -/
def rankIn : List String → String → Nat
  | [], _ => 0
  | x :: L, n => if n ∈ L then rankIn L n else if n = x then L.length + 1 else 0

theorem rankIn_le (L : List String) (n : String) : rankIn L n ≤ L.length := by
  induction L with
  | nil => exact Nat.le_refl 0
  | cons x L ih =>
      rw [rankIn, List.length_cons]
      split
      · omega
      · split <;> omega

/-- What a settled fragment spreads has a lower number. -/
theorem Settled.rankIn_lt {L : List String} (h : Settled q L) {n : String} (hn : n ∈ L)
    {f : Fragment} (hf : q.fragment? n = some f) {s : Spread} (hs : s ∈ allSpreads f.selections) :
    s.name.text ∈ L ∧ rankIn L s.name.text < rankIn L n := by
  induction h with
  | nil => cases hn
  | @cons g L hg hspreads _ ih =>
      rw [rankIn, rankIn]
      by_cases hmem : n ∈ L
      · obtain ⟨hsL, hlt⟩ := ih hmem
        rw [if_pos hsL, if_pos hmem]
        exact ⟨List.mem_cons_of_mem _ hsL, hlt⟩
      · have hname : n = g.name.text := (List.mem_cons.mp hn).resolve_right hmem
        subst hname
        obtain rfl := Option.some.inj (hg.symm.trans hf)
        have hsL := hspreads s hs
        have hle := rankIn_le L s.name.text
        rw [if_pos hsL, if_neg hmem, if_pos rfl]
        exact ⟨List.mem_cons_of_mem _ hsL, by omega⟩

/-- What was found for a place, if only one thing was. -/
theorem foundAt_of_mem {found : List (Position × List Issue)} (h : (found.map (·.1)).Nodup)
    {p : Position} {issues : List Issue} (hmem : (p, issues) ∈ found) :
    foundAt p found = issues := by
  induction found with
  | nil => cases hmem
  | cons x r ih =>
      rw [List.map_cons, List.nodup_cons] at h
      rw [foundAt, List.find?_cons]
      rcases List.mem_cons.mp hmem with rfl | hr
      · rw [beq_self_eq_true]
        rfl
      · have hne : (x.1 == p) = false :=
          beq_false_of_ne fun heq => h.1 (heq ▸ List.mem_map_of_mem (f := (·.1)) hr)
        rw [hne]
        exact ih h.2 hr

theorem length_circlesFrom (fuel : Nat) (fs : List Fragment) (visited : List String) :
    (circlesFrom q fuel fs visited).length = fs.length := by
  induction fs generalizing visited with
  | nil => rfl
  | cons f r ih => rw [circlesFrom, List.length_cons, List.length_cons, ih]

/-- **Fragments do not lead back to themselves** if no circle was found for any of them. -/
theorem acyclic_of_circles (hnames : (fragmentNames q.document).Nodup)
    (hplaces : (q.document.fragments.map Fragment.position).Nodup)
    (hknown : ∀ f ∈ q.document.fragments, ∀ k, Spreading k f.selections → (q.fragment? k).isSome)
    (h : ∀ f ∈ q.document.fragments, foundAt f.position (fragmentCircles q) = []) :
    Acyclic q.document.fragmentMap := by
  have hspreads : ∀ f ∈ q.document.fragments, ∀ s ∈ allSpreads f.selections,
      (q.fragment? s.name.text).isSome := by
    intro f hf s hs
    exact hknown f hf _ (exists_mem_allSpreads_iff.mp ⟨s, hs, rfl⟩)
  have hlength := length_circlesFrom (q := q) (q.document.fragments.length + 1)
    q.document.fragments []
  have hplaces' : ((fragmentCircles q).map (·.1)).Nodup := by
    rw [fragmentCircles, List.map_fst_zip (by rw [List.length_map, hlength])]
    exact hplaces
  have hnone : ∀ found ∈ circlesFrom q (q.document.fragments.length + 1) q.document.fragments [],
      found = [] := by
    intro found hfound
    obtain ⟨i, hi, rfl⟩ := List.mem_iff_getElem.mp hfound
    have hi' : i < q.document.fragments.length := hlength ▸ hi
    have hmem : ((q.document.fragments[i]).position, (circlesFrom q
        (q.document.fragments.length + 1) q.document.fragments [])[i]) ∈ fragmentCircles q := by
      rw [fragmentCircles, List.mem_iff_getElem]
      exact ⟨i, by rw [List.length_zip, List.length_map]; omega, by
        rw [List.getElem_zip, List.getElem_map]⟩
    exact (foundAt_of_mem hplaces' hmem).symm.trans (h _ (List.getElem_mem hi'))
  have hstart : Progress q [] [] [] := ⟨.nil, fun n hn => absurd hn List.not_mem_nil⟩
  obtain ⟨L, hL, -, hall⟩ := exists_settled_of_circlesFrom hspreads
    (fun f hf => fragment?_of_mem hnames hf) hstart hnone
  apply acyclic_of_lt (rankIn L)
  rintro n m ⟨f, hf, hm⟩
  obtain ⟨hmem, rfl⟩ := (lists_fragmentMap hnames n f).mp hf
  obtain ⟨s, hs, rfl⟩ := exists_mem_allSpreads_iff.mpr (spreading_iff_mem.mp hm)
  exact (hL.rankIn_lt (hall f hmem) (fragment?_of_mem hnames hmem) hs).2

end QueryTypings.Check
