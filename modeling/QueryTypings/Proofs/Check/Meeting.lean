/-
  Fields that meet in one object of a document without conflicts.

  1. **Offers** — a selection set offers its own fields and those of the fragments in it, also of
     those inside one another (`Offers`).  These are the fields that stand in its selections
     (`offers_of_stands`).

  2. **Concord** — two fields are in concord if they are one or were found to agree (`Concord`).  If
     two sets were compared, so were their fragments, and all fields that they offer are in concord
     (`Together.concord`).  The induction is on the way to each of the two fields: a pair of
     fragments that was compared was so together with the fragments in either of them.

  3. **Objects** — the selections for an object come from sets that were compared with one another,
     and that select of types to which the object belongs (`Gathered`).  Two fields of which an
     object has both can only agree by bearing one name (`Concord.meet`), so what is selected of
     them was compared again, and the invariant goes down with every field (`Gathered.inside`).
     Hence no key is ambiguous (`Gathered.unambiguous`).
-/
import QueryTypings.Proofs.Check.SelectionSets

namespace QueryTypings.Check

open QueryTypings.Graphql QueryTypings.Schema QueryTypings.Shape QueryTypings.Execution
  QueryTypings.Exported QueryTypings.Declaration

variable {q : Inquiry} {S : Compared} {sets : List SelectionSet} {x y : SelectionSet}
  {a b : FieldUse}

/-! ## Offers -/

/-- A selection set leads to a field, itself or through the fragments in it. -/
inductive Offers (q : Inquiry) : SelectionSet → FieldUse → Prop
  | own {x : SelectionSet} {a : FieldUse} : a ∈ x.own q → Offers q x a
  | spread {x : SelectionSet} {a : FieldUse} {n : String} {f : Fragment} :
      n ∈ x.fragments → q.fragment? n = some f → Offers q (ofFragment q f) a → Offers q x a

theorem Offers.mono (h : Offers q x a) (hown : x.own q ⊆ y.own q)
    (hfragments : x.fragments ⊆ y.fragments) : Offers q y a := by
  cases h with
  | own ha => exact .own (hown ha)
  | spread hn hf h => exact .spread (hfragments hn) hf h

/-- What is gathered from a list member by member holds what comes from each member. -/
theorem subset_gathered {α β : Type} {f : α → List β} {fs : List α → List β}
    (hcons : ∀ x r, fs (x :: r) = f x ++ fs r) {x : α} {xs : List α} (hx : x ∈ xs) :
    f x ⊆ fs xs := by
  induction xs with
  | nil => cases hx
  | cons y r ih =>
      rw [hcons]
      rcases List.mem_cons.mp hx with rfl | hx
      · exact List.subset_append_left _ _
      · exact List.Subset.trans (ih hx) (List.subset_append_right _ _)

theorem subset_fieldsOfSelections {parent : Option NamedType} {s : Selection}
    {ss : List Selection} (hs : s ∈ ss) :
    fieldsOfSelection q parent s ⊆ fieldsOfSelections q parent ss :=
  subset_gathered (fun t r => by rw [fieldsOfSelections]) hs

theorem subset_spreadsHere {s : Selection} {ss : List Selection} (hs : s ∈ ss) :
    spreadHere s ⊆ spreadsHere ss :=
  subset_gathered (fun t r => by rw [spreadsHere]) hs

theorem mem_fragments_iff {n : String} : n ∈ x.fragments ↔ n ∈ spreadsHere x.selections :=
  List.mem_eraseDups

/-- What the selections of an inline fragment offer is offered by the set in which it stands. -/
theorem Offers.of_inline {P P' : NamedType} {c : Option Name} {ds : List Directive}
    {p o : Position} {sub : List Selection} (hx : x.parent = some P)
    (hmem : .inline c ds p o sub ∈ x.selections)
    (hfields : fieldsOfSelection q (some P) (.inline c ds p o sub)
      = fieldsOfSelections q (some P') sub)
    (h : Offers q ⟨some P', o, sub⟩ a) : Offers q x a := by
  apply h.mono
  · intro b hb
    rw [SelectionSet.own, hx]
    exact subset_fieldsOfSelections hmem (hfields ▸ hb)
  · intro n hn
    exact mem_fragments_iff.mpr (subset_spreadsHere hmem (mem_fragments_iff.mp hn))

/-- **What stands in the selections of a set is offered by it.** -/
theorem offers_of_stands {g : Setting} (hschema : g.schema = q.schema)
    (hlookup : ∀ n f, OrderedMap.get? n g.fragments = some f → q.fragment? n = some f)
    {P Q : NamedType} {ss : List Selection} {s : Selection} (h : Stands g P ss Q s) :
    ∀ {x : SelectionSet}, x.parent = some P → x.selections = ss →
      ∀ a ∈ fieldsOfSelection q (some Q) s, Offers q x a := by
  induction h with
  | leaf hmem =>
      rintro x hx rfl a ha
      exact .own (subset_fieldsOfSelections hmem (hx ▸ ha))
  | branch hmem =>
      rintro x hx rfl a ha
      exact .own (subset_fieldsOfSelections hmem (hx ▸ ha))
  | unconditional hmem _ ih =>
      rintro x hx rfl a ha
      exact .of_inline hx hmem rfl (ih rfl rfl a ha)
  | conditional hmem hP' _ ih =>
      rintro x hx rfl a ha
      rw [hschema] at hP'
      exact .of_inline hx hmem (by rw [fieldsOfSelection, hP']) (ih rfl rfl a ha)
  | spread hmem hf hP' _ ih =>
      rintro x hx rfl a ha
      have hn := subset_spreadsHere hmem (List.mem_singleton.mpr rfl)
      rw [hschema] at hP'
      exact .spread (mem_fragments_iff.mpr hn) (hlookup _ _ hf) (ih hP' rfl a ha)

/-- What is selected of a field that a set of the document offers is one of its sets. -/
theorem SetsOf.below_of_offers (hs : SetsOf q sets) (hx : x ∈ sets) (h : Offers q x a) :
    ∀ y, a.selectionSet? q = some y → y ∈ sets := by
  induction h with
  | own ha => exact hs.below _ hx _ ha
  | spread _ hf _ ih => exact ih (hs.fragments _ (name_of_fragment? hf).1)

/-! ## Concord -/

/-- Two fields are one, or they were compared in some order and agree. -/
def Concord (q : Inquiry) (S : Compared) (a b : FieldUse) : Prop :=
  a = b ∨ Agree q S a b ∨ Agree q S b a

theorem Concord.symm (h : Concord q S a b) : Concord q S b a := by
  rcases h with rfl | hab | hba
  · exact Or.inl rfl
  · exact Or.inr (Or.inr hab)
  · exact Or.inr (Or.inl hba)

/-- The own fields of two sets are in concord where they share a key. -/
def ConcordOwn (q : Inquiry) (S : Compared) (x y : SelectionSet) : Prop :=
  ∀ a ∈ x.own q, ∀ b ∈ y.own q, a.head.key = b.head.key → Concord q S a b

theorem ConcordOwn.symm (h : ConcordOwn q S x y) : ConcordOwn q S y x := by
  intro b hb a ha hkey
  exact (h a ha b hb hkey.symm).symm

theorem AgreeOwn.concordOwn (h : AgreeOwn q S x y) : ConcordOwn q S x y := by
  intro a ha b hb hkey
  exact Or.inr (Or.inl (h a ha b hb hkey))

/-- Two sets, or a set and itself, were compared with one another and with their fragments. -/
structure Together (q : Inquiry) (S : Compared) (x y : SelectionSet) : Prop where
  own : ConcordOwn q S x y
  noted : Noted S x y

theorem Together.symm (h : Together q S x y) : Together q S y x := by
  refine ⟨h.own.symm, h.noted.left, h.noted.right, ?_⟩
  intro n hn m hm
  exact (h.noted.both m hm n hn).symm

theorem Within.together (h : Within q S x) : Together q S x x :=
  ⟨h.own, h.fragments, h.fragments, h.both⟩

/-- The order of two names does not matter. -/
theorem eq_or_swap_of_unordered {a b n m : String} (h : unordered a b = unordered n m) :
    (a = n ∧ b = m) ∨ (a = m ∧ b = n) := by
  rw [unordered, unordered] at h
  split at h <;> split at h <;> obtain ⟨rfl, rfl⟩ := Prod.mk.inj h
  · exact Or.inl ⟨rfl, rfl⟩
  · exact Or.inr ⟨rfl, rfl⟩
  · exact Or.inr ⟨rfl, rfl⟩
  · exact Or.inl ⟨rfl, rfl⟩

section Comparing

variable (hs : SetsOf q sets) (hm : Merged q sets S) {n m : String} {f g : Fragment}

include hs hm

/-- A set that was compared with a fragment was so with its fields and the fragments in it. -/
theorem compared_of_hasSet (hx : x ∈ sets) (hn : S.HasSet x.opening n)
    (hf : q.fragment? n = some f) : ConcordOwn q S x (ofFragment q f)
      ∧ ∀ k ∈ (ofFragment q f).fragments, S.HasSet x.opening k := by
  have hfragment := hs.fragments f (name_of_fragment? hf).1
  by_cases hsame : f.opening = x.opening
  · -- the set is that of the fragment
    obtain rfl := hs.eq_of_opening hx hfragment hsame.symm
    have hwithin : Within q S (ofFragment q f) := hm.within _ hx
    exact ⟨hwithin.together.own, hwithin.fragments⟩
  · have hcompared : SetCompared q S x f := hm.sets _ _ hn x hx rfl f hf hsame
    exact ⟨hcompared.own.concordOwn, hcompared.fragments⟩

/-- Fields of a set are in concord with all that is offered by a fragment with which it was
    compared. -/
theorem concord_of_hasSet (hx : x ∈ sets) (ha : a ∈ x.own q) (hb : Offers q y b)
    (hkey : a.head.key = b.head.key) : ∀ {n f}, S.HasSet x.opening n → q.fragment? n = some f →
      ofFragment q f = y → Concord q S a b := by
  induction hb with
  | own hb =>
      rintro n f hn hf rfl
      obtain ⟨hown, -⟩ := compared_of_hasSet hs hm hx hn hf
      exact hown a ha _ hb hkey
  | spread hk hk' _ ih =>
      -- the set was compared with the next fragment on the way to the field
      rintro n f hn hf rfl
      obtain ⟨-, hfragments⟩ := compared_of_hasSet hs hm hx hn hf
      exact ih hkey (hfragments _ hk) hk' rfl

omit hs in
/-- Two fragments that were compared were so with their fields, and each with the fragments in the
    other. -/
theorem compared_of_hasPair (hp : S.HasPair (unordered n m)) (hf : q.fragment? n = some f)
    (hg : q.fragment? m = some g) : ConcordOwn q S (ofFragment q f) (ofFragment q g)
      ∧ (∀ k ∈ (ofFragment q g).fragments, S.Covers n k)
      ∧ ∀ k ∈ (ofFragment q f).fragments, S.Covers k m := by
  obtain ⟨a, b, hpair, hgood⟩ := hm.pairs _ hp
  have hname := (name_of_fragment? hf).2
  have hname' := (name_of_fragment? hg).2
  rcases eq_or_swap_of_unordered hpair with ⟨rfl, rfl⟩ | ⟨rfl, rfl⟩
  · obtain ⟨hown, hright, hleft⟩ := hgood f g hf hg
    refine ⟨hown.concordOwn, ?_, ?_⟩
    · intro k hk
      exact hname ▸ hright k hk
    · intro k hk
      exact hname' ▸ hleft k hk
  · -- they were compared in the other order
    obtain ⟨hown, hright, hleft⟩ := hgood g f hg hf
    refine ⟨hown.concordOwn.symm, ?_, ?_⟩
    · intro k hk
      exact (hname ▸ hleft k hk).symm
    · intro k hk
      exact (hname' ▸ hright k hk).symm

/-- Fields of a fragment are in concord with all that is offered by one with which it was
    compared. -/
theorem concord_of_covers_own (hf : q.fragment? n = some f) (ha : a ∈ (ofFragment q f).own q)
    (hb : Offers q y b) (hkey : a.head.key = b.head.key) : ∀ {m g}, S.Covers n m →
      q.fragment? m = some g → ofFragment q g = y → Concord q S a b := by
  have hfragment := hs.fragments f (name_of_fragment? hf).1
  have hwithin := hm.within _ hfragment
  induction hb with
  | own hb =>
      rintro m g hcovers hg rfl
      rcases hcovers with rfl | hpair
      · obtain rfl := Option.some.inj (hf.symm.trans hg)
        exact hwithin.together.own a ha _ hb hkey
      · obtain ⟨hown, -, -⟩ := compared_of_hasPair hm hpair hf hg
        exact hown a ha _ hb hkey
  | spread hk hk' hb ih =>
      rintro m g hcovers hg rfl
      rcases hcovers with rfl | hpair
      · -- a fragment is not compared with itself, but it was with those in it
        obtain rfl := Option.some.inj (hf.symm.trans hg)
        have hset := hwithin.fragments _ hk
        exact concord_of_hasSet hs hm hfragment ha hb hkey hset hk' rfl
      · obtain ⟨-, hright, -⟩ := compared_of_hasPair hm hpair hf hg
        exact ih hkey (hright _ hk) hk' rfl

/-- All that two fragments offer that were compared is in concord. -/
theorem concord_of_covers (hg : q.fragment? m = some g) (ha : Offers q x a)
    (hb : Offers q (ofFragment q g) b) (hkey : a.head.key = b.head.key) : ∀ {n f}, S.Covers n m →
      q.fragment? n = some f → ofFragment q f = x → Concord q S a b := by
  induction ha generalizing m g with
  | own ha =>
      rintro n f hcovers hf rfl
      exact concord_of_covers_own hs hm hf ha hb hkey hcovers hg rfl
  | spread hk hk' ha ih =>
      rintro n f hcovers hf rfl
      rcases hcovers with rfl | hpair
      · -- both fields are offered by one fragment
        obtain rfl := Option.some.inj (hf.symm.trans hg)
        have hfragment := hs.fragments f (name_of_fragment? hf).1
        have hwithin := hm.within _ hfragment
        cases hb with
        | own hb =>
            have hset := hwithin.fragments _ hk
            exact (concord_of_hasSet hs hm hfragment hb ha hkey.symm hset hk' rfl).symm
        | spread hl hl' hb => exact ih hl' hb hkey (hwithin.both _ hk _ hl) hk' rfl
      · obtain ⟨-, -, hleft⟩ := compared_of_hasPair hm hpair hf hg
        exact ih hg hb hkey (hleft _ hk) hk' rfl

/-- **All that two sets offer that were compared is in concord** where it shares a key. -/
theorem Together.concord (h : Together q S x y) (hx : x ∈ sets) (hy : y ∈ sets)
    (ha : Offers q x a) (hb : Offers q y b) (hkey : a.head.key = b.head.key) :
    Concord q S a b := by
  cases ha with
  | own ha =>
      cases hb with
      | own hb => exact h.own a ha b hb hkey
      | spread hm' hg hb =>
          exact concord_of_hasSet hs hm hx ha hb hkey (h.noted.right _ hm') hg rfl
  | spread hn hf ha =>
      cases hb with
      | own hb =>
          exact (concord_of_hasSet hs hm hy hb ha hkey.symm (h.noted.left _ hn) hf rfl).symm
      | spread hm' hg hb =>
          exact concord_of_covers hs hm hg ha hb hkey (h.noted.both _ hn _ hm') hf rfl

end Comparing

/-! ## Objects -/

/-- An object that belongs to the types of two fields has both. -/
theorem neverMeet_of_belongs {T P Q : NamedType} (ha : a.parent = some P) (hP : T.Belongs P)
    (hb : b.parent = some Q) (hQ : T.Belongs Q) : neverMeet a b = false := by
  have hname : ∀ U : NamedType, T.Belongs U → U.isObject = true → U.name = T.name := by
    rintro U (heq | ⟨habstract, -⟩) hobject
    · exact heq
    · rw [(kind_of_isObject hobject).1] at habstract
      cases habstract
  rw [neverMeet, ha, hb]
  by_contra hmeet
  simp only [Bool.not_eq_false, Bool.and_eq_true, bne_iff_ne] at hmeet
  obtain ⟨⟨hne, hPobject⟩, hQobject⟩ := hmeet
  exact hne ((hname P hP hPobject).trans (hname Q hQ hQobject).symm)

/-- **Two fields in concord of which an object has both** bear one name, and what is selected of
    them was compared. -/
theorem Concord.meet (hm : Merged q sets S) (h : Concord q S a b) {T P Q : NamedType}
    (ha : a.parent = some P) (hP : T.Belongs P) (hb : b.parent = some Q) (hQ : T.Belongs Q)
    (hbelow : ∀ x, a.selectionSet? q = some x → x ∈ sets) :
    a.head.name.text = b.head.name.text
      ∧ ∀ x y, a.selectionSet? q = some x → b.selectionSet? q = some y → Together q S x y := by
  have hagree : ∀ {c d : FieldUse}, Agree q S c d → neverMeet c d = false →
      c.head.name.text = d.head.name.text
        ∧ ∀ x y, c.selectionSet? q = some x → d.selectionSet? q = some y → Together q S x y := by
    intro c d hcd hmeet
    cases hcd with
    | apart hnever =>
        rw [hmeet] at hnever
        cases hnever
    | same hname hown hnoted =>
        refine ⟨hname, ?_⟩
        intro x y hx hy
        have hfields : AgreeOwn q S x y := hown x y hx hy
        exact ⟨hfields.concordOwn, hnoted x y hx hy⟩
  rcases h with rfl | hab | hba
  · refine ⟨rfl, ?_⟩
    intro x y hx hy
    obtain rfl := Option.some.inj (hx.symm.trans hy)
    exact (hm.within x (hbelow x hx)).together
  · exact hagree hab (neverMeet_of_belongs ha hP hb hQ)
  · obtain ⟨hname, hsets⟩ := hagree hba (neverMeet_of_belongs hb hQ ha hP)
    refine ⟨hname.symm, ?_⟩
    intro x y hx hy
    exact (hsets y x hy hx).symm

/-- A field that is met for an object, as it is used in a selection set. -/
structure UsedFor (q : Inquiry) (T : NamedType) (n : FieldNode) (a : FieldUse) : Prop where
  head : a.head = n.head
  type : ∃ P ∈ q.schema.types, T.Belongs P ∧ a.parent = some P
    ∧ a.field? = P.field? n.head.name.text
  selections : ∀ s ∈ n.selections, ∃ o, a.selected = some (o, n.selections)

/-- The selections for an object come from sets that select of types to which it belongs, and that
    were compared with one another. -/
structure Gathered (q : Inquiry) (S : Compared) (sets : List SelectionSet)
    (among : SelectionSet → Prop) (T : NamedType) (ss : List Selection) : Prop where
  sets : ∀ x, among x → x ∈ sets ∧ ∃ P ∈ q.schema.types, T.Belongs P ∧ x.parent = some P
  together : ∀ x y, among x → among y → Together q S x y
  selections : ∀ s ∈ ss, ∃ x, among x ∧ s ∈ x.selections

section Meeting

variable {among : SelectionSet → Prop} {T U : NamedType} {ss : List Selection}
  {scalars : ScalarTypes} {n n' : FieldNode}

/-- A field that is met for an object is offered by one of the sets for it. -/
theorem Gathered.met (hnames : (fragmentNames q.document).Nodup)
    (h : Gathered q S sets among T ss)
    (hn : n ∈ fieldsMet (settingOf q.schema scalars q.document) T keepsAll ss) :
    ∃ x a, among x ∧ Offers q x a ∧ UsedFor q T n a := by
  rw [← List.flatMap_singleton' ss, fieldsMet_flatMap] at hn
  obtain ⟨s, hs, hn⟩ := List.mem_flatMap.mp hn
  obtain ⟨x, hx, hmem⟩ := h.selections s hs
  obtain ⟨-, P, hP, hT, hparent⟩ := h.sets x hx
  obtain ⟨Q, t, hstands, hnode, hTQ, hQ⟩ := met_of_mem_fieldsMet hT hP hn
  have hlookup : ∀ k f, OrderedMap.get? k q.document.fragmentMap = some f →
      q.fragment? k = some f := by
    intro k f hf
    obtain ⟨hmem, rfl⟩ := (lists_fragmentMap hnames k f).mp hf
    exact fragment?_of_mem hnames hmem
  have hoffers : ∀ a ∈ fieldsOfSelection q (some Q) t, Offers q x a := by
    intro a ha
    -- the selection alone offers the field, so the whole set does
    have hsingle : Offers q ⟨some P, x.opening, [s]⟩ a :=
      offers_of_stands rfl hlookup hstands rfl rfl a ha
    apply hsingle.mono
    · intro b hb
      rw [SelectionSet.own, hparent]
      rw [SelectionSet.own, fieldsOfSelections, fieldsOfSelections, List.append_nil] at hb
      exact subset_fieldsOfSelections hmem hb
    · intro k hk
      rw [mem_fragments_iff, spreadsHere, spreadsHere, List.append_nil] at hk
      exact mem_fragments_iff.mpr (subset_spreadsHere hmem hk)
  cases t with
  | leaf f =>
      cases hnode
      refine ⟨x, _, hx, hoffers _ List.mem_cons_self, rfl, ⟨Q, hQ, hTQ, rfl, rfl⟩, ?_⟩
      intro s hs
      cases hs
  | branch f o sub =>
      cases hnode
      refine ⟨x, _, hx, hoffers _ List.mem_cons_self, rfl, ⟨Q, hQ, hTQ, rfl, rfl⟩, ?_⟩
      intro s _
      exact ⟨o, rfl⟩
  | inline => cases hnode
  | spread => cases hnode

variable (hs : SetsOf q sets) (hm : Merged q sets S)

include hs hm

/-- Two fields of an object that share a key bear one name, and what is selected of them was
    compared. -/
theorem Gathered.meet (h : Gathered q S sets among T ss) (hx : among x) (ha : Offers q x a)
    (hn : UsedFor q T n a) (hy : among y) (hb : Offers q y b) (hn' : UsedFor q T n' b)
    (hkey : n.key = n'.key) : n.head.name.text = n'.head.name.text
      ∧ ∀ z z', a.selectionSet? q = some z → b.selectionSet? q = some z' →
        Together q S z z' := by
  obtain ⟨hxsets, -⟩ := h.sets x hx
  obtain ⟨hysets, -⟩ := h.sets y hy
  obtain ⟨P, -, hP, haP, -⟩ := hn.type
  obtain ⟨Q, -, hQ, hbQ, -⟩ := hn'.type
  have hkey' : a.head.key = b.head.key := by
    rw [hn.head, hn'.head]
    exact hkey
  have hconcord := (h.together x y hx hy).concord hs hm hxsets hysets ha hb hkey'
  rw [← hn.head, ← hn'.head]
  exact hconcord.meet hm haP hP hbQ hQ (hs.below_of_offers hxsets ha)

variable (hnames : (fragmentNames q.document).Nodup)

include hnames

/-- Fields of an object that share a key bear one name. -/
theorem Gathered.same_name (h : Gathered q S sets among T ss)
    (hn : n ∈ fieldsMet (settingOf q.schema scalars q.document) T keepsAll ss)
    (hn' : n' ∈ fieldsMet (settingOf q.schema scalars q.document) T keepsAll ss)
    (hkey : n.key = n'.key) : n.head.name.text = n'.head.name.text := by
  obtain ⟨x, a, hx, ha, hna⟩ := h.met hnames hn
  obtain ⟨y, b, hy, hb, hnb⟩ := h.met hnames hn'
  exact (h.meet hs hm hx ha hna hy hb hnb hkey).1

variable (hq : Consistent q.schema) (hparents : ∀ x ∈ sets, ∃ P, x.parent = some P)

include hq hparents

/-- **Below a field of an object** the selections again come from sets that were compared. -/
theorem Gathered.inside (hT : T ∈ q.schema.types) (h : Gathered q S sets among T ss) {key : String}
    {e : Shape.Entry} {f : Field} {t : NamedType}
    (he : (key, e) ∈ collect q.schema q.document.fragmentMap T false ss)
    (hf : T.field? e.fieldName = some f) (ht : q.schema.type? f.type.base = some t)
    (hU : U ∈ objectsOf q.schema t) :
    ∃ among', Gathered q S sets among' U e.selections := by
  let g := settingOf q.schema [] q.document
  have hmet : ∀ n ∈ e.nodes, n ∈ fieldsMet g T keepsAll ss ∧ n.key = key := by
    intro n hn
    exact (mem_fieldsMet_of_mem_entry (g := g) he).mp hn
  obtain ⟨hfirst, -⟩ := hmet e.first List.mem_cons_self
  have hkeys : ∀ n ∈ e.nodes, ∀ n' ∈ e.nodes, n.key = n'.key := by
    intro n hn n' hn'
    rw [(hmet n hn).2, (hmet n' hn').2]
  refine ⟨fun z => ∃ x n a, among x ∧ n ∈ e.nodes ∧ Offers q x a ∧ UsedFor q T n a
    ∧ a.selectionSet? q = some z, ?_, ?_, ?_⟩
  · rintro z ⟨x, n, a, hx, hn, ha, hused, hz⟩
    have hzsets := hs.below_of_offers (h.sets x hx).1 ha z hz
    obtain ⟨P, hP⟩ := hparents z hzsets
    obtain ⟨Q, hQ, hTQ, -, hfield⟩ := hused.type
    -- the type of the set is that of the field, as the type `Q` has it
    obtain ⟨⟨o, sub⟩, -, rfl⟩ := Option.map_eq_some_iff.mp hz
    obtain ⟨d, hd, hdP⟩ := Option.bind_eq_some_iff.mp hP
    rw [hfield] at hd
    obtain ⟨f', hf', hsub⟩ := hq.field hT hQ hTQ hd
    have hname : n.head.name.text = e.fieldName :=
      h.same_name hs hm hnames (hmet n hn).1 hfirst (hkeys n hn e.first List.mem_cons_self)
    rw [hname, hf] at hf'
    obtain rfl := Option.some.inj hf'
    exact ⟨hzsets, P, (mem_types_of_type? hdP).1, hq.belongs_of_isSubtype hsub ht hdP hU, hP⟩
  · rintro z z' ⟨x, n, a, hx, hn, ha, hused, hz⟩ ⟨y, n', b, hy, hn', hb, hused', hz'⟩
    obtain ⟨-, htogether⟩ := h.meet hs hm hx ha hused hy hb hused' (hkeys n hn n' hn')
    exact htogether z z' hz hz'
  · intro s hs'
    obtain ⟨n, hn, hsn⟩ := List.mem_flatMap.mp hs'
    obtain ⟨x, a, hx, ha, hused⟩ := h.met hnames (hmet n hn).1
    obtain ⟨o, hselected⟩ := hused.selections s hsn
    have hset : a.selectionSet? q
        = some ⟨a.field?.bind fun d => q.schema.baseType? d.type, o, n.selections⟩ := by
      rw [FieldUse.selectionSet?, hselected]
      rfl
    exact ⟨_, ⟨x, n, a, hx, hn, ha, hused, hset⟩, hsn⟩

/-- **No key of an object is ambiguous**, at any depth. -/
theorem Gathered.unambiguous (hT : T ∈ q.schema.types) (h : Gathered q S sets among T ss)
    (scalars : ScalarTypes) : Unambiguous (settingOf q.schema scalars q.document) T ss := by
  intro T' ss' hprinted
  induction hprinted generalizing among with
  | self =>
      intro n hn n' hn' hkey
      exact h.same_name hs hm hnames hn hn' hkey
  | inside he hf ht hU _ ih =>
      obtain ⟨among', h'⟩ := h.inside hs hm hnames hq hparents hT he hf ht hU
      obtain ⟨hUmem, -⟩ := hq.of_objectsOf (mem_types_of_type? ht).1 hU
      exact ih hUmem h'

end Meeting

end QueryTypings.Check
