/-
  Circles in a schema.

  1. **Endless objects** — one input object binds another one if a field keeps it from having a finite
     value (`Binds`).  The search through such fields tells of nothing exactly if from no object at
     which it starts bindings go on forever (`endless_eq_nil_iff`).

  2. **Default values** — a literal of an input object leaves fields to be filled in with their
     default values (`Opens`), which leave others to be filled in (`Follows`).  The search through
     default values tells of nothing exactly if this goes on forever from no input object at which
     it starts (`defaults_eq_nil_iff`).

  Both searches are bounded by fuel.  It suffices, since open names are all different, and a literal
  is no deeper than documents may be nested (`settles_searchEndless`, `settles_search`).
-/
import QueryTypings.Proofs.Schema.DepthFirst
import QueryTypings.Proofs.Schema.Consistency
import QueryTypings.Proofs.Schema.Obstacles

namespace QueryTypings.Schema

open QueryTypings.Graphql Relation

variable {s : Schema} {finite : List String}

/-! ## Endless objects -/

/-- A field of the one object keeps it from having a finite value without one of the other. -/
def Binds (s : Schema) (finite : List String) (n m : String) : Prop :=
  ∃ t ∈ s.types, t.name = n ∧ ∃ b ∈ bindingFields s t, m ∉ finite ∧ b.2.name = m

/-- What the search for endless objects remembers. -/
def endlessMemory : Memory EndlessSearch := ⟨EndlessSearch.visited, EndlessSearch.faults⟩

/-- The objects that are open when one is entered by a field of another one. -/
def entered (t : NamedType) (path : List (String × String)) (b : Input × NamedType) :
    List (String × String) :=
  path ++ [(t.name, fieldLabel t.name b.1.name)]

/-- Follows one binding field. -/
def followBinding (s : Schema) (finite : List String) (n : Nat) (t : NamedType)
    (path : List (String × String)) (st : EndlessSearch) (b : Input × NamedType) : EndlessSearch :=
  if finite.contains b.2.name then st
  else if (entered t path b).any fun p => p.1 == b.2.name then
    let circle := ((entered t path b).dropWhile fun p => p.1 != b.2.name).map (·.2)
    { st with faults := st.faults ++ [.endlessInput b.2.name circle] }
  else searchEndless s finite n b.2 (entered t path b) st

theorem searchEndless_succ (n : Nat) (t : NamedType) (path : List (String × String))
    (st : EndlessSearch) : searchEndless s finite (n + 1) t path st
      = if st.visited.contains t.name then st
        else (bindingFields s t).foldl (followBinding s finite n t path)
          { st with visited := t.name :: st.visited } := rfl

/-- A binding field holds an object of the schema. -/
theorem mem_types_of_binding {t : NamedType} {b : Input × NamedType}
    (hb : b ∈ bindingFields s t) : b.2 ∈ s.types := by
  rw [bindingFields] at hb
  split at hb
  · obtain ⟨f, -, hf⟩ := List.mem_filterMap.mp hb
    split at hf
    · obtain ⟨u, hu, rfl⟩ := Option.map_eq_some_iff.mp hf
      rw [directInput?] at hu
      split at hu
      · exact (mem_types_of_type? (Option.filter_eq_some_iff.mp hu).1).1
      · cases hu
    · cases hf
  · cases hb

section Endless

variable {t : NamedType} {path : List (String × String)} {b : Input × NamedType}

theorem map_entered : (entered t path b).map (·.1) = path.map (·.1) ++ [t.name] := by
  rw [entered, List.map_append]
  rfl

/-- The object is open. -/
theorem any_entered_iff {n : String} :
    ((entered t path b).any fun p => p.1 == n) = true ↔ n ∈ path.map (·.1) ++ [t.name] := by
  rw [← map_entered (b := b), List.any_eq_true, List.mem_map]
  simp only [beq_iff_eq]

/-- **The search for endless objects settles the object at which it starts**, if there is fuel for
    all objects that are not open. -/
theorem settles_searchEndless (hdistinct : (s.types.map NamedType.name).Nodup) (n : Nat)
    (ht : t ∈ s.types) (hopen : Opened (s.types.map NamedType.name) (path.map (·.1)))
    (hclosed : t.name ∉ path.map (·.1)) (hfuel : s.types.length + 1 ≤ n + path.length) :
    Settles endlessMemory (Binds s finite) (path.map (·.1)) (· = t.name)
      (searchEndless s finite n t path) := by
  induction n generalizing t path with
  | zero =>
      have hlength := hopen.length_le
      rw [List.length_map, List.length_map] at hlength
      omega
  | succ n ih =>
      refine .visit (fun st => { st with visited := t.name :: st.visited })
        (fun st => (bindingFields s t).foldl (followBinding s finite n t path) st)
        hclosed (fun st => searchEndless_succ n t path st) (fun st => ⟨rfl, rfl⟩) ?_
      refine (Settles.foldl (fun b m => m ∉ finite ∧ b.2.name = m) fun b hb => ?_).mono ?_
      · unfold followBinding
        split
        · rename_i hfinite
          refine .skip fun m hm => hm.1 ?_
          exact hm.2 ▸ List.contains_iff_mem.mp hfinite
        · split
          · exact .tell fun st => List.append_ne_nil_of_right_ne_nil _ (List.cons_ne_nil _ _)
          · rename_i hcircle
            rw [any_entered_iff] at hcircle
            rw [← map_entered (b := b)] at hcircle ⊢
            refine (ih (mem_types_of_binding hb) ?_ hcircle ?_).mono fun m hm => hm.2.symm
            · rw [map_entered]
              exact hopen.concat (List.mem_map_of_mem ht) hclosed
            · rw [entered, List.length_append, List.length_singleton]
              omega
      · rintro m ⟨u, hu, hname, b, hb, hm⟩
        obtain rfl := List.inj_on_of_nodup_map hdistinct hu ht hname
        exact ⟨b, hb, hm⟩

/-- **It tells of nothing** where all ways from that object end. -/
theorem passes_searchEndless (n : Nat) (ht : t ∈ s.types)
    (hclear : Clear (Binds s finite) (path.map (·.1)) t.name) :
    Passes endlessMemory (searchEndless s finite n t path) := by
  induction n generalizing t path with
  | zero => exact fun _ => rfl
  | succ n ih =>
      refine .visit (fun st => { st with visited := t.name :: st.visited })
        (fun st => (bindingFields s t).foldl (followBinding s finite n t path) st)
        (fun st => searchEndless_succ n t path st) (fun st => ⟨rfl, rfl⟩) ?_
      refine .foldl fun b hb => ?_
      unfold followBinding
      split
      · exact fun _ => rfl
      · rename_i hfinite
        have hfree : b.2.name ∉ finite := fun h => hfinite (List.contains_iff_mem.mpr h)
        have hnext := hclear.next ⟨t, ht, rfl, b, hb, hfree, rfl⟩
        split
        · rename_i hcircle
          exact absurd (any_entered_iff.mp hcircle) hnext.not_mem
        · rw [← map_entered (b := b)] at hnext
          exact ih (mem_types_of_binding hb) hnext

end Endless

/-- Searches for endless objects from some types, one after the other. -/
def endlessFrom (s : Schema) (finite : List String) (ts : List NamedType) (st : EndlessSearch) :
    EndlessSearch :=
  ts.foldl (fun st t =>
    if !t.isInputObject || finite.contains t.name then st
    else searchEndless s finite (s.types.length + 1) t [] st) st

/-- **When no endless object is found**, whatever the order in which types are searched. -/
theorem endless_eq_nil_iff (hdistinct : (s.types.map NamedType.name).Nodup) {ts : List NamedType}
    (hts : ∀ t ∈ ts, t ∈ s.types) : (endlessFrom s finite ts ⟨[], []⟩).faults = []
      ↔ ∀ t ∈ ts, t.isInputObject = true → t.name ∉ finite → Ends (Binds s finite) t.name := by
  constructor
  · intro hfaults t ht hinput hfinite
    have hsettles : Settles endlessMemory (Binds s finite) [] (fun n => ∃ t ∈ ts,
        t.isInputObject = true ∧ t.name ∉ finite ∧ n = t.name) (endlessFrom s finite ts) := by
      refine .foldl _ fun t ht => ?_
      split
      · rename_i hskip
        refine .skip ?_
        rintro n ⟨hinput, hfinite, -⟩
        rw [hinput] at hskip
        exact hfinite (List.contains_iff_mem.mp hskip)
      · refine (@settles_searchEndless s finite t [] hdistinct _ (hts t ht) (opened_nil _)
          List.not_mem_nil (Nat.le_refl _)).mono ?_
        exact fun n hn => hn.2.2
    have hknown : Known (Binds s finite) [] [] := fun n hn => absurd hn List.not_mem_nil
    exact (hsettles.settled ⟨[], []⟩ hfaults hknown).1 _ ⟨t, ht, hinput, hfinite, rfl⟩
  · intro hends
    have hpasses : Passes endlessMemory (endlessFrom s finite ts) := by
      refine .foldl fun t ht => ?_
      split
      · exact fun _ => rfl
      · rename_i hskip
        rw [Bool.or_eq_true, not_or, Bool.not_eq_true', Bool.not_eq_false,
          List.contains_iff_mem] at hskip
        refine @passes_searchEndless s finite t [] _ (hts t ht) ⟨hends t ht hskip.1 hskip.2, ?_⟩
        exact fun m hm => absurd hm List.not_mem_nil
    exact hpasses ⟨[], []⟩

/-! ## Default values -/

/-- A literal of an input object leaves the default value of a field to be filled in, which messages
    call by this name. -/
inductive Opens (s : Schema) : NamedType → Value → String → Prop
  /-- One of the items does. -/
  | item {t : NamedType} {v : Value} {items : List Value} {p : Position} {n : String}
      (mem : v ∈ items) (opens : Opens s t v n) : Opens s t (.list items p) n
  /-- What is given for a field does. -/
  | given {t gt : NamedType} {g : Input} {fields : List (Name × Value)} {p : Position} {v : Value}
      {n : String} (mem : g ∈ t.inputFields) (type : s.baseType? g.type = some gt)
      (input : gt.isInputObject = true) (value : lastValue? fields g.name = some v)
      (opens : Opens s gt v n) : Opens s t (.object fields p) n
  /-- A field of an input object is not given and has a default value. -/
  | missing {t ft : NamedType} {f : Input} {fields : List (Name × Value)} {p : Position}
      (mem : f ∈ t.inputFields) (type : s.baseType? f.type = some ft)
      (input : ft.isInputObject = true) (value : lastValue? fields f.name = none)
      (default : f.default?.isSome = true) :
      Opens s t (.object fields p) (fieldLabel t.name f.name)

/-- The default value of the one field leaves that of the other one to be filled in. -/
def Follows (s : Schema) (n m : String) : Prop :=
  ∃ t ∈ s.types, ∃ f ∈ t.inputFields, fieldLabel t.name f.name = n
    ∧ ∃ ft v, s.baseType? f.type = some ft ∧ f.default? = some v ∧ Opens s ft v m

/-- The names of all fields of input objects. -/
def fieldLabels (s : Schema) : List String :=
  s.types.flatMap fun t => t.inputFields.map fun f => fieldLabel t.name f.name

/-- What the search through default values relies on: a name tells the type and the field, and no
    default value is deeper than documents may be nested. -/
structure Searchable (s : Schema) : Prop where
  labels : ∀ t ∈ s.types, ∀ f ∈ t.inputFields, ∀ u ∈ s.types, ∀ g ∈ u.inputFields,
    fieldLabel t.name f.name = fieldLabel u.name g.name → t = u ∧ f = g
  shallow : ∀ t ∈ s.types, ∀ f ∈ t.inputFields, ∀ v ∈ f.default?, v.depth ≤ Reader.maxDepth

/-- What the search through default values remembers. -/
def defaultMemory : Memory DefaultSearch := ⟨DefaultSearch.visited, DefaultSearch.faults⟩

/-- Follows one field of an input object. -/
def followField (s : Schema) (n : Nat) (t : NamedType) (fields : List (Name × Value))
    (path : List String) (st : DefaultSearch) (f : Input) : DefaultSearch :=
  match s.baseType? f.type with
  | none => st
  | some ft =>
      if !ft.isInputObject then st
      else match lastValue? fields f.name with
        | some v => searchLiteral s n ft v path st
        | none => searchField s n t f ft path st

theorem searchLiteral_object (n : Nat) (t : NamedType) (fields : List (Name × Value)) (p : Position)
    (path : List String) (st : DefaultSearch) :
    searchLiteral s (n + 1) t (.object fields p) path st
      = t.inputFields.foldl (followField s n t fields path) st := by
  rw [searchLiteral]
  refine congrArg (fun step => t.inputFields.foldl step st) ?_
  funext st f
  rw [followField]
  cases s.baseType? f.type with
  | none => rfl
  | some ft =>
      rw [lastValue?]
      cases fields.reverse.find? fun g => g.1.text == f.name <;> rfl

section Literals

variable {t : NamedType} {fields : List (Name × Value)} {items : List Value} {p : Position}
  {m : String}

theorem opens_list_iff : Opens s t (.list items p) m ↔ ∃ v ∈ items, Opens s t v m := by
  constructor
  · intro h
    cases h with
    | item mem opens => exact ⟨_, mem, opens⟩
  · rintro ⟨v, hv, h⟩
    exact .item hv h

/-- An object literal leaves a name to be filled in at a field: inside what is given for it, or as the
    name of the field itself. -/
def FieldOpens (s : Schema) (t : NamedType) (fields : List (Name × Value)) (f : Input) (m : String) :
    Prop :=
  ∃ ft, s.baseType? f.type = some ft ∧ ft.isInputObject = true
    ∧ ((∃ v, lastValue? fields f.name = some v ∧ Opens s ft v m)
      ∨ (lastValue? fields f.name = none ∧ f.default?.isSome = true
        ∧ m = fieldLabel t.name f.name))

theorem opens_object_iff :
    Opens s t (.object fields p) m ↔ ∃ f ∈ t.inputFields, FieldOpens s t fields f m := by
  constructor
  · intro h
    cases h with
    | given mem type input value opens => exact ⟨_, mem, _, type, input, Or.inl ⟨_, value, opens⟩⟩
    | missing mem type input value default =>
        exact ⟨_, mem, _, type, input, Or.inr ⟨value, default, rfl⟩⟩
  · rintro ⟨f, hf, ft, htype, hinput, ⟨v, hv, h⟩ | ⟨hnone, hdefault, rfl⟩⟩
    · exact .given hf htype hinput hv h
    · exact .missing hf htype hinput hnone hdefault

/-- Other literals leave nothing to be filled in. -/
theorem not_opens_of_depth {v : Value} (h : v.depth = 0) : ¬ Opens s t v m := by
  intro hopens
  cases hopens with
  | item => simp [Value.depth] at h
  | given => simp [Value.depth] at h
  | missing => simp [Value.depth] at h

end Literals

/-- The fuel that the names need that are not open. -/
def reserve (s : Schema) (path : List String) : Nat := ((fieldLabels s).length - path.length) * 202

/-- With so much fuel the search settles what a literal opens. -/
def LiteralSettles (s : Schema) (n : Nat) : Prop :=
  ∀ t ∈ s.types, ∀ (v : Value) (path : List String), Opened (fieldLabels s) path →
    v.depth + 2 + reserve s path ≤ n →
    Settles defaultMemory (Follows s) path (Opens s t v) (searchLiteral s n t v path)

/-- With so much fuel the search settles a field. -/
def FieldSettles (s : Schema) (n : Nat) : Prop :=
  ∀ t ∈ s.types, ∀ f ∈ t.inputFields, ∀ (ft : NamedType) (path : List String),
    s.baseType? f.type = some ft → Opened (fieldLabels s) path → 1 + reserve s path ≤ n →
    Settles defaultMemory (Follows s) path
      (fun m => f.default?.isSome = true ∧ m = fieldLabel t.name f.name)
      (searchField s n t f ft path)

theorem mem_fieldLabels {t : NamedType} {f : Input} (ht : t ∈ s.types) (hf : f ∈ t.inputFields) :
    fieldLabel t.name f.name ∈ fieldLabels s :=
  List.mem_flatMap.mpr ⟨t, ht, List.mem_map_of_mem hf⟩

theorem fieldSettles_succ (hs : Searchable s) {n : Nat} (h : LiteralSettles s n) :
    FieldSettles s (n + 1) := by
  intro t ht f hf ft path hft hopen hfuel
  cases hdefault : f.default? with
  | none =>
      have hstep : searchField s (n + 1) t f ft path = id := by
        funext st
        rw [searchField, hdefault]
        rfl
      rw [hstep]
      exact .skip fun m hm => absurd hm.1 (by simp)
  | some v =>
      by_cases hcircle : fieldLabel t.name f.name ∈ path
      · refine .tell fun st => ?_
        rw [searchField, hdefault]
        dsimp only
        rw [if_pos (List.contains_iff_mem.mpr hcircle)]
        exact List.append_ne_nil_of_right_ne_nil _ (List.cons_ne_nil _ _)
      · have hnext := hopen.concat (mem_fieldLabels ht hf) hcircle
        have hstep (st : DefaultSearch) : searchField s (n + 1) t f ft path st
            = if (defaultMemory.visited st).contains (fieldLabel t.name f.name) then st
              else searchLiteral s n ft v (path ++ [fieldLabel t.name f.name])
                { st with visited := fieldLabel t.name f.name :: st.visited } := by
          rw [searchField, hdefault]
          dsimp only
          rw [if_neg fun h => hcircle (List.contains_iff_mem.mp h)]
          rfl
        refine (Settles.visit _ _ hcircle hstep (fun st => ⟨rfl, rfl⟩) ?_).mono fun m hm => hm.2
        refine (h ft (mem_types_of_type? hft).1 v _ hnext ?_).mono ?_
        · have hdepth : v.depth ≤ 200 := hs.shallow t ht f hf v hdefault
          have hlength := hnext.length_le
          rw [List.length_append, List.length_singleton] at hlength
          rw [reserve] at hfuel
          rw [reserve, List.length_append, List.length_singleton]
          omega
        · rintro m ⟨u, hu, g, hg, hlabel, ft', v', hft', hv', hopens⟩
          obtain ⟨rfl, rfl⟩ := hs.labels u hu g hg t ht f hf hlabel
          obtain rfl := Option.some.inj (hft.symm.trans hft')
          obtain rfl := Option.some.inj (hdefault.symm.trans hv')
          exact hopens

theorem literalSettles_succ {n : Nat} (hliteral : LiteralSettles s n) (hfield : FieldSettles s n) :
    LiteralSettles s (n + 1) := by
  intro t ht v path hopen hfuel
  cases v with
  | list items p =>
      have hdepth : ∀ v ∈ items, v.depth ≤ valuesDepth items := valuesDepth_le_iff.mp (Nat.le_refl _)
      rw [Value.depth] at hfuel
      refine (Settles.foldl (fun v => Opens s t v) fun v hv => ?_).mono fun m hm =>
        opens_list_iff.mp hm
      have hv' := hdepth v hv
      exact hliteral t ht v path hopen (by omega)
  | object fields p =>
      rw [Value.depth] at hfuel
      have hdepth : ∀ f ∈ fields, f.2.depth ≤ objectFieldsDepth fields :=
        objectFieldsDepth_le_iff.mp (Nat.le_refl _)
      have hstep : searchLiteral s (n + 1) t (.object fields p) path
          = fun st => t.inputFields.foldl (followField s n t fields path) st :=
        funext fun st => searchLiteral_object n t fields p path st
      rw [hstep]
      refine (Settles.foldl (FieldOpens s t fields) fun f hf => ?_).mono fun m hm =>
        opens_object_iff.mp hm
      unfold followField
      cases hft : s.baseType? f.type with
      | none =>
          refine .skip fun m hm => ?_
          obtain ⟨ft, hft', -⟩ := hm
          cases hft.symm.trans hft'
      | some ft =>
          have hsame {m : String} (hm : FieldOpens s t fields f m) : ft.isInputObject = true
              ∧ ((∃ v, lastValue? fields f.name = some v ∧ Opens s ft v m)
                ∨ (lastValue? fields f.name = none ∧ f.default?.isSome = true
                  ∧ m = fieldLabel t.name f.name)) := by
            obtain ⟨ft', hft', hm⟩ := hm
            exact Option.some.inj (hft.symm.trans hft') ▸ hm
          dsimp only
          cases hinput : ft.isInputObject with
          | false =>
              refine .skip fun m hm => ?_
              rw [hinput] at hsame
              cases (hsame hm).1
          | true =>
              simp only [Bool.not_true, Bool.false_eq_true, if_false]
              cases hv : lastValue? fields f.name with
              | some v =>
                  obtain ⟨g, hg, rfl⟩ := exists_of_lastValue? hv
                  have hg' := hdepth g hg
                  refine (hliteral ft (mem_types_of_type? hft).1 g.2 path hopen (by omega)).mono ?_
                  intro m hm
                  rcases (hsame hm).2 with ⟨v, hv', hm⟩ | ⟨hnone, -⟩
                  · exact Option.some.inj (hv.symm.trans hv') ▸ hm
                  · cases hv.symm.trans hnone
              | none =>
                  refine (hfield t ht f hf ft path hft hopen (by omega)).mono ?_
                  intro m hm
                  rcases (hsame hm).2 with ⟨v, hv', -⟩ | ⟨-, hm⟩
                  · cases hv.symm.trans hv'
                  · exact hm
  | _ => exact .skip fun m => not_opens_of_depth rfl

/-- **The search through default values settles what it opens**, if there is fuel for all fields that
    are not open. -/
theorem settles_search (hs : Searchable s) (n : Nat) : LiteralSettles s n ∧ FieldSettles s n := by
  induction n with
  | zero =>
      constructor
      · intro t _ v path _ hfuel
        omega
      · intro t _ f _ ft path _ _ hfuel
        omega
  | succ n ih => exact ⟨literalSettles_succ ih.1 ih.2, fieldSettles_succ hs ih.1⟩

mutual

/-- **It tells of nothing** where all ways from what is opened end. -/
theorem passes_searchLiteral : ∀ (n : Nat) {t : NamedType} {v : Value} {path : List String},
    t ∈ s.types → (∀ m, Opens s t v m → Clear (Follows s) path m) →
    Passes defaultMemory (searchLiteral s n t v path)
  | 0, _, _, _, _, _ => fun _ => rfl
  | n + 1, t, .list items p, path, ht, hclear => by
      refine Passes.foldl fun v hv => passes_searchLiteral n ht fun m hm => ?_
      exact hclear m (.item hv hm)
  | n + 1, t, .object fields p, path, ht, hclear => by
      have hstep : searchLiteral s (n + 1) t (.object fields p) path
          = fun st => t.inputFields.foldl (followField s n t fields path) st :=
        funext fun st => searchLiteral_object n t fields p path st
      rw [hstep]
      refine Passes.foldl fun f hf => ?_
      unfold followField
      cases hft : s.baseType? f.type with
      | none => exact fun _ => rfl
      | some ft =>
          dsimp only
          cases hinput : ft.isInputObject with
          | false => exact fun _ => rfl
          | true =>
              simp only [Bool.not_true, Bool.false_eq_true, if_false]
              cases hv : lastValue? fields f.name with
              | some v =>
                  refine passes_searchLiteral n (mem_types_of_type? hft).1 fun m hm => ?_
                  exact hclear m (.given hf hft hinput hv hm)
              | none =>
                  refine passes_searchField n ht hf hft fun hdefault => ?_
                  exact hclear _ (.missing hf hft hinput hv hdefault)
  | _ + 1, _, .variable _ _, _, _, _ | _ + 1, _, .int _ _, _, _, _ | _ + 1, _, .float _ _, _, _, _
  | _ + 1, _, .string _ _ _, _, _, _ | _ + 1, _, .boolean _ _, _, _, _ | _ + 1, _, .null _, _, _, _
  | _ + 1, _, .enum _ _, _, _, _ => fun _ => rfl

theorem passes_searchField : ∀ (n : Nat) {t : NamedType} {f : Input} {ft : NamedType}
    {path : List String}, t ∈ s.types → f ∈ t.inputFields → s.baseType? f.type = some ft →
    (f.default?.isSome = true → Clear (Follows s) path (fieldLabel t.name f.name)) →
    Passes defaultMemory (searchField s n t f ft path)
  | 0, _, _, _, _, _, _, _, _ => fun _ => rfl
  | n + 1, t, f, ft, path, ht, hf, hft, hclear => by
      cases hdefault : f.default? with
      | none =>
          intro st
          rw [searchField, hdefault]
      | some v =>
          have hclear := hclear (by rw [hdefault]; rfl)
          have hstep (st : DefaultSearch) : searchField s (n + 1) t f ft path st
              = if (defaultMemory.visited st).contains (fieldLabel t.name f.name) then st
                else searchLiteral s n ft v (path ++ [fieldLabel t.name f.name])
                  { st with visited := fieldLabel t.name f.name :: st.visited } := by
            rw [searchField, hdefault]
            dsimp only
            rw [if_neg fun h => hclear.not_mem (List.contains_iff_mem.mp h)]
            rfl
          refine Passes.visit _ _ hstep (fun st => ⟨rfl, rfl⟩) ?_
          refine passes_searchLiteral n (mem_types_of_type? hft).1 fun m hm => ?_
          exact hclear.next ⟨t, ht, f, hf, rfl, ft, v, hft, hdefault, hm⟩

end

/-- Searches through default values from some types, one after the other. -/
def defaultsFrom (s : Schema) (ts : List NamedType) (st : DefaultSearch) : DefaultSearch :=
  ts.foldl (fun st t => if t.isInputObject then searchDefaults s t st else st) st

theorem inputFieldCount_eq : inputFieldCount s = (fieldLabels s).length := by
  have hfold : ∀ (ts : List NamedType) (n : Nat),
      ts.foldl (fun n t => n + t.inputFields.length) n
        = n + (ts.flatMap fun t => t.inputFields.map fun f => fieldLabel t.name f.name).length := by
    intro ts
    induction ts with
    | nil => exact fun n => rfl
    | cons t r ih =>
        intro n
        rw [List.foldl_cons, ih, List.flatMap_cons, List.length_append, List.length_map,
          Nat.add_assoc]
  rw [inputFieldCount, hfold, Nat.zero_add, fieldLabels]

/-- What the search opens from some types. -/
def OpensFrom (s : Schema) (ts : List NamedType) (m : String) : Prop :=
  ∃ t ∈ ts, t.isInputObject = true ∧ Opens s t (.object [] .first) m

variable {ts : List NamedType}

theorem settles_defaultsFrom (hs : Searchable s) (hts : ∀ t ∈ ts, t ∈ s.types) :
    Settles defaultMemory (Follows s) [] (OpensFrom s ts) (defaultsFrom s ts) := by
  refine .foldl _ fun t ht => ?_
  cases t.isInputObject with
  | false => exact .skip fun m hm => absurd hm.1 Bool.false_ne_true
  | true =>
      refine ((settles_search hs _).1 t (hts t ht) _ _ (opened_nil _) ?_).mono fun m hm => hm.2
      have hdepth : (Value.object [] .first).depth = 1 := rfl
      have hreserve : reserve s [] = (fieldLabels s).length * 202 := rfl
      rw [hdepth, hreserve, inputFieldCount_eq]
      omega

/-- **When no circle through default values is found**, whatever the order in which types are
    searched. -/
theorem defaults_eq_nil_iff (hs : Searchable s) (hts : ∀ t ∈ ts, t ∈ s.types) :
    (defaultsFrom s ts ⟨[], []⟩).faults = [] ↔ ∀ m, OpensFrom s ts m → Ends (Follows s) m := by
  constructor
  · intro hfaults
    have hknown : Known (Follows s) [] [] := fun n hn => absurd hn List.not_mem_nil
    exact ((settles_defaultsFrom hs hts).settled ⟨[], []⟩ hfaults hknown).1
  · intro hends
    have hpasses : Passes defaultMemory (defaultsFrom s ts) := by
      refine .foldl fun t ht => ?_
      split
      · rename_i hinput
        refine passes_searchLiteral _ (hts t ht) fun m hm => ⟨hends m ⟨t, ht, hinput, hm⟩, ?_⟩
        exact fun l hl => absurd hl List.not_mem_nil
      · exact fun _ => rfl
    exact hpasses ⟨[], []⟩

end QueryTypings.Schema
