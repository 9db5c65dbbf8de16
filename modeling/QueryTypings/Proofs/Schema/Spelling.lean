/-
  The names in a schema that was read.

  The names in the definitions of a text are identifiers, since they are tokens.  Those of the types
  that every schema has are identifiers, too, and a schema is made of nothing else.

  1. **Parts** — what definitions and extensions list keeps its names (`spelled_ofDefinition`).

  2. **Order** — putting the types in their order adds built-in types only (`mem_orderTypes`), so
     every type is built in or what a definition and its extensions say
     (`mem_types_ofDefinitions`).

  3. **Schemas** — so the names in a schema that was read are identifiers (`spelled_ofText`), and no
     scalar bears the name of a type of introspection (`reserved_ofText`).
-/
import QueryTypings.Schema.Load
import QueryTypings.Proofs.Declaration.SchemaExports
import QueryTypings.Proofs.Graphql.Reading

namespace QueryTypings.Schema

open QueryTypings.Graphql QueryTypings.Text

/-! ## Parts -/

theorem base_ofNode (t : TypeNode) : (TypeRef.ofNode t).base = t.base.text := by
  induction t with
  | named n => rfl
  | list t _ ih => exact ih
  | nonNull t ih => exact ih

/-- All names in what makes up a type are identifiers. -/
def Parts.Spelled (p : Parts) : Prop := ∀ n ∈ p.names, IsIdentifier n

theorem spelled_input {i : InputDefinition} (h : i.Spelled) :
    ∀ n ∈ (Input.ofDefinition i).names, IsIdentifier n :=
  List.forall_mem_cons.mpr ⟨h.name, List.forall_mem_singleton.mpr
    ((base_ofNode i.type).symm ▸ h.type)⟩

theorem spelled_inputs {is : List InputDefinition} (h : ∀ i ∈ is, i.Spelled) :
    ∀ n ∈ (is.map Input.ofDefinition).flatMap Input.names, IsIdentifier n := by
  intro n hn
  obtain ⟨j, hj, hn⟩ := List.mem_flatMap.mp hn
  obtain ⟨i, hi, rfl⟩ := List.mem_map.mp hj
  exact spelled_input (h i hi) n hn

theorem spelled_fields {fs : List FieldDefinition} (h : ∀ f ∈ fs, f.Spelled) :
    ∀ n ∈ (fs.map Field.ofDefinition).flatMap Field.names, IsIdentifier n := by
  intro n hn
  obtain ⟨g, hg, hn⟩ := List.mem_flatMap.mp hn
  obtain ⟨f, hf, rfl⟩ := List.mem_map.mp hg
  have hfield := h f hf
  exact List.forall_mem_cons.mpr ⟨hfield.name, List.forall_mem_cons.mpr
    ⟨(base_ofNode f.type).symm ▸ hfield.type, spelled_inputs hfield.arguments⟩⟩ n hn

theorem spelled_parts {d : TypeDefinition} (h : d.Spelled) : (Parts.ofDefinition d).Spelled := by
  have hparts := h.parts
  unfold Parts.ofDefinition Parts.Spelled
  split
  all_goals
    rename_i heq
    rw [heq] at hparts
  · exact fun n hn => absurd hn List.not_mem_nil
  · exact spelled_fields hparts
  · exact spelled_fields hparts
  · exact List.forall_mem_map.mpr hparts
  · exact List.forall_mem_map.mpr hparts
  · exact spelled_inputs hparts

theorem forall_mem_flatMap_append {α : Type} {names : α → List String} {xs ys : List α}
    (hx : ∀ n ∈ xs.flatMap names, IsIdentifier n) (hy : ∀ n ∈ ys.flatMap names, IsIdentifier n) :
    ∀ n ∈ (xs ++ ys).flatMap names, IsIdentifier n := by
  rw [List.flatMap_append]
  exact List.forall_mem_append.mpr ⟨hx, hy⟩

theorem Parts.Spelled.extend {p e : Parts} (hp : p.Spelled) (he : e.Spelled) :
    (p.extend e).Spelled := by
  unfold Parts.extend
  split
  · exact forall_mem_flatMap_append hp he
  · exact forall_mem_flatMap_append hp he
  · exact List.forall_mem_append.mpr ⟨hp, he⟩
  · exact List.forall_mem_append.mpr ⟨hp, he⟩
  · exact forall_mem_flatMap_append hp he
  · exact hp

/-- All names in a type are identifiers. -/
def NamedType.Spelled (t : NamedType) : Prop := IsIdentifier t.name ∧ t.parts.Spelled

/-- What is true of all parts that are listed, and stays true when parts are added, is true of the
    parts of a type. -/
theorem parts_ofDefinition {P : Parts → Prop} {extensions : List TypeDefinition}
    {d : TypeDefinition} (hextend : ∀ p e, P p → P e → P (p.extend e)) (h : P (.ofDefinition d))
    (hextensions : ∀ e ∈ extensions, P (.ofDefinition e)) :
    P (NamedType.ofDefinition extensions d).parts := by
  have hfold : ∀ (es : List TypeDefinition) (p : Parts), (∀ e ∈ es, P (.ofDefinition e)) → P p →
      P (es.foldl (fun p e => p.extend (.ofDefinition e)) p) := by
    intro es
    induction es with
    | nil => exact fun p _ hp => hp
    | cons e r ih =>
        intro p hes hp
        obtain ⟨he, hr⟩ := List.forall_mem_cons.mp hes
        exact ih _ hr (hextend p _ hp he)
  exact hfold _ _ (fun e he => hextensions e (List.mem_filter.mp he).1) h

theorem spelled_ofDefinition {extensions : List TypeDefinition} {d : TypeDefinition}
    (hextensions : ∀ e ∈ extensions, e.Spelled) (h : d.Spelled) :
    (NamedType.ofDefinition extensions d).Spelled := by
  refine ⟨h.name, ?_⟩
  exact parts_ofDefinition (fun p e hp he => hp.extend he) (spelled_parts h)
    fun e he => spelled_parts (hextensions e he)

/-! ## Order -/

/-- The type is one that every schema has. -/
def IsBuiltin (t : NamedType) : Prop := ∃ name, builtinType? name = some t

theorem spelled_builtin {t : NamedType} (h : IsBuiltin t) : t.Spelled := by
  have hscalars : ∀ name ∈ standardScalars, IsIdentifier name := by decide
  have hintrospection : ∀ t ∈ introspectionTypes,
      IsIdentifier t.name ∧ ∀ n ∈ t.parts.names, IsIdentifier n := by decide +kernel
  obtain ⟨name, hname⟩ := h
  unfold builtinType? at hname
  split at hname
  · rename_i hscalar
    obtain rfl := Option.some.inj hname
    exact ⟨hscalars name (List.contains_iff_mem.mp hscalar),
      fun n hn => absurd hn List.not_mem_nil⟩
  · exact hintrospection t (List.mem_of_find?_eq_some hname)

/-- What is in a list after something was added was there before or is built in. -/
theorem mem_addBuiltins {t : NamedType} {taken : List String} (n : Nat) (names : List String)
    (types : List NamedType) (h : t ∈ addBuiltins taken n names types) :
    t ∈ types ∨ IsBuiltin t := by
  induction n generalizing names types with
  | zero => exact Or.inl h
  | succ n ih =>
      rw [addBuiltins] at h
      induction names generalizing types with
      | nil => exact Or.inl h
      | cons name r ihr =>
          rw [List.foldl_cons] at h
          rcases ihr _ h with h | h
          · split at h
            · exact Or.inl h
            · split at h
              · exact Or.inl h
              · rename_i b hb
                rcases ih _ _ h with h | h
                · rcases List.mem_append.mp h with h | h
                  · exact Or.inl h
                  · exact Or.inr ⟨name, List.mem_singleton.mp h ▸ hb⟩
                · exact Or.inr h
          · exact Or.inr h

theorem mem_orderTypes {t : NamedType} {defined : List NamedType} {roots : List String}
    {directives : List DirectiveInfo} (h : t ∈ orderTypes defined roots directives) :
    t ∈ defined ∨ IsBuiltin t := by
  -- the types that are defined are put one behind the other, with what they refer to
  have hdefined : ∀ (rest types : List NamedType) (taken : List String) (depth : Nat),
      t ∈ rest.foldl (fun types u => addBuiltins taken depth u.references (types ++ [u])) types →
      (t ∈ rest ∨ t ∈ types) ∨ IsBuiltin t := by
    intro rest
    induction rest with
    | nil => exact fun types _ _ h => Or.inl (Or.inr h)
    | cons u r ih =>
        intro types taken depth h
        rcases ih _ _ _ h with (h | h) | h
        · exact Or.inl (Or.inl (List.mem_cons_of_mem _ h))
        · rcases mem_addBuiltins _ _ _ h with h | h
          · rcases List.mem_append.mp h with h | h
            · exact Or.inl (Or.inr h)
            · exact Or.inl (Or.inl (List.mem_singleton.mp h ▸ List.mem_cons_self))
          · exact Or.inr h
        · exact Or.inr h
  have hdirectives : ∀ (rest : List DirectiveInfo) (types : List NamedType) (taken : List String)
      (depth : Nat),
      t ∈ rest.foldl (fun types u =>
        addBuiltins taken depth (u.arguments.map fun a => a.type.base) types) types →
      t ∈ types ∨ IsBuiltin t := by
    intro rest
    induction rest with
    | nil => exact fun types _ _ h => Or.inl h
    | cons u r ih =>
        intro types taken depth h
        rcases ih _ _ _ h with h | h
        · exact mem_addBuiltins _ _ _ h
        · exact Or.inr h
  rcases mem_addBuiltins _ _ _ h with h | h
  · rcases hdirectives _ _ _ _ h with h | h
    · rcases mem_addBuiltins _ _ _ h with h | h
      · rcases hdefined _ _ _ _ h with (h | h) | h
        · exact Or.inl h
        · cases h
        · exact Or.inr h
      · exact Or.inr h
    · exact Or.inr h
  · exact Or.inr h

theorem name_of_builtinType? {name : String} {b : NamedType} (h : builtinType? name = some b) : b.name = name := by
  unfold builtinType? at h
  split at h
  · rw [← Option.some.inj h]
    rfl
  · have hname := List.find?_some h
    exact eq_of_beq hname

/-- **A type of the schema that definitions describe** is built in, or it is what a definition and
    its extensions say. -/
theorem mem_types_ofDefinitions {d : Document} {t : NamedType} (ht : t ∈ (ofDefinitions d).types) :
    builtinType? t.name = some t ∨ (builtinType? t.name = none
      ∧ ∃ x ∈ typeDefinitions d, t = .ofDefinition (typeExtensions d) x) := by
  rcases mem_orderTypes ht with ht | ⟨n, hn⟩
  · obtain ⟨x, hx, rfl⟩ := List.mem_map.mp ht
    cases hb : builtinType? x.name.text with
    | none => exact Or.inr ⟨hb, x, hx, rfl⟩
    | some b =>
        left
        rw [Option.getD_some, name_of_builtinType? hb]
        exact hb
  · exact Or.inl (name_of_builtinType? hn ▸ hn)

/-! ## Schemas -/

theorem spelled_ofDefinitions {d : Document} (h : ∀ x ∈ d, x.Fine) : (ofDefinitions d).Spelled := by
  have htype : ∀ t, .type t ∈ d → t.Spelled := fun t ht => h _ ht
  have hextensions : ∀ e ∈ typeExtensions d, e.Spelled := by
    intro e he
    obtain ⟨x, hx, heq⟩ := List.mem_filterMap.mp he
    split at heq
    · rename_i t
      split at heq
      · exact Option.some.inj heq ▸ htype t hx
      · cases heq
    · cases heq
  have hdefinitions : ∀ t ∈ typeDefinitions d, t.Spelled := by
    intro t ht
    obtain ⟨x, hx, heq⟩ := List.mem_filterMap.mp ht
    split at heq
    · rename_i t'
      split at heq
      · cases heq
      · exact Option.some.inj heq ▸ htype t' hx
    · cases heq
  intro t ht
  rcases mem_types_ofDefinitions ht with hb | ⟨-, x, hx, rfl⟩
  · exact spelled_builtin ⟨_, hb⟩
  · exact spelled_ofDefinition hextensions (hdefinitions x hx)

/-- A schema that was read is the one that the definitions of its text describe; they have no issues,
    and it has no faults. -/
theorem read_of_ofText {text : String} {s : Schema} (h : Schema.ofText text = .ok s) :
    ∃ d, Document.ofText text = .ok d ∧ s = ofDefinitions d ∧ Check.definitionIssues d = []
      ∧ s.faults (enumsMisused s d) = [] := by
  unfold ofText at h
  split at h
  · cases h
  · rename_i d hd
    split at h
    · rename_i hissues
      dsimp only at h
      split at h
      · cases h
      · split at h
        · cases h
        · split at h
          · rename_i hempty
            obtain rfl := Except.ok.inj h
            exact ⟨d, hd, rfl, hissues, List.isEmpty_iff.mp hempty⟩
          · cases h
    · cases h

/-- **The names in a schema that was read are identifiers.** -/
theorem spelled_ofText {text : String} {s : Schema} (h : Schema.ofText text = .ok s) :
    s.Spelled := by
  obtain ⟨d, hd, rfl, -⟩ := read_of_ofText h
  exact spelled_ofDefinitions (fine_of_ofText hd)

/-- The same where an empty schema stands for a text that is refused. -/
theorem spelled_getD_ofText (text : String) :
    ((Schema.ofText text).toOption.getD default).Spelled := by
  cases h : Schema.ofText text with
  | ok s => exact spelled_ofText h
  | error f =>
      have hempty : (default : Schema).Spelled := by decide
      exact hempty

/-- No scalar bears the name of a type of introspection. -/
def Reserved (s : Schema) : Prop :=
  ∀ t ∈ s.types, t.isScalar = true → isIntrospectionName t.name = false

/-- **The names of types of introspection are reserved** in a schema that was read. -/
theorem reserved_ofText {text : String} {s : Schema} (h : Schema.ofText text = .ok s) :
    s.Reserved := by
  have hstandard : ∀ n ∈ standardScalars, isIntrospectionName n = false := by decide
  have hintrospection : ∀ t ∈ introspectionTypes, t.isScalar = false := by decide +kernel
  obtain ⟨d, -, rfl, -⟩ := read_of_ofText h
  intro t ht hscalar
  by_contra hname
  rw [Bool.not_eq_false, isIntrospectionName, List.contains_iff_mem] at hname
  obtain ⟨u, hu, hsame⟩ := List.mem_map.mp hname
  -- a type of such a name is the one that every schema has
  have hbuiltin : builtinType? t.name = introspectionTypes.find? fun t' => t'.name == t.name := by
    refine if_neg fun hstd => ?_
    have hfree := hstandard _ (List.contains_iff_mem.mp hstd)
    rw [isIntrospectionName, List.contains_iff_mem.mpr hname] at hfree
    cases hfree
  rcases mem_types_ofDefinitions ht with hb | ⟨hb, -⟩
  · rw [hbuiltin] at hb
    rw [hintrospection t (List.mem_of_find?_eq_some hb)] at hscalar
    cases hscalar
  · rw [hbuiltin] at hb
    exact List.find?_eq_none.mp hb u hu (beq_iff_eq.mpr hsame)

end QueryTypings.Schema
