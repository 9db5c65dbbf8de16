/-
  What a document that was read is made of.

  Two things are said of every node, along the recursion of its reader.  The names that later stand
  in generated text are identifiers, since they are tokens.  And a value is no deeper than the reader
  may descend; as JSON a node has brackets in one another only so deep: two for a list, three for an
  object of values or a selection set.

  1. **Nodes** — brackets in a node lie one deeper than in its parts (`nested_node`).

  2. **Values, types and directives** (`gives_value`, `gives_directives`).

  3. **Operations and fragments** (`gives_selectionSet`, `gives_operation`, `gives_fragment`).

  4. **The type system** — the names in types (`gives_typeDefinition`).

  5. **Documents** — so both hold of all definitions of a document (`fine_of_ofText`).
-/
import QueryTypings.Graphql.Document.Encode
import QueryTypings.Proofs.Graphql.Readers
import QueryTypings.Proofs.Json.Rereading

namespace QueryTypings.Graphql

open QueryTypings.Text

/-! ## Nodes -/

section Nodes

open Json

variable {d : Nat}

theorem nested_node (kind : String) {parts : List Part}
    (h : ∀ p ∈ parts, ∀ v ∈ p.2, Nested d v) : Nested (d + 1) (node kind parts) := by
  refine .object (List.forall_mem_cons.mpr ⟨.string kind, ?_⟩)
  induction parts with
  | nil => exact fun p hp => absurd hp List.not_mem_nil
  | cons p r ih =>
      obtain ⟨hp, hr⟩ := List.forall_mem_cons.mp h
      obtain ⟨k, v⟩ := p
      cases v with
      | none => exact ih hr
      | some v => exact List.forall_mem_cons.mpr ⟨hp v rfl, ih hr⟩

theorem nested_always {key : String} {v : Json} (h : Nested d v) :
    ∀ w ∈ (always key v).2, Nested d w := fun _ hw => Option.some.inj hw ▸ h

theorem nested_unlessEmpty {key : String} {items : List Json} (h : ∀ v ∈ items, Nested d v) :
    ∀ w ∈ (unlessEmpty key items).2, Nested (d + 1) w := by
  intro w hw
  unfold unlessEmpty at hw
  split at hw
  · cases hw
  · exact Option.some.inj hw ▸ .array h

theorem nested_map {α : Type} {a : Option α} {g : α → Json} (h : ∀ x ∈ a, Nested d (g x)) :
    ∀ w ∈ a.map g, Nested d w := by
  intro w hw
  obtain ⟨x, hx, rfl⟩ := Option.map_eq_some_iff.mp hw
  exact h x hx

theorem nested_encodeName (n : String) : Nested (d + 1) (encodeName n) :=
  nested_node _ (List.forall_mem_singleton.mpr (nested_always (.string n)))

theorem nested_encodeNamed (n : Name) : Nested (d + 2) (encodeNamed n) :=
  nested_node _ (List.forall_mem_singleton.mpr (nested_always (nested_encodeName n.text)))

theorem nested_encodeString (text : String) (block : Bool) :
    Nested (d + 1) (encodeString text block) :=
  nested_node _ (List.forall_mem_cons.mpr ⟨nested_always (.string text),
    List.forall_mem_singleton.mpr (nested_always (.bool block))⟩)

theorem encodeValues_eq_map (vs : List Value) : encodeValues vs = vs.map Value.encode := by
  induction vs with
  | nil => rfl
  | cons v r ih => rw [encodeValues, ih, List.map_cons]

theorem encodeObjectFields_eq_map (fs : List (Name × Value)) :
    encodeObjectFields fs = fs.map fun f => node "ObjectField"
      [always "name" (encodeName f.1.text), always "value" f.2.encode] := by
  induction fs with
  | nil => rfl
  | cons f r ih => rw [encodeObjectFields, ih, List.map_cons]

theorem encodeSelections_eq_map (ss : List Selection) :
    encodeSelections ss = ss.map Selection.encode := by
  induction ss with
  | nil => rfl
  | cons s r ih => rw [encodeSelections, ih, List.map_cons]

end Nodes

/-- The name inside all wrappers of a type. -/
def TypeNode.base : TypeNode → Name
  | .named n => n
  | .list t _ => t.base
  | .nonNull t => t.base

/-! ## Values, types and directives -/

mutual

/-- How deep lists and objects lie in one another in a value. -/
def Value.depth : Value → Nat
  | .list items _ => valuesDepth items + 1
  | .object fields _ => objectFieldsDepth fields + 1
  | _ => 0

/-- The greatest depth among values. -/
def valuesDepth : List Value → Nat
  | [] => 0
  | v :: r => max v.depth (valuesDepth r)

/-- The greatest depth among the values of fields. -/
def objectFieldsDepth : List (Name × Value) → Nat
  | [] => 0
  | (_, v) :: r => max v.depth (objectFieldsDepth r)

end

theorem valuesDepth_le_iff {n : Nat} {vs : List Value} :
    valuesDepth vs ≤ n ↔ ∀ v ∈ vs, v.depth ≤ n := by
  induction vs with
  | nil => simp [valuesDepth]
  | cons v r ih => rw [valuesDepth, Nat.max_le, ih, List.forall_mem_cons]

theorem objectFieldsDepth_le_iff {n : Nat} {fs : List (Name × Value)} :
    objectFieldsDepth fs ≤ n ↔ ∀ f ∈ fs, f.2.depth ≤ n := by
  induction fs with
  | nil => simp [objectFieldsDepth]
  | cons f r ih => rw [objectFieldsDepth, Nat.max_le, ih, List.forall_mem_cons]

namespace Reader

open Json

theorem gives_tooDeep {α : Type} {P : α → Prop} : Gives (tooDeep : Reader α) P :=
  gives_front.bind fun _ _ => gives_fail _ _

theorem gives_variableUse : Gives variableUse fun p => IsIdentifier p.1.text :=
  (gives_take _).bind fun _ _ => gives_name.bind fun _ hn => gives_pure hn

theorem gives_objectField {value : Reader Value} {P : Value → Prop} (h : Gives value P) :
    Gives (objectField value) fun f => P f.2 :=
  gives_name.bind fun _ _ => (gives_takePunctuator _).bind fun _ _ => h.bind fun _ hv =>
    gives_pure hv

/-- The value is no deeper than the reader may descend, and neither are its brackets. -/
structure ShallowValue (n : Nat) (v : Value) : Prop where
  nested : Nested (3 * n + 2) v.encode
  depth : v.depth ≤ n

/-- A list adds two brackets to those of its items, an object three to those of its values. -/
theorem gives_value_step (constant : Bool) (depth : Nat)
    (ih : ∀ n, depth = n + 1 → Gives (value constant n) (ShallowValue n)) :
    Gives (value constant depth) (ShallowValue depth) := by
  have hleaf {v : Value} {kind : String} {w : Json} (hencode : v.encode = node kind [always "value" w])
      (hw : Nested (3 * depth + 1) w) (hdepth : v.depth = 0) : ShallowValue depth v := by
    refine ⟨?_, hdepth ▸ Nat.zero_le _⟩
    rw [hencode]
    exact nested_node kind (List.forall_mem_singleton.mpr (nested_always hw))
  unfold value
  refine gives_front.bind fun t _ => ?_
  split
  · cases depth with
    | zero => exact gives_tooDeep
    | succ n =>
        refine (gives_any (ih n rfl) _ _).bind fun vs hvs => gives_pure ⟨?_, ?_⟩
        · refine nested_node _ (List.forall_mem_singleton.mpr (nested_always (.array ?_)))
          rw [encodeValues_eq_map]
          exact List.forall_mem_map.mpr fun v hv => (hvs v hv).nested.mono (by omega)
        · exact Nat.succ_le_succ (valuesDepth_le_iff.mpr fun v hv => (hvs v hv).depth)
  · cases depth with
    | zero => exact gives_tooDeep
    | succ n =>
        refine (gives_any (gives_objectField (ih n rfl)) _ _).bind fun fs hfs => gives_pure ⟨?_, ?_⟩
        · refine nested_node _ (List.forall_mem_singleton.mpr (nested_always
            (.array (d := 3 * n + 3) ?_)))
          rw [encodeObjectFields_eq_map]
          exact List.forall_mem_map.mpr fun f hf => nested_node _
            (List.forall_mem_cons.mpr ⟨nested_always (nested_encodeName _),
              List.forall_mem_singleton.mpr (nested_always (hfs f hf).nested)⟩)
        · exact Nat.succ_le_succ (objectFieldsDepth_le_iff.mpr fun f hf => (hfs f hf).depth)
  · exact gives_drop.bind fun _ _ => gives_pure (hleaf rfl (.string _) rfl)
  · exact gives_drop.bind fun _ _ => gives_pure (hleaf rfl (.string _) rfl)
  · exact gives_drop.bind fun _ _ => gives_pure ⟨nested_encodeString _ _, Nat.zero_le _⟩
  · exact gives_drop.bind fun _ _ => gives_pure ⟨nested_encodeString _ _, Nat.zero_le _⟩
  · refine gives_drop.bind fun _ _ => ?_
    split
    · exact gives_pure (hleaf rfl (.bool true) rfl)
    · exact gives_pure (hleaf rfl (.bool false) rfl)
    · exact gives_pure ⟨nested_node _ fun p hp => absurd hp List.not_mem_nil, Nat.zero_le _⟩
    · exact gives_pure (hleaf rfl (.string _) rfl)
  · split
    · refine gives_drop.bind fun _ _ => gives_front.bind fun next _ => ?_
      split
      · exact gives_fail _ _
      · exact gives_unexpected _
    · refine gives_variableUse.bind fun p _ => gives_pure ⟨?_, Nat.zero_le _⟩
      exact nested_node _ (List.forall_mem_singleton.mpr (nested_always (nested_encodeName _)))
  · exact gives_unexpected _

theorem gives_value (constant : Bool) (depth : Nat) :
    Gives (value constant depth) (ShallowValue depth) := by
  induction depth with
  | zero => exact gives_value_step constant 0 fun n hn => absurd hn.symm (Nat.succ_ne_zero n)
  | succ n ih => exact gives_value_step constant (n + 1) fun m hm => Nat.succ.inj hm ▸ ih

/-- What a type is made of. -/
def SpelledType (n : Nat) (t : TypeNode) : Prop :=
  IsIdentifier t.base.text ∧ Nested (2 * n + 1) t.encode

theorem gives_typeNode (n : Nat) : Gives (typeNode n) (SpelledType n) := by
  induction n with
  | zero => exact gives_tooDeep
  | succ n ih =>
      have hrest (inner : TypeNode) (hbase : IsIdentifier inner.base.text)
          (hinner : Nested (2 * n + 2) inner.encode) :
          Gives (do if ← skipPunctuator .bang then return .nonNull inner else return inner)
            (SpelledType (n + 1)) := by
        refine (gives_skipPunctuator _).bind fun required _ => ?_
        split
        · exact gives_pure ⟨hbase, nested_node _ (List.forall_mem_singleton.mpr
            (nested_always hinner))⟩
        · exact gives_pure ⟨hbase, hinner.mono (by omega)⟩
      unfold typeNode
      refine gives_front.bind fun t _ => (gives_skipPunctuator _).bind fun opened _ => ?_
      dsimp only
      split
      · refine ih.bind fun item hitem => (gives_takePunctuator _).bind fun _ _ => ?_
        exact hrest _ hitem.1 (nested_node _ (List.forall_mem_singleton.mpr
          (nested_always hitem.2)))
      · exact (Gives.map (Q := fun t => IsIdentifier t.base.text ∧ Nested (2 * n + 2) t.encode)
          gives_name fun m hm => ⟨hm, nested_encodeNamed m⟩).bind fun inner hinner =>
            hrest inner hinner.1 hinner.2

theorem gives_argument (constant : Bool) (depth : Nat) :
    Gives (argument constant depth) fun a => Nested (3 * depth + 3) a.encode :=
  gives_name.bind fun _ _ => (gives_takePunctuator _).bind fun _ _ =>
    (gives_value constant depth).bind fun _ hv => gives_pure
      (nested_node _ (List.forall_mem_cons.mpr ⟨nested_always (nested_encodeName _),
        List.forall_mem_singleton.mpr (nested_always hv.nested)⟩))

theorem gives_arguments (constant : Bool) (depth : Nat) :
    Gives (arguments constant depth) fun as => ∀ a ∈ as, Nested (3 * depth + 3) a.encode :=
  gives_optionalMany (gives_argument constant depth) _ _

theorem nested_argumentsPart {d : Nat} {as : List Argument} (h : ∀ a ∈ as, Nested d a.encode) :
    ∀ v ∈ (argumentsPart as).2, Nested (d + 1) v :=
  nested_unlessEmpty (List.forall_mem_map.mpr h)

theorem nested_directivesPart {d : Nat} {ds : List Directive} (h : ∀ x ∈ ds, Nested d x.encode) :
    ∀ v ∈ (directivesPart ds).2, Nested (d + 1) v :=
  nested_unlessEmpty (List.forall_mem_map.mpr h)

theorem gives_directive (constant : Bool) (depth : Nat) :
    Gives (directive constant depth) fun x => Nested (3 * depth + 5) x.encode :=
  (gives_take _).bind fun _ _ => gives_name.bind fun _ _ =>
    (gives_arguments constant depth).bind fun _ has => gives_pure
      (nested_node _ (List.forall_mem_cons.mpr ⟨nested_always (nested_encodeName _),
        List.forall_mem_singleton.mpr (nested_argumentsPart has)⟩))

theorem gives_directives (constant : Bool) (depth : Nat) :
    Gives (directives constant depth) fun ds => ∀ x ∈ ds, Nested (3 * depth + 5) x.encode :=
  gives_left.bind fun n _ => gives_whileFront (gives_directive constant depth) _ n

end Reader

/-! ## Operations and fragments -/

mutual

/-- The keys in a selection, at every depth. -/
def Selection.keys : Selection → List String
  | .leaf f => [f.key]
  | .branch f _ ss => f.key :: selectionKeys ss
  | .inline _ _ _ _ ss => selectionKeys ss
  | .spread _ _ _ => []

/-- The keys in selections, at every depth. -/
def selectionKeys : List Selection → List String
  | [] => []
  | s :: r => s.keys ++ selectionKeys r

end

theorem selectionKeys_eq_flatMap (ss : List Selection) :
    selectionKeys ss = ss.flatMap Selection.keys := by
  induction ss with
  | nil => rfl
  | cons s r ih => rw [selectionKeys, ih, List.flatMap_cons]

/-- A selection below which brackets lie at most so deep, and whose keys are identifiers. -/
structure Selection.Fine (d : Nat) (s : Selection) : Prop where
  keys : ∀ k ∈ s.keys, IsIdentifier k
  nested : Json.Nested d s.encode

theorem fine_selectionKeys {d : Nat} {ss : List Selection} (h : ∀ s ∈ ss, s.Fine d) :
    ∀ k ∈ selectionKeys ss, IsIdentifier k := by
  rw [selectionKeys_eq_flatMap]
  intro k hk
  obtain ⟨s, hs, hk⟩ := List.mem_flatMap.mp hk
  exact (h s hs).keys k hk

theorem nested_selectionSet {d : Nat} {ss : List Selection} (h : ∀ s ∈ ss, s.Fine d) :
    Json.Nested (d + 2) (selectionSetNode (encodeSelections ss)) := by
  rw [encodeSelections_eq_map]
  exact nested_node _ (List.forall_mem_singleton.mpr (nested_always
    (.array (List.forall_mem_map.mpr fun s hs => (h s hs).nested))))

namespace Reader

open Json

theorem gives_fragmentName : Gives fragmentName fun n => IsIdentifier n.text := by
  refine gives_front.bind fun t _ => ?_
  split
  · exact gives_unexpected _
  · exact gives_name

theorem nested_encodeField {d : Nat} {f : FieldHead} {selectionSet : Option Json}
    (hargs : ∀ a ∈ f.arguments, Nested d a.encode)
    (hdirectives : ∀ x ∈ f.directives, Nested (d + 2) x.encode)
    (hset : ∀ v ∈ selectionSet, Nested (d + 3) v) :
    Nested (d + 4) (encodeField f selectionSet) := by
  refine nested_node _ ?_
  simp only [List.forall_mem_cons]
  exact ⟨nested_directivesPart hdirectives, nested_always (nested_encodeName _),
    nested_map fun a _ => nested_encodeName _,
    fun v hv => (nested_argumentsPart hargs v hv).mono (by omega), hset,
    fun p hp => absurd hp List.not_mem_nil⟩

theorem gives_field (n : Nat) {selections : Reader (List Selection)}
    (h : Gives selections fun ss => ∀ s ∈ ss, s.Fine (3 * n + 4)) :
    Gives (field n selections) (Selection.Fine (3 * n + 7)) := by
  unfold field
  refine gives_front.bind fun t _ => gives_name.bind fun first hfirst =>
    (gives_skipPunctuator _).bind fun renamed _ => ?_
  -- with or without an alias, what follows the name is read alike
  have hrest (other : Option Name) (m : Name) (hother : ∀ a ∈ other, IsIdentifier a.text)
      (hm : IsIdentifier m.text) :
      Gives (do
        let args ← arguments false n
        let ds ← directives false n
        let opening ← front
        if opening.kind = .punctuator .braceL then
          return .branch ⟨other, m, args, ds, t.position⟩ opening.position (← selections)
        else return .leaf ⟨other, m, args, ds, t.position⟩) (Selection.Fine (3 * n + 7)) := by
    refine (gives_arguments false n).bind fun args hargs => (gives_directives false n).bind
      fun ds hds => gives_front.bind fun opening _ => ?_
    have hkey : IsIdentifier (FieldHead.key ⟨other, m, args, ds, t.position⟩) := by
      cases other with
      | none => exact hm
      | some a => exact hother a rfl
    split
    · refine h.bind fun ss hss => gives_pure ⟨?_, ?_⟩
      · exact List.forall_mem_cons.mpr ⟨hkey, fine_selectionKeys hss⟩
      · exact nested_encodeField hargs hds fun v hv =>
          Option.some.inj hv ▸ nested_selectionSet hss
    · refine gives_pure ⟨List.forall_mem_singleton.mpr hkey, ?_⟩
      exact nested_encodeField hargs hds fun v hv => absurd hv nofun
  dsimp only
  split
  · exact gives_name.bind fun m hm => hrest (some first) m (fun a ha => Option.some.inj ha ▸ hfirst) hm
  · exact (gives_pure (P := fun m : Name => IsIdentifier m.text) hfirst).bind fun m hm =>
      hrest none m (fun a ha => absurd ha nofun) hm

theorem gives_fragmentUse (n : Nat) {selections : Reader (List Selection)}
    (h : Gives selections fun ss => ∀ s ∈ ss, s.Fine (3 * n + 4)) :
    Gives (fragmentUse n selections) (Selection.Fine (3 * n + 7)) := by
  unfold fragmentUse
  refine (gives_take _).bind fun t _ => (gives_skipWord _).bind fun conditional _ => ?_
  have hinline (condition : Option Name) :
      Gives (do
        let ds ← directives false n
        let opening ← front
        return .inline condition ds t.position opening.position (← selections))
        (Selection.Fine (3 * n + 7)) := by
    refine (gives_directives false n).bind fun ds hds => gives_front.bind fun opening _ =>
      h.bind fun ss hss => gives_pure ⟨fine_selectionKeys hss, nested_node _ ?_⟩
    simp only [List.forall_mem_cons]
    exact ⟨nested_directivesPart hds, nested_always (nested_selectionSet hss),
      nested_map fun c _ => nested_encodeNamed c, fun p hp => absurd hp List.not_mem_nil⟩
  refine (gives_isFront _).bind fun named _ => ?_
  split
  · refine gives_fragmentName.bind fun m _ => (gives_directives false n).bind fun ds hds =>
      gives_pure ⟨fun k hk => absurd hk List.not_mem_nil, nested_node _ ?_⟩
    exact List.forall_mem_cons.mpr ⟨nested_directivesPart hds,
      List.forall_mem_singleton.mpr (nested_always (nested_encodeName _))⟩
  · dsimp only
    split
    · exact (Gives.map (Q := fun _ => True) gives_name fun _ _ => trivial).bind fun c _ => hinline c
    · exact (gives_pure (P := fun _ => True) trivial).bind fun c _ => hinline c

theorem gives_selectionSet (n : Nat) :
    Gives (selectionSet n) fun ss => ∀ s ∈ ss, s.Fine (3 * n + 4) := by
  induction n with
  | zero => exact gives_tooDeep
  | succ n ih =>
      refine gives_any ?_ _ _
      refine (gives_isFront _).bind fun spread _ => ?_
      split
      · exact gives_fragmentUse n ih
      · exact gives_field n ih

theorem gives_description : Proceeds description := by
  refine gives_front.bind fun t _ => ?_
  split
  · exact gives_drop.bind fun _ _ => gives_pure trivial
  · exact gives_drop.bind fun _ _ => gives_pure trivial
  · exact gives_pure trivial

theorem gives_operationKind : Proceeds operationKind := by
  refine (gives_take _).bind fun t _ => ?_
  split
  · exact gives_pure trivial
  · exact gives_pure trivial
  · exact gives_pure trivial
  · exact gives_unexpected _

theorem gives_defaultValue :
    Gives defaultValue fun v? => ∀ v ∈ v?, ShallowValue maxDepth v := by
  refine (gives_skipPunctuator _).bind fun there _ => ?_
  split
  · exact (gives_value true maxDepth).map fun v hv w hw => Option.some.inj hw ▸ hv
  · exact gives_pure fun v hv => absurd hv nofun

theorem gives_constantDirectives :
    Gives constantDirectives fun ds => ∀ x ∈ ds, Nested 605 x.encode := gives_directives true maxDepth

end Reader

theorem nested_descriptionPart {d : Nat} (description : Option Description) :
    ∀ v ∈ (descriptionPart description).2, Json.Nested (d + 1) v :=
  nested_map fun x _ => nested_encodeString x.text x.block

/-- A variable with an identifier as its name, and not too many brackets. -/
structure VariableDefinition.Fine (v : VariableDefinition) : Prop where
  name : IsIdentifier v.name.text
  nested : Json.Nested 607 v.encode

/-- An operation whose names are identifiers, and not too many brackets. -/
structure Operation.Fine (o : Operation) : Prop where
  name : ∀ n ∈ o.name?, IsNameText n.text
  inputs : ∀ v ∈ o.variableDefinitions, IsIdentifier v.name.text
  keys : ∀ k ∈ selectionKeys o.selections, IsIdentifier k
  nested : Json.Nested 609 o.encode

/-- A fragment whose names are identifiers, and not too many brackets. -/
structure Fragment.Fine (f : Fragment) : Prop where
  name : IsIdentifier f.name.text
  keys : ∀ k ∈ selectionKeys f.selections, IsIdentifier k
  nested : Json.Nested 609 f.encode

namespace Reader

open Json

theorem gives_variableDefinition : Gives variableDefinition VariableDefinition.Fine := by
  refine gives_front.bind fun t _ => gives_description.bind fun d _ => gives_variableUse.bind
    fun n hn => (gives_takePunctuator _).bind fun _ _ => (gives_typeNode _).bind fun type htype =>
      gives_defaultValue.bind fun default? hdefault => gives_constantDirectives.bind fun ds hds =>
        gives_pure ⟨hn, nested_node _ ?_⟩
  simp only [List.forall_mem_cons]
  exact ⟨nested_descriptionPart d,
    nested_always (nested_node _ (List.forall_mem_singleton.mpr
      (nested_always (nested_encodeName _)))),
    nested_always (htype.2.mono (by decide)),
    fun v hv => (nested_map (fun x hx => (hdefault x hx).nested) v hv).mono (by decide),
    nested_directivesPart hds,
    fun p hp => absurd hp List.not_mem_nil⟩

theorem nested_encodeOperation {o : Operation} (hselections : ∀ s ∈ o.selections, s.Fine 604)
    (hvariables : ∀ v ∈ o.variableDefinitions, Nested 607 v.encode)
    (hdirectives : ∀ x ∈ o.directives, Nested 605 x.encode) : Nested 609 o.encode := by
  refine nested_node _ ?_
  simp only [List.forall_mem_cons]
  exact ⟨nested_always ((nested_selectionSet hselections).mono (by decide)),
    nested_descriptionPart o.description, nested_map fun n _ => nested_encodeName n.text,
    nested_unlessEmpty (List.forall_mem_map.mpr hvariables),
    fun v hv => (nested_directivesPart hdirectives v hv).mono (by decide),
    nested_always (.string _), fun p hp => absurd hp List.not_mem_nil⟩

theorem gives_operation : Gives operation Operation.Fine := by
  refine gives_front.bind fun t _ => ?_
  split
  · refine (gives_selectionSet maxDepth).bind fun ss hss => gives_pure ⟨?_, ?_,
      fine_selectionKeys hss, nested_encodeOperation hss ?_ ?_⟩
    iterate 4 exact nofun
  · refine gives_description.bind fun d _ => gives_operationKind.bind fun kind _ =>
      (gives_isFront _).bind fun named _ => ?_
    have hrest (n? : Option Name) (hn : ∀ n ∈ n?, IsNameText n.text) :
        Gives (do
          let vs ← optionalMany .parenL variableDefinition .parenR
          let ds ← directives false maxDepth
          let opening ← front
          return ⟨d, kind, n?, vs, ds, ← selectionSet maxDepth, opening.position, t.position⟩)
          Operation.Fine :=
      (gives_optionalMany gives_variableDefinition _ _).bind fun vs hvs =>
        (gives_directives false maxDepth).bind fun ds hds => gives_front.bind fun _ _ =>
          (gives_selectionSet maxDepth).bind fun ss hss => gives_pure ⟨hn,
            fun v hv => (hvs v hv).name, fine_selectionKeys hss,
            nested_encodeOperation hss (fun v hv => (hvs v hv).nested) hds⟩
    dsimp only
    split
    · exact (Gives.map (Q := fun n? : Option Name => ∀ n ∈ n?, IsNameText n.text) gives_nameText
        fun n hn m hm => Option.some.inj hm ▸ hn).bind fun n? hn => hrest n? hn
    · exact (gives_pure (P := fun n? : Option Name => ∀ n ∈ n?, IsNameText n.text)
        (fun n hn => absurd hn (Option.not_mem_none n))).bind
        fun n? hn => hrest n? hn

theorem gives_fragment : Gives fragment Fragment.Fine := by
  refine gives_front.bind fun t _ => gives_description.bind fun d _ => (gives_takeWord _).bind
    fun _ _ => gives_fragmentName.bind fun n hn => (gives_takeWord _).bind fun _ _ =>
      gives_name.bind fun condition _ => (gives_directives false maxDepth).bind fun ds hds =>
        gives_front.bind fun opening _ => (gives_selectionSet maxDepth).bind fun ss hss => ?_
  refine gives_pure ⟨hn, fine_selectionKeys hss, nested_node _ ?_⟩
  simp only [List.forall_mem_cons]
  exact ⟨nested_always ((nested_selectionSet hss).mono (by decide)), nested_descriptionPart d,
    nested_always (nested_encodeName _),
    nested_always (.array fun v hv => absurd hv List.not_mem_nil),
    fun v hv => (nested_directivesPart hds v hv).mono (by decide),
    nested_always (nested_encodeNamed condition), fun p hp => absurd hp List.not_mem_nil⟩

end Reader

/-! ## The type system -/

/-- The names in an argument or an input field are identifiers, and its default value is no deeper
    than documents may be nested. -/
structure InputDefinition.Spelled (i : InputDefinition) : Prop where
  name : IsIdentifier i.name.text
  type : IsIdentifier i.type.base.text
  default : ∀ v ∈ i.default?, v.depth ≤ Reader.maxDepth

/-- The names in a field are identifiers. -/
structure FieldDefinition.Spelled (f : FieldDefinition) : Prop where
  name : IsIdentifier f.name.text
  type : IsIdentifier f.type.base.text
  arguments : ∀ i ∈ f.arguments, i.Spelled

/-- The names in what makes up a type are identifiers, those of interfaces apart. -/
def TypeParts.Spelled : TypeParts → Prop
  | .scalar => True
  | .object _ fields => ∀ f ∈ fields, f.Spelled
  | .interface _ fields => ∀ f ∈ fields, f.Spelled
  | .union members => ∀ m ∈ members, IsIdentifier m.text
  | .enum values => ∀ v ∈ values, IsIdentifier v.name.text
  | .input fields => ∀ i ∈ fields, i.Spelled

/-- The names in a type are identifiers. -/
structure TypeDefinition.Spelled (t : TypeDefinition) : Prop where
  name : IsIdentifier t.name.text
  parts : t.parts.Spelled

namespace Reader

theorem gives_inputDefinition : Gives inputDefinition InputDefinition.Spelled :=
  gives_description.bind fun _ _ => gives_name.bind fun _ hn => (gives_takePunctuator _).bind
    fun _ _ => (gives_typeNode _).bind fun _ htype => gives_defaultValue.bind fun _ hdefault =>
      gives_constantDirectives.bind fun _ _ => gives_pure
        ⟨hn, htype.1, fun v hv => (hdefault v hv).depth⟩

theorem gives_argumentDefinitions : Gives argumentDefinitions fun is => ∀ i ∈ is, i.Spelled :=
  gives_optionalMany gives_inputDefinition _ _

theorem gives_fieldDefinition : Gives fieldDefinition FieldDefinition.Spelled :=
  gives_description.bind fun _ _ => gives_name.bind fun _ hn => gives_argumentDefinitions.bind
    fun _ hargs => (gives_takePunctuator _).bind fun _ _ => (gives_typeNode _).bind
      fun _ htype => gives_constantDirectives.bind fun _ _ => gives_pure ⟨hn, htype.1, hargs⟩

theorem gives_enumValueDefinition :
    Gives enumValueDefinition fun v => IsIdentifier v.name.text := by
  refine gives_description.bind fun d _ => gives_front.bind fun t _ => ?_
  split
  · exact gives_fail _ _
  · exact gives_name.bind fun n hn => gives_constantDirectives.bind fun ds _ => gives_pure hn

theorem gives_implemented : Proceeds implemented := by
  refine (gives_skipWord _).bind fun there _ => ?_
  split
  · exact (gives_separated gives_name _).mono fun _ _ => trivial
  · exact gives_pure trivial

theorem gives_fieldDefinitions : Gives fieldDefinitions fun fs => ∀ f ∈ fs, f.Spelled :=
  gives_optionalMany gives_fieldDefinition _ _

theorem gives_unionMembers : Gives unionMembers fun ms => ∀ m ∈ ms, IsIdentifier m.text := by
  refine (gives_skipPunctuator _).bind fun there _ => ?_
  split
  · exact gives_separated gives_name _
  · exact gives_pure fun m hm => absurd hm List.not_mem_nil

theorem gives_rootType : Proceeds rootType :=
  gives_operationKind.bind fun _ _ => (gives_takePunctuator _).bind fun _ _ =>
    gives_name.bind fun _ _ => gives_pure trivial

theorem gives_directiveLocation : Proceeds directiveLocation := by
  refine gives_front.bind fun t _ => gives_name.bind fun n _ => ?_
  split
  · exact gives_pure trivial
  · exact gives_unexpected _

theorem gives_requireParts (found : Bool) : Proceeds (requireParts found) := by
  unfold requireParts
  split
  · exact gives_pure trivial
  · exact gives_front.bind fun t _ => gives_unexpected _

theorem gives_typeDefinition (isExtension : Bool) (p : Position) (d : Option Description)
    (keyword : String) :
    Gives (typeDefinition isExtension p d keyword) TypeDefinition.Spelled := by
  unfold typeDefinition
  refine (gives_takeWord _).bind fun _ _ => gives_name.bind fun n hn => ?_
  have hfinish (ds : List Directive) (parts : TypeParts) (added : Bool) (hparts : parts.Spelled) :
      Gives (do
        if isExtension then requireParts (added || !ds.isEmpty)
        return (⟨isExtension, d, n, ds, parts, p⟩ : TypeDefinition)) TypeDefinition.Spelled := by
    split
    · exact (gives_requireParts _).bind fun _ _ => gives_pure ⟨hn, hparts⟩
    · exact gives_pure ⟨hn, hparts⟩
  dsimp only
  split
  · exact gives_constantDirectives.bind fun ds _ => hfinish ds .scalar false trivial
  · exact gives_constantDirectives.bind fun ds _ => gives_unionMembers.bind fun ms hms =>
      hfinish ds (.union ms) _ hms
  · exact gives_constantDirectives.bind fun ds _ =>
      (gives_optionalMany gives_enumValueDefinition _ _).bind fun vs hvs =>
        hfinish ds (.enum vs) _ hvs
  · exact gives_constantDirectives.bind fun ds _ =>
      (gives_optionalMany gives_inputDefinition _ _).bind fun fs hfs =>
        hfinish ds (.input fs) _ hfs
  · refine gives_implemented.bind fun is _ => gives_constantDirectives.bind fun ds _ =>
      gives_fieldDefinitions.bind fun fs hfs => hfinish ds _ _ ?_
    split
    · exact hfs
    · exact hfs

theorem gives_schemaDefinition (isExtension : Bool) (p : Position) (d : Option Description) :
    Proceeds (schemaDefinition isExtension p d) := by
  refine (gives_takeWord _).bind fun _ _ => gives_constantDirectives.bind fun ds _ => ?_
  have hrest (roots : List (OperationKind × Name)) (found : Bool) (b : Bool) :
      Proceeds (do
        if b then requireParts found
        return (⟨isExtension, d, ds, roots, p⟩ : SchemaDefinition)) := by
    split
    · exact (gives_requireParts _).bind fun _ _ => gives_pure trivial
    · exact gives_pure trivial
  cases isExtension
  · exact (gives_many gives_rootType _ _).bind fun roots _ => hrest roots _ false
  · exact (gives_optionalMany gives_rootType _ _).bind fun roots _ => hrest roots _ true

theorem gives_directiveDefinition (p : Position) (d : Option Description) :
    Proceeds (directiveDefinition p d) :=
  (gives_takeWord _).bind fun _ _ => (gives_takePunctuator _).bind fun _ _ => gives_name.bind
    fun _ _ => gives_argumentDefinitions.bind fun _ _ => gives_constantDirectives.bind fun _ _ =>
      (gives_skipWord _).bind fun _ _ => (gives_takeWord _).bind fun _ _ =>
        (gives_separated gives_directiveLocation _).bind fun _ _ => gives_pure trivial

theorem gives_directiveExtension (p : Position) : Proceeds (directiveExtension p) :=
  (gives_takeWord _).bind fun _ _ => (gives_takePunctuator _).bind fun _ _ => gives_name.bind
    fun _ _ => gives_constantDirectives.bind fun _ _ => (gives_requireParts _).bind fun _ _ =>
      gives_pure trivial

end Reader

/-! ## Documents -/

/-- The names in a definition are identifiers, and it has not too many brackets. -/
def Definition.Fine : Definition → Prop
  | .operation o => o.Fine
  | .fragment f => f.Fine
  | .type t => t.Spelled
  | _ => True

namespace Reader

theorem gives_extension : Gives extension Definition.Fine := by
  refine gives_front.bind fun first _ => gives_second.bind fun t _ => ?_
  split
  · split
    · exact (gives_takeWord _).bind fun _ _ => (gives_typeDefinition _ _ _ _).bind fun _ ht =>
        gives_pure ht
    · split
      · exact (gives_takeWord _).bind fun _ _ => (gives_schemaDefinition _ _ _).bind fun _ _ =>
          gives_pure trivial
      · exact (gives_takeWord _).bind fun _ _ => (gives_directiveExtension _).bind fun _ _ =>
          gives_pure trivial
      · exact gives_unexpected _
  · exact gives_unexpected _

theorem gives_keyedDefinition (t key : Token) (described : Bool) :
    Gives (keyedDefinition t key described) Definition.Fine := by
  unfold keyedDefinition
  split
  · split
    · exact gives_description.bind fun _ _ => (gives_typeDefinition _ _ _ _).bind fun _ ht =>
        gives_pure ht
    · split
      · exact gives_description.bind fun _ _ => (gives_schemaDefinition _ _ _).bind fun _ _ =>
          gives_pure trivial
      · exact gives_description.bind fun _ _ => (gives_directiveDefinition _ _).bind
          fun _ _ => gives_pure trivial
      · exact gives_operation.bind fun _ ho => gives_pure ho
      · exact gives_operation.bind fun _ ho => gives_pure ho
      · exact gives_operation.bind fun _ ho => gives_pure ho
      · exact gives_fragment.bind fun _ hf => gives_pure hf
      · have hextension : Gives (if key.value = "extend" then extension else unexpected key)
            Definition.Fine := by
          split
          · exact gives_extension
          · exact gives_unexpected _
        dsimp only
        split
        · exact (gives_fail (P := fun _ => True) _ _).bind fun _ _ => hextension
        · exact hextension
  · exact gives_unexpected _

theorem gives_definition : Gives definition Definition.Fine := by
  unfold definition
  refine gives_front.bind fun t _ => ?_
  split
  · exact gives_operation.bind fun _ ho => gives_pure ho
  · generalize (t.kind == .string || t.kind == .blockString) = described
    dsimp only
    -- what is defined is said by the token in front, or by the one behind the description
    cases described
    · exact gives_keyedDefinition t t false
    · refine gives_second.bind fun key _ => ?_
      split
      · exact (gives_fail (P := fun _ => True) _ _).bind fun _ _ =>
          gives_keyedDefinition t key true
      · exact gives_keyedDefinition t key true

theorem gives_definitions (n : Nat) : Gives (definitions n) fun d => ∀ x ∈ d, x.Fine := by
  induction n with
  | zero => exact gives_front.bind fun t _ => gives_unexpected t
  | succ n ih =>
      refine (gives_isFront _).bind fun ended _ => ?_
      split
      · exact gives_pure fun x hx => absurd hx List.not_mem_nil
      · exact gives_definition.bind fun x hx => ih.bind fun d hd =>
          gives_pure (List.forall_mem_cons.mpr ⟨hx, hd⟩)

theorem gives_document : Gives document fun d => ∀ x ∈ d, x.Fine :=
  gives_definition.bind fun _ hx => gives_left.bind fun n _ => (gives_definitions n).bind
    fun _ hd => gives_pure (List.forall_mem_cons.mpr ⟨hx, hd⟩)

end Reader

/-- What a text writes is read from its tokens. -/
theorem exists_read_of_ofText {text : String} {d : Document} (h : Document.ofText text = .ok d) :
    d = [] ∨ ∃ s s' : Tokens, s.all = tokens text ∧ Reader.document s = .ok (d, s') := by
  unfold Document.ofText at h
  split at h
  · exact Or.inl (Except.ok.inj h).symm
  · rename_i t r htokens
    refine Or.inr ⟨⟨t, r⟩, ?_⟩
    cases hlegal : Reader.legal t with
    | error e =>
        rw [hlegal] at h
        cases h
    | ok u =>
        rw [hlegal] at h
        have hrun : (Reader.document ⟨t, r⟩).map (fun p => p.1) = .ok d := h
        cases hread : Reader.document ⟨t, r⟩ with
        | error e =>
            rw [hread] at hrun
            cases hrun
        | ok p =>
            rw [hread] at hrun
            obtain ⟨d', s'⟩ := p
            obtain rfl := Except.ok.inj hrun
            exact ⟨s', htokens.symm, rfl⟩

/-- **The names in a text are identifiers, and brackets lie not too deep in it.** -/
theorem fine_of_ofText {text : String} {d : Document} (h : Document.ofText text = .ok d) :
    ∀ x ∈ d, x.Fine := by
  obtain rfl | ⟨s, s', hall, hread⟩ := exists_read_of_ofText h
  · exact fun x hx => absurd hx List.not_mem_nil
  · exact (Reader.gives_document (hall ▸ spelled_tokens text) hread).1

end QueryTypings.Graphql
