/-
  Whether a text is a schema does not depend on the order of its definitions.

  1. **Types** — there are no violations of types exactly if no type has any by itself and there is
     no circle through default values (`foldl_typeFaults_eq_nil_iff`).

  2. **Circles** — a rearranged schema has circles through default values, and endless objects, if
     the schema has some (`defaults_rearranged`, `endlessFaults_rearranged`).

  3. **Schemas** — so a rearranged schema has violations if the schema has any
     (`faults_rearranged`).

  4. **Texts** — the definitions of a text meet what the searches for circles rely on
     (`searchable_ofDefinitions`), so the same definitions make a schema in any order
     (`ofText_rearranged`).
-/
import QueryTypings.Proofs.Schema.Circles
import QueryTypings.Proofs.Schema.Violations

namespace QueryTypings.Schema

open QueryTypings.Graphql

/-! ## Types -/

/-- The violations of a type by itself. -/
def ownFaults (s : Schema) (misused : List (String × Misuse)) (t : NamedType) : List Fault :=
  (if isIntrospectionName t.name then [] else nameFaults t.name) ++ match t.parts with
    | .scalar => []
    | .object is _ | .interface is _ => fieldsFaults s t ++ interfaceFaults s t is []
    | .union ms => (if ms.isEmpty then [.noMembers t.name] else []) ++ memberFaults s t ms []
    | .enum values =>
        ((misused.filter fun m => m.1 == t.name).map fun m => .valuesMisused m.2)
          ++ (if values.isEmpty then [.noValues t.name] else []) ++ values.flatMap nameFaults
    | .input fields oneOf => inputFieldsFaults s t fields oneOf

variable {s : Schema} {misused : List (String × Misuse)} {ts : List NamedType}

/-- What one type adds: its own violations, and the circles that are found from it. -/
theorem typeFaults_eq (st : TypesState) (t : NamedType) :
    typeFaults s misused st t = ⟨st.faults ++ ownFaults s misused t
        ++ (defaultsFrom s [t] ⟨st.defaults, []⟩).faults,
      (defaultsFrom s [t] ⟨st.defaults, []⟩).visited⟩ := by
  rw [typeFaults, ownFaults, defaultsFrom, List.foldl_cons, List.foldl_nil, NamedType.isInputObject]
  cases t.parts <;> simp [List.append_assoc]

/-- **The violations of types**: each one has none by itself, and there is no circle through default
    values. -/
theorem foldl_typeFaults_eq_nil_iff (hs : Searchable s) (hts : ∀ t ∈ ts, t ∈ s.types)
    (st : TypesState) : (ts.foldl (typeFaults s misused) st).faults = []
      ↔ st.faults = [] ∧ (∀ t ∈ ts, ownFaults s misused t = [])
        ∧ (defaultsFrom s ts ⟨st.defaults, []⟩).faults = [] := by
  induction ts generalizing st with
  | nil => simp [defaultsFrom]
  | cons t r ih =>
      obtain ⟨ht, hr⟩ := List.forall_mem_cons.mp hts
      have hcons (st : DefaultSearch) :
          defaultsFrom s (t :: r) st = defaultsFrom s r (defaultsFrom s [t] st) := rfl
      rw [List.foldl_cons, ih hr, typeFaults_eq, List.forall_mem_cons, hcons,
        List.append_eq_nil_iff, List.append_eq_nil_iff]
      -- what was found from the first type is remembered with nothing told, or stays told
      cases hfound : defaultsFrom s [t] ⟨st.defaults, []⟩ with
      | mk visited faults =>
          cases faults with
          | nil => simp only [and_true, and_assoc]
          | cons f fs =>
              refine iff_of_false (fun h => by cases h.1.2) fun h => ?_
              have hbefore := (settles_defaultsFrom hs hr).before _ h.2.2
              cases hbefore

/-! ## Circles -/

mutual

theorem depth_unplaced : ∀ v : Value, v.unplaced.depth = v.depth
  | .variable _ _ | .int _ _ | .float _ _ | .string _ _ _ | .boolean _ _ | .null _ | .enum _ _ => rfl
  | .list items _ => by rw [Value.unplaced, Value.depth, Value.depth, valuesDepth_unplaced items]
  | .object fields _ => by
      rw [Value.unplaced, Value.depth, Value.depth, objectFieldsDepth_unplaced fields]

theorem valuesDepth_unplaced : ∀ vs : List Value, valuesDepth (valuesUnplaced vs) = valuesDepth vs
  | [] => rfl
  | v :: r => by
      rw [valuesUnplaced, valuesDepth, valuesDepth, depth_unplaced v, valuesDepth_unplaced r]

theorem objectFieldsDepth_unplaced : ∀ fs : List (Name × Value),
    objectFieldsDepth (objectFieldsUnplaced fs) = objectFieldsDepth fs
  | [] => rfl
  | (n, v) :: r => by
      rw [objectFieldsUnplaced, objectFieldsDepth, objectFieldsDepth, depth_unplaced v,
        objectFieldsDepth_unplaced r]

end

section Rearranged

variable {S : Schema} (h : s.Rearranged S)

include h

/-- The types of a rearranged schema are those of the schema without places. -/
theorem Rearranged.mem_iff {T : NamedType} : T ∈ S.types ↔ ∃ t ∈ s.types, t.unplaced = T := by
  rw [h.types.mem_iff, List.mem_map]

theorem Rearranged.nodup : (S.types.map NamedType.name).Nodup := by
  refine (h.types.map NamedType.name).nodup_iff.mpr ?_
  rw [List.map_map]
  exact h.distinct

theorem searchable_rearranged (hs : Searchable s) : Searchable S := by
  constructor
  · intro T hT F hF U hU G hG hlabel
    obtain ⟨t, ht, rfl⟩ := h.mem_iff.mp hT
    obtain ⟨u, hu, rfl⟩ := h.mem_iff.mp hU
    rw [NamedType.inputFields_unplaced] at hF hG
    obtain ⟨f, hf, rfl⟩ := List.mem_map.mp hF
    obtain ⟨g, hg, rfl⟩ := List.mem_map.mp hG
    obtain ⟨rfl, rfl⟩ := hs.labels t ht f hf u hu g hg hlabel
    exact ⟨rfl, rfl⟩
  · intro T hT F hF v hv
    obtain ⟨t, ht, rfl⟩ := h.mem_iff.mp hT
    rw [NamedType.inputFields_unplaced] at hF
    obtain ⟨f, hf, rfl⟩ := List.mem_map.mp hF
    obtain ⟨w, hw, rfl⟩ := Option.map_eq_some_iff.mp hv
    rw [depth_unplaced]
    exact hs.shallow t ht f hf w hw

end Rearranged

section Opening

variable {S : Schema} {m : String}

/-- A field is opened by the literal without places if it is by the literal. -/
theorem fieldOpens_rearranged (h : s.Rearranged S) {t : NamedType} {fields : List (Name × Value)}
    (hfields : ∀ f ∈ fields, ∀ t : NamedType,
      Opens S t.unplaced f.2.unplaced m ↔ Opens s t f.2 m) (f : Input) :
    FieldOpens S t.unplaced (objectFieldsUnplaced fields) f.unplaced m
      ↔ FieldOpens s t fields f m := by
  have hname : f.unplaced.name = f.name := rfl
  have hdefault : f.unplaced.default?.isSome = f.default?.isSome := Option.isSome_map
  have htype : S.baseType? f.unplaced.type = (s.baseType? f.type).map NamedType.unplaced :=
    h.baseType? f.type
  rw [FieldOpens, FieldOpens, htype, hname, hdefault, lastValue?_unplaced, NamedType.name_unplaced]
  cases s.baseType? f.type with
  | none => simp
  | some ft =>
      simp only [Option.map_some, Option.some.injEq, exists_eq_left', NamedType.isInputObject_unplaced]
      refine and_congr_right fun _ => ?_
      cases hv : lastValue? fields f.name with
      | none => simp
      | some v =>
          obtain ⟨g, hg, rfl⟩ := exists_of_lastValue? hv
          simp [hfields g hg ft]

mutual

/-- **Literals open the same names**, with and without places. -/
theorem opens_rearranged (h : s.Rearranged S) : ∀ (v : Value) (t : NamedType),
    Opens S t.unplaced v.unplaced m ↔ Opens s t v m
  | .list items p, t => by
      have hitems := opens_items h items
      rw [Value.unplaced, opens_list_iff, opens_list_iff, valuesUnplaced_eq]
      simp only [List.mem_map, exists_exists_and_eq_and]
      exact exists_congr fun v => and_congr_right fun hv => hitems v hv t
  | .object fields p, t => by
      have hfields := opens_fields h fields
      rw [Value.unplaced, opens_object_iff, opens_object_iff, NamedType.inputFields_unplaced]
      simp only [List.mem_map, exists_exists_and_eq_and]
      exact exists_congr fun f => and_congr_right fun _ => fieldOpens_rearranged h hfields f
  | .variable _ _, t | .int _ _, t | .float _ _, t | .string _ _ _, t | .boolean _ _, t | .null _, t
  | .enum _ _, t => iff_of_false (not_opens_of_depth rfl) (not_opens_of_depth rfl)

theorem opens_items (h : s.Rearranged S) : ∀ (items : List Value), ∀ v ∈ items,
    ∀ t : NamedType, Opens S t.unplaced v.unplaced m ↔ Opens s t v m
  | [] => fun v hv => absurd hv List.not_mem_nil
  | w :: r => fun v hv => by
      rcases List.mem_cons.mp hv with hv | hv
      · exact hv ▸ opens_rearranged h w
      · exact opens_items h r v hv

theorem opens_fields (h : s.Rearranged S) : ∀ (fields : List (Name × Value)),
    ∀ f ∈ fields, ∀ t : NamedType, Opens S t.unplaced f.2.unplaced m ↔ Opens s t f.2 m
  | [] => fun f hf => absurd hf List.not_mem_nil
  | (n, v) :: r => fun f hf => by
      rcases List.mem_cons.mp hf with rfl | hf
      · exact opens_rearranged h v
      · exact opens_fields h r f hf

end

end Opening

section Rearranged

variable {S : Schema} (h : s.Rearranged S)

include h

theorem follows_rearranged {n m : String} : Follows S n m ↔ Follows s n m := by
  have hdefault (f : Input) : f.unplaced.default? = f.default?.map Value.unplaced := rfl
  have htype (f : Input) : S.baseType? f.unplaced.type
      = (s.baseType? f.type).map NamedType.unplaced := h.baseType? f.type
  constructor
  · rintro ⟨T, hT, F, hF, rfl, ft, v, hft, hv, hopens⟩
    obtain ⟨t, ht, rfl⟩ := h.mem_iff.mp hT
    rw [NamedType.inputFields_unplaced] at hF
    obtain ⟨f, hf, rfl⟩ := List.mem_map.mp hF
    rw [htype] at hft
    obtain ⟨gt, hgt, rfl⟩ := Option.map_eq_some_iff.mp hft
    rw [hdefault] at hv
    obtain ⟨w, hw, rfl⟩ := Option.map_eq_some_iff.mp hv
    exact ⟨t, ht, f, hf, rfl, gt, w, hgt, hw, (opens_rearranged h w gt).mp hopens⟩
  · rintro ⟨t, ht, f, hf, rfl, ft, v, hft, hv, hopens⟩
    refine ⟨t.unplaced, h.mem_iff.mpr ⟨t, ht, rfl⟩, f.unplaced, ?_, rfl, ft.unplaced, v.unplaced,
      ?_, ?_, (opens_rearranged h v ft).mpr hopens⟩
    · rw [NamedType.inputFields_unplaced]
      exact List.mem_map_of_mem hf
    · rw [htype, hft, Option.map_some]
    · rw [hdefault, hv, Option.map_some]

theorem opensFrom_rearranged {m : String} : OpensFrom S S.types m ↔ OpensFrom s s.types m := by
  have hempty : (Value.object [] .first).unplaced = .object [] .first := rfl
  constructor
  · rintro ⟨T, hT, hinput, hopens⟩
    obtain ⟨t, ht, rfl⟩ := h.mem_iff.mp hT
    rw [NamedType.isInputObject_unplaced] at hinput
    rw [← hempty] at hopens
    exact ⟨t, ht, hinput, (opens_rearranged h _ t).mp hopens⟩
  · rintro ⟨t, ht, hinput, hopens⟩
    refine ⟨t.unplaced, h.mem_iff.mpr ⟨t, ht, rfl⟩, ?_, ?_⟩
    · rw [NamedType.isInputObject_unplaced]
      exact hinput
    · rw [← hempty]
      exact (opens_rearranged h _ t).mpr hopens

/-- **A rearranged schema has a circle through default values** if the schema has one. -/
theorem defaults_rearranged (hs : Searchable s) :
    (defaultsFrom S S.types ⟨[], []⟩).faults = [] ↔ (defaultsFrom s s.types ⟨[], []⟩).faults = [] := by
  have hfollows : Follows S = Follows s := by
    funext n m
    exact propext (follows_rearranged h)
  rw [defaults_eq_nil_iff (searchable_rearranged h hs) fun _ ht => ht,
    defaults_eq_nil_iff hs fun _ ht => ht]
  simp only [opensFrom_rearranged h, hfollows]

/-- A field can be given a value where some objects are known to have one. -/
def fitsIn (s : Schema) (known : List String) (f : Input) : Bool :=
  match directInput? s f.type with
  | some u => known.contains u.name
  | none => true

theorem directInput?_rearranged (t : TypeRef) :
    directInput? S t = (directInput? s t).map NamedType.unplaced := by
  rw [directInput?, directInput?]
  cases t.nullable with
  | named n =>
      dsimp only
      rw [h.type?]
      cases s.type? n with
      | none => rfl
      | some u =>
          rw [Option.map_some, Option.filter_some, Option.filter_some,
            NamedType.isInputObject_unplaced]
          cases u.isInputObject <;> rfl
  | _ => rfl

theorem bindingFields_rearranged (t : NamedType) : bindingFields S t.unplaced
    = (bindingFields s t).map fun b => (b.1.unplaced, b.2.unplaced) := by
  have hparts : t.unplaced.parts = t.parts.unplaced := rfl
  rw [bindingFields, bindingFields, hparts]
  cases t.parts with
  | input fields oneOf =>
      simp only [Parts.unplaced]
      rw [List.filterMap_map, List.map_filterMap]
      refine List.filterMap_congr fun f _ => ?_
      have htype : f.unplaced.type = f.type := rfl
      rw [Function.comp_apply, htype, directInput?_rearranged h]
      split
      · rw [Option.map_map, Option.map_map]
        rfl
      · rfl
  | _ => rfl

omit h in
theorem hasFiniteValue_input {known : List String} {t : NamedType} {fields : List Input}
    {oneOf : Bool} (ht : t.parts = .input fields oneOf) : hasFiniteValue s known t
      = if oneOf then fields.isEmpty || fields.any (fitsIn s known)
        else fields.all fun f => !f.type.isNonNull || fitsIn s known f := by
  rw [hasFiniteValue, ht]
  rfl

/-- The same input objects have finite values. -/
theorem hasFiniteValue_rearranged {known known' : List String} (hknown : ∀ n, n ∈ known' ↔ n ∈ known)
    (t : NamedType) : hasFiniteValue S known' t.unplaced = hasFiniteValue s known t := by
  have hfits (f : Input) : fitsIn S known' f.unplaced = fitsIn s known f := by
    have htype : f.unplaced.type = f.type := rfl
    rw [fitsIn, fitsIn, htype, directInput?_rearranged h]
    cases directInput? s f.type with
    | none => rfl
    | some u =>
        rw [Bool.eq_iff_iff]
        exact List.contains_iff_mem.trans ((hknown u.name).trans List.contains_iff_mem.symm)
  have hparts : t.unplaced.parts = t.parts.unplaced := rfl
  cases ht : t.parts with
  | input fields oneOf =>
      rw [ht] at hparts
      rw [hasFiniteValue_input hparts, hasFiniteValue_input ht, List.isEmpty_map, List.any_map,
        List.all_map]
      simp only [Function.comp_def, hfits]
      rfl
  | _ => rw [hasFiniteValue, hasFiniteValue, hparts, ht]; rfl

theorem finiteInputs_rearranged (n : Nat) {known known' : List String}
    (hknown : ∀ m, m ∈ known' ↔ m ∈ known) (m : String) :
    m ∈ finiteInputs S n known' ↔ m ∈ finiteInputs s n known := by
  induction n generalizing known known' with
  | zero => exact hknown m
  | succ n ih =>
      refine ih fun m => ?_
      have hfound : (S.types.filter fun t => t.isInputObject && hasFiniteValue S known' t).Perm
          ((s.types.filter fun t => t.isInputObject && hasFiniteValue s known t).map
            NamedType.unplaced) := by
        refine (h.types.filter _).trans (.of_eq ?_)
        rw [List.filter_map]
        simp only [Function.comp_def, NamedType.isInputObject_unplaced,
          hasFiniteValue_rearranged h hknown]
      have hnames := hfound.map NamedType.name
      rw [List.map_map] at hnames
      exact hnames.mem_iff

theorem binds_rearranged {finite finite' : List String} (hfinite : ∀ n, n ∈ finite' ↔ n ∈ finite)
    {n m : String} : Binds S finite' n m ↔ Binds s finite n m := by
  constructor
  · rintro ⟨T, hT, rfl, b, hb, hm, rfl⟩
    obtain ⟨t, ht, rfl⟩ := h.mem_iff.mp hT
    rw [bindingFields_rearranged h] at hb
    obtain ⟨c, hc, rfl⟩ := List.mem_map.mp hb
    exact ⟨t, ht, rfl, c, hc, fun hin => hm ((hfinite _).mpr hin), rfl⟩
  · rintro ⟨t, ht, rfl, b, hb, hm, rfl⟩
    refine ⟨t.unplaced, h.mem_iff.mpr ⟨t, ht, rfl⟩, rfl, (b.1.unplaced, b.2.unplaced), ?_,
      fun hin => hm ((hfinite _).mp hin), rfl⟩
    rw [bindingFields_rearranged h]
    exact List.mem_map_of_mem hb

/-- **A rearranged schema has endless objects** if the schema has some. -/
theorem endlessFaults_rearranged : endlessFaults S = [] ↔ endlessFaults s = [] := by
  have hlength : S.types.length = s.types.length := by
    rw [h.types.length_eq, List.length_map]
  have hfinite := finiteInputs_rearranged h (s.types.length + 1) (fun m => Iff.rfl (a := m ∈ []))
  have hbinds : Binds S (finiteInputs S (s.types.length + 1) [])
      = Binds s (finiteInputs s (s.types.length + 1) []) := by
    funext n m
    exact propext (binds_rearranged h hfinite)
  have hS : endlessFaults S = (endlessFrom S (finiteInputs S (S.types.length + 1) []) S.types
    ⟨[], []⟩).faults := rfl
  have hs : endlessFaults s = (endlessFrom s (finiteInputs s (s.types.length + 1) []) s.types
    ⟨[], []⟩).faults := rfl
  rw [hS, hs, hlength, endless_eq_nil_iff h.nodup fun _ ht => ht,
    endless_eq_nil_iff h.distinct fun _ ht => ht, hbinds]
  simp only [h.mem_iff, forall_exists_index, and_imp, forall_apply_eq_imp_iff₂,
    NamedType.isInputObject_unplaced, NamedType.name_unplaced, hfinite]

/-! ## Schemas -/

variable {d D : Document} (hD : D.Perm d.unplaced) (hd : typeExtensions d = [])

include hD hd

theorem ownFaults_rearranged (t : NamedType) :
    ownFaults S (enumsMisused S D) t.unplaced = [] ↔ ownFaults s (enumsMisused s d) t = [] := by
  have hparts : t.unplaced.parts = t.parts.unplaced := rfl
  rw [ownFaults, ownFaults, List.append_eq_nil_iff, List.append_eq_nil_iff, hparts]
  refine and_congr_right fun _ => ?_
  cases t.parts with
  | scalar => exact Iff.rfl
  | object is fs | interface is fs =>
      simp only [Parts.unplaced, List.append_eq_nil_iff, fieldsFaults_rearranged h,
        interfaceFaults_rearranged h]
  | union ms => simp only [Parts.unplaced, memberFaults_rearranged h, NamedType.name_unplaced]
  | enum values =>
      simp only [Parts.unplaced, List.append_eq_nil_iff, List.map_eq_nil_iff,
        NamedType.name_unplaced, enumsMisused_rearranged h hD hd]
  | input fields oneOf => exact inputFieldsFaults_rearranged h t fields oneOf

/-- **A rearranged schema has violations** if the schema has some. -/
theorem faults_rearranged (hs : Searchable s) :
    S.faults (enumsMisused S D) = [] ↔ s.faults (enumsMisused s d) = [] := by
  have htypes : (∀ t ∈ S.types, ownFaults S (enumsMisused S D) t = [])
      ↔ ∀ t ∈ s.types, ownFaults s (enumsMisused s d) t = [] := by
    simp only [h.mem_iff, forall_exists_index, and_imp, forall_apply_eq_imp_iff₂,
      ownFaults_rearranged h hD hd]
  rw [faults, faults]
  simp only [List.append_eq_nil_iff, rootFaults_rearranged h, endlessFaults_rearranged h,
    flatMap_perm_eq_nil_iff DirectiveInfo.unplaced (directiveFaults_rearranged h) h.directives,
    foldl_typeFaults_eq_nil_iff hs fun _ ht => ht,
    foldl_typeFaults_eq_nil_iff (searchable_rearranged h hs) fun _ ht => ht, htypes,
    defaults_rearranged h hs]

end Rearranged

/-! ## Texts -/

/-- Names without a point can be told from a label. -/
theorem fieldLabel_inj {a b c d : String} (ha : '.' ∉ a.toList) (hc : '.' ∉ c.toList)
    (h : fieldLabel a b = fieldLabel c d) : a = c ∧ b = d := by
  have hsplit {x y z w : List Char} (hx : '.' ∉ x) (hz : '.' ∉ z)
      (h : x ++ '.' :: y = z ++ '.' :: w) : x = z ∧ y = w := by
    rcases List.append_eq_append_iff.mp h with ⟨r, rfl, hr⟩ | ⟨r, rfl, hr⟩
    · cases r with
      | nil => exact ⟨(List.append_nil x).symm, (List.cons.inj hr).2⟩
      | cons e r =>
          obtain ⟨rfl, -⟩ := List.cons.inj hr
          exact absurd (by simp) hz
    · cases r with
      | nil => exact ⟨List.append_nil z, (List.cons.inj hr).2.symm⟩
      | cons e r =>
          obtain ⟨rfl, -⟩ := List.cons.inj hr
          exact absurd (by simp) hx
  have hchars : a.toList ++ '.' :: b.toList = c.toList ++ '.' :: d.toList := by
    have hlist := congrArg String.toList h
    simpa [fieldLabel] using hlist
  obtain ⟨hac, hbd⟩ := hsplit ha hc hchars
  exact ⟨String.toList_inj.mp hac, String.toList_inj.mp hbd⟩

section Definitions

variable {d : Document} (hd : typeExtensions d = [])

include hd

/-- An input object that has a field is that of a definition. -/
theorem exists_inputObjectDefinition {t : NamedType} (ht : t ∈ (ofDefinitions d).types) {f : Input}
    (hf : f ∈ t.inputFields) : ∃ x, .type x ∈ d ∧ ∃ is, x.parts = .input is
      ∧ t.inputFields = is.map Input.ofDefinition := by
  have hintrospection : ∀ b ∈ introspectionTypes, b.inputFields = [] := by decide +kernel
  rcases mem_types_ofDefinitions ht with hb | ⟨-, x, hx, rfl⟩
  · unfold builtinType? at hb
    split at hb
    · rw [← Option.some.inj hb] at hf
      cases hf
    · rw [hintrospection t (List.mem_of_find?_eq_some hb)] at hf
      cases hf
  · refine ⟨x, (Check.mem_typeDefinitions_iff.mp hx).1, ?_⟩
    have hparts : (NamedType.ofDefinition (typeExtensions d) x).parts = .ofDefinition x := by
      rw [hd]
      rfl
    rw [NamedType.inputFields, hparts, Parts.ofDefinition] at hf ⊢
    cases hp : x.parts with
    | input is => exact ⟨is, rfl, rfl⟩
    | _ =>
        rw [hp] at hf
        cases hf

/-- **The search through default values can rely on a schema that was read.** -/
theorem searchable_ofDefinitions (hfine : ∀ x ∈ d, x.Fine) (hissues : Check.definitionIssues d = []) :
    Searchable (ofDefinitions d) := by
  have hspelled := spelled_ofDefinitions hfine
  have hdistinct := nodup_types_ofDefinitions hissues
  have hpoint {t : NamedType} (ht : t ∈ (ofDefinitions d).types) : '.' ∉ t.name.toList := by
    intro hmem
    exact absurd ((hspelled t ht).1.2 _ hmem) (by decide)
  constructor
  · intro t ht f hf u hu g hg hlabel
    obtain ⟨htype, hfield⟩ := fieldLabel_inj (hpoint ht) (hpoint hu) hlabel
    obtain rfl := List.inj_on_of_nodup_map hdistinct ht hu htype
    obtain ⟨x, hx, is, hparts, hfields⟩ := exists_inputObjectDefinition hd ht hf
    have hpart := ((Check.definitionIssues_eq_nil_iff hd).mp hissues).1 _ hx
    simp only [Check.definitionPart, Check.typePart, List.append_eq_nil_iff, List.map_eq_nil_iff]
      at hpart
    have hnames := (nodup_of_laterOccurrences hpart.1.1.1.1.2).1
    have hnodup : (t.inputFields.map Input.name).Nodup := by
      rw [hfields, List.map_map]
      rwa [hparts] at hnames
    exact ⟨rfl, List.inj_on_of_nodup_map hnodup hf hg hfield⟩
  · intro t ht f hf v hv
    obtain ⟨x, hx, is, hparts, hfields⟩ := exists_inputObjectDefinition hd ht hf
    have hspelled : x.Spelled := hfine _ hx
    have hinputs := hspelled.parts
    rw [hparts] at hinputs
    rw [hfields] at hf
    obtain ⟨i, hi, rfl⟩ := List.mem_map.mp hf
    exact (hinputs i hi).default v hv

end Definitions

/-- **The same definitions make a schema in any order.** -/
theorem ofText_rearranged {a b : String} {d d' : Document} (ha : Document.ofText a = .ok d)
    (hb : Document.ofText b = .ok d') (hsame : d'.unplaced.Perm d.unplaced)
    (hd : typeExtensions d = []) (hs : Schema.ofText a = .ok s) :
    ∃ s', Schema.ofText b = .ok s' ∧ ∃ S, s.Rearranged S ∧ s'.Rearranged S := by
  obtain ⟨x, hx, hissues, hmisuses, rfl, hfaults⟩ := ofText_eq_ok_iff.mp hs
  obtain rfl := Except.ok.inj (ha.symm.trans hx)
  -- the definitions of the second text without places stand between the two
  have hself : d'.unplaced.Perm d'.unplaced := .refl _
  have hd' : typeExtensions d' = [] :=
    (Check.typeExtensions_eq_nil_iff hself).mp ((Check.typeExtensions_eq_nil_iff hsame).mpr hd)
  have hissues' := (Check.definitionIssues_rearranged hself hd').mp
    ((Check.definitionIssues_rearranged hsame hd).mpr hissues)
  have h := rearranged_ofDefinitions hsame hd hissues
  have h' := rearranged_ofDefinitions hself hd' hissues'
  have hmisuses' :=
    (misuses_rearranged h' hself hd').mp ((misuses_rearranged h hsame hd).mpr hmisuses)
  have hfaults' := (faults_rearranged h' hself hd'
    (searchable_ofDefinitions hd' (fine_of_ofText hb) hissues')).mp
    ((faults_rearranged h hsame hd (searchable_ofDefinitions hd (fine_of_ofText ha) hissues)).mpr
      hfaults)
  exact ⟨ofDefinitions d', ofText_eq_ok_iff.mpr ⟨d', hb, hissues', hmisuses', rfl, hfaults'⟩,
    ofDefinitions d'.unplaced, h, h'⟩

end QueryTypings.Schema
