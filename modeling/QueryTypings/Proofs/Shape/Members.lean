/-
  Which object types have a member twice.

  1. **Sites** — every object type that stands in a printed type comes from a site: the type of an
     object, the selections of it, and whether the object has to say which type it has.  Below a key
     there is a site for each type that an object may have there (`Below`).

  2. **Types and sites** — a type shows the object types of the sites below its own and no others
     (`exists_members_of_below`, `exists_below_of_shows`).

  3. **Members** — an object type has the collected keys for its members, which differ, and before
     them `__typename` if no field of that name is selected (`names_objectType`).  The test looks at
     the names of fields, while members go by their keys, and these may be other names.

  4. **Exactness** — so names other than `__typename` never stand twice, and this one does exactly
     at the sites where only other fields are selected under it (`nodup_members_iff`).
-/
import QueryTypings.Proofs.Execution.Soundness

namespace QueryTypings.Shape

open QueryTypings.Graphql QueryTypings.Schema QueryTypings.Typescript QueryTypings.Declaration
  QueryTypings.Execution

/-! ## Sites -/

/-- What an object type is printed from. -/
structure Site where
  /-- The object has to say which type it has. -/
  typename : Bool
  type : NamedType
  selections : List Selection

/-- The fields that are collected at a site. -/
def Site.fields (g : Setting) (p : Site) : FieldMap :=
  collect g.schema g.fragments p.type false p.selections

/-- The type that is printed for a site, with fuel for the depth. -/
def Site.objectType (g : Setting) (fuel : Nat) (p : Site) : Except Shape.Fault Ty :=
  Shape.objectType g fuel p.typename p.selections p.type

/-- The second site is the first, or lies at some depth under one of its keys. -/
inductive Below (g : Setting) : Site → Site → Prop
  | self {p : Site} : Below g p p
  | inside {p p' : Site} {key : String} {e : Entry} {f : Field} {t T : NamedType} :
      (key, e) ∈ p.fields g → e.fieldName ≠ "__typename" → p.type.field? e.fieldName = some f →
      g.schema.type? f.type.base = some t → T ∈ objectsOf g.schema t →
      Below g ⟨true, T, e.selections⟩ p' → Below g p p'

/-- The object has to say which type it has, no field says so, and another field takes the key. -/
def Site.NamesTwice (g : Setting) (p : Site) : Prop :=
  p.typename = true ∧ "__typename" ∈ OrderedMap.keys (p.fields g)
    ∧ ∀ q ∈ p.fields g, q.2.fieldName ≠ "__typename"

/-! ## Types and sites -/

/-- An object type with the given members stands in the type, at any depth. -/
inductive Shows (ms : List Member) : Ty → Prop
  | self : Shows ms (.object ms)
  | member {ks : List Member} {m : Member} : m ∈ ks → Shows ms m.type → Shows ms (.object ks)
  | array {t : Ty} : Shows ms t → Shows ms (.array t)
  | orNull {t : Ty} : Shows ms t → Shows ms (.orNull t)
  | generic {name : String} {t : Ty} : Shows ms t → Shows ms (.generic name t)
  | union {ts : List Ty} {t : Ty} : t ∈ ts → Shows ms t → Shows ms (.union ts)
  | alternatives {ts : List Ty} {t : Ty} : t ∈ ts → Shows ms t → Shows ms (.alternatives ts)

section Shown

variable {g : Setting} {ms : List Member} {object : NamedType → Except Shape.Fault Ty} {w : Ty}

theorem shows_nullMarked_iff {t : TypeRef} : Shows ms (nullMarked t w) ↔ Shows ms w := by
  rw [nullMarked]
  split
  · exact Iff.rfl
  · constructor
    · intro h
      cases h with
      | orNull h => exact h
    · exact .orNull

/-- The type of a value without selections shows nothing, and has no objects. -/
theorem shows_name_iff {text : String} {Ts : List NamedType} (h : Ts = []) :
    Shows ms (.name text) ↔ ∃ T ∈ Ts, ∃ ty, object T = .ok ty ∧ Shows ms ty := by
  subst h
  constructor
  · intro hshows
    cases hshows
  · rintro ⟨T, hT, _⟩
    cases hT

/-- Alternatives show what the types of the possible objects show. -/
theorem shows_alternatives_iff {Ts : List NamedType} {tys : List Ty}
    (h : Ts.mapM object = .ok tys) :
    Shows ms (.alternatives tys) ↔ ∃ T ∈ Ts, ∃ ty, object T = .ok ty ∧ Shows ms ty := by
  obtain ⟨hfor, hback⟩ := exists_of_mapM_ok h
  constructor
  · intro hshows
    cases hshows with
    | alternatives hty hshows =>
        obtain ⟨T, hT, hok⟩ := hback _ hty
        exact ⟨T, hT, _, hok, hshows⟩
  · rintro ⟨T, hT, ty, hty, hshows⟩
    obtain ⟨ty', hmem, hok⟩ := hfor T hT
    obtain rfl := Except.ok.inj (hty.symm.trans hok)
    exact .alternatives hmem hshows

/-- The type for selections of a type shows what the types of its objects show. -/
theorem shows_selectionType_iff {t : NamedType} (hw : selectionType g object t = .ok w) :
    Shows ms w ↔ ∃ T ∈ objectsOf g.schema t, ∃ ty, object T = .ok ty ∧ Shows ms ty := by
  rw [selectionType] at hw
  rw [objectsOf]
  cases hp : t.parts with
  | object is fs =>
      simp only [hp] at hw ⊢
      simp [hw]
  | interface is fs =>
      simp only [hp] at hw ⊢
      obtain ⟨tys, htys, hok⟩ := ok_of_bind_ok hw
      cases hok
      exact shows_alternatives_iff htys
  | union ts =>
      simp only [hp] at hw ⊢
      obtain ⟨tys, htys, hok⟩ := ok_of_bind_ok hw
      cases hok
      exact shows_alternatives_iff htys
  | scalar =>
      simp only [hp] at hw ⊢
      cases hw
      exact shows_name_iff (by simp [Schema.possibleTypes, hp])
  | enum vs =>
      simp only [hp] at hw ⊢
      cases hw
      exact shows_name_iff (by simp [Schema.possibleTypes, hp])
  | input fs one =>
      simp only [hp] at hw ⊢
      cases hw
      exact shows_name_iff (by simp [Schema.possibleTypes, hp])

/-- **The type around a selection shows what the types of its objects show.** -/
theorem shows_wrapped_iff {t : TypeRef}
    (hw : wrapped g.schema (selectionType g object) t = .ok w) :
    Shows ms w ↔ ∃ t', g.schema.type? t.base = some t' ∧ ∃ T ∈ objectsOf g.schema t',
      ∃ ty, object T = .ok ty ∧ Shows ms ty := by
  induction t generalizing w with
  | nonNull t ih => exact ih hw
  | list t ih =>
      obtain ⟨item, hitem, hok⟩ := ok_of_bind_ok hw
      obtain rfl : Ty.array (nullMarked t item) = w := by
        cases hok
        rfl
      refine Iff.trans ?_ (ih hitem)
      constructor
      · intro h
        cases h with
        | array h => exact shows_nullMarked_iff.mp h
      · exact fun h => .array (shows_nullMarked_iff.mpr h)
  | named n =>
      rw [wrapped] at hw
      cases hn : g.schema.type? n with
      | none =>
          rw [hn] at hw
          cases hw
      | some t' =>
          rw [hn] at hw
          rw [shows_selectionType_iff hw]
          constructor
          · exact fun h => ⟨t', hn, h⟩
          · rintro ⟨t'', hn', h⟩
            obtain rfl := Option.some.inj (hn.symm.trans hn')
            exact h

end Shown

variable {g : Setting} {p p' : Site}

/-- The parts of the type that is printed for a site. -/
theorem Site.objectType_cases {fuel : Nat} {ty : Ty} (h : p.objectType g fuel = .ok ty) :
    ∃ n members, (p.fields g).mapM
          (fun q => keyMember g (Shape.objectType g n true) p.type q.1 q.2) = .ok members
      ∧ ty = .object (typenameMembers p.typename p.type (p.fields g) ++ members)
      ∧ fuel = n + 1 := by
  obtain ⟨n, members, hn, hmembers, hty⟩ := Execution.objectType_cases h
  exact ⟨n, members, hmembers, hty, hn⟩

/-- For every site below there is an object type, and it is shown. -/
theorem exists_members_of_below (h : Below g p p') :
    ∀ fuel ty, p.objectType g fuel = .ok ty →
      ∃ fuel' ms, p'.objectType g fuel' = .ok (.object ms) ∧ Shows ms ty := by
  induction h with
  | self =>
      intro fuel ty hty
      obtain ⟨_, members, _, rfl, _⟩ := Site.objectType_cases hty
      exact ⟨fuel, _, hty, .self⟩
  | inside he hne hf ht hT _ ih =>
      intro fuel ty hty
      obtain ⟨n, members, hmembers, rfl, _⟩ := Site.objectType_cases hty
      obtain ⟨m, hm, hok⟩ := (exists_of_mapM_ok hmembers).1 _ he
      obtain ⟨ty', hty'⟩ := exists_type_of_field hok hne hf ht hT
      obtain ⟨fuel', ms, hms, hshows⟩ := ih n ty' hty'
      refine ⟨fuel', ms, hms, .member (List.mem_append_right _ hm) ?_⟩
      rcases keyMember_cases hok with ⟨hname, _⟩ | ⟨_, f', w, hf', hw, rfl⟩
      · exact absurd hname hne
      · obtain rfl := Option.some.inj (hf.symm.trans hf')
        exact shows_nullMarked_iff.mpr
          ((shows_wrapped_iff hw).mpr ⟨_, ht, _, hT, ty', hty', hshows⟩)

/-- **What is shown comes from a site below.**  The induction is on the depth that the type was
    given. -/
theorem exists_below_of_shows (fuel : Nat) : ∀ {p : Site} {ty : Ty} {ms : List Member},
    p.objectType g fuel = .ok ty → Shows ms ty →
      ∃ p' fuel', Below g p p' ∧ p'.objectType g fuel' = .ok (.object ms) := by
  induction fuel with
  | zero =>
      intro p ty ms h
      cases h
  | succ n ih =>
      intro p ty ms hty hshows
      obtain ⟨n', members, hmembers, rfl, hn⟩ := Site.objectType_cases hty
      obtain rfl := Nat.succ.inj hn
      cases hshows with
      | self => exact ⟨p, n + 1, .self, hty⟩
      | @member _ m hm hshows =>
          rcases List.mem_append.mp hm with hm | hm
          · -- the member that names the type shows no object
            rw [mem_typenameMembers hm] at hshows
            cases hshows
          · obtain ⟨⟨key, e⟩, he, hok⟩ := (exists_of_mapM_ok hmembers).2 m hm
            rcases keyMember_cases hok with ⟨_, rfl⟩ | ⟨hne, f, w, hf, hw, rfl⟩
            · cases hshows
            · obtain ⟨t, ht, T, hT, ty, hty, hshows⟩ :=
                (shows_wrapped_iff hw).mp (shows_nullMarked_iff.mp hshows)
              obtain ⟨p', fuel', hbelow, hp'⟩ := ih (p := ⟨true, T, e.selections⟩) hty hshows
              exact ⟨p', fuel', .inside he hne hf ht hT hbelow, hp'⟩

/-! ## Members -/

/-- **The names of the members**: the keys, and before them `__typename` if there is need. -/
theorem names_objectType {fuel : Nat} {ms : List Member}
    (h : p.objectType g fuel = .ok (.object ms)) :
    ms.map Member.name
      = (typenameMembers p.typename p.type (p.fields g)).map Member.name
        ++ OrderedMap.keys (p.fields g) := by
  obtain ⟨n, members, hmembers, hty, _⟩ := Site.objectType_cases h
  obtain rfl := Ty.object.inj hty
  rw [List.map_append, OrderedMap.keys]
  exact congrArg _ (map_of_mapM_ok hmembers fun q _ m hm => name_keyMember hm)

theorem nodup_keys_fields (g : Setting) (p : Site) : (OrderedMap.keys (p.fields g)).Nodup := by
  rw [Site.fields, collect_eq_grouped]
  exact nodup_keys_grouped _

/-- The members of a site have different names, unless the site names its type twice. -/
theorem nodup_names_iff {fuel : Nat} {ms : List Member}
    (h : p.objectType g fuel = .ok (.object ms)) :
    (ms.map Member.name).Nodup ↔ ¬ p.NamesTwice g := by
  rw [names_objectType h, typenameMembers]
  have hkeys := nodup_keys_fields g p
  have hany : ((p.fields g).any fun q => q.2.fieldName == "__typename") = false
      ↔ ∀ q ∈ p.fields g, q.2.fieldName ≠ "__typename" := by
    simp [List.any_eq_false]
  split
  · rename_i hadd
    rw [Bool.and_eq_true, Bool.not_eq_true', hany] at hadd
    show ("__typename" :: OrderedMap.keys (p.fields g)).Nodup ↔ _
    rw [List.nodup_cons]
    constructor
    · exact fun hnodup htwice => hnodup.1 htwice.2.1
    · exact fun htwice => ⟨fun hmem => htwice ⟨hadd.1, hmem, hadd.2⟩, hkeys⟩
  · rename_i hadd
    rw [Bool.and_eq_true, Bool.not_eq_true', hany] at hadd
    exact ⟨fun _ htwice => hadd ⟨htwice.1, htwice.2.2⟩, fun _ => hkeys⟩

/-- No other name than `__typename` is there twice. -/
theorem nodup_other_names {fuel : Nat} {ms : List Member}
    (h : p.objectType g fuel = .ok (.object ms)) :
    ((ms.map Member.name).filter fun name => name ≠ "__typename").Nodup := by
  have hnone : ((typenameMembers p.typename p.type (p.fields g)).map Member.name).filter
      (fun name => name ≠ "__typename") = [] := by
    rw [List.filter_eq_nil_iff]
    intro name hname
    obtain ⟨m, hm, rfl⟩ := List.mem_map.mp hname
    rw [mem_typenameMembers hm]
    simp [Member.name]
  rw [names_objectType h, List.filter_append, hnone, List.nil_append]
  exact (nodup_keys_fields g p).filter _

/-! ## Exactness -/

/-- **Which object types have a member twice.**  Where a type is printed for an object, names other
    than `__typename` stand once in every object type in it; and all names do so if and only if at
    no site an object has to say which type it has, has no field that says so, and has another
    field under the key `__typename`. -/
theorem nodup_members_iff {fuel : Nat} {p : Site} {ty : Ty} (h : p.objectType g fuel = .ok ty) :
    (∀ ms, Shows ms ty → ((ms.map Member.name).filter fun name => name ≠ "__typename").Nodup)
      ∧ ((∀ ms, Shows ms ty → (ms.map Member.name).Nodup)
          ↔ ∀ p', Below g p p' → ¬ p'.NamesTwice g) := by
  refine ⟨fun ms hshows => ?_, fun hnodup p' hbelow => ?_, fun hsites ms hshows => ?_⟩
  · obtain ⟨p', fuel', _, hp'⟩ := exists_below_of_shows fuel h hshows
    exact nodup_other_names hp'
  · obtain ⟨fuel', ms, hp', hshows⟩ := exists_members_of_below hbelow fuel ty h
    exact (nodup_names_iff hp').mp (hnodup ms hshows)
  · obtain ⟨p', fuel', hbelow, hp'⟩ := exists_below_of_shows fuel h hshows
    exact (nodup_names_iff hp').mpr (hsites p' hbelow)

/-! ## Another field under the key -/

/-- The selections `pair { __typename: x }`. -/
def aliasedSelections : List Selection :=
  [.branch (bareField "pair") .first
    [.leaf { bareField "x" with aliasName := some ⟨"__typename", .first⟩ }]]

/-- A query for the first text of a pair, under the key `__typename`. -/
def aliasedSite : Site := ⟨false, pairQueryType, aliasedSelections⟩

/-- The type of the pair has the member `__typename` for its type and another one for the text. -/
def aliasedMembers : List Member :=
  [.mk "__typename" true (.literal "Pair"), .mk "__typename" false (.name "string")]

theorem nodup_members_iff_aliased :
    aliasedSite.objectType sharedKey (depthBound sharedKey aliasedSelections)
        = .ok (.object [.mk "pair" true (.orNull (.object aliasedMembers))])
      ∧ (∃ p', Below sharedKey aliasedSite p' ∧ p'.NamesTwice sharedKey)
      ∧ Shows aliasedMembers (.object [.mk "pair" true (.orNull (.object aliasedMembers))])
      ∧ ¬ (aliasedMembers.map Member.name).Nodup := by
  have htype : aliasedSite.objectType sharedKey (depthBound sharedKey aliasedSelections)
      = .ok (.object [.mk "pair" true (.orNull (.object aliasedMembers))]) := rfl
  have hshows : Shows aliasedMembers
      (.object [.mk "pair" true (.orNull (.object aliasedMembers))]) :=
    .member (List.mem_singleton_self _) (.orNull .self)
  have hnames : ¬ (aliasedMembers.map Member.name).Nodup := by decide
  obtain ⟨-, hiff⟩ := nodup_members_iff htype
  refine ⟨htype, ?_, hshows, hnames⟩
  by_contra hnone
  push Not at hnone
  exact hnames (hiff.mpr hnone aliasedMembers hshows)

end QueryTypings.Shape
