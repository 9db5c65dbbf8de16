/-
  What mapping the scalar options of a command line describe.

  1. **Sides** — an entry has two sides, in front of its first equals sign and behind it.  It is
     malformed if it has no equals sign, or if a side is blank; otherwise it assigns to a name a
     type, which may hold further equals signs.  What is read from an entry says which of the two it
     is (`scalarEntry?_eq_none_iff`, `scalarEntry?_eq_some_iff`).

  2. **Lists** — the first malformed entry is reported (`firstMalformed?_eq_some_iff`); without one,
     the mapping has for each name the type that the last entry for the name assigns
     (`get?_mapping_iff`).  The induction is from the end of the list, where the last entry stands.

  3. **Written entries** — a mapping with names and types that can be written, written as entries in
     any order, is read back (`exists_mapping_of_perm`).
-/
import QueryTypings.Proofs.CommandLine.Configuring
import Mathlib.Data.List.Perm.Basic

namespace QueryTypings

open QueryTypings.Text

/-! ## Sides -/

namespace Text

theorem dropEndWhile_eq_nil_iff {p : Char → Bool} {cs : List Char} :
    dropEndWhile p cs = [] ↔ ∀ c ∈ cs, p c = true := by
  induction cs with
  | nil => exact iff_of_true rfl (List.forall_mem_nil _)
  | cons c r ih =>
      rw [dropEndWhile, List.forall_mem_cons, ← ih]
      cases dropEndWhile p r with
      | nil => simp
      | cons d t => simp

/-- Nothing is left of a text exactly if it is blank. -/
theorem trim_eq_nil_iff {cs : List Char} : trim cs = [] ↔ ∀ c ∈ cs, isBlank c = true := by
  rw [trim, trimEnd, dropEndWhile_eq_nil_iff, trimStart]
  constructor
  · intro hrest
    -- what is left begins with no blank, so nothing is left
    refine List.dropWhile_eq_nil_iff.mp ?_
    have hfirst := List.head?_dropWhile_not isBlank cs
    cases hcs : cs.dropWhile isBlank with
    | nil => rfl
    | cons d t =>
        rw [hcs] at hrest hfirst
        have hd := hrest d List.mem_cons_self
        simp [hd] at hfirst
  · intro hall c hc
    exact hall c ((List.dropWhile_suffix _).subset hc)

end Text

namespace Config

variable {entry name type : String} {before after : List Char}

/-- The two sides of an entry: what stands in front of its first equals sign, and behind it. -/
structure IsCut (entry : String) (before after : List Char) : Prop where
  text : entry.toList = before ++ '=' :: after
  first : '=' ∉ before

/-- Nothing but blanks. -/
def IsBlankSide (side : List Char) : Prop := ∀ c ∈ side, isBlank c = true

/-- The entry has no equals sign, or one of its sides is blank. -/
def IsMalformed (entry : String) : Prop :=
  '=' ∉ entry.toList
    ∨ ∃ before after, IsCut entry before after ∧ (IsBlankSide before ∨ IsBlankSide after)

/-- The entry gives the name the type: they are its sides without the blanks around them. -/
def Assigns (entry name type : String) : Prop :=
  ∃ before after, IsCut entry before after ∧ ¬ IsBlankSide before ∧ ¬ IsBlankSide after
    ∧ name = String.ofList (trim before) ∧ type = String.ofList (trim after)

theorem isEmpty_trim {side : List Char} : (trim side).isEmpty = true ↔ IsBlankSide side := by
  rw [List.isEmpty_iff, trim_eq_nil_iff, IsBlankSide]

theorem forall_bne_of_not_mem {cs : List Char} (h : '=' ∉ cs) : ∀ c ∈ cs, (c != '=') = true := by
  intro c hc
  have hne : c ≠ '=' := fun heq => h (heq ▸ hc)
  simpa using hne

/-- An entry is cut where characters other than the equals sign end. -/
theorem IsCut.takeWhile (h : IsCut entry before after) :
    entry.toList.takeWhile (· != '=') = before := by
  rw [h.text, List.takeWhile_append_of_pos (forall_bne_of_not_mem h.first),
    List.takeWhile_cons_of_neg (by simp), List.append_nil]

theorem IsCut.dropWhile (h : IsCut entry before after) :
    entry.toList.dropWhile (· != '=') = '=' :: after := by
  rw [h.text, List.dropWhile_append_of_pos (forall_bne_of_not_mem h.first),
    List.dropWhile_cons_of_neg (by simp)]

/-- An entry has one pair of sides at most. -/
theorem IsCut.unique {before' after' : List Char} (h : IsCut entry before after)
    (h' : IsCut entry before' after') : before = before' ∧ after = after' :=
  ⟨h.takeWhile.symm.trans h'.takeWhile, (List.cons.inj (h.dropWhile.symm.trans h'.dropWhile)).2⟩

/-- An entry with an equals sign has sides. -/
theorem exists_isCut (h : '=' ∈ entry.toList) : ∃ before after, IsCut entry before after := by
  obtain ⟨before, after, htext, hfirst⟩ := List.eq_append_cons_of_mem h
  exact ⟨before, after, htext, hfirst⟩

theorem scalarEntry?_of_not_mem (h : '=' ∉ entry.toList) : scalarEntry? entry = none := by
  rw [ scalarEntry?, List.dropWhile_eq_nil_iff.mpr (forall_bne_of_not_mem h)]

theorem scalarEntry?_of_isCut (h : IsCut entry before after) :
    scalarEntry? entry
      = if (trim before).isEmpty || (trim after).isEmpty then none
        else some (String.ofList (trim before), String.ofList (trim after)) := by
  rw [ scalarEntry?, h.dropWhile, h.takeWhile]

/-- **Nothing is read from a malformed entry**, and from no other is nothing read. -/
theorem scalarEntry?_eq_none_iff : scalarEntry? entry = none ↔ IsMalformed entry := by
  by_cases hmem : '=' ∈ entry.toList
  · obtain ⟨before, after, hcut⟩ := exists_isCut hmem
    have hblank : IsMalformed entry ↔ IsBlankSide before ∨ IsBlankSide after := by
      constructor
      · rintro (hnot | ⟨before', after', hcut', hsides⟩)
        · exact absurd hmem hnot
        · obtain ⟨rfl, rfl⟩ := hcut.unique hcut'
          exact hsides
      · exact fun hsides => .inr ⟨before, after, hcut, hsides⟩
    rw [hblank, scalarEntry?_of_isCut hcut, ← isEmpty_trim, ← isEmpty_trim, ← Bool.or_eq_true]
    split <;> simp_all
  · exact iff_of_true (scalarEntry?_of_not_mem hmem) (.inl hmem)

/-- **What is read from an entry is what it assigns.** -/
theorem scalarEntry?_eq_some_iff :
    scalarEntry? entry = some (name, type) ↔ Assigns entry name type := by
  constructor
  · intro h
    have hmem : '=' ∈ entry.toList := by
      by_contra hnot
      cases h.symm.trans (scalarEntry?_of_not_mem hnot)
    obtain ⟨before, after, hcut⟩ := exists_isCut hmem
    rw [scalarEntry?_of_isCut hcut] at h
    split at h
    · cases h
    · rename_i hsides
      rw [Bool.or_eq_true, not_or, isEmpty_trim, isEmpty_trim] at hsides
      obtain ⟨rfl, rfl⟩ := Prod.mk.inj (Option.some.inj h)
      exact ⟨before, after, hcut, hsides.1, hsides.2, rfl, rfl⟩
  · rintro ⟨before, after, hcut, hbefore, hafter, rfl, rfl⟩
    rw [scalarEntry?_of_isCut hcut, if_neg]
    rw [Bool.or_eq_true, not_or, isEmpty_trim, isEmpty_trim]
    exact ⟨hbefore, hafter⟩

/-! ## Lists -/

/-- The entry is malformed, and no entry in front of it is. -/
def IsFirstMalformed (entries : List String) (entry : String) : Prop :=
  ∃ before after, entries = before ++ entry :: after ∧ IsMalformed entry
    ∧ ∀ e ∈ before, ¬ IsMalformed e

/-- An entry gives the name the type, and no entry behind it gives the name any. -/
def LastAssigns (entries : List String) (name type : String) : Prop :=
  ∃ before entry after, entries = before ++ entry :: after ∧ Assigns entry name type
    ∧ ∀ e ∈ after, ∀ t, ¬ Assigns e name t

variable {entries : List String}

theorem firstMalformed?_eq_some_iff :
    firstMalformed? entries = some entry ↔ IsFirstMalformed entries entry := by
  have hiff : ∀ e, (Option.isNone <| scalarEntry? e) = true ↔ IsMalformed e := fun e => by
    rw [Option.isNone_iff_eq_none, scalarEntry?_eq_none_iff]
  rw [firstMalformed?, List.find?_eq_some_iff_append, IsFirstMalformed]
  simp only [Bool.not_eq_true', ← Bool.not_eq_true, hiff]
  constructor
  · rintro ⟨hbad, before, after, rfl, hbefore⟩
    exact ⟨before, after, rfl, hbad, hbefore⟩
  · rintro ⟨before, after, rfl, hbad, hbefore⟩
    exact ⟨hbad, before, after, rfl, hbefore⟩

/-- The mapping that entries describe, malformed ones passed over. -/
def mapping (entries : List String) : OrderedMap String :=
  OrderedMap.ofPairs (entries.filterMap scalarEntry?)

theorem addScalars_eq {m : OrderedMap String} (h : ∀ e ∈ entries, ¬ IsMalformed e) :
    addScalars entries m
      = .ok ((entries.filterMap scalarEntry?).foldl (fun m p => OrderedMap.put p.1 p.2 m) m) := by
  induction entries generalizing m with
  | nil => rfl
  | cons e r ih =>
      obtain ⟨he, hr⟩ := List.forall_mem_cons.mp h
      obtain ⟨pair, hpair⟩ := Option.ne_none_iff_exists'.mp (mt scalarEntry?_eq_none_iff.mp he)
      rw [addScalars, List.filterMap_cons, hpair]
      exact ih hr

/-- Without a malformed entry there is the mapping. -/
theorem scalarsOfEntries_eq (hne : entries ≠ []) (h : ∀ e ∈ entries, ¬ IsMalformed e) :
    scalarsOfEntries entries = .ok (some (mapping entries)) := by
  obtain ⟨e, r, rfl⟩ := List.exists_cons_of_ne_nil hne
  rw [scalarsOfEntries, addScalars_eq h]
  · rfl
  · exact List.cons_ne_nil e r

theorem mapping_concat (entries : List String) (entry : String) :
    mapping (entries ++ [entry])
      = match scalarEntry? entry with
        | none => mapping entries
        | some (name, type) => OrderedMap.put name type (mapping entries) := by
  rw [mapping, mapping, OrderedMap.ofPairs, OrderedMap.ofPairs, List.filterMap_append,
    List.foldl_append, List.filterMap_cons, List.filterMap_nil]
  cases scalarEntry? entry <;> rfl

/-- No name is there twice. -/
theorem nodup_keys_mapping (entries : List String) : (OrderedMap.keys (mapping entries)).Nodup := by
  induction entries using List.reverseRecOn with
  | nil => exact List.nodup_nil
  | append_singleton entries entry ih =>
      rw [mapping_concat]
      cases scalarEntry? entry with
      | none => exact ih
      | some pair => exact OrderedMap.nodup_keys_put ih _ _

/-- A last entry decides about the name that it assigns a type, and about no other. -/
theorem lastAssigns_concat :
    LastAssigns (entries ++ [entry]) name type
      ↔ Assigns entry name type
        ∨ (∀ t, ¬ Assigns entry name t) ∧ LastAssigns entries name type := by
  constructor
  · rintro ⟨before, e, after, heq, hassigns, hnone⟩
    rcases List.eq_nil_or_concat after with rfl | ⟨rest, last, rfl⟩
    · obtain ⟨-, hlast⟩ := List.append_inj' heq rfl
      exact .inl (List.head_eq_of_cons_eq hlast ▸ hassigns)
    · rw [List.concat_eq_append, ← List.cons_append, ← List.append_assoc] at heq
      obtain ⟨rfl, hlast⟩ := List.append_inj' heq rfl
      obtain rfl := List.head_eq_of_cons_eq hlast
      refine .inr ⟨hnone _ (by simp), before, e, rest, rfl, hassigns, fun x hx => hnone x ?_⟩
      simp [hx]
  · rintro (hassigns | ⟨hnone, before, e, after, rfl, hassigns, hafter⟩)
    · exact ⟨entries, entry, [], rfl, hassigns, List.forall_mem_nil _⟩
    · refine ⟨before, e, after ++ [entry], by simp, hassigns, fun x hx => ?_⟩
      rcases List.mem_append.mp hx with hx | hx
      · exact hafter x hx
      · exact List.mem_singleton.mp hx ▸ hnone

/-- **The last entry for a name decides.** -/
theorem get?_mapping_iff :
    OrderedMap.get? name (mapping entries) = some type ↔ LastAssigns entries name type := by
  induction entries using List.reverseRecOn with
  | nil =>
      refine iff_of_false (fun h => by cases h) ?_
      rintro ⟨before, e, after, heq, -⟩
      exact List.append_ne_nil_of_right_ne_nil before (List.cons_ne_nil e after) heq.symm
  | append_singleton entries entry ih =>
      rw [mapping_concat, lastAssigns_concat, ← ih]
      simp only [← scalarEntry?_eq_some_iff]
      cases scalarEntry? entry with
      | none => simp
      | some pair =>
          obtain ⟨n, t⟩ := pair
          by_cases hn : name = n
          · subst hn
            simp [OrderedMap.get?_put_self]
          · simp [OrderedMap.get?_put_of_ne hn, Ne.symm hn]

/-! ## Written entries -/

/-- A name and its type as an entry. -/
def writtenEntry (p : String × String) : String := p.1 ++ "=" ++ p.2

/-- The name and the type can be told from their entry: there is something of either, no blanks are
    around it, and no equals sign is in the name. -/
structure IsWritable (p : String × String) : Prop where
  name_ne : p.1 ≠ ""
  name_trimmed : trim p.1.toList = p.1.toList
  name_plain : '=' ∉ p.1.toList
  type_ne : p.2 ≠ ""
  type_trimmed : trim p.2.toList = p.2.toList

theorem not_isBlankSide {text : String} (hne : text ≠ "")
    (htrimmed : trim text.toList = text.toList) : ¬ IsBlankSide text.toList := by
  intro hblank
  have hnil : text.toList = [] := htrimmed.symm.trans (trim_eq_nil_iff.mpr hblank)
  exact hne (String.toList_eq_nil_iff.mp hnil)

/-- What is written is read. -/
theorem scalarEntry?_writtenEntry {p : String × String} (h : IsWritable p) :
    scalarEntry? (writtenEntry p) = some p := by
  have hcut : IsCut (writtenEntry p) p.1.toList p.2.toList := by
    refine ⟨?_, h.name_plain⟩
    simp [writtenEntry]
  refine scalarEntry?_eq_some_iff.mpr ⟨_, _, hcut, not_isBlankSide h.name_ne h.name_trimmed,
    not_isBlankSide h.type_ne h.type_trimmed, ?_, ?_⟩
  · rw [h.name_trimmed, String.ofList_toList]
  · rw [h.type_trimmed, String.ofList_toList]

theorem filterMap_writtenEntry {pairs : List (String × String)} (h : ∀ p ∈ pairs, IsWritable p) :
    (pairs.map writtenEntry).filterMap scalarEntry? = pairs := by
  induction pairs with
  | nil => rfl
  | cons p r ih =>
      obtain ⟨hp, hr⟩ := List.forall_mem_cons.mp h
      rw [List.map_cons, List.filterMap_cons, scalarEntry?_writtenEntry hp, ih hr]

/-- **A mapping is read back from its entries in any order.** -/
theorem exists_mapping_of_perm {m : OrderedMap String} (hm : (OrderedMap.keys m).Nodup)
    (h : ∀ p ∈ m, IsWritable p) (hentries : entries.Perm (m.map writtenEntry)) :
    (∀ e ∈ entries, ¬ IsMalformed e) ∧ (mapping entries).Perm m := by
  -- the entries are written from the pairs in some order
  obtain ⟨pairs, hwritten, hpairs⟩ : ∃ pairs : List (String × String),
      entries = pairs.map writtenEntry ∧ pairs.Perm m := by
    obtain ⟨pairs, hrel, hperm⟩ := List.perm_comp_forall₂ (r := fun e p => e = writtenEntry p)
      hentries (List.forall₂_map_left_iff.mpr (List.forall₂_same.mpr fun _ _ => rfl))
    refine ⟨pairs, ?_, hperm⟩
    rw [← List.forall₂_eq_eq_eq, List.forall₂_map_right_iff]
    exact hrel
  have hwritable : ∀ p ∈ pairs, IsWritable p := fun p hp => h p (hpairs.mem_iff.mp hp)
  have hkeys : (OrderedMap.keys pairs).Perm (OrderedMap.keys m) := hpairs.map _
  have hdistinct : (OrderedMap.keys pairs).Nodup := hkeys.nodup_iff.mpr hm
  subst hwritten
  refine ⟨fun e he hbad => ?_, ?_⟩
  · obtain ⟨p, hp, rfl⟩ := List.mem_map.mp he
    cases (scalarEntry?_eq_none_iff.mpr hbad).symm.trans (scalarEntry?_writtenEntry (hwritable p hp))
  · rw [mapping, filterMap_writtenEntry hwritable, OrderedMap.ofPairs_of_nodup hdistinct]
    exact hpairs

/-! ## Decoding -/

/-- If no malformed entry comes first, none is malformed. -/
theorem not_isMalformed_of_not_first (h : ∀ entry, ¬ IsFirstMalformed entries entry) :
    ∀ e ∈ entries, ¬ IsMalformed e := by
  have hnone : firstMalformed? entries = none := by
    refine Option.eq_none_iff_forall_ne_some.mpr fun entry hentry => ?_
    exact h entry (firstMalformed?_eq_some_iff.mp hentry)
  intro e he hbad
  have hread := List.find?_eq_none.mp hnone e he
  exact hread (Option.isNone_iff_eq_none.mpr (scalarEntry?_eq_none_iff.mpr hbad))

/-- **Scalar options decode exactly.**  The first malformed entry is reported.  Without one there is
    a mapping, in which each name that is assigned a type has the type of its last entry.  And a
    mapping of writable names and types comes back from its entries in any order. -/
theorem scalarsOfEntries_decodes {entries : List String} (hne : entries ≠ []) :
    (∀ fault, scalarsOfEntries entries = .error fault ↔ IsFirstMalformed entries fault.entry)
      ∧ ((∀ entry, ¬ IsFirstMalformed entries entry) →
          ∃ m, scalarsOfEntries entries = .ok (some m) ∧ (OrderedMap.keys m).Nodup
            ∧ ∀ name type, OrderedMap.get? name m = some type ↔ LastAssigns entries name type)
      ∧ ∀ m : OrderedMap String, (OrderedMap.keys m).Nodup → (∀ p ∈ m, IsWritable p) →
          entries.Perm (m.map writtenEntry) →
          ∃ found, scalarsOfEntries entries = .ok (some found) ∧ found.Perm m
            ∧ ∀ name, OrderedMap.get? name found = OrderedMap.get? name m := by
  refine ⟨fun fault => ?_, fun hnone => ?_, fun m hm hwritable hperm => ?_⟩
  · rw [scalarsOfEntries_error_iff, firstMalformed?_eq_some_iff]
  · have hgood := not_isMalformed_of_not_first hnone
    exact ⟨mapping entries, scalarsOfEntries_eq hne hgood, nodup_keys_mapping entries,
      fun _ _ => get?_mapping_iff⟩
  · obtain ⟨hgood, hfound⟩ := exists_mapping_of_perm hm hwritable hperm
    exact ⟨mapping entries, scalarsOfEntries_eq hne hgood, hfound,
      OrderedMap.get?_of_perm (nodup_keys_mapping entries) hfound⟩

/-- Two entries for one name, with blanks of several kinds, and a type with an equals sign. -/
def spacedEntries : List String := ["ID = string", "Pair=A=B", "\u00a0ID\t=number "]

/-- The second entry of three is the first that is malformed; without it the last entry for a name
    counts; and entries may be written in another order. -/
theorem scalarsOfEntries_decodes_spaced :
    IsFirstMalformed ["ID=string", "Pair", "=B"] "Pair"
      ∧ scalarsOfEntries ["ID=string", "Pair", "=B"] = .error ⟨"Pair"⟩
      ∧ (MalformedScalar.mk "Pair").message = "Expected NAME=TSTYPE, got 'Pair'"
      ∧ (∀ entry, ¬ IsFirstMalformed spacedEntries entry)
      ∧ LastAssigns spacedEntries "ID" "number"
      ∧ (∃ m, scalarsOfEntries spacedEntries = .ok (some m)
          ∧ OrderedMap.get? "ID" m = some "number" ∧ OrderedMap.get? "Pair" m = some "A=B")
      ∧ ["Pair=A=B", "ID=string"].Perm ([("ID", "string"), ("Pair", "A=B")].map writtenEntry)
      ∧ ∃ found, scalarsOfEntries ["Pair=A=B", "ID=string"] = .ok (some found)
          ∧ OrderedMap.get? "ID" found = some "string"
          ∧ OrderedMap.get? "Pair" found = some "A=B" := by
  have hbad : IsFirstMalformed ["ID=string", "Pair", "=B"] "Pair" :=
    firstMalformed?_eq_some_iff.mp (by decide +kernel)
  have hnone : firstMalformed? spacedEntries = none := by decide +kernel
  have hgood : ∀ entry, ¬ IsFirstMalformed spacedEntries entry := fun entry hentry => by
    cases hnone.symm.trans (firstMalformed?_eq_some_iff.mpr hentry)
  have hid : LastAssigns spacedEntries "ID" "number" :=
    ⟨["ID = string", "Pair=A=B"], "\u00a0ID\t=number ", [], rfl,
      scalarEntry?_eq_some_iff.mp (by decide +kernel), List.forall_mem_nil _⟩
  have hpair : LastAssigns spacedEntries "Pair" "A=B" := by
    refine ⟨["ID = string"], "Pair=A=B", ["\u00a0ID\t=number "], rfl,
      scalarEntry?_eq_some_iff.mp (by decide +kernel), fun e he t hassigns => ?_⟩
    obtain rfl := List.mem_singleton.mp he
    have hread : scalarEntry? "\u00a0ID\t=number " = some ("ID", "number") := by decide +kernel
    have hname : "ID" = "Pair" :=
      congrArg Prod.fst (Option.some.inj (hread.symm.trans (scalarEntry?_eq_some_iff.mpr hassigns)))
    exact absurd hname (by decide)
  have hperm : ["Pair=A=B", "ID=string"].Perm
      ([("ID", "string"), ("Pair", "A=B")].map writtenEntry) := by decide +kernel
  have hwritable : ∀ p ∈ [("ID", "string"), ("Pair", "A=B")], IsWritable p := by
    intro p hp
    rcases List.mem_cons.mp hp with rfl | hp
    · exact ⟨by decide, by decide, by decide, by decide, by decide⟩
    · obtain rfl := List.mem_singleton.mp hp
      exact ⟨by decide, by decide, by decide, by decide, by decide⟩
  refine ⟨hbad, ?_, by decide +kernel, hgood, hid, ?_, hperm, ?_⟩
  · exact ((scalarsOfEntries_decodes (List.cons_ne_nil _ _)).1 ⟨"Pair"⟩).mpr hbad
  · obtain ⟨m, hm, -, hlast⟩ := (scalarsOfEntries_decodes (List.cons_ne_nil _ _)).2.1 hgood
    exact ⟨m, hm, (hlast _ _).mpr hid, (hlast _ _).mpr hpair⟩
  · obtain ⟨found, hfound, -, hsame⟩ := (scalarsOfEntries_decodes (List.cons_ne_nil _ _)).2.2
      [("ID", "string"), ("Pair", "A=B")] (by decide) hwritable hperm
    exact ⟨found, hfound, hsame "ID", hsame "Pair"⟩

end Config

end QueryTypings
