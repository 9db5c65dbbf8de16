/-
  What the filter for reports leaves of the query files.

  A report is judged twice: its path must be that of a query file, and its text must not begin with
  the text of the schema's path.  The second test is one on texts, and meets more than the schema.

  1. **Texts** — the text of a place begins with that of another one if both lie in one directory, or
     the first lies deeper there, and a name begins with a name (`text_prefix_iff`).

  2. **Settings** — the schema of every valid configuration is a place (`isPlace_resolvedSchema`).

  3. **Filter** — so the filter differs from the test for query files exactly on the query files that
     begin like the schema without being the schema (`filter_agrees_iff`).
-/
import QueryTypings.Config.Filter
import QueryTypings.Proofs.Config.Validation
import QueryTypings.Proofs.Project.Start

namespace QueryTypings

open QueryTypings.Text

/-! ## Texts -/

section Pieces

variable {sep : Char} {a b x y : List Char}

/-- A text without the separator ends, as the beginning of another one, before a separator there. -/
theorem prefix_append_sep_iff (ha : sep ∉ a) : a <+: b ++ sep :: y ↔ a <+: b := by
  induction a generalizing b with
  | nil => exact iff_of_true List.nil_prefix List.nil_prefix
  | cons c r ih =>
      obtain ⟨hc, hr⟩ := List.ne_and_not_mem_of_not_mem_cons ha
      cases b with
      | nil =>
          rw [List.nil_append, List.cons_prefix_cons]
          exact iff_of_false (fun h => hc h.1.symm) (by simp)
      | cons d t => rw [List.cons_append, List.cons_prefix_cons, List.cons_prefix_cons, ih hr]

/-- Texts with a separator begin alike if their first pieces are the same and the rests begin
    alike. -/
theorem append_sep_prefix_iff (ha : sep ∉ a) (hb : sep ∉ b) :
    a ++ sep :: x <+: b ++ sep :: y ↔ a = b ∧ x <+: y := by
  induction a generalizing b with
  | nil =>
      cases b with
      | nil => simp [List.cons_prefix_cons]
      | cons d t =>
          obtain ⟨hd, -⟩ := List.ne_and_not_mem_of_not_mem_cons hb
          rw [List.nil_append, List.cons_append, List.cons_prefix_cons]
          exact iff_of_false (fun h => hd h.1) (fun h => (by cases h.1))
  | cons c r ih =>
      obtain ⟨hc, hr⟩ := List.ne_and_not_mem_of_not_mem_cons ha
      cases b with
      | nil =>
          rw [List.cons_append, List.nil_append, List.cons_prefix_cons]
          exact iff_of_false (fun h => hc h.1.symm) (fun h => (by cases h.1))
      | cons d t =>
          obtain ⟨-, ht⟩ := List.ne_and_not_mem_of_not_mem_cons hb
          rw [List.cons_append, List.cons_append, List.cons_prefix_cons, ih hr ht, List.cons.injEq,
            and_assoc]

end Pieces

namespace Path

deriving instance ReflBEq, LawfulBEq for Origin

deriving instance ReflBEq, LawfulBEq for Path

/-- The last name of the way `front` is the beginning of a name on the way `names`, at the same depth
    and behind the same names. -/
def BeginsLike (front names : List String) : Prop :=
  front = [] ∨ ∃ name rest, names = front.dropLast ++ name :: rest
    ∧ (front.getLastD "").toList <+: name.toList

/-- Behind a name that both ways have, the rests decide. -/
theorem beginsLike_cons {name other : String} {front names : List String} (hfront : front ≠ []) :
    BeginsLike (name :: front) (other :: names) ↔ name = other ∧ BeginsLike front names := by
  have hlast : (name :: front).getLastD "" = front.getLastD "" := by
    obtain ⟨n, r, rfl⟩ := List.exists_cons_of_ne_nil hfront
    rfl
  simp only [BeginsLike, hlast, List.dropLast_cons_of_ne_nil hfront, List.cons_append,
    List.cons.injEq, hfront, List.cons_ne_nil, false_or]
  constructor
  · rintro ⟨n, r, ⟨rfl, h⟩, hn⟩
    exact ⟨rfl, n, r, h, hn⟩
  · rintro ⟨rfl, n, r, h, hn⟩
    exact ⟨n, r, ⟨rfl, h⟩, hn⟩

/-- Names joined by slashes begin alike if their ways do.  The induction goes down the way in
    front; only its last name may be cut short. -/
theorem intercal_prefix_iff {front names : List String} (hfront : ∀ n ∈ front, IsName n)
    (hnames : ∀ n ∈ names, IsName n) :
    intercal ['/'] (front.map String.toList) <+: intercal ['/'] (names.map String.toList)
      ↔ BeginsLike front names := by
  induction front generalizing names with
  | nil => exact iff_of_true List.nil_prefix (Or.inl rfl)
  | cons a r ih =>
      obtain ⟨ha, hr⟩ := List.forall_mem_cons.mp hfront
      cases names with
      | nil =>
          refine iff_of_false (fun h => ?_) (fun h => ?_)
          · have hnil := List.prefix_nil.mp h
            cases r with
            | nil => exact ha.ne_nil hnil
            | cons b t => simp [intercal] at hnil
          · simp [BeginsLike] at h
      | cons n t =>
          obtain ⟨hn, ht⟩ := List.forall_mem_cons.mp hnames
          cases r with
          | nil =>
              have hone : BeginsLike [a] (n :: t) ↔ a.toList <+: n.toList := by
                simp [BeginsLike]
              rw [hone]
              cases t with
              | nil => exact Iff.rfl
              | cons m u =>
                  simp only [List.map_cons, List.map_nil, intercal, List.append_assoc,
                    List.singleton_append]
                  exact prefix_append_sep_iff ha.2
          | cons b s =>
              rw [beginsLike_cons (List.cons_ne_nil b s), ← ih hr ht]
              simp only [List.map_cons, intercal, List.append_assoc, List.singleton_append]
              cases t with
              | nil =>
                  refine iff_of_false (fun h => hn.2 (h.subset ?_)) (fun h => ?_)
                  · exact List.mem_append_right _ List.mem_cons_self
                  · have hnil := List.prefix_nil.mp h.2
                    cases s with
                    | nil => exact (hr b List.mem_cons_self).ne_nil hnil
                    | cons c w => simp [intercal] at hnil
              | cons m u =>
                  simp only [List.map_cons, intercal, List.append_assoc, List.singleton_append]
                  rw [append_sep_prefix_iff ha.2 hn.2, String.toList_inj]

/-- **The text of a place begins with that of another one** if the place begins like the other. -/
theorem text_prefix_iff {s p : Path} (hs : s.IsPlace) (hp : p.IsPlace) :
    s.text.toList <+: p.text.toList ↔ BeginsLike s.parts p.parts := by
  rw [toList_text (Or.inl (by rw [hs.origin]; decide)),
    toList_text (Or.inl (by rw [hp.origin]; decide)), hs.origin, hp.origin,
    List.prefix_append_right_inj, intercal_prefix_iff hs.written hp.written]

/-- A place begins like itself. -/
theorem beginsLike_self (names : List String) : BeginsLike names names := by
  rcases List.eq_nil_or_concat names with rfl | ⟨front, name, rfl⟩
  · exact Or.inl rfl
  · refine Or.inr ⟨name, [], ?_, ?_⟩
    · rw [List.concat_eq_append, List.dropLast_concat]
    · rw [List.concat_eq_append, List.getLastD_concat]

end Path

/-! ## Settings -/

namespace Config

/-- A path that is set is written, if the usual one is. -/
theorem isWritten_given {settings : OrderedMap Json} {name key : String} {usual p : Path}
    (husual : usual.IsWritten) (h : given settings name usual (pathSetting key) = .ok p) :
    p.IsWritten := by
  refine of_given husual (fun v q hq => ?_) h
  unfold pathSetting at hq
  split at hq
  · exact Except.ok.inj hq ▸ Path.isWritten_ofText _
  · cases hq

/-- The paths of a valid configuration are written. -/
theorem isWritten_ofSettings {cwd : Path} {settings : OrderedMap Json} {c : Config}
    (hcwd : cwd.IsWritten) (h : ofSettings cwd settings = .ok c) :
    c.schemaPath.IsWritten ∧ c.baseDir.IsWritten := by
  simp only [ofSettings] at h
  split at h
  · rename_i schema scalars search extensions virtual base timeout hschema _ _ _ _ hbase _
    obtain rfl := Except.ok.inj h
    exact ⟨isWritten_given (Path.isWritten_ofText _) hschema, isWritten_given hcwd hbase⟩
  · cases h

variable {cwd : Path} {settings : OrderedMap Json} {c : Config} {p : Path}

/-- **The schema of a valid configuration is a place.** -/
theorem isPlace_resolvedSchema (hcwd : cwd.IsStart) (hc : ofSettings cwd settings = .ok c) :
    (c.resolvedSchema cwd).IsPlace := by
  obtain ⟨hschema, hbase⟩ := isWritten_ofSettings hcwd.written hc
  exact hcwd.join ((hcwd.join hbase).written.join hschema)

/-! ## Filter -/

/-- The parts of a place are what its text holds between slashes. -/
theorem splitAt_text (hp : p.IsPlace) :
    splitAt '/' (p.text.toList.dropWhile (· == '/'))
      = if p.parts = [] then [[]] else p.parts.map String.toList := by
  have hinner : (p.text.toList.dropWhile (· == '/')) = intercal ['/'] (p.parts.map String.toList) := by
    rw [Path.toList_text (Or.inl (by rw [hp.origin]; decide)), hp.origin]
    show (('/' :: intercal ['/'] (p.parts.map String.toList)).dropWhile (· == '/')) = _
    rw [List.dropWhile_cons_of_pos (p := (· == '/')) rfl]
    cases hcs : intercal ['/'] (p.parts.map String.toList) with
    | nil => rfl
    | cons c r =>
        refine List.dropWhile_cons_of_neg fun hc => ?_
        exact Path.head_intercal hp.written r (eq_of_beq hc ▸ hcs)
  rw [hinner]
  split
  · rename_i hnil
    rw [hnil]
    rfl
  · rename_i hne
    refine splitAt_intercal (by simpa using hne) fun piece hpiece => ?_
    obtain ⟨n, hn, rfl⟩ := List.mem_map.mp hpiece
    exact (hp.written n hn).2

/-- Where no name is passed over, a place is passed over if it begins like the schema. -/
theorem passesOver_iff (hs : (c.resolvedSchema cwd).IsPlace) (hp : p.IsPlace)
    (hdirectories : ∀ n ∈ p.parts, n ∉ ignoredDirectories)
    (hname : isIgnoredName p.name.toList = false) :
    c.passesOver cwd p.text = true
      ↔ Path.BeginsLike (c.resolvedSchema cwd).parts p.parts := by
  rw [← Path.text_prefix_iff hs hp, ← List.isPrefixOf_iff_prefix]
  have hnone : (splitAt '/' (p.text.toList.dropWhile (· == '/'))).any
      (fun part => ignoredDirectories.contains (String.ofList part)) = false := by
    rw [splitAt_text hp, List.any_eq_false]
    split
    · decide
    · intro part hpart hmem
      obtain ⟨n, hn, rfl⟩ := List.mem_map.mp hpart
      rw [String.ofList_toList, List.contains_iff_mem] at hmem
      exact hdirectories n hn hmem
  have hlast : (splitAt '/' (p.text.toList.dropWhile (· == '/'))).getLastD [] = p.name.toList := by
    rw [splitAt_text hp, Path.name]
    split
    · rename_i hnil
      rw [hnil]
      rfl
    · rename_i hne
      obtain ⟨front, name, hparts⟩ := (List.eq_nil_or_concat p.parts).resolve_left hne
      rw [hparts, List.concat_eq_append, List.map_append, List.map_singleton, List.getLastD_concat,
        List.getLastD_concat]
  simp only [passesOver]
  rw [hnone, hlast, hname, Bool.false_or, Bool.false_or]

/-- A place is that of a query file if it has a configured extension, can exist, and is not the
    schema. -/
theorem accepts?_of_isPlace (hp : p.IsPlace) :
    c.accepts? cwd p = if c.hasExtension p = false then some false
      else if p.hasNul = true then none else some (p != c.resolvedSchema cwd) := by
  have hjoin : Path.resolved cwd ((c.resolvedBase cwd).join p) = p := by
    rw [Path.join, if_pos hp.isAbsolute, Path.resolved_of_isPlace hp]
  rw [accepts?, hjoin]
  cases c.hasExtension p <;> rfl

theorem accepts?_eq_true_iff (hp : p.IsPlace) :
    c.accepts? cwd p = some true
      ↔ c.hasExtension p = true ∧ p.hasNul = false ∧ p ≠ c.resolvedSchema cwd := by
  rw [accepts?_of_isPlace hp]
  cases c.hasExtension p with
  | false => simp
  | true => cases p.hasNul <;> simp

/-- The test refuses a place with the right extension only if it is the schema. -/
theorem accepts?_eq_false_iff (hp : p.IsPlace) :
    c.accepts? cwd p = some false
      ↔ ¬ (c.hasExtension p = true ∧ (p.hasNul = true ∨ p ≠ c.resolvedSchema cwd)) := by
  rw [accepts?_of_isPlace hp]
  cases c.hasExtension p with
  | false => simp
  | true => cases p.hasNul <;> simp

/-- **The filter and the test for query files** agree on a place, apart from names that are always
    passed over, unless it is a query file that begins like the schema: one beside the schema, or
    deeper, under a name that begins with the schema's name.  Those the filter refuses, the schema
    among them; the test refuses the schema alone. -/
theorem filter_agrees_iff (hcwd : cwd.IsStart) (hc : ofSettings cwd settings = .ok c)
    (hp : p.IsPlace) (hdirectories : ∀ n ∈ p.parts, n ∉ ignoredDirectories)
    (hname : isIgnoredName p.name.toList = false) :
    (c.accepts? cwd p = some true
        ↔ c.hasExtension p = true ∧ p.hasNul = false ∧ p ≠ c.resolvedSchema cwd)
      ∧ (c.reports? cwd p.text = some true
        ↔ c.hasExtension p = true ∧ p.hasNul = false
          ∧ ¬ Path.BeginsLike (c.resolvedSchema cwd).parts p.parts)
      ∧ (c.reports? cwd p.text = c.accepts? cwd p
        ↔ ¬ (Path.BeginsLike (c.resolvedSchema cwd).parts p.parts ∧ c.hasExtension p = true
          ∧ (p.hasNul = true ∨ p ≠ c.resolvedSchema cwd))) := by
  have haccepts := @accepts?_eq_true_iff cwd c p hp
  have hover := passesOver_iff (isPlace_resolvedSchema hcwd hc) hp hdirectories hname
  rw [← hover]
  refine ⟨haccepts, ?_⟩
  rw [reports?, Path.ofText_text hp.written]
  cases hpass : c.passesOver cwd p.text with
  | true =>
      simp only [if_true, Option.some.injEq, Bool.false_eq_true, true_and, not_true_eq_false,
        and_false]
      rw [← accepts?_eq_false_iff hp]
      exact eq_comm
  | false =>
      -- a place that does not begin like the schema is not the schema
      have hne : p ≠ c.resolvedSchema cwd := by
        rintro rfl
        rw [hover.mpr (Path.beginsLike_self _)] at hpass
        cases hpass
      simp only [Bool.false_eq_true, if_false, false_and, not_false_eq_true, and_true]
      rw [haccepts, and_iff_left hne]

/-- A directory with the usual settings. -/
def usualDirectory : Path := ⟨.root, ["b"]⟩

/-- A query file beside the schema, whose name begins with the schema's name. -/
def schemaNeighbour : Path := ⟨.root, ["b", "schema.graphql.gql"]⟩

/-- What the usual settings say of the neighbour. -/
theorem neighbour_facts : ∃ c, ofSettings usualDirectory [] = .ok c
    ∧ c.hasExtension schemaNeighbour = true
    ∧ c.resolvedSchema usualDirectory = ⟨.root, ["b", "schema.graphql"]⟩ :=
  ⟨⟨⟨.here, ["schema.graphql"]⟩, [], ⟨.here, ["src"]⟩, usualExtensions, ⟨.here, [".gql"]⟩,
    usualDirectory, usualTimeoutMs⟩, by cbv, by decide +kernel, by decide +kernel⟩

/-- The neighbour is a query file, and a report of it is passed over. -/
theorem filter_agrees_iff_neighbour : ∃ c, ofSettings usualDirectory [] = .ok c
    ∧ c.accepts? usualDirectory schemaNeighbour = some true
    ∧ c.reports? usualDirectory schemaNeighbour.text ≠ some true
    ∧ c.reports? usualDirectory schemaNeighbour.text ≠ c.accepts? usualDirectory schemaNeighbour := by
  obtain ⟨c, hc, hext, hschema⟩ := neighbour_facts
  obtain ⟨haccepts, hreports, hagree⟩ := filter_agrees_iff (p := schemaNeighbour)
    ⟨by decide, by decide⟩ hc ⟨rfl, by decide, by decide⟩ (by decide) (by decide)
  have hne : schemaNeighbour ≠ c.resolvedSchema usualDirectory := by
    rw [hschema]
    decide
  have hlike : Path.BeginsLike (c.resolvedSchema usualDirectory).parts schemaNeighbour.parts := by
    rw [hschema]
    exact Or.inr ⟨"schema.graphql.gql", [], rfl, by decide⟩
  exact ⟨c, hc, haccepts.mpr ⟨hext, by decide, hne⟩, fun h => (hreports.mp h).2.2 hlike,
    fun h => hagree.mp h ⟨hlike, hext, Or.inr hne⟩⟩

end Config

end QueryTypings
