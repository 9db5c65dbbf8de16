/-
  What a definition claims in a document.

  A definition is judged with those in front of it, and some rules look back: no type, no directive
  and no root may come twice, and no directive may be repeated on what is defined piece by piece.

  1. **Claims** — each of these rules lets a definition claim something that no other one may claim
     (`claims`).

  2. **Single definitions** — without extensions of types a definition has no issues behind others
     exactly if it has none by itself and shares no claim with them (`definitionPart_eq_nil_iff`).

  3. **Documents** — so a document has no issues exactly if no definition has any by itself and no
     two share a claim (`definitionIssues_eq_nil_iff`).  Sharing is symmetric: the order does not
     matter.
-/
import QueryTypings.Proofs.Schema.Distinct

namespace QueryTypings.Check

open QueryTypings.Graphql QueryTypings.Schema

/-! ## Claims -/

/-- What only one definition of a document may do. -/
inductive Claim
  | type (name : String)
  | directive (name : String)
  | schema
  | root (kind : String)
  /-- To carry a directive that may stand once on the schema. -/
  | onSchema (directive : String)
  /-- To carry a directive that may stand once on a directive. -/
  | onDirective (owner directive : String)
deriving DecidableEq

/-- A directive of this name is known and may not be repeated. -/
def standsOnce (v : Vocabulary) (name : String) : Bool :=
  ((v.directive? name).map fun d => !d.repeatable).getD false

/-- The names of the directives, among some, that may not be repeated. -/
def namesOnce (v : Vocabulary) (ds : List Directive) : List String :=
  (ds.map fun d => d.name.text).filter (standsOnce v)

/-- What a definition claims. -/
def claims (v : Vocabulary) : Definition → List Claim
  | .operation _ => []
  | .fragment _ => []
  | .schema d =>
      (if d.isExtension then [] else [.schema]) ++ (d.roots.map fun r => .root r.1.word)
        ++ (namesOnce v d.directives).map .onSchema
  | .type t => [.type t.name.text]
  | .directive d =>
      .directive d.name.text :: (namesOnce v d.directives).map (.onDirective d.name.text)
  | .directiveExtension d => (namesOnce v d.directives).map (.onDirective d.name.text)

/-- No definition in front claims any of this. -/
def Unclaimed (v : Vocabulary) (before : Document) (ks : List Claim) : Prop :=
  ∀ k ∈ ks, ∀ y ∈ before, k ∉ claims v y

variable {v w : Vocabulary} {all before : Document}

/-- A name that occurs later is one that was seen, or comes twice. -/
theorem laterOccurrences_eq_nil_iff {seen names : List String} :
    laterOccurrences seen names = [] ↔ names.Nodup ∧ ∀ n ∈ names, n ∉ seen := by
  refine ⟨nodup_of_laterOccurrences, ?_⟩
  rintro ⟨hnodup, hnew⟩
  induction names generalizing seen with
  | nil => rfl
  | cons n r ih =>
      obtain ⟨hn, hr⟩ := List.nodup_cons.mp hnodup
      have hfree : seen.contains n = false := by simpa using hnew n List.mem_cons_self
      rw [laterOccurrences, hfree]
      refine ih hr fun m hm hseen => ?_
      rcases List.mem_cons.mp hseen with rfl | hseen
      · exact hn hm
      · exact hnew m (List.mem_cons_of_mem _ hm) hseen

/-- A directive is repeated if it may stand once and was seen, or comes twice. -/
theorem repeatedDirectives_eq_nil_iff {seen ds : List Directive} :
    repeatedDirectives v seen ds = []
      ↔ (namesOnce v ds).Nodup ∧ ∀ n ∈ namesOnce v ds, n ∉ seen.map fun d => d.name.text := by
  induction ds generalizing seen with
  | nil => simp [repeatedDirectives, namesOnce]
  | cons d r ih =>
      have hskip (h : standsOnce v d.name.text = false) : namesOnce v (d :: r) = namesOnce v r := by
        rw [namesOnce, List.map_cons, List.filter_cons_of_neg (by rw [h]; nofun)]
        rfl
      rw [repeatedDirectives]
      cases hd : v.directive? d.name.text with
      | none =>
          rw [hskip (by rw [standsOnce, hd]; rfl)]
          exact ih
      | some info =>
          dsimp only
          cases hrepeatable : info.repeatable with
          | true =>
              rw [hskip (by rw [standsOnce, hd, Option.map_some, hrepeatable]; rfl), if_pos rfl]
              exact ih
          | false =>
              have honce : namesOnce v (d :: r) = d.name.text :: namesOnce v r := by
                rw [namesOnce, List.map_cons, List.filter_cons_of_pos
                  (by rw [standsOnce, hd, Option.map_some, hrepeatable]; rfl)]
                rfl
              rw [honce, if_neg nofun]
              cases hfind : seen.find? fun e => e.name.text == d.name.text with
              | some e =>
                  have hname := List.find?_some hfind
                  have hseen : d.name.text ∈ seen.map fun d => d.name.text :=
                    List.mem_map.mpr ⟨e, List.mem_of_find?_eq_some hfind, eq_of_beq hname⟩
                  exact iff_of_false nofun fun h => h.2 _ List.mem_cons_self hseen
              | none =>
                  have hnew : d.name.text ∉ seen.map fun d => d.name.text := by
                    intro hmem
                    obtain ⟨e, he, hname⟩ := List.mem_map.mp hmem
                    exact List.find?_eq_none.mp hfind e he (beq_iff_eq.mpr hname)
                  dsimp only
                  rw [ih, List.map_append, List.nodup_cons, List.forall_mem_cons]
                  constructor
                  · rintro ⟨hnodup, hfresh⟩
                    refine ⟨⟨fun hmem => hfresh _ hmem (by simp), hnodup⟩, hnew, fun n hn h => ?_⟩
                    exact hfresh n hn (List.mem_append_left _ h)
                  · rintro ⟨⟨hn, hnodup⟩, -, hfresh⟩
                    refine ⟨hnodup, fun n hmem h => ?_⟩
                    rcases List.mem_append.mp h with h | h
                    · exact hfresh n hmem h
                    · obtain rfl : n = d.name.text := by simpa using h
                      exact hn hmem

theorem mem_namesOnce_iff {n : String} {ds : List Directive} :
    n ∈ namesOnce v ds ↔ (∃ d ∈ ds, d.name.text = n) ∧ standsOnce v n = true := by
  rw [namesOnce, List.mem_filter, List.mem_map]

theorem unclaimed_append {ks ls : List Claim} :
    Unclaimed v before (ks ++ ls) ↔ Unclaimed v before ks ∧ Unclaimed v before ls :=
  List.forall_mem_append

theorem unclaimed_singleton {k : Claim} :
    Unclaimed v before [k] ↔ ¬ ∃ y ∈ before, k ∈ claims v y := by
  simp [Unclaimed]

/-- Names come later if they come twice, or are claimed in front. -/
theorem laterOccurrences_unclaimed {seen names : List String} (claim : String → Claim)
    (hseen : ∀ n, n ∈ seen ↔ ∃ y ∈ before, claim n ∈ claims v y) :
    laterOccurrences seen names = []
      ↔ laterOccurrences [] names = [] ∧ Unclaimed v before (names.map claim) := by
  rw [laterOccurrences_eq_nil_iff, laterOccurrences_eq_nil_iff, and_iff_left fun _ _ =>
    List.not_mem_nil, Unclaimed, List.forall_mem_map]
  refine and_congr_right fun _ => forall₂_congr fun n _ => ?_
  rw [hseen]
  push Not
  rfl

/-- Directives are repeated if they are by themselves, or are claimed in front. -/
theorem repeatedDirectives_unclaimed {seen ds : List Directive} (claim : String → Claim)
    (hseen : ∀ n, standsOnce v n = true →
      ((∃ d ∈ seen, d.name.text = n) ↔ ∃ y ∈ before, claim n ∈ claims v y)) :
    repeatedDirectives v seen ds = []
      ↔ repeatedDirectives v [] ds = [] ∧ Unclaimed v before ((namesOnce v ds).map claim) := by
  rw [repeatedDirectives_eq_nil_iff, repeatedDirectives_eq_nil_iff, List.map_nil, and_iff_left
    fun _ _ => List.not_mem_nil, Unclaimed, List.forall_mem_map]
  refine and_congr_right fun _ => forall₂_congr fun n hn => ?_
  rw [List.mem_map, hseen n (mem_namesOnce_iff.mp hn).2]
  push Not
  rfl

/-! ## Single definitions -/

theorem mem_typeDefinitions_iff {d : Document} {t : TypeDefinition} :
    t ∈ typeDefinitions d ↔ .type t ∈ d ∧ t.isExtension = false := by
  rw [typeDefinitions, List.mem_filterMap]
  constructor
  · rintro ⟨x, hx, heq⟩
    cases x with
    | type t' =>
        dsimp only at heq
        split at heq
        · cases heq
        · rename_i hext
          obtain rfl := Option.some.inj heq
          exact ⟨hx, by simpa using hext⟩
    | _ => cases heq
  · rintro ⟨hx, hext⟩
    exact ⟨_, hx, by simp [hext]⟩

theorem mem_schemaDefinitions_iff {d : Document} {t : SchemaDefinition} :
    t ∈ schemaDefinitions d ↔ .schema t ∈ d := by
  rw [schemaDefinitions, List.mem_filterMap]
  constructor
  · rintro ⟨x, hx, heq⟩
    cases x with
    | schema t' => exact Option.some.inj heq ▸ hx
    | _ => cases heq
  · exact fun hx => ⟨_, hx, rfl⟩

theorem mem_directiveDefinitions_iff {d : Document} {t : DirectiveDefinition} :
    t ∈ directiveDefinitions d ↔ .directive t ∈ d := by
  rw [directiveDefinitions, List.mem_filterMap]
  constructor
  · rintro ⟨x, hx, heq⟩
    cases x with
    | directive t' => exact Option.some.inj heq ▸ hx
    | _ => cases heq
  · exact fun hx => ⟨_, hx, rfl⟩

theorem mem_claims_type {n : String} {y : Definition} :
    Claim.type n ∈ claims v y ↔ ∃ t, y = .type t ∧ n = t.name.text := by
  cases y <;> simp [claims]

theorem mem_claims_directive {n : String} {y : Definition} :
    Claim.directive n ∈ claims v y ↔ ∃ d, y = .directive d ∧ n = d.name.text := by
  cases y <;> simp [claims]

theorem mem_claims_schema {y : Definition} :
    Claim.schema ∈ claims v y ↔ ∃ d, y = .schema d ∧ d.isExtension = false := by
  cases y <;> simp [claims]

theorem mem_claims_root {k : String} {y : Definition} :
    Claim.root k ∈ claims v y ↔ ∃ d, y = .schema d ∧ k ∈ d.roots.map fun r => r.1.word := by
  cases y <;> simp [claims]

theorem mem_claims_onSchema {n : String} {y : Definition} :
    Claim.onSchema n ∈ claims v y ↔ ∃ d, y = .schema d ∧ n ∈ namesOnce v d.directives := by
  cases y <;> simp [claims]

theorem mem_claims_onDirective {o n : String} {y : Definition} :
    Claim.onDirective o n ∈ claims v y ↔ n ∈ namesOnce v (directivesOnDirective [y] o) := by
  cases y with
  | directive d | directiveExtension d =>
      by_cases hname : d.name.text = o <;> simp [claims, directivesOnDirective, namesOnce, hname]
  | _ => simp [claims, directivesOnDirective, namesOnce]

/-- What is claimed for the schema in front is what its definitions there have. -/
theorem exists_claim_iff {claim : Claim} {P : SchemaDefinition → Prop}
    (h : ∀ y, claim ∈ claims v y ↔ ∃ d, y = .schema d ∧ P d) :
    (∃ y ∈ before, claim ∈ claims v y) ↔ ∃ d ∈ schemaDefinitions before, P d := by
  constructor
  · rintro ⟨y, hy, hk⟩
    obtain ⟨d, rfl, hd⟩ := (h y).mp hk
    exact ⟨d, mem_schemaDefinitions_iff.mpr hy, hd⟩
  · rintro ⟨d, hd, hP⟩
    exact ⟨_, mem_schemaDefinitions_iff.mp hd, (h _).mpr ⟨d, rfl, hP⟩⟩

theorem schemaPart_eq_nil_iff (d : SchemaDefinition) :
    schemaPart v before d = []
      ↔ schemaPart v [] d = [] ∧ Unclaimed v before (claims v (.schema d)) := by
  have hagain : (if !d.isExtension && (schemaDefinitions before).any fun o => !o.isExtension then
        [(⟨.secondSchema, some d.position⟩ : Issue)] else []) = []
      ↔ Unclaimed v before (if d.isExtension then [] else [.schema]) := by
    cases d.isExtension with
    | true => simp [Unclaimed]
    | false =>
        have hclaim := @exists_claim_iff v before _ _ fun _ => mem_claims_schema
        simp only [Bool.not_false, Bool.true_and, Bool.false_eq_true, if_false,
          unclaimed_singleton, hclaim]
        simp
  have hroots := @laterOccurrences_unclaimed v before
    ((schemaDefinitions before).flatMap fun o => o.roots.map fun r => r.1.word)
    (d.roots.map fun r => r.1.word) Claim.root fun n => by
      rw [exists_claim_iff fun _ => mem_claims_root, List.mem_flatMap]
  have hdirectives := @repeatedDirectives_unclaimed v before
    ((schemaDefinitions before).flatMap SchemaDefinition.directives) d.directives
    Claim.onSchema fun n hn => by
      rw [exists_claim_iff fun _ => mem_claims_onSchema]
      simp only [mem_namesOnce_iff, hn, and_true, List.mem_flatMap]
      constructor
      · rintro ⟨e, ⟨o, ho, he⟩, hname⟩
        exact ⟨o, ho, e, he, hname⟩
      · rintro ⟨o, ho, e, he, hname⟩
        exact ⟨e, ⟨o, ho, he⟩, hname⟩
  have halone : (if !d.isExtension && (schemaDefinitions []).any fun o => !o.isExtension then
      [(⟨.secondSchema, some d.position⟩ : Issue)] else []) = [] := by
    simp [schemaDefinitions]
  rw [List.map_map] at hroots
  simp only [schemaPart, schemaBody, claims, List.append_eq_nil_iff, List.map_eq_nil_iff,
    unclaimed_append, hroots, hdirectives, hagain, halone]
  simp only [schemaDefinitions, List.filterMap_nil, List.flatMap_nil, true_and]
  tauto

theorem typePart_eq_nil_iff {t : TypeDefinition} (ht : t.isExtension = false)
    (hbefore : typeExtensions before = []) :
    typePart v all before t = []
      ↔ typePart v [] [] t = [] ∧ Unclaimed v before (claims v (.type t)) := by
  have hclaim : Unclaimed v before (claims v (.type t))
      ↔ ¬ (typeDefinitions before).any fun d => d.name.text == t.name.text := by
    rw [claims, unclaimed_singleton, not_iff_not, List.any_eq_true]
    constructor
    · rintro ⟨y, hy, hk⟩
      obtain ⟨o, rfl, hname⟩ := mem_claims_type.mp hk
      refine ⟨o, mem_typeDefinitions_iff.mpr ⟨hy, ?_⟩, beq_iff_eq.mpr hname.symm⟩
      by_contra hext
      have hmem : o ∈ typeExtensions before :=
        List.mem_filterMap.mpr ⟨_, hy, by simpa using hext⟩
      rw [hbefore] at hmem
      cases hmem
    · rintro ⟨o, ho, hname⟩
      exact ⟨_, (mem_typeDefinitions_iff.mp ho).1, mem_claims_type.mpr ⟨o, rfl, (eq_of_beq hname).symm⟩⟩
  have hextension : extensionIssues all t = extensionIssues [] t := by
    rw [extensionIssues, extensionIssues, ht]
    rfl
  rw [hclaim]
  cases hany : (typeDefinitions before).any fun d => d.name.text == t.name.text with
  | true =>
      refine iff_of_false ?_ (by simp)
      simp [typePart, ht, hany]
  | false =>
      have hnone : namesakes before t.name.text = [] := by
        rw [namesakes, hbefore, List.append_nil, List.filter_eq_nil_iff]
        simpa using hany
      have hempty : namesakes [] t.name.text = [] := rfl
      have halone : ((typeDefinitions []).any fun d => d.name.text == t.name.text) = false := rfl
      rw [typePart, typePart, hnone, hempty, hany, halone, hextension]
      simp

/-- What stands in front of a directive claims what is on it there. -/
theorem mem_directivesOnDirective_iff {o n : String} (hn : standsOnce v n = true) :
    (∃ e ∈ directivesOnDirective before o, e.name.text = n)
      ↔ ∃ y ∈ before, Claim.onDirective o n ∈ claims v y := by
  simp only [mem_claims_onDirective, mem_namesOnce_iff, hn, and_true]
  simp only [directivesOnDirective, List.mem_flatMap, List.mem_singleton, exists_eq_left]
  constructor
  · rintro ⟨e, ⟨y, hy, he⟩, hname⟩
    exact ⟨y, hy, e, he, hname⟩
  · rintro ⟨y, hy, e, he, hname⟩
    exact ⟨e, ⟨y, hy, he⟩, hname⟩

theorem directivePart_eq_nil_iff (d : DirectiveDefinition) :
    directivePart v before d = []
      ↔ directivePart v [] d = [] ∧ Unclaimed v before (claims v (.directive d)) := by
  have hagain : (if (directiveDefinitions before).any fun e => e.name.text == d.name.text then
        [(⟨.secondDirective d.name.text, some d.position⟩ : Issue)] else []) = []
      ↔ Unclaimed v before [.directive d.name.text] := by
    rw [unclaimed_singleton]
    simp only [mem_claims_directive]
    have hsame : ((directiveDefinitions before).any fun e => e.name.text == d.name.text) = true
        ↔ ∃ y ∈ before, ∃ e, y = .directive e ∧ d.name.text = e.name.text := by
      rw [List.any_eq_true]
      constructor
      · rintro ⟨e, he, hname⟩
        exact ⟨_, mem_directiveDefinitions_iff.mp he, e, rfl, (eq_of_beq hname).symm⟩
      · rintro ⟨_, hy, e, rfl, hname⟩
        exact ⟨e, mem_directiveDefinitions_iff.mpr hy, beq_iff_eq.mpr hname.symm⟩
    rw [← hsame]
    simp
  have hdirectives := @repeatedDirectives_unclaimed v before
    (directivesOnDirective before d.name.text) d.directives (Claim.onDirective d.name.text)
    fun n hn => mem_directivesOnDirective_iff hn
  have hclaims : claims v (.directive d) = [.directive d.name.text]
      ++ (namesOnce v d.directives).map (.onDirective d.name.text) := rfl
  have halone : (if (directiveDefinitions []).any fun e => e.name.text == d.name.text then
      [(⟨.secondDirective d.name.text, some d.position⟩ : Issue)] else []) = [] := rfl
  have hempty : directivesOnDirective [] d.name.text = [] := rfl
  rw [hclaims, unclaimed_append]
  simp only [directivePart, directiveBody, List.append_eq_nil_iff, hagain, hdirectives, halone,
    hempty, and_true]
  tauto

theorem directiveExtensionPart_eq_nil_iff (d : DirectiveExtension) :
    directiveExtensionPart v before d = []
      ↔ directiveExtensionPart v [] d = []
        ∧ Unclaimed v before (claims v (.directiveExtension d)) := by
  have hdirectives := @repeatedDirectives_unclaimed v before
    (directivesOnDirective before d.name.text) d.directives (Claim.onDirective d.name.text)
    fun n hn => mem_directivesOnDirective_iff hn
  have hempty : directivesOnDirective [] d.name.text = [] := rfl
  simp only [directiveExtensionPart, claims, List.append_eq_nil_iff, hdirectives, hempty]
  tauto

/-- **A definition behind others**, without extensions of types, has no issues exactly if it has none
    by itself and claims nothing that one of the others claims. -/
theorem definitionPart_eq_nil_iff (hbefore : typeExtensions before = []) {x : Definition}
    (hx : typeExtensions [x] = []) :
    definitionPart v all before x = []
      ↔ definitionPart v [] [] x = [] ∧ Unclaimed v before (claims v x) := by
  cases x with
  | operation o | fragment f => exact (and_iff_left fun k hk => absurd hk List.not_mem_nil).symm
  | schema d => exact schemaPart_eq_nil_iff d
  | directive d => exact directivePart_eq_nil_iff d
  | directiveExtension d => exact directiveExtensionPart_eq_nil_iff d
  | type t =>
      refine typePart_eq_nil_iff ?_ hbefore
      cases hext : t.isExtension with
      | false => rfl
      | true => simp [typeExtensions, hext] at hx

/-! ## Documents -/

/-- Neither of two definitions claims what the other one claims. -/
def Apart (v : Vocabulary) (x y : Definition) : Prop := ∀ k ∈ claims v x, k ∉ claims v y

theorem Apart.symm {x y : Definition} (h : Apart v x y) : Apart v y x := fun k hy hx => h k hx hy

theorem definitionsFrom_eq_nil_iff {d : Document} (hbefore : typeExtensions before = [])
    (hd : typeExtensions d = []) :
    definitionsFrom v all before d = []
      ↔ (∀ x ∈ d, definitionPart v [] [] x = [] ∧ Unclaimed v before (claims v x))
        ∧ d.Pairwise (Apart v) := by
  induction d generalizing before with
  | nil => simp [definitionsFrom]
  | cons x r ih =>
      have hparts : typeExtensions [x] = [] ∧ typeExtensions r = [] := by
        rwa [← List.append_eq_nil_iff, typeExtensions, typeExtensions, ← List.filterMap_append]
      have hnext : typeExtensions (before ++ [x]) = [] := by
        rw [typeExtensions, List.filterMap_append]
        exact List.append_eq_nil_iff.mpr ⟨hbefore, hparts.1⟩
      have hunclaimed (ks : List Claim) : Unclaimed v (before ++ [x]) ks
          ↔ Unclaimed v before ks ∧ ∀ k ∈ ks, k ∉ claims v x := by
        simp only [Unclaimed, List.forall_mem_append, List.forall_mem_singleton, forall_and]
      rw [definitionsFrom, List.append_eq_nil_iff, definitionPart_eq_nil_iff hbefore hparts.1,
        ih hnext hparts.2, List.forall_mem_cons, List.pairwise_cons]
      simp only [hunclaimed, forall_and]
      have hapart : (∀ y ∈ r, ∀ k ∈ claims v y, k ∉ claims v x) ↔ ∀ y ∈ r, Apart v x y :=
        forall₂_congr fun y _ => ⟨Apart.symm, Apart.symm⟩
      rw [hapart]
      tauto

/-- **A document has no issues**, without extensions of types, exactly if no definition has any by
    itself and no two claim the same. -/
theorem definitionIssues_eq_nil_iff {d : Document} (hd : typeExtensions d = []) :
    definitionIssues d = []
      ↔ (∀ x ∈ d, definitionPart (definitionVocabulary d) [] [] x = [])
        ∧ d.Pairwise (Apart (definitionVocabulary d)) := by
  have hfree (ks : List Claim) : Unclaimed (definitionVocabulary d) [] ks :=
    fun k _ y hy => absurd hy List.not_mem_nil
  rw [definitionIssues, definitionsFrom_eq_nil_iff rfl hd]
  simp only [hfree, and_true]

end QueryTypings.Check
