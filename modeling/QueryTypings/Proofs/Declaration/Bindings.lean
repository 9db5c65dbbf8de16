/-
  The names that a generated module binds.

  The script module and the declaration bind a constant for each operation with a name, and the
  constant has the name that the operation has.  Whether the module can be loaded depends on that
  name: it has to be spelled like an identifier, and it must not be one of the words that the code
  of a module keeps for itself.

  1. **Words** — the words that no constant of a module may be named by (`unbindableWords`), and the
     names that are left (`IsBinding`).

  2. **Operations** — the name of an operation is always spelled like an identifier
     (`spelled_operationNames`), but may be any of those words (`unbindable_accepted`).

  3. **Modules** — so a module binds legal names exactly if no operation is named by one of the
     words (`bindings_legal_iff`).
-/
import QueryTypings.Proofs.Declaration.Constants

namespace QueryTypings.Declaration

open QueryTypings.Graphql
open QueryTypings.Text
open QueryTypings.Typescript
open QueryTypings.Exported
open QueryTypings.Check
open QueryTypings.Shape
open QueryTypings.Schema

/-! ## Words -/

/-- The words that the code of a module reserves: those of every script, those of strict code, and
    `await`. -/
def reservedWords : List String :=
  ["break", "case", "catch", "class", "const", "continue", "debugger", "default", "delete", "do",
    "else", "enum", "export", "extends", "false", "finally", "for", "function", "if", "import",
    "in", "instanceof", "new", "null", "return", "super", "switch", "this", "throw", "true", "try",
    "typeof", "var", "void", "while", "with", "implements", "interface", "let", "package",
    "private", "protected", "public", "static", "yield", "await"]

/-- The words that no constant of a module may be named by.  The last two are not reserved, but
    strict code must not bind them. -/
def unbindableWords : List String := reservedWords ++ ["arguments", "eval"]

/-- A letter, a dollar sign or an underscore, and then also digits. -/
def IsIdentifierName (text : String) : Prop :=
  ∃ c r, text.toList = c :: r ∧ (isNameStart c || c == '$') = true
    ∧ ∀ d ∈ r, (isNameChar d || d == '$') = true

/-- The name is a legal one for a constant of a module. -/
structure IsBinding (name : String) : Prop where
  spelling : IsIdentifierName name
  free : name ∉ unbindableWords

/-- Every name of GraphQL is spelled like an identifier. -/
theorem isIdentifierName_of_isNameText {text : String} (h : IsNameText text) :
    IsIdentifierName text := by
  obtain ⟨c, r, htext, hc, hr⟩ := h
  refine ⟨c, r, htext, by rw [hc, Bool.true_or], fun d hd => ?_⟩
  rw [hr d hd, Bool.true_or]

/-! ## Operations -/

variable {s : Schema} {d : Document} {source : String}

/-- **The names of operations are spelled like identifiers.** -/
theorem spelled_operationNames (h : accepted s source = .ok d) :
    ∀ n ∈ operationNames d, IsIdentifierName n := by
  refine List.forall_mem_map.mpr fun (n, o) ho => ?_
  obtain ⟨hmem, hname⟩ := mem_namedOperations_iff.mp ho
  have hspelled : IsNameText n.text := (fine_operation (fine_of_accepted h) o hmem).name n hname
  exact isIdentifierName_of_isNameText hspelled

/-- A schema with one field. -/
def oneField : Schema := (Schema.ofText "type Query\x7ba:Int\x7d").toOption.getD default

/-- A query for this field, with a name. -/
def queryNamed (name : String) : String := "query " ++ name ++ "\x7ba\x7d"

/-- **None of the words is refused**: each of them may be the name of an operation. -/
theorem unbindable_accepted : ∀ w ∈ unbindableWords,
    (accepted oneField (queryNamed w)).toOption.map operationNames = some [w] := by
  decide +kernel

/-! ## Modules -/

theorem isBinding_iff_of_spelled {names : List String} (h : ∀ n ∈ names, IsIdentifierName n) :
    (∀ n ∈ names, IsBinding n) ↔ ∀ w ∈ unbindableWords, w ∉ names := by
  constructor
  · intro hbinding w hw hmem
    exact (hbinding w hmem).free hw
  · intro hwords n hn
    exact ⟨h n hn, fun hmem => hwords n hmem hn⟩

/-- **A generated module binds legal names exactly if no operation is named by an unbindable word.**
    This holds of the script module and, as long as the text for a scalar holds no line feed, of
    the declaration. -/
theorem bindings_legal_iff {schemaText : String} (hs : Schema.ofText schemaText = .ok s)
    (hd : accepted s source = .ok d) :
    ((∀ n ∈ namesBehind definedFront (scriptModule d), IsBinding n)
        ↔ ∀ w ∈ unbindableWords, w ∉ operationNames d)
      ∧ ∀ scalars ss, OneLine scalars → documentStatements s scalars d = .ok ss →
          ((∀ n ∈ namesBehind declaredFront (statementsText ss), IsBinding n)
            ↔ ∀ w ∈ unbindableWords, w ∉ operationNames d) := by
  have hregular := regular_of_accepted hd
  have hiff := isBinding_iff_of_spelled (spelled_operationNames hd)
  refine ⟨?_, fun scalars ss hscalars hss => ?_⟩
  · rw [namesBehind_scriptModule (legible_of_accepted hd) hregular.operations]
    exact hiff
  · rw [namesBehind_statementsText (spelled_ofText hs) hscalars (fine_of_accepted hd)
      hregular.fragments hss]
    exact hiff

/-- A query named `class` is accepted, and declared. -/
theorem class_facts : ∃ s d ss, Schema.ofText "type Query\x7ba:Int\x7d" = .ok s
    ∧ accepted s (queryNamed "class") = .ok d ∧ documentStatements s [] d = .ok ss
    ∧ "class" ∈ operationNames d := by
  have h : ((Schema.ofText "type Query\x7ba:Int\x7d").toOption.bind fun s =>
      (accepted s (queryNamed "class")).toOption.bind fun d =>
        (documentStatements s [] d).toOption.map fun _ => operationNames d) = some ["class"] := by
    decide +kernel
  obtain ⟨s, hs, h⟩ := Option.bind_eq_some_iff.mp h
  obtain ⟨d, hd, h⟩ := Option.bind_eq_some_iff.mp h
  obtain ⟨ss, hss, hnames⟩ := Option.map_eq_some_iff.mp h
  exact ⟨s, d, ss, ok_of_toOption hs, ok_of_toOption hd, ok_of_toOption hss,
    hnames ▸ List.mem_singleton_self _⟩

/-- Neither the script module for it nor the declaration can be loaded. -/
theorem bindings_legal_iff_class : ∃ s d ss, Schema.ofText "type Query\x7ba:Int\x7d" = .ok s
    ∧ accepted s (queryNamed "class") = .ok d ∧ documentStatements s [] d = .ok ss
    ∧ OneLine []
    ∧ (¬ ∀ n ∈ namesBehind definedFront (scriptModule d), IsBinding n)
    ∧ ¬ ∀ n ∈ namesBehind declaredFront (statementsText ss), IsBinding n := by
  obtain ⟨s, d, ss, hs, hd, hss, hmem⟩ := class_facts
  have hscalars : OneLine [] := nofun
  have hlegal := bindings_legal_iff hs hd
  have hword : ¬ ∀ w ∈ unbindableWords, w ∉ operationNames d :=
    fun h => h "class" (by decide) hmem
  exact ⟨s, d, ss, hs, hd, hss, hscalars, fun h => hword (hlegal.1.mp h),
    fun h => hword ((hlegal.2 [] ss hscalars hss).mp h)⟩

end QueryTypings.Declaration
