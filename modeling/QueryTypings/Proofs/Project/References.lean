/-
  Which types of the schema a declaration is searched for, and which it refers to.

  A search looks for a name at every place of a text; cutting the text goes through it once.

  1. **Pieces** — what a list is cut into at its separators stands between two of them, or at an end,
     and holds none (`mem_splitOnP_iff`).

  2. **Identifiers** — so a text that is cut wherever no identifier character stands falls into its
     longest runs of such characters (`mem_identifiers_iff`), and a word is found as a whole
     identifier if and only if it is one of them (`mentions_iff_mem_identifiers`).

  3. **Registry** — the names that a writer has registered are words, as it takes them from the text of
     the schema's declaration (`isIdentifier_of_mem_registry`).

  4. **References** — so the search finds the registered names that are identifiers of the text, in the
     order of the registry and as often as they stand there (`mentioned_eq_identifiers`).
-/
import QueryTypings.Proofs.Project.Imports
import Mathlib.Data.List.Basic

namespace QueryTypings.Text

/-! ## Pieces -/

section Pieces

variable {α : Type} {p : α → Bool} {piece cs : List α}

/-- Characters that are no separators, with a separator behind them or nothing, come first. -/
theorem mem_splitOnP_append {after : List α} (hpiece : ∀ c ∈ piece, p c = false)
    (hafter : ∀ c ∈ after.head?, p c = true) : piece ∈ (piece ++ after).splitOnP p := by
  cases after with
  | nil => rw [List.append_nil, List.splitOnP_eq_singleton hpiece, List.mem_singleton]
  | cons sep back =>
      rw [List.splitOnP_append_cons_of_forall_mem hpiece sep (hafter sep rfl)]
      exact List.mem_cons_self

/-- **A piece of a cut list** holds no separator, and stands between separators or at the ends. -/
theorem mem_splitOnP_iff : piece ∈ cs.splitOnP p ↔ (∀ c ∈ piece, p c = false)
    ∧ ∃ before after, cs = before ++ piece ++ after
      ∧ (∀ c ∈ before.getLast?, p c = true) ∧ (∀ c ∈ after.head?, p c = true) := by
  constructor
  · -- the first piece ends at the first separator, and the others are those of what follows
    induction hn : cs.length using Nat.strong_induction_on generalizing cs with
    | _ n ih =>
        intro hmem
        cases hfind : cs.find? p with
        | none =>
            have hall : ∀ c ∈ cs, p c = false := by simpa using hfind
            rw [List.splitOnP_eq_singleton hall, List.mem_singleton] at hmem
            exact ⟨hmem ▸ hall, [], [], by simp [hmem], by simp, by simp⟩
        | some sep =>
            obtain ⟨hsep, front, back, rfl, hfirst⟩ := List.find?_eq_some_iff_append.mp hfind
            have hfront : ∀ c ∈ front, p c = false := by simpa using hfirst
            rw [List.splitOnP_append_cons_of_forall_mem hfront sep hsep, List.mem_cons] at hmem
            rcases hmem with rfl | hmem
            · exact ⟨hfront, [], sep :: back, rfl, by simp, by simpa using hsep⟩
            · have hlength : back.length < n := by
                rw [← hn, List.length_append, List.length_cons]
                omega
              obtain ⟨hpiece, before, after, rfl, hbefore, hafter⟩ := ih _ hlength rfl hmem
              refine ⟨hpiece, front ++ sep :: before, after, by simp, ?_, hafter⟩
              cases before with
              | nil => simpa using hsep
              | cons c r => simpa [List.getLast?_append] using hbefore
  · rintro ⟨hpiece, before, after, rfl, hbefore, hafter⟩
    have hfirst := mem_splitOnP_append hpiece hafter
    rcases List.eq_nil_or_concat before with rfl | ⟨front, sep, rfl⟩
    · exact hfirst
    · have hcut : front.concat sep ++ piece ++ after = front ++ sep :: (piece ++ after) := by simp
      rw [hcut, List.splitOnP_append_cons front _ (hbefore sep (by simp))]
      exact List.mem_append_right _ hfirst

end Pieces

/-! ## Identifiers -/

/-- The identifiers of a text, in order: its longest runs of identifier characters. -/
def identifiers (text : String) : List String :=
  ((text.toList.splitOnP (!isIdentifierChar ·)).filter (!·.isEmpty)).map String.ofList

/-- A longest run of identifier characters in a text. -/
structure IsRun (run text : String) : Prop where
  /-- There is a character. -/
  ne_empty : run ≠ ""
  /-- All characters are such. -/
  chars : ∀ c ∈ run.toList, isIdentifierChar c = true
  /-- The run stands in the text, and goes on neither before nor behind. -/
  stands : Mentioned run text

theorem startsApart_iff {cs : List Char} :
    startsApart cs = true ↔ ∀ c ∈ cs.head?, (!isIdentifierChar c) = true := by
  cases cs <;> simp [startsApart]

/-- **The identifiers of a text are its longest runs.** -/
theorem mem_identifiers_iff {run text : String} : run ∈ identifiers text ↔ IsRun run text := by
  have hpiece : run ∈ identifiers text
      ↔ run.toList ∈ text.toList.splitOnP (!isIdentifierChar ·) ∧ run.toList ≠ [] := by
    rw [identifiers, List.mem_map]
    constructor
    · rintro ⟨piece, hmem, rfl⟩
      simpa using hmem
    · intro h
      exact ⟨run.toList, by simpa using h, String.ofList_toList⟩
  rw [hpiece, mem_splitOnP_iff]
  have hstands : Mentioned run text ↔ ∃ before after, text.toList = before ++ run.toList ++ after
      ∧ (∀ c ∈ before.getLast?, (!isIdentifierChar c) = true)
      ∧ (∀ c ∈ after.head?, (!isIdentifierChar c) = true) := by
    simp only [Mentioned, startsApart_iff, List.head?_reverse]
  rw [← hstands]
  constructor
  · rintro ⟨⟨hchars, hmentioned⟩, hne⟩
    exact ⟨fun h => hne (by rw [h]; rfl), fun c hc => by simpa using hchars c hc, hmentioned⟩
  · rintro ⟨hne, hchars, hmentioned⟩
    exact ⟨⟨fun c hc => by simpa using hchars c hc, hmentioned⟩,
      fun h => hne (String.toList_eq_nil_iff.mp h)⟩

/-- A word is mentioned where it is one of the identifiers. -/
theorem mentions_iff_mem_identifiers {text name : String} (hname : IsIdentifier name) :
    mentions text name = true ↔ name ∈ identifiers text := by
  rw [mentions_iff, mem_identifiers_iff]
  refine ⟨fun h => ⟨fun hnil => hname.1 (by rw [hnil]; rfl), fun c hc => ?_, h⟩, IsRun.stands⟩
  rw [isIdentifierChar, hname.2 c hc, Bool.true_or]

end QueryTypings.Text

namespace QueryTypings.Writer

open QueryTypings.Text

/-! ## Registry -/

/-- What a text exports are words. -/
theorem isIdentifier_of_mem_exportedTypes {text name : String} (h : name ∈ exportedTypes text) :
    IsIdentifier name := by
  obtain ⟨line, -, hname⟩ := List.mem_filterMap.mp h
  rw [exportedType?] at hname
  split at hname
  · cases hname
  · rename_i rest _
    split at hname
    · cases hname
    · rename_i hne
      obtain rfl := Option.some.inj hname
      rw [IsIdentifier, String.toList_ofList]
      exact ⟨hne, fun c hc => List.mem_takeWhile_imp hc⟩

/-- **The names that a writer has registered are words.** -/
theorem isIdentifier_of_mem_registry {s : Schema} {scalars : OrderedMap String}
    {base virtualDir : Path} {kept : List Path} {world started : World} {w : Writer}
    (h : prepare s scalars base virtualDir kept world = (.ok w, started)) :
    ∀ n ∈ w.registry, IsIdentifier n := by
  intro n hn
  rw [(registry_of_prepare h).2.2] at hn
  exact isIdentifier_of_mem_exportedTypes hn

/-! ## References -/

/-- **A search finds the registered names that are identifiers of the text**, and those are its longest
    runs of identifier characters. -/
theorem mentioned_eq_identifiers (w : Writer) (hregistry : ∀ n ∈ w.registry, IsIdentifier n)
    (text : String) :
    w.mentioned text = w.registry.filter (· ∈ identifiers text)
      ∧ ∀ run, run ∈ identifiers text ↔ IsRun run text := by
  refine ⟨List.filter_congr fun n hn => ?_, fun run => mem_identifiers_iff⟩
  rw [Bool.eq_iff_iff, decide_eq_true_iff]
  exact mentions_iff_mem_identifiers (hregistry n hn)

/-- A writer that has registered names of which one begins another, and one twice. -/
def repetitiveWriter : Writer where
  schema := default
  scalars := []
  base := ⟨.root, ["b"]⟩
  outDir := ⟨.root, ["b", ".gql", "types"]⟩
  schemaFile := ⟨.root, ["b", ".gql", "schema.d.ts"]⟩
  registry := ["Query", "A", "État", "AB", "A"]

/-- The names stand in the text as parts of others too. -/
theorem mentioned_eq_identifiers_repetitive :
    (∀ n ∈ repetitiveWriter.registry, IsIdentifier n)
      ∧ repetitiveWriter.mentioned "GetQuery|$AB<AA,A>ÉtatÉtat" = ["A", "A"] := by
  have hregistry : ∀ n ∈ repetitiveWriter.registry, IsIdentifier n := by decide +kernel
  refine ⟨hregistry, ?_⟩
  rw [(mentioned_eq_identifiers repetitiveWriter hregistry _).1]
  decide +kernel

end QueryTypings.Writer
