/-
  What statements export, read off their texts.

  1. **Comments** — a comment ends with its line, and none of its lines exports anything, whatever
     the description holds (`comment_cases`): every line begins with a blank, a slash or a star.

  2. **Statements** — so a statement that exports a type exports its name also by its text
     (`exportedTypes_exportType`), and nothing else if all that its lines are made of stays in its
     line (`Body.Flat`, `exportedTypes_of_flat`).
-/
import QueryTypings.Typescript.Statement
import QueryTypings.Proofs.Text.Exported
import QueryTypings.Proofs.Text.Lines

namespace QueryTypings.Typescript

open QueryTypings.Text

/-! ## Comments -/

theorem break_not_mem_lines {cs line : List Char} (h : line ∈ lines cs) : '\n' ∉ line :=
  fun hmem => absurd (unbroken_of_mem_lines h _ hmem) (by decide)

theorem plain_commentRow {indent line : List Char} (hindent : Plain indent) (hline : '\n' ∉ line) :
    Plain (commentRow indent line) := by
  obtain ⟨tail, htail⟩ := eq_dropEndWhile_append isBlank (indent ++ [' ', '*', ' '] ++ line)
  have hstar : Plain (indent ++ [' ', '*', ' ']) := hindent.append (by decide)
  exact Plain.of_prefix ⟨tail, htail.symm⟩ (hstar.followed (by simp) hline)

/-- **A comment ends with its line, and exports nothing.** -/
theorem comment_cases {indent : String} (hindent : Plain indent.toList) (d : Option String) :
    comment indent d = "" ∨ ∃ c, comment indent d = c ++ "\n" ∧ Silent c.toList := by
  unfold comment
  split
  · exact Or.inl rfl
  · rename_i text
    split
    · exact Or.inl rfl
    · -- no line of a comment is cut again, since a line feed is a line boundary everywhere
      have hrows : ∀ line ∈ commentLines text, '\n' ∉ line := fun _ => break_not_mem_lines
      refine Or.inr ?_
      split
      · rename_i line hlines
        refine ⟨indent ++ "/** " ++ String.ofList line ++ " */", ?_, ?_⟩
        · simp only [String.append_assoc]
          rfl
        · have hopen : Plain (indent ++ "/** ").toList := hindent.text_append (by decide)
          have hne : (indent ++ "/** ").toList ≠ [] := by simp
          have hline : '\n' ∉ (String.ofList line).toList := by
            rw [String.toList_ofList]
            exact hrows line (hlines ▸ List.mem_singleton_self line)
          rw [String.toList_append, String.toList_append]
          exact ((hopen.followed hne hline).append (by decide)).silent
      · have hopen : Plain (indent ++ "/**").toList := hindent.text_append (by decide)
        have hclose : Plain (indent ++ " */").toList := hindent.text_append (by decide)
        have hmiddle : Silent (String.ofList (intercal ['\n']
            ((commentLines text).map (commentRow indent.toList)))).toList := by
          rw [String.toList_ofList]
          exact silent_intercal (List.forall_mem_map.mpr fun line hline =>
            (plain_commentRow hindent (hrows line hline)).silent)
        refine ⟨indent ++ "/**" ++ "\n" ++ String.ofList (intercal ['\n']
          ((commentLines text).map (commentRow indent.toList))) ++ "\n" ++ (indent ++ " */"), ?_,
          (hopen.silent.lineBreak hmiddle).lineBreak hclose.silent⟩
        simp only [String.append_assoc]
        rfl

/-- **A comment in front changes nothing of what a text exports.** -/
theorem exportedTypes_comment {indent : String} (hindent : Plain indent.toList) (d : Option String)
    (text : String) : exportedTypes (comment indent d ++ text) = exportedTypes text := by
  rcases comment_cases hindent d with h | ⟨c, h, hc⟩
  · rw [h, String.empty_append]
  · rw [h, exportedTypes_append, hc.exportedTypes, List.nil_append]

/-! ## Statements -/

theorem laterExports_of_silent {rest : String} (h : Silent rest.toList) : laterExports rest = [] :=
  List.filterMap_eq_nil_iff.mpr fun line hline =>
    exportedType?_eq_none (h line (List.mem_of_mem_tail hline))

/-- **A statement that exports a type** exports its name. -/
theorem exportedTypes_exportType (d : Option String) {n : String} (hn : IsIdentifier n) (b : Body) :
    exportedTypes (Statement.exportType d n b).text
      = n :: laterExports (" =" ++ (b.text ++ ";")) := by
  have htext : (Statement.exportType d n b).text
      = comment "" d ++ ("export type " ++ n ++ (" =" ++ (b.text ++ ";"))) := by
    show comment "" d ++ "export type " ++ n ++ " =" ++ b.text ++ ";" = _
    simp only [String.append_assoc]
  rw [htext, exportedTypes_comment (show Plain "".toList by decide)]
  refine exportedTypes_export hn fun c hc => ?_
  rw [String.toList_append] at hc
  rw [← Option.some.inj hc]
  decide

/-- All that the lines are made of stays in its line. -/
def Body.Flat : Body → Prop
  | .inline t => '\n' ∉ t.text.toList
  | .record ms => ∀ m ∈ ms, '\n' ∉ m.name.toList ∧ '\n' ∉ m.type.text.toList
  | .choice values => ∀ v ∈ values, '\n' ∉ v.toList
  | .emptyRecord => True

theorem silent_recordMember {m : RecordMember} (hname : '\n' ∉ m.name.toList)
    (htype : '\n' ∉ m.type.text.toList) : Silent m.text.toList := by
  have hline : Plain ("  " ++ (m.name ++ optionalMark m.optional ++ ": " ++ m.type.text
      ++ ";")).toList := by
    rw [String.toList_append]
    refine Plain.followed (by decide) (by decide) ?_
    have hmark : '\n' ∉ (optionalMark m.optional).toList := by
      cases m.optional <;> decide
    simp only [String.toList_append, List.mem_append, not_or]
    exact ⟨⟨⟨⟨hname, hmark⟩, by decide⟩, htype⟩, by decide⟩
  have htext : m.text = comment "  " m.description ++ ("  " ++ (m.name ++ optionalMark m.optional
      ++ ": " ++ m.type.text ++ ";")) := by
    simp only [RecordMember.text, String.append_assoc]
  rw [htext]
  rcases comment_cases (show Plain "  ".toList by decide) m.description with h | ⟨c, h, hc⟩
  · rw [h, String.empty_append]
    exact hline.silent
  · rw [h]
    exact hc.lineBreak hline.silent

theorem silent_joinWith {xs : List String} (h : ∀ x ∈ xs, Silent x.toList) :
    Silent (joinWith "\n" xs).toList := by
  rw [toList_joinWith]
  exact silent_intercal (List.forall_mem_map.mpr h)

theorem Body.Flat.silent {b : Body} (h : b.Flat) : Silent (" =" ++ (b.text ++ ";")).toList := by
  cases b with
  | inline t =>
      refine Plain.silent ?_
      rw [String.toList_append, Body.text]
      refine Plain.followed (by decide) (by decide) ?_
      simp only [String.toList_append, List.mem_append, not_or]
      exact ⟨⟨by decide, h⟩, by decide⟩
  | record ms =>
      have hmembers : Silent (joinWith "\n" (ms.map RecordMember.text)).toList :=
        silent_joinWith (List.forall_mem_map.mpr fun m hm =>
          silent_recordMember (h m hm).1 (h m hm).2)
      have hopen : Silent " = \x7b".toList := Plain.silent (by decide)
      have hclose : Silent "\x7d;".toList := Plain.silent (by decide)
      have htext : " =" ++ ((Body.record ms).text ++ ";")
          = " = \x7b" ++ "\n" ++ joinWith "\n" (ms.map RecordMember.text) ++ "\n" ++ "\x7d;" := by
        simp only [Body.text, String.append_assoc]
        rfl
      rw [htext]
      exact (hopen.lineBreak hmembers).lineBreak hclose
  | choice values =>
      cases values with
      | nil =>
          have hopen : Silent " =".toList := Plain.silent (by decide)
          exact hopen.lineBreak (show Silent "  never;".toList from Plain.silent (by decide))
      | cons v r =>
          have hvalues :
              Silent (joinWith "\n" ((v :: r).map fun v => "  | '" ++ v ++ "'")).toList :=
            silent_joinWith (List.forall_mem_map.mpr fun v hv => by
              rw [String.toList_append, String.toList_append]
              refine Plain.silent (Plain.followed (Plain.followed ?_ ?_ (h v hv)) ?_ ?_)
              · decide
              · decide
              · simp
              · decide)
          have hopen : Silent " =".toList := Plain.silent (by decide)
          have hlast := hvalues.followed (show Plain ";".toList by decide)
          rw [← String.toList_append] at hlast
          have htext : " =" ++ ((Body.choice (v :: r)).text ++ ";")
              = " =" ++ "\n"
                ++ (joinWith "\n" ((v :: r).map fun v => "  | '" ++ v ++ "'") ++ ";") := by
            simp only [Body.text, String.append_assoc]
          rw [htext]
          exact hopen.lineBreak hlast
  | emptyRecord => exact Plain.silent (by decide)

/-- **Such a statement exports its name, and nothing else.** -/
theorem exportedTypes_of_flat (d : Option String) {n : String} {b : Body} (hn : IsIdentifier n)
    (hb : b.Flat) : exportedTypes (Statement.exportType d n b).text = [n] := by
  rw [exportedTypes_exportType d hn, laterExports_of_silent hb.silent]

end QueryTypings.Typescript
