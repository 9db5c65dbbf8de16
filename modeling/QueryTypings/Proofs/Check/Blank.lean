/-
  Texts of blank lines and comments hold no definition.

  Two notions of a line meet here.  A text is blank if each of its lines, cut at every line break
  that any script knows, is blank or begins with `#`.  A comment of the language ends at a line feed
  or a carriage return only, so it may go on in lines behind other breaks; and most blank characters
  are illegal in the language.

  1. **Lines** — a text is blank if its first line is and all lines below are (`blank_iff`).  What
     is known of the lines is handed on from one character to the next (`Blank.behind`,
     `BlankBelow.behind`), so no list of lines is cut again.

  2. **What is passed over** — the invariant: the lines below are blank, and outside a comment the
     rest of the line is, too (`Resting`).  A comment of the language is left only where a line
     begins, so what is not passed over begins with a blank character (`skipIgnored_blank`).

  3. **Tokens** — no token begins with such a character.  So the only token of a blank text is its
     end or an illegal one, and no document is read (`blank_holds_no_definition`).
-/
import QueryTypings.Check.Accepted
import QueryTypings.Proofs.Text.Lines

namespace QueryTypings.Check

open QueryTypings.Graphql QueryTypings.Text

/-! ## Lines -/

/-- All lines are blank or begin with a comment. -/
def Blank (cs : List Char) : Prop := ∀ l ∈ lines cs, isBlankLine l = true

/-- All lines after the first are blank or begin with a comment. -/
def BlankBelow (cs : List Char) : Prop := ∀ l ∈ (lines cs).tail, isBlankLine l = true

/-- What stands before the first line break. -/
def firstLine (cs : List Char) : List Char := cs.takeWhile fun c => !isLineBreak c

variable {c : Char} {cs r : List Char} {p : Position}

theorem isBlankText_iff {text : String} : isBlankText text = true ↔ Blank text.toList := by
  rw [isBlankText, List.all_eq_true, Blank]

theorem firstLine_of_break (hc : isLineBreak c = true) : firstLine (c :: r) = [] := by
  rw [firstLine, List.takeWhile_cons, hc]
  rfl

theorem firstLine_of_not_break (hc : isLineBreak c = false) :
    firstLine (c :: r) = c :: firstLine r := by
  rw [firstLine, List.takeWhile_cons, hc]
  rfl

theorem lines_eq (h : cs ≠ []) : lines cs = firstLine cs :: (lines cs).tail :=
  lines_eq_takeWhile h

theorem isBlankLine_of_blank (hc : isBlank c = true) : isBlankLine (c :: r) = isBlankLine r := by
  have hstart : trimStart (c :: r) = trimStart r := List.dropWhile_cons_of_pos hc
  rw [isBlankLine, isBlankLine, trim, trim, hstart]

theorem isBlankLine_of_not_blank (hc : isBlank c = false) :
    isBlankLine (c :: r) = (c == '#') := by
  have hstart : trimStart (c :: r) = c :: r := List.dropWhile_cons_of_neg (by simp [hc])
  have hne : (trimEnd (c :: r)).isEmpty = false := by
    rw [trimEnd, dropEndWhile]
    split
    · simp [hc]
    · rfl
  rw [isBlankLine, trim, hstart, hne, Bool.false_or, List.head?_cons]
  rfl

/-- A text is blank if its first line and all others are. -/
theorem blank_iff : Blank cs ↔ isBlankLine (firstLine cs) = true ∧ BlankBelow cs := by
  cases cs with
  | nil =>
      constructor
      · intro h
        exact ⟨rfl, h⟩
      · rintro ⟨-, h⟩
        exact h
  | cons c r =>
      rw [Blank, BlankBelow, lines_eq (List.cons_ne_nil c r)]
      exact List.forall_mem_cons

theorem blankBelow_of_break (hc : isLineBreak c = true) : BlankBelow (c :: r) ↔ Blank r := by
  rcases lines_of_break (r := r) hc with heq | ⟨t, rfl, rfl, heq⟩
  · rw [BlankBelow, heq]
    rfl
  · rw [blank_iff, firstLine_of_break (by decide), BlankBelow, heq]
    exact (and_iff_right rfl).symm

theorem blankBelow_of_not_break (hc : isLineBreak c = false) :
    BlankBelow (c :: r) ↔ BlankBelow r := by
  rw [BlankBelow, BlankBelow, tail_lines_of_not_break hc]

theorem blank_of_break (hc : isLineBreak c = true) : Blank (c :: r) ↔ Blank r := by
  rw [blank_iff, firstLine_of_break hc, blankBelow_of_break hc]
  exact and_iff_right rfl

/-- Behind any character the following lines are blank as they were in front of it. -/
theorem BlankBelow.behind (h : BlankBelow (c :: r)) : BlankBelow r := by
  by_cases hc : isLineBreak c = true
  · exact (blank_iff.mp ((blankBelow_of_break hc).mp h)).2
  · exact (blankBelow_of_not_break (Bool.eq_false_iff.mpr hc)).mp h

theorem Blank.behind (h : Blank (c :: r)) (hc : isBlank c = true) : Blank r := by
  by_cases hbreak : isLineBreak c = true
  · exact (blank_of_break hbreak).mp h
  · have hbreak' : isLineBreak c = false := Bool.eq_false_iff.mpr hbreak
    obtain ⟨hfirst, hbelow⟩ := blank_iff.mp h
    rw [firstLine_of_not_break hbreak', isBlankLine_of_blank hc] at hfirst
    exact blank_iff.mpr ⟨hfirst, hbelow.behind⟩

theorem isBlank_of_isLineBreak (hc : isLineBreak c = true) : isBlank c = true := by
  simp only [isLineBreak, Bool.or_eq_true, Bool.and_eq_true, decide_eq_true_eq, beq_iff_eq] at hc
  simp only [isBlank, Bool.or_eq_true, Bool.and_eq_true, decide_eq_true_eq, beq_iff_eq]
  omega

theorem Blank.first (h : Blank (c :: r)) : isBlank c = true ∨ c = '#' := by
  by_cases hc : isBlank c = true
  · exact Or.inl hc
  · right
    have hc' : isBlank c = false := Bool.eq_false_iff.mpr hc
    have hbreak : isLineBreak c = false :=
      Bool.eq_false_iff.mpr fun hbreak => hc (isBlank_of_isLineBreak hbreak)
    have hfirst := (blank_iff.mp h).1
    rw [firstLine_of_not_break hbreak, isBlankLine_of_not_blank hc'] at hfirst
    exact eq_of_beq hfirst

/-! ## What is passed over -/

/-- A line feed or a carriage return, which end a comment. -/
def EndsComment (c : Char) : Prop := c = '\n' ∨ c = '\r'

instance (c : Char) : Decidable (EndsComment c) := inferInstanceAs (Decidable (_ ∨ _))

theorem EndsComment.isLineBreak (hc : EndsComment c) : isLineBreak c = true := by
  rcases hc with rfl | rfl
  · decide
  · decide

/-- Behind the end of a line the text goes on outside a comment, also if two characters end it. -/
theorem skipIgnored_of_endsComment (hc : EndsComment c) (r : List Char) (p : Position) :
    ∃ p', ∀ inComment, skipIgnored inComment (c :: r) p = skipIgnored false r p' := by
  by_cases hpair : ∃ t, c = '\r' ∧ r = '\n' :: t
  · obtain ⟨t, rfl, rfl⟩ := hpair
    refine ⟨p, fun inComment => ?_⟩
    rw [skipIgnored, skipIgnored]
    · rfl
    · intro u hcr
      exact absurd hcr (by decide)
  · refine ⟨p.nextLine, fun inComment => ?_⟩
    have hend : (c = '\n' || c = '\r') = true := by
      rcases hc with rfl | rfl
      · rfl
      · rfl
    rw [skipIgnored, if_pos hend]
    intro t hcr hr
    exact hpair ⟨t, hcr, hr⟩

/-- How a character that does not end a line is passed over. -/
theorem skipIgnored_cons (hc : ¬ EndsComment c) (inComment : Bool) (r : List Char) (p : Position) :
    skipIgnored inComment (c :: r) p
      = if inComment || isSeparator c then skipIgnored inComment r (p.right 1)
        else if c = '#' then skipIgnored true r (p.right 1)
        else (c :: r, p) := by
  have hend : ¬ (c = '\n' || c = '\r') = true := by
    simpa [EndsComment] using hc
  rw [skipIgnored, if_neg hend]
  intro t hcr
  exact absurd (Or.inr hcr) hc

/-- What is known of the rest of a blank text where blanks and comments are passed over. -/
structure Resting (inComment : Bool) (cs : List Char) : Prop where
  below : BlankBelow cs
  whole : inComment = false → Blank cs

theorem Blank.resting (h : Blank cs) (inComment : Bool) : Resting inComment cs :=
  ⟨(blank_iff.mp h).2, fun _ => h⟩

/-- A separator is blank, or no line of a blank text begins with it. -/
theorem Blank.isBlank_of_isSeparator (h : Blank (c :: r)) (hc : isSeparator c = true) :
    isBlank c = true := by
  rcases h.first with hblank | rfl
  · exact hblank
  · exact absurd hc (by decide)

/-- **What is not passed over in a blank text begins with a blank character.** -/
theorem skipIgnored_blank {inComment : Bool} (h : Resting inComment cs) {d : Char} {t : List Char}
    (ht : (skipIgnored inComment cs p).1 = d :: t) : isBlank d = true := by
  induction cs generalizing inComment p with
  | nil =>
      rw [skipIgnored] at ht
      cases ht
  | cons c r ih =>
      by_cases hend : EndsComment c
      · obtain ⟨p', hskip⟩ := skipIgnored_of_endsComment hend r p
        have hr : Blank r := (blankBelow_of_break hend.isLineBreak).mp h.below
        rw [hskip] at ht
        exact ih (hr.resting false) ht
      · rw [skipIgnored_cons hend] at ht
        cases inComment with
        | true => exact ih ⟨h.below.behind, fun hfalse => by cases hfalse⟩ ht
        | false =>
            have hwhole := h.whole rfl
            rw [Bool.false_or] at ht
            by_cases hc : isSeparator c = true
            · rw [if_pos hc] at ht
              have hr := hwhole.behind (hwhole.isBlank_of_isSeparator hc)
              exact ih (hr.resting false) ht
            · rw [if_neg hc] at ht
              by_cases hcomment : c = '#'
              · rw [if_pos hcomment] at ht
                exact ih ⟨h.below.behind, fun hfalse => by cases hfalse⟩ ht
              · rw [if_neg hcomment] at ht
                cases ht
                exact hwhole.first.resolve_right hcomment

/-! ## Tokens -/

theorem punctuator?_blank (hc : isBlank c = true) : punctuator? c = none := by
  unfold punctuator?
  split <;> first | rfl | exact absurd hc (by decide)

/-- Blank characters lie apart from digits, letters and the underscore. -/
theorem not_isNameChar_of_isBlank (hc : isBlank c = true) : isNameChar c = false := by
  refine Bool.eq_false_iff.mpr ?_
  intro hname
  simp only [isNameChar, isNameStart, Bool.or_eq_true, Bool.and_eq_true, decide_eq_true_eq,
    beq_iff_eq, Char.le_def, UInt32.le_iff_toNat_le] at hname
  simp only [isBlank, Bool.or_eq_true, Bool.and_eq_true, decide_eq_true_eq, beq_iff_eq] at hc
  rcases hname with ((hletter | hletter) | rfl) | hdigit
  · have hlow : 97 ≤ c.toNat := hletter.1
    have hhigh : c.toNat ≤ 122 := hletter.2
    omega
  · have hlow : 65 ≤ c.toNat := hletter.1
    have hhigh : c.toNat ≤ 90 := hletter.2
    omega
  · exact absurd hc (by decide)
  · have hlow : 48 ≤ c.toNat := hdigit.1
    have hhigh : c.toNat ≤ 57 := hdigit.2
    omega

/-- No token begins with a blank character. -/
theorem scanToken_blank (hc : isBlank c = true) :
    scanToken (c :: r) p = .fault (.unexpectedCharacter c) p := by
  have hname := not_isNameChar_of_isBlank hc
  rw [isNameChar, Bool.or_eq_false_iff] at hname
  obtain ⟨hstart, hdigit⟩ := hname
  have hquote : c ≠ '\'' := by
    rintro rfl
    exact absurd hc (by decide)
  unfold scanToken
  split
  all_goals
    rename_i heq
    cases heq
  -- points, quotation marks and a minus are not blank
  iterate 5
    exact absurd hc (by decide)
  have hdigit' : Graphql.isDigit c = false := hdigit
  rw [punctuator?_blank hc]
  simp only [hdigit', hstart, if_neg hquote, Bool.false_eq_true, if_false]

theorem tokens_eq_singleton {text : String} {cs : List Char} {p : Position} {t : Token}
    (hskip : skipIgnored false text.toList .first = (cs, p)) (ht : (scanToken cs p).token = t)
    (hlast : t.kind.isLast = true) : tokens text = [t] := by
  rw [tokens, tokensFrom]
  simp only [hskip, ht, hlast, if_true]

/-- No definition is read where there is no token. -/
theorem ofText_of_endOfText {text : String} {p : Position}
    (h : tokens text = [⟨.endOfText, "", p⟩]) :
    Document.ofText text = .error ⟨.unexpected ⟨.endOfText, "", p⟩, p⟩ := by
  rw [Document.ofText, h]
  rfl

theorem ofText_of_illegal {text : String} {fault : LexicalFault} {p : Position}
    (h : tokens text = [⟨.illegal fault, "", p⟩]) :
    Document.ofText text = .error ⟨.lexical fault, p⟩ := by
  rw [Document.ofText, h]
  rfl

/-- **A blank text holds no definition.**  Whatever stands between tokens is passed over up to the
    end of the text, or up to a character that is blank in some script and illegal here; in neither
    case is there a document. -/
theorem blank_holds_no_definition {text : String} (h : isBlankText text = true) :
    (∃ p, tokens text = [⟨.endOfText, "", p⟩]
        ∧ Document.ofText text = .error ⟨.unexpected ⟨.endOfText, "", p⟩, p⟩)
      ∨ ∃ c p, isBlank c = true ∧ tokens text = [⟨.illegal (.unexpectedCharacter c), "", p⟩]
        ∧ Document.ofText text = .error ⟨.lexical (.unexpectedCharacter c), p⟩ := by
  have hblank := isBlankText_iff.mp h
  obtain ⟨cs, p, hskip⟩ : ∃ cs p, skipIgnored false text.toList .first = (cs, p) := ⟨_, _, rfl⟩
  cases cs with
  | nil =>
      have htokens : tokens text = [⟨.endOfText, "", p⟩] := tokens_eq_singleton hskip rfl rfl
      exact Or.inl ⟨p, htokens, ofText_of_endOfText htokens⟩
  | cons c r =>
      have hc : isBlank c = true :=
        skipIgnored_blank (hblank.resting false) (congrArg Prod.fst hskip)
      have hscan : (scanToken (c :: r) p).token = ⟨.illegal (.unexpectedCharacter c), "", p⟩ := by
        rw [scanToken_blank hc]
        rfl
      have htokens : tokens text = [⟨.illegal (.unexpectedCharacter c), "", p⟩] :=
        tokens_eq_singleton hskip hscan rfl
      exact Or.inr ⟨c, p, hc, htokens, ofText_of_illegal htokens⟩

/-- A line separator inside a comment, with another comment behind it, and a vertical tab in the
    second line. -/
def separatedComments : String := "\t# a\u2028 # b\r\n\x0b"

/-- This text is blank, and nothing is read of it. -/
theorem blank_holds_no_definition_separated : isBlankText separatedComments = true
    ∧ ((∃ p, tokens separatedComments = [⟨.endOfText, "", p⟩]
        ∧ Document.ofText separatedComments = .error ⟨.unexpected ⟨.endOfText, "", p⟩, p⟩)
      ∨ ∃ c p, isBlank c = true
        ∧ tokens separatedComments = [⟨.illegal (.unexpectedCharacter c), "", p⟩]
        ∧ Document.ofText separatedComments = .error ⟨.lexical (.unexpectedCharacter c), p⟩) :=
  ⟨by decide, blank_holds_no_definition (by decide)⟩

end QueryTypings.Check
