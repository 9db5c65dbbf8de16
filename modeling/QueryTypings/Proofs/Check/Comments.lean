/-
  Texts that are made of blanks and comments only, and which of them are accepted.

  Such a text consists of spaces, tabs, line feeds, carriage returns and comments, which run from `#`
  to the next line feed or carriage return and may hold any other character.

  1. **Reading** — all of it is passed over, so its only token is its end (`tokens_commentsOnly`).

  2. **Lines** — a line that begins the text or follows a line feed or a carriage return is blank or
     a comment.  A comment is cut into several lines by the breaks of other scripts, so the text is
     blank if the line behind each of these is (`blank_iff_of_commentsOnly`).

  3. **Acceptance** — so a text of comments is accepted, as an empty document, if and only if every
     comment goes on behind each such break with blanks or another `#`.  Any other text of comments
     is refused for its end (`commentsOnly_accepted_iff`).
-/
import QueryTypings.Proofs.Check.Blank

namespace QueryTypings.Check

open QueryTypings.Graphql QueryTypings.Schema QueryTypings.Text

/-- Spaces, tabs, line feeds, carriage returns and comments. -/
inductive CommentsOnly : List Char → Prop
  | nil : CommentsOnly []
  | gap {c : Char} {r : List Char} :
      c = ' ' ∨ c = '\t' ∨ EndsComment c → CommentsOnly r → CommentsOnly (c :: r)
  | comment {body r : List Char} : (∀ c ∈ body, ¬ EndsComment c) →
      (∀ c ∈ r.head?, EndsComment c) → CommentsOnly r → CommentsOnly ('#' :: (body ++ r))

variable {c : Char} {a b cs r body : List Char} {p : Position} {text : String}

/-! ## Reading -/

/-- In a comment everything is passed over up to its end. -/
theorem skipIgnored_body (hbody : ∀ c ∈ body, ¬ EndsComment c) (r : List Char) (p : Position) :
    ∃ p', skipIgnored true (body ++ r) p = skipIgnored true r p' := by
  induction body generalizing p with
  | nil => exact ⟨p, rfl⟩
  | cons c t ih =>
      obtain ⟨hc, ht⟩ := List.forall_mem_cons.mp hbody
      obtain ⟨p', hp'⟩ := ih ht (p.right 1)
      refine ⟨p', ?_⟩
      rw [List.cons_append, skipIgnored_cons hc, Bool.true_or, if_pos rfl]
      exact hp'

/-- Where a comment ends, it makes no difference that the text comes out of one. -/
theorem skipIgnored_leave (hr : ∀ c ∈ r.head?, EndsComment c) (p : Position) :
    skipIgnored true r p = skipIgnored false r p := by
  cases r with
  | nil => rfl
  | cons c t =>
      obtain ⟨p', hskip⟩ := skipIgnored_of_endsComment (hr c rfl) t p
      rw [hskip true, hskip false]

/-- **Spaces and comments are passed over** up to the end of the text. -/
theorem skipIgnored_commentsOnly (h : CommentsOnly cs) (p : Position) :
    ∃ p', skipIgnored false cs p = ([], p') := by
  induction h generalizing p with
  | nil => exact ⟨p, rfl⟩
  | @gap c r hc _ ih =>
      rcases hc with rfl | rfl | hend
      · exact ih (p.right 1)
      · exact ih (p.right 1)
      · obtain ⟨p', hskip⟩ := skipIgnored_of_endsComment hend r p
        rw [hskip false]
        exact ih p'
  | @comment body r hbody hr _ ih =>
      obtain ⟨p', hskip⟩ := skipIgnored_body hbody r (p.right 1)
      have hopen : skipIgnored false ('#' :: (body ++ r)) p
          = skipIgnored true (body ++ r) (p.right 1) := rfl
      rw [hopen, hskip, skipIgnored_leave hr]
      exact ih p'

/-- A text of comments has no token but its end. -/
theorem tokens_commentsOnly (h : CommentsOnly text.toList) :
    ∃ p, tokens text = [⟨.endOfText, "", p⟩] := by
  obtain ⟨p, hskip⟩ := skipIgnored_commentsOnly h .first
  exact ⟨p, tokens_eq_singleton hskip rfl rfl⟩

/-! ## Lines -/

/-- The lines below are blank if what follows each line break is, up to the next one. -/
theorem blankBelow_iff : BlankBelow cs ↔ ∀ a c b, cs = a ++ c :: b → isLineBreak c = true →
    isBlankLine (firstLine b) = true := by
  induction cs with
  | nil =>
      constructor
      · intro _ a c b heq
        exact absurd heq.symm (List.append_ne_nil_of_right_ne_nil a (List.cons_ne_nil c b))
      · intro _ l hl
        cases hl
  | cons x r ih =>
      -- a break further on is one of the rest, and the first character may be one
      have hrest : (∀ a c b, x :: r = a ++ c :: b → isLineBreak c = true →
            isBlankLine (firstLine b) = true)
          ↔ (isLineBreak x = true → isBlankLine (firstLine r) = true) ∧ BlankBelow r := by
        rw [ih]
        constructor
        · intro h
          refine ⟨h [] x r rfl, ?_⟩
          intro a c b heq hc
          exact h (x :: a) c b (by rw [heq, List.cons_append]) hc
        · rintro ⟨hfirst, hbehind⟩ a c b heq hc
          cases a with
          | nil =>
              cases heq
              exact hfirst hc
          | cons y a =>
              cases heq
              exact hbehind a c b rfl hc
      rw [hrest]
      by_cases hx : isLineBreak x = true
      · rw [blankBelow_of_break hx, blank_iff]
        exact and_congr_left fun _ => (imp_iff_right hx).symm
      · rw [blankBelow_of_not_break (Bool.eq_false_iff.mpr hx)]
        exact (and_iff_right fun h => absurd h hx).symm

/-- The first line of a text of comments is blank or a comment. -/
theorem CommentsOnly.first (h : CommentsOnly cs) : isBlankLine (firstLine cs) = true := by
  induction h with
  | nil => rfl
  | @gap c r hc _ ih =>
      rcases hc with rfl | rfl | hend
      · exact ih
      · exact ih
      · rw [firstLine_of_break hend.isLineBreak]
        rfl
  | comment =>
      rw [firstLine_of_not_break (by decide), isBlankLine_of_not_blank (by decide)]
      rfl

/-- Behind a line feed or a carriage return a text of comments goes on as one. -/
theorem CommentsOnly.behind (h : CommentsOnly cs) (heq : cs = a ++ c :: b) (hc : EndsComment c) :
    CommentsOnly b := by
  induction h generalizing a with
  | nil => cases a <;> cases heq
  | gap _ hr ih =>
      cases a with
      | nil =>
          cases heq
          exact hr
      | cons y a =>
          cases heq
          exact ih rfl
  | @comment body r hbody _ _ ih =>
      cases a with
      | nil =>
          cases heq
          exact absurd hc (by simp [EndsComment])
      | cons y a =>
          obtain ⟨-, heq⟩ := List.cons.inj heq
          rcases List.append_eq_append_iff.mp heq with ⟨t, -, ht⟩ | ⟨t, ht, htail⟩
          · exact ih ht
          · cases t with
            | nil => exact ih (a := []) htail.symm
            | cons z t =>
                cases htail
                exact absurd hc (hbody c (ht ▸ List.mem_append_right _ List.mem_cons_self))

/-- **A text of comments is blank** if the line behind each foreign break is. -/
theorem blank_iff_of_commentsOnly (h : CommentsOnly cs) :
    Blank cs ↔ ∀ a c b, cs = a ++ c :: b → isLineBreak c = true → ¬ EndsComment c →
      isBlankLine (firstLine b) = true := by
  rw [blank_iff, blankBelow_iff]
  constructor
  · rintro ⟨-, hbelow⟩ a c b heq hc _
    exact hbelow a c b heq hc
  · intro hforeign
    refine ⟨h.first, ?_⟩
    intro a c b heq hc
    by_cases hend : EndsComment c
    · exact (h.behind heq hend).first
    · exact hforeign a c b heq hc hend

/-! ## Acceptance -/

/-- What is refused because nothing is there. -/
theorem accepted_of_endOfText {s : Schema} (hblank : isBlankText text = false)
    (h : tokens text = [⟨.endOfText, "", p⟩]) :
    accepted s text
      = .error (.refused ["Syntax Error: Unexpected <EOF>. (" ++ p.toText ++ ")"]) := by
  rw [accepted, hblank, ofText_of_endOfText h]
  rfl

theorem accepted_of_isBlankText {s : Schema} (h : isBlankText text = true) :
    accepted s text = .ok [] := by
  rw [accepted, h]
  rfl

/-- **Which texts of comments are accepted.**  A text of blanks and comments is an empty document if
    and only if behind each line break in a comment, other than those that end it, the line is blank
    or begins with `#`.  Any other such text is refused with one message, for its end. -/
theorem commentsOnly_accepted_iff (s : Schema) (h : CommentsOnly text.toList) :
    (accepted s text = .ok [] ↔ ∀ a c b, text.toList = a ++ c :: b → isLineBreak c = true →
        ¬ EndsComment c → isBlankLine (firstLine b) = true)
      ∧ (accepted s text ≠ .ok [] → ∃ p : Position,
        accepted s text
          = .error (.refused ["Syntax Error: Unexpected <EOF>. (" ++ p.toText ++ ")"])) := by
  obtain ⟨p, htokens⟩ := tokens_commentsOnly h
  rw [← blank_iff_of_commentsOnly h, ← isBlankText_iff]
  by_cases hblank : isBlankText text = true
  · have haccepted : accepted s text = .ok [] := accepted_of_isBlankText hblank
    refine ⟨iff_of_true haccepted hblank, ?_⟩
    intro hrefused
    exact absurd haccepted hrefused
  · have hrefused := accepted_of_endOfText (s := s) (Bool.eq_false_iff.mpr hblank) htokens
    refine ⟨iff_of_false ?_ hblank, fun _ => ⟨p, hrefused⟩⟩
    intro haccepted
    rw [hrefused] at haccepted
    cases haccepted

/-- A comment that goes on behind a line separator. -/
def brokenComment : String := "# one\u2028two"

/-- This text is a single comment, and it is refused. -/
theorem commentsOnly_accepted_iff_broken : CommentsOnly brokenComment.toList
    ∧ accepted default brokenComment ≠ .ok []
    ∧ ∃ p : Position, accepted default brokenComment
        = .error (.refused ["Syntax Error: Unexpected <EOF>. (" ++ p.toText ++ ")"]) := by
  have hbody : ∀ c ∈ " one\u2028two".toList, ¬ EndsComment c := by
    have hall : (" one\u2028two".toList.all fun c => decide (¬ EndsComment c)) = true := by decide
    intro c hc
    exact of_decide_eq_true (List.all_eq_true.mp hall c hc)
  have hcomment : CommentsOnly ('#' :: (" one\u2028two".toList ++ [])) :=
    .comment hbody (fun _ h => by cases h) .nil
  have htext : CommentsOnly brokenComment.toList := hcomment
  obtain ⟨hiff, hmessage⟩ := commentsOnly_accepted_iff default htext
  have hrefused : accepted default brokenComment ≠ .ok [] := by
    intro haccepted
    have hline := hiff.mp haccepted "# one".toList '\u2028' "two".toList rfl (by decide) (by decide)
    exact absurd hline (by decide)
  exact ⟨htext, hrefused, hmessage hrefused⟩

end QueryTypings.Check
