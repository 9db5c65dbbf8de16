/-
  The names among the tokens of a text, and what readers of tokens give.

  1. **Nameless tokens** — a number, a string, and what cannot be read at all are no names, however
     the reading of their parts ends (`nameless_numberToken`).

  2. **Names** — so a token that is a name is a run of letters, digits and underscores that does not
     begin with a digit (`spelled_tokens`), which is an identifier (`IsNameText.isIdentifier`).

  3. **Readers** — a reader leaves tokens that were there before, and what it gives has a property
     if the names in the text are spelled like names (`Gives`).  What readers give one after another
     follows from what each gives (`Gives.bind`).

  4. **Single tokens** — a name that is read is a name (`gives_nameText`), and so an identifier
     (`gives_name`).

  5. **Repetitions** — what is read repeatedly consists of what is read each time.
-/
import QueryTypings.Graphql.Document.Read
import QueryTypings.Graphql.Token.Scan
import QueryTypings.Proofs.Text.Exported
import Mathlib.Data.List.TakeWhile

namespace QueryTypings.Graphql

open QueryTypings.Text

/-! ## Nameless tokens -/

/-- What was scanned is no name. -/
def Scanned.Nameless (t : Scanned) : Prop := t.token.kind ≠ .name

/-- If a part of a number fails, the token is no name. -/
def Nameless {α : Type} (read : Except Scanned α) : Prop := ∀ t, read = .error t → t.Nameless

theorem nameless_needDigits (cs : List Char) (p : Position) : Nameless (needDigits cs p) := by
  intro t ht
  unfold needDigits at ht
  split at ht
  · cases ht
    exact nofun
  · cases ht

theorem Nameless.map {α β : Type} {read : Except Scanned α} (h : Nameless read) (g : α → β) :
    Nameless (read.map g) := by
  intro t ht
  cases read with
  | error e =>
      cases ht
      exact h t rfl
  | ok a => cases ht

theorem nameless_wholePart (cs : List Char) (p : Position) : Nameless (wholePart cs p) := by
  unfold wholePart
  split
  · split
    · intro t ht
      cases ht
      exact nofun
    · exact fun t ht => absurd ht nofun
  · exact nameless_needDigits _ _

theorem nameless_fractionPart (cs : List Char) (p : Position) : Nameless (fractionPart cs p) := by
  unfold fractionPart
  split
  · exact (nameless_needDigits _ _).map _
  · exact fun t ht => absurd ht nofun

theorem nameless_exponentPart (cs : List Char) (p : Position) : Nameless (exponentPart cs p) := by
  unfold exponentPart
  split
  · exact fun t ht => absurd ht nofun
  · split
    · split
      · split
        · exact (nameless_needDigits _ _).map _
        · exact (nameless_needDigits _ _).map _
      · exact (nameless_needDigits _ _).map _
    · exact fun t ht => absurd ht nofun

/-- What comes of reading a number is no name. -/
def Numeric (read : Except Scanned Scanned) : Prop :=
  Nameless read ∧ ∀ t, read = .ok t → t.Nameless

theorem Nameless.bind {α : Type} {read : Except Scanned α} {f : α → Except Scanned Scanned}
    (h : Nameless read) (hf : ∀ a, Numeric (f a)) : Numeric (read >>= f) := by
  cases read with
  | error e => exact ⟨fun t ht => h t (congrArg Except.error (Except.error.inj ht)),
      fun t ht => absurd ht nofun⟩
  | ok a => exact hf a

theorem nameless_numberToken (start : Position) (sign cs : List Char) (p : Position) :
    (numberToken start sign cs p).Nameless := by
  unfold numberToken
  extract_lets read
  have h : Numeric read := by
    refine (nameless_wholePart cs p).bind fun whole => (nameless_fractionPart _ _).bind
      fun fraction => (nameless_exponentPart _ _).bind fun exponent => ?_
    have hkind (value : List Char) (rest : List Char) (next : Position) (whole : Bool) : Numeric
        (pure ⟨⟨if whole then .int else .float, String.ofList value, start⟩, rest, next⟩) := by
      refine ⟨fun t ht => absurd ht nofun, fun t ht => ?_⟩
      rw [← Except.ok.inj ht]
      cases whole <;> exact nofun
    dsimp only
    split
    · split
      · refine ⟨fun t ht => ?_, fun t ht => absurd ht nofun⟩
        rw [← Except.error.inj ht]
        exact nofun
      · exact hkind _ _ _ _
    · exact hkind _ _ _ _
  clear_value read
  cases read with
  | error t => exact h.1 t rfl
  | ok t => exact h.2 t rfl

theorem nameless_stringToken (start : Position) (n : Nat) (cs : List Char) (p : Position)
    (done : List Char) : (stringToken start n cs p done).Nameless := by
  induction n generalizing cs p done with
  | zero => exact nofun
  | succ n ih =>
      unfold stringToken
      split
      · exact nofun
      · exact nofun
      · split
        · exact ih _ _ _
        · exact nofun
      · split
        · exact nofun
        · exact ih _ _ _

theorem nameless_blockStringToken (start : Position) (cs : List Char) (p : Position)
    (done : List (List Char)) (row : List Char) :
    (blockStringToken start cs p done row).Nameless := by
  fun_induction blockStringToken start cs p done row with
  | case1 => exact nofun
  | case2 => exact nofun
  | case3 _ _ _ _ ih => exact ih
  | case4 _ _ _ _ ih => exact ih
  | case5 _ _ _ _ _ _ _ _ _ ih => exact ih
  | case6 _ _ _ _ _ _ _ _ _ ih => exact ih

theorem nameless_lonePoint (r : List Char) (p : Position) : (lonePoint r p).Nameless := by
  unfold lonePoint
  split
  · exact nofun
  · split
    · exact nofun
    · exact nofun
  · exact nofun

/-! ## Names -/

/-- A letter or an underscore, and then letters, digits and underscores. -/
def IsNameText (text : String) : Prop :=
  ∃ c r, text.toList = c :: r ∧ isNameStart c = true ∧ ∀ d ∈ r, isNameChar d = true

/-- If the token is a name, it is spelled like one. -/
def Token.Spelled (t : Token) : Prop := t.kind = .name → IsNameText t.value

theorem Scanned.Nameless.spelled {t : Scanned} (h : t.Nameless) : t.token.Spelled :=
  fun hname => absurd hname h

theorem isWord_of_isNameChar {c : Char} (h : isNameChar c = true) : isWord c = true := by
  have hall : ∀ n : Fin 128, isNameChar (Char.ofNat n) = true → isWord (Char.ofNat n) = true := by
    decide
  have hbound : c.toNat < 128 := by
    simp only [isNameChar, isNameStart, Bool.or_eq_true, Bool.and_eq_true, decide_eq_true_eq,
      beq_iff_eq, Char.le_def, UInt32.le_iff_toNat_le] at h
    rcases h with ((h | h) | rfl) | h
    · exact Nat.lt_of_le_of_lt h.2 (by decide)
    · exact Nat.lt_of_le_of_lt h.2 (by decide)
    · decide
    · exact Nat.lt_of_le_of_lt h.2 (by decide)
  have hc := hall ⟨c.toNat, hbound⟩
  simp only [Char.ofNat_toNat] at hc
  exact hc h

/-- A name is an identifier. -/
theorem IsNameText.isIdentifier {text : String} (h : IsNameText text) : IsIdentifier text := by
  obtain ⟨c, r, htext, hc, hr⟩ := h
  have hfirst : isNameChar c = true := by rw [isNameChar, hc, Bool.true_or]
  rw [IsIdentifier, htext]
  exact ⟨List.cons_ne_nil c r, List.forall_mem_cons.mpr
    ⟨isWord_of_isNameChar hfirst, fun d hd => isWord_of_isNameChar (hr d hd)⟩⟩

theorem spelled_scanToken (cs : List Char) (p : Position) : (scanToken cs p).token.Spelled := by
  unfold scanToken
  split
  · exact nofun
  · exact nofun
  · exact (nameless_lonePoint _ _).spelled
  · exact (nameless_blockStringToken _ _ _ _ _).spelled
  · exact (nameless_stringToken _ _ _ _ _).spelled
  · exact (nameless_numberToken _ _ _ _).spelled
  · rename_i c r _ _ _ _ _
    split
    · exact nofun
    · split
      · exact (nameless_numberToken _ _ _ _).spelled
      · split
        · rename_i hstart
          have hfirst : isNameChar c = true := by rw [isNameChar, hstart, Bool.true_or]
          refine fun _ => ⟨c, r.takeWhile isNameChar, ?_, hstart, fun d hd =>
            List.mem_takeWhile_imp hd⟩
          rw [String.toList_ofList, List.takeWhile_cons_of_pos hfirst]
        · split
          · exact nofun
          · exact nofun

theorem spelled_tokensFrom (n : Nat) (cs : List Char) (p : Position) :
    ∀ t ∈ tokensFrom n cs p, t.Spelled := by
  induction n generalizing cs p with
  | zero => exact List.forall_mem_singleton.mpr nofun
  | succ n ih =>
      have hfirst := spelled_scanToken (skipIgnored false cs p).1 (skipIgnored false cs p).2
      rw [tokensFrom]
      dsimp only
      split
      · exact List.forall_mem_singleton.mpr hfirst
      · exact List.forall_mem_cons.mpr ⟨hfirst, ih _ _⟩

/-- **The names in a text are spelled like names.** -/
theorem spelled_tokens (text : String) : ∀ t ∈ tokens text, t.Spelled := spelled_tokensFrom _ _ _

/-! ## Readers -/

/-- The tokens from the one in front on. -/
def Tokens.all (s : Tokens) : List Token := s.front :: s.behind

namespace Reader

variable {α β : Type} {P P' : α → Prop} {Q : β → Prop} {r : Reader α} {f : α → Reader β}

/-- What a reader gives has a property, if all names in the text are spelled like names, and what it
    leaves was there before. -/
def Gives (r : Reader α) (P : α → Prop) : Prop :=
  ∀ ⦃s : Tokens⦄ ⦃a : α⦄ ⦃s' : Tokens⦄, (∀ t ∈ s.all, t.Spelled) → r s = .ok (a, s') →
    P a ∧ s'.all <:+ s.all

/-- Nothing is said of what a reader gives. -/
abbrev Proceeds (r : Reader α) : Prop := Gives r fun _ => True

theorem Gives.bind (hr : Gives r P) (hf : ∀ a, P a → Gives (f a) Q) : Gives (r >>= f) Q := by
  intro s b s₂ hs h
  cases hfirst : r s with
  | error e =>
      have hbind : (r >>= f) s = .error e := by
        show Except.bind (r s) _ = _
        rw [hfirst]
        rfl
      rw [hbind] at h
      cases h
  | ok p =>
      obtain ⟨a, s₁⟩ := p
      have hbind : (r >>= f) s = f a s₁ := by
        show Except.bind (r s) _ = _
        rw [hfirst]
        rfl
      obtain ⟨ha, hsuffix⟩ := hr hs hfirst
      obtain ⟨hb, hrest⟩ := hf a ha (fun t ht => hs t (hsuffix.subset ht)) (hbind ▸ h)
      exact ⟨hb, hrest.trans hsuffix⟩

theorem Gives.mono (hr : Gives r P) (h : ∀ a, P a → P' a) : Gives r P' :=
  fun _ a _ hs hread => ⟨h a (hr hs hread).1, (hr hs hread).2⟩

theorem gives_pure {a : α} (h : P a) : Gives (pure a) P := by
  intro s b s' _ hread
  cases hread
  exact ⟨h, List.suffix_rfl⟩

theorem gives_fail (fault : SyntaxFault) (p : Position) : Gives (fail fault p : Reader α) P := by
  intro s a s' _ hread
  cases hread

theorem gives_unexpected (t : Token) : Gives (unexpected t : Reader α) P := gives_fail _ _

theorem Gives.map {g : α → β} (hr : Gives r P) (h : ∀ a, P a → Q (g a)) : Gives (g <$> r) Q := by
  have hmap : g <$> r = r >>= fun a => pure (g a) := (bind_pure_comp g r).symm
  rw [hmap]
  exact hr.bind fun a ha => gives_pure (h a ha)

/-! ## Single tokens -/

theorem gives_front : Gives front Token.Spelled := by
  intro s t s' hs hread
  cases hread
  exact ⟨hs _ List.mem_cons_self, List.suffix_rfl⟩

theorem gives_second : Gives second Token.Spelled := by
  intro s t s' hs hread
  unfold second at hread
  split at hread
  · cases hread
    exact ⟨hs _ List.mem_cons_self, List.suffix_rfl⟩
  · rename_i t' r hbehind
    cases hlegal : legal t' with
    | error e =>
        rw [hlegal] at hread
        cases hread
    | ok u =>
        rw [hlegal] at hread
        cases hread
        refine ⟨hs t (List.mem_cons_of_mem _ ?_), List.suffix_rfl⟩
        rw [hbehind]
        exact List.mem_cons_self

theorem gives_drop : Proceeds drop := by
  intro s u s' _ hread
  refine ⟨trivial, ?_⟩
  unfold drop at hread
  split at hread
  · cases hread
    exact List.suffix_rfl
  · rename_i t r hbehind
    cases hlegal : legal t with
    | error e =>
        rw [hlegal] at hread
        cases hread
    | ok u =>
        rw [hlegal] at hread
        cases hread
        rw [Tokens.all, Tokens.all, hbehind]
        exact List.suffix_cons _ _

theorem gives_isFront (k : TokenKind) : Proceeds (isFront k) :=
  gives_front.bind fun _ _ => gives_pure trivial

theorem gives_take (k : TokenKind) : Gives (take k) fun t => t.kind = k ∧ t.Spelled := by
  refine gives_front.bind fun t ht => ?_
  split
  · rename_i hk
    exact gives_drop.bind fun _ _ => gives_pure ⟨hk, ht⟩
  · exact gives_fail _ _

theorem gives_takePunctuator (p : Punctuator) : Proceeds (takePunctuator p) :=
  (gives_take _).bind fun _ _ => gives_pure trivial

theorem gives_skip (k : TokenKind) : Proceeds (skip k) := by
  refine gives_front.bind fun t _ => ?_
  split
  · exact gives_drop.bind fun _ _ => gives_pure trivial
  · exact gives_pure trivial

theorem gives_skipPunctuator (p : Punctuator) : Proceeds (skipPunctuator p) := gives_skip _

theorem gives_takeWord (word : String) : Proceeds (takeWord word) := by
  refine gives_front.bind fun t _ => ?_
  split
  · exact gives_drop
  · exact gives_fail _ _

theorem gives_skipWord (word : String) : Proceeds (skipWord word) := by
  refine gives_front.bind fun t _ => ?_
  split
  · exact gives_drop.bind fun _ _ => gives_pure trivial
  · exact gives_pure trivial

/-- A name that is read is spelled like one. -/
theorem gives_nameText : Gives name fun n => IsNameText n.text :=
  (gives_take .name).bind fun _ ht => gives_pure (ht.2 ht.1)

/-- So it is an identifier. -/
theorem gives_name : Gives name fun n => IsIdentifier n.text :=
  gives_nameText.mono fun _ hn => hn.isIdentifier

/-! ## Repetitions -/

theorem gives_left : Proceeds left := by
  intro s n s' _ hread
  cases hread
  exact ⟨trivial, List.suffix_rfl⟩

theorem gives_untilClosed (hr : Gives r P) (close : Punctuator) (n : Nat) :
    Gives (untilClosed r close n) fun as => ∀ a ∈ as, P a := by
  induction n with
  | zero => exact gives_front.bind fun t _ => gives_unexpected t
  | succ n ih =>
      refine (gives_skipPunctuator close).bind fun closed _ => ?_
      split
      · exact gives_pure fun a ha => absurd ha List.not_mem_nil
      · exact hr.bind fun a ha => ih.bind fun as has =>
          gives_pure (List.forall_mem_cons.mpr ⟨ha, has⟩)

theorem gives_any (hr : Gives r P) (openWith close : Punctuator) :
    Gives (any openWith r close) fun as => ∀ a ∈ as, P a :=
  (gives_takePunctuator openWith).bind fun _ _ => gives_left.bind fun n _ =>
    gives_untilClosed hr close n

theorem gives_many (hr : Gives r P) (openWith close : Punctuator) :
    Gives (many openWith r close) fun as => ∀ a ∈ as, P a :=
  (gives_takePunctuator openWith).bind fun _ _ => hr.bind fun _ ha => gives_left.bind fun n _ =>
    (gives_untilClosed hr close n).bind fun _ has =>
      gives_pure (List.forall_mem_cons.mpr ⟨ha, has⟩)

theorem gives_optionalMany (hr : Gives r P) (openWith close : Punctuator) :
    Gives (optionalMany openWith r close) fun as => ∀ a ∈ as, P a := by
  refine (gives_isFront _).bind fun opened _ => ?_
  split
  · exact gives_many hr openWith close
  · exact gives_pure fun a ha => absurd ha List.not_mem_nil

theorem gives_moreSeparated (hr : Gives r P) (separator : Punctuator) (n : Nat) :
    Gives (moreSeparated r separator n) fun as => ∀ a ∈ as, P a := by
  induction n with
  | zero => exact gives_pure fun a ha => absurd ha List.not_mem_nil
  | succ n ih =>
      refine (gives_skipPunctuator separator).bind fun more _ => ?_
      split
      · exact hr.bind fun a ha => ih.bind fun as has =>
          gives_pure (List.forall_mem_cons.mpr ⟨ha, has⟩)
      · exact gives_pure fun a ha => absurd ha List.not_mem_nil

theorem gives_separated (hr : Gives r P) (separator : Punctuator) :
    Gives (separated r separator) fun as => ∀ a ∈ as, P a :=
  (gives_skipPunctuator separator).bind fun _ _ => hr.bind fun _ ha => gives_left.bind fun n _ =>
    (gives_moreSeparated hr separator n).bind fun _ has =>
      gives_pure (List.forall_mem_cons.mpr ⟨ha, has⟩)

theorem gives_whileFront (hr : Gives r P) (p : Punctuator) (n : Nat) :
    Gives (whileFront p r n) fun as => ∀ a ∈ as, P a := by
  induction n with
  | zero => exact gives_pure fun a ha => absurd ha List.not_mem_nil
  | succ n ih =>
      refine (gives_isFront _).bind fun more _ => ?_
      split
      · exact hr.bind fun a ha => ih.bind fun as has =>
          gives_pure (List.forall_mem_cons.mpr ⟨ha, has⟩)
      · exact gives_pure fun a ha => absurd ha List.not_mem_nil

end Reader

end QueryTypings.Graphql
