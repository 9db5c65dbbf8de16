/-
  Selection sets of a text begin at different places.

  1. **Tokens** — every token begins behind the one before it, for what is read of a token moves on
     in the text (`onward_scanToken`, `ordered_tokensFrom`).

  2. **Use** — a reader uses up tokens from the front, each of them once (`Uses`).  The places that
     it gives are, in their order, places of tokens that it used up (`Marks`).

  3. **Selections and documents** — so the places where the selection sets of fields, operations and
     fragments begin are all different, and so are those where fragments begin (`nodup_marks`).
-/
import QueryTypings.Proofs.Graphql.Reading
import Mathlib.Data.List.Nodup

namespace QueryTypings.Graphql

open QueryTypings.Text

deriving instance ReflBEq, LawfulBEq for Position

/-! ## Tokens -/

/-- The first place is in front of the second. -/
def Position.Before (p q : Position) : Prop :=
  p.line < q.line ∨ (p.line = q.line ∧ p.column < q.column)

/-- The first place is not behind the second. -/
def Position.UpTo (p q : Position) : Prop :=
  p.line < q.line ∨ (p.line = q.line ∧ p.column ≤ q.column)

namespace Position

variable {p q r : Position}

theorem UpTo.refl (p : Position) : p.UpTo p := Or.inr ⟨rfl, Nat.le_refl _⟩

theorem UpTo.trans (h : p.UpTo q) (h' : q.UpTo r) : p.UpTo r := by
  unfold UpTo at *
  omega

theorem UpTo.before (h : (p.right 1).UpTo q) : p.Before q := by
  unfold UpTo right at h
  unfold Before
  dsimp only at h
  omega

theorem Before.trans_upTo (h : p.Before q) (h' : q.UpTo r) : p.Before r := by
  unfold Before UpTo at *
  omega

theorem Before.upTo (h : p.Before q) : p.UpTo q := by
  unfold Before at h
  unfold UpTo
  omega

theorem Before.ne (h : p.Before q) : p ≠ q := by
  rintro rfl
  unfold Before at h
  omega

theorem upTo_right (p : Position) {m n : Nat} (h : m ≤ n) : (p.right m).UpTo (p.right n) :=
  Or.inr ⟨rfl, Nat.add_le_add_left h _⟩

theorem upTo_right_self (p : Position) (n : Nat) : p.UpTo (p.right n) :=
  Or.inr ⟨rfl, Nat.le_add_right _ _⟩

theorem upTo_nextLine (p : Position) : p.UpTo p.nextLine := Or.inl (Nat.lt_succ_self _)

end Position

open Position

theorem upTo_skipIgnored (inComment : Bool) (cs : List Char) (p : Position) :
    p.UpTo (skipIgnored inComment cs p).2 := by
  fun_induction skipIgnored inComment cs p with
  | case1 => exact .refl _
  | case2 => exact (upTo_nextLine _).trans ‹_›
  | case3 => exact (upTo_nextLine _).trans ‹_›
  | case4 => exact (upTo_right_self _ 1).trans ‹_›
  | case5 => exact (upTo_right_self _ 1).trans ‹_›
  | case6 => exact .refl _

/-- A token that is not the last begins at a given place, and the rest not before another. -/
def Scanned.Onward (start p : Position) (t : Scanned) : Prop :=
  t.token.kind.isLast = true ∨ (t.token.position = start ∧ p.UpTo t.next)

theorem Scanned.Onward.mono {start p q : Position} {t : Scanned} (h : t.Onward start q)
    (hpq : p.UpTo q) : t.Onward start p := h.imp_right fun ht => ⟨ht.1, hpq.trans ht.2⟩

/-- A part of a number ends not before a given place, or the tokens end with a fault. -/
def PartOnward (p : Position) (read : Except Scanned (List Char × List Char × Position)) : Prop :=
  (∀ t, read = .error t → t.token.kind.isLast = true) ∧ ∀ r, read = .ok r → p.UpTo r.2.2

theorem PartOnward.mono {p q : Position} {read : Except Scanned (List Char × List Char × Position)}
    (h : PartOnward q read) (hpq : p.UpTo q) : PartOnward p read :=
  ⟨h.1, fun r hr => hpq.trans (h.2 r hr)⟩

theorem PartOnward.map {p : Position} {read : Except Scanned (List Char × List Char × Position)}
    (h : PartOnward p read)
    {f : List Char × List Char × Position → List Char × List Char × Position}
    (hf : ∀ r, (f r).2.2 = r.2.2) : PartOnward p (read.map f) := by
  cases read with
  | error t => exact ⟨fun t' ht => h.1 t' (by cases ht; rfl), fun r hr => (by cases hr)⟩
  | ok r => exact ⟨fun t ht => (by cases ht), fun r' hr => by cases hr; rw [hf]; exact h.2 r rfl⟩

theorem partOnward_needDigits (cs : List Char) (p : Position) :
    PartOnward (p.right 1) (needDigits cs p) := by
  unfold needDigits
  split
  · exact ⟨fun t ht => (by cases ht; rfl), fun r hr => (by cases hr)⟩
  · rename_i ds hne
    refine ⟨fun t ht => (by cases ht), fun r hr => ?_⟩
    cases hr
    exact upTo_right p (List.length_pos_of_ne_nil hne)

theorem partOnward_wholePart (cs : List Char) (p : Position) :
    PartOnward (p.right 1) (wholePart cs p) := by
  unfold wholePart
  split
  · split
    · exact ⟨fun t ht => (by cases ht; rfl), fun r hr => (by cases hr)⟩
    · exact ⟨fun t ht => (by cases ht), fun r hr => by cases hr; exact .refl _⟩
  · exact partOnward_needDigits _ _

theorem partOnward_fractionPart (cs : List Char) (p : Position) :
    PartOnward p (fractionPart cs p) := by
  unfold fractionPart
  split
  · exact ((partOnward_needDigits _ _).mono
      ((upTo_right_self p 1).trans (upTo_right_self _ 1))).map fun _ => rfl
  · exact ⟨fun t ht => (by cases ht), fun r hr => by cases hr; exact .refl _⟩

theorem partOnward_exponentPart (cs : List Char) (p : Position) :
    PartOnward p (exponentPart cs p) := by
  have hdigits (n : Nat) (t : List Char) (f : List Char × List Char × Position →
      List Char × List Char × Position) (hf : ∀ r, (f r).2.2 = r.2.2) :
      PartOnward p ((needDigits t (p.right n)).map f) :=
    ((partOnward_needDigits _ _).mono ((upTo_right_self p n).trans (upTo_right_self _ 1))).map hf
  unfold exponentPart
  split
  · exact ⟨fun t ht => (by cases ht), fun r hr => by cases hr; exact .refl _⟩
  · split
    · split
      · split
        · exact hdigits 2 _ _ fun _ => rfl
        · exact hdigits 1 _ _ fun _ => rfl
      · exact hdigits 1 _ _ fun _ => rfl
    · exact ⟨fun t ht => (by cases ht), fun r hr => by cases hr; exact .refl _⟩

/-- What comes of reading a number goes on behind a given place. -/
def NumberOnward (start p : Position) (read : Except Scanned Scanned) : Prop :=
  (∀ t, read = .error t → t.token.kind.isLast = true) ∧ ∀ t, read = .ok t → t.Onward start p

theorem PartOnward.bind {start p q : Position}
    {read : Except Scanned (List Char × List Char × Position)}
    {f : List Char × List Char × Position → Except Scanned Scanned} (h : PartOnward q read)
    (hf : ∀ r, q.UpTo r.2.2 → NumberOnward start p (f r)) : NumberOnward start p (read >>= f) := by
  cases read with
  | error t => exact ⟨fun t' ht => h.1 t' (congrArg Except.error (Except.error.inj ht)),
      fun t' ht => absurd ht nofun⟩
  | ok r => exact hf r (h.2 r rfl)

theorem onward_numberToken (start : Position) (sign cs : List Char) (p : Position) :
    (numberToken start sign cs p).Onward start (p.right 1) := by
  unfold numberToken
  extract_lets read
  have h : NumberOnward start (p.right 1) read := by
    refine (partOnward_wholePart cs p).bind fun whole hwhole =>
      (partOnward_fractionPart _ _).bind fun fraction hfraction =>
        (partOnward_exponentPart _ _).bind fun exponent hexponent => ?_
    have hend := hwhole.trans (hfraction.trans hexponent)
    have hkind (kind : TokenKind) (value : List Char) (rest : List Char) :
        NumberOnward start (p.right 1)
          (pure ⟨⟨kind, String.ofList value, start⟩, rest, exponent.2.2⟩) := by
      refine ⟨fun t ht => absurd ht nofun, fun t ht => ?_⟩
      rw [← Except.ok.inj ht]
      exact Or.inr ⟨rfl, hend⟩
    dsimp only
    split
    · split
      · refine ⟨fun t ht => ?_, fun t ht => absurd ht nofun⟩
        rw [← Except.error.inj ht]
        rfl
      · exact hkind _ _ _
    · exact hkind _ _ _
  clear_value read
  cases read with
  | error t => exact Or.inl (h.1 t rfl)
  | ok t => exact h.2 t rfl

theorem onward_stringToken (start : Position) (n : Nat) (cs : List Char) (p : Position)
    (done : List Char) : (stringToken start n cs p done).Onward start p := by
  induction n generalizing cs p done with
  | zero => exact Or.inl rfl
  | succ n ih =>
      unfold stringToken
      split
      · exact Or.inl rfl
      · exact Or.inr ⟨rfl, upTo_right_self p 1⟩
      · split
        · exact (ih _ _ _).mono (upTo_right_self p _)
        · exact Or.inl rfl
      · split
        · exact Or.inl rfl
        · exact (ih _ _ _).mono (upTo_right_self p 1)

theorem onward_blockStringToken (start : Position) (cs : List Char) (p : Position)
    (done : List (List Char)) (row : List Char) :
    (blockStringToken start cs p done row).Onward start p := by
  fun_induction blockStringToken start cs p done row with
  | case1 => exact Or.inl rfl
  | case2 => exact Or.inr ⟨rfl, upTo_right_self _ 3⟩
  | case3 _ _ _ _ ih => exact ih.mono (upTo_right_self _ 4)
  | case4 _ _ _ _ ih => exact ih.mono (upTo_nextLine _)
  | case5 => exact Scanned.Onward.mono ‹_› (upTo_nextLine _)
  | case6 => exact Scanned.Onward.mono ‹_› (upTo_right_self _ 1)

theorem isLast_lonePoint (r : List Char) (p : Position) :
    (lonePoint r p).token.kind.isLast = true := by
  unfold lonePoint
  split
  · rfl
  · split <;> rfl
  · rfl

/-- **A token moves on in the text**, unless it is the last. -/
theorem onward_scanToken (cs : List Char) (p : Position) :
    (scanToken cs p).Onward p (p.right 1) := by
  unfold scanToken
  split
  · exact Or.inl rfl
  · exact Or.inr ⟨rfl, upTo_right p (by decide)⟩
  · exact Or.inl (isLast_lonePoint _ _)
  · exact (onward_blockStringToken _ _ _ _ _).mono (upTo_right p (by decide))
  · exact onward_stringToken _ _ _ _ _
  · exact (onward_numberToken _ _ _ _).mono (upTo_right_self _ 1)
  · rename_i c r _ _ _ _ _
    split
    · exact Or.inr ⟨rfl, .refl _⟩
    · split
      · exact onward_numberToken _ _ _ _
      · split
        · rename_i hstart
          have hfirst : isNameChar c = true := by rw [isNameChar, hstart, Bool.true_or]
          refine Or.inr ⟨rfl, upTo_right p ?_⟩
          rw [List.takeWhile_cons, hfirst]
          exact Nat.succ_le_succ (Nat.zero_le _)
        · split
          · exact Or.inl rfl
          · exact Or.inl rfl

/-- **Every token begins behind the one before it**; the last one is left out, which may be a
    fault. -/
theorem ordered_tokensFrom (n : Nat) (cs : List Char) (p : Position) :
    (((tokensFrom n cs p).dropLast.map Token.position).Pairwise Before
      ∧ ∀ q ∈ (tokensFrom n cs p).dropLast.map Token.position, p.UpTo q)
    ∧ ∃ t ∈ (tokensFrom n cs p).getLast?, t.kind.isLast = true := by
  induction n generalizing cs p with
  | zero => exact ⟨⟨.nil, fun q hq => (by cases hq)⟩, _, rfl, rfl⟩
  | succ n ih =>
      have hskip := upTo_skipIgnored false cs p
      have htoken := onward_scanToken (skipIgnored false cs p).1 (skipIgnored false cs p).2
      rw [tokensFrom]
      dsimp only
      split
      · rename_i hlast
        exact ⟨⟨.nil, fun q hq => (by cases hq)⟩, _, rfl, hlast⟩
      · rename_i hlast
        obtain ⟨hstart, hnext⟩ := htoken.resolve_left hlast
        obtain ⟨⟨hpairs, hbehind⟩, t, ht, htlast⟩ :=
          ih (scanToken (skipIgnored false cs p).1 (skipIgnored false cs p).2).rest
            (scanToken (skipIgnored false cs p).1 (skipIgnored false cs p).2).next
        have hne : tokensFrom n
            (scanToken (skipIgnored false cs p).1 (skipIgnored false cs p).2).rest
            (scanToken (skipIgnored false cs p).1 (skipIgnored false cs p).2).next ≠ [] := by
          rintro hnil
          rw [hnil] at ht
          cases ht
        rw [List.dropLast_cons_of_ne_nil hne, List.map_cons, hstart]
        refine ⟨⟨.cons (fun q hq => ?_) hpairs, List.forall_mem_cons.mpr ⟨hskip, fun q hq => ?_⟩⟩,
          t, ?_, htlast⟩
        · exact hnext.before.trans_upTo (hbehind q hq)
        · exact hskip.trans (hnext.before.trans_upTo (hbehind q hq)).upTo
        · rw [List.getLast?_cons_of_ne_nil hne]
          exact ht

/-! ## Use -/

/-- The tokens are those of a text from some place on. -/
structure Tokens.Complete (s : Tokens) : Prop where
  spelled : ∀ t ∈ s.all, t.Spelled
  ended : ∃ t ∈ s.all.getLast?, t.kind.isLast = true

theorem Tokens.Complete.of_suffix {s s' : Tokens} (h : s.Complete) (hsuffix : s'.all <:+ s.all) :
    s'.Complete := by
  obtain ⟨used, hused⟩ := hsuffix
  refine ⟨fun t ht => h.spelled t (hused ▸ List.mem_append_right _ ht), ?_⟩
  obtain ⟨t, ht, hlast⟩ := h.ended
  have hall : s'.all = s'.front :: s'.behind := rfl
  rw [← hused, hall, List.getLast?_append_of_ne_nil _ (List.cons_ne_nil _ _)] at ht
  exact ⟨t, ht, hlast⟩

namespace Reader

variable {α β : Type} {t : Token} {r : Reader α} {f : α → Reader β}
  {P : α → List Position → Prop} {Q : β → List Position → Prop} {m : α → List Position}
  {m' : β → List Position}

/-- What a reader gives from a token on, and the places of the tokens that it uses up, are related
    in a given way. -/
def Uses (t : Token) (r : Reader α) (P : α → List Position → Prop) : Prop :=
  ∀ ⦃s : Tokens⦄ ⦃a : α⦄ ⦃s' : Tokens⦄, s.Complete → s.front = t → r s = .ok (a, s') →
    ∃ used, s.all = used ++ s'.all ∧ P a (used.map Token.position)

/-- The places that are given are places of tokens that are used up. -/
abbrev Marks (t : Token) (r : Reader α) (m : α → List Position) : Prop :=
  Uses t r fun a ps => (m a).Sublist ps

theorem Uses.bind (hr : Uses t r P)
    (hf : ∀ a ps t', P a ps → Uses t' (f a) fun b qs => Q b (ps ++ qs)) : Uses t (r >>= f) Q := by
  intro s b s₂ hs ht h
  have hbind : (r >>= f) s = (r s).bind fun p => f p.1 p.2 := rfl
  rw [hbind] at h
  cases hfirst : r s with
  | error e =>
      rw [hfirst] at h
      cases h
  | ok p =>
      obtain ⟨a, s₁⟩ := p
      rw [hfirst] at h
      obtain ⟨used, hused, hP⟩ := hr hs ht hfirst
      obtain ⟨used', hused', hQ⟩ := hf a _ _ hP (hs.of_suffix ⟨used, hused.symm⟩) rfl h
      refine ⟨used ++ used', ?_, List.map_append ▸ hQ⟩
      rw [List.append_assoc, ← hused', hused]

theorem Uses.mono (hr : Uses t r P) {P' : α → List Position → Prop}
    (h : ∀ a ps, P a ps → P' a ps) : Uses t r P' := by
  intro s a s' hs ht hread
  obtain ⟨used, hused, hP⟩ := hr hs ht hread
  exact ⟨used, hused, h _ _ hP⟩

theorem uses_pure {a : α} (h : P a []) : Uses t (pure a) P := by
  intro s b s' _ _ hread
  cases hread
  exact ⟨[], rfl, h⟩

theorem uses_fail (fault : SyntaxFault) (p : Position) : Uses t (fail fault p : Reader α) P := by
  intro s a s' _ _ hread
  cases hread

theorem uses_unexpected (u : Token) : Uses t (unexpected u : Reader α) P := uses_fail _ _

theorem uses_tooDeep : Uses t (tooDeep : Reader α) P := by
  intro s a s' _ _ hread
  cases hread

/-- The token in front is looked at and stays there. -/
theorem Uses.front {f : Token → Reader β} (hf : Uses t (f t) Q) : Uses t (front >>= f) Q := by
  intro s b s' hs ht hread
  have hbind : (Reader.front >>= f) s = f s.front s := rfl
  rw [hbind, ht] at hread
  exact hf hs ht hread

theorem uses_of_gives (hr : Proceeds r) : Uses t r fun _ _ => True := by
  intro s a s' hs _ hread
  obtain ⟨used, hused⟩ := (hr hs.spelled hread).2
  exact ⟨used, hused.symm, trivial⟩

/-- Other tokens may be used up before. -/
theorem Uses.skip {P : α → Prop} (hup : ∀ b ps qs, Q b qs → Q b (ps ++ qs)) (hr : Gives r P)
    (hf : ∀ a t', Uses t' (f a) Q) : Uses t (r >>= f) Q :=
  (uses_of_gives (hr.mono fun _ _ => trivial)).bind fun a ps t' _ =>
    (hf a t').mono fun b qs h => hup b ps qs h

theorem Marks.skip {P : α → Prop} (hr : Gives r P) (hf : ∀ a t', Marks t' (f a) m') :
    Marks t (r >>= f) m' :=
  Uses.skip (fun _ _ _ h => h.trans (List.sublist_append_right _ _)) hr hf

/-- Where the token in front is used up, another one may be used up before it. -/
theorem Uses.skip_first {P : α → Prop} {R : β → Prop} (hr : Gives r P)
    (hf : ∀ a t', Uses t' (f a) fun b ps => R b ∧ (t'.position :: m' b).Sublist ps) :
    Uses t (r >>= f) fun b ps => R b ∧ (t.position :: m' b).Sublist ps := by
  intro s b s' hs ht hread
  have hsome : Uses t (r >>= f) fun b ps => R b ∧ ∃ p, (p :: m' b).Sublist ps :=
    (uses_of_gives (hr.mono fun _ _ => trivial)).bind fun a _ t' _ =>
      (hf a t').mono fun b _ h => ⟨h.1, _, h.2.trans (List.sublist_append_right _ _)⟩
  obtain ⟨used, hused, hR, p, hsub⟩ := hsome hs ht hread
  refine ⟨used, hused, hR, ?_⟩
  cases used with
  | nil => cases hsub
  | cons u used =>
      obtain rfl : u = t := (List.cons.inj hused).1.symm.trans ht
      exact List.cons_sublist_cons.mpr hsub.tail

theorem Marks.map {g : α → β} (hr : Marks t r m) (h : ∀ a, m' (g a) = m a) :
    Marks t (r >>= fun a => pure (g a)) m' :=
  hr.bind fun a ps _ hps => uses_pure (by rwa [h, List.append_nil])

/-- A token that is dropped is used up, unless it is the last. -/
theorem uses_drop (ht : t.kind.isLast = false) : Uses t drop fun _ ps => ps = [t.position] := by
  intro s u s' hs hfront hread
  unfold drop at hread
  split at hread
  · rename_i hbehind
    obtain ⟨x, hx, hlast⟩ := hs.ended
    rw [Tokens.all, hbehind, hfront, List.getLast?_singleton] at hx
    obtain rfl := Option.some.inj hx
    rw [ht] at hlast
    cases hlast
  · rename_i u' r' hbehind
    cases hlegal : legal u' with
    | error e =>
        rw [hlegal] at hread
        cases hread
    | ok _ =>
        rw [hlegal] at hread
        cases hread
        exact ⟨[t], by rw [Tokens.all, Tokens.all, hbehind, hfront]; rfl, rfl⟩

theorem uses_takePunctuator (p : Punctuator) :
    Uses t (takePunctuator p) fun _ ps => ps = [t.position] := by
  have htake : Uses t (take (.punctuator p)) fun _ ps => ps = [t.position] := by
    refine Uses.front ?_
    split
    · rename_i hkind
      exact (uses_drop (by rw [hkind]; rfl)).bind fun _ ps _ hps => uses_pure (by rw [hps]; rfl)
    · exact uses_fail _ _
  exact htake.bind fun _ ps _ hps => uses_pure (by rw [hps]; rfl)

theorem uses_takeWord (word : String) :
    Uses t (takeWord word) fun _ ps => ps = [t.position] := by
  refine Uses.front ?_
  split
  · rename_i hword
    have hkind : t.kind = .name := by simpa using (Bool.and_eq_true_iff.mp hword).1
    exact uses_drop (by rw [hkind]; rfl)
  · exact uses_fail _ _

theorem marks_untilClosed (hr : ∀ t', Marks t' r m) (close : Punctuator) (n : Nat) (t : Token) :
    Marks t (untilClosed r close n) (List.flatMap m) := by
  induction n generalizing t with
  | zero => exact Uses.front (uses_unexpected t)
  | succ n ih =>
      refine Marks.skip (gives_skipPunctuator close) fun closed t' => ?_
      split
      · exact uses_pure (List.Sublist.refl _)
      · exact (hr t').bind fun a ps _ hps => (ih _).bind fun as qs _ hqs =>
          uses_pure (by rw [List.flatMap_cons, List.append_nil]; exact hps.append hqs)

/-- What stands between punctuators uses up the opening one first. -/
theorem marks_any (hr : ∀ t', Marks t' r m) (openWith close : Punctuator) (t : Token) :
    Marks t (any openWith r close) fun as => t.position :: as.flatMap m :=
  (uses_takePunctuator openWith).bind fun _ _ _ hps =>
    (uses_of_gives gives_left).bind fun n _ t' _ =>
      (marks_untilClosed hr close n t').mono fun _ _ h => by
        rw [hps]
        exact List.cons_sublist_cons.mpr (h.trans (List.sublist_append_right _ _))

/-! ## Selections and documents -/

mutual

/-- The places where the selection sets of the fields in a selection begin. -/
def openingsOf : Selection → List Position
  | .leaf _ => []
  | .branch _ o ss => o :: openingsIn ss
  | .inline _ _ _ _ ss => openingsIn ss
  | .spread _ _ _ => []

/-- The places where the selection sets of the fields in selections begin. -/
def openingsIn : List Selection → List Position
  | [] => []
  | s :: r => openingsOf s ++ openingsIn r

end

theorem openingsIn_eq_flatMap (ss : List Selection) : openingsIn ss = ss.flatMap openingsOf := by
  induction ss with
  | nil => rfl
  | cons s r ih => rw [openingsIn, ih, List.flatMap_cons]

/-- A selection set uses up tokens at the places where it and the sets in it begin. -/
abbrev MarksSet (selections : Reader (List Selection)) : Prop :=
  ∀ t, Marks t selections fun ss => t.position :: openingsIn ss

theorem marks_field (n : Nat) {selections : Reader (List Selection)} (h : MarksSet selections)
    (t : Token) : Marks t (field n selections) openingsOf := by
  unfold field
  refine Uses.front (Marks.skip gives_name fun first _ =>
    Marks.skip (gives_skipPunctuator _) fun renamed t' => ?_)
  have hrest (other : Option Name) (name : Name) (t' : Token) : Marks t' (do
      let args ← arguments false n
      let ds ← directives false n
      let opening ← front
      if opening.kind = .punctuator .braceL then
        return .branch ⟨other, name, args, ds, t.position⟩ opening.position (← selections)
      else return .leaf ⟨other, name, args, ds, t.position⟩) openingsOf := by
    refine Marks.skip (gives_arguments false n) fun args _ =>
      Marks.skip (gives_directives false n) fun ds opening => Uses.front ?_
    split
    · exact (h opening).map fun ss => rfl
    · exact uses_pure (List.Sublist.refl _)
  dsimp only
  split
  · exact Marks.skip gives_name fun name _ => hrest (some first) name _
  · exact Marks.skip (gives_pure (P := fun _ => True) trivial) fun name _ => hrest none name _

theorem marks_fragmentUse (n : Nat) {selections : Reader (List Selection)}
    (h : MarksSet selections) (t : Token) : Marks t (fragmentUse n selections) openingsOf := by
  unfold fragmentUse
  refine Marks.skip (gives_take _) fun first _ =>
    Marks.skip (gives_skipWord _) fun conditional _ =>
      Marks.skip (gives_isFront _) fun named t' => ?_
  have hinline (condition : Option Name) (t' : Token) : Marks t' (do
      let ds ← directives false n
      let opening ← front
      return .inline condition ds first.position opening.position (← selections)) openingsOf := by
    refine Marks.skip (gives_directives false n) fun ds opening => Uses.front ?_
    have hset : Marks opening selections openingsIn :=
      (h opening).mono fun _ _ hss => (List.sublist_cons_self _ _).trans hss
    exact hset.map fun ss => rfl
  split
  · exact Marks.skip gives_fragmentName fun name _ =>
      Marks.skip (gives_directives false n) fun ds _ => uses_pure (List.Sublist.refl _)
  · dsimp only
    split
    · exact Marks.skip (Gives.map (Q := fun _ => True) gives_name fun _ _ => trivial)
        fun c _ => hinline c _
    · exact Marks.skip (gives_pure (P := fun _ => True) trivial) fun c _ => hinline c _

theorem marks_selectionSet (n : Nat) : MarksSet (selectionSet n) := by
  induction n with
  | zero => exact fun t => uses_tooDeep
  | succ n ih =>
      intro t
      refine (marks_any (m := openingsOf) (fun t' => ?_) _ _ t).mono fun ss _ h => ?_
      · refine Marks.skip (gives_isFront _) fun spread t' => ?_
        split
        · exact marks_fragmentUse n ih t'
        · exact marks_field n ih t'
      · dsimp only at h ⊢
        rwa [openingsIn_eq_flatMap]

end Reader

/-- The places where a fragment and the selection sets of a definition begin. -/
def Definition.marks : Definition → List Position
  | .operation o => o.opening :: Reader.openingsIn o.selections
  | .fragment f => f.position :: f.opening :: Reader.openingsIn f.selections
  | _ => []

namespace Reader

theorem marks_operation (t : Token) :
    Marks t operation fun o => o.opening :: openingsIn o.selections := by
  refine Uses.front ?_
  split
  · exact (marks_selectionSet maxDepth t).map fun ss => rfl
  · refine Marks.skip gives_description fun d _ => Marks.skip gives_operationKind fun kind _ =>
      Marks.skip (gives_isFront _) fun named t' => ?_
    have hrest (n? : Option Name) (t' : Token) : Marks t' (do
        let vs ← optionalMany .parenL variableDefinition .parenR
        let ds ← directives false maxDepth
        let opening ← front
        return ⟨d, kind, n?, vs, ds, ← selectionSet maxDepth, opening.position, t.position⟩)
        fun o : Operation => o.opening :: openingsIn o.selections :=
      Marks.skip (gives_optionalMany gives_variableDefinition _ _) fun vs _ =>
        Marks.skip (gives_directives false maxDepth) fun ds opening => Uses.front
          ((marks_selectionSet maxDepth opening).map fun ss => rfl)
    dsimp only
    split
    · exact Marks.skip (Gives.map (Q := fun _ => True) gives_name fun _ _ => trivial)
        fun n? _ => hrest n? _
    · exact Marks.skip (gives_pure (P := fun _ => True) trivial) fun n? _ => hrest n? _

theorem marks_fragment (t : Token) :
    Marks t fragment fun f => f.position :: f.opening :: openingsIn f.selections := by
  refine Uses.front ?_
  have hset (d : Option Description) (n condition : Name) (ds : List Directive) (u : Token) :
      Uses u (do
        let opening ← front
        return (⟨d, n, condition, ds, ← selectionSet maxDepth, opening.position, t.position⟩ :
          Fragment))
        fun f ps => f.position = t.position ∧ (f.opening :: openingsIn f.selections).Sublist ps :=
    Uses.front ((marks_selectionSet maxDepth u).bind fun ss ps _ hps =>
      uses_pure ⟨rfl, by rwa [List.append_nil]⟩)
  have hup : ∀ (f : Fragment) (ps qs : List Position), f.position = t.position
      ∧ (f.opening :: openingsIn f.selections).Sublist qs → f.position = t.position
      ∧ (f.opening :: openingsIn f.selections).Sublist (ps ++ qs) :=
    fun f ps qs h => ⟨h.1, h.2.trans (List.sublist_append_right _ _)⟩
  have hfirst := Uses.skip_first (t := t) gives_description fun d u =>
    (uses_takeWord (t := u) "fragment").bind fun _ ps _ hps =>
      (Uses.skip hup gives_fragmentName fun n _ => Uses.skip hup (gives_takeWord "on") fun _ _ =>
        Uses.skip hup gives_name fun condition _ =>
          Uses.skip hup (gives_directives false maxDepth) fun ds v =>
            hset d n condition ds v).mono fun f qs h =>
        ⟨h.1, by rw [hps]; exact List.cons_sublist_cons.mpr h.2⟩
  exact hfirst.mono fun f ps h => by
    dsimp only
    rw [h.1]
    exact h.2

/-- Other definitions have no such places. -/
theorem marks_other {g : α → Definition} (hr : Gives r fun _ => True) (h : ∀ a, (g a).marks = []) :
    Marks t (r >>= fun a => pure (g a)) Definition.marks :=
  Marks.skip hr fun a _ => uses_pure (h a ▸ List.Sublist.refl _)

theorem marks_extension (t : Token) : Marks t extension Definition.marks := by
  refine Uses.front (Marks.skip gives_second fun u t' => ?_)
  split
  · split
    · exact Marks.skip (gives_takeWord _) fun _ _ =>
        marks_other ((gives_typeDefinition _ _ _ _).mono fun _ _ => trivial) fun _ => rfl
    · split
      · exact Marks.skip (gives_takeWord _) fun _ _ =>
          marks_other (gives_schemaDefinition _ _ _) fun _ => rfl
      · exact Marks.skip (gives_takeWord _) fun _ _ =>
          marks_other (gives_directiveExtension _) fun _ => rfl
      · exact uses_unexpected _
  · exact uses_unexpected _

theorem marks_keyedDefinition (t key : Token) (described : Bool) (t' : Token) :
    Marks t' (keyedDefinition t key described) Definition.marks := by
  unfold keyedDefinition
  split
  · split
    · exact Marks.skip gives_description fun _ _ =>
        marks_other ((gives_typeDefinition _ _ _ _).mono fun _ _ => trivial) fun _ => rfl
    · split
      · exact Marks.skip gives_description fun _ _ =>
          marks_other (gives_schemaDefinition _ _ _) fun _ => rfl
      · exact Marks.skip gives_description fun _ _ =>
          marks_other (gives_directiveDefinition _ _) fun _ => rfl
      · exact (marks_operation t').map fun _ => rfl
      · exact (marks_operation t').map fun _ => rfl
      · exact (marks_operation t').map fun _ => rfl
      · exact (marks_fragment t').map fun _ => rfl
      · have hextension (u : Token) :
            Marks u (if key.value = "extend" then extension else unexpected key)
              Definition.marks := by
          split
          · exact marks_extension u
          · exact uses_unexpected _
        dsimp only
        split
        · exact Marks.skip (gives_fail (P := fun _ => True) _ _) fun _ u => hextension u
        · exact hextension t'
  · exact uses_unexpected _

theorem marks_definition (t : Token) : Marks t definition Definition.marks := by
  unfold definition
  refine Uses.front ?_
  split
  · exact (marks_operation t).map fun _ => rfl
  · generalize (t.kind == .string || t.kind == .blockString) = described
    dsimp only
    cases described
    · exact marks_keyedDefinition t t false t
    · refine Marks.skip gives_second fun key t' => ?_
      split
      · exact Marks.skip (gives_fail (P := fun _ => True) _ _) fun _ u =>
          marks_keyedDefinition t key true u
      · exact marks_keyedDefinition t key true t'

theorem marks_definitions (n : Nat) (t : Token) :
    Marks t (definitions n) (List.flatMap Definition.marks) := by
  induction n generalizing t with
  | zero => exact Uses.front (uses_unexpected t)
  | succ n ih =>
      refine Marks.skip (gives_isFront _) fun ended t' => ?_
      split
      · exact uses_pure (List.Sublist.refl _)
      · exact (marks_definition t').bind fun x ps _ hps => (ih _).bind fun d qs _ hqs =>
          uses_pure (by rw [List.flatMap_cons, List.append_nil]; exact hps.append hqs)

theorem marks_document (t : Token) : Marks t document (List.flatMap Definition.marks) :=
  (marks_definition t).bind fun x ps _ hps => (uses_of_gives gives_left).bind fun n ps' t' _ =>
    (marks_definitions n t').bind fun d qs _ hqs => uses_pure (by
      rw [List.flatMap_cons, List.append_nil]
      exact hps.append (hqs.trans (List.sublist_append_right _ _)))

end Reader

/-- **Fragments and the selection sets of a text begin at different places.** -/
theorem nodup_marks {text : String} {d : Document} (h : Document.ofText text = .ok d) :
    (d.flatMap Definition.marks).Nodup := by
  obtain rfl | ⟨s, s', hall, hread⟩ := exists_read_of_ofText h
  · exact List.nodup_nil
  · obtain ⟨⟨hpairs, -⟩, hended⟩ := ordered_tokensFrom (text.toList.length + 1) text.toList .first
    have hcomplete : s.Complete := ⟨hall ▸ spelled_tokens text, hall ▸ hended⟩
    obtain ⟨used, hused, hsub⟩ := Reader.marks_document _ hcomplete rfl hread
    have htokens : tokens text = used ++ s'.all := hall.symm.trans hused
    have hused' : used.Sublist (tokens text).dropLast := by
      have hrest : s'.all ≠ [] := List.cons_ne_nil _ _
      rw [htokens, List.dropLast_append_of_ne_nil hrest]
      exact List.sublist_append_left _ _
    have hordered : (used.map Token.position).Pairwise Position.Before :=
      hpairs.sublist (hused'.map _)
    exact (hordered.imp Position.Before.ne).sublist hsub

end QueryTypings.Graphql
