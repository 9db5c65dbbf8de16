/-
  JSON text that is read again.

  1. **Escapes** — a character is written in one of four ways (`escapeChar_cases`).

  2. **Strings** — inside a literal each character is read back from what was written for it, one
     beyond the basic plane from its two units (`stringBody_escapeChar`).  So a literal gives its
     string, whatever the string holds (`quotedString_render`).

  3. **Values** — the text of a value without numbers gives the value back, if the reader lets
     brackets lie in one another as deep as they do in it (`value_render`, `ofText_toText`).

  4. **Characters** — all that is written is printable and below U+007F (`printable_render`), so no
     line feed is.
-/
import QueryTypings.Json.Printer
import QueryTypings.Json.Reader
import Mathlib.Data.List.Basic

namespace QueryTypings.Json

open QueryTypings.Text

/-! ## Escapes -/

/-- A character that is neither a control character nor beyond ASCII. -/
def IsPrintable (c : Char) : Prop := 32 ≤ c.toNat ∧ c.toNat < 127

instance (c : Char) : Decidable (IsPrintable c) := inferInstanceAs (Decidable (_ ∧ _))

/-- The two units of a character beyond the basic plane as escapes. -/
def pairEscape (c : Char) : List Char :=
  unitEscape (0xd800 + (c.toNat - 0x10000) / 0x400)
    ++ unitEscape (0xdc00 + (c.toNat - 0x10000) % 0x400)

theorem length_unitEscape (n : Nat) : (unitEscape n).length = 6 := by
  rw [unitEscape, List.length_cons, List.length_cons, length_hexFixed]

/-- A character is written with a letter behind a backslash, as it is, or with one unit or two. -/
theorem escapeChar_cases (c : Char) :
    (∃ d, escapeChar c = ['\\', d] ∧ shortEscape? d = some c ∧ d ≠ 'u' ∧ IsPrintable d)
      ∨ (escapeChar c = [c] ∧ c ≠ '"' ∧ c ≠ '\\' ∧ IsPrintable c)
      ∨ (escapeChar c = unitEscape c.toNat ∧ c.toNat < 0x10000)
      ∨ (escapeChar c = pairEscape c ∧ 0x10000 ≤ c.toNat) := by
  by_cases hshort : ∃ d ∈ ['"', '\\', 'n', 'r', 't', 'f', 'b'], shortEscape? d = some c
  · obtain ⟨d, hd, hc⟩ := hshort
    refine Or.inl ⟨d, ?_⟩
    have hall : (shortEscape? d).map escapeChar = some ['\\', d] ∧ d ≠ 'u' ∧ IsPrintable d := by
      simp only [List.mem_cons, List.not_mem_nil, or_false] at hd
      rcases hd with rfl | rfl | rfl | rfl | rfl | rfl | rfl <;> decide
    obtain ⟨hescape, hu, hprintable⟩ := hall
    rw [hc, Option.map_some] at hescape
    exact ⟨Option.some.inj hescape, hc, hu, hprintable⟩
  · have hother {d e : Char} (hd : d ∈ ['"', '\\', 'n', 'r', 't', 'f', 'b'])
        (he : shortEscape? d = some e) : c ≠ e := fun heq => hshort ⟨d, hd, heq ▸ he⟩
    have hquote := hother (d := '"') (by decide) rfl
    have hslash := hother (d := '\\') (by decide) rfl
    refine Or.inr ?_
    rw [escapeChar, if_neg hquote, if_neg hslash, if_neg (hother (d := 'n') (by decide) rfl),
      if_neg (hother (d := 'r') (by decide) rfl), if_neg (hother (d := 't') (by decide) rfl),
      if_neg (hother (d := 'f') (by decide) rfl), if_neg (hother (d := 'b') (by decide) rfl)]
    by_cases hplain : 32 ≤ c.toNat ∧ c.toNat < 127
    · exact Or.inl ⟨if_pos hplain, hquote, hslash, hplain⟩
    · rw [if_neg hplain]
      by_cases hbasic : c.toNat < 0x10000
      · exact Or.inr (Or.inl ⟨if_pos hbasic, hbasic⟩)
      · exact Or.inr (Or.inr ⟨if_neg hbasic, Nat.le_of_not_lt hbasic⟩)

/-! ## Strings -/

theorem unit_unitEscape {n : Nat} (hn : n < 0x10000) (r : List Char) :
    unit? (hexFixed 4 n ++ r) = some (n, r) := by
  have hread := readHex_hexFixed 4 n hn
  match hdigits : hexFixed 4 n, length_hexFixed 4 n with
  | [a, b, c, d], _ =>
      rw [hdigits] at hread
      simp [unit?, hread]

/-- An escape by code, where no first half of a pair waits. -/
theorem stringBody_unitEscape {u : Nat} (hu : u < 0x10000) (n : Nat) (r : List Char) :
    stringBody (n + 1) none (unitEscape u ++ r)
      = if isHighUnit u then stringBody n (some u) r
        else (stringBody n none r).map fun p => (unitChar u :: p.1, p.2) := by
  have hunit := unit_unitEscape hu r
  rw [unitEscape, List.cons_append, List.cons_append, stringBody.eq_def (n + 1)]
  simp only [hunit]

/-- An escape by code that ends a pair. -/
theorem stringBody_lowEscape {h u : Nat} (hu : isLowUnit u = true) (n : Nat) (r : List Char) :
    stringBody (n + 1) (some h) (unitEscape u ++ r)
      = (stringBody n none r).map fun p =>
          (Char.ofNat (0x10000 + (h - 0xd800) * 0x400 + (u - 0xdc00)) :: p.1, p.2) := by
  have hbound : u < 0x10000 := by
    simp only [isLowUnit, Bool.and_eq_true, decide_eq_true_eq] at hu
    omega
  have hunit := unit_unitEscape hbound r
  rw [unitEscape, List.cons_append, List.cons_append, stringBody.eq_def (n + 1)]
  simp only [hunit, hu]

/-- A character that stands for itself. -/
theorem stringBody_plain {c : Char} (hquote : c ≠ '"') (hslash : c ≠ '\\') (hc : 32 ≤ c.toNat)
    (n : Nat) (r : List Char) :
    stringBody (n + 1) none (c :: r) = (stringBody n none r).map fun p => (c :: p.1, p.2) := by
  have hcontrol : ¬ c.toNat < 32 := by omega
  rw [stringBody.eq_def (n + 1)]
  simp [hslash, hcontrol]

/-- No character is half of a pair. -/
theorem unitChar_toNat (c : Char) (hc : c.toNat < 0x10000) :
    isHighUnit c.toNat = false ∧ unitChar c.toNat = c := by
  have hvalid : c.toNat < 0xd800 ∨ 0xdfff < c.toNat ∧ c.toNat < 0x110000 := c.valid
  have hhigh : isHighUnit c.toNat = false := by
    simp only [isHighUnit, Bool.and_eq_false_iff, decide_eq_false_iff_not]
    omega
  have hlow : isLowUnit c.toNat = false := by
    simp only [isLowUnit, Bool.and_eq_false_iff, decide_eq_false_iff_not]
    omega
  exact ⟨hhigh, by simp [unitChar, hhigh, hlow]⟩

/-- The two units of a character beyond the basic plane. -/
theorem stringBody_pair {c : Char} (hc : 0x10000 ≤ c.toNat) (n : Nat) (r : List Char) :
    stringBody (n + 2) none (pairEscape c ++ r) = (stringBody n none r).map fun p => (c :: p.1, p.2) := by
  have hvalid : c.toNat < 0xd800 ∨ 0xdfff < c.toNat ∧ c.toNat < 0x110000 := c.valid
  have hhigh : isHighUnit (0xd800 + (c.toNat - 0x10000) / 0x400) = true := by
    simp only [isHighUnit, Bool.and_eq_true, decide_eq_true_eq]
    omega
  have hlow : isLowUnit (0xdc00 + (c.toNat - 0x10000) % 0x400) = true := by
    simp only [isLowUnit, Bool.and_eq_true, decide_eq_true_eq]
    omega
  have hsum : 0x10000 + (0xd800 + (c.toNat - 0x10000) / 0x400 - 0xd800) * 0x400
      + (0xdc00 + (c.toNat - 0x10000) % 0x400 - 0xdc00) = c.toNat := by
    omega
  rw [pairEscape, List.append_assoc, stringBody_unitEscape (by omega), if_pos hhigh, stringBody_lowEscape hlow,
    hsum, Char.ofNat_toNat]

/-- A letter behind a backslash. -/
theorem stringBody_short {c d : Char} (hshort : shortEscape? d = some c) (hd : d ≠ 'u') (n : Nat)
    (r : List Char) :
    stringBody (n + 1) none ('\\' :: d :: r) = (stringBody n none r).map fun p => (c :: p.1, p.2) := by
  rw [stringBody.eq_def (n + 1)]
  simp [hshort]

/-- **A character is read back from what was written for it.**  Each step takes one escape, so at
    least as many steps are left as there are characters behind it. -/
theorem stringBody_escapeChar (c : Char) (n : Nat) (r : List Char) :
    ∃ m, n ≤ m ∧ stringBody (n + (escapeChar c).length) none (escapeChar c ++ r)
      = (stringBody m none r).map fun p => (c :: p.1, p.2) := by
  rcases escapeChar_cases c with ⟨d, hc, hshort, hd, _⟩ | ⟨hc, hquote, hslash, hplain⟩ | ⟨hc, hbasic⟩
    | ⟨hc, hbeyond⟩ <;> rw [hc]
  · exact ⟨n + 1, by omega, stringBody_short hshort hd (n + 1) r⟩
  · exact ⟨n, Nat.le_refl n, stringBody_plain hquote hslash hplain.1 n r⟩
  · obtain ⟨hhigh, hchar⟩ := unitChar_toNat c hbasic
    refine ⟨n + 5, by omega, ?_⟩
    have hlength : n + (unitEscape c.toNat).length = n + 5 + 1 := by
      rw [length_unitEscape]
    rw [hlength, stringBody_unitEscape hbasic, hhigh, hchar]
    rfl
  · refine ⟨n + 10, by omega, ?_⟩
    have hlength : n + (pairEscape c).length = n + 10 + 2 := by
      rw [pairEscape, List.length_append, length_unitEscape, length_unitEscape]
    rw [hlength, stringBody_pair hbeyond]

theorem stringBody_flatMap (cs r : List Char) {n : Nat} (hn : (cs.flatMap escapeChar).length < n) :
    stringBody n none (cs.flatMap escapeChar ++ '"' :: r) = some (cs, r) := by
  induction cs generalizing n with
  | nil =>
      obtain ⟨n, rfl⟩ := Nat.exists_eq_add_one.mpr hn
      rfl
  | cons c cs ih =>
      rw [List.flatMap_cons, List.length_append] at hn
      obtain ⟨k, rfl⟩ := Nat.exists_eq_add_of_le (show (escapeChar c).length ≤ n by omega)
      obtain ⟨m, hm, hstep⟩ := stringBody_escapeChar c k (cs.flatMap escapeChar ++ '"' :: r)
      rw [List.flatMap_cons, List.append_assoc, Nat.add_comm, hstep, ih (by omega)]
      rfl

/-- **A literal gives its string.** -/
theorem quotedString_render (s : String) (r : List Char) :
    quotedString (s.toList.flatMap escapeChar ++ '"' :: r) = .ok (s, r) := by
  rw [quotedString, stringBody_flatMap]
  · simp
  · rw [List.length_append]
    omega

/-! ## Values -/

/-- A value without numbers in which at most so many brackets lie in one another. -/
inductive Nested : Nat → Json → Prop
  | null {d : Nat} : Nested d .null
  | bool {d : Nat} (b : Bool) : Nested d (.bool b)
  | string {d : Nat} (s : String) : Nested d (.string s)
  | array {d : Nat} {items : List Json} (inside : ∀ v ∈ items, Nested d v) :
      Nested (d + 1) (.array items)
  | object {d : Nat} {members : List (String × Json)} (inside : ∀ p ∈ members, Nested d p.2) :
      Nested (d + 1) (.object members)

theorem Nested.mono {d e : Nat} {v : Json} (h : Nested d v) (hde : d ≤ e) : Nested e v := by
  induction h generalizing e with
  | null => exact .null
  | bool b => exact .bool b
  | string s => exact .string s
  | array inside ih =>
      obtain ⟨e, rfl⟩ := Nat.exists_eq_add_one.mpr (show 0 < e by omega)
      exact .array fun v hv => ih v hv (by omega)
  | object inside ih =>
      obtain ⟨e, rfl⟩ := Nat.exists_eq_add_one.mpr (show 0 < e by omega)
      exact .object fun p hp => ih p hp (by omega)

/-- A text that the reader may find in front of it: it begins with what neither separates tokens
    nor closes a list. -/
def Begins (cs : List Char) : Prop := ∃ c r, cs = c :: r ∧ isJsonSpace c = false ∧ c ≠ ']'

theorem Begins.append {a : List Char} (h : Begins a) (b : List Char) : Begins (a ++ b) := by
  obtain ⟨c, r, rfl, hspace, hclose⟩ := h
  exact ⟨c, r ++ b, rfl, hspace, hclose⟩

theorem Begins.skipSpace {cs : List Char} (h : Begins cs) : skipSpace cs = cs := by
  obtain ⟨c, r, rfl, hspace, _⟩ := h
  rw [Json.skipSpace, List.dropWhile_cons, hspace]
  rfl

theorem begins_render {d : Nat} {v : Json} (h : Nested d v) : Begins (render v) := by
  cases h with
  | null => exact ⟨'n', _, rfl, by decide, by decide⟩
  | bool b => cases b <;> exact ⟨_, _, rfl, by decide, by decide⟩
  | string s => exact ⟨'"', _, rfl, by decide, by decide⟩
  | array _ => exact ⟨'[', _, rfl, by decide, by decide⟩
  | object _ => exact ⟨'\x7b', _, rfl, by decide, by decide⟩

/-- The text of a value is read back, whatever follows it. -/
def Reread (d : Nat) (v : Json) : Prop :=
  ∀ n r, 2 * (render v).length ≤ n → value d n (render v ++ r) = .ok (v, r)

theorem renderItems_cons {v : Json} {vs : List Json} (h : vs ≠ []) :
    renderItems (v :: vs) = render v ++ ',' :: renderItems vs := by
  cases vs with
  | nil => exact absurd rfl h
  | cons w r => rw [renderItems]

theorem renderMembers_cons {k : String} {v : Json} {ps : List (String × Json)} (h : ps ≠ []) :
    renderMembers ((k, v) :: ps)
      = renderString k ++ ':' :: (render v ++ ',' :: renderMembers ps) := by
  cases ps with
  | nil => exact absurd rfl h
  | cons p r => rw [renderMembers]

theorem begins_renderItems {d : Nat} {vs : List Json} (h : ∀ v ∈ vs, Nested d v) (hne : vs ≠ []) :
    Begins (renderItems vs) := by
  cases vs with
  | nil => exact absurd rfl hne
  | cons v r =>
      have hv := begins_render (h v List.mem_cons_self)
      cases r with
      | nil => exact hv
      | cons w t =>
          rw [renderItems_cons (List.cons_ne_nil w t)]
          exact hv.append _

theorem items_render {d : Nat} {vs : List Json} (hnested : ∀ v ∈ vs, Nested d v)
    (hread : ∀ v ∈ vs, Reread d v) (hne : vs ≠ []) {n : Nat} (r : List Char)
    (hn : 2 * (renderItems vs).length < n) :
    items d n (renderItems vs ++ ']' :: r) = .ok (vs, r) := by
  induction vs generalizing n with
  | nil => exact absurd rfl hne
  | cons v vs ih =>
      obtain ⟨n, rfl⟩ := Nat.exists_eq_add_one.mpr (Nat.zero_lt_of_lt hn)
      obtain ⟨hv, hvs⟩ := List.forall_mem_cons.mp hread
      by_cases hlast : vs = []
      · subst hlast
        have hfirst := hv n (']' :: r) (by simp only [renderItems] at hn; omega)
        rw [items, renderItems, hfirst]
        rfl
      · rw [renderItems_cons hlast] at hn ⊢
        simp only [List.length_append, List.length_cons] at hn
        have hlater := fun u hu => hnested u (List.mem_cons_of_mem v hu)
        have hbegins := (begins_renderItems hlater hlast).append (']' :: r)
        have hfirst := hv n (',' :: (renderItems vs ++ ']' :: r)) (by omega)
        rw [items, List.append_assoc, List.cons_append, hfirst]
        show (items d n (skipSpace (renderItems vs ++ ']' :: r))).map _ = _
        rw [hbegins.skipSpace, ih hlater hvs hlast (by omega)]
        rfl

/-- The first member, and what the reader finds behind it. -/
theorem members_first {d n : Nat} {k : String} {v : Json} {rest : List Char} (hv : Nested d v)
    (hread : Reread d v) (hn : 2 * (render v).length ≤ n) :
    members d (n + 1) (renderString k ++ ':' :: (render v ++ rest))
      = match skipSpace rest with
        | '\x7d' :: r => .ok ([(k, v)], r)
        | ',' :: r => (members d n (skipSpace r)).map fun p => ((k, v) :: p.1, p.2)
        | _ => .error .malformed := by
  have hkey := quotedString_render k (':' :: (render v ++ rest))
  have hbegins := (begins_render hv).append rest
  have hcolon (cs : List Char) : skipSpace (':' :: cs) = ':' :: cs := rfl
  have hfirst := members.eq_2 d n (k.toList.flatMap escapeChar ++ '"' :: ':' :: (render v ++ rest))
  simp only [hkey, hcolon, hbegins.skipSpace, hread n rest hn] at hfirst
  rw [renderString, List.cons_append, List.cons_append, List.append_assoc]
  exact hfirst

theorem skipSpace_renderMembers {ps : List (String × Json)} (hne : ps ≠ []) (r : List Char) :
    skipSpace (renderMembers ps ++ r) = renderMembers ps ++ r := by
  obtain ⟨cs, hcs⟩ : ∃ cs, renderMembers ps = '"' :: cs := by
    match ps with
    | [(k, v)] => exact ⟨_, rfl⟩
    | (k, v) :: p :: t => exact ⟨_, rfl⟩
  rw [hcs]
  rfl

theorem members_render {d : Nat} {ps : List (String × Json)} (hnested : ∀ p ∈ ps, Nested d p.2)
    (hread : ∀ p ∈ ps, Reread d p.2) (hne : ps ≠ []) {n : Nat} (r : List Char)
    (hn : 2 * (renderMembers ps).length < n) :
    members d n (renderMembers ps ++ '\x7d' :: r) = .ok (ps, r) := by
  induction ps generalizing n with
  | nil => exact absurd rfl hne
  | cons p ps ih =>
      obtain ⟨k, v⟩ := p
      obtain ⟨n, rfl⟩ := Nat.exists_eq_add_one.mpr (Nat.zero_lt_of_lt hn)
      obtain ⟨hv, hvs⟩ := List.forall_mem_cons.mp hread
      have hnv : Nested d v := hnested (k, v) List.mem_cons_self
      by_cases hlast : ps = []
      · subst hlast
        simp only [renderMembers, List.length_append, List.length_cons] at hn
        rw [renderMembers, List.append_assoc, List.cons_append, members_first hnv hv (by omega)]
        rfl
      · rw [renderMembers_cons hlast] at hn ⊢
        simp only [List.length_append, List.length_cons] at hn
        rw [List.append_assoc, List.cons_append, List.append_assoc, List.cons_append,
          members_first hnv hv (by omega)]
        show (members d n (skipSpace (renderMembers ps ++ '\x7d' :: r))).map _ = _
        rw [skipSpace_renderMembers hlast, ih (fun q hq => hnested q (List.mem_cons_of_mem _ hq)) hvs
          hlast (by omega)]
        rfl

theorem value_array {d n : Nat} {cs : List Char} (h : Begins cs) :
    value (d + 1) (n + 1) ('[' :: cs) = (items d n cs).map fun p => (.array p.1, p.2) := by
  have hskip := h.skipSpace
  obtain ⟨c, r, rfl, _, hclose⟩ := h
  simp only [value, hskip]
  split
  · rename_i heq
    exact absurd (List.cons.inj heq).1 hclose
  · rfl

theorem value_object {d n : Nat} {cs : List Char} (h : skipSpace ('"' :: cs) = '"' :: cs) :
    value (d + 1) (n + 1) ('\x7b' :: '"' :: cs)
      = (members d n ('"' :: cs)).map fun p => (.object p.1, p.2) := by
  simp only [value, h]
  rfl

/-- **The text of a value without numbers gives the value back.** -/
theorem value_render {d : Nat} {v : Json} (h : Nested d v) : Reread d v := by
  induction h with
  | null =>
      intro n r hn
      obtain ⟨n, rfl⟩ := Nat.exists_eq_add_one.mpr (show 0 < n by simp [render] at hn; omega)
      rfl
  | bool b =>
      intro n r hn
      cases b
      all_goals
        obtain ⟨n, rfl⟩ := Nat.exists_eq_add_one.mpr (show 0 < n by simp [render] at hn; omega)
        rfl
  | string s =>
      intro n r hn
      obtain ⟨n, rfl⟩ := Nat.exists_eq_add_one.mpr
        (show 0 < n by simp [render, renderString] at hn; omega)
      have hread := quotedString_render s r
      simp only [render, renderString, List.cons_append, List.append_assoc, List.nil_append, value,
        hread]
      rfl
  | @array d items inside ih =>
      intro n r hn
      simp only [render, List.length_cons, List.length_append] at hn
      obtain ⟨n, rfl⟩ := Nat.exists_eq_add_one.mpr (show 0 < n by omega)
      by_cases hempty : items = []
      · subst hempty
        rfl
      · have hbegins := (begins_renderItems inside hempty).append (']' :: r)
        rw [render, List.cons_append, List.cons_append, List.append_assoc, List.singleton_append,
          value_array hbegins, items_render inside ih hempty r (by omega)]
        rfl
  | @object d members inside ih =>
      intro n r hn
      simp only [render, List.length_cons, List.length_append] at hn
      obtain ⟨n, rfl⟩ := Nat.exists_eq_add_one.mpr (show 0 < n by omega)
      by_cases hempty : members = []
      · subst hempty
        rfl
      · have hskip := skipSpace_renderMembers hempty ('\x7d' :: r)
        have hread := members_render inside ih hempty r (show 2 * (renderMembers members).length < n
          by omega)
        obtain ⟨cs, hcs⟩ : ∃ cs, renderMembers members ++ '\x7d' :: r = '"' :: cs := by
          match members, hempty with
          | [(k, v)], _ => exact ⟨_, rfl⟩
          | (k, v) :: p :: t, _ => exact ⟨_, rfl⟩
        rw [render, List.cons_append, List.cons_append, List.append_assoc, List.singleton_append, hcs,
          value_object (hcs ▸ hskip), ← hcs, hread]
        rfl

/-- **Text that is written is read back.** -/
theorem ofText_toText {v : Json} (h : Nested maxDepth v) : ofText v.toText = .ok v := by
  have hread := value_render h (2 * (render v).length + 2) [] (by omega)
  rw [List.append_nil] at hread
  rw [ofText, toText, String.toList_ofList, (begins_render h).skipSpace]
  simp only [hread]
  rfl

/-! ## Characters -/

theorem printable_hexFixed (n k : Nat) : ∀ c ∈ hexFixed n k, IsPrintable c := by
  have hdigit : ∀ m : Fin 16, IsPrintable (hexDigit m) := by decide
  induction n generalizing k with
  | zero => exact fun c hc => absurd hc List.not_mem_nil
  | succ n ih =>
      rw [hexFixed]
      refine List.forall_mem_append.mpr ⟨ih (k / 16), List.forall_mem_singleton.mpr ?_⟩
      exact hdigit ⟨k % 16, Nat.mod_lt k (by decide)⟩

theorem printable_unitEscape (u : Nat) : ∀ c ∈ unitEscape u, IsPrintable c :=
  List.forall_mem_cons.mpr ⟨by decide,
    List.forall_mem_cons.mpr ⟨by decide, printable_hexFixed 4 u⟩⟩

theorem printable_escapeChar (c : Char) : ∀ d ∈ escapeChar c, IsPrintable d := by
  rcases escapeChar_cases c with ⟨d, hc, _, _, hd⟩ | ⟨hc, _, _, hplain⟩ | ⟨hc, _⟩ | ⟨hc, _⟩ <;> rw [hc]
  · exact List.forall_mem_cons.mpr ⟨by decide, List.forall_mem_singleton.mpr hd⟩
  · exact List.forall_mem_singleton.mpr hplain
  · exact printable_unitEscape c.toNat
  · exact List.forall_mem_append.mpr ⟨printable_unitEscape _, printable_unitEscape _⟩

theorem printable_renderString (s : String) : ∀ c ∈ renderString s, IsPrintable c := by
  have hbody : ∀ c ∈ s.toList.flatMap escapeChar, IsPrintable c := by
    intro c hc
    obtain ⟨d, _, hd⟩ := List.mem_flatMap.mp hc
    exact printable_escapeChar d c hd
  exact List.forall_mem_cons.mpr ⟨by decide,
    List.forall_mem_append.mpr ⟨hbody, List.forall_mem_singleton.mpr (by decide)⟩⟩

theorem printable_renderItems {vs : List Json} (h : ∀ v ∈ vs, ∀ c ∈ render v, IsPrintable c) :
    ∀ c ∈ renderItems vs, IsPrintable c := by
  induction vs with
  | nil => exact fun c hc => absurd hc List.not_mem_nil
  | cons v r ih =>
      obtain ⟨hv, hr⟩ := List.forall_mem_cons.mp h
      by_cases hlast : r = []
      · subst hlast
        exact hv
      · rw [renderItems_cons hlast]
        exact List.forall_mem_append.mpr ⟨hv, List.forall_mem_cons.mpr ⟨by decide, ih hr⟩⟩

theorem printable_renderMembers {ps : List (String × Json)}
    (h : ∀ p ∈ ps, ∀ c ∈ render p.2, IsPrintable c) : ∀ c ∈ renderMembers ps, IsPrintable c := by
  induction ps with
  | nil => exact fun c hc => absurd hc List.not_mem_nil
  | cons p r ih =>
      obtain ⟨hp, hr⟩ := List.forall_mem_cons.mp h
      have hkey := printable_renderString p.1
      by_cases hlast : r = []
      · subst hlast
        exact List.forall_mem_append.mpr ⟨hkey, List.forall_mem_cons.mpr ⟨by decide, hp⟩⟩
      · rw [renderMembers_cons hlast]
        exact List.forall_mem_append.mpr ⟨hkey, List.forall_mem_cons.mpr ⟨by decide,
          List.forall_mem_append.mpr ⟨hp, List.forall_mem_cons.mpr ⟨by decide, ih hr⟩⟩⟩⟩

/-- **What is written is printable ASCII.** -/
theorem printable_render {d : Nat} {v : Json} (h : Nested d v) :
    ∀ c ∈ render v, IsPrintable c := by
  induction h with
  | null => exact List.forall_iff_forall_mem.mp (by decide)
  | bool b => cases b <;> exact List.forall_iff_forall_mem.mp (by decide)
  | string s => exact printable_renderString s
  | array _ ih =>
      exact List.forall_mem_cons.mpr ⟨by decide, List.forall_mem_append.mpr
        ⟨printable_renderItems ih, List.forall_mem_singleton.mpr (by decide)⟩⟩
  | object _ ih =>
      exact List.forall_mem_cons.mpr ⟨by decide, List.forall_mem_append.mpr
        ⟨printable_renderMembers ih, List.forall_mem_singleton.mpr (by decide)⟩⟩

end QueryTypings.Json
