/-
  Decoding reads what encoding writes, and nothing else.

  A first octet promises some bits and bounds for the octets that must follow it.  The decoder checks
  each octet against its bound as it comes.

  1. **Payment** — once a first octet is read, decoding goes on behind the next character if the
     octets pay what is owed, one by one (`decodeBehind_eq_ok_iff`).

  2. **Characters** — an octet with the octets that it is owed is the encoding of a character, and
     the encoding of a character is such an octet (`encodeChar_of_paid`, `exists_paid`).  The bounds
     leave out longer spellings, halves of pairs, and what lies behind the last character.

  3. **Texts** — so octets are decoded if and only if they are the encoding of a text, and then to
     this text (`decodeUtf8_eq_ok_iff`).
-/
import QueryTypings.Proofs.Result
import QueryTypings.Text.Utf8
import Mathlib.Data.List.Forall2

namespace QueryTypings.Text

/-! ## Payment -/

/-- The octets lie within the bounds of those that are owed, one by one. -/
def Paid (owed : List (Nat × Nat)) (tail : List Nat) : Prop :=
  List.Forall₂ (fun bounds b => bounds.1 ≤ b ∧ b ≤ bounds.2) owed tail

/-- The bits so far, with those of some more octets behind them. -/
def withBits (bits : Nat) (tail : List Nat) : Nat :=
  tail.foldl (fun bits b => bits * 0x40 + (b - 0x80)) bits

/-- Decoding goes on where a character is under way, or where it is done. -/
def decodeBehind (index start first bits : Nat) (owed : List (Nat × Nat)) (octets : List Nat) :
    Except Utf8Error (List Char) :=
  match owed with
  | [] => (decodeFrom index none octets).map (Char.ofNat bits :: ·)
  | owed => decodeFrom index (some (start, first, bits, owed)) octets

variable {octets : List Nat} {cs : List Char} {owed : List (Nat × Nat)}
  {index start first bits : Nat}

theorem decodeFrom_cons (b : Nat) : decodeFrom index none (b :: octets)
    = match promise? b with
      | none => .error ⟨.invalidStart, index, 1, b⟩
      | some (bits, owed) => decodeBehind (index + 1) index b bits owed octets := by
  rw [decodeFrom]
  cases promise? b with
  | none => rfl
  | some p =>
      obtain ⟨bits, owed⟩ := p
      cases owed <;> rfl

theorem decodeBehind_cons (low high b : Nat) :
    decodeBehind index start first bits ((low, high) :: owed) (b :: octets)
      = if low ≤ b ∧ b ≤ high then
          decodeBehind (index + 1) start first (bits * 0x40 + (b - 0x80)) owed octets
        else .error ⟨.invalidContinuation, start, index - start, first⟩ := by
  cases owed <;> rfl

theorem withBits_cons (b : Nat) (tail : List Nat) :
    withBits bits (b :: tail) = withBits (bits * 0x40 + (b - 0x80)) tail := by
  rw [withBits, withBits, List.foldl_cons]

/-- **A character under way is read to its end** if and only if what is owed is paid. -/
theorem decodeBehind_eq_ok_iff :
    decodeBehind index start first bits owed octets = .ok cs
      ↔ ∃ tail rest cs', octets = tail ++ rest ∧ Paid owed tail
        ∧ decodeFrom (index + tail.length) none rest = .ok cs'
        ∧ cs = Char.ofNat (withBits bits tail) :: cs' := by
  induction owed generalizing index bits octets with
  | nil =>
      refine map_eq_ok.trans ⟨?_, ?_⟩
      · rintro ⟨rest, hrest, rfl⟩
        exact ⟨[], octets, rest, rfl, .nil, hrest, rfl⟩
      · rintro ⟨tail, rest, cs', rfl, hpaid, hrest, rfl⟩
        cases hpaid
        exact ⟨cs', hrest, rfl⟩
  | cons bounds owed ih =>
      obtain ⟨low, high⟩ := bounds
      cases octets with
      | nil =>
          refine iff_of_false (fun h => by cases h) ?_
          rintro ⟨tail, rest, cs', hoctets, hpaid, _⟩
          obtain ⟨rfl, _⟩ := List.nil_eq_append_iff.mp hoctets
          cases hpaid
      | cons b r =>
          rw [decodeBehind_cons]
          split
          · rename_i hb
            refine ih.trans ⟨?_, ?_⟩
            · rintro ⟨tail, rest, cs', rfl, hpaid, hrest, rfl⟩
              refine ⟨b :: tail, rest, cs', rfl, .cons hb hpaid, ?_, by rw [withBits_cons]⟩
              rwa [List.length_cons, Nat.add_comm tail.length, ← Nat.add_assoc]
            · rintro ⟨tail, rest, cs', hoctets, hpaid, hrest, rfl⟩
              cases hpaid with
              | @cons _ b' _ tail _ hpaid =>
                  obtain ⟨rfl, rfl⟩ := List.cons.inj hoctets
                  refine ⟨tail, rest, cs', rfl, hpaid, ?_, by rw [withBits_cons]⟩
                  rwa [List.length_cons, Nat.add_comm tail.length, ← Nat.add_assoc] at hrest
          · rename_i hb
            refine iff_of_false (fun h => by cases h) ?_
            rintro ⟨tail, rest, cs', hoctets, hpaid, _⟩
            cases hpaid with
            | cons hb' _ =>
                obtain ⟨rfl, _⟩ := List.cons.inj hoctets
                exact hb hb'

/-! ## Characters -/

theorem toNat_ofNat {n : Nat} (h : n.isValidChar) : (Char.ofNat n).toNat = n := by
  rw [Char.ofNat, dif_pos h]
  rfl

/-- **What a first octet promises**, by the number of octets of its character: the second octet has
    narrower bounds where a shorter spelling, half of a pair or no character at all would come of
    it. -/
theorem promise?_eq (b : Nat) : promise? b =
    if b < 0x80 then some (b, [])
    else if 0xc2 ≤ b ∧ b ≤ 0xdf then some (b - 0xc0, [(0x80, 0xbf)])
    else if 0xe0 ≤ b ∧ b ≤ 0xef then
      some (b - 0xe0, [(if b = 0xe0 then 0xa0 else 0x80, if b = 0xed then 0x9f else 0xbf),
        (0x80, 0xbf)])
    else if 0xf0 ≤ b ∧ b ≤ 0xf4 then
      some (b - 0xf0, [(if b = 0xf0 then 0x90 else 0x80, if b = 0xf4 then 0x8f else 0xbf),
        (0x80, 0xbf), (0x80, 0xbf)])
    else none := by
  -- the four octets with narrower bounds apart, both sides tell the same of the same ranges
  by_cases he0 : b = 0xe0
  · rw [he0]
    rfl
  by_cases hed : b = 0xed
  · rw [hed]
    rfl
  by_cases hf0 : b = 0xf0
  · rw [hf0]
    rfl
  by_cases hf4 : b = 0xf4
  · rw [hf4]
    rfl
  have hthree : (0xe1 ≤ b ∧ b ≤ 0xef) ↔ (0xe0 ≤ b ∧ b ≤ 0xef) := by omega
  have hfour : (0xf1 ≤ b ∧ b ≤ 0xf3) ↔ (0xf0 ≤ b ∧ b ≤ 0xf4) := by omega
  simp only [promise?, if_neg he0, if_neg hed, if_neg hf0, if_neg hf4, hthree, hfour]

theorem paid_nil_iff {tail : List Nat} : Paid [] tail ↔ tail = [] := List.forall₂_nil_left_iff

theorem paid_cons_iff {low high : Nat} {tail : List Nat} : Paid ((low, high) :: owed) tail
    ↔ ∃ b r, (low ≤ b ∧ b ≤ high) ∧ Paid owed r ∧ tail = b :: r := List.forall₂_cons_left_iff

theorem withBits_nil : withBits bits [] = bits := by rw [withBits, List.foldl_nil]

/-- What is promised and paid is a character, and this is how it is spelled. -/
theorem encodeChar_of_paid {b : Nat} {tail : List Nat} (h : promise? b = some (bits, owed))
    (hpaid : Paid owed tail) : encodeChar (Char.ofNat (withBits bits tail)) = b :: tail := by
  have hspelled : ∀ {n : Nat} {octets : List Nat}, n.isValidChar →
      (if n < 0x80 then [n]
        else if n < 0x800 then [0xc0 + n / 0x40, 0x80 + n % 0x40]
        else if n < 0x10000 then
          [0xe0 + n / 0x1000, 0x80 + n / 0x40 % 0x40, 0x80 + n % 0x40]
        else [0xf0 + n / 0x40000, 0x80 + n / 0x1000 % 0x40, 0x80 + n / 0x40 % 0x40,
          0x80 + n % 0x40]) = octets → encodeChar (Char.ofNat n) = octets := by
    intro n octets hvalid heq
    rw [encodeChar, toNat_ofNat hvalid]
    exact heq
  rw [promise?_eq] at h
  split at h
  · rename_i hb
    obtain ⟨rfl, rfl⟩ := Prod.mk.inj (Option.some.inj h)
    rw [paid_nil_iff.mp hpaid, withBits_nil]
    exact hspelled (Or.inl (by omega)) (if_pos hb)
  split at h
  · obtain ⟨rfl, rfl⟩ := Prod.mk.inj (Option.some.inj h)
    obtain ⟨x, r, hx, hr, rfl⟩ := paid_cons_iff.mp hpaid
    rw [paid_nil_iff.mp hr, withBits_cons, withBits_nil]
    refine hspelled (Or.inl (by omega)) ?_
    rw [if_neg (by omega), if_pos (by omega)]
    simp only [List.cons.injEq, and_true]
    omega
  split at h
  · obtain ⟨rfl, rfl⟩ := Prod.mk.inj (Option.some.inj h)
    obtain ⟨x, r, hx, hr, rfl⟩ := paid_cons_iff.mp hpaid
    obtain ⟨y, r', hy, hr', rfl⟩ := paid_cons_iff.mp hr
    rw [paid_nil_iff.mp hr', withBits_cons, withBits_cons, withBits_nil]
    have hx : 0x80 ≤ x ∧ x ≤ 0xbf ∧ (b = 0xe0 → 0xa0 ≤ x) ∧ (b = 0xed → x ≤ 0x9f) := by
      split_ifs at hx <;> omega
    refine hspelled (by unfold Nat.isValidChar; omega) ?_
    rw [if_neg (by omega), if_neg (by omega), if_pos (by omega)]
    simp only [List.cons.injEq, and_true]
    omega
  split at h
  · obtain ⟨rfl, rfl⟩ := Prod.mk.inj (Option.some.inj h)
    obtain ⟨x, r, hx, hr, rfl⟩ := paid_cons_iff.mp hpaid
    obtain ⟨y, r', hy, hr', rfl⟩ := paid_cons_iff.mp hr
    obtain ⟨z, r'', hz, hr'', rfl⟩ := paid_cons_iff.mp hr'
    rw [paid_nil_iff.mp hr'', withBits_cons, withBits_cons, withBits_cons, withBits_nil]
    have hx : 0x80 ≤ x ∧ x ≤ 0xbf ∧ (b = 0xf0 → 0x90 ≤ x) ∧ (b = 0xf4 → x ≤ 0x8f) := by
      split_ifs at hx <;> omega
    refine hspelled (by unfold Nat.isValidChar; omega) ?_
    rw [if_neg (by omega), if_neg (by omega), if_neg (by omega)]
    simp only [List.cons.injEq, and_true]
    omega
  · cases h

/-- The encoding of a character is an octet with what is owed to it. -/
theorem exists_paid (c : Char) : ∃ b tail bits owed, encodeChar c = b :: tail
    ∧ promise? b = some (bits, owed) ∧ Paid owed tail ∧ Char.ofNat (withBits bits tail) = c := by
  have hvalid : c.toNat < 0xd800 ∨ (0xdfff < c.toNat ∧ c.toNat < 0x110000) := c.valid
  have hread : ∀ {n : Nat}, n = c.toNat → Char.ofNat n = c := fun h => by rw [h, Char.ofNat_toNat]
  by_cases hone : c.toNat < 0x80
  · have hpromise := (promise?_eq c.toNat).trans (if_pos hone)
    exact ⟨_, _, _, _, if_pos hone, hpromise, .nil, hread withBits_nil⟩
  by_cases htwo : c.toNat < 0x800
  · have hpromise := (promise?_eq (0xc0 + c.toNat / 0x40)).trans
      ((if_neg (by omega)).trans (if_pos (by omega)))
    refine ⟨_, _, _, _, (if_neg hone).trans (if_pos htwo), hpromise, .cons ?_ .nil, hread ?_⟩
    · exact ⟨by omega, by omega⟩
    · rw [withBits_cons, withBits_nil]
      omega
  by_cases hthree : c.toNat < 0x10000
  · have hpromise := (promise?_eq (0xe0 + c.toNat / 0x1000)).trans
      ((if_neg (by omega)).trans ((if_neg (by omega)).trans (if_pos (by omega))))
    refine ⟨_, _, _, _, (if_neg hone).trans ((if_neg htwo).trans (if_pos hthree)), hpromise,
      .cons ?_ (.cons ?_ .nil), hread ?_⟩
    · constructor <;> dsimp only <;> split_ifs <;> omega
    · exact ⟨by omega, by omega⟩
    · rw [withBits_cons, withBits_cons, withBits_nil]
      omega
  · have hpromise := (promise?_eq (0xf0 + c.toNat / 0x40000)).trans
      ((if_neg (by omega)).trans ((if_neg (by omega)).trans ((if_neg (by omega)).trans
        (if_pos (by omega)))))
    refine ⟨_, _, _, _, (if_neg hone).trans ((if_neg htwo).trans (if_neg hthree)), hpromise,
      .cons ?_ (.cons ?_ (.cons ?_ .nil)), hread ?_⟩
    · constructor <;> dsimp only <;> split_ifs <;> omega
    · exact ⟨by omega, by omega⟩
    · exact ⟨by omega, by omega⟩
    · rw [withBits_cons, withBits_cons, withBits_cons, withBits_nil]
      omega

/-! ## Texts -/

theorem decodeFrom_eq_ok_iff : decodeFrom index none octets = .ok cs ↔ octets = encodeUtf8 cs := by
  induction cs generalizing index octets with
  | nil =>
      cases octets with
      | nil => exact iff_of_true rfl rfl
      | cons b r =>
          refine iff_of_false (fun h => ?_) (List.cons_ne_nil b r)
          rw [decodeFrom_cons] at h
          split at h
          · cases h
          · obtain ⟨_, _, _, _, _, _, hcs⟩ := decodeBehind_eq_ok_iff.mp h
            cases hcs
  | cons c cs ih =>
      have hcons : encodeUtf8 (c :: cs) = encodeChar c ++ encodeUtf8 cs := rfl
      rw [hcons]
      constructor
      · intro h
        cases octets with
        | nil => cases h
        | cons b r =>
            rw [decodeFrom_cons] at h
            split at h
            · cases h
            · rename_i bits owed hpromise
              obtain ⟨tail, rest, cs', rfl, hpaid, hrest, hcs⟩ := decodeBehind_eq_ok_iff.mp h
              obtain ⟨rfl, rfl⟩ := List.cons.inj hcs
              rw [encodeChar_of_paid hpromise hpaid, ih.mp hrest]
              rfl
      · rintro rfl
        obtain ⟨b, tail, bits, owed, henc, hpromise, hpaid, hc⟩ := exists_paid c
        rw [henc, List.cons_append, decodeFrom_cons, hpromise]
        exact decodeBehind_eq_ok_iff.mpr ⟨tail, _, cs, rfl, hpaid, ih.mpr rfl, by rw [hc]⟩

/-- **Octets are decoded to a text if and only if they are its encoding.** -/
theorem decodeUtf8_eq_ok_iff : decodeUtf8 octets = .ok cs ↔ octets = encodeUtf8 cs :=
  decodeFrom_eq_ok_iff

/-- **A file has a text if and only if its octets are the encoding of one.** -/
theorem fileText_eq_ok_iff {text : String} : fileText octets = .ok text
    ↔ ∃ cs, octets = encodeUtf8 cs ∧ String.ofList (universalNewlines cs) = text := by
  rw [fileText, map_eq_ok]
  simp only [decodeUtf8_eq_ok_iff]

/-- The octets are the encoding of a text. -/
def IsUtf8 (octets : List Nat) : Prop := ∃ cs, octets = encodeUtf8 cs

/-- Of other octets a first fault is told. -/
theorem exists_fileText_error_iff : (∃ e, fileText octets = .error e) ↔ ¬ IsUtf8 octets := by
  constructor
  · rintro ⟨e, he⟩ ⟨cs, hcs⟩
    rw [fileText_eq_ok_iff.mpr ⟨cs, hcs, rfl⟩] at he
    cases he
  · intro h
    cases htext : fileText octets with
    | error e => exact ⟨e, rfl⟩
    | ok text =>
        obtain ⟨cs, hcs, _⟩ := fileText_eq_ok_iff.mp htext
        exact absurd ⟨cs, hcs⟩ h

end QueryTypings.Text
