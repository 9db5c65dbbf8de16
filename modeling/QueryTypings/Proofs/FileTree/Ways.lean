/-
  The ways that directories are made on.

  1. **Ways** — the directories that a way needs, from the root downwards as far as nothing is in
     the way, and what is in the way (`wayDown`).

  2. **Following** — where the names of a way can be followed, or are refused for another reason than
     that something is missing, the directories it needs are there (`follow_wayDown`).

  3. **Making** — making a directory goes up from the last name until the way there is complete.
     What comes of it are the directories that the way needs, where nothing was, or it fails with
     what is in the way (`openWay_spec`).  For this, nothing may lie below a place that holds
     nothing.
-/
import QueryTypings.Proofs.FileTree.Reach
import QueryTypings.Proofs.FileTree.Subtree

namespace QueryTypings.FileTree

open QueryTypings.Text

variable {t t' : FileTree}

/-! ## Ways -/

/-- The directories that a way needs from a place on, as far as nothing is in the way, and what is
    in the way. -/
def wayDown (t : FileTree) (place : List String) : List String → List (List String) × Option Refusal
  | [] => ([], none)
  | n :: rest =>
      if isTooLong n then ([], some .nameTooLong)
      else match t.octets? (place ++ [n]) with
        | some _ => ([], some (if rest = [] then .occupied else .notDirectory))
        | none =>
            let (places, r) := wayDown t (place ++ [n]) rest
            ((place ++ [n]) :: places, r)

variable {place names q : List String} {n : String}

/-- Between a place and the next one on a way there is nothing. -/
theorem eq_or_below {rest : List String} (hq : Below place q) (hpre : q <+: place ++ n :: rest) :
    q = place ++ [n] ∨ Below (place ++ [n]) q ∧ q <+: place ++ [n] ++ rest := by
  have hlonger : place ++ [n] ++ rest = place ++ n :: rest := by simp
  rw [← hlonger] at hpre
  rcases prefix_or_below (List.prefix_append (place ++ [n]) rest) hpre with hup | hdown
  · refine Or.inl (hup.eq_of_length ?_)
    have hle := hup.length_le
    have hge := hq.1.length_le
    have hne : q.length ≠ place.length := fun heq => hq.2 (hq.1.eq_of_length heq.symm).symm
    rw [List.length_append, List.length_singleton] at hle ⊢
    omega
  · exact Or.inr ⟨hdown, hpre⟩

theorem wayDown_cons (t : FileTree) (place : List String) (n : String) (rest : List String) :
    t.wayDown place (n :: rest)
      = if isTooLong n then ([], some .nameTooLong)
        else match t.octets? (place ++ [n]) with
          | some _ => ([], some (if rest = [] then .occupied else .notDirectory))
          | none => ((place ++ [n]) :: (t.wayDown (place ++ [n]) rest).1,
              (t.wayDown (place ++ [n]) rest).2) := rfl

/-- What a way needs lies on it. -/
theorem mem_wayDown (h : q ∈ (t.wayDown place names).1) : Below place q ∧ q <+: place ++ names := by
  induction names generalizing place with
  | nil => cases h
  | cons n rest ih =>
      rw [wayDown_cons] at h
      split at h
      · cases h
      · split at h
        · cases h
        · have hlonger : place ++ [n] ++ rest = place ++ n :: rest := by simp
          rcases List.mem_cons.mp h with rfl | h
          · exact ⟨below_append (List.cons_ne_nil n []), hlonger ▸ List.prefix_append _ rest⟩
          · obtain ⟨hbelow, hpre⟩ := ih h
            refine ⟨⟨(List.prefix_append place [n]).trans hbelow.1, ?_⟩, hlonger ▸ hpre⟩
            rintro rfl
            have hlen := hbelow.1.length_le
            rw [List.length_append, List.length_singleton] at hlen
            omega

/-- What lies behind a way is not needed for it. -/
theorem concat_not_mem_wayDown {name : String} : names ++ [name] ∉ (t.wayDown [] names).1 := by
  intro hmem
  have hle := (mem_wayDown hmem).2.length_le
  rw [List.nil_append, List.length_append, List.length_singleton] at hle
  omega

/-- What is needed is not there yet, or it is a directory. -/
theorem octets?_of_mem_wayDown (h : q ∈ (t.wayDown place names).1) : t.octets? q = none := by
  induction names generalizing place with
  | nil => cases h
  | cons n rest ih =>
      rw [wayDown_cons] at h
      split at h
      · cases h
      · split at h
        · cases h
        · rename_i hnone
          rcases List.mem_cons.mp h with rfl | h
          · exact hnone
          · exact ih h

/-- Where nothing is in the way, the whole way is needed. -/
theorem mem_wayDown_of_clear (h : (t.wayDown place names).2 = none) (hq : Below place q)
    (hpre : q <+: place ++ names) : q ∈ (t.wayDown place names).1 := by
  induction names generalizing place with
  | nil =>
      rw [List.append_nil] at hpre
      exact absurd (hq.1.eq_of_length_le hpre.length_le).symm hq.2
  | cons n rest ih =>
      rw [wayDown_cons] at h ⊢
      split at h
      · cases h
      · rename_i hshort
        rw [if_neg hshort]
        split at h
        · cases h
        · rcases eq_or_below hq hpre with rfl | ⟨hdown, hpre⟩
          · exact List.mem_cons_self
          · exact List.mem_cons_of_mem _ (ih h hdown hpre)

/-- A way that is longer by a name, where the names before are those of no file. -/
theorem wayDown_concat (hfile : ∀ q, q <+: place ++ names → t.octets? q = none) (n : String) :
    t.wayDown place (names ++ [n])
      = match (t.wayDown place names).2 with
        | some r => ((t.wayDown place names).1, some r)
        | none =>
            if isTooLong n then ((t.wayDown place names).1, some .nameTooLong)
            else match t.octets? (place ++ names ++ [n]) with
              | some _ => ((t.wayDown place names).1, some .occupied)
              | none => ((t.wayDown place names).1 ++ [place ++ names ++ [n]], none) := by
  induction names generalizing place with
  | nil =>
      rw [List.nil_append, List.append_nil, wayDown_cons]
      rfl
  | cons m rest ih =>
      have hlonger : place ++ [m] ++ rest = place ++ m :: rest := by simp
      have hm : t.octets? (place ++ [m]) = none := hfile _ (hlonger ▸ List.prefix_append _ rest)
      rw [List.cons_append, wayDown_cons, wayDown_cons]
      by_cases hlong : isTooLong m = true
      · rw [if_pos hlong, if_pos hlong]
      · rw [if_neg hlong, if_neg hlong, hm]
        have hrest := @ih (place ++ [m]) (by rw [hlonger]; exact hfile)
        rw [hlonger] at hrest
        dsimp only
        rw [hrest]
        cases (t.wayDown (place ++ [m]) rest).2 with
        | some r => rfl
        | none =>
            dsimp only
            split
            · rfl
            · split <;> rfl

/-! ## Following -/

theorem octets?_of_missing_here (h : t.follow place names = .error .missing) :
    t.octets? place = none := by
  cases names with
  | nil => cases h
  | cons n rest =>
      unfold follow at h
      split at h
      · rename_i hnone
        rw [octets?, hnone]
      · cases h
      · rename_i hdir
        exact octets?_of_directory hdir

/-- A way that is followed and found missing has no file on it. -/
theorem octets?_of_follow_missing (hr : Rooted t []) (hdots : ".." ∉ names)
    (h : t.follow place names = .error .missing) (hq : Below place q)
    (hpre : q <+: place ++ names) : t.octets? q = none := by
  induction names generalizing place with
  | nil => cases h
  | cons n rest ih =>
      unfold follow at h
      split at h
      · rename_i hnone
        -- below what is not there nothing is
        cases hentry : t.entry? q with
        | none => rw [octets?, hentry]
        | some e =>
            refine absurd hnone (hr.prefix_ne_none List.nil_prefix ?_ hq.1)
            rw [hentry]
            exact Option.some_ne_none e
      · cases h
      · have hn : n ≠ ".." := fun hn => hdots (hn ▸ List.mem_cons_self)
        rw [if_neg hn] at h
        split at h
        · cases h
        · rcases eq_or_below hq hpre with rfl | ⟨hdown, hpre⟩
          · exact octets?_of_missing_here h
          · exact ih (fun hm => hdots (List.mem_cons_of_mem _ hm)) h hdown hpre

/-- What following the names of a way shows of it. -/
structure Shown (t : FileTree) (place names : List String) (found : Except Refusal (List String)) :
    Prop where
  ok : ∀ p, found = .ok p → p = place ++ names
    ∧ ∀ q ∈ (t.wayDown place names).1, q ≠ p → t.entry? q ≠ none
  free : ∀ p, found = .ok p → t.octets? p = none →
    p ∈ (t.wayDown place names).1 ∧ (t.wayDown place names).2 = none
  taken : ∀ p, found = .ok p → t.octets? p ≠ none → (t.wayDown place names).2 = some .occupied
  refused : ∀ r, found = .error r → r ≠ .missing →
    (t.wayDown place names).2 = some r ∧ ∀ q ∈ (t.wayDown place names).1, t.entry? q ≠ none

theorem Shown.missing : Shown t place names (.error .missing) where
  ok p h := (by cases h)
  free p h := (by cases h)
  taken p h := (by cases h)
  refused r h hr := absurd (Except.error.inj h).symm hr

theorem Shown.stopped {r : Refusal} (h : t.wayDown place names = ([], some r)) :
    Shown t place names (.error r) where
  ok p h := (by cases h)
  free p h := (by cases h)
  taken p h := (by cases h)
  refused r' h' _ := by
    rw [h, Except.error.inj h']
    exact ⟨rfl, fun _ hq => absurd hq List.not_mem_nil⟩

/-- A way that leads on over a directory. -/
theorem Shown.cons {rest : List String} {found : Except Refusal (List String)}
    (hshort : isTooLong n = false) (hd : t.entry? (place ++ [n]) = some .directory)
    (h : Shown t (place ++ [n]) rest found) : Shown t place (n :: rest) found := by
  have hway : t.wayDown place (n :: rest) = ((place ++ [n]) :: (t.wayDown (place ++ [n]) rest).1,
      (t.wayDown (place ++ [n]) rest).2) := by
    rw [wayDown_cons, hshort, octets?_of_directory hd]
    rfl
  have hthere : t.entry? (place ++ [n]) ≠ none := by
    rw [hd]
    exact Option.some_ne_none _
  constructor
  · intro p hp
    obtain ⟨rfl, hway'⟩ := h.ok p hp
    rw [hway]
    refine ⟨List.append_assoc place [n] rest, fun q hq hne => ?_⟩
    rcases List.mem_cons.mp hq with rfl | hq
    · exact hthere
    · exact hway' q hq hne
  · intro p hp hnone
    rw [hway]
    exact ⟨List.mem_cons_of_mem _ (h.free p hp hnone).1, (h.free p hp hnone).2⟩
  · intro p hp hsome
    rw [hway]
    exact h.taken p hp hsome
  · intro r hr hne
    rw [hway]
    refine ⟨(h.refused r hr hne).1, fun q hq => ?_⟩
    rcases List.mem_cons.mp hq with rfl | hq
    · exact hthere
    · exact (h.refused r hr hne).2 q hq

/-- The last name of a way. -/
theorem Shown.last (hshort : isTooLong n = false) :
    Shown t place [n] (.ok (place ++ [n])) := by
  have hway := wayDown_cons t place n []
  rw [hshort] at hway
  constructor
  · intro p hp
    obtain rfl := Except.ok.inj hp
    refine ⟨rfl, fun q hq hne => ?_⟩
    rw [hway] at hq
    split at hq
    · rename_i h
      cases h
    · split at hq
      · cases hq
      · exact absurd (List.mem_singleton.mp hq) hne
  · intro p hp hnone
    obtain rfl := Except.ok.inj hp
    rw [hway, hnone]
    exact ⟨List.mem_cons_self, rfl⟩
  · intro p hp hsome
    obtain rfl := Except.ok.inj hp
    obtain ⟨o, ho⟩ := Option.ne_none_iff_exists'.mp hsome
    rw [hway, ho]
    rfl
  · intro r hr
    cases hr

theorem follow_wayDown (hdots : ".." ∉ names) (hne : names ≠ [])
    (hd : t.entry? place = some .directory) : Shown t place names (t.follow place names) := by
  induction names generalizing place with
  | nil => exact absurd rfl hne
  | cons n rest ih =>
      have hn : n ≠ ".." := fun hn => hdots (hn ▸ List.mem_cons_self)
      unfold follow
      rw [hd]
      dsimp only
      rw [if_neg hn]
      cases hlong : isTooLong n with
      | true =>
          refine .stopped ?_
          rw [wayDown_cons, hlong]
          rfl
      | false =>
          show Shown t place (n :: rest) (t.follow (place ++ [n]) rest)
          cases rest with
          | nil => exact .last hlong
          | cons m more =>
              cases hentry : t.entry? (place ++ [n]) with
              | none =>
                  have hmissing : t.follow (place ++ [n]) (m :: more) = .error .missing := by
                    rw [follow, hentry]
                  exact hmissing ▸ .missing
              | some e =>
                  cases e with
                  | file o =>
                      have hstop : t.follow (place ++ [n]) (m :: more) = .error .notDirectory := by
                        rw [follow, hentry]
                      rw [hstop]
                      refine .stopped ?_
                      rw [wayDown_cons, hlong, octets?_eq_some.mpr hentry]
                      rfl
                  | directory =>
                      exact .cons hlong hentry (ih (fun hm => hdots (List.mem_cons_of_mem _ hm))
                        (List.cons_ne_nil m more) hentry)

/-! ## Making -/

/-- The places hold directories where nothing was, and all others hold what they held. -/
def Furnished (t : FileTree) (places : List (List String)) (t' : FileTree) : Prop :=
  ∀ q, t'.entry? q = if q ∈ places ∧ t.entry? q = none then some .directory else t.entry? q

variable {places more : List (List String)} {p : Passage}

/-- Only places count that held nothing. -/
theorem Furnished.congr (h : Furnished t places t')
    (hmore : ∀ q, t.entry? q = none → (q ∈ more ↔ q ∈ places)) : Furnished t more t' := by
  intro q
  rw [h q]
  by_cases hq : t.entry? q = none
  · simp only [hmore q hq]
  · rw [if_neg fun h => hq h.2, if_neg fun h => hq h.2]

theorem Furnished.refl (t : FileTree) : Furnished t [] t :=
  fun _ => (if_neg fun hq => absurd hq.1 List.not_mem_nil).symm

theorem Furnished.of_not_mem (h : Furnished t places t') (hq : q ∉ places) :
    t'.entry? q = t.entry? q := by
  rw [h q, if_neg fun hq' => hq hq'.1]

theorem Furnished.directory (h : Furnished t places t') (hq : q ∈ places)
    (hfile : t.octets? q = none) : t'.entry? q = some .directory := by
  rw [h q]
  cases hentry : t.entry? q with
  | none => exact if_pos ⟨hq, rfl⟩
  | some e =>
      rw [if_neg fun hq' => (by cases hq'.2)]
      cases e with
      | directory => rfl
      | file o =>
          rw [octets?_eq_some.mpr hentry] at hfile
          cases hfile

/-- The way is open where nothing is in it. -/
theorem Furnished.opened (h : Furnished t (t.wayDown [] names).1 t')
    (hway : (t.wayDown [] names).2 = none) : t'.entry? names = some .directory := by
  by_cases hnil : names = []
  · rw [hnil, entry?_nil]
  · have hmem := mem_wayDown_of_clear hway ⟨List.nil_prefix, hnil⟩ (List.prefix_refl _)
    exact h.directory hmem (octets?_of_mem_wayDown hmem)

/-- Another directory where nothing is. -/
theorem Furnished.put (h : Furnished t places t') (hne : q ≠ []) (hnone : t.entry? q = none)
    (hmore : ∀ x, t.entry? x = none → (x ∈ more ↔ x ∈ places ∨ x = q)) :
    Furnished t more (t'.put q .directory) := by
  intro x
  by_cases hx : x = q
  · subst hx
    rw [entry?_put_self _ hne, if_pos ⟨(hmore x hnone).mpr (Or.inr rfl), hnone⟩]
  · rw [entry?_put_of_ne _ hx, h x]
    by_cases hentry : t.entry? x = none
    · simp only [hmore x hentry, hx, or_false]
    · rw [if_neg fun h => hentry h.2, if_neg fun h => hentry h.2]

/-- Making a directory without trouble: the directories come that its way needs, and it fails where
    something is in the way. -/
structure Makes (t : FileTree) (names : List String) (p : Passage)
    (place : Except Obstacle (List String)) : Prop where
  furnished : Furnished t (t.wayDown [] names).1 p.last
  refusal : p.refusal = (t.wayDown [] names).2
  complete : (t.wayDown [] names).2 = none → place = .ok names
  stopped : (t.wayDown [] names).2 ≠ none → ∃ o, place = .error o

theorem Makes.stop {r : Refusal} {o : Obstacle} (hp : Furnished t places p.last)
    (hway : (t.wayDown [] names).2 = some r)
    (hmem : ∀ q, t.entry? q = none → (q ∈ (t.wayDown [] names).1 ↔ q ∈ places)) :
    Makes t names (p.stop r) (.error o) where
  furnished := hp.congr hmem
  refusal := hway.symm
  complete h := by
    rw [hway] at h
    cases h
  stopped _ := ⟨o, rfl⟩

/-- The last directory of a way. -/
theorem Makes.last (hne : names ≠ []) (hp : Furnished t places p.last) (hnames : names ∉ places)
    (hopen : p.refusal = none)
    (hfree : t.octets? names = none → (t.wayDown [] names).2 = none
      ∧ ∀ q, t.entry? q = none → (q ∈ (t.wayDown [] names).1 ↔ q ∈ places ∨ q = names))
    (htaken : t.octets? names ≠ none → (t.wayDown [] names).2 = some .occupied
      ∧ ∀ q, t.entry? q = none → (q ∈ (t.wayDown [] names).1 ↔ q ∈ places)) :
    Makes t names (openLast .nothing p names (.ok names)).1
      (openLast .nothing p names (.ok names)).2 := by
  have hentry := hp.of_not_mem hnames
  cases h : t.entry? names with
  | none =>
      obtain ⟨hclear, hmem⟩ := hfree (by rw [octets?, h])
      rw [h] at hentry
      have hlast : openLast .nothing p names (.ok names)
          = (p.next (p.last.put names .directory), .ok names) := by
        simp only [openLast, hentry, Trouble.atDirectory?]
      rw [hlast]
      exact ⟨hp.put hne h hmem, hopen.trans hclear.symm, fun _ => rfl, fun h => absurd hclear h⟩
  | some e =>
      rw [h] at hentry
      cases e with
      | file o =>
          obtain ⟨hway, hmem⟩ := htaken (by rw [octets?_eq_some.mpr h]; exact Option.some_ne_none o)
          have hlast : openLast .nothing p names (.ok names)
              = (p.stop .occupied, .error ⟨.occupied, names⟩) := by
            simp only [openLast, hentry, Trouble.atDirectory?]
          rw [hlast]
          exact .stop hp hway hmem
      | directory =>
          obtain ⟨hclear, hmem⟩ := hfree (octets?_of_directory h)
          have hlast : openLast .nothing p names (.ok names) = (p, .ok names) := by
            simp only [openLast, hentry, Trouble.atDirectory?]
          rw [hlast]
          refine ⟨hp.congr fun q hq => ?_, hopen.trans hclear.symm, fun _ => rfl,
            fun h => absurd hclear h⟩
          have hne : q ≠ names := by
            rintro rfl
            rw [h] at hq
            cases hq
          rw [hmem q hq, or_iff_left hne]

/-- The names are those of a way that is short enough at each place. -/
def ShortWay (names : List String) : Prop :=
  ∀ way, way <+: names → isTooLongPath (Path.mk .root way).text = false

section Concat

variable {name : String} (hr : Rooted t []) (hdots : ".." ∉ names ++ [name])
  (hmissing : t.follow [] (names ++ [name]) = .error .missing)

include hr hdots hmissing

/-- There is no file on a way on which something is missing. -/
theorem octets?_of_missing (hq : q ≠ []) (hpre : q <+: names ++ [name]) : t.octets? q = none :=
  octets?_of_follow_missing hr hdots hmissing ⟨List.nil_prefix, hq⟩ hpre

/-- What such a way needs is what the way to its last name needs, and this name. -/
theorem wayDown_concat_of_missing : t.wayDown [] (names ++ [name])
    = match (t.wayDown [] names).2 with
      | some r => ((t.wayDown [] names).1, some r)
      | none =>
          if isTooLong name then ((t.wayDown [] names).1, some .nameTooLong)
          else ((t.wayDown [] names).1 ++ [names ++ [name]], none) := by
  have hway : ∀ q, q <+: [] ++ names → t.octets? q = none := fun q hq => by
    by_cases hnil : q = []
    · exact hnil ▸ octets?_of_directory (entry?_nil t)
    · exact octets?_of_missing hr hdots hmissing hnil
        (List.IsPrefix.trans hq (List.prefix_append _ _))
  rw [wayDown_concat hway name]
  show (match (t.wayDown [] names).2 with
    | some r => _
    | none => if isTooLong name then _ else match t.octets? (names ++ [name]) with
        | some _ => _
        | none => _) = _
  rw [octets?_of_missing hr hdots hmissing (by simp) (List.prefix_refl _)]
  rfl

/-- Such a way cannot be made if the way to its last name cannot. -/
theorem makes_concat_error {o : Obstacle} (h : Makes t names p (.error o)) :
    Makes t (names ++ [name]) p (.error o) := by
  have hconcat := wayDown_concat_of_missing hr hdots hmissing
  cases hway : (t.wayDown [] names).2 with
  | none => cases h.complete hway
  | some r =>
      rw [hway] at hconcat
      refine ⟨?_, ?_, fun hnone => ?_, fun _ => ⟨o, rfl⟩⟩
      · rw [hconcat]
        exact h.furnished
      · rw [hconcat, h.refusal, hway]
      · rw [hconcat] at hnone
        cases hnone

/-- If it can, the directory for the last name is made, unless this name is too long. -/
theorem makes_concat_ok {place : List String} (h : Makes t names p (.ok place)) :
    Makes t (names ++ [name])
      (openLast .nothing p (names ++ [name]) (p.last.follow place [name])).1
      (openLast .nothing p (names ++ [name]) (p.last.follow place [name])).2 := by
  have hconcat := wayDown_concat_of_missing hr hdots hmissing
  have hway : (t.wayDown [] names).2 = none := by
    by_contra hsome
    obtain ⟨o, ho⟩ := h.stopped hsome
    cases ho
  obtain rfl := Except.ok.inj (h.complete hway)
  rw [hway] at hconcat
  dsimp only at hconcat
  have hname : name ≠ ".." := fun hn => hdots (hn ▸ by simp)
  have hfollow : p.last.follow place [name]
      = if isTooLong name then .error .nameTooLong else .ok (place ++ [name]) := by
    rw [follow, h.furnished.opened hway]
    dsimp only
    rw [if_neg hname]
    rfl
  rw [hfollow]
  by_cases hlong : isTooLong name = true
  · rw [if_pos hlong] at hconcat ⊢
    refine .stop h.furnished (by rw [hconcat]) fun q _ => by rw [hconcat]
  · rw [if_neg hlong] at hconcat ⊢
    refine .last (by simp) h.furnished concat_not_mem_wayDown (h.refusal.trans hway)
      (fun _ => ⟨by rw [hconcat], fun q _ => ?_⟩) fun hsome => ?_
    · rw [hconcat, List.mem_append, List.mem_singleton]
    · exact absurd (octets?_of_missing hr hdots hmissing (by simp) (List.prefix_refl _)) hsome

end Concat

/-- A way that can be followed, or on which something else is wrong. -/
theorem makes_found (hne : names ≠ []) {found : Except Refusal (List String)}
    (h : Shown t [] names found) (hfound : found ≠ .error .missing) :
    Makes t names (openLast .nothing ⟨t, [], none⟩ names found).1
      (openLast .nothing ⟨t, [], none⟩ names found).2 := by
  cases found with
  | error r =>
      obtain ⟨hway, hthere⟩ := h.refused r rfl fun hr => hfound (congrArg _ hr)
      exact .stop (Furnished.refl t) hway fun q hq =>
        iff_of_false (fun hmem => hthere q hmem hq) List.not_mem_nil
  | ok place =>
      obtain ⟨hplace, hthere⟩ := h.ok place rfl
      rw [List.nil_append] at hplace
      subst hplace
      refine .last hne (Furnished.refl t) List.not_mem_nil rfl (fun hnone => ?_) fun hsome => ?_
      · obtain ⟨hmem, hway⟩ := h.free place rfl hnone
        refine ⟨hway, fun q hq => ⟨fun hq' => Or.inr ?_, fun hq' => ?_⟩⟩
        · by_contra hne'
          exact hthere q hq' hne' hq
        · exact hq'.resolve_left List.not_mem_nil ▸ hmem
      · refine ⟨h.taken place rfl hsome, fun q hq => iff_of_false (fun hmem => ?_) List.not_mem_nil⟩
        by_cases heq : q = place
        · subst heq
          exact hsome (by rw [octets?, hq])
        · exact hthere q hmem heq hq

/-- What is on the way is no longer than the whole. -/
theorem isTooLongPath_of_prefix {way : List String} (hway : way <+: names)
    (h : isTooLongPath (Path.mk .root names).text = false) :
    isTooLongPath (Path.mk .root way).text = false := by
  obtain ⟨rest, rfl⟩ := hway
  induction rest using List.reverseRecOn with
  | nil => rwa [List.append_nil] at h
  | append_singleton rest n ih =>
      refine ih ?_
      rw [← List.append_assoc] at h
      -- what stands before the last name is no longer than with it
      have htext : ∃ after, (Path.mk .root (way ++ rest ++ [n])).text
          = "" ++ (Path.mk .root (way ++ rest)).text ++ after := by
        have hroot : ∀ parts, (Path.mk .root parts).text = "/" ++ joinWith "/" parts := fun _ => rfl
        by_cases hnil : way ++ rest = []
        · refine ⟨n, ?_⟩
          rw [hnil, hroot, hroot, String.empty_append, String.append_assoc]
          rfl
        · refine ⟨"/" ++ n, ?_⟩
          rw [hroot, hroot, joinWith_concat "/" n hnil, String.empty_append]
          simp only [String.append_assoc]
      obtain ⟨after, hafter⟩ := htext
      have hle := octets_le_around "" after (Path.mk .root (way ++ rest)).text
      rw [← hafter] at hle
      simp only [isTooLongPath, decide_eq_false_iff_not] at h ⊢
      omega

theorem openWayUp_makes (hr : Rooted t []) {back : List String} (hdots : ".." ∉ back)
    (hshort : ShortWay back.reverse) :
    Makes t back.reverse (t.openWayUp .nothing back).1 (t.openWayUp .nothing back).2 := by
  -- from the last name upwards, as the system does
  induction back with
  | nil => exact ⟨Furnished.refl t, rfl, fun _ => rfl, fun h => absurd rfl h⟩
  | cons name above ih =>
      have hnames : ".." ∉ (name :: above).reverse := fun hm => hdots (List.mem_reverse.mp hm)
      have hne : (name :: above).reverse ≠ [] := by simp
      have hlocate : t.locate (name :: above).reverse = t.follow [] (name :: above).reverse := by
        rw [locate, hshort _ (List.prefix_refl _)]
        rfl
      simp only [openWayUp]
      rw [hlocate]
      split
      · rename_i hmissing
        rw [List.reverse_cons] at hmissing hnames hshort ⊢
        have hmakes := ih (fun hm => hdots (List.mem_cons_of_mem _ hm))
          fun way hway => hshort way (hway.trans (List.prefix_append _ _))
        split
        · rename_i q o hup
          rw [hup] at hmakes
          exact makes_concat_error hr hnames hmissing hmakes
        · rename_i q place hup
          rw [hup] at hmakes
          exact makes_concat_ok hr hnames hmissing hmakes
      · rename_i hfound
        exact makes_found hne (follow_wayDown hnames hne (entry?_nil t)) hfound

/-- **Making a directory** without trouble makes what its way needs, and fails where something is in
    the way. -/
theorem openWay_spec (hr : Rooted t []) (hdots : ".." ∉ names) (hshort : ShortWay names)
    {o : Option Obstacle} (h : t.openWay .nothing names = (p, o)) :
    Furnished t (t.wayDown [] names).1 p.last ∧ p.refusal = (t.wayDown [] names).2
      ∧ (o = none ↔ p.refusal = none) := by
  have hback : ".." ∉ names.reverse := fun hm => hdots (List.mem_reverse.mp hm)
  have hmakes := openWayUp_makes hr hback (by rw [List.reverse_reverse]; exact hshort)
  rw [List.reverse_reverse] at hmakes
  rw [openWay] at h
  split at h
  · rename_i q ob hup
    obtain ⟨rfl, rfl⟩ := Prod.mk.inj h
    rw [hup] at hmakes
    refine ⟨hmakes.furnished, hmakes.refusal, iff_of_false (Option.some_ne_none ob) fun hnone => ?_⟩
    cases hmakes.complete (hmakes.refusal.symm.trans hnone)
  · rename_i q place hup
    obtain ⟨rfl, rfl⟩ := Prod.mk.inj h
    rw [hup] at hmakes
    refine ⟨hmakes.furnished, hmakes.refusal, iff_of_true rfl ?_⟩
    by_contra hsome
    obtain ⟨o, ho⟩ := hmakes.stopped (hmakes.refusal ▸ hsome)
    cases ho

end QueryTypings.FileTree
