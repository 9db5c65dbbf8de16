/-
  Events that do not touch each other.

  Events about declarations in different places are handled in some order.  Each of them makes the
  directories that its declaration needs, and counts what came of it.

  1. **Sources** — a file is read alike in two trees that agree on the places on the way to it
     (`read_of_walk`).

  2. **Changes** — writing and removing a declaration change its place, and make directories on the
     way to it.  They come to the same in another tree that is alike for it (`write_parallel`,
     `remove_parallel`).

  3. **Reactions** — so an event comes to what it comes to alone, and changes what it changes alone,
     where other events have made directories meanwhile (`reaction_parallel`).

  4. **All events** — so in every order each event has its outcome, and the counts and the tree are
     the same in the end (`dispatchAll_perm`).
-/
import QueryTypings.Proofs.FileTree.Parallel
import QueryTypings.Proofs.FileTree.Reach
import QueryTypings.Proofs.Project.Handling
import QueryTypings.Proofs.Project.Preparation

namespace QueryTypings

open QueryTypings.Text QueryTypings.FileTree

/-! ## Sources -/

namespace FileTree

variable {t t' : FileTree} {place names : List String}

/-- The places where names are looked up, and the one where they lead. -/
def walk (place : List String) : List String → List (List String)
  | [] => [place]
  | n :: rest => place :: walk (if n = ".." then place.dropLast else place ++ [n]) rest

theorem follow_of_walk (h : ∀ q ∈ walk place names, t'.entry? q = t.entry? q) :
    t'.follow place names = t.follow place names
      ∧ ∀ p, t.follow place names = .ok p → p ∈ walk place names := by
  induction names generalizing place with
  | nil => exact ⟨rfl, fun p hp => Except.ok.inj hp ▸ List.mem_cons_self⟩
  | cons n rest ih =>
      have hhere : t'.entry? place = t.entry? place := h place List.mem_cons_self
      obtain ⟨hfollow, hmem⟩ := ih fun q hq => h q (List.mem_cons_of_mem _ hq)
      unfold follow
      rw [hhere]
      cases t.entry? place with
      | none => exact ⟨rfl, fun p hp => (by cases hp)⟩
      | some e =>
          cases e with
          | file o => exact ⟨rfl, fun p hp => (by cases hp)⟩
          | directory =>
              dsimp only
              by_cases hn : n = ".."
              · rw [if_pos hn] at hfollow hmem
                rw [if_pos hn, if_pos hn]
                refine ⟨hfollow, fun p hp => List.mem_cons_of_mem _ ?_⟩
                rw [if_pos hn]
                exact hmem p hp
              · rw [if_neg hn] at hfollow hmem
                rw [if_neg hn, if_neg hn]
                split
                · exact ⟨rfl, fun p hp => (by cases hp)⟩
                · refine ⟨hfollow, fun p hp => List.mem_cons_of_mem _ ?_⟩
                  rw [if_neg hn]
                  exact hmem p hp

/-- Neither a declaration nor a directory for one can come at the place: it is not below the
    directory of the declarations, and it is there if it is on the way to it. -/
def Steady (t : FileTree) (top place : List String) : Prop :=
  ¬ Below top place ∧ (place <+: top → t.entry? place ≠ none)

end FileTree

/-- **A file is read alike** where the way to it is the same. -/
theorem read_of_walk {world world' : World} {p : Path} (hcwd : world'.cwd = world.cwd)
    (h : ∀ q ∈ walk [] (world.names p), world'.tree.entry? q = world.tree.entry? q) :
    world'.read p = world.read p := by
  obtain ⟨hfollow, hmem⟩ := follow_of_walk h
  have hnames : world'.names p = world.names p := by rw [World.names, World.names, hcwd]
  have hlook : world'.lookUp p = world.lookUp p := by
    rw [World.lookUp, World.lookUp, hnames, hfollow]
    split
    · rfl
    · split
      · rfl
      · rename_i place hplace
        rw [entryAt, entryAt, h place (hmem place hplace)]
  rw [World.read, World.read, hlook]

/-! ## One event -/

variable {w : Writer} {world world' : World}

namespace Writer

/-- The declaration that an event is about. -/
def artifactOf (w : Writer) (cwd : Path) (e : Event) : Option Path :=
  e.path.bind fun p => (w.artifact cwd p.text).toOption

/-- What is changed is a place or was nothing on the way to it, where a directory came. -/
def Changes (t : FileTree) (place : Option Path) (t' : FileTree) : Prop :=
  ∀ q, t'.entry? q = t.entry? q ∨ ∃ a, place = some a
    ∧ (q = a.parts ∨ q <+: a.parts ∧ t.entry? q = none ∧ t'.entry? q = some .directory)

theorem Changes.refl (t : FileTree) (place : Option Path) : Changes t place t := fun _ => Or.inl rfl

/-- What comes of putting a declaration in its place. -/
def putResult (artifact : Path) (p : Passage) : Except Failure Path :=
  match p.refusal with
  | some r => .error (.reported (.unwritable artifact r))
  | none => .ok artifact

theorem settled_eq (a : Path) (p : Passage) : settled a p = (p, putResult a p) := by
  cases h : p.refusal with
  | none => simp only [settled, putResult, h]
  | some r => simp only [settled, putResult, h]

theorem write_of_error {s : String} {f : Failure} (h : w.compose world s = .error f) :
    w.write world s = (.error f, world) := by
  unfold write attempt writing
  rw [h]

theorem write_of_ok {s : String} {a : Path} {text : String}
    (h : w.compose world s = .ok (a, text)) :
    (w.write world s).1 = putResult a (putText .nothing world.tree a text)
      ∧ (w.write world s).2.tree = (putText .nothing world.tree a text).last
      ∧ (w.write world s).2.cwd = world.cwd := by
  unfold write attempt writing Setback.nothing
  rw [h]
  dsimp only
  rw [settled_eq]
  dsimp only
  cases putResult a (putText .nothing world.tree a text) with
  | error f => exact ⟨rfl, rfl, rfl⟩
  | ok b => exact ⟨rfl, rfl, rfl⟩

/-- A write changes the place of the declaration and makes directories on the way to it. -/
theorem changes_write (hw : w.Placed) (hr : Rooted world.tree []) (s : String) :
    (w.write world s).2.cwd = world.cwd ∧ Rooted (w.write world s).2.tree []
      ∧ Changes world.tree (w.artifact world.cwd s).toOption (w.write world s).2.tree := by
  cases hcompose : w.compose world s with
  | error f =>
      rw [write_of_error hcompose]
      exact ⟨rfl, hr, .refl _ _⟩
  | ok composed =>
      obtain ⟨a, text⟩ := composed
      obtain ⟨_, htree, hcwd⟩ := write_of_ok hcompose
      obtain ⟨hbelow, hdots⟩ := compose_below hw hcompose
      have hplace : (w.artifact world.cwd s).toOption = some a := by
        rw [(compose_ok hcompose).1]
        rfl
      have hparent : a.parent.parts <+: a.parts := List.dropLast_prefix _
      rw [htree, hcwd, hplace]
      refine ⟨rfl, ?_⟩
      rcases (putText_passage (t := world.tree) .nothing text hbelow.ne_nil hdots).2
        with ⟨_, hput⟩ | ⟨_, hgrown⟩
      · obtain ⟨opened, hgrown, hopened, hfile, hlast⟩ := hput.way
        have hup : opened.entry? a.parts.dropLast = some .directory :=
          hopened _ (List.prefix_refl _)
        rw [hlast]
        refine ⟨(rooted_put _ ⟨List.nil_prefix, hbelow.ne_nil⟩
          (hgrown.below List.nil_prefix hr).2 hup hfile).2, fun q => ?_⟩
        by_cases hq : q = a.parts
        · exact Or.inr ⟨a, rfl, Or.inl hq⟩
        · rw [entry?_put_of_ne _ hq]
          exact (hgrown q).imp_right fun h => ⟨a, rfl, Or.inr ⟨h.2.2.1.trans hparent, h.1, h.2.1⟩⟩
      · refine ⟨(hgrown.below List.nil_prefix hr).2, fun q => ?_⟩
        exact (hgrown q).imp_right fun h => ⟨a, rfl, Or.inr ⟨h.2.2.1.trans hparent, h.1, h.2.1⟩⟩

/-- A write comes to the same in another tree that is alike for the declaration. -/
theorem write_parallel (hw : w.Placed) (hr : Rooted world.tree []) (hr' : Rooted world'.tree [])
    {s : String} (hcompose : w.compose world' s = w.compose world s)
    (h : ∀ a, w.artifact world.cwd s = .ok a → Alike world.tree world'.tree a.parts) :
    (w.write world' s).1 = (w.write world s).1
      ∧ Transfers world.tree (w.write world s).2.tree world'.tree (w.write world' s).2.tree := by
  cases hcomposed : w.compose world s with
  | error f =>
      rw [write_of_error hcomposed, write_of_error (hcompose.trans hcomposed)]
      exact ⟨rfl, .refl _ _⟩
  | ok composed =>
      obtain ⟨a, text⟩ := composed
      obtain ⟨hresult, htree, _⟩ := write_of_ok hcomposed
      obtain ⟨hresult', htree', _⟩ := write_of_ok (hcompose.trans hcomposed)
      obtain ⟨hbelow, hdots⟩ := compose_below hw hcomposed
      obtain ⟨hrefusal, htransfers⟩ := putText_alike hr hr' hbelow.ne_nil hdots
        (h a (compose_ok hcomposed).1) text
      rw [hresult, hresult', htree, htree', putResult, putResult, hrefusal]
      exact ⟨rfl, htransfers⟩

/-- A removal changes the place of the declaration. -/
theorem changes_remove (hw : w.Placed) (hr : Rooted world.tree []) (s : String) :
    (w.remove world s).2.cwd = world.cwd ∧ Rooted (w.remove world s).2.tree []
      ∧ Changes world.tree (w.artifact world.cwd s).toOption (w.remove world s).2.tree := by
  unfold remove
  cases hplace : w.artifact world.cwd s with
  | error f => exact ⟨rfl, hr, .refl _ _⟩
  | ok a =>
      obtain ⟨hbelow, hdots⟩ := artifact_below hw hplace
      dsimp only
      split
      · exact ⟨rfl, hr, .refl _ _⟩
      · split
        · exact ⟨rfl, hr, .refl _ _⟩
        · exact ⟨rfl, hr, .refl _ _⟩
        · rename_i t ht
          obtain ⟨rfl, hfile⟩ := removeFile_ok hdots ht
          refine ⟨rfl, (rooted_clear ⟨List.nil_prefix, hbelow.ne_nil⟩ hr hfile).2, fun q => ?_⟩
          by_cases hq : q = a.parts
          · exact Or.inr ⟨a, rfl, Or.inl hq⟩
          · exact Or.inl (entry?_clear_of_ne _ hq)

/-- A removal comes to the same in another tree that is alike for the declaration. -/
theorem remove_parallel (hw : w.Placed) (hcwd : world'.cwd = world.cwd)
    (hr : Rooted world.tree []) {s : String}
    (h : ∀ a, w.artifact world.cwd s = .ok a → Alike world.tree world'.tree a.parts
      ∧ (Fits a.parts ∨ world.tree.locate a.parts ≠ .error .missing)) :
    (w.remove world' s).1 = (w.remove world s).1
      ∧ Transfers world.tree (w.remove world s).2.tree world'.tree (w.remove world' s).2.tree := by
  unfold remove
  rw [hcwd]
  cases hplace : w.artifact world.cwd s with
  | error f => exact ⟨rfl, .refl _ _⟩
  | ok a =>
      obtain ⟨hbelow, hdots⟩ := artifact_below hw hplace
      obtain ⟨halike, hway⟩ := h a hplace
      dsimp only
      split
      · exact ⟨rfl, .refl _ _⟩
      · cases removeFile_alike hr hdots halike hway with
        | refused r hfirst hsecond =>
            rw [hfirst, hsecond]
            cases r with
            | missing => exact ⟨rfl, .refl _ _⟩
            | _ => exact ⟨rfl, .refl _ _⟩
        | cleared hfirst hsecond =>
            rw [hfirst, hsecond]
            exact ⟨rfl, transfers_clear hbelow.ne_nil halike⟩

/-- **Nothing that other events change disturbs an event.**  The way to the source that is to be
    written steers clear of the declarations, and of directories that come for them.  The names of
    a declaration that is to be removed are short enough, or the way to it is not missed. -/
structure Undisturbed (w : Writer) (world : World) (e : Event) : Prop where
  source : e.kind = .add ∨ e.kind = .change → ∀ p r, e.path = some p →
    w.relativeSource world.cwd p.text = .ok r →
    ∀ q ∈ walk [] (world.names (w.base.join r)), Steady world.tree w.outDir.parts q
  removal : e.kind = .unlink → ∀ a, w.artifactOf world.cwd e = some a →
    Fits a.parts ∨ world.tree.locate a.parts ≠ .error .missing

end Writer

/-! ## Reactions -/

/-- What was counted, and what more. -/
def Counts.plus (c d : Counts) : Counts :=
  ⟨c.generated + d.generated, c.removed + d.removed, c.failed + d.failed⟩

instance : RightCommutative Counts.plus where
  right_comm a b c := by simp only [Counts.plus, Nat.add_right_comm]

/-- The outcome of an event, and what it counts. -/
abbrev Reaction : Type := Except Breakdown Outcome × Counts

namespace Event

/-- The outcome of an event whose query file has a fault. -/
def failedBy (e : Event) : Failure → Reaction
  | .reported f => (.ok ⟨e.kind, e.path, none, some (.file f)⟩, Counts.zero.missed)
  | .broken b => (.error b, .zero)

/-- The outcome of an event by the result of the write. -/
def wrote (e : Event) : Except Failure Path → Reaction
  | .ok a => (.ok ⟨e.kind, e.path, some a, none⟩, Counts.zero.written)
  | .error f => e.failedBy f

/-- The outcome of an event by the result of the removal. -/
def removed (e : Event) : Except Failure Bool → Reaction
  | .ok there => (.ok ⟨e.kind, e.path, none, none⟩, Counts.zero.cleared there)
  | .error f => e.failedBy f

/-- What an event comes to, and the world afterwards, but for what is reported. -/
def reaction (w : Writer) (e : Event) (world : World) : Reaction × World :=
  match e.kind, e.path with
  | .ready, _ => ((.ok ⟨e.kind, none, none, none⟩, .zero), world)
  | .error, _ =>
      ((.ok ⟨e.kind, e.path, none, e.fault.map fun f => .watch f.contained⟩, .zero), world)
  | _, none => ((.error .noPath, .zero), world)
  | .unlink, some p => (e.removed (w.remove world p.text).1, (w.remove world p.text).2)
  | _, some p => (e.wrote (w.write world p.text).1, (w.write world p.text).2)

end Event

/-- An event is handled as its reaction says. -/
structure Handles (h : Handled) (n : Counts) (r : Reaction × World) : Prop where
  outcome : h.outcome = r.1.1
  counts : h.counts = n.plus r.1.2
  tree : h.world.tree = r.2.tree
  cwd : h.world.cwd = r.2.cwd

theorem handles_onWrite (w : Writer) (e : Event) (p : Path) (n : Counts) (world : World) :
    Handles (Dispatch.onWrite w.sink e p n world) n
      (e.wrote (w.write world p.text).1, (w.write world p.text).2) := by
  simp only [Dispatch.onWrite, Writer.sink]
  rcases w.write world p.text with ⟨result, after⟩
  cases result with
  | ok a => exact ⟨rfl, rfl, rfl, rfl⟩
  | error f => cases f <;> exact ⟨rfl, rfl, rfl, rfl⟩

theorem handles_onUnlink (w : Writer) (e : Event) (p : Path) (n : Counts) (world : World) :
    Handles (Dispatch.onUnlink w.sink e p n world) n
      (e.removed (w.remove world p.text).1, (w.remove world p.text).2) := by
  simp only [Dispatch.onUnlink, Writer.sink]
  rcases w.remove world p.text with ⟨result, after⟩
  cases result with
  | ok there => cases there <;> exact ⟨rfl, rfl, rfl, rfl⟩
  | error f => cases f <;> exact ⟨rfl, rfl, rfl, rfl⟩

/-- **Handling an event** is its reaction, whatever was counted before. -/
theorem handles_dispatch (w : Writer) (e : Event) (n : Counts) (world : World) :
    Handles (dispatch w.sink e n world) n (e.reaction w world) := by
  obtain ⟨kind, path, fault⟩ := e
  cases kind with
  | ready => exact ⟨rfl, rfl, rfl, rfl⟩
  | error => exact ⟨rfl, rfl, rfl, rfl⟩
  | unlink =>
      cases path with
      | none => exact ⟨rfl, rfl, rfl, rfl⟩
      | some p => exact handles_onUnlink w ⟨.unlink, some p, fault⟩ p n world
  | _ =>
      cases path with
      | none => exact ⟨rfl, rfl, rfl, rfl⟩
      | some p => exact handles_onWrite w ⟨_, some p, fault⟩ p n world

/-- **What an event changes**: the place of its declaration, and directories come on the way to
    it. -/
theorem changes_reaction (hw : w.Placed) (hr : Rooted world.tree []) (e : Event) :
    (e.reaction w world).2.cwd = world.cwd ∧ Rooted (e.reaction w world).2.tree []
      ∧ Writer.Changes world.tree (w.artifactOf world.cwd e) (e.reaction w world).2.tree := by
  obtain ⟨kind, path, fault⟩ := e
  cases kind with
  | ready => exact ⟨rfl, hr, .refl _ _⟩
  | error => exact ⟨rfl, hr, .refl _ _⟩
  | unlink =>
      cases path with
      | none => exact ⟨rfl, hr, .refl _ _⟩
      | some p => exact Writer.changes_remove hw hr p.text
  | _ =>
      cases path with
      | none => exact ⟨rfl, hr, .refl _ _⟩
      | some p => exact Writer.changes_write hw hr p.text

/-- **An event comes to the same** in another tree that is alike for its declaration. -/
theorem reaction_parallel (hw : w.Placed) (hcwd : world'.cwd = world.cwd)
    (hr : Rooted world.tree []) (hr' : Rooted world'.tree []) {e : Event}
    (hsteady : ∀ q, Steady world.tree w.outDir.parts q →
      world'.tree.entry? q = world.tree.entry? q)
    (halike : ∀ a, w.artifactOf world.cwd e = some a → Alike world.tree world'.tree a.parts)
    (h : w.Undisturbed world e) :
    (e.reaction w world').1 = (e.reaction w world).1
      ∧ Transfers world.tree (e.reaction w world).2.tree
        world'.tree (e.reaction w world').2.tree := by
  obtain ⟨kind, path, fault⟩ := e
  have hplace {p a : Path} (hpath : path = some p)
      (ha : w.artifact world.cwd p.text = .ok a) :
      w.artifactOf world.cwd ⟨kind, path, fault⟩ = some a := by
    rw [Writer.artifactOf, hpath]
    show (w.artifact world.cwd p.text).toOption = some a
    rw [ha]
    rfl
  have hwrite {p : Path} (hpath : path = some p) (hkind : kind = .add ∨ kind = .change) :=
    Writer.write_parallel hw hr hr' (s := p.text)
      (Writer.compose_congr hcwd fun r hrel => read_of_walk hcwd fun q hq =>
        hsteady q (h.source hkind p r hpath hrel q hq))
      fun a ha => halike a (hplace hpath ha)
  cases kind with
  | ready => exact ⟨rfl, .refl _ _⟩
  | error => exact ⟨rfl, .refl _ _⟩
  | unlink =>
      cases path with
      | none => exact ⟨rfl, .refl _ _⟩
      | some p =>
          obtain ⟨hresult, htransfers⟩ := Writer.remove_parallel hw hcwd hr (s := p.text)
            fun a ha => ⟨halike a (hplace rfl ha), h.removal rfl a (hplace rfl ha)⟩
          exact ⟨congrArg (Event.removed _) hresult, htransfers⟩
  | add =>
      cases path with
      | none => exact ⟨rfl, .refl _ _⟩
      | some p =>
          obtain ⟨hresult, htransfers⟩ := hwrite rfl (Or.inl rfl)
          exact ⟨congrArg (Event.wrote _) hresult, htransfers⟩
  | change =>
      cases path with
      | none => exact ⟨rfl, .refl _ _⟩
      | some p =>
          obtain ⟨hresult, htransfers⟩ := hwrite rfl (Or.inr rfl)
          exact ⟨congrArg (Event.wrote _) hresult, htransfers⟩

/-! ## All events -/

/-- Handles events one after the other: their outcomes, the counts and the world in the end. -/
def dispatchAll (sink : Sink) :
    List Event → Counts → World → List (Except Breakdown Outcome) × Counts × World
  | [], n, world => ([], n, world)
  | e :: es, n, world =>
      let h := dispatch sink e n world
      let (outcomes, total, last) := dispatchAll sink es h.counts h.world
      (h.outcome :: outcomes, total, last)

/-- The declarations of two events lie in different places, and none of them on the way to the
    other. -/
def Writer.Apart (w : Writer) (cwd : Path) (e e' : Event) : Prop :=
  ∀ a a', w.artifactOf cwd e = some a → w.artifactOf cwd e' = some a' →
    ¬ a.parts <+: a'.parts ∧ ¬ a'.parts <+: a.parts

theorem Writer.Apart.symm {cwd : Path} {e e' : Event} (h : w.Apart cwd e e') : w.Apart cwd e' e :=
  fun a a' ha ha' => (h a' a ha' ha).symm

/-- The tree that an event leaves where it alone is handled. -/
def Writer.alone (w : Writer) (world : World) (e : Event) : FileTree := (e.reaction w world).2.tree

/-- **The tree after some events** has what each of them changed alone, and is as it was where none
    of them changed it. -/
structure Merged (w : Writer) (world : World) (done : List Event) (world' : World) : Prop where
  cwd : world'.cwd = world.cwd
  rooted : Rooted world'.tree []
  changed : ∀ e ∈ done, ∀ q, FileTree.entry? (w.alone world e) q ≠ world.tree.entry? q →
    world'.tree.entry? q = FileTree.entry? (w.alone world e) q
  kept : ∀ q, (∀ e ∈ done, FileTree.entry? (w.alone world e) q = world.tree.entry? q) →
    world'.tree.entry? q = world.tree.entry? q

variable {done es es' : List Event} {e e' : Event}

theorem artifactOf_below (hw : w.Placed) {cwd a : Path} (h : w.artifactOf cwd e = some a) :
    Below w.outDir.parts a.parts := by
  obtain ⟨p, _, ha⟩ := Option.bind_eq_some_iff.mp h
  exact (Writer.artifact_below hw (ok_of_toOption ha)).1

/-- Two events that change one place make a directory of it. -/
theorem alone_eq (hw : w.Placed) (hr : Rooted world.tree []) (hapart : w.Apart world.cwd e e')
    {q : List String} (hq : FileTree.entry? (w.alone world e) q ≠ world.tree.entry? q)
    (hq' : FileTree.entry? (w.alone world e') q ≠ world.tree.entry? q) :
    FileTree.entry? (w.alone world e') q = FileTree.entry? (w.alone world e) q := by
  rcases (changes_reaction hw hr e).2.2 q with heq | ⟨a, ha, hat⟩
  · exact absurd heq hq
  · rcases (changes_reaction hw hr e').2.2 q with heq | ⟨a', ha', hat'⟩
    · exact absurd heq hq'
    · obtain ⟨hnot, hnot'⟩ := hapart a a' ha ha'
      rcases hat with rfl | ⟨hpre, _, hd⟩ <;> rcases hat' with heq | ⟨hpre', _, hd'⟩
      · exact absurd (heq ▸ List.prefix_refl _) hnot
      · exact absurd hpre' hnot
      · exact absurd (heq ▸ hpre) hnot'
      · exact hd'.trans hd.symm

/-- The tree is alike for the declaration of another event. -/
theorem Merged.alike (hw : w.Placed) (hr : Rooted world.tree []) (h : Merged w world done world')
    (hapart : ∀ e' ∈ done, w.Apart world.cwd e' e) {a : Path}
    (ha : w.artifactOf world.cwd e = some a) : Alike world.tree world'.tree a.parts := by
  constructor
  · refine h.kept _ fun e' he' => ?_
    rcases (changes_reaction hw hr e').2.2 a.parts with heq | ⟨a', ha', hat⟩
    · exact heq
    · refine absurd ?_ (hapart e' he' a' a ha' ha).2
      rcases hat with heq | ⟨hpre, _⟩
      · exact heq ▸ List.prefix_refl _
      · exact hpre
  · intro q hq
    by_cases hsame : ∀ e' ∈ done, FileTree.entry? (w.alone world e') q = world.tree.entry? q
    · exact Or.inl (h.kept q hsame)
    · obtain ⟨e', hchanged⟩ := not_forall.mp hsame
      obtain ⟨he', hne⟩ := Classical.not_imp.mp hchanged
      rcases (changes_reaction hw hr e').2.2 q with heq | ⟨a', ha', rfl | ⟨_, hnone, hd⟩⟩
      · exact absurd heq hne
      · exact absurd hq (hapart e' he' a' a ha' ha).1
      · exact Or.inr ⟨hnone, (h.changed e' he' q hne).trans hd⟩

/-- What is steady is as it was. -/
theorem Merged.steady (hw : w.Placed) (hr : Rooted world.tree []) (h : Merged w world done world')
    {q : List String} (hq : Steady world.tree w.outDir.parts q) :
    world'.tree.entry? q = world.tree.entry? q := by
  refine h.kept q fun e' he' => ?_
  rcases (changes_reaction hw hr e').2.2 q with heq | ⟨a', ha', hat⟩
  · exact heq
  · have hbelow := artifactOf_below hw ha'
    rcases hat with rfl | ⟨hpre, hnone, _⟩
    · exact absurd hbelow hq.1
    · rcases prefix_or_below hbelow.1 hpre with hup | hdown
      · exact absurd hnone (hq.2 hup)
      · exact absurd hdown hq.1

/-- **One more event**: it has its outcome and counts what it counts alone. -/
theorem Merged.step (hw : w.Placed) (hr : Rooted world.tree []) (h : Merged w world done world')
    (hapart : ∀ e' ∈ done, w.Apart world.cwd e' e) (hfree : w.Undisturbed world e) (n : Counts) :
    let x := dispatch w.sink e n world'
    Merged w world (done ++ [e]) x.world ∧ x.outcome = (e.reaction w world).1.1
      ∧ x.counts = n.plus (e.reaction w world).1.2 := by
  obtain ⟨houtcome, hcounts, htree, hcwd⟩ := handles_dispatch w e n world'
  obtain ⟨hreaction, htransfers⟩ := reaction_parallel hw h.cwd hr h.rooted
    (fun q hq => h.steady hw hr hq) (fun a ha => h.alike hw hr hapart ha) hfree
  obtain ⟨hcwd', hrooted, _⟩ := changes_reaction hw h.rooted e
  rw [hreaction] at houtcome hcounts
  refine ⟨⟨hcwd.trans (hcwd'.trans h.cwd), htree ▸ hrooted, fun e' he' q hq => ?_, fun q hq => ?_⟩,
    houtcome, hcounts⟩
  · rw [htree]
    by_cases hsame : FileTree.entry? (w.alone world e) q = world.tree.entry? q
    · rcases List.mem_append.mp he' with he' | he'
      · exact (htransfers.kept q hsame).trans (h.changed e' he' q hq)
      · exact absurd (List.mem_singleton.mp he' ▸ hsame) hq
    · refine (htransfers.changed q hsame).trans ?_
      rcases List.mem_append.mp he' with he' | he'
      · exact alone_eq hw hr (hapart e' he') hq hsame
      · rw [List.mem_singleton.mp he']
        rfl
  · rw [htree]
    refine (htransfers.kept q (hq e (List.mem_append_right _ List.mem_cons_self))).trans ?_
    exact h.kept q fun e' he' => hq e' (List.mem_append_left _ he')

/-- **A run**: every event has its outcome, and what was counted adds up. -/
theorem dispatchAll_merged (hw : w.Placed) (hr : Rooted world.tree [])
    (h : Merged w world done world') (hapart : (done ++ es).Pairwise (w.Apart world.cwd))
    (hfree : ∀ e ∈ es, w.Undisturbed world e) (n : Counts) :
    let r := dispatchAll w.sink es n world'
    r.1 = es.map (fun e => (e.reaction w world).1.1)
      ∧ r.2.1 = (es.map fun e => (e.reaction w world).1.2).foldl Counts.plus n
      ∧ Merged w world (done ++ es) r.2.2 := by
  -- event by event; the invariant is that the tree has what each event changed alone
  induction es generalizing done world' n with
  | nil => exact ⟨rfl, rfl, (List.append_nil done).symm ▸ h⟩
  | cons e es ih =>
      have hbefore : ∀ e' ∈ done, w.Apart world.cwd e' e := fun e' he' =>
        (List.pairwise_append.mp hapart).2.2 e' he' e List.mem_cons_self
      obtain ⟨hmerged, houtcome, hcounts⟩ := h.step hw hr hbefore (hfree e List.mem_cons_self) n
      rw [List.append_cons] at hapart ⊢
      obtain ⟨houtcomes, htotal, hend⟩ := ih hmerged hapart
        (fun e' he' => hfree e' (List.mem_cons_of_mem _ he')) (dispatch w.sink e n world').counts
      refine ⟨?_, ?_, hend⟩
      · exact congrArg₂ List.cons houtcome houtcomes
      · rw [List.map_cons, List.foldl_cons, ← hcounts]
        exact htotal

/-- **Events that do not touch each other can be handled in any order.**  In a tree where everything
    lies in a directory, let the declarations of some events lie in different places, none of them
    on the way to another one, and let nothing disturb the events that the others change.  Then in
    every order each event has the outcome that it has alone, the counts are the same in the end,
    and so is what every place holds. -/
theorem dispatchAll_perm (hw : w.Placed) (hr : Rooted world.tree []) (hperm : es'.Perm es)
    (hapart : es.Pairwise (w.Apart world.cwd)) (hfree : ∀ e ∈ es, w.Undisturbed world e)
    (n : Counts) :
    let r := dispatchAll w.sink es n world
    let r' := dispatchAll w.sink es' n world
    (∀ place, r'.2.2.tree.entry? place = r.2.2.tree.entry? place) ∧ r'.2.1 = r.2.1
      ∧ r.1 = es.map (fun e => (dispatch w.sink e n world).outcome)
      ∧ r'.1 = es'.map fun e => (dispatch w.sink e n world).outcome := by
  have hstart : Merged w world [] world :=
    ⟨rfl, hr, fun _ he => absurd he List.not_mem_nil, fun _ _ => rfl⟩
  have hapart' : es'.Pairwise (w.Apart world.cwd) :=
    hperm.symm.pairwise hapart fun {_ _} h => h.symm
  obtain ⟨houtcomes, hcounts, hmerged⟩ := dispatchAll_merged hw hr hstart hapart hfree n
  obtain ⟨houtcomes', hcounts', hmerged'⟩ := dispatchAll_merged hw hr hstart hapart'
    (fun e he => hfree e (hperm.mem_iff.mp he)) n
  have hmap (l : List Event) : l.map (fun e => (e.reaction w world).1.1)
      = l.map fun e => (dispatch w.sink e n world).outcome :=
    List.map_congr_left fun e _ => (handles_dispatch w e n world).outcome.symm
  refine ⟨fun q => ?_, ?_, houtcomes.trans (hmap es), houtcomes'.trans (hmap es')⟩
  · by_cases hsame : ∀ e ∈ es, FileTree.entry? (w.alone world e) q = world.tree.entry? q
    · exact (hmerged'.kept q fun e he => hsame e (hperm.mem_iff.mp he)).trans
        (hmerged.kept q hsame).symm
    · obtain ⟨e, hchanged⟩ := not_forall.mp hsame
      obtain ⟨he, hne⟩ := Classical.not_imp.mp hchanged
      exact (hmerged'.changed e (hperm.mem_iff.mpr he) q hne).trans
        (hmerged.changed e he q hne).symm
  · rw [hcounts, hcounts']
    exact (hperm.map _).foldl_eq n

/-! ## Two events -/

/-- In a sound tree everything lies in a directory. -/
theorem FileTree.Sound.rooted {t : FileTree} (h : t.Sound) : Rooted t [] := by
  refine ⟨fun q hq => List.prefix_nil.mp hq ▸ entry?_nil t, fun q hq hthere => ?_⟩
  obtain ⟨e, he⟩ := Option.ne_none_iff_exists'.mp hthere
  exact h.opened _ ((entry?_eq_some_iff h hq.2).mp he) _ (List.prefix_refl _)

instance (top place : List String) : Decidable (Below top place) :=
  inferInstanceAs (Decidable (_ ∧ _))

instance (t : FileTree) (top place : List String) : Decidable (Steady t top place) :=
  inferInstanceAs (Decidable (¬ _ ∧ (_ → _)))

/-- The writer of a small project. -/
def pairWriter : Writer where
  schema := Writer.smallSchema
  scalars := []
  base := ⟨.root, ["b"]⟩
  outDir := ⟨.root, ["b", ".gql", "types"]⟩
  schemaFile := ⟨.root, ["b", ".gql", "schema.d.ts"]⟩
  registry := []

/-- The project, with a directory for the declarations. -/
def pairWorld : World :=
  let small := smallWorld "query Q\x7ba\x7d"
  { small with
    tree := (small.tree.put ["b", ".gql"] .directory).put ["b", ".gql", "types"] .directory }

/-- Its query file comes. -/
def pairCame : Event := Event.add smallFile

/-- Another query file goes. -/
def pairWent : Event := ⟨.unlink, some ⟨.root, ["b", "src", "r.gql"]⟩, none⟩

theorem pair_facts :
    pairWriter.artifactOf pairWorld.cwd pairCame
        = some ⟨.root, ["b", ".gql", "types", "src", "q.d.gql.ts"]⟩
      ∧ pairWriter.artifactOf pairWorld.cwd pairWent
        = some ⟨.root, ["b", ".gql", "types", "src", "r.d.gql.ts"]⟩
      ∧ pairWriter.relativeSource pairWorld.cwd smallFile.text = .ok ⟨.here, ["src", "q.gql"]⟩ := by
  decide +kernel

/-- The two events can be handled in both orders. -/
theorem dispatchAll_perm_pair :
    pairWriter.Placed ∧ Rooted pairWorld.tree []
      ∧ [pairCame, pairWent].Pairwise (pairWriter.Apart pairWorld.cwd)
      ∧ (∀ e ∈ [pairCame, pairWent], pairWriter.Undisturbed pairWorld e)
      ∧ (∀ place,
        FileTree.entry? (dispatchAll pairWriter.sink [pairWent, pairCame] .zero pairWorld).2.2.tree
            place
          = FileTree.entry?
            (dispatchAll pairWriter.sink [pairCame, pairWent] .zero pairWorld).2.2.tree place)
      ∧ (dispatchAll pairWriter.sink [pairWent, pairCame] .zero pairWorld).2.1 = ⟨1, 0, 0⟩ := by
  obtain ⟨hcame, hwent, hsource⟩ := pair_facts
  have hplaced : pairWriter.Placed := ⟨⟨rfl, by decide, by decide⟩, ⟨rfl, by decide, by decide⟩⟩
  have hsound : pairWorld.tree.Sound := ⟨by decide, by decide, by decide⟩
  have hapart : [pairCame, pairWent].Pairwise (pairWriter.Apart pairWorld.cwd) := by
    refine List.pairwise_pair.mpr fun a a' ha ha' => ?_
    rw [← Option.some.inj (hcame.symm.trans ha), ← Option.some.inj (hwent.symm.trans ha')]
    decide
  have hfree : ∀ e ∈ [pairCame, pairWent], pairWriter.Undisturbed pairWorld e := by
    refine List.forall_mem_cons.mpr ⟨⟨fun _ p r hp hr => ?_, fun hkind => by cases hkind⟩,
      List.forall_mem_singleton.mpr ⟨fun hkind => ?_, fun _ a ha => Or.inl ?_⟩⟩
    · obtain rfl := Option.some.inj hp
      obtain rfl := Except.ok.inj (hsource.symm.trans hr)
      decide +kernel
    · rcases hkind with hkind | hkind <;> cases hkind
    · obtain rfl := Option.some.inj (hwent.symm.trans ha)
      show ∀ n ∈ ["b", ".gql", "types", "src", "r.d.gql.ts"], isTooLong n = false
      decide +kernel
  obtain ⟨htree, hcounts, _⟩ := dispatchAll_perm hplaced hsound.rooted
    (List.Perm.swap pairCame pairWent []) hapart hfree .zero
  exact ⟨hplaced, hsound.rooted, hapart, hfree, htree, hcounts.trans (by decide +kernel)⟩

end QueryTypings
