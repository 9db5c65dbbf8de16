/-
  What handling one event does.

  1. **Handing over** — the counts and the tree after an event are those of the dispatcher; a
     breakdown adds a report and nothing else (`handOver_eq`).

  2. **Effect** — an event about a query file lets its declaration be written, lets it be removed, or
     leaves all files as they are; events about no file leave them too (`dispatch_effect`).

  3. **Counts** — of the events that come to nothing, a breakdown is the one that is not counted as a
     failure (`dispatch_add_effect`).
-/
import QueryTypings.Proofs.Project.Start

namespace QueryTypings

open QueryTypings.Text QueryTypings.FileTree QueryTypings.Watch

variable {w : Writer} {world : World} {n : Counts}

/-! ## Handing over -/

/-- The counts, the tree and the working directory are those that the dispatcher leaves. -/
theorem handOver_eq (w : Writer) (n : Counts) (world : World) (e : Event) :
    ∃ world', Watcher.handOver w.sink.handler (n, world) e
        = ((dispatch w.sink e n world).counts, world')
      ∧ world'.tree = (dispatch w.sink e n world).world.tree
      ∧ world'.cwd = (dispatch w.sink e n world).world.cwd := by
  simp only [Watcher.handOver, Sink.handler]
  cases (dispatch w.sink e n world).outcome with
  | ok o => exact ⟨_, rfl, rfl, rfl⟩
  | error b => exact ⟨_, rfl, rfl, rfl⟩

/-! ## Effect -/

/-- What an event comes to, by its outcome and the tree afterwards. -/
inductive Effect (w : Writer) (world : World) (e : Event) :
    Except Breakdown Outcome → FileTree → Prop
  | written {p a : Path} {text : String} {o : Outcome} {t : FileTree}
      (kind : e.kind = .add ∨ e.kind = .change) (path : e.path = some p) (good : o.isGood = true)
      (composed : w.compose world p.text = .ok (a, text))
      (there : t.octets? a.parts = some (encodeUtf8 text.toList))
      (others : ∀ q, q ≠ a.parts → t.octets? q = world.tree.octets? q) : Effect w world e (.ok o) t
  | gone {p a : Path} {o : Outcome} {t : FileTree}
      (kind : e.kind = .unlink) (path : e.path = some p) (good : o.isGood = true)
      (place : w.artifact world.cwd p.text = .ok a) (missing : t.octets? a.parts = none)
      (others : ∀ q, q ≠ a.parts → t.octets? q = world.tree.octets? q) : Effect w world e (.ok o) t
  | nothing {r : Except Breakdown Outcome} {t : FileTree}
      (same : ∀ q, t.octets? q = world.tree.octets? q)
      (bad : e.kind = .ready ∨ e.kind = .error ∨ ∀ o, r = .ok o → o.isGood = false) :
      Effect w world e r t

/-- A query file came or changed. -/
theorem onWrite_effect (hw : w.Placed) (hr : Rooted world.tree w.outDir.parts) {e : Event} {p : Path}
    (hkind : e.kind = .add ∨ e.kind = .change) (hpath : e.path = some p) :
    let h := Dispatch.onWrite w.sink e p n world
    h.world.cwd = world.cwd ∧ w.Kept world.tree h.world.tree
      ∧ Effect w world e h.outcome h.world.tree := by
  simp only [Dispatch.onWrite]
  split
  · rename_i a after hwrite
    obtain ⟨hcwd, hkept, heffect⟩ := Writer.write_effect hw hr hwrite
    cases heffect with
    | written hcomposed hput =>
        have hne := (Writer.compose_below hw hcomposed).1.ne_nil
        exact ⟨hcwd, hkept,
          .written hkind hpath rfl hcomposed (hput.there hne) fun q hq => hput.others hq⟩
  · rename_i f after hwrite
    obtain ⟨hcwd, hkept, heffect⟩ := Writer.write_effect hw hr hwrite
    cases heffect with
    | failed hgrown _ =>
        refine ⟨hcwd, hkept, .nothing hgrown.octets? (Or.inr (Or.inr fun o ho => ?_))⟩
        obtain rfl := Except.ok.inj ho
        rfl
  · rename_i b after hwrite
    obtain ⟨hcwd, hkept, heffect⟩ := Writer.write_effect hw hr hwrite
    cases heffect with
    | failed hgrown _ =>
        exact ⟨hcwd, hkept, .nothing hgrown.octets? (Or.inr (Or.inr fun o ho => (by cases ho)))⟩

/-- A query file went. -/
theorem onUnlink_effect (hw : w.Placed) (hr : Rooted world.tree w.outDir.parts) {e : Event}
    {p : Path} (hkind : e.kind = .unlink) (hpath : e.path = some p) :
    let h := Dispatch.onUnlink w.sink e p n world
    h.world.cwd = world.cwd ∧ w.Kept world.tree h.world.tree
      ∧ Effect w world e h.outcome h.world.tree := by
  simp only [Dispatch.onUnlink]
  split
  · rename_i there after hremove
    obtain ⟨hcwd, hkept, heffect⟩ := Writer.remove_effect hw hr hremove
    cases heffect with
    | gone hplace _ hmissing hothers =>
        exact ⟨hcwd, hkept, .gone hkind hpath rfl hplace hmissing hothers⟩
  · rename_i f after hremove
    obtain ⟨hcwd, hkept, heffect⟩ := Writer.remove_effect hw hr hremove
    cases heffect with
    | failed hsame =>
        refine ⟨hcwd, hkept, .nothing hsame (Or.inr (Or.inr fun o ho => ?_))⟩
        obtain rfl := Except.ok.inj ho
        rfl
  · rename_i b after hremove
    obtain ⟨hcwd, hkept, heffect⟩ := Writer.remove_effect hw hr hremove
    cases heffect with
    | failed hsame =>
        exact ⟨hcwd, hkept, .nothing hsame (Or.inr (Or.inr fun o ho => (by cases ho)))⟩

/-- **Handling one event**, whatever its path is. -/
theorem dispatch_effect (hw : w.Placed) (hr : Rooted world.tree w.outDir.parts) (n : Counts)
    (e : Event) :
    let h := dispatch w.sink e n world
    h.world.cwd = world.cwd ∧ w.Kept world.tree h.world.tree
      ∧ Effect w world e h.outcome h.world.tree := by
  obtain ⟨kind, path, fault⟩ := e
  cases kind with
  | ready => exact ⟨rfl, Writer.Kept.refl hr, .nothing (fun _ => rfl) (Or.inl rfl)⟩
  | error => exact ⟨rfl, Writer.Kept.refl hr, .nothing (fun _ => rfl) (Or.inr (Or.inl rfl))⟩
  | add =>
      cases path with
      | none =>
          exact ⟨rfl, Writer.Kept.refl hr,
            .nothing (fun _ => rfl) (Or.inr (Or.inr fun o ho => (by cases ho)))⟩
      | some p => exact onWrite_effect hw hr (Or.inl rfl) rfl
  | change =>
      cases path with
      | none =>
          exact ⟨rfl, Writer.Kept.refl hr,
            .nothing (fun _ => rfl) (Or.inr (Or.inr fun o ho => (by cases ho)))⟩
      | some p => exact onWrite_effect hw hr (Or.inr rfl) rfl
  | unlink =>
      cases path with
      | none =>
          exact ⟨rfl, Writer.Kept.refl hr,
            .nothing (fun _ => rfl) (Or.inr (Or.inr fun o ho => (by cases ho)))⟩
      | some p => exact onUnlink_effect hw hr rfl rfl

/-! ## Counts -/

/-- **An event for a query file that is there** is counted as a failure, or the declaration is
    written, or it breaks down before anything is written. -/
theorem dispatch_add_effect (hw : w.Placed) (hr : Rooted world.tree w.outDir.parts) (n : Counts)
    {p : Path} :
    let h := dispatch w.sink (Event.add p) n world
    n.failed ≤ h.counts.failed ∧ (h.counts.failed = n.failed →
      (∃ a text, w.compose world p.text = .ok (a, text)
        ∧ h.world.tree.octets? a.parts = some (encodeUtf8 text.toList)
        ∧ ∀ q, q ≠ a.parts → h.world.tree.octets? q = world.tree.octets? q)
      ∨ ((∃ b, w.compose world p.text = .error (.broken b))
        ∧ ∀ q, h.world.tree.octets? q = world.tree.octets? q)) := by
  have hadd : dispatch w.sink (Event.add p) n world
      = Dispatch.onWrite w.sink (Event.add p) p n world := rfl
  simp only [hadd, Dispatch.onWrite]
  split
  · rename_i a after hwrite
    cases (Writer.write_effect hw hr hwrite).2.2 with
    | written hcomposed hput =>
        have hne := (Writer.compose_below hw hcomposed).1.ne_nil
        exact ⟨Nat.le_refl _,
          fun _ => Or.inl ⟨a, _, hcomposed, hput.there hne, fun q hq => hput.others hq⟩⟩
  · show n.failed ≤ n.failed + 1 ∧ (n.failed + 1 = n.failed → _)
    exact ⟨Nat.le_succ _, fun h => absurd h (Nat.succ_ne_self _)⟩
  · rename_i b after hwrite
    cases (Writer.write_effect hw hr hwrite).2.2 with
    | failed hgrown hbroken =>
        exact ⟨Nat.le_refl _, fun _ => Or.inr
          ⟨⟨b, (hbroken b rfl).resolve_left (fun h => (by cases h))⟩, hgrown.octets?⟩⟩

end QueryTypings
