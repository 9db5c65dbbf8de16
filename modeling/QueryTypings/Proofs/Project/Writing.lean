/-
  What a writer does to the tree.

  1. **Sources** — an absolute source denotes a place.  If the place lies in the base directory, the
     way down from there is what the writer works with, and two sources with one declaration denote
     one place (`artifact_injective`).

  2. **Texts** — what there is to be written (`compose_eq_ok`), and how it reads
     (`declarationText_eq`).  It depends on the query file alone, so a change elsewhere does not
     change it (`compose_congr`).

  3. **Changes** — writing and removing change the tree below the output directory only, keep that
     directory sound, and touch no file but the declaration they are about, whatever goes wrong
     (`writing_effect`, `remove_effect`).
-/
import QueryTypings.Proofs.FileTree.Subtree
import QueryTypings.Proofs.Path.Artifact
import QueryTypings.Proofs.Result

namespace QueryTypings

open QueryTypings.Text QueryTypings.FileTree

namespace Path

/-- A directory from which paths can be taken. -/
structure IsStart (cwd : Path) : Prop where
  isAbsolute : cwd.isAbsolute = true
  written : cwd.IsWritten

/-- The text of an absolute path is read as an absolute one. -/
theorem isAbsolute_ofText_text {p : Path} (h : p.isAbsolute = true) :
    (ofText p.text).isAbsolute = true := by
  obtain ⟨origin, parts⟩ := p
  have hread : ∀ cs : List Char, (ofChars ('/' :: cs)).isAbsolute = true := fun cs => by
    show (Origin.ofChars ('/' :: cs) != .here) = true
    cases horigin : Origin.ofChars ('/' :: cs) with
    | here =>
        unfold Origin.ofChars at horigin
        split at horigin <;> simp_all
    | root => rfl
    | doubleRoot => rfl
  cases origin with
  | here => cases h
  | root =>
      have htext : (text ⟨.root, parts⟩).toList = '/' :: (joinWith "/" parts).toList := by
        show ("/" ++ joinWith "/" parts).toList = _
        rw [String.toList_append]
        rfl
      rw [ofText, htext]
      exact hread _
  | doubleRoot =>
      have htext : (text ⟨.doubleRoot, parts⟩).toList = '/' :: '/' :: (joinWith "/" parts).toList := by
        show ("//" ++ joinWith "/" parts).toList = _
        rw [String.toList_append]
        rfl
      rw [ofText, htext]
      exact hread _

/-- What holds a place, and its name. -/
theorem parent_append_name {p : Path} (h : p.parts ≠ []) : p.parent.parts ++ [p.name] = p.parts := by
  rw [parent, name]
  show p.parts.dropLast ++ [p.parts.getLastD ""] = p.parts
  rw [List.getLastD_eq_getLast?, List.getLast?_eq_some_getLast h]
  exact List.dropLast_append_getLast h

/-- The place that a text denotes. -/
def placeOf (cwd : Path) (source : String) : Path := resolved cwd (ofText source)

theorem isPlace_placeOf {cwd : Path} (hc : cwd.IsStart) (source : String) :
    (placeOf cwd source).IsPlace :=
  isPlace_resolved hc.isAbsolute hc.written (isWritten_ofText source)

theorem placeOf_text {cwd p : Path} (h : p.IsPlace) : placeOf cwd p.text = p := by
  rw [placeOf, ofText_text h.written, resolved_of_isPlace h]

/-- The place has no part that is not in the text. -/
theorem mem_placeOf {cwd : Path} {source : String} (h : (ofText source).isAbsolute = true) :
    ∀ n ∈ (placeOf cwd source).parts, n ∈ (ofText source).parts := by
  have hparts : (placeOf cwd source).parts = (ofText source).normalized.parts := by
    rw [placeOf, resolved, absolute, join, if_pos h]
  rw [hparts]
  exact (mem_normalized h).2

end Path

namespace Writer

/-! ## Sources -/

/-- Base and output directory are places. -/
structure Placed (w : Writer) : Prop where
  base : w.base.IsPlace
  outDir : w.outDir.IsPlace

variable {w : Writer} {cwd : Path}

/-- **The way down from the base directory** to the place that a source denotes. -/
theorem relativeSource_ok (hw : w.Placed) (hc : cwd.IsStart) {s : String} {r : Path}
    (hs : (Path.ofText s).isAbsolute = true) (h : w.relativeSource cwd s = .ok r) :
    r = ⟨.here, r.parts⟩ ∧ Path.placeOf cwd s = ⟨.root, w.base.parts ++ r.parts⟩
      ∧ (Path.ofText s).hasNul = false := by
  simp only [relativeSource, hs] at h
  split at h
  · rename_i hnot
    simp at hnot
  · split at h
    · cases h
    · rename_i hnul
      split at h
      · rename_i parts hinside
        obtain rfl := Except.ok.inj h
        have hplace := Path.isPlace_placeOf hc s
        refine ⟨rfl, ?_, by simpa using hnul⟩
        rw [hplace.eq]
        exact congrArg _ ((Path.inside?_eq_some_iff hw.base hplace).mp hinside)
      · cases h

/-- No part of the way is two dots, and all of them are names. -/
theorem relativeSource_parts (hw : w.Placed) (hc : cwd.IsStart) {s : String} {r : Path}
    (hs : (Path.ofText s).isAbsolute = true) (h : w.relativeSource cwd s = .ok r) :
    ".." ∉ r.parts ∧ r.IsWritten := by
  have heq := (relativeSource_ok hw hc hs h).2.1
  have hplace := Path.isPlace_placeOf hc s
  rw [heq] at hplace
  exact ⟨fun hm => hplace.noDots (List.mem_append_right _ hm),
    fun n hn => hplace.written n (List.mem_append_right _ hn)⟩

/-- What the writer works with is a relative path, whatever the source is. -/
theorem relativeSource_isAbsolute {s : String} {r : Path} (h : w.relativeSource cwd s = .ok r) :
    r.isAbsolute = false := by
  simp only [relativeSource] at h
  split at h
  · rename_i hrelative
    obtain rfl := Except.ok.inj h
    simpa using hrelative
  · split at h
    · cases h
    · split at h
      · obtain rfl := Except.ok.inj h
        rfl
      · cases h

/-- Its text is read as this path again. -/
theorem ofText_relativeSource (hw : w.Placed) (hc : cwd.IsStart) {s : String} {r : Path}
    (h : w.relativeSource cwd s = .ok r) : Path.ofText r.text = r := by
  refine Path.ofText_text ?_
  cases hs : (Path.ofText s).isAbsolute with
  | true => exact (relativeSource_parts hw hc hs h).2
  | false =>
      simp only [relativeSource, hs] at h
      obtain rfl := Except.ok.inj h
      exact Path.isWritten_ofText s

/-- A source and the text of the place that it denotes come to the same. -/
theorem relativeSource_placeOf (hw : w.Placed) (hc : cwd.IsStart) {s : String} {r : Path}
    (hs : (Path.ofText s).isAbsolute = true) (h : w.relativeSource cwd s = .ok r) :
    w.relativeSource cwd (Path.placeOf cwd s).text = .ok r := by
  obtain ⟨hr, heq, hnul⟩ := relativeSource_ok hw hc hs h
  have hplace := Path.isPlace_placeOf hc s
  have hinside : w.base.inside? (Path.placeOf cwd s) = some r.parts := by
    rw [Path.inside?_eq_some_iff hw.base hplace, heq]
  have hclean : (Path.placeOf cwd s).hasNul = false := by
    rw [Path.hasNul, List.any_eq_false] at hnul ⊢
    exact fun n hn => hnul n (Path.mem_placeOf hs n hn)
  simp only [relativeSource, Path.ofText_text hplace.written, hplace.isAbsolute, hclean,
    Path.resolved_of_isPlace hplace, hinside, Bool.not_true, Bool.false_eq_true, if_false]
  exact congrArg Except.ok hr.symm

/-- From the base directory the way down leads back to the place. -/
theorem base_join (hw : w.Placed) (hc : cwd.IsStart) {p r : Path} (hp : p.IsPlace)
    (hr : w.relativeSource cwd p.text = .ok r) : w.base.join r = p := by
  obtain ⟨hrel, hplace, _⟩ :=
    relativeSource_ok hw hc (Path.isAbsolute_ofText_text hp.isAbsolute) hr
  rw [hrel, ← @Path.placeOf_text cwd p hp, hplace]
  conv_lhs => rw [hw.base.eq]
  rfl

theorem artifact_eq_ok {s : String} {a : Path} :
    w.artifact cwd s = .ok a ↔ ∃ r, w.relativeSource cwd s = .ok r
      ∧ Path.artifact cwd r.text w.outDir.text = .ok a :=
  bind_eq_ok

/-- A source and the text of the place that it denotes have one declaration. -/
theorem artifact_placeOf (hw : w.Placed) (hc : cwd.IsStart) {s : String} {a : Path}
    (hs : (Path.ofText s).isAbsolute = true) (h : w.artifact cwd s = .ok a) :
    w.artifact cwd (Path.placeOf cwd s).text = .ok a := by
  obtain ⟨r, hr, ha⟩ := artifact_eq_ok.mp h
  exact artifact_eq_ok.mpr ⟨r, relativeSource_placeOf hw hc hs hr, ha⟩

/-- **Where the declaration of a source lies.** -/
theorem artifact_parts (hw : w.Placed) (hc : cwd.IsStart) {s : String} {r a : Path}
    (hs : (Path.ofText s).isAbsolute = true) (hr : w.relativeSource cwd s = .ok r)
    (h : w.artifact cwd s = .ok a) :
    a = ⟨.root, w.outDir.parts ++ Path.artifactParts r.parts⟩
      ∧ (Path.splitName (r.parts.getLastD "")).2 ≠ "" := by
  obtain ⟨r', hr', ha⟩ := artifact_eq_ok.mp h
  obtain rfl := Except.ok.inj (hr.symm.trans hr')
  obtain ⟨hdots, hwritten⟩ := relativeSource_parts hw hc hs hr
  rw [(relativeSource_ok hw hc hs hr).1] at ha
  exact Path.artifact_eq hw.outDir hwritten hdots ha

/-- A declaration is a place below the output directory, whatever the source is. -/
theorem artifact_below (hw : w.Placed) {s : String} {a : Path} (h : w.artifact cwd s = .ok a) :
    Below w.outDir.parts a.parts ∧ ".." ∉ a.parts := by
  obtain ⟨r, _, ha⟩ := artifact_eq_ok.mp h
  obtain ⟨name, rest, hparts⟩ := Path.artifact_within hw.outDir ha
  exact ⟨hparts ▸ below_append (List.cons_ne_nil name rest), (Path.mem_artifact hw.outDir ha).1⟩

/-- Two sources with one declaration have one way down. -/
theorem relativeSource_of_artifact (hw : w.Placed) (hc : cwd.IsStart) {s s' : String} {a b : Path}
    (hs : (Path.ofText s).isAbsolute = true) (hs' : (Path.ofText s').isAbsolute = true)
    (h : w.artifact cwd s = .ok a) (h' : w.artifact cwd s' = .ok b) (hab : a.parts = b.parts) :
    w.relativeSource cwd s = w.relativeSource cwd s' := by
  obtain ⟨r, hr, _⟩ := artifact_eq_ok.mp h
  obtain ⟨r', hr', _⟩ := artifact_eq_ok.mp h'
  obtain ⟨rfl, hext⟩ := artifact_parts hw hc hs hr h
  obtain ⟨rfl, hext'⟩ := artifact_parts hw hc hs' hr' h'
  have hparts := Path.artifactParts_injective hext hext' (List.append_cancel_left hab)
  rw [hr, hr', (relativeSource_ok hw hc hs hr).1, (relativeSource_ok hw hc hs' hr').1, hparts]

/-- **No two query files share a declaration.** -/
theorem artifact_injective (hw : w.Placed) (hc : cwd.IsStart) {s s' : String} {a b : Path}
    (hs : (Path.ofText s).isAbsolute = true) (hs' : (Path.ofText s').isAbsolute = true)
    (h : w.artifact cwd s = .ok a) (h' : w.artifact cwd s' = .ok b) (hab : a.parts = b.parts) :
    Path.placeOf cwd s = Path.placeOf cwd s' := by
  obtain ⟨r, hr, _⟩ := artifact_eq_ok.mp h
  have hr' := (relativeSource_of_artifact hw hc hs hs' h h' hab).symm.trans hr
  rw [(relativeSource_ok hw hc hs hr).2.1, (relativeSource_ok hw hc hs' hr').2.1]

/-! ## Texts -/

variable {world world' : World}

/-- **What a declaration says depends on the query file alone.** -/
theorem compose_congr {s : String} (hcwd : world'.cwd = world.cwd)
    (h : ∀ r, w.relativeSource world.cwd s = .ok r →
      world'.read (w.base.join r) = world.read (w.base.join r)) :
    w.compose world' s = w.compose world s := by
  rw [compose, compose, hcwd]
  refine bind_congr_ok fun r hr => bind_congr_ok fun a _ => ?_
  have htext : sourceText world' (w.base.join r) = sourceText world (w.base.join r) := by
    rw [sourceText, sourceText, h r (mapError_eq_ok.mp hr)]
  rw [htext]

theorem compose_eq_of_relativeSource {s s' : String}
    (h : w.relativeSource world.cwd s' = w.relativeSource world.cwd s) :
    w.compose world s' = w.compose world s := by
  rw [compose, compose, h]

/-- A source and the text of the place that it denotes have one declaration, unless the source is
    refused. -/
theorem compose_placeOf (hw : w.Placed) (hc : world.cwd.IsStart) {s : String}
    (hs : (Path.ofText s).isAbsolute = true)
    (h : ∀ f, w.compose world s ≠ .error (.reported f)) :
    w.compose world (Path.placeOf world.cwd s).text = w.compose world s := by
  refine compose_eq_of_relativeSource ?_
  cases hr : w.relativeSource world.cwd s with
  | ok r => exact relativeSource_placeOf hw hc hs hr
  | error f =>
      refine absurd ?_ (h (.path f))
      rw [compose, bind_eq_error]
      refine Or.inl ?_
      rw [hr]
      rfl

/-- The text of a query file, if there is one. -/
theorem sourceText_eq_ok {file : Path} {source : String} :
    sourceText world file = .ok source ↔ file.hasNul = false
      ∧ ∃ octets, world.read file = .ok octets ∧ fileText octets = .ok source := by
  rw [sourceText]
  cases hnul : file.hasNul with
  | true => simp
  | false =>
      cases hread : world.read file with
      | error r => simp
      | ok octets => cases htext : fileText octets <;> simp [htext]

/-- **What there is to be written**, if a declaration can be written. -/
theorem compose_eq_ok {s : String} {a : Path} {text : String} :
    w.compose world s = .ok (a, text) ↔ w.artifact world.cwd s = .ok a
      ∧ ∃ r source body, w.relativeSource world.cwd s = .ok r
        ∧ sourceText world (w.base.join r) = .ok source ∧ w.statements r source = .ok body
        ∧ text = w.declarationText world.cwd a body := by
  constructor
  · intro h
    rw [compose] at h
    obtain ⟨r, hr, h⟩ := ok_of_bind_ok h
    obtain ⟨a', ha, h⟩ := ok_of_bind_ok h
    obtain ⟨source, hsource, h⟩ := ok_of_bind_ok h
    obtain ⟨body, hbody, h⟩ := ok_of_bind_ok h
    obtain ⟨rfl, rfl⟩ := Prod.mk.inj (Except.ok.inj h)
    have hr := mapError_eq_ok.mp hr
    exact ⟨artifact_eq_ok.mpr ⟨r, hr, mapError_eq_ok.mp ha⟩, r, source, body, hr, hsource, hbody,
      rfl⟩
  · rintro ⟨ha, r, source, body, hr, hsource, hbody, rfl⟩
    obtain ⟨r', hr', ha⟩ := artifact_eq_ok.mp ha
    obtain rfl := Except.ok.inj (hr.symm.trans hr')
    rw [compose]
    exact bind_eq_ok.mpr ⟨r, mapError_eq_ok.mpr hr, bind_eq_ok.mpr ⟨a, mapError_eq_ok.mpr ha,
      bind_eq_ok.mpr ⟨source, hsource, bind_eq_ok.mpr ⟨body, hbody, rfl⟩⟩⟩⟩

/-- Where a declaration goes, and what it is made from. -/
theorem compose_ok {s : String} {a : Path} {text : String}
    (h : w.compose world s = .ok (a, text)) :
    w.artifact world.cwd s = .ok a ∧ ∃ r octets, w.relativeSource world.cwd s = .ok r
      ∧ world.read (w.base.join r) = .ok octets := by
  obtain ⟨ha, r, source, body, hr, hsource, _⟩ := compose_eq_ok.mp h
  obtain ⟨_, octets, hread, _⟩ := sourceText_eq_ok.mp hsource
  exact ⟨ha, r, octets, hr, hread⟩

/-- No part of the query file that is read holds NUL, so no part of its declaration does. -/
theorem compose_clean (hw : w.Placed) (hc : world.cwd.IsStart)
    (hclean : w.base.hasNul = false → w.outDir.hasNul = false) {s : String} {a : Path} {text : String}
    (h : w.compose world s = .ok (a, text)) : a.hasNul = false := by
  obtain ⟨ha, r, source, body, hr, hsource, _⟩ := compose_eq_ok.mp h
  obtain ⟨r', hr', ha⟩ := artifact_eq_ok.mp ha
  obtain rfl := Except.ok.inj (hr.symm.trans hr')
  have hfile := (sourceText_eq_ok.mp hsource).1
  have hjoin : (w.base.join r).parts = w.base.parts ++ r.parts := by
    rw [Path.join, relativeSource_isAbsolute hr]
    rfl
  rw [Path.hasNul_eq_false_iff, hjoin] at hfile
  refine Path.hasNul_artifact hw.outDir ha (hclean ?_) ?_
  · exact Path.hasNul_eq_false_iff.mpr fun n hn => hfile n (List.mem_append_left _ hn)
  · rw [ofText_relativeSource hw hc hr]
    exact Path.hasNul_eq_false_iff.mpr fun n hn => hfile n (List.mem_append_right _ hn)

/-- The statements for a text are never missing: they begin with an import. -/
theorem statements_ne_nil {r : Path} {source : String} {body : List Typescript.Statement}
    (h : w.statements r source = .ok body) : body ≠ [] := by
  unfold statements at h
  split at h
  · cases h
  · split at h
    · cases h
    · rename_i ss hss
      obtain rfl := Except.ok.inj h
      unfold Declaration.documentStatements at hss
      obtain ⟨fragments, _, hss⟩ := ok_of_bind_ok hss
      obtain ⟨operations, _, hss⟩ := ok_of_bind_ok hss
      obtain rfl := Except.ok.inj hss
      simp

/-- **The text of a declaration**: the import of what it mentions, its statements, and the last one,
    each on lines of its own. -/
theorem declarationText_eq (w : Writer) (cwd a : Path) {body : List Typescript.Statement}
    (h : body ≠ []) :
    w.declarationText cwd a body
      = (Typescript.Statement.importTypes (w.mentioned (Declaration.statementsText body))
          ((Path.importSpecifier? cwd a.text w.schemaFile.text).getD "")).text
        ++ "\n" ++ Declaration.statementsText body ++ "\nexport\x7b\x7d;\n" := by
  have hmap : body.map Typescript.Statement.text ≠ [] := fun hnil => h (List.map_eq_nil_iff.mp hnil)
  rw [declarationText]
  simp only [Declaration.statementsText, List.map_append, List.map_cons, List.map_nil,
    List.cons_append]
  rw [joinWith_cons _ _ (by simp), joinWith_concat _ _ hmap]
  simp only [String.append_assoc]
  rfl

/-- What is to be written goes below the output directory. -/
theorem compose_below (hw : w.Placed) {s : String} {a : Path} {text : String}
    (h : w.compose world s = .ok (a, text)) : Below w.outDir.parts a.parts ∧ ".." ∉ a.parts :=
  artifact_below hw (compose_ok h).1

/-! ## Changes -/

/-- A change of the tree below the output directory, which stays sound. -/
structure Kept (w : Writer) (t t' : FileTree) : Prop where
  outside : SameOutside w.outDir.parts t t'
  rooted : Rooted t' w.outDir.parts

theorem Kept.refl {t : FileTree} (h : Rooted t w.outDir.parts) : w.Kept t t :=
  ⟨SameOutside.refl _ t, h⟩

theorem Kept.trans {t t' t'' : FileTree} (h : w.Kept t t') (h' : w.Kept t' t'') : w.Kept t t'' :=
  ⟨h.outside.trans h'.outside, h'.rooted⟩

/-- Putting octets in a file passes through a tree: directories come on the way to the file, and
    then another file beside it, or the octets. -/
def Passes (t : FileTree) (file : Path) (octets : List Nat) (u : FileTree) : Prop :=
  ∃ opened, Grown t opened file.parent.parts
    ∧ Replacing opened file.parent.parts file.name octets u

/-- Octets are put in a file: directories come on the way to it, which is open then, and the file
    comes where no directory is.  All names are short enough. -/
structure PutIn (t : FileTree) (file : Path) (octets : List Nat) (t' : FileTree) : Prop where
  way : ∃ opened, Grown t opened file.parent.parts ∧ Opened opened file.parent.parts
    ∧ opened.entry? file.parts ≠ some .directory ∧ t' = opened.put file.parts (.file octets)
  fits : Fits file.parent.parts
  room : Room file.parent.parts file.name

/-- **Putting a text in a file**, whatever troubles it: the trees that are passed through, and what
    is there in the end. -/
theorem putText_passage (trouble : Trouble) {t : FileTree} {file : Path} (text : String)
    (hne : file.parts ≠ []) (hdots : ".." ∉ file.parts) :
    let p := putText trouble t file text
    (∀ u ∈ p.last :: p.before, Passes t file (encodeUtf8 text.toList) u)
      ∧ ((p.refusal = none ∧ PutIn t file (encodeUtf8 text.toList) p.last)
        ∨ (p.refusal ≠ none ∧ Grown t p.last file.parent.parts)) := by
  have hparent : ".." ∉ file.parent.parts := fun hm => hdots (List.dropLast_subset _ hm)
  simp only [putText]
  split
  · -- a directory cannot be made
    rename_i p o hmade
    obtain ⟨hgrown, _, hstopped⟩ := openWay_opens trouble hparent hmade
    exact ⟨fun u hu => ⟨u, hgrown u hu, .asBefore⟩,
      Or.inr ⟨hstopped (Option.some_ne_none o), hgrown _ List.mem_cons_self⟩⟩
  · rename_i p hmade
    obtain ⟨hgrown, hopened, _⟩ := openWay_opens trouble hparent hmade
    obtain ⟨_, hopened, hfits⟩ := hopened rfl
    have hlast := hgrown p.last List.mem_cons_self
    generalize hq : p.last.replaceFile trouble file.parent.parts file.name
      (encodeUtf8 text.toList) = q
    obtain ⟨hthrough, hend⟩ := replaceFile_passage hq
    refine ⟨fun u hu => ?_, ?_⟩
    · rcases List.mem_append.mp (show u ∈ (q.last :: q.before) ++ p.before from hu) with hu | hu
      · exact ⟨p.last, hlast, hthrough u hu⟩
      · exact ⟨u, hgrown u (List.mem_cons_of_mem _ hu), .asBefore⟩
    · rcases hend with ⟨hnone, hput, hfile, hroom⟩ | ⟨hsome, hback⟩
      · rw [Path.parent_append_name hne] at hput hfile
        exact Or.inl ⟨hnone, ⟨p.last, hlast, hopened, hfile, hput⟩, hfits, hroom⟩
      · refine Or.inr ⟨hsome, ?_⟩
        show Grown t q.last file.parent.parts
        rw [hback]
        exact hlast

/-- Directories that come on the way to a file below the output directory. -/
theorem Kept.of_grown {t t' : FileTree} {file : Path} (hbelow : Below w.outDir.parts file.parts)
    (hr : Rooted t w.outDir.parts) (h : Grown t t' file.parent.parts) : w.Kept t t' :=
  ⟨(h.below hbelow.prefix_dropLast hr).1, (h.below hbelow.prefix_dropLast hr).2⟩

theorem PutIn.kept {t t' : FileTree} {file : Path} {octets : List Nat} (h : PutIn t file octets t')
    (hbelow : Below w.outDir.parts file.parts) (hr : Rooted t w.outDir.parts) : w.Kept t t' := by
  obtain ⟨opened, hgrown, hopened, hfile, rfl⟩ := h.way
  have hkept := Kept.of_grown hbelow hr hgrown
  obtain ⟨hout, hrooted⟩ :=
    rooted_put octets hbelow hkept.rooted (hopened _ (List.prefix_refl _)) hfile
  exact hkept.trans ⟨hout, hrooted⟩

/-- Afterwards the file holds the octets. -/
theorem PutIn.there {t t' : FileTree} {file : Path} {octets : List Nat} (h : PutIn t file octets t')
    (hne : file.parts ≠ []) : t'.octets? file.parts = some octets := by
  obtain ⟨opened, _, _, _, rfl⟩ := h.way
  rw [octets?_eq_some, entry?_put_self opened hne]

/-- All other files are as they were. -/
theorem PutIn.others {t t' : FileTree} {file : Path} {octets : List Nat}
    (h : PutIn t file octets t') {q : List String} (hq : q ≠ file.parts) :
    t'.octets? q = t.octets? q := by
  obtain ⟨opened, hgrown, _, _, rfl⟩ := h.way
  rw [octets?_congr (entry?_put_of_ne opened hq _), hgrown.octets?]

/-- What a write comes to: the declaration is there and all other files are as they were, or only
    directories came.  A breakdown is the setback, or there is nothing to be written. -/
inductive WriteEffect (setback : Setback) (w : Writer) (world : World) (s : String) :
    Except Failure Path → FileTree → Prop
  | written {a : Path} {text : String} {t : FileTree} (composed : w.compose world s = .ok (a, text))
      (put : PutIn world.tree a (encodeUtf8 text.toList) t) :
      WriteEffect setback w world s (.ok a) t
  | failed {f : Failure} {t : FileTree} {way : List String} (grown : Grown world.tree t way)
      (broken : ∀ b, f = .broken b →
        setback = .composing f ∨ w.compose world s = .error (.broken b)) :
      WriteEffect setback w world s (.error f) t

/-- What putting a declaration in its place comes to. -/
theorem settled_effect (setback : Setback) {s : String} {a : Path} {text : String}
    {p q : Passage} {result : Except Failure Path} (hcompose : w.compose world s = .ok (a, text))
    (hend : (p.refusal = none ∧ PutIn world.tree a (encodeUtf8 text.toList) p.last)
      ∨ (p.refusal ≠ none ∧ Grown world.tree p.last a.parent.parts))
    (h : settled a p = (q, result)) : q = p ∧ w.WriteEffect setback world s result p.last := by
  unfold settled at h
  split at h
  · rename_i r hrefusal
    obtain ⟨rfl, rfl⟩ := Prod.mk.inj h
    obtain ⟨_, hgrown⟩ := hend.resolve_left fun hdone => by
      rw [hrefusal] at hdone
      cases hdone.1
    exact ⟨rfl, .failed hgrown fun b hb => (by cases hb)⟩
  · rename_i hrefusal
    obtain ⟨rfl, rfl⟩ := Prod.mk.inj h
    obtain ⟨_, hput⟩ := hend.resolve_right fun hstopped => hstopped.1 hrefusal
    exact ⟨rfl, .written hcompose hput⟩

/-- **Writing a declaration**, whatever goes wrong: what it comes to, and the trees that are passed
    through. -/
theorem writing_effect (hw : w.Placed) (setback : Setback) {s : String} {p : Passage}
    {result : Except Failure Path} (h : w.writing setback world s = (p, result)) :
    w.WriteEffect setback world s result p.last
      ∧ (Rooted world.tree w.outDir.parts → w.Kept world.tree p.last)
      ∧ ∀ u ∈ p.last :: p.before, u = world.tree ∨ ∃ a text, w.compose world s = .ok (a, text)
        ∧ Passes world.tree a (encodeUtf8 text.toList) u := by
  have hstay : ∀ u ∈ [world.tree], u = world.tree ∨ ∃ a text, w.compose world s = .ok (a, text)
      ∧ Passes world.tree a (encodeUtf8 text.toList) u :=
    fun u hu => Or.inl (List.mem_singleton.mp hu)
  unfold writing at h
  split at h
  · rename_i f hcompose
    obtain ⟨rfl, rfl⟩ := Prod.mk.inj h
    refine ⟨.failed (Grown.refl world.tree []) fun b hb => Or.inr ?_, Kept.refl, hstay⟩
    rw [hcompose, hb]
  · obtain ⟨rfl, rfl⟩ := Prod.mk.inj h
    exact ⟨.failed (Grown.refl world.tree []) fun _ _ => Or.inl rfl, Kept.refl, hstay⟩
  · rename_i a text trouble hcompose
    obtain ⟨hbelow, hdots⟩ := compose_below hw hcompose
    obtain ⟨hthrough, hend⟩ := putText_passage (t := world.tree) trouble text hbelow.ne_nil hdots
    obtain ⟨rfl, heffect⟩ := settled_effect (.putting trouble) hcompose hend h
    refine ⟨heffect, fun hr => ?_, fun u hu => Or.inr ⟨a, text, hcompose, hthrough u hu⟩⟩
    rcases hend with ⟨_, hput⟩ | ⟨_, hgrown⟩
    · exact hput.kept hbelow hr
    · exact Kept.of_grown hbelow hr hgrown

/-- An attempt to write a declaration ends where the write ends. -/
theorem attempt_eq {setback : Setback} {s : String} {result : Except Failure Path}
    (h : w.attempt setback world s = (result, world')) :
    ∃ p, w.writing setback world s = (p, result) ∧ world'.tree = p.last
      ∧ world'.cwd = world.cwd := by
  unfold attempt at h
  rcases hwriting : w.writing setback world s with ⟨p, outcome⟩
  rw [hwriting] at h
  cases outcome with
  | error f =>
      obtain ⟨rfl, rfl⟩ := Prod.mk.inj h
      exact ⟨p, rfl, rfl, rfl⟩
  | ok a =>
      obtain ⟨rfl, rfl⟩ := Prod.mk.inj h
      exact ⟨p, rfl, rfl, rfl⟩

/-- **Writing a declaration.** -/
theorem attempt_effect (hw : w.Placed) (setback : Setback) {s : String}
    {result : Except Failure Path} (h : w.attempt setback world s = (result, world')) :
    world'.cwd = world.cwd
      ∧ (Rooted world.tree w.outDir.parts → w.Kept world.tree world'.tree)
      ∧ w.WriteEffect setback world s result world'.tree := by
  obtain ⟨p, hwriting, htree, hcwd⟩ := attempt_eq h
  obtain ⟨heffect, hkept, _⟩ := writing_effect hw setback hwriting
  rw [htree]
  exact ⟨hcwd, hkept, heffect⟩

/-- A write where nothing goes wrong that the tree does not show. -/
theorem write_effect (hw : w.Placed) {s : String} (hr : Rooted world.tree w.outDir.parts)
    {result : Except Failure Path} (h : w.write world s = (result, world')) :
    world'.cwd = world.cwd ∧ w.Kept world.tree world'.tree
      ∧ w.WriteEffect .nothing world s result world'.tree := by
  obtain ⟨hcwd, hkept, heffect⟩ := attempt_effect hw .nothing h
  exact ⟨hcwd, hkept hr, heffect⟩

/-- What a removal comes to: the declaration is gone, it is told whether there was one, and all other
    files are as they were; or all files are as they were. -/
inductive RemoveEffect (w : Writer) (world : World) (s : String) :
    Except Failure Bool → FileTree → Prop
  | gone {a : Path} {there : Bool} {t : FileTree} (place : w.artifact world.cwd s = .ok a)
      (told : there = (world.tree.octets? a.parts).isSome) (missing : t.octets? a.parts = none)
      (others : ∀ q, q ≠ a.parts → t.octets? q = world.tree.octets? q) :
      RemoveEffect w world s (.ok there) t
  | failed {f : Failure} {t : FileTree} (same : ∀ q, t.octets? q = world.tree.octets? q) :
      RemoveEffect w world s (.error f) t

/-- **Removing a declaration.**  Where something on the way is missing the declaration is missing
    too, because below the output directory everything lies in a directory. -/
theorem remove_effect (hw : w.Placed) {s : String} (hr : Rooted world.tree w.outDir.parts)
    {result : Except Failure Bool} (h : w.remove world s = (result, world')) :
    world'.cwd = world.cwd ∧ w.Kept world.tree world'.tree
      ∧ w.RemoveEffect world s result world'.tree := by
  unfold remove at h
  split at h
  · obtain ⟨rfl, rfl⟩ := Prod.mk.inj h
    exact ⟨rfl, Kept.refl hr, .failed fun _ => rfl⟩
  · rename_i a ha
    obtain ⟨hbelow, hdots⟩ := artifact_below hw ha
    split at h
    · obtain ⟨rfl, rfl⟩ := Prod.mk.inj h
      exact ⟨rfl, Kept.refl hr, .failed fun _ => rfl⟩
    · split at h
      · rename_i hmissing
        obtain ⟨rfl, rfl⟩ := Prod.mk.inj h
        obtain ⟨place, hplace, hnone⟩ := removeFile_missing hdots hmissing
        have habsent : world.tree.octets? a.parts = none := by
          cases hsome : world.tree.octets? a.parts with
          | none => rfl
          | some o =>
              refine absurd hnone (hr.prefix_ne_none hbelow.1 ?_ hplace)
              rw [octets?_eq_some.mp hsome]
              exact Option.some_ne_none _
        exact ⟨rfl, Kept.refl hr, .gone ha (by rw [habsent]; rfl) habsent fun _ _ => rfl⟩
      · obtain ⟨rfl, rfl⟩ := Prod.mk.inj h
        exact ⟨rfl, Kept.refl hr, .failed fun _ => rfl⟩
      · rename_i t ht
        obtain ⟨rfl, rfl⟩ := Prod.mk.inj h
        obtain ⟨rfl, hfile⟩ := removeFile_ok hdots ht
        obtain ⟨hout, hrooted⟩ := rooted_clear hbelow hr hfile
        refine ⟨rfl, ⟨hout, hrooted⟩, .gone ha hfile.symm ?_ fun q hq => ?_⟩
        · show (world.tree.clear a.parts).octets? a.parts = none
          rw [octets?, entry?_clear_self _ hbelow.ne_nil]
        · exact octets?_congr (entry?_clear_of_ne _ hq)

end Writer

end QueryTypings
