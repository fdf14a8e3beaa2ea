import Gloss.Proofs.Script.Address

/-!
# Directories of scripts

The directory of a script is looked for in the spelling of its path, at the last slash that has a
name behind it, while scripts are told apart by the segments of the path, from which repeated
slashes and dots are gone. This module shows that both give the same directory, unless the path ends
in a dot: then the spelling gives the directory that all segments name, and the segments the one
around it.

## Main definitions

* `lastComponent?`: the last piece of a path between slashes, which may be a dot.

## Main results

* `EndsIn.filter_split`: the pieces of a path are those in front of its last component, and that.
* `ScriptPath.exists_endsIn`: the path of a script ends in a component.
* `ScriptPath.read_parent?_segments`: the directory of a script has the segments before the last.
-/

set_option relaxedAutoImplicit false
set_option autoImplicit false

namespace Gloss

open Text

/-- The last piece of a path between slashes that is not empty. Unlike a segment it may be a dot. -/
def lastComponent? (path : Text) : Option Text :=
  ((split '/' path).filter (!·.isEmpty)).getLast?

/-! ## The end of a path -/

/-- Between slashes there are empty pieces only. -/
lemma filter_split_slashes {q : Text → Bool} (hq : q [] = false) {slashes : Text}
    (h : ∀ c ∈ slashes, c = '/') : (split '/' slashes).filter q = [] := by
  induction slashes with
  | nil => simp [split, hq]
  | cons c slashes ih =>
    obtain ⟨rfl, hslashes⟩ := List.forall_mem_cons.mp h
    rw [split_cons_mark, List.filter_cons_of_neg (by simp [hq]), ih hslashes]

namespace EndsIn

variable {path lead n : Text}

/-- **The pieces of a path** that are not empty are those in front of its last component, and that
component.

**Proof sketch.** The last component has slashes behind it and a slash in front of it, unless it
starts the path. The pieces between slashes in a row are empty, so they are left out. -/
lemma filter_split {q : Text → Bool} (hq : q [] = false) (h : EndsIn path lead n) :
    (split '/' path).filter q = (split '/' lead).filter q ++ [n].filter q := by
  obtain ⟨⟨slashes, rfl, hslashes⟩, hlead, -, hn⟩ := h
  have hend : (split '/' (n ++ slashes)).filter q = [n].filter q := by
    cases slashes with
    | nil => rw [List.append_nil, split_of_not_mem hn]
    | cons c slashes =>
      obtain ⟨rfl, hrest⟩ := List.forall_mem_cons.mp hslashes
      rw [split_append_mark, split_of_not_mem hn, List.filter_append, filter_split_slashes hq hrest,
        List.append_nil]
  rcases hlead with rfl | ⟨dir, rfl⟩
  · rw [List.nil_append, hend]
    simp [split, hq]
  · have hempty : (split '/' ([] : Text)).filter q = [] := filter_split_slashes hq (by simp)
    have hpath : dir ++ ['/'] ++ n ++ slashes = dir ++ '/' :: (n ++ slashes) := by simp
    rw [hpath, split_append_mark, split_append_mark, List.filter_append,
      List.filter_append, hend, hempty, List.append_nil]

/-- The last component of a path is the one that it ends in. -/
lemma lastComponent?_eq (h : EndsIn path lead n) : lastComponent? path = some n := by
  have hn : n.isEmpty = false := by simpa using h.name_ne_nil
  rw [lastComponent?, h.filter_split rfl]
  simp [hn]

/-- A last component that is no dot is the last segment. -/
lemma pathPieces_eq (h : EndsIn path lead n) (hdot : n ≠ ['.']) :
    pathPieces path = pathPieces lead ++ [n] := by
  rw [pathPieces, h.filter_split rfl]
  simp [pathPieces, h.name_ne_nil, hdot]

/-- A dot at the end of a path is no segment. -/
lemma pathPieces_eq_of_dot (h : EndsIn path lead ['.']) : pathPieces path = pathPieces lead := by
  rw [pathPieces, h.filter_split rfl]
  simp [pathPieces]

end EndsIn

namespace ScriptPath

variable {p : ScriptPath} {lead n : Text}

/-- The path of a script ends in a component.

**Proof sketch.** Without the slashes at its end the path is not empty, as it has a segment. What
stands behind the last slash of the rest is the component. -/
lemma exists_endsIn (p : ScriptPath) : ∃ lead n, EndsIn p.path lead n := by
  obtain ⟨x, slashes, hpath, hslashes, hx⟩ := exists_endRun (· == '/') p.path
  obtain ⟨lead, n, rfl, hn, hlead⟩ := exists_endRun (· != '/') x
  have hslashes : ∀ c ∈ slashes, c = '/' := by simpa using hslashes
  have hlead : lead = [] ∨ ∃ dir, lead = dir ++ ['/'] := by
    rcases List.eq_nil_or_concat' lead with rfl | ⟨dir, c, rfl⟩
    · exact .inl rfl
    · obtain rfl : c = '/' := by simpa using hlead
      exact .inr ⟨dir, rfl⟩
  have hne : n ≠ [] := by
    rintro rfl
    rcases hlead with rfl | ⟨dir, rfl⟩
    · refine p.segments_ne_nil ?_
      rw [hpath]
      exact filter_split_slashes rfl hslashes
    · simp at hx
  exact ⟨lead, n, ⟨slashes, hpath, hslashes⟩, hlead, hne, fun hmem => by simpa using hn '/' hmem⟩

/-- The segments of the directory of a script are those in front of the last component of its path.
A script without a directory has none. -/
lemma pathPieces_parent?_of_endsIn (h : EndsIn p.path lead n) :
    p.parent?.elim [] pathPieces = pathPieces lead := by
  rw [parent?_of_endsIn h]
  by_cases hlead : lead = []
  · rw [if_pos hlead, hlead]
    rfl
  · rw [if_neg hlead]
    exact pathPieces_folderOf lead

/-- **The directory of a script has the segments of its path before the last**, however many slashes
stand at its start, at its end or in a row, if the path does not end in a dot. So there is no
directory only if there is one segment, the name of the directory is its last segment, and a script
is classified by the directory in which files are looked up. A path that ends in a dot names that
directory with all of its segments.

**Proof sketch.** The path is cut in front of its last component, and the directory is the part in
front of it without the slashes at its end. Its pieces are the segments but the last, unless the
last component is a dot, which is no segment. -/
theorem read_parent?_segments {identifier path : Text} {p : ScriptPath}
    (hpath : identifiedPath identifier = .ok path) (hread : read identifier = .ok p) :
    (lastComponent? (forwardSlashes path) ≠ some ['.'] →
      (∀ dir, p.parent? = some dir →
        pathPieces dir = p.segments.dropLast ∧ (pathPieces dir).map Text.lower = p.loweredDirs) ∧
      (p.parent? = none → p.segments = [p.fileName]) ∧
      p.parentName? = p.parent?.bind fun dir => (pathPieces dir).getLast?) ∧
    (lastComponent? (forwardSlashes path) = some ['.'] →
      ∃ dir, p.parent? = some dir ∧ pathPieces dir = p.segments) := by
  rw [← (read_eq_ok_iff hpath).mp hread]
  obtain ⟨lead, n, hends⟩ := p.exists_endsIn
  have hparent := pathPieces_parent?_of_endsIn hends
  rw [hends.lastComponent?_eq, Ne, Option.some.injEq]
  constructor
  · intro hdot
    have hsegments : p.segments = pathPieces lead ++ [n] := hends.pathPieces_eq hdot
    have hbefore : p.segments.dropLast = p.parent?.elim [] pathPieces := by
      rw [hsegments, List.dropLast_concat, hparent]
    refine ⟨fun dir hdir => ?_, fun hnone => ?_, ?_⟩
    · have heq : pathPieces dir = p.segments.dropLast := by rw [hbefore, hdir, Option.elim_some]
      exact ⟨heq, by rw [heq]; rfl⟩
    · have hnil : p.segments.dropLast = [] := by rw [hbefore, hnone, Option.elim_none]
      have hlast := List.dropLast_append_getLast p.segments_ne_nil
      exact (hlast.symm.trans (congrArg (· ++ [p.fileName]) hnil))
    · rw [parentName?, hbefore]
      cases p.parent? <;> rfl
  · rintro rfl
    have hsegments : p.segments = pathPieces lead := hends.pathPieces_eq_of_dot
    cases hdir : p.parent? with
    | none =>
      rw [hdir, Option.elim_none, ← hsegments] at hparent
      exact absurd hparent.symm p.segments_ne_nil
    | some dir =>
      rw [hdir, Option.elim_some, ← hsegments] at hparent
      exact ⟨dir, rfl, hparent⟩

/-- A path with slashes of both kinds at its start, in a row and at its end, and with a dot
inside. -/
def tangledPath : Text :=
  "\\lua//.\\entities//lamp//init.lua\\/".toList

/-- The directory of the tangled path is spelled with its slashes and its dot, and has three
segments. With a dot at its end a path names its own directory. -/
theorem read_parent?_segments_tangled :
    (∃ p, read tangledPath = .ok p ∧ p.parent? = some "/lua//./entities//lamp/".toList ∧
      pathPieces "/lua//./entities//lamp/".toList = p.segments.dropLast ∧
      p.parentName? = some "lamp".toList) ∧
    ∃ p, read "lua/lamp/.".toList = .ok p ∧ ∃ dir, p.parent? = some dir ∧
      pathPieces dir = p.segments := by
  constructor
  · have hpath : identifiedPath tangledPath = .ok tangledPath := rfl
    have hne : pathPieces (forwardSlashes tangledPath) ≠ [] := by decide
    have hread : read tangledPath = .ok ⟨forwardSlashes tangledPath, hne⟩ :=
      (read_eq_ok_iff hpath).mpr rfl
    have hparent : parent? ⟨forwardSlashes tangledPath, hne⟩ =
        some "/lua//./entities//lamp/".toList := rfl
    obtain ⟨hsegments, -, hname⟩ := (read_parent?_segments hpath hread).1 (by decide)
    refine ⟨_, hread, hparent, (hsegments _ hparent).1, ?_⟩
    rw [hname, hparent]
    decide
  · have hpath : identifiedPath "lua/lamp/.".toList = .ok "lua/lamp/.".toList := rfl
    have hne : pathPieces (forwardSlashes "lua/lamp/.".toList) ≠ [] := by decide
    have hread : read "lua/lamp/.".toList = .ok ⟨forwardSlashes "lua/lamp/.".toList, hne⟩ :=
      (read_eq_ok_iff hpath).mpr rfl
    exact ⟨_, hread, (read_parent?_segments hpath hread).2 (by decide)⟩

end ScriptPath

end Gloss
