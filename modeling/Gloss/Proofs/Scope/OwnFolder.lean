import Gloss.Proofs.Scope.Nearest
import Gloss.Proofs.Scope.Winner
import Gloss.Proofs.Script.Path

/-!
# Scripts in the folder of a scope

The folder of a scope rule and the path of a script are taken apart in two ways. Both are split at
slashes of either kind, without empty pieces and in lower case; but single dots are left out of a
path, and kept in a folder. So a script right inside the folder of a rule is found by that rule,
unless a piece of the folder is a single dot. A rule with such a piece finds no script at all.

## Main definitions

* `IsStem`: the part of a file name in front of its extension.

## Main results

* `Text.lower_eq_dot_iff`: nothing else becomes a dot in lower case.
* `ScriptPath.isStem_fileStem`: the stem of the file name of a path.
* `classify_eq_none_of_dot_mem`: a rule with a dot in its folder finds no script.
* `classify_in_own_folder_iff`: when a rule finds the scripts in its folder.
-/

set_option relaxedAutoImplicit false
set_option autoImplicit false

namespace Gloss

open Text

/-! ## Dots in lower case -/

namespace Text

/-- Every run of capitals is moved behind the dot. -/
lemma dot_lt_of_mem_lowerShifts {run : Nat × Nat × Nat × Int} (h : run ∈ lowerShifts) :
    (46 : Int) < run.1 + run.2.2.2 := by
  have hall : lowerShifts.all (fun run => decide ((46 : Int) < run.1 + run.2.2.2)) = true := by
    decide +kernel
  exact of_decide_eq_true (List.all_eq_true.mp hall run h)

/-- Only its code gives the dot: a number that is no code gives the character of code zero. -/
lemma eq_of_ofNat_eq_dot {n : Nat} (h : Char.ofNat n = '.') : n = 46 := by
  by_cases hn : n.isValidChar
  · have hcode : Char.ofNat n = Char.ofNatAux n hn := dif_pos hn
    exact congrArg Char.toNat (hcode.symm.trans h)
  · have hzero : Char.ofNat n = Char.ofNat 0 := dif_neg hn
    exact absurd (hzero.symm.trans h) (by decide)

/-- Only a dot is a dot in lower case. -/
lemma lowerChar_eq_dot_iff {c : Char} : lowerChar c = ['.'] ↔ c = '.' := by
  refine ⟨fun h => ?_, fun h => by rw [h]; rfl⟩
  unfold lowerChar at h
  split at h
  · simp only [lowerAsciiChar, List.cons.injEq, and_true] at h
    split at h
    · have := eq_of_ofNat_eq_dot h
      next hcapital =>
      have hle : 'A'.toNat ≤ c.toNat := (by simpa using hcapital : 'A' ≤ c ∧ c ≤ 'Z').1
      simp at hle
      omega
    · exact h
  · split at h
    · simp at h
    · have h : lowerShifts.apply c = '.' := (List.cons.inj h).1
      unfold Shifts.apply at h
      split at h
      · next run hrun =>
        have hmoved := dot_lt_of_mem_lowerShifts (List.mem_of_find?_eq_some hrun)
        have hcovers := List.find?_some hrun
        simp only [Shifts.covers, Bool.and_eq_true, decide_eq_true_eq] at hcovers
        have := eq_of_ofNat_eq_dot h
        have := hcovers.1.1
        simp only [Int.ofNat_eq_natCast] at *
        omega
      · exact h

/-- No character vanishes in lower case. -/
lemma lowerChar_ne_nil (c : Char) : lowerChar c ≠ [] := by
  unfold lowerChar
  split
  · simp
  · split <;> simp

/-- Only the empty text becomes empty in lower case. -/
lemma lowerAfter_eq_nil_iff {before t : Text} : lowerAfter before t = [] ↔ t = [] := by
  refine ⟨fun h => ?_, fun h => by rw [h]; rfl⟩
  cases t with
  | nil => rfl
  | cons c t =>
    have hhere := (List.append_eq_nil_iff.mp h).1
    split at hhere
    · simp at hhere
    · exact absurd hhere (lowerChar_ne_nil c)

/-- **Nothing else becomes a dot in lower case.**

**Proof sketch.** Every character has some lower case, so the text is one character, and no other
character has a dot as its lower case. -/
lemma lower_eq_dot_iff {t : Text} : lower t = ['.'] ↔ t = ['.'] := by
  refine ⟨fun h => ?_, fun h => by rw [h]; rfl⟩
  cases t with
  | nil => simp [lower, lowerAfter] at h
  | cons c t =>
    rcases List.append_eq_singleton_iff.mp h with ⟨hnil, -⟩ | ⟨hhere, hrest⟩
    · split at hnil
      · simp at hnil
      · exact absurd hnil (lowerChar_ne_nil c)
    · rw [lowerAfter_eq_nil_iff] at hrest
      split at hhere
      · have hcode := eq_of_ofNat_eq_dot (List.cons.inj hhere).1
        split at hcode <;> omega
      · rw [hrest, lowerChar_eq_dot_iff.mp hhere]

end Text

/-! ## Pieces of folders and paths -/

section

variable {t f : Text}

/-- The pieces of a folder between slashes, without regard to case, are segments of a path, if there
are no dots among them. -/
lemma folderSegments_eq (h : ['.'] ∉ split '/' (forwardSlashes t)) :
    folderSegments t = (pathPieces (forwardSlashes t)).map Text.lower := by
  have hfilter : pathPieces (forwardSlashes t) =
      (split '/' (forwardSlashes t)).filter (!·.isEmpty) := by
    refine List.filter_congr fun piece hpiece => ?_
    have hne : piece ≠ ['.'] := fun heq => h (heq ▸ hpiece)
    simp [hne]
  rw [hfilter]
  rfl

/-- A dot between the slashes of a folder is one of its segments. -/
lemma dot_mem_folderSegments (h : ['.'] ∈ split '/' (forwardSlashes t)) :
    ['.'] ∈ folderSegments t :=
  List.mem_map.mpr ⟨['.'], List.mem_filter.mpr ⟨h, rfl⟩, lower_eq_dot_iff.mpr rfl⟩

/-- The segments of the path of a file in a folder. -/
lemma pathPieces_inside (hne : f ≠ []) (hdot : f ≠ ['.']) (hslash : '/' ∉ f) :
    pathPieces ("root/".toList ++ t ++ '/' :: f) = "root".toList :: pathPieces t ++ [f] := by
  have hfile : pathPieces f = [f] := by
    rw [pathPieces, split_of_not_mem hslash]
    simp [hne, hdot]
  have hroot : pathPieces "root".toList = ["root".toList] := by decide
  have hpath : "root/".toList ++ t ++ '/' :: f = "root".toList ++ '/' :: (t ++ '/' :: f) := by simp
  calc pathPieces ("root/".toList ++ t ++ '/' :: f)
      = pathPieces ("root".toList ++ '/' :: (t ++ '/' :: f)) := by rw [hpath]
    _ = "root".toList :: pathPieces t ++ [f] := by
      rw [pathPieces_append_slash, pathPieces_append_slash, hroot, hfile]
      rfl

end

/-! ## Stems -/

/-- The stem of a file name: what stands in front of its last dot, if that is not empty, and else
the whole name. -/
def IsStem (name stem : Text) : Prop :=
  (∃ extension, name = stem ++ '.' :: extension ∧ stem ≠ [] ∧ '.' ∉ extension) ∨
    (stem = name ∧ '.' ∉ name.tail)

/-- **The stem of the file name of a path.**

**Proof sketch.** Seen from its end, the file name is a run without dots and the rest, which is
empty, the dot that the name starts with, or a dot behind something that is then the stem. -/
lemma ScriptPath.isStem_fileStem (p : ScriptPath) : IsStem p.fileName p.fileStem := by
  obtain ⟨tail, rest, hname, htail, hrest⟩ := exists_run (· != '.') p.fileName.reverse
  have hname' : p.fileName = rest.reverse ++ tail.reverse := by
    rw [← List.reverse_append, ← hname, List.reverse_reverse]
  have hdots : '.' ∉ tail.reverse := fun hmem => by
    simpa using htail '.' (List.mem_reverse.mp hmem)
  have hdrop : p.fileName.reverse.drop (p.fileName.reverse.takeWhile (· != '.')).length = rest := by
    have htake : (tail ++ rest).takeWhile (· != '.') = tail := by
      rw [List.takeWhile_append_of_pos htail]
      cases rest with
      | nil => simp
      | cons c rest => simp [hrest c rfl]
    rw [hname, htake, List.drop_left]
  cases rest with
  | nil =>
    refine .inr ⟨by simp only [fileStem, hdrop], fun hmem => hdots ?_⟩
    rw [hname'] at hmem
    exact List.mem_of_mem_tail (by simpa using hmem)
  | cons c rest =>
    obtain rfl : c = '.' := by simpa using hrest c rfl
    cases rest with
    | nil =>
      refine .inr ⟨by simp only [fileStem, hdrop], ?_⟩
      rw [hname']
      simpa using hdots
    | cons d rest =>
      have hstem : p.fileStem = (d :: rest).reverse := by simp only [fileStem, hdrop]
      exact .inl ⟨tail.reverse, by rw [hstem, hname']; simp, by rw [hstem]; simp, hdots⟩

/-! ## The rule of a folder -/

section

variable {template : Text} {s : ScopeSettings} {rule : ScopeRule}

/-- **A rule with a dot in its folder finds no script.** -/
lemma classify_eq_none_of_dot_mem (h : ['.'] ∈ rule.folder) (p : ScriptPath) :
    classify p [rule] = none := by
  rw [classify, Option.map_eq_none_iff, bestCandidate?_eq_none_iff]
  intro other hother stop hoccurs
  obtain rfl := List.mem_singleton.mp hother
  obtain ⟨-, front, back, hdirs, -⟩ := hoccurs
  have hdot : ['.'] ∈ p.loweredDirs := by simp [hdirs, h]
  obtain ⟨segment, hsegment, hlower⟩ := List.mem_map.mp hdot
  rw [lower_eq_dot_iff] at hlower
  have hkept := (List.mem_filter.mp (List.dropLast_subset _ hsegment)).2
  simp [hlower] at hkept

/-- A rule whose folder ends the directories of a path finds it, and names the type by the file. -/
lemma classify_of_loweredDirs_eq {p : ScriptPath} {front : List Text} (hne : rule.folder ≠ [])
    (hdirs : p.loweredDirs = front ++ rule.folder) :
    classify p [rule] = some { scope := rule.scope, typeName := p.fileStem } := by
  have hoccurs : OccursUpTo rule.folder p.loweredDirs p.loweredDirs.length :=
    ⟨hne, front, [], by rw [hdirs, List.append_nil], by rw [hdirs]⟩
  have hwins : Wins p [rule] [] rule p.loweredDirs.length :=
    { split := ⟨[], rfl⟩
      occurs := hoccurs
      nearest := fun other _ n hn => hn.stop_le
      widest := fun other hother _ => (List.mem_singleton.mp hother) ▸ Nat.le_refl _
      first := fun other hother => absurd hother (by simp) }
  have hbest : bestCandidate? p [rule] = some ⟨rule, p.loweredDirs.length⟩ :=
    bestCandidate?_eq_some_iff.mpr ⟨[], hwins⟩
  rw [classify, hbest, Option.map_some,
    (typeNameAfter_eq_iff (Nat.le_refl _)).mpr (.inl ⟨rfl, rfl⟩)]

/-- **When a rule finds the scripts in its folder**: iff no piece of the folder between slashes of
either kind is a single dot. Then the scope is that of the rule, and the type is named by the stem
of the file. A rule with such a piece is accepted too, but finds no script anywhere.

**Proof sketch.** The path has the pieces of the folder as its directories, behind the root. Single
dots are left out of the pieces of a path but not of the folder of a rule. So without them the
folder occurs at the end of the directories, and with one it occurs in no path. -/
theorem classify_in_own_folder_iff {f : Text} (hrule : ScopeRule.ofSettings template s = .ok rule)
    (hne : f ≠ []) (hdot : f ≠ ['.']) (hslash : '/' ∉ f) (hback : '\\' ∉ f) :
    ∃ p stem, ScriptPath.read ("root/".toList ++ s.folder ++ '/' :: f) = .ok p ∧ IsStem f stem ∧
      (classify p [rule] = some { scope := s.name, typeName := stem } ↔
        ['.'] ∉ split '/' (forwardSlashes s.folder)) ∧
      (['.'] ∈ split '/' (forwardSlashes s.folder) → ∀ p', classify p' [rule] = none) := by
  obtain ⟨hscope, hfolder, hfolderne, -⟩ := ScopeRule.fields_of_ofSettings hrule
  have hidentified : identifiedPath ("root/".toList ++ s.folder ++ '/' :: f) =
      .ok ("root/".toList ++ s.folder ++ '/' :: f) := rfl
  have hforward : forwardSlashes ("root/".toList ++ s.folder ++ '/' :: f) =
      "root/".toList ++ forwardSlashes s.folder ++ '/' :: f := by
    have hfile : forwardSlashes ('/' :: f) = '/' :: f :=
      forwardSlashes_of_notMem (by simpa using hback)
    rw [forwardSlashes_append, forwardSlashes_append, hfile]
    rfl
  have hsegments := pathPieces_inside (t := forwardSlashes s.folder) hne hdot hslash
  let p : ScriptPath :=
    ⟨"root/".toList ++ forwardSlashes s.folder ++ '/' :: f, by rw [hsegments]; simp⟩
  have hread : ScriptPath.read ("root/".toList ++ s.folder ++ '/' :: f) = .ok p := by
    simp only [ScriptPath.read, hidentified, hforward]
    exact dif_pos p.segments_ne_nil
  have hpsegments : p.segments = "root".toList :: pathPieces (forwardSlashes s.folder) ++ [f] :=
    hsegments
  have hname : p.fileName = f := by
    have hlast : p.segments.getLast? = some p.fileName :=
      List.getLast?_eq_some_getLast p.segments_ne_nil
    rw [hpsegments, List.getLast?_concat, Option.some.injEq] at hlast
    exact hlast.symm
  have hdead : ['.'] ∈ split '/' (forwardSlashes s.folder) → ∀ p', classify p' [rule] = none :=
    fun hmem => classify_eq_none_of_dot_mem (hfolder ▸ dot_mem_folderSegments hmem)
  refine ⟨p, p.fileStem, hread, hname ▸ p.isStem_fileStem, ⟨fun hfound hmem => ?_, fun hfree => ?_⟩,
    hdead⟩
  · rw [hdead hmem p] at hfound
    simp at hfound
  · have hdirs : p.loweredDirs = [Text.lower "root".toList] ++ rule.folder := by
      rw [hfolder, folderSegments_eq hfree, ScriptPath.loweredDirs, hpsegments,
        List.dropLast_concat]
      rfl
    rw [classify_of_loweredDirs_eq hfolderne hdirs, hscope]

end

/-- A scope whose folder is written with a leading dot. -/
def dottedFolderSettings : ScopeSettings :=
  { name := "ENT".toList, folder := "./entities".toList }

/-- The folder `./entities` is accepted, and a script in it is not found. -/
theorem classify_not_in_own_dotted_folder :
    ∃ rule p,
      ScopeRule.ofSettings Settings.default.patterns.baseAssignment dottedFolderSettings =
        .ok rule ∧
      ScriptPath.read "root/./entities/lamp.lua".toList = .ok p ∧
      ['.'] ∈ split '/' (forwardSlashes dottedFolderSettings.folder) ∧
      classify p [rule] = none := by
  have haccepted : (ScopeRule.ofSettings Settings.default.patterns.baseAssignment
      dottedFolderSettings).toOption.isSome = true := by
    decide +kernel
  generalize hrule : ScopeRule.ofSettings Settings.default.patterns.baseAssignment
    dottedFolderSettings = result at haccepted
  cases result with
  | error fault => simp [Except.toOption] at haccepted
  | ok rule =>
    have hdot : ['.'] ∈ split '/' (forwardSlashes dottedFolderSettings.folder) := by decide
    obtain ⟨p, stem, hread, -, -, hdead⟩ :=
      classify_in_own_folder_iff (f := "lamp.lua".toList) hrule
      (by decide) (by decide) (by decide) (by decide)
    exact ⟨rule, p, rfl, hread, hdot, hdead hdot p⟩

end Gloss
