import Gloss.Proofs.File.Path
import Gloss.Proofs.Words
import Gloss.Script.Path

/-!
# Paths of scripts below a directory

The path of a script is read with forward slashes only, so a backslash in a name makes several names
of it. As long as these are names, reading takes the path of a script below a directory apart into
the names that lead to it, and finds the directory as its folder.

## Main definitions

* `namePieces`: the names between the backslashes of names.
* `EndsIn`: what a path ends in, and what stands in front of it.

## Main results

* `forwardSlashes_foldl_joinPath`: a path below a directory with forward slashes.
* `after?_address_foldl_joinPath`: a path below a directory is no address.
* `ScriptPath.parent?_of_endsIn`: the folder of a script.
* `ScriptPath.read_foldl_joinPath`: how the path of a script below a directory is read.
* `ScriptPath.parent?_joinPath`, `ScriptPath.segments_joinPath`: the folder and the segments.
-/

set_option relaxedAutoImplicit false
set_option autoImplicit false

namespace Gloss

open Text

/-- The names between the backslashes of names. -/
def namePieces (names : List Text) : List Text :=
  names.flatMap (split '\\')

/-- Without backslashes names are not taken apart. -/
lemma namePieces_of_notMem {names : List Text} (h : ∀ n ∈ names, '\\' ∉ n) :
    namePieces names = names := by
  induction names with
  | nil => rfl
  | cons n names ih =>
    obtain ⟨hn, hnames⟩ := List.forall_mem_cons.mp h
    rw [namePieces, List.flatMap_cons, ← namePieces, ih hnames, split_of_not_mem hn]
    rfl

/-- Between backslashes there are none. -/
lemma backslash_notMem_of_mem_namePieces {names : List Text} {piece : Text}
    (h : piece ∈ namePieces names) : '\\' ∉ piece := by
  obtain ⟨n, -, hpiece⟩ := List.mem_flatMap.mp h
  exact not_mem_of_mem_split hpiece

/-- Where there are names, there are names between backslashes. -/
lemma namePieces_ne_nil {names : List Text} (h : names ≠ []) : namePieces names ≠ [] := by
  obtain ⟨n, names, rfl⟩ := List.exists_cons_of_ne_nil h
  rw [namePieces, List.flatMap_cons]
  exact List.append_ne_nil_of_left_ne_nil (split_ne_nil _ n) _

/-- A text is a name if the texts between its backslashes are names. -/
lemma isName_of_split {n : Text} (h : ∀ piece ∈ split '\\' n, IsName piece) : IsName n := by
  have hwhole : '\\' ∉ n → IsName n := fun hn => h n (by rw [split_of_not_mem hn]; simp)
  refine ⟨?_, ?_, ?_, ?_⟩
  · rintro rfl
    exact (hwhole (by simp)).ne_nil rfl
  · intro hslash
    obtain ⟨piece, hpiece, hmem⟩ := exists_mem_split_of_mem (m := '\\') (by decide) hslash
    exact (h piece hpiece).slash_notMem hmem
  · rintro rfl
    exact (hwhole (by decide)).ne_dot rfl
  · rintro rfl
    exact (hwhole (by decide)).ne_dots rfl

/-- Names are names if all their pieces are. -/
lemma isName_of_namePieces {names : List Text} (h : ∀ piece ∈ namePieces names, IsName piece) :
    ∀ n ∈ names, IsName n :=
  fun n hn => isName_of_split fun piece hpiece => h piece (List.mem_flatMap.mpr ⟨n, hn, hpiece⟩)

/-- A name has no backslash at its end if the texts between its backslashes are names. -/
lemma getLast?_ne_of_split {n : Text} (h : ∀ piece ∈ split '\\' n, IsName piece) :
    n.getLast? ≠ some '\\' := by
  intro hlast
  have hempty : [] ∈ split '\\' n :=
    mem_split_iff.mpr ⟨n, [], by simp, by simp, .inr hlast, .inl rfl⟩
  exact (h [] hempty).ne_nil rfl

/-! ## Forward slashes -/

/-- Slashes are turned part by part. -/
lemma forwardSlashes_append (a b : Text) :
    forwardSlashes (a ++ b) = forwardSlashes a ++ forwardSlashes b := by
  rw [forwardSlashes, List.map_append]
  rfl

/-- A text without backslashes has nothing to turn. -/
lemma forwardSlashes_of_notMem {t : Text} (h : '\\' ∉ t) : forwardSlashes t = t := by
  refine (List.map_congr_left fun c hc => if_neg ?_).trans (List.map_id' t)
  rintro rfl
  exact h hc

/-- The names between the backslashes of a name are put behind a path one after the other. -/
lemma chomp_append_forwardSlashes {n d : Text} (hd : d ≠ [])
    (hpieces : ∀ piece ∈ split '\\' n, IsName piece) :
    chomp '/' d ++ '/' :: forwardSlashes n = (split '\\' n).foldl joinPath d := by
  induction hlen : n.length using Nat.strongRecOn generalizing n d with
  | ind len ih =>
    -- Up to the first backslash there is one name, and behind it there are the others.
    obtain ⟨a, x, rfl, ha, hx⟩ := exists_run (· != '\\') n
    have ha : '\\' ∉ a := fun hmem => by simpa using ha _ hmem
    cases x with
    | nil =>
      rw [List.append_nil] at hpieces ⊢
      rw [split_of_not_mem ha] at hpieces ⊢
      have hname : IsName a := hpieces a List.mem_cons_self
      rw [forwardSlashes_of_notMem ha, List.foldl_cons, List.foldl_nil, joinPath_eq hd hname]
    | cons c b =>
      obtain rfl : c = '\\' := by simpa using hx
      rw [split_append_mark, split_of_not_mem ha] at hpieces ⊢
      have hname : IsName a := hpieces a (by simp)
      have hjoin := joinPath_ne_nil hd hname
      have hrest := ih b.length (by simp [← hlen]; omega) hjoin
        (fun piece hpiece => hpieces piece (by simp [hpiece])) rfl
      rw [List.singleton_append, List.foldl_cons, ← hrest, chomp_joinPath hd hname,
        joinPath_eq hd hname, forwardSlashes_append, forwardSlashes_of_notMem ha]
      simp [forwardSlashes]

/-- A name behind a path with forward slashes. -/
lemma forwardSlashes_joinPath {n d : Text} (hd : d ≠ []) (hlast : d.getLast? ≠ some '\\')
    (hpieces : ∀ piece ∈ split '\\' n, IsName piece) :
    forwardSlashes (joinPath d n) = (split '\\' n).foldl joinPath (forwardSlashes d) := by
  have hchomp : forwardSlashes (chomp '/' d) = chomp '/' (forwardSlashes d) := by
    by_cases hslash : d.getLast? = some '/'
    · obtain ⟨e, rfl⟩ := List.getLast?_eq_some_iff.mp hslash
      simp [chomp, forwardSlashes]
    · have hslash' : (forwardSlashes d).getLast? ≠ some '/' := by
        rw [forwardSlashes, List.getLast?_map, Ne, Option.map_eq_some_iff]
        rintro ⟨c, hc, hif⟩
        split at hif
        · next h => exact hlast (h ▸ hc)
        · exact hslash (hif ▸ hc)
      rw [chomp, chomp, if_neg hslash, if_neg hslash']
  have hd' : forwardSlashes d ≠ [] := by simpa [forwardSlashes] using hd
  rw [joinPath_eq hd (isName_of_split hpieces), forwardSlashes_append, hchomp,
    ← chomp_append_forwardSlashes hd' hpieces]
  simp [forwardSlashes]

/-- **A path below a directory with forward slashes.**

**Proof sketch.** Induction on the names. Joining a name puts a slash before it, and its backslashes
become slashes as if its pieces had been joined one by one. -/
lemma forwardSlashes_foldl_joinPath {names : List Text} {d : Text} (hd : d ≠ [])
    (hlast : d.getLast? ≠ some '\\') (hpieces : ∀ piece ∈ namePieces names, IsName piece) :
    forwardSlashes (names.foldl joinPath d) =
      (namePieces names).foldl joinPath (forwardSlashes d) := by
  induction names generalizing d with
  | nil => rfl
  | cons n names ih =>
    rw [namePieces, List.flatMap_cons, ← namePieces] at hpieces ⊢
    have hn : ∀ piece ∈ split '\\' n, IsName piece := fun piece hpiece =>
      hpieces piece (List.mem_append_left _ hpiece)
    have hname := isName_of_split hn
    have hlast' : (joinPath d n).getLast? ≠ some '\\' := by
      rw [joinPath_eq hd hname, List.getLast?_append_of_ne_nil _ (List.cons_ne_nil _ _),
        List.getLast?_cons_of_ne_nil hname.ne_nil]
      exact getLast?_ne_of_split hn
    rw [List.foldl_cons, ih (joinPath_ne_nil hd hname) hlast' fun piece hpiece =>
      hpieces piece (List.mem_append_right _ hpiece), forwardSlashes_joinPath hd hlast hn,
      List.foldl_append]

/-! ## Addresses -/

/-- A name behind a path that is no address makes none of it: an address starts with two slashes in
a row, and a name is behind one. -/
lemma after?_address_joinPath {d n : Text} (hd : d ≠ []) (hn : IsName n)
    (h : after? "file://".toList d = none) : after? "file://".toList (joinPath d n) = none := by
  have hnot : ∀ more, d ≠ "file://".toList ++ more := fun more heq => by
    rw [after?_eq_some_iff.mpr heq] at h
    simp at h
  rw [Option.eq_none_iff_forall_ne_some]
  intro rest hrest
  have heq : chomp '/' d ++ '/' :: n = "file:/".toList ++ '/' :: rest := by
    rw [← joinPath_eq hd hn, after?_eq_some_iff.mp hrest]
    rfl
  -- The slash in front of the name is the second one of the address, or one in front of it.
  have hwhole : chomp '/' d ≠ "file:/".toList := by
    intro hchomp
    rw [chomp] at hchomp
    split at hchomp
    · next hlast =>
      obtain ⟨e, rfl⟩ := List.getLast?_eq_some_iff.mp hlast
      rw [List.dropLast_concat] at hchomp
      exact hnot [] (by rw [hchomp]; rfl)
    · next hlast => exact hlast (by rw [hchomp]; rfl)
  rcases List.append_eq_append_iff.mp heq with ⟨more, hlead, hn'⟩ | ⟨more, hlead, hrest'⟩
  · cases more with
    | nil => exact hwhole (by simpa using hlead.symm)
    | cons c more =>
      have hn' : n = more ++ '/' :: rest := (List.cons.inj hn').2
      exact hn.slash_notMem (by simp [hn'])
  · cases more with
    | nil => exact hwhole (by simpa using hlead)
    | cons c more =>
      obtain rfl : '/' = c := (List.cons.inj hrest').1
      obtain ⟨e, he⟩ := exists_eq_chomp_append d
      rw [hlead] at he
      exact hnot (more ++ e) (he.trans (by simp))

/-- A path does not become an address when names are joined to it. -/
lemma after?_address_foldl_joinPath {names : List Text} {d : Text} (hd : d ≠ [])
    (hnames : ∀ n ∈ names, IsName n) (h : after? "file://".toList d = none) :
    after? "file://".toList (names.foldl joinPath d) = none := by
  induction names generalizing d with
  | nil => exact h
  | cons n names ih =>
    obtain ⟨hn, hnames⟩ := List.forall_mem_cons.mp hnames
    exact ih (joinPath_ne_nil hd hn) hnames (after?_address_joinPath hd hn h)

/-! ## Reading -/

/-- The path ends in a name, with `lead` in front of it. Slashes behind the name do not count. -/
structure EndsIn (path lead name : Text) : Prop where
  /-- Behind the name there are slashes only. -/
  exists_slashes : ∃ slashes, path = lead ++ name ++ slashes ∧ ∀ c ∈ slashes, c = '/'
  /-- In front of the name there is nothing, or a slash. -/
  lead_ends : lead = [] ∨ ∃ dir, lead = dir ++ ['/']
  /-- The name is not empty. -/
  name_ne_nil : name ≠ []
  /-- The name has no slashes. -/
  slash_notMem : '/' ∉ name

/-- A path ends in a name that is put behind it. -/
lemma endsIn_joinPath {d n : Text} (hd : d ≠ []) (hn : IsName n) :
    EndsIn (joinPath d n) (chomp '/' d ++ ['/']) n where
  exists_slashes := ⟨[], by simp [joinPath_eq hd hn], by simp⟩
  lead_ends := .inr ⟨_, rfl⟩
  name_ne_nil := hn.ne_nil
  slash_notMem := hn.slash_notMem

namespace ScriptPath

variable {p : ScriptPath} {d n : Text}

/-- The segments of a script in a directory. -/
lemma segments_joinPath (hd : d ≠ []) (hn : IsName n) (hp : p.path = joinPath d n) :
    p.segments = pathPieces d ++ [n] := by
  rw [segments, hp]
  exact pathPieces_joinPath hd hn

/-- The name of a script in a directory. -/
lemma fileName_joinPath (hd : d ≠ []) (hn : IsName n) (hp : p.path = joinPath d n) :
    p.fileName = n := by
  have hlast : p.segments.getLast? = some p.fileName :=
    List.getLast?_eq_some_getLast p.segments_ne_nil
  rw [segments_joinPath hd hn hp, List.getLast?_concat, Option.some.injEq] at hlast
  exact hlast.symm

/-- The directories of a script in a directory. -/
lemma loweredDirs_joinPath (hd : d ≠ []) (hn : IsName n) (hp : p.path = joinPath d n) :
    p.loweredDirs = (pathPieces d).map Text.lower := by
  rw [loweredDirs, segments_joinPath hd hn hp, List.dropLast_concat]

/-- **The folder of a script** is what stands in front of its name, if there is something.

**Proof sketch.** The slashes at the end are dropped, and then the last component, which has no
slash. What is left ends in a slash or is empty. -/
lemma parent?_of_endsIn {lead : Text} (h : EndsIn p.path lead n) :
    p.parent? = if lead = [] then none else some (folderOf lead) := by
  obtain ⟨⟨slashes, hpath, hslashes⟩, hlead, hne, hn⟩ := h
  have htrimmed : dropEndWhile (· == '/') p.path = lead ++ n := by
    rw [hpath]
    refine dropEndWhile_run (by simpa using hslashes) fun c hc => ?_
    rw [List.getLast?_append_of_ne_nil _ hne] at hc
    rw [beq_eq_false_iff_ne]
    rintro rfl
    exact hn (List.mem_of_getLast? hc)
  have hrun : ∀ c ∈ n.reverse, (c != '/') = true := by
    intro c hc
    rw [bne_iff_ne]
    rintro rfl
    exact hn (List.mem_reverse.mp hc)
  simp only [parent?, htrimmed]
  rcases hlead with rfl | ⟨dir, rfl⟩
  · obtain ⟨c, n, rfl⟩ := List.exists_cons_of_ne_nil hne
    have hc : c ≠ '/' := fun h => hn (h ▸ List.mem_cons_self)
    simp [hpath, hn, hc]
  · have hdir : ((dir ++ ['/'] ++ n).reverse.dropWhile (· != '/')).tail.reverse = dir := by
      rw [List.reverse_append, dropWhile_run hrun (by simp)]
      simp
    rw [hdir, folderOf_append_slash]
    by_cases hnil : dir = []
    · simp [hpath, hnil]
    · simp [hnil]

/-- **The folder of a script in a directory** is that directory. -/
lemma parent?_joinPath (hd : d ≠ []) (hn : IsName n) (hp : p.path = joinPath d n) :
    p.parent? = some (folderOf d) := by
  have hends : EndsIn p.path (chomp '/' d ++ ['/']) n := hp ▸ endsIn_joinPath hd hn
  rw [parent?_of_endsIn hends, if_neg (by simp), folderOf_append_slash]
  rfl

/-- **How the path of a script below a directory is read**: with the names between the backslashes
of the names that lead to it, of which the last is the name of the script.

**Proof sketch.** The path is no address, and with forward slashes it is the root with all pieces
joined to it. So it has the last piece as a segment, and can be read. -/
lemma read_foldl_joinPath {names dirs : List Text} {root last : Text} (hroot : root ≠ [])
    (hback : '\\' ∉ root) (haddress : after? "file://".toList root = none)
    (hpieces : ∀ piece ∈ namePieces names, IsName piece)
    (hsplit : namePieces names = dirs ++ [last]) :
    ∃ p, ScriptPath.read (names.foldl joinPath root) = .ok p ∧
      p.path = joinPath (dirs.foldl joinPath root) last := by
  have hnames := isName_of_namePieces hpieces
  have hidentified : identifiedPath (names.foldl joinPath root) =
      .ok (names.foldl joinPath root) := by
    rw [identifiedPath, after?_address_foldl_joinPath hroot hnames haddress]
  have hforward : forwardSlashes (names.foldl joinPath root) =
      joinPath (dirs.foldl joinPath root) last := by
    rw [forwardSlashes_foldl_joinPath hroot (fun h => hback (List.mem_of_getLast? h)) hpieces,
      forwardSlashes_of_notMem hback, hsplit, List.foldl_append, List.foldl_cons, List.foldl_nil]
  rw [hsplit] at hpieces
  have hdir := foldl_joinPath_ne_nil hroot fun n hn => hpieces n (List.mem_append_left _ hn)
  have hsegments : pathPieces (forwardSlashes (names.foldl joinPath root)) ≠ [] := by
    rw [hforward]
    refine ne_of_eq_of_ne (pathPieces_joinPath hdir (hpieces last (by simp))) (by simp)
  refine ⟨⟨forwardSlashes (names.foldl joinPath root), hsegments⟩, ?_, hforward⟩
  rw [read, hidentified]
  exact dif_pos hsegments

end ScriptPath

end Gloss
