import Gloss.File.Path
import Gloss.Proofs.Lines
import Mathlib.Data.List.Basic

/-!
# Joining paths

A name that is put behind a path is its last part, however the path is spelled: with or without a
slash at its end, with a leading dot, or as the root. The folder of such a path is the path in front
of the name, without one slash at its end.

## Main definitions

* `IsName`: a name that stands for itself in a path.
* `folderOf`: the spelling of a directory as the folder of what is in it.

## Main results

* `joinPath_eq`: how a name is put behind a path.
* `pathParts_joinPath`: a name behind a path is its last part.
* `pathParts_folderOf`: a directory and its spelling as a folder have the same parts.
* `pathParts_foldl_joinPath`: names behind a path are its last parts.
-/

set_option relaxedAutoImplicit false
set_option autoImplicit false

namespace Gloss

open Text

/-- A name that stands for itself in a path: not empty, without slashes, and no dots. -/
structure IsName (n : Text) : Prop where
  /-- It is not empty. -/
  ne_nil : n ≠ []
  /-- It has no slashes. -/
  slash_notMem : '/' ∉ n
  /-- It is not the dot of a directory itself. -/
  ne_dot : n ≠ ['.']
  /-- It is not the dots of the directory around a directory. -/
  ne_dots : n ≠ ['.', '.']

/-- Whether a text is a name can be decided. -/
instance (n : Text) : Decidable (IsName n) :=
  decidable_of_iff (n ≠ [] ∧ '/' ∉ n ∧ n ≠ ['.'] ∧ n ≠ ['.', '.'])
    ⟨fun ⟨h₁, h₂, h₃, h₄⟩ => ⟨h₁, h₂, h₃, h₄⟩, fun ⟨h₁, h₂, h₃, h₄⟩ => ⟨h₁, h₂, h₃, h₄⟩⟩

/-! ## Names behind a path -/

section

variable {d n : Text}

/-- **How a name is put behind a path**: after a slash, which may be there already. -/
lemma joinPath_eq (hd : d ≠ []) (hn : IsName n) : joinPath d n = chomp '/' d ++ '/' :: n := by
  have hrelative : isAbsolute n = false := by
    cases n with
    | nil => rfl
    | cons c n =>
      have hc : c ≠ '/' := fun h => hn.slash_notMem (h ▸ List.mem_cons_self)
      simpa [isAbsolute] using hc
  have hd' : d.isEmpty = false := by simpa using hd
  rw [joinPath, hrelative, hd', chomp]
  by_cases hlast : d.getLast? = some '/'
  · obtain ⟨e, rfl⟩ := List.getLast?_eq_some_iff.mp hlast
    simp
  · simp [hlast]

/-- A path starts as it does without a slash at its end. -/
lemma exists_eq_chomp_append (d : Text) : ∃ e, d = chomp '/' d ++ e := by
  rw [chomp]
  split
  · next hlast =>
    obtain ⟨e, rfl⟩ := List.getLast?_eq_some_iff.mp hlast
    exact ⟨['/'], by simp⟩
  · exact ⟨[], by simp⟩

/-- A joined path is not empty. -/
lemma joinPath_ne_nil (hd : d ≠ []) (hn : IsName n) : joinPath d n ≠ [] := by
  rw [joinPath_eq hd hn]
  simp

/-- A joined path has no slash at its end. -/
lemma chomp_joinPath (hd : d ≠ []) (hn : IsName n) : chomp '/' (joinPath d n) = joinPath d n := by
  have hlast : (joinPath d n).getLast? ≠ some '/' := by
    rw [joinPath_eq hd hn, List.getLast?_append_of_ne_nil _ (List.cons_ne_nil _ _),
      List.getLast?_cons_of_ne_nil hn.ne_nil]
    exact fun h => hn.slash_notMem (List.mem_of_getLast? h)
  rw [chomp, if_neg hlast]

/-! ## The parts of a joined path -/

/-- The pieces on both sides of a slash. -/
lemma pathPieces_append_slash (d n : Text) :
    pathPieces (d ++ '/' :: n) = pathPieces d ++ pathPieces n := by
  rw [pathPieces, split_append_mark, List.filter_append]
  rfl

/-- A name is its own piece. -/
lemma IsName.pathPieces_eq (hn : IsName n) : pathPieces n = [n] := by
  rw [pathPieces, split_of_not_mem hn.slash_notMem]
  simp [hn.ne_nil, hn.ne_dot]

/-- A slash at the end of a path makes no piece. -/
lemma pathPieces_chomp (d : Text) : pathPieces (chomp '/' d) = pathPieces d := by
  rw [chomp]
  split
  · next hlast =>
    obtain ⟨e, rfl⟩ := List.getLast?_eq_some_iff.mp hlast
    rw [List.dropLast_concat, pathPieces_append_slash]
    simp [pathPieces, split]
  · rfl

/-- A name behind a path is its last piece. -/
lemma pathPieces_joinPath (hd : d ≠ []) (hn : IsName n) :
    pathPieces (joinPath d n) = pathPieces d ++ [n] := by
  rw [joinPath_eq hd hn, pathPieces_append_slash, pathPieces_chomp, hn.pathPieces_eq]

/-- The part in front of all pieces: a root or a leading dot. -/
def leadingPart : Text → List PathPart
  | [] => []
  | c :: rest =>
    if c = '/' then [.root]
    else if c = '.' ∧ (rest = [] ∨ rest.head? = some '/') then [.here] else []

/-- The parts of a path are its leading part and its pieces. -/
lemma pathParts_eq (path : Text) :
    pathParts path = leadingPart path ++ (pathPieces path).map PathPart.ofPiece := by
  unfold pathParts
  split
  · simp [leadingPart]
  · simp [leadingPart]
  · simp [leadingPart, pathPieces, split]
  · next h₁ h₂ h₃ =>
    cases path with
    | nil => rfl
    | cons c rest =>
      have hroot : c ≠ '/' := fun h => h₁ rest (by rw [h])
      have hhere : ¬ (c = '.' ∧ (rest = [] ∨ rest.head? = some '/')) := by
        rintro ⟨rfl, rfl | hslash⟩
        · exact h₃ rfl
        · obtain ⟨more, rfl⟩ := List.head?_eq_some_iff.mp hslash
          exact h₂ more rfl
      simp [leadingPart, hroot, hhere]

/-- What comes behind a slash does not change the leading part of a path. -/
lemma leadingPart_slash {e : Text} (he : e ≠ []) (n : Text) :
    leadingPart (e ++ '/' :: n) = leadingPart e := by
  obtain ⟨c, rest, rfl⟩ := List.exists_cons_of_ne_nil he
  cases rest <;> simp [leadingPart]

/-- The leading part of a path is not changed by a slash at its end. -/
lemma leadingPart_chomp (hne : chomp '/' d ≠ []) : leadingPart (chomp '/' d) = leadingPart d := by
  rw [chomp] at hne ⊢
  split
  · next hlast =>
    obtain ⟨e, rfl⟩ := List.getLast?_eq_some_iff.mp hlast
    rw [if_pos hlast, List.dropLast_concat] at hne
    rw [List.dropLast_concat, leadingPart_slash hne]
  · rfl

/-- Without its slash at the end a path is only empty if it is the root. -/
lemma eq_slash_of_chomp (hd : d ≠ []) (hnil : chomp '/' d = []) : d = ['/'] := by
  rw [chomp] at hnil
  split at hnil
  · next hlast =>
    obtain ⟨e, rfl⟩ := List.getLast?_eq_some_iff.mp hlast
    simpa using hnil
  · exact absurd hnil hd

/-- The leading part of a joined path. -/
lemma leadingPart_joinPath (hd : d ≠ []) (hn : IsName n) :
    leadingPart (joinPath d n) = leadingPart d := by
  rw [joinPath_eq hd hn]
  by_cases hnil : chomp '/' d = []
  · rw [hnil, eq_slash_of_chomp hd hnil]
    rfl
  · rw [leadingPart_slash hnil, leadingPart_chomp hnil]

/-- **A name behind a path is its last part.** -/
lemma pathParts_joinPath (hd : d ≠ []) (hn : IsName n) :
    pathParts (joinPath d n) = pathParts d ++ [.name n] := by
  have hpart : PathPart.ofPiece n = .name n := if_neg hn.ne_dots
  rw [pathParts_eq, pathPieces_joinPath hd hn, leadingPart_joinPath hd hn, pathParts_eq d,
    List.map_append, List.append_assoc, List.map_singleton, hpart]

/-! ## Folders -/

/-- The spelling of a directory as the folder of what is in it: without one slash at its end, unless
it is the root. -/
def folderOf (d : Text) : Text :=
  if chomp '/' d = [] then ['/'] else chomp '/' d

/-- The folder of a directory is never empty. -/
lemma folderOf_ne_nil (d : Text) : folderOf d ≠ [] := by
  unfold folderOf
  split
  · simp
  · assumption

/-- A slash at its end is left out. -/
lemma folderOf_append_slash (d : Text) : folderOf (d ++ ['/']) = if d = [] then ['/'] else d := by
  have hchomp : chomp '/' (d ++ ['/']) = d := by simp [chomp]
  rw [folderOf, hchomp]

/-- A directory and its spelling as a folder have the same pieces. -/
lemma pathPieces_folderOf (d : Text) : pathPieces (folderOf d) = pathPieces d := by
  unfold folderOf
  split
  · next hnil =>
    rw [← pathPieces_chomp d, hnil]
    simp [pathPieces, split]
  · exact pathPieces_chomp d

/-- **A directory and its spelling as a folder have the same parts.** -/
lemma pathParts_folderOf (hd : d ≠ []) : pathParts (folderOf d) = pathParts d := by
  unfold folderOf
  split
  · next hnil => rw [eq_slash_of_chomp hd hnil]
  · next hne => rw [pathParts_eq, pathParts_eq, pathPieces_chomp, leadingPart_chomp hne]

end

/-! ## Several names -/

section

variable {names : List Text} {d : Text}

/-- A path stays non-empty when names are joined to it. -/
lemma foldl_joinPath_ne_nil (hd : d ≠ []) (hnames : ∀ n ∈ names, IsName n) :
    names.foldl joinPath d ≠ [] := by
  induction names generalizing d with
  | nil => exact hd
  | cons n names ih =>
    obtain ⟨hn, hnames⟩ := List.forall_mem_cons.mp hnames
    exact ih (joinPath_ne_nil hd hn) hnames

/-- **Names behind a path are its last parts.** -/
lemma pathParts_foldl_joinPath (hd : d ≠ []) (hnames : ∀ n ∈ names, IsName n) :
    pathParts (names.foldl joinPath d) = pathParts d ++ names.map .name := by
  induction names generalizing d with
  | nil => simp
  | cons n names ih =>
    obtain ⟨hn, hnames⟩ := List.forall_mem_cons.mp hnames
    rw [List.foldl_cons, ih (joinPath_ne_nil hd hn) hnames, pathParts_joinPath hd hn]
    simp

end

end Gloss
