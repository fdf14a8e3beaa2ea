import Gloss.Proofs.Call.Bytes
import Gloss.Proofs.Script.Path

/-!
# Addresses of scripts

A `file://` address spells the bytes of a path. Any byte may be written as a percent sign with two
hexadecimal digits, and a percent sign has to be. This module says what such a spelling is, byte by
byte, and shows that an address is read as the path that it spells, however much of it is escaped.

An address starts with the slash of an absolute path. In front of a drive letter that slash is not
part of the path.

## Main definitions

* `PercentEncodes`: bytes spell other bytes in percent encoding.
* `IsDrivePath`: a path that starts with a drive letter.

## Main results

* `Text.percentDecode_eq_of_percentEncodes`: decoding a spelling gives the bytes that it spells.
* `Text.ofUtf8_toUtf8`: the bytes of a text are read as that text.
* `ScriptPath.read_address_eq_read_path`: an address and the path that it spells are read alike.
-/

set_option relaxedAutoImplicit false
set_option autoImplicit false

namespace Gloss

open Text

/-! ## Percent encoding -/

/-- The first bytes spell the second ones: each byte other than the percent sign stands for itself
or is escaped, and the percent sign is escaped. -/
inductive PercentEncodes : (encoded bytes : List UInt8) → Prop
  /-- There is nothing to spell. -/
  | nil : PercentEncodes [] []
  /-- A byte that is no percent sign stands for itself. -/
  | kept {b : UInt8} {encoded bytes : List UInt8} (hb : b ≠ 0x25)
    (hrest : PercentEncodes encoded bytes) :
    PercentEncodes (b :: encoded) (b :: bytes)
  /-- A percent sign and two hexadecimal digits, in either case, stand for a byte. -/
  | escaped {high low : UInt8} {h l : Nat} {encoded bytes : List UInt8}
    (hhigh : hexDigit? (Char.ofUInt8 high) = some h) (hlow : hexDigit? (Char.ofUInt8 low) = some l)
    (hrest : PercentEncodes encoded bytes) :
    PercentEncodes (0x25 :: high :: low :: encoded) (UInt8.ofNat (16 * h + l) :: bytes)

/-- Bytes without percent signs stand for themselves. -/
lemma PercentEncodes.exists_of_append {w encoded bytes : List UInt8} (hw : 0x25 ∉ w)
    (h : PercentEncodes (w ++ encoded) bytes) :
    ∃ rest, bytes = w ++ rest ∧ PercentEncodes encoded rest := by
  induction w generalizing bytes with
  | nil => exact ⟨bytes, rfl, h⟩
  | cons b w ih =>
    rw [List.mem_cons, not_or] at hw
    rw [List.cons_append] at h
    generalize htail : w ++ encoded = tail at h
    cases h with
    | kept _ hrest =>
      obtain ⟨rest, rfl, hencodes⟩ := ih hw.2 (htail ▸ hrest)
      exact ⟨rest, rfl, hencodes⟩
    | escaped _ _ _ => exact absurd rfl hw.1

namespace Text

/-- The bytes of the first character come first. -/
lemma toUtf8_cons (c : Char) (t : Text) : toUtf8 (c :: t) = String.utf8EncodeChar c ++ toUtf8 t :=
  List.flatMap_cons

/-- A character of one byte is that byte. -/
lemma exists_utf8EncodeChar_eq_singleton {c : Char} (h : IsAscii c) :
    ∃ b, String.utf8EncodeChar c = [b] ∧ Char.ofUInt8 b = c := by
  have hbytes : (String.utf8EncodeChar c).map Char.ofUInt8 = [c] := by
    simpa [bytes, toUtf8] using bytes_singleton h
  obtain ⟨b, hb, hc⟩ := List.map_eq_singleton_iff.mp hbytes
  exact ⟨b, hb, hc⟩

/-- No byte of any other character is ASCII. -/
lemma not_isAscii_of_mem_utf8EncodeChar {c : Char} {b : UInt8} (hc : ¬ IsAscii c)
    (hb : b ∈ String.utf8EncodeChar c) : ¬ IsAscii (Char.ofUInt8 b) := by
  refine not_isAscii_of_mem_bytes hc (List.mem_map_of_mem ?_)
  simpa [toUtf8] using hb

/-- A byte of ASCII at the start is the first character. -/
lemma exists_eq_cons_of_toUtf8_eq_cons {t : Text} {b : UInt8} {rest : List UInt8}
    (hb : IsAscii (Char.ofUInt8 b)) (h : toUtf8 t = b :: rest) :
    ∃ t', t = Char.ofUInt8 b :: t' ∧ toUtf8 t' = rest := by
  cases t with
  | nil => simp [toUtf8] at h
  | cons c t =>
    rw [toUtf8_cons] at h
    by_cases hc : IsAscii c
    · obtain ⟨d, hd, rfl⟩ := exists_utf8EncodeChar_eq_singleton hc
      rw [hd] at h
      obtain ⟨rfl, hrest⟩ := List.cons.inj h
      exact ⟨t, rfl, hrest⟩
    · obtain ⟨d, ds, hds⟩ := List.exists_cons_of_ne_nil (String.utf8EncodeChar_ne_nil (c := c))
      rw [hds] at h
      obtain ⟨rfl, -⟩ := List.cons.inj h
      exact absurd hb (not_isAscii_of_mem_utf8EncodeChar hc (by rw [hds]; exact List.mem_cons_self))

/-- The percent sign is a byte of no other character. -/
lemma percent_notMem_utf8EncodeChar {c : Char} (h : c ≠ '%') : 0x25 ∉ String.utf8EncodeChar c := by
  intro hmem
  by_cases hc : IsAscii c
  · obtain ⟨b, hb, rfl⟩ := exists_utf8EncodeChar_eq_singleton hc
    rw [hb, List.mem_singleton] at hmem
    exact h (hmem ▸ rfl)
  · exact not_isAscii_of_mem_utf8EncodeChar hc hmem (by decide)

/-- A hexadecimal digit is ASCII. -/
lemma isAscii_of_hexDigit? {c : Char} {n : Nat} (h : hexDigit? c = some n) : IsAscii c := by
  have hle : ∀ d : Char, c ≤ d → IsAscii d → IsAscii c := fun d hcd hd => Nat.le_trans hcd hd
  unfold hexDigit? at h
  split at h
  · next hdigit => exact hle _ hdigit.2 (by decide)
  · split at h
    · next hletter => exact hle _ hletter.2 (by decide)
    · split at h
      · next hletter => exact hle _ hletter.2 (by decide)
      · simp at h

/-- A character other than the percent sign is decoded to its own bytes. -/
lemma percentDecode_cons_of_ne {c : Char} (h : c ≠ '%') (t : Text) :
    percentDecode (c :: t) = String.utf8EncodeChar c ++ percentDecode t := by
  cases t with
  | nil => simp [percentDecode]
  | cons d t =>
    cases t with
    | nil => rfl
    | cons e t =>
      rw [percentDecode]
      exact fun _ _ hpercent => absurd hpercent h

/-- A percent sign with two digits is decoded to one byte. -/
lemma percentDecode_escaped {high low : Char} {h l : Nat} (hhigh : hexDigit? high = some h)
    (hlow : hexDigit? low = some l) (t : Text) :
    percentDecode ('%' :: high :: low :: t) = UInt8.ofNat (16 * h + l) :: percentDecode t := by
  simp only [percentDecode, hhigh, hlow]

/-- **Decoding a spelling gives the bytes that it spells.**

**Proof sketch.** Induction on the length of the text. Decoding goes over characters and spelling
over bytes: behind a percent sign stand two digits, which are characters of one byte each, and no
other character has the percent sign among its bytes. -/
lemma percentDecode_eq_of_percentEncodes {e : Text} {bytes : List UInt8}
    (h : PercentEncodes e.toUtf8 bytes) : percentDecode e = bytes := by
  induction hlen : e.length using Nat.strongRecOn generalizing e bytes with
  | ind len ih =>
    cases e with
    | nil =>
      cases h with
      | nil => rfl
    | cons c t =>
      by_cases hc : c = '%'
      · subst hc
        have hpercent : toUtf8 ('%' :: t) = 0x25 :: toUtf8 t := rfl
        rw [hpercent] at h
        generalize hrest : toUtf8 t = rest at h
        cases h with
        | kept hb _ => exact absurd rfl hb
        | escaped hhigh hlow hencodes =>
          obtain ⟨t, rfl, ht⟩ := exists_eq_cons_of_toUtf8_eq_cons (isAscii_of_hexDigit? hhigh) hrest
          obtain ⟨t, rfl, rfl⟩ := exists_eq_cons_of_toUtf8_eq_cons (isAscii_of_hexDigit? hlow) ht
          rw [percentDecode_escaped hhigh hlow, ih t.length (by simp [← hlen]; omega) hencodes rfl]
      · rw [toUtf8_cons] at h
        obtain ⟨rest, rfl, hencodes⟩ := h.exists_of_append (percent_notMem_utf8EncodeChar hc)
        rw [percentDecode_cons_of_ne hc, ih t.length (by simp [← hlen]) hencodes rfl]

/-- **The bytes of a text are read as that text.** -/
lemma ofUtf8_toUtf8 (t : Text) : ofUtf8 t.toUtf8 = .ok t := by
  have harray : ByteArray.mk t.toUtf8.toArray = t.utf8Encode :=
    ByteArray.ext List.data_toByteArray.symm
  simp [ofUtf8, harray, List.utf8Decode?_utf8Encode]

end Text

/-! ## Drive letters -/

/-- The path starts with a drive: a letter of ASCII and a colon. -/
def IsDrivePath (p : Text) : Prop :=
  ∃ drive rest, p = drive :: ':' :: rest ∧ isAsciiLetter drive = true

/-- The slash before a drive is dropped. -/
lemma dropDriveSlash_of_isDrivePath {p : Text} (h : IsDrivePath p) :
    dropDriveSlash ('/' :: p) = p := by
  obtain ⟨drive, rest, rfl, hdrive⟩ := h
  simp [dropDriveSlash, hdrive]

/-- The slash before any other path stays. -/
lemma dropDriveSlash_of_not_isDrivePath {p : Text} (h : ¬ IsDrivePath p) :
    dropDriveSlash ('/' :: p) = '/' :: p := by
  unfold dropDriveSlash
  split
  · next drive rest heq =>
    rw [if_neg fun hdrive => h ⟨drive, rest, (List.cons.inj heq).2, hdrive⟩]
  · rfl

/-! ## Reading addresses -/

/-- An address names the path that it spells. -/
lemma identifiedPath_address {e p : Text} (h : PercentEncodes e.toUtf8 p.toUtf8) :
    identifiedPath ("file://".toList ++ e) = .ok (dropDriveSlash p) := by
  have hafter : after? "file://".toList ("file://".toList ++ e) = some e :=
    after?_eq_some_iff.mpr rfl
  rw [identifiedPath, hafter]
  simp only [percentDecode_eq_of_percentEncodes h, ofUtf8_toUtf8]

/-- An absolute path is no address. -/
lemma identifiedPath_slash (p : Text) : identifiedPath ('/' :: p) = .ok ('/' :: p) := rfl

/-- A path with a drive is no address: the second letter of an address is no colon. -/
lemma identifiedPath_of_isDrivePath {p : Text} (h : IsDrivePath p) : identifiedPath p = .ok p := by
  obtain ⟨drive, rest, rfl, -⟩ := h
  have hafter : after? "file://".toList (drive :: ':' :: rest) = none := by
    rw [Option.eq_none_iff_forall_ne_some]
    intro more hmore
    have heq := after?_eq_some_iff.mp hmore
    exact absurd (List.cons.inj (List.cons.inj heq).2).1 (by decide)
  rw [identifiedPath, hafter]

namespace ScriptPath

/-- Reading gives the identified path with forward slashes, if that has a segment. -/
lemma read_eq_ok_iff {identifier path : Text} {q : ScriptPath}
    (h : identifiedPath identifier = .ok path) :
    read identifier = .ok q ↔ q.path = forwardSlashes path := by
  simp only [read, h]
  split
  · rw [Except.ok.injEq, eq_comm]
    constructor
    · rintro rfl
      rfl
    · intro hpath
      cases q
      simp_all
  · next hnone =>
    refine iff_of_false (by simp) fun hpath => hnone ?_
    rw [← hpath]
    exact q.segments_ne_nil

/-- Identifiers of one path are read alike. -/
lemma read_congr {identifier identifier' : Text}
    (h : identifiedPath identifier = identifiedPath identifier') :
    read identifier = read identifier' := by
  simp only [read, h]

/-- **An address and the path that it spells are read alike**, however much of the path is escaped.
An absolute path that does not go on with a drive is spelled right behind `file://`, and a path with
a drive behind one more slash. Either reading gives the path with forward slashes, and fails only if
that has no segment.

**Proof sketch.** The escapes are decoded to the path. A slash in front of a drive is left out and
any other is kept, so the path is what is read in both cases. -/
theorem read_address_eq_read_path {e p : Text} (h : PercentEncodes e.toUtf8 p.toUtf8) :
    (∀ rest, p = '/' :: rest → ¬ IsDrivePath rest →
      read ("file://".toList ++ e) = read p ∧ ∀ q, read p = .ok q ↔ q.path = forwardSlashes p) ∧
    (IsDrivePath p →
      read ("file:///".toList ++ e) = read p ∧ ∀ q, read p = .ok q ↔
        q.path = forwardSlashes p) := by
  constructor
  · rintro rest rfl hdrive
    have hpath := identifiedPath_slash rest
    refine ⟨read_congr ?_, fun q => read_eq_ok_iff hpath⟩
    rw [identifiedPath_address h, dropDriveSlash_of_not_isDrivePath hdrive, hpath]
  · intro hdrive
    have hpath := identifiedPath_of_isDrivePath hdrive
    have hslash : PercentEncodes (toUtf8 ('/' :: e)) (toUtf8 ('/' :: p)) := .kept (by decide) h
    refine ⟨read_congr ?_, fun q => read_eq_ok_iff hpath⟩
    rw [hpath, ← dropDriveSlash_of_isDrivePath hdrive, ← identifiedPath_address hslash]
    rfl

/-- A percent sign, a letter of two bytes, a slash and the colon of a drive are escaped, with digits
of either case, and backslashes and other slashes are not. -/
theorem read_address_eq_read_path_escaped :
    (PercentEncodes (toUtf8 "/a%2fb:%25".toList) (toUtf8 "/a/b:%".toList) ∧
      ¬ IsDrivePath "a/b:%".toList ∧
      read ("file://".toList ++ "/a%2fb:%25".toList) = read "/a/b:%".toList) ∧
    PercentEncodes (toUtf8 "c%3a\\%25%C3%a9".toList) (toUtf8 "c:\\%é".toList) ∧
      IsDrivePath "c:\\%é".toList ∧
      read ("file:///".toList ++ "c%3a\\%25%C3%a9".toList) = read "c:\\%é".toList := by
  have hplain : PercentEncodes (toUtf8 "/a%2fb:%25".toList) (toUtf8 "/a/b:%".toList) :=
    .kept (by decide) <| .kept (by decide) <| .escaped (h := 2) (l := 15) rfl rfl <|
      .kept (by decide) <|
      .kept (by decide) <| .escaped (h := 2) (l := 5) rfl rfl .nil
  have hnot : ¬ IsDrivePath "a/b:%".toList := by
    rintro ⟨c, rest, heq, -⟩
    simp at heq
  have hencodes : PercentEncodes (toUtf8 "c%3a\\%25%C3%a9".toList) (toUtf8 "c:\\%é".toList) :=
    .kept (by decide) <| .escaped (h := 3) (l := 10) rfl rfl <| .kept (by decide) <|
      .escaped (h := 2) (l := 5) rfl rfl <| .escaped (h := 12) (l := 3) rfl rfl <|
      .escaped (h := 10) (l := 9) rfl rfl .nil
  have hdrive : IsDrivePath "c:\\%é".toList := ⟨'c', "\\%é".toList, rfl, rfl⟩
  exact ⟨⟨hplain, hnot, ((read_address_eq_read_path hplain).1 _ rfl hnot).1⟩,
    hencodes, hdrive, ((read_address_eq_read_path hencodes).2 hdrive).1⟩

end ScriptPath

end Gloss
