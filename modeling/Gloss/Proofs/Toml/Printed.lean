import Gloss.Proofs.Toml.Lexeme

/-!
# Printed documents are read back

A document that is printed is read as the same document. Values are printed inside longer texts, so
the statement for a value is about the text of the value and what follows: the reader gives the
value and leaves what follows, as long as that starts with one of the characters that end a value.
The bound that the reader counts down is no obstacle: one step is enough for every character.

Numbers with a fraction are kept as they were written, and are left out here.

## Main definitions

* `Toml.ReadsBack`: a value is read back from its text, inside a number of lists and tables.

## Main results

* `Toml.readsBack_text`, `Toml.readsBack_nat`, `Toml.readsBack_boolean`: simple values.
* `Toml.readsBack_list`, `Toml.readsBack_table`: lists, and tables whose keys differ, if their items
  are read back.
* `Toml.read?_render`: documents.
-/

set_option relaxedAutoImplicit false
set_option autoImplicit false

namespace Gloss

namespace Toml

/-! ## Values -/

/-- A value is read back from its text, whatever follows a character that ends it; `height` is the
number of lists and tables that may be opened in it. -/
structure ReadsBack (height : Nat) (v : Value) : Prop where
  /-- The text starts like that of a value. -/
  start : ∃ c t, renderValue v = c :: t ∧ isValueStart c = true
  /-- The reader gives the value and leaves what follows its text. -/
  read : ∀ {bound depth : Nat} {c : Char} (rest : Text), (renderValue v).length ≤ bound →
    depth + height < depthLimit → isValueEnd c = true →
    readValue bound depth (renderValue v ++ c :: rest) = some (v, c :: rest)

namespace ReadsBack

variable {height : Nat} {v : Value}

/-- What is read back within a height is read back within a greater one. -/
lemma mono {higher : Nat} (h : ReadsBack height v) (hle : height ≤ higher) :
    ReadsBack higher v where
  start := h.start
  read := fun rest hbound hdepth hc => h.read rest hbound (by omega) hc

end ReadsBack

/-- A text is read back. -/
lemma readsBack_text (s : Text) : ReadsBack 0 (.text s) where
  start := ⟨'"', _, rfl, by decide⟩
  read := by
    intro bound depth c rest hbound _ hc
    have hquote : c ≠ '"' := ne_of_class hc (by decide)
    obtain ⟨bound, rfl⟩ : ∃ b, bound = b + 1 :=
      Nat.exists_eq_add_one_of_ne_zero (by simp [renderValue, renderString] at hbound; omega)
    have hread := readString_renderString s hquote rest
    rw [renderValue]
    rw [renderString_append] at hread ⊢
    rw [readValue, hread]
    · simp
    · simp

/-- A word that is no text, list or table is read by its characters. -/
lemma readValue_word {word : Text} {bound depth : Nat} {c : Char} {v : Value} (rest : Text)
    (hstart : ∃ d t, word = d :: t ∧ d ≠ '"' ∧ d ≠ '\'' ∧ d ≠ '[' ∧ d ≠ '{')
    (hword : word.all isWordChar = true) (hc : isValueEnd c = true)
    (hv : valueOfWord? word = some v) :
    readValue (bound + 1) depth (word ++ c :: rest) = some (v, c :: rest) := by
  have htake : takeWord (word ++ c :: rest) = word := by
    have hend : isWordChar c = false := by
      by_contra hne
      rw [Bool.not_eq_false] at hne
      simp only [isValueEnd, Bool.or_eq_true, beq_iff_eq] at hc
      rcases hc with ((rfl | rfl) | rfl) | rfl <;> exact absurd hne (by decide)
    have hspace : c ≠ ' ' := ne_of_class hc (by decide)
    have hrun : (word ++ c :: rest).takeWhile isWordChar = word := by
      rw [List.takeWhile_append_of_pos (List.all_eq_true.mp hword),
        List.takeWhile_cons_of_neg (by simp [hend]),
        List.append_nil]
    simp [takeWord, hrun, hspace]
  obtain ⟨d, t, rfl, hquote, hsingle, hlist, htable⟩ := hstart
  have hstring : readString (d :: t ++ c :: rest) = none := by
    unfold readString
    split <;> simp_all
  rw [readValue, hstring]
  · simp only [htake, hv]
    simp [hquote, hsingle]
  · simpa using fun h => absurd h hlist
  · simpa using fun h => absurd h htable

/-- A truth value is read back. -/
lemma readsBack_boolean (b : Bool) : ReadsBack 0 (.boolean b) where
  start := by
    cases b
    · exact ⟨'f', _, rfl, by decide⟩
    · exact ⟨'t', _, rfl, by decide⟩
  read := by
    intro bound depth c rest hbound _ hc
    have hlength : 0 < (renderValue (.boolean b)).length := by cases b <;> decide
    obtain ⟨bound, rfl⟩ := Nat.exists_eq_add_one_of_ne_zero (by omega : bound ≠ 0)
    cases b
    · exact readValue_word rest ⟨'f', _, rfl, by decide⟩ (by decide) hc rfl
    · exact readValue_word rest ⟨'t', _, rfl, by decide⟩ (by decide) hc rfl

/-- A natural number of 64 bits is read back. -/
lemma readsBack_nat {n : Nat} (hn : isInt64 n = true) : ReadsBack 0 (.integer n) := by
  have hrender : renderValue (.integer n) = Text.ofNat n := rfl
  obtain ⟨d, t, hdt⟩ := List.exists_cons_of_ne_nil (Nat.toDigits_ne_nil (b := 10) (n := n))
  have hd : Text.isAsciiDigit d = true := isAsciiDigit_of_mem_ofNat (hdt ▸ List.mem_cons_self)
  refine ⟨⟨d, t, hrender.trans hdt, by simp [isValueStart, hd]⟩, ?_⟩
  intro bound depth c rest hbound _ hc
  rw [hrender] at hbound ⊢
  have hlength : 0 < (Text.ofNat n).length := Nat.length_toDigits_pos
  obtain ⟨bound, rfl⟩ := Nat.exists_eq_add_one_of_ne_zero (by omega : bound ≠ 0)
  refine readValue_word rest ⟨d, t, hdt, ?_⟩ ?_ hc (valueOfWord?_ofNat hn)
  · exact ⟨ne_of_class hd (by decide), ne_of_class hd (by decide), ne_of_class hd (by decide),
      ne_of_class hd (by decide)⟩
  · rw [List.all_eq_true]
    intro e he
    simp [isWordChar, isBareKey, isAsciiDigit_of_mem_ofNat he]

/-! ## Lists -/

section Lists

variable {height : Nat}

/-- A comma and a space stand between the items of a list. -/
lemma renderItems_cons_cons (v w : Value) (items : List Value) :
    renderItems (v :: w :: items) = renderValue v ++ ',' :: ' ' :: renderItems (w :: items) := by
  simp [renderItems]

/-- The text of items starts like that of the first. -/
lemma renderItems_start {v : Value} (h : ReadsBack height v) (items : List Value) :
    ∃ c t, renderItems (v :: items) = c :: t ∧ isValueStart c = true := by
  obtain ⟨c, t, hv, hc⟩ := h.start
  cases items with
  | nil => exact ⟨c, t, by rw [renderItems, hv], hc⟩
  | cons w items => exact ⟨c, _, by rw [renderItems_cons_cons, hv, List.cons_append], hc⟩

section

variable {bound depth : Nat} {t start rest : Text} {v : Value}
  (ht : skipBlank t.length t = start) (hstart : ∀ r, start ≠ ']' :: r)
include ht hstart

/-- The item before the closing bracket is the last. -/
lemma readItems_last (hread : readValue bound depth start = some (v, ']' :: rest)) :
    readItems (bound + 1) depth t = some ([v], rest) := by
  rw [readItems, ht]
  split
  · next r => exact absurd rfl (hstart r)
  · rw [hread]
    simp only [skipBlank_cons (c := ']') (by decide)]

/-- The item before a comma is followed by others. -/
lemma readItems_next (hread : readValue bound depth start = some (v, ',' :: rest)) :
    readItems (bound + 1) depth t =
      (readItems bound depth rest).map fun p => (v :: p.1, p.2) := by
  rw [readItems, ht]
  split
  · next r => exact absurd rfl (hstart r)
  · rw [hread]
    simp only [skipBlank_cons (c := ',') (by decide)]

end

/-- Items are read back one after the other, up to the closing bracket. -/
lemma readItems_renderItems {items : List Value} (h : ∀ v ∈ items, ReadsBack height v) {t : Text}
    (rest : Text) {bound depth : Nat} (ht : skipBlank t.length t = renderItems items ++ ']' :: rest)
    (hbound : (renderItems items).length < bound) (hdepth : depth + height < depthLimit) :
    readItems bound depth t = some (items, rest) := by
  induction items generalizing bound t with
  | nil =>
    obtain ⟨bound, rfl⟩ := Nat.exists_eq_add_one_of_ne_zero (Nat.ne_zero_of_lt hbound)
    rw [readItems, ht]
    rfl
  | cons v items ih =>
    obtain ⟨bound, rfl⟩ := Nat.exists_eq_add_one_of_ne_zero (Nat.ne_zero_of_lt hbound)
    rw [List.forall_mem_cons] at h
    have hstart : ∀ r, renderItems (v :: items) ++ ']' :: rest ≠ ']' :: r := by
      obtain ⟨c, start, hv, hc⟩ := renderItems_start h.1 items
      have hbracket : c ≠ ']' := ne_of_class hc (by decide)
      simp [hv, hbracket]
    cases items with
    | nil =>
      refine readItems_last ht hstart ?_
      exact h.1.read rest (Nat.le_of_lt_succ hbound) hdepth (by decide)
    | cons w items =>
      obtain ⟨c, start, hw, hc⟩ := renderItems_start (h.2 w List.mem_cons_self) items
      have hblank := isSkipped_of_isValueStart hc
      rw [renderItems_cons_cons, List.length_append, List.length_cons, List.length_cons] at hbound
      rw [renderItems_cons_cons, List.append_assoc, List.cons_append, List.cons_append] at ht hstart
      -- What is left for the other items starts with the space behind the comma.
      have hnext : readItems bound depth (' ' :: (renderItems (w :: items) ++ ']' :: rest)) =
          some (w :: items, rest) := by
        refine ih h.2 ?_ (by omega)
        rw [hw, List.cons_append, skipBlank_space_cons hblank]
      rw [readItems_next ht hstart (h.1.read _ (by omega) hdepth (by decide)), hnext]
      rfl

/-- A list is read back if its items are. -/
lemma readsBack_list {items : List Value} (h : ∀ v ∈ items, ReadsBack height v) :
    ReadsBack (height + 1) (.list items) where
  start := ⟨'[', _, rfl, by decide⟩
  read := by
    intro bound depth c rest hbound hdepth _
    have hlength : (renderValue (.list items)).length = (renderItems items).length + 2 := by
      simp [renderValue]
    obtain ⟨bound, rfl⟩ := Nat.exists_eq_add_one_of_ne_zero (by omega : bound ≠ 0)
    have hopen : renderValue (.list items) ++ c :: rest =
        '[' :: (renderItems items ++ ']' :: c :: rest) := by
      simp [renderValue]
    have hblank : skipBlank (renderItems items ++ ']' :: c :: rest).length
        (renderItems items ++ ']' :: c :: rest) = renderItems items ++ ']' :: c :: rest := by
      cases items with
      | nil => exact skipBlank_cons (by decide) _
      | cons v items =>
        obtain ⟨d, start, hv, hd⟩ := renderItems_start (h v List.mem_cons_self) items
        rw [hv, List.cons_append, skipBlank_cons (isSkipped_of_isValueStart hd)]
    rw [hopen, readValue, if_pos (by omega),
      readItems_renderItems h (c :: rest) hblank (by omega) (by omega)]
    rfl

end Lists

/-! ## Tables -/

section Tables

variable {height : Nat}

/-- A new key is put behind the others. -/
lemma change_of_not_mem {key : Text} {entries : Entries} (h : key ∉ entries.map Prod.fst)
    (f : Option Entry → Option Entry) :
    change key f entries = (f none).map fun e => entries ++ [(key, e)] := by
  induction entries with
  | nil => rfl
  | cons first entries ih =>
    rw [List.map_cons, List.mem_cons, not_or] at h
    rw [change, if_neg (Ne.symm h.1), ih h.2, Option.map_map]
    rfl

/-- A value under a new key is put behind the others. -/
lemma addDotted_of_not_mem {key : Text} {entries : Entries} (h : key ∉ entries.map Prod.fst)
    (v : Value) : addDotted [] key v entries = some (entries ++ [(key, .value v)]) := by
  rw [addDotted, descend, addValue, change_of_not_mem h]
  rfl

section

variable {done : Entries} {e : Text × Value} {entries : List (Text × Value)}
  (hkeys : (done.map Prod.fst ++ (e :: entries).map Prod.fst).Nodup)
include hkeys

/-- The key of the next entry is new. -/
lemma key_not_mem : e.1 ∉ done.map Prod.fst := by
  intro hmem
  exact (List.nodup_append.mp hkeys).2.2 _ hmem _ List.mem_cons_self rfl

/-- The keys still differ when the next entry is done. -/
lemma nodup_keys_step (x : Entry) :
    ((done ++ [(e.1, x)]).map Prod.fst ++ entries.map Prod.fst).Nodup := by
  simpa using hkeys

end

/-- Values as they stand in a table that is being read. -/
def valueEntries (entries : List (Text × Value)) : Entries :=
  entries.map fun e => (e.1, .value e.2)

/-- The entries of values stand for these values. -/
lemma entriesToValues_valueEntries (entries : List (Text × Value)) :
    Entry.entriesToValues (valueEntries entries) = entries := by
  induction entries with
  | nil => rfl
  | cons e entries ih =>
    rw [valueEntries] at ih ⊢
    rw [List.map_cons, Entry.entriesToValues, ih, Entry.toValue]

/-- The text of an entry: its key, an equals sign and its value. -/
def renderEntry (e : Text × Value) : Text :=
  renderKey e.1 ++ ' ' :: '=' :: ' ' :: renderValue e.2

/-- One entry is written without a comma. -/
lemma renderEntries_singleton (e : Text × Value) : renderEntries [e] = renderEntry e := by
  obtain ⟨key, v⟩ := e
  simp [renderEntries, renderEntry]

/-- A comma and a space stand between entries. -/
lemma renderEntries_cons_cons (e f : Text × Value) (entries : List (Text × Value)) :
    renderEntries (e :: f :: entries) =
      renderEntry e ++ ',' :: ' ' :: renderEntries (f :: entries) := by
  obtain ⟨key, v⟩ := e
  simp [renderEntries, renderEntry]

/-- An entry is its key, an equals sign and its value, with what follows it. -/
lemma renderEntry_append (e : Text × Value) (t : Text) :
    renderEntry e ++ t = renderKey e.1 ++ ' ' :: '=' :: ' ' :: (renderValue e.2 ++ t) := by
  simp [renderEntry]

/-- The text of entries starts like that of a key. -/
lemma renderEntries_start (e : Text × Value) (entries : List (Text × Value)) :
    ∃ c t, renderEntries (e :: entries) = c :: t ∧ isKeyStart c = true := by
  obtain ⟨c, t, hkey, hc⟩ := renderKey_start e.1
  cases entries with
  | nil => exact ⟨c, _, by rw [renderEntries_singleton, renderEntry, hkey, List.cons_append], hc⟩
  | cons f entries =>
    exact ⟨c, _, by rw [renderEntries_cons_cons, renderEntry, hkey, List.cons_append,
      List.cons_append], hc⟩

/-- Only the space behind the equals sign is skipped. -/
lemma skipSpaces_renderValue {v : Value} (h : ReadsBack height v) (t : Text) :
    skipSpaces (' ' :: (renderValue v ++ t)) = renderValue v ++ t := by
  obtain ⟨c, start, hv, hc⟩ := h.start
  rw [skipSpaces_space, hv, List.cons_append,
    skipSpaces_cons (isSpace_of_isSkipped (isSkipped_of_isValueStart hc))]

section

variable {bound depth : Nat} {t rest : Text} {done : Entries} {e : Text × Value}
  (h : ReadsBack height e.2) (hnew : e.1 ∉ done.map Prod.fst)
  (hbound : (renderValue e.2).length ≤ bound) (hdepth : depth + height < depthLimit)
include h hnew hbound hdepth

/-- The entry before the closing brace is the last. -/
lemma readInline_last (ht : skipSpaces t = renderEntry e ++ '}' :: rest) :
    readInline (bound + 1) depth done t = some (done ++ [(e.1, .value e.2)], rest) := by
  rw [renderEntry_append] at ht
  rw [readInline, readKey_of_skipSpaces ht]
  simp only [skipSpaces_renderValue h, h.read (c := '}') rest hbound hdepth (by decide),
    addDotted_of_not_mem hnew, skipSpaces_cons (c := '}') (by decide)]

/-- The entry before a comma is followed by others. -/
lemma readInline_next (ht : skipSpaces t = renderEntry e ++ ',' :: rest) :
    readInline (bound + 1) depth done t =
      readInline bound depth (done ++ [(e.1, .value e.2)]) rest := by
  rw [renderEntry_append] at ht
  rw [readInline, readKey_of_skipSpaces ht]
  simp only [skipSpaces_renderValue h, h.read (c := ',') rest hbound hdepth (by decide),
    addDotted_of_not_mem hnew, skipSpaces_cons (c := ',') (by decide)]

end

/-- Entries are read back one after the other, up to the closing brace. -/
lemma readInline_renderEntries {e : Text × Value} {entries : List (Text × Value)}
    (h : ∀ f ∈ e :: entries, ReadsBack height f.2) {t : Text} (rest : Text) {done : Entries}
    {bound depth : Nat} (hkeys : (done.map Prod.fst ++ (e :: entries).map Prod.fst).Nodup)
    (ht : skipSpaces t = renderEntries (e :: entries) ++ '}' :: rest)
    (hbound : (renderEntries (e :: entries)).length ≤ bound)
    (hdepth : depth + height < depthLimit) :
    readInline bound depth done t = some (done ++ valueEntries (e :: entries), rest) := by
  induction entries generalizing bound t done e with
  | nil =>
    rw [renderEntries_singleton] at ht hbound
    have hlength : (renderValue e.2).length < (renderEntry e).length := by
      simp only [renderEntry, List.length_append, List.length_cons]
      omega
    obtain ⟨bound, rfl⟩ := Nat.exists_eq_add_one_of_ne_zero (by omega : bound ≠ 0)
    rw [readInline_last (h e List.mem_cons_self) (key_not_mem hkeys) (by omega) hdepth ht]
    rfl
  | cons f entries ih =>
    rw [renderEntries_cons_cons, List.append_assoc, List.cons_append, List.cons_append] at ht
    rw [renderEntries_cons_cons, List.length_append, List.length_cons, List.length_cons] at hbound
    have hlength : (renderValue e.2).length < (renderEntry e).length := by
      simp only [renderEntry, List.length_append, List.length_cons]
      omega
    obtain ⟨bound, rfl⟩ := Nat.exists_eq_add_one_of_ne_zero (by omega : bound ≠ 0)
    obtain ⟨c, start, hstart, hc⟩ := renderEntries_start f entries
    have hspace := isSpace_of_isSkipped (isSkipped_of_isKeyStart hc)
    have hnext : skipSpaces (' ' :: (renderEntries (f :: entries) ++ '}' :: rest)) =
        renderEntries (f :: entries) ++ '}' :: rest := by
      rw [skipSpaces_space, hstart, List.cons_append, skipSpaces_cons hspace]
    rw [readInline_next (h e List.mem_cons_self) (key_not_mem hkeys) (by omega) hdepth ht,
      ih (fun g hg => h g (List.mem_cons_of_mem e hg)) (nodup_keys_step hkeys _) hnext (by omega)]
    simp [valueEntries]

/-- A table is read back if its keys differ and its values are read back. -/
lemma readsBack_table {entries : List (Text × Value)} (hkeys : (entries.map Prod.fst).Nodup)
    (h : ∀ e ∈ entries, ReadsBack height e.2) : ReadsBack (height + 1) (.table entries) where
  start := ⟨'{', _, rfl, by decide⟩
  read := by
    intro bound depth c rest hbound hdepth _
    have hlength : (renderValue (.table entries)).length = (renderEntries entries).length + 2 := by
      simp [renderValue]
    obtain ⟨bound, rfl⟩ := Nat.exists_eq_add_one_of_ne_zero (by omega : bound ≠ 0)
    have hopen : renderValue (.table entries) ++ c :: rest =
        '{' :: (renderEntries entries ++ '}' :: c :: rest) := by
      simp [renderValue]
    rw [hopen, readValue, if_pos (by omega)]
    cases entries with
    | nil => rfl
    | cons e entries =>
      obtain ⟨d, start, hstart, hd⟩ := renderEntries_start e entries
      have hbrace : d ≠ '}' := ne_of_class hd (by decide)
      have hspaces : skipSpaces (renderEntries (e :: entries) ++ '}' :: c :: rest) =
          renderEntries (e :: entries) ++ '}' :: c :: rest := by
        rw [hstart, List.cons_append,
          skipSpaces_cons (isSpace_of_isSkipped (isSkipped_of_isKeyStart hd))]
      have hread : readInline bound (depth + 1) []
          (renderEntries (e :: entries) ++ '}' :: c :: rest) =
            some ([] ++ valueEntries (e :: entries), c :: rest) :=
        readInline_renderEntries h (c :: rest) (by simpa using hkeys) hspaces (by omega) (by omega)
      rw [hspaces]
      split
      · next heq =>
        rw [hstart] at heq
        exact absurd (List.cons.inj heq).1 hbrace
      · simp only [hread, Option.map_some, List.nil_append, entriesToValues_valueEntries]

end Tables

/-! ## Documents -/

/-- The text of entries on lines of their own. -/
lemma renderLines_cons (e : Text × Value) (entries : List (Text × Value)) :
    renderLines (e :: entries) = renderEntry e ++ '\n' :: renderLines entries := by
  obtain ⟨key, v⟩ := e
  simp [renderLines, renderEntry]

/-- A line is read as the entry that it is the text of. -/
lemma readKeyValue_renderEntry {height : Nat} {e : Text × Value} (h : ReadsBack height e.2)
    (hheight : height < depthLimit) {done : Entries} (hnew : e.1 ∉ done.map Prod.fst)
    (rest : Text) :
    readKeyValue ⟨done, []⟩ (renderEntry e ++ '\n' :: rest) =
      some (⟨done ++ [(e.1, .value e.2)], []⟩, '\n' :: rest) := by
  have hspaces : skipSpaces (renderEntry e ++ '\n' :: rest) =
      renderKey e.1 ++ ' ' :: '=' :: ' ' :: (renderValue e.2 ++ '\n' :: rest) := by
    obtain ⟨c, start, hstart, hc⟩ := renderKey_start e.1
    rw [renderEntry_append, hstart, List.cons_append,
      skipSpaces_cons (isSpace_of_isSkipped (isSkipped_of_isKeyStart hc))]
  have hread : readValue (2 * (' ' :: (renderValue e.2 ++ '\n' :: rest)).length + 2) 0
      (renderValue e.2 ++ '\n' :: rest) = some (e.2, '\n' :: rest) := by
    refine h.read rest ?_ (by omega) (by decide)
    simp only [List.length_cons, List.length_append]
    omega
  unfold readKeyValue
  rw [readKey_of_skipSpaces hspaces]
  simp only [skipSpaces_renderValue h, hread, Option.bind_some, descend, addDotted_of_not_mem hnew,
    Option.map_some]

/-- A line with a key is read, and then the others. -/
lemma readLines_line {doc next : Document} {c : Char} {t rest : Text} (hc : isKeyStart c = true)
    (hline : readKeyValue doc (c :: t) = some (next, '\n' :: rest)) (bound : Nat) :
    readLines (bound + 1) doc (c :: t) = readLines bound next rest := by
  have hbracket : c ≠ '[' := ne_of_class hc (by decide)
  have hafter : afterLine? ('\n' :: rest) = some rest := rfl
  rw [readLines, skipBlank_cons (isSkipped_of_isKeyStart hc)]
  simp [hbracket, hline, hafter]

/-- Lines are read back one after the other. -/
lemma readLines_renderLines {height : Nat} {entries : List (Text × Value)}
    (h : ∀ e ∈ entries, ReadsBack height e.2) (hheight : height < depthLimit) {done : Entries}
    (hkeys : (done.map Prod.fst ++ entries.map Prod.fst).Nodup) {bound : Nat}
    (hbound : (renderLines entries).length < bound) :
    readLines bound ⟨done, []⟩ (renderLines entries) =
      some ⟨done ++ valueEntries entries, []⟩ := by
  induction entries generalizing bound done with
  | nil =>
    obtain ⟨bound, rfl⟩ := Nat.exists_eq_add_one_of_ne_zero (Nat.ne_zero_of_lt hbound)
    simp [renderLines, readLines, valueEntries, skipBlank]
  | cons e entries ih =>
    obtain ⟨bound, rfl⟩ := Nat.exists_eq_add_one_of_ne_zero (Nat.ne_zero_of_lt hbound)
    rw [renderLines_cons, List.length_append, List.length_cons] at hbound
    have hnext := ih (fun f hf => h f (List.mem_cons_of_mem e hf))
      (nodup_keys_step hkeys (.value e.2)) (by omega : (renderLines entries).length < bound)
    have hline := readKeyValue_renderEntry (h e List.mem_cons_self) hheight (key_not_mem hkeys)
      (renderLines entries)
    obtain ⟨c, start, hstart, hc⟩ := renderKey_start e.1
    have hshape : renderEntry e ++ '\n' :: renderLines entries = c :: (start ++ ' ' :: '=' :: ' ' ::
        (renderValue e.2 ++ '\n' :: renderLines entries)) := by
      rw [renderEntry_append, hstart, List.cons_append]
    rw [hshape] at hline
    rw [renderLines_cons, hshape, readLines_line hc hline, hnext]
    simp [valueEntries]

/-- **A document is read back from its text**, if its keys differ and its values are read back.

**Proof sketch.** The lines are read back one after the other, each as an entry behind those before
it. The text does not start with a byte order mark, as a key starts it. -/
theorem read?_render {height : Nat} {entries : List (Text × Value)}
    (hkeys : (entries.map Prod.fst).Nodup) (h : ∀ e ∈ entries, ReadsBack height e.2)
    (hheight : height < depthLimit) : read? (render (.table entries)) = some (.table entries) := by
  have hread : readLines ((renderLines entries).length + 1) ⟨[], []⟩ (renderLines entries) =
      some ⟨[] ++ valueEntries entries, []⟩ :=
    readLines_renderLines h hheight (by simpa using hkeys) (Nat.lt_succ_self _)
  cases entries with
  | nil => rfl
  | cons e entries =>
    obtain ⟨c, start, hstart, hc⟩ := renderKey_start e.1
    -- A key does not start with a byte order mark.
    have hmark : c.toNat ≠ 0xFEFF := by
      intro hc'
      have : isKeyStart (Char.ofNat 0xFEFF) = true := by rw [← hc', Char.ofNat_toNat, hc]
      exact absurd this (by decide)
    have hshape : renderLines (e :: entries) = c :: (start ++ ' ' :: '=' :: ' ' ::
        (renderValue e.2 ++ '\n' :: renderLines entries)) := by
      rw [renderLines_cons, renderEntry_append, hstart, List.cons_append]
    rw [hshape] at hread
    rw [render, hshape]
    simp only [read?, if_neg hmark, hread, Option.map_some, List.nil_append,
      entriesToValues_valueEntries]

end Toml

end Gloss
