import Gloss.Command.Run
import Gloss.Proofs.Annotate.Total
import Gloss.Proofs.File.Disk
import Gloss.Proofs.Scope.Folder

/-!
# Runs that show edits and runs that write them

A run over scripts either shows the edits of each script, or writes them before it goes on to the
next script. The run that writes asks for files that it has written itself: the hub files of
folders. It still finds the same edits if the scripts are independent, that is, if no script is the
hub of the folder of a later one, unless both have the same folder: then the base of the folder was
remembered before the hub was written.

## Main definitions

* `Independent`: a script does not disturb a later one by being written.
* `writeEdits`: writes edits that have been found before.
* `Agree`: what a run that shows edits and a run that writes them have in common.

## Main results

* `Agree.step`: both runs find the same edits for the next script.
* `Agree.run`: both runs find the same edits for all scripts.
-/

set_option relaxedAutoImplicit false
set_option autoImplicit false

namespace Gloss

/-- Writing the script `q` does not disturb the later script `p`: they are different files, and if
`q` is a hub file of the folder of `p`, it is a hub in that folder itself. -/
structure Independent (ctx : Context) (disk : Disk) (cwd : List Text) (q p : Text) : Prop where
  /-- They are different files. -/
  locate?_ne : ∀ place, disk.locate? cwd q = some place → disk.locate? cwd p ≠ some place
  /-- A hub file of the folder of `p` is a hub in that folder. -/
  inFolder : ∀ folder rule name, InFolder ctx p folder rule name → ∀ hub ∈ rule.hubs, ∀ place,
    disk.locate? cwd (joinPath folder hub) = some place → disk.locate? cwd q = some place →
      ∃ name', InFolder ctx q folder rule name' ∧ rule.isHub name' = true

/-- Writes edits that have been found before to the files that they have been found in. -/
def writeEdits (before : Disk) (cwd : List Text) (results : List FileEdits) : Except Text Disk :=
  results.foldlM (fun disk f =>
    applyToFile disk cwd f.path ((before.readText? cwd f.path).getD []) f.edits) before

/-- What a run that shows edits and a run that writes them have in common after some scripts: they
remember the same and have found the same edits, and where a file has changed, it is one of these
scripts, and its folder is remembered if it is a hub. -/
structure Agree (ctx : Context) (before : Disk) (cwd : List Text) (done : List Text)
    (dry applied : AnnotateState) : Prop where
  /-- The run that shows edits has changed nothing. -/
  disk_eq : dry.disk = before
  /-- The run that writes edits has changed what files hold, and nothing else. -/
  shape : before.SameShape applied.disk
  /-- Both remember the same. -/
  cache_eq : applied.cache = dry.cache
  /-- Both have found the same edits. -/
  results_eq : applied.results = dry.results.map fun f => { f with applied := true }
  /-- The edits have been written. -/
  written : writeEdits before cwd dry.results = .ok applied.disk
  /-- What has changed is one of the scripts, and its folder is remembered if it is a hub. -/
  changed : ∀ place, applied.disk.atPlace? place ≠ before.atPlace? place →
    ∃ q ∈ done, before.locate? cwd q = some place ∧ Remembers ctx dry.cache q

section

variable {ctx : Context} {before : Disk} {cwd : List Text} {done : List Text}
  {dry applied : AnnotateState} {p : Text}

/-- Edits that annotation finds in a file can be written to it. -/
lemma applyToFile_of_annotate {disk : Disk} {files : FileView} {t : Text} {cache : FolderCache}
    {edits : List Edit} (hread : disk.readText? cwd p = some t) {place : List Text}
    (hlocate : disk.locate? cwd p = some place)
    (hedits : (annotate ctx files p t cache).1 = .ok edits) :
    ∃ out, applyToFile disk cwd p t edits = .ok (disk.put place (.file (some out))) := by
  cases hpath : ScriptPath.read p with
  | error fault => simp [annotate, readIdentifier, hpath] at hedits
  | ok script =>
    refine ⟨substituted t (fragmentsOf ctx files script t cache).1, ?_⟩
    simp only [applyToFile, applyEdits_of_annotate hpath hedits,
      Disk.writeFile_of_readText? hread hlocate]

namespace Agree

/-- Both runs agree before the first script. -/
lemma start (ctx : Context) (disk : Disk) (cwd : List Text) :
    Agree ctx disk cwd [] { disk := disk } { disk := disk } where
  disk_eq := rfl
  shape := rfl
  cache_eq := rfl
  results_eq := rfl
  written := rfl
  changed _ h := absurd rfl h

/-- A script that is passed over changes nothing. -/
lemma pass (h : Agree ctx before cwd done dry applied) (p : Text) :
    Agree ctx before cwd (done ++ [p]) dry applied where
  __ := h
  changed place hne := by
    obtain ⟨q, hq, hlocate⟩ := h.changed place hne
    exact ⟨q, List.mem_append_left _ hq, hlocate⟩

/-- What annotation remembers of a script is remembered in both runs. -/
lemma remember (h : Agree ctx before cwd done dry applied) (files : FileView) (p t : Text) :
    Agree ctx before cwd done
      { dry with cache := (annotate ctx files p t dry.cache).2 }
      { applied with cache := (annotate ctx files p t dry.cache).2 } where
  __ := h
  cache_eq := rfl
  changed place hne := by
    obtain ⟨q, hq, hlocate, hremembers⟩ := h.changed place hne
    exact ⟨q, hq, hlocate, hremembers.annotate t⟩

/-- Edits are found in both runs, and written in one. -/
lemma write (h : Agree ctx before cwd done dry applied) (hremembers : Remembers ctx dry.cache p)
    {t out : Text} {edits : List Edit} {place : List Text}
    (hread : before.readText? cwd p = some t) (hlocate : before.locate? cwd p = some place)
    (hfile : applied.disk.lookup place = some (.file (some t)))
    (happly : applyToFile applied.disk cwd p t edits =
      .ok (applied.disk.put place (.file (some out)))) :
    Agree ctx before cwd (done ++ [p])
      { dry with results := dry.results ++ [{ path := p, edits := edits, applied := false }] }
      { disk := applied.disk.put place (.file (some out))
        cache := applied.cache
        results := applied.results ++ [{ path := p, edits := edits, applied := true }] } where
  disk_eq := h.disk_eq
  shape := h.shape.trans (Disk.sameShape_put hfile)
  cache_eq := h.cache_eq
  results_eq := by simp [h.results_eq]
  written := by
    have hwritten := h.written
    rw [writeEdits] at hwritten
    rw [writeEdits, List.foldlM_append, hwritten]
    simp [hread, happly, bind, Except.bind, pure, Except.pure]
  changed names hne := by
    by_cases hnames : names = place
    · exact ⟨p, by simp, hnames ▸ hlocate, hremembers⟩
    · rw [Disk.atPlace?_put_of_ne hfile hnames] at hne
      obtain ⟨q, hq, hplace⟩ := h.changed names hne
      exact ⟨q, List.mem_append_left _ hq, hplace⟩

variable (h : Agree ctx before cwd done dry applied)
  (hind : ∀ q ∈ done, Independent ctx before cwd q p)
include h hind

/-- The next script holds the same text in both runs. -/
lemma readText?_eq : applied.disk.readText? cwd p = before.readText? cwd p := by
  refine h.shape.readText?_eq fun place hplace => ?_
  by_contra hne
  obtain ⟨q, hq, hlocate, -⟩ := h.changed place hne
  exact (hind q hq).locate?_ne place hlocate hplace

/-- Annotation finds the same for the next script in both runs.

**Proof sketch.** Both disks have the same shape, so they can only differ in a hub file of the
folder of the script, and only count as long as the folder is not remembered. A hub file that has
been written is a script before this one, and by independence a hub in the same folder, so the
folder is remembered. -/
lemma annotate_eq (t : Text) :
    annotate ctx (applied.disk.view cwd) p t applied.cache =
      annotate ctx (before.view cwd) p t dry.cache := by
  rw [h.cache_eq]
  refine annotate_congr (fun q => (h.shape.isFile_eq cwd q).symm)
    (fun q => (h.shape.list_eq cwd q).symm) (fun folder rule name hin hget hub hhub => ?_) t
  refine h.shape.readText?_eq fun place hplace => ?_
  by_contra hne
  obtain ⟨q, hq, hlocate, hremembers⟩ := h.changed place hne
  obtain ⟨name', hin', hname'⟩ :=
    (hind q hq).inFolder folder rule name hin hub hhub place hplace hlocate
  have hsome := hremembers folder rule name' hin' hname'
  rw [hget] at hsome
  simp at hsome

/-- **Both runs find the same edits for the next script.**

**Proof sketch.** The next script is independent of those that were rewritten, so both runs read the
same text and, for the folder of the script, the same hubs or the same remembered base. So they find
the same edits, and the run that applies them writes to a file that no script before was in. -/
lemma step :
    ∃ dry' applied', annotateScript ctx cwd false dry p = .ok dry' ∧
      annotateScript ctx cwd true applied p = .ok applied' ∧
      Agree ctx before cwd (done ++ [p]) dry' applied' := by
  have hsame := h.readText?_eq hind
  cases hread : before.readText? cwd p with
  | none =>
    rw [hread] at hsame
    refine ⟨dry, applied, ?_, ?_, h.pass p⟩
    · simp only [annotateScript, h.disk_eq, hread]
    · simp only [annotateScript, hsame]
  | some t =>
    rw [hread] at hsame
    have hannotate := h.annotate_eq hind t
    have hagree := h.remember (before.view cwd) p t
    have hdry := annotateQuietly_eq ctx (before.view cwd) p t dry.cache
    have happlied := annotateQuietly_eq ctx (applied.disk.view cwd) p t applied.cache
    rw [hannotate] at happlied
    cases hfound : someEdits? (annotate ctx (before.view cwd) p t dry.cache).1 with
    | none =>
      rw [hfound] at hdry happlied
      refine ⟨_, _, ?_, ?_, hagree.pass p⟩
      · simp only [annotateScript, h.disk_eq, hread, hdry]
      · simp only [annotateScript, hsame, happlied]
    | some edits =>
      rw [hfound] at hdry happlied
      obtain ⟨place, hlocate, hfile⟩ := Disk.locate?_of_readText? hsame
      have hedits := eq_ok_of_someEdits? hfound
      rw [← hannotate] at hedits
      obtain ⟨out, happly⟩ := applyToFile_of_annotate hsame hlocate hedits
      rw [← h.shape.locate?_eq] at hlocate
      refine ⟨_, _, ?_, ?_, hagree.write (remembers_annotate t _) hread hlocate hfile happly⟩
      · simp only [annotateScript, h.disk_eq, hread, hdry]
        rfl
      · simp only [annotateScript, hsame, happlied, happly]
        rfl

omit hind in
/-- **Both runs find the same edits for all scripts.**

**Proof sketch.** Induction on the scripts, by the step for one of them. -/
lemma run {scripts : List Text}
    (hpairs : (done ++ scripts).Pairwise (Independent ctx before cwd)) :
    ∃ dry' applied', scripts.foldlM (annotateScript ctx cwd false) dry = .ok dry' ∧
      scripts.foldlM (annotateScript ctx cwd true) applied = .ok applied' ∧
      Agree ctx before cwd (done ++ scripts) dry' applied' := by
  induction scripts generalizing done dry applied with
  | nil => exact ⟨dry, applied, rfl, rfl, by rwa [List.append_nil]⟩
  | cons p scripts ih =>
    have hind : ∀ q ∈ done, Independent ctx before cwd q p := fun q hq =>
      (List.pairwise_append.mp hpairs).2.2 q hq p List.mem_cons_self
    obtain ⟨dry', applied', hdry, happlied, hagree⟩ := h.step hind
    obtain ⟨dry'', applied'', hdrys, happlieds, hagrees⟩ := ih hagree (by simpa using hpairs)
    refine ⟨dry'', applied'', ?_, ?_, by simpa using hagrees⟩
    · rw [List.foldlM_cons, hdry]
      exact hdrys
    · rw [List.foldlM_cons, happlied]
      exact happlieds

end Agree

end

end Gloss
