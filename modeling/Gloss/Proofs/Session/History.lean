import Gloss.Proofs.Session.Memory

/-!
# Answers do not depend on earlier questions

What is remembered about folders is shared by all scripts of a session and by both passes, and
folders that differ only in case share what is remembered of them. As long as the files do not
change and such folders have the same base, every base that is remembered is the one that a fresh
look at the hub files would give, so nobody can tell from an answer which questions were asked
before.

## Main definitions

* `Inquiry`: a question about a script.
* `cacheAfter`: what is remembered after a sequence of questions.
* `SharedBases`: folders that differ only in case have the same base.
* `FolderCache.UpToDate`: every base that is remembered is the one that its folder has.

## Main results

* `FolderCache.UpToDate.looksUp`: a look at a script keeps what is remembered up to date.
* `upToDate_cacheAfter`: what is remembered after any questions is up to date.
* `annotate_after_inquiries`: the answers are the same as without the earlier questions.
-/

set_option relaxedAutoImplicit false
set_option autoImplicit false

namespace Gloss

/-- A question about a script, which leaves the files as they are. -/
inductive Inquiry where
  /-- Asks for the edits of a script. -/
  | annotate (identifier t : Text)
  /-- Attaches documentation to a tree. -/
  | bind (tree : ScriptTree) (identifier t : Text)
  /-- Asks for the type of a script. -/
  | resolve (p : ScriptPath) (t : Text)

/-- What is remembered after a question. -/
def Inquiry.remembered (ctx : Context) (files : FileView) (cache : FolderCache) :
    Inquiry → FolderCache
  | .annotate identifier t => (Gloss.annotate ctx files identifier t cache).2
  | .bind tree identifier t => (bindTree ctx files tree identifier t cache).2.2
  | .resolve p t => (resolveTarget ctx files p t cache).2

/-- What is remembered after a sequence of questions, if nothing was remembered before them. -/
def cacheAfter (ctx : Context) (files : FileView) (inquiries : List Inquiry) : FolderCache :=
  inquiries.foldl (Inquiry.remembered ctx files) []

/-- Folders that are the same in lower case have the same base, for every scope. -/
def SharedBases (ctx : Context) (files : FileView) : Prop :=
  ∀ scope rule, ctx.rule? scope = some rule → ∀ folder folder' : Text,
    folder.lower = folder'.lower → folderBase files rule folder = folderBase files rule folder'

/-- Every base that is remembered for a folder and a scope is the one that the folder has, under the
rule of that scope. -/
def FolderCache.UpToDate (ctx : Context) (files : FileView) (cache : FolderCache) : Prop :=
  ∀ rule folder base, ctx.rule? rule.scope = some rule →
    cache.get? folder rule.scope = some base → base = folderBase files rule folder

section

variable {ctx : Context} {files : FileView} {cache cache' : FolderCache}

/-! ## What is remembered is up to date -/

/-- Where nothing is remembered, everything is up to date. -/
lemma FolderCache.upToDate_nil (ctx : Context) (files : FileView) :
    FolderCache.UpToDate ctx files [] := by
  intro rule folder base _ hget
  simp [FolderCache.get?] at hget

/-- **A look at a script keeps what is remembered up to date.**

**Proof sketch.** Only the base of a folder that was not remembered is added, and it is the one that
the folder has. Every spelling under which it is found later has the same lower case and the same
scope, hence the same rule and the same base. -/
lemma FolderCache.UpToDate.looksUp (hshared : SharedBases ctx files)
    (h : cache.UpToDate ctx files) (hlooks : LooksUp ctx files cache cache') :
    cache'.UpToDate ctx files := by
  cases hlooks with
  | nothing => exact h
  | folder rule dir hrule =>
    rcases cache.getOrInsert_cases dir rule.scope (folderBase files rule dir) with
      ⟨known, -, hfound⟩ | ⟨-, hfound⟩
    · rw [hfound]
      exact h
    · rw [hfound]
      intro rule' folder base hrule' hget
      rcases get?_concat_cases hget with hold | ⟨hkey, rfl⟩
      · exact h rule' folder base hrule' hold
      · obtain ⟨hlower, hscope⟩ := Prod.mk.inj hkey
        obtain rfl : rule' = rule := by
          rw [hscope, hrule] at hrule'
          exact (Option.some.inj hrule').symm
        exact hshared _ rule' hrule dir folder hlower.symm

/-- A question is a look at a script. -/
lemma Inquiry.looksUp_remembered (ctx : Context) (files : FileView) (cache : FolderCache)
    (inquiry : Inquiry) : LooksUp ctx files cache (inquiry.remembered ctx files cache) := by
  cases inquiry with
  | annotate identifier t => exact looksUp_annotate ctx files cache identifier t
  | bind tree identifier t => exact looksUp_bindTree ctx files cache tree identifier t
  | resolve p t => exact looksUp_resolveTarget ctx files cache p t

/-- **What is remembered after any questions is up to date.** -/
lemma upToDate_cacheAfter (hshared : SharedBases ctx files) (inquiries : List Inquiry) :
    (cacheAfter ctx files inquiries).UpToDate ctx files := by
  suffices hrun : ∀ cache : FolderCache, cache.UpToDate ctx files →
      (inquiries.foldl (Inquiry.remembered ctx files) cache).UpToDate ctx files from
    hrun [] (FolderCache.upToDate_nil ctx files)
  induction inquiries with
  | nil => exact fun cache h => h
  | cons inquiry inquiries ih =>
    intro cache h
    exact ih _ (h.looksUp hshared (inquiry.looksUp_remembered ctx files cache))

/-! ## Answers from what is up to date -/

/-- What is up to date gives the base that the folder has. -/
lemma FolderCache.UpToDate.fst_getOrInsert (h : cache.UpToDate ctx files) {rule : ScopeRule}
    (hrule : ctx.rule? rule.scope = some rule) (dir : Text) :
    (cache.getOrInsert dir rule.scope (folderBase files rule dir)).1 =
      folderBase files rule dir := by
  rcases cache.getOrInsert_cases dir rule.scope (folderBase files rule dir) with
    ⟨known, hknown, hfound⟩ | ⟨-, hfound⟩
  · rw [hfound]
    exact h rule dir known hrule hknown
  · rw [hfound]

variable (h : cache.UpToDate ctx files) (h' : cache'.UpToDate ctx files)
include h h'

/-- The folder of a script does not depend on what is remembered. -/
lemma FolderCache.UpToDate.fst_detectFolder {rule : ScopeRule}
    (hrule : ctx.rule? rule.scope = some rule) (p : ScriptPath) (typeName : Text) :
    (detectFolder files rule p typeName cache).1 =
      (detectFolder files rule p typeName cache').1 := by
  unfold detectFolder
  cases p.parent? with
  | none => rfl
  | some dir =>
    by_cases hmember : isFolderMember files rule p typeName dir = true
    · simp only [hmember, ↓reduceIte, h.fst_getOrInsert hrule, h'.fst_getOrInsert hrule]
    · simp only [hmember, ↓reduceIte, Bool.false_eq_true]

/-- The type of a script does not depend on what is remembered. -/
lemma FolderCache.UpToDate.fst_resolveTarget (p : ScriptPath) (t : Text) :
    (resolveTarget ctx files p t cache).1 = (resolveTarget ctx files p t cache').1 := by
  unfold resolveTarget
  cases classify p ctx.rules with
  | none => rfl
  | some c =>
    cases hrule : ctx.rule? c.scope with
    | none => simp only [hrule]
    | some rule =>
      have hdetect := h.fst_detectFolder h' (Context.rule?_scope hrule) p c.typeName
      simp only [hrule, targetUnder, hdetect]

end

/-- **The answers are the same as without the earlier questions.** The files do not change, and
folders that differ only in case have the same base. Then after any questions about any scripts, in
any order, the edits of a script, its type, and what a pass over a tree reports and attaches are
those that one gets without having asked before.

**Proof sketch.** What is remembered after any questions is up to date, since each of them adds only
the base of a folder that has it. Resolving the target then gives the same as with nothing
remembered, and all answers are made of the target and the text. -/
theorem annotate_after_inquiries {ctx : Context} {files : FileView}
    (hshared : SharedBases ctx files) (inquiries : List Inquiry) (t : Text) :
    (∀ identifier, (annotate ctx files identifier t (cacheAfter ctx files inquiries)).1 =
        (annotate ctx files identifier t []).1) ∧
      (∀ p, (resolveTarget ctx files p t (cacheAfter ctx files inquiries)).1 =
        (resolveTarget ctx files p t []).1) ∧
      ∀ tree identifier,
        (bindTree ctx files tree identifier t (cacheAfter ctx files inquiries)).1 =
            (bindTree ctx files tree identifier t []).1 ∧
          (bindTree ctx files tree identifier t (cacheAfter ctx files inquiries)).2.1 =
            (bindTree ctx files tree identifier t []).2.1 := by
  have hresolve : ∀ p, (resolveTarget ctx files p t (cacheAfter ctx files inquiries)).1 =
      (resolveTarget ctx files p t []).1 :=
    fun p => (upToDate_cacheAfter hshared inquiries).fst_resolveTarget
      (FolderCache.upToDate_nil ctx files) p t
  refine ⟨fun identifier => ?_, hresolve, fun tree identifier => ?_⟩
  · cases hread : ScriptPath.read identifier with
    | error fault => simp only [annotate, readIdentifier, hread]
    | ok p =>
      simp only [annotate, readIdentifier, hread, fragmentsOf, hresolve]
      cases assemble t (fragmentsFor ctx (resolveTarget ctx files p t []).1 t) <;> rfl
  · cases hread : ScriptPath.read identifier with
    | error fault => simp only [bindTree, readIdentifier, hread, and_self]
    | ok p =>
      rw [bindTree_of_read ctx files tree hread, bindTree_of_read ctx files tree hread, hresolve]
      exact ⟨rfl, rfl⟩

/-- Files that say the same under every path. -/
def uniformFiles : FileView where
  isFile _ := true
  read? _ := some "ENT.Base = 'base_anim'".toList
  list _ := []

/-- Questions about a script without a folder and about one of a folder, which declares another base
itself. -/
def lampInquiries : List Inquiry :=
  [.resolve lampScript [],
    .bind (tableTree [] lampCalls) "lua/entities/lamp/shared.lua".toList
      "ENT.Base = 'other'".toList]

/-- The type of a script whose folder is spelled in capitals. -/
def lampClientTarget : ScopeTarget where
  scope := "ENT".toList
  typeName := "LAMP".toList
  base := .literal "base_anim".toList
  folder := some { path := "lua/entities/LAMP".toList, base := .literal "base_anim".toList }

/-- The type of a script is the same after questions that have had the base of its folder remembered
under another spelling. -/
theorem annotate_after_inquiries_other_spelling :
    ∃ ctx, Context.ofSettings Settings.default = .ok ctx ∧ SharedBases ctx uniformFiles ∧
      cacheAfter ctx uniformFiles lampInquiries =
        [(("lua/entities/lamp".toList, "ENT".toList), .literal "base_anim".toList)] ∧
      (resolveTarget ctx uniformFiles lampClient []
        (cacheAfter ctx uniformFiles lampInquiries)).1 = some lampClientTarget := by
  obtain ⟨ctx, hctx⟩ := Context.exists_default
  have hcheck := Context.check_of_default (fun ctx =>
    cacheAfter ctx uniformFiles lampInquiries ==
        [(("lua/entities/lamp".toList, "ENT".toList), .literal "base_anim".toList)] &&
      (resolveTarget ctx uniformFiles lampClient [] []).1 == some lampClientTarget)
    hctx (by decide +kernel)
  simp only [Bool.and_eq_true, beq_iff_eq] at hcheck
  obtain ⟨hcache, hfresh⟩ := hcheck
  have hshared : SharedBases ctx uniformFiles := fun _ _ _ _ _ _ => rfl
  refine ⟨ctx, hctx, hshared, hcache, ?_⟩
  rw [(annotate_after_inquiries hshared lampInquiries []).2.1, hfresh]

end Gloss
