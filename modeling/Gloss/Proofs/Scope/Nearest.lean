import Gloss.Proofs.Annotate.Settled

/-!
# The rule that wins

A script is classified by the rule whose folder occurs nearest to the end of its directories. This
module says what an occurrence is, without regard to the search for it, and shows that the rule
which the search over all rules gives is the first among the widest of those with the last end.

## Main definitions

* `OccursUpTo`: a folder occurs among directories and ends at an index.
* `Wins`: a rule has the nearest occurrence, is the widest of these, and the first of the widest.

## Main results

* `lastRunEnd?_eq_none_iff`, `lastRunEnd?_eq_some_iff`: what the search for the last occurrence
  finds.
* `foldl_better_eq_some_iff`: which candidate is left after all have been compared.
* `bestCandidate?_eq_some_iff`: the rule that is chosen is the one that wins.
* `classify_nearest_widest_first`: the classification of a path.
-/

set_option relaxedAutoImplicit false
set_option autoImplicit false

namespace Gloss

/-! ## Occurrences of folders -/

/-- The folder occurs as a run among the directories, and `stop` of them end with it. A folder
without segments has no last one, and occurs nowhere. -/
def OccursUpTo (folder dirs : List Text) (stop : Nat) : Prop :=
  folder ≠ [] ∧ ∃ front back, dirs = front ++ folder ++ back ∧ stop = (front ++ folder).length

section

variable {folder dirs : List Text} {stop : Nat}

/-- A folder does not occur in no directories. -/
lemma not_occursUpTo_nil : ¬ OccursUpTo folder [] stop := by
  rintro ⟨hne, front, back, hdirs, -⟩
  simp only [List.nil_eq, List.append_eq_nil_iff] at hdirs
  exact hne hdirs.1.2

/-- An occurrence starts at the first directory or behind it. -/
lemma occursUpTo_cons_iff {d : Text} :
    OccursUpTo folder (d :: dirs) stop ↔
      (folder ≠ [] ∧ folder <+: d :: dirs ∧ stop = folder.length) ∨
        ∃ n, stop = n + 1 ∧ OccursUpTo folder dirs n := by
  constructor
  · rintro ⟨hne, front, back, hdirs, rfl⟩
    cases front with
    | nil => exact .inl ⟨hne, ⟨back, hdirs.symm⟩, rfl⟩
    | cons e front =>
      obtain ⟨rfl, rfl⟩ := List.cons.inj hdirs
      exact .inr ⟨_, rfl, hne, front, back, rfl, rfl⟩
  · rintro (⟨hne, ⟨back, hback⟩, rfl⟩ | ⟨n, rfl, hne, front, back, rfl, rfl⟩)
    · exact ⟨hne, [], back, hback.symm, rfl⟩
    · exact ⟨hne, d :: front, back, rfl, rfl⟩

/-- An occurrence ends within the directories. -/
lemma OccursUpTo.stop_le (h : OccursUpTo folder dirs stop) : stop ≤ dirs.length := by
  obtain ⟨-, front, back, rfl, rfl⟩ := h
  simp

/-- An occurrence is as long as the folder. -/
lemma OccursUpTo.length_le (h : OccursUpTo folder dirs stop) : folder.length ≤ stop := by
  obtain ⟨-, front, back, -, rfl⟩ := h
  simp

/-- **What the search for the last occurrence finds**: the greatest end of an occurrence, or nothing
if there is none.

**Proof sketch.** Induction on the directories. An occurrence behind the first directory ends behind
one that starts there, since both are as long as the folder. -/
lemma lastRunEnd?_cases (folder dirs : List Text) :
    (lastRunEnd? folder dirs = none ∧ ∀ stop, ¬ OccursUpTo folder dirs stop) ∨
      ∃ stop, lastRunEnd? folder dirs = some stop ∧ OccursUpTo folder dirs stop ∧
        ∀ n, OccursUpTo folder dirs n → n ≤ stop := by
  induction dirs with
  | nil => exact .inl ⟨rfl, fun stop => not_occursUpTo_nil⟩
  | cons d dirs ih =>
    simp only [occursUpTo_cons_iff]
    rcases ih with ⟨hnone, hall⟩ | ⟨stop, hsome, hoccurs, hlast⟩
    · by_cases hfirst : folder ≠ [] ∧ folder <+: d :: dirs
      · refine .inr ⟨folder.length, ?_, .inl ⟨hfirst.1, hfirst.2, rfl⟩, ?_⟩
        · simp [lastRunEnd?, hnone, hfirst]
        · rintro n (⟨-, -, rfl⟩ | ⟨m, -, hm⟩)
          · exact Nat.le_refl _
          · exact absurd hm (hall m)
      · refine .inl ⟨?_, ?_⟩
        · simp only [lastRunEnd?, hnone]
          refine if_neg fun hcheck => hfirst ?_
          simpa using hcheck
        · rintro n (⟨hne, hprefix, -⟩ | ⟨m, -, hm⟩)
          · exact hfirst ⟨hne, hprefix⟩
          · exact hall m hm
    · refine .inr ⟨stop + 1, by simp [lastRunEnd?, hsome], .inr ⟨stop, rfl, hoccurs⟩, ?_⟩
      rintro n (⟨-, -, rfl⟩ | ⟨m, rfl, hm⟩)
      · exact Nat.le_succ_of_le hoccurs.length_le
      · exact Nat.succ_le_succ (hlast m hm)

/-- No end is found iff the folder does not occur. -/
lemma lastRunEnd?_eq_none_iff :
    lastRunEnd? folder dirs = none ↔ ∀ stop, ¬ OccursUpTo folder dirs stop := by
  rcases lastRunEnd?_cases folder dirs with ⟨hnone, hall⟩ | ⟨stop, hsome, hoccurs, -⟩
  · exact iff_of_true hnone hall
  · exact iff_of_false (by simp [hsome]) fun hall => hall stop hoccurs

/-- The end that is found is that of the last occurrence. -/
lemma lastRunEnd?_eq_some_iff :
    lastRunEnd? folder dirs = some stop ↔
      OccursUpTo folder dirs stop ∧ ∀ n, OccursUpTo folder dirs n → n ≤ stop := by
  rcases lastRunEnd?_cases folder dirs with ⟨hnone, hall⟩ | ⟨last, hsome, hoccurs, hlast⟩
  · exact iff_of_false (by simp [hnone]) fun h => hall stop h.1
  · rw [hsome, Option.some.injEq]
    constructor
    · rintro rfl
      exact ⟨hoccurs, hlast⟩
    · rintro ⟨hstop, hgreatest⟩
      exact Nat.le_antisymm (hgreatest last hoccurs) (hlast stop hstop)

end

/-! ## The best candidate -/

section

variable {best old new : Candidate} {candidates : List Candidate}

/-- A candidate beats another one if it ends later, or at the same place with a longer folder. -/
lemma Candidate.beats_iff : new.beats old = true ↔ old.stop < new.stop ∨
    (new.stop = old.stop ∧ old.rule.folder.length < new.rule.folder.length) := by
  simp [beats]

/-- Without candidates, and only then, there is no best one. -/
lemma foldl_better_eq_none_iff :
    candidates.foldl Candidate.better none = none ↔ candidates = [] := by
  refine ⟨fun h => ?_, fun h => by rw [h]; rfl⟩
  rcases List.eq_nil_or_concat candidates with hnil | ⟨front, c, rfl⟩
  · exact hnil
  · rw [List.concat_eq_append, List.foldl_append, List.foldl_cons, List.foldl_nil] at h
    unfold Candidate.better at h
    split at h
    · simp at h
    · split at h <;> simp at h

/-- A candidate that no later one beats stays the best. -/
lemma foldl_better_of_not_beats (h : ∀ c ∈ candidates, c.beats best = false) :
    candidates.foldl Candidate.better (some best) = some best := by
  induction candidates with
  | nil => rfl
  | cons c candidates ih =>
    obtain ⟨hc, hrest⟩ := List.forall_mem_cons.mp h
    rw [List.foldl_cons, Candidate.better, hc]
    exact ih hrest

/-- **Which candidate is left after all have been compared**: the one that beats all earlier ones,
and is beaten by no later one.

**Proof sketch.** If such a candidate is given, it beats whatever is the best one before it, and
stays the best one. Conversely, go over the candidates from the first to the last: a new one beats
all others if it beats the best one of them, since the others do not beat that one. -/
lemma foldl_better_eq_some_iff :
    candidates.foldl Candidate.better none = some best ↔
      ∃ front back, candidates = front ++ best :: back ∧ (∀ c ∈ front, best.beats c = true) ∧
        ∀ c ∈ back, c.beats best = false := by
  constructor
  · intro h
    induction candidates using List.reverseRecOn generalizing best with
    | nil => simp at h
    | append_singleton candidates c ih =>
      rw [List.foldl_append, List.foldl_cons, List.foldl_nil] at h
      cases hold : candidates.foldl Candidate.better none with
      | none =>
        obtain rfl := foldl_better_eq_none_iff.mp hold
        obtain rfl : c = best := Option.some.inj h
        exact ⟨[], [], rfl, by simp, by simp⟩
      | some old =>
        obtain ⟨front, back, rfl, hfront, hback⟩ := ih hold
        rw [hold, Candidate.better] at h
        split at h
        · next hbeats =>
          obtain rfl := Option.some.inj h
          refine ⟨front ++ old :: back, [], rfl, fun o ho => ?_, by simp⟩
          rw [Candidate.beats_iff] at hbeats ⊢
          rcases List.mem_append.mp ho with ho | ho
          · have := Candidate.beats_iff.mp (hfront o ho)
            omega
          · rcases List.mem_cons.mp ho with rfl | ho
            · exact hbeats
            · have := mt Candidate.beats_iff.mpr (ne_true_of_eq_false (hback o ho))
              omega
        · next hbeats =>
          obtain rfl := Option.some.inj h
          refine ⟨front, back ++ [c], by simp, hfront, fun o ho => ?_⟩
          rcases List.mem_append.mp ho with ho | ho
          · exact hback o ho
          · obtain rfl := List.mem_singleton.mp ho
            exact eq_false_of_ne_true hbeats
  · rintro ⟨front, back, rfl, hfront, hback⟩
    rw [List.foldl_append, List.foldl_cons]
    have hbest : Candidate.better (front.foldl Candidate.better none) best = some best := by
      cases hold : front.foldl Candidate.better none with
      | none => rfl
      | some old =>
        have hmem := (mem_of_foldl_better hold).resolve_right (by simp)
        rw [Candidate.better, if_pos (hfront old hmem)]
    rw [hbest, foldl_better_of_not_beats hback]

end

/-! ## The rule that wins -/

/-- The rule has an occurrence that ends at `stop`: no occurrence of any rule ends behind it, no
wider rule has one that ends there, and no rule before it of the same width has one. -/
structure Wins (p : ScriptPath) (rules front : List ScopeRule) (rule : ScopeRule) (stop : Nat) :
    Prop where
  /-- The rules before it are `front`. -/
  split : ∃ back, rules = front ++ rule :: back
  /-- Its folder occurs up to there. -/
  occurs : OccursUpTo rule.folder p.loweredDirs stop
  /-- Nothing occurs further on. -/
  nearest : ∀ other ∈ rules, ∀ n, OccursUpTo other.folder p.loweredDirs n → n ≤ stop
  /-- Nothing wider occurs up to there. -/
  widest : ∀ other ∈ rules, OccursUpTo other.folder p.loweredDirs stop →
    other.folder.length ≤ rule.folder.length
  /-- Nothing of the same width occurs up to there before it. -/
  first : ∀ other ∈ front, OccursUpTo other.folder p.loweredDirs stop →
    other.folder.length ≠ rule.folder.length

section

variable {p : ScriptPath} {rules : List ScopeRule}

/-- The candidate of a rule has the greatest end of an occurrence of its folder. -/
lemma candidate?_eq_some_iff {dirs : List Text} {rule : ScopeRule} {c : Candidate} :
    candidate? dirs rule = some c ↔ c.rule = rule ∧ OccursUpTo c.rule.folder dirs c.stop ∧
      ∀ n, OccursUpTo c.rule.folder dirs n → n ≤ c.stop := by
  rw [candidate?, Option.map_eq_some_iff]
  constructor
  · rintro ⟨stop, hstop, rfl⟩
    exact ⟨rfl, lastRunEnd?_eq_some_iff.mp hstop⟩
  · rintro ⟨rfl, hstop⟩
    exact ⟨c.stop, lastRunEnd?_eq_some_iff.mpr hstop, rfl⟩

/-- A rule whose folder occurs has a candidate, which ends there or behind. -/
lemma OccursUpTo.exists_candidate {dirs : List Text} {rule : ScopeRule} {n : Nat}
    (h : OccursUpTo rule.folder dirs n) :
    ∃ c, candidate? dirs rule = some c ∧ c.rule = rule ∧ n ≤ c.stop := by
  rcases lastRunEnd?_cases rule.folder dirs with ⟨-, hall⟩ | ⟨stop, hsome, -, hlast⟩
  · exact absurd h (hall n)
  · exact ⟨⟨rule, stop⟩, by rw [candidate?, hsome]; rfl, rfl, hlast n h⟩

/-- **No candidate, and so no classification, without an occurrence.** -/
lemma bestCandidate?_eq_none_iff :
    bestCandidate? p rules = none ↔
      ∀ rule ∈ rules, ∀ stop, ¬ OccursUpTo rule.folder p.loweredDirs stop := by
  rw [bestCandidate?, foldl_better_eq_none_iff, List.filterMap_eq_nil_iff]
  refine forall₂_congr fun rule _ => ?_
  rw [candidate?, Option.map_eq_none_iff, lastRunEnd?_eq_none_iff]

/-- **The rule that is chosen is the one that wins.**

**Proof sketch.** The best candidate beats all earlier ones and is beaten by no later one. Each rule
whose folder occurs has a candidate with the last end of an occurrence; one beats another if it ends
later, or ends there and is wider, so the first of the widest with the last end is left. -/
lemma bestCandidate?_eq_some_iff {best : Candidate} :
    bestCandidate? p rules = some best ↔ ∃ front, Wins p rules front best.rule best.stop := by
  rw [bestCandidate?, foldl_better_eq_some_iff]
  constructor
  · rintro ⟨earlier, later, hsplit, hearlier, hlater⟩
    -- No candidate beats the best one.
    have hbeaten : ∀ other ∈ rules, ∀ c, candidate? p.loweredDirs other = some c →
        ¬ c.beats best = true := by
      intro other hother c hc
      have hmem := List.mem_filterMap.mpr ⟨other, hother, hc⟩
      rw [hsplit, List.mem_append, List.mem_cons] at hmem
      rcases hmem with hmem | rfl | hmem
      · have := Candidate.beats_iff.mp (hearlier c hmem)
        rw [Candidate.beats_iff]
        omega
      · rw [Candidate.beats_iff]
        omega
      · exact ne_true_of_eq_false (hlater c hmem)
    obtain ⟨front, rest, hrules, hfront, hrest⟩ := List.filterMap_eq_append_iff.mp hsplit
    obtain ⟨skipped, rule, back, rfl, hskipped, hbest, -⟩ := List.filterMap_eq_cons_iff.mp hrest
    obtain ⟨rfl, hoccurs, -⟩ := candidate?_eq_some_iff.mp hbest
    refine ⟨front ++ skipped, ⟨back, by rw [hrules, List.append_assoc]⟩, hoccurs,
      fun other hother n hn => ?_, fun other hother hn => ?_, fun other hother hn => ?_⟩
    · obtain ⟨c, hc, -, hle⟩ := hn.exists_candidate
      have := mt Candidate.beats_iff.mpr (hbeaten other hother c hc)
      omega
    · obtain ⟨c, hc, rfl, hle⟩ := hn.exists_candidate
      have := mt Candidate.beats_iff.mpr (hbeaten c.rule hother c hc)
      omega
    · obtain ⟨c, hc, rfl, hle⟩ := hn.exists_candidate
      rcases List.mem_append.mp hother with hother | hother
      · have := Candidate.beats_iff.mp
          (hearlier c (hfront ▸ List.mem_filterMap.mpr ⟨_, hother, hc⟩))
        omega
      · rw [hskipped _ hother] at hc
        exact absurd hc (by simp)
  · rintro ⟨front, ⟨back, rfl⟩, hoccurs, hnearest, hwidest, hfirst⟩
    have hbest : candidate? p.loweredDirs best.rule = some best :=
      candidate?_eq_some_iff.mpr ⟨rfl, hoccurs, hnearest best.rule (by simp)⟩
    refine ⟨front.filterMap (candidate? p.loweredDirs), back.filterMap (candidate? p.loweredDirs),
      by rw [List.filterMap_append, List.filterMap_cons_some hbest], fun c hc => ?_, fun c hc => ?_⟩
    · obtain ⟨other, hother, hcandidate⟩ := List.mem_filterMap.mp hc
      obtain ⟨rfl, hc, -⟩ := candidate?_eq_some_iff.mp hcandidate
      have hle := hnearest c.rule (by simp [hother]) c.stop hc
      rw [Candidate.beats_iff]
      rcases Nat.lt_or_eq_of_le hle with hlt | heq
      · exact .inl hlt
      · rw [heq] at hc
        have := hwidest c.rule (by simp [hother]) hc
        have := hfirst c.rule hother hc
        omega
    · obtain ⟨other, hother, hcandidate⟩ := List.mem_filterMap.mp hc
      obtain ⟨rfl, hc, -⟩ := candidate?_eq_some_iff.mp hcandidate
      have hle := hnearest c.rule (by simp [hother]) c.stop hc
      rw [← Bool.not_eq_true, Candidate.beats_iff]
      rintro (hlt | ⟨heq, hwider⟩)
      · omega
      · rw [heq] at hc
        have := hwidest c.rule (by simp [hother]) hc
        omega

/-- The name of the type is the stem of the file right inside the folder, and else the segment
behind the folder. -/
lemma typeNameAfter_eq_iff {stop : Nat} (h : stop ≤ p.loweredDirs.length) {name : Text} :
    typeNameAfter p stop = name ↔
      (stop = p.loweredDirs.length ∧ name = p.fileStem) ∨
        (stop < p.loweredDirs.length ∧ p.segments[stop]? = some name) := by
  have hlength : p.loweredDirs.length = p.segments.dropLast.length := List.length_map _
  rw [typeNameAfter, ← hlength]
  rcases Nat.lt_or_eq_of_le h with hlt | rfl
  · have hsegments : stop < p.segments.length := by
      rw [hlength, List.length_dropLast] at hlt
      omega
    have hne : stop ≠ p.loweredDirs.length := Nat.ne_of_lt hlt
    rw [if_neg hne, List.getD_eq_getElem?_getD, List.getElem?_eq_getElem hsegments]
    simp [hlt, hne]
  · simp [eq_comm]

end

/-- **The classification of a path.** A path has none iff the folder of no rule occurs among its
directories. Else it is that of the rule that wins: the first among the widest of the rules with the
last end of an occurrence. The type is named by the stem of the file if the occurrence ends at the
last directory, and else by the segment right behind it, in its own case. The file name counts for
nothing but the stem: paths with the same directories have the same scope.

**Proof sketch.** The classification is that of the best candidate, which is the rule that wins. The
lowered directories are all that the candidates depend on. -/
theorem classify_nearest_widest_first (p : ScriptPath) (rules : List ScopeRule) :
    (classify p rules = none ↔
      ∀ rule ∈ rules, ∀ stop, ¬ OccursUpTo rule.folder p.loweredDirs stop) ∧
    (∀ found, classify p rules = some found ↔ ∃ front rule stop, Wins p rules front rule stop ∧
      found.scope = rule.scope ∧
      ((stop = p.loweredDirs.length ∧ found.typeName = p.fileStem) ∨
        (stop < p.loweredDirs.length ∧ p.segments[stop]? = some found.typeName))) ∧
    (∀ p' : ScriptPath, p'.segments.dropLast = p.segments.dropLast →
      (classify p' rules).map (·.scope) = (classify p rules).map (·.scope)) := by
  refine ⟨?_, fun found => ?_, fun p' hdirs => ?_⟩
  · rw [classify, Option.map_eq_none_iff, bestCandidate?_eq_none_iff]
  · rw [classify, Option.map_eq_some_iff]
    constructor
    · rintro ⟨best, hbest, rfl⟩
      obtain ⟨front, hwins⟩ := bestCandidate?_eq_some_iff.mp hbest
      exact ⟨front, best.rule, best.stop, hwins, rfl,
        (typeNameAfter_eq_iff hwins.occurs.stop_le).mp rfl⟩
    · rintro ⟨front, rule, stop, hwins, hscope, hname⟩
      refine ⟨⟨rule, stop⟩, bestCandidate?_eq_some_iff.mpr ⟨front, hwins⟩, ?_⟩
      rw [(typeNameAfter_eq_iff hwins.occurs.stop_le).mpr hname, ← hscope]
  · have hlowered : p'.loweredDirs = p.loweredDirs := by
      rw [ScriptPath.loweredDirs, hdirs, ScriptPath.loweredDirs]
    simp only [classify, bestCandidate?, hlowered, Option.map_map]
    rfl

/-- Settings in which the folder of one scope lies in that of another. -/
def nestedFolderSettings : Settings :=
  { scopes := [{ name := "SWEP".toList, folder := "weapons".toList },
      { name := "TOOL".toList, folder := "Weapons/stools".toList },
      { name := "LATE".toList, folder := "stools".toList }] }

/-- The wider folder wins over a later rule with the same end, and a file that is named like a
folder has the scope of its directories. -/
theorem classify_nearest_widest_first_nested :
    ∃ rules p p', ScopeRule.allOfSettings nestedFolderSettings = .ok rules ∧
      ScriptPath.read "weapons/a/Weapons/Stools/Paint.lua".toList = .ok p ∧
      ScriptPath.read "weapons/a/Weapons/Stools/weapons".toList = .ok p' ∧
      p'.segments.dropLast = p.segments.dropLast ∧
      classify p rules = some { scope := "TOOL".toList, typeName := "Paint".toList } ∧
      (classify p' rules).map (·.scope) = some "TOOL".toList := by
  have hcheck : ((ScopeRule.allOfSettings nestedFolderSettings).toOption.any fun rules =>
      (ScriptPath.read "weapons/a/Weapons/Stools/Paint.lua".toList).toOption.any fun p =>
        (ScriptPath.read "weapons/a/Weapons/Stools/weapons".toList).toOption.any fun p' =>
          p'.segments.dropLast == p.segments.dropLast &&
          classify p rules == some { scope := "TOOL".toList, typeName := "Paint".toList }) =
            true := by
    decide +kernel
  generalize hrules : ScopeRule.allOfSettings nestedFolderSettings = rules at hcheck
  generalize hp : ScriptPath.read "weapons/a/Weapons/Stools/Paint.lua".toList = p at hcheck
  generalize hp' : ScriptPath.read "weapons/a/Weapons/Stools/weapons".toList = p' at hcheck
  cases rules with
  | error fault => simp [Except.toOption] at hcheck
  | ok rules =>
    cases p with
    | error fault => simp [Except.toOption] at hcheck
    | ok p =>
      cases p' with
      | error fault => simp [Except.toOption] at hcheck
      | ok p' =>
        simp only [Except.toOption, Option.any_some, Bool.and_eq_true, beq_iff_eq] at hcheck
        obtain ⟨hdirs, hclass⟩ := hcheck
        refine ⟨rules, p, p', rfl, rfl, rfl, hdirs, hclass, ?_⟩
        rw [(classify_nearest_widest_first p rules).2.2 p' hdirs, hclass]
        rfl

end Gloss
