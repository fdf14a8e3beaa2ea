import Gloss.Annotate
import Gloss.Proofs.Note.Remark

/-!
# The default settings

The default settings give a context, and all texts that it puts into annotation lines are single
lines. What else holds of this context can be found by evaluation.

## Main results

* `Context.exists_default`: the default settings give a context.
* `Context.oneLine_of_default`: the default settings only give single lines.
* `Context.check_of_default`: what holds of the context of the default settings.
* `Context.fields_of_ofSettings`: what a context has from its settings as it is.
* `fragmentsOf_of_unregistered`: the fragments of a script without registered controls.
-/

set_option relaxedAutoImplicit false
set_option autoImplicit false

namespace Gloss

/-- The default settings give a context of single lines. -/
lemma Context.any_oneLine_default :
    (Context.ofSettings Settings.default).toOption.any (fun ctx => decide ctx.OneLine) = true := by
  decide +kernel

/-- The default settings give a context. -/
lemma Context.exists_default : ∃ ctx, Context.ofSettings Settings.default = .ok ctx := by
  have hany := any_oneLine_default
  generalize Context.ofSettings Settings.default = result at hany ⊢
  cases result with
  | error fault => simp [Except.toOption] at hany
  | ok ctx => exact ⟨ctx, rfl⟩

/-- What holds of the context of the default settings can be found by evaluation. -/
lemma Context.check_of_default (check : Context → Bool) {ctx : Context}
    (h : Context.ofSettings Settings.default = .ok ctx)
    (hcheck : (Context.ofSettings Settings.default).toOption.any check = true) :
    check ctx = true := by
  rw [h] at hcheck
  exact hcheck

/-- The default settings only give single lines. -/
lemma Context.oneLine_of_default {ctx : Context}
    (h : Context.ofSettings Settings.default = .ok ctx) : ctx.OneLine :=
  of_decide_eq_true (check_of_default _ h any_oneLine_default)

/-- Two steps succeed iff the first does, and the second does with what it gives. -/
lemma bind_eq_ok_iff {ε α β : Type} {x : Except ε α} {f : α → Except ε β} {b : β} :
    (x >>= f) = .ok b ↔ ∃ a, x = .ok a ∧ f a = .ok b := by
  cases x <;> simp [bind, Except.bind]

/-- What a context has from the settings without reading a pattern. -/
lemma Context.fields_of_ofSettings {s : Settings} {ctx : Context}
    (h : Context.ofSettings s = .ok ctx) :
    ScopeRule.allOfSettings s = .ok ctx.rules ∧ ctx.types = s.types ∧ ctx.untyped = s.untyped := by
  simp only [ofSettings, bind_eq_ok_iff] at h
  obtain ⟨_, -, _, -, _, -, _, -, _, -, _, -, _, -, _, -, rules, hrules, hctx⟩ := h
  obtain rfl := Except.ok.inj hctx
  exact ⟨hrules, rfl, rfl⟩

/-- The fragments of a script if it registers no controls, and what is remembered after it. Without
registrations nothing has to be put in order. -/
def unregisteredFragments? (ctx : Context) (files : FileView) (p : ScriptPath) (t : Text)
    (cache : FolderCache) : Option (List Fragment × FolderCache) :=
  let b := Bindings.ofText ctx t
  let resolved := resolveTarget ctx files p t cache
  if (ctx.registrations.flatMap (registrationsOf t)).isEmpty then
    some (baseCallFragments ctx t ++ (resolved.1.bind (scopedFragment? ctx b t)).toList ++
      accessorFragments ctx b t ++ networkFragments ctx b t, resolved.2)
  else none

/-- The fragments of a script without registered controls. -/
lemma fragmentsOf_of_unregistered {ctx : Context} {files : FileView} {p : ScriptPath} {t : Text}
    {cache : FolderCache} {found : List Fragment × FolderCache}
    (h : unregisteredFragments? ctx files p t cache = some found) :
    fragmentsOf ctx files p t cache = found := by
  simp only [unregisteredFragments?] at h
  split at h
  · next hnone =>
    have hregistrations : registrationFragments ctx (Bindings.ofText ctx t) t = [] := by
      rw [registrationFragments, registrations, List.isEmpty_iff.mp hnone, List.mergeSort_nil]
      rfl
    rw [← Option.some.inj h]
    simp only [fragmentsOf, fragmentsFor, hregistrations, List.append_nil]
  · simp at h

/-- A script right inside the folder of a scope. -/
def lampScript : ScriptPath :=
  ⟨"lua/entities/lamp.lua".toList, by decide +kernel⟩

end Gloss
