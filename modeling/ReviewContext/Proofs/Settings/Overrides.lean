import ReviewContext.Proofs.Settings.Extensions
import ReviewContext.Proofs.Settings.Variables

/-!
# Overridden settings

Overriding settings gives each of the changed ones the value that it would have in fresh settings
and leaves the others alone, with one exception: the extensions are normalized a second time. They
stay as they are exactly if each of them begins visibly, which a text such as `. py` does not once
its dot is taken off.
-/

namespace ReviewContext

namespace Settings

/-! ## Ranges -/

theorem fault?_eq_none_iff {draft : Settings} :
    draft.fault? = none ↔
      (∀ entry ∈ draft.positives, 0 < entry.2) ∧ ∀ entry ∈ draft.nonnegatives, 0 ≤ entry.2 := by
  simp [fault?, Option.or_eq_none_iff]

theorem getD_of_getD {range : Int → Prop} {change : Option Int} {old fresh : Int}
    (hchanged : range (change.getD old))
    (hfresh : range fresh) :
    range (change.getD fresh) := by
  cases change with
  | none => exact hfresh
  | some n => exact hchanged

/-- Changes that some settings accept are accepted by the initial ones. -/
theorem fault?_initial_apply {settings : Settings} {changes : Changes}
    (haccepted : (settings.apply changes).fault? = none) :
    (initial.apply changes).fault? = none := by
  rw [fault?_eq_none_iff] at haccepted ⊢
  simp only [positives, nonnegatives, apply, List.forall_mem_cons, List.not_mem_nil,
    false_implies, implies_true, and_true] at haccepted ⊢
  obtain ⟨⟨hchars, hlines, htimeout, hdepth, hnodes⟩, hradius, hreserved⟩ := haccepted
  exact ⟨⟨getD_of_getD hchars (by decide), getD_of_getD hlines (by decide),
    getD_of_getD htimeout (by decide), getD_of_getD hdepth (by decide),
    getD_of_getD hnodes (by decide)⟩, getD_of_getD hradius (by decide),
    getD_of_getD hreserved (by decide)⟩

/-! ## Values of the changes -/

/-- The values that the changed settings have in other settings. -/
def Changes.valuesIn (changes : Changes) (settings : Settings) : Changes where
  maxBlockChars := changes.maxBlockChars.map fun _ => settings.maxBlockChars
  maxBlockLines := changes.maxBlockLines.map fun _ => settings.maxBlockLines
  parseTimeout := changes.parseTimeout.map fun _ => settings.parseTimeout
  maxDepth := changes.maxDepth.map fun _ => settings.maxDepth
  maxNodes := changes.maxNodes.map fun _ => settings.maxNodes
  windowRadius := changes.windowRadius.map fun _ => settings.windowRadius
  model := changes.model.map fun _ => settings.model
  tokenCeiling := changes.tokenCeiling.map fun _ => settings.tokenCeiling
  reservedTokens := changes.reservedTokens.map fun _ => settings.reservedTokens
  extensions := changes.extensions.map fun _ => settings.extensions
  exactTokens := changes.exactTokens.map fun _ => settings.exactTokens

/-- Settings with normalized extensions, as a check that finds no fault leaves them. -/
def normalized (draft : Settings) : Settings :=
  { draft with extensions := Extension.normalizeAll draft.extensions }

theorem check_eq_ok {draft settings : Settings} :
    draft.check = .ok settings ↔ draft.fault? = none ∧ settings = draft.normalized := by
  rw [check_eq]
  cases draft.fault? with
  | none => simp [refusing, normalized, eq_comm]
  | some fault => simp [refusing]

theorem getD_map_getD {α : Type} (change : Option α) (old fresh : α) :
    (change.map fun _ => change.getD fresh).getD old = change.getD old := by
  cases change <;> rfl

/-- Fresh settings give each changed setting the new value, the extensions normalized. -/
theorem apply_valuesIn_normalized (settings : Settings) (changes : Changes) :
    settings.apply (changes.valuesIn (initial.apply changes).normalized) =
      { settings.apply changes with
        extensions := (changes.extensions.map Extension.normalizeAll).getD settings.extensions } := by
  have hextensions :
      (changes.extensions.map fun _ =>
          Extension.normalizeAll (changes.extensions.getD initial.extensions)).getD
        settings.extensions =
      (changes.extensions.map Extension.normalizeAll).getD settings.extensions := by
    cases changes.extensions <;> rfl
  simp only [apply, Changes.valuesIn, normalized, getD_map_getD, hextensions]

/-! ## Settings that can be had -/

/-- Settings made from some values or from an environment. -/
inductive IsMade : Settings → Prop
  | values {changes : Changes} {settings : Settings}
      (hmake : make changes = .ok settings) :
      IsMade settings
  | environment {environment : Environment} {settings : Settings}
      (hsettings : environment.settings = .ok settings) :
      IsMade settings

theorem IsMade.exists_make {settings : Settings} (hmade : settings.IsMade) :
    ∃ changes, make changes = .ok settings := by
  cases hmade with
  | values hmake => exact ⟨_, hmake⟩
  | @environment environment _ hsettings =>
    unfold Environment.settings at hsettings
    cases hchanges : environment.changes with
    | error fault => simp [hchanges, bind, Except.bind] at hsettings
    | ok changes => exact ⟨changes, by simpa [hchanges, bind, Except.bind] using hsettings⟩

theorem IsMade.isNormalized {settings : Settings} (hmade : settings.IsMade) :
    ∀ extension ∈ settings.extensions, Extension.IsNormalized extension := by
  obtain ⟨changes, hmake⟩ := hmade.exists_make
  obtain ⟨-, rfl⟩ := check_eq_ok.mp hmake
  intro extension hmem
  exact Extension.isNormalized_of_mem_normalizeAll hmem

theorem supports_congr {first second : Settings}
    (hextensions : first.extensions = second.extensions)
    (path : String) :
    first.supports path = second.supports path := by
  rw [supports, supports, hextensions]

/-- Overriding gives the changed settings the values of fresh ones and keeps the others, but for the
extensions, which it keeps exactly if each of them begins visibly. -/
theorem override_keeps_others_iff {settings changed : Settings} {changes : Changes}
    (hmade : settings.IsMade)
    (hoverride : settings.override changes = .ok changed) :
    ∃ made, make changes = .ok made ∧
      changed = { settings.apply (changes.valuesIn made) with extensions := changed.extensions } ∧
      (changed = settings.apply (changes.valuesIn made) ↔
        changes.isEmpty = true ∨ changes.extensions.isSome = true ∨
          ∀ extension ∈ settings.extensions, Extension.beginsVisibly extension = true) ∧
      (changes.extensions = none →
        (∀ extension ∈ settings.extensions, Extension.beginsVisibly extension = true) →
          ∀ path, changed.supports path = settings.supports path) := by
  have hkept := Extension.normalizeAll_eq_self_iff hmade.isNormalized
  unfold override at hoverride
  by_cases hempty : changes.isEmpty = true
  · have hnone : changes = {} := by simpa [Changes.isEmpty] using hempty
    rw [if_pos hempty] at hoverride
    cases hoverride
    subst hnone
    exact ⟨_, rfl, rfl, by simp [hempty]; rfl, fun _ _ path => rfl⟩
  · rw [if_neg hempty] at hoverride
    obtain ⟨haccepted, rfl⟩ := check_eq_ok.mp hoverride
    refine ⟨_, check_eq_ok.mpr ⟨fault?_initial_apply haccepted, rfl⟩, ?_, ?_, ?_⟩
    · rw [apply_valuesIn_normalized]
      rfl
    · rw [apply_valuesIn_normalized, normalized]
      cases hextensions : changes.extensions with
      | some texts => simp [apply, hextensions]
      | none => simp [apply, hextensions, hempty, hkept]
    · intro hnone hvisible path
      refine supports_congr ?_ path
      simp [normalized, apply, hnone, hkept.mpr hvisible]

end Settings

/-! Extensions written with a dot, blanks and capitals, in settings whose radius is overridden. -/

namespace LooseExtensions

def written : Settings.Changes :=
  { extensions := some [" ..PY ", "Ts", " "] }

def made : Settings :=
  { Settings.initial with extensions := ["py", "ts"] }

def change : Settings.Changes :=
  { windowRadius := some 3 }

theorem make_written : Settings.make written = .ok made := by
  decide +kernel

end LooseExtensions

theorem looseExtensions_kept :
    ∃ changed, LooseExtensions.made.override LooseExtensions.change = .ok changed ∧
      changed = { LooseExtensions.made with windowRadius := 3 } ∧
      ∀ path, changed.supports path = LooseExtensions.made.supports path := by
  obtain ⟨changed, hoverride⟩ : ∃ changed,
      LooseExtensions.made.override LooseExtensions.change = .ok changed :=
    ⟨{ LooseExtensions.made with windowRadius := 3 }, by decide +kernel⟩
  have hvisible : ∀ extension ∈ LooseExtensions.made.extensions,
      Extension.beginsVisibly extension = true := by
    decide +kernel
  obtain ⟨fresh, hfresh, -, hkept, hsupports⟩ :=
    Settings.override_keeps_others_iff (.values LooseExtensions.make_written) hoverride
  have hradius : fresh.windowRadius = 3 := by
    obtain ⟨-, rfl⟩ := Settings.check_eq_ok.mp hfresh
    rfl
  refine ⟨changed, hoverride, ?_, hsupports rfl hvisible⟩
  rw [hkept.mpr (.inr (.inr hvisible))]
  simp [Settings.apply, Settings.Changes.valuesIn, LooseExtensions.change, hradius]

/-! An extension with a blank behind its dot, in settings whose model is overridden. -/

namespace BlankBehindDot

def written : Settings.Changes :=
  { extensions := some [". py"] }

def change : Settings.Changes :=
  { model := some "m" }

end BlankBehindDot

theorem blankBehindDot_lost :
    ∃ made changed, Settings.make BlankBehindDot.written = .ok made ∧
      made.override BlankBehindDot.change = .ok changed ∧
      made.extensions = [" py"] ∧ changed.extensions = ["py"] ∧
      made.supports "a. py" = true ∧ changed.supports "a. py" = false := by
  refine ⟨{ Settings.initial with extensions := [" py"] },
    { Settings.initial with model := "m", extensions := ["py"] }, ?_⟩
  decide +kernel

end ReviewContext
