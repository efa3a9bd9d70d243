import WorkflowCanvas.Proofs.Validation.Config

/-! What a report depends on. Under a key it regards the setting that has the key and, if a field has
the key, the setting that the condition of the field names. Other settings may change as they will. -/
namespace WorkflowCanvas

namespace KeyMap
variable {α : Type} {m : KeyMap α} {key other : String}

/-- Put a value under a key, or take away what is there. -/
def assign (m : KeyMap α) (key : String) : Option α → KeyMap α
  | some value => m.insert key value
  | none => m.filter (·.1 != key)

theorem get?_assign {value? : Option α} :
    (m.assign key value?).get? other = if other = key then value? else m.get? other := by
  cases value? with
  | some value => exact get?_insert m key other value
  | none =>
    rw [assign, get?_filter (· != key)]
    by_cases hkey : other = key
    · simp [hkey]
    · simp [hkey]

end KeyMap

namespace FieldSpec
variable {f : FieldSpec} {config config' : Config} {fields : List FieldSpec} {key : String}

theorem controlling?_congr (h : KeyMap.get? config' key = KeyMap.get? config key) :
    controlling? key config' fields = controlling? key config fields := by
  unfold controlling?
  rw [h]

/-- Only the setting that the condition names decides. Whether the field that goes with that setting is
shown itself does not matter. -/
theorem shown_congr (h : ∀ condition, f.visibleWhen = some condition →
    KeyMap.get? config' condition.field = KeyMap.get? config condition.field) :
    f.shown config' fields = f.shown config fields := by
  unfold shown
  cases hcondition : f.visibleWhen with
  | none => rfl
  | some condition => simp only [controlling?_congr (h condition hcondition)]

theorem error?_congr (hkey : KeyMap.get? config' f.key = KeyMap.get? config f.key)
    (hshown : f.shown config' fields = f.shown config fields) :
    f.error? config' fields = f.error? config fields := by
  rw [error?, error?, hkey, hshown]

theorem warning?_congr (hkey : KeyMap.get? config' f.key = KeyMap.get? config f.key)
    (hshown : f.shown config' fields = f.shown config fields) :
    f.warning? config' fields = f.warning? config fields := by
  rw [warning?, warning?, hkey, hshown]

end FieldSpec

namespace Definition
variable {d : Definition} {config config' : Config} {k : String}

/-- What is reported under a key regards the setting with this key, and the one that the field with
this key, if there is one, names in its condition. -/
inductive Regards (d : Definition) (k : String) : String → Prop where
  | own : Regards d k k
  | condition {f : FieldSpec} {condition : FieldCondition} (field : f ∈ d.fields) (key : f.key = k)
      (when : f.visibleWhen = some condition) : Regards d k condition.field

theorem validate_congr (hd : (d.fields.map (·.key)).Nodup)
    (h : ∀ j, d.Regards k j → KeyMap.get? config' j = KeyMap.get? config j) :
    (d.validate config').errors.get? k = (d.validate config).errors.get? k ∧
    (d.validate config').warnings.get? k = (d.validate config).warnings.get? k := by
  have hown : KeyMap.get? config' k = KeyMap.get? config k := h k .own
  rw [get?_errors hd, get?_errors hd, get?_warnings hd, get?_warnings hd]
  cases hfield : d.field? k with
  | none => simp [hown]
  | some f =>
    obtain ⟨hf, hkey⟩ := (field?_eq_some_iff hd).mp hfield
    have hshown : f.shown config' d.fields = f.shown config d.fields :=
      FieldSpec.shown_congr fun condition hwhen => h _ (.condition hf hkey hwhen)
    have hvalue : KeyMap.get? config' f.key = KeyMap.get? config f.key := hkey ▸ hown
    exact ⟨FieldSpec.error?_congr hvalue hshown, FieldSpec.warning?_congr hvalue hshown⟩

end Definition

/-- To set a setting, or to take it away, changes nothing in what is reported under another key, unless
the field with that key names the setting in its condition. -/
theorem Registry.validateConfig_assign {r : Registry} {type : String} {d : Definition}
    (htype : r.get? type = some d) (hkeys : (d.fields.map (·.key)).Nodup) (config : Config)
    (j : String) (value? : Option Json) :
    ∃ before after, r.validateConfig type config = .ok before ∧
      r.validateConfig type (KeyMap.assign config j value?) = .ok after ∧
      ∀ k, k ≠ j → (∀ f ∈ d.fields, f.key = k → ∀ condition, f.visibleWhen = some condition →
          condition.field ≠ j) →
        after.errors.get? k = before.errors.get? k ∧
        after.warnings.get? k = before.warnings.get? k := by
  have hreport : ∀ config, r.validateConfig type config = .ok (d.validate config) := by
    intro config
    rw [validateConfig, htype]
  refine ⟨_, _, hreport _, hreport _, fun k hk hnamed => ?_⟩
  refine Definition.validate_congr hkeys fun i hregards => ?_
  have hi : i ≠ j := by
    cases hregards with
    | own => exact hk
    | condition field key when => exact hnamed _ field key _ when
  rw [KeyMap.get?_assign, if_neg hi]

/-- The letter is signed after all: its name counts now, and neither the copies nor the colour are
looked at again. -/
theorem validateConfig_assign_signed :
    Registry.get? ⟨[letter], []⟩ "letter" = some letter ∧ (letter.fields.map (·.key)).Nodup ∧
    ∃ before after, Registry.validateConfig ⟨[letter], []⟩ "letter" misaddressed = .ok before ∧
      Registry.validateConfig ⟨[letter], []⟩ "letter"
        (KeyMap.assign misaddressed "mode" (some (.str "signed"))) = .ok after ∧
      after.errors.get? "copies" = before.errors.get? "copies" ∧
      after.warnings.get? "colour" = before.warnings.get? "colour" ∧
      before.errors.get? "copies" = some "Copies must be at most 9" ∧
      before.warnings.get? "colour" = some "Unknown setting 'colour'" ∧
      before.warnings.keys = ["colour", "name"] ∧ after.warnings.keys = ["colour"] := by
  have htype : Registry.get? ⟨[letter], []⟩ "letter" = some letter := rfl
  have hkeys : (letter.fields.map (·.key)).Nodup := by decide +kernel
  obtain ⟨before, after, hbefore, hafter, hsame⟩ :=
    Registry.validateConfig_assign htype hkeys misaddressed "mode" (some (.str "signed"))
  obtain rfl := Except.ok.inj hbefore
  obtain rfl := Except.ok.inj hafter
  have hcopies := hsame "copies" (by decide) (by decide +kernel)
  have hcolour := hsame "colour" (by decide) (by decide +kernel)
  exact ⟨htype, hkeys, _, _, rfl, rfl, hcopies.1, hcolour.2, by decide +kernel, by decide +kernel,
    by decide +kernel, by decide +kernel⟩

end WorkflowCanvas
