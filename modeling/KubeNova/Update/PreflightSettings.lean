import KubeNova.Update.PreflightOrder

/-!
# The settings an install uses

A preflight reads the settings several times and puts their fingerprint into a field that all
preflights share.  Where no save comes between the readings of one request, and the fingerprint
an install finds in the field is its own preflight's, the install uses what that preflight read.
-/

namespace KubeNova.Update

open KubeNova.Common KubeNova.Foundation

/-- No save between the readings of a preflight or of an install, and the fingerprint compared is
the one of the preflight that the install relies on. -/
def IsSteady : UpdateEvent → Prop
  | .executed _ _ run => run.first = run.last
  | .compared id writer _ => writer = some id
  | .accepted a => a.compared = a.read
  | _ => True

instance : DecidablePred IsSteady := by
  rintro ⟨⟩ <;> unfold IsSteady <;> infer_instance

/-- An accepted install uses the settings that its preflight was executed with, whose fingerprint
the preflight recorded. -/
def UsesSettings (service : UpdateService) (s : UpdateState) : Prop :=
  ∀ a, .accepted a ∈ s.log →
    (∃ request run, .executed request a.preflightId run ∈ s.log) ∧
    ∀ request run, .executed request a.preflightId run ∈ s.log →
      run.executorSettings = a.used ∧ run.settings = publicSettings a.used ∧
        run.fingerprint = service.settings.digest (rowAt s.saves a.read)

theorem PreflightRun.IsReadFrom.steady {config : SettingsConfig} {saves : List String}
    {run : PreflightRun} (h : run.IsReadFrom config saves) (hsteady : run.first = run.last) :
    config.decode (rowAt saves run.last) = .ok run.executorSettings ∧
      run.settings = publicSettings run.executorSettings := by
  obtain ⟨n, hfirst, hlast, hexecutor⟩ := h.executorSettings
  obtain ⟨stored, hstored, hsettings⟩ := h.settings
  obtain rfl : n = run.last := by omega
  rw [hsteady, hexecutor] at hstored
  obtain rfl := Except.ok.inj hstored
  exact ⟨hexecutor, hsettings⟩

theorem hostService_tellsApart (row row' : Option String) :
    hostService.settings.TellsApart row row' := fun h => h

/-- Other settings are saved after a preflight, another preflight puts their fingerprint into the
shared field, and the first one is installed before the second comes to its end. -/
def borrowed : Pool Exception UpdateState UpdateAnswer :=
  Pool.play ⟨hostState, [hostPreflight true, hostService.save secondSettings "j",
      hostPreflight true, hostInstall "p"]⟩
    (List.replicate 12 0 ++ List.replicate 2 1 ++ List.replicate 9 2 ++ List.replicate 9 3)

theorem borrowed_reach : UpdateReach hostService hostState borrowed := by
  refine hostReach _ (fun h hh => ?_) _
  simp only [List.mem_cons, List.not_mem_nil, or_false] at hh
  rcases hh with rfl | rfl | rfl | rfl
  · exact .preflight _ _
  · exact .save _ _
  · exact .preflight _ _
  · exact .install _ _ _

end KubeNova.Update
