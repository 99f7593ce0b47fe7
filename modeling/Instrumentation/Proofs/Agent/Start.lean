import Instrumentation.Agent.Start
import Instrumentation.Proofs.Agent.Reconfiguration
import Instrumentation.Proofs.Config.FileTree
import Instrumentation.Proofs.Config.Rendered
import Instrumentation.Proofs.Config.Source

set_option autoImplicit false

/-!
# What loads is accepted

The rules of a configuration are converted twice: when the configuration is loaded, and again when the agent applies it.
Both agree on every configuration (`accepted_of_validate`), so that an agent that does not start has no configuration,
and never one that is refused (`StartsAs`). A configuration that is saved loads again as it was, or is refused with the
error of its rules, because the file is read as it was written and its text is read like the configuration
(`loadFile_of_saveFile`).
-/

namespace Instrumentation

open AgentConfig

/-! ## Saving and loading -/

/-- A path with the extension `json`, in any case of letters, means the format of that name. -/
theorem ConfigFormat.ofPath_of_extension {p : FilePath} (h : p.extension.map Char.toLower = "json") :
    ofPath p = .json := by
  rw [ofPath, h]
  rfl

namespace AgentConfig

/-- **A saved configuration is loaded as it was**, if its rules are accepted. -/
theorem loadFile_of_saveFile {t : FileTree} {p : FilePath} (hp : t.Writable p)
    (hformat : ConfigFormat.ofPath p = .json) (c : AgentConfig) :
    ∃ t', saveFile t p c = .ok t' ∧ loadFile t' p = c.checked := by
  obtain ⟨t', hwrite, hread⟩ := FileTree.exists_writeText hp (c.render .json)
  refine ⟨t', ?_, ?_⟩
  · rw [saveFile, hformat, hwrite]
    rfl
  · rw [loadFile_of_text hread, hformat, c.parse_render]
    rfl

/-! ## What is loaded -/

theorem validate_default : AgentConfig.validate {} = .ok () := rfl

theorem validate_of_loadFile {t : FileTree} {p : FilePath} {c : AgentConfig}
    (h : loadFile t p = .ok c) : c.validate = .ok () := by
  obtain ⟨text, -, -, hvalidate⟩ := loadFile_eq_ok_iff.1 h
  exact hvalidate

theorem validate_of_load {t : FileTree} {directory : String} {explicit : Option String}
    {c : AgentConfig} (h : load t directory explicit = .ok c) : c.validate = .ok () := by
  have hloaded : Loaded t (source? t explicit) (load t directory explicit) :=
    loaded_load (decides_iff.2 rfl)
  rcases hloaded.content c h with ⟨-, rfl⟩ | ⟨p, text, -, -, -, hvalidate⟩
  · exact validate_default
  · exact hvalidate

end AgentConfig

namespace Agent

variable {H : Type}

/-! ## Starting -/

/-- A configuration whose rules are accepted is applied, to a new agent at once or to an agent in use part by part. -/
theorem accepted_of_validate {c : AgentConfig} (h : c.validate = .ok ()) :
    ∃ a : Agent H, ofConfig c = .ok a ∧ (applyConfig c).run.run initial = (.ok (), a) := by
  cases hrules : c.rules with
  | error e =>
      rw [validate, hrules] at h
      cases h
  | ok rules =>
      refine ⟨initial.applyRules c rules, ?_, ?_⟩
      · rw [ofConfig, reconfigure, hrules]
        rfl
      · rw [applyConfig_run, hrules]

/-- How an agent starts from what was loaded: it has the configuration, or fails with the error of loading. -/
structure StartsAs (attempt : String) (loaded : Except LoadError AgentConfig)
    (started : Except StartError (Agent H)) : Prop where
  ok : ∀ c, loaded = .ok c → ∃ a, ofConfig c = .ok a ∧ started = .ok a
  failed : ∀ cause, loaded = .error cause → started = .error (.unloaded attempt cause)
  /-- There is no other error. -/
  only : ∀ e, started = .error e → ∃ cause, loaded = .error cause ∧ e = .unloaded attempt cause

theorem startsAs_ofLoaded {loaded : Except LoadError AgentConfig}
    (h : ∀ c, loaded = .ok c → c.validate = .ok ()) (attempt : String) :
    StartsAs attempt loaded (ofLoaded attempt loaded : Except StartError (Agent H)) := by
  cases loaded with
  | error cause =>
      refine ⟨nofun, ?_, ?_⟩
      · rintro cause' heq
        cases heq
        rfl
      · rintro e heq
        cases heq
        exact ⟨cause, rfl, rfl⟩
  | ok c =>
      obtain ⟨a, hconfig, -⟩ := accepted_of_validate (H := H) (h c rfl)
      have hstarted : ofLoaded attempt (.ok c) = .ok a := by
        show (ofConfig c).mapError StartError.refused = .ok a
        rw [hconfig]
        rfl
      refine ⟨?_, nofun, ?_⟩
      · rintro c' heq
        cases heq
        exact ⟨a, hconfig, hstarted⟩
      · intro e heq
        rw [hstarted] at heq
        cases heq

/-- What was tried is told apart from a refusal by its first letter. -/
theorem ne_rejected {tried : String} (h : tried.toList.head? = some 'F') (rest : String) :
    tried ++ rest ≠ "Agent configuration rejected" := by
  intro heq
  have hhead : (tried ++ rest).toList.head? = some 'A' := by
    rw [heq]
    rfl
  rw [String.toList_append, List.head?_append, h] at hhead
  cases hhead

theorem startsAs_startFromFile (t : FileTree) (directory path : String) :
    StartsAs ("Failed to load agent configuration from " ++ directory ++ "/" ++ path)
      (loadFile t (.ofText path)) (startFromFile t directory path : Except StartError (Agent H)) :=
  startsAs_ofLoaded (fun _ => validate_of_loadFile) _

theorem startsAs_startIn (t : FileTree) (directory : String) (explicit : Option String) :
    StartsAs ("Failed to load agent configuration for " ++ directory) (load t directory explicit)
      (startIn t directory explicit : Except StartError (Agent H)) :=
  startsAs_ofLoaded (fun _ => validate_of_load) _

/-- **What loads is accepted.** Whatever configuration is loaded, from a file or for a directory, an agent is made of
it, and so an agent that does not start fails with the error of loading; what was tried is never said to be a refusal.
A configuration that is saved under a path that can be written is loaded as it was if its rules are accepted, and is
otherwise refused with the very error that its rules have. -/
theorem loaded_accepted :
    (∀ (t : FileTree) (p : FilePath) (c : AgentConfig), loadFile t p = .ok c →
      ∃ a : Agent H, ofConfig c = .ok a ∧ (applyConfig c).run.run initial = (.ok (), a)) ∧
      (∀ (t : FileTree) (directory : String) (explicit : Option String) (c : AgentConfig),
        load t directory explicit = .ok c →
        ∃ a : Agent H, ofConfig c = .ok a ∧ (applyConfig c).run.run initial = (.ok (), a)) ∧
      (∀ (t : FileTree) (directory path : String),
        StartsAs ("Failed to load agent configuration from " ++ directory ++ "/" ++ path)
          (loadFile t (.ofText path)) (startFromFile t directory path : Except StartError (Agent H))) ∧
      (∀ (t : FileTree) (directory : String) (explicit : Option String),
        StartsAs ("Failed to load agent configuration for " ++ directory) (load t directory explicit)
          (startIn t directory explicit : Except StartError (Agent H))) ∧
      (∀ (t : FileTree) (directory path : String) (explicit : Option String) (e : StartError),
        (startFromFile t directory path : Except StartError (Agent H)) = .error e ∨
          (startIn t directory explicit : Except StartError (Agent H)) = .error e →
        e.attempt ≠ "Agent configuration rejected") ∧
      (∀ p : FilePath, p.extension.map Char.toLower = "json" → ConfigFormat.ofPath p = .json) ∧
      ∀ (t : FileTree) (p : FilePath) (c : AgentConfig), t.Writable p → ConfigFormat.ofPath p = .json →
        ∃ t', saveFile t p c = .ok t' ∧ (c.validate = .ok () → loadFile t' p = .ok c) ∧
          ∀ e, c.validate = .error e → loadFile t' p = .error (.rejected e) := by
  refine ⟨fun _ _ _ h => accepted_of_validate (validate_of_loadFile h),
    fun _ _ _ _ h => accepted_of_validate (validate_of_load h), startsAs_startFromFile,
    startsAs_startIn, ?_, fun _ => ConfigFormat.ofPath_of_extension, ?_⟩
  · rintro t directory path explicit e (h | h)
    · obtain ⟨cause, -, rfl⟩ := (startsAs_startFromFile t directory path).only e h
      show "Failed to load agent configuration from " ++ directory ++ "/" ++ path ≠ _
      rw [String.append_assoc, String.append_assoc]
      exact ne_rejected rfl _
    · obtain ⟨cause, -, rfl⟩ := (startsAs_startIn t directory explicit).only e h
      exact ne_rejected rfl directory
  · intro t p c hp hformat
    obtain ⟨t', hsave, hload⟩ := loadFile_of_saveFile hp hformat c
    refine ⟨t', hsave, fun hvalidate => ?_, fun e hvalidate => ?_⟩
    · rw [hload, checked, hvalidate]
    · rw [hload, checked, hvalidate]

/-- A configuration that is accepted and one that is refused are saved in a directory that is made for them. -/
theorem loaded_accepted_saved :
    (∃ t', saveFile {} (.ofText "conf/Agent.JSON") editedConfig = .ok t' ∧
      ∃ a : Agent Unit, startFromFile t' "/srv" "conf/Agent.JSON" = .ok a) ∧
      ∃ t', saveFile {} (.ofText "conf/Agent.JSON") refusedConfig = .ok t' ∧
        (startFromFile t' "/srv" "conf/Agent.JSON" : Except StartError (Agent Unit)) =
          .error (.unloaded "Failed to load agent configuration from /srv/conf/Agent.JSON"
            (.rejected (.invalidPattern "com/acme/" .missingSimpleName))) := by
  have hp : FileTree.Writable {} (.ofText "conf/Agent.JSON") := ⟨.empty, _, rfl⟩
  have hextension : (FilePath.ofText "conf/Agent.JSON").extension.map Char.toLower = "json" := by
    decide +kernel
  have hvalidate : refusedConfig.validate =
      .error (.invalidPattern "com/acme/" .missingSimpleName) := by
    decide +kernel
  obtain ⟨-, -, hstarts, -, -, hformat, hsaved⟩ := loaded_accepted (H := Unit)
  obtain ⟨t, hsave, hload, -⟩ := hsaved {} _ editedConfig hp (hformat _ hextension)
  obtain ⟨t', hsave', -, hload'⟩ := hsaved {} _ refusedConfig hp (hformat _ hextension)
  obtain ⟨a, -, hstarted⟩ := (hstarts t "/srv" "conf/Agent.JSON").ok _ (hload (by decide +kernel))
  exact ⟨⟨t, hsave, a, hstarted⟩, t', hsave',
    (hstarts t' "/srv" "conf/Agent.JSON").failed _ (hload' _ hvalidate)⟩

end Agent

end Instrumentation
