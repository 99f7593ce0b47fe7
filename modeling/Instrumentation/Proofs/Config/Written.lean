import Instrumentation.Config.Written
import Instrumentation.Proofs.Document
import Instrumentation.Proofs.Json.Altered

set_option autoImplicit false

/-!
# Configurations that were written and altered

A written configuration can be edited on every level: fields are left out, unknown ones are added, and the order is
changed. `Altered` says for each type of record which documents come from such edits, and what has to be read from
them: the value that was written, with the documented default values (`without`) in place of what is left out.

The main statement is `AgentConfig.read?_written`. The types are treated from the inside out, each by what is said of
altered records in general and of the types inside it. A document that nobody has edited is a special case
(`AgentConfig.altered_toJson`), and so reading undoes writing.
-/

namespace Instrumentation

open Json

/-! ## Single values -/

theorem bool?_bool (b : Bool) : Document.bool? (Json.bool b) = some b := rfl

theorem text?_string (s : String) : Document.text? (Json.string s) = some s := rfl

theorem int64?_ofInt (i : Int64) : Document.int64? (Json.ofInt i.toInt) = some i :=
  Document.int64?_of_signed rfl

theorem uint64?_ofNat (n : UInt64) : Document.uint64? (Json.ofNat n.toNat) = some n :=
  Document.uint64?_of_unsigned rfl

theorem texts?_ofStrings (xs : List String) :
    Document.list? Document.text? (Json.ofStrings xs) = some xs := by
  show (xs.map Json.string).mapM Document.text? = some xs
  induction xs with
  | nil => rfl
  | cons x rest ih =>
      rw [List.map_cons, List.mapM_cons, ih]
      rfl

theorem UnitKind.read?_toJson (k : UnitKind) : UnitKind.read? k.toJson = some k :=
  k.ofText?_text

/-- Every action is read from its written form, whatever argument it is about. -/
theorem HookAction.read?_toJson (a : HookAction) : HookAction.read? a.toJson = some a := by
  cases a with
  | wrapSubmittedTask index =>
      -- The rest of the record was taken in whole, so that its index is read from an untyped value.
      have hindex : Document.uint64? (Untyped.integer index.toNat) = some index :=
        uint64?_ofNat index
      show (Document.uint64? (Untyped.integer index.toNat)).bind
        (fun index => some (wrapSubmittedTask index)) = some (wrapSubmittedTask index)
      rw [hindex, Option.bind_some]
  | _ => rfl

/-! ## Filters and methods -/

/-- The filter with the documented default values in place of what is left out. -/
def ExceptionFilter.without (f : ExceptionFilter) (leftOut : String → Bool) : ExceptionFilter where
  enabled := if leftOut "enabled" then true else f.enabled
  suppressedTypes := if leftOut "suppressedTypes" then [] else f.suppressedTypes
  validTypes := if leftOut "validTypes" then [] else f.validTypes
  maxStackSize := if leftOut "maxStackSize" then 300 else f.maxStackSize

/-- The documents that come from a written filter by edits, and what is to be read from them. -/
inductive ExceptionFilter.Altered : ExceptionFilter → Json → ExceptionFilter → Prop
  | edit {f : ExceptionFilter} {fields : List (String × Json)} (leftOut : String → Bool)
      (h : AlteredFields f.toJson.fields leftOut fields) :
      Altered f (.object fields) (f.without leftOut)

theorem ExceptionFilter.Altered.read?_eq {f f' : ExceptionFilter} {j : Json} (h : f.Altered j f') :
    read? j = some f' := by
  obtain ⟨leftOut, h⟩ := h
  obtain ⟨r, hrecord, hfields⟩ := h.record?_eq outline.fieldNames rfl (by decide)
  rw [read?, hrecord]
  simp only [Option.bind_eq_bind, Option.bind_some]
  -- Field by field: under the name it was written with it is either read back or left out.
  rw [defaulted_eq hfields rfl (bool?_bool f.enabled),
    defaulted_eq hfields rfl (texts?_ofStrings f.suppressedTypes),
    defaulted_eq hfields rfl (texts?_ofStrings f.validTypes),
    defaulted_eq hfields rfl (uint64?_ofNat f.maxStackSize)]
  rfl

theorem ExceptionFilter.altered_toJson (f : ExceptionFilter) : f.Altered f.toJson f :=
  .edit (fun _ => false) (.refl _)

/-- The method with the documented default values in place of what is left out. -/
def MethodConfig.without (m : MethodConfig) (leftOut : String → Bool) : MethodConfig where
  name := if leftOut "name" then "" else m.name
  signature := if leftOut "signature" then "" else m.signature
  action := if leftOut "action" then .reportTiming else m.action
  reportCaughtExceptions := if leftOut "reportCaughtExceptions" then false else m.reportCaughtExceptions
  reportOnEntry := if leftOut "reportOnEntry" then true else m.reportOnEntry
  minDurationThresholdNanos :=
    if leftOut "minDurationThresholdNanos" then 0 else m.minDurationThresholdNanos

/-- The documents that come from a written method by edits, and what is to be read from them. -/
inductive MethodConfig.Altered : MethodConfig → Json → MethodConfig → Prop
  | edit {m : MethodConfig} {fields : List (String × Json)} (leftOut : String → Bool)
      (h : AlteredFields m.toJson.fields leftOut fields) :
      Altered m (.object fields) (m.without leftOut)

theorem MethodConfig.Altered.read?_eq {m m' : MethodConfig} {j : Json} (h : m.Altered j m') :
    read? j = some m' := by
  obtain ⟨leftOut, h⟩ := h
  obtain ⟨r, hrecord, hfields⟩ := h.record?_eq outline.fieldNames rfl (by decide)
  rw [read?, hrecord]
  simp only [Option.bind_eq_bind, Option.bind_some]
  rw [defaulted_eq hfields rfl (text?_string m.name),
    defaulted_eq hfields rfl (text?_string m.signature),
    defaulted_eq hfields rfl m.action.read?_toJson,
    defaulted_eq hfields rfl (bool?_bool m.reportCaughtExceptions),
    defaulted_eq hfields rfl (bool?_bool m.reportOnEntry),
    defaulted_eq hfields rfl (uint64?_ofNat m.minDurationThresholdNanos)]
  rfl

theorem MethodConfig.altered_toJson (m : MethodConfig) : m.Altered m.toJson m :=
  .edit (fun _ => false) (.refl _)

/-! ## Rules -/

/-- The rule with the documented default values in place of what is left out. -/
def TargetConfig.without (t : TargetConfig) (leftOut : String → Bool) : TargetConfig where
  name := if leftOut "name" then "" else t.name
  pattern := if leftOut "pattern" then false else t.pattern
  kind := if leftOut "kind" then .other else t.kind
  reportCaughtExceptions := if leftOut "reportCaughtExceptions" then false else t.reportCaughtExceptions
  reportExecutionTime := if leftOut "reportExecutionTime" then true else t.reportExecutionTime
  methods := if leftOut "methods" then [] else t.methods

/-- The documents that come from a written rule by edits of the rule and its methods, and what is to be read from
them. -/
inductive TargetConfig.Altered : TargetConfig → Json → TargetConfig → Prop
  | edit {t : TargetConfig} {methods : List MethodConfig} {js : List Json}
      {fields : List (String × Json)}
      (items : AlteredItems MethodConfig.Altered t.methods js methods) (leftOut : String → Bool)
      (h : AlteredFields (setField "methods" (.array js) t.toJson.fields) leftOut fields) :
      Altered t (.object fields) ({ t with methods }.without leftOut)

theorem TargetConfig.Altered.read?_eq {t t' : TargetConfig} {j : Json} (h : t.Altered j t') :
    read? j = some t' := by
  obtain ⟨items, leftOut, h⟩ := h
  obtain ⟨r, hrecord, hfields⟩ := h.record?_eq outline.fieldNames rfl (by decide)
  rw [read?, hrecord]
  simp only [Option.bind_eq_bind, Option.bind_some]
  rw [defaulted_eq hfields rfl (text?_string t.name),
    defaulted_eq hfields rfl (bool?_bool t.pattern),
    defaulted_eq hfields rfl t.kind.read?_toJson,
    defaulted_eq hfields rfl (bool?_bool t.reportCaughtExceptions),
    defaulted_eq hfields rfl (bool?_bool t.reportExecutionTime),
    defaulted_eq hfields rfl (items.list?_eq MethodConfig.read? fun _ _ _ => MethodConfig.Altered.read?_eq)]
  rfl

theorem TargetConfig.altered_toJson (t : TargetConfig) : t.Altered t.toJson t :=
  .edit (.refl MethodConfig.altered_toJson t.methods) (fun _ => false) (.refl _)

/-! ## The whole -/

/-- The settings with the documented default values in place of what is left out. A filter that is left out is one
of which every field is left out. -/
def BuiltInConfig.without (b : BuiltInConfig) (leftOut : String → Bool) : BuiltInConfig where
  enabled := if leftOut "enabled" then true else b.enabled
  jdbcEnabled := if leftOut "jdbcEnabled" then true else b.jdbcEnabled
  httpEnabled := if leftOut "httpEnabled" then true else b.httpEnabled
  cacheEnabled := if leftOut "cacheEnabled" then true else b.cacheEnabled
  executorDiscovery := if leftOut "executorDiscovery" then false else b.executorDiscovery
  sqlMaxQueryThresholdMs :=
    if leftOut "sqlMaxQueryThresholdMs" then 10000 else b.sqlMaxQueryThresholdMs
  cacheThresholdMs := if leftOut "cacheThresholdMs" then 10000 else b.cacheThresholdMs
  exceptionFilter :=
    if leftOut "exceptionFilter" then b.exceptionFilter.without fun _ => true
    else b.exceptionFilter
  simpleTargets := if leftOut "simpleTargets" then [] else b.simpleTargets

/-- The documents that come from written settings by edits of the settings, the filter and the rules, and what is to be
read from them. -/
inductive BuiltInConfig.Altered : BuiltInConfig → Json → BuiltInConfig → Prop
  | edit {b : BuiltInConfig} {exceptionFilter : ExceptionFilter} {j : Json}
      {simpleTargets : List TargetConfig} {js : List Json} {fields : List (String × Json)}
      (filter : b.exceptionFilter.Altered j exceptionFilter)
      (items : AlteredItems TargetConfig.Altered b.simpleTargets js simpleTargets)
      (leftOut : String → Bool)
      (h : AlteredFields (setField "exceptionFilter" j
        (setField "simpleTargets" (.array js) b.toJson.fields)) leftOut fields) :
      Altered b (.object fields) ({ b with exceptionFilter, simpleTargets }.without leftOut)

theorem BuiltInConfig.Altered.read?_eq {b b' : BuiltInConfig} {j : Json} (h : b.Altered j b') :
    read? j = some b' := by
  obtain ⟨filter, items, leftOut, h⟩ := h
  obtain ⟨r, hrecord, hfields⟩ := h.record?_eq outline.fieldNames rfl (by decide)
  rw [read?, hrecord]
  simp only [Option.bind_eq_bind, Option.bind_some]
  rw [defaulted_eq hfields rfl (bool?_bool b.enabled),
    defaulted_eq hfields rfl (bool?_bool b.jdbcEnabled),
    defaulted_eq hfields rfl (bool?_bool b.httpEnabled),
    defaulted_eq hfields rfl (bool?_bool b.cacheEnabled),
    defaulted_eq hfields rfl (bool?_bool b.executorDiscovery),
    defaulted_eq hfields rfl (int64?_ofInt b.sqlMaxQueryThresholdMs),
    defaulted_eq hfields rfl (int64?_ofInt b.cacheThresholdMs),
    defaulted_eq hfields rfl filter.read?_eq,
    defaulted_eq hfields rfl (items.list?_eq TargetConfig.read? fun _ _ _ => TargetConfig.Altered.read?_eq)]
  rfl

theorem BuiltInConfig.altered_toJson (b : BuiltInConfig) : b.Altered b.toJson b :=
  .edit b.exceptionFilter.altered_toJson (.refl TargetConfig.altered_toJson b.simpleTargets)
    (fun _ => false) (.refl _)

namespace AgentConfig

/-- The configuration with the documented default values in place of what is left out. Settings that are left out are
settings of which every field is left out. -/
def without (c : AgentConfig) (leftOut : String → Bool) : AgentConfig where
  debugMode := if leftOut "debugMode" then false else c.debugMode
  builtIn := if leftOut "builtIn" then c.builtIn.without fun _ => true else c.builtIn
  requestedTargets := if leftOut "requestedTargets" then [] else c.requestedTargets
  excludedPrefixes := if leftOut "excludedPrefixes" then [] else c.excludedPrefixes

/-- The documents that come from a written configuration by edits on every level, and what is to be read from them. -/
inductive Altered : AgentConfig → Json → AgentConfig → Prop
  | edit {c : AgentConfig} {builtIn : BuiltInConfig} {j : Json}
      {requestedTargets : List TargetConfig} {js : List Json} {fields : List (String × Json)}
      (settings : c.builtIn.Altered j builtIn)
      (items : AlteredItems TargetConfig.Altered c.requestedTargets js requestedTargets)
      (leftOut : String → Bool)
      (h : AlteredFields (setField "builtIn" j
        (setField "requestedTargets" (.array js) c.toJson.fields)) leftOut fields) :
      Altered c (.object fields) ({ c with builtIn, requestedTargets }.without leftOut)

theorem Altered.read?_eq {c c' : AgentConfig} {j : Json} (h : c.Altered j c') :
    read? j = some c' := by
  obtain ⟨settings, items, leftOut, h⟩ := h
  obtain ⟨r, hrecord, hfields⟩ := h.record?_eq outline.fieldNames rfl (by decide)
  rw [read?, hrecord]
  simp only [Option.bind_eq_bind, Option.bind_some]
  rw [defaulted_eq hfields rfl (bool?_bool c.debugMode),
    defaulted_eq hfields rfl settings.read?_eq,
    defaulted_eq hfields rfl (items.list?_eq TargetConfig.read? fun _ _ _ => TargetConfig.Altered.read?_eq),
    defaulted_eq hfields rfl (texts?_ofStrings c.excludedPrefixes)]
  rfl

/-- A configuration that nobody has edited. -/
theorem altered_toJson (c : AgentConfig) : c.Altered c.toJson c :=
  .edit c.builtIn.altered_toJson (.refl TargetConfig.altered_toJson c.requestedTargets)
    (fun _ => false) (.refl _)

/-- **What is read from a written configuration.** However a written configuration is edited, on any level, by leaving
out fields, adding unknown ones and changing their order, it is readable, and what is read is the configuration with
the documented default values in place of what was left out. If nobody edits it, the configuration itself is read. -/
theorem read?_written (c : AgentConfig) :
    (∀ j c', c.Altered j c' → read? j = some c') ∧ read? c.toJson = some c :=
  ⟨fun _ _ h => h.read?_eq, c.altered_toJson.read?_eq⟩

/-- A method that is written and edited below. -/
def editedMethod : MethodConfig := { name := "run", action := .wrapSubmittedTask 3, reportOnEntry := false }

/-- A rule that is written and edited below. -/
def editedTarget : TargetConfig := { name := "com/acme/Job", kind := .http, methods := [editedMethod] }

/-- A configuration that is written and edited below. -/
def editedConfig : AgentConfig where
  debugMode := true
  builtIn := { enabled := false, cacheThresholdMs := -5 }
  requestedTargets := [editedTarget]

/-- The written method without the report on entry and with a note. -/
def editedMethodJson : Json :=
  .object [("note", .null), ("name", .string "run"), ("signature", .string ""),
    ("action", .object [("type", .string "wrapSubmittedTask"), ("argument_index", .ofNat 3)]),
    ("reportCaughtExceptions", .bool false), ("minDurationThresholdNanos", .ofNat 0)]

/-- The written rule with the edited method and without its kind. -/
def editedTargetJson : Json :=
  .object [("name", .string "com/acme/Job"), ("pattern", .bool false),
    ("reportCaughtExceptions", .bool false), ("reportExecutionTime", .bool true),
    ("methods", .array [editedMethodJson])]

/-- The written configuration with the edited rule, without the settings and with a version. -/
def editedConfigJson : Json :=
  .object [("version", .ofNat 2), ("debugMode", .bool true),
    ("requestedTargets", .array [editedTargetJson]), ("excludedPrefixes", .array [])]

/-- What was left out has its default value, and what was added is not noticed. -/
theorem read?_written_edited :
    editedConfig.Altered editedConfigJson
        { debugMode := true
          requestedTargets :=
            [{ name := "com/acme/Job"
               methods := [{ name := "run", action := .wrapSubmittedTask 3 }] }] } ∧
      read? editedConfigJson = some
        { debugMode := true
          requestedTargets :=
            [{ name := "com/acme/Job"
               methods := [{ name := "run", action := .wrapSubmittedTask 3 }] }] } := by
  have hmethod : editedMethod.Altered editedMethodJson
      (editedMethod.without fun name => name == "reportOnEntry") :=
    .edit _ ⟨[("note", .null)], List.forall_mem_singleton.2 (by decide),
      (List.perm_append_singleton ..).symm⟩
  have htarget : editedTarget.Altered editedTargetJson
      ({ editedTarget with
        methods := [editedMethod.without fun name => name == "reportOnEntry"] }.without
          fun name => name == "kind") :=
    .edit (.cons hmethod .nil) _ ⟨[], List.forall_mem_nil _, .refl _⟩
  have hconfig : editedConfig.Altered editedConfigJson _ :=
    .edit editedConfig.builtIn.altered_toJson (.cons htarget .nil) (fun name => name == "builtIn")
      ⟨[("version", .ofNat 2)], List.forall_mem_singleton.2 (by decide),
        (List.perm_append_singleton ..).symm⟩
  exact ⟨hconfig, (read?_written editedConfig).1 _ _ hconfig⟩

end AgentConfig

end Instrumentation
