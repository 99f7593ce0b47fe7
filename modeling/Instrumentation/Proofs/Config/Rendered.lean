import Instrumentation.Config.Load
import Instrumentation.Proofs.Config.Written
import Instrumentation.Proofs.Json.Piece

set_option autoImplicit false

/-!
# Configurations in files

A configuration is written into a file as a text, and the text is read piece by piece. From the pieces of a written text
the same is read as from its value, for every type of record (`AgentConfig.readsAlike_read?`). A written configuration
has integers of 64 bits only and is nested six levels deep (`AgentConfig.fits_toJson`), so that reading its text undoes
writing it (`AgentConfig.parse_render`).
-/

namespace Instrumentation

open Json

variable {level : Nat}

/-! ## Readers -/

theorem UnitKind.readsAlike_read? : ReadsAlike level UnitKind.read? UnitKind.read? := by
  intro v _
  rw [UnitKind.read?, UnitKind.read?, constant?_ofJson]

theorem HookAction.readsAlike_read? : ReadsAlike level HookAction.read? HookAction.read? := by
  intro v hv
  rw [HookAction.read?, HookAction.read?, tagged?_ofJson hv]

theorem ExceptionFilter.readsAlike_read? :
    ReadsAlike level ExceptionFilter.read? ExceptionFilter.read? := by
  refine record?_bind_ofJson fun r hr => ?_
  simp only [defaulted_ofJson hr readsAlike_bool, defaulted_ofJson hr readsAlike_uint64,
    defaulted_ofJson hr (readsAlike_list readsAlike_text)]

theorem MethodConfig.readsAlike_read? : ReadsAlike level MethodConfig.read? MethodConfig.read? := by
  refine record?_bind_ofJson fun r hr => ?_
  simp only [defaulted_ofJson hr readsAlike_bool, defaulted_ofJson hr readsAlike_text,
    defaulted_ofJson hr readsAlike_uint64, defaulted_ofJson hr HookAction.readsAlike_read?]

theorem TargetConfig.readsAlike_read? : ReadsAlike level TargetConfig.read? TargetConfig.read? := by
  refine record?_bind_ofJson fun r hr => ?_
  simp only [defaulted_ofJson hr readsAlike_bool, defaulted_ofJson hr readsAlike_text,
    defaulted_ofJson hr UnitKind.readsAlike_read?,
    defaulted_ofJson hr (readsAlike_list MethodConfig.readsAlike_read?)]

theorem BuiltInConfig.readsAlike_read? : ReadsAlike level BuiltInConfig.read? BuiltInConfig.read? := by
  refine record?_bind_ofJson fun r hr => ?_
  simp only [defaulted_ofJson hr readsAlike_bool, defaulted_ofJson hr readsAlike_int64,
    defaulted_ofJson hr ExceptionFilter.readsAlike_read?,
    defaulted_ofJson hr (readsAlike_list TargetConfig.readsAlike_read?)]

/-- A configuration is read from its text like from its value. -/
theorem AgentConfig.readsAlike_read? : ReadsAlike level AgentConfig.read? AgentConfig.read? := by
  refine record?_bind_ofJson fun r hr => ?_
  simp only [defaulted_ofJson hr readsAlike_bool, defaulted_ofJson hr BuiltInConfig.readsAlike_read?,
    defaulted_ofJson hr (readsAlike_list TargetConfig.readsAlike_read?),
    defaulted_ofJson hr (readsAlike_list readsAlike_text)]

/-! ## What is written -/

/-- Inside a number of brackets, a value can be written and read back. -/
structure Json.Fits (level : Nat) (v : Json) : Prop where
  exact : v.isExact = true
  nests : v.nestsFrom level = true

theorem Json.fits_bool (b : Bool) : Fits level (.bool b) := ⟨rfl, rfl⟩

theorem Json.fits_string (s : String) : Fits level (.string s) := ⟨rfl, rfl⟩

theorem Json.fits_ofNat (n : UInt64) : Fits level (.ofNat n.toNat) := by
  have hle : n.toNat ≤ maxUnsigned := Nat.le_pred_of_lt n.toNat_lt_size
  refine ⟨?_, rfl⟩
  rw [ofNat, ofInt, isExact, Number.isExact, Bool.and_eq_true, decide_eq_true_eq, decide_eq_true_eq]
  omega

theorem Json.fits_ofInt (i : Int64) : Fits level (.ofInt i.toInt) := by
  have hmin : -(maxNegated : Int) ≤ i.toInt := i.minValue_le_toInt
  have hmax : i.toInt ≤ (maxUnsigned : Int) := Int.le_trans i.toInt_le (by decide)
  refine ⟨?_, rfl⟩
  rw [ofInt, isExact, Number.isExact, Bool.and_eq_true, decide_eq_true_eq, decide_eq_true_eq]
  exact ⟨hmin, hmax⟩

theorem Json.fits_array {items : List Json} (hlevel : level < nestingLimit)
    (h : ∀ v ∈ items, Fits (level + 1) v) : Fits level (.array items) := by
  have hexact : itemsAreExact items = true := itemsAreExact_iff.2 fun v hv => (h v hv).exact
  have hnests : itemsNestFrom (level + 1) items = true := itemsNestFrom_iff.2 fun v hv => (h v hv).nests
  exact ⟨hexact, by rw [nestsFrom, decide_eq_true hlevel, hnests]; rfl⟩

theorem Json.fits_object {fields : List (String × Json)} (hlevel : level < nestingLimit)
    (h : ∀ f ∈ fields, Fits (level + 1) f.2) : Fits level (.object fields) := by
  have hexact : fieldsAreExact fields = true := fieldsAreExact_iff.2 fun f hf => (h f hf).exact
  have hnests : fieldsNestFrom (level + 1) fields = true :=
    fieldsNestFrom_iff.2 fun f hf => (h f hf).nests
  exact ⟨hexact, by rw [nestsFrom, decide_eq_true hlevel, hnests]; rfl⟩

theorem Json.fits_map {α : Type} {write : α → Json} (hlevel : level < nestingLimit)
    (h : ∀ a, Fits (level + 1) (write a)) (as : List α) : Fits level (.array (as.map write)) :=
  fits_array hlevel (List.forall_mem_map.2 fun a _ => h a)

theorem ExceptionFilter.fits_toJson (f : ExceptionFilter) (h : level + 2 ≤ nestingLimit) :
    Fits level f.toJson := by
  refine fits_object (by omega) ?_
  simp only [List.forall_mem_cons]
  exact ⟨fits_bool _, fits_map (by omega) fits_string _, fits_map (by omega) fits_string _,
    fits_ofNat _, List.forall_mem_nil _⟩

theorem HookAction.fits_toJson (a : HookAction) (h : level + 1 ≤ nestingLimit) : Fits level a.toJson := by
  cases a with
  | wrapSubmittedTask index =>
      refine fits_object (by omega) ?_
      simp only [List.forall_mem_cons]
      exact ⟨fits_string _, fits_ofNat _, List.forall_mem_nil _⟩
  | _ => exact fits_object (by omega) (List.forall_mem_singleton.2 (fits_string _))

theorem MethodConfig.fits_toJson (m : MethodConfig) (h : level + 2 ≤ nestingLimit) :
    Fits level m.toJson := by
  refine fits_object (by omega) ?_
  simp only [List.forall_mem_cons]
  exact ⟨fits_string _, fits_string _, m.action.fits_toJson (by omega), fits_bool _, fits_bool _,
    fits_ofNat _, List.forall_mem_nil _⟩

theorem TargetConfig.fits_toJson (t : TargetConfig) (h : level + 4 ≤ nestingLimit) :
    Fits level t.toJson := by
  refine fits_object (by omega) ?_
  simp only [List.forall_mem_cons]
  exact ⟨fits_string _, fits_bool _, fits_string _, fits_bool _, fits_bool _,
    fits_map (by omega) (fun m => m.fits_toJson (by omega)) _, List.forall_mem_nil _⟩

theorem BuiltInConfig.fits_toJson (b : BuiltInConfig) (h : level + 6 ≤ nestingLimit) :
    Fits level b.toJson := by
  refine fits_object (by omega) ?_
  simp only [List.forall_mem_cons]
  exact ⟨fits_bool _, fits_bool _, fits_bool _, fits_bool _, fits_bool _, fits_ofInt _, fits_ofInt _,
    b.exceptionFilter.fits_toJson (by omega),
    fits_map (by omega) (fun t => t.fits_toJson (by omega)) _, List.forall_mem_nil _⟩

theorem AgentConfig.fits_toJson (c : AgentConfig) (h : level + 7 ≤ nestingLimit) :
    Fits level c.toJson := by
  refine fits_object (by omega) ?_
  simp only [List.forall_mem_cons]
  exact ⟨fits_bool _, c.builtIn.fits_toJson (by omega),
    fits_map (by omega) (fun t => t.fits_toJson (by omega)) _, fits_map (by omega) fits_string _,
    List.forall_mem_nil _⟩

/-! ## Files -/

/-- **A configuration is read back from its text.** -/
theorem AgentConfig.parse_render (c : AgentConfig) : parse .json (c.render .json) = .ok c := by
  have hfits : Fits 0 c.toJson := c.fits_toJson (by decide)
  have hread : read? (Piece.ofJson 0 c.toJson) = some c :=
    (readsAlike_read? c.toJson hfits.nests).trans c.altered_toJson.read?_eq
  show ((Text.parse? c.toJson.pretty).bind fun t => read? (Piece.whole t)).elim _ _ = _
  rw [Text.parse?_pretty hfits.exact, Option.bind_some]
  show (read? (Piece.ofJson 0 c.toJson)).elim _ _ = _
  rw [hread]
  rfl

end Instrumentation
