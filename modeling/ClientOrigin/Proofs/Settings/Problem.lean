import ClientOrigin.Settings.Load
import ClientOrigin.Settings.Resolver

/-!
# What the problems of settings are

* **complete** — a problem is found exactly if its own field is at fault, whatever else is wrong
  (`mem_problems_iff`);
* **single** — the problems are in the order of the fields, each field at most once
  (`problems_fields`);
* **accepted** — settings that are read from a document have none (`problems_of_ofText`).
-/

namespace ClientOrigin

open Text

/-- The field that a problem is about. -/
def Problem.field : Problem → String
  | .invalidAddress field _ => field
  | .invalidHeaderName _ => "client_ip.forwarded_header"
  | .notPositive field => field

namespace Settings

/-- The fields that may have problems. -/
def checkedFields : List String :=
  ["listener.bind_address", "observability.metrics_address", "client_ip.forwarded_header",
    "rate_limit.requests_per_second", "rate_limit.burst_size", "timeouts.request_secs"]

/-- The field of a problem is switched on and has a value that it must not have. -/
def Faulty (s : Settings) : Problem → Prop
  | .invalidAddress field value =>
    (field = "listener.bind_address" ∧ value = s.listener.bindAddress ∨
      field = "observability.metrics_address" ∧ s.report.metricsEnabled = true ∧
        value = s.report.metricsAddress) ∧
    Endpoint.ofText? value = none
  | .invalidHeaderName value =>
    value = trim s.resolution.forwardedHeader ∧ value ≠ [] ∧ HeaderName.ofText? value = none
  | .notPositive field =>
    s.limit.enabled = true ∧
        (field = "rate_limit.requests_per_second" ∧ s.limit.requestsPerSecond = 0 ∨
          field = "rate_limit.burst_size" ∧ s.limit.burst = 0) ∨
      field = "timeouts.request_secs" ∧ s.timeouts.requestSecs = 0

section Parts

variable (s : Settings) (p : Problem)

theorem mem_addressProblems_iff (field : String) (value : Text) :
    p ∈ addressProblems field value ↔
      p = .invalidAddress field value ∧ Endpoint.ofText? value = none := by
  unfold addressProblems
  cases Endpoint.ofText? value <;> simp

theorem mem_positiveProblems_iff (field : String) (value : Nat) :
    p ∈ positiveProblems field value ↔ p = .notPositive field ∧ value = 0 := by
  unfold positiveProblems
  split
  · simp
    omega
  · simp
    omega

theorem mem_headerProblems_iff :
    p ∈ s.headerProblems ↔
      p = .invalidHeaderName (trim s.resolution.forwardedHeader) ∧
        trim s.resolution.forwardedHeader ≠ [] ∧
        HeaderName.ofText? (trim s.resolution.forwardedHeader) = none := by
  unfold headerProblems isHeaderSetting
  by_cases blank : trim s.resolution.forwardedHeader = []
  · simp [blank]
  · cases HeaderName.ofText? (trim s.resolution.forwardedHeader) <;> simp [blank]

/-- A problem is found exactly if its own field is at fault. -/
theorem mem_problems_iff : p ∈ s.problems ↔ s.Faulty p := by
  unfold problems listenerProblems metricsProblems limitProblems timeoutProblems
  simp only [List.mem_append, List.mem_ite_nil_right, mem_addressProblems_iff,
    mem_headerProblems_iff, mem_positiveProblems_iff]
  cases p with
  | invalidAddress field value =>
      simp only [Problem.invalidAddress.injEq, reduceCtorEq, false_and, and_false, or_false]
      constructor
      · rintro (⟨⟨rfl, rfl⟩, wrong⟩ | ⟨on, ⟨rfl, rfl⟩, wrong⟩)
        · exact ⟨.inl ⟨rfl, rfl⟩, wrong⟩
        · exact ⟨.inr ⟨rfl, on, rfl⟩, wrong⟩
      · rintro ⟨⟨rfl, rfl⟩ | ⟨rfl, on, rfl⟩, wrong⟩
        · exact .inl ⟨⟨rfl, rfl⟩, wrong⟩
        · exact .inr ⟨on, ⟨rfl, rfl⟩, wrong⟩
  | invalidHeaderName value =>
      simp only [Problem.invalidHeaderName.injEq, reduceCtorEq, false_and, and_false, or_false,
        false_or]
      refine and_congr_right fun same => ?_
      rw [same]
  | notPositive field =>
      simp only [Problem.notPositive.injEq, reduceCtorEq, false_and, and_false, false_or]
      simp only [Faulty, ← UInt32.toNat_inj, ← UInt64.toNat_inj, UInt32.toNat_zero,
        UInt64.toNat_zero]

/-- The problems are in the order of the fields, and no field has two. -/
theorem problems_fields : (s.problems.map Problem.field).Sublist checkedFields := by
  -- every check finds its own problem or none
  have single : ∀ (fine : Prop) [Decidable fine] (p : Problem),
      ((if fine then [] else [p]).map Problem.field).Sublist [p.field] := by
    intro fine _ p
    split
    · exact List.nil_sublist _
    · exact List.Sublist.refl _
  have metrics : (s.metricsProblems.map Problem.field).Sublist
      ["observability.metrics_address"] := by
    unfold metricsProblems
    split
    · exact single _ (.invalidAddress _ _)
    · exact List.nil_sublist _
  have limit : (s.limitProblems.map Problem.field).Sublist
      (["rate_limit.requests_per_second"] ++ ["rate_limit.burst_size"]) := by
    unfold limitProblems
    split
    · rw [List.map_append]
      exact (single _ (.notPositive _)).append (single _ (.notPositive _))
    · exact List.nil_sublist _
  unfold problems
  rw [List.map_append, List.map_append, List.map_append, List.map_append]
  exact ((((single _ (.invalidAddress _ _)).append metrics).append
    (single _ (.invalidHeaderName _))).append limit).append (single _ (.notPositive _))

theorem problems_nodup : (s.problems.map Problem.field).Nodup :=
  s.problems_fields.nodup (by decide)

end Parts

/-! ## Settings that have been read -/

theorem problems_of_ofText {text : Text} {s : Settings} (read : ofText text = .ok s) :
    s.problems = [] := by
  unfold ofText at read
  split at read
  · cases read
  · split at read
    · next none =>
        obtain rfl := Except.ok.inj read
        exact none
    · cases read

end Settings

end ClientOrigin
