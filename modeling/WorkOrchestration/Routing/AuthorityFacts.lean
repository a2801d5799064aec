import WorkOrchestration.Lib.Results
import WorkOrchestration.Routing.TaskSelectedRoute

/-!
# What a claim that was read says

What each of the readers leaves known about its argument, and that none of them raises anything that the
resolver does not catch.
-/

namespace WorkOrchestration.Routing.AuthorityFacts

open Lib.Results (bind_eq_ok forM_eq_ok)
open Native.Artifacts hiding canonicalSha256
open Native.Artifacts.Json (isOneOf)
open CurrentAuthority
open TaskSelectedFit hiding requireProvenance
open TaskSelectedRoute

variable {α β : Type} {clock : Clock} {value : Json}

variable {result : Unit}

theorem require_ok {condition : Bool} {message : String} :
    require condition message = .ok result ↔ condition = true := by
  unfold require
  cases condition
  · simp
  · simp

theorem exists_bind_ok {first : Except PyError α} {next : α → Except PyError β} :
    (∃ result, (first >>= next) = .ok result) ↔ ∃ value, first = .ok value ∧ ∃ result, next value = .ok result := by
  cases first with
  | error | ok => simp [bind, Except.bind]

@[simp]
theorem exists_pure_ok {result : α} : (∃ other, (pure result : Except PyError α) = .ok other) ↔ True :=
  iff_true_intro ⟨result, rfl⟩

@[simp]
theorem exists_ok {result : α} : (∃ other, (.ok result : Except PyError α) = .ok other) ↔ True :=
  iff_true_intro ⟨result, rfl⟩

theorem bind_unit_ok {first : Except PyError Unit} {next : Except PyError β} {result : β} :
    (first >>= fun _ => next) = .ok result ↔ first = .ok () ∧ next = .ok result := by
  cases first with
  | error | ok => simp [bind, Except.bind]

theorem bind_drop_ok {first : Except PyError α} {next : Except PyError β} {result : β} :
    (first >>= fun _ => next) = .ok result ↔ (∃ value, first = .ok value) ∧ next = .ok result := by
  cases first with
  | error | ok => simp [bind, Except.bind]

/-- Everything that is raised is caught. -/
def Tame (program : Except PyError α) : Prop := ∀ error, program = .error error → isCaught error = true

theorem tame_ok (result : α) : Tame (.ok result : Except PyError α) := by
  intro error raised
  cases raised

theorem tame_require (condition : Bool) (message : String) : Tame (require condition message) := by
  intro error raised
  unfold require at raised
  split at raised
  · cases raised
  · cases raised
    rfl

theorem Tame.bind {program : Except PyError α} {next : α → Except PyError β} (first : Tame program)
    (second : ∀ value, Tame (next value)) : Tame (program >>= next) := by
  intro error raised
  cases done : program with
  | error other =>
    rw [done] at raised
    cases raised
    exact first error done
  | ok value =>
    rw [done] at raised
    exact second value error raised

theorem tame_forM {items : List α} {check : α → Except PyError Unit} (each : ∀ item, Tame (check item)) :
    Tame (items.forM check) := by
  induction items with
  | nil => exact tame_ok _
  | cons item rest ih =>
    exact (each item).bind fun _ => ih

theorem tame_parseTime (clock : Clock) (label : String) (value : Json) :
    Tame (parseTime clock label value) := by
  intro error raised
  unfold parseTime at raised
  split at raised
  · split at raised
    · cases raised
      rfl
    · split at raised
      all_goals
        cases raised
        try rfl
  · cases raised
    rfl

theorem normalizeCurrentBudget_ok {budget result : Json} (read : normalizeCurrentBudget budget = .ok result) :
    result = budget := by
  unfold normalizeCurrentBudget at read
  split at read
  · exact (Except.ok.inj (bind_unit_ok.mp read).2).symm
  · exact (Except.ok.inj (bind_unit_ok.mp read).2).symm

structure ProvenanceRead (provenance : Json) : Prop where
  exact : provenance.hasExactly currentAuthorityProvenanceFields = true
  hashes : ∀ field ∈ currentAuthorityProvenanceFields, isSha256 (provenance.value field) = true

structure AttemptRead (attempt : Json) : Prop where
  exact : attempt.hasExactly currentAuthorityAttemptFields = true
  names : ∀ field ∈ ["attempt_id", "bead_id", "work_lineage_id"], nonblank (attempt.value field) = true
  ownership : isSha256 (attempt.value "ownership_sha256") = true
  segment : isBool (attempt.value "fresh_segment") = true

structure QualificationRead (clock : Clock) (model : String) (qualification : Json) : Prop where
  exact : qualification.hasExactly currentAuthorityQualificationFields = true
  model : qualification.value "model" = .str model
  issued : ∃ time, parseTime clock "current authority qualification origin_issued_at"
    (qualification.value "origin_issued_at") = .ok time
  expires : ∃ time, parseTime clock "current authority qualification origin_expires_at"
    (qualification.value "origin_expires_at") = .ok time
  hashes : ∀ field ∈ currentAuthorityQualificationHashes, isSha256 (qualification.value field) = true

/-- What the resolver relies on in a claim that was read. -/
structure AuthorityRead (clock : Clock) (authority : Json) : Prop where
  budget : ∃ budget, normalizeCurrentBudget ((authority.value "fit_inputs").value "aggregate_budget") = .ok budget
  provenance : ProvenanceRead (authority.value "provenance")
  attempt : AttemptRead (authority.value "attempt")
  qualifications : ∀ model ∈ taskSelectedPortfolio,
    (authority.value "qualifications").value model = .null ∨
      QualificationRead clock model ((authority.value "qualifications").value model)

theorem tame_normalizeCurrentBudget (budget : Json) : Tame (normalizeCurrentBudget budget) := by
  unfold normalizeCurrentBudget
  split
  · refine Tame.bind ?_ fun _ => tame_ok _
    repeat
      first
        | exact tame_require _ _
        | refine Tame.bind ?_ fun _ => ?_
        | exact tame_forM fun _ => tame_require _ _
  · refine Tame.bind ?_ fun _ => tame_ok _
    exact (tame_require _ _).bind fun _ => (tame_require _ _).bind fun _ => (tame_require _ _).bind fun _ =>
      tame_require _ _

theorem requireSha256_ok {label : String} :
    requireSha256 label value = .ok result ↔ isSha256 value = true := require_ok

theorem provenanceRead (read : requireProvenance value = .ok result) : ProvenanceRead value := by
  unfold requireProvenance at read
  simp only [bind_unit_ok, require_ok, forM_eq_ok, requireSha256_ok] at read
  exact ⟨read.1, read.2⟩

theorem attemptRead (read : requireAttempt value = .ok result) : AttemptRead value := by
  unfold requireAttempt at read
  simp only [bind_unit_ok, require_ok, forM_eq_ok, requireSha256_ok] at read
  exact ⟨read.1, read.2.1, read.2.2.1, read.2.2.2⟩

theorem qualificationRead {model : String}
    (read : requireQualification clock model value = .ok result) :
    value = .null ∨ QualificationRead clock model value := by
  unfold requireQualification at read
  by_cases absent : value = .null
  · exact .inl absent
  · rw [if_neg absent] at read
    simp only [bind_drop_ok, exists_const, require_ok, forM_eq_ok, requireSha256_ok, decide_eq_true_eq] at read
    exact .inr ⟨read.1, read.2.1, read.2.2.1, read.2.2.2.1, read.2.2.2.2⟩

theorem authorityRead {authority : Json} (read : normalizeCurrentAuthority clock value = .ok authority) :
    authority = value ∧ AuthorityRead clock value := by
  unfold normalizeCurrentAuthority at read
  simp only [bind_unit_ok] at read
  obtain ⟨-, -, inputs, provenance, attempt, -, -, -, qualifications, -, same⟩ := read
  refine ⟨(Except.ok.inj same).symm, ?_, provenanceRead provenance, attemptRead attempt, ?_⟩
  · unfold requireFitInputs at inputs
    simp only [bind_drop_ok] at inputs
    exact inputs.2.2.1
  · unfold requireQualifications at qualifications
    simp only [bind_unit_ok, forM_eq_ok] at qualifications
    exact fun model member => qualificationRead (qualifications.2 model member)

theorem tame_requireFitInputs (inputs : Json) : Tame (requireFitInputs inputs) := by
  refine (tame_require _ _).bind fun _ => (tame_forM fun _ => tame_require _ _).bind fun _ => ?_
  exact (tame_normalizeCurrentBudget _).bind fun _ => tame_ok _

theorem tame_requireAttempt (attempt : Json) : Tame (requireAttempt attempt) :=
  (tame_require _ _).bind fun _ => (tame_forM fun _ => tame_require _ _).bind fun _ =>
    (tame_require _ _).bind fun _ => tame_require _ _

theorem tame_requireQualification (clock : Clock) (model : String) (qualification : Json) :
    Tame (requireQualification clock model qualification) := by
  unfold requireQualification
  split
  · exact tame_ok _
  · refine (tame_require _ _).bind fun _ => (tame_require _ _).bind fun _ => ?_
    exact (tame_parseTime clock _ _).bind fun _ => (tame_parseTime clock _ _).bind fun _ =>
      tame_forM fun _ => tame_require _ _

theorem tame_requireEscalation (attempt escalation : Json) : Tame (requireEscalation attempt escalation) := by
  unfold requireEscalation
  split
  · exact tame_ok _
  · exact (tame_require _ _).bind fun _ => (tame_require _ _).bind fun _ => (tame_require _ _).bind fun _ =>
      (tame_require _ _).bind fun _ => tame_require _ _

theorem tame_normalizeCurrentAuthority (clock : Clock) (source : Json) :
    Tame (normalizeCurrentAuthority clock source) := by
  refine (tame_require _ _).bind fun _ => (tame_require _ _).bind fun _ => ?_
  refine (tame_requireFitInputs _).bind fun _ => ?_
  refine Tame.bind ((tame_require _ _).bind fun _ => tame_forM fun _ => tame_require _ _) fun _ => ?_
  refine (tame_requireAttempt _).bind fun _ => (tame_require _ _).bind fun _ => (tame_require _ _).bind fun _ => ?_
  refine Tame.bind ((tame_require _ _).bind fun _ => tame_forM fun _ => tame_require _ _) fun _ => ?_
  refine Tame.bind ((tame_require _ _).bind fun _ => tame_forM fun model =>
    tame_requireQualification clock model _) fun _ => ?_
  exact (tame_requireEscalation _ _).bind fun _ => tame_ok _

end WorkOrchestration.Routing.AuthorityFacts
