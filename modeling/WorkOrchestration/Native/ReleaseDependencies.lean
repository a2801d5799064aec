import WorkOrchestration.Native.TransactionPlanFacts
import WorkOrchestration.Native.TransactionReadiness

/-!
# Release dependencies and packet bindings

What normalisation accepts and returns, item by item. Stored times read back as the times they were
written for, up to their milliseconds, so a stored list is normal already.
-/

namespace WorkOrchestration.Native.ReleaseDependencies

open Lib.Results (bind_eq_ok forM_eq_ok)
open List Lib.Calendar Lib.Sorting Lib.Text Artifacts TransactionPlans
open TransactionPlanFacts TransactionReadiness

variable {surroundings : Surroundings}

/-- The instant with what is below its last millisecond dropped. -/
def stored (instant : Int) : Int := truncated instant.toNat

def InCalendar (instant : Int) : Prop := 0 ≤ instant ∧ instant < limit

theorem stored_eq {instant : Int} (nonnegative : 0 ≤ instant) :
    stored instant = instant / 1000 * 1000 := by
  unfold stored truncated
  omega

theorem inCalendar_stored {instant : Int} (inCalendar : InCalendar instant) :
    InCalendar (stored instant) := by
  obtain ⟨nonnegative, before⟩ := inCalendar
  have dropped := stored_eq nonnegative
  exact ⟨by omega, by omega⟩

theorem stored_stored {instant : Int} (nonnegative : 0 ≤ instant) :
    stored (stored instant) = stored instant := by
  have first := stored_eq nonnegative
  have second := @stored_eq (stored instant) (by omega)
  omega

theorem stored_mono {earlier later : Int} (nonnegative : 0 ≤ earlier) (ordered : earlier ≤ later) :
    stored earlier ≤ stored later := by
  rw [stored_eq nonnegative, stored_eq (nonnegative.trans ordered)]
  omega

theorem stored_lt_iff {earlier later : Int} (first : 0 ≤ earlier) (second : 0 ≤ later) :
    stored earlier < stored later ↔ earlier / 1000 < later / 1000 := by
  rw [stored_eq first, stored_eq second]
  omega

theorem iso_stored (instant : Int) : iso (stored instant) = iso instant := by
  have same := isoStem_truncated instant.toNat
  unfold iso stored
  rw [Int.toNat_natCast, same]

theorem solid_iso (instant : Nat) :
    ∀ character ∈ isoStem instant ++ ['Z'], isSpace character = false := by
  intro character member
  rcases mem_append.mp member with stem | last
  · rcases mem_isoStem stem with number | mark
    · simp only [isSpace]
      simp only [Bool.or_eq_false_iff, Bool.and_eq_false_imp, decide_eq_true_eq, decide_eq_false_iff_not,
        beq_eq_false_iff_ne, ne_eq]
      omega
    · simp only [mem_cons, not_mem_nil, or_false] at mark
      rcases mark with rfl | rfl | rfl | rfl
      all_goals decide
  · rw [mem_singleton.mp last]
    decide

theorem expandZ_iso (instant : Nat) : expandZ (isoStem instant ++ ['Z']) = isoformat instant := by
  have kept : expandZ (isoStem instant) = isoStem instant := by
    have each : ∀ character ∈ isoStem instant,
        (if character = 'Z' then ['+', '0', '0', ':', '0', '0'] else [character]) = [character] := by
      intro character member
      refine if_neg ?_
      rintro rfl
      rcases mem_isoStem member with number | mark
      · exact absurd number.2 (by decide)
      · simp at mark
    rw [expandZ, flatMap_congr each, flatMap_singleton']
  rw [expandZ, flatMap_append]
  change expandZ (isoStem instant) ++ _ = _
  rw [kept]
  rfl

theorem readTime_iso {instant : Int} (inCalendar : InCalendar instant) (label : String) :
    readTime surroundings (iso instant) label = .ok (stored instant) := by
  obtain ⟨nonnegative, before⟩ := inCalendar
  have inRange : instant.toNat < limit := by omega
  have solid := solid_iso instant.toNat
  have text : strip (String.ofList (isoStem instant.toNat ++ ['Z'])) =
      String.ofList (isoStem instant.toNat ++ ['Z']) :=
    strip_of_solid (by rwa [String.toList_ofList])
  have visible : Nonempty (String.ofList (isoStem instant.toNat ++ ['Z'])) :=
    ⟨'Z', by simp, by decide⟩
  have read : nonempty (iso instant) label = .ok (String.ofList (isoStem instant.toNat ++ ['Z'])) :=
    nonempty_iff.mpr ⟨_, rfl, visible, text.symm⟩
  have parsed : fromIsoformat surroundings.others (isoformat instant.toNat) =
      .instant (truncated instant.toNat) := by
    rw [fromIsoformat, readIso_isoformat inRange]
  unfold readTime parseTime
  rw [read, bind_eq_ok]
  refine ⟨_, rfl, ?_⟩
  rw [String.toList_ofList, expandZ_iso, parsed]
  exact congrArg Except.ok rfl

theorem readTime_iff {value : Json} {label other : String} {instant : Int} :
    readTime surroundings value label = .ok instant ↔
      readTime surroundings value other = .ok instant := by
  have timeOf_iff : ∀ parsed, timeOf label parsed = .ok instant ↔ timeOf other parsed = .ok instant := by
    intro parsed
    cases parsed <;> simp [timeOf]
  unfold readTime parseTime
  rw [bind_eq_ok, bind_eq_ok]
  refine exists_congr fun text => and_congr ?_ (timeOf_iff _)
  rw [nonempty_iff, nonempty_iff]

theorem inCalendar_of_readTime {value : Json} {label : String} {instant : Int}
    (read : readTime surroundings value label = .ok instant) : InCalendar instant := by
  obtain ⟨text, _, parsed⟩ := bind_ok read
  unfold fromIsoformat at parsed
  split at parsed
  · rename_i time named
    cases parsed
    have bound : time < limit := readIso_lt named
    exact ⟨by omega, by exact_mod_cast bound⟩
  · split at parsed
    · cases parsed
    · cases parsed
    · cases parsed
    · rename_i moment _
      cases parsed
      have bound := moment.inRange
      exact ⟨by omega, by exact_mod_cast bound⟩

/-- What a dependency has to be for the children of a plan at a time. -/
structure Live (surroundings : Surroundings) (childIds : List String) (now : Int) (raw : Json) :
    Prop where
  exact : Exact dependencyFields raw
  childId : ∃ text, raw.value "child_id" = .str text ∧ Nonempty text ∧ strip text ∈ childIds
  kind : ∃ text, raw.value "kind" = .str text ∧ Nonempty text
  evidence : IsHash (raw.value "evidence_sha256")
  lifetime : ∃ issued expires, readTime surroundings (raw.value "issued_at") "" = .ok issued ∧
      readTime surroundings (raw.value "expires_at") "" = .ok expires ∧
        issued < expires ∧ issued ≤ now ∧ now ≤ expires

/-- The dependency with its times as they are stored. -/
def persisted (surroundings : Surroundings) (raw : Json) : Json :=
  match readTime surroundings (raw.value "issued_at") "",
      readTime surroundings (raw.value "expires_at") "" with
  | .ok issued, .ok expires => (raw.set "issued_at" (iso issued)).set "expires_at" (iso expires)
  | _, _ => raw

variable {childIds : List String} {raw : Json} {index : Nat}

theorem readIdentity_iff {identity : String × String} :
    readIdentity childIds index raw = .ok identity ↔ Exact dependencyFields raw ∧
        (∃ text, raw.value "child_id" = .str text ∧ Nonempty text ∧ strip text ∈ childIds) ∧
          (∃ text, raw.value "kind" = .str text ∧ Nonempty text) ∧ identity = identityOf raw := by
  simp only [readIdentity, bind_eq_ok, strict_iff, nonempty_iff, require_iff, contains_iff_mem]
  constructor
  · rintro ⟨_, exact, childId, ⟨text, named, visible, rfl⟩, kind, ⟨other, kindNamed, seen, rfl⟩, _,
      inPlan, done⟩
    cases done
    refine ⟨exact, ⟨text, named, visible, inPlan⟩, ⟨other, kindNamed, seen⟩, ?_⟩
    rw [identityOf, named, kindNamed]
    rfl
  · rintro ⟨exact, ⟨text, named, visible, inPlan⟩, ⟨other, kindNamed, seen⟩, rfl⟩
    refine ⟨(), exact, _, ⟨text, named, visible, rfl⟩, _, ⟨other, kindNamed, seen, rfl⟩, (), inPlan, ?_⟩
    rw [identityOf, named, kindNamed]
    rfl

variable {now : Int}

theorem readLifetime_iff {raw item : Json} :
    readLifetime surroundings now raw = .ok item ↔ IsHash (raw.value "evidence_sha256") ∧
        (∃ issued expires, readTime surroundings (raw.value "issued_at") "" = .ok issued ∧
            readTime surroundings (raw.value "expires_at") "" = .ok expires ∧
              issued < expires ∧ issued ≤ now ∧ now ≤ expires) ∧
          item = persisted surroundings raw := by
  simp only [readLifetime, bind_eq_ok, requireHash_iff, require_iff, Bool.and_eq_true,
    decide_eq_true_eq]
  constructor
  · rintro ⟨_, evidence, issued, readIssued, expires, readExpires, _, after, _, within, done⟩
    rw [@readTime_iff _ _ _ ""] at readIssued readExpires
    cases done
    refine ⟨evidence, ⟨issued, expires, readIssued, readExpires, after, within⟩, ?_⟩
    rw [persisted, readIssued, readExpires]
  · rintro ⟨evidence, ⟨issued, expires, readIssued, readExpires, after, within⟩, rfl⟩
    refine ⟨(), evidence, issued, readTime_iff.mp readIssued, expires, readTime_iff.mp readExpires, (),
      after, (), within, ?_⟩
    rw [persisted, readIssued, readExpires]
    rfl

/-- The loop accepts live dependencies with different identities, in any order. -/
theorem readDependencies_iff
    {dependencies items : List Json} {identities after : List (String × String)} :
    readDependencies surroundings childIds now index dependencies identities = .ok (items, after) ↔
      (∀ raw ∈ dependencies, Live surroundings childIds now raw) ∧
        (dependencies.map identityOf).Nodup ∧ (∀ raw ∈ dependencies, identityOf raw ∉ identities) ∧
            items = dependencies.map (persisted surroundings) ∧
              after = (dependencies.map identityOf).reverse ++ identities := by
  induction dependencies generalizing index items identities after with
  | nil =>
    simp only [readDependencies, Except.ok.injEq, Prod.mk.injEq, not_mem_nil, false_imp_iff,
      implies_true, map_nil, nodup_nil, reverse_nil, nil_append, true_and]
    exact and_congr eq_comm eq_comm
  | cons raw rest ih =>
    simp only [readDependencies, bind_eq_ok, readIdentity_iff, readLifetime_iff, require_iff,
      Prod.exists, ih, Bool.not_eq_true', contains_eq_mem, decide_eq_false_iff_not]
    constructor
    · rintro ⟨child, kind, ⟨exact, childId, kindNamed, same⟩, _, fresh, item, ⟨evidence, lifetime, rfl⟩,
        later, others, ⟨live, distinct, apart, rfl, rfl⟩, done⟩
      cases done
      rw [same] at fresh apart ⊢
      refine ⟨?_, ?_, ?_, rfl, ?_⟩
      · rw [forall_mem_cons]
        exact ⟨⟨exact, childId, kindNamed, evidence, lifetime⟩, live⟩
      · rw [map_cons, nodup_cons]
        refine ⟨fun repeated => ?_, distinct⟩
        obtain ⟨other, inRest, named⟩ := mem_map.mp repeated
        exact apart other inRest (named ▸ mem_cons_self)
      · rw [forall_mem_cons]
        exact ⟨fresh, fun other inRest taken => apart other inRest (mem_cons_of_mem _ taken)⟩
      · simp
    · rintro ⟨live, distinct, apart, rfl, rfl⟩
      rw [forall_mem_cons] at live apart
      rw [map_cons, nodup_cons] at distinct
      obtain ⟨first, liveRest⟩ := live
      refine ⟨_, _, ⟨first.exact, first.childId, first.kind, rfl⟩, (), apart.1, _,
        ⟨first.evidence, first.lifetime, rfl⟩, _, _, ⟨liveRest, distinct.2, ?_, rfl, rfl⟩, ?_⟩
      · intro other inRest taken
        rcases mem_cons.mp taken with same | earlier
        · exact distinct.1 (mem_map.mpr ⟨other, inRest, same⟩)
        · exact apart.2 other inRest earlier
      · simp [pure, Except.pure, identityOf]

theorem sameSet_iff {α : Type} [DecidableEq α] {left right : List α} :
    sameSet left right = true ↔ ∀ item, item ∈ left ↔ item ∈ right := by
  simp only [sameSet, Bool.and_eq_true, all_eq_true, contains_iff_mem]
  constructor
  · rintro ⟨forward, backward⟩ item
    exact ⟨forward item, backward item⟩
  · intro same
    exact ⟨fun item => (same item).mp, fun item => (same item).mpr⟩

def operativeOf (items : List Json) : List Json :=
  items.filter fun item => item.value "kind" == .str "operative-release"

/-- What a list of dependencies has to be for a plan at a time. -/
structure Releases (surroundings : Surroundings) (plan : Json) (now : Int)
    (dependencies : List Json) : Prop where
  live : ∀ raw ∈ dependencies, Live surroundings (childIdsOf plan) now raw
  distinct : (dependencies.map identityOf).Nodup
  covered : ∀ childId, childId ∈ dependencies.map (fun raw => (identityOf raw).1) ↔
    childId ∈ childIdsOf plan
  operative : ∀ childId,
    childId ∈ (operativeOf (dependencies.map (persisted surroundings))).map (Json.value "child_id") ↔
      childId ∈ (childIdsOf plan).map .str

variable {plan : Json}

theorem normalizeDependencies_iff {dependencies result : List Json} :
    normalizeDependencies surroundings plan dependencies now = .ok result ↔
      Releases surroundings plan now dependencies ∧
        result = sortDependencies (dependencies.map (persisted surroundings)) := by
  simp only [normalizeDependencies, bind_eq_ok, Prod.exists, readDependencies_iff, require_iff,
    sameSet_iff]
  constructor
  · rintro ⟨items, identities, ⟨live, distinct, _, rfl, rfl⟩, _, covered, _, operative, done⟩
    cases done
    refine ⟨⟨live, distinct, fun childId => ?_, operative⟩, rfl⟩
    rw [← covered childId]
    simp
  · rintro ⟨releases, rfl⟩
    refine ⟨_, _, ⟨releases.live, releases.distinct, by simp, rfl, rfl⟩, (), fun childId => ?_, (),
      releases.operative, rfl⟩
    rw [← releases.covered childId]
    simp

theorem set_of_get? {key : String} {value document : Json} (found : document.get? key = some value) :
    document.set key value = document := by
  induction document with
  | field name old rest _ ih =>
    unfold Json.get? at found
    unfold Json.set
    split at found
    · rename_i same
      cases found
      rw [if_pos same]
    · rename_i other
      rw [if_neg other, ih found]
  | _ => cases found

theorem exact_set {fields : List String} {document : Json} (exact : Exact fields document)
    {key : String} (named : key ∈ fields) (value : Json) : Exact fields (document.set key value) := by
  have present : key ∈ document.keys := (exact.keys key).mpr named
  have whole := exact.dictionary
  rw [isDictionary, Bool.and_eq_true] at whole
  refine ⟨?_, ?_⟩
  · rw [isDictionary, Bool.and_eq_true, Json.keys_set present]
    exact ⟨Json.isDict_set whole.1 _ _, whole.2⟩
  · rw [Json.keys_set present]
    exact exact.keys

/-- What is known of the stored form of a dependency whose times have been read. -/
structure StoredForm (surroundings : Surroundings) (raw : Json) (issued expires : Int) : Prop where
  issuedAt : readTime surroundings (raw.value "issued_at") "" = .ok issued
  expiresAt : readTime surroundings (raw.value "expires_at") "" = .ok expires
  storedIssued : (persisted surroundings raw).value "issued_at" = iso issued
  storedExpires : (persisted surroundings raw).value "expires_at" = iso expires
  others : ∀ key, key ≠ "issued_at" → key ≠ "expires_at" →
    (persisted surroundings raw).value key = raw.value key

theorem storedForm_of_read {issued expires : Int}
    (readIssued : readTime surroundings (raw.value "issued_at") "" = .ok issued)
    (readExpires : readTime surroundings (raw.value "expires_at") "" = .ok expires) :
    StoredForm surroundings raw issued expires := by
  have form : persisted surroundings raw =
      (raw.set "issued_at" (iso issued)).set "expires_at" (iso expires) := by
    rw [persisted, readIssued, readExpires]
  refine ⟨readIssued, readExpires, ?_, ?_, ?_⟩
  · rw [form, Json.value_set_of_ne (by decide), Json.value_set_same]
  · rw [form, Json.value_set_same]
  · intro key notIssued notExpires
    rw [form, Json.value_set_of_ne (Ne.symm notExpires), Json.value_set_of_ne (Ne.symm notIssued)]

theorem Live.storedForm (live : Live surroundings childIds now raw) :
    ∃ issued expires, StoredForm surroundings raw issued expires ∧
      issued < expires ∧ issued ≤ now ∧ now ≤ expires := by
  obtain ⟨issued, expires, readIssued, readExpires, bounds⟩ := live.lifetime
  exact ⟨issued, expires, storedForm_of_read readIssued readExpires, bounds⟩

namespace StoredForm

variable {raw : Json} {issued expires : Int}

variable (form : StoredForm surroundings raw issued expires)

include form in
theorem inCalendar :
    InCalendar issued ∧ InCalendar expires :=
  ⟨inCalendar_of_readTime form.issuedAt, inCalendar_of_readTime form.expiresAt⟩

include form in
theorem reread :
    readTime surroundings ((persisted surroundings raw).value "issued_at") "" = .ok (stored issued) ∧
      readTime surroundings ((persisted surroundings raw).value "expires_at") "" =
        .ok (stored expires) := by
  rw [form.storedIssued, form.storedExpires]
  exact ⟨readTime_iso form.inCalendar.1 "", readTime_iso form.inCalendar.2 ""⟩

include form in
theorem identity :
    identityOf (persisted surroundings raw) = identityOf raw := by
  rw [identityOf, form.others "child_id" (by decide) (by decide),
    form.others "kind" (by decide) (by decide), identityOf]

include form in
/-- Storing a stored dependency changes nothing. -/
theorem persisted_persisted :
    persisted surroundings (persisted surroundings raw) = persisted surroundings raw := by
  obtain ⟨issuedAgain, expiresAgain⟩ := form.reread
  have present : ∀ key, (persisted surroundings raw).value key ≠ .null →
      (persisted surroundings raw).get? key = some ((persisted surroundings raw).value key) := by
    intro key valued
    cases found : (persisted surroundings raw).get? key with
    | none => exact absurd (by rw [Json.value, found]; rfl) valued
    | some value => rw [Json.value, found]; rfl
  have issuedField : (persisted surroundings raw).get? "issued_at" = some (iso issued) := by
    rw [present "issued_at" (by rw [form.storedIssued]; exact Json.noConfusion), form.storedIssued]
  have expiresField : (persisted surroundings raw).get? "expires_at" = some (iso expires) := by
    rw [present "expires_at" (by rw [form.storedExpires]; exact Json.noConfusion), form.storedExpires]
  rw [persisted, issuedAgain, expiresAgain]
  simp only [iso_stored]
  rw [set_of_get? issuedField, set_of_get? expiresField]

end StoredForm

theorem Live.exact_persisted (live : Live surroundings childIds now raw) :
    Exact dependencyFields (persisted surroundings raw) := by
  obtain ⟨issued, expires, form, _⟩ := live.storedForm
  rw [persisted, form.issuedAt, form.expiresAt]
  exact exact_set (exact_set live.exact (by decide) _) (by decide) _

/-- A dependency is issued and expires in different milliseconds. -/
def Spaced (surroundings : Surroundings) (raw : Json) : Prop :=
  ∀ issued expires, readTime surroundings (raw.value "issued_at") "" = .ok issued →
    readTime surroundings (raw.value "expires_at") "" = .ok expires → issued / 1000 < expires / 1000

/-- A live dependency is live as it is stored exactly when its times are in different milliseconds. -/
theorem Live.live_persisted_iff
    (nonnegative : 0 ≤ now) (live : Live surroundings childIds now raw) :
    Live surroundings childIds (stored now) (persisted surroundings raw) ↔
      Spaced surroundings raw := by
  obtain ⟨issued, expires, form, _, begun, running⟩ := live.storedForm
  obtain ⟨⟨issuedBound, _⟩, ⟨expiresBound, _⟩⟩ := form.inCalendar
  obtain ⟨issuedAgain, expiresAgain⟩ := form.reread
  constructor
  · intro again first last readFirst readLast
    obtain ⟨one, other, readOne, readOther, ordered, _⟩ := again.lifetime
    rw [issuedAgain] at readOne
    rw [expiresAgain] at readOther
    rw [form.issuedAt] at readFirst
    rw [form.expiresAt] at readLast
    cases readOne
    cases readOther
    cases readFirst
    cases readLast
    exact (stored_lt_iff issuedBound expiresBound).mp ordered
  · intro spaced
    have ordered := (stored_lt_iff issuedBound expiresBound).mpr
      (spaced issued expires form.issuedAt form.expiresAt)
    refine ⟨live.exact_persisted, ?_, ?_, ?_, ?_⟩
    · rw [form.others "child_id" (by decide) (by decide)]
      exact live.childId
    · rw [form.others "kind" (by decide) (by decide)]
      exact live.kind
    · rw [form.others "evidence_sha256" (by decide) (by decide)]
      exact live.evidence
    · exact ⟨stored issued, stored expires, issuedAgain, expiresAgain, ordered,
        stored_mono issuedBound begun, stored_mono nonnegative running⟩

namespace Releases

variable {plan : Json} {now : Int} {dependencies others : List Json}

variable (releases : Releases surroundings plan now dependencies)

include releases in
theorem identity_persisted :
    ∀ raw ∈ dependencies, identityOf (persisted surroundings raw) = identityOf raw := by
  intro raw member
  obtain ⟨issued, expires, form, _⟩ := (releases.live raw member).storedForm
  exact form.identity

include releases in
theorem persisted_persisted :
    (dependencies.map (persisted surroundings)).map (persisted surroundings) =
      dependencies.map (persisted surroundings) := by
  rw [map_map]
  refine map_congr_left fun raw member => ?_
  obtain ⟨issued, expires, form, _⟩ := (releases.live raw member).storedForm
  exact form.persisted_persisted

include releases in
theorem perm
    (same : dependencies.Perm others) : Releases surroundings plan now others := by
  refine ⟨fun raw member => releases.live raw (same.mem_iff.mpr member),
    (same.map identityOf).nodup_iff.mp releases.distinct, fun childId => ?_, fun childId => ?_⟩
  · rw [← releases.covered childId]
    exact (same.map _).symm.mem_iff
  · rw [← releases.operative childId]
    exact (((same.map _).filter _).map _).symm.mem_iff

include releases in
/-- No two stored dependencies have one key, as no two have one identity. -/
theorem sort_congr
    (same : dependencies.Perm others) :
    sortDependencies (dependencies.map (persisted surroundings)) =
      sortDependencies (others.map (persisted surroundings)) := by
  refine sortByKey_congr dependencyKey (same.map _) ?_
  intro first inFirst second inSecond sameKey
  obtain ⟨raw, member, rfl⟩ := mem_map.mp inFirst
  obtain ⟨other, inOthers, rfl⟩ := mem_map.mp inSecond
  have sameIdentity : identityOf (persisted surroundings raw) =
      identityOf (persisted surroundings other) := by
    have names := congrArg (fun key => (ofLex (ofLex key).2)) sameKey
    have child : textOf ((persisted surroundings raw).value "child_id") =
        textOf ((persisted surroundings other).value "child_id") := congrArg Prod.fst names
    have kind : textOf ((persisted surroundings raw).value "kind") =
        textOf ((persisted surroundings other).value "kind") := congrArg Prod.snd names
    rw [identityOf, identityOf, child, kind]
  rw [releases.identity_persisted raw member, releases.identity_persisted other inOthers]
    at sameIdentity
  rw [inj_on_of_nodup_map releases.distinct member inOthers sameIdentity]

/-- A stored list is normal, at the stored time, exactly when its dependencies are spaced. -/
theorem stored_iff (nonnegative : 0 ≤ now) (releases : Releases surroundings plan now dependencies) :
    Releases surroundings plan (stored now)
        (sortDependencies (dependencies.map (persisted surroundings))) ↔
      ∀ raw ∈ dependencies, Spaced surroundings raw := by
  have sorted := sortByKey_perm dependencyKey (dependencies.map (persisted surroundings))
  constructor
  · intro again raw member
    have live := again.live (persisted surroundings raw)
      (sorted.mem_iff.mpr (mem_map_of_mem member))
    exact ((releases.live raw member).live_persisted_iff nonnegative).mp live
  · intro spaced
    have whole : Releases surroundings plan (stored now)
        (dependencies.map (persisted surroundings)) := by
      have identities : (dependencies.map (persisted surroundings)).map identityOf =
          dependencies.map identityOf := by
        rw [map_map]
        exact map_congr_left releases.identity_persisted
      refine ⟨fun item member => ?_, identities ▸ releases.distinct, fun childId => ?_, ?_⟩
      · obtain ⟨raw, inDependencies, rfl⟩ := mem_map.mp member
        exact ((releases.live raw inDependencies).live_persisted_iff nonnegative).mpr
          (spaced raw inDependencies)
      · have children : (dependencies.map (persisted surroundings)).map (fun raw => (identityOf raw).1) =
            dependencies.map fun raw => (identityOf raw).1 := by
          have firsts := congrArg (List.map Prod.fst) identities
          simp only [map_map] at firsts ⊢
          exact firsts
        rw [children]
        exact releases.covered childId
      · rw [releases.persisted_persisted]
        exact releases.operative
    exact whole.perm sorted.symm

theorem normalize_stored (nonnegative : 0 ≤ now)
    (releases : Releases surroundings plan now dependencies)
    (spaced : ∀ raw ∈ dependencies, Spaced surroundings raw) :
    normalizeDependencies surroundings plan
        (sortDependencies (dependencies.map (persisted surroundings))) (stored now) =
      .ok (sortDependencies (dependencies.map (persisted surroundings))) := by
  have again := (releases.stored_iff nonnegative).mpr spaced
  refine normalizeDependencies_iff.mpr ⟨again, ?_⟩
  have sorted := sortByKey_perm dependencyKey (dependencies.map (persisted surroundings))
  have resorted := again.sort_congr sorted
  rw [releases.persisted_persisted] at resorted
  exact resorted.symm

end Releases

structure Bound (plan raw : Json) : Prop where
  exact : Exact packetBindingFields raw
  childId : ∃ text, raw.value "child_id" = .str text ∧ Nonempty text
  hashes : ∀ field ∈ ["packet_sha256", "precommit_receipt_sha256", "work_plan_sha256"],
    IsHash (raw.value field)
  workPlan : ((childOf? plan (strip (textOf (raw.value "child_id")))).any fun child =>
    raw.value "work_plan_sha256" == child.value "work_plan_sha256") = true

/-- The child that a binding is about, as it is compared. -/
def boundChild (raw : Json) : String := strip (textOf (raw.value "child_id"))

theorem readBinding_iff {plan raw : Json} {seen : List String} {childId : String} :
    readBinding plan index raw seen = .ok childId ↔
      Bound plan raw ∧ boundChild raw ∉ seen ∧ childId = boundChild raw := by
  simp only [readBinding, bind_eq_ok, strict_iff, nonempty_iff, require_iff, forM_eq_ok,
    requireHash_iff, Bool.and_eq_true, Bool.not_eq_true', contains_eq_mem,
    decide_eq_false_iff_not]
  constructor
  · rintro ⟨_, exact, _, ⟨text, named, visible, rfl⟩, _, ⟨_, fresh⟩, _, hashes, _, workPlan, done⟩
    cases done
    have child : boundChild raw = strip text := by rw [boundChild, named]; rfl
    refine ⟨⟨exact, ⟨text, named, visible⟩, hashes, ?_⟩, child ▸ fresh, child.symm⟩
    rw [show strip (textOf (raw.value "child_id")) = strip text from child]
    exact workPlan
  · rintro ⟨⟨exact, ⟨text, named, visible⟩, hashes, workPlan⟩, fresh, rfl⟩
    have child : boundChild raw = strip text := by rw [boundChild, named]; rfl
    rw [show strip (textOf (raw.value "child_id")) = strip text from child] at workPlan
    refine ⟨(), exact, _, ⟨text, named, visible, rfl⟩, (), ⟨?_, child ▸ fresh⟩, (), hashes, (), workPlan,
      ?_⟩
    · obtain ⟨found, present, _⟩ := (Option.any_eq_true _ _).mp workPlan
      rw [present]
      rfl
    · rw [child]
      rfl

theorem readBindings_iff {bindings : List Json} {seen after : List String} :
    readBindings plan index bindings seen = .ok after ↔
      (∀ raw ∈ bindings, Bound plan raw) ∧ (bindings.map boundChild).Nodup ∧
        (∀ raw ∈ bindings, boundChild raw ∉ seen) ∧
          after = (bindings.map boundChild).reverse ++ seen := by
  induction bindings generalizing index seen with
  | nil =>
    simp only [readBindings, Except.ok.injEq, not_mem_nil, false_imp_iff, implies_true,
      map_nil, nodup_nil, reverse_nil, nil_append, true_and]
    exact eq_comm
  | cons raw rest ih =>
    simp only [readBindings, bind_eq_ok, readBinding_iff, ih]
    constructor
    · rintro ⟨_, ⟨first, fresh, rfl⟩, bound, distinct, apart, rfl⟩
      refine ⟨?_, ?_, ?_, by simp⟩
      · rw [forall_mem_cons]
        exact ⟨first, bound⟩
      · rw [map_cons, nodup_cons]
        refine ⟨fun repeated => ?_, distinct⟩
        obtain ⟨other, inRest, named⟩ := mem_map.mp repeated
        exact apart other inRest (named ▸ mem_cons_self)
      · rw [forall_mem_cons]
        exact ⟨fresh, fun other inRest taken => apart other inRest (mem_cons_of_mem _ taken)⟩
    · rintro ⟨bound, distinct, apart, rfl⟩
      rw [forall_mem_cons] at bound apart
      rw [map_cons, nodup_cons] at distinct
      refine ⟨_, ⟨bound.1, apart.1, rfl⟩, bound.2, distinct.2, ?_, by simp⟩
      intro other inRest taken
      rcases mem_cons.mp taken with same | earlier
      · exact distinct.1 (mem_map.mpr ⟨other, inRest, same⟩)
      · exact apart.2 other inRest earlier

structure Bindings (plan : Json) (bindings : List Json) : Prop where
  bound : ∀ raw ∈ bindings, Bound plan raw
  distinct : (bindings.map boundChild).Nodup
  covered : ∀ childId, childId ∈ bindings.map boundChild ↔ childId ∈ childIdsOf plan

theorem normalizePacketBindings_iff {bindings result : List Json} :
    normalizePacketBindings plan bindings = .ok result ↔
      Bindings plan bindings ∧ result = sortBindings bindings := by
  simp only [normalizePacketBindings, bind_eq_ok, readBindings_iff, require_iff, sameSet_iff]
  constructor
  · rintro ⟨_, ⟨bound, distinct, _, rfl⟩, _, covered, done⟩
    cases done
    refine ⟨⟨bound, distinct, fun childId => ?_⟩, rfl⟩
    rw [← covered childId]
    simp
  · rintro ⟨normal, rfl⟩
    refine ⟨_, ⟨normal.bound, normal.distinct, by simp, rfl⟩, (), fun childId => ?_, rfl⟩
    rw [← normal.covered childId]
    simp

namespace Bindings

variable {plan : Json} {bindings others : List Json}

theorem perm (normal : Bindings plan bindings) (same : bindings.Perm others) :
    Bindings plan others := by
  refine ⟨fun raw member => normal.bound raw (same.mem_iff.mpr member),
    (same.map boundChild).nodup_iff.mp normal.distinct, fun childId => ?_⟩
  rw [← normal.covered childId]
  exact (same.map _).symm.mem_iff

theorem sort_congr (normal : Bindings plan bindings) (same : bindings.Perm others) :
    sortBindings bindings = sortBindings others := by
  refine sortByKey_congr _ same fun first inFirst second inSecond sameKey => ?_
  have sameChild : boundChild first = boundChild second := by
    rw [boundChild, boundChild, sameKey]
  exact inj_on_of_nodup_map normal.distinct inFirst inSecond sameChild

theorem normalize_sorted (normal : Bindings plan bindings) :
    normalizePacketBindings plan (sortBindings bindings) = .ok (sortBindings bindings) := by
  have sorted := sortByKey_perm (fun binding => textOf (binding.value "child_id")) bindings
  refine normalizePacketBindings_iff.mpr ⟨normal.perm sorted.symm, ?_⟩
  exact (sortByKey_sortByKey _ bindings).symm

end Bindings

end WorkOrchestration.Native.ReleaseDependencies
